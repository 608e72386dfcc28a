import Vibemux.Compiler.Proofs.PathAuthorityProofs

/-!
# What the structure check accepts

A specification passes `validateStructure` exactly when it is `WellFormed`, which says the same of the
fields themselves and does not depend on the order of a list.
-/

namespace Vibemux

open Text List

variable {index : Nat} {name : String}

/-- A text field that passes `checkText`. -/
@[mk_iff]
structure TextOk (value : List Char) (maxBytes : Nat) : Prop where
  notBlank : trim value ≠ []
  bounded : byteLen value ≤ maxBytes
  noControl : value.any isControl = false

/-- What the structure check asks of a requirement, its identifier apart. -/
@[mk_iff]
structure Requirement.WellFormed (checkIds : List SpecIdentifier) (requirement : Requirement) :
    Prop where
  statement : TextOk requirement.statement maxStatementBytes
  literalCount : requirement.literals.length ≤ maxLiteralsPerRequirement
  literals : ∀ literal ∈ requirement.literals,
    literal ≠ [] ∧ byteLen literal ≤ maxLiteralBytes ∧ '\x00' ∉ literal
  hasCheck : requirement.acceptanceCheckIds ≠ []
  checksKnown : ∀ checkId ∈ requirement.acceptanceCheckIds, checkId ∈ checkIds
  spans : ∀ span ∈ requirement.sourceRefs, span.start < span.stop ∧ span.quoted ≠ []

/-- What the structure check asks of an acceptance check. -/
@[mk_iff]
structure AcceptanceCheck.WellFormed (check : AcceptanceCheck) : Prop where
  description : TextOk check.description maxShortTextBytes
  suite : (check.kind == .existingVerifierSuite) = check.verifierSuite.isSome

/-- The texts of a list pass their check. -/
@[mk_iff]
structure TextListOk (items : List (List Char)) : Prop where
  length : items.length ≤ maxListItems
  texts : ∀ item ∈ items, TextOk item maxShortTextBytes

/-- What the structure check asks of a specification. -/
@[mk_iff]
structure TaskSpec.WellFormed (spec : TaskSpec) : Prop where
  schemaVersion : spec.schemaVersion = taskSpecSchemaVersion
  contractVersion : spec.contractVersion ≠ 0
  baseCommit : isFullCommit spec.baseCommit = true
  objective : TextOk spec.objective maxObjectiveBytes
  hasRequirement : spec.requirements ≠ []
  requirementCount : spec.requirements.length ≤ maxRequirements
  checkIds : (spec.acceptanceChecks.map AcceptanceCheck.checkId).Nodup
  requirementIds : (spec.requirements.map Requirement.requirementId).Nodup
  requirements : ∀ requirement ∈ spec.requirements,
    requirement.WellFormed (spec.acceptanceChecks.map AcceptanceCheck.checkId)
  acceptanceChecks : ∀ check ∈ spec.acceptanceChecks, check.WellFormed
  assumptionIds : (spec.assumptions.map Assumption.assumptionId).Nodup
  assumptions : ∀ assumption ∈ spec.assumptions, TextOk assumption.statement maxShortTextBytes ∧
    TextOk assumption.rationale maxShortTextBytes
  nonGoals : TextListOk spec.nonGoals
  unresolvedQuestions : TextListOk spec.unresolvedQuestions
  ownedPathCount : spec.ownedPaths.length ≤ maxListItems
  readScopeCount : spec.readScopes.length ≤ maxListItems
  forbiddenPathCount : spec.forbiddenPaths.length ≤ maxListItems
  inputArtifactCount : spec.inputArtifacts.length ≤ maxListItems
  sharedContractCount : spec.sharedContractRefs.length ≤ maxListItems
  dependencyCount : spec.dependencies.length ≤ maxListItems
  acceptanceCheckCount : spec.acceptanceChecks.length ≤ maxListItems
  sourceExclusionCount : spec.sourceExclusions.length ≤ maxListItems
  hasOwnedPath : spec.role ≠ .reviewer → spec.ownedPaths ≠ []
  reviewerReads : spec.role = .reviewer → spec.ownedPaths = [] ∧
    ∀ tool ∈ spec.permittedTools, tool ≠ .editFiles ∧ tool ≠ .writeFiles
  ownedApart : ∀ owned ∈ spec.ownedPaths, ∀ path ∈ spec.forbiddenPaths,
    owned.overlaps path = false
  noSelfDependency : spec.taskKey ∉ spec.dependencies
  outputContract : spec.outputContract.checkpointReportRequired = true ∧
    spec.outputContract.changesWithinOwnedPaths = true
  completion : ∀ required ∈ [AcceptanceLevel.candidateArtifactCollected, .independentReviewPassed,
    .localVerifierPassed], spec.role ≠ .reviewer → required ∈ spec.requiredLevels
  messageBudget : spec.communicationPolicy.maxMessagesPerTurn ≤ maxMessagesPerTurn
  noSelfMessage : spec.taskKey ∉ spec.communicationPolicy.mayMessage
  bundleBudget : spec.contextPolicy.maxBundleBytes ≠ 0 ∧
    spec.contextPolicy.maxBundleBytes ≤ maxContextBundleBytes
  budget : (spec.resourceBudget.maxTurns ≠ 0 ∧ spec.resourceBudget.maxElapsedSeconds ≠ 0) ∧
    spec.resourceBudget.maxModelRequests ≠ 0

/-! ## The checks of one field -/

theorem checkText_eq_nil {field : String} {value : List Char} {maxBytes : Nat} :
    checkText field value maxBytes = [] ↔ TextOk value maxBytes := by
  simp only [checkText, violationIf_eq_nil, Bool.or_eq_false_iff, beq_eq_false_iff_ne,
    decide_eq_false_iff_not, not_lt, textOk_iff, and_assoc]

theorem lengthViolations_eq_nil {count : Nat} :
    lengthViolations name count = [] ↔ count ≤ maxListItems := by
  simp [lengthViolations, violationIf_eq_nil]

section Indexed

variable {α β : Type} {l : List α}

theorem eachIndexed_eq_nil {check : Nat → α → List SpecViolation} :
    eachIndexed check l = [] ↔ ∀ index a, l[index]? = some a → check index a = [] := by
  simp only [eachIndexed, flatten_eq_nil_iff, forall_mem_map, Prod.forall,
    mem_zipIdx_iff_getElem?]
  exact ⟨fun h index a hget => h a index hget, fun h a index hget => h index a hget⟩

/-- A check that does not look at the position. -/
theorem eachIndexed_eq_nil_iff_forall {check : Nat → α → List SpecViolation} {p : α → Prop}
    (hcheck : ∀ index a, check index a = [] ↔ p a) :
    eachIndexed check l = [] ↔ ∀ a ∈ l, p a := by
  simp only [eachIndexed_eq_nil, hcheck, mem_iff_getElem?]
  exact ⟨fun h a ⟨index, hget⟩ => h index a hget, fun h index a hget => h a ⟨index, hget⟩⟩

/-- No element repeats the key of an earlier one. -/
theorem repeatsEarlier_eq_false_iff [DecidableEq β] {key : α → β} :
    (∀ index a, l[index]? = some a → repeatsEarlier key l index a = false) ↔ (l.map key).Nodup := by
  rw [nodup_iff_getElem?_ne_getElem?]
  simp only [repeatsEarlier, contains_eq_mem, decide_eq_false_iff_not, mem_map, not_exists,
    not_and]
  constructor
  · intro h i j hij hj heq
    rw [length_map] at hj
    have hi : i < l.length := hij.trans hj
    rw [List.getElem?_map, List.getElem?_map, List.getElem?_eq_getElem hi,
      List.getElem?_eq_getElem hj] at heq
    refine h j l[j] (List.getElem?_eq_getElem hj) l[i] ?_ (Option.some.inj heq)
    exact mem_take_iff_getElem.2 ⟨i, by omega, rfl⟩
  · intro h index a hget b hb heq
    obtain ⟨i, hi, rfl⟩ := List.mem_take_iff_getElem.1 hb
    have hlength := (List.getElem?_eq_some_iff.1 hget).1
    refine h i index (by omega) (by simpa using hlength) ?_
    rw [List.getElem?_map, List.getElem?_map, hget, List.getElem?_eq_getElem (by omega)]
    exact congrArg some heq

end Indexed

/-! ## Requirements, checks and assumptions -/

variable {spec : TaskSpec}

theorem literalViolations_eq_nil {literals : List (List Char)} {field : Nat → String} :
    eachIndexed (fun index literal => violationIf (literal == [] ||
        decide (maxLiteralBytes < byteLen literal) || literal.contains '\x00')
      "task_spec_invalid_literal" (field index)) literals = [] ↔
      ∀ literal ∈ literals, literal ≠ [] ∧ byteLen literal ≤ maxLiteralBytes ∧ '\x00' ∉ literal := by
  refine eachIndexed_eq_nil_iff_forall fun index literal => ?_
  simp only [violationIf_eq_nil, Bool.or_eq_false_iff, beq_eq_false_iff_ne, decide_eq_false_iff_not,
    not_lt, contains_eq_mem, and_assoc]

theorem requirementViolations_eq_nil {requirement : Requirement} :
    requirementViolations spec index requirement = [] ↔
      repeatsEarlier Requirement.requirementId spec.requirements index requirement = false ∧
      requirement.WellFormed (spec.acceptanceChecks.map AcceptanceCheck.checkId) := by
  simp only [requirementViolations, append_eq_nil_iff, literalViolations_eq_nil]
  simp only [violationIf_eq_nil, checkText_eq_nil, flatMap_eq_nil_iff, decide_eq_false_iff_not, not_lt,
    beq_eq_false_iff_ne, Bool.not_eq_false', contains_eq_mem, decide_eq_true_eq,
    Bool.or_eq_false_iff, not_le, Requirement.wellFormed_iff, and_assoc]

theorem acceptanceCheckViolations_eq_nil {check : AcceptanceCheck} :
    acceptanceCheckViolations index check = [] ↔ check.WellFormed := by
  simp only [acceptanceCheckViolations, append_eq_nil_iff, violationIf_eq_nil, checkText_eq_nil,
    bne_eq_false_iff_eq, AcceptanceCheck.wellFormed_iff]

theorem textListViolations_eq_nil {items : List (List Char)} :
    textListViolations name items = [] ↔ TextListOk items := by
  rw [textListViolations, append_eq_nil_iff,
    eachIndexed_eq_nil_iff_forall (p := fun item => TextOk item maxShortTextBytes)
      fun _ _ => checkText_eq_nil]
  simp only [violationIf_eq_nil, decide_eq_false_iff_not, not_lt, textListOk_iff]

/-- A check that compares with the elements before it, and looks at nothing else of the position. -/
theorem eachIndexed_keyed_eq_nil {α β : Type} [DecidableEq β] {key : α → β} {l : List α}
    {check : Nat → α → List SpecViolation} {p : α → Prop}
    (hcheck : ∀ index a, check index a = [] ↔ repeatsEarlier key l index a = false ∧ p a) :
    eachIndexed check l = [] ↔ (l.map key).Nodup ∧ ∀ a ∈ l, p a := by
  rw [← repeatsEarlier_eq_false_iff]
  simp only [eachIndexed_eq_nil, hcheck, mem_iff_getElem?]
  exact ⟨fun h => ⟨fun index a hget => (h index a hget).1, fun a ⟨index, hget⟩ => (h index a hget).2⟩,
    fun h index a hget => ⟨h.1 index a hget, h.2 a ⟨index, hget⟩⟩⟩

theorem assumptionViolations_eq_nil {assumption : Assumption} :
    assumptionViolations spec index assumption = [] ↔
      repeatsEarlier Assumption.assumptionId spec.assumptions index assumption = false ∧
      TextOk assumption.statement maxShortTextBytes ∧
      TextOk assumption.rationale maxShortTextBytes := by
  simp only [assumptionViolations, append_eq_nil_iff, violationIf_eq_nil, checkText_eq_nil,
    and_assoc]

/-! ## The whole check -/

theorem eachRequirement_eq_nil :
    eachIndexed (requirementViolations spec) spec.requirements = [] ↔
      (spec.requirements.map Requirement.requirementId).Nodup ∧
      ∀ requirement ∈ spec.requirements,
        requirement.WellFormed (spec.acceptanceChecks.map AcceptanceCheck.checkId) :=
  eachIndexed_keyed_eq_nil fun _ _ => requirementViolations_eq_nil

theorem eachAssumption_eq_nil :
    eachIndexed (assumptionViolations spec) spec.assumptions = [] ↔
      (spec.assumptions.map Assumption.assumptionId).Nodup ∧
      ∀ assumption ∈ spec.assumptions, TextOk assumption.statement maxShortTextBytes ∧
        TextOk assumption.rationale maxShortTextBytes :=
  eachIndexed_keyed_eq_nil fun _ _ => assumptionViolations_eq_nil

theorem eachAcceptanceCheck_eq_nil :
    eachIndexed acceptanceCheckViolations spec.acceptanceChecks = [] ↔
      ∀ check ∈ spec.acceptanceChecks, check.WellFormed :=
  eachIndexed_eq_nil_iff_forall fun _ _ => acceptanceCheckViolations_eq_nil

theorem structureViolations_eq_nil : spec.structureViolations = [] ↔ spec.WellFormed := by
  unfold TaskSpec.structureViolations
  simp only [append_eq_nil_iff, violationIf_eq_nil, checkText_eq_nil, lengthViolations_eq_nil,
    textListViolations_eq_nil, flatMap_eq_nil_iff, eachRequirement_eq_nil,
    eachAssumption_eq_nil, eachAcceptanceCheck_eq_nil]
  simp only [bne_eq_false_iff_eq, beq_eq_false_iff_ne, Bool.not_eq_false', Bool.or_eq_false_iff,
    Bool.and_eq_false_imp, bne_iff_ne, beq_iff_eq, decide_eq_false_iff_not, not_lt, not_not,
    any_eq_false, Bool.not_eq_true, contains_eq_mem, decide_eq_true_eq, TaskSpec.wellFormed_iff,
    and_assoc]

theorem validateStructure_eq_ok {u : Unit} :
    spec.validateStructure = .ok u ↔ spec.WellFormed := by
  rw [TaskSpec.validateStructure, reportViolations_eq_ok, structureViolations_eq_nil]

end Vibemux
