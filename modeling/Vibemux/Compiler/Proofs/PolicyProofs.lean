import Vibemux.Compiler.Proofs.NormalFormProofs

/-!
# Intersection with the operator policy

`intersect` only narrows a specification, reports every change, and has nothing left to do on its own
result. It keeps the specification well formed up to the bound of the forbidden paths.
-/

namespace Vibemux

open SortDedup List Checked TaskSpec

variable {spec : TaskSpec} {policy : OperatorPolicy} {result : PolicyIntersection}
  {path : PathPattern} {forbidden protectedPaths acc : List PathPattern}

/-! ## What is refused -/

/-- What the policy asks of a specification. -/
structure OperatorPolicy.Admits (policy : OperatorPolicy) (spec : TaskSpec) : Prop where
  version : spec.policyVersion = policy.policyVersion
  within : ∀ owned ∈ spec.ownedPaths, ∃ root ∈ policy.writableRoots, owned.isWithin root = true
  apart : ∀ owned ∈ spec.ownedPaths, ∀ path ∈ policy.protectedPaths, owned.overlaps path = false
  suites : ∀ check ∈ spec.acceptanceChecks, (check.kind == .existingVerifierSuite &&
    check.verifierSuite.all (!policy.declaresSuite ·)) = false

theorem intersectionViolations_eq_nil :
    intersectionViolations spec policy = [] ↔ policy.Admits spec := by
  simp only [intersectionViolations, append_eq_nil_iff, flatMap_eq_nil_iff,
    violationIf_eq_nil, bne_eq_false_iff_eq, Bool.not_eq_false', any_eq_true, any_eq_false,
    Bool.not_eq_true]
  constructor
  · rintro ⟨⟨hversion, howned⟩, hsuites⟩
    exact ⟨hversion, fun owned h => (howned owned h).1, fun owned h => (howned owned h).2, hsuites⟩
  · intro h
    exact ⟨⟨h.version, fun owned howned => ⟨h.within owned howned, h.apart owned howned⟩⟩, h.suites⟩

/-- The normal form is admitted like the specification itself. -/
theorem OperatorPolicy.Admits.of_mem {other : TaskSpec} (h : policy.Admits spec)
    (hversion : other.policyVersion = spec.policyVersion)
    (howned : ∀ path ∈ other.ownedPaths, path ∈ spec.ownedPaths)
    (hchecks : ∀ check ∈ other.acceptanceChecks, check ∈ spec.acceptanceChecks) :
    policy.Admits other where
  version := hversion.trans h.version
  within owned hmem := h.within owned (howned owned hmem)
  apart owned hmem := h.apart owned (howned owned hmem)
  suites check hmem := h.suites check (hchecks check hmem)

/-! ## What is changed -/

/-- The protected paths that the specification does not forbid yet. -/
def addedPaths (forbidden protectedPaths : List PathPattern) : List PathPattern :=
  protectedPaths.foldl
    (fun acc path => if (forbidden ++ acc).contains path then acc else acc ++ [path]) []

/-- The specification under the policy, before it is normalized. -/
def narrowedSpec (spec : TaskSpec) (policy : OperatorPolicy) : TaskSpec :=
  { spec with
    permittedTools := spec.permittedTools.filter (policy.allowedTools.contains ·)
    resourceBudget := ⟨min spec.resourceBudget.maxTurns policy.budgetCaps.maxTurns,
      min spec.resourceBudget.maxRepairs policy.budgetCaps.maxRepairs,
      min spec.resourceBudget.maxElapsedSeconds policy.budgetCaps.maxElapsedSeconds,
      min spec.resourceBudget.maxModelRequests policy.budgetCaps.maxModelRequests⟩
    forbiddenPaths := spec.forbiddenPaths ++ addedPaths spec.forbiddenPaths policy.protectedPaths }

/-- The narrowing of one budget. -/
def cappedBudget (field : String) (value cap : Nat) : List Narrowing :=
  if cap < value then [.budgetCapped field] else []

/-- The narrowings of the four budgets. -/
def cappedBudgets (value cap : ResourceBudget) : List Narrowing :=
  cappedBudget "max_turns" value.maxTurns cap.maxTurns ++
    cappedBudget "max_repairs" value.maxRepairs cap.maxRepairs ++
    cappedBudget "max_model_requests" value.maxModelRequests cap.maxModelRequests ++
    cappedBudget "max_elapsed_seconds" value.maxElapsedSeconds cap.maxElapsedSeconds

/-- The changes in the order in which they are made. -/
def madeNarrowings (spec : TaskSpec) (policy : OperatorPolicy) : List Narrowing :=
  (spec.permittedTools.filter (!policy.allowedTools.contains ·)).map Narrowing.toolRemoved ++
    cappedBudgets spec.resourceBudget policy.budgetCaps ++
    (addedPaths spec.forbiddenPaths policy.protectedPaths).map Narrowing.forbiddenPathAdded

theorem capBudget_eq (field : String) (value cap : Nat) :
    capBudget field value cap = (min value cap, cappedBudget field value cap) := by
  unfold capBudget cappedBudget
  split_ifs with h
  · rw [min_eq_right h.le]
  · rw [min_eq_left (not_lt.1 h)]

theorem intersect_eq_ok : intersect spec policy = .ok result ↔
    policy.Admits spec ∧
      result = ⟨(narrowedSpec spec policy).normalized, sort (madeNarrowings spec policy)⟩ := by
  simp only [intersect, eq_ok, reportViolations_eq_ok, intersectionViolations_eq_nil, capBudget_eq,
    madeNarrowings, cappedBudgets, append_assoc]
  exact and_congr_right fun _ => eq_comm

/-! ## The added paths -/

theorem mem_foldl_added :
    path ∈ protectedPaths.foldl
      (fun acc path => if (forbidden ++ acc).contains path then acc else acc ++ [path]) acc ↔
      path ∈ acc ∨ path ∈ protectedPaths ∧ path ∉ forbidden := by
  induction protectedPaths generalizing acc with
  | nil => simp
  | cons head rest ih =>
    rw [foldl_cons, ih]
    by_cases hknown : head ∈ forbidden ++ acc
    · rw [if_pos (by simpa using hknown)]
      grind
    · rw [if_neg (by simpa using hknown)]
      grind

theorem mem_addedPaths {forbidden protectedPaths : List PathPattern} :
    path ∈ addedPaths forbidden protectedPaths ↔ path ∈ protectedPaths ∧ path ∉ forbidden := by
  rw [addedPaths, mem_foldl_added]
  simp

theorem nodup_foldl_added (hacc : acc.Nodup) :
    (protectedPaths.foldl (fun acc path =>
      if (forbidden ++ acc).contains path then acc else acc ++ [path]) acc).Nodup := by
  induction protectedPaths generalizing acc with
  | nil => exact hacc
  | cons head rest ih =>
    rw [foldl_cons]
    split_ifs with hknown
    · exact ih hacc
    · have hfresh : head ∉ acc := fun hmem => hknown (by simp [hmem])
      rw [← concat_eq_append]
      exact ih (hacc.concat hfresh)

theorem nodup_addedPaths (forbidden protectedPaths : List PathPattern) :
    (addedPaths forbidden protectedPaths).Nodup :=
  nodup_foldl_added nodup_nil

theorem addedPaths_eq_nil {forbidden protectedPaths : List PathPattern}
    (h : ∀ path ∈ protectedPaths, path ∈ forbidden) : addedPaths forbidden protectedPaths = [] := by
  refine eq_nil_iff_forall_not_mem.2 fun path hmem => ?_
  obtain ⟨hprotected, hnew⟩ := mem_addedPaths.1 hmem
  exact hnew (h path hprotected)

/-! ## Narrowing -/

/-- The change that a narrowing reports was made between the two specifications. -/
def Narrowing.MadeBetween (spec narrowed : TaskSpec) : Narrowing → Prop
  | .toolRemoved tool => tool ∈ spec.permittedTools ∧ tool ∉ narrowed.permittedTools
  | .budgetCapped field =>
    field = "max_turns" ∧ narrowed.resourceBudget.maxTurns < spec.resourceBudget.maxTurns ∨
    field = "max_repairs" ∧ narrowed.resourceBudget.maxRepairs < spec.resourceBudget.maxRepairs ∨
    field = "max_model_requests" ∧
      narrowed.resourceBudget.maxModelRequests < spec.resourceBudget.maxModelRequests ∨
    field = "max_elapsed_seconds" ∧
      narrowed.resourceBudget.maxElapsedSeconds < spec.resourceBudget.maxElapsedSeconds
  | .forbiddenPathAdded path => path ∈ narrowed.forbiddenPaths ∧ path ∉ spec.forbiddenPaths

/-- The result is the normalized specification with fewer tools, capped budgets and more forbidden
paths, and the report lists exactly these changes. -/
structure PolicyIntersection.Narrows (result : PolicyIntersection) (spec : TaskSpec)
    (policy : OperatorPolicy) : Prop where
  tools : ∀ tool, tool ∈ result.spec.permittedTools ↔
    tool ∈ spec.permittedTools ∧ tool ∈ policy.allowedTools
  turns : result.spec.resourceBudget.maxTurns =
    min spec.resourceBudget.maxTurns policy.budgetCaps.maxTurns
  repairs : result.spec.resourceBudget.maxRepairs =
    min spec.resourceBudget.maxRepairs policy.budgetCaps.maxRepairs
  elapsed : result.spec.resourceBudget.maxElapsedSeconds =
    min spec.resourceBudget.maxElapsedSeconds policy.budgetCaps.maxElapsedSeconds
  requests : result.spec.resourceBudget.maxModelRequests =
    min spec.resourceBudget.maxModelRequests policy.budgetCaps.maxModelRequests
  owned : ∀ path, path ∈ result.spec.ownedPaths ↔ path ∈ spec.ownedPaths
  forbidden : ∀ path, path ∈ result.spec.forbiddenPaths ↔
    path ∈ spec.forbiddenPaths ∨ path ∈ policy.protectedPaths
  rest : result.spec = { spec.normalized with
    permittedTools := result.spec.permittedTools
    resourceBudget := result.spec.resourceBudget
    forbiddenPaths := result.spec.forbiddenPaths }
  reported : ∀ narrowing, narrowing ∈ result.narrowings ↔
    narrowing.MadeBetween spec result.spec
  /-- A change is reported once, if the specification names its tools once. -/
  once : spec.permittedTools.Nodup → result.narrowings.Nodup

theorem mem_cappedBudget {field : String} {value cap : Nat} {narrowing : Narrowing} :
    narrowing ∈ cappedBudget field value cap ↔
      narrowing = .budgetCapped field ∧ min value cap < value := by
  unfold cappedBudget
  split_ifs with h <;> simp <;> omega

theorem mem_narrowed_forbiddenPaths :
    path ∈ (narrowedSpec spec policy).forbiddenPaths ↔
      path ∈ spec.forbiddenPaths ∨ path ∈ policy.protectedPaths := by
  simp only [narrowedSpec, mem_append, mem_addedPaths]
  by_cases h : path ∈ spec.forbiddenPaths <;> simp [h]

theorem mem_madeNarrowings {narrowing : Narrowing} :
    narrowing ∈ madeNarrowings spec policy ↔
      narrowing.MadeBetween spec (narrowedSpec spec policy).normalized := by
  simp only [madeNarrowings, cappedBudgets, mem_append, mem_cappedBudget, mem_map,
    mem_filter, mem_addedPaths]
  cases narrowing with
  | toolRemoved tool =>
    by_cases htool : tool ∈ spec.permittedTools <;>
      simp [Narrowing.MadeBetween, normalized, narrowedSpec, htool]
  | budgetCapped field =>
    simp [Narrowing.MadeBetween, normalized, narrowedSpec, or_assoc]
  | forbiddenPathAdded path =>
    simp only [Narrowing.MadeBetween, normalized, mem_sortDedup, mem_narrowed_forbiddenPaths]
    by_cases hpath : path ∈ spec.forbiddenPaths <;> simp [hpath]

theorem nodup_cappedBudgets (value cap : ResourceBudget) : (cappedBudgets value cap).Nodup := by
  unfold cappedBudgets cappedBudget
  split_ifs <;> decide

theorem nodup_madeNarrowings (h : spec.permittedTools.Nodup) : (madeNarrowings spec policy).Nodup := by
  have htools : ((spec.permittedTools.filter (!policy.allowedTools.contains ·)).map
      Narrowing.toolRemoved).Nodup :=
    (h.filter _).map fun _ _ heq => Narrowing.toolRemoved.inj heq
  have hpaths : ((addedPaths spec.forbiddenPaths policy.protectedPaths).map
      Narrowing.forbiddenPathAdded).Nodup :=
    (nodup_addedPaths _ _).map fun _ _ heq => Narrowing.forbiddenPathAdded.inj heq
  have hbudgets : ∀ narrowing ∈ cappedBudgets spec.resourceBudget policy.budgetCaps,
      ∃ field, narrowing = .budgetCapped field := by
    intro narrowing hmem
    simp only [cappedBudgets, mem_append, mem_cappedBudget] at hmem
    rcases hmem with ((h | h) | h) | h <;> exact ⟨_, h.1⟩
  refine nodup_append.2 ⟨nodup_append.2 ⟨htools, nodup_cappedBudgets _ _, ?_⟩, hpaths, ?_⟩
  · intro a ha b hb heq
    obtain ⟨tool, -, rfl⟩ := mem_map.1 ha
    obtain ⟨field, rfl⟩ := hbudgets b hb
    cases heq
  · intro a ha b hb heq
    obtain ⟨path, -, rfl⟩ := mem_map.1 hb
    rcases mem_append.1 ha with ha | ha
    · obtain ⟨tool, -, rfl⟩ := mem_map.1 ha
      cases heq
    · obtain ⟨field, rfl⟩ := hbudgets a ha
      cases heq

theorem narrows_of_intersect (h : intersect spec policy = .ok result) :
    result.Narrows spec policy := by
  obtain ⟨-, rfl⟩ := intersect_eq_ok.1 h
  exact {
    tools := fun tool => by simp [normalized, narrowedSpec]
    turns := rfl
    repairs := rfl
    elapsed := rfl
    requests := rfl
    owned := fun path => mem_sortDedup
    forbidden := fun path => mem_sortDedup.trans mem_narrowed_forbiddenPaths
    rest := rfl
    reported := fun narrowing => mem_sort.trans mem_madeNarrowings
    once := fun htools => (perm_sort _).nodup_iff.2 (nodup_madeNarrowings htools) }

/-! ## The second intersection -/

/-- A specification that the policy does not change. -/
theorem intersect_eq_self (hadmits : policy.Admits spec) (hnormal : spec.normalized = spec)
    (htools : ∀ tool ∈ spec.permittedTools, tool ∈ policy.allowedTools)
    (hturns : spec.resourceBudget.maxTurns ≤ policy.budgetCaps.maxTurns)
    (hrepairs : spec.resourceBudget.maxRepairs ≤ policy.budgetCaps.maxRepairs)
    (helapsed : spec.resourceBudget.maxElapsedSeconds ≤ policy.budgetCaps.maxElapsedSeconds)
    (hrequests : spec.resourceBudget.maxModelRequests ≤ policy.budgetCaps.maxModelRequests)
    (hforbidden : ∀ path ∈ policy.protectedPaths, path ∈ spec.forbiddenPaths) :
    intersect spec policy = .ok ⟨spec, []⟩ := by
  have hkept : spec.permittedTools.filter (policy.allowedTools.contains ·) = spec.permittedTools :=
    filter_eq_self.2 fun tool htool => by simpa using htools tool htool
  have hadded := addedPaths_eq_nil hforbidden
  have hspec : narrowedSpec spec policy = spec := by
    simp only [narrowedSpec, hkept, hadded, append_nil, min_eq_left hturns,
      min_eq_left hrepairs, min_eq_left helapsed, min_eq_left hrequests]
  have hnone : madeNarrowings spec policy = [] := by
    refine eq_nil_iff_forall_not_mem.2 fun narrowing hmem => ?_
    rw [mem_madeNarrowings, hspec, hnormal] at hmem
    cases narrowing with
    | toolRemoved tool => exact hmem.2 hmem.1
    | budgetCapped field => simp [Narrowing.MadeBetween] at hmem
    | forbiddenPathAdded path => exact hmem.2 hmem.1
  rw [intersect_eq_ok, hspec, hnormal, hnone]
  exact ⟨hadmits, rfl⟩

/-- The policy narrows, says so, and has nothing left to narrow. -/
theorem intersect_narrows (h : intersect spec policy = .ok result) :
    result.Narrows spec policy ∧ intersect result.spec policy = .ok ⟨result.spec, []⟩ := by
  have hnarrows := narrows_of_intersect h
  obtain ⟨hadmits, heq⟩ := intersect_eq_ok.1 h
  refine ⟨hnarrows, intersect_eq_self ?_ ?_ ?_ ?_ ?_ ?_ ?_ ?_⟩
  · refine hadmits.of_mem ?_ (fun path hmem => (hnarrows.owned path).1 hmem) fun check hmem => ?_
    · rw [hnarrows.rest]
      rfl
    · rw [hnarrows.rest] at hmem
      exact (perm_sortBy _ _).mem_iff.1 hmem
  · rw [heq]
    exact normalized_normalized _
  · exact fun tool htool => ((hnarrows.tools tool).1 htool).2
  · exact hnarrows.turns ▸ min_le_right _ _
  · exact hnarrows.repairs ▸ min_le_right _ _
  · exact hnarrows.elapsed ▸ min_le_right _ _
  · exact hnarrows.requests ▸ min_le_right _ _
  · exact fun path hpath => (hnarrows.forbidden path).2 (.inr hpath)

/-- A specification that asks for more than the policy allows. -/
def broadSpec : TaskSpec :=
  { editSpec with permittedTools := [.readFiles, .editFiles], resourceBudget := ⟨2, 0, 60, 1⟩ }

/-- The tool that the policy does not allow is gone after one intersection, and is reported. -/
theorem broadSpec_narrows :
    ∃ result, intersect broadSpec samplePolicy = .ok result ∧
      .toolRemoved .editFiles ∈ result.narrowings ∧
      intersect result.spec samplePolicy = .ok ⟨result.spec, []⟩ := by
  have hadmits : samplePolicy.Admits broadSpec :=
    intersectionViolations_eq_nil.1 (by decide +kernel)
  have h := intersect_eq_ok.2 ⟨hadmits, rfl⟩
  obtain ⟨hnarrows, hagain⟩ := intersect_narrows h
  have hremoved : ToolName.editFiles ∈ broadSpec.permittedTools := by decide
  refine ⟨_, h, (hnarrows.reported _).2 ⟨hremoved, fun hmem => ?_⟩, hagain⟩
  exact absurd ((hnarrows.tools _).1 hmem).2 (by decide)

/-! ## Well-formedness of the result -/

theorem OperatorPolicy.validate_caps (h : policy.validate = .ok ()) :
    policy.budgetCaps.maxTurns ≠ 0 ∧ policy.budgetCaps.maxModelRequests ≠ 0 ∧
      policy.budgetCaps.maxElapsedSeconds ≠ 0 := by
  simp only [OperatorPolicy.validate, eq_ok] at h
  obtain ⟨-, -, -, -, -, -, -, -, hturns, hrequests, helapsed⟩ := h
  exact ⟨hturns, hrequests, helapsed⟩

/-- Everything but the number of forbidden paths stays in order. -/
theorem intersect_wellFormed (hspec : spec.WellFormed) (hpolicy : policy.validate = .ok ())
    (h : intersect spec policy = .ok result)
    (hcount : result.spec.forbiddenPaths.length ≤ maxListItems) : result.spec.WellFormed := by
  have hnarrows := narrows_of_intersect h
  obtain ⟨hadmits, -⟩ := intersect_eq_ok.1 h
  obtain ⟨hturns, hrequests, helapsed⟩ := OperatorPolicy.validate_caps hpolicy
  have hnormal : spec.normalized.WellFormed := hspec.normalized
  rw [hnarrows.rest]
  exact { hnormal with
    forbiddenPathCount := hcount
    reviewerReads := fun hrole => ⟨(hnormal.reviewerReads hrole).1, fun tool htool =>
      (hspec.reviewerReads hrole).2 tool ((hnarrows.tools tool).1 htool).1⟩
    ownedApart := by
      intro owned howned path hpath
      have howned' : owned ∈ spec.ownedPaths := mem_sortDedup.1 howned
      rcases (hnarrows.forbidden path).1 hpath with hpath | hpath
      · exact hspec.ownedApart owned howned' path hpath
      · exact hadmits.apart owned howned' path hpath
    budget := by
      have hbudget := hspec.budget
      dsimp only
      rw [hnarrows.turns, hnarrows.elapsed, hnarrows.requests]
      omega }

theorem length_forbiddenPaths_of_intersect (h : intersect spec policy = .ok result) :
    result.spec.forbiddenPaths.length =
      (spec.forbiddenPaths ++ policy.protectedPaths).toFinset.card := by
  have hforbidden : result.spec.forbiddenPaths =
      sortDedup (narrowedSpec spec policy).forbiddenPaths := by
    rw [(intersect_eq_ok.1 h).2]
    rfl
  have hset : (narrowedSpec spec policy).forbiddenPaths.toFinset =
      (spec.forbiddenPaths ++ policy.protectedPaths).toFinset := by
    ext path
    rw [mem_toFinset, mem_toFinset, mem_narrowed_forbiddenPaths, mem_append]
  rw [hforbidden, length_sortDedup, hset]

/-- The result passes the structure check exactly when the forbidden and protected paths together fit
into one list. -/
theorem intersect_validateStructure_iff (hspec : spec.validateStructure = .ok ())
    (hpolicy : policy.validate = .ok ()) (h : intersect spec policy = .ok result) :
    result.spec.validateStructure = .ok () ↔
      (spec.forbiddenPaths ++ policy.protectedPaths).toFinset.card ≤ maxListItems := by
  rw [validateStructure_eq_ok] at hspec ⊢
  rw [← length_forbiddenPaths_of_intersect h]
  exact ⟨fun hresult => hresult.forbiddenPathCount, intersect_wellFormed hspec hpolicy h⟩

/-- The policy admits the specification and adds nothing to its forbidden paths. -/
theorem editSpec_intersect_valid :
    ∃ result, intersect editSpec samplePolicy = .ok result ∧
      result.spec.validateStructure = .ok () := by
  have hadmits : samplePolicy.Admits editSpec :=
    intersectionViolations_eq_nil.1 (by decide +kernel)
  have h := intersect_eq_ok.2 ⟨hadmits, rfl⟩
  exact ⟨_, h, (intersect_validateStructure_iff (by decide +kernel) (by decide +kernel) h).2
    (by decide +kernel)⟩

/-- A specification whose list of forbidden paths is full. -/
def crowdedSpec : TaskSpec :=
  { editSpec with
    forbiddenPaths :=
      (List.range maxListItems).filterMap fun i => (PathPattern.new (hexDigits 2 i)).toOption }

/-- The protected path of the policy is the one too many. -/
theorem crowdedSpec_intersect_invalid :
    crowdedSpec.validateStructure = .ok () ∧ samplePolicy.validate = .ok () ∧
      ∃ result, intersect crowdedSpec samplePolicy = .ok result ∧
        result.spec.validateStructure ≠ .ok () := by
  have hadmits : samplePolicy.Admits crowdedSpec :=
    intersectionViolations_eq_nil.1 (by decide +kernel)
  have h := intersect_eq_ok.2 ⟨hadmits, rfl⟩
  refine ⟨by decide +kernel, by decide +kernel, _, h, fun hvalid => ?_⟩
  have hcount := (validateStructure_eq_ok.1 hvalid).forbiddenPathCount
  rw [length_forbiddenPaths_of_intersect h] at hcount
  exact absurd hcount (by decide +kernel)

end Vibemux
