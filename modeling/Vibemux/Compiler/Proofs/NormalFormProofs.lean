import Vibemux.Compiler.Proofs.OrderProofs
import Vibemux.Compiler.Proofs.StructureProofs

/-!
# The normal form of a specification

Set-like fields are sorted and lose repetitions; requirements, assumptions and checks are sorted by
identifiers, which the structure check makes unique. Exclusions are sorted by their spans, which nothing
makes unique.
-/

namespace Vibemux

open SortDedup List Requirement

variable {others requirements : List Requirement} {requirement : Requirement}

/-! ## Variants -/

/-- The same elements, in any order and any number of times. -/
def SameSet {α : Type} (l l' : List α) : Prop := ∀ a, a ∈ l ↔ a ∈ l'

/-- The second requirement is the first one up to its set-like fields. -/
structure Requirement.Variant (requirement other : Requirement) : Prop where
  sourceRefs : SameSet requirement.sourceRefs other.sourceRefs
  contractExcerpts : SameSet requirement.contractExcerpts other.contractExcerpts
  acceptanceCheckIds : SameSet requirement.acceptanceCheckIds other.acceptanceCheckIds
  rest : { other with
    sourceRefs := requirement.sourceRefs
    contractExcerpts := requirement.contractExcerpts
    acceptanceCheckIds := requirement.acceptanceCheckIds } = requirement

/-- The second specification is the first one up to its set-like fields and the order of its lists of
requirements, assumptions, checks and exclusions. -/
structure TaskSpec.Variant (spec other : TaskSpec) : Prop where
  requirements : ∃ permuted, spec.requirements.Perm permuted ∧
    List.Forall₂ Requirement.Variant permuted other.requirements
  assumptions : spec.assumptions.Perm other.assumptions
  acceptanceChecks : spec.acceptanceChecks.Perm other.acceptanceChecks
  sourceExclusions : spec.sourceExclusions.Perm other.sourceExclusions
  inputArtifacts : SameSet spec.inputArtifacts other.inputArtifacts
  sharedContractRefs : SameSet spec.sharedContractRefs other.sharedContractRefs
  ownedPaths : SameSet spec.ownedPaths other.ownedPaths
  readScopes : SameSet spec.readScopes other.readScopes
  forbiddenPaths : SameSet spec.forbiddenPaths other.forbiddenPaths
  dependencies : SameSet spec.dependencies other.dependencies
  requiredCapabilities : SameSet spec.requiredCapabilities other.requiredCapabilities
  permittedTools : SameSet spec.permittedTools other.permittedTools
  requiredLevels : SameSet spec.requiredLevels other.requiredLevels
  mayMessage : SameSet spec.communicationPolicy.mayMessage other.communicationPolicy.mayMessage
  autoAuthorizedKinds : SameSet spec.communicationPolicy.autoAuthorizedKinds
    other.communicationPolicy.autoAuthorizedKinds
  rest : { other with
    requirements := spec.requirements
    assumptions := spec.assumptions
    acceptanceChecks := spec.acceptanceChecks
    sourceExclusions := spec.sourceExclusions
    inputArtifacts := spec.inputArtifacts
    sharedContractRefs := spec.sharedContractRefs
    ownedPaths := spec.ownedPaths
    readScopes := spec.readScopes
    forbiddenPaths := spec.forbiddenPaths
    dependencies := spec.dependencies
    requiredCapabilities := spec.requiredCapabilities
    permittedTools := spec.permittedTools
    requiredLevels := spec.requiredLevels
    communicationPolicy := { other.communicationPolicy with
      mayMessage := spec.communicationPolicy.mayMessage
      autoAuthorizedKinds := spec.communicationPolicy.autoAuthorizedKinds } } = spec

/-- The normal form is a fixed point, and all variants of the specification have the same normal form
and digest. -/
structure TaskSpec.Canonical (digests : Digests) (spec : TaskSpec) : Prop where
  idempotent : spec.normalized.normalized = spec.normalized
  normalForm : ∀ other, spec.Variant other → other.normalized = spec.normalized
  digest : ∀ other, spec.Variant other →
    digests.taskSpec other.normalized = digests.taskSpec spec.normalized

/-! ## Requirements -/

theorem Requirement.normalized_normalized (requirement : Requirement) :
    requirement.normalized.normalized = requirement.normalized := by
  simp [normalized]

theorem Requirement.Variant.normalized_eq {other : Requirement} (h : requirement.Variant other) :
    other.normalized = requirement.normalized := by
  rw [← h.rest]
  simp only [normalized, sortDedup_congr h.sourceRefs,
    sortDedup_congr h.contractExcerpts, sortDedup_congr h.acceptanceCheckIds]

theorem normalizedRequirements_eq (requirements : List Requirement) :
    (sortBy Requirement.requirementId requirements).map Requirement.normalized =
      sortBy Requirement.requirementId (requirements.map Requirement.normalized) :=
  map_sortBy fun _ => rfl

theorem map_normalized_eq_of_variant (h : List.Forall₂ Requirement.Variant requirements others) :
    others.map Requirement.normalized = requirements.map Requirement.normalized := by
  induction h with
  | nil => rfl
  | cons hhead _ ih => rw [map_cons, map_cons, hhead.normalized_eq, ih]

/-- The normalized requirements do not depend on the order, where identifiers are unique. -/
theorem normalizedRequirements_eq_of_variant {permuted : List Requirement}
    (hids : (requirements.map Requirement.requirementId).Nodup) (hperm : requirements.Perm permuted)
    (hvariant : List.Forall₂ Requirement.Variant permuted others) :
    (sortBy Requirement.requirementId others).map Requirement.normalized =
      (sortBy Requirement.requirementId requirements).map Requirement.normalized := by
  rw [normalizedRequirements_eq, normalizedRequirements_eq, map_normalized_eq_of_variant hvariant]
  refine (sortBy_eq_of_perm (hperm.map _) ?_).symm
  intro a ha b hb heq
  obtain ⟨first, hfirst, rfl⟩ := mem_map.1 ha
  obtain ⟨second, hsecond, rfl⟩ := mem_map.1 hb
  rw [inj_on_of_nodup_map hids hfirst hsecond heq]

/-! ## Specifications -/

theorem normalizedRequirements_idem (requirements : List Requirement) :
    (sortBy Requirement.requirementId ((sortBy Requirement.requirementId requirements).map
      Requirement.normalized)).map Requirement.normalized =
      (sortBy Requirement.requirementId requirements).map Requirement.normalized := by
  rw [normalizedRequirements_eq requirements, sortBy_sortBy, normalizedRequirements_eq, map_map]
  exact congrArg _ (map_congr_left fun requirement _ => requirement.normalized_normalized)

theorem TaskSpec.normalized_normalized (spec : TaskSpec) :
    spec.normalized.normalized = spec.normalized := by
  simp only [TaskSpec.normalized, normalizedRequirements_idem, sortBy_sortBy, sortDedup_sortDedup]

variable {spec other : TaskSpec}

/-- Exclusions with one span have one reason. -/
def TaskSpec.ExclusionsAgree (spec : TaskSpec) : Prop :=
  ∀ a ∈ spec.sourceExclusions, ∀ b ∈ spec.sourceExclusions, a.span = b.span → a.reason = b.reason

theorem TaskSpec.Variant.normalized_eq (h : spec.Variant other) (hspec : spec.WellFormed)
    (hexclusions : spec.ExclusionsAgree) : other.normalized = spec.normalized := by
  obtain ⟨permuted, hperm, hvariant⟩ := h.requirements
  have hassumptions : sortBy Assumption.assumptionId other.assumptions =
      sortBy Assumption.assumptionId spec.assumptions :=
    (sortBy_eq_of_perm h.assumptions fun _ ha _ hb =>
      inj_on_of_nodup_map hspec.assumptionIds ha hb).symm
  have hchecks : sortBy AcceptanceCheck.checkId other.acceptanceChecks =
      sortBy AcceptanceCheck.checkId spec.acceptanceChecks :=
    (sortBy_eq_of_perm h.acceptanceChecks fun _ ha _ hb =>
      inj_on_of_nodup_map hspec.checkIds ha hb).symm
  have hspans : sortBy SourceExclusion.span other.sourceExclusions =
      sortBy SourceExclusion.span spec.sourceExclusions := by
    refine (sortBy_eq_of_perm h.sourceExclusions fun a ha b hb hspan => ?_).symm
    cases a
    cases b
    exact congrArg₂ SourceExclusion.mk hspan (hexclusions _ ha _ hb hspan)
  rw [← h.rest]
  simp only [TaskSpec.normalized,
    normalizedRequirements_eq_of_variant hspec.requirementIds hperm hvariant, hassumptions, hchecks,
    hspans, sortDedup_congr h.inputArtifacts, sortDedup_congr h.sharedContractRefs,
    sortDedup_congr h.ownedPaths, sortDedup_congr h.readScopes, sortDedup_congr h.forbiddenPaths,
    sortDedup_congr h.dependencies, sortDedup_congr h.requiredCapabilities,
    sortDedup_congr h.permittedTools, sortDedup_congr h.requiredLevels, sortDedup_congr h.mayMessage,
    sortDedup_congr h.autoAuthorizedKinds]

/-! ## Well-formedness of the normal form -/

theorem Requirement.WellFormed.normalized {checkIds checkIds' : List SpecIdentifier}
    (h : requirement.WellFormed checkIds) (hsub : ∀ checkId ∈ checkIds, checkId ∈ checkIds') :
    requirement.normalized.WellFormed checkIds' where
  statement := h.statement
  literalCount := h.literalCount
  literals := h.literals
  hasCheck := fun hnil => h.hasCheck (sortDedup_eq_nil.1 hnil)
  checksKnown checkId hmem := hsub checkId (h.checksKnown checkId (mem_sortDedup.1 hmem))
  spans span hmem := h.spans span (mem_sortDedup.1 hmem)

theorem perm_normalized_requirements (spec : TaskSpec) :
    spec.normalized.requirements.Perm (spec.requirements.map Requirement.normalized) :=
  (perm_sortBy _ _).map _

/-- Sorting drops and adds nothing that the structure check looks at. -/
theorem TaskSpec.WellFormed.normalized (h : spec.WellFormed) : spec.normalized.WellFormed :=
  have hrequirements := perm_normalized_requirements spec
  have hchecks : spec.normalized.acceptanceChecks.Perm spec.acceptanceChecks := perm_sortBy _ _
  have hassumptions : spec.normalized.assumptions.Perm spec.assumptions := perm_sortBy _ _
  have hexclusions : spec.normalized.sourceExclusions.Perm spec.sourceExclusions := perm_sortBy _ _
  { h with
    hasRequirement := by
      intro hnil
      rw [hnil, nil_perm, map_eq_nil_iff] at hrequirements
      exact h.hasRequirement hrequirements
    requirementCount := by
      rw [hrequirements.length_eq, length_map]
      exact h.requirementCount
    checkIds := (hchecks.map _).nodup_iff.2 h.checkIds
    requirementIds := by
      have hids := hrequirements.map requirementId
      rw [map_map] at hids
      exact hids.nodup_iff.2 h.requirementIds
    requirements := by
      intro requirement hmem
      obtain ⟨original, horiginal, rfl⟩ := mem_map.1 (hrequirements.mem_iff.1 hmem)
      exact (h.requirements original horiginal).normalized fun checkId hid =>
        (hchecks.map _).mem_iff.2 hid
    acceptanceChecks := fun check hmem => h.acceptanceChecks check (hchecks.mem_iff.1 hmem)
    assumptionIds := (hassumptions.map _).nodup_iff.2 h.assumptionIds
    assumptions := fun assumption hmem => h.assumptions assumption (hassumptions.mem_iff.1 hmem)
    ownedPathCount := (length_sortDedup_le _).trans h.ownedPathCount
    readScopeCount := (length_sortDedup_le _).trans h.readScopeCount
    forbiddenPathCount := (length_sortDedup_le _).trans h.forbiddenPathCount
    inputArtifactCount := (length_sortDedup_le _).trans h.inputArtifactCount
    sharedContractCount := (length_sortDedup_le _).trans h.sharedContractCount
    dependencyCount := (length_sortDedup_le _).trans h.dependencyCount
    acceptanceCheckCount := hchecks.length_eq ▸ h.acceptanceCheckCount
    sourceExclusionCount := hexclusions.length_eq ▸ h.sourceExclusionCount
    hasOwnedPath := fun hrole hnil => h.hasOwnedPath hrole (sortDedup_eq_nil.1 hnil)
    reviewerReads := fun hrole => ⟨sortDedup_eq_nil.2 (h.reviewerReads hrole).1,
      fun tool htool => (h.reviewerReads hrole).2 tool (mem_sortDedup.1 htool)⟩
    ownedApart := fun owned howned path hpath =>
      h.ownedApart owned (mem_sortDedup.1 howned) path (mem_sortDedup.1 hpath)
    noSelfDependency := fun hmem => h.noSelfDependency (mem_sortDedup.1 hmem)
    completion := fun required hrequired hrole =>
      mem_sortDedup.2 (h.completion required hrequired hrole)
    noSelfMessage := fun hmem => h.noSelfMessage (mem_sortDedup.1 hmem) }

/-! ## Exclusions of one span -/

theorem TaskSpec.variant_refl (spec : TaskSpec) : spec.Variant spec where
  requirements := ⟨spec.requirements, .refl _, forall₂_same.2 fun _ _ =>
    ⟨fun _ => Iff.rfl, fun _ => Iff.rfl, fun _ => Iff.rfl, rfl⟩⟩
  assumptions := .refl _
  acceptanceChecks := .refl _
  sourceExclusions := .refl _
  inputArtifacts _ := Iff.rfl
  sharedContractRefs _ := Iff.rfl
  ownedPaths _ := Iff.rfl
  readScopes _ := Iff.rfl
  forbiddenPaths _ := Iff.rfl
  dependencies _ := Iff.rfl
  requiredCapabilities _ := Iff.rfl
  permittedTools _ := Iff.rfl
  requiredLevels _ := Iff.rfl
  mayMessage _ := Iff.rfl
  autoAuthorizedKinds _ := Iff.rfl
  rest := rfl

/-- The exclusions in another order. -/
theorem TaskSpec.variant_of_perm {exclusions : List SourceExclusion}
    (h : spec.sourceExclusions.Perm exclusions) :
    spec.Variant { spec with sourceExclusions := exclusions } :=
  { spec.variant_refl with sourceExclusions := h, rest := rfl }

/-- The normal form shows the first exclusion of a span first. -/
theorem head_of_sortBy_span (exclusion : SourceExclusion) (rest : List SourceExclusion) :
    ((sortBy SourceExclusion.span (exclusion :: rest)).filter (·.span = exclusion.span)).head? =
      some exclusion := by
  have hfilter : (sortBy SourceExclusion.span (exclusion :: rest)).filter
      (·.span = exclusion.span) = (exclusion :: rest).filter (·.span = exclusion.span) :=
    filter_sortBy exclusion.span
  rw [hfilter, filter_cons_of_pos (by simp), head?_cons]

/-- Where all orders of the exclusions have one normal form, those of one span are equal. -/
theorem exclusionsAgree_of_normalForm
    (h : ∀ other, spec.Variant other → other.normalized = spec.normalized) :
    spec.ExclusionsAgree := by
  -- bring each exclusion to the front
  have hfront : ∀ a ∈ spec.sourceExclusions,
      (spec.normalized.sourceExclusions.filter (·.span = a.span)).head? = some a := by
    intro a ha
    have hvariant := spec.variant_of_perm (perm_cons_erase ha)
    rw [← h _ hvariant]
    exact head_of_sortBy_span a _
  intro a ha b hb hspan
  have heq := hfront b hb
  rw [← hspan, hfront a ha] at heq
  rw [Option.some.inj heq]

/-- Normalization is canonical exactly when exclusions of one span agree. -/
theorem normalized_canonical_iff {digests : Digests} (hspec : spec.validateStructure = .ok ()) :
    spec.Canonical digests ↔ spec.ExclusionsAgree := by
  constructor
  · exact fun h => exclusionsAgree_of_normalForm h.normalForm
  · intro hexclusions
    have hform : ∀ other, spec.Variant other → other.normalized = spec.normalized := fun other h =>
      h.normalized_eq (validateStructure_eq_ok.1 hspec) hexclusions
    exact ⟨spec.normalized_normalized, hform, fun other h => by rw [hform other h]⟩

/-! ## Two exclusions of one span -/

def firstSentence : SourceSpan := ⟨0, 20, "Write src/a.mjs now.".toList⟩

/-- The specification with two exclusions. -/
def excludingSpec (first second : SourceExclusion) : TaskSpec :=
  { editSpec with sourceExclusions := [first, second] }

/-- One span excluded for two reasons: the two orders have different normal forms. -/
theorem excludingSpec_not_canonical :
    (excludingSpec ⟨firstSentence, .backgroundContext⟩ ⟨firstSentence, .exampleData⟩).validateStructure =
      .ok () ∧
    ¬ (excludingSpec ⟨firstSentence, .backgroundContext⟩
      ⟨firstSentence, .exampleData⟩).Canonical sampleDigests := by
  refine ⟨by decide +kernel, fun hcanonical => ?_⟩
  have heq := hcanonical.normalForm _ (TaskSpec.variant_of_perm (List.Perm.swap _ _ []))
  have hexclusions := congrArg TaskSpec.sourceExclusions heq
  exact absurd hexclusions (by decide +kernel)

/-- One span excluded twice for one reason does no harm. -/
theorem excludingSpec_canonical :
    (excludingSpec ⟨firstSentence, .exampleData⟩ ⟨firstSentence, .exampleData⟩).Canonical
      sampleDigests := by
  refine (normalized_canonical_iff (by decide +kernel)).2 fun a ha b hb _ => ?_
  have hreason : ∀ exclusion ∈ [(⟨firstSentence, .exampleData⟩ : SourceExclusion),
      ⟨firstSentence, .exampleData⟩], exclusion.reason = .exampleData := by decide
  rw [hreason a ha, hreason b hb]

end Vibemux
