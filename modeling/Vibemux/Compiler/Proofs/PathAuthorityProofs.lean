import Vibemux.Compiler.Proofs.PathPatternProofs
import Vibemux.Compiler.Proofs.LiteralTokenProofs
import Vibemux.Compiler.Proofs.CoverageProofs

/-!
# Soundness of owned-path authority

What a granted pattern covers lies inside a writable root and outside everything that the specification,
the policy or the request protects, and the pattern is a complete literal token of the request in a
positive requirement, or a writable root.
-/

namespace Vibemux

open Checked List OrderedMap Text

variable {tables : UnicodeTables} {digests : Digests} {spec : TaskSpec} {source : SourceRequest}
  {policy : OperatorPolicy} {contracts : List SharedContractText} {owned pattern : PathPattern}
  {path : List Char}

theorem codesOnly_eq_ok {α β : Type} {code : β → String} {result : Except (List β) α} {a : α} :
    codesOnly code result = .ok a ↔ result = .ok a := by
  cases result <;> simp [codesOnly, Except.mapError]

theorem violationIf_eq_nil {found : Bool} {code field : String} :
    violationIf found code field = [] ↔ found = false := by
  cases found <;> simp [violationIf]

/-! ## The policy -/

/-- After the intersection every owned path lies within a writable root. -/
theorem isWithin_of_intersect {result : PolicyIntersection} (h : intersect spec policy = .ok result)
    (howned : owned ∈ spec.ownedPaths) :
    ∃ root ∈ policy.writableRoots, owned.isWithin root = true := by
  unfold intersect at h
  simp only [eq_ok, reportViolations_eq_ok] at h
  have hnone := h.1
  simp only [intersectionViolations, append_eq_nil_iff, flatMap_eq_nil_iff,
    violationIf_eq_nil] at hnone
  simpa using (hnone.1.2 owned howned).1

/-! ## The loop over the owned paths -/

theorem violations_of_foldl {provenanceOf : PathPattern → Except PathAuthorityViolation PathProvenance}
    {paths : List PathPattern}
    {acc : List (PathPattern × PathProvenance) × List PathAuthorityViolation}
    (h : (paths.foldl (recordProvenance provenanceOf) acc).2 = []) :
    acc.2 = [] ∧ (∀ path ∈ paths, ∃ provenance, provenanceOf path = .ok provenance) ∧
      ∀ path, path ∈ keys (paths.foldl (recordProvenance provenanceOf) acc).1 ↔
        path ∈ paths ∨ path ∈ keys acc.1 := by
  induction paths generalizing acc with
  | nil => exact ⟨h, by simp, by simp⟩
  | cons path paths ih =>
    rw [foldl_cons] at h ⊢
    obtain ⟨hacc, hpaths, hkeys⟩ := ih h
    cases hpath : provenanceOf path with
    | error violation => simp [recordProvenance, hpath] at hacc
    | ok provenance =>
      simp only [recordProvenance, hpath] at hacc hkeys ⊢
      refine ⟨hacc, ?_, ?_⟩
      · rintro other (_ | ⟨_, hother⟩)
        · exact ⟨provenance, hpath⟩
        · exact hpaths other hother
      · intro other
        rw [hkeys, mem_keys_insert, mem_cons, or_left_comm, or_assoc]

/-! ## One owned path -/

theorem mem_patternsOf {literals : List (List Char)} {literal : List Char}
    (hliteral : literal ∈ literals) (hnew : PathPattern.new literal = .ok pattern) :
    pattern ∈ patternsOf literals :=
  mem_filterMap.2 ⟨literal, hliteral, by rw [hnew]; rfl⟩

/-- A pattern that protects a path does not cover it up to case. -/
theorem not_matches_of_not_overlap (hdisjoint : owned.protectionOverlap pattern = false)
    (hpath : owned.matches path = true) :
    pattern.matchesCaseInsensitively path = false := by
  by_contra hne
  have hmatch : pattern.matchesCaseInsensitively path = true := by simpa using hne
  have hoverlap := PathPattern.protectionOverlap_of_matches hpath hmatch
  rw [hdisjoint] at hoverlap
  cases hoverlap

theorem path_ne_nil (pattern : PathPattern) : pattern.text ≠ [] := by
  intro h
  have hvalid := pattern.valid
  rw [h] at hvalid
  exact absurd hvalid (by decide)

/-- A witness is a complete literal token inside a cited span of a positive requirement. -/
theorem literalToken_of_sourceWitness {witness : SourceWitness} (hpath : path ≠ [])
    (h : sourceWitness tables digests path spec.requirements source = some witness) :
    ∃ requirement ∈ spec.requirements, requirement.force ≠ .mustNot ∧
      ∃ span ∈ requirement.sourceRefs, ∃ cited, source.resolve span = some cited ∧
        ∃ place, LiteralTokenAt source.text path place ∧ cited.contains place = true := by
  have hmem := mem_of_head? h
  simp only [SortDedup.mem_sort, mem_flatMap, mem_filter, mem_filterMap] at hmem
  obtain ⟨requirement, ⟨hrequirement, hpositive⟩, span, hspan, hwitness⟩ := hmem
  obtain ⟨cited, hcited, hfound⟩ := Option.bind_eq_some_iff.1 hwitness
  split_ifs at hfound with hrefused
  simp only [Bool.or_eq_true, Bool.not_eq_true', not_or, Bool.not_eq_false] at hrefused
  obtain ⟨place, hplace, hcontains⟩ := any_eq_true.1 hrefused.1
  refine ⟨requirement, hrequirement, ?_, span, hspan, cited, hcited, place,
    literalTokenAt_of_mem_exactLiteralRanges hpath hplace, hcontains⟩
  simp only [Bool.and_eq_true, bne_iff_ne] at hpositive
  exact hpositive.1

/-- What the loop body checks before it grants a path. -/
theorem pathProvenance_cases {policyDigest : Sha256Digest} {path : PathPattern}
    {provenance : PathProvenance}
    (h : pathProvenance tables digests spec source policy policyDigest path = .ok provenance) :
    (∀ pattern ∈ spec.forbiddenPaths ++ policy.protectedPaths,
      path.protectionOverlap pattern = false) ∧
    (∀ pattern ∈ prohibitedPatterns tables spec source, path.protectionOverlap pattern = false) ∧
    (path ∈ policy.writableRoots ∨
      ∃ witness, sourceWitness tables digests path.text spec.requirements source =
        some witness) := by
  unfold pathProvenance at h
  by_cases hprotected : (spec.forbiddenPaths ++ policy.protectedPaths).any path.protectionOverlap
  · rw [if_pos hprotected] at h
    cases h
  rw [if_neg hprotected] at h
  by_cases hprohibited : prohibitedPath tables path spec source
  · rw [if_pos hprohibited] at h
    cases h
  rw [if_neg hprohibited] at h
  refine ⟨fun pattern hmem => ?_, fun pattern hmem => ?_, ?_⟩
  · simpa using any_eq_false.1 (Bool.eq_false_of_not_eq_true hprotected) pattern hmem
  · simpa using any_eq_false.1 (Bool.eq_false_of_not_eq_true hprohibited) pattern hmem
  · cases hwitness : sourceWitness tables digests path.text spec.requirements source with
    | some witness => exact .inr ⟨witness, rfl⟩
    | none =>
      rw [hwitness] at h
      dsimp only at h
      split_ifs at h with hroot
      exact .inl (by simpa using hroot)

/-- The checks behind a derived map. -/
theorem derivePathAuthority_cases {map : PathAuthorityMap}
    (h : derivePathAuthority tables digests spec source policy contracts = .ok map) :
    (∃ narrowed, intersect spec policy = .ok narrowed) ∧
    (∀ path, path ∈ OrderedMap.keys map.ownedPaths ↔ path ∈ spec.ownedPaths) ∧
    ∃ policyDigest, ∀ path ∈ spec.ownedPaths, ∃ provenance,
      pathProvenance tables digests spec source policy policyDigest path = .ok provenance := by
  unfold derivePathAuthority at h
  simp only [eq_ok, codesOnly_eq_ok] at h
  obtain ⟨-, -, -, -, narrowed, hnarrowed, -, _, -, policyDigest, -, hnone, rfl⟩ := h
  obtain ⟨-, hpaths, hkeys⟩ := violations_of_foldl hnone
  exact ⟨⟨narrowed, hnarrowed⟩, fun path => by simpa [OrderedMap.keys] using hkeys path,
    policyDigest, hpaths⟩

/-- Owned-path authority is sound. -/
theorem ownedPath_authority_sound {map : PathAuthorityMap}
    (h : derivePathAuthority tables digests spec source policy contracts = .ok map) :
    (∀ path, path ∈ OrderedMap.keys map.ownedPaths ↔ path ∈ spec.ownedPaths) ∧
    ∀ owned ∈ spec.ownedPaths,
      (∀ path, owned.matches path = true →
        (∃ root ∈ policy.writableRoots, root.matches path = true) ∧
        (∀ forbidden ∈ spec.forbiddenPaths, forbidden.matchesCaseInsensitively path = false) ∧
        (∀ guarded ∈ policy.protectedPaths, guarded.matchesCaseInsensitively path = false) ∧
        (∀ requirement ∈ spec.requirements, requirement.force = .mustNot →
          ∀ literal ∈ requirement.literals, ∀ pattern, PathPattern.new literal = .ok pattern →
            pattern.matchesCaseInsensitively path = false) ∧
        (∀ clause ∈ source.clauses, ∀ marker ∈ source.prohibitionMarkers tables,
          clause.contains marker = true → ∀ literal ∈ literalTokens source.text clause,
            ∀ pattern, PathPattern.new literal = .ok pattern →
              pattern.matchesCaseInsensitively path = false)) ∧
      (owned ∈ policy.writableRoots ∨
        ∃ requirement ∈ spec.requirements, requirement.force ≠ .mustNot ∧
          ∃ span ∈ requirement.sourceRefs, ∃ cited, source.resolve span = some cited ∧
            ∃ place, LiteralTokenAt source.text owned.text place ∧
              cited.contains place = true) := by
  obtain ⟨⟨_, hnarrowed⟩, hkeys, _, hgranted⟩ := derivePathAuthority_cases h
  refine ⟨hkeys, fun owned howned => ?_⟩
  obtain ⟨provenance, hprovenance⟩ := hgranted owned howned
  obtain ⟨hprotected, hprohibited, hdeclared⟩ := pathProvenance_cases hprovenance
  refine ⟨fun path hpath => ⟨?_, ?_, ?_, ?_, ?_⟩, ?_⟩
  · obtain ⟨root, hroot, hwithin⟩ := isWithin_of_intersect hnarrowed howned
    exact ⟨root, hroot, PathPattern.matches_of_isWithin hwithin hpath⟩
  · intro forbidden hmem
    exact not_matches_of_not_overlap (hprotected _ (mem_append_left _ hmem)) hpath
  · intro guarded hmem
    exact not_matches_of_not_overlap (hprotected _ (mem_append_right _ hmem)) hpath
  · intro requirement hrequirement hforce literal hliteral pattern hnew
    refine not_matches_of_not_overlap (hprohibited _ (mem_append_left _ ?_)) hpath
    refine mem_patternsOf (mem_flatMap.2 ⟨requirement, ?_, hliteral⟩) hnew
    exact mem_filter.2 ⟨hrequirement, by simp [hforce]⟩
  · intro clause hclause marker hmarker hcontains literal hliteral pattern hnew
    refine not_matches_of_not_overlap (hprohibited _ (mem_append_right _ ?_)) hpath
    refine mem_patternsOf (mem_flatMap.2 ⟨clause, ?_, hliteral⟩) hnew
    exact mem_filter.2 ⟨hclause, any_eq_true.2 ⟨marker, hmarker, hcontains⟩⟩
  · rcases hdeclared with hroot | ⟨witness, hwitness⟩
    · exact .inl hroot
    · exact .inr (literalToken_of_sourceWitness (path_ne_nil owned) hwitness)

/-! ## A granted path -/

def sampleDigests : Digests where
  sha256 _ := sampleDigest
  taskSpec _ := some sampleDigest
  operatorPolicy _ := some sampleDigest
  sourceSpan _ _ _ _ := sampleDigest

def contractTree : PathPattern := ⟨"contract/**".toList, by decide⟩

def samplePolicy : OperatorPolicy where
  schemaVersion := 1
  policyVersion := sampleVersion
  writableRoots := [sourceTree]
  protectedPaths := [contractTree]
  allowedTools := [.readFiles]
  verifierSuites := []
  budgetCaps := ⟨1, 0, 60, 1⟩
  maxParallelSlots := 1
  maxSupervisorDecisions := 1
  maxOptimizerCandidates := 0
  contentStoreOptIn := false
  aagOnly := false

def editRequest : SourceRequest :=
  ⟨"Write src/a.mjs now. Do not edit src/b.mjs.".toList, sampleDigest, by decide⟩

def editSpec : TaskSpec :=
  sampleSpec
    [sampleRequirement ⟨"edit".toList, by decide⟩ .must
      ⟨0, 20, "Write src/a.mjs now.".toList⟩ ["src/a.mjs".toList],
    sampleRequirement ⟨"keep".toList, by decide⟩ .mustNot
      ⟨21, 43, "Do not edit src/b.mjs.".toList⟩ ["src/b.mjs".toList]]
    [⟨"src/a.mjs".toList, by decide⟩] [contractTree]

def editMap : PathAuthorityMap where
  schemaVersion := 1
  taskSpecDigest := sampleDigest
  sourceRequestDigest := sampleDigest
  policyDigest := sampleDigest
  ownedPaths := [(⟨"src/a.mjs".toList, by decide⟩,
    .sourceRequirement ⟨"edit".toList, by decide⟩ ⟨0, 20, sampleDigest⟩)]

theorem editSpec_derivePathAuthority :
    derivePathAuthority asciiTables sampleDigests editSpec editRequest samplePolicy [] =
      .ok editMap := by
  decide +kernel

/-- The path named by the first sentence of the request is granted, inside the writable root. -/
theorem editSpec_authority_sound :
    ∃ root ∈ samplePolicy.writableRoots, root.matches "src/a.mjs".toList = true :=
  ((ownedPath_authority_sound editSpec_derivePathAuthority).2 _ mem_cons_self).1
    "src/a.mjs".toList (by decide) |>.1

end Vibemux
