import Vibemux.Compiler.Validation

/-!
# Binding clauses of the request

The validators judge force from the cited or excluded text alone, so a citation that leaves the marker
out may be optional. `bindingClausesKept_iff` says exactly when no binding clause is lost.
-/

namespace Vibemux

open Text List

variable {tables : UnicodeTables} {sha256 : List Char → Sha256Digest} {spec : TaskSpec}
  {specs : List TaskSpec} {request : SourceRequest} {contracts : List SharedContractText}

theorem coverageIf_eq_nil {found : Bool} {violation : CoverageViolation} :
    coverageIf found violation = [] ↔ found = false := by
  cases found <;> simp [coverageIf]

section

variable {report : CoverageReport}
  (h : validateCoverage tables sha256 spec request contracts = .ok report)
include h

/-- The result of `validateCoverage` when it accepts. -/
theorem coverageViolations_of_validateCoverage :
    coverageViolations tables sha256 spec request contracts = [] := by
  unfold validateCoverage at h
  dsimp only at h
  split_ifs at h with hdigest hnone
  exact hnone

/-- A requirement that cites binding text has binding force. -/
theorem isBinding_of_validateCoverage {requirement : Requirement}
    (hmem : requirement ∈ spec.requirements)
    (hcites : (requirement.spanTexts request).any (hasBindingMarker tables) = true) :
    requirement.force.isBinding = true := by
  have hnone := coverageViolations_of_validateCoverage h
  simp only [coverageViolations, append_eq_nil_iff, flatMap_eq_nil_iff] at hnone
  obtain ⟨⟨⟨⟨⟨-, hrequirements⟩, -⟩, -⟩, -⟩, -⟩ := hnone
  have hrequirement := hrequirements requirement hmem
  simp only [requirementCoverage, append_eq_nil_iff, coverageIf_eq_nil, hcites,
    Bool.true_and, Bool.not_eq_false'] at hrequirement
  exact hrequirement.2

end

/-- An exclusion addressed to another task is covered by another task, with binding force when the
excluded text is binding. -/
theorem covered_of_validateWorkflowCoverage {exclusion : SourceExclusion} {excluded : ByteRange}
    (h : validateWorkflowCoverage tables specs request = .ok ()) (hspec : spec ∈ specs)
    (hexclusion : exclusion ∈ spec.sourceExclusions)
    (hreason : exclusion.reason = .addressedToOtherTask)
    (hresolve : request.resolve exclusion.span = some excluded)
    (hbinding : hasBindingMarker tables (textOf request.text excluded) = true) :
    ∃ other ∈ specs, ∃ requirement ∈ other.requirements, requirement.force.isBinding = true ∧
      ∃ range ∈ requirement.ranges request, range.overlaps excluded = true := by
  unfold validateWorkflowCoverage at h
  dsimp only at h
  split_ifs at h with hnone
  simp only [flatMap_eq_nil_iff] at hnone
  obtain ⟨index, hindex⟩ := mem_iff_getElem?.1 hspec
  have hviolations := hnone (spec, index) (mem_zipIdx_iff_getElem?.2 hindex) exclusion
    hexclusion
  simp only [assignmentViolations, hreason, ne_eq, not_true_eq_false, if_false, hresolve,
    coverageIf_eq_nil, Bool.not_eq_false'] at hviolations
  unfold coveredElsewhere at hviolations
  simp only [hbinding, Bool.not_true, Bool.false_or, any_eq_true, Bool.and_eq_true]
    at hviolations
  obtain ⟨⟨other, _⟩, hother, -, requirement, hrequirement, hforce, range, hrange,
    hoverlaps⟩ := hviolations
  exact ⟨other, mem_of_getElem? (mem_zipIdx_iff_getElem?.1 hother), requirement,
    hrequirement, hforce, range, hrange, hoverlaps⟩

theorem ByteRange.overlaps_of_contains {range inner outer : ByteRange}
    (hinner : range.overlaps inner = true) (hcontains : outer.contains inner = true) :
    range.overlaps outer = true := by
  simp only [ByteRange.overlaps, ByteRange.contains, Bool.and_eq_true, decide_eq_true_eq]
    at hinner hcontains ⊢
  omega

/-- A clause that contains a binding marker outside literal regions. -/
def IsBindingClause (tables : UnicodeTables) (request : SourceRequest) (clause : ByteRange) : Prop :=
  clause ∈ request.clauses ∧
    ∃ marker ∈ request.markersOutsideLiterals tables bindingMarkerTable,
      clause.contains marker = true

/-- Whether one of the ranges a requirement cites overlaps the clause. -/
def Requirement.touches (requirement : Requirement) (request : SourceRequest)
    (clause : ByteRange) : Prop :=
  ∃ range ∈ requirement.ranges request, range.overlaps clause = true

/-- Every binding clause is overlapped by a cited range of a binding requirement. -/
def BindingClausesKept (tables : UnicodeTables) (specs : List TaskSpec)
    (request : SourceRequest) : Prop :=
  ∀ clause, IsBindingClause tables request clause →
    ∃ spec ∈ specs, ∃ requirement ∈ spec.requirements,
      requirement.force.isBinding = true ∧ requirement.touches request clause

/-- What a spec says about a clause shows nothing binding: the requirements that touch the clause
are optional and cite only text without a marker, and the exclusions inside the clause that are
addressed to another task leave the markers out. -/
def ShownOptional (tables : UnicodeTables) (request : SourceRequest) (clause : ByteRange)
    (spec : TaskSpec) : Prop :=
  (∀ requirement ∈ spec.requirements, requirement.touches request clause →
    requirement.force.isBinding = false ∧
      (requirement.spanTexts request).any (hasBindingMarker tables) = false) ∧
  ∀ exclusion ∈ spec.sourceExclusions, exclusion.reason = .addressedToOtherTask →
    ∀ excluded, request.resolve exclusion.span = some excluded →
      clause.contains excluded = true →
        hasBindingMarker tables (textOf request.text excluded) = false

/-- For specs that pass both validators, no binding clause is lost exactly when none is shown as
optional by every spec. -/
theorem bindingClausesKept_iff
    (hspecs : ∀ spec ∈ specs, ∃ report,
      validateCoverage tables sha256 spec request contracts = .ok report)
    (hworkflow : validateWorkflowCoverage tables specs request = .ok ()) :
    BindingClausesKept tables specs request ↔
      ∀ clause, IsBindingClause tables request clause →
        ¬ ∀ spec ∈ specs, ShownOptional tables request clause spec := by
  constructor
  · intro hkept clause hclause hoptional
    obtain ⟨spec, hspec, requirement, hrequirement, hbinding, htouches⟩ := hkept clause hclause
    have hweak := ((hoptional spec hspec).1 requirement hrequirement htouches).1
    rw [hbinding] at hweak
    cases hweak
  · intro hshown clause hclause
    by_contra hlost
    refine hshown clause hclause fun spec hspec => ⟨?_, ?_⟩
    · intro requirement hrequirement htouches
      obtain ⟨report, hreport⟩ := hspecs spec hspec
      have hforce : requirement.force.isBinding = false := by
        by_contra hbinding
        exact hlost ⟨spec, hspec, requirement, hrequirement, by simpa using hbinding, htouches⟩
      refine ⟨hforce, ?_⟩
      by_contra hcites
      have hbinding := isBinding_of_validateCoverage hreport hrequirement (by simpa using hcites)
      rw [hforce] at hbinding
      cases hbinding
    · intro exclusion hexclusion hreason excluded hresolve hinside
      by_contra hbinding
      -- another task binds the excluded text, and with it the clause around it
      obtain ⟨other, hother, requirement, hrequirement, hforce, range, hrange, hoverlaps⟩ :=
        covered_of_validateWorkflowCoverage hworkflow hspec hexclusion hreason hresolve
          (by simpa using hbinding)
      exact hlost ⟨other, hother, requirement, hrequirement, hforce, range, hrange,
        ByteRange.overlaps_of_contains hoverlaps hinside⟩

/-! ## A lost clause -/

/-- The tables on ASCII text. -/
def asciiTables : UnicodeTables := ⟨Char.isAlphanum, toAsciiLowercase⟩

def sampleDigest : Sha256Digest := ⟨1⟩

def sampleRequirement (requirementId : SpecIdentifier) (force : NormativeForce) (span : SourceSpan)
    (literals : List (List Char)) : Requirement :=
  { requirementId := requirementId
    statement := "Do what the request says".toList
    force := force
    sourceRefs := [span]
    contractExcerpts := []
    literals := literals
    acceptanceCheckIds := [⟨"check".toList, by decide⟩] }

def specWorkflowKey : SpecIdentifier := ⟨"flow".toList, by decide⟩

def specTaskKey : SpecIdentifier := ⟨"task".toList, by decide⟩

def sampleVersion : SpecIdentifier := ⟨"v1".toList, by decide⟩

def sampleSpec (requirements : List Requirement) (ownedPaths forbiddenPaths : List PathPattern) :
    TaskSpec :=
  { schemaVersion := 1
    workflowKey := specWorkflowKey
    taskKey := specTaskKey
    contractVersion := 1
    originalRequestRef := sampleDigest
    sourceLanguage := .en
    requirements := requirements
    objective := "Do the task".toList
    nonGoals := []
    assumptions := []
    unresolvedQuestions := []
    sourceExclusions := []
    baseCommit := List.replicate 40 '0'
    inputArtifacts := []
    sharedContractRefs := []
    ownedPaths := ownedPaths
    readScopes := []
    forbiddenPaths := forbiddenPaths
    dependencies := []
    requiredCapabilities := []
    permittedTools := [.readFiles]
    acceptanceChecks := [⟨⟨"check".toList, by decide⟩, .reviewCriterion, "It works".toList, none⟩]
    outputContract := ⟨true, true⟩
    requiredLevels := [.candidateArtifactCollected, .independentReviewPassed, .localVerifierPassed]
    communicationPolicy := ⟨[], 0, []⟩
    contextPolicy := ⟨1024, [], false⟩
    resourceBudget := ⟨1, 0, 60, 1⟩
    role := .generic
    workflowMode := .cooperate
    templateVersion := sampleVersion
    policyVersion := sampleVersion }

def renameRequest : SourceRequest :=
  ⟨"You must rename foo now.".toList, sampleDigest, by decide⟩

def sourceTree : PathPattern := ⟨"src/**".toList, by decide⟩

/-- The clause is cited from `rename` on, as a recommendation. -/
def renameSpec : TaskSpec :=
  sampleSpec [sampleRequirement ⟨"rename".toList, by decide⟩ .should
    ⟨9, 24, "rename foo now.".toList⟩ []] [sourceTree] []

theorem renameSpec_validateCoverage :
    validateCoverage asciiTables (fun _ => sampleDigest) renameSpec renameRequest [] =
      .ok ⟨1, 0, 1, 0⟩ := by
  decide +kernel

theorem renameSpec_validateWorkflowCoverage :
    validateWorkflowCoverage asciiTables [renameSpec] renameRequest = .ok () := by
  decide +kernel

theorem renameRequest_isBindingClause : IsBindingClause asciiTables renameRequest ⟨0, 24⟩ :=
  ⟨by decide +kernel, ⟨4, 8⟩, by decide +kernel, by decide⟩

/-- Both validators accept an optional citation of a `must` clause. -/
theorem renameSpec_loses_clause :
    renameSpec.validateStructure = .ok () ∧
    validateCoverage asciiTables (fun _ => sampleDigest) renameSpec renameRequest [] =
      .ok ⟨1, 0, 1, 0⟩ ∧
    validateWorkflowCoverage asciiTables [renameSpec] renameRequest = .ok () ∧
    ¬ BindingClausesKept asciiTables [renameSpec] renameRequest := by
  refine ⟨by decide +kernel, renameSpec_validateCoverage, renameSpec_validateWorkflowCoverage, fun hkept => ?_⟩
  obtain ⟨_, hspec, _, hrequirement, hbinding, -⟩ :=
    hkept ⟨0, 24⟩ renameRequest_isBindingClause
  obtain rfl := mem_singleton.1 hspec
  obtain rfl := mem_singleton.1 hrequirement
  cases hbinding

/-- The criterion for that spec. -/
theorem renameSpec_kept_iff :
    BindingClausesKept asciiTables [renameSpec] renameRequest ↔
      ∀ clause, IsBindingClause asciiTables renameRequest clause →
        ¬ ∀ spec ∈ [renameSpec], ShownOptional asciiTables renameRequest clause spec := by
  have hspecs : ∀ spec ∈ [renameSpec], ∃ report,
      validateCoverage asciiTables (fun _ => sampleDigest) spec renameRequest [] = .ok report := by
    intro spec hspec
    rw [mem_singleton.1 hspec]
    exact ⟨_, renameSpec_validateCoverage⟩
  exact bindingClausesKept_iff hspecs renameSpec_validateWorkflowCoverage

end Vibemux
