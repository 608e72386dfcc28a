import Vibemux.Compiler.TaskSpec

/-!
# Source traceability of a task specification

`validateCoverage` decides whether a proposed reading of the request may be admitted for one task, and
`validateWorkflowCoverage` checks the clauses that one task leaves to another.
-/

namespace Vibemux

open Text SortDedup

/-- The text of one shared contract artifact; its digest must match the reference. -/
structure SharedContractText where
  reference : ArtifactRef
  text : List Char
deriving DecidableEq

/-- What the requirements leave uncovered. -/
structure CoverageViolation where
  code : String
  requirementId : Option (List Char)
  /-- Byte offset of the uncovered clause or marker, when relevant. -/
  sourceOffset : Option Nat
  /-- The number or literal concerned. -/
  detail : Option (List Char)
deriving DecidableEq, Ord

namespace CoverageViolation

/-- A violation that names nothing but its code. -/
def new (code : String) : CoverageViolation := ⟨code, none, none, none⟩

/-- A violation of a requirement. -/
def ofRequirement (code : String) (requirement : Requirement) : CoverageViolation :=
  { new code with requirementId := some requirement.requirementId.text }

/-- A violation of a requirement, with the number or literal concerned. -/
def ofDetail (code : String) (requirement : Requirement) (detail : List Char) :
    CoverageViolation :=
  { ofRequirement code requirement with detail := some detail }

/-- A violation at an offset of the request. -/
def atOffset (code : String) (offset : Nat) : CoverageViolation :=
  { new code with sourceOffset := some offset }

end CoverageViolation

/-- Counts describing an accepted candidate. -/
structure CoverageReport where
  clauseCount : Nat
  excludedClauseCount : Nat
  requirementCount : Nat
  prohibitionCount : Nat
deriving DecidableEq

/-- `violation`, when `found`. -/
def coverageIf (found : Bool) (violation : CoverageViolation) : List CoverageViolation :=
  if found then [violation] else []

section

variable (tables : UnicodeTables) (sha256 : List Char → Sha256Digest)

/-- Whether a contract text is the artifact that its reference names. -/
def SharedContractText.digestMatches (contract : SharedContractText) : Bool :=
  sha256 contract.text == contract.reference.sha256 &&
    byteLen contract.text == contract.reference.byteCount

/-- Contract texts whose digest matches a reference the spec declares. -/
def verifiedContracts (spec : TaskSpec) (contracts : List SharedContractText) :
    List SharedContractText :=
  contracts.filter fun contract =>
    spec.sharedContractRefs.contains contract.reference && contract.digestMatches sha256

def contractViolations (spec : TaskSpec) (contracts : List SharedContractText) :
    List CoverageViolation :=
  contracts.flatMap fun contract =>
    coverageIf (spec.sharedContractRefs.contains contract.reference &&
      !contract.digestMatches sha256)
      { CoverageViolation.new "contract_excerpt_mismatch" with
        detail := some contract.reference.artifactId.text }

/-- The request ranges a requirement cites. -/
def Requirement.ranges (requirement : Requirement) (request : SourceRequest) : List ByteRange :=
  requirement.sourceRefs.filterMap request.resolve

/-- The request texts a requirement cites. -/
def Requirement.spanTexts (requirement : Requirement) (request : SourceRequest) :
    List (List Char) :=
  (requirement.ranges request).map (textOf request.text)

/-- Whether an excerpt stands in one of the verified contracts. -/
def excerptFound (contracts : List SharedContractText) (excerpt : ContractExcerpt) : Bool :=
  contracts.any fun contract =>
    contract.reference.artifactId == excerpt.artifactId && excerpt.quoted != [] &&
      Text.contains contract.text excerpt.quoted

/-- Numbers: everything the request spans state must survive, and nothing may appear that neither
the spans nor the contract excerpts state. -/
def numberViolations (requirement : Requirement) (spanTexts excerptTexts : List (List Char)) :
    List CoverageViolation :=
  let requirementNumbers := sortDedup (numericTokens requirement.statement ++
    requirement.literals.flatMap numericTokens)
  let requestNumbers := sortDedup (spanTexts.flatMap numericTokens)
  let sourceNumbers := sortDedup (requestNumbers ++ excerptTexts.flatMap numericTokens)
  (requestNumbers.filter (!requirementNumbers.contains ·)).map
      (CoverageViolation.ofDetail "changed_number" requirement) ++
    (requirementNumbers.filter (!sourceNumbers.contains ·)).map
      (CoverageViolation.ofDetail "invented_number" requirement)

/-- Literals are carried byte for byte in both directions. -/
def literalViolations (requirement : Requirement) (request : SourceRequest)
    (excerptTexts : List (List Char)) : List CoverageViolation :=
  ((requirement.ranges request).flatMap fun range =>
      ((literalTokens request.text range).filter (!requirement.literals.contains ·)).map
        (CoverageViolation.ofDetail "literal_not_preserved" requirement)) ++
    (requirement.literals.filter fun literal =>
      !(requirement.spanTexts request ++ excerptTexts).any (Text.contains · literal)).map
      (CoverageViolation.ofDetail "literal_not_in_source" requirement)

/-- `validate_requirement`: the violations of one requirement. -/
def requirementCoverage (requirement : Requirement) (request : SourceRequest)
    (contracts : List SharedContractText) : List CoverageViolation :=
  let spanTexts := requirement.spanTexts request
  let excerptTexts := (requirement.contractExcerpts.filter (excerptFound contracts)).map
    ContractExcerpt.quoted
  (requirement.sourceRefs.flatMap fun span =>
      coverageIf (request.resolve span).isNone
        (.ofRequirement "span_mismatch" requirement)) ++
    coverageIf (requirement.sourceRefs == []) (.ofRequirement "invented_scope" requirement) ++
    (requirement.contractExcerpts.flatMap fun excerpt =>
      coverageIf (!excerptFound contracts excerpt)
        (.ofRequirement "contract_excerpt_mismatch" requirement)) ++
    coverageIf (containsCjk requirement.statement)
      (.ofRequirement "non_english_statement" requirement) ++
    numberViolations requirement spanTexts excerptTexts ++
    literalViolations requirement request excerptTexts ++
    -- a binding clause cannot become optional
    coverageIf (spanTexts.any (hasBindingMarker tables) && !requirement.force.isBinding)
      (.ofRequirement "weakened_force" requirement)

/-- The violations of one exclusion. -/
def exclusionViolations (request : SourceRequest) (exclusion : SourceExclusion) :
    List CoverageViolation :=
  match request.resolve exclusion.span with
  | none =>
    [{ CoverageViolation.new "span_mismatch" with detail := some "source_exclusions".toList }]
  | some range =>
    if (request.prohibitionMarkers tables).any range.overlaps then
      [.atOffset "prohibition_excluded" range.start]
    else
      coverageIf (hasBindingMarker tables (textOf request.text range) &&
        exclusion.reason != .addressedToOtherTask)
        (.atOffset "binding_clause_excluded" range.start)

/-- The cited ranges of a spec, with the force of the requirement that cites them. -/
def TaskSpec.requirementRanges (spec : TaskSpec) (request : SourceRequest) :
    List (ByteRange × NormativeForce) :=
  spec.requirements.flatMap fun requirement =>
    (requirement.ranges request).map fun range => (range, requirement.force)

/-- The excluded ranges of a spec. -/
def TaskSpec.exclusionRanges (spec : TaskSpec) (request : SourceRequest) : List ByteRange :=
  spec.sourceExclusions.filterMap fun exclusion => request.resolve exclusion.span

/-- The violations of a spec whose request digest matches. -/
def coverageViolations (spec : TaskSpec) (request : SourceRequest)
    (contracts : List SharedContractText) : List CoverageViolation :=
  let ranges := spec.requirementRanges request
  contractViolations sha256 spec contracts ++
    (spec.requirements.flatMap fun requirement =>
      requirementCoverage tables requirement request (verifiedContracts sha256 spec contracts)) ++
    spec.sourceExclusions.flatMap (exclusionViolations tables request) ++
    (request.clauses.flatMap fun clause =>
      coverageIf (!ranges.any (fun p => p.1.overlaps clause) &&
        !(spec.exclusionRanges request).any (·.overlaps clause))
        (.atOffset "missing_coverage" clause.start)) ++
    ((request.prohibitionMarkers tables).flatMap fun marker =>
      coverageIf (!ranges.any fun p => p.2.isBinding && p.1.contains marker)
        (.atOffset "dropped_prohibition" marker.start)) ++
    (spec.assumptions.flatMap fun assumption =>
      coverageIf (hasBindingMarker tables assumption.statement)
        { CoverageViolation.new "normative_assumption" with
          detail := some assumption.assumptionId.text })

/-- Validates a spec against the request and the shared contract texts. -/
def validateCoverage (spec : TaskSpec) (request : SourceRequest)
    (contracts : List SharedContractText) : Except (List CoverageViolation) CoverageReport :=
  if spec.originalRequestRef ≠ request.digest then
    .error [CoverageViolation.new "request_digest_mismatch"]
  else
    let violations := coverageViolations tables sha256 spec request contracts
    if violations = [] then
      .ok
        { clauseCount := request.clauses.length
          excludedClauseCount := (request.clauses.filter fun clause =>
            !(spec.requirementRanges request).any (fun p => p.1.overlaps clause) &&
              (spec.exclusionRanges request).any (·.overlaps clause)).length
          requirementCount := spec.requirements.length
          prohibitionCount := (request.prohibitionMarkers tables).length }
    else .error (sortDedup violations)

/-- Whether another spec of the workflow covers an excluded range, with binding force when the range
is binding. -/
def coveredElsewhere (specs : List TaskSpec) (request : SourceRequest) (index : Nat)
    (excluded : ByteRange) : Bool :=
  let binding := hasBindingMarker tables (textOf request.text excluded)
  specs.zipIdx.any fun p =>
    p.2 != index && p.1.requirements.any fun requirement =>
      (!binding || requirement.force.isBinding) &&
        (requirement.ranges request).any (·.overlaps excluded)

/-- The violations of one exclusion addressed to another task. -/
def assignmentViolations (specs : List TaskSpec) (request : SourceRequest) (index : Nat)
    (spec : TaskSpec) (exclusion : SourceExclusion) : List CoverageViolation :=
  if exclusion.reason ≠ .addressedToOtherTask then []
  else
    match request.resolve exclusion.span with
    | none =>
      [{ CoverageViolation.new "span_mismatch" with detail := some "source_exclusions".toList }]
    | some excluded =>
      coverageIf (!coveredElsewhere tables specs request index excluded)
        { CoverageViolation.atOffset "unassigned_clause" excluded.start with
          detail := some spec.taskKey.text }

/-- Cross-task coverage of one workflow: every clause a task excludes as addressed to another task
must be covered by a requirement of another task. -/
def validateWorkflowCoverage (specs : List TaskSpec) (request : SourceRequest) :
    Except (List CoverageViolation) Unit :=
  let violations := specs.zipIdx.flatMap fun p =>
    p.1.sourceExclusions.flatMap (assignmentViolations tables specs request p.2 p.1)
  if violations = [] then .ok () else .error (sortDedup violations)

end

end Vibemux
