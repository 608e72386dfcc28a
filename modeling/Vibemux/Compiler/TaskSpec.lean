import Vibemux.Compiler.SourceRequest

/-!
# The task specification

A `TaskSpec` is the typed form of an operator's request. A candidate may come from a model, so nothing
in it is trusted until the checks accept it.
-/

namespace Vibemux

open Text SortDedup

instance : Ord SpecIdentifier := ⟨fun a b => compare a.text b.text⟩

instance : Ord PathPattern := ⟨fun a b => compare a.text b.text⟩

/-- `TASK_SPEC_SCHEMA_VERSION`. -/
def taskSpecSchemaVersion : Nat := 1

def maxRequirements : Nat := 64

def maxListItems : Nat := 64

def maxLiteralsPerRequirement : Nat := 16

def maxStatementBytes : Nat := 2048

def maxObjectiveBytes : Nat := 4096

def maxLiteralBytes : Nat := 4096

def maxShortTextBytes : Nat := 1024

def maxContextBundleBytes : Nat := 16 * 1024

def maxMessagesPerTurn : Nat := 8

/-- The language of a request. -/
inductive SourceLanguage where
  | zh
  | en
  | mixed
  | other
deriving DecidableEq

/-- How binding a requirement is. -/
inductive NormativeForce where
  | must
  | mustNot
  | should
  | may
deriving DecidableEq

/-- `must` and `must_not` bind the worker; the others do not. -/
def NormativeForce.isBinding : NormativeForce → Bool
  | .must => true
  | .mustNot => true
  | .should => false
  | .may => false

/-- An exact excerpt of a shared contract artifact. -/
structure ContractExcerpt where
  artifactId : SpecIdentifier
  quoted : List Char
deriving DecidableEq, Ord

/-- One requirement with its sources. -/
structure Requirement where
  requirementId : SpecIdentifier
  /-- English instruction text. -/
  statement : List Char
  force : NormativeForce
  /-- Spans of the original request. -/
  sourceRefs : List SourceSpan
  contractExcerpts : List ContractExcerpt
  /-- Values that must reach the worker byte for byte. -/
  literals : List (List Char)
  acceptanceCheckIds : List SpecIdentifier
deriving DecidableEq

/-- A labeled inference, never normative. -/
structure Assumption where
  assumptionId : SpecIdentifier
  statement : List Char
  rationale : List Char
deriving DecidableEq

/-- Why a span of the request is no requirement. -/
inductive ExclusionReason where
  | backgroundContext
  | exampleData
  | addressedToOtherTask
deriving DecidableEq

/-- A part of the request that is deliberately left uncovered. -/
structure SourceExclusion where
  span : SourceSpan
  reason : ExclusionReason
deriving DecidableEq

/-- The kinds of acceptance checks. -/
inductive CheckKind where
  | existingVerifierSuite
  | proposedTest
  | reviewCriterion
deriving DecidableEq

/-- How a requirement is checked. -/
structure AcceptanceCheck where
  checkId : SpecIdentifier
  kind : CheckKind
  description : List Char
  /-- Required for, and only allowed on, `existingVerifierSuite`. -/
  verifierSuite : Option SpecIdentifier
deriving DecidableEq

/-- The types of input artifacts. -/
inductive MediaType where
  | textMarkdown
  | textPlain
  | applicationJson
  | javascript
deriving DecidableEq, Ord

/-- An input artifact, by its digest. -/
structure ArtifactRef where
  artifactId : SpecIdentifier
  sha256 : Sha256Digest
  byteCount : Nat
  mediaType : MediaType
deriving DecidableEq, Ord

/-- The tools of a worker. -/
inductive ToolName where
  | readFiles
  | searchFiles
  | editFiles
  | writeFiles
  | runDevTests
deriving DecidableEq, Ord

/-- The roles of a worker. -/
inductive WorkerRole where
  | backendDomain
  | frontend
  | storeComponent
  | reviewer
  | integrator
  | generic
deriving DecidableEq

/-- How the tasks of a workflow relate. -/
inductive WorkflowMode where
  | cooperate
  | compare
  | review
deriving DecidableEq

/-- The sources of a worker's context. -/
inductive ContextSourceKind where
  | verifierReceipts
  | candidateSnapshot
  | workerClaims
  | publicMessages
  | contractText
deriving DecidableEq

/-- What has to confirm a candidate. -/
inductive AcceptanceLevel where
  | turnCompleted
  | candidateArtifactCollected
  | independentReviewPassed
  | localVerifierPassed
  | integrationCandidateVerified
  | workflowAccepted
deriving DecidableEq, Ord

/-- The kinds of messages between participants. -/
inductive MessageKind where
  | question
  | answer
  | contextOffer
  | contextRequest
  | contextGrant
  | interfaceProposal
  | finding
  | blocked
  | progress
  | artifactReady
deriving DecidableEq, Ord

/-- What a slot can do. -/
inductive SlotCapability where
  | structuredTurn
  | writableWorktree
  | nativeTui
  | contextExport
  | cancellation
  | nativeResume
  | verbatimPrompt
  | modelRouting
deriving DecidableEq, Ord

/-- What a worker has to hand in. -/
structure OutputContract where
  checkpointReportRequired : Bool
  changesWithinOwnedPaths : Bool
deriving DecidableEq

/-- Whom a worker may write to, and what. -/
structure CommunicationPolicy where
  /-- Task keys this task may address through the broker. -/
  mayMessage : List SpecIdentifier
  maxMessagesPerTurn : Nat
  autoAuthorizedKinds : List MessageKind
deriving DecidableEq

/-- What a worker's context may hold. -/
structure ContextPolicy where
  maxBundleBytes : Nat
  retrievalOrder : List ContextSourceKind
  allowPublicExcerpts : Bool
deriving DecidableEq

/-- The limits of a task. -/
structure ResourceBudget where
  maxTurns : Nat
  maxRepairs : Nat
  maxElapsedSeconds : Nat
  maxModelRequests : Nat
deriving DecidableEq

/-- The specification of one task. -/
structure TaskSpec where
  schemaVersion : Nat
  workflowKey : SpecIdentifier
  taskKey : SpecIdentifier
  contractVersion : Nat
  /-- SHA-256 of the original request bytes. -/
  originalRequestRef : Sha256Digest
  sourceLanguage : SourceLanguage
  requirements : List Requirement
  objective : List Char
  nonGoals : List (List Char)
  assumptions : List Assumption
  unresolvedQuestions : List (List Char)
  sourceExclusions : List SourceExclusion
  baseCommit : List Char
  inputArtifacts : List ArtifactRef
  sharedContractRefs : List ArtifactRef
  ownedPaths : List PathPattern
  readScopes : List PathPattern
  forbiddenPaths : List PathPattern
  dependencies : List SpecIdentifier
  requiredCapabilities : List SlotCapability
  permittedTools : List ToolName
  acceptanceChecks : List AcceptanceCheck
  outputContract : OutputContract
  /-- The levels of `completion_definition`. -/
  requiredLevels : List AcceptanceLevel
  communicationPolicy : CommunicationPolicy
  contextPolicy : ContextPolicy
  resourceBudget : ResourceBudget
  role : WorkerRole
  workflowMode : WorkflowMode
  templateVersion : SpecIdentifier
  policyVersion : SpecIdentifier
deriving DecidableEq

/-- One structural defect, as a stable code and the offending field path. -/
structure SpecViolation where
  code : String
  field : String
deriving DecidableEq, Ord

/-- The violation `code` at `field`, when `found`. -/
def violationIf (found : Bool) (code field : String) : List SpecViolation :=
  if found then [⟨code, field⟩] else []

/-- The result of a check that collects violations. -/
def reportViolations (violations : List SpecViolation) : Except (List SpecViolation) Unit :=
  if violations = [] then .ok () else .error (sortDedup violations)

theorem reportViolations_eq_ok {violations : List SpecViolation} {u : Unit} :
    reportViolations violations = .ok u ↔ violations = [] := by
  unfold reportViolations
  split_ifs with h <;> simp [h]

def Requirement.normalized (requirement : Requirement) : Requirement :=
  { requirement with
    sourceRefs := sortDedup requirement.sourceRefs
    contractExcerpts := sortDedup requirement.contractExcerpts
    acceptanceCheckIds := sortDedup requirement.acceptanceCheckIds }

/-- Sorted set-like fields without repetitions, and lists in the order of their identifiers. -/
def TaskSpec.normalized (spec : TaskSpec) : TaskSpec :=
  { spec with
    requirements := (sortBy Requirement.requirementId spec.requirements).map
      Requirement.normalized
    assumptions := sortBy Assumption.assumptionId spec.assumptions
    acceptanceChecks := sortBy AcceptanceCheck.checkId spec.acceptanceChecks
    sourceExclusions := sortBy SourceExclusion.span spec.sourceExclusions
    inputArtifacts := sortDedup spec.inputArtifacts
    sharedContractRefs := sortDedup spec.sharedContractRefs
    ownedPaths := sortDedup spec.ownedPaths
    readScopes := sortDedup spec.readScopes
    forbiddenPaths := sortDedup spec.forbiddenPaths
    dependencies := sortDedup spec.dependencies
    requiredCapabilities := sortDedup spec.requiredCapabilities
    permittedTools := sortDedup spec.permittedTools
    requiredLevels := sortDedup spec.requiredLevels
    communicationPolicy := { spec.communicationPolicy with
      mayMessage := sortDedup spec.communicationPolicy.mayMessage
      autoAuthorizedKinds := sortDedup spec.communicationPolicy.autoAuthorizedKinds } }

/-- A full 40- or 64-character lowercase hexadecimal commit ID. -/
def isFullCommit (value : List Char) : Bool :=
  (byteLen value == 40 || byteLen value == 64) &&
    value.all fun c => c.isDigit || (decide ('a' ≤ c) && decide (c ≤ 'f'))

/-- Text fields are bounded, not blank, and without control characters. -/
def checkText (field : String) (value : List Char) (maxBytes : Nat) : List SpecViolation :=
  violationIf (trim value == [] || decide (maxBytes < byteLen value) || value.any isControl)
    "task_spec_invalid_text" field

/-- The violations of each element of a list, with its position. -/
def eachIndexed {α : Type} (check : Nat → α → List SpecViolation) (l : List α) :
    List SpecViolation :=
  (l.zipIdx.map fun p => check p.2 p.1).flatten

/-- Whether an element of the list has the same key as an earlier one. -/
def repeatsEarlier {α β : Type} [DecidableEq β] (key : α → β) (l : List α) (index : Nat) (a : α) :
    Bool :=
  ((l.take index).map key).contains (key a)

def requirementViolations (spec : TaskSpec) (index : Nat) (requirement : Requirement) :
    List SpecViolation :=
  let field := s!"requirements[{index}]"
  let checkIds := spec.acceptanceChecks.map AcceptanceCheck.checkId
  violationIf (repeatsEarlier Requirement.requirementId spec.requirements index requirement)
      "task_spec_duplicate_requirement_id" field ++
    checkText s!"{field}.statement" requirement.statement maxStatementBytes ++
    violationIf (decide (maxLiteralsPerRequirement < requirement.literals.length))
      "task_spec_too_many_literals" s!"{field}.literals" ++
    eachIndexed (fun literalIndex literal =>
      violationIf (literal == [] || decide (maxLiteralBytes < byteLen literal) ||
        literal.contains '\x00') "task_spec_invalid_literal" s!"{field}.literals[{literalIndex}]")
      requirement.literals ++
    violationIf (requirement.acceptanceCheckIds == []) "task_spec_requirement_without_check"
      field ++
    (requirement.acceptanceCheckIds.flatMap fun checkId =>
      violationIf (!checkIds.contains checkId) "task_spec_unknown_check_reference" field) ++
    (requirement.sourceRefs.flatMap fun span =>
      violationIf (decide (span.stop ≤ span.start) || span.quoted == [])
        "task_spec_invalid_source_span" s!"{field}.source_refs")

def acceptanceCheckViolations (index : Nat) (check : AcceptanceCheck) : List SpecViolation :=
  let field := s!"acceptance_checks[{index}]"
  checkText s!"{field}.description" check.description maxShortTextBytes ++
    violationIf ((check.kind == .existingVerifierSuite) != check.verifierSuite.isSome)
      "task_spec_check_suite_mismatch" field

def assumptionViolations (spec : TaskSpec) (index : Nat) (assumption : Assumption) :
    List SpecViolation :=
  let field := s!"assumptions[{index}]"
  violationIf (repeatsEarlier Assumption.assumptionId spec.assumptions index assumption)
      "task_spec_duplicate_assumption_id" field ++
    checkText s!"{field}.statement" assumption.statement maxShortTextBytes ++
    checkText s!"{field}.rationale" assumption.rationale maxShortTextBytes

def textListViolations (name : String) (items : List (List Char)) : List SpecViolation :=
  violationIf (decide (maxListItems < items.length)) "task_spec_list_too_long" name ++
    eachIndexed (fun index item => checkText s!"{name}[{index}]" item maxShortTextBytes) items

def lengthViolations (name : String) (count : Nat) : List SpecViolation :=
  violationIf (decide (maxListItems < count)) "task_spec_list_too_long" name

/-- Every structural violation, in the order of the source. -/
def TaskSpec.structureViolations (spec : TaskSpec) : List SpecViolation :=
  violationIf (spec.schemaVersion != taskSpecSchemaVersion) "task_spec_schema_unsupported"
      "schema_version" ++
    violationIf (spec.contractVersion == 0) "task_spec_invalid_contract_version"
      "contract_version" ++
    violationIf (!isFullCommit spec.baseCommit) "task_spec_invalid_base_commit" "base_commit" ++
    checkText "objective" spec.objective maxObjectiveBytes ++
    violationIf (spec.requirements == [] || decide (maxRequirements < spec.requirements.length))
      "task_spec_requirement_count" "requirements" ++
    violationIf (decide ¬ (spec.acceptanceChecks.map AcceptanceCheck.checkId).Nodup)
      "task_spec_duplicate_check_id" "acceptance_checks" ++
    eachIndexed (requirementViolations spec) spec.requirements ++
    eachIndexed acceptanceCheckViolations spec.acceptanceChecks ++
    eachIndexed (assumptionViolations spec) spec.assumptions ++
    textListViolations "non_goals" spec.nonGoals ++
    textListViolations "unresolved_questions" spec.unresolvedQuestions ++
    lengthViolations "owned_paths" spec.ownedPaths.length ++
    lengthViolations "read_scopes" spec.readScopes.length ++
    lengthViolations "forbidden_paths" spec.forbiddenPaths.length ++
    lengthViolations "input_artifacts" spec.inputArtifacts.length ++
    lengthViolations "shared_contract_refs" spec.sharedContractRefs.length ++
    lengthViolations "dependencies" spec.dependencies.length ++
    lengthViolations "acceptance_checks" spec.acceptanceChecks.length ++
    lengthViolations "source_exclusions" spec.sourceExclusions.length ++
    violationIf (spec.role != .reviewer && spec.ownedPaths == []) "task_spec_no_owned_paths"
      "owned_paths" ++
    violationIf (spec.role == .reviewer && (spec.ownedPaths != [] ||
      spec.permittedTools.any fun tool => tool == .editFiles || tool == .writeFiles))
      "task_spec_reviewer_must_not_write" "permitted_tools" ++
    (spec.ownedPaths.flatMap fun owned =>
      violationIf (spec.forbiddenPaths.any owned.overlaps) "task_spec_owned_path_forbidden"
        ("owned_paths:" ++ String.ofList owned.text)) ++
    violationIf (spec.dependencies.contains spec.taskKey) "task_spec_self_dependency"
      "dependencies" ++
    violationIf (!spec.outputContract.checkpointReportRequired ||
      !spec.outputContract.changesWithinOwnedPaths) "task_spec_output_contract_weakened"
      "output_contract" ++
    ([AcceptanceLevel.candidateArtifactCollected, .independentReviewPassed,
      .localVerifierPassed].flatMap fun required =>
        violationIf (spec.role != .reviewer && !spec.requiredLevels.contains required)
          "task_spec_completion_too_weak" "completion_definition") ++
    violationIf (decide (maxMessagesPerTurn < spec.communicationPolicy.maxMessagesPerTurn))
      "task_spec_message_budget_too_large" "communication_policy" ++
    violationIf (spec.communicationPolicy.mayMessage.contains spec.taskKey)
      "task_spec_self_message" "communication_policy" ++
    violationIf (spec.contextPolicy.maxBundleBytes == 0 ||
      decide (maxContextBundleBytes < spec.contextPolicy.maxBundleBytes))
      "task_spec_invalid_bundle_budget" "context_policy" ++
    violationIf (spec.resourceBudget.maxTurns == 0 || spec.resourceBudget.maxElapsedSeconds == 0 ||
      spec.resourceBudget.maxModelRequests == 0) "task_spec_invalid_budget" "resource_budget"

/-- Structural checks that need no source text or policy. -/
def TaskSpec.validateStructure (spec : TaskSpec) : Except (List SpecViolation) Unit :=
  reportViolations spec.structureViolations

end Vibemux
