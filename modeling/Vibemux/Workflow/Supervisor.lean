import Vibemux.Workflow.Messages
import Vibemux.Workflow.Slots

/-!
# The supervisor

The supervisor model proposes; the store authorizes and commits. There is no tool for a contract edit or
for a transition to success.
-/

namespace Vibemux

open Text SortDedup

def maxDecisionsPerProposal : Nat := 4

def maxRationaleBytes : Nat := 1024

/-- `supervisor::MAX_IDEMPOTENCY_KEY_BYTES`. -/
def maxDecisionKeyBytes : Nat := 128

/-- The tools of a supervisor. -/
inductive SupervisorTool where
  | inspectWorkflow
  | listSlots
  | readArtifact (artifactDigest : Sha256Digest)
  | queryContext (taskKey : SpecIdentifier)
  | proposePlan (tasks : List SpecIdentifier)
  | assignTask (taskKey slotId : SpecIdentifier)
  | sendMessage (recipient : SpecIdentifier) (text : List Char)
  | shareContext (fromTask toTask : SpecIdentifier) (requestMessageId : Uuid)
  | requestReview (taskKey : SpecIdentifier) (candidateDigest : Sha256Digest)
  | requestVerification (taskKey : SpecIdentifier) (candidateDigest : Sha256Digest)
  | proposeCandidateSelection (candidateDigest : Option Sha256Digest)
  | proposeIntegration (candidateDigests : List Sha256Digest)
  | pauseRun (taskKey : SpecIdentifier)
  | requestCancel (taskKey : Option SpecIdentifier)
  | requestHandoff (taskKey : SpecIdentifier)
  | reportBlocked (reasonCode : SpecIdentifier)
deriving DecidableEq

namespace SupervisorTool

/-- Read-only tools never change state. -/
def isReadOnly : SupervisorTool → Bool
  | inspectWorkflow | listSlots | readArtifact _ | queryContext _ => true
  | _ => false

/-- `runtime_tool_supported`: native handoff is a separate capability. -/
def isSupported : SupervisorTool → Bool
  | requestHandoff _ => false
  | _ => true

/-- The task a decision is about, for the check that no two decisions of a proposal conflict. -/
def target : SupervisorTool → Option SpecIdentifier
  | assignTask taskKey _ | requestReview taskKey _ | requestVerification taskKey _
  | queryContext taskKey | pauseRun taskKey | requestCancel (some taskKey) => some taskKey
  | sendMessage recipient _ => some recipient
  | shareContext _ toTask _ => some toTask
  | _ => none

def isCancel : SupervisorTool → Bool
  | requestCancel _ => true
  | _ => false

/-- The tools that must be the only decision of their proposal. -/
def standsAlone : SupervisorTool → Bool
  | proposePlan _ | proposeIntegration _ | proposeCandidateSelection _ | requestCancel none
  | reportBlocked _ => true
  | _ => false

end SupervisorTool

/-- One decision of a proposal. -/
structure SupervisorDecision where
  idempotencyKey : List Char
  expectedWorkflowVersion : Nat
  action : SupervisorTool
deriving DecidableEq

/-- What a supervisor proposes in a round. -/
structure SupervisorProposal where
  decisions : List SupervisorDecision
  rationale : List Char
  evidenceRefs : List (List Char)
deriving DecidableEq

/-- Who supervises a workflow. -/
inductive SupervisorMode where
  | deterministic
  | model
deriving DecidableEq

/-- The states of a supervisor. -/
inductive SupervisorExecutionState where
  | running
  | stopped
  | recoveryRequired
deriving DecidableEq

/-- Whether a supervisor lets a task go on. -/
inductive SupervisorTaskGate where
  | active
  | paused
  | cancelled
deriving DecidableEq

/-- A task under a supervisor. -/
structure SupervisorTaskBinding where
  contractId : Sha256Digest
  contractVersion : Nat
  allowedSlots : List SpecIdentifier
  dependencies : List SpecIdentifier
deriving DecidableEq

/-- The supervisor of a workflow. -/
structure SupervisorExecution where
  workflowId : Uuid
  generation : Nat
  startRequestId : Uuid
  mode : SupervisorMode
  state : SupervisorExecutionState
  planDigest : Sha256Digest
  configDigest : Sha256Digest
  /-- In the order of the task keys. -/
  tasks : List (SpecIdentifier × SupervisorTaskBinding)
  slotHarnesses : List (SpecIdentifier × AgentKind)
  reviewerSlot : SpecIdentifier
  taskOrder : List SpecIdentifier
  taskGates : List (SpecIdentifier × SupervisorTaskGate)
  nextRound : Nat
  maxModelCalls : Nat
  deadlineUnixMs : Nat
  activeRound : Option Uuid
deriving DecidableEq

/-- The states of an action. -/
inductive SupervisorActionState where
  | pending
  | claimed
  | applied
  | blocked
  | unknown
deriving DecidableEq

/-- The message that an action sends. -/
structure SupervisorMessageBinding where
  bodySha256 : Sha256Digest
  bodyBytes : Nat
deriving DecidableEq

/-- An action of a supervisor. -/
structure SupervisorAction where
  actionId : Uuid
  workflowId : Uuid
  generation : Nat
  roundId : Uuid
  idempotencyKey : List Char
  fingerprint : Sha256Digest
  /-- The text of a stored message is empty; its body is bound by `messageBody`. -/
  action : SupervisorTool
  messageBody : Option SupervisorMessageBinding
  state : SupervisorActionState
  dispatchRequestId : Option Uuid
  resultRefs : List Uuid
  resultCode : Option SpecIdentifier
deriving DecidableEq

/-- A candidate, as a supervisor sees it. -/
structure SupervisorCandidate where
  candidate : CandidateRecord
  requestId : Uuid
  reviewed : Bool
  verified : Bool
  gatePassed : Bool
  testsPassed : Nat
  changedBytes : Nat
deriving DecidableEq

/-- The committed facts a round is decided on. -/
structure SupervisorObservation where
  execution : SupervisorExecution
  workflow : WorkflowRecord
  /-- In the order of the task keys. -/
  eligibleSlots : List (SpecIdentifier × List SpecIdentifier)
  candidates : List SupervisorCandidate
  selection : Option SelectionOutcome
deriving DecidableEq

/-- The code, when `found`. -/
def codeIf (found : Prop) [Decidable found] (code : String) : List String :=
  if found then [code] else []

/-! ## Validation of a proposal -/

/-- The committed facts `validate_proposal` checks against. -/
structure SupervisorFacts where
  workflowVersion : Nat
  admitsWork : Bool
  tasks : List SpecIdentifier
  eligibleSlots : List SpecIdentifier
  acceptedCandidates : List (SpecIdentifier × Sha256Digest)
  collectedCandidates : List (SpecIdentifier × Sha256Digest)
  selection : Option SelectionOutcome

/-- What is wrong with the tool of one decision. -/
def toolRejections (facts : SupervisorFacts) : SupervisorTool → List String
  | .assignTask taskKey slotId =>
    codeIf (taskKey ∉ facts.tasks) "supervisor_unknown_task" ++
      codeIf (slotId ∉ facts.eligibleSlots) "supervisor_ineligible_slot"
  | .queryContext taskKey | .pauseRun taskKey | .requestHandoff taskKey
  | .requestCancel (some taskKey) => codeIf (taskKey ∉ facts.tasks) "supervisor_unknown_task"
  | .proposePlan tasks => codeIf (∃ task ∈ tasks, task ∉ facts.tasks) "supervisor_unknown_task"
  | .shareContext fromTask toTask _ =>
    codeIf (fromTask ∉ facts.tasks ∨ toTask ∉ facts.tasks ∨ fromTask = toTask)
      "supervisor_unknown_task"
  | .sendMessage recipient text =>
    codeIf (recipient ∉ facts.tasks) "supervisor_unknown_task" ++
      codeIf (trim text = [] ∨ maxMessageBodyBytes < byteLen text ∨ '\x00' ∈ text)
        "supervisor_invalid_text"
  | .requestReview taskKey digest | .requestVerification taskKey digest =>
    codeIf ((taskKey, digest) ∉ facts.collectedCandidates ++ facts.acceptedCandidates)
      "supervisor_candidate_not_accepted"
  | .proposeCandidateSelection digest =>
    codeIf (facts.selection.map SelectionOutcome.winner ≠ some digest)
      "supervisor_selection_mismatch"
  | .proposeIntegration digests =>
    codeIf (digests = [] ∨ ∃ digest ∈ digests, digest ∉ facts.acceptedCandidates.map Prod.snd)
      "supervisor_integration_not_approved"
  | .inspectWorkflow | .listSlots | .readArtifact _ | .requestCancel none | .reportBlocked _ => []

def isDecisionKey (key : List Char) : Bool :=
  key != [] && byteLen key ≤ maxDecisionKeyBytes &&
    key.all fun c => c.isAlphanum || c == '_' || c == '-'

/-- Whether the tool may be proposed while the workflow admits no work. -/
def allowedWhenStopped : SupervisorTool → Bool
  | .reportBlocked _ | .requestCancel _ => true
  | _ => false

/-- What is wrong with one decision, given the keys of the decisions before it. -/
def decisionRejections (facts : SupervisorFacts) (earlier : List (List Char))
    (decision : SupervisorDecision) : List String :=
  codeIf (isDecisionKey decision.idempotencyKey = false ∨ decision.idempotencyKey ∈ earlier)
      "supervisor_invalid_idempotency_key" ++
    codeIf (decision.expectedWorkflowVersion ≠ facts.workflowVersion) "supervisor_stale_version" ++
    codeIf (decision.action.isReadOnly = false ∧ facts.admitsWork = false ∧
      allowedWhenStopped decision.action = false) "supervisor_phase_forbids" ++
    toolRejections facts decision.action

/-- `validate_proposal`: the codes of every rejection. -/
def proposalRejections (proposal : SupervisorProposal) (facts : SupervisorFacts) : List String :=
  proposal.decisions.zipIdx.flatMap fun entry =>
    decisionRejections facts
      ((proposal.decisions.take entry.2).map SupervisorDecision.idempotencyKey) entry.1

/-- The facts an observation gives to `validate_proposal`. -/
def SupervisorObservation.facts (observation : SupervisorObservation) : SupervisorFacts where
  workflowVersion := observation.workflow.version
  admitsWork := observation.workflow.phase.admitsWork
  tasks := OrderedMap.keys observation.execution.tasks
  eligibleSlots := observation.eligibleSlots.flatMap Prod.snd
  acceptedCandidates := (observation.candidates.filter SupervisorCandidate.gatePassed).map
    fun value => (value.candidate.taskKey, value.candidate.candidateDigest)
  collectedCandidates := observation.candidates.map
    fun value => (value.candidate.taskKey, value.candidate.candidateDigest)
  selection := observation.selection

/-- Whether every dependency of the task has an accepted candidate. -/
def dependenciesReady (execution : SupervisorExecution) (workflow : WorkflowRecord)
    (taskKey : SpecIdentifier) : Bool :=
  (OrderedMap.get execution.tasks taskKey).all fun binding =>
    binding.dependencies.all fun dependency =>
      (workflow.task dependency).any fun task => task.acceptedCandidate.isSome

/-- Whether the task can take another turn. -/
def WorkflowTask.isOpen (task : WorkflowTask) : Bool :=
  task.progress != .accepted && task.progress != .failed && decide (task.turnsUsed < task.maxTurns)

/-- What is wrong with an assignment at run time. -/
def assignmentRejections (observation : SupervisorObservation) (taskKey slotId : SpecIdentifier) :
    List String :=
  codeIf (((OrderedMap.get observation.eligibleSlots taskKey).any fun slots => slotId ∈ slots) = false)
      "supervisor_ineligible_slot" ++
    codeIf ((observation.workflow.task taskKey).any WorkflowTask.isOpen = false)
      "supervisor_task_not_active" ++
    codeIf (dependenciesReady observation.execution observation.workflow taskKey = false)
      "supervisor_dependencies_unready"

/-- The position of a task in `positions`: of a repeated task the last one counts. -/
def planPosition (order : List SpecIdentifier) (task : SpecIdentifier) : Option Nat :=
  OrderedMap.get order.zipIdx.reverse task

/-- Whether the order is as long as the list of tasks, as is the map of its positions, and has every
task after its dependencies. -/
def isPlanOrder (execution : SupervisorExecution) (order : List SpecIdentifier) : Bool :=
  let tasks := OrderedMap.keys execution.tasks
  order.length == tasks.length && (sortDedup order).length == tasks.length &&
    tasks.all (fun task => (planPosition order task).isSome) &&
    execution.tasks.all fun entry => entry.2.dependencies.all fun dependency =>
      match planPosition order dependency, planPosition order entry.1 with
      | some before, some after => decide (before < after)
      | _, _ => false

/-- Whether the integration names exactly the expected candidates and every task is ready. -/
def integrationApproved (observation : SupervisorObservation) (digests : List Sha256Digest) : Bool :=
  let expected := if observation.workflow.mode = .compare then
      (observation.selection.bind SelectionOutcome.winner).toList
    else observation.workflow.tasks.filterMap WorkflowTask.acceptedCandidate
  let unique := sortDedup digests
  unique.length == digests.length && unique != [] && unique == sortDedup expected &&
    observation.workflow.tasks.all fun task => task.acceptedCandidate.isSome &&
      OrderedMap.get observation.execution.taskGates task.taskKey == some .active

/-- What is wrong with one decision at run time, given the targets of the decisions before it. -/
def runtimeRejections (observation : SupervisorObservation) (proposal : SupervisorProposal)
    (earlier : List SpecIdentifier) (action : SupervisorTool) : List String :=
  codeIf (action.isSupported = false) "supervisor_tool_unavailable" ++
    (match action with
      | .assignTask taskKey slotId => assignmentRejections observation taskKey slotId
      | .proposePlan order =>
        codeIf (isPlanOrder observation.execution order = false) "supervisor_plan_invalid"
      | .proposeIntegration digests =>
        codeIf (integrationApproved observation digests = false)
          "supervisor_integration_not_approved"
      | _ => []) ++
    (match action.target with
      | some task =>
        codeIf (task ∈ earlier) "supervisor_conflicting_actions" ++
          codeIf (OrderedMap.get observation.execution.taskGates task ≠ some .active ∧
            action.isCancel = false) "supervisor_task_not_active"
      | none => []) ++
    codeIf (1 < proposal.decisions.length ∧ action.standsAlone = true)
      "supervisor_conflicting_actions"

/-- `validate_runtime_proposal`: the codes of every rejection, in order and without repetitions. -/
def runtimeProposalRejections (proposal : SupervisorProposal)
    (observation : SupervisorObservation) : List String :=
  sortDedup <|
    proposalRejections proposal observation.facts ++
    codeIf (proposal.decisions = [] ∨ maxDecisionsPerProposal < proposal.decisions.length ∨
      maxRationaleBytes < byteLen proposal.rationale ∨ 16 < proposal.evidenceRefs.length)
      "supervisor_proposal_too_large" ++
    proposal.decisions.zipIdx.flatMap fun entry =>
      runtimeRejections observation proposal
        ((proposal.decisions.take entry.2).filterMap fun decision => decision.action.target)
        entry.1.action

end Vibemux
