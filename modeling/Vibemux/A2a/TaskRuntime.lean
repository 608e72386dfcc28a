import Vibemux.A2a.TaskContract
import Vibemux.Lib.History
import Vibemux.Lib.JsonParser
import Vibemux.Lib.OrderedMap

/-!
# The task runtime

One owner serves commands and joins jobs in turns of its loop. The inputs of the machine are what the
loop can meet next: a command, a job that ended, the stop, and the end of the time for the drain. An
input that cannot come in a state is refused. A reply channel is the number of its command, and
everything the runtime sends is kept in a log.
-/

namespace Vibemux

open Checked

/-- `MAX_RUNTIME_TASKS`. -/
def maxRuntimeTasks : Nat := 64

/-- `MAX_CANCEL_WAITERS`. -/
def maxCancelWaiters : Nat := 8

/-- `MAX_SUBSCRIPTIONS`. -/
def maxSubscriptions : Nat := 32

/-- `MAX_EXACT_INTEGER`. -/
def maxExactInteger : Int := 9007199254740991

/-! ## The identity of an input -/

/-- What a float is: a whole number, or one with a fraction. -/
inductive FloatValue where
  | whole (value : Int)
  | fractional
deriving DecidableEq

section Identity

variable (floats : String → FloatValue)

/-- An integer that a float can hold exactly. -/
def exactInteger (value : Int) : Except TaskGatewayError Json := do
  ensure (-maxExactInteger ≤ value ∧ value ≤ maxExactInteger) .invalidRequest
  return .int value

mutual

def canonicalIdentityPayload : Json → Except TaskGatewayError Json
  | .int value => exactInteger value
  | .float text =>
    match floats text with
    | .whole value => exactInteger value
    | .fractional => .ok (.float text)
  | .arr items => do
    let items ← canonicalIdentityItems items
    return .arr items
  | .obj fields => do
    let members ← canonicalIdentityMembers fields
    return Json.objOfMembers members
  | .null => .ok .null
  | .bool value => .ok (.bool value)
  | .str text => .ok (.str text)

def canonicalIdentityItems : List Json → Except TaskGatewayError (List Json)
  | [] => return []
  | item :: rest => do
    let item ← canonicalIdentityPayload item
    let rest ← canonicalIdentityItems rest
    return item :: rest

def canonicalIdentityMembers : List (String × Json) → Except TaskGatewayError (List (String × Json))
  | [] => return []
  | (name, value) :: rest => do
    let value ← canonicalIdentityPayload value
    let rest ← canonicalIdentityMembers rest
    return (name, value) :: rest

end

/-- The comparison value of a request; the executor receives the request unchanged. -/
def inputIdentity (request : TaskRequest) : Except TaskGatewayError (List Char) := do
  let payload ← canonicalIdentityPayload floats request.payload
  return encodeJson (.arr [.str request.contextId, optionalText request.taskId, payload])

end Identity

/-! ## The owner -/

/-- How a job ends. -/
inductive TaskExecution where
  | completed (artifacts : List TaskArtifact)
  | canceled

/-- The number of a command, whose reply channel it names. -/
abbrev ReplyId := Nat

/-- The identity of a spawned job. -/
abbrev JobId := Nat

/-- The commands of the owner's queue. -/
inductive RuntimeCommand where
  | send (subject : String) (request : TaskRequest)
  | get (subject id : String)
  | cancel (subject id : String)
  | subscribe (subject id : String)
  | list (subject : String) (request : TaskListRequest)

def RuntimeCommand.subject : RuntimeCommand → String
  | send subject _ | get subject _ | cancel subject _ | subscribe subject _ | list subject _ => subject

/-- What is sent on a reply channel. A stream is known by its first snapshot. -/
inductive RuntimeReply where
  | snapshot (snapshot : TaskSnapshot)
  | stream (initial : TaskSnapshot)
  | list (list : TaskList)
  | refused (error : TaskGatewayError)

/-- What a turn of the owner does outside its state. -/
inductive RuntimeEffect where
  | replied (reply : ReplyId) (result : RuntimeReply)
  | published (taskId : String) (snapshot : TaskSnapshot)
  | started (jobId : JobId) (taskId subject : String) (request : TaskRequest)
  /-- A waiter whose receiver is gone leaves the queue. -/
  | dropped (reply : ReplyId)

/-- A task as its owner keeps it. -/
structure RuntimeEntry where
  subject : String
  key : String
  input : List Char
  snapshot : TaskSnapshot
  cancel : Bool
  cancelWaiters : List ReplyId

/-- The state of the task that owns all entries. -/
structure Owner where
  entries : List (String × RuntimeEntry)
  /-- The running jobs, each with the task it returns. -/
  jobs : List (JobId × String)
  jobIds : List (JobId × String)
  failure : Option TaskGatewayError

def Owner.new : Owner := ⟨[], [], [], none⟩

/-- The first failure is kept. -/
def Owner.fail (owner : Owner) (error : TaskGatewayError) : Owner :=
  { owner with failure := some (owner.failure.getD error) }

/-- The entries with the one of a task changed. -/
def modifyEntry (id : String) (change : RuntimeEntry → RuntimeEntry)
    (entries : List (String × RuntimeEntry)) : List (String × RuntimeEntry) :=
  OrderedMap.mapValues (fun key entry => if key = id then change entry else entry) entries

section Finish

variable (parseUrl : String → Option ParsedUrl)

/-- The terminal snapshot that the result of a job gives. -/
def finishedSnapshot (snapshot : TaskSnapshot) : Except TaskGatewayError TaskExecution → TaskSnapshot
  | .ok .canceled => { snapshot with state := .canceled, errorCode := none }
  | .ok (.completed artifacts) =>
    let completed : TaskSnapshot :=
      { snapshot with artifacts := artifacts, state := .completed, errorCode := none }
    match completed.validate parseUrl with
    | .ok () => completed
    | .error _ =>
      { completed with artifacts := [], state := .failed, errorCode := some TaskGatewayError.protocol.code }
  | .error error => { snapshot with state := .failed, errorCode := some error.code }

/-- An entry that is terminal is left as it is. -/
def RuntimeEntry.finish (result : Except TaskGatewayError TaskExecution) (entry : RuntimeEntry) :
    RuntimeEntry :=
  if entry.snapshot.state.isTerminal then entry
  else { entry with snapshot := finishedSnapshot parseUrl entry.snapshot result, cancelWaiters := [] }

/-- The terminal snapshot is published and answers every waiter. -/
def RuntimeEntry.finishEffects (result : Except TaskGatewayError TaskExecution) (id : String)
    (entry : RuntimeEntry) : List RuntimeEffect :=
  if entry.snapshot.state.isTerminal then []
  else
    .published id (finishedSnapshot parseUrl entry.snapshot result) ::
      entry.cancelWaiters.map fun reply =>
        .replied reply (.snapshot (finishedSnapshot parseUrl entry.snapshot result))

/-- `finish`: the entries after it and what it sends. -/
def finishTask (entries : List (String × RuntimeEntry)) (id : String)
    (result : Except TaskGatewayError TaskExecution) :
    List (String × RuntimeEntry) × List RuntimeEffect :=
  match OrderedMap.get entries id with
  | some entry => (modifyEntry id (RuntimeEntry.finish parseUrl result) entries,
      entry.finishEffects parseUrl result id)
  | none => (entries, [])

/-- How a job ended: it returned its task and a result, or it panicked or was aborted. -/
inductive JobOutcome where
  | returned (result : Except TaskGatewayError TaskExecution)
  | failed

/-- A job that ended. `taskId` is the task that it returns, `aborted` the failure of an aborted one. -/
def Owner.joined (owner : Owner) (jobId : JobId) (taskId : String) (outcome : JobOutcome)
    (aborted : Option TaskGatewayError) : Owner × List RuntimeEffect :=
  let known := OrderedMap.get owner.jobIds jobId
  let owner := { owner with
    jobs := OrderedMap.erase owner.jobs jobId
    jobIds := OrderedMap.erase owner.jobIds jobId }
  match outcome with
  | .returned result =>
    let owner := if known = some taskId then owner else owner.fail .internal
    let (entries, effects) := finishTask parseUrl owner.entries taskId result
    ({ owner with entries := entries }, effects)
  | .failed =>
    let failure := aborted.getD .internal
    match known with
    | some id =>
      let (entries, effects) := finishTask parseUrl owner.entries id (.error failure)
      ({ owner with entries := entries }.fail failure, effects)
    | none => (owner.fail failure, [])

end Finish

/-- Asks every running task to cancel. -/
def Owner.cancelAll (owner : Owner) : Owner :=
  let cancelled (entry : RuntimeEntry) : RuntimeEntry :=
    if entry.snapshot.state.isTerminal then entry else { entry with cancel := true }
  { owner with entries := OrderedMap.mapValues (fun _ => cancelled) owner.entries }

/-! ## Commands -/

/-- The entry of a task, for its own subject only. -/
def ownedEntry (entries : List (String × RuntimeEntry)) (subject id : String) :
    Except TaskGatewayError RuntimeEntry :=
  require ((OrderedMap.get entries id).filter fun entry => entry.subject == subject) .notFound

/-- A number as the standard library parses it: digits after an optional plus sign. -/
def parseUsize (text : String) : Option Nat :=
  let digits := match text.toList with
    | '+' :: rest => rest
    | digits => digits
  if digits ≠ [] ∧ digits.all Char.isDigit = true ∧ Nat.ofDigitChars 10 digits 0 < 2 ^ 64 then
    some (Nat.ofDigitChars 10 digits 0)
  else none

/-- Where a page starts. -/
def pageOffset : Option String → Except TaskGatewayError Nat
  | none => .ok 0
  | some token => require (parseUsize token) .invalidRequest

/-- The token of the page that starts at `offset`, if anything is left there. -/
def tokenAt (offset total : Nat) : Option String :=
  if offset < total then some (String.ofList (decimal offset)) else none

section List

variable (parseUrl : String → Option ParsedUrl)

/-- Adds snapshots to a page until one makes it too large; `stop` is the offset after the last. -/
def fillList (includeArtifacts : Bool) (total : Nat) (page : TaskList) (stop : Nat) :
    List TaskSnapshot → Except TaskGatewayError (TaskList × Nat)
  | [] => .ok (page, stop)
  | snapshot :: rest =>
    let shown := if includeArtifacts then snapshot else { snapshot with artifacts := [] }
    let candidate : TaskList :=
      { page with tasks := page.tasks ++ [shown], nextPageToken := tokenAt (stop + 1) total }
    match candidate.validate parseUrl with
    | .ok () => fillList includeArtifacts total candidate (stop + 1) rest
    | .error _ =>
      if page.tasks.isEmpty then .error .busy else .ok ({ candidate with tasks := page.tasks }, stop)

/-- The tasks of a subject that a request selects, in the order of their ids. -/
def matchingTasks (entries : List (String × RuntimeEntry)) (subject : String) (request : TaskListRequest) :
    List TaskSnapshot :=
  (entries.filter fun entry => entry.2.subject == subject &&
    request.contextId.all (fun context => context == entry.2.snapshot.contextId) &&
    request.state.all fun state => state == entry.2.snapshot.state).map fun entry => entry.2.snapshot

def listTasks (entries : List (String × RuntimeEntry)) (subject : String) (request : TaskListRequest) :
    Except TaskGatewayError TaskList := do
  let snapshots := matchingTasks entries subject request
  let offset ← pageOffset request.pageToken
  ensure (offset ≤ snapshots.length) .invalidRequest
  let (page, stop) ← fillList parseUrl request.includeArtifacts snapshots.length
    ⟨[], none, snapshots.length⟩ offset ((snapshots.drop offset).take request.pageSize)
  let page := { page with nextPageToken := tokenAt stop snapshots.length }
  page.validate parseUrl
  return page

end List

/-- What a command meets outside the owner: the fresh ids of a new task and its job, the reply channels
whose receivers are gone, and the number of receivers of the task's events. -/
structure CommandContext where
  taskId : String
  jobId : JobId
  closed : List ReplyId
  receivers : Nat

section Handle

variable (parseUrl : String → Option ParsedUrl) (floats : String → FloatValue) (maxParallel : Nat)

/-- The entry of a subject's idempotency key. -/
def keyedEntry (entries : List (String × RuntimeEntry)) (subject key : String) : Option RuntimeEntry :=
  (entries.find? fun entry => entry.2.subject == subject && entry.2.key == key).map Prod.snd

/-- A new task: its first snapshot is submitted, and it is working once the job is spawned. -/
def Owner.startTask (owner : Owner) (reply : ReplyId) (context : CommandContext) (subject : String)
    (request : TaskRequest) (input : List Char) : Owner × List RuntimeEffect :=
  let submitted : TaskSnapshot := ⟨context.taskId, request.contextId, .submitted, [], none⟩
  let working : TaskSnapshot := { submitted with state := .working }
  ({ owner with
      entries := OrderedMap.insert context.taskId
        ⟨subject, request.idempotencyKey, input, working, false, []⟩ owner.entries
      jobs := (context.jobId, context.taskId) :: owner.jobs
      jobIds := (context.jobId, context.taskId) :: owner.jobIds },
    [.replied reply (.snapshot submitted), .published context.taskId working,
      .started context.jobId context.taskId subject request])

/-- A message starts a task or repeats one. -/
def Owner.handleSend (owner : Owner) (reply : ReplyId) (context : CommandContext) (subject : String)
    (request : TaskRequest) : Owner × List RuntimeEffect :=
  match inputIdentity floats request with
  | .error _ => (owner, [.replied reply (.refused .invalidRequest)])
  | .ok input =>
    match keyedEntry owner.entries subject request.idempotencyKey with
    | some existing =>
      (owner, [.replied reply
        (if existing.input = input then .snapshot existing.snapshot else .refused .invalidRequest)])
    | none =>
      if request.taskId.isSome then (owner, [.replied reply (.refused .unsupported)])
      else if maxRuntimeTasks ≤ owner.entries.length ∨ maxParallel ≤ owner.jobs.length then
        (owner, [.replied reply (.refused .busy)])
      else owner.startTask reply context subject request input

/-- A waiter joins the queue, after those whose receivers are gone have left it. -/
def RuntimeEntry.queueWaiter (reply : ReplyId) (closed : List ReplyId) (entry : RuntimeEntry) :
    RuntimeEntry :=
  let waiters := entry.cancelWaiters.filter (· ∉ closed)
  if maxCancelWaiters ≤ waiters.length then { entry with cancelWaiters := waiters }
  else { entry with cancel := true, cancelWaiters := waiters ++ [reply] }

def RuntimeEntry.queueEffects (reply : ReplyId) (closed : List ReplyId) (entry : RuntimeEntry) :
    List RuntimeEffect :=
  (entry.cancelWaiters.filter (· ∈ closed)).map .dropped ++
    if maxCancelWaiters ≤ (entry.cancelWaiters.filter (· ∉ closed)).length then
      [.replied reply (.refused .busy)]
    else []

/-- A cancellation waits for the job of its task. -/
def Owner.handleCancel (owner : Owner) (reply : ReplyId) (context : CommandContext) (subject id : String) :
    Owner × List RuntimeEffect :=
  match ownedEntry owner.entries subject id with
  | .error error => (owner, [.replied reply (.refused error)])
  | .ok entry =>
    if entry.snapshot.state = .canceled then (owner, [.replied reply (.snapshot entry.snapshot)])
    else if entry.snapshot.state.isTerminal then (owner, [.replied reply (.refused .unsupported)])
    else
      ({ owner with entries := modifyEntry id (RuntimeEntry.queueWaiter reply context.closed) owner.entries },
        entry.queueEffects reply context.closed)

def subscribeReply (context : CommandContext) : Except TaskGatewayError RuntimeEntry → RuntimeReply
  | .error error => .refused error
  | .ok entry =>
    if maxSubscriptions ≤ context.receivers then .refused .busy else .stream entry.snapshot

def Owner.handleCommand (owner : Owner) (reply : ReplyId) (context : CommandContext) :
    RuntimeCommand → Owner × List RuntimeEffect
  | .send subject request => owner.handleSend floats maxParallel reply context subject request
  | .get subject id => (owner, [.replied reply (match ownedEntry owner.entries subject id with
      | .ok entry => .snapshot entry.snapshot
      | .error error => .refused error)])
  | .cancel subject id => owner.handleCancel reply context subject id
  | .list subject request => (owner, [.replied reply (match listTasks parseUrl owner.entries subject request with
      | .ok list => .list list
      | .error error => .refused error)])
  | .subscribe subject id =>
    (owner, [.replied reply (subscribeReply context (ownedEntry owner.entries subject id))])

end Handle

/-! ## The loop and the drain -/

/-- Whether the owner serves, drains, aborts or has stopped. -/
inductive RuntimePhase where
  | serving
  /-- The jobs are joined in their own time. -/
  | draining
  /-- The time is over: the jobs are aborted and joined. -/
  | aborting
  | stopped (result : Except TaskGatewayError Unit)

/-- The owner with its phase and all it has sent. -/
structure Runtime where
  owner : Owner
  phase : RuntimePhase
  /-- The commands received so far. -/
  received : Nat
  /-- Everything sent so far. -/
  log : List RuntimeEffect

def Runtime.start : Runtime := ⟨.new, .serving, 0, []⟩

/-- What wakes the owner. -/
inductive RuntimeInput where
  | command (command : RuntimeCommand) (context : CommandContext)
  | joined (jobId : JobId) (outcome : JobOutcome)
  /-- The stop, with the commands that are still queued. -/
  | stop (queued : List RuntimeCommand)
  /-- The time for the drain is over. -/
  | deadline

/-- An input that cannot come in this state. -/
inductive Impossible where
  | impossible
deriving DecidableEq

section Step

variable (parseUrl : String → Option ParsedUrl) (floats : String → FloatValue) (maxParallel : Nat)

/-- The tasks that are still open fail after a forced drain. -/
def Owner.failOpen (owner : Owner) : Owner × List RuntimeEffect :=
  let finished (entry : RuntimeEntry) : RuntimeEntry := entry.finish parseUrl (.error .deadline)
  ({ owner with entries := OrderedMap.mapValues (fun _ => finished) owner.entries },
    owner.entries.flatMap fun entry => entry.2.finishEffects parseUrl (.error .deadline) entry.1)

/-- The drain ends with the last job. -/
def Runtime.settle (runtime : Runtime) : Runtime :=
  match runtime.phase with
  | .draining =>
    if runtime.owner.jobs.isEmpty then
      { runtime with phase := .stopped (match runtime.owner.failure with
          | some error => .error error
          | none => .ok ()) }
    else runtime
  | .aborting =>
    if runtime.owner.jobs.isEmpty then
      { runtime with
        owner := (runtime.owner.failOpen parseUrl).1
        log := runtime.log ++ (runtime.owner.failOpen parseUrl).2
        phase := .stopped (.error .deadline) }
    else runtime
  | .serving | .stopped _ => runtime

/-- The failure that a job which did not return stands for. -/
def RuntimePhase.aborted : RuntimePhase → Option TaskGatewayError
  | aborting => some .deadline
  | _ => none

def RuntimePhase.isServing : RuntimePhase → Bool
  | serving => true
  | _ => false

def RuntimePhase.isDraining : RuntimePhase → Bool
  | draining => true
  | _ => false

/-- The replies to the commands that were queued at the stop. -/
def rejected (received : Nat) (queued : List RuntimeCommand) : List RuntimeEffect :=
  queued.zipIdx.map fun command => .replied (received + command.2) (.refused .server)

/-- One wake-up of the owner. -/
def runtimeStep (runtime : Runtime) : RuntimeInput → Except Impossible (Unit × Runtime)
  | .command command context => do
    ensure (runtime.phase.isServing = true ∧ context.taskId ∉ OrderedMap.keys runtime.owner.entries ∧
      context.jobId ∉ OrderedMap.keys runtime.owner.jobs) .impossible
    let turn := runtime.owner.handleCommand parseUrl floats maxParallel runtime.received context command
    return ((), { runtime with
      owner := turn.1
      received := runtime.received + 1
      log := runtime.log ++ turn.2 })
  | .joined jobId outcome => do
    let taskId ← require (OrderedMap.get runtime.owner.jobs jobId) .impossible
    let turn := runtime.owner.joined parseUrl jobId taskId outcome runtime.phase.aborted
    return ((), Runtime.settle parseUrl { runtime with owner := turn.1, log := runtime.log ++ turn.2 })
  | .stop queued => do
    ensure (runtime.phase.isServing = true) .impossible
    return ((), Runtime.settle parseUrl { runtime with
      owner := runtime.owner.cancelAll
      phase := .draining
      received := runtime.received + queued.length
      log := runtime.log ++ rejected runtime.received queued })
  | .deadline => do
    ensure (runtime.phase.isDraining = true) .impossible
    return ((), { runtime with phase := .aborting })

end Step

end Vibemux
