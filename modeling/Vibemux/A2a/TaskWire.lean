import Vibemux.A2a.TaskContract
import Vibemux.Lib.Delta

/-!
# Snapshots over the A2A stream

The server sends the first snapshot of a task whole, and of a later one the artifacts that the one
before does not contain and a change of status. The client applies the events to its own snapshot.
-/

namespace Vibemux

open Checked

/-! ## Wire types -/

/-- The content of a part on the wire. -/
inductive PartContent where
  | text (value : String)
  | data (value : Json)
  | raw (bytes : List UInt8)
  | url (address : String)
deriving DecidableEq

/-- A part on the wire. -/
structure Part where
  content : PartContent
  mediaType : Option String
  filename : Option String
deriving DecidableEq

/-- An artifact on the wire. -/
structure Artifact where
  artifactId : String
  name : Option String
  parts : List Part
deriving DecidableEq

/-- The states of a task on the wire. -/
inductive WireTaskState where
  | unspecified
  | submitted
  | working
  | completed
  | failed
  | canceled
  | inputRequired
  | rejected
  | authRequired
deriving DecidableEq

/-- `a2a::Task`. -/
structure WireTask where
  id : String
  contextId : String
  state : WireTaskState
  artifacts : Option (List Artifact)
  metadata : Option (List (String × Json))
deriving DecidableEq

/-- A change of state, as it is streamed. -/
structure TaskStatusUpdateEvent where
  taskId : String
  contextId : String
  state : WireTaskState
  metadata : Option (List (String × Json))
deriving DecidableEq

/-- An artifact, as it is streamed. -/
structure TaskArtifactUpdateEvent where
  taskId : String
  contextId : String
  artifact : Artifact
  append : Option Bool
  lastChunk : Option Bool
deriving DecidableEq

/-- One event of a stream. -/
inductive StreamResponse where
  | task (task : WireTask)
  | statusUpdate (update : TaskStatusUpdateEvent)
  | artifactUpdate (update : TaskArtifactUpdateEvent)
  | message
deriving DecidableEq

/-! ## Conversions -/

def partToWire : TaskPart → Part
  | .text value => ⟨.text value, none, none⟩
  | .data value => ⟨.data value, none, none⟩
  | .raw bytes mediaType filename => ⟨.raw bytes, mediaType, filename⟩
  | .url address mediaType filename => ⟨.url address, mediaType, filename⟩

def artifactToWire (artifact : TaskArtifact) : Artifact :=
  ⟨artifact.artifactId, artifact.name, artifact.parts.map partToWire⟩

def stateToWire : TaskState → WireTaskState
  | .submitted => .submitted
  | .working => .working
  | .completed => .completed
  | .failed => .failed
  | .canceled => .canceled
  | .inputRequired => .inputRequired
  | .rejected => .rejected
  | .authRequired => .authRequired

def stateFromWire : WireTaskState → Except TaskGatewayError TaskState
  | .submitted => .ok .submitted
  | .working => .ok .working
  | .completed => .ok .completed
  | .failed => .ok .failed
  | .canceled => .ok .canceled
  | .inputRequired => .ok .inputRequired
  | .rejected => .ok .rejected
  | .authRequired => .ok .authRequired
  | .unspecified => .error .protocol

/-- The error code travels in the metadata. -/
def errorMetadata (errorCode : Option String) : Option (List (String × Json)) :=
  errorCode.map fun code => [("error_code", .str code)]

def errorFromMetadata (metadata : Option (List (String × Json))) : Option String :=
  metadata.bind fun members => (Json.obj members).getStr "error_code"

section Wire

variable (parseUrl : String → Option ParsedUrl)

def partFromWire (part : Part) : Except TaskGatewayError TaskPart := do
  let result : TaskPart := match part.content with
    | .text value => .text value
    | .data value => .data value
    | .raw bytes => .raw bytes part.mediaType part.filename
    | .url address => .url address part.mediaType part.filename
  result.validate parseUrl
  return result

def partsFromWire : List Part → Except TaskGatewayError (List TaskPart)
  | [] => return []
  | part :: rest => do
    let part ← partFromWire parseUrl part
    let rest ← partsFromWire rest
    return part :: rest

def artifactFromWire (artifact : Artifact) : Except TaskGatewayError TaskArtifact := do
  let parts ← partsFromWire parseUrl artifact.parts
  let artifact : TaskArtifact := ⟨artifact.artifactId, artifact.name, parts⟩
  artifact.validate parseUrl
  return artifact

def artifactsFromWire : List Artifact → Except TaskGatewayError (List TaskArtifact)
  | [] => return []
  | artifact :: rest => do
    let artifact ← artifactFromWire parseUrl artifact
    let rest ← artifactsFromWire rest
    return artifact :: rest

def snapshotToWire (snapshot : TaskSnapshot) : Except TaskGatewayError WireTask := do
  snapshot.validate parseUrl
  return {
    id := snapshot.taskId
    contextId := snapshot.contextId
    state := stateToWire snapshot.state
    artifacts :=
      if snapshot.artifacts.isEmpty then none else some (snapshot.artifacts.map artifactToWire)
    metadata := errorMetadata snapshot.errorCode }

def snapshotFromWire (task : WireTask) : Except TaskGatewayError TaskSnapshot := do
  let artifacts ← artifactsFromWire parseUrl (task.artifacts.getD [])
  let state ← stateFromWire task.state
  let snapshot : TaskSnapshot := {
    taskId := task.id
    contextId := task.contextId
    state := state
    artifacts := artifacts
    errorCode := errorFromMetadata task.metadata }
  snapshot.validate parseUrl
  return snapshot

/-! ## The client -/

/-- An artifact replaces the first with its id, or extends that one's parts, or is added. -/
def mergeArtifact (append : Option Bool) (artifact : TaskArtifact) : List TaskArtifact → List TaskArtifact
  | [] => [artifact]
  | existing :: rest =>
    if existing.artifactId = artifact.artifactId then
      if append = some true then { existing with parts := existing.parts ++ artifact.parts } :: rest
      else artifact :: rest
    else existing :: mergeArtifact append artifact rest

/-- The snapshot that an event makes of the previous one. -/
def streamUpdate (previous : Option TaskSnapshot) : StreamResponse → Except TaskGatewayError TaskSnapshot
  | .task task => snapshotFromWire parseUrl task
  | .statusUpdate update => do
    let snapshot ← require previous .protocol
    ensure (snapshot.taskId = update.taskId ∧ snapshot.contextId = update.contextId) .protocol
    let state ← stateFromWire update.state
    return { snapshot with state := state, errorCode := errorFromMetadata update.metadata }
  | .artifactUpdate update => do
    let snapshot ← require previous .protocol
    ensure (snapshot.taskId = update.taskId ∧ snapshot.contextId = update.contextId) .protocol
    let artifact ← artifactFromWire parseUrl update.artifact
    return { snapshot with artifacts := mergeArtifact update.append artifact snapshot.artifacts }
  | .message => .error .protocol

/-- Applies a validated, identity-consistent update. The result is the client's next snapshot; a
refused event leaves the previous one. -/
def applyStreamResponse (previous : Option TaskSnapshot) (event : StreamResponse) :
    Except TaskGatewayError TaskSnapshot := do
  let next ← streamUpdate parseUrl previous event
  next.validate parseUrl
  ensure (previous.all (fun previous =>
    previous.taskId = next.taskId ∧ previous.contextId = next.contextId) = true) .protocol
  return next

/-- The client applies some events in order. -/
def applyEvents (client : Option TaskSnapshot) :
    List StreamResponse → Except TaskGatewayError (Option TaskSnapshot)
  | [] => return client
  | event :: rest => do
    let next ← applyStreamResponse parseUrl client event
    applyEvents (some next) rest

/-! ## The server -/

/-- What a subscription keeps between two snapshots. -/
structure SubscriptionState where
  taskId : String
  contextId : String
  previous : Option TaskSnapshot
  done : Bool
  stopOnInterrupted : Bool

def streamFinished (state : TaskState) : Bool :=
  state.isTerminal || state == .inputRequired || state == .authRequired

def artifactEvent (snapshot : TaskSnapshot) (artifact : TaskArtifact) : StreamResponse :=
  .artifactUpdate ⟨snapshot.taskId, snapshot.contextId, artifactToWire artifact, some false, some true⟩

def statusEvent (snapshot : TaskSnapshot) : StreamResponse :=
  .statusUpdate ⟨snapshot.taskId, snapshot.contextId, stateToWire snapshot.state,
    errorMetadata snapshot.errorCode⟩

/-- The events that take a client from the previous snapshot to the next. -/
def deltaEvents (previous snapshot : TaskSnapshot) : List StreamResponse :=
  (snapshot.artifacts.filter (· ∉ previous.artifacts)).map (artifactEvent snapshot) ++
    if previous.state ≠ snapshot.state ∨ previous.errorCode ≠ snapshot.errorCode then
      [statusEvent snapshot]
    else []

/-- The events of a snapshot; one that lacks an artifact of the one before is refused. -/
def eventsOf (previous : Option TaskSnapshot) (snapshot : TaskSnapshot) :
    Except TaskGatewayError (List StreamResponse) :=
  match previous with
  | some previous => do
    ensure (∀ artifact ∈ previous.artifacts,
      ∃ other ∈ snapshot.artifacts, other.artifactId = artifact.artifactId) .protocol
    return deltaEvents previous snapshot
  | none => do
    let task ← snapshotToWire parseUrl snapshot
    return [.task task]

/-- The events that bring a client up to a snapshot. -/
def snapshotEvents (state : SubscriptionState) (snapshot : TaskSnapshot) :
    Except TaskGatewayError (SubscriptionState × List StreamResponse) := do
  snapshot.validate parseUrl
  ensure (snapshot.taskId = state.taskId ∧ snapshot.contextId = state.contextId) .protocol
  let events ← eventsOf parseUrl state.previous snapshot
  return ({ state with
    done := snapshot.state.isTerminal || (state.stopOnInterrupted && streamFinished snapshot.state)
    previous := some snapshot }, events)

/-- The subscription takes some snapshots one after another; the events are kept by snapshot. -/
def serveSnapshots (state : SubscriptionState) :
    List TaskSnapshot → Except TaskGatewayError (List (TaskSnapshot × List StreamResponse))
  | [] => return []
  | snapshot :: rest => do
    let (state, events) ← snapshotEvents parseUrl state snapshot
    let batches ← serveSnapshots state rest
    return (snapshot, events) :: batches

end Wire

end Vibemux
