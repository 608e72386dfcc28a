import Vibemux.Workflow.CanonicalJson

/-!
# The task contract of the A2A gateway

Requests, snapshots and lists of tasks, with the bounds that both sides check. The size of a value is
that of its JSON encoding. The URL parser is a parameter.
-/

namespace Vibemux

open Checked Text

def maxTaskWireBytes : Nat := 64 * 1024
def maxTaskPayloadBytes : Nat := 16 * 1024
def maxTaskParts : Nat := 16
def maxTaskArtifacts : Nat := 16

/-- What the gateway refuses. -/
inductive TaskGatewayError where
  | invalidRequest
  | unauthorized
  | forbidden
  | notFound
  | unsupported
  | busy
  | deadline
  | protocol
  | transport
  | server
  | internal
deriving DecidableEq

def TaskGatewayError.code : TaskGatewayError → String
  | invalidRequest => "a2a_task_invalid_request"
  | unauthorized => "a2a_task_unauthorized"
  | forbidden => "a2a_task_forbidden"
  | notFound => "a2a_task_not_found"
  | unsupported => "a2a_task_unsupported"
  | busy => "a2a_task_busy"
  | deadline => "a2a_task_deadline"
  | protocol => "a2a_task_protocol"
  | transport => "a2a_task_transport"
  | server => "a2a_task_server"
  | internal => "a2a_task_internal"

/-- The states of a task of the gateway. -/
inductive TaskState where
  | submitted
  | working
  | completed
  | failed
  | canceled
  | inputRequired
  | rejected
  | authRequired
deriving DecidableEq

def TaskState.isTerminal : TaskState → Bool
  | completed | failed | canceled | rejected => true
  | _ => false

/-- The name of a state in JSON. -/
def TaskState.wireName : TaskState → String
  | submitted => "submitted"
  | working => "working"
  | completed => "completed"
  | failed => "failed"
  | canceled => "canceled"
  | inputRequired => "input_required"
  | rejected => "rejected"
  | authRequired => "auth_required"

/-- One part of an artifact. -/
inductive TaskPart where
  | text (value : String)
  | data (value : Json)
  | raw (bytes : List UInt8) (mediaType filename : Option String)
  | url (address : String) (mediaType filename : Option String)
deriving DecidableEq

/-- A result of a task. -/
structure TaskArtifact where
  artifactId : String
  name : Option String
  parts : List TaskPart
deriving DecidableEq

/-- What a client sees of a task. -/
structure TaskSnapshot where
  taskId : String
  contextId : String
  state : TaskState
  artifacts : List TaskArtifact
  errorCode : Option String
deriving DecidableEq

/-- A message that starts or repeats a task. -/
structure TaskRequest where
  requestId : String
  contextId : String
  taskId : Option String
  idempotencyKey : String
  payload : Json
deriving DecidableEq

/-- A query for the tasks of a subject. -/
structure TaskListRequest where
  contextId : Option String
  state : Option TaskState
  pageSize : Nat
  pageToken : Option String
  includeArtifacts : Bool
deriving DecidableEq

/-- One page of tasks. -/
structure TaskList where
  tasks : List TaskSnapshot
  nextPageToken : Option String
  totalSize : Nat
deriving DecidableEq

/-! ## Encodings -/

mutual

/-- The JSON text of a value. -/
def encodeJson : Json → List Char
  | .null => "null".toList
  | .bool value => if value then "true".toList else "false".toList
  | .int value => writeInteger value
  | .float text => text.toList
  | .str text => writeString text
  | .arr items => '[' :: commaSeparated (encodeItems items) ++ [']']
  | .obj fields => '{' :: commaSeparated (encodeMembers fields) ++ ['}']

def encodeItems : List Json → List (List Char)
  | [] => []
  | item :: rest => encodeJson item :: encodeItems rest

def encodeMembers : List (String × Json) → List (List Char)
  | [] => []
  | (name, value) :: rest => (writeString name ++ ':' :: encodeJson value) :: encodeMembers rest

end

def optionalText : Option String → Json
  | none => .null
  | some text => .str text

def TaskPart.toJson : TaskPart → Json
  | .text value => .obj [("kind", .str "text"), ("value", .str value)]
  | .data value => .obj [("kind", .str "data"), ("value", value)]
  | .raw bytes mediaType filename => .obj [("kind", .str "raw"), ("value", .obj
      [("bytes", .arr (bytes.map fun byte => .int byte.toNat)), ("media_type", optionalText mediaType),
        ("filename", optionalText filename)])]
  | .url address mediaType filename => .obj [("kind", .str "url"), ("value", .obj
      [("url", .str address), ("media_type", optionalText mediaType), ("filename", optionalText filename)])]

def TaskArtifact.toJson (artifact : TaskArtifact) : Json :=
  .obj [("artifact_id", .str artifact.artifactId), ("name", optionalText artifact.name),
    ("parts", .arr (artifact.parts.map TaskPart.toJson))]

def TaskSnapshot.toJson (snapshot : TaskSnapshot) : Json :=
  .obj [("task_id", .str snapshot.taskId), ("context_id", .str snapshot.contextId),
    ("state", .str snapshot.state.wireName),
    ("artifacts", .arr (snapshot.artifacts.map TaskArtifact.toJson)),
    ("error_code", optionalText snapshot.errorCode)]

def TaskList.toJson (list : TaskList) : Json :=
  .obj [("tasks", .arr (list.tasks.map TaskSnapshot.toJson)),
    ("next_page_token", optionalText list.nextPageToken), ("total_size", .int list.totalSize)]

/-! ## Bounds -/

def boundedJson (value : Json) (limit : Nat) : Except TaskGatewayError Unit :=
  ensure (byteLen (encodeJson value) ≤ limit) .invalidRequest

/-- The characters of an identifier. -/
def isTaskIdentifierChar (c : Char) : Bool := c.isAlphanum || c == '_' || c == '-' || c == '.'

def validateTaskIdentifier (value : String) : Except TaskGatewayError Unit :=
  ensure (value.toList ≠ [] ∧ byteLen value.toList ≤ 128 ∧ value.toList.all isTaskIdentifierChar = true)
    .invalidRequest

/-- An identifier that may be absent. -/
def validateOptionalIdentifier (value : Option String) : Except TaskGatewayError Unit :=
  match value with
  | some value => validateTaskIdentifier value
  | none => .ok ()

/-- A text that may be absent, of bounded size and without some characters. -/
def boundedText (value : Option String) (limit : Nat) (excluded : List Char) :
    Except TaskGatewayError Unit :=
  ensure (value.all (fun text => decide (byteLen text.toList ≤ limit) &&
    text.toList.all fun c => !excluded.contains c) = true) .invalidRequest

def validateMediaType (mediaType : Option String) : Except TaskGatewayError Unit :=
  boundedText mediaType 128 ['\r', '\n', '\x00']

def validateFilename (filename : Option String) : Except TaskGatewayError Unit :=
  boundedText filename 256 ['\x00', '\r', '\n']

/-- What the URL parser finds. -/
structure ParsedUrl where
  scheme : String
  username : String
  password : Option String
deriving DecidableEq

section Validate

variable (parseUrl : String → Option ParsedUrl)

def TaskPart.validate : TaskPart → Except TaskGatewayError Unit
  | .text value => ensure (byteLen value.toList ≤ maxTaskPayloadBytes) .invalidRequest
  | .data value => boundedJson value maxTaskPayloadBytes
  | .raw bytes mediaType filename => do
    ensure (bytes.length ≤ maxTaskPayloadBytes) .invalidRequest
    validateMediaType mediaType
    validateFilename filename
  | .url address mediaType filename => do
    ensure (byteLen address.toList ≤ 2048) .invalidRequest
    let parsed ← require (parseUrl address) .invalidRequest
    ensure ((parsed.scheme = "http" ∨ parsed.scheme = "https") ∧ parsed.username = "" ∧
      parsed.password = none) .invalidRequest
    validateMediaType mediaType
    validateFilename filename

/-- Runs a check on every element. -/
def validateAll {α : Type} (check : α → Except TaskGatewayError Unit) : List α → Except TaskGatewayError Unit
  | [] => .ok ()
  | a :: rest => do
    check a
    validateAll check rest

def validateParts (parts : List TaskPart) : Except TaskGatewayError Unit := do
  ensure (parts ≠ [] ∧ parts.length ≤ maxTaskParts) .invalidRequest
  validateAll (TaskPart.validate parseUrl) parts

def TaskArtifact.validate (artifact : TaskArtifact) : Except TaskGatewayError Unit := do
  validateTaskIdentifier artifact.artifactId
  boundedText artifact.name 256 ['\x00']
  validateParts parseUrl artifact.parts

def TaskSnapshot.validate (snapshot : TaskSnapshot) : Except TaskGatewayError Unit := do
  validateTaskIdentifier snapshot.taskId
  validateTaskIdentifier snapshot.contextId
  ensure (snapshot.artifacts.length ≤ maxTaskArtifacts) .invalidRequest
  validateAll (TaskArtifact.validate parseUrl) snapshot.artifacts
  validateOptionalIdentifier snapshot.errorCode
  boundedJson snapshot.toJson (maxTaskWireBytes / 2)

def TaskList.validate (list : TaskList) : Except TaskGatewayError Unit := do
  ensure (list.tasks.length ≤ 32 ∧ list.totalSize ≤ 2 ^ 31 - 1) .invalidRequest
  boundedText list.nextPageToken 128 ['\x00']
  validateAll (TaskSnapshot.validate parseUrl) list.tasks
  boundedJson list.toJson (maxTaskWireBytes / 2)

end Validate

end Vibemux
