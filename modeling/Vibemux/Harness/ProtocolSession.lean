import Vibemux.Harness.Attempt
import Vibemux.Lib.Json

/-!
# Native protocol sessions

One state machine per protocol for one prompt and one turn. The caller writes `initialInput`, feeds
every classified record to `receive` and writes the replies. An error is reported with the session as it
is at that point, since the caller may go on feeding it.
-/

namespace Vibemux

open Checked Text

def rpcInitializeId : Nat := 1

def rpcSessionId : Nat := 2

def rpcPromptId : Nat := 3

def rpcCancelId : Nat := 4

def claudeInitializeId : String := "vibemux_initialize"

def claudeInterruptId : String := "vibemux_interrupt"

def dshInitializeId : String := "vibemux_initialize"

def dshPromptId : String := "vibemux_prompt"

/-- The name of the server that the handshake must report. -/
def dshServerName : String := "deepseek-harness-sdk-runtime"

def maxDshSessionIdBytes : Nat := 128

/-- `protocol_session::MAX_IDENTIFIER_BYTES`. -/
def maxRpcIdentifierBytes : Nat := 512

def clientName : String := "vibemux"

/-- The version of the workspace. -/
def clientVersion : String := "0.2.0-alpha.1"

/-- What is said of a capability that the client does not grant. -/
def refusalText : String := "Client capability not granted"

/-- What the classifier says a record is. -/
inductive ObservationKind where
  | started
  | text
  | tool
  | approval
  | usage
  | completed
  | failed
  | cancelled
  | opaqueRecord
deriving DecidableEq

def ObservationKind.isTerminal : ObservationKind → Bool
  | completed | failed | cancelled => true
  | _ => false

/-- How a session ended. -/
inductive SessionTerminal where
  | completed
  | failed
  | cancelled
  /-- The initialize-only handshake succeeded. -/
  | probed
deriving DecidableEq

/-- The first bytes a session writes. -/
inductive InitialInput where
  /-- One JSON line; the input stays open. -/
  | message (value : Json)
  /-- The bytes of the prompt, after which the input is closed. -/
  | promptThenClose (prompt : String)

/-- The harness, protocol and model of a session. -/
structure SessionRoute where
  harness : AgentKind
  protocol : NativeProtocol
  model : Option String
  /-- Ignored by every protocol but DSH. -/
  provider : Option String
deriving DecidableEq

/-- The phases of a session. -/
inductive SessionPhase where
  | initializing
  | session
  | prompt
  | finished
deriving DecidableEq

/-- The state of a session. -/
structure ProtocolSession where
  harness : AgentKind
  protocol : NativeProtocol
  probe : Bool
  model : Option String
  provider : Option String
  prompt : String
  workingDirectory : String
  /-- The identifier of the DSH side, which the client chooses. -/
  dshSessionId : Option String
  phase : SessionPhase
  sessionId : Option String
  turnId : Option String
  terminal : Option SessionTerminal
deriving DecidableEq

def NativeProtocol.supportsProbe : NativeProtocol → Bool
  | codexExec => false
  | _ => true

/-- A text that identifies something of the vendor's. -/
def identifier (value : Option Json) : Except DispatchError String :=
  match value.bind Json.asStr with
  | some text =>
    if text ≠ "" ∧ text.utf8ByteSize ≤ maxRpcIdentifierBytes then .ok text else .error .invalidIdentifier
  | none => .error .invalidIdentifier

/-- Whether an identifier of a server's request may be echoed. -/
def isRpcId (value : Json) : Bool :=
  (value.asStr.any fun text => text != "" && text.utf8ByteSize ≤ maxRpcIdentifierBytes) ||
    value.asI64.isSome

def validateRpcId (value : Json) : Except DispatchError Unit :=
  ensure (isRpcId value = true) .invalidRpcId

/-- The terminal a classified record stands for. -/
def ObservationKind.terminal : ObservationKind → Option SessionTerminal
  | completed => some .completed
  | failed => some .failed
  | cancelled => some .cancelled
  | _ => none

/-- The answer to a record, with the session after it. -/
abbrev Outcome := Except DispatchError (List Json) × ProtocolSession

namespace ProtocolSession

/-- The digest that names a DSH session, of the working directory and the prompt. -/
abbrev SessionDigest := String → String → Sha256Digest

/-- `ProtocolSession::new`. -/
def new (digest : SessionDigest) (route : SessionRoute) (probe : Bool)
    (prompt workingDirectory : String) : Except DispatchError ProtocolSession := do
  ensure (route.protocol.accepts route.harness = true) .configRouteInvalid
  ensure (workingDirectory ≠ "" ∧ '\x00' ∉ workingDirectory.toList) .workingDirectoryInvalid
  return {
    harness := route.harness
    protocol := route.protocol
    probe := probe
    model := route.model
    provider := route.provider
    prompt := prompt
    workingDirectory := workingDirectory
    dshSessionId := if route.protocol = .dshSdkJsonRpc then
        some ("vibemux_" ++ String.ofList ((digest workingDirectory prompt).toHex.take 32))
      else none
    phase := if route.protocol = .codexExec then .prompt else .initializing
    sessionId := none
    turnId := none
    terminal := none }

/-- `ProtocolSession::probe`: an initialize-only session. -/
def openProbe (digest : SessionDigest) (route : SessionRoute) (workingDirectory : String) :
    Except DispatchError ProtocolSession := do
  ensure (route.protocol.supportsProbe = true) .probeUnsupported
  new digest route true "" workingDirectory

/-- `ProtocolSession::execution`: a session of one prompt. -/
def openExecution (digest : SessionDigest) (route : SessionRoute) (prompt workingDirectory : String)
    (maxPromptBytes : Nat) : Except DispatchError ProtocolSession := do
  ensure (trim prompt.toList ≠ [] ∧ prompt.utf8ByteSize ≤ maxPromptBytes) .invalidPrompt
  new digest route false prompt workingDirectory

variable (self : ProtocolSession)

def isFinished : Bool := self.phase == .finished

def initialInput : InitialInput :=
  match self.protocol with
  | .codexExec => .promptThenClose self.prompt
  | .dshSdkJsonRpc => .message (.obj [("jsonrpc", .str "2.0"), ("id", .str dshInitializeId),
      ("method", .str "initialize"), ("params", .obj [("cwd", .str self.workingDirectory),
        ("provider", .str (self.provider.getD "")), ("model", .str (self.model.getD ""))])])
  | .codexAppServer => .message (.obj [("id", .int rpcInitializeId), ("method", .str "initialize"),
      ("params", .obj [("clientInfo", .obj [("name", .str clientName), ("title", .str "VibeMux"),
        ("version", .str clientVersion)])])])
  | .acp => .message (.obj [("jsonrpc", .str "2.0"), ("id", .int rpcInitializeId),
      ("method", .str "initialize"), ("params", .obj [("protocolVersion", .int 1),
        ("clientCapabilities", .obj [("fs", .obj [("readTextFile", .bool false),
          ("writeTextFile", .bool false)]), ("terminal", .bool false)]),
        ("clientInfo", .obj [("name", .str clientName), ("version", .str clientVersion)])])])
  | .claudeStreamJson => .message (.obj [("type", .str "control_request"),
      ("request_id", .str claudeInitializeId), ("request", .obj [("subtype", .str "initialize"),
        ("hooks", .null), ("skills", .arr [])])])

/-! ## Receiving -/

/-- Goes on when `result` is a value; an error ends the call with the session as it is. -/
def andThen {α : Type} (result : Except DispatchError α) (next : α → Outcome) : Outcome :=
  match result with
  | .ok value => next value
  | .error error => (.error error, self)

/-- Ends the session when the record is classified as an end. -/
def finishWith (kind : ObservationKind) : ProtocolSession :=
  match kind.terminal with
  | some terminal => { self with terminal := some terminal, phase := .finished }
  | none => self

def validateSession (value : Option Json) : Except DispatchError Unit :=
  ensure (self.sessionId.isSome ∧ value.bind Json.asStr = self.sessionId) .uncorrelatedSession

/-- `correlate_turn`: the turn becomes the session's own when it has none. -/
def correlateTurn (turnId : String) : Except DispatchError ProtocolSession := do
  ensure ((self.turnId.all fun expected => expected = turnId) = true) .uncorrelatedTurn
  return { self with turnId := some turnId }

/-- The reply to a server's request: it is declined or refused. -/
def declineServerRequest (method : String) (id : Json) : Json :=
  match self.protocol with
  | .acp =>
    if method = "session/request_permission" then
      .obj [("jsonrpc", .str "2.0"), ("id", id),
        ("result", .obj [("outcome", .obj [("outcome", .str "cancelled")])])]
    else
      .obj [("id", id), ("error", .obj [("code", .int (-32601)), ("message", .str refusalText)]),
        ("jsonrpc", .str "2.0")]
  | .codexAppServer =>
    if method = "item/commandExecution/requestApproval" ∨
        method = "item/fileChange/requestApproval" then
      .obj [("id", id), ("result", .obj [("decision", .str "decline")])]
    else .obj [("id", id), ("error", .obj [("code", .int (-32601)), ("message", .str refusalText)])]
  | _ => .obj [("id", id), ("error", .obj [("code", .int (-32601)), ("message", .str refusalText)])]

def receiveTurnNotification (value : Json) (method : String) (kind : ObservationKind) : Outcome :=
  self.andThen (self.validateSession (value.pointer ["params", "threadId"])) fun _ =>
  self.andThen (identifier (value.pointer ["params", "turn", "id"])) fun turnId =>
  if method = "turn/started" then
    self.andThen (self.correlateTurn turnId) fun session => (.ok [], session)
  else
    self.andThen (ensure (self.phase = .prompt ∧ self.turnId.isSome) .unexpectedTerminal) fun _ =>
    self.andThen (self.correlateTurn turnId) fun session =>
    let session := session.finishWith kind
    session.andThen (ensure session.terminal.isSome .invalidTerminal) fun _ => (.ok [], session)

def receiveInitializeResult (result : Json) : Outcome :=
  let acp := self.protocol = .acp
  self.andThen (ensure (acp → (result.get "protocolVersion").bind Json.asU64 = some 1)
    .unsupportedProtocolVersion) fun _ =>
  self.andThen (ensure (acp ∨ (result.getStr "userAgent").isSome) .invalidInitialize) fun _ =>
  let replies := if acp then [] else [.obj [("method", .str "initialized")]]
  if self.probe then
    (.ok replies, { self with terminal := some .probed, phase := .finished })
  else
    let message : Json :=
      if acp then .obj [("jsonrpc", .str "2.0"), ("id", .int rpcSessionId),
        ("method", .str "session/new"),
        ("params", .obj [("cwd", .str self.workingDirectory), ("mcpServers", .arr [])])]
      else .obj [("id", .int rpcSessionId), ("method", .str "thread/start"),
        ("params", .obj ([("cwd", .str self.workingDirectory), ("approvalPolicy", .str "never"),
          ("sandbox", .str "read-only"), ("ephemeral", .bool true)] ++
          self.model.toList.map fun model => ("model", .str model)))]
    (.ok (replies ++ [message]), { self with phase := .session })

/-- The message that carries the prompt, for the protocols that open a session first. -/
def promptMessage (sessionId : String) : Json :=
  let input : Json := .arr [.obj [("type", .str "text"), ("text", .str self.prompt)]]
  if self.protocol = .acp then
    .obj [("jsonrpc", .str "2.0"), ("id", .int rpcPromptId), ("method", .str "session/prompt"),
      ("params", .obj [("sessionId", .str sessionId), ("prompt", input)])]
  else
    .obj [("id", .int rpcPromptId), ("method", .str "turn/start"),
      ("params", .obj [("threadId", .str sessionId), ("input", input)])]

def receiveSessionResult (result : Json) : Outcome :=
  let value := if self.protocol = .acp then result.get "sessionId" else result.pointer ["thread", "id"]
  self.andThen (identifier value) fun sessionId =>
  (.ok [self.promptMessage sessionId],
    { self with sessionId := some sessionId, phase := .prompt })

/-- A response, to the request that the phase waits for. -/
def receiveResponse (value : Json) (kind : ObservationKind) : Outcome :=
  let id := (value.get "id").bind Json.asU64
  self.andThen (ensure id.isSome .uncorrelatedResponse) fun _ =>
  if id = some rpcCancelId then (.ok [], self)
  else
    self.andThen (ensure (self.phase ≠ .finished) .unexpectedResponse) fun _ =>
    let expected := match self.phase with
      | .initializing => rpcInitializeId
      | .session => rpcSessionId
      | _ => rpcPromptId
    self.andThen (ensure (id = some expected) .uncorrelatedResponse) fun _ =>
    self.andThen (ensure ((value.get "error").isNone = true) .rpcError) fun _ =>
    self.andThen (require ((value.get "result").filter Json.isObject) .invalidRpcResult) fun result =>
    match self.phase with
    | .initializing => self.receiveInitializeResult result
    | .session => self.receiveSessionResult result
    | _ =>
      if self.protocol = .acp then
        let session := self.finishWith kind
        session.andThen (ensure session.terminal.isSome .invalidTerminal) fun _ => (.ok [], session)
      else
        self.andThen (identifier (result.pointer ["turn", "id"])) fun turnId =>
        self.andThen (self.correlateTurn turnId) fun session => (.ok [], session)

/-- The JSON-RPC of the Codex app server and of ACP. -/
def receiveJsonRpc (value : Json) (kind : ObservationKind) : Outcome :=
  self.andThen (ensure (self.protocol = .acp → value.getStr "jsonrpc" = some "2.0") .invalidJsonRpc)
    fun _ =>
  match value.getStr "method" with
  | some method =>
    match value.get "id" with
    | some id =>
      self.andThen (validateRpcId id) fun _ => (.ok [self.declineServerRequest method id], self)
    | none =>
      if self.protocol ≠ .acp ∧ (method = "turn/started" ∨ method = "turn/completed") then
        self.receiveTurnNotification value method kind
      else if self.protocol = .acp ∧ method = "session/update" then
        self.andThen (self.validateSession (value.pointer ["params", "sessionId"])) fun _ =>
          (.ok [], self)
      else (.ok [], self)
  | none => self.receiveResponse value kind

def receiveDshInitializeResult (result : Json) : Outcome :=
  self.andThen (ensure (result.pointerStr ["serverInfo", "name"] = some dshServerName)
    .invalidInitialize) fun _ =>
  if self.probe then (.ok [], { self with terminal := some .probed, phase := .finished })
  else
    let session := { self with phase := .prompt }
    session.andThen (require self.dshSessionId .internal) fun sessionId =>
    (.ok [.obj [("jsonrpc", .str "2.0"), ("id", .str dshPromptId), ("method", .str "session/prompt"),
      ("params", .obj [("sessionId", .str sessionId), ("contentBlocks",
        .arr [.obj [("type", .str "text"), ("text", .str self.prompt)]])])]], session)

/-- The end of a turn of this session. -/
def receiveDshTurnEnd (value : Json) (kind : ObservationKind) : Outcome :=
  self.andThen (ensure (self.phase = .prompt) .unexpectedTerminal) fun _ =>
  self.andThen (require ((value.pointer ["params", "event", "data", "turn"]).bind Json.asU64)
    .invalidIdentifier) fun turn =>
  self.andThen (self.correlateTurn (String.ofList (decimal turn))) fun session =>
  if kind.isTerminal then
    let session := session.finishWith kind
    session.andThen (ensure session.terminal.isSome .invalidTerminal) fun _ => (.ok [], session)
  else (.ok [], session)

/-- A record of another session in the same runtime is dropped. -/
def receiveDshNotification (value : Json) (method : String) (kind : ObservationKind) : Outcome :=
  if method ∉ ["session.event", "session.status", "subagent.started", "subagent.finished"] then
    (.ok [], self)
  else
    self.andThen (require self.dshSessionId .internal) fun expected =>
    self.andThen (require (value.pointerStr ["params", "sessionId"]) .uncorrelatedSession) fun actual =>
    if actual ≠ expected ∨ method ≠ "session.event" then (.ok [], self)
    else
      self.andThen (ensure (actual.utf8ByteSize ≤ maxDshSessionIdBytes) .invalidIdentifier) fun _ =>
      if value.pointerStr ["params", "event", "type"] ≠ some "turn/end" then (.ok [], self)
      else self.receiveDshTurnEnd value kind

/-- A record of a DSH runtime. -/
def receiveDsh (value : Json) (kind : ObservationKind) : Outcome :=
  self.andThen (ensure (value.getStr "jsonrpc" = some "2.0") .invalidJsonRpc) fun _ =>
  match value.getStr "method" with
  | some method =>
    match value.get "id" with
    | some id =>
      self.andThen (validateRpcId id) fun _ =>
      (.ok [.obj [("jsonrpc", .str "2.0"), ("id", id),
        ("error", .obj [("code", .int (-32601)), ("message", .str refusalText)])]], self)
    | none => self.receiveDshNotification value method kind
  | none =>
    self.andThen (require (value.getStr "id") .uncorrelatedResponse) fun id =>
    self.andThen (ensure ((value.get "error").isNone = true) .rpcError) fun _ =>
    self.andThen (require ((value.get "result").filter Json.isObject) .invalidRpcResult) fun result =>
    if id = dshInitializeId then
      self.andThen (ensure (self.phase = .initializing) .unexpectedResponse) fun _ =>
      self.receiveDshInitializeResult result
    else if id = dshPromptId then
      self.andThen (ensure (self.phase = .prompt) .unexpectedResponse) fun _ =>
      -- The receipt names the queued message, not a result.
      self.andThen (identifier (result.get "messageId")) fun _ => (.ok [], self)
    else (.error .uncorrelatedResponse, self)

/-- A record that may end the turn of a protocol without identifiers. -/
def receiveTerminal (kind : ObservationKind) : Outcome :=
  if kind.isTerminal then
    self.andThen (ensure (self.phase = .prompt) .unexpectedTerminal) fun _ =>
    (.ok [], self.finishWith kind)
  else (.ok [], self)

/-- A record of Claude's stream. -/
def receiveClaude (value : Json) (kind : ObservationKind) : Outcome :=
  if value.getStr "type" = some "control_request" then
    self.andThen (require (value.get "request_id") .invalidRpcId) fun requestId =>
    self.andThen (validateRpcId requestId) fun _ =>
    (.ok [.obj [("type", .str "control_response"), ("response", .obj [("subtype", .str "error"),
      ("request_id", requestId), ("error", .str refusalText)])]], self)
  else if value.getStr "type" = some "control_response" then
    let responseId := value.pointerStr ["response", "request_id"]
    if responseId = some claudeInterruptId then (.ok [], self)
    else
      self.andThen (ensure (self.phase = .initializing ∧ responseId = some claudeInitializeId ∧
        value.pointerStr ["response", "subtype"] = some "success") .invalidInitialize) fun _ =>
      if self.probe then (.ok [], { self with terminal := some .probed, phase := .finished })
      else
        (.ok [.obj [("type", .str "user"), ("session_id", .str ""),
          ("message", .obj [("role", .str "user"), ("content", .str self.prompt)]),
          ("parent_tool_use_id", .null)]], { self with phase := .prompt })
  else self.receiveTerminal kind

/-- Advances the session with one classified record; the replies are written back in order. -/
def receive (value : Json) (kind : ObservationKind) : Outcome :=
  match self.protocol with
  | .claudeStreamJson => self.receiveClaude value kind
  | .dshSdkJsonRpc => self.receiveDsh value kind
  | .codexExec => self.receiveTerminal kind
  | .codexAppServer | .acp => self.receiveJsonRpc value kind

end ProtocolSession

end Vibemux
