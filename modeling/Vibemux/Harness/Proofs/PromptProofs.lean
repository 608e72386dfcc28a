import Vibemux.Harness.ProtocolSession

/-!
# What a session writes of its prompt

A session is compared with one that has another prompt and agrees with it in all else. Record for record
the two give the same answers, but for the text at the one place where the message that starts the turn
has the prompt.
-/

namespace Vibemux

open Checked Json List

variable {α : Type} {method other : String} {value result : Json} {kind : ObservationKind}

/-! ## The place of the prompt -/

/-- The message that starts the turn of a session, by its method or type. -/
def startsTurn (protocol : NativeProtocol) (message : Json) : Bool :=
  match protocol with
  | .codexExec => false
  | .claudeStreamJson => message.getStr "type" == some "user"
  | .codexAppServer => message.getStr "method" == some "turn/start"
  | .acp | .dshSdkJsonRpc => message.getStr "method" == some "session/prompt"

/-- Where that message has the prompt; `"0"` is the first item of an array. -/
def promptPath : NativeProtocol → List String
  | .codexExec => []
  | .claudeStreamJson => ["message", "content"]
  | .codexAppServer => ["params", "input", "0", "text"]
  | .acp => ["params", "prompt", "0", "text"]
  | .dshSdkJsonRpc => ["params", "contentBlocks", "0", "text"]

/-- The text at a path, which enters arrays at their first item. -/
def textAt : List String → Json → Option String
  | [], value => value.asStr
  | _ :: path, .arr (item :: _) => textAt path item
  | name :: path, value => (value.get name).bind (textAt path)

/-- The value with another text at a path. -/
def replaceText (text : String) : List String → Json → Json
  | [], _ => .str text
  | _ :: path, .arr (item :: rest) => .arr (replaceText text path item :: rest)
  | name :: path, .obj fields => .obj (fields.map fun field =>
      if field.1 = name then (field.1, replaceText text path field.2) else field)
  | _, value => value

/-- A message that starts the turn with the prompt. -/
def carriesPrompt (protocol : NativeProtocol) (prompt : String) (message : Json) : Bool :=
  startsTurn protocol message && textAt (promptPath protocol) message == some prompt

/-- The message with another prompt, if it has one. -/
def setPrompt (protocol : NativeProtocol) (prompt : String) (message : Json) : Json :=
  if startsTurn protocol message then replaceText prompt (promptPath protocol) message else message

/-- The first input with another prompt, if it has one. -/
def InitialInput.setPrompt (protocol : NativeProtocol) (prompt : String) : InitialInput → InitialInput
  | message value => message (Vibemux.setPrompt protocol prompt value)
  | promptThenClose _ => promptThenClose prompt

/-! ## Two sessions -/

namespace ProtocolSession

variable {session : ProtocolSession}

/-- The session with another prompt. A DSH session keeps its identifier, a digest of the old one. -/
def withPrompt (session : ProtocolSession) (prompt : String) : ProtocolSession := { session with prompt }

/-- What an outcome is for the session with another prompt. -/
structure Twin (other : String) (outcome twin : Outcome) : Prop where
  answer : twin.1 = outcome.1.map (List.map (setPrompt outcome.2.protocol other))
  session : twin.2 = outcome.2.withPrompt other

namespace Twin

/-- The checks do not read the prompt. -/
theorem andThen {result : Except DispatchError α} {next next' : α → Outcome}
    (h : ∀ a, Twin other (next a) (next' a)) :
    Twin other (session.andThen result next) ((session.withPrompt other).andThen result next') := by
  cases result with
  | ok a => exact h a
  | error error => exact ⟨rfl, rfl⟩

/-- The branches do not depend on the prompt. -/
theorem ite {c : Prop} [Decidable c] {first second first' second' : Outcome}
    (hfirst : Twin other first first') (hsecond : Twin other second second') :
    Twin other (if c then first else second) (if c then first' else second') := by
  by_cases h : c
  · rw [if_pos h, if_pos h]
    exact hfirst
  · rw [if_neg h, if_neg h]
    exact hsecond

theorem refused (error : DispatchError) :
    Twin other (.error error, session) (.error error, session.withPrompt other) := ⟨rfl, rfl⟩

theorem idle : Twin other (.ok [], session) (.ok [], session.withPrompt other) := ⟨rfl, rfl⟩

/-- Messages that do not start a turn are the same for every prompt. -/
theorem answered {replies : List Json}
    (h : ∀ message ∈ replies, startsTurn session.protocol message = false) :
    Twin other (.ok replies, session) (.ok replies, session.withPrompt other) := by
  refine ⟨congrArg Except.ok ?_, rfl⟩
  rw [map_congr_left (g := id) fun message hmem => by simp [setPrompt, h message hmem], map_id]

theorem prompted {message message' : Json} (h : message' = setPrompt session.protocol other message) :
    Twin other (.ok [message], session) (.ok [message'], session.withPrompt other) :=
  ⟨by rw [h]; rfl, rfl⟩

/-- The turn is correlated without the prompt. -/
theorem correlated {turn : String} {next next' : ProtocolSession → Outcome}
    (h : Twin other (next { session with turnId := some turn })
      (next' ({ session with turnId := some turn }.withPrompt other))) :
    Twin other (session.andThen (session.correlateTurn turn) next)
      ((session.withPrompt other).andThen ((session.withPrompt other).correlateTurn turn) next') := by
  by_cases hturn : (session.turnId.all fun expected => expected = turn) = true
  · simp only [correlateTurn, withPrompt, ensure, hturn, if_true]
    exact h
  · simp only [correlateTurn, withPrompt, ensure, hturn]
    exact refused _

/-- The end of a turn. -/
theorem finished : Twin other
    (let next := session.finishWith kind
     next.andThen (ensure (next.terminal.isSome = true) .invalidTerminal) fun _ => (.ok [], next))
    (let next := (session.withPrompt other).finishWith kind
     next.andThen (ensure (next.terminal.isSome = true) .invalidTerminal) fun _ => (.ok [], next)) := by
  have hfinish : (session.withPrompt other).finishWith kind = (session.finishWith kind).withPrompt other := by
    unfold finishWith
    cases kind.terminal <;> rfl
  rw [hfinish]
  exact andThen fun _ => idle

end Twin

/-! ## One record -/

theorem receiveTerminal_twin : Twin other (session.receiveTerminal kind)
    ((session.withPrompt other).receiveTerminal kind) := by
  refine .ite (.andThen fun _ => ?_) .idle
  unfold finishWith
  cases kind.terminal <;> exact .idle

theorem receiveClaude_twin (hprotocol : session.protocol = .claudeStreamJson) :
    Twin other (session.receiveClaude value kind)
      ((session.withPrompt other).receiveClaude value kind) := by
  refine .ite (.andThen fun id => .andThen fun _ => .answered ?_) <|
    .ite (.ite .idle <| .andThen fun _ => .ite .idle <| .prompted ?_) receiveTerminal_twin
  · simp [hprotocol, startsTurn, getStr, asStr]
  · simp [hprotocol, setPrompt, startsTurn, getStr, asStr, promptPath, replaceText, withPrompt]

theorem receiveDshNotification_twin : Twin other (session.receiveDshNotification value method kind)
    ((session.withPrompt other).receiveDshNotification value method kind) := by
  refine .ite .idle <| .andThen fun own => .andThen fun actual => .ite .idle <| .andThen fun _ =>
    .ite .idle ?_
  exact .andThen fun _ => .andThen fun turn => .correlated <| .ite .finished .idle

theorem receiveDshInitializeResult_twin (hprotocol : session.protocol = .dshSdkJsonRpc) :
    Twin other (session.receiveDshInitializeResult result)
      ((session.withPrompt other).receiveDshInitializeResult result) := by
  refine .andThen fun _ => .ite .idle <| .andThen fun own => .prompted ?_
  simp [hprotocol, setPrompt, startsTurn, getStr, asStr, promptPath, replaceText, withPrompt]

theorem receiveDsh_twin (hprotocol : session.protocol = .dshSdkJsonRpc) :
    Twin other (session.receiveDsh value kind) ((session.withPrompt other).receiveDsh value kind) := by
  refine .andThen fun _ => ?_
  split
  · split
    · refine .andThen fun _ => .answered ?_
      simp [hprotocol, startsTurn, getStr]
    · exact receiveDshNotification_twin
  · refine .andThen fun id => .andThen fun _ => .andThen fun result => .ite (.andThen fun _ => ?_) <|
      .ite (.andThen fun _ => .andThen fun _ => .idle) (.refused _)
    exact receiveDshInitializeResult_twin hprotocol

theorem receiveTurnNotification_twin : Twin other (session.receiveTurnNotification value method kind)
    ((session.withPrompt other).receiveTurnNotification value method kind) := by
  refine .andThen fun _ => .andThen fun turn => .ite (.correlated .idle) <| .andThen fun _ => ?_
  exact .correlated .finished

theorem receiveInitializeResult_twin
    (hprotocol : session.protocol = .codexAppServer ∨ session.protocol = .acp) :
    Twin other (session.receiveInitializeResult result)
      ((session.withPrompt other).receiveInitializeResult result) := by
  refine .andThen fun _ => .andThen fun _ => .ite (.answered ?_) (.answered ?_)
  · rcases hprotocol with h | h <;> simp [h, startsTurn, getStr, asStr]
  · rcases hprotocol with h | h <;> simp [h, startsTurn, getStr, asStr]

theorem promptMessage_withPrompt (id : String)
    (hprotocol : session.protocol = .codexAppServer ∨ session.protocol = .acp) :
    (session.withPrompt other).promptMessage id =
      setPrompt session.protocol other (session.promptMessage id) := by
  rcases hprotocol with h | h <;>
    simp [h, promptMessage, setPrompt, startsTurn, getStr, asStr, promptPath, replaceText, withPrompt]

theorem receiveResponse_twin
    (hprotocol : session.protocol = .codexAppServer ∨ session.protocol = .acp) :
    Twin other (session.receiveResponse value kind)
      ((session.withPrompt other).receiveResponse value kind) := by
  refine .andThen fun _ => .ite .idle <| .andThen fun _ => .andThen fun _ => .andThen fun _ =>
    .andThen fun result => ?_
  have hphase : (session.withPrompt other).phase = session.phase := rfl
  rw [hphase]
  cases session.phase with
  | initializing => exact receiveInitializeResult_twin hprotocol
  | session => exact .andThen fun id => .prompted (promptMessage_withPrompt id hprotocol)
  | prompt => exact .ite .finished <| .andThen fun turn => .correlated .idle
  | finished => exact .ite .finished <| .andThen fun turn => .correlated .idle

theorem startsTurn_declineServerRequest (method : String) (id : Json) :
    startsTurn session.protocol (session.declineServerRequest method id) = false := by
  unfold declineServerRequest
  cases session.protocol with
  | acp => split_ifs <;> simp [startsTurn, getStr]
  | codexAppServer => split_ifs <;> simp [startsTurn, getStr]
  | _ => simp [startsTurn, getStr]

theorem receiveJsonRpc_twin
    (hprotocol : session.protocol = .codexAppServer ∨ session.protocol = .acp) :
    Twin other (session.receiveJsonRpc value kind)
      ((session.withPrompt other).receiveJsonRpc value kind) := by
  refine .andThen fun _ => ?_
  split
  · split
    · refine .andThen fun _ => .answered fun message hmem => ?_
      rw [mem_singleton.1 hmem]
      exact startsTurn_declineServerRequest _ _
    · exact .ite receiveTurnNotification_twin <| .ite (.andThen fun _ => .idle) .idle
  · exact receiveResponse_twin hprotocol

theorem receive_twin (session : ProtocolSession) (other : String) (value : Json)
    (kind : ObservationKind) :
    Twin other (session.receive value kind) ((session.withPrompt other).receive value kind) := by
  have hsame : (session.withPrompt other).protocol = session.protocol := rfl
  unfold receive
  rw [hsame]
  cases hprotocol : session.protocol with
  | claudeStreamJson => exact receiveClaude_twin hprotocol
  | dshSdkJsonRpc => exact receiveDsh_twin hprotocol
  | codexExec => exact receiveTerminal_twin
  | codexAppServer => exact receiveJsonRpc_twin (.inl hprotocol)
  | acp => exact receiveJsonRpc_twin (.inr hprotocol)

/-- The first input of a session with another prompt. -/
theorem initialInput_withPrompt (session : ProtocolSession) (other : String) :
    (session.withPrompt other).initialInput = session.initialInput.setPrompt session.protocol other := by
  cases hprotocol : session.protocol <;>
    simp [initialInput, withPrompt, hprotocol, InitialInput.setPrompt, setPrompt, startsTurn, getStr, asStr]

end ProtocolSession

end Vibemux
