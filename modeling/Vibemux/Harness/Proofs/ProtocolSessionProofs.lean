import Vibemux.Harness.Proofs.PromptProofs

/-!
# Safety of protocol sessions

`Advance` says what one record can do to a session: change no more than the turn, answer the initialize
request, open the vendor's session, or end the turn.
-/

namespace Vibemux

open Checked Json List Option

variable {c : Prop} {e : DispatchError} {method : String} {terminal : SessionTerminal} {u : Unit}
  {α : Type}

/-! ## What the records and the messages are -/

/-- How often an answer writes the prompt. -/
def promptsIn (protocol : NativeProtocol) (prompt : String) : Except DispatchError (List Json) → Nat
  | .ok replies => replies.countP (carriesPrompt protocol prompt)
  | .error _ => 0

/-- How often the first input writes the prompt. -/
def promptsInInitial (protocol : NativeProtocol) (prompt : String) : InitialInput → Nat
  | .message value => if carriesPrompt protocol prompt value then 1 else 0
  | .promptThenClose text => if text = prompt then 1 else 0

/-- The successful answer to the initialize request. -/
def answersInitialize (protocol : NativeProtocol) (value : Json) : Prop :=
  match protocol with
  | .codexExec => False
  | .claudeStreamJson => value.getStr "type" = some "control_response" ∧
      value.pointerStr ["response", "request_id"] = some claudeInitializeId ∧
      value.pointerStr ["response", "subtype"] = some "success"
  | .codexAppServer => (value.get "id").bind Json.asU64 = some rpcInitializeId ∧
      (value.get "error").isNone = true ∧
      ∃ result, value.get "result" = some result ∧ (result.getStr "userAgent").isSome = true
  | .acp => (value.get "id").bind Json.asU64 = some rpcInitializeId ∧
      (value.get "error").isNone = true ∧
      ∃ result, value.get "result" = some result ∧
        (result.get "protocolVersion").bind Json.asU64 = some 1
  | .dshSdkJsonRpc => value.getStr "id" = some dshInitializeId ∧
      (value.get "error").isNone = true ∧
      ∃ result, value.get "result" = some result ∧
        result.pointerStr ["serverInfo", "name"] = some dshServerName

/-- A record about the session's own turn; `turnId` is the turn of the session after the record. A DSH
session learns its turn from the first end of a turn. -/
def Correlated (session : ProtocolSession) (turnId : Option String) (value : Json) : Prop :=
  match session.protocol with
  | .codexAppServer => ∃ thread turn, session.sessionId = some thread ∧
      value.pointerStr ["params", "threadId"] = some thread ∧
      session.turnId = some turn ∧ turnId = some turn ∧
      value.pointerStr ["params", "turn", "id"] = some turn
  | .acp => (value.get "id").bind Json.asU64 = some rpcPromptId
  | .dshSdkJsonRpc => ∃ own turn, session.dshSessionId = some own ∧
      value.pointerStr ["params", "sessionId"] = some own ∧
      (value.pointer ["params", "event", "data", "turn"]).bind Json.asU64 = some turn ∧
      (session.turnId = none ∨ session.turnId = turnId) ∧ turnId = some (String.ofList (decimal turn))
  | _ => True

/-- The identifier of a server's request, when the record is one. -/
def serverRequestId (protocol : NativeProtocol) (value : Json) : Option Json :=
  match protocol with
  | .codexExec => none
  | .claudeStreamJson =>
    if value.getStr "type" = some "control_request" then value.get "request_id" else none
  | .codexAppServer => if (value.getStr "method").isSome then value.get "id" else none
  | .acp | .dshSdkJsonRpc =>
    if value.getStr "jsonrpc" = some "2.0" ∧ (value.getStr "method").isSome then value.get "id" else none

/-- A reply that grants nothing: an error, a decline or a cancellation, under the request's identifier. -/
def refuses (protocol : NativeProtocol) (id reply : Json) : Prop :=
  match protocol with
  | .claudeStreamJson => reply.getStr "type" = some "control_response" ∧
      reply.pointer ["response", "request_id"] = some id ∧
      reply.pointerStr ["response", "subtype"] = some "error"
  | _ => reply.get "id" = some id ∧
      ((reply.get "error").isSome = true ∧ reply.get "result" = none ∨
        reply.get "result" = some (.obj [("decision", .str "decline")]) ∨
        reply.get "result" = some (.obj [("outcome", .obj [("outcome", .str "cancelled")])]))

namespace ProtocolSession

variable {session : ProtocolSession} {value : Json} {kind : ObservationKind} {outcome : Outcome}
  {field : Option Json} {result : Json} {digest : SessionDigest}

/-- What one record can do. -/
inductive Advance (session : ProtocolSession) (value : Json) (kind : ObservationKind) :
    Outcome → Prop
  /-- Nothing but the turn changes, and the prompt is not written. -/
  | quiet (result : Except DispatchError (List Json)) (turn : Option String)
      (hprompts : promptsIn session.protocol session.prompt result = 0) :
      Advance session value kind (result, { session with turnId := turn })
  /-- The handshake of a probe succeeded. -/
  | probed (replies : List Json) (hphase : session.phase = .initializing)
      (hprobe : session.probe = true) (hanswer : answersInitialize session.protocol value)
      (hprompts : promptsIn session.protocol session.prompt (.ok replies) = 0) :
      Advance session value kind
        (.ok replies, { session with terminal := some .probed, phase := .finished })
  /-- The handshake succeeded and the vendor's session is asked for. -/
  | opened (replies : List Json) (hphase : session.phase = .initializing)
      (hprobe : session.probe = false) (hanswer : answersInitialize session.protocol value)
      (hprompts : promptsIn session.protocol session.prompt (.ok replies) = 0) :
      Advance session value kind (.ok replies, { session with phase := .session })
  /-- The vendor's session is open and the prompt is written. -/
  | prompted (replies : List Json) (id : String) (hphase : session.phase = .session)
      (hprompts : promptsIn session.protocol session.prompt (.ok replies) = 1) :
      Advance session value kind
        (.ok replies, { session with sessionId := some id, phase := .prompt })
  /-- The handshake succeeded and the prompt is written at once. -/
  | promptedAtOnce (replies : List Json) (hphase : session.phase = .initializing)
      (hprobe : session.probe = false) (hanswer : answersInitialize session.protocol value)
      (hprompts : promptsIn session.protocol session.prompt (.ok replies) = 1) :
      Advance session value kind (.ok replies, { session with phase := .prompt })
  /-- The turn ended. -/
  | ended (terminal : SessionTerminal) (turn : Option String) (hphase : session.phase = .prompt)
      (hterminal : kind.terminal = some terminal) (hcorrelated : Correlated session turn value) :
      Advance session value kind
        (.ok [], { session with turnId := turn, terminal := some terminal, phase := .finished })

namespace Advance

theorem refused (error : DispatchError) : Advance session value kind (.error error, session) :=
  .quiet (.error error) session.turnId rfl

theorem idle : Advance session value kind (.ok [], session) := .quiet (.ok []) session.turnId rfl

/-- A record that is answered with one message other than the prompt. -/
theorem answered {message : Json} (h : startsTurn session.protocol message = false) :
    Advance session value kind (.ok [message], session) :=
  .quiet (.ok [message]) session.turnId (by simp [promptsIn, carriesPrompt, h])

/-- A check that fails leaves the session as it is. -/
theorem andThen {result : Except DispatchError α} {next : α → Outcome}
    (h : ∀ a, result = .ok a → Advance session value kind (next a)) :
    Advance session value kind (session.andThen result next) := by
  cases result with
  | ok a => exact h a rfl
  | error error => exact refused error

/-- A branch of the code. -/
theorem ite [Decidable c] {first second : Outcome} (hfirst : c → Advance session value kind first)
    (hsecond : ¬ c → Advance session value kind second) :
    Advance session value kind (if c then first else second) := by
  by_cases h : c
  · rw [if_pos h]
    exact hfirst h
  · rw [if_neg h]
    exact hsecond h

end Advance

/-- What holds of a session from its opening on. -/
structure Inv (session : ProtocolSession) : Prop where
  finished : session.phase = .finished ↔ session.terminal.isSome = true
  probe : session.probe = true → session.phase = .initializing ∨ session.phase = .finished
  exec : session.protocol = .codexExec →
    session.probe = false ∧ (session.phase = .prompt ∨ session.phase = .finished)
  dsh : session.protocol = .dshSdkJsonRpc → session.dshSessionId.isSome = true

/-- A session in the phase `prompt` has no terminal yet. -/
theorem Inv.terminal_eq_none (hinv : Inv session) (hphase : session.phase = .prompt) :
    session.terminal = none := by
  have hnot : ¬ session.terminal.isSome = true := by
    rw [← hinv.finished, hphase]
    simp
  simpa using hnot

theorem ensure_ok [Decidable c] (h : ensure c e = .ok u) : c := ensure_eq_ok.1 h

theorem identifier_ok {text : String} (h : identifier field = .ok text) :
    field.bind asStr = some text := by
  unfold identifier at h
  split at h
  · rename_i other heq
    split_ifs at h
    rw [heq, Except.ok.inj h]
  · cases h

theorem correlateTurn_ok {turn : String} {next : ProtocolSession}
    (h : session.correlateTurn turn = .ok next) :
    (session.turnId = none ∨ session.turnId = some turn) ∧
      next = { session with turnId := some turn } := by
  simp only [correlateTurn, eq_ok] at h
  obtain ⟨hall, rfl⟩ := h
  refine ⟨?_, rfl⟩
  cases hturn : session.turnId with
  | none => exact .inl rfl
  | some expected =>
    right
    rw [hturn] at hall
    simpa using hall

/-- The last step of every end: the record is classified as one, or nothing happens. -/
theorem advance_finish (turn : Option String) (hinv : Inv session) (hphase : session.phase = .prompt)
    (hcorrelated : Correlated session turn value) :
    Advance session value kind
      (let next := { session with turnId := turn }.finishWith kind
       next.andThen (ensure (next.terminal.isSome = true) .invalidTerminal) fun _ => (.ok [], next)) := by
  cases hterminal : kind.terminal with
  | none =>
    have hnone : ¬ session.terminal.isSome = true := by simp [hinv.terminal_eq_none hphase]
    simp only [finishWith, hterminal]
    rw [ensure, if_neg hnone]
    exact .quiet (.error .invalidTerminal) turn rfl
  | some terminal =>
    simp only [finishWith, hterminal]
    exact .ended terminal turn hphase hterminal hcorrelated

/-! ## One record -/

theorem receiveTerminal_advance (hprotocol : session.protocol = .codexExec ∨
    session.protocol = .claudeStreamJson) :
    Advance session value kind (session.receiveTerminal kind) := by
  have hcorrelated : Correlated session session.turnId value := by
    rcases hprotocol with h | h <;> simp [Correlated, h]
  refine .ite (fun hkind => .andThen fun _ hphase => ?_) fun _ => .idle
  obtain ⟨terminal, hterminal⟩ : ∃ terminal, kind.terminal = some terminal := by
    cases kind with
    | completed | failed | cancelled => exact ⟨_, rfl⟩
    | _ => cases hkind
  simp only [finishWith, hterminal]
  exact .ended terminal session.turnId (ensure_ok hphase) hterminal hcorrelated

theorem receiveClaude_advance (hprotocol : session.protocol = .claudeStreamJson) :
    Advance session value kind (session.receiveClaude value kind) := by
  refine .ite (fun _ => ?_) fun _ => .ite (fun hresponse => .ite (fun _ => .idle) fun _ => ?_)
    fun _ => receiveTerminal_advance (.inr hprotocol)
  · refine .andThen fun id _ => .andThen fun _ _ => .answered ?_
    simp [hprotocol, startsTurn, getStr, asStr]
  · refine .andThen fun _ hcheck => ?_
    obtain ⟨hphase, hid, hsuccess⟩ := ensure_ok hcheck
    have hanswer : answersInitialize session.protocol value := by
      rw [hprotocol]
      exact ⟨hresponse, hid, hsuccess⟩
    refine .ite (fun hprobe => .probed [] hphase hprobe hanswer rfl) fun hprobe => ?_
    refine .promptedAtOnce _ hphase (by simpa using hprobe) hanswer ?_
    simp [hprotocol, promptsIn, carriesPrompt, startsTurn, textAt, promptPath, getStr, asStr]

theorem require_ok {o : Option α} {a : α} (h : require o e = .ok a) :
    o = some a := require_eq_ok.1 h

theorem receiveDshNotification_advance (hinv : Inv session)
    (hprotocol : session.protocol = .dshSdkJsonRpc) :
    Advance session value kind (session.receiveDshNotification value method kind) := by
  refine .ite (fun _ => .idle) fun _ => .andThen fun own hown => .andThen fun actual hactual =>
    .ite (fun _ => .idle) fun hown' => .andThen fun _ _ => .ite (fun _ => .idle) fun _ => ?_
  -- The end of a turn of this very session.
  have hsame : actual = own := by
    by_contra hne
    exact hown' (.inl hne)
  subst hsame
  refine .andThen fun _ hphase => .andThen fun turn hturn => .andThen fun next hnext => ?_
  obtain ⟨hfree, rfl⟩ := correlateTurn_ok hnext
  refine .ite (fun _ => advance_finish _ hinv (ensure_ok hphase) ?_) fun _ => .quiet (.ok []) _ rfl
  simp only [Correlated, hprotocol]
  exact ⟨actual, turn, require_ok hown, require_ok hactual, require_ok hturn, hfree, rfl⟩

theorem filter_isObject (h : field.filter isObject = some result) : field = some result :=
  (filter_eq_some_iff.1 h).1

theorem receiveDshInitializeResult_advance (hinv : Inv session)
    (hprotocol : session.protocol = .dshSdkJsonRpc) (hphase : session.phase = .initializing)
    (hanswer : result.pointerStr ["serverInfo", "name"] = some dshServerName →
      answersInitialize session.protocol value) :
    Advance session value kind (session.receiveDshInitializeResult result) := by
  refine .andThen fun _ hname => .ite (fun hprobe => ?_) fun hprobe => ?_
  · exact .probed [] hphase hprobe (hanswer (ensure_ok hname)) rfl
  · obtain ⟨own, hown⟩ := isSome_iff_exists.1 (hinv.dsh hprotocol)
    simp only [hown, require, ProtocolSession.andThen]
    rw [← hown]
    refine .promptedAtOnce _ hphase (by simpa using hprobe) (hanswer (ensure_ok hname)) ?_
    simp [hprotocol, promptsIn, carriesPrompt, startsTurn, textAt, promptPath, getStr, asStr]

theorem receiveDsh_advance (hinv : Inv session) (hprotocol : session.protocol = .dshSdkJsonRpc) :
    Advance session value kind (session.receiveDsh value kind) := by
  refine .andThen fun _ _ => ?_
  split
  · split
    · refine .andThen fun _ _ => .answered ?_
      simp [hprotocol, startsTurn, getStr]
    · exact receiveDshNotification_advance hinv hprotocol
  · refine .andThen fun id hid => .andThen fun _ herror => .andThen fun result hresult =>
      .ite (fun hanswers => .andThen fun _ hphase => ?_) fun _ => .ite
        (fun _ => .andThen fun _ _ => .andThen fun _ _ => .idle) fun _ => .refused _
    refine receiveDshInitializeResult_advance hinv hprotocol (ensure_ok hphase) fun hname => ?_
    rw [hprotocol]
    exact ⟨hanswers ▸ require_ok hid, ensure_ok herror, result,
      filter_isObject (require_ok hresult), hname⟩

theorem validateSession_ok (h : session.validateSession field = .ok u) :
    ∃ id, session.sessionId = some id ∧ field.bind asStr = some id := by
  obtain ⟨hsome, heq⟩ := ensure_ok h
  obtain ⟨id, hid⟩ := isSome_iff_exists.1 hsome
  exact ⟨id, hid, heq.trans hid⟩

theorem receiveTurnNotification_advance (hinv : Inv session)
    (hprotocol : session.protocol = .codexAppServer) :
    Advance session value kind (session.receiveTurnNotification value method kind) := by
  refine .andThen fun _ hthread => .andThen fun turn hturn => .ite (fun _ => ?_) fun _ => ?_
  · refine .andThen fun next hnext => ?_
    obtain ⟨-, rfl⟩ := correlateTurn_ok hnext
    exact .quiet (.ok []) _ rfl
  · refine .andThen fun _ hcheck => .andThen fun next hnext => ?_
    obtain ⟨hphase, hknown⟩ := ensure_ok hcheck
    obtain ⟨hfree, rfl⟩ := correlateTurn_ok hnext
    refine advance_finish _ hinv hphase ?_
    obtain ⟨thread, hown, hfield⟩ := validateSession_ok hthread
    have hsame : session.turnId = some turn := hfree.resolve_left (by
      intro hnone
      rw [hnone] at hknown
      cases hknown)
    simp only [Correlated, hprotocol]
    exact ⟨thread, turn, hown, hfield, hsame, rfl, identifier_ok hturn⟩

theorem receiveInitializeResult_advance (hphase : session.phase = .initializing)
    (hprotocol : session.protocol = .codexAppServer ∨ session.protocol = .acp)
    (hid : (value.get "id").bind asU64 = some rpcInitializeId)
    (herror : (value.get "error").isNone = true) (hresult : value.get "result" = some result) :
    Advance session value kind (session.receiveInitializeResult result) := by
  refine .andThen fun _ hversion => .andThen fun _ hagent => ?_
  have hanswer : answersInitialize session.protocol value := by
    rcases hprotocol with h | h <;> rw [h]
    · have hacp : ¬ session.protocol = .acp := by simp [h]
      exact ⟨hid, herror, result, hresult, (ensure_ok hagent).resolve_left hacp⟩
    · exact ⟨hid, herror, result, hresult, ensure_ok hversion h⟩
  rcases hprotocol with h | h
  · refine .ite (fun hprobe => .probed _ hphase hprobe hanswer ?_)
      fun hprobe => .opened _ hphase (by simpa using hprobe) hanswer ?_
    · simp [h, promptsIn, carriesPrompt, startsTurn, getStr, asStr]
    · simp [h, promptsIn, carriesPrompt, startsTurn, getStr, asStr]
  · refine .ite (fun hprobe => .probed _ hphase hprobe hanswer ?_)
      fun hprobe => .opened _ hphase (by simpa using hprobe) hanswer ?_
    · simp [h, promptsIn]
    · simp [h, promptsIn, carriesPrompt, startsTurn, getStr, asStr]

theorem receiveSessionResult_advance (hphase : session.phase = .session)
    (hprotocol : session.protocol = .codexAppServer ∨ session.protocol = .acp) :
    Advance session value kind (session.receiveSessionResult result) := by
  refine .andThen fun id _ => .prompted _ id hphase ?_
  rcases hprotocol with h | h
  · simp [h, promptMessage, promptsIn, carriesPrompt, startsTurn, textAt, promptPath, getStr, asStr]
  · simp [h, promptMessage, promptsIn, carriesPrompt, startsTurn, textAt, promptPath, getStr, asStr]

theorem receiveResponse_advance (hinv : Inv session)
    (hprotocol : session.protocol = .codexAppServer ∨ session.protocol = .acp) :
    Advance session value kind (session.receiveResponse value kind) := by
  refine .andThen fun _ _ => .ite (fun _ => .idle) fun _ => .andThen fun _ hlive =>
    .andThen fun _ hexpected => .andThen fun _ herror => .andThen fun result hresult => ?_
  have hexpected := ensure_ok hexpected
  have hobject := filter_isObject (require_ok hresult)
  cases hphase : session.phase with
  | initializing =>
    rw [hphase] at hexpected
    exact receiveInitializeResult_advance hphase hprotocol hexpected (ensure_ok herror) hobject
  | session => exact receiveSessionResult_advance hphase hprotocol
  | finished => exact absurd hphase (ensure_ok hlive)
  | prompt =>
    rw [hphase] at hexpected
    refine .ite (fun hacp => ?_) fun hacp => .andThen fun turn _ => .andThen fun next hnext => ?_
    · have hcorrelated : Correlated session session.turnId value := by
        simp only [Correlated, hacp]
        exact hexpected
      exact advance_finish session.turnId hinv hphase hcorrelated
    · obtain ⟨-, rfl⟩ := correlateTurn_ok hnext
      exact .quiet (.ok []) _ rfl

theorem receiveJsonRpc_advance (hinv : Inv session)
    (hprotocol : session.protocol = .codexAppServer ∨ session.protocol = .acp) :
    Advance session value kind (session.receiveJsonRpc value kind) := by
  refine .andThen fun _ _ => ?_
  split
  · split
    · exact .andThen fun _ _ => .answered (startsTurn_declineServerRequest _ _)
    · refine .ite (fun hturn => ?_) fun _ => .ite (fun _ => .andThen fun _ _ => .idle) fun _ => .idle
      exact receiveTurnNotification_advance hinv (hprotocol.resolve_right hturn.1)
  · exact receiveResponse_advance hinv hprotocol

/-- One record of any protocol. -/
theorem receive_advance (hinv : Inv session) (value : Json) (kind : ObservationKind) :
    Advance session value kind (session.receive value kind) := by
  unfold receive
  cases hprotocol : session.protocol with
  | claudeStreamJson => exact receiveClaude_advance hprotocol
  | dshSdkJsonRpc => exact receiveDsh_advance hinv hprotocol
  | codexExec => exact receiveTerminal_advance (.inl hprotocol)
  | codexAppServer => exact receiveJsonRpc_advance hinv (.inl hprotocol)
  | acp => exact receiveJsonRpc_advance hinv (.inr hprotocol)

/-! ## Whole sessions -/

/-- The session after a sequence of records. -/
def after (session : ProtocolSession) (inputs : List (Json × ObservationKind)) : ProtocolSession :=
  inputs.foldl (fun session input => (session.receive input.1 input.2).2) session

/-- The answers to a sequence of records. -/
def answers (session : ProtocolSession) :
    List (Json × ObservationKind) → List (Except DispatchError (List Json))
  | [] => []
  | input :: rest =>
    (session.receive input.1 input.2).1 :: (session.receive input.1 input.2).2.answers rest

/-- No record changes the protocol or the prompt. -/
theorem Advance.protocol_eq (h : Advance session value kind outcome) :
    outcome.2.protocol = session.protocol ∧ outcome.2.prompt = session.prompt := by
  cases h <;> exact ⟨rfl, rfl⟩

theorem Inv.advance (hinv : Inv session) (h : Advance session value kind outcome) :
    Inv outcome.2 := by
  cases h with
  | quiet result turn hprompts => exact ⟨hinv.finished, hinv.probe, hinv.exec, hinv.dsh⟩
  | probed _ _ hprobe _ _ =>
    refine ⟨by simp, fun _ => .inr rfl, fun hexec => ?_, hinv.dsh⟩
    rw [(hinv.exec hexec).1] at hprobe
    cases hprobe
  | opened _ hphase hprobe _ _ =>
    have hlive := hinv.finished
    refine ⟨?_, fun h => ?_, fun hexec => ?_, hinv.dsh⟩
    · rw [hphase] at hlive
      simpa using hlive
    · rw [hprobe] at h
      cases h
    · rcases (hinv.exec hexec).2 with h | h <;> rw [hphase] at h <;> cases h
  | prompted _ _ hphase _ =>
    have hlive := hinv.finished
    refine ⟨?_, fun h => ?_, fun hexec => ⟨(hinv.exec hexec).1, .inl rfl⟩, hinv.dsh⟩
    · rw [hphase] at hlive
      simpa using hlive
    · rcases hinv.probe h with h | h <;> rw [hphase] at h <;> cases h
  | promptedAtOnce _ hphase hprobe _ _ =>
    have hlive := hinv.finished
    refine ⟨?_, fun h => ?_, fun hexec => ⟨(hinv.exec hexec).1, .inl rfl⟩, hinv.dsh⟩
    · rw [hphase] at hlive
      simpa using hlive
    · rw [hprobe] at h
      cases h
  | ended _ _ _ _ _ =>
    exact ⟨by simp, fun _ => .inr rfl, fun hexec => ⟨(hinv.exec hexec).1, .inr rfl⟩, hinv.dsh⟩

theorem Inv.after (hinv : Inv session) (inputs : List (Json × ObservationKind)) :
    Inv (session.after inputs) := by
  induction inputs generalizing session with
  | nil => exact hinv
  | cons input rest ih => exact ih (hinv.advance (receive_advance hinv input.1 input.2))

theorem protocol_after (hinv : Inv session) (inputs : List (Json × ObservationKind)) :
    (session.after inputs).protocol = session.protocol ∧
      (session.after inputs).prompt = session.prompt := by
  induction inputs generalizing session with
  | nil => exact ⟨rfl, rfl⟩
  | cons input rest ih =>
    have hadvance := receive_advance hinv input.1 input.2
    obtain ⟨hprotocol, hprompt⟩ := ih (hinv.advance hadvance)
    exact ⟨hprotocol.trans hadvance.protocol_eq.1, hprompt.trans hadvance.protocol_eq.2⟩

/-- Under another prompt the answers are the same ones, with that prompt in its place. -/
theorem answers_withPrompt (hinv : Inv session) (other : String)
    (inputs : List (Json × ObservationKind)) :
    (session.withPrompt other).answers inputs = (session.answers inputs).map fun answer =>
      answer.map (List.map (setPrompt session.protocol other)) := by
  induction inputs generalizing session with
  | nil => rfl
  | cons input rest ih =>
    have hadvance := receive_advance hinv input.1 input.2
    have htwin := receive_twin session other input.1 input.2
    rw [answers, answers, map_cons, htwin.answer, htwin.session, ih (hinv.advance hadvance),
      hadvance.protocol_eq.1]

theorem after_append (session : ProtocolSession) (first second : List (Json × ObservationKind)) :
    session.after (first ++ second) = (session.after first).after second := by
  induction first generalizing session with
  | nil => rfl
  | cons input rest ih => exact ih _

/-- The prompts a session may still write. -/
def unsent (session : ProtocolSession) : Nat :=
  if session.probe then 0
  else
    match session.phase with
    | .initializing | .session => 1
    | .prompt | .finished => 0

/-- A record writes the prompt only from what is left. -/
theorem Advance.prompts_le (hinv : Inv session) (h : Advance session value kind outcome) :
    promptsIn session.protocol session.prompt outcome.1 + outcome.2.unsent ≤ session.unsent := by
  cases h with
  | quiet result turn hprompts =>
    rw [hprompts, Nat.zero_add]
    exact le_refl _
  | probed _ _ hprobe _ hprompts => simp [hprompts, unsent, hprobe]
  | opened _ hphase hprobe _ hprompts => simp [hprompts, unsent, hprobe, hphase]
  | prompted _ _ hphase hprompts =>
    have hprobe : session.probe = false := by
      by_contra h
      rcases hinv.probe (by simpa using h) with h | h <;> rw [hphase] at h <;> cases h
    simp [hprompts, unsent, hprobe, hphase]
  | promptedAtOnce _ hphase hprobe _ hprompts =>
    simp [hprompts, unsent, hprobe, hphase]
  | ended _ _ hphase _ _ =>
    simp [promptsIn, unsent, hphase]

theorem prompts_answers_le (hinv : Inv session) (inputs : List (Json × ObservationKind)) :
    ((session.answers inputs).map (promptsIn session.protocol session.prompt)).sum ≤ session.unsent := by
  induction inputs generalizing session with
  | nil => exact Nat.zero_le _
  | cons input rest ih =>
    have hadvance := receive_advance hinv input.1 input.2
    have hrest := ih (hinv.advance hadvance)
    have hfirst := hadvance.prompts_le hinv
    rw [hadvance.protocol_eq.1, hadvance.protocol_eq.2] at hrest
    rw [answers, map_cons, sum_cons]
    omega

/-- A session leaves the phase of the handshake by a successful answer to it. -/
theorem initialized_of_left (hinv : Inv session) (hstart : session.phase = .initializing)
    (inputs : List (Json × ObservationKind))
    (hleft : (session.after inputs).phase ≠ .initializing) :
    ∃ input ∈ inputs, answersInitialize session.protocol input.1 := by
  induction inputs generalizing session with
  | nil => exact absurd hstart hleft
  | cons input rest ih =>
    have hadvance := receive_advance hinv input.1 input.2
    have hnext := hinv.advance hadvance
    by_cases hphase : (session.receive input.1 input.2).2.phase = .initializing
    · obtain ⟨later, hmem, hanswer⟩ := ih hnext hphase hleft
      rw [hadvance.protocol_eq.1] at hanswer
      exact ⟨later, mem_cons_of_mem _ hmem, hanswer⟩
    · refine ⟨input, mem_cons_self, ?_⟩
      generalize hout : session.receive input.1 input.2 = outcome at hadvance hphase
      cases hadvance with
      | quiet => exact absurd hstart hphase
      | probed _ _ _ hanswer _ => exact hanswer
      | opened _ _ _ hanswer _ => exact hanswer
      | promptedAtOnce _ _ _ hanswer _ => exact hanswer
      | prompted _ _ h _ =>
        rw [hstart] at h
        cases h
      | ended _ _ h _ _ =>
        rw [hstart] at h
        cases h

/-- A record that writes the prompt. -/
theorem Advance.prompt_written (h : Advance session value kind outcome)
    (hwritten : promptsIn session.protocol session.prompt outcome.1 ≠ 0) :
    session.phase = .session ∨ answersInitialize session.protocol value := by
  cases h with
  | quiet _ _ hprompts => exact absurd hprompts hwritten
  | probed _ _ _ hanswer _ => exact .inr hanswer
  | opened _ _ _ hanswer _ => exact .inr hanswer
  | prompted _ _ hphase _ => exact .inl hphase
  | promptedAtOnce _ _ _ hanswer _ => exact .inr hanswer
  | ended => exact absurd rfl hwritten

/-- One record does not replace a terminal. -/
theorem Advance.terminal_kept (hinv : Inv session) (h : Advance session value kind outcome)
    (hset : session.terminal = some terminal) :
    outcome.2.terminal = some terminal := by
  have hfinished : session.phase = .finished := hinv.finished.2 (by simp [hset])
  cases h with
  | quiet => exact hset
  | probed _ hphase => rw [hfinished] at hphase; cases hphase
  | opened _ hphase => rw [hfinished] at hphase; cases hphase
  | prompted _ _ hphase => rw [hfinished] at hphase; cases hphase
  | promptedAtOnce _ hphase => rw [hfinished] at hphase; cases hphase
  | ended _ _ hphase => rw [hfinished] at hphase; cases hphase

/-- No later record replaces a terminal. -/
theorem terminal_kept (hinv : Inv session) (hset : session.terminal = some terminal)
    (inputs : List (Json × ObservationKind)) :
    (session.after inputs).terminal = some terminal := by
  induction inputs generalizing session with
  | nil => exact hset
  | cons input rest ih =>
    have hadvance := receive_advance hinv input.1 input.2
    exact ih (hinv.advance hadvance) (hadvance.terminal_kept hinv hset)

/-- A turn completes by a record of the session's own. -/
theorem Advance.completed (h : Advance session value kind outcome)
    (hbefore : session.terminal ≠ some .completed) (hafter : outcome.2.terminal = some .completed) :
    kind.terminal = some .completed ∧ Correlated session outcome.2.turnId value := by
  cases h with
  | quiet => exact absurd hafter hbefore
  | probed => cases hafter
  | opened => exact absurd hafter hbefore
  | prompted => exact absurd hafter hbefore
  | promptedAtOnce => exact absurd hafter hbefore
  | ended _ _ _ hterminal hcorrelated => exact ⟨hterminal.trans hafter, hcorrelated⟩

theorem refuses_declineServerRequest (hprotocol : session.protocol ≠ .claudeStreamJson)
    (method : String) (id : Json) :
    refuses session.protocol id (session.declineServerRequest method id) := by
  rcases session with ⟨harness, protocol⟩
  cases protocol with
  | claudeStreamJson => exact absurd rfl hprotocol
  | acp =>
    simp only [declineServerRequest, refuses]
    split <;> simp
  | codexAppServer =>
    simp only [declineServerRequest, refuses]
    split <;> simp
  | codexExec => simp [declineServerRequest, refuses]
  | dshSdkJsonRpc => simp [declineServerRequest, refuses]

/-- A server's request is refused in every phase and leaves the session as it is. -/
theorem receive_serverRequest {id : Json} (hrequest : serverRequestId session.protocol value = some id)
    (hid : isRpcId id = true) (kind : ObservationKind) :
    ∃ reply, session.receive value kind = (.ok [reply], session) ∧
      refuses session.protocol id reply := by
  have hvalid : validateRpcId id = .ok () := by simp [validateRpcId, ensure, hid]
  cases hprotocol : session.protocol with
  | codexExec => simp [serverRequestId, hprotocol] at hrequest
  | claudeStreamJson =>
    simp only [serverRequestId, hprotocol, ite_none_right_eq_some] at hrequest
    obtain ⟨htype, hid⟩ := hrequest
    refine ⟨.obj [("type", .str "control_response"), ("response", .obj [("subtype", .str "error"),
      ("request_id", id), ("error", .str refusalText)])], ?_, ?_⟩
    · simp [receive, hprotocol, receiveClaude, htype, hid, require, andThen, hvalid]
    · simp [refuses, getStr, pointer, pointerStr, asStr]
  | codexAppServer =>
    simp only [serverRequestId, hprotocol, ite_none_right_eq_some,
      isSome_iff_exists] at hrequest
    obtain ⟨⟨method, hmethod⟩, hid⟩ := hrequest
    refine ⟨session.declineServerRequest method id, ?_, ?_⟩
    · simp [receive, hprotocol, receiveJsonRpc, hmethod, hid, andThen, ensure, hvalid]
    · exact hprotocol ▸ refuses_declineServerRequest (by simp [hprotocol]) method id
  | acp =>
    simp only [serverRequestId, hprotocol, ite_none_right_eq_some,
      isSome_iff_exists] at hrequest
    obtain ⟨⟨hversion, method, hmethod⟩, hid⟩ := hrequest
    refine ⟨session.declineServerRequest method id, ?_, ?_⟩
    · simp [receive, hprotocol, receiveJsonRpc, hversion, hmethod, hid, andThen, ensure, hvalid]
    · exact hprotocol ▸ refuses_declineServerRequest (by simp [hprotocol]) method id
  | dshSdkJsonRpc =>
    simp only [serverRequestId, hprotocol, ite_none_right_eq_some,
      isSome_iff_exists] at hrequest
    obtain ⟨⟨hversion, method, hmethod⟩, hid⟩ := hrequest
    simp [receive, hprotocol, receiveDsh, hversion, hmethod, hid, andThen, ensure, hvalid, refuses]

/-! ## Sessions as they are opened -/

/-- The sessions that the two constructors make. -/
def Opened (digest : SessionDigest) (session : ProtocolSession) : Prop :=
  (∃ route workingDirectory, openProbe digest route workingDirectory = .ok session) ∨
    ∃ route prompt workingDirectory maxPromptBytes,
      openExecution digest route prompt workingDirectory maxPromptBytes = .ok session

section

variable (hopen : Opened digest session)
include hopen

theorem Inv.opened : Inv session := by
  rcases hopen with ⟨route, _, hopen⟩ | ⟨route, _, _, _, hopen⟩
  · simp only [openProbe, new, eq_ok] at hopen
    obtain ⟨hprobe, haccepts, hdirectory, rfl⟩ := hopen
    have hexec : route.protocol ≠ .codexExec := by
      rintro h
      rw [h] at hprobe
      cases hprobe
    constructor <;> simp [hexec]
  · simp only [openExecution, new, eq_ok] at hopen
    obtain ⟨hprompt, haccepts, hdirectory, rfl⟩ := hopen
    constructor <;> by_cases h : route.protocol = .codexExec <;> simp [h]

/-- A session starts in the handshake, or with the prompt as its only input. -/
theorem Opened.phase_eq :
    session.phase = if session.protocol = .codexExec then .prompt else .initializing := by
  rcases hopen with ⟨_, _, hopen⟩ | ⟨_, _, _, _, hopen⟩
  · simp only [openProbe, new, eq_ok] at hopen
    obtain ⟨-, -, -, rfl⟩ := hopen
    rfl
  · simp only [openExecution, new, eq_ok] at hopen
    obtain ⟨-, -, -, rfl⟩ := hopen
    rfl

theorem Opened.terminal_eq : session.terminal = none := by
  have hphase := hopen.phase_eq
  by_contra hset
  rw [(Inv.opened hopen).finished.2 (isSome_iff_ne_none.2 hset)] at hphase
  split_ifs at hphase

end

theorem promptsInInitial_initialInput (session : ProtocolSession) :
    promptsInInitial session.protocol session.prompt session.initialInput =
      if session.protocol = .codexExec then 1 else 0 := by
  cases hprotocol : session.protocol <;>
    simp [initialInput, hprotocol, promptsInInitial, carriesPrompt, startsTurn, getStr, asStr]

/-- What an opened session may write: the prompt once in an execution, and never in a probe. -/
theorem Opened.prompts_le (hopen : Opened digest session) :
    promptsInInitial session.protocol session.prompt session.initialInput + session.unsent ≤
      if session.probe then 0 else 1 := by
  rw [promptsInInitial_initialInput, unsent, hopen.phase_eq]
  by_cases hexec : session.protocol = .codexExec
  · simp [hexec, ((Inv.opened hopen).exec hexec).1]
  · simp only [hexec, if_false, Nat.zero_add, le_refl]

end ProtocolSession

open ProtocolSession in
/-- Safety of a native session, for every protocol, mode and sequence of classified records. The prompt
is written at most once, never by a probe, and only after a successful handshake where the protocol has
one; with another prompt the session writes the same messages, but for the text at the place where the
one that starts the turn has the prompt. The terminal is set once and is what being finished means. A
turn of the Codex app server, of ACP or of DSH completes by a correlated record only. Every server
request is refused. -/
theorem protocolSession_safety (digest : SessionDigest) {session : ProtocolSession}
    (hopen : Opened digest session) :
    (∀ inputs, promptsInInitial session.protocol session.prompt session.initialInput +
        ((session.answers inputs).map (promptsIn session.protocol session.prompt)).sum ≤
          if session.probe then 0 else 1) ∧
    (∀ other, (session.withPrompt other).initialInput =
        session.initialInput.setPrompt session.protocol other ∧
      ∀ inputs, (session.withPrompt other).answers inputs = (session.answers inputs).map fun answer =>
        answer.map (List.map (setPrompt session.protocol other))) ∧
    (session.protocol ≠ .codexExec →
      promptsInInitial session.protocol session.prompt session.initialInput = 0 ∧
        ∀ before value kind,
          promptsIn session.protocol session.prompt ((session.after before).receive value kind).1 ≠ 0 →
          ∃ answer ∈ before ++ [(value, kind)], answersInitialize session.protocol answer.1) ∧
    (session.terminal = none ∧
      ∀ before, (session.after before).isFinished = (session.after before).terminal.isSome ∧
        ∀ terminal later, (session.after before).terminal = some terminal →
          (session.after (before ++ later)).terminal = some terminal) ∧
    (∀ before value kind,
      session.protocol ∈ [.codexAppServer, .acp, .dshSdkJsonRpc] →
      (session.after before).terminal ≠ some .completed →
      ((session.after before).receive value kind).2.terminal = some .completed →
      Correlated (session.after before) ((session.after before).receive value kind).2.turnId value) ∧
    ∀ before value kind id, serverRequestId session.protocol value = some id → isRpcId id = true →
      ∃ reply, (session.after before).receive value kind = (.ok [reply], session.after before) ∧
        refuses session.protocol id reply := by
  have hinv := Inv.opened hopen
  have hafter : ∀ before, Inv (session.after before) ∧
      (session.after before).protocol = session.protocol ∧
      (session.after before).prompt = session.prompt := fun before =>
    ⟨hinv.after before, protocol_after hinv before⟩
  refine ⟨fun inputs => ?_, fun other => ⟨?_, ?_⟩, fun hexec => ⟨?_, fun before value kind hwritten => ?_⟩,
    ⟨?_, ?_⟩, ?_, ?_⟩
  · have hlater := prompts_answers_le hinv inputs
    exact (Nat.add_le_add_left hlater _).trans hopen.prompts_le
  · exact initialInput_withPrompt session other
  · exact answers_withPrompt hinv other
  · rw [promptsInInitial_initialInput, if_neg hexec]
  · rw [← (hafter before).2.1, ← (hafter before).2.2] at hwritten
    rcases (receive_advance (hafter before).1 value kind).prompt_written hwritten with hphase | hanswer
    · have hstart : session.phase = .initializing := by rw [hopen.phase_eq, if_neg hexec]
      obtain ⟨answer, hmem, hanswer⟩ :=
        initialized_of_left hinv hstart before (by rw [hphase]; simp)
      exact ⟨answer, List.mem_append_left _ hmem, hanswer⟩
    · rw [(hafter before).2.1] at hanswer
      exact ⟨(value, kind), by simp, hanswer⟩
  · exact hopen.terminal_eq
  · intro before
    refine ⟨?_, fun terminal later hset => ?_⟩
    · rw [isFinished, Bool.eq_iff_iff, beq_iff_eq]
      exact (hafter before).1.finished
    · rw [after_append]
      exact terminal_kept (hafter before).1 hset later
  · intro before value kind _ hbefore hcompleted
    exact ((receive_advance (hafter before).1 value kind).completed hbefore hcompleted).2
  · intro before value kind id hrequest hid
    rw [← (hafter before).2.1] at hrequest ⊢
    exact receive_serverRequest hrequest hid kind

/-- A session of Claude with the prompt `hi`. -/
def sampleSession : ProtocolSession :=
  ⟨.claude, .claudeStreamJson, false, none, none, "hi", "/work", none, .initializing, none, none, none⟩

open ProtocolSession in
theorem opened_sampleSession :
    openExecution (fun _ _ => ⟨0⟩) ⟨.claude, .claudeStreamJson, none, none⟩ "hi" "/work" 8
      = .ok sampleSession := by decide

/-- A session of the Codex app server with the prompt `hi`. -/
def codexSession : ProtocolSession :=
  ⟨.codex, .codexAppServer, false, none, none, "hi", "/work", none, .initializing, none, none, none⟩

/-- A request of the server for an approval. -/
def approvalRequest : Json :=
  .obj [("id", .int 7), ("method", .str "item/fileChange/requestApproval")]

/-- The end of the turn `t` of the thread `c`. -/
def turnCompleted : Json :=
  .obj [("method", .str "turn/completed"),
    ("params", .obj [("threadId", .str "c"), ("turn", .obj [("id", .str "t")])])]

/-- The handshake, the thread, the turn and a request, up to the end of the turn. -/
def codexRecords : List (Json × ObservationKind) :=
  [(.obj [("id", .int 1), ("result", .obj [("userAgent", .str "codex")])], .opaqueRecord),
    (.obj [("id", .int 2), ("result", .obj [("thread", .obj [("id", .str "c")])])], .opaqueRecord),
    (.obj [("id", .int 3), ("result", .obj [("turn", .obj [("id", .str "t")])])], .opaqueRecord),
    (approvalRequest, .approval)]

open ProtocolSession in
theorem opened_codexSession :
    openExecution (fun _ _ => ⟨0⟩) ⟨.codex, .codexAppServer, none, none⟩ "hi" "/work" 8
      = .ok codexSession := by decide

open ProtocolSession in
/-- The run writes the prompt once, another prompt in its place, ends by its own turn, stays ended and
refuses the request. -/
theorem protocolSession_safety_codex :
    ((codexSession.answers codexRecords).map (promptsIn .codexAppServer "hi")).sum = 1 ∧
    (((codexSession.withPrompt "other").answers codexRecords).map
      (promptsIn .codexAppServer "hi")).sum = 0 ∧
    (∀ later, (codexSession.after (codexRecords ++ [(turnCompleted, .completed)] ++ later)).terminal =
      some .completed) ∧
    Correlated (codexSession.after codexRecords) (some "t") turnCompleted ∧
    ∀ before, ∃ reply, (codexSession.after before).receive approvalRequest .approval =
        (.ok [reply], codexSession.after before) ∧ refuses .codexAppServer (.int 7) reply := by
  obtain ⟨-, hother, -, hterminal, hcorrelated, hrefused⟩ := protocolSession_safety (fun _ _ => ⟨0⟩)
    (.inr ⟨_, _, _, _, opened_codexSession⟩)
  refine ⟨by decide, ?_, fun later => ?_, ?_, fun before => ?_⟩
  · rw [(hother "other").2]
    decide
  · exact (hterminal.2 _).2 _ later (by decide)
  · exact hcorrelated codexRecords turnCompleted .completed (by decide) (by decide) (by decide)
  · exact hrefused before approvalRequest .approval (.int 7) (by decide) (by decide)

end Vibemux
