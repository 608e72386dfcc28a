import Vibemux.Harness.FinalText
import Vibemux.Harness.Proofs.ProtocolSessionProofs

/-!
# Which record the final text comes from

The classifier and the scan for the final text have conditions of their own. The scan also sees nested
results, which do not end the turn.
-/

namespace Vibemux

open Json List ProtocolSession

variable {session : ProtocolSession} {value : Json} {records : List Json}

/-- The records of a stream with what the classifier says of each. -/
def claudeInputs (records : List Json) : List (Json × ObservationKind) :=
  records.map fun value => (value, classifyClaude value)

/-- The text by which a record can become the final text. -/
def resultText (value : Json) : Option String :=
  if value.getStr "type" = some "result" ∧ value.getStr "subtype" = some "success" then
    value.getStr "result"
  else none

/-- The final text is the last text that a result has. -/
theorem finalAssistantText_claude (records : List Json) :
    finalAssistantText .claudeStreamJson records = (records.filterMap resultText).getLast? := by
  have hscan : ∀ values : List Json, (values.filter fun value => value.getStr "type" = some "result" ∧
      value.getStr "subtype" = some "success").findSome? (fun value => value.getStr "result") =
        (values.filterMap resultText).head? := by
    intro values
    rw [← head?_filterMap, filterMap_filter]
    simp only [decide_eq_true_eq]
    rfl
  rw [finalAssistantText, hscan, filterMap_reverse, head?_reverse]

/-- A record that completes the turn is a successful result, so its text is one the scan looks for. -/
theorem resultText_of_completed (h : classifyClaude value = .completed) :
    resultText value = value.getStr "result" := by
  have hresult : value.getStr "type" = some "result" ∧ classifyClaudeResult value = .completed := by
    unfold classifyClaude classifyClaudeStream at h
    split at h <;> grind
  have hsubtype : value.getStr "subtype" = some "success" := by
    have := hresult.2
    unfold classifyClaudeResult at this
    grind
  exact if_pos ⟨hresult.1, hsubtype⟩

/-- After the records `before` the turn is open, and `value` completes it. -/
def Completes (session : ProtocolSession) (before : List Json) (value : Json) : Prop :=
  (session.after (claudeInputs before)).terminal = none ∧
    ((session.after (claudeInputs before)).receive value (classifyClaude value)).2.terminal =
      some .completed

/-- A completed stream has a record that completes it. -/
theorem exists_completes (hinv : Inv session) (hopen : session.terminal = none)
    (h : (session.after (claudeInputs records)).terminal = some .completed) :
    ∃ before value later, records = before ++ value :: later ∧ Completes session before value := by
  induction records generalizing session with
  | nil =>
    rw [show session.after (claudeInputs []) = session from rfl, hopen] at h
    cases h
  | cons value rest ih =>
    have hnext := hinv.advance (receive_advance hinv value (classifyClaude value))
    cases hterminal : (session.receive value (classifyClaude value)).2.terminal with
    | none =>
      obtain ⟨before, last, later, rfl, hlast⟩ := ih hnext hterminal h
      exact ⟨value :: before, last, later, rfl, hlast⟩
    | some terminal =>
      have hkept := terminal_kept hnext hterminal (claudeInputs rest)
      exact ⟨[], value, rest, rfl, hopen, hterminal.trans (hkept.symm.trans h)⟩

theorem Completes.classified {before : List Json} (hinv : Inv session)
    (h : Completes session before value) : classifyClaude value = .completed := by
  have hcompleted := ((receive_advance (hinv.after _) value _).completed (by simp [h.1]) h.2).1
  cases hkind : classifyClaude value <;> rw [hkind] at hcompleted <;> simp_all [ObservationKind.terminal]

/-- Of every completed stream of Claude, the final text is that of the record that completed the turn
exactly when two things hold. The last successful result with a text after that record, if there is one,
has the same text; and where the record has no text itself, no successful result before it has one. -/
theorem finalText_of_completed {digest : SessionDigest} (hopen : Opened digest session)
    (hprotocol : session.protocol = .claudeStreamJson)
    (h : (session.after (claudeInputs records)).terminal = some .completed) :
    (∃ before value later, records = before ++ value :: later ∧ Completes session before value) ∧
    ∀ before value later, records = before ++ value :: later → Completes session before value →
      classifyClaude value = .completed ∧
      (finalAssistantText session.protocol records = value.getStr "result" ↔
        (later.filterMap resultText).getLast? ∈ [none, value.getStr "result"] ∧
          (value.getStr "result" = none → before.filterMap resultText = [])) := by
  have hinv := Inv.opened hopen
  refine ⟨exists_completes hinv hopen.terminal_eq h, ?_⟩
  rintro before value later rfl hcompletes
  have hkind := hcompletes.classified hinv
  refine ⟨hkind, ?_⟩
  rw [hprotocol, finalAssistantText_claude, filterMap_append, filterMap_cons,
    resultText_of_completed hkind]
  cases htext : value.getStr "result" with
  | none => simp [and_comm]
  | some text =>
    rw [getLast?_append, getLast?_cons]
    cases (later.filterMap resultText).getLast? <;> simp

/-- The stream of a turn with the given results after the handshake. -/
def sampleStream (results : List (String × Json)) : List Json :=
  .obj [("type", .str "control_response"), ("response", .obj [("subtype", .str "success"),
    ("request_id", .str claudeInitializeId)])] :: results.map fun (text, parent) =>
      .obj [("type", .str "result"), ("subtype", .str "success"), ("result", .str text),
        ("parent_tool_use_id", parent)]

/-- A nested result comes before the one that completes the turn. -/
theorem finalText_of_completed_nested :
    (sampleSession.after (claudeInputs (sampleStream [("draft", .str "toolu_1"), ("done", .null)]))).terminal
      = some .completed ∧
    ∃ before value later, sampleStream [("draft", .str "toolu_1"), ("done", .null)] =
      before ++ value :: later ∧ Completes sampleSession before value :=
  have h : _ = some SessionTerminal.completed := by decide
  ⟨h, (finalText_of_completed (.inr ⟨_, _, _, _, opened_sampleSession⟩) rfl h).1⟩

/-- A nested result comes after it: every record is accepted and the turn completes with `done`, but the
final text is that of the nested result. -/
theorem finalText_nested_later :
    let records := sampleStream [("done", .null), ("aside", .str "toolu_1")]
    Opened (fun _ _ => ⟨0⟩) sampleSession ∧
    (∀ answer ∈ sampleSession.answers (claudeInputs records), answer.isOk) ∧
    (sampleSession.after (claudeInputs records)).terminal = some .completed ∧
    (∃ before value later, records = before ++ value :: later ∧
      Completes sampleSession before value ∧ value.getStr "result" = some "done") ∧
    finalAssistantText sampleSession.protocol records = some "aside" :=
  ⟨.inr ⟨_, _, _, _, opened_sampleSession⟩, by decide, by decide,
    ⟨sampleStream [], _, _, rfl, ⟨by decide, by decide⟩, by decide⟩, by decide⟩

end Vibemux
