import Vibemux.Store.Decisions
import Vibemux.Store.Proofs.DispatchLifecycleProofs

/-!
# A decision authorizes at most one dispatch

`Change` says what an accepted operation can do to the decisions: leave them, record a new one, or
consume one together with the admission of its dispatch. The run lemmas follow from it.
-/

namespace Vibemux.DecisionStore

open Bool Checked DecisionRow HarnessStore List Machine Option Prod Table

variable {fingerprint : DispatchFingerprint} {s s' : DecisionStore} {decisionId : Uuid}
  {row : DecisionRow} {admission : HarnessDispatchAdmission} {taskId runId : Uuid}
  {record : Decision.DecisionRecord} {op : DecisionOp} {response : DecisionResponse}
  {stored : DecisionRow} {id : Uuid} {t : Transition DecisionStore DecisionOp DecisionResponse}
  {commit : DecisionCommit} {s₀ : DecisionStore}

theorem loadDecision_eq_some : s.loadDecision decisionId = .ok (some row) ↔
    Table.lookup DecisionRow.decisionId s.decisions decisionId = some row ∧
      row.record.isConsistent = true ∧ row.createdSequence ≤ row.updatedSequence := by
  unfold loadDecision
  split
  · next heq => simp [heq]
  · next found heq =>
    simp only [eq_ok, some.injEq, heq]
    constructor
    · rintro ⟨hchecked, rfl⟩
      exact ⟨rfl, hchecked⟩
    · rintro ⟨rfl, hchecked⟩
      exact ⟨hchecked, rfl⟩

theorem loadDecision_eq_none (h : s.loadDecision decisionId = .ok none) :
    Table.lookup DecisionRow.decisionId s.decisions decisionId = none := by
  unfold loadDecision at h
  split at h
  · assumption
  · simp at h

/-- What a decision says of the request that may use it. -/
structure Binds (record : Decision.DecisionRecord) (admission : HarnessDispatchAdmission) : Prop where
  resolved : record.status = .resolved
  harness : record.chosenHarness = some admission.harness
  promptSha256 : record.promptSha256 = admission.prompt.sha256
  promptBytes : record.promptBytes = admission.prompt.byteCount

/-- A decision that may still be used, at the time and with the configuration of the request. -/
structure Authorizes (record : Decision.DecisionRecord) (admission : HarnessDispatchAdmission) : Prop
    extends Binds record admission where
  unconsumed : record.consumption = none
  created : record.createdAt ≤ admission.timestamp
  unexpired : admission.timestamp < record.expiresAt
  config : record.dispatchConfigSha256 = admission.configSha256

theorem decidedHarness_eq_ok {harness : AgentKind} (h : record.decidedHarness = .ok harness) :
    record.status = .resolved ∧ record.chosenHarness = some harness := by
  unfold Decision.DecisionRecord.decidedHarness at h
  split at h
  · cases h
  · next heq => exact ⟨heq, require_eq_ok.1 h⟩

/-- The first use and the repeat, with what was checked for each. -/
theorem checkDispatchable_eq_ok {binding : Decision.DispatchBinding}
    (h : record.checkDispatchable admission.requestId admission.prompt admission.configSha256
      admission.timestamp = .ok binding) (hharness : binding.harness = admission.harness) :
    (binding = .fresh admission.harness ∧ Authorizes record admission) ∨
      (binding = .replay admission.harness ∧ Binds record admission ∧
        ∃ consumption, record.consumption = some consumption ∧
          consumption.requestId = admission.requestId) := by
  simp only [Decision.DecisionRecord.checkDispatchable, eq_ok] at h
  obtain ⟨-, hunused, harness, hchosen, ⟨hsha, hbytes⟩, h⟩ := h
  have hbinds := decidedHarness_eq_ok hchosen
  cases hconsumption : record.consumption with
  | none =>
    simp only [hconsumption, isSome_none, false_eq_true, if_false, eq_ok] at h
    obtain ⟨hexpired, hconfig, rfl⟩ := h
    obtain rfl : harness = admission.harness := hharness
    simp only [Decision.DecisionRecord.isExpired, or_eq_false_iff, decide_eq_false_iff_not,
      not_lt, not_le] at hexpired
    exact .inl ⟨rfl, ⟨hbinds.1, hbinds.2, hsha, hbytes⟩, hconsumption, hexpired.1, hexpired.2, hconfig⟩
  | some consumption =>
    simp only [hconsumption, isSome_some, if_true, return_eq_ok] at h
    subst h
    obtain rfl : harness = admission.harness := hharness
    rw [hconsumption] at hunused
    exact .inr ⟨rfl, ⟨hbinds.1, hbinds.2, hsha, hbytes⟩, consumption, rfl, by simpa using hunused⟩

/-- The row of a decision once a request consumed it. -/
def consumedRow (stored : DecisionRow) (admission : HarnessDispatchAdmission) (sequence : Nat) :
    DecisionRow :=
  { stored with
    record := { stored.record with
      consumption := some ⟨admission.requestId, admission.timestamp⟩ }
    updatedSequence := sequence }

/-- A decision is consumed and its dispatch admitted. -/
structure Consume (fingerprint : Uuid → Uuid → AgentKind → NativeProtocol → Sha256Digest →
    Sha256Digest → Sha256Digest) (s s' : DecisionStore) (decisionId : Uuid)
    (admission : HarnessDispatchAdmission) (taskId runId : Uuid) (stored : DecisionRow) : Prop where
  found : Table.lookup DecisionRow.decisionId s.decisions decisionId = some stored
  authorizes : Authorizes stored.record admission
  new : Table.lookup DispatchRow.requestId s.dispatches admission.requestId = none
  dispatches : ∃ row, row.record = admittedRecord fingerprint s.projectId taskId runId admission ∧
    s'.dispatches = s.dispatches ++ [row]
  unused : ∀ other ∈ s.decisions, other.decisionId ≠ decisionId →
    other.consumedRequestId ≠ some admission.requestId
  decisions : ∃ sequence, s'.decisions =
    Table.put DecisionRow.decisionId s.decisions (consumedRow stored admission sequence)

theorem admitDecidedDispatch_eq_ok {commit : DecidedDispatchCommit}
    (h : s.admitDecidedDispatch fingerprint decisionId admission taskId runId = .ok (commit, s')) :
    (∃ stored consumption, Table.lookup DecisionRow.decisionId s.decisions decisionId = some stored ∧
      Binds stored.record admission ∧ stored.record.consumption = some consumption ∧
      consumption.requestId = admission.requestId ∧ commit.dispatch.event = none ∧
      commit.consumedEvent = none ∧ s' = s) ∨
    (∃ stored, Consume fingerprint s s' decisionId admission taskId runId stored ∧
      commit.dispatch.event.isSome = true ∧ commit.consumedEvent.isSome = true) := by
  simp only [admitDecidedDispatch, eq_ok] at h
  obtain ⟨_, hload, stored, rfl, _, hcheck, hharness, _, _, hadmit, h⟩ := h
  have hfound := (loadDecision_eq_some.1 hload).1
  rcases checkDispatchable_eq_ok hcheck hharness with
    ⟨rfl, hauthorizes⟩ | ⟨rfl, hbinds, consumption, hconsumption, hrequest⟩
  · simp only [consumeDecision, Decision.DecisionRecord.markConsumed, eq_ok] at h
    obtain ⟨hevent, _, _, _, ⟨_, ⟨-, -, rfl⟩, sequence, events, -, -, hunique, ⟨rfl, rfl⟩, rfl⟩, rfl, rfl⟩
      := h
    rcases admitDispatchIn_eq_ok hadmit with ⟨row, task, run, -, -, rfl, -⟩ | ⟨row, hadmitted, -, -⟩
    · cases hevent
    · refine .inr ⟨stored, ⟨hfound, hauthorizes, hadmitted.new, ⟨row, hadmitted.record,
        hadmitted.dispatches⟩, fun other hother hne hused => ?_, sequence, rfl⟩, hevent, rfl⟩
      have hfree := all_eq_true.1 hunique other hother
      simp only [or_eq_true, decide_eq_true_eq] at hfree
      rcases hfree with hsame | hfree
      · have hkey : stored.decisionId = decisionId := key_of_lookup hfound
        exact hne (hsame.trans hkey)
      · exact hfree hused
  · simp only [eq_ok] at h
    obtain ⟨hevent, rfl, rfl⟩ := h
    rcases admitDispatchIn_eq_ok hadmit with ⟨_, _, _, -, -, rfl, rfl⟩ | ⟨_, -, -, hsome⟩
    · exact .inl ⟨stored, consumption, hfound, hbinds, hconsumption, hrequest, hevent, rfl, rfl⟩
    · rw [hevent] at hsome
      cases hsome

/-- The record is accepted again, nothing is written and the stored decision is returned. -/
def Repeats (s : DecisionStore) (record : Decision.DecisionRecord) (row : DecisionRow) : Prop :=
  s.recordDecision record = .ok (⟨row, none⟩, s)

theorem repeats_iff : s.Repeats record row ↔ record.consumption = none ∧
    s.loadDecision record.decisionId = .ok (some row) ∧ row.record = record := by
  simp only [Repeats, recordDecision, Decision.DecisionRecord.validate, eq_ok]
  constructor
  · rintro ⟨-, hnone, loaded, hload, h⟩
    cases loaded with
    | none => simp at h
    | some stored =>
      simp only [eq_ok, DecisionCommit.mk.injEq] at h
      obtain ⟨hsame, ⟨rfl, -⟩, -⟩ := h
      exact ⟨hnone, hload, hsame⟩
  · rintro ⟨hnone, hload, rfl⟩
    exact ⟨(loadDecision_eq_some.1 hload).2.1, hnone, _, hload, by simp⟩

theorem recordDecision_eq_ok (h : s.recordDecision record = .ok (commit, s')) :
    (s' = s ∧ ∃ row, s.Repeats record row) ∨
    (Table.lookup DecisionRow.decisionId s.decisions record.decisionId = none ∧
      record.isConsistent = true ∧ record.consumption = none ∧
      ∃ sequence, s'.decisions = s.decisions ++ [⟨record, sequence, sequence⟩]) := by
  simp only [recordDecision, Decision.DecisionRecord.validate, eq_ok] at h
  obtain ⟨hconsistent, hnone, loaded, hload, h⟩ := h
  cases loaded with
  | some stored =>
    simp only [eq_ok] at h
    obtain ⟨hsame, -, rfl⟩ := h
    exact .inl ⟨rfl, stored, repeats_iff.2 ⟨hnone, hload, hsame⟩⟩
  | none =>
    simp only [eq_ok] at h
    obtain ⟨sequence, events, -, -, -, rfl⟩ := h
    exact .inr ⟨loadDecision_eq_none hload, hconsistent, hnone, sequence, rfl⟩

/-- Right after it was recorded, a decision can be recorded again. -/
theorem recordDecision_repeats (h : s.recordDecision record = .ok (commit, s')) :
    ∃ row, s'.Repeats record row := by
  rcases recordDecision_eq_ok h with ⟨rfl, hrepeats⟩ | ⟨hnew, hconsistent, hnone, sequence, hdecisions⟩
  · exact hrepeats
  · refine ⟨⟨record, sequence, sequence⟩,
      repeats_iff.2 ⟨hnone, loadDecision_eq_some.2 ⟨?_, hconsistent, le_rfl⟩, rfl⟩⟩
    rw [hdecisions]
    exact lookup_append_self hnew

/-! ## Runs -/

/-- The decision and the request of an operation that consumed one. -/
def consumptionOf : DecisionOp → DecisionResponse → Option (Uuid × Uuid)
  | .decided decisionId admission _ _, .decided commit =>
    if commit.consumedEvent.isSome then some (decisionId, admission.requestId) else none
  | _, _ => none

/-- The consumptions of a run, in order. -/
def consumptions (history : List (Transition DecisionStore DecisionOp DecisionResponse)) :
    List (Uuid × Uuid) :=
  history.filterMap fun t => consumptionOf t.input t.response

/-- What an accepted operation can do to the decisions. -/
inductive Change (fingerprint : Uuid → Uuid → AgentKind → NativeProtocol → Sha256Digest →
    Sha256Digest → Sha256Digest) (s s' : DecisionStore) : DecisionOp → DecisionResponse → Prop
  /-- A dispatch operation, or a decision that was recorded already. -/
  | kept (op : DecisionOp) (response : DecisionResponse) (hdecided : ∀ id a t r, op ≠ .decided id a t r)
      (hdecisions : s'.decisions = s.decisions) : Change fingerprint s s' op response
  | recorded (record : Decision.DecisionRecord) (response : DecisionResponse) (row : DecisionRow)
      (hnew : Table.lookup DecisionRow.decisionId s.decisions row.decisionId = none)
      (hunused : row.record.consumption = none) (hdecisions : s'.decisions = s.decisions ++ [row]) :
      Change fingerprint s s' (.record record) response
  /-- The request that consumed the decision is repeated. -/
  | repeated (decisionId : Uuid) (admission : HarnessDispatchAdmission) (taskId runId : Uuid)
      (commit : DecidedDispatchCommit) (stored : DecisionRow)
      (hfound : Table.lookup DecisionRow.decisionId s.decisions decisionId = some stored)
      (hbinds : Binds stored.record admission) (hevent : commit.dispatch.event = none)
      (hnone : commit.consumedEvent = none) (hsame : s' = s) :
      Change fingerprint s s' (.decided decisionId admission taskId runId) (.decided commit)
  | consumed (decisionId : Uuid) (admission : HarnessDispatchAdmission) (taskId runId : Uuid)
      (commit : DecidedDispatchCommit) (stored : DecisionRow)
      (hconsume : Consume fingerprint s s' decisionId admission taskId runId stored)
      (hsome : commit.consumedEvent.isSome = true) :
      Change fingerprint s s' (.decided decisionId admission taskId runId) (.decided commit)

/-- What a step does to the decisions. -/
theorem step_change (h : s.step fingerprint op = .ok (response, s')) :
    Change fingerprint s s' op response := by
  cases op
  all_goals simp only [step, eq_ok] at h
  case record record =>
    obtain ⟨commit, _, hrecord, rfl, rfl⟩ := h
    rcases recordDecision_eq_ok hrecord with ⟨rfl, -⟩ | ⟨hnew, -, hnone, sequence, hdecisions⟩
    · exact .kept _ _ (by simp) rfl
    · exact .recorded _ _ ⟨_, sequence, sequence⟩ hnew hnone hdecisions
  case decided decisionId admission taskId runId =>
    obtain ⟨_, _, hadmit, rfl, rfl⟩ := h
    rcases admitDecidedDispatch_eq_ok hadmit with
      ⟨stored, _, hfound, hbinds, -, -, hevent, hnone, hsame⟩ | ⟨stored, hconsume, -, hsome⟩
    · exact .repeated _ _ _ _ _ stored hfound hbinds hevent hnone hsame
    · exact .consumed _ _ _ _ _ stored hconsume hsome
  case dispatch op =>
    obtain ⟨_, _, -, rfl, rfl⟩ := h
    exact .kept _ _ (by simp) rfl

theorem Consume.lookup_self (h : Consume fingerprint s s' decisionId admission taskId runId stored) :
    ∃ sequence, Table.lookup DecisionRow.decisionId s'.decisions decisionId =
      some (consumedRow stored admission sequence) := by
  obtain ⟨sequence, hdecisions⟩ := h.decisions
  have hkey : stored.decisionId = decisionId := key_of_lookup h.found
  refine ⟨sequence, ?_⟩
  rw [hdecisions, ← hkey]
  exact lookup_put_self (hkey ▸ h.found)

theorem Consume.lookup_of_ne {decisionId other : Uuid}
    (h : Consume fingerprint s s' decisionId admission taskId runId stored)
    (hne : other ≠ decisionId) :
    Table.lookup DecisionRow.decisionId s'.decisions other =
      Table.lookup DecisionRow.decisionId s.decisions other := by
  obtain ⟨sequence, hdecisions⟩ := h.decisions
  have hkey : stored.decisionId = decisionId := key_of_lookup h.found
  rw [hdecisions]
  exact lookup_put_of_ne (hkey ▸ hne)

/-- No operation changes what a decision says, and none takes a consumption back. -/
theorem Change.lookup_kept (h : Change fingerprint s s' op response)
    (hrow : Table.lookup DecisionRow.decisionId s.decisions id = some row) :
    ∃ row', Table.lookup DecisionRow.decisionId s'.decisions id = some row' ∧
      row'.record.status = row.record.status ∧
      (row.record.consumption.isSome = true ∨ row'.record.consumption = none → row' = row) := by
  cases h with
  | kept _ _ _ hdecisions => exact ⟨row, by rw [hdecisions]; exact hrow, rfl, fun _ => rfl⟩
  | recorded _ _ _ _ _ hdecisions =>
    refine ⟨row, ?_, rfl, fun _ => rfl⟩
    rw [hdecisions]
    exact lookup_append_of_isSome hrow _
  | repeated _ _ _ _ _ _ _ _ _ _ hsame => exact ⟨row, by rw [hsame]; exact hrow, rfl, fun _ => rfl⟩
  | consumed decisionId _ _ _ _ stored hconsume _ =>
    by_cases hid : id = decisionId
    · subst hid
      obtain rfl : stored = row := some.inj (hconsume.found.symm.trans hrow)
      obtain ⟨sequence, hself⟩ := hconsume.lookup_self
      refine ⟨_, hself, rfl, ?_⟩
      rintro (hsome | hnone)
      · rw [hconsume.authorizes.unconsumed] at hsome
        cases hsome
      · cases hnone
    · exact ⟨row, (hconsume.lookup_of_ne hid).trans hrow, rfl, fun _ => rfl⟩

/-- What holds between the history of a run and the decisions it leaves. -/
structure RunInv (history : List (Transition DecisionStore DecisionOp DecisionResponse))
    (s : DecisionStore) : Prop where
  unique : Table.Unique DecisionRow.decisionId s.decisions
  stored : ∀ id request, (id, request) ∈ consumptions history ↔
    ∃ row, Table.lookup DecisionRow.decisionId s.decisions id = some row ∧
      row.consumedRequestId = some request
  decisionsOnce : ((consumptions history).map Prod.fst).Nodup
  requestsOnce : ((consumptions history).map Prod.snd).Nodup
  resolved : ∀ t ∈ history, ∀ id admission taskId runId, t.input = .decided id admission taskId runId →
    ∃ row, Table.lookup DecisionRow.decisionId s.decisions id = some row ∧
      row.record.status = .resolved

variable {history : List (Transition DecisionStore DecisionOp DecisionResponse)}

/-- A decision that may still be consumed was not consumed in the run. -/
theorem RunInv.not_mem_fst (hinv : RunInv history s)
    (hrow : Table.lookup DecisionRow.decisionId s.decisions id = some row)
    (hnone : row.record.consumption = none) : id ∉ (consumptions history).map fst := by
  intro hmem
  obtain ⟨⟨_, request⟩, hpair, rfl⟩ := mem_map.1 hmem
  obtain ⟨row', hrow', hused⟩ := (hinv.stored _ _).1 hpair
  obtain rfl : row = row' := some.inj (hrow.symm.trans hrow')
  rw [consumedRequestId, hnone] at hused
  cases hused

/-- The request of a new dispatch consumed nothing before. -/
theorem RunInv.not_mem_snd (hinv : RunInv history s)
    (h : Consume fingerprint s s' id admission taskId runId stored) :
    admission.requestId ∉ (consumptions history).map snd := by
  intro hmem
  obtain ⟨⟨other, _⟩, hpair, rfl⟩ := mem_map.1 hmem
  obtain ⟨row, hrow, hused⟩ := (hinv.stored _ _).1 hpair
  by_cases hid : other = id
  · subst hid
    exact hinv.not_mem_fst h.found h.authorizes.unconsumed (mem_map.2 ⟨_, hpair, rfl⟩)
  · refine h.unused row (mem_of_lookup hrow) ?_ hused
    rw [show row.decisionId = other from key_of_lookup hrow]
    exact hid

theorem consumptions_append_none (h : consumptionOf t.input t.response = none) :
    consumptions (history ++ [t]) = consumptions history := by
  simp [consumptions, filterMap_append, h]

theorem consumptions_append_some {pair : Uuid × Uuid}
    (h : consumptionOf t.input t.response = some pair) :
    consumptions (history ++ [t]) = consumptions history ++ [pair] := by
  simp [consumptions, filterMap_append, h]

/-- An operation that consumes nothing keeps the invariant. -/
theorem RunInv.append_none (hinv : RunInv history s)
    (hnone : consumptionOf t.input t.response = none)
    (hunique : Table.Unique DecisionRow.decisionId s'.decisions)
    (hstored : ∀ id request, (∃ row, Table.lookup DecisionRow.decisionId s.decisions id = some row ∧
        row.consumedRequestId = some request) ↔
      ∃ row, Table.lookup DecisionRow.decisionId s'.decisions id = some row ∧
        row.consumedRequestId = some request)
    (hresolved : ∀ t' ∈ history ++ [t], ∀ id admission taskId runId,
      t'.input = .decided id admission taskId runId →
      ∃ row, Table.lookup DecisionRow.decisionId s'.decisions id = some row ∧
        row.record.status = .resolved) : RunInv (history ++ [t]) s' := by
  have hsame : consumptions (history ++ [t]) = consumptions history := consumptions_append_none hnone
  refine ⟨hunique, fun id request => ?_, hsame ▸ hinv.decisionsOnce, hsame ▸ hinv.requestsOnce,
    hresolved⟩
  rw [hsame, hinv.stored, hstored]

theorem RunInv.append (hinv : RunInv history s) (h : Change fingerprint s s' op response) :
    RunInv (history ++ [⟨s, op, response, s'⟩]) s' := by
  have hkept : ∀ t ∈ history, ∀ id admission taskId runId,
      t.input = .decided id admission taskId runId →
      ∃ row, Table.lookup decisionId s'.decisions id = some row ∧
        row.record.status = .resolved := by
    intro t ht id admission taskId runId hinput
    obtain ⟨row, hrow, hstatus⟩ := hinv.resolved t ht id admission taskId runId hinput
    obtain ⟨row', hrow', hsame, -⟩ := h.lookup_kept hrow
    exact ⟨row', hrow', hsame.trans hstatus⟩
  cases h with
  | kept _ _ hdecided hdecisions =>
    refine hinv.append_none ?_ (hdecisions ▸ hinv.unique) (by rw [hdecisions]; simp) ?_
    · cases op with
      | decided id admission taskId runId => exact absurd rfl (hdecided id admission taskId runId)
      | record record => rfl
      | dispatch op => rfl
    · exact forall_mem_snoc hkept fun id admission taskId runId hinput =>
        absurd hinput (hdecided id admission taskId runId)
  | recorded _ _ row hnew hunused hdecisions =>
    refine hinv.append_none rfl (hdecisions ▸ hinv.unique.append hnew) (fun id request => ?_) ?_
    · rw [hdecisions]
      by_cases hid : row.decisionId = id
      · subst hid
        rw [lookup_append_self hnew, hnew]
        simp [consumedRequestId, hunused]
      · rw [lookup_append_of_ne hid]
    · exact forall_mem_snoc hkept (by simp)
  | repeated _ _ _ _ _ stored hfound hbinds _ hnone hsame =>
    subst hsame
    refine hinv.append_none (by simp [consumptionOf, hnone]) hinv.unique (fun _ _ => Iff.rfl)
      (forall_mem_snoc hkept ?_)
    rintro _ _ _ _ ⟨⟩
    exact ⟨stored, hfound, hbinds.resolved⟩
  | consumed decisionId admission taskId runId commit stored hconsume hsome =>
    have hpair : consumptions (history ++ [⟨s, .decided decisionId admission taskId runId,
        .decided commit, s'⟩]) = consumptions history ++ [(decisionId, admission.requestId)] :=
      consumptions_append_some (by simp [consumptionOf, hsome])
    obtain ⟨sequence, hself⟩ := hconsume.lookup_self
    refine ⟨?_, fun id request => ?_, ?_, ?_, ?_⟩
    · obtain ⟨_, hdecisions⟩ := hconsume.decisions
      exact hdecisions ▸ hinv.unique.put _
    · rw [hpair, mem_append, mem_singleton, hinv.stored]
      by_cases hid : id = decisionId
      · subst hid
        rw [hself, hconsume.found]
        simp [consumedRequestId, consumedRow, hconsume.authorizes.unconsumed, eq_comm]
      · rw [hconsume.lookup_of_ne hid]
        simp [hid]
    · rw [hpair, map_append, map_singleton, ← concat_eq_append, nodup_concat]
      exact ⟨hinv.not_mem_fst hconsume.found hconsume.authorizes.unconsumed, hinv.decisionsOnce⟩
    · rw [hpair, map_append, map_singleton, ← concat_eq_append, nodup_concat]
      exact ⟨hinv.not_mem_snd hconsume, hinv.requestsOnce⟩
    · refine forall_mem_snoc hkept ?_
      rintro _ _ _ _ ⟨⟩
      exact ⟨_, hself, hconsume.authorizes.resolved⟩

theorem runInv_of_empty (h₀ : s₀.decisions = []) : RunInv [] s₀ := by
  refine ⟨?_, ?_, nodup_nil, nodup_nil, by simp⟩
  · simp [Table.Unique, h₀]
  · simp [consumptions, h₀, Table.lookup]

/-- The decisions after every run. -/
theorem run_inv (h₀ : s₀.decisions = []) (ops : List DecisionOp) :
    RunInv (Machine.history (step fingerprint) s₀ ops) (final (step fingerprint) s₀ ops) :=
  history_invariant RunInv (runInv_of_empty h₀)
    (fun _ _ _ _ _ hinv hstep => hinv.append (step_change hstep)) ops

/-- A repeat of the request that consumed a decision finds the dispatch or is refused. -/
theorem final_repeat (taskId runId : Uuid)
    (hrow : Table.lookup DecisionRow.decisionId s.decisions id = some row)
    (hsome : row.record.consumption.isSome = true) :
    final (step fingerprint) s [.decided id admission taskId runId] = s := by
  cases h : step fingerprint s (.decided id admission taskId runId) with
  | error error => exact final_cons_error h []
  | ok result =>
    obtain ⟨response, s'⟩ := result
    rw [final_cons_ok h, final_nil]
    cases step_change h with
    | kept _ _ hdecided => exact absurd rfl (hdecided _ _ _ _)
    | repeated _ _ _ _ _ _ _ _ _ _ hsame => exact hsame
    | consumed _ _ _ _ _ stored hconsume _ =>
      obtain rfl : stored = row := some.inj (hconsume.found.symm.trans hrow)
      rw [hconsume.authorizes.unconsumed] at hsome
      cases hsome

/-- What holds of the decisions and the dispatches along a run. -/
structure DecisionsSafe (fingerprint : Uuid → Uuid → AgentKind → NativeProtocol → Sha256Digest →
    Sha256Digest → Sha256Digest) (s₀ : DecisionStore) (ops : List DecisionOp) : Prop where
  /-- A decision is consumed by at most one request, and a request consumes at most one decision. -/
  consumedOnce : ((consumptions (Machine.history (step fingerprint) s₀ ops)).map Prod.fst).Nodup ∧
    ((consumptions (Machine.history (step fingerprint) s₀ ops)).map Prod.snd).Nodup
  /-- The rows say which request consumed which decision. -/
  stored : ∀ id request,
    (id, request) ∈ consumptions (Machine.history (step fingerprint) s₀ ops) ↔
      ∃ row, Table.lookup DecisionRow.decisionId (final (step fingerprint) s₀ ops).decisions id =
        some row ∧ row.consumedRequestId = some request
  /-- A dispatch newly admitted under a decision. -/
  authorized : ∀ t ∈ Machine.history (step fingerprint) s₀ ops, ∀ id admission taskId runId commit,
    t.input = .decided id admission taskId runId → t.response = .decided commit →
    commit.dispatch.event.isSome = true →
    (id, admission.requestId) ∈ consumptions [t] ∧
      ∃ stored, Consume fingerprint t.pre t.post id admission taskId runId stored
  /-- A decision under which an admission was accepted did not escalate. -/
  resolved : ∀ t ∈ Machine.history (step fingerprint) s₀ ops, ∀ id admission taskId runId,
    t.input = .decided id admission taskId runId →
    ∃ row, Table.lookup DecisionRow.decisionId (final (step fingerprint) s₀ ops).decisions id =
      some row ∧ row.record.status = .resolved
  /-- Once a decision is consumed, no further request under it changes anything. -/
  repeated : ∀ id row, Table.lookup DecisionRow.decisionId (final (step fingerprint) s₀ ops).decisions id
      = some row → row.record.consumption.isSome = true → ∀ admission taskId runId,
    final (step fingerprint) s₀ (ops ++ [.decided id admission taskId runId]) =
      final (step fingerprint) s₀ ops
  /-- A refused operation changes nothing. -/
  refused : ∀ op error, step fingerprint (final (step fingerprint) s₀ ops) op = .error error →
    final (step fingerprint) s₀ (ops ++ [op]) = final (step fingerprint) s₀ ops

/-- A routing decision authorizes at most one dispatch, for every sequence of operations. -/
theorem decisions_safe (s₀ : DecisionStore) (h₀ : s₀.decisions = []) (ops : List DecisionOp) :
    DecisionsSafe fingerprint s₀ ops := by
  have hinv : RunInv (Machine.history (step fingerprint) s₀ ops) (final (step fingerprint) s₀ ops) :=
    run_inv h₀ ops
  constructor
  · exact ⟨hinv.decisionsOnce, hinv.requestsOnce⟩
  · exact hinv.stored
  · intro t ht id admission taskId runId commit hinput hresponse hevent
    have hchange := step_change (accepts_of_mem ht)
    rw [hinput, hresponse] at hchange
    cases hchange with
    | kept _ _ hdecided => exact absurd rfl (hdecided _ _ _ _)
    | repeated _ _ _ _ _ _ _ _ hnone =>
      rw [hnone] at hevent
      cases hevent
    | consumed _ _ _ _ _ stored hconsume hsome =>
      refine ⟨?_, stored, hconsume⟩
      simp [consumptions, hinput, hresponse, consumptionOf, hsome]
  · exact hinv.resolved
  · intro id row hrow hsome admission taskId runId
    rw [final_append]
    exact final_repeat taskId runId hrow hsome
  · intro op error herror
    rw [final_append]
    exact final_cons_error herror []

/-! ## Recording a decision again -/

/-- The decision is stored, and can be recorded again until it is consumed. -/
def Recorded (s : DecisionStore) (record : Decision.DecisionRecord) : Prop :=
  ∃ row, Table.lookup DecisionRow.decisionId s.decisions record.decisionId = some row ∧
    (row.record.consumption = none → s.Repeats record row)

theorem Change.keeps_recorded (h : Change fingerprint s s' op response)
    (hrecorded : s.Recorded record) : s'.Recorded record := by
  obtain ⟨row, hrow, hrepeats⟩ := hrecorded
  obtain ⟨row', hrow', -, hkept⟩ := h.lookup_kept hrow
  refine ⟨row', hrow', fun hunused => ?_⟩
  obtain rfl := hkept (.inr hunused)
  obtain ⟨hnone, hload, hsame⟩ := repeats_iff.1 (hrepeats hunused)
  have hchecked := (loadDecision_eq_some.1 hload).2
  exact repeats_iff.2 ⟨hnone, loadDecision_eq_some.2 ⟨hrow', hchecked⟩, hsame⟩

/-- A recorded decision is still stored after the run. -/
theorem run_recorded (s₀ : DecisionStore) (ops : List DecisionOp) :
    ∀ t ∈ Machine.history (step fingerprint) s₀ ops, t.input = .record record →
      (final (step fingerprint) s₀ ops).Recorded record := by
  refine history_invariant (fun history s => ∀ t ∈ history, t.input = .record record →
    Recorded s record) (by simp) (fun _ _ _ _ _ hinv hstep => ?_) ops
  refine forall_mem_snoc (fun t ht hinput => (step_change hstep).keeps_recorded (hinv t ht hinput)) ?_
  rintro rfl
  simp only [step, eq_ok] at hstep
  obtain ⟨_, _, hrecord, -, rfl⟩ := hstep
  obtain ⟨row, hrepeats⟩ := recordDecision_repeats hrecord
  exact ⟨row, (loadDecision_eq_some.1 (repeats_iff.1 hrepeats).2.1).1, fun _ => hrepeats⟩

/-- A decision that was recorded is accepted again exactly as long as no request has consumed it. -/
theorem record_repeats_iff (s₀ : DecisionStore) (h₀ : s₀.decisions = []) (ops : List DecisionOp)
    (hrecorded : ∃ t ∈ Machine.history (step fingerprint) s₀ ops, t.input = .record record) :
    (∃ row, (final (step fingerprint) s₀ ops).Repeats record row) ↔ record.decisionId ∉
      (consumptions (Machine.history (step fingerprint) s₀ ops)).map Prod.fst := by
  have hinv : RunInv (Machine.history (step fingerprint) s₀ ops) (final (step fingerprint) s₀ ops) :=
    run_inv h₀ ops
  obtain ⟨t, ht, hinput⟩ := hrecorded
  constructor
  · rintro ⟨row, hrepeats⟩
    obtain ⟨hnone, hload, rfl⟩ := repeats_iff.1 hrepeats
    exact hinv.not_mem_fst (loadDecision_eq_some.1 hload).1 hnone
  · intro hfree
    obtain ⟨row, hrow, hrepeats⟩ := run_recorded s₀ ops t ht hinput
    refine ⟨row, hrepeats (eq_none_iff_forall_ne_some.2 fun consumption hsome => hfree ?_)⟩
    refine mem_map.2
      ⟨_, (hinv.stored record.decisionId consumption.requestId).2 ⟨row, hrow, ?_⟩, rfl⟩
    rw [consumedRequestId, hsome, map_some]

/-- A decision for `claude`, made at the start of the epoch. -/
def claudeDecision : Decision.DecisionRecord where
  schemaVersion := 1
  decisionId := Uuid.fromU128 30
  kind := .harnessRoute
  status := .resolved
  chosenHarness := some .claude
  source := .projectDefault
  ruleIndex := none
  options := ["claude".toList, "escalate".toList]
  labels := []
  promptSize := .tiny
  promptSha256 := ⟨7⟩
  promptBytes := 12
  projectDefault := some .claude
  thresholdMillionths := 900000
  dispatchConfigSha256 := ⟨8⟩
  decisionConfigSha256 := ⟨3⟩
  external := ⟨.singleOption, false, none, none⟩
  createdAt := 0
  expiresAt := 900000000000
  consumption := none

/-- The decision is used by one request, which repeats, and another request is refused. -/
def decidedOps : List DecisionOp :=
  [.record claudeDecision,
   .decided (Uuid.fromU128 30) (claudeAdmission 10) (Uuid.fromU128 11) (Uuid.fromU128 12),
   .decided (Uuid.fromU128 30) (claudeAdmission 10) (Uuid.fromU128 11) (Uuid.fromU128 12),
   .decided (Uuid.fromU128 30) (claudeAdmission 20) (Uuid.fromU128 21) (Uuid.fromU128 22)]

/-- The sample decision is consumed by its first request only. -/
theorem claude_decision_safe :
    ((final (step fun _ _ _ _ _ _ => ⟨0⟩) ⟨claudeStore, []⟩ decidedOps).decisions.map
      DecisionRow.consumedRequestId) = [some (Uuid.fromU128 10)] ∧
    DecisionsSafe (fun _ _ _ _ _ _ => ⟨0⟩) ⟨claudeStore, []⟩ decidedOps :=
  ⟨by decide +kernel, decisions_safe ⟨claudeStore, []⟩ rfl decidedOps⟩

/-- After the decision is recorded another one is, and is used by a request that then runs. -/
def otherDecidedOps : List DecisionOp :=
  [.record claudeDecision,
   .record { claudeDecision with decisionId := Uuid.fromU128 31 },
   .decided (Uuid.fromU128 31) (claudeAdmission 10) (Uuid.fromU128 11) (Uuid.fromU128 12),
   .dispatch (.claim (Uuid.fromU128 10) (Uuid.fromU128 13) 1)]

/-- Before the decision is used itself, it can be recorded again. -/
theorem claudeDecision_repeats :
    (Machine.history (step fun _ _ _ _ _ _ => ⟨0⟩) ⟨claudeStore, []⟩ otherDecidedOps).map (·.input) =
      otherDecidedOps ∧
    ∃ row, (final (step fun _ _ _ _ _ _ => ⟨0⟩) ⟨claudeStore, []⟩ otherDecidedOps).Repeats
      claudeDecision row := by
  have hinputs : (Machine.history (step fun _ _ _ _ _ _ => ⟨0⟩) ⟨claudeStore, []⟩
      otherDecidedOps).map (·.input) = otherDecidedOps := by decide +kernel
  have hmem : DecisionOp.record claudeDecision ∈ (Machine.history (step fun _ _ _ _ _ _ => ⟨0⟩)
      ⟨claudeStore, []⟩ otherDecidedOps).map (·.input) := by
    rw [hinputs]
    exact mem_cons_self
  obtain ⟨t, ht, hinput⟩ := mem_map.1 hmem
  exact ⟨hinputs, (record_repeats_iff ⟨claudeStore, []⟩ rfl _ ⟨t, ht, hinput⟩).2 (by decide +kernel)⟩

/-- Once it is used, the same record is a conflict. -/
theorem claudeDecision_conflicts :
    (Machine.history (step fun _ _ _ _ _ _ => ⟨0⟩) ⟨claudeStore, []⟩ decidedOps).map (·.input) =
      decidedOps.take 3 ∧
    (final (step fun _ _ _ _ _ _ => ⟨0⟩) ⟨claudeStore, []⟩ decidedOps).recordDecision claudeDecision =
      .error .decisionConflict := by
  decide +kernel

end Vibemux.DecisionStore
