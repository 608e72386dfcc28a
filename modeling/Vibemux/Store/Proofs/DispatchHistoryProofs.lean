import Vibemux.Lib.History
import Vibemux.Store.Proofs.DispatchRecoveryProofs

/-!
# Histories of the dispatch table

What holds across all interleavings is stated over the history of a run: who minted the fence a finish
presents, that no recovery came in between, and that a success was neither cancelled before nor reported
without its evidence.
-/

namespace Vibemux.HarnessStore

open Checked List Machine Option Table

variable {fingerprint : DispatchFingerprint} {s s' : HarnessStore} {commit : HarnessDispatchCommit}
  {phase : DispatchPhase} {report : HarnessDispatchFinish} {requestId : Uuid}
  {timestamp : Timestamp}

variable (fingerprint) in
/-- What each operation does when it is accepted. -/
inductive Effect (s s' : HarnessStore) : DispatchOp → Prop
  | admitted {admission : HarnessDispatchAdmission} {taskId runId : Uuid} {row : DispatchRow}
      (h : Admit fingerprint s s' admission taskId runId row) :
      Effect s s' (.admission admission taskId runId)
  | readmitted {admission : HarnessDispatchAdmission} {taskId runId : Uuid} (h : s' = s) :
      Effect s s' (.admission admission taskId runId)
  | claimed {minted : Uuid} {timestamp : Timestamp} {row row' : DispatchRow} {t : PhaseTransition}
      {task : Task} {run : Run}
      (h : Advance fingerprint s s' .claim none minted row row' t task run) :
      Effect s s' (.claim row.requestId minted timestamp)
  | finished {report : HarnessDispatchFinish} {row row' : DispatchRow} {t : PhaseTransition}
      {task : Task} {run : Run} (hid : row.requestId = report.requestId)
      (hvalid : validateFinish report = .ok ())
      (h : Advance fingerprint s s' (.finish report.decision.outcome) (some report) Uuid.nil row row'
        t task run) : Effect s s' (.finish report)
  | refinished {report : HarnessDispatchFinish} {row : DispatchRow}
      (found : Table.lookup DispatchRow.requestId s.dispatches report.requestId = some row)
      (terminal : row.record.phase.isTerminal = true) (fence : row.claimFence = some report.fence)
      (records : recordsFinish row.record report = true) (h : s' = s) : Effect s s' (.finish report)
  | cancelled {timestamp : Timestamp} {row row' : DispatchRow} {t : PhaseTransition} {task : Task}
      {run : Run} (h : Advance fingerprint s s' .cancel none Uuid.nil row row' t task run) :
      Effect s s' (.cancel row.requestId timestamp)
  | recancelled {timestamp : Timestamp} {row : DispatchRow}
      (found : Table.lookup DispatchRow.requestId s.dispatches row.requestId = some row)
      (phase : row.record.phase ≠ .admitted ∧ row.record.phase ≠ .running) (h : s' = s) :
      Effect s s' (.cancel row.requestId timestamp)
  | recovered {timestamp : Timestamp} (h : Recovered s s') (inv : DispatchInv fingerprint s')
      (idle : ∀ row ∈ s'.dispatches, ¬ row.record.phase.Active) : Effect s s' (.recover timestamp)

/-- A cancellation that changes nothing finds the attempt cancelled or about to be. -/
theorem not_live_of_cancel_unchanged (h : applyTrigger phase .cancel = .ok .unchanged) :
    phase ≠ .admitted ∧ phase ≠ .running := by
  constructor
  · rintro rfl
    cases h
  · rintro rfl
    cases h

theorem finish_ne_unchanged {outcome : AttemptOutcome} :
    applyTrigger phase (.finish outcome) ≠ .ok .unchanged := by
  cases outcome <;> cases phase <;> simp [applyTrigger, changedPhase]

theorem claimHarnessDispatch_effect {minted : Uuid} {result : HarnessDispatchRecord × Uuid}
    (h : s.claimHarnessDispatch fingerprint requestId minted timestamp = .ok (result, s')) :
    Effect fingerprint s s' (.claim requestId minted timestamp) := by
  simp only [claimHarnessDispatch, eq_ok] at h
  obtain ⟨_, hload, _, _, _, hcommit, hevent, -, -, -, rfl⟩ := h
  obtain ⟨_, _, _, rfl, hloads, rfl⟩ := loadExisting_eq_ok.1 hload
  rcases commitTransition_eq_ok hloads hcommit with ⟨-, hnone, -, -⟩ | ⟨row', t, hadvance, -, -, -⟩
  · rw [hnone] at hevent
    cases hevent
  · exact .claimed hadvance

theorem finishHarnessDispatch_effect
    (h : s.finishHarnessDispatch fingerprint report = .ok (commit, s')) :
    Effect fingerprint s s' (.finish report) := by
  simp only [finishHarnessDispatch, eq_ok] at h
  obtain ⟨hvalid, stored, hload, h⟩ := h
  obtain ⟨row, _, _, hid, hloads, rfl⟩ := loadExisting_eq_ok.1 hload
  by_cases hdone : row.record.phase.isTerminal = true ∧ row.claimFence = some report.fence
  · rw [if_pos hdone] at h
    simp only [eq_ok] at h
    obtain ⟨hrecords, -, rfl⟩ := h
    exact .refinished (hid ▸ hloads.found) hdone.1 hdone.2 hrecords rfl
  · rw [if_neg hdone] at h
    simp only [eq_ok] at h
    obtain ⟨_, _, _, hcommit, -, rfl⟩ := h
    rcases commitTransition_eq_ok hloads hcommit with ⟨hsame, -⟩ | ⟨row', t, hadvance, -⟩
    · exact absurd hsame finish_ne_unchanged
    · exact .finished hid hvalid hadvance

theorem cancelHarnessDispatch_effect
    (h : s.cancelHarnessDispatch fingerprint requestId timestamp = .ok (commit, s')) :
    Effect fingerprint s s' (.cancel requestId timestamp) := by
  simp only [cancelHarnessDispatch, eq_ok] at h
  obtain ⟨_, hload, _, _, _, hcommit, -, rfl⟩ := h
  obtain ⟨_, _, _, rfl, hloads, rfl⟩ := loadExisting_eq_ok.1 hload
  rcases commitTransition_eq_ok hloads hcommit with ⟨hsame, -, -, hs⟩ | ⟨_, _, hadvance, -⟩
  · exact .recancelled hloads.found (not_live_of_cancel_unchanged hsame) hs
  · exact .cancelled hadvance

/-- What an operation does to one dispatch. -/
theorem dispatchStep_effect (hinv : DispatchInv fingerprint s) {op : DispatchOp}
    {response : DispatchResponse} (h : s.dispatchStep fingerprint op = .ok (response, s')) :
    Effect fingerprint s s' op := by
  cases op
  all_goals simp only [dispatchStep, eq_ok] at h
  case admission admission taskId runId =>
    obtain ⟨commit, _, hadmit, -, rfl⟩ := h
    rcases admitDispatchIn_eq_ok hadmit with ⟨_, _, _, _, _, _, hs⟩ | ⟨_, hadmit, -, -⟩
    · exact .readmitted hs
    · exact .admitted hadmit
  case claim requestId minted timestamp =>
    obtain ⟨_, _, _, hclaim, -, rfl⟩ := h
    exact claimHarnessDispatch_effect hclaim
  case finish report =>
    obtain ⟨commit, _, hfinish, -, rfl⟩ := h
    exact finishHarnessDispatch_effect hfinish
  case cancel requestId timestamp =>
    obtain ⟨commit, _, hcancel, -, rfl⟩ := h
    exact cancelHarnessDispatch_effect hcancel
  case recover timestamp =>
    obtain ⟨recovery, _, hrecover, -, rfl⟩ := h
    obtain ⟨hinv', hrecovered, hidle⟩ := recoverHarnessDispatches_spec hinv hrecover
    exact .recovered hrecovered hinv' hidle

/-- Every operation keeps the invariant. -/
theorem Effect.inv (hinv : DispatchInv fingerprint s) {op : DispatchOp}
    (h : Effect fingerprint s s' op) : DispatchInv fingerprint s' := by
  cases h with
  | admitted h => exact hinv.admitted h
  | readmitted h => exact h ▸ hinv
  | claimed h => exact hinv.advance (.none (by simp)) h
  | finished _ hvalid h => exact hinv.advance (.some hvalid) h
  | refinished _ _ _ _ h => exact h ▸ hinv
  | cancelled h => exact hinv.advance (.none (by simp)) h
  | recancelled _ _ h => exact h ▸ hinv
  | recovered _ inv _ => exact inv

/-! ## The history of one request -/

def DispatchOp.isClaimOf (id : Uuid) : DispatchOp → Bool
  | .claim requestId _ _ => requestId == id
  | _ => false

def DispatchOp.isCancelOf (id : Uuid) : DispatchOp → Bool
  | .cancel requestId _ => requestId == id
  | _ => false

def DispatchOp.isRecover : DispatchOp → Bool
  | .recover _ => true
  | _ => false

/-- The row of a request. -/
def row (s : HarnessStore) (id : Uuid) : Option DispatchRow :=
  Table.lookup DispatchRow.requestId s.dispatches id

/-- The row holds exactly this report, under the fence of the report. -/
def Records (row : DispatchRow) (report : HarnessDispatchFinish) : Prop :=
  row.record.phase.isTerminal = true ∧ row.claimFence = some report.fence ∧
    recordsFinish row.record report = true

/-- What the history of a run says about the row of one request. -/
structure RequestInv (id : Uuid) (l : List (Transition HarnessStore DispatchOp DispatchResponse))
    (s : HarnessStore) : Prop where
  unclaimed : (∀ row, s.row id = some row → row.record.phase = .admitted) →
    ∀ t ∈ l, t.input.isClaimOf id = false
  claimedOnce : (l.filter fun t => t.input.isClaimOf id).length ≤ 1
  uncancelled : (∀ row, s.row id = some row → row.record.phase = .admitted ∨
    row.record.phase = .running) → ∀ t ∈ l, t.input.isCancelOf id = false
  /-- The fence of an attempt that can still be finished was minted by its claim, and no recovery
  came after that. -/
  live : ∀ row, s.row id = some row → row.record.phase = .running ∨
    row.record.phase = .cancelRequested → ∃ l₁ c l₂ minted timestamp, l = l₁ ++ c :: l₂ ∧
      c.input = .claim id minted timestamp ∧ row.claimFence = some minted ∧
      ∀ t ∈ l₂, t.input.isRecover = false
  recorded : ∀ t ∈ l, ∀ report, t.input = .finish report → report.requestId = id →
    ∃ row, s.row id = some row ∧ Records row report

section Step

variable {id : Uuid} {l : List (Transition HarnessStore DispatchOp DispatchResponse)}
  {op : DispatchOp} {response : DispatchResponse}

/-- An operation that leaves the row of the request alone. -/
theorem RequestInv.frame (h : RequestInv id l s) (hsame : s'.row id = s.row id)
    (hclaim : op.isClaimOf id = false)
    (hcancel : op.isCancelOf id = true → ∃ row, s.row id = some row ∧
      row.record.phase ≠ .admitted ∧ row.record.phase ≠ .running)
    (hfinish : ∀ report, op = .finish report → report.requestId = id →
      ∃ row, s.row id = some row ∧ Records row report)
    (hrecover : op.isRecover = true → ∀ row, s.row id = some row → ¬ row.record.phase.Active) :
    RequestInv id (l ++ [⟨s, op, response, s'⟩]) s' := by
  constructor
  · intro hphase
    rw [hsame] at hphase
    exact forall_mem_snoc (h.unclaimed hphase) hclaim
  · simpa [hclaim] using h.claimedOnce
  · intro hphase
    rw [hsame] at hphase
    refine forall_mem_snoc (h.uncancelled hphase) ?_
    by_contra hcontra
    obtain ⟨row, hrow, hne⟩ := hcancel (by simpa using hcontra)
    rcases hphase row hrow with hp | hp
    · exact hne.1 hp
    · exact hne.2 hp
  · intro row hrow hlive
    rw [hsame] at hrow
    obtain ⟨l₁, c, l₂, minted, timestamp, rfl, hc, hfence, hno⟩ := h.live row hrow hlive
    refine ⟨l₁, c, l₂ ++ [⟨s, op, response, s'⟩], minted, timestamp, by simp, hc, hfence,
      forall_mem_snoc hno ?_⟩
    by_contra hcontra
    exact hrecover (by simpa using hcontra) row hrow (.inr hlive)
  · rw [hsame]
    exact forall_mem_snoc h.recorded hfinish

/-- The parts of the step that do not depend on where the attempt goes: it leaves a phase in which
nothing has been reported, and ends in a row of its own. -/
theorem RequestInv.leave {row row' : DispatchRow} (h : RequestInv id l s) (hrow : s.row id = some row)
    (hrow' : s'.row id = some row') (hsource : row.record.phase.isTerminal = false)
    (hclaim : op.isClaimOf id = false) (hadmitted : row'.record.phase ≠ .admitted)
    (hrunning : row'.record.phase ≠ .running)
    (hlive : row'.record.phase = .cancelRequested → ∃ l₁ c l₂ minted timestamp,
      l = l₁ ++ c :: l₂ ∧ c.input = .claim id minted timestamp ∧ row'.claimFence = some minted ∧
      ∀ t ∈ l₂, t.input.isRecover = false)
    (hrecover : row'.record.phase = .cancelRequested → op.isRecover = false)
    (hfinish : ∀ report, op = .finish report → report.requestId = id → Records row' report) :
    RequestInv id (l ++ [⟨s, op, response, s'⟩]) s' := by
  constructor
  · intro hphase
    exact absurd (hphase row' hrow') hadmitted
  · simpa [hclaim] using h.claimedOnce
  · intro hphase
    rcases hphase row' hrow' with hp | hp
    · exact absurd hp hadmitted
    · exact absurd hp hrunning
  · intro r hr hphase
    obtain rfl : row' = r := some.inj (hrow'.symm.trans hr)
    have hcancel := hphase.resolve_left hrunning
    obtain ⟨l₁, c, l₂, minted, timestamp, rfl, hc, hfence, hno⟩ := hlive hcancel
    exact ⟨l₁, c, l₂ ++ [⟨s, op, response, s'⟩], minted, timestamp, by simp, hc, hfence,
      forall_mem_snoc hno (hrecover hcancel)⟩
  · refine forall_mem_snoc (fun t ht report hinput hid => ?_)
      fun report hinput hid => ⟨row', hrow', hfinish report hinput hid⟩
    -- A report that was recorded before had ended the attempt.
    obtain ⟨r, hr, hterminal, -, -⟩ := h.recorded t ht report hinput hid
    obtain rfl : row = r := some.inj (hrow.symm.trans hr)
    rw [hsource] at hterminal
    cases hterminal

variable {minted : Uuid} {row row' : DispatchRow} {t : PhaseTransition} {task : Task} {run : Run}

theorem RequestInv.claimed (h : RequestInv row.requestId l s)
    (ha : Advance fingerprint s s' .claim none minted row row' t task run) :
    RequestInv row.requestId (l ++ [⟨s, .claim row.requestId minted timestamp, response, s'⟩]) s' := by
  have hrow : s.row row.requestId = some row := ha.loads.found
  have hrow' : s'.row row.requestId = some row' := ha.lookup_self
  obtain ⟨hadmitted, htarget, hmint⟩ := ha.edge.running_of_claim
  have hphase : row'.record.phase = .running := ha.phase.trans htarget
  have hfence : row'.claimFence = some minted := by
    have hnext := ha.fence
    rw [hmint] at hnext
    exact (Except.ok.inj hnext).symm
  have hold : ∀ r, s.row row.requestId = some r → r.record.phase = .admitted := fun r hr => by
    rw [← some.inj (hrow.symm.trans hr)]
    exact hadmitted
  constructor
  · intro hall
    exact absurd (hall row' hrow') (by simp [hphase])
  · have hnone : l.filter (fun t => t.input.isClaimOf row.requestId) = [] := by
      rw [filter_eq_nil_iff]
      intro t ht
      simp [h.unclaimed hold t ht]
    rw [filter_append, hnone]
    exact length_filter_le _ _
  · exact fun _ => forall_mem_snoc (h.uncancelled fun r hr => .inl (hold r hr)) rfl
  · intro r hr _
    obtain rfl : row' = r := some.inj (hrow'.symm.trans hr)
    exact ⟨l, _, [], minted, timestamp, rfl, rfl, hfence, by simp⟩
  · refine forall_mem_snoc (fun t ht report hinput hid => ?_) (by rintro _ ⟨⟩)
    obtain ⟨r, hr, hterminal, -, -⟩ := h.recorded t ht report hinput hid
    rw [hold r hr] at hterminal
    cases hterminal

/-- A finish leaves its report in the row, under its own fence. -/
theorem Advance.records (hinv : DispatchInv fingerprint s)
    (ha : Advance fingerprint s s' (.finish report.decision.outcome) (some report) minted row row' t task run)
    : Records row' report ∧ row.claimFence = some report.fence := by
  obtain ⟨hsource, hrequire, hcode, hterminal⟩ := ha.edge.of_finish
  have hnext := ha.fence
  rw [hrequire] at hnext
  simp only [nextFence, eq_ok] at hnext
  obtain ⟨⟨-, hpresent⟩, hkept⟩ := hnext
  have hpresent : row.claimFence = some report.fence := hpresent
  have herror := ha.errorCode hinv (.inr hsource)
  rw [bind_some, hcode, or_none] at herror
  refine ⟨⟨by rw [ha.phase]; exact hterminal, by rw [← hkept, hpresent], ?_⟩, hpresent⟩
  unfold recordsFinish
  rw [herror]
  obtain ⟨timestamp, hrecord⟩ := ha.record
  rw [hrecord]
  simp [nextRecord]

theorem RequestInv.admitted {admission : HarnessDispatchAdmission} {taskId runId : Uuid}
    (h : RequestInv row.requestId l s)
    (ha : Admit fingerprint s s' admission taskId runId row) :
    RequestInv row.requestId (l ++ [⟨s, .admission admission taskId runId, response, s'⟩]) s' := by
  have hid : row.requestId = admission.requestId := by rw [DispatchRow.requestId, ha.record]; rfl
  have hnone : s.row row.requestId = none := by rw [hid]; exact ha.new
  have hrow' : s'.row row.requestId = some row := by
    rw [HarnessStore.row, ha.dispatches]
    exact lookup_append_self hnone
  have hphase : row.record.phase = .admitted := by rw [ha.record]; rfl
  constructor
  · exact fun _ => forall_mem_snoc (h.unclaimed (by simp [hnone])) rfl
  · rw [filter_append]
    simpa [DispatchOp.isClaimOf] using h.claimedOnce
  · exact fun _ => forall_mem_snoc (h.uncancelled (by simp [hnone])) rfl
  · intro r hr hlive
    obtain rfl : row = r := some.inj (hrow'.symm.trans hr)
    rw [hphase] at hlive
    rcases hlive with hlive | hlive <;> cases hlive
  · refine forall_mem_snoc (fun t ht report hinput hid => ?_) (by rintro _ ⟨⟩)
    obtain ⟨r, hr, -⟩ := h.recorded t ht report hinput hid
    rw [hnone] at hr
    cases hr

/-- One operation, seen from one request. -/
theorem RequestInv.step (hinv : DispatchInv fingerprint s) (h : RequestInv id l s)
    (he : Effect fingerprint s s' op) : RequestInv id (l ++ [⟨s, op, response, s'⟩]) s' := by
  cases he with
  | @admitted _ _ _ row ha =>
    by_cases hid : id = row.requestId
    · subst hid
      exact h.admitted ha
    · refine h.frame ?_ rfl (by simp [DispatchOp.isCancelOf]) (by simp)
        (by simp [DispatchOp.isRecover])
      rw [HarnessStore.row, ha.dispatches]
      exact lookup_append_of_ne (Ne.symm hid)
  | readmitted hs =>
    subst hs
    exact h.frame rfl rfl (by simp [DispatchOp.isCancelOf]) (by simp)
      (by simp [DispatchOp.isRecover])
  | @claimed _ _ row _ _ _ _ ha =>
    by_cases hid : id = row.requestId
    · subst hid
      exact h.claimed ha
    · exact h.frame (ha.lookup_of_ne hid) (by simpa [DispatchOp.isClaimOf] using Ne.symm hid)
        (by simp [DispatchOp.isCancelOf]) (by simp) (by simp [DispatchOp.isRecover])
  | @finished _ row _ _ _ _ hreport _ ha =>
    by_cases hid : id = row.requestId
    · subst hid
      obtain ⟨hsource, -, -, hterminal⟩ := ha.edge.of_finish
      have hphase := ha.phase
      refine h.leave ha.loads.found ha.lookup_self ha.edge.not_terminal rfl ?_ ?_ ?_ (fun _ => rfl) ?_
      · intro hadmitted
        rw [← hphase, hadmitted] at hterminal
        cases hterminal
      · intro hrunning
        rw [← hphase, hrunning] at hterminal
        cases hterminal
      · intro hcancel
        rw [← hphase, hcancel] at hterminal
        cases hterminal
      · intro report' heq _
        cases heq
        exact (ha.records hinv).1
    · refine h.frame (ha.lookup_of_ne hid) rfl (by simp [DispatchOp.isCancelOf]) ?_
        (by simp [DispatchOp.isRecover])
      intro report' heq hid'
      cases heq
      exact absurd (hid'.symm.trans hreport.symm) hid
  | @refinished _ row found terminal fence records hs =>
    subst hs
    refine h.frame rfl rfl (by simp [DispatchOp.isCancelOf]) ?_ (by simp [DispatchOp.isRecover])
    intro report' heq hid
    cases heq
    exact ⟨row, hid ▸ found, terminal, fence, records⟩
  | @cancelled timestamp row row' t task run ha =>
    by_cases hid : id = row.requestId
    · subst hid
      obtain ⟨hadmitted, hrunning⟩ := ha.edge.of_cancel
      have hphase := ha.phase
      refine h.leave ha.loads.found ha.lookup_self ha.edge.not_terminal rfl (hphase ▸ hadmitted)
        (hphase ▸ hrunning) ?_ (fun _ => rfl) (by simp)
      intro hcancel
      -- The fence of the running attempt is kept.
      rcases ha.edge.fence_of_live (.inr (hphase.symm.trans hcancel)) with ⟨hclaim, -⟩ |
        ⟨-, hsource, hkeep⟩
      · cases hclaim
      · have hnext := ha.fence
        rw [hkeep] at hnext
        rw [← Except.ok.inj hnext]
        exact h.live row ha.loads.found (.inl hsource)
    · exact h.frame (ha.lookup_of_ne hid) rfl
        (by simp [DispatchOp.isCancelOf, Ne.symm hid]) (by simp) (by simp [DispatchOp.isRecover])
  | @recancelled _ row found phase hs =>
    subst hs
    refine h.frame rfl rfl (fun hid => ?_) (by simp) (by simp [DispatchOp.isRecover])
    have hid : row.requestId = id := by simpa [DispatchOp.isCancelOf] using hid
    exact ⟨row, hid ▸ found, phase⟩
  | @recovered _ hrec _ hidle =>
    rcases hrec.rows id with hsame | ⟨row, row', _, hrow, hrow', hedge, hphase⟩
    · refine h.frame hsame rfl (by simp [DispatchOp.isCancelOf]) (by simp) ?_
      intro _ row hrow
      exact hidle row (mem_of_lookup (hsame.trans hrow))
    · have hidle' : ¬ row'.record.phase.Active := hphase ▸ hedge.of_recover
      exact h.leave hrow hrow' hedge.not_terminal rfl (fun hp => hidle' (.inl hp))
        (fun hp => hidle' (.inr (.inl hp))) (fun hp => absurd (.inr (.inr hp)) hidle')
        (fun hp => absurd (.inr (.inr hp)) hidle') (by simp)

end Step

theorem requestInv_nil {s : HarnessStore} (h : s.dispatches = []) (id : Uuid) :
    RequestInv id [] s := by
  have hnone : s.row id = none := by simp [HarnessStore.row, h, Table.lookup]
  constructor
  all_goals simp [hnone]

variable (fingerprint) in
/-- A whole run keeps the invariant of the table and, for every request, of its history. -/
theorem run_inv {s₀ : HarnessStore} (h₀ : s₀.dispatches = []) (ops : List DispatchOp) :
    DispatchInv fingerprint (final (dispatchStep fingerprint) s₀ ops) ∧
      ∀ id, RequestInv id (history (dispatchStep fingerprint) s₀ ops)
        (final (dispatchStep fingerprint) s₀ ops) := by
  refine history_invariant (fun l s => DispatchInv fingerprint s ∧ ∀ id, RequestInv id l s)
    ⟨dispatchInv_of_empty h₀, requestInv_nil h₀⟩ ?_ ops
  intro l s op response s' ⟨hinv, hrequests⟩ hstep
  have heffect := dispatchStep_effect hinv hstep
  exact ⟨heffect.inv hinv, fun id => (hrequests id).step hinv heffect⟩

end Vibemux.HarnessStore
