import Vibemux.Store.Proofs.DispatchHistoryProofs

/-!
# The dispatch lifecycle is safe across crashes

`LifecycleSafe` collects what holds of every sequence of operations on a database without dispatches. A
crash is a recovery: it may come between any two operations.
-/

namespace Vibemux.HarnessStore

open Checked List Machine Option Table

variable (fingerprint : DispatchFingerprint) {op : DispatchOp} {other : HarnessDispatchFinish}
  {row : DispatchRow}

/-- Safety of a run of the dispatch table. -/
structure LifecycleSafe (s₀ : HarnessStore) (ops : List DispatchOp) : Prop where
  /-- At most one dispatch per resource key holds a reservation. -/
  exclusive : ∀ key, ((final (dispatchStep fingerprint) s₀ ops).dispatches.filter fun row =>
    row.record.resourceKey = key ∧ row.record.phase.holdsReservation = true).length ≤ 1
  /-- Each request is claimed at most once, also across recoveries. -/
  claimedOnce : ∀ id, ((history (dispatchStep fingerprint) s₀ ops).filter fun t =>
    t.input.isClaimOf id).length ≤ 1
  /-- A finish that changes anything carries the fence its claim minted, and no recovery happened
  since that claim. -/
  finishFenced : ∀ l₁ t l₂ report, history (dispatchStep fingerprint) s₀ ops = l₁ ++ t :: l₂ →
    t.input = .finish report → t.post ≠ t.pre →
    ∃ before claim since timestamp, l₁ = before ++ claim :: since ∧
      claim.input = .claim report.requestId report.fence timestamp ∧
      ∀ u ∈ since, u.input.isRecover = false
  /-- A run becomes succeeded only through a clean completion that nobody asked to cancel. -/
  success : ∀ l₁ t l₂ runId, history (dispatchStep fingerprint) s₀ ops = l₁ ++ t :: l₂ →
    Succeeded t.post runId → ¬ Succeeded t.pre runId →
    ∃ report row, t.input = .finish report ∧ t.pre.row report.requestId = some row ∧
      row.record.runId = runId ∧ report.decision = ⟨.completed, none⟩ ∧
      report.process.exitCode = some 0 ∧ report.process.forcedTermination = false ∧
      ∀ u ∈ l₁, u.input.isCancelOf report.requestId = false
  /-- The task and run projections agree with the phase. -/
  projections : ∀ row ∈ (final (dispatchStep fingerprint) s₀ ops).dispatches, ∃ task run,
    Table.lookup Task.taskId (final (dispatchStep fingerprint) s₀ ops).tasks row.record.taskId =
        some task ∧
      Table.lookup Run.runId (final (dispatchStep fingerprint) s₀ ops).runs row.record.runId =
        some run ∧
      run.taskId = row.record.taskId ∧ (task.status, run.status) ∈ row.record.phase.allowedStatuses
  /-- A row in a terminal phase never changes. -/
  terminal : ∀ t ∈ history (dispatchStep fingerprint) s₀ ops, ∀ row ∈ t.pre.dispatches,
    row.record.phase.isTerminal = true → row ∈ t.post.dispatches
  /-- Repeating a recorded finish changes nothing. -/
  repeated : ∀ t ∈ history (dispatchStep fingerprint) s₀ ops, ∀ report, t.input = .finish report →
    ∀ timestamp, ∃ commit, (final (dispatchStep fingerprint) s₀ ops).finishHarnessDispatch fingerprint
      { report with timestamp } = .ok (commit, final (dispatchStep fingerprint) s₀ ops)
  /-- A different report with the fence of a recorded finish is refused. -/
  conflicting : ∀ t ∈ history (dispatchStep fingerprint) s₀ ops, ∀ report, t.input = .finish report →
    ∀ other : HarnessDispatchFinish, other.requestId = report.requestId →
      other.fence = report.fence →
      ¬ (other.decision = report.decision ∧ other.process = report.process ∧
        other.capture = report.capture) →
      ∃ error, (final (dispatchStep fingerprint) s₀ ops).finishHarnessDispatch fingerprint other =
        .error error

variable {fingerprint} {s s' : HarnessStore}

theorem DispatchInv.exclusive (hinv : DispatchInv fingerprint s) (key : Sha256Digest) :
    (s.dispatches.filter fun row => row.record.resourceKey = key ∧
      row.record.phase.holdsReservation = true).length ≤ 1 := by
  rw [← toFinset_card_of_nodup (hinv.unique.of_map.filter _), Finset.card_le_one]
  intro a ha b hb
  simp only [List.mem_toFinset, mem_filter, decide_eq_true_eq] at ha hb
  by_contra hne
  have hid : a.requestId ≠ b.requestId := fun h => hne (hinv.unique.eq_of_mem ha.1 hb.1 h)
  have hcompatible := hinv.compatible a ha.1 b hb.1 hid
  simp [DispatchRow.compatible, ha.2.1, ha.2.2, hb.2.1, hb.2.2] at hcompatible

/-- No operation changes a row in a terminal phase. -/
theorem Effect.terminal (hinv : DispatchInv fingerprint s) (h : Effect fingerprint s s' op)
    (hrow : row ∈ s.dispatches) (hterminal : row.record.phase.isTerminal = true) :
    row ∈ s'.dispatches := by
  have hadvance : ∀ {trigger finish minted r r' t task run},
      Advance fingerprint s s' trigger finish minted r r' t task run → row ∈ s'.dispatches := by
    intro trigger finish minted r r' t task run ha
    have hne : row.requestId ≠ r.requestId := fun heq => by
      rw [hinv.unique.eq_of_mem hrow ha.mem heq, ha.edge.not_terminal] at hterminal
      cases hterminal
    rw [ha.dispatches]
    exact mem_put_of_ne hrow (by rwa [ha.same.1])
  cases h with
  | admitted h =>
    rw [h.dispatches]
    exact mem_append_left _ hrow
  | readmitted h => exact h ▸ hrow
  | claimed h => exact hadvance h
  | finished _ _ h => exact hadvance h
  | refinished _ _ _ _ h => exact h ▸ hrow
  | cancelled h => exact hadvance h
  | recancelled _ _ h => exact h ▸ hrow
  | recovered h _ _ =>
    have hfound := hinv.unique.lookup_eq hrow
    rcases h.rows row.requestId with hsame | ⟨r, _, _, hr, -, hedge, -⟩
    · exact mem_of_lookup (hsame.trans hfound)
    · obtain rfl : r = row := some.inj (hr.symm.trans hfound)
      rw [hedge.not_terminal] at hterminal
      cases hterminal

/-- A run becomes succeeded through a clean completion of a running attempt only. -/
theorem Effect.success (h : Effect fingerprint s s' op) {runId : Uuid} (hs' : Succeeded s' runId)
    (hs : ¬ Succeeded s runId) :
    ∃ report row, op = .finish report ∧ s.row report.requestId = some row ∧
      row.record.runId = runId ∧ row.record.phase = .running ∧
      report.decision.outcome = .completed ∧
      isCleanCompletion report.decision.errorCode report.process = true := by
  cases h with
  | @admitted _ _ run' _ h =>
    exfalso
    obtain ⟨run, hrun, hstatus⟩ := hs'
    by_cases hid : runId = run'
    · subst hid
      obtain ⟨run₀, hrun₀, -, -, hpreparing⟩ := h.run
      rw [some.inj (hrun.symm.trans hrun₀), hpreparing] at hstatus
      cases hstatus
    · exact hs ⟨run, (h.run_ne runId hid).symm.trans hrun, hstatus⟩
  | readmitted h => exact absurd (h ▸ hs') hs
  | claimed h =>
    rcases h.succeeded hs' with hold | ⟨-, hcompleted⟩
    · exact absurd hold hs
    · exact absurd (h.edge.of_completed hcompleted).2 (by simp)
  | @finished report row _ _ _ _ hid hvalid h =>
    rcases h.succeeded hs' with hold | ⟨hrunId, hcompleted⟩
    · exact absurd hold hs
    · obtain ⟨hrunning, htrigger⟩ := h.edge.of_completed hcompleted
      have houtcome := DispatchTrigger.finish.inj htrigger
      exact ⟨report, row, rfl, hid ▸ h.loads.found, hrunId.symm, hrunning, houtcome,
        clean_of_validateFinish hvalid houtcome⟩
  | refinished _ _ _ _ h => exact absurd (h ▸ hs') hs
  | cancelled h =>
    rcases h.succeeded hs' with hold | ⟨-, hcompleted⟩
    · exact absurd hold hs
    · exact absurd (h.edge.of_completed hcompleted).2 (by simp)
  | recancelled _ _ h => exact absurd (h ▸ hs') hs
  | recovered h _ _ => exact absurd (h.succeeded runId hs') hs

section

variable {report : HarnessDispatchFinish}

theorem validateFinish_of_step {response : DispatchResponse}
    (h : s.dispatchStep fingerprint (.finish report) = .ok (response, s')) :
    validateFinish report = .ok () := by
  simp only [dispatchStep, finishHarnessDispatch, bind_eq_ok, Prod.exists] at h
  obtain ⟨_, _, ⟨⟨⟩, hvalid, -⟩, -⟩ := h
  exact hvalid

/-- What a finish answers when the row holds a report under the same fence. -/
theorem finishHarnessDispatch_of_records {task : Task} {run : Run}
    (hloads : Loads fingerprint s row task run) (hrecords : Records row report)
    (hid : other.requestId = row.requestId) (hfence : other.fence = report.fence)
    (hvalid : validateFinish other = .ok ()) :
    s.finishHarnessDispatch fingerprint other =
      if recordsFinish row.record other = true then
        .ok (⟨row.record, none, row.updatedSequence⟩, s)
      else .error (.harnessDispatch .conflict) := by
  have hload := loadExisting_eq_ok.2 ⟨row, task, run, rfl, hloads, rfl⟩
  have hdone : row.record.phase.isTerminal = true ∧ row.claimFence = some other.fence :=
    ⟨hrecords.1, by rw [hfence]; exact hrecords.2.1⟩
  unfold finishHarnessDispatch
  rw [hvalid, hid, hload]
  show (if row.record.phase.isTerminal = true ∧ row.claimFence = some other.fence then _ else _) = _
  rw [if_pos hdone]
  by_cases hsame : recordsFinish row.record other = true
  · rw [if_pos hsame, ensure_of _ hsame]
    rfl
  · rw [if_neg hsame, ensure, if_neg hsame]
    rfl

theorem same_report_of_recordsFinish {record : HarnessDispatchRecord}
 (h : recordsFinish record report = true)
    (h' : recordsFinish record other = true) :
    other.decision = report.decision ∧ other.process = report.process ∧
      other.capture = report.capture := by
  simp only [recordsFinish, Bool.and_eq_true, beq_iff_eq] at h h'
  obtain ⟨⟨⟨hout, hcode⟩, hprocess⟩, hcapture⟩ := h
  obtain ⟨⟨⟨hout', hcode'⟩, hprocess'⟩, hcapture'⟩ := h'
  refine ⟨?_, some.inj (hprocess'.symm.trans hprocess),
    some.inj (hcapture'.symm.trans hcapture)⟩
  have houtcome : other.decision.outcome = report.decision.outcome :=
    some.inj (hout'.symm.trans hout)
  have herror : other.decision.errorCode = report.decision.errorCode := hcode'.symm.trans hcode
  cases hd : other.decision
  cases hd' : report.decision
  simp_all

/-- A finish that changes the state follows the claim that minted its fence, with no recovery in
between. -/
theorem RequestInv.finishFenced {l : List (Transition HarnessStore DispatchOp DispatchResponse)}
 (hinv : DispatchInv fingerprint s)
    (hrequest : RequestInv report.requestId l s) (heffect : Effect fingerprint s s' (.finish report))
    (hchanged : s' ≠ s) :
    ∃ before claim since timestamp, l = before ++ claim :: since ∧
      claim.input = .claim report.requestId report.fence timestamp ∧
      ∀ u ∈ since, u.input.isRecover = false := by
  cases heffect with
  | @finished _ row _ _ _ _ hid _ h =>
    obtain ⟨hsource, -⟩ := h.edge.of_finish
    have hpresent := (h.records hinv).2
    obtain ⟨l₁, c, l₂, minted, timestamp, hl, hc, hfence, hno⟩ :=
      hrequest.live row (hid ▸ h.loads.found) hsource
    have hminted : minted = report.fence := some.inj (hfence.symm.trans hpresent)
    exact ⟨l₁, c, l₂, timestamp, hl, hminted ▸ hc, hno⟩
  | refinished _ _ _ _ h => exact absurd h hchanged

end

section Recorded

variable {l : List (Transition HarnessStore DispatchOp DispatchResponse)}
  {t : Transition HarnessStore DispatchOp DispatchResponse} {report : HarnessDispatchFinish}

section

variable (hinv : DispatchInv fingerprint s) (hrequest : RequestInv report.requestId l s) (ht : t ∈ l)
  (hinput : t.input = .finish report)
include hinv hrequest ht hinput

/-- A finish that was accepted before finds its own report. -/
theorem RequestInv.repeated (hvalid : validateFinish report = .ok ()) (timestamp : Timestamp) :
    ∃ commit, s.finishHarnessDispatch fingerprint { report with timestamp } = .ok (commit, s) := by
  obtain ⟨row, hrow, hrecords⟩ := hrequest.recorded t ht report hinput rfl
  obtain ⟨task, run, hloads⟩ := hinv.loads row (mem_of_lookup hrow)
  have hid : report.requestId = row.requestId := (key_of_lookup hrow).symm
  have hanswer := finishHarnessDispatch_of_records hloads hrecords
    (show ({ report with timestamp } : HarnessDispatchFinish).requestId = _ from hid) rfl hvalid
  exact ⟨_, hanswer.trans (if_pos hrecords.2.2)⟩

/-- A different report under the fence of an accepted one is refused. -/
theorem RequestInv.conflicting (hid : other.requestId = report.requestId)
    (hfence : other.fence = report.fence)
    (hdifferent : ¬ (other.decision = report.decision ∧ other.process = report.process ∧ other.capture = report.capture)) :
    ∃ error, s.finishHarnessDispatch fingerprint other = .error error := by
  obtain ⟨row, hrow, hrecords⟩ := hrequest.recorded t ht report hinput rfl
  obtain ⟨task, run, hloads⟩ := hinv.loads row (mem_of_lookup hrow)
  have hid' : other.requestId = row.requestId := hid.trans (key_of_lookup hrow).symm
  cases hvalid : validateFinish other with
  | error error => exact ⟨error, by rw [finishHarnessDispatch, hvalid]; rfl⟩
  | ok u =>
    have hanswer := finishHarnessDispatch_of_records hloads hrecords hid' hfence hvalid
    exact ⟨_, hanswer.trans (if_neg fun hsame =>
      hdifferent (same_report_of_recordsFinish hrecords.2.2 hsame))⟩

end

end Recorded

/-- The dispatch lifecycle is safe across crashes: for every sequence of operations on a database
without dispatches. -/
theorem dispatch_lifecycle_safe (s₀ : HarnessStore) (h₀ : s₀.dispatches = [])
    (ops : List DispatchOp) : LifecycleSafe fingerprint s₀ ops := by
  obtain ⟨hinv, hrequests⟩ := run_inv fingerprint h₀ ops
  -- The invariants at the state a transition of the history starts from.
  have hcut : ∀ l₁ t l₂, history (dispatchStep fingerprint) s₀ ops = l₁ ++ t :: l₂ →
      DispatchInv fingerprint t.pre ∧ (∀ id, RequestInv id l₁ t.pre) ∧
        Effect fingerprint t.pre t.post t.input := by
    intro l₁ t l₂ hsplit
    obtain ⟨ops₁, -, rfl, hpre, haccepts, -, -⟩ := history_split hsplit
    obtain ⟨hinv₁, hrequests₁⟩ := run_inv fingerprint h₀ ops₁
    rw [hpre] at hinv₁ hrequests₁
    exact ⟨hinv₁, hrequests₁, dispatchStep_effect hinv₁ haccepts⟩
  constructor
  · exact hinv.exclusive
  · exact fun id => (hrequests id).claimedOnce
  · intro l₁ t l₂ report hsplit hinput hchanged
    obtain ⟨hinv₁, hrequests₁, heffect⟩ := hcut l₁ t l₂ hsplit
    rw [hinput] at heffect
    exact (hrequests₁ report.requestId).finishFenced hinv₁ heffect hchanged
  · intro l₁ t l₂ runId hsplit hpost hpre
    obtain ⟨hinv₁, hrequests₁, heffect⟩ := hcut l₁ t l₂ hsplit
    obtain ⟨report, row, hinput, hrow, hrunId, hrunning, houtcome, hclean⟩ :=
      heffect.success hpost hpre
    simp only [isCleanCompletion, Bool.and_eq_true, isNone_iff_eq_none, beq_iff_eq,
      Bool.not_eq_true'] at hclean
    obtain ⟨⟨hcode, hexit⟩, hforced⟩ := hclean
    refine ⟨report, row, hinput, hrow, hrunId, ?_, hexit, hforced, ?_⟩
    · rw [← houtcome, ← hcode]
    · refine (hrequests₁ report.requestId).uncancelled fun r hr => .inr ?_
      rw [← some.inj (hrow.symm.trans hr)]
      exact hrunning
  · intro row hrow
    obtain ⟨task, run, hloads⟩ := hinv.loads row hrow
    exact ⟨task, run, hloads.taskFound, hloads.runFound, hloads.project.2.1, hloads.statuses⟩
  · intro t ht row hrow hterminal
    obtain ⟨l₁, l₂, hsplit⟩ := List.append_of_mem ht
    obtain ⟨hinv₁, -, heffect⟩ := hcut l₁ t l₂ hsplit
    exact heffect.terminal hinv₁ hrow hterminal
  · intro t ht report hinput timestamp
    have haccepts := accepts_of_mem ht
    unfold Accepts at haccepts
    rw [hinput] at haccepts
    exact (hrequests report.requestId).repeated hinv ht hinput (validateFinish_of_step haccepts)
      timestamp
  · intro t ht report hinput other hid hfence hdifferent
    exact (hrequests report.requestId).conflicting hinv ht hinput hid hfence hdifferent

/-- A database in which only the harness `claude` was detected. -/
def claudeStore : HarnessStore where
  projectId := Uuid.fromU128 1
  events := [⟨"harness_seed".toList⟩]
  tasks := []
  runs := []
  detected := [.claude]
  dispatches := []

/-- A dispatch to `claude`. -/
def claudeAdmission (requestId : Nat) : HarnessDispatchAdmission where
  requestId := Uuid.fromU128 requestId
  harness := .claude
  protocol := .claudeStreamJson
  prompt := ⟨⟨7⟩, 12⟩
  configSha256 := ⟨8⟩
  resourceKey := ⟨9⟩
  baseCommit := "0123456".toList
  timestamp := 0

/-- The report of an executor whose process ended well. -/
def cleanReport (requestId fence : Nat) : HarnessDispatchFinish where
  requestId := Uuid.fromU128 requestId
  fence := Uuid.fromU128 fence
  decision := ⟨.completed, none⟩
  process := ⟨some 0, false, 0⟩
  capture := ⟨1, 10, ⟨1, 0, 0, 0, 0, 1, 0, 0, 0⟩, ⟨5⟩⟩
  timestamp := 2

/-- Two dispatches in one working directory: the first completes, and a restart interrupts the
second, whose late finish is refused. -/
def claudeOps : List DispatchOp :=
  [.admission (claudeAdmission 10) (Uuid.fromU128 11) (Uuid.fromU128 12),
   .admission (claudeAdmission 20) (Uuid.fromU128 21) (Uuid.fromU128 22),
   .claim (Uuid.fromU128 10) (Uuid.fromU128 13) 1,
   .finish (cleanReport 10 13),
   .admission (claudeAdmission 20) (Uuid.fromU128 21) (Uuid.fromU128 22),
   .claim (Uuid.fromU128 20) (Uuid.fromU128 23) 3,
   .recover 4,
   .finish (cleanReport 20 23)]

/-- Of the two sample dispatches one completes and one awaits recovery. -/
theorem claude_dispatches_safe :
    claudeStore.dispatches = [] ∧
      ((final (dispatchStep fun _ _ _ _ _ _ => ⟨0⟩) claudeStore claudeOps).dispatches.map
        fun row => row.record.phase) = [.completed, .recoveryPending] ∧
      LifecycleSafe (fun _ _ _ _ _ _ => ⟨0⟩) claudeStore claudeOps :=
  ⟨rfl, by decide +kernel, dispatch_lifecycle_safe claudeStore rfl claudeOps⟩

end Vibemux.HarnessStore
