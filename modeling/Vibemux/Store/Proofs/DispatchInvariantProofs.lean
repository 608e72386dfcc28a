import Vibemux.Store.Proofs.DispatchProofs

/-!
# The invariant of the dispatch table

Every row loads: its projections exist and have statuses its phase allows. No two rows share a task, a
run or a reserved working directory. Admissions and the edges of the attempt machine keep this.
-/

namespace Vibemux

open Bool Checked DispatchRow Option Table

namespace HarnessStore

variable {fingerprint : DispatchFingerprint} {s s' : HarnessStore} {row : DispatchRow}
  {admission : HarnessDispatchAdmission} {taskId runId : Uuid} {other : DispatchRow}

/-- The invariant of the dispatch table that its constraints keep. -/
structure RowsInv (s : HarnessStore) : Prop where
  unique : Table.Unique DispatchRow.requestId s.dispatches
  compatible : ∀ row ∈ s.dispatches, ∀ other ∈ s.dispatches, row.requestId ≠ other.requestId →
    row.compatible other = true

variable (fingerprint) in
/-- The invariant of the dispatch table and its projections. -/
structure DispatchInv (s : HarnessStore) : Prop extends RowsInv s where
  fence : ∀ row ∈ s.dispatches, row.fenceAllowed = true
  version : ∀ row ∈ s.dispatches, row.record.version ≤ row.record.phase.rank
  /-- No code is recorded while an executor may still report. -/
  code : ∀ row ∈ s.dispatches, row.record.phase.Active → row.record.errorCode = none
  loads : ∀ row ∈ s.dispatches, ∃ task run, Loads fingerprint s row task run

theorem rowsInv_of_empty (h : s.dispatches = []) : RowsInv s := by
  constructor
  · simp [Table.Unique, h]
  · simp [h]

theorem dispatchInv_of_empty (h : s.dispatches = []) : DispatchInv fingerprint s := by
  constructor
  · exact rowsInv_of_empty h
  all_goals simp [h]

theorem rowAllowed_iff {rows : List DispatchRow} :
    rowAllowed rows row = true ↔ row.fenceAllowed = true ∧
      ∀ other ∈ rows, other.requestId ≠ row.requestId → row.compatible other = true := by
  simp only [rowAllowed, and_eq_true, List.all_eq_true, or_eq_true, beq_iff_eq]
  exact and_congr_right fun _ => forall₂_congr fun _ _ => or_iff_not_imp_left

theorem compatible_comm (row other : DispatchRow) : row.compatible other = other.compatible row := by
  unfold compatible
  rw [bne_comm, bne_comm (a := row.record.runId), and_comm row.record.phase.holdsReservation,
    BEq.comm (a := row.record.resourceKey)]

theorem compatible_ids {row : DispatchRow} (h : row.compatible other = true) :
    row.record.taskId ≠ other.record.taskId ∧ row.record.runId ≠ other.record.runId := by
  simp only [compatible, and_eq_true, bne_iff_ne] at h
  exact h.1

/-- The row of a new request is compatible with every row of the table. -/
theorem Admit.compatible (h : Admit fingerprint s s' admission taskId runId row)
    (hother : other ∈ s.dispatches) :
    other.requestId ≠ row.requestId ∧ row.compatible other = true := by
  have hid : row.requestId = admission.requestId := by rw [requestId, h.record]; rfl
  have hne : other.requestId ≠ row.requestId := by
    rw [hid]
    exact lookup_eq_none.1 h.new other hother
  exact ⟨hne, (rowAllowed_iff.1 h.allowed).2 other hother hne⟩

/-- The new row loads in the state after its admission. -/
theorem Admit.loads (h : Admit fingerprint s s' admission taskId runId row) :
    ∃ task run, Loads fingerprint s' row task run := by
  obtain ⟨task, htask, htaskProject, htaskStatus⟩ := h.task
  obtain ⟨run, hrun, hrunProject, hrunTask, hrunStatus⟩ := h.run
  have hnew : lookup requestId s.dispatches row.requestId = none := by
    rw [requestId, h.record]
    exact h.new
  refine ⟨task, run, ?_, ?_, ?_, ?_, ?_, ?_, ?_, ?_⟩
  · rw [h.dispatches]
    exact lookup_append_self hnew
  all_goals rw [h.record]
  · rfl
  · rfl
  · exact htask
  · exact hrun
  · exact ⟨htaskProject, hrunTask, hrunProject⟩
  · rw [htaskStatus, hrunStatus]
    exact List.mem_singleton.2 rfl
  · exact fun hphase => absurd hphase (by simp [admittedRecord])

/-- The rows after an admission. -/
theorem Admit.mem_dispatches {row : DispatchRow}
    (h : Admit fingerprint s s' admission taskId runId row) (hother : other ∈ s'.dispatches) :
    other ∈ s.dispatches ∨ other = row := by
  rw [h.dispatches] at hother
  simpa using hother

theorem RowsInv.admitted (hinv : RowsInv s) (h : Admit fingerprint s s' admission taskId runId row) :
    RowsInv s' := by
  have hnew : lookup requestId s.dispatches row.requestId = none := by
    rw [requestId, h.record]
    exact h.new
  constructor
  · rw [h.dispatches]
    exact hinv.unique.append hnew
  · intro a ha b hb hne
    rcases h.mem_dispatches ha with ha | rfl <;> rcases h.mem_dispatches hb with hb | rfl
    · exact hinv.compatible a ha b hb hne
    · rw [compatible_comm]
      exact (h.compatible ha).2
    · exact (h.compatible hb).2
    · exact absurd rfl hne

theorem DispatchInv.admitted (hinv : DispatchInv fingerprint s)
    (h : Admit fingerprint s s' admission taskId runId row) : DispatchInv fingerprint s' := by
  have hmem : ∀ other ∈ s'.dispatches, other ∈ s.dispatches ∨ other = row :=
    fun _ hother => h.mem_dispatches hother
  constructor
  · exact hinv.toRowsInv.admitted h
  · intro a ha
    rcases hmem a ha with ha | rfl
    · exact hinv.fence a ha
    · exact (rowAllowed_iff.1 h.allowed).1
  · intro a ha
    rcases hmem a ha with ha | rfl
    · exact hinv.version a ha
    · rw [h.record]
      exact le_refl 1
  · intro a ha hphase
    rcases hmem a ha with ha | rfl
    · exact hinv.code a ha hphase
    · rw [h.record]
      rfl
  · intro a ha
    rcases hmem a ha with ha | rfl
    · obtain ⟨task, run, hloads⟩ := hinv.loads a ha
      have hids := compatible_ids (h.compatible ha).2
      rw [h.record] at hids
      refine ⟨task, run, hloads.congr ?_ (h.task_ne _ (Ne.symm hids.1))
        (h.run_ne _ (Ne.symm hids.2))⟩
      rw [h.dispatches]
      exact lookup_append_of_isSome hloads.found _
    · exact h.loads

/-- A report that `validate_finish` lets through, with the trigger it causes. -/
def ReportValid (trigger : DispatchTrigger) (finish : Option HarnessDispatchFinish) : Prop :=
  match finish with
  | some f => trigger = .finish f.decision.outcome ∧ validateFinish f = .ok ()
  | none => ∀ outcome, trigger ≠ .finish outcome

theorem ReportValid.some {report : HarnessDispatchFinish} (h : validateFinish report = .ok ()) :
    ReportValid (.finish report.decision.outcome) (some report) := ⟨rfl, h⟩

theorem ReportValid.none {trigger : DispatchTrigger}
    (h : ∀ outcome, trigger ≠ .finish outcome) : ReportValid trigger none := h

theorem clean_of_validateFinish {f : HarnessDispatchFinish} (h : validateFinish f = .ok ())
    (hcompleted : f.decision.outcome = .completed) :
    isCleanCompletion f.decision.errorCode f.process = true := by
  simpa [validateFinish, hcompleted] using h

section Advance

variable {trigger : DispatchTrigger} {finish : Option HarnessDispatchFinish} {minted : Uuid}
  {row row' : DispatchRow} {t : PhaseTransition} {task : Task} {run : Run}

section

variable (h : Advance fingerprint s s' trigger finish minted row row' t task run)
include h

/-- An edge changes neither the identities nor the working directory of the attempt. -/
theorem Advance.same : row'.requestId = row.requestId ∧ row'.record.taskId = row.record.taskId ∧
      row'.record.runId = row.record.runId ∧ row'.record.resourceKey = row.record.resourceKey := by
  obtain ⟨timestamp, hrecord⟩ := h.record
  simp [requestId, hrecord, nextRecord]

theorem Advance.phase : row'.record.phase = t.target := by
  obtain ⟨timestamp, hrecord⟩ := h.record
  rw [hrecord]
  rfl

/-- The row that is advanced is in the table before the edge, and its next version after it. -/
theorem Advance.mem : row ∈ s.dispatches := mem_of_lookup h.loads.found

theorem Advance.lookup_self :
    lookup requestId s'.dispatches row.requestId = some row' := by
  have hfound := h.loads.found
  rw [← h.same.1] at hfound ⊢
  rw [h.dispatches]
  exact lookup_put_self hfound

theorem Advance.lookup_of_ne {id : Uuid} (hid : id ≠ row.requestId) :
    lookup requestId s'.dispatches id =
      lookup requestId s.dispatches id := by
  rw [h.dispatches]
  exact lookup_put_of_ne (by rwa [h.same.1])

end

/-- The code recorded after an edge out of a phase without one. -/
theorem Advance.errorCode (hinv : DispatchInv fingerprint s)
    (h : Advance fingerprint s s' trigger finish minted row row' t task run)
    (hphase : row.record.phase.Active) :
    row'.record.errorCode = (finish.bind fun f => f.decision.errorCode).or t.errorCode := by
  obtain ⟨timestamp, hrecord⟩ := h.record
  rw [hrecord]
  simp [nextRecord, hinv.code row h.mem hphase]

section

variable (hinv : DispatchInv fingerprint s) (hreport : ReportValid trigger finish)
  (h : Advance fingerprint s s' trigger finish minted row row' t task run)
include hinv hreport h

/-- The evidence of a completion is what the report was checked for. -/
theorem Advance.evidence (hcompleted : row'.record.phase = .completed) :
    row'.record.outcome = some .completed ∧ row'.record.capture.isSome ∧
      row'.record.process.any (isCleanCompletion row'.record.errorCode) := by
  rw [h.phase] at hcompleted
  obtain ⟨hrunning, rfl⟩ := h.edge.of_completed hcompleted
  cases finish with
  | none => exact absurd rfl (hreport .completed)
  | some f =>
    have houtcome : f.decision.outcome = .completed := (DispatchTrigger.finish.inj hreport.1).symm
    have hclean := clean_of_validateFinish hreport.2 houtcome
    have hnone : f.decision.errorCode = none := by
      simp only [isCleanCompletion, and_eq_true, isNone_iff_eq_none] at hclean
      exact hclean.1.1
    have hcode : row'.record.errorCode = none := by
      rw [h.errorCode hinv (.inr (.inl hrunning)), bind_some, hnone, none_or]
      exact h.edge.of_finish.2.2.1
    rw [hcode]
    rw [hnone] at hclean
    obtain ⟨timestamp, hrecord⟩ := h.record
    rw [hrecord]
    simp [nextRecord, houtcome, hclean]

/-- The next version of the row loads in the state after the edge. -/
theorem Advance.loads' :
    Loads fingerprint s' row' { task with status := t.taskStatus.getD task.status }
      { run with status := t.runStatus.getD run.status } := by
  have hevidence := h.evidence hinv hreport
  have hfound := h.lookup_self
  rw [← h.same.1] at hfound
  have htask := h.task
  have hrun := h.run
  rw [← h.same.2.1] at htask
  rw [← h.same.2.2.1] at hrun
  obtain ⟨timestamp, hrecord⟩ := h.record
  refine ⟨hfound, ?_, ?_, htask, hrun, ?_, ?_, hevidence⟩
  · rw [hrecord]
    exact h.loads.schema
  · rw [hrecord]
    exact h.loads.fingerprint
  · rw [hrecord]
    exact h.loads.project
  · rw [h.phase]
    exact (h.edge.statuses h.loads.statuses).1

end

/-- The rows after an edge. -/
theorem Advance.mem_dispatches
    (h : Advance fingerprint s s' trigger finish minted row row' t task run)
    (hother : other ∈ s'.dispatches) :
    other = row' ∨ (other ∈ s.dispatches ∧ other.requestId ≠ row'.requestId) := by
  rw [h.dispatches] at hother
  exact mem_put hother

theorem RowsInv.advance (hinv : RowsInv s)
    (h : Advance fingerprint s s' trigger finish minted row row' t task run) : RowsInv s' := by
  have hallowed := rowAllowed_iff.1 h.allowed
  constructor
  · rw [h.dispatches]
    exact hinv.unique.put row'
  · intro a ha b hb hne
    rcases h.mem_dispatches ha with rfl | ⟨ha, ha'⟩ <;>
      rcases h.mem_dispatches hb with rfl | ⟨hb, hb'⟩
    · exact absurd rfl hne
    · exact hallowed.2 b hb hb'
    · rw [compatible_comm]
      exact hallowed.2 a ha ha'
    · exact hinv.compatible a ha b hb hne

theorem DispatchInv.advance (hinv : DispatchInv fingerprint s) (hreport : ReportValid trigger finish)
    (h : Advance fingerprint s s' trigger finish minted row row' t task run) :
    DispatchInv fingerprint s' := by
  obtain ⟨hid, htaskId, hrunId, -⟩ := h.same
  have hmem : ∀ other ∈ s'.dispatches, other = row' ∨
      (other ∈ s.dispatches ∧ other.requestId ≠ row'.requestId) := fun _ hother =>
    h.mem_dispatches hother
  constructor
  · exact hinv.toRowsInv.advance h
  · intro a ha
    rcases hmem a ha with rfl | ⟨ha, -⟩
    · exact (rowAllowed_iff.1 h.allowed).1
    · exact hinv.fence a ha
  · intro a ha
    rcases hmem a ha with rfl | ⟨ha, -⟩
    · have hold := hinv.version row h.mem
      have hrank := h.edge.rank_lt
      rw [h.phase]
      obtain ⟨timestamp, hrecord⟩ := h.record
      have hversion : a.record.version = row.record.version + 1 := by rw [hrecord]; rfl
      omega
    · exact hinv.version a ha
  · intro a ha hphase
    rcases hmem a ha with rfl | ⟨ha, -⟩
    · rw [h.phase] at hphase
      have hlive : t.target = .running ∨ t.target = .cancelRequested :=
        hphase.resolve_left h.edge.ne_admitted
      obtain ⟨hcode, hnofinish⟩ := h.edge.errorCode_of_live hlive
      have hnone : finish = none := by
        cases finish with
        | none => rfl
        | some f => exact absurd hreport.1 (hnofinish _)
      have hsource : row.record.phase.Active := by
        rcases h.edge.fence_of_live hlive with ⟨rfl, -⟩ | ⟨-, hrunning, -⟩
        · exact .inl h.edge.running_of_claim.1
        · exact .inr (.inl hrunning)
      rw [h.errorCode hinv hsource, hnone, hcode]
      rfl
    · exact hinv.code a ha hphase
  · intro a ha
    rcases hmem a ha with rfl | ⟨ha, hne⟩
    · exact ⟨_, _, h.loads' hinv hreport⟩
    · obtain ⟨task', run', hloads⟩ := hinv.loads a ha
      have hne' : a.requestId ≠ row.requestId := by rwa [hid] at hne
      obtain ⟨htaskNe, hrunNe⟩ := compatible_ids (hinv.compatible a ha row h.mem hne')
      exact ⟨task', run', hloads.congr ((h.lookup_of_ne hne').trans hloads.found)
        (h.task_ne _ htaskNe) (h.run_ne _ hrunNe)⟩

end Advance

end HarnessStore

end Vibemux
