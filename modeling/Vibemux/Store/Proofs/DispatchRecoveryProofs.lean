import Vibemux.Store.Proofs.DispatchInvariantProofs

/-!
# Recovery, and the effect of each operation

Recovery is a loop of edges of the attempt machine; under the invariant it has no row to quarantine.
`Effect` then says for every operation what it can have done.
-/

namespace Vibemux

open Checked List Option Table Text

variable {error : StoreError} {minted requestId : Uuid} {recovery : HarnessDispatchRecovery}
  {row row' : DispatchRow}

theorem byteLen_hexDigits (count n : Nat) : byteLen (hexDigits count n) = count := by
  induction count generalizing n with
  | zero => rfl
  | succ count ih =>
    have hdigit : ∀ d < 16, (Nat.digitChar d).utf8Size = 1 := by decide
    have hlast := hdigit (n % 16) (Nat.mod_lt _ (by decide))
    simp [hexDigits, ih, hlast]

theorem byteLen_hyphenated (id : Uuid) : byteLen id.hyphenated = 36 := by
  have hdash : ('-' : Char).utf8Size = 1 := by decide
  unfold Uuid.hyphenated
  simp only [byteLen_append, byteLen_cons, byteLen_hexDigits, hdash]

theorem byteLen_dispatchKey (requestId : Uuid) (suffix : String) :
    byteLen (dispatchKey requestId suffix) = 54 + byteLen suffix.toList := by
  have hhead : byteLen "harness_dispatch:".toList = 17 := by decide
  have hcolon : (':' : Char).utf8Size = 1 := by decide
  unfold dispatchKey
  rw [byteLen_append, byteLen_append, byteLen_cons, byteLen_hyphenated, hhead, hcolon]
  omega

namespace HarnessStore

variable {fingerprint : DispatchFingerprint} {s s' : HarnessStore} {timestamp : Timestamp}
  {t : PhaseTransition} {trigger : DispatchTrigger} {task : Task} {run : Run}

theorem recoverOne_eq_ok {commit : HarnessDispatchCommit}
    (h : s.recoverOne fingerprint requestId timestamp = .ok (commit, s')) :
    ∃ row task run, row.requestId = requestId ∧ Loads fingerprint s row task run ∧
      ((¬ row.record.phase.Active ∧ s' = s) ∨
        ∃ row' t, Advance fingerprint s s' .recover none Uuid.nil row row' t task run) := by
  simp only [recoverOne, eq_ok] at h
  obtain ⟨_, hload, _, _, _, hcommit, rfl, rfl⟩ := h
  obtain ⟨row, task, run, hid, hloads, rfl⟩ := loadExisting_eq_ok.1 hload
  refine ⟨row, task, run, hid, hloads, ?_⟩
  rcases commitTransition_eq_ok hloads hcommit with ⟨hsame, -, -, hs⟩ | ⟨row', t, hadvance, -, -, -⟩
  · left
    refine ⟨?_, hs⟩
    intro hactive
    obtain ⟨t, hedge⟩ := Edge.exists_recover hactive
    rw [applyTrigger_eq_changed.2 hedge] at hsame
    cases hsame
  · exact .inr ⟨row', t, hadvance⟩

/-- The key of a recovery event is one the log accepts, unless it is used. -/
theorem insertEvent_recovered_error {events : List Event}
    (h : insertEvent events (dispatchKey requestId "recovered") = .error error) :
    error = .database := by
  have hlen : byteLen (dispatchKey requestId "recovered") = 63 := by
    rw [byteLen_dispatchKey]
    decide
  have hvalid : dispatchKey requestId "recovered" ≠ [] ∧
      byteLen (dispatchKey requestId "recovered") ≤ maxIdempotencyKeyBytes := by
    refine ⟨fun hnil => ?_, by rw [hlen]; decide⟩
    rw [hnil] at hlen
    cases hlen
  simp only [insertEvent, bind_eq_error, ensure_eq_error, ensure_eq_ok, exists_unit] at h
  rcases h with ⟨hinvalid, -⟩ | ⟨-, ⟨-, rfl⟩ | ⟨-, h⟩⟩
  · exact absurd hvalid hinvalid
  · rfl
  · cases h

section

variable {phase : DispatchPhase} (hedge : Edge phase trigger t)
  (hstatuses : (task.status, run.status) ∈ phase.allowedStatuses)
include hedge hstatuses

theorem nextTask_of_edge : ∃ task', nextTask task t = .ok task' := by
  unfold nextTask
  cases hstatus : t.taskStatus with
  | none => exact ⟨_, rfl⟩
  | some status =>
    have hmove := (hedge.statuses hstatuses).2.1 status hstatus
    exact ⟨_, mapError_eq_ok.2 (Task.transitioned_eq_ok.2 ⟨hmove, rfl⟩)⟩

theorem nextRun_of_edge : ∃ run', nextRun run t = .ok run' := by
  unfold nextRun
  cases hstatus : t.runStatus with
  | none => exact ⟨_, rfl⟩
  | some status =>
    obtain ⟨hmove, hauthority⟩ := (hedge.statuses hstatuses).2.2 status hstatus
    exact ⟨_, mapError_eq_ok.2 (Run.transitioned_eq_ok.2 ⟨hmove, hauthority, rfl⟩)⟩

end

/-- Recovery of an active attempt fails only with an error that aborts the whole recovery. -/
theorem recoverOne_error (hinv : DispatchInv fingerprint s) (hrow : row ∈ s.dispatches)
    (hactive : row.record.phase.Active)
    (h : s.recoverOne fingerprint row.requestId timestamp = .error error) :
    error = .database := by
  obtain ⟨task, run, hloads⟩ := hinv.loads row hrow
  have hload := loadExisting_eq_ok.2 ⟨row, task, run, rfl, hloads, rfl⟩
  obtain ⟨t, hedge⟩ := Edge.exists_recover hactive
  have hfence : ∃ fence, nextFence t.fence row.claimFence none Uuid.nil = .ok fence := by
    generalize row.record.phase = phase at hedge
    cases hedge <;> exact ⟨_, rfl⟩
  obtain ⟨fence, hfence⟩ := hfence
  obtain ⟨task', htask⟩ := nextTask_of_edge hedge hloads.statuses
  obtain ⟨run', hrun⟩ := nextRun_of_edge hedge hloads.statuses
  have hversion : row.record.version < u64Max := by
    have hle := hinv.version row hrow
    have hrank := hedge.rank_lt
    have hfive : t.target.rank ≤ 5 := by cases t.target <;> decide
    have hmax : 5 < u64Max := by decide
    omega
  have hcas : ((lookup DispatchRow.requestId s.dispatches row.record.requestId).any fun r =>
      r.record.version == row.record.version) = true := by
    have hfound : lookup DispatchRow.requestId s.dispatches row.record.requestId = some row :=
      hloads.found
    simp [hfound]
  -- What is left to fail are the constraints of the schema: a used key or the checks of the row.
  have hstep : s.commitTransition ⟨row.record, row.claimFence, row.updatedSequence, task, run⟩
      .recover none Uuid.nil timestamp = .error error := by
    simp only [recoverOne, bind_eq_error, hload, reduceCtorEq, false_or, Except.ok.injEq,
      exists_eq_left'] at h
    rcases h with h | ⟨_, -, h⟩
    · exact h
    · cases h
  have happly := applyTrigger_eq_changed.2 hedge
  simp only [commitTransition, happly, commitChanged, bind_eq_error, hfence, htask, hrun,
    reduceCtorEq, false_or, Except.ok.injEq, exists_eq_left', ensure_eq_error, ensure_eq_ok,
    exists_unit, hversion, not_true_eq_false, false_and, true_and] at hstep
  rcases hstep with h | ⟨_, -, ⟨hfail, -⟩ | ⟨-, ⟨-, rfl⟩ | ⟨-, h⟩⟩⟩
  · exact insertEvent_recovered_error h
  · exact absurd hcas hfail
  · rfl
  · cases h

/-- The run is stored as succeeded. -/
def Succeeded (s : HarnessStore) (runId : Uuid) : Prop :=
  ∃ run, Table.lookup Run.runId s.runs runId = some run ∧ run.status = .succeeded

/-- What a recovery can have done to the rows and to the runs. -/
structure Recovered (s s' : HarnessStore) : Prop where
  rows : ∀ id, Table.lookup DispatchRow.requestId s'.dispatches id =
      Table.lookup DispatchRow.requestId s.dispatches id ∨
    ∃ row row' t, Table.lookup DispatchRow.requestId s.dispatches id = some row ∧
      Table.lookup DispatchRow.requestId s'.dispatches id = some row' ∧
      Edge row.record.phase .recover t ∧ row'.record.phase = t.target
  succeeded : ∀ runId, Succeeded s' runId → Succeeded s runId

theorem Recovered.refl (s : HarnessStore) : Recovered s s := ⟨fun _ => .inl rfl, fun _ h => h⟩

theorem Recovered.trans {s₁ s₂ s₃ : HarnessStore} (h₁ : Recovered s₁ s₂) (h₂ : Recovered s₂ s₃) :
    Recovered s₁ s₃ := by
  refine ⟨fun id => ?_, fun runId h => h₁.succeeded runId (h₂.succeeded runId h)⟩
  rcases h₁.rows id with hsame | ⟨row, row', t, hrow, hrow', hedge, hphase⟩
  · rw [← hsame]
    exact h₂.rows id
  · rcases h₂.rows id with hsame | ⟨row₂, _, _, hrow₂, -, hedge₂, -⟩
    · exact .inr ⟨row, row', t, hrow, hsame.trans hrow', hedge, hphase⟩
    · -- A recovered attempt has no further recovery edge.
      exfalso
      obtain rfl : row' = row₂ := some.inj (hrow'.symm.trans hrow₂)
      rw [hphase] at hedge₂
      generalize row.record.phase = phase at hedge
      cases hedge <;> cases hedge₂

/-- An edge makes a run succeed only by completing its attempt. -/
theorem Advance.succeeded {finish : Option HarnessDispatchFinish}
    (h : Advance fingerprint s s' trigger finish minted row row' t task run) {runId : Uuid}
    (hs : Succeeded s' runId) :
    Succeeded s runId ∨ (runId = row.record.runId ∧ t.target = .completed) := by
  obtain ⟨run', hrun', hstatus⟩ := hs
  by_cases hid : runId = row.record.runId
  · subst hid
    rw [h.run, some.injEq] at hrun'
    subst hrun'
    cases ht : t.runStatus with
    | none =>
      left
      refine ⟨run, h.loads.runFound, ?_⟩
      simpa [ht] using hstatus
    | some status =>
      right
      refine ⟨rfl, h.edge.completed_of_succeeded ?_⟩
      rw [ht]
      simpa [ht] using hstatus
  · left
    rw [h.run_ne runId hid] at hrun'
    exact ⟨run', hrun', hstatus⟩

theorem Advance.recovered (h : Advance fingerprint s s' .recover none minted row row' t task run) :
    Recovered s s' := by
  refine ⟨fun id => ?_, fun runId hs => ?_⟩
  · by_cases hid : id = row.requestId
    · subst hid
      exact .inr ⟨row, row', t, h.loads.found, h.lookup_self, h.edge, h.phase⟩
    · exact .inl (h.lookup_of_ne hid)
  · rcases h.succeeded hs with hold | ⟨-, hcompleted⟩
    · exact hold
    · exact absurd (h.edge.of_completed hcompleted).2 (by simp)

/-- An attempt that is not active stays so through a recovery. -/
theorem Recovered.not_active (h : Recovered s s') {id : Uuid}
    (hold : ∀ row, lookup DispatchRow.requestId s.dispatches id = some row → ¬ row.record.phase.Active)
    (hrow : lookup DispatchRow.requestId s'.dispatches id = some row) :
    ¬ row.record.phase.Active := by
  rcases h.rows id with hsame | ⟨_, row', _, -, hrow', hedge, hphase⟩
  · exact hold row (hsame ▸ hrow)
  · obtain rfl : row' = row := some.inj (hrow'.symm.trans hrow)
    rw [hphase]
    exact hedge.of_recover

/-- The loop over the remaining requests, by induction over them: the invariant holds after each
round, and a request that was visited is no longer active. -/
theorem recoverLoop_spec {ids : List Uuid} {recovery' : HarnessDispatchRecovery}
    (hinv : DispatchInv fingerprint s)
    (h : recoverLoop fingerprint timestamp ids recovery s = .ok (recovery', s')) :
    DispatchInv fingerprint s' ∧ Recovered s s' ∧
      ∀ id ∈ ids, ∀ row, lookup DispatchRow.requestId s'.dispatches id = some row →
        ¬ row.record.phase.Active := by
  induction ids generalizing s recovery with
  | nil =>
    simp only [recoverLoop, Except.ok.injEq, Prod.mk.injEq] at h
    obtain ⟨-, rfl⟩ := h
    exact ⟨hinv, .refl _, by simp⟩
  | cons id rest ih =>
    rw [recoverLoop] at h
    cases hone : s.recoverOne fingerprint id timestamp with
    | ok result =>
      obtain ⟨commit, s₁⟩ := result
      simp only [hone] at h
      obtain ⟨row, _, _, rfl, hloads, hround⟩ := recoverOne_eq_ok hone
      have hround' : DispatchInv fingerprint s₁ ∧ Recovered s s₁ ∧
          ∀ r, lookup DispatchRow.requestId s₁.dispatches row.requestId = some r →
            ¬ r.record.phase.Active := by
        rcases hround with ⟨hactive, rfl⟩ | ⟨row', _, hadvance⟩
        · refine ⟨hinv, .refl _, fun r hr => ?_⟩
          obtain rfl : row = r := some.inj (hloads.found.symm.trans hr)
          exact hactive
        · refine ⟨hinv.advance (.none (by simp)) hadvance, hadvance.recovered, fun r hr => ?_⟩
          obtain rfl : row' = r := some.inj (hadvance.lookup_self.symm.trans hr)
          rw [hadvance.phase]
          exact hadvance.edge.of_recover
      obtain ⟨hinv₁, hrec₁, hdone⟩ := hround'
      obtain ⟨hinv', hrec', hrest⟩ := ih hinv₁ h
      refine ⟨hinv', hrec₁.trans hrec', fun id hid r hr => ?_⟩
      rcases mem_cons.1 hid with rfl | hid
      · exact hrec'.not_active hdone hr
      · exact hrest id hid r hr
    | error error =>
      simp only [hone] at h
      by_cases hdefect : error.isRowDefect = true
      · rw [if_pos hdefect] at h
        obtain ⟨hinv', hrec', hrest⟩ := ih hinv h
        refine ⟨hinv', hrec', fun id' hid r hr => ?_⟩
        rcases mem_cons.1 hid with rfl | hid
        · refine hrec'.not_active (fun r₀ hr₀ hactive => ?_) hr
          -- An active row has no defect.
          obtain rfl : r₀.requestId = id' := key_of_lookup hr₀
          rw [recoverOne_error hinv (mem_of_lookup hr₀) hactive hone] at hdefect
          cases hdefect
        · exact hrest id' hid r hr
      · rw [if_neg hdefect] at h
        cases h

theorem recoverHarnessDispatches_spec (hinv : DispatchInv fingerprint s)
    (h : s.recoverHarnessDispatches fingerprint timestamp = .ok (recovery, s')) :
    DispatchInv fingerprint s' ∧ Recovered s s' ∧
      ∀ row ∈ s'.dispatches, ¬ row.record.phase.Active := by
  obtain ⟨hinv', hrec, hdone⟩ := recoverLoop_spec hinv h
  refine ⟨hinv', hrec, fun row hrow => ?_⟩
  have hfound := hinv'.unique.lookup_eq hrow
  by_cases hid : row.requestId ∈ s.activeRequestIds
  · exact hdone _ hid row hfound
  · -- A row that was not listed was not active before.
    refine hrec.not_active (fun r hr hactive => hid ?_) hfound
    refine mem_map.2 ⟨r, mem_filter.2 ⟨mem_of_lookup hr, ?_⟩, key_of_lookup hr⟩
    rcases hactive with h | h | h <;> simp [h]

end HarnessStore

end Vibemux
