import Vibemux.Store.Proofs.DispatchRecoveryProofs

/-!
# What the rest of the store relies on

A dispatch keeps its row, its run, its harness and its working directory, and a row in a terminal phase
never changes, whatever the projections say.
-/

namespace Vibemux.HarnessStore

open Checked

variable {fingerprint : DispatchFingerprint} {s s' : HarnessStore}
  {finish : Option HarnessDispatchFinish} {admission : HarnessDispatchAdmission}
  {commit : HarnessDispatchCommit} {minted runId taskId : Uuid} {row : DispatchRow}
  {timestamp : Timestamp} {trigger : DispatchTrigger}

/-- The parts of a row that no operation changes. -/
structure SameAttempt (row row' : DispatchRow) : Prop where
  requestId : row'.requestId = row.requestId
  runId : row'.record.runId = row.record.runId
  harness : row'.record.harness = row.record.harness
  resourceKey : row'.record.resourceKey = row.record.resourceKey
  terminal : row.record.phase.isTerminal = true → row' = row

theorem SameAttempt.refl (row : DispatchRow) : SameAttempt row row :=
  ⟨rfl, rfl, rfl, rfl, fun _ => rfl⟩

theorem SameAttempt.trans {row₁ row₂ row₃ : DispatchRow} (h₁ : SameAttempt row₁ row₂)
    (h₂ : SameAttempt row₂ row₃) : SameAttempt row₁ row₃ := by
  refine ⟨h₂.requestId.trans h₁.requestId, h₂.runId.trans h₁.runId, h₂.harness.trans h₁.harness,
    h₂.resourceKey.trans h₁.resourceKey, fun hterminal => ?_⟩
  have hsame := h₁.terminal hterminal
  subst hsame
  exact h₂.terminal hterminal

/-- What a dispatch operation can have done to the rows. -/
structure Progress (s s' : HarnessStore) : Prop where
  rowsInv : RowsInv s → RowsInv s'
  kept : ∀ id row, Table.lookup DispatchRow.requestId s.dispatches id = some row →
    ∃ row', Table.lookup DispatchRow.requestId s'.dispatches id = some row' ∧ SameAttempt row row'

theorem Progress.of_eq (h : s'.dispatches = s.dispatches) : Progress s s' := by
  refine ⟨fun hinv => ?_, fun id row hrow => ⟨row, h ▸ hrow, .refl row⟩⟩
  exact ⟨by rw [h]; exact hinv.unique, by rw [h]; exact hinv.compatible⟩

theorem Progress.trans {s₁ s₂ s₃ : HarnessStore} (h₁ : Progress s₁ s₂) (h₂ : Progress s₂ s₃) :
    Progress s₁ s₃ := by
  refine ⟨fun hinv => h₂.rowsInv (h₁.rowsInv hinv), fun id row hrow => ?_⟩
  obtain ⟨row₂, hrow₂, hsame₂⟩ := h₁.kept id row hrow
  obtain ⟨row₃, hrow₃, hsame₃⟩ := h₂.kept id row₂ hrow₂
  exact ⟨row₃, hrow₃, hsame₂.trans hsame₃⟩

theorem Admit.progress (h : Admit fingerprint s s' admission taskId runId row) : Progress s s' := by
  refine ⟨fun hinv => hinv.admitted h, fun id other hother => ⟨other, ?_, .refl other⟩⟩
  rw [h.dispatches]
  exact Table.lookup_append_of_isSome hother _

theorem Advance.progress {row' : DispatchRow} {t : PhaseTransition} {task : Task} {run : Run}
    (h : Advance fingerprint s s' trigger finish minted row row' t task run) : Progress s s' := by
  refine ⟨fun hinv => hinv.advance h, fun id other hother => ?_⟩
  by_cases hid : id = row.requestId
  · subst hid
    obtain rfl : row = other := Option.some.inj (h.loads.found.symm.trans hother)
    refine ⟨row', h.lookup_self, h.same.1, h.same.2.2.1, ?_, h.same.2.2.2, fun hterminal => ?_⟩
    · obtain ⟨timestamp, hrecord⟩ := h.record
      rw [hrecord]
      rfl
    · rw [h.edge.not_terminal] at hterminal
      cases hterminal
  · exact ⟨other, (h.lookup_of_ne hid).trans hother, .refl other⟩

theorem admitDispatchIn_progress
    (h : s.admitDispatchIn fingerprint admission taskId runId = .ok (commit, s')) :
    Progress s s' := by
  rcases admitDispatchIn_eq_ok h with ⟨_, _, _, -, -, -, rfl⟩ | ⟨_, hadmit, -, -⟩
  · exact .of_eq rfl
  · exact hadmit.progress

theorem commitTransition_progress {requestId : Uuid} {stored : StoredDispatch} {fence : Option Uuid}
    (hload : s.loadExisting fingerprint requestId = .ok stored)
    (h : s.commitTransition stored trigger finish minted timestamp = .ok ((commit, fence), s')) :
    Progress s s' := by
  obtain ⟨_, _, _, -, hloads, rfl⟩ := loadExisting_eq_ok.1 hload
  rcases commitTransition_eq_ok hloads h with ⟨-, -, -, rfl⟩ | ⟨row', t, hadvance, -, -, -⟩
  · exact .of_eq rfl
  · exact hadvance.progress

theorem recoverLoop_progress {ids : List Uuid} {recovery recovery' : HarnessDispatchRecovery}
    (h : recoverLoop fingerprint timestamp ids recovery s = .ok (recovery', s')) :
    Progress s s' := by
  induction ids generalizing s recovery with
  | nil =>
    simp only [recoverLoop, Except.ok.injEq, Prod.mk.injEq] at h
    obtain ⟨-, rfl⟩ := h
    exact .of_eq rfl
  | cons id rest ih =>
    rw [recoverLoop] at h
    cases hone : s.recoverOne fingerprint id timestamp with
    | ok result =>
      obtain ⟨commit, s₁⟩ := result
      simp only [hone] at h
      obtain ⟨row, task, run, -, -, hround⟩ := recoverOne_eq_ok hone
      have hround' : Progress s s₁ := by
        rcases hround with ⟨-, rfl⟩ | ⟨row', t, hadvance⟩
        · exact .of_eq rfl
        · exact hadvance.progress
      exact hround'.trans (ih h)
    | error error =>
      simp only [hone] at h
      by_cases hdefect : error.isRowDefect = true
      · rw [if_pos hdefect] at h
        exact ih h
      · rw [if_neg hdefect] at h
        cases h

/-- One operation of the dispatch table. -/
theorem dispatchStep_progress {op : DispatchOp} {response : DispatchResponse}
    (h : s.dispatchStep fingerprint op = .ok (response, s')) : Progress s s' := by
  cases op <;>
    simp only [dispatchStep, admitHarnessDispatch, claimHarnessDispatch, finishHarnessDispatch,
      cancelHarnessDispatch, recoverHarnessDispatches, eq_ok] at h
  case admission admission taskId runId =>
    obtain ⟨commit, _, hadmit, -, rfl⟩ := h
    exact admitDispatchIn_progress hadmit
  case claim requestId minted timestamp =>
    obtain ⟨_, _, _, ⟨stored, hload, _, _, _, hcommit, -, _, -, -, rfl⟩, -, rfl⟩ := h
    exact commitTransition_progress hload hcommit
  case finish report =>
    obtain ⟨_, _, ⟨-, stored, hload, h⟩, -, rfl⟩ := h
    by_cases hrepeat : stored.record.phase.isTerminal = true ∧ stored.fence = some report.fence
    · simp only [if_pos hrepeat, eq_ok] at h
      obtain ⟨-, -, rfl⟩ := h
      exact .of_eq rfl
    · simp only [if_neg hrepeat, eq_ok] at h
      obtain ⟨_, _, _, hcommit, -, rfl⟩ := h
      exact commitTransition_progress hload hcommit
  case cancel requestId timestamp =>
    obtain ⟨_, _, ⟨_, hload, _, _, _, hcommit, -, rfl⟩, -, rfl⟩ := h
    exact commitTransition_progress hload hcommit
  case recover timestamp =>
    obtain ⟨_, _, hloop, -, rfl⟩ := h
    exact recoverLoop_progress hloop

end Vibemux.HarnessStore
