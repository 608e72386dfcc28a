import Vibemux.Harness.Attempt

/-!
# Edges of the attempt machine

`Edge` lists the transitions that change an attempt, and `applyTrigger_eq_changed` says that the table
has these and no others. Every fact about the machine below is a case analysis over the edges.
-/

namespace Vibemux

/-- A transition that changes the attempt. -/
inductive Edge : DispatchPhase → DispatchTrigger → PhaseTransition → Prop
  | claim : Edge .admitted .claim
      ⟨.admitted, .running, none, some .running, none, .mint, false, none⟩
  | cancelAdmitted : Edge .admitted .cancel
      ⟨.admitted, .cancelled, some .cancelled, some .failed, none, .keep, true, none⟩
  | recoverAdmitted : Edge .admitted .recover
      ⟨.admitted, .failed, some .blocked, some .failed, none, .keep, true, some .interrupted⟩
  | complete : Edge .running (.finish .completed)
      ⟨.running, .completed, some .done, some .succeeded, some .structuredAdapter, .require, true,
        none⟩
  | fail : Edge .running (.finish .failed)
      ⟨.running, .failed, some .blocked, some .failed, none, .require, true, none⟩
  | unverified : Edge .running (.finish .unverified)
      ⟨.running, .unverified, some .blocked, some .failed, none, .require, true, none⟩
  | finishCancelled : Edge .running (.finish .cancelled)
      ⟨.running, .cancelled, some .cancelled, some .stopped, none, .require, true, none⟩
  | cancelRunning : Edge .running .cancel
      ⟨.running, .cancelRequested, none, none, none, .keep, false, none⟩
  | finishLate {outcome : AttemptOutcome} (h : outcome ≠ .probed) :
      Edge .cancelRequested (.finish outcome)
        ⟨.cancelRequested, .cancelled, some .cancelled, some .stopped, none, .require, true, none⟩
  | recoverRunning : Edge .running .recover
      ⟨.running, .recoveryPending, some .blocked, some .stale, none, .clear, false,
        some .interrupted⟩
  | recoverCancelRequested : Edge .cancelRequested .recover
      ⟨.cancelRequested, .recoveryPending, some .blocked, some .stale, none, .clear, false,
        some .interrupted⟩
  | cancelPending : Edge .recoveryPending .cancel
      ⟨.recoveryPending, .cancelled, some .cancelled, some .stopped, none, .keep, true, none⟩

theorem applyTrigger_eq_changed {phase : DispatchPhase} {trigger : DispatchTrigger}
    {t : PhaseTransition} :
    applyTrigger phase trigger = .ok (.changed t) ↔ Edge phase trigger t := by
  constructor
  · intro h
    rcases trigger with _ | outcome | _ | _
    all_goals first | (rcases outcome) | skip
    all_goals
      cases phase <;>
        first
        | (cases h; done)
        | (cases h; constructor; done)
        | (cases h; exact .finishLate (by decide))
  · intro h
    cases h with
    | @finishLate outcome hne => cases outcome <;> first | rfl | exact absurd rfl hne
    | _ => rfl

/-- How far an attempt is: every edge moves it on, so no attempt changes more than five times. -/
def DispatchPhase.rank : DispatchPhase → Nat
  | .admitted => 1
  | .running => 2
  | .cancelRequested => 3
  | .recoveryPending => 4
  | .completed | .failed | .unverified | .cancelled => 5

/-- The phases from which recovery moves an attempt. -/
def DispatchPhase.Active (phase : DispatchPhase) : Prop :=
  phase = .admitted ∨ phase = .running ∨ phase = .cancelRequested

namespace Edge

variable {phase : DispatchPhase} {trigger : DispatchTrigger} {t : PhaseTransition}

section

variable (h : Edge phase trigger t)
include h

theorem not_terminal : phase.isTerminal = false := by
  cases h <;> rfl

theorem rank_lt : phase.rank < t.target.rank := by
  cases h <;> decide

theorem ne_admitted : t.target ≠ .admitted := by
  cases h <;> decide

/-- The statuses of the source phase become statuses the target phase allows, along edges that tasks
and runs have, and with the authority a success needs. -/
theorem statuses {task : TaskStatus} {run : RunStatus} (hold : (task, run) ∈ phase.allowedStatuses) :
    (t.taskStatus.getD task, t.runStatus.getD run) ∈ t.target.allowedStatuses ∧
      (∀ status, t.taskStatus = some status → task.canTransitionTo status) ∧
      ∀ status, t.runStatus = some status → run.canTransitionTo status ∧
        (status = .succeeded → t.completionAuthority.isSome) := by
  cases h
  all_goals
    simp only [DispatchPhase.allowedStatuses, List.mem_singleton, Prod.mk.injEq] at hold
    obtain ⟨rfl, rfl⟩ := hold
    simp [DispatchPhase.allowedStatuses, TaskStatus.canTransitionTo, RunStatus.canTransitionTo]

end

theorem running_of_claim (h : Edge phase .claim t) :
    phase = .admitted ∧ t.target = .running ∧ t.fence = .mint := by
  cases h
  exact ⟨rfl, rfl, rfl⟩

/-- A finish needs the fence, and ends the attempt. -/
theorem of_finish {outcome : AttemptOutcome} (h : Edge phase (.finish outcome) t) :
    (phase = .running ∨ phase = .cancelRequested) ∧ t.fence = .require ∧ t.errorCode = none ∧
      t.target.isTerminal = true := by
  cases h <;> simp [DispatchPhase.isTerminal]

/-- Completion is the edge of a finish that reports it, out of the running phase. -/
theorem of_completed (h : Edge phase trigger t) (ht : t.target = .completed) :
    phase = .running ∧ trigger = .finish .completed := by
  cases h <;> first | exact ⟨rfl, rfl⟩ | exact absurd ht (by decide)

theorem completed_of_succeeded (h : Edge phase trigger t) (hr : t.runStatus = some .succeeded) :
    t.target = .completed := by
  cases h <;> first | rfl | exact absurd hr (by decide)

/-- A cancellation leaves the phases that are still free of one. -/
theorem of_cancel (h : Edge phase .cancel t) : t.target ≠ .admitted ∧ t.target ≠ .running := by
  cases h <;> decide

/-- Recovery moves an attempt out of the phases in which an executor may still finish it. -/
theorem of_recover (h : Edge phase .recover t) : ¬ t.target.Active := by
  cases h <;> simp [DispatchPhase.Active]

section

variable (h : Edge phase trigger t) (ht : t.target = .running ∨ t.target = .cancelRequested)
include h ht

/-- The phases in which an executor may finish the attempt keep the fence that the claim minted. -/
theorem fence_of_live : (trigger = .claim ∧ t.fence = .mint) ∨
      (trigger = .cancel ∧ phase = .running ∧ t.fence = .keep) := by
  cases h <;> simp at ht ⊢

/-- No code is recorded before recovery or a finish. -/
theorem errorCode_of_live : t.errorCode = none ∧ ∀ outcome, trigger ≠ .finish outcome := by
  cases h <;> simp at ht ⊢

end

/-- An attempt in these phases is changed by recovery. -/
theorem exists_recover (h : phase.Active) :
    ∃ t, Edge phase .recover t := by
  rcases h with rfl | rfl | rfl
  · exact ⟨_, .recoverAdmitted⟩
  · exact ⟨_, .recoverRunning⟩
  · exact ⟨_, .recoverCancelRequested⟩

end Edge

end Vibemux
