import Vibemux.Basic

/-!
# Fenced leases

A lease reserves one slot and one worktree for one task under a generation. A missed heartbeat
quarantines it: the reservation holds until the attempt settles or its process is proved gone.
-/

namespace Vibemux

open Checked

/-- The states of a lease. -/
inductive LeaseState where
  | active
  /-- Ownership is uncertain. The reservation holds; no second writer may enter. -/
  | quarantined
  | released
  /-- Ended by the operator or a cancellation after settlement. -/
  | revoked
deriving DecidableEq

namespace LeaseState

def asStr : LeaseState → List Char
  | active => "active".toList
  | quarantined => "quarantined".toList
  | released => "released".toList
  | revoked => "revoked".toList

/-- Whether the slot and the worktree stay reserved. -/
def holdsReservation : LeaseState → Bool
  | active | quarantined => true
  | _ => false

end LeaseState

/-- What moves a lease. -/
inductive LeaseEvent where
  | heartbeat (generation nowMs : Nat)
  | heartbeatMissed (nowMs : Nat)
  /-- The attempt under this generation reached a terminal, fenced state. -/
  | attemptSettled (generation : Nat)
  /-- Reconciliation of a quarantined lease. -/
  | reconciled (generation : Nat) (processGone : Bool)
  | revoke (generation : Nat) (attemptSettled : Bool)
deriving DecidableEq

/-- What a lease refuses. -/
inductive LeaseError where
  | staleGeneration
  | notActive
  | ended
  | heartbeatNotMissed
  | attemptUnsettled
deriving DecidableEq

def LeaseError.code : LeaseError → String
  | staleGeneration => "workflow_lease_stale_generation"
  | notActive => "workflow_lease_not_active"
  | ended => "workflow_lease_ended"
  | heartbeatNotMissed => "workflow_lease_heartbeat_not_missed"
  | attemptUnsettled => "workflow_lease_attempt_unsettled"

/-- A lease, as its machine sees it. -/
structure LeaseView where
  generation : Nat
  state : LeaseState
  heartbeatDeadlineMs : Nat
deriving DecidableEq

namespace LeaseView

/-- `apply`: the next state of a lease, or why the event is refused. `heartbeatMs` is the interval by
which a heartbeat extends the deadline. -/
def apply (lease : LeaseView) (event : LeaseEvent) (heartbeatMs : Nat) :
    Except LeaseError LeaseView := do
  ensure (lease.state.holdsReservation = true) .ended
  match event with
  | .heartbeat generation nowMs =>
    ensure (generation = lease.generation) .staleGeneration
    ensure (lease.state = .active) .notActive
    return { lease with heartbeatDeadlineMs := saturatingAdd nowMs heartbeatMs }
  | .heartbeatMissed nowMs =>
    ensure (lease.heartbeatDeadlineMs < nowMs) .heartbeatNotMissed
    return { lease with state := .quarantined }
  | .attemptSettled generation =>
    ensure (generation = lease.generation) .staleGeneration
    return { lease with state := .released }
  | .reconciled generation processGone =>
    ensure (generation = lease.generation) .staleGeneration
    ensure (lease.state = .quarantined) .notActive
    return { lease with state := if processGone then .released else .quarantined }
  | .revoke generation attemptSettled =>
    ensure (generation = lease.generation) .staleGeneration
    ensure (attemptSettled = true) .attemptUnsettled
    return { lease with state := .revoked }

/-- A completion's generation must be the lease's, and the lease must still hold its reservation. -/
def checkFence (lease : LeaseView) (claimedGeneration : Nat) : Except LeaseError Unit := do
  ensure (lease.state.holdsReservation = true) .ended
  ensure (claimedGeneration = lease.generation) .staleGeneration

/-- What an accepted event does: the lease held its reservation, its generation stays, it leaves
quarantine only to end, and it ends only on an event that says the attempt has settled. -/
theorem apply_eq_ok {lease next : LeaseView} {event : LeaseEvent} {heartbeatMs : Nat}
    (h : lease.apply event heartbeatMs = .ok next) :
    lease.state.holdsReservation = true ∧ next.generation = lease.generation ∧
      (lease.state = .quarantined → next.state ≠ .active) ∧
      (next.state.holdsReservation = false →
        (∃ generation, event = .attemptSettled generation) ∨
        (∃ generation, event = .reconciled generation true) ∨
        (∃ generation, event = .revoke generation true)) := by
  simp only [apply, eq_ok] at h
  obtain ⟨hholds, h⟩ := h
  refine ⟨hholds, ?_⟩
  cases event
  all_goals simp only [eq_ok] at h
  case heartbeat generation nowMs =>
    obtain ⟨-, hactive, rfl⟩ := h
    exact ⟨rfl, fun hq => absurd (hactive.symm.trans hq) (by decide),
      fun hended => absurd (hholds.symm.trans hended) (by decide)⟩
  case heartbeatMissed nowMs =>
    obtain ⟨-, rfl⟩ := h
    exact ⟨rfl, fun _ => by simp, fun hended => nomatch hended⟩
  case attemptSettled generation =>
    obtain ⟨-, rfl⟩ := h
    exact ⟨rfl, fun _ => by simp, fun _ => .inl ⟨generation, rfl⟩⟩
  case reconciled generation processGone =>
    obtain ⟨-, -, rfl⟩ := h
    cases processGone with
    | true => exact ⟨rfl, fun _ => by simp, fun _ => .inr (.inl ⟨generation, rfl⟩)⟩
    | false => exact ⟨rfl, fun _ => by simp, fun hended => nomatch hended⟩
  case revoke generation settled =>
    obtain ⟨-, rfl, rfl⟩ := h
    exact ⟨rfl, fun _ => by simp, fun _ => .inr (.inr ⟨generation, rfl⟩)⟩

end LeaseView

end Vibemux
