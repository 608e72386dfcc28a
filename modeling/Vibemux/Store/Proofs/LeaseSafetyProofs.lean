import Vibemux.Store.Proofs.ReceiptProofs

/-!
# Leases along a run

Leases are exclusive in every state. Along a run the generations a slot gives out increase, a
quarantined lease is never active again, and what is accepted is accepted under an active lease.
-/

namespace Vibemux.Store

open Checked List Machine Option Table

variable {s s' : Store} {digests : StoreDigests} {response : StoreResponse} {op : StoreOp}

/-- Lease exclusivity in one state. -/
structure Exclusive (s : Store) : Prop where
  slot : ∀ slotId, (s.leases.filter fun lease =>
    lease.slotId = slotId ∧ lease.state.holdsReservation = true).length ≤ 1
  worktree : ∀ worktreeKey, (s.leases.filter fun lease =>
    lease.worktreeKey = worktreeKey ∧ lease.state.holdsReservation = true).length ≤ 1
  /-- The table keeps the leases in the order of their acquisition. -/
  increasing : s.leases.Pairwise fun earlier later =>
    earlier.slotId = later.slotId → earlier.generation < later.generation
  /-- Every attempt has a dispatch, and while that has not ended its worktree is held by the lease and
  the generation the attempt was admitted under. -/
  held : ∀ attempt ∈ s.attempts, ∃ row,
    Table.lookup DispatchRow.requestId s.dispatches attempt.requestId = some row ∧
    (row.record.phase.isTerminal = false → ∃ lease ∈ s.leases, lease.leaseId = attempt.leaseId ∧
      lease.generation = attempt.leaseGeneration ∧ lease.worktreeKey = row.record.resourceKey ∧
      lease.state.holdsReservation = true)
  apart : ∀ attempt ∈ s.attempts, ∀ other ∈ s.attempts, attempt ≠ other → ∀ row row',
    Table.lookup DispatchRow.requestId s.dispatches attempt.requestId = some row →
    Table.lookup DispatchRow.requestId s.dispatches other.requestId = some row' →
    row.record.phase.isTerminal = false → row'.record.phase.isTerminal = false →
      row.record.resourceKey ≠ row'.record.resourceKey

/-- Two leases that hold a reservation share neither a slot nor a worktree. -/
theorem LeaseInv.eq_of_holding (hinv : LeaseInv s) {lease other : LeaseRecord}
    (hlease : lease ∈ s.leases) (hother : other ∈ s.leases)
    (hholds : lease.state.holdsReservation = true) (hholds' : other.state.holdsReservation = true)
    (hshared : lease.slotId = other.slotId ∨ lease.worktreeKey = other.worktreeKey) :
    lease.leaseId = other.leaseId := by
  by_contra hne
  have hcompatible := hinv.compatible lease hlease other hother hne
  rcases hshared with hslot | htree
  · simp [leaseCompatible, hholds, hholds', hslot] at hcompatible
  · simp [leaseCompatible, hholds, hholds', htree] at hcompatible

theorem LeaseInv.exclusive (hinv : LeaseInv s) : Exclusive s where
  slot slotId := by
    refine hinv.unique.length_filter_le_one _ fun lease hlease other hother hp hp' => ?_
    simp only [decide_eq_true_eq] at hp hp'
    exact hinv.eq_of_holding hlease hother hp.2 hp'.2 (.inl (hp.1.trans hp'.1.symm))
  worktree worktreeKey := by
    refine hinv.unique.length_filter_le_one _ fun lease hlease other hother hp hp' => ?_
    simp only [decide_eq_true_eq] at hp hp'
    exact hinv.eq_of_holding hlease hother hp.2 hp'.2 (.inr (hp.1.trans hp'.1.symm))
  increasing := hinv.increasing
  held attempt hattempt := by
    obtain ⟨lease, row, hplaced⟩ := hinv.placed attempt hattempt
    exact ⟨row, hplaced.rowFound, fun hrunning =>
      ⟨lease, mem_of_lookup hplaced.leaseFound, key_of_lookup hplaced.leaseFound,
        hplaced.generation, hplaced.worktree.symm, hplaced.held hrunning⟩⟩
  apart attempt hattempt other hother hne row row' hrow hrow' hrunning hrunning' hkey := by
    have hid : row.requestId ≠ row'.requestId := fun heq => by
      rw [key_of_lookup hrow, key_of_lookup hrow'] at heq
      exact hne (hinv.attempts.eq_of_mem hattempt hother heq)
    have hcompatible := hinv.rows.compatible row (mem_of_lookup hrow) row'
      (mem_of_lookup hrow') hid
    simp [DispatchRow.compatible, DispatchPhase.holdsReservation, hrunning, hrunning', hkey]
      at hcompatible

/-! ## Along a run -/

/-- The generation a transition newly acquired on the slot. -/
def acquiredGeneration (slotId : SpecIdentifier) (t : Transition Store StoreOp StoreResponse) :
    Option Nat :=
  match t.input, t.response with
  | .lease (.acquire request), .lease (.lease commit) =>
    if request.slotId = slotId ∧ commit.event.isSome = true then some commit.lease.generation else none
  | _, _ => none

/-- Whether a lease is active under the generation, for the task of the workflow. -/
structure ActiveFor (s : Store) (leaseId : Uuid) (generation : Nat) (workflowId : Uuid)
    (taskKey : SpecIdentifier) (lease : LeaseRecord) : Prop where
  found : s.loadLease leaseId = some lease
  active : lease.state = .active
  generation : lease.generation = generation
  workflowId : lease.workflowId = workflowId
  taskKey : lease.taskKey = taskKey

/-- Safety of the leases along a run. -/
structure LeasesSafe (digests : StoreDigests) (s₀ : Store) (ops : List StoreOp) : Prop where
  exclusive : Exclusive (final (storeStep digests) s₀ ops)
  /-- The generations a slot gives out strictly increase. -/
  generations : ∀ slotId, ((history (storeStep digests) s₀ ops).filterMap
    (acquiredGeneration slotId)).Pairwise (· < ·)
  /-- A lease that was quarantined is never active again. -/
  quarantined : ∀ before after leaseId lease, ops = before ++ after →
    (final (storeStep digests) s₀ before).loadLease leaseId = some lease →
    lease.state = .quarantined → ∃ lease',
      (final (storeStep digests) s₀ ops).loadLease leaseId = some lease' ∧ lease'.state ≠ .active
  /-- An attempt is accepted under the generation of an active lease for its task only. -/
  attempts : ∀ t ∈ history (storeStep digests) s₀ ops, ∀ attempt ∈ t.post.attempts,
    attempt ∉ t.pre.attempts → ∃ lease, ActiveFor t.pre attempt.leaseId attempt.leaseGeneration
      attempt.workflowId attempt.taskKey lease
  /-- So is a candidate receipt. -/
  candidates : ∀ t ∈ history (storeStep digests) s₀ ops, ∀ row ∈ t.post.receipts,
    row ∉ t.pre.receipts → ∀ candidate, row.receipt = .candidate candidate →
      ∃ lease, ActiveFor t.pre candidate.leaseId candidate.candidate.leaseGeneration row.workflowId
        candidate.candidate.taskKey lease

theorem lastGeneration_of_writes {written : List StoreTable} (h : Writes written s s')
    (htable : .slots ∉ written) (slotId : SpecIdentifier) :
    s'.lastGeneration slotId = s.lastGeneration slotId := by
  unfold lastGeneration loadSlot
  rw [show s'.slots = s.slots from h .slots htable]

/-- No lease operation lowers the last generation of a slot, and one that gives out a generation
passes it. -/
theorem leaseStep_generation {op : LeaseOp} {response : LeaseResponse} (slotId : SpecIdentifier)
    (h : s.leaseStep digests op = .ok (response, s')) :
    s.lastGeneration slotId ≤ s'.lastGeneration slotId ∧
      ∀ generation, acquiredGeneration slotId ⟨s, .lease op, .lease response, s'⟩ = some generation →
        s.lastGeneration slotId < generation ∧ generation = s'.lastGeneration slotId := by
  cases op
  case recover timestamp =>
    cases h
    refine ⟨?_, by simp [acquiredGeneration]⟩
    exact recoverLeases_invariant (fun s' => s.lastGeneration slotId ≤ s'.lastGeneration slotId)
      (fun hchange hle => hle.trans
        (lastGeneration_of_writes (changeWorkflowLease_writes hchange) (by decide) slotId).ge) le_rfl
  all_goals simp only [leaseStep, eq_ok] at h
  case upsertSlot slot =>
    obtain ⟨_, _, hupsert, rfl, rfl⟩ := h
    exact ⟨(upsertWorkflowSlot_lastGeneration hupsert slotId).ge, by simp [acquiredGeneration]⟩
  case acquire request =>
    obtain ⟨_, _, hacquire, rfl, rfl⟩ := h
    rcases acquireWorkflowLease_eq_ok hacquire with ⟨rfl, hevent⟩ | ⟨_, hacquired, hlease⟩
    · refine ⟨le_rfl, fun generation hsome => ?_⟩
      simp [acquiredGeneration, hevent] at hsome
    · refine ⟨hacquired.lastGeneration_le slotId, fun generation hsome => ?_⟩
      simp only [acquiredGeneration, ite_none_right_eq_some, some.injEq] at hsome
      obtain ⟨⟨rfl, -⟩, rfl⟩ := hsome
      rw [hlease, hacquired.lastGeneration_pre, hacquired.lastGeneration_self]
      exact ⟨Nat.lt_succ_self _, rfl⟩
  case change leaseId event heartbeatMs reasonCode timestamp =>
    obtain ⟨_, _, hchange, rfl, rfl⟩ := h
    exact ⟨(lastGeneration_of_writes (changeWorkflowLease_writes hchange) (by decide) slotId).ge,
      by simp [acquiredGeneration]⟩

theorem storeStep_generation (slotId : SpecIdentifier)
    (h : storeStep digests s op = .ok (response, s')) :
    s.lastGeneration slotId ≤ s'.lastGeneration slotId ∧
      ∀ generation, acquiredGeneration slotId ⟨s, op, response, s'⟩ = some generation →
        s.lastGeneration slotId < generation ∧ generation = s'.lastGeneration slotId := by
  have hstep := storeStep_stepped h
  have hwrites := hstep.writes
  cases hstep with
  | lease hgroup => exact leaseStep_generation slotId hgroup
  | _ =>
    exact ⟨(lastGeneration_of_writes hwrites (by simp [StoreOp.written]) slotId).ge,
      by simp [acquiredGeneration]⟩

/-- A lease that is not active and has not ended can only end. -/
theorem changeWorkflowLease_inactive {leaseId id : Uuid} {event : LeaseEvent} {heartbeatMs : Nat}
    {reasonCode : List Char} {timestamp : Timestamp} {commit : LeaseCommit}
    (h : s.changeWorkflowLease id event heartbeatMs reasonCode timestamp = .ok (commit, s'))
    (hinactive : ∃ lease, s.loadLease leaseId = some lease ∧ lease.state ≠ .active) :
    ∃ lease, s'.loadLease leaseId = some lease ∧ lease.state ≠ .active := by
  obtain ⟨lease, hlease, hstate⟩ := hinactive
  rcases changeWorkflowLease_eq_ok h with rfl | ⟨old, next, hchanged⟩
  · exact ⟨lease, hlease, hstate⟩
  · by_cases hid : leaseId = id
    · subst hid
      obtain rfl : old = lease := some.inj (hchanged.found.symm.trans hlease)
      refine ⟨next, hchanged.loadLease_self, hchanged.quarantined ?_⟩
      have hheld := hchanged.held
      cases hold : old.state with
      | quarantined => rfl
      | active => exact absurd hold hstate
      | released | revoked =>
        rw [hold] at hheld
        cases hheld
    · exact ⟨lease, (hchanged.loadLease_of_ne hid).trans hlease, hstate⟩

/-- A lease that is not active stays so. -/
theorem storeStep_inactive {leaseId : Uuid} (h : storeStep digests s op = .ok (response, s'))
    (hinactive : ∃ lease, s.loadLease leaseId = some lease ∧ lease.state ≠ .active) :
    ∃ lease, s'.loadLease leaseId = some lease ∧ lease.state ≠ .active := by
  have hstep := storeStep_stepped h
  have hwrites := hstep.writes
  have hsame : s'.leases = s.leases →
      ∃ lease, s'.loadLease leaseId = some lease ∧ lease.state ≠ .active := by
    intro hleases
    unfold loadLease
    rw [hleases]
    exact hinactive
  cases hstep with
  | @lease op _ hgroup =>
    cases op
    case recover timestamp =>
      cases hgroup
      exact recoverLeases_invariant
        (fun s => ∃ lease, s.loadLease leaseId = some lease ∧ lease.state ≠ .active)
        changeWorkflowLease_inactive hinactive
    all_goals simp only [leaseStep, eq_ok] at hgroup
    case upsertSlot slot =>
      obtain ⟨_, _, hupsert, -, rfl⟩ := hgroup
      exact hsame (upsertWorkflowSlot_writes hupsert .leases (by simp))
    case acquire request =>
      obtain ⟨_, _, hacquire, -, rfl⟩ := hgroup
      rcases acquireWorkflowLease_eq_ok hacquire with ⟨rfl, -⟩ | ⟨slot, hacquired, -⟩
      · exact hinactive
      · obtain ⟨lease, hlease, hstate⟩ := hinactive
        refine ⟨lease, ?_, hstate⟩
        unfold loadLease
        rw [hacquired.leases]
        exact lookup_append_of_isSome hlease _
    case change id event heartbeatMs reasonCode timestamp =>
      obtain ⟨_, _, hchange, -, rfl⟩ := hgroup
      exact changeWorkflowLease_inactive hchange hinactive
  | _ => exact hsame (hwrites .leases (by simp [StoreOp.written]))

theorem HoldsLease.activeFor {admission : WorkflowAttemptAdmission} {lease : LeaseRecord}
    (h : HoldsLease s admission lease) : ActiveFor s admission.attempt.leaseId
      admission.attempt.leaseGeneration admission.attempt.workflowId admission.attempt.taskKey lease :=
  ⟨h.found, h.active, h.generation, h.workflowId, h.taskKey⟩

theorem storeStep_attempts (h : storeStep digests s op = .ok (response, s'))
    {attempt : WorkflowAttemptRecord} (hmem : attempt ∈ s'.attempts) (hnew : attempt ∉ s.attempts) :
    ∃ lease, ActiveFor s attempt.leaseId attempt.leaseGeneration attempt.workflowId attempt.taskKey
      lease := by
  have hstep := storeStep_stepped h
  have hwrites := hstep.writes
  have hsame : s'.attempts ≠ s.attempts := fun heq => hnew (heq ▸ hmem)
  cases hstep with
  | attempt hgroup =>
    rcases admitWorkflowAttempt_eq_ok hgroup with ⟨_, _, -, hadmit⟩ | ⟨_, _, lease, _, _, hnewAttempt⟩
    · exact absurd (admitDispatchIn_writes hadmit .attempts (by decide)) hsame
    · rw [hnewAttempt.attempts, mem_append, mem_singleton] at hmem
      obtain rfl := hmem.resolve_left hnew
      exact ⟨lease, hnewAttempt.holdsLease.activeFor⟩
  | _ => exact absurd (hwrites .attempts (by simp [StoreOp.written])) hsame

/-- A step that adds a receipt records it. -/
theorem storeStep_receipts (h : storeStep digests s op = .ok (response, s')) {row : ReceiptRow}
    (hmem : row ∈ s'.receipts) (hnew : row ∉ s.receipts) :
    ∃ fence timestamp stored next,
      op = .receipt (.record row.workflowId row.receipt fence timestamp) ∧
        NewReceipt digests s s' row fence timestamp stored next := by
  have hstep := storeStep_stepped h
  have hwrites := hstep.writes
  have hsame : s'.receipts ≠ s.receipts := fun heq => hnew (heq ▸ hmem)
  cases hstep with
  | @receipt op _ hgroup =>
    cases op
    all_goals simp only [receiptStep, eq_ok] at hgroup
    case record workflowId receipt fence timestamp =>
      obtain ⟨_, _, hrecord, -, rfl⟩ := hgroup
      rcases recordWorkflowReceipt_eq_ok hrecord with rfl | ⟨_, _, stored, next, hnewReceipt⟩
      · exact absurd hmem hnew
      · have hrow := hmem
        rw [hnewReceipt.receipts, mem_append, mem_singleton] at hrow
        obtain rfl := hrow.resolve_left hnew
        exact ⟨fence, timestamp, stored, next, rfl, hnewReceipt⟩
    case acceptCandidate workflowId expectedVersion taskKey digest timestamp =>
      obtain ⟨_, _, haccept, -, rfl⟩ := hgroup
      exact absurd (acceptWorkflowCandidate_writes haccept .receipts (by decide)) hsame
    case acceptWorkflow workflowId expectedVersion timestamp =>
      obtain ⟨_, _, haccept, -, rfl⟩ := hgroup
      exact absurd (acceptWorkflow_writes haccept .receipts (by decide)) hsame
  | _ => exact absurd (hwrites .receipts (by simp [StoreOp.written])) hsame

/-- The leases after every run. -/
theorem leaseInv_final (digests : StoreDigests) (projectId : Uuid) (ops : List StoreOp) :
    LeaseInv (final (storeStep digests) (.empty projectId) ops) :=
  final_invariant LeaseInv (leaseInv_empty projectId)
    (fun _ _ _ _ hinv hstep => storeStep_leaseInv hstep hinv) ops

/-- From an empty database, whatever the operations: leases are exclusive in every state, and safe
along the run. -/
theorem leases_safe (digests : StoreDigests) (projectId : Uuid) (ops : List StoreOp) :
    LeasesSafe digests (.empty projectId) ops where
  exclusive := (leaseInv_final digests projectId ops).exclusive
  generations slotId := by
    refine (marks_increase (fun s => s.lastGeneration slotId + 1) (acquiredGeneration slotId)
      (fun t haccepts => ?_) (fun t generation haccepts hmark => ?_) _ ops).1
    · exact Nat.succ_le_succ (storeStep_generation slotId haccepts).1
    · obtain ⟨hlt, heq⟩ := (storeStep_generation slotId haccepts).2 generation hmark
      exact ⟨hlt, heq ▸ Nat.lt_succ_self _⟩
  quarantined before after leaseId lease hops hlease hstate := by
    rw [hops, final_append]
    refine final_invariant
      (fun s => ∃ lease, s.loadLease leaseId = some lease ∧ lease.state ≠ .active) ⟨lease, hlease, ?_⟩
      (fun _ _ _ _ hinactive hstep => storeStep_inactive hstep hinactive) after
    rw [hstate]
    decide
  attempts t ht attempt hmem hnew := storeStep_attempts (accepts_of_mem ht) hmem hnew
  candidates t ht row hmem hnew candidate hcandidate := by
    obtain ⟨_, _, _, _, -, hreceipt⟩ := storeStep_receipts (accepts_of_mem ht) hmem hnew
    have hchecked := hreceipt.checked
    rw [hcandidate] at hchecked
    simp only [checkReceipt, eq_ok] at hchecked
    obtain ⟨lease, _, _, _, hfenced, -, -⟩ := checkCandidate_eq_ok hchecked.1
    exact ⟨lease, hfenced.found, hfenced.active, hfenced.generation,
      hfenced.workflowId.trans (loadExistingWorkflow_id hreceipt.loaded), hfenced.taskKey⟩

end Vibemux.Store
