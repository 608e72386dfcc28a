import Vibemux.Store.Proofs.AttemptProofs

/-!
# Lease exclusivity

A slot and a worktree have at most one lease that holds them, and an attempt whose dispatch has not
ended runs under such a lease. A lease ends only when the dispatches of its attempts have.
-/

namespace Vibemux.Store

open Bool Checked List Option Table

variable {s s' : Store} {digests : StoreDigests} {request : LeaseRequest} {leaseId : Uuid}
  {slot : SlotRow} {lease next : LeaseRecord} {commit : LeaseCommit}
  {admission : WorkflowAttemptAdmission} {heartbeatMs : Nat} {leases : List LeaseRecord}
  {reasonCode : List Char} {runId taskId : Uuid} {timestamp : Timestamp}

/-- The last generation a slot gave out. -/
def lastGeneration (s : Store) (slotId : SpecIdentifier) : Nat :=
  ((s.loadSlot slotId).map SlotRow.lastGeneration).getD 0

/-! ## What the lease operations do -/

/-- A new lease under the next generation of its slot. -/
structure Acquired (s s' : Store) (request : LeaseRequest) (slot : SlotRow) : Prop where
  fresh : s.loadLease request.leaseId = none
  slotFound : s.loadSlot request.slotId = some slot
  allowed : leaseAllowed s.leases (request.lease (slot.lastGeneration + 1)) = true
  leases : s'.leases = s.leases ++ [request.lease (slot.lastGeneration + 1)]
  slots : s'.slots = Table.put SlotRow.slotId s.slots
    { slot with lastGeneration := slot.lastGeneration + 1 }

theorem acquireWorkflowLease_eq_ok (h : s.acquireWorkflowLease request = .ok (commit, s')) :
    (s' = s ∧ commit.event = none) ∨ ∃ slot, Acquired s s' request slot ∧
      commit.lease = request.lease (slot.lastGeneration + 1) := by
  unfold acquireWorkflowLease at h
  cases hfound : s.loadLease request.leaseId with
  | some existing =>
    simp only [hfound, eq_ok] at h
    obtain ⟨-, rfl, rfl⟩ := h
    exact .inl ⟨rfl, rfl⟩
  | none =>
    simp only [hfound, insertAcquired, bumpSlotGeneration, eq_ok, checkedSucc_eq_some] at h
    obtain ⟨_, -, -, _, -, -, slot, hslot, -, -, _, ⟨-, rfl⟩, _, _, happend, _,
      ⟨row, hrow, rfl⟩, _, hinsert, rfl, rfl⟩ := h
    obtain ⟨events, -, rfl⟩ := append_eq_ok.1 happend
    obtain ⟨⟨-, hallowed⟩, rfl⟩ := insertLease_eq_ok.1 hinsert
    obtain ⟨hrow, -⟩ := filter_eq_some_iff.1 hrow
    obtain rfl : row = slot := some.inj (hrow.symm.trans hslot)
    exact .inr ⟨row, ⟨hfound, hslot, hallowed, rfl, rfl⟩, rfl⟩

/-- A lease that got its next state. -/
structure Changed (s s' : Store) (leaseId : Uuid) (lease next : LeaseRecord) : Prop where
  found : s.loadLease leaseId = some lease
  same : next = { lease with
    state := next.state, heartbeatDeadlineMs := next.heartbeatDeadlineMs,
    endReason := next.endReason, updatedAtMs := next.updatedAtMs }
  held : lease.state.holdsReservation = true
  quarantined : lease.state = .quarantined → next.state ≠ .active
  /-- It ends only when the dispatches of its attempts have. -/
  settled : next.state.holdsReservation = false → ∀ attempt ∈ s.attempts,
    attempt.leaseId = leaseId → attempt.leaseGeneration = lease.generation →
      ∃ phase, s.dispatchPhase attempt.requestId = some phase ∧ phase.isTerminal = true
  allowed : leaseAllowed s.leases next = true
  leases : s'.leases = Table.put LeaseRecord.leaseId s.leases next

theorem allSettled_eq_true {attempts : List WorkflowAttemptRecord}
    (h : s.allSettled attempts = .ok true) : ∀ attempt ∈ attempts,
      ∃ phase, s.dispatchPhase attempt.requestId = some phase ∧ phase.isTerminal = true := by
  induction attempts with
  | nil => simp
  | cons attempt rest ih =>
    simp only [allSettled, eq_ok, and_eq_true, dispatchTerminal] at h
    obtain ⟨phase, hphase, _, hrest, hterminal, rfl⟩ := h
    intro other hother
    rcases mem_cons.1 hother with rfl | hmem
    · exact ⟨phase, hphase, hterminal⟩
    · exact ih hrest other hmem

/-- An event that says the attempts have settled reaches the reducer only when the store says so. -/
theorem leaseEventFor_settled {settled : Bool} {event event' : LeaseEvent}
    (h : leaseEventFor settled event = .ok event')
    (hends : (∃ generation, event' = .attemptSettled generation) ∨
      (∃ generation, event' = .reconciled generation true) ∨
      (∃ generation, event' = .revoke generation true)) : settled = true := by
  unfold leaseEventFor at h
  split at h
  · cases h
    simpa using hends
  · simp only [eq_ok] at h
    exact h.1
  · simp only [eq_ok] at h
    exact h.1
  · rename_i hrevoke hsettled hreconciled
    cases h
    rcases hends with ⟨generation, rfl⟩ | ⟨generation, rfl⟩ | ⟨generation, rfl⟩
    · exact absurd rfl (hsettled generation)
    · exact absurd rfl (hreconciled generation)
    · exact absurd rfl (hrevoke generation true)

theorem changeWorkflowLease_eq_ok {event : LeaseEvent}
    (h : s.changeWorkflowLease leaseId event heartbeatMs reasonCode timestamp = .ok (commit, s')) :
    s' = s ∨ ∃ lease next, Changed s s' leaseId lease next := by
  simp only [changeWorkflowLease, eq_ok] at h
  obtain ⟨lease, hlease, settled, hsettled, _, hevent, view, hview, h⟩ := h
  split at h
  · cases h
    exact .inl rfl
  · simp only [eq_ok] at h
    obtain ⟨_, _, happend, _, hupdate, -, rfl⟩ := h
    obtain ⟨events, -, rfl⟩ := append_eq_ok.1 happend
    obtain ⟨-, hallowed, rfl⟩ := updateLease_eq_ok.1 hupdate
    obtain ⟨hheld, -, hquarantined, hends⟩ := LeaseView.apply_eq_ok hview
    refine .inr ⟨lease, lease.withView view reasonCode (millis timestamp), hlease, rfl, hheld,
      hquarantined, fun hended attempt hattempt hid hgen => ?_, hallowed, rfl⟩
    obtain rfl : settled = true := leaseEventFor_settled hevent (hends hended)
    refine allSettled_eq_true hsettled attempt (mem_filter.2 ⟨mem_filter.2 ?_, ?_⟩)
    · exact ⟨hattempt, by simpa using hid⟩
    · simpa using hgen

/-! ## The invariant -/

/-- Where an attempt runs: under its lease and the generation it was admitted with, in the worktree of
the lease. While its dispatch has not ended the lease holds its reservation. -/
structure Placed (s : Store) (attempt : WorkflowAttemptRecord) (lease : LeaseRecord)
    (row : DispatchRow) : Prop where
  leaseFound : s.loadLease attempt.leaseId = some lease
  generation : lease.generation = attempt.leaseGeneration
  workflowId : lease.workflowId = attempt.workflowId
  taskKey : lease.taskKey = attempt.taskKey
  rowFound : Table.lookup DispatchRow.requestId s.dispatches attempt.requestId = some row
  worktree : row.record.resourceKey = lease.worktreeKey
  held : row.record.phase.isTerminal = false → lease.state.holdsReservation = true

/-- The invariant of the slots, the leases, the attempts and the dispatches. -/
structure LeaseInv (s : Store) : Prop where
  rows : HarnessStore.RowsInv s.toHarnessStore
  unique : Table.Unique LeaseRecord.leaseId s.leases
  compatible : ∀ lease ∈ s.leases, ∀ other ∈ s.leases, lease.leaseId ≠ other.leaseId →
    leaseCompatible lease other = true
  increasing : s.leases.Pairwise fun earlier later =>
    earlier.slotId = later.slotId → earlier.generation < later.generation
  bounded : ∀ lease ∈ s.leases, lease.generation ≤ s.lastGeneration lease.slotId
  attempts : Table.Unique WorkflowAttemptRecord.requestId s.attempts
  placed : ∀ attempt ∈ s.attempts, ∃ lease row, Placed s attempt lease row

theorem leaseInv_empty (projectId : Uuid) : LeaseInv (.empty projectId) where
  rows := HarnessStore.rowsInv_of_empty rfl
  unique := nodup_nil
  compatible _ hlease := absurd hlease not_mem_nil
  increasing := .nil
  bounded _ hlease := absurd hlease not_mem_nil
  attempts := nodup_nil
  placed _ hattempt := absurd hattempt not_mem_nil

/-- Dispatch operations keep the invariant: a dispatch that has ended does not change. -/
theorem LeaseInv.progress (hinv : LeaseInv s)
    (h : HarnessStore.Progress s.toHarnessStore s'.toHarnessStore) (hslots : s'.slots = s.slots)
    (hleases : s'.leases = s.leases) (hattempts : s'.attempts = s.attempts) : LeaseInv s' where
  rows := h.rowsInv hinv.rows
  unique := by rw [hleases]; exact hinv.unique
  compatible := by rw [hleases]; exact hinv.compatible
  increasing := by rw [hleases]; exact hinv.increasing
  bounded := by
    unfold lastGeneration loadSlot
    rw [hleases, hslots]
    exact hinv.bounded
  attempts := by rw [hattempts]; exact hinv.attempts
  placed := by
    rw [hattempts]
    intro attempt hattempt
    obtain ⟨lease, row, hplaced⟩ := hinv.placed attempt hattempt
    obtain ⟨row', hrow', hsame⟩ := h.kept _ _ hplaced.rowFound
    refine ⟨lease, row', by unfold loadLease; rw [hleases]; exact hplaced.leaseFound,
      hplaced.generation, hplaced.workflowId, hplaced.taskKey, hrow',
      hsame.resourceKey.trans hplaced.worktree, fun hrunning => hplaced.held ?_⟩
    -- a row that had ended would still be the same
    cases hterminal : row.record.phase.isTerminal with
    | false => rfl
    | true =>
      rw [hsame.terminal hterminal, hterminal] at hrunning
      cases hrunning

theorem LeaseInv.of_writes {written : List StoreTable} (hinv : LeaseInv s)
    (h : Writes written s s') (htables : ∀ table ∈ [StoreTable.slots, .leases, .attempts, .dispatches],
      table ∉ written) : LeaseInv s' :=
  hinv.progress (.of_eq (h .dispatches (htables _ (by decide)))) (h .slots (htables _ (by decide)))
    (h .leases (htables _ (by decide))) (h .attempts (htables _ (by decide)))

theorem leaseAllowed_compatible {lease other : LeaseRecord} (h : leaseAllowed leases lease = true)
    (hother : other ∈ leases) (hne : other.leaseId ≠ lease.leaseId) :
    leaseCompatible lease other = true := by
  have hall := all_eq_true.1 h other hother
  simpa [hne] using hall

theorem leaseCompatible_comm (lease other : LeaseRecord) :
    leaseCompatible lease other = leaseCompatible other lease := by
  have hslot : (lease.slotId == other.slotId) = (other.slotId == lease.slotId) := beq_comm
  have hgen : (lease.generation == other.generation) = (other.generation == lease.generation) :=
    beq_comm
  have htree : (lease.worktreeKey == other.worktreeKey) = (other.worktreeKey == lease.worktreeKey) :=
    beq_comm
  simp only [leaseCompatible, hslot, hgen, htree,
    and_comm lease.state.holdsReservation other.state.holdsReservation]

/-- A lease written under the constraints of the schema keeps the rows compatible. -/
theorem compatible_of_mem {leases' : List LeaseRecord} {lease : LeaseRecord}
    (hold : ∀ a ∈ leases, ∀ b ∈ leases, a.leaseId ≠ b.leaseId → leaseCompatible a b = true)
    (hallowed : leaseAllowed leases lease = true) (hmem : ∀ a ∈ leases', a = lease ∨ a ∈ leases) :
    ∀ a ∈ leases', ∀ b ∈ leases', a.leaseId ≠ b.leaseId → leaseCompatible a b = true := by
  intro a ha b hb hne
  rcases hmem a ha with rfl | ha <;> rcases hmem b hb with rfl | hb
  · exact absurd rfl hne
  · exact leaseAllowed_compatible hallowed hb (Ne.symm hne)
  · rw [leaseCompatible_comm]
    exact leaseAllowed_compatible hallowed ha hne
  · exact hold a ha b hb hne

section

variable (h : Acquired s s' request slot)
include h

theorem Acquired.lastGeneration_pre : s.lastGeneration request.slotId = slot.lastGeneration := by
  simp [lastGeneration, h.slotFound]

theorem Acquired.lastGeneration_self :
    s'.lastGeneration request.slotId = slot.lastGeneration + 1 := by
  have hslotId : slot.slotId = request.slotId := key_of_lookup h.slotFound
  have hrow : lookup SlotRow.slotId s.slots
      (SlotRow.slotId { slot with lastGeneration := slot.lastGeneration + 1 }) = some slot :=
    hslotId ▸ h.slotFound
  unfold lastGeneration loadSlot
  rw [h.slots, ← hslotId]
  exact congrArg (fun row => (row.map SlotRow.lastGeneration).getD 0) (lookup_put_self hrow)

theorem Acquired.lastGeneration_of_ne {slotId : SpecIdentifier} (hne : slotId ≠ request.slotId) :
    s'.lastGeneration slotId = s.lastGeneration slotId := by
  have hslotId : slot.slotId = request.slotId := key_of_lookup h.slotFound
  unfold lastGeneration loadSlot
  rw [h.slots, lookup_put_of_ne]
  exact fun heq => hne (heq.trans hslotId)

theorem Acquired.lastGeneration_le (slotId : SpecIdentifier) :
    s.lastGeneration slotId ≤ s'.lastGeneration slotId := by
  by_cases hslot : slotId = request.slotId
  · rw [hslot, h.lastGeneration_pre, h.lastGeneration_self]
    exact Nat.le_succ _
  · rw [h.lastGeneration_of_ne hslot]

end

theorem LeaseInv.acquired (hinv : LeaseInv s) (h : Acquired s s' request slot)
    (hwrites : Writes [.events, .slots, .leases] s s') :
    LeaseInv s' := by
  have hdispatches : s'.dispatches = s.dispatches := hwrites .dispatches (by decide)
  have hattempts : s'.attempts = s.attempts := hwrites .attempts (by decide)
  refine ⟨(HarnessStore.Progress.of_eq hdispatches).rowsInv hinv.rows, ?_, ?_, ?_, ?_,
    by rw [hattempts]; exact hinv.attempts, ?_⟩
  · rw [h.leases]
    exact hinv.unique.append h.fresh
  · refine compatible_of_mem hinv.compatible h.allowed fun lease hlease => ?_
    rw [h.leases, mem_append, mem_singleton] at hlease
    exact hlease.symm
  · -- the new generation is above the last one of the slot, which bounds the others
    rw [h.leases, pairwise_append]
    refine ⟨hinv.increasing, pairwise_singleton _ _, fun earlier hearlier later hlater hslot => ?_⟩
    rw [mem_singleton.1 hlater] at hslot ⊢
    have hle := hinv.bounded earlier hearlier
    rw [hslot] at hle
    exact Nat.lt_succ_of_le (hle.trans_eq h.lastGeneration_pre)
  · intro lease hlease
    rw [h.leases, mem_append, mem_singleton] at hlease
    rcases hlease with hold | rfl
    · exact (hinv.bounded lease hold).trans (h.lastGeneration_le lease.slotId)
    · exact h.lastGeneration_self.ge
  · rw [hattempts]
    intro attempt hattempt
    obtain ⟨lease, row, hplaced⟩ := hinv.placed attempt hattempt
    refine ⟨lease, row, ?_, hplaced.generation, hplaced.workflowId, hplaced.taskKey,
      by rw [hdispatches]; exact hplaced.rowFound, hplaced.worktree, hplaced.held⟩
    unfold loadLease
    rw [h.leases]
    exact lookup_append_of_isSome hplaced.leaseFound _

section

variable (h : Changed s s' leaseId lease next)
include h

theorem Changed.leaseId_eq : lease.leaseId = leaseId := key_of_lookup h.found

theorem Changed.next_leaseId : next.leaseId = leaseId := by
  rw [h.same]
  exact h.leaseId_eq

theorem Changed.loadLease_self : s'.loadLease leaseId = some next := by
  have hrow : lookup LeaseRecord.leaseId s.leases next.leaseId = some lease := by
    rw [h.next_leaseId]
    exact h.found
  unfold loadLease
  rw [h.leases, ← h.next_leaseId]
  exact lookup_put_self hrow

end

theorem Changed.loadLease_of_ne {leaseId id : Uuid} (h : Changed s s' leaseId lease next)
    (hne : id ≠ leaseId) : s'.loadLease id = s.loadLease id := by
  unfold loadLease
  rw [h.leases]
  exact lookup_put_of_ne (by rw [h.next_leaseId]; exact hne)

/-- A row of the table after the change: the changed lease, or one that stays. -/
theorem Changed.mem {lease next row : LeaseRecord} (h : Changed s s' leaseId lease next)
    (hrow : row ∈ s'.leases) :
    row = next ∨ (row ∈ s.leases ∧ row.leaseId ≠ leaseId) := by
  rw [h.leases] at hrow
  rcases mem_put hrow with rfl | ⟨hold, hne⟩
  · exact .inl rfl
  · exact .inr ⟨hold, by rwa [h.next_leaseId] at hne⟩

theorem LeaseInv.changed (hinv : LeaseInv s) (h : Changed s s' leaseId lease next)
    (hwrites : Writes [.events, .leases] s s') :
    LeaseInv s' := by
  have hslots : s'.slots = s.slots := hwrites .slots (by decide)
  have hdispatches : s'.dispatches = s.dispatches := hwrites .dispatches (by decide)
  have hattempts : s'.attempts = s.attempts := hwrites .attempts (by decide)
  have hslot : next.slotId = lease.slotId := by rw [h.same]
  have hgeneration : next.generation = lease.generation := by rw [h.same]
  refine ⟨(HarnessStore.Progress.of_eq hdispatches).rowsInv hinv.rows, ?_, ?_, ?_, ?_,
    by rw [hattempts]; exact hinv.attempts, ?_⟩
  · rw [h.leases]
    exact hinv.unique.put next
  · exact compatible_of_mem hinv.compatible h.allowed fun row hrow => (h.mem hrow).imp_right And.left
  · -- the slot and the generation of each row stay, so the order does
    rw [h.leases]
    refine pairwise_map.2 (hinv.increasing.imp_of_mem fun {a b} ha hb hlt => ?_)
    have hsame : ∀ row ∈ s.leases,
        (if row.leaseId = next.leaseId then next else row).slotId = row.slotId ∧
          (if row.leaseId = next.leaseId then next else row).generation = row.generation := by
      intro row hrow
      split_ifs with hid
      · have hlease : row = lease := hinv.unique.eq_of_mem hrow (mem_of_lookup h.found)
          (hid.trans (h.next_leaseId.trans h.leaseId_eq.symm))
        rw [hlease]
        exact ⟨hslot, hgeneration⟩
      · exact ⟨rfl, rfl⟩
    rw [(hsame a ha).1, (hsame a ha).2, (hsame b hb).1, (hsame b hb).2]
    exact hlt
  · intro row hrow
    have hbound : row.generation ≤ s.lastGeneration row.slotId := by
      rcases h.mem hrow with rfl | ⟨hold, -⟩
      · rw [hslot, hgeneration]
        exact hinv.bounded lease (mem_of_lookup h.found)
      · exact hinv.bounded row hold
    unfold lastGeneration loadSlot
    rw [hslots]
    exact hbound
  · rw [hattempts]
    intro attempt hattempt
    obtain ⟨old, row, hplaced⟩ := hinv.placed attempt hattempt
    by_cases hid : attempt.leaseId = leaseId
    · obtain rfl : lease = old := some.inj (h.found.symm.trans (hid ▸ hplaced.leaseFound))
      refine ⟨next, row, by rw [hid]; exact h.loadLease_self, hgeneration.trans hplaced.generation,
        by rw [h.same]; exact hplaced.workflowId, by rw [h.same]; exact hplaced.taskKey,
        by rw [hdispatches]; exact hplaced.rowFound, by rw [h.same]; exact hplaced.worktree,
        fun hrunning => ?_⟩
      cases hholds : next.state.holdsReservation with
      | true => rfl
      | false =>
        -- the change was refused unless this dispatch had ended
        obtain ⟨phase, hphase, hterminal⟩ :=
          h.settled hholds attempt hattempt hid hplaced.generation.symm
        have hrow : s.dispatchPhase attempt.requestId = some row.record.phase := by
          simp [dispatchPhase, dispatchRecord, hplaced.rowFound]
        rw [hrow, some.injEq] at hphase
        rw [hphase, hterminal] at hrunning
        cases hrunning
    · exact ⟨old, row, by rw [h.loadLease_of_ne hid]; exact hplaced.leaseFound, hplaced.generation,
        hplaced.workflowId, hplaced.taskKey, by rw [hdispatches]; exact hplaced.rowFound,
        hplaced.worktree, hplaced.held⟩

theorem changeWorkflowLease_leaseInv {event : LeaseEvent}
    (h : s.changeWorkflowLease leaseId event heartbeatMs reasonCode timestamp = .ok (commit, s'))
    (hinv : LeaseInv s) : LeaseInv s' := by
  rcases changeWorkflowLease_eq_ok h with rfl | ⟨lease, next, hchanged⟩
  · exact hinv
  · exact hinv.changed hchanged (changeWorkflowLease_writes h)

section

variable {slot : SlotFacts} {event : Option Event}
  (h : s.upsertWorkflowSlot digests slot = .ok (event, s'))
include h

theorem upsertWorkflowSlot_slots : s'.slots = s.slots ∨
      s'.slots = upsert SlotRow.slotId s.slots ⟨slot, s.lastGeneration slot.slotId⟩ := by
  simp only [upsertWorkflowSlot, eq_ok] at h
  obtain ⟨-, h⟩ := h
  split at h
  · cases h
    exact .inl rfl
  · simp only [eq_ok] at h
    obtain ⟨_, s₁, happend, -, rfl⟩ := h
    obtain ⟨events, -, rfl⟩ := append_eq_ok.1 happend
    exact .inr rfl

/-- A new observation of a slot keeps its last generation. -/
theorem upsertWorkflowSlot_lastGeneration (slotId : SpecIdentifier) :
    s'.lastGeneration slotId = s.lastGeneration slotId := by
  unfold lastGeneration loadSlot
  rcases upsertWorkflowSlot_slots h with hslots | hslots
  · rw [hslots]
  · rw [hslots]
    by_cases hslot : slotId = slot.slotId
    · have hself : lookup SlotRow.slotId
          (upsert SlotRow.slotId s.slots ⟨slot, s.lastGeneration slot.slotId⟩) slot.slotId =
            some ⟨slot, s.lastGeneration slot.slotId⟩ := lookup_upsert_self s.slots _
      rw [hslot, hself]
      rfl
    · have hne : slotId ≠ SlotRow.slotId ⟨slot, s.lastGeneration slot.slotId⟩ := hslot
      rw [lookup_upsert_of_ne hne]

end

theorem LeaseInv.upserted (hinv : LeaseInv s) (hwrites : Writes [.events, .slots] s s')
    (hgeneration : ∀ slotId, s'.lastGeneration slotId = s.lastGeneration slotId) : LeaseInv s' := by
  have hleases : s'.leases = s.leases := hwrites .leases (by decide)
  have hattempts : s'.attempts = s.attempts := hwrites .attempts (by decide)
  have hdispatches : s'.dispatches = s.dispatches := hwrites .dispatches (by decide)
  refine ⟨(HarnessStore.Progress.of_eq hdispatches).rowsInv hinv.rows, by rw [hleases]; exact hinv.unique,
    by rw [hleases]; exact hinv.compatible, by rw [hleases]; exact hinv.increasing, ?_,
    by rw [hattempts]; exact hinv.attempts, ?_⟩
  · rw [hleases]
    intro lease hlease
    rw [hgeneration]
    exact hinv.bounded lease hlease
  · rw [hattempts]
    intro attempt hattempt
    obtain ⟨lease, row, hplaced⟩ := hinv.placed attempt hattempt
    exact ⟨lease, row, by unfold loadLease; rw [hleases]; exact hplaced.leaseFound, hplaced.generation,
      hplaced.workflowId, hplaced.taskKey, by rw [hdispatches]; exact hplaced.rowFound,
      hplaced.worktree, hplaced.held⟩

/-- One operation keeps the leases consistent. -/
theorem leaseStep_leaseInv {op : LeaseOp} {response : LeaseResponse}
    (h : s.leaseStep digests op = .ok (response, s')) (hinv : LeaseInv s) : LeaseInv s' := by
  have hwrites := leaseStep_writes h
  cases op
  case recover timestamp =>
    cases h
    exact recoverLeases_invariant LeaseInv changeWorkflowLease_leaseInv hinv
  all_goals simp only [leaseStep, eq_ok] at h
  case upsertSlot slot =>
    obtain ⟨_, _, hupsert, -, rfl⟩ := h
    exact hinv.upserted (upsertWorkflowSlot_writes hupsert)
      (upsertWorkflowSlot_lastGeneration hupsert)
  case acquire request =>
    obtain ⟨_, _, hacquire, -, rfl⟩ := h
    rcases acquireWorkflowLease_eq_ok hacquire with ⟨rfl, -⟩ | ⟨slot, hacquired, -⟩
    · exact hinv
    · exact hinv.acquired hacquired hwrites
  case change leaseId event heartbeatMs reasonCode timestamp =>
    obtain ⟨_, _, hchange, -, rfl⟩ := h
    exact changeWorkflowLease_leaseInv hchange hinv

theorem LeaseInv.newAttempt {stored : WorkflowRow} {next : WorkflowRecord} {lease : LeaseRecord}
    {row : DispatchRow} {harness : HarnessStore} (hinv : LeaseInv s)
    (h : NewAttempt digests s s' admission taskId runId stored next lease row harness)
    (hslots : s'.slots = s.slots) (hleases : s'.leases = s.leases) : LeaseInv s' := by
  have hprogress : HarnessStore.Progress s.toHarnessStore s'.toHarnessStore :=
    h.dispatched.progress.trans (.of_eq h.dispatches)
  -- without the new attempt the store is one that dispatch operations lead to
  have hold : LeaseInv { s' with attempts := s.attempts } := by
    exact hinv.progress hprogress hslots hleases rfl
  refine ⟨hold.rows, hold.unique, hold.compatible, hold.increasing, hold.bounded, ?_, ?_⟩
  · rw [h.attempts]
    exact hinv.attempts.append h.fresh
  · intro attempt hattempt
    rw [h.attempts, mem_append, mem_singleton] at hattempt
    rcases hattempt with hattempt | rfl
    · obtain ⟨lease, row, hplaced⟩ := hold.placed attempt hattempt
      exact ⟨lease, row, hplaced.leaseFound, hplaced.generation, hplaced.workflowId, hplaced.taskKey,
        hplaced.rowFound, hplaced.worktree, hplaced.held⟩
    · have hrowId : row.requestId = admission.dispatch.requestId :=
        congrArg HarnessDispatchRecord.requestId h.dispatched.record
      have hfound : lookup DispatchRow.requestId s'.dispatches admission.dispatch.requestId =
          some row := by
        rw [h.dispatches, h.dispatched.dispatches, ← hrowId]
        exact lookup_append_self (by rw [hrowId]; exact h.dispatched.new)
      have hlease := h.holdsLease
      refine ⟨lease, row, ?_, hlease.generation, hlease.workflowId, hlease.taskKey, hfound, ?_, ?_⟩
      · unfold loadLease
        rw [hleases]
        exact hlease.found
      · rw [h.dispatched.record]
        exact hlease.worktree.symm
      · intro _
        rw [hlease.active]
        rfl

theorem admitWorkflowAttempt_leaseInv {commit : WorkflowAttemptCommit}
    (h : s.admitWorkflowAttempt digests admission taskId runId = .ok (commit, s'))
    (hinv : LeaseInv s) : LeaseInv s' := by
  have hwrites := admitWorkflowAttempt_writes h
  rcases admitWorkflowAttempt_eq_ok h with ⟨_, _, -, hadmit⟩ | ⟨_, _, _, _, _, hnew⟩
  · exact hinv.progress (admitDispatchIn_progress hadmit) (hwrites .slots (by decide))
      (hwrites .leases (by decide)) (admitDispatchIn_writes hadmit .attempts (by decide))
  · exact hinv.newAttempt hnew (hwrites .slots (by decide)) (hwrites .leases (by decide))

/-- Every operation keeps the invariant. -/
theorem storeStep_leaseInv {op : StoreOp} {response : StoreResponse}
    (h : storeStep digests s op = .ok (response, s')) (hinv : LeaseInv s) : LeaseInv s' := by
  have hstep := storeStep_stepped h
  have hwrites := hstep.writes
  cases hstep with
  | harness hgroup =>
    exact hinv.progress (harnessStep_progress hgroup) (hwrites .slots (by simp [StoreOp.written]))
      (hwrites .leases (by simp [StoreOp.written])) (hwrites .attempts (by simp [StoreOp.written]))
  | lease hgroup => exact leaseStep_leaseInv hgroup hinv
  | attempt hgroup => exact admitWorkflowAttempt_leaseInv hgroup hinv
  | _ => exact hinv.of_writes hwrites (by simp [StoreOp.written])

end Vibemux.Store
