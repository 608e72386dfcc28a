import Vibemux.Workflow.Checkpoint
import Vibemux.Lib.Table

/-!
# When a workflow may be resumed

The scope that the assessment looks at is the set of tasks that can be reached over the dependencies of
the contracts, and sorting the lists of the state changes nothing that it asks.
-/

namespace Vibemux

open Checked Controller List SortDedup

variable {current : RecoveryState} {checkpoint : RecoveryCheckpoint}
  {authorization : ResumeAuthorization} {observations : RecoveryObservations}

/-! ## The scope -/

/-- One task directly needs another. -/
def RecoveryState.DependsOn (state : RecoveryState) (task other : SpecIdentifier) : Prop :=
  ∃ contract ∈ state.contracts, contract.taskKey = task ∧ other ∈ contract.dependsOn

/-- The other task is the task itself or one that it needs, directly or not. -/
def RecoveryState.Needs (state : RecoveryState) : SpecIdentifier → SpecIdentifier → Prop :=
  Relation.ReflTransGen state.DependsOn

/-- The contracts as the graph of the worklist. -/
def dependencyGraph (contracts : List RecoveryContractRef) : List (SpecIdentifier × List SpecIdentifier) :=
  contracts.map fun contract => (contract.taskKey, contract.dependsOn)

section Scope

variable {contracts : List RecoveryContractRef} (h : (contracts.map RecoveryContractRef.taskKey).Nodup)
include h

theorem edge_dependencyGraph : Worklist.Edge (dependencyGraph contracts) = fun task other =>
    ∃ contract ∈ contracts, contract.taskKey = task ∧ other ∈ contract.dependsOn := by
  have hnodup : ((dependencyGraph contracts).map Prod.fst).Nodup := by
    rw [dependencyGraph, map_map]
    exact h
  funext task other
  rw [Worklist.edge_iff hnodup]
  simp [dependencyGraph]

/-- Where no task has two contracts the scope is what the task needs. -/
theorem mem_dependencyScope (task other : SpecIdentifier) : other ∈ dependencyScope contracts task ↔
    Relation.ReflTransGen (fun task other =>
      ∃ contract ∈ contracts, contract.taskKey = task ∧ other ∈ contract.dependsOn) task other := by
  rw [← edge_dependencyGraph h]
  exact Worklist.mem_reachable

end Scope

theorem validate_identities {state : RecoveryState} (h : state.validate = .ok ()) :
    (state.contracts.map RecoveryContractRef.taskKey).Nodup ∧
      (state.taskBudgets.map RecoveryTaskBudget.taskKey).Nodup := by
  simp only [RecoveryState.validate, RecoveryState.checkIdentities, RecoveryState.checkCounters,
    eq_ok] at h
  obtain ⟨-, -, ⟨htasks, -⟩, -, -, -, ⟨-, -, -, hbudgets, -⟩, -⟩ := h
  exact ⟨htasks, hbudgets⟩

/-- For every list of contracts with distinct keys, the loop of the scope ends, with exactly the tasks
that can be reached over the dependencies, and a valid state has no cycle and no unknown task among
its dependencies. -/
theorem dependencyScope_closure :
    (∀ contracts : List RecoveryContractRef, (contracts.map RecoveryContractRef.taskKey).Nodup →
      ∀ task, Worklist.Run (dependencyGraph contracts) [task] [] (dependencyScope contracts task) ∧
        ∀ other, other ∈ dependencyScope contracts task ↔
          Relation.ReflTransGen (fun task other => ∃ contract ∈ contracts,
            contract.taskKey = task ∧ other ∈ contract.dependsOn) task other) ∧
    ∀ state : RecoveryState, state.validate = .ok () →
      (∀ task, ¬Relation.TransGen state.DependsOn task task) ∧
        ∀ task other, state.DependsOn task other →
          state.hasTask task = true ∧ state.hasTask other = true := by
  constructor
  · intro contracts hkeys task
    exact ⟨Worklist.run_close (by simp [dependencyGraph, Nat.add_comm]), mem_dependencyScope hkeys task⟩
  · intro state hvalid
    have hkeys := (validate_identities hvalid).1
    simp only [RecoveryState.validate, RecoveryState.checkDependencies, eq_ok] at hvalid
    obtain ⟨-, ⟨hnamed, hclosed⟩, -⟩ := hvalid
    constructor
    · intro task hcycle
      obtain ⟨next, ⟨contract, hcontract, rfl, hnext⟩, hback⟩ := Relation.TransGen.head'_iff.1 hcycle
      exact hclosed contract hcontract next hnext ((mem_dependencyScope hkeys next _).2 hback)
    · rintro task other ⟨contract, hcontract, rfl, hother⟩
      exact ⟨decide_eq_true (mem_map_of_mem hcontract), ((hnamed contract hcontract).2.2 other hother).2⟩

/-! ## Normalization -/

section Normalize

variable (state : RecoveryState)

theorem normalize_taskKeys_perm :
    (state.normalize.contracts.map RecoveryContractRef.taskKey).Perm
      (state.contracts.map RecoveryContractRef.taskKey) := by
  refine ((perm_sortBy _ _).map _).trans ?_
  rw [map_map]
  exact .refl _

theorem normalize_dependsOn : state.normalize.DependsOn = state.DependsOn := by
  funext task other
  refine propext ⟨?_, ?_⟩
  · rintro ⟨contract, hmem, rfl, hother⟩
    obtain ⟨original, horiginal, rfl⟩ := mem_map.1 (mem_sortBy.1 hmem)
    exact ⟨original, horiginal, rfl, mem_sort.1 hother⟩
  · rintro ⟨contract, hmem, rfl, hother⟩
    exact ⟨_, mem_sortBy.2 (mem_map.2 ⟨contract, hmem, rfl⟩), rfl, mem_sort.2 hother⟩

theorem normalize_needs : state.normalize.Needs = state.Needs := by
  rw [RecoveryState.Needs, RecoveryState.Needs, normalize_dependsOn]

@[simp]
theorem mem_normalize_attempts {attempt : RecoveryAttemptRef} :
    attempt ∈ state.normalize.attempts ↔ attempt ∈ state.attempts := mem_sortBy

@[simp]
theorem mem_normalize_leases {lease : RecoveryLeaseRef} :
    lease ∈ state.normalize.leases ↔ lease ∈ state.leases := mem_sortBy

@[simp]
theorem mem_normalize_controllers {controller : RecoveryControllerRef} :
    controller ∈ state.normalize.controllers ↔ controller ∈ state.controllers := mem_sortBy

@[simp]
theorem mem_normalize_pendingApprovals {approval : RecoveryApprovalRef} :
    approval ∈ state.normalize.pendingApprovals ↔ approval ∈ state.pendingApprovals := mem_sortBy

@[simp]
theorem mem_normalize_messageCursors {cursor : RecoveryMessageCursor} :
    cursor ∈ state.normalize.messageCursors ↔ cursor ∈ state.messageCursors := mem_sortBy

@[simp]
theorem mem_normalize_unresolvedEffects {effect : RecoveryEffectRef} :
    effect ∈ state.normalize.unresolvedEffects ↔ effect ∈ state.unresolvedEffects := mem_sortBy

@[simp]
theorem mem_normalize_taskBudgets {budget : RecoveryTaskBudget} :
    budget ∈ state.normalize.taskBudgets ↔ budget ∈ state.taskBudgets := mem_sortBy

end Normalize

/-! ## What the assessment has looked at -/

/-- No controller, lease, attempt, approval, effect or outbox of the tasks in the scope is uncertain. -/
structure Settled (inScope : SpecIdentifier → Prop) (current : RecoveryState)
    (observations : RecoveryObservations) : Prop where
  approvals : ∀ approval ∈ current.pendingApprovals, ¬inScope approval.taskKey
  attempts : ∀ attempt ∈ current.attempts, inScope attempt.taskKey → attempt.state = .settled
  humans : ∀ controller ∈ current.controllers, inScope controller.taskKey → controller.phase ≠ .closed →
    ∀ operatorId, controller.owner ≠ .human operatorId
  controllers : ∀ controller ∈ current.controllers, inScope controller.taskKey → controller.phase ≠ .closed →
    controller.phase ≠ .quiescing ∧ controller.phase ≠ .awaitingAttach ∧
    ∃ observation ∈ observations.controllers, observation.resourceId = controller.controllerId ∧
      observation.presence = .present
  leases : ∀ lease ∈ current.leases, inScope lease.taskKey → lease.state ≠ .quarantined ∧
    (lease.state.holdsReservation = true → ∃ observation ∈ observations.leases,
      observation.resourceId = lease.leaseId ∧ observation.presence = .present)
  effects : ∀ effect ∈ current.unresolvedEffects, ∃ key, effect.taskKey = some key ∧ ¬inScope key
  outboxes : ∀ cursor ∈ current.messageCursors,
    cursor.acknowledgedOutboxSequence < cursor.outboxSequence →
    ∃ key, cursor.taskKey = some key ∧ ¬inScope key

section Blockers

variable {scope : List SpecIdentifier} {current : RecoveryState} {observations : RecoveryObservations}

theorem relevant_some (key : SpecIdentifier) : relevant scope (some key) = true ↔ key ∈ scope :=
  decide_eq_true_iff

/-- What is relevant belongs to no task or to one in the scope. -/
theorem not_relevant {taskKey : Option SpecIdentifier} (h : ¬relevant scope taskKey = true) :
    ∃ key, taskKey = some key ∧ key ∉ scope := by
  cases taskKey with
  | none => exact absurd rfl h
  | some key => exact ⟨key, rfl, fun hkey => h ((relevant_some key).2 hkey)⟩

theorem observedPresent_iff {seen : List RecoveryObservation} {id : Uuid} :
    observedPresent seen id = true ↔
      ∃ observation ∈ seen, observation.resourceId = id ∧ observation.presence = .present := by
  simp [observedPresent]

theorem holdsReservation_of_quarantined {state : LeaseState} (h : state = .quarantined) :
    state.holdsReservation = true := h ▸ rfl

/-- When no filter finds anything the scope is settled. -/
theorem settled_of_blockers (happrovals : pendingChallenges scope current = [])
    (hhumans : humanControllers scope current = []) (hattempts : openAttempts scope current = [])
    (hcontrollers : uncertainControllers scope current observations = [])
    (hleases : uncertainLeases scope current observations = []) (heffects : openEffects scope current = [])
    (houtboxes : openOutboxes scope current = []) : Settled (· ∈ scope) current observations := by
  simp only [pendingChallenges, humanControllers, openAttempts, uncertainControllers, uncertainLeases,
    openEffects, openOutboxes, map_eq_nil_iff, filter_eq_nil_iff]
    at happrovals hhumans hattempts hcontrollers hleases heffects houtboxes
  refine ⟨?_, ?_, ?_, ?_, ?_, ?_, ?_⟩
  · intro approval hmem hscope
    exact happrovals approval hmem ((relevant_some _).2 hscope)
  · intro attempt hmem hscope
    have hnone := hattempts attempt hmem
    simpa [(relevant_some _).2 hscope] using hnone
  · intro controller hmem hscope hopen operatorId howner
    have hnone := hhumans controller hmem
    simp [(relevant_some _).2 hscope, howner, ControllerOwner.isHuman, hopen] at hnone
  · intro controller hmem hscope hopen
    have hnone := hcontrollers controller hmem
    simp only [(relevant_some _).2 hscope, Bool.true_and, Bool.and_eq_true, bne_iff_ne, ne_eq, hopen,
      not_false_eq_true, true_and, Bool.or_eq_true, beq_iff_eq, not_or, Bool.not_eq_true',
      Bool.not_eq_false] at hnone
    exact ⟨hnone.1.1, hnone.1.2, observedPresent_iff.1 hnone.2⟩
  · intro lease hmem hscope
    have hnone := hleases lease hmem
    simp only [(relevant_some _).2 hscope, Bool.true_and, Bool.and_eq_true, Bool.or_eq_true, beq_iff_eq,
      Bool.not_eq_true', not_and, not_or, Bool.not_eq_false] at hnone
    exact ⟨fun hstate => (hnone (holdsReservation_of_quarantined hstate)).1 hstate,
      fun hheld => observedPresent_iff.1 (hnone hheld).2⟩
  · intro effect hmem
    exact not_relevant (heffects effect hmem)
  · intro cursor hmem hopen
    have hnone := houtboxes cursor hmem
    refine not_relevant fun hrelevant => hnone ?_
    rw [hrelevant, Bool.true_and]
    exact decide_eq_true hopen

end Blockers

/-! ## Continuity -/

/-- The counters of one task moved only forward. -/
@[mk_iff]
structure BudgetForward (before after : RecoveryTaskBudget) : Prop where
  taskKey : before.taskKey = after.taskKey
  maxTurns : before.maxTurns = after.maxTurns
  maxRepairs : before.maxRepairs = after.maxRepairs
  maxModelRequests : before.maxModelRequests = after.maxModelRequests
  turnsUsed : before.turnsUsed ≤ after.turnsUsed
  repairsUsed : before.repairsUsed ≤ after.repairsUsed
  modelRequestsUsed : before.modelRequestsUsed ≤ after.modelRequestsUsed

/-- The sequences of one participant moved only forward. -/
@[mk_iff]
structure CursorForward (before after : RecoveryMessageCursor) : Prop where
  participantId : before.participantId = after.participantId
  taskKey : before.taskKey = after.taskKey
  inboxSequence : before.inboxSequence ≤ after.inboxSequence
  outboxSequence : before.outboxSequence ≤ after.outboxSequence
  acknowledged : before.acknowledgedOutboxSequence ≤ after.acknowledgedOutboxSequence

/-- The current state is the saved one, with counters that moved only forward. -/
structure Continued (saved current : RecoveryState) : Prop where
  workflowVersion : saved.workflowVersion ≤ current.workflowVersion
  committedEventCursor : saved.committedEventCursor ≤ current.committedEventCursor
  decisions : current.loopBudget.decisionsRemaining ≤ saved.loopBudget.decisionsRemaining
  malformedRepairs :
    current.loopBudget.malformedRepairsRemaining ≤ saved.loopBudget.malformedRepairsRemaining
  modelRequests : current.loopBudget.modelRequestsRemaining ≤ saved.loopBudget.modelRequestsRemaining
  deadline : current.loopBudget.deadlineUnixMs = saved.loopBudget.deadlineUnixMs
  taskBudgets : (∀ before ∈ saved.taskBudgets, ∃ after ∈ current.taskBudgets, BudgetForward before after) ∧
    ∀ after ∈ current.taskBudgets, ∃ before ∈ saved.taskBudgets, BudgetForward before after
  messageCursors :
    (∀ before ∈ saved.messageCursors, ∃ after ∈ current.messageCursors, CursorForward before after) ∧
    ∀ after ∈ current.messageCursors, ∃ before ∈ saved.messageCursors, CursorForward before after
  /-- Nothing else changed but the phase. -/
  unchanged : expectedState saved current.normalize = current.normalize

/-- A phase that may follow. -/
def PhaseForward (before after : WorkflowPhase) : Prop :=
  (before.isTerminal = true → after = before) ∧
    (before = .cancelRequested → after = .cancelRequested ∨ after = .cancelled)

/-- What the continuity check asks of two states. -/
@[mk_iff]
structure Follows (saved current : RecoveryState) : Prop where
  phase : PhaseForward saved.workflowPhase current.workflowPhase
  workflowVersion : saved.workflowVersion ≤ current.workflowVersion
  committedEventCursor : saved.committedEventCursor ≤ current.committedEventCursor
  decisions : current.loopBudget.decisionsRemaining ≤ saved.loopBudget.decisionsRemaining
  malformedRepairs :
    current.loopBudget.malformedRepairsRemaining ≤ saved.loopBudget.malformedRepairsRemaining
  modelRequests : current.loopBudget.modelRequestsRemaining ≤ saved.loopBudget.modelRequestsRemaining
  deadline : current.loopBudget.deadlineUnixMs = saved.loopBudget.deadlineUnixMs
  taskBudgets : Forall₂ BudgetForward saved.taskBudgets current.taskBudgets
  messageCursors : Forall₂ CursorForward saved.messageCursors current.messageCursors
  unchanged : expectedState saved current = current

section Pointwise

variable {α : Type} {r : α → α → Prop} {left middle right : List α}

theorem forEach_zip_eq_ok {check : α → α → Except RecoveryError Unit} (left right : List α)
    (hcheck : ∀ a b, check a b = .ok () ↔ r a b) :
    (right.length = left.length ∧ ∀ pair ∈ left.zip right, check pair.1 pair.2 = .ok ()) ↔
      Forall₂ r left right := by
  simp [forall₂_iff_zip, hcheck, eq_comm]

theorem forall_related_of_forall₂ (h : Forall₂ r left right) :
    (∀ a ∈ left, ∃ b ∈ right, r a b) ∧ ∀ b ∈ right, ∃ a ∈ left, r a b := by
  induction h with
  | nil => simp
  | cons hfirst _ ih =>
    simp only [mem_cons, forall_eq_or_imp, exists_eq_or_imp]
    exact ⟨⟨.inl hfirst, fun a ha => .inr (ih.1 a ha)⟩, .inl hfirst, fun b hb => .inr (ih.2 b hb)⟩

end Pointwise

theorem checkRecoveryContinuity_eq_ok {saved current : RecoveryState} :
    checkRecoveryContinuity saved current = .ok () ↔ Follows saved current := by
  have hbudget (before after : RecoveryTaskBudget) :
      checkTaskBudget before after = .ok () ↔ BudgetForward before after := by
    simp only [checkTaskBudget, eq_ok, budgetForward_iff, and_assoc]
  have hcursor (before after : RecoveryMessageCursor) :
      checkMessageCursor before after = .ok () ↔ CursorForward before after := by
    simp only [checkMessageCursor, eq_ok, cursorForward_iff]
  simp only [checkRecoveryContinuity, eq_ok, forEach_eq_ok, follows_iff, ← forEach_zip_eq_ok _ _ hbudget,
    ← forEach_zip_eq_ok _ _ hcursor, PhaseForward, and_assoc]
  -- the settings are among what does not change
  refine and_iff_right_of_imp ?_
  rintro ⟨-, -, -, -, -, -, -, -, -, -, -, -, hexpected⟩
  exact (congrArg RecoveryState.contextSettings hexpected).symm

theorem PhaseForward.trans {a b c : WorkflowPhase} (h : PhaseForward a b) (h' : PhaseForward b c) :
    PhaseForward a c := by
  refine ⟨fun hterminal => ?_, fun hrequested => ?_⟩
  · obtain rfl := h.1 hterminal
    exact h'.1 hterminal
  · rcases h.2 hrequested with rfl | rfl
    · exact h'.2 rfl
    · exact .inr (h'.1 rfl)

theorem Follows.refl (state : RecoveryState) : Follows state state where
  phase := ⟨fun _ => rfl, .inl⟩
  workflowVersion := le_rfl
  committedEventCursor := le_rfl
  decisions := le_rfl
  malformedRepairs := le_rfl
  modelRequests := le_rfl
  deadline := rfl
  taskBudgets := forall₂_same.2 fun _ _ => ⟨rfl, rfl, rfl, rfl, le_rfl, le_rfl, le_rfl⟩
  messageCursors := forall₂_same.2 fun _ _ => ⟨rfl, rfl, le_rfl, le_rfl, le_rfl⟩
  unchanged := rfl

theorem Follows.trans {a b c : RecoveryState} (h : Follows a b) (h' : Follows b c) : Follows a c where
  phase := h.phase.trans h'.phase
  workflowVersion := h.workflowVersion.trans h'.workflowVersion
  committedEventCursor := h.committedEventCursor.trans h'.committedEventCursor
  decisions := h'.decisions.trans h.decisions
  malformedRepairs := h'.malformedRepairs.trans h.malformedRepairs
  modelRequests := h'.modelRequests.trans h.modelRequests
  deadline := h'.deadline.trans h.deadline
  taskBudgets := Table.forall₂_trans (fun _ _ _ h h' => ⟨h.taskKey.trans h'.taskKey, h.maxTurns.trans h'.maxTurns,
    h.maxRepairs.trans h'.maxRepairs, h.maxModelRequests.trans h'.maxModelRequests,
    h.turnsUsed.trans h'.turnsUsed, h.repairsUsed.trans h'.repairsUsed,
    h.modelRequestsUsed.trans h'.modelRequestsUsed⟩) h.taskBudgets h'.taskBudgets
  messageCursors := Table.forall₂_trans (fun _ _ _ h h' => ⟨h.participantId.trans h'.participantId,
    h.taskKey.trans h'.taskKey, h.inboxSequence.trans h'.inboxSequence,
    h.outboxSequence.trans h'.outboxSequence, h.acknowledged.trans h'.acknowledged⟩)
    h.messageCursors h'.messageCursors
  unchanged := (congrArg (expectedState · c) h.unchanged).trans h'.unchanged

/-- What is referred to is the same in two states. -/
def SameReferences (a b : RecoveryState) : Prop :=
  b.contracts = a.contracts ∧ b.attempts = a.attempts ∧ b.leases = a.leases ∧
    b.controllers = a.controllers ∧ b.pendingApprovals = a.pendingApprovals ∧
    b.unresolvedEffects = a.unresolvedEffects ∧
    b.messageCursors.map RecoveryMessageCursor.participantId =
      a.messageCursors.map RecoveryMessageCursor.participantId

/-- The continuity check is a preorder on recovery states, so along every chain of states that it
accepts counters move only forward, nothing is added or removed, and the phases that end a workflow
stay. -/
theorem recoveryContinuity_preorder :
    (∀ state, checkRecoveryContinuity state state = .ok ()) ∧
    (∀ a b c, checkRecoveryContinuity a b = .ok () → checkRecoveryContinuity b c = .ok () →
      checkRecoveryContinuity a c = .ok ()) ∧
    ∀ a b, Relation.ReflTransGen (fun a b => checkRecoveryContinuity a b = .ok ()) a b →
      Follows a b ∧ SameReferences a b := by
  simp only [checkRecoveryContinuity_eq_ok]
  refine ⟨.refl, fun _ _ _ => .trans, fun a b h => ?_⟩
  have hfollows : Follows a b := by
    induction h with
    | refl => exact .refl a
    | tail _ hlast ih => exact ih.trans hlast
  have hkept {α : Type} (f : RecoveryState → α) : f (expectedState a b) = f b :=
    congrArg f hfollows.unchanged
  refine ⟨hfollows, (hkept (·.contracts)).symm, (hkept (·.attempts)).symm, (hkept (·.leases)).symm,
    (hkept (·.controllers)).symm, (hkept (·.pendingApprovals)).symm, (hkept (·.unresolvedEffects)).symm, ?_⟩
  rw [← forall₂_eq_eq_eq, forall₂_map_left_iff, forall₂_map_right_iff]
  exact (hfollows.messageCursors.imp fun _ _ h => h.participantId.symm).flip

theorem checkRecoveryContinuity_continued {saved current : RecoveryState}
    (h : checkRecoveryContinuity saved current.normalize = .ok ()) : Continued saved current := by
  have h := checkRecoveryContinuity_eq_ok.1 h
  have hforward := forall_related_of_forall₂ h.taskBudgets
  have hmoved := forall_related_of_forall₂ h.messageCursors
  simp only [mem_normalize_taskBudgets] at hforward
  simp only [mem_normalize_messageCursors] at hmoved
  exact ⟨h.workflowVersion, h.committedEventCursor, h.decisions, h.malformedRepairs, h.modelRequests,
    h.deadline, hforward, hmoved, h.unchanged⟩

/-! ## Ready -/

/-- What is certain when a task is ready to be continued. -/
structure ReadyCertain (checkpoint : RecoveryCheckpoint) (current : RecoveryState)
    (observations : RecoveryObservations) (authorization : ResumeAuthorization) (nowMs : Nat)
    (task : SpecIdentifier) (loopBudget : LoopBudget) (taskBudget : RecoveryTaskBudget) : Prop where
  running : current.workflowPhase.isTerminal = false ∧ current.workflowPhase ≠ .cancelRequested
  next : current.nextAction = .continueTask task
  settled : Settled (current.Needs task) current observations
  /-- The authorization is for this checkpoint and version, or is the stored policy. -/
  authorized : authorization = .operatorStart checkpoint.checkpointId current.workflowVersion ∨
    ∃ policy, authorization = .preapproved policy ∧ current.preapprovedResumePolicy = some policy
  loopBudget_eq : loopBudget = current.loopBudget
  taskBudget_mem : taskBudget ∈ current.taskBudgets ∧ taskBudget.taskKey = task
  /-- A task has one budget. -/
  taskBudget_unique : ∀ budget ∈ current.taskBudgets, budget.taskKey = task → budget = taskBudget
  inTime : nowMs < loopBudget.deadlineUnixMs
  decisions : 0 < loopBudget.decisionsRemaining
  modelRequests : 0 < loopBudget.modelRequestsRemaining
  turns : taskBudget.turnsUsed < taskBudget.maxTurns
  taskRequests : taskBudget.modelRequestsUsed < taskBudget.maxModelRequests
  continued : Continued checkpoint.state current

theorem authorizes_iff :
    authorization.authorizes checkpoint current = true ↔
      authorization = .operatorStart checkpoint.checkpointId current.workflowVersion ∨
        ∃ policy, authorization = .preapproved policy ∧ current.preapprovedResumePolicy = some policy := by
  cases authorization <;> simp [ResumeAuthorization.authorizes]

section

variable {nowMs : Nat} {loopBudget : LoopBudget} {taskBudget : RecoveryTaskBudget}

theorem assessTask_ready {taskKey task : SpecIdentifier}
    (h : assessTask checkpoint current observations authorization nowMs taskKey =
      .ok (.ready task loopBudget taskBudget)) :
    taskKey = task ∧ Settled (· ∈ dependencyScope current.contracts task) current observations ∧
      authorization.authorizes checkpoint current = true ∧ current.loopBudget = loopBudget ∧
      current.taskBudgets.find? (fun budget => budget.taskKey = task) = some taskBudget ∧
      budgetExhausted current.loopBudget taskBudget nowMs = false := by
  unfold assessTask at h
  dsimp only at h
  split_ifs at h with happrovals hhumans hblocked hauthorized
  · cases h
  · cases h
  · cases h
  · cases h
  · simp only [eq_ok] at h
    obtain ⟨found, hfound, hready⟩ := h
    split_ifs at hready with hexhausted
    cases hready
    simp only [not_or, ne_eq, not_not] at happrovals hhumans hblocked
    obtain ⟨hattempts, hcontrollers, hleases, heffects, houtboxes⟩ := hblocked
    exact ⟨rfl, settled_of_blockers happrovals hhumans hattempts hcontrollers hleases heffects houtboxes,
      Bool.eq_true_of_not_eq_false hauthorized, rfl, hfound, Bool.eq_false_of_not_eq_true hexhausted⟩

theorem assessCurrent_ready {task : SpecIdentifier}
    (h : assessCurrent checkpoint current observations authorization nowMs =
      .ok (.ready task loopBudget taskBudget)) :
    (current.workflowPhase.isTerminal = false ∧ current.workflowPhase ≠ .cancelRequested) ∧
      current.nextAction = .continueTask task ∧
      assessTask checkpoint current observations authorization nowMs task =
        .ok (.ready task loopBudget taskBudget) := by
  unfold assessCurrent at h
  by_cases hstopped : current.workflowPhase.isTerminal = true ∨ current.workflowPhase = .cancelRequested
  · rw [if_pos hstopped] at h
    cases h
  rw [if_neg hstopped] at h
  rw [not_or, Bool.not_eq_true] at hstopped
  cases hnext : current.nextAction with
  | continueTask taskKey =>
    rw [hnext] at h
    dsimp only at h
    split_ifs at h with hunknown
    · cases h
    · obtain ⟨rfl, -⟩ := assessTask_ready h
      exact ⟨hstopped, rfl, h⟩
  | inspect => simp [hnext] at h
  | reconcile => simp [hnext] at h
  | observeAttempt requestId => simp [hnext] at h

end

/-- Sorting the lists and naming the scope in another way changes nothing. -/
theorem Settled.of_normalize {inScope needed : SpecIdentifier → Prop}
    (h : Settled inScope current.normalize observations)
    (hscope : ∀ task, inScope task ↔ needed task) : Settled needed current observations := by
  obtain rfl : inScope = needed := funext fun task => propext (hscope task)
  obtain ⟨happrovals, hattempts, hhumans, hcontrollers, hleases, heffects, houtboxes⟩ := h
  simp only [mem_normalize_pendingApprovals, mem_normalize_attempts, mem_normalize_controllers,
    mem_normalize_leases, mem_normalize_unresolvedEffects, mem_normalize_messageCursors]
    at happrovals hattempts hhumans hcontrollers hleases heffects houtboxes
  exact ⟨happrovals, hattempts, hhumans, hcontrollers, hleases, heffects, houtboxes⟩

/-- A task is ready only when everything about it is certain. -/
theorem assessResume_ready {encoding : RecoveryEncoding} {checkpoint : RecoveryCheckpoint}
    {current : RecoveryState} {observations : RecoveryObservations} {authorization : ResumeAuthorization}
    {nowMs : Nat} {task : SpecIdentifier} {loopBudget : LoopBudget} {taskBudget : RecoveryTaskBudget}
    (h : assessResume encoding checkpoint current observations authorization nowMs =
      .ok (.ready task loopBudget taskBudget)) :
    ReadyCertain checkpoint current observations authorization nowMs task loopBudget taskBudget := by
  simp only [assessResume, eq_ok] at h
  obtain ⟨-, hvalid, hcontinuity, -, hassessed⟩ := h
  obtain ⟨htasks, hbudgets⟩ := validate_identities hvalid
  obtain ⟨hrunning, hnext, htask⟩ := assessCurrent_ready hassessed
  obtain ⟨-, hsettled, hauthorized, rfl, hfound, hexhausted⟩ := assessTask_ready htask
  have hnodup : (current.normalize.contracts.map RecoveryContractRef.taskKey).Nodup :=
    (normalize_taskKeys_perm current).nodup_iff.2 htasks
  have hscope (other : SpecIdentifier) :
      other ∈ dependencyScope current.normalize.contracts task ↔ current.Needs task other := by
    rw [← normalize_needs]
    exact mem_dependencyScope hnodup task other
  have hmem : taskBudget ∈ current.taskBudgets :=
    (mem_normalize_taskBudgets current).1 (mem_of_find?_eq_some hfound)
  have hkey := find?_some hfound
  have hbudgetKey : taskBudget.taskKey = task := of_decide_eq_true hkey
  simp only [budgetExhausted, Bool.or_eq_false_iff, decide_eq_false_iff_not, not_le, beq_eq_false_iff_ne,
    ne_eq] at hexhausted
  obtain ⟨⟨⟨⟨hdeadline, hdecisions⟩, hrequests⟩, hturns⟩, htaskRequests⟩ := hexhausted
  exact {
    running := hrunning
    next := hnext
    settled := hsettled.of_normalize hscope
    authorized := authorizes_iff.1 hauthorized
    loopBudget_eq := rfl
    taskBudget_mem := ⟨hmem, hbudgetKey⟩
    taskBudget_unique := fun budget hbudget hbudgetTask =>
      inj_on_of_nodup_map hbudgets hbudget hmem (hbudgetTask.trans hbudgetKey.symm)
    inTime := hdeadline
    decisions := Nat.pos_of_ne_zero hdecisions
    modelRequests := Nat.pos_of_ne_zero hrequests
    turns := hturns
    taskRequests := htaskRequests
    continued := checkRecoveryContinuity_continued hcontinuity }

/-! ### A workflow that continues -/

def workerTask : SpecIdentifier := ⟨"worker".toList, by decide⟩
def reviewTask : SpecIdentifier := ⟨"review".toList, by decide⟩

/-- The review needs the worker, whose lease and controller are still there. -/
def sampleRecovery : RecoveryState where
  workflowId := .fromU128 1
  workflowVersion := 7
  workflowPhase := .blocked
  planGeneration := 1
  planDigest := ⟨1⟩
  policyDigest := ⟨2⟩
  committedEventCursor := 19
  contracts := [⟨reviewTask, ⟨3⟩, 1, ⟨4⟩, [workerTask]⟩, ⟨workerTask, ⟨5⟩, 1, ⟨4⟩, []⟩]
  attempts := []
  leases := [⟨.fromU128 2, workerTask, 3, .active⟩]
  controllers := [⟨.fromU128 3, .fromU128 4, workerTask, 2, 5, .native, .paused⟩]
  pendingApprovals := []
  messageCursors := [⟨.fromU128 4, some workerTask, 2, 3, 3⟩]
  artifactDigests := []
  verifierReceiptIds := []
  unresolvedEffects := []
  loopBudget := ⟨4, 1, 5, 1000⟩
  taskBudgets := [⟨reviewTask, 2, 5, 1, 2, 2, 6⟩, ⟨workerTask, 2, 5, 1, 2, 2, 6⟩]
  contextSettings := ⟨some 1000000, some ⟨6⟩⟩
  preapprovedResumePolicy := none
  nextAction := .continueTask reviewTask

def sampleEncoding : RecoveryEncoding := ⟨fun _ => some 2048, fun _ => some ⟨7⟩⟩

def sampleCheckpoint : RecoveryCheckpoint := ⟨1, .fromU128 6, sampleRecovery, ⟨7⟩⟩

def sampleObservations : RecoveryObservations :=
  ⟨8, [⟨.fromU128 3, 2, .present⟩], [⟨.fromU128 2, 3, .present⟩]⟩

/-- One version later, with one decision and one turn spent. -/
def sampleCurrent : RecoveryState :=
  { sampleRecovery with
    workflowVersion := 8
    committedEventCursor := 21
    loopBudget := ⟨3, 1, 4, 1000⟩
    taskBudgets := [⟨reviewTask, 3, 5, 1, 2, 3, 6⟩, ⟨workerTask, 2, 5, 1, 2, 2, 6⟩] }

theorem sampleCurrent_ready :
    assessResume sampleEncoding sampleCheckpoint sampleCurrent sampleObservations
        (.operatorStart (.fromU128 6) 8) 500 =
      .ok (.ready reviewTask ⟨3, 1, 4, 1000⟩ ⟨reviewTask, 3, 5, 1, 2, 3, 6⟩) := by
  decide +kernel

/-- The review task of the sample goes on. -/
theorem assessResume_ready_sample :
    ReadyCertain sampleCheckpoint sampleCurrent sampleObservations (.operatorStart (.fromU128 6) 8) 500
      reviewTask ⟨3, 1, 4, 1000⟩ ⟨reviewTask, 3, 5, 1, 2, 3, 6⟩ :=
  assessResume_ready sampleCurrent_ready

end Vibemux
