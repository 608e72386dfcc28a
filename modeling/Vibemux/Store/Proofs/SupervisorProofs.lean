import Vibemux.Store.Proofs.AcceptanceProofs

/-!
# Accepted proposals are consistent plans

An accepted proposal passed every check. The order of a plan is checked through a map of positions; that
no task is repeated follows from the size of the map.
-/

namespace Vibemux

open List OrderedMap SortDedup

variable {proposal : SupervisorProposal} {observation : SupervisorObservation}
  {order : List SpecIdentifier} {digests : List Sha256Digest}

@[simp]
theorem codeIf_eq_nil {found : Prop} [Decidable found] {code : String} :
    codeIf found code = [] ↔ ¬ found := by
  simp [codeIf]

/-- A list in which no element's mark is among the earlier ones. -/
theorem nodup_of_not_mem_take {α β : Type} {mark : α → Option β} {l : List α}
    (h : ∀ entry ∈ l.zipIdx, ∀ b, mark entry.1 = some b → b ∉ (l.take entry.2).filterMap mark) :
    (l.filterMap mark).Nodup := by
  induction l using reverseRecOn with
  | nil => exact nodup_nil
  | append_singleton l a ih =>
    have hinit : (l.filterMap mark).Nodup := by
      refine ih fun entry hentry b hb => ?_
      have hlt := snd_lt_of_mem_zipIdx hentry
      have htake : (l ++ [a]).take entry.2 = l.take entry.2 :=
        take_append_of_le_length (by omega)
      exact htake ▸ h entry (by simp [zipIdx_append, hentry]) b hb
    have hlast := h (a, l.length) (by simp [zipIdx_append])
    rw [filterMap_append, nodup_append]
    cases hmark : mark a with
    | none => simp [hmark, hinit]
    | some b =>
      have hb := hlast b hmark
      rw [take_left] at hb
      simp only [filterMap_cons, hmark, filterMap_nil]
      refine ⟨hinit, nodup_singleton b, fun x hx y hy => ?_⟩
      rintro rfl
      exact hb (mem_singleton.1 hy ▸ hx)

/-! ## Plans and integrations -/

/-- The order has every task once, after the tasks it depends on. -/
structure PlanOrder (execution : SupervisorExecution) (order : List SpecIdentifier) : Prop where
  once : order.Nodup
  all : ∀ task ∈ OrderedMap.keys execution.tasks, task ∈ order
  ordered : ∀ task binding, (task, binding) ∈ execution.tasks → ∀ dependency ∈ binding.dependencies,
    ∃ before after : Nat, order[before]? = some dependency ∧ order[after]? = some task ∧ before < after

theorem getElem?_of_planPosition {task : SpecIdentifier} {i : Nat} (h : planPosition order task = some i) :
    order[i]? = some task :=
  mem_zipIdx_iff_getElem?.1 (mem_reverse.1 (mem_of_get h))

theorem planOrder_of_isPlanOrder {execution : SupervisorExecution}
    (h : isPlanOrder execution order = true) : PlanOrder execution order := by
  simp only [isPlanOrder, Bool.and_eq_true, beq_iff_eq, all_eq_true, Option.isSome_iff_exists] at h
  obtain ⟨⟨⟨hlength, hpositions⟩, hall⟩, hdependencies⟩ := h
  refine ⟨nodup_of_length_sortDedup (hpositions.trans hlength.symm), fun task htask => ?_, ?_⟩
  · obtain ⟨i, hi⟩ := hall task htask
    exact mem_of_getElem? (getElem?_of_planPosition hi)
  · intro task binding hmem dependency hdependency
    have hbefore := hdependencies (task, binding) hmem dependency hdependency
    cases hfirst : planPosition order dependency with
    | none => simp [hfirst] at hbefore
    | some before =>
      cases hthen : planPosition order task with
      | none => simp [hfirst, hthen] at hbefore
      | some after =>
        simp only [hfirst, hthen, decide_eq_true_eq] at hbefore
        exact ⟨before, after, getElem?_of_planPosition hfirst, getElem?_of_planPosition hthen, hbefore⟩

/-- The digests are those of the accepted candidates, in a comparison that of the winner, once each. -/
structure IntegratesAccepted (observation : SupervisorObservation) (digests : List Sha256Digest) :
    Prop where
  once : digests.Nodup
  exact : ∀ digest, digest ∈ digests ↔ if observation.workflow.mode = .compare then
      observation.selection.bind SelectionOutcome.winner = some digest
    else ∃ task ∈ observation.workflow.tasks, task.acceptedCandidate = some digest
  all : ∀ task ∈ observation.workflow.tasks, task.acceptedCandidate ≠ none

theorem integratesAccepted_of_approved (h : integrationApproved observation digests = true) :
    IntegratesAccepted observation digests := by
  simp only [integrationApproved, Bool.and_eq_true, beq_iff_eq, all_eq_true] at h
  obtain ⟨⟨⟨hlength, -⟩, hsame⟩, hready⟩ := h
  refine ⟨nodup_of_length_sortDedup hlength, fun digest => ?_, fun task htask => ?_⟩
  · rw [← mem_sortDedup, hsame, mem_sortDedup]
    split_ifs <;> simp [eq_comm]
  · exact Option.isSome_iff_ne_none.1 (hready task htask).1

/-! ## Proposals -/

/-- What an accepted decision says, by its tool. -/
structure ConsistentDecision (proposal : SupervisorProposal) (observation : SupervisorObservation)
    (decision : SupervisorDecision) : Prop where
  version : decision.expectedWorkflowVersion = observation.workflow.version
  plan : ∀ order, decision.action = .proposePlan order → PlanOrder observation.execution order ∧
    ∀ task ∈ order, task ∈ OrderedMap.keys observation.execution.tasks
  assignment : ∀ taskKey slotId, decision.action = .assignTask taskKey slotId →
    (∃ slots, OrderedMap.get observation.eligibleSlots taskKey = some slots ∧ slotId ∈ slots) ∧
    (∃ task, observation.workflow.task taskKey = some task ∧ task.turnsUsed < task.maxTurns) ∧
    ∃ binding, OrderedMap.get observation.execution.tasks taskKey = some binding ∧
      ∀ dependency ∈ binding.dependencies, ∃ task, observation.workflow.task dependency = some task ∧
        task.acceptedCandidate ≠ none
  integration : ∀ digests, decision.action = .proposeIntegration digests →
    IntegratesAccepted observation digests
  selection : ∀ digest, decision.action = .proposeCandidateSelection digest →
    observation.selection.map SelectionOutcome.winner = some digest
  alone : decision.action.standsAlone = true → proposal.decisions = [decision]

/-- The decisions of the proposal have keys and targets of their own, and each is consistent. -/
structure ConsistentProposal (proposal : SupervisorProposal) (observation : SupervisorObservation) :
    Prop where
  keys : (proposal.decisions.map SupervisorDecision.idempotencyKey).Nodup
  targets : (proposal.decisions.filterMap fun decision => decision.action.target).Nodup
  decisions : ∀ decision ∈ proposal.decisions, ConsistentDecision proposal observation decision

theorem consistentDecision {decision : SupervisorDecision} {earlier : List (List Char)}
    {targets : List SpecIdentifier} (hmem : decision ∈ proposal.decisions)
    (hfacts : decisionRejections observation.facts earlier decision = [])
    (hruntime : runtimeRejections observation proposal targets decision.action = []) :
    ConsistentDecision proposal observation decision := by
  simp only [decisionRejections, runtimeRejections, append_eq_nil_iff, codeIf_eq_nil, not_not,
    not_and] at hfacts hruntime
  obtain ⟨⟨⟨-, hversion⟩, -⟩, htool⟩ := hfacts
  obtain ⟨⟨⟨-, haction⟩, -⟩, halone⟩ := hruntime
  refine ⟨hversion, fun order horder => ?_, fun taskKey slotId hassign => ?_,
    fun digests hdigests => ?_, fun digest hdigest => ?_, fun hstands => ?_⟩
  · simp only [horder, toolRejections, codeIf_eq_nil, not_exists, not_and, not_not,
      Bool.not_eq_false] at htool haction
    exact ⟨planOrder_of_isPlanOrder haction, htool⟩
  · simp only [hassign, toolRejections, assignmentRejections, append_eq_nil_iff, codeIf_eq_nil,
      not_not, Bool.not_eq_false, Option.any_eq_true, decide_eq_true_eq] at htool haction
    obtain ⟨⟨hslot, task, htask, hopen⟩, hready⟩ := haction
    simp only [WorkflowTask.isOpen, Bool.and_eq_true, decide_eq_true_eq] at hopen
    obtain ⟨binding, hbinding⟩ := Option.isSome_iff_exists.1 (mem_keys_iff.1 htool.1)
    refine ⟨hslot, ⟨task, htask, hopen.2⟩, binding, hbinding, fun dependency hdependency => ?_⟩
    simp only [dependenciesReady, hbinding, Option.all_some, all_eq_true, Option.any_eq_true,
      Option.isSome_iff_ne_none] at hready
    exact hready dependency hdependency
  · simp only [hdigests, codeIf_eq_nil, Bool.not_eq_false] at haction
    exact integratesAccepted_of_approved haction
  · simp only [hdigest, toolRejections, codeIf_eq_nil, not_not] at htool
    exact htool
  · have hfew : proposal.decisions.length ≤ 1 := Nat.le_of_not_lt fun hmany => halone hmany hstands
    obtain ⟨only, honly⟩ := length_eq_one_iff.1 (hfew.antisymm (length_pos_of_mem hmem))
    rw [honly] at hmem ⊢
    rw [mem_singleton.1 hmem]

/-- A proposal without rejections is consistent. -/
theorem accepted_proposal_consistent (h : runtimeProposalRejections proposal observation = []) :
    ConsistentProposal proposal observation := by
  simp only [runtimeProposalRejections, sortDedup_eq_nil, append_eq_nil_iff, proposalRejections,
    flatMap_eq_nil_iff] at h
  obtain ⟨⟨hfacts, -⟩, hruntime⟩ := h
  refine ⟨?_, nodup_of_not_mem_take fun entry hentry task htask => ?_, fun decision hdecision => ?_⟩
  · rw [← filterMap_eq_map]
    refine nodup_of_not_mem_take fun entry hentry key hkey => ?_
    have hvalid := hfacts entry hentry
    simp only [decisionRejections, append_eq_nil_iff, codeIf_eq_nil, not_or] at hvalid
    rw [filterMap_eq_map, ← Option.some.inj hkey]
    exact hvalid.1.1.1.2
  · have hvalid := hruntime entry hentry
    simp only [runtimeRejections, htask, append_eq_nil_iff, codeIf_eq_nil] at hvalid
    exact hvalid.1.2.1
  · obtain ⟨i, hi⟩ := getElem?_of_mem hdecision
    have hentry : (decision, i) ∈ proposal.decisions.zipIdx := mem_zipIdx_iff_getElem?.2 hi
    exact consistentDecision hdecision (hfacts _ hentry) (hruntime _ hentry)

/-- A task that waits for the sample one. -/
def laterKey : SpecIdentifier := ⟨"later".toList, by decide⟩

open Store in
/-- The sample task has its accepted candidate, and a second task that depends on it is open. -/
def sampleObservation : SupervisorObservation where
  execution := { sampleSupervision with
    tasks := [(laterKey, ⟨⟨13⟩, 1, [sampleSlot], [sampleKey]⟩), (sampleKey, ⟨⟨12⟩, 1, [sampleSlot], []⟩)]
    taskGates := [(laterKey, .active), (sampleKey, .active)] }
  workflow := { sampleRecord with
    phase := .running
    tasks := [⟨sampleKey, ⟨12⟩, 1, [sampleSuite], .accepted, 1, 0, 3, 0, some ⟨4⟩, none⟩,
      ⟨laterKey, ⟨13⟩, 1, [sampleSuite], .pending, 0, 0, 3, 0, none, none⟩] }
  eligibleSlots := [(laterKey, [sampleSlot])]
  candidates := []
  selection := none

open Store in
/-- The open task is assigned and the finished one is paused. -/
def sampleProposal : SupervisorProposal :=
  ⟨[⟨"assign".toList, 1, .assignTask laterKey sampleSlot⟩, ⟨"pause".toList, 1, .pauseRun sampleKey⟩],
    "next".toList, []⟩

open Store in
/-- The two tasks in the order of their dependency. -/
def planProposal : SupervisorProposal :=
  ⟨[⟨"plan".toList, 1, .proposePlan [sampleKey, laterKey]⟩], [], []⟩

/-- Two proposals for the sample workflow are accepted. -/
theorem sampleProposal_consistent :
    (runtimeProposalRejections sampleProposal sampleObservation = [] ∧
      ConsistentProposal sampleProposal sampleObservation) ∧
    runtimeProposalRejections planProposal sampleObservation = [] ∧
      ConsistentProposal planProposal sampleObservation := by
  have hassign : runtimeProposalRejections sampleProposal sampleObservation = [] := by decide +kernel
  have hplan : runtimeProposalRejections planProposal sampleObservation = [] := by decide +kernel
  exact ⟨⟨hassign, accepted_proposal_consistent hassign⟩, hplan, accepted_proposal_consistent hplan⟩

end Vibemux
