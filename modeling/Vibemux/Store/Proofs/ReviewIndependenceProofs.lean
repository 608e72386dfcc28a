import Vibemux.Store.Proofs.AcceptanceProofs

/-!
# Independence of reviews

A review is compared with the route of the first admitted candidate it is about, and the gate looks at
the latest only. So a candidate can be accepted although its reviewer ran on the route of one of the
attempts that produced it, unless every recorded receipt keeps the routes apart.
-/

namespace Vibemux.Store

open Checked Machine List

variable {s s' : Store} {digests : StoreDigests} {digest : Sha256Digest} {taskKey : SpecIdentifier}
  {timestamp : Timestamp} {workflowId : Uuid}

/-- Whether the route of the review is not the one the candidate's attempt was launched on, when it is
about that candidate. -/
def routeApart (s : Store) (review : ReviewReceipt) (candidate : CandidateReceipt) : Bool :=
  !review.isOf candidate || ((s.loadAttempt candidate.attemptRequestId).bind
    WorkflowAttemptRecord.execution).all fun execution =>
      review.effectiveRoute != some execution.effectiveRoute

/-- The attempt behind the passing review of the digest, and that it ran on another route than every
attempt with a stored admitted candidate for the digest under the task and its contract. -/
structure ReviewApart (s : Store) (workflowId : Uuid) (task : WorkflowTask) (digest : Sha256Digest)
    (review : ReviewReceipt) (attempt : WorkflowAttemptRecord) (execution : WorkflowExecutionBinding)
    (row : DispatchRow) : Prop where
  latest : s.latestReview workflowId digest = some review
  pass : review.verdict = .pass
  reviewed : ReviewedBy s workflowId review attempt execution row
  apart : ∀ candidate ∈ s.admittedCandidates workflowId,
    candidate.candidate.candidateDigest = digest → candidate.candidate.taskKey = task.taskKey →
    candidate.candidate.contractId = task.contractId → ∀ source sourceExecution,
      s.loadAttempt candidate.attemptRequestId = some source →
      source.execution = some sourceExecution →
      execution.effectiveRoute ≠ sourceExecution.effectiveRoute

/-- Every accepted candidate of a run was reviewed on a route of its own. -/
def ReviewsIndependent (digests : StoreDigests) (s₀ : Store) (ops : List StoreOp) : Prop :=
  ∀ t ∈ history (storeStep digests) s₀ ops, ∀ workflowId version taskKey digest timestamp,
    t.input = .receipt (.acceptCandidate workflowId version taskKey digest timestamp) →
    ∃ stored task, Table.lookup WorkflowRow.workflowId t.pre.workflows workflowId = some stored ∧
      stored.record.task taskKey = some task ∧ ∃ review attempt execution row,
        ReviewApart t.pre workflowId task digest review attempt execution row

/-- Whether a recorded receipt keeps the routes apart: a passing review from those of the admitted
candidates it is about, an admitted candidate from those of the passing reviews of it. -/
def keepsApart (t : Transition Store StoreOp StoreResponse) : Bool :=
  match t.input with
  | .receipt (.record workflowId (.review review) _ _) => review.verdict != .pass ||
    (t.pre.admittedCandidates workflowId).all fun candidate => t.pre.routeApart review candidate
  | .receipt (.record workflowId (.candidate candidate) _ _) => !candidate.admitted ||
    (t.pre.reviewsFor workflowId).all fun review =>
      review.verdict != .pass || t.pre.routeApart review candidate
  | _ => true

/-! ## What the gate of a candidate read -/

theorem acceptWorkflowCandidate_eq_ok {expectedVersion : Nat} {commit : WorkflowCommit}
    (h : s.acceptWorkflowCandidate digests workflowId expectedVersion taskKey digest timestamp = .ok (commit, s')) :
    ∃ stored task candidate next, stored.record.workflowId = workflowId ∧
      stored.record.phase.admitsWork = true ∧ stored.record.task taskKey = some task ∧
      Gated s stored.record task digest candidate ∧
      (∃ changed, stored.record.taskMut taskKey (acceptTask digest) = .ok changed ∧
        changed.bumped (millis timestamp) = .ok next) ∧ Updated s s' stored next := by
  simp only [acceptWorkflowCandidate, eq_ok] at h
  obtain ⟨-, stored, hload, -, hwork, _, hgate, _, -, -, changed, hchanged, next, hnext,
    _, _, happend, _, hupdate, -, rfl⟩ := h
  obtain ⟨events, -, rfl⟩ := append_eq_ok.1 happend
  obtain ⟨task, candidate, htask, hgated, -, -⟩ := gateCandidate_eq_ok hgate
  have hsame : next.workflowId = stored.record.workflowId := by
    obtain ⟨-, rfl⟩ := WorkflowRecord.taskMut_eq_ok.1 hchanged
    obtain ⟨-, rfl⟩ := WorkflowRecord.bumped_eq_ok.1 hnext
    rfl
  exact ⟨stored, task, candidate, next, loadExistingWorkflow_id hload, hwork, htask, hgated,
    ⟨changed, hchanged, hnext⟩, Updated.of_updateWorkflow hload hupdate hsame rfl⟩

/-! ## The invariant of a run that keeps the routes apart -/

/-- Passing reviews and admitted candidates of one workflow keep their routes apart. -/
def RoutesInv (s : Store) : Prop :=
  ∀ workflowId, ∀ review ∈ s.reviewsFor workflowId, review.verdict = .pass →
    ∀ candidate ∈ s.admittedCandidates workflowId, s.routeApart review candidate = true

/-- The attempt behind a stored candidate is the same later on. -/
theorem Continues.routeApart {review : ReviewReceipt} {candidate : CandidateReceipt}
    {attempt : WorkflowAttemptRecord} (h : Continues s s')
    (hfound : s.loadAttempt candidate.attemptRequestId = some attempt) :
    s'.routeApart review candidate = s.routeApart review candidate := by
  unfold Store.routeApart
  rw [h.loadAttempt hfound, hfound]

theorem storeStep_routesInv {t : Transition Store StoreOp StoreResponse}
    (h : Accepts (storeStep digests) t) (hkeeps : keepsApart t = true) (hlease : LeaseInv t.pre)
    (hreceipts : ReceiptInv digests t.pre) (hinv : RoutesInv t.pre) : RoutesInv t.post := by
  have hcontinues := storeStep_continues h
  intro workflowId review hreview hpass candidate hcandidate
  obtain ⟨row, hrow, hid, hreceipt⟩ := mem_reviewsFor.1 hreview
  obtain ⟨hadmitted, row', hrow', hid', hreceipt'⟩ := mem_admittedCandidates.1 hcandidate
  by_cases hold : row ∈ t.pre.receipts
  · have hreview' := mem_reviewsFor.2 ⟨row, hold, hid, hreceipt⟩
    by_cases hold' : row' ∈ t.pre.receipts
    · have hcandidate' := mem_admittedCandidates.2 ⟨hadmitted, row', hold', hid', hreceipt'⟩
      obtain ⟨attempt, _, _, hproduced, -, -⟩ := hreceipts.candidates row' hold' candidate hreceipt'
      rw [hcontinues.routeApart hproduced.found]
      exact hinv workflowId review hreview' hpass candidate hcandidate'
    · -- the candidate is new
      obtain ⟨fence, timestamp, stored, next, hop, hnew⟩ := storeStep_receipts h hrow' hold'
      obtain ⟨attempt, _, _, hproduced, -, -⟩ := hnew.candidate hlease hreceipt'
      rw [hcontinues.routeApart hproduced.found]
      simp only [keepsApart, hop, hreceipt', hid', hadmitted, Bool.not_true, Bool.false_or,
        all_eq_true] at hkeeps
      simpa [hpass] using hkeeps review hreview'
  · -- the review is new, so the candidate is not
    obtain ⟨_, _, _, _, hop, hnew⟩ := storeStep_receipts h hrow hold
    have hold' : row' ∈ t.pre.receipts := by
      have hmem := hrow'
      rw [hnew.receipts, mem_append, mem_singleton] at hmem
      refine hmem.resolve_right fun heq => ?_
      rw [heq, hreceipt] at hreceipt'
      cases hreceipt'
    have hcandidate' := mem_admittedCandidates.2 ⟨hadmitted, row', hold', hid', hreceipt'⟩
    obtain ⟨attempt, _, _, hproduced, -, -⟩ := hreceipts.candidates row' hold' candidate hreceipt'
    rw [hcontinues.routeApart hproduced.found]
    simp only [keepsApart, hop, hreceipt, hid, hpass, bne_self_eq_false, Bool.false_or,
      all_eq_true] at hkeeps
    exact hkeeps candidate hcandidate'

/-- The invariants of a run all of whose steps keep the routes apart. -/
theorem routesInv_final (digests : StoreDigests) (projectId : Uuid) (ops : List StoreOp)
    (hkeeps : ∀ t ∈ history (storeStep digests) (.empty projectId) ops, keepsApart t = true) :
    RoutesInv (final (storeStep digests) (.empty projectId) ops) := by
  suffices hall : (∀ t ∈ history (storeStep digests) (.empty projectId) ops, keepsApart t = true) →
      LeaseInv (final (storeStep digests) (.empty projectId) ops) ∧
      ReceiptInv digests (final (storeStep digests) (.empty projectId) ops) ∧
      RoutesInv (final (storeStep digests) (.empty projectId) ops) from (hall hkeeps).2.2
  refine history_invariant
    (fun l s => (∀ t ∈ l, keepsApart t = true) → LeaseInv s ∧ ReceiptInv digests s ∧ RoutesInv s) ?_ ?_ ops
  · intro _
    refine ⟨leaseInv_empty projectId, receiptInv_empty projectId, fun workflowId review hreview => ?_⟩
    exact absurd hreview not_mem_nil
  · intro l s op response s' hinv hstep hkeeps
    obtain ⟨hlease, hreceipts, hroutes⟩ := hinv fun t ht => hkeeps t (mem_append_left _ ht)
    have haccepts : Accepts (storeStep digests) ⟨s, op, response, s'⟩ := hstep
    exact ⟨storeStep_leaseInv hstep hlease, storeStep_receiptInv hstep hlease hreceipts,
      storeStep_routesInv haccepts (hkeeps _ (mem_append_right _ (.head _))) hlease hreceipts
        hroutes⟩

/-- In a run whose recorded receipts keep the routes apart, every accepted candidate was reviewed on a
route of its own. -/
theorem reviews_independent (digests : StoreDigests) (projectId : Uuid) (ops : List StoreOp)
    (hkeeps : ∀ t ∈ history (storeStep digests) (.empty projectId) ops, keepsApart t = true) :
    ReviewsIndependent digests (.empty projectId) ops := by
  intro t ht workflowId version taskKey digest timestamp hinput
  obtain ⟨l₁, l₂, hsplit⟩ := append_of_mem ht
  obtain ⟨before, -, hhistory, hpre, haccepts, -, -⟩ := history_split hsplit
  have hroutes : RoutesInv t.pre := hpre ▸ routesInv_final digests projectId before fun u hu =>
    hkeeps u (hsplit ▸ mem_append_left _ (hhistory ▸ hu))
  have hreceipts : ReceiptInv digests t.pre := hpre ▸ receiptInv_final digests projectId before
  rw [Accepts, hinput] at haccepts
  simp only [storeStep, receiptStep, eq_ok] at haccepts
  obtain ⟨_, _, ⟨_, _, haccept, -, rfl⟩, -, -⟩ := haccepts
  obtain ⟨stored, task, _, _, hid, -, htask, hgated, -, hupdated⟩ :=
    acceptWorkflowCandidate_eq_ok haccept
  subst hid
  obtain ⟨review, hlatest, hpassing⟩ := hgated.passed.review
  obtain ⟨row, hrow, hrowId, hreceipt⟩ := mem_reviewsFor.1 (latestReview_mem hlatest)
  obtain ⟨attempt, execution, dispatch, hreviewed⟩ := hreceipts.reviews row hrow review hreceipt
  obtain ⟨-, hdigest, hkey⟩ := latestCandidate_eq_some hgated.latest
  refine ⟨stored, task, hupdated.loaded, htask, review, attempt, execution, dispatch, hlatest,
    hpassing.pass, hrowId ▸ hreviewed, fun other hother hotherDigest hotherKey hotherContract source
      sourceExecution hsource hexecution heq => ?_⟩
  have hof : review.isOf other = true := by
    simp [ReviewReceipt.isOf, hpassing.digest, hpassing.taskKey, hpassing.contractId, hdigest, hkey,
      hgated.contractId, hotherDigest, hotherKey, hotherContract]
  have hapart := hroutes _ review (latestReview_mem hlatest) hpassing.pass other hother
  simp [routeApart, hof, hsource, hexecution, hreviewed.effectiveRoute, heq] at hapart

/-! ## A reviewer on the route of a worker -/

/-- Three workers make the same candidate. The second runs on the route of the reviewer; the first
does not, so the review is recorded, and neither does the third, whom the gate looks at. -/
def sharedRouteOps : List StoreOp :=
  sampleSetup ++ sampleAttempt 1000 2 .implement 21 "a".toList ++
    [sampleRecorded (.candidate (sampleCandidate 1000 "a".toList))] ++
    sampleAttempt 2000 4 .implement 22 "b".toList ++
    [sampleRecorded (.candidate (sampleCandidate 2000 "b".toList))] ++
    sampleAttempt 3000 6 .review 22 "b".toList ++
    [sampleRecorded (.review (sampleReview 3000 22 "b".toList))] ++
    sampleAttempt 4000 7 .implement 21 "a".toList ++
    [sampleRecorded (.candidate (sampleCandidate 4000 "a".toList)),
     sampleRecorded (sampleVerification 5000 (some sampleKey) ⟨4⟩)]

/-- The state before the acceptance. -/
def sharedRouteStore : Store :=
  final (storeStep sampleStoreDigests) (.empty (Uuid.fromU128 1)) sharedRouteOps

theorem sharedRouteStore_facts :
    (storeStep sampleStoreDigests sharedRouteStore
      (.receipt (.acceptCandidate sampleFlow 9 sampleKey ⟨4⟩ 0))).isOk = true ∧
    sharedRouteStore.latestReview sampleFlow ⟨4⟩ = some (sampleReview 3000 22 "b".toList) ∧
    sampleCandidate 2000 "b".toList ∈ sharedRouteStore.admittedCandidates sampleFlow ∧
    (sharedRouteStore.loadAttempt (Uuid.fromU128 2000)).bind WorkflowAttemptRecord.execution =
      some (sampleExecution 22 "b".toList) ∧
    ((Table.lookup WorkflowRow.workflowId sharedRouteStore.workflows sampleFlow).all fun row =>
      (row.record.task sampleKey).all fun task => task.taskKey = sampleKey ∧
        task.contractId = ⟨12⟩) = true := by
  decide +kernel

/-- What independence says about an acceptance at the end of a run. -/
theorem ReviewsIndependent.last {s₀ : Store} {ops : List StoreOp} {version : Nat}
    (h : ReviewsIndependent digests s₀ (ops ++ [.receipt (.acceptCandidate workflowId version taskKey digest timestamp)]))
    (hfinal : final (storeStep digests) s₀ ops = s)
    (hok : (storeStep digests s (.receipt (.acceptCandidate workflowId version taskKey digest timestamp))).isOk = true) :
    ∃ stored task, Table.lookup WorkflowRow.workflowId s.workflows workflowId = some stored ∧
      stored.record.task taskKey = some task ∧ ∃ review attempt execution row,
        ReviewApart s workflowId task digest review attempt execution row := by
  subst hfinal
  cases hstep : storeStep digests (final (storeStep digests) s₀ ops)
      (.receipt (.acceptCandidate workflowId version taskKey digest timestamp)) with
  | error error =>
    rw [hstep] at hok
    cases hok
  | ok result => exact h _ (mem_history_append hstep) workflowId version taskKey digest timestamp rfl

/-- The acceptance succeeds, although the second worker ran on the route of the reviewer. -/
theorem sharedRouteOps_not_independent :
    ¬ ReviewsIndependent sampleStoreDigests (.empty (Uuid.fromU128 1))
      (sharedRouteOps ++ [.receipt (.acceptCandidate sampleFlow 9 sampleKey ⟨4⟩ 0)]) := by
  obtain ⟨hok, hlatest, hcandidate, hexecution, htasks⟩ := sharedRouteStore_facts
  intro hindependent
  obtain ⟨_, task, hstored, htask, review, _, _, _, hapart⟩ :=
    hindependent.last (s := sharedRouteStore) rfl hok
  have hreview : sampleReview 3000 22 "b".toList = review :=
    Option.some.inj (hlatest.symm.trans hapart.latest)
  have hkeys : task.taskKey = sampleKey ∧ task.contractId = ⟨12⟩ := by
    rw [hstored, Option.all_some, htask, Option.all_some] at htasks
    exact of_decide_eq_true htasks
  obtain ⟨source, hsource, hbound⟩ := Option.bind_eq_some_iff.1 hexecution
  refine hapart.apart _ hcandidate rfl hkeys.1.symm hkeys.2.symm source _ hsource hbound ?_
  have hroute := hapart.reviewed.effectiveRoute
  rw [← hreview] at hroute
  exact (Option.some.inj hroute).symm

/-- The review of the sample workflow is independent. -/
theorem sampleAcceptedOps_independent :
    (∀ t ∈ history (storeStep sampleStoreDigests) (.empty (Uuid.fromU128 1)) sampleAcceptedOps,
      keepsApart t = true) ∧
    ReviewsIndependent sampleStoreDigests (.empty (Uuid.fromU128 1)) sampleAcceptedOps := by
  have hkeeps : ∀ t ∈ history (storeStep sampleStoreDigests) (.empty (Uuid.fromU128 1))
      sampleAcceptedOps, keepsApart t = true := all_eq_true.1 (by decide +kernel)
  exact ⟨hkeeps, reviews_independent sampleStoreDigests (Uuid.fromU128 1) sampleAcceptedOps hkeeps⟩

end Vibemux.Store
