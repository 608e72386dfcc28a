import Vibemux.Controller.Proofs.HandoffProofs

/-!
# Approvals are human and exactly scoped

A challenge is pending from `RaiseApproval` until a human resolves it or its submission is settled.
Meanwhile neither the session nor the submission can change; `ApprovalTrail` keeps the step that raised
it in the history.
-/

namespace Vibemux.Controller

open Checked Machine NativeController

variable {record : NativeController} {t r : ControllerStep} {challenge : ApprovalChallenge}
  {run : List ControllerStep}

/-- The challenge is about the last submission, which is under way, and about this session. -/
structure InScope (record : NativeController) (challenge : ApprovalChallenge) : Prop where
  session : challenge.sessionId = record.identity.sessionId
  fence : challenge.controller = record.fence
  submission : ∃ submission, record.lastSubmission = some submission ∧
    submission.reservation.submissionId = challenge.submissionId ∧
    (submission.state = .submitted ∨ submission.state = .acknowledged)

theorem inScope_of_validateChallenge (h : record.validateChallenge challenge = .ok ()) :
    InScope record challenge := by
  simp only [validateChallenge, ensure_eq_ok, Option.any_eq_true,
    Bool.and_eq_true, Bool.or_eq_true, beq_iff_eq] at h
  obtain ⟨-, -, hsession, hfence, submission, hlast, hid, hstate⟩ := h
  exact ⟨hsession, hfence, submission, hlast, hid, hstate⟩

/-- A pending challenge is in scope, and nothing is attached before it is out of the way. -/
theorem validate_pending (hvalid : record.validate = .ok ())
    (hpending : record.pendingApproval = some challenge) :
    InScope record challenge ∧ record.phase ≠ .awaitingAttach := by
  simp only [validate, eq_ok, hpending] at hvalid
  obtain ⟨-, -, hchallenge, -, -, hrest⟩ := hvalid
  refine ⟨inScope_of_validateChallenge hchallenge, fun hphase => ?_⟩
  cases hhandoff : record.handoff with
  | none =>
    simp only [hhandoff, eq_ok] at hrest
    exact hrest.2.1 ⟨.inl hphase, .inr rfl⟩
  | some target =>
    simp only [hhandoff, eq_ok] at hrest
    exact hrest.2.1 ⟨.inl hphase, .inr rfl⟩

/-- The adapter raised the challenge in the generation and session of the record, for its last
submission. -/
structure RaisedFor (record : NativeController) (challenge : ApprovalChallenge) (r : ControllerStep) :
    Prop where
  command : r.input.command = .raiseApproval challenge
  actor : r.input.actor = .adapter
  scope : InScope r.pre challenge
  generation : r.pre.generation = record.generation
  session : r.pre.identity.sessionId = record.identity.sessionId
  submission : r.pre.lastSubmission.map (·.reservation) = record.lastSubmission.map (·.reservation)

/-- A submission under way is not replaced. -/
theorem DeliveryStep.reservation_kept {command : ControllerCommand}
    {last last' : Option SubmissionRecord} (h : DeliveryStep command last last')
    (hopen : ∃ submission, last = some submission ∧ submission.state ≠ .settled) :
    last'.map (·.reservation) = last.map (·.reservation) := by
  cases h with
  | reserve hprevious hsequence =>
    obtain ⟨submission, hlast, hstate⟩ := hopen
    exact absurd (hprevious submission hlast) hstate
  | _ => rfl

theorem raisedFor_step (hacc : Accepts controllerStep t)
    (hpending : t.pre.pendingApproval = some challenge) (h : RaisedFor t.pre challenge r) :
    RaisedFor t.post challenge r := by
  obtain ⟨hscope, hphase⟩ := validate_pending (controllerStep_cases hacc).1.valid hpending
  obtain ⟨submission, hlast, -, hstate⟩ := hscope.submission
  have hopen : submission.state ≠ .settled := by rcases hstate with hstate | hstate <;> simp [hstate]
  have hkept := (deliveryStep_of_step hacc).reservation_kept ⟨submission, hlast, hopen⟩
  have hsame : SameSession t.pre t.post := by
    refine sameSession_of_not_attach hacc fun controllerId sessionId hcommand => ?_
    have hstep := ownershipStep_of_step hacc
    rw [hcommand] at hstep
    cases hstep with
    | stay hattach => exact hattach _ _ rfl
    | attach hawaiting => exact hphase hawaiting
  exact ⟨h.command, h.actor, h.scope, h.generation.trans hsame.generation.symm,
    h.session.trans (by rw [hsame.identity]), h.submission.trans hkept.symm⟩

/-- A human made the decision, on the pending challenge that the adapter had raised before. -/
def ResolvedByHuman (run : List ControllerStep) (challenge : ApprovalChallenge)
    (decision : ApprovalDecision) (operatorId : Option Uuid) : Prop :=
  ∃ l₁ r l₂ t l₃ operator, run = l₁ ++ r :: (l₂ ++ t :: l₃) ∧ operatorId = some operator ∧
    t.input.actor = .human operator ∧ t.input.command = .resolveApproval challenge decision ∧
    t.pre.pendingApproval = some challenge ∧ RaisedFor t.pre challenge r

/-- What a run must have done for the challenges of the record to be where they are. -/
structure ApprovalTrail (run : List ControllerStep) (record : NativeController) : Prop where
  raised : ∀ challenge, record.pendingApproval = some challenge →
    ∃ r ∈ run, RaisedFor record challenge r
  resolved : ∀ challenge decision operatorId,
    record.lastApprovalResolution = some ⟨challenge, some decision, operatorId⟩ →
      ResolvedByHuman run challenge decision operatorId

theorem ResolvedByHuman.snoc {decision : ApprovalDecision} {operatorId : Option Uuid}
    (h : ResolvedByHuman run challenge decision operatorId) (t : ControllerStep) :
    ResolvedByHuman (run ++ [t]) challenge decision operatorId := by
  obtain ⟨l₁, r, l₂, s, l₃, operator, rfl, h⟩ := h
  exact ⟨l₁, r, l₂, s, l₃ ++ [t], operator, by simp, h⟩

/-- One command keeps the trail of approvals. -/
theorem approvalTrail_step (hacc : Accepts controllerStep t) (h : ApprovalTrail run t.pre) :
    ApprovalTrail (run ++ [t]) t.post := by
  have hstep := approvalStep_of_step hacc
  have hadapter := (controllerStep_cases hacc).1.adapter
  have hresolved : t.post.lastApprovalResolution = t.pre.lastApprovalResolution →
      ∀ challenge decision operatorId,
        t.post.lastApprovalResolution = some ⟨challenge, some decision, operatorId⟩ →
          ResolvedByHuman (run ++ [t]) challenge decision operatorId := by
    intro hsame challenge decision operatorId hresolution
    exact (h.resolved challenge decision operatorId (hsame ▸ hresolution)).snoc t
  generalize hcommand : t.input.command = command at hstep hadapter
  cases hstep with
  | keep _ _ hpending hresolution =>
    refine ⟨fun challenge hpost => ?_, hresolved hresolution⟩
    have hpre : t.pre.pendingApproval = some challenge := hpending ▸ hpost
    obtain ⟨r, hr, hraised⟩ := h.raised challenge hpre
    exact ⟨r, List.mem_append_left _ hr, raisedFor_step hacc hpre hraised⟩
  | @raise raised hvalid hpending hresolution =>
    refine ⟨fun challenge hpost => ?_, hresolved hresolution⟩
    obtain rfl : raised = challenge := Option.some.inj (hpending.symm.trans hpost)
    have hsame := sameSession_of_not_attach hacc (by simp [hcommand])
    have hkept : t.post.lastSubmission.map (·.reservation) =
        t.pre.lastSubmission.map (·.reservation) := by
      obtain ⟨submission, hlast, -, hstate⟩ := (inScope_of_validateChallenge hvalid).submission
      refine (deliveryStep_of_step hacc).reservation_kept ⟨submission, hlast, ?_⟩
      rcases hstate with hstate | hstate <;> simp [hstate]
    refine ⟨t, by simp, hcommand, ?_, inScope_of_validateChallenge hvalid, hsame.generation.symm,
      by rw [hsame.identity], hkept.symm⟩
    exact of_decide_eq_true hadapter.symm
  | @resolve resolved decision operator hactor hpending hnext hresolution =>
    refine ⟨fun challenge hpost => (by rw [hnext] at hpost; cases hpost), ?_⟩
    intro challenge decision' operatorId hpost
    rw [hresolution] at hpost
    cases hpost
    obtain ⟨r, hr, hraised⟩ := h.raised resolved hpending
    obtain ⟨l₁, l₂, rfl⟩ := List.append_of_mem hr
    exact ⟨l₁, r, l₂, t, [], operator, by simp, rfl, hactor, hcommand, hpending, hraised⟩
  | settle hcompleted hnext hresolution =>
    refine ⟨fun challenge hpost => (by rw [hnext] at hpost; cases hpost), ?_⟩
    cases hpending : t.pre.pendingApproval with
    | none => exact hresolved (by rw [hresolution, expiredResolution, hpending])
    | some pending =>
      intro challenge decision operatorId hpost
      rw [hresolution, expiredResolution, hpending] at hpost
      cases hpost

/-- The trail of approvals after every run. -/
theorem approvalTrail_run {identity : ControllerIdentity} {owner : ControllerOwner}
    (hnew : new identity owner = .ok record) (inputs : List ControllerInput) :
    ApprovalTrail (history controllerStep record inputs) (final controllerStep record inputs) := by
  refine history_invariant ApprovalTrail ?_ ?_ inputs
  · simp only [new, eq_ok] at hnew
    obtain ⟨-, rfl⟩ := hnew
    exact ⟨nofun, nofun⟩
  · intro run r i d r' htrail hstep
    exact approvalTrail_step (t := ⟨r, i, d, r'⟩) hstep htrail

/-- What the accepted commands of a run do with a pending challenge. -/
structure ApprovalsScoped (run : List ControllerStep) (record : NativeController) : Prop where
  /-- A decision on record was made by a human, on the pending challenge. -/
  decided : ∀ challenge decision operatorId,
    record.lastApprovalResolution = some ⟨challenge, some decision, operatorId⟩ →
      ResolvedByHuman run challenge decision operatorId
  /-- The settlement of its submission ends a challenge without a decision. -/
  expired : ∀ t ∈ run, ∀ id outcome challenge, t.input.command = .settleSubmission id outcome →
    t.pre.pendingApproval = some challenge →
      t.post.pendingApproval = none ∧ t.post.lastApprovalResolution = some ⟨challenge, none, none⟩
  /-- Nothing is begun, resumed or completed before the challenge is out of the way. -/
  blocked : ∀ t ∈ run, t.pre.pendingApproval ≠ none →
    t.input.command.startsInput = false ∧
      ∀ id, t.input.command ≠ .settleSubmission id .completed

/-- Over every run of a new controller, approvals are human and exactly scoped. -/
theorem approvals_scoped {identity : ControllerIdentity} {owner : ControllerOwner}
    {record : NativeController} (hnew : NativeController.new identity owner = .ok record)
    (inputs : List ControllerInput) :
    ApprovalsScoped (history controllerStep record inputs)
      (final controllerStep record inputs) := by
  refine ⟨(approvalTrail_run hnew inputs).resolved, ?_, ?_⟩
  · intro t ht id outcome challenge hcommand hpending
    have hstep := approvalStep_of_step (accepts_of_mem ht)
    rw [hcommand] at hstep
    cases hstep with
    | keep hsettle => exact absurd rfl (hsettle _ _)
    | settle _ hnext hresolution =>
      exact ⟨hnext, by rw [hresolution, expiredResolution, hpending]⟩
  · intro t ht hpending
    have hstep := approvalStep_of_step (accepts_of_mem ht)
    generalize t.input.command = command at hstep
    cases hstep with
    | keep hsettle hfree =>
      exact ⟨Bool.eq_false_iff.2 fun h => hpending (hfree h), fun id => hsettle id _⟩
    | settle hcompleted =>
      refine ⟨rfl, fun id heq => ?_⟩
      cases heq
      exact hpending (hcompleted rfl)
    | _ => exact ⟨rfl, nofun⟩

/-- A challenge is raised, allowed by a human and on record. -/
def sampleApproval : List ControllerInput :=
  let fence : ControllerFence := ⟨.fromU128 3, 1⟩
  let challenge : ApprovalChallenge := ⟨.fromU128 7, .fromU128 8, .fromU128 2, fence, .fromU128 4, ⟨5⟩, ⟨6⟩⟩
  [⟨1, fence, .automation, .resume⟩,
   ⟨2, fence, .automation, .reserveSubmission ⟨.fromU128 4, 1, sampleIdentity.contractId, ⟨9⟩, 14⟩⟩,
   ⟨3, fence, .automation, .beginSubmission (.fromU128 4)⟩,
   ⟨4, fence, .adapter, .raiseApproval challenge⟩,
   ⟨5, fence, .automation, .resolveApproval challenge .allow⟩,
   ⟨5, fence, .human (.fromU128 9), .resolveApproval challenge .allow⟩]

/-- The sample approval is answered within its scope. -/
theorem sampleApproval_scoped :
    NativeController.new sampleIdentity .structured = .ok sampleController ∧
      (history controllerStep sampleController sampleApproval).length = 5 ∧
      ApprovalsScoped (history controllerStep sampleController sampleApproval)
        (final controllerStep sampleController sampleApproval) := by
  have hnew : new sampleIdentity .structured = .ok sampleController := rfl
  exact ⟨hnew, by decide +kernel, approvals_scoped hnew sampleApproval⟩

end Vibemux.Controller
