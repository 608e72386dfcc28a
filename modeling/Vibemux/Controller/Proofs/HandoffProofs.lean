import Vibemux.Controller.Proofs.DeliveryProofs

/-!
# Handoff is fenced and a human owner is exclusive

A session changes hands in three accepted commands of one generation: `BeginHandoff`,
`ObserveOldController` and `Attach`, which raises the generation. `HandoffTrail` keeps the first two in
the history until the third.
-/

namespace Vibemux.Controller

open Checked Machine NativeController

variable {record : NativeController} {t : ControllerStep} {run : List ControllerStep}
  {operatorId : Uuid}

/-- The old controller was seen terminal: nothing was left to settle and nothing to approve. -/
def ObservedTerminal (generation : Nat) (t : ControllerStep) : Prop :=
  t.input.command = .observeOldController .terminal ∧ t.pre.generation = generation ∧
    (∀ submission, t.pre.lastSubmission = some submission → submission.state = .settled) ∧
    t.pre.pendingApproval = none

/-- A handoff to `target` began in this generation. -/
def BeganHandoff (generation : Nat) (target : HandoffTarget) (t : ControllerStep) : Prop :=
  t.input.command = .beginHandoff target ∧ t.pre.generation = generation

/-- The run begins a handoff to `target` and then sees the old controller terminal, both in this
generation. -/
def BegunThenObserved (run : List ControllerStep) (generation : Nat) (target : HandoffTarget) :
    Prop :=
  ∃ l₁ b l₂ o l₃, run = l₁ ++ b :: (l₂ ++ o :: l₃) ∧ BeganHandoff generation target b ∧
    ObservedTerminal generation o

/-- What a run must have done for the handoff to be where it is. -/
structure HandoffTrail (run : List ControllerStep) (record : NativeController) : Prop where
  /-- A pending handoff was begun in this generation. -/
  begun : ∀ target, record.handoff = some target →
    ∃ b ∈ run, BeganHandoff record.generation target b
  /-- A handoff that awaits its target saw the old controller terminal after it was begun. -/
  observed : ∀ target, record.handoff = some target → record.phase = .awaitingAttach →
    BegunThenObserved run record.generation target

theorem settled_of_no_unsettled_input (h : record.hasUnsettledInput = false)
    {submission : SubmissionRecord} (hlast : record.lastSubmission = some submission) :
    submission.state = .settled := by
  simpa [hasUnsettledInput, hlast] using h

theorem BegunThenObserved.snoc {generation : Nat} {target : HandoffTarget}
    (h : BegunThenObserved run generation target) (t : ControllerStep) :
    BegunThenObserved (run ++ [t]) generation target := by
  obtain ⟨l₁, b, l₂, o, l₃, rfl, hb, ho⟩ := h
  exact ⟨l₁, b, l₂, o, l₃ ++ [t], by simp, hb, ho⟩

/-- One command keeps the trail of handoffs. -/
theorem handoffTrail_step (hacc : Accepts controllerStep t) (h : HandoffTrail run t.pre) :
    HandoffTrail (run ++ [t]) t.post := by
  have hstep := ownershipStep_of_step hacc
  have hbegun : ∀ target, t.post.generation = t.pre.generation → t.pre.handoff = some target →
      ∃ b ∈ run ++ [t], BeganHandoff t.post.generation target b := by
    intro target hgeneration hhandoff
    obtain ⟨b, hb, hbegan⟩ := h.begun target hhandoff
    exact ⟨b, List.mem_append_left _ hb, hgeneration ▸ hbegan⟩
  generalize hcommand : t.input.command = command at hstep
  cases hstep with
  | stay _ hsame hhandoff hphase =>
    refine ⟨fun target htarget => hbegun target hsame.generation (hhandoff ▸ htarget), ?_⟩
    intro target htarget hawaiting
    have hobserved := h.observed target (hhandoff ▸ htarget) (hphase hawaiting)
    exact hsame.generation ▸ hobserved.snoc t
  | start hsame hhandoff hphase =>
    refine ⟨?_, ?_⟩
    · intro target htarget
      rw [hhandoff] at htarget
      cases htarget
      exact ⟨t, by simp, hcommand, hsame.generation.symm⟩
    · intro target htarget hawaiting
      rw [hphase] at hawaiting
      cases hawaiting
  | observe hsame hhandoff hsettled happroval =>
    refine ⟨fun target htarget => hbegun target hsame.generation (hhandoff ▸ htarget), ?_⟩
    intro target htarget _
    obtain ⟨b, hb, hbegan⟩ := h.begun target (hhandoff ▸ htarget)
    obtain ⟨l₁, l₂, rfl⟩ := List.append_of_mem hb
    refine ⟨l₁, b, l₂, t, [], by simp, hsame.generation ▸ hbegan, hcommand,
      hsame.generation.symm, ?_, happroval⟩
    intro submission hlast
    exact settled_of_no_unsettled_input hsettled hlast
  | attach _ _ _ _ _ _ hdone =>
    refine ⟨?_, ?_⟩ <;> intro target htarget <;> rw [hdone] at htarget <;> cases htarget

/-- The trail of handoffs after every run. -/
theorem handoffTrail_run (hnew : record.handoff = none) (inputs : List ControllerInput) :
    HandoffTrail (history controllerStep record inputs) (final controllerStep record inputs) := by
  refine history_invariant HandoffTrail ?_ ?_ inputs
  · refine ⟨?_, ?_⟩ <;> intro target htarget <;> rw [hnew] at htarget <;> cases htarget
  · intro run r i d r' htrail hstep
    exact handoffTrail_step (t := ⟨r, i, d, r'⟩) hstep htrail

theorem new_eq_ok {identity : ControllerIdentity} {owner : ControllerOwner}
    (h : new identity owner = .ok record) :
    record.handoff = none ∧ record.validate = .ok () := by
  simp only [new, eq_ok] at h
  obtain ⟨hvalid, rfl⟩ := h
  exact ⟨rfl, hvalid⟩

/-! ## Stale fences -/

/-- Every record of a run is valid. -/
theorem validate_run (hvalid : record.validate = .ok ()) (inputs : List ControllerInput) :
    (final controllerStep record inputs).validate = .ok () := by
  refine final_invariant (fun r : NativeController => r.validate = .ok ()) hvalid ?_ inputs
  intro r i d r' _ hstep
  exact validate_of_step hstep

/-- A valid record refuses every fence but its own. -/
theorem applyControllerCommand_stale (hvalid : record.validate = .ok ()) {fence : ControllerFence}
    (hfence : fence ≠ record.fence) (version : Nat) (actor : ControllerActor)
    (command : ControllerCommand) :
    applyControllerCommand record version fence actor command = .error .staleFence := by
  simp only [applyControllerCommand, hvalid, ensure, hfence, if_false]
  rfl

/-! ## A human owner -/

/-- The commands that only the input owner may issue while the owner is human. -/
def ControllerCommand.isOwnerCommand : ControllerCommand → Bool
  | .resume => true
  | .reserveSubmission _ => true
  | .beginSubmission _ => true
  | .beginHandoff _ => true
  | .close => true
  | _ => false

theorem actor_of_human_owner {actor : ControllerActor} (howner : record.owner = .human operatorId)
    (h : record.checkInputActor actor = .ok ()) :
    actor = .human operatorId := by
  unfold checkInputActor at h
  rw [howner] at h
  cases actor with
  | automation => cases h
  | adapter => cases h
  | human actual =>
    simp only [ensure_eq_ok] at h
    rw [h]

theorem checkInputActor_of_owner_command {record next : NativeController} {actor : ControllerActor}
    {command : ControllerCommand} {duplicate : Bool} (howner : record.owner = .human operatorId)
    (hcommand : command.isOwnerCommand = true)
    (h : reduceCommand record actor command = .ok (next, duplicate)) :
    record.checkInputActor actor = .ok () := by
  cases command with
  | reserveSubmission reservation => exact (reserveSubmission_cases h).1
  | beginHandoff target =>
    simp only [reduceCommand, checkHandoffActor, howner, eq_ok] at h
    exact h.2.1.1
  | resume =>
    simp only [reduceCommand, eq_ok] at h
    exact h.1
  | beginSubmission submissionId =>
    simp only [reduceCommand, eq_ok] at h
    exact h.1
  | close =>
    simp only [reduceCommand, eq_ok] at h
    exact h.1
  | _ => cases hcommand

theorem human_issues_owner_commands (hacc : Accepts controllerStep t)
    (howner : t.pre.owner = .human operatorId) (hcommand : t.input.command.isOwnerCommand = true) :
    t.input.actor = .human operatorId := by
  obtain ⟨-, ⟨-, next, hreduce⟩ | ⟨next, hreduce, -, -⟩⟩ := controllerStep_cases hacc
  · exact actor_of_human_owner howner (checkInputActor_of_owner_command howner hcommand hreduce)
  · exact actor_of_human_owner howner (checkInputActor_of_owner_command howner hcommand hreduce)

/-! ## The results -/

/-- An accepted `Attach` raises the generation by one and gives the session to the target of a
handoff that was begun and then seen terminal in the generation it ends. -/
theorem attach_after_observation {controllerId sessionId : Uuid} (hacc : Accepts controllerStep t)
    (hcommand : t.input.command = .attach controllerId sessionId) (htrail : HandoffTrail run t.pre) :
    t.post.generation = t.pre.generation + 1 ∧
      ∃ target, target.controllerId = controllerId ∧ target.sessionId = sessionId ∧
        t.post.identity.controllerId = controllerId ∧ t.post.identity.sessionId = sessionId ∧
        t.post.owner = target.owner ∧ BegunThenObserved run t.pre.generation target := by
  have hstep := ownershipStep_of_step hacc
  rw [hcommand] at hstep
  cases hstep with
  | stay hattach => exact absurd rfl (hattach _ _)
  | @attach target hphase hhandoff hgeneration hcontroller hsession howner =>
    exact ⟨hgeneration, target, rfl, rfl, hcontroller, hsession, howner,
      htrail.observed target hhandoff hphase⟩

theorem sameSession_of_not_attach (hacc : Accepts controllerStep t)
    (hattach : ∀ controllerId sessionId, t.input.command ≠ .attach controllerId sessionId) :
    SameSession t.pre t.post := by
  have hstep := ownershipStep_of_step hacc
  generalize t.input.command = command at hstep hattach
  cases hstep with
  | stay _ hsame => exact hsame
  | start hsame => exact hsame
  | observe hsame => exact hsame
  | attach => exact absurd rfl (hattach _ _)

/-- Handoff is fenced and a human owner is exclusive, over every run of a new controller. The
session changes hands only in `Attach`, one generation at a time and only after the old controller
was seen terminal with nothing left to settle; the fences of earlier generations are refused; and
while a human owns the input, that human issues every command that writes, resumes or hands over. -/
theorem handoff_fenced_and_human_exclusive {identity : ControllerIdentity}
    {owner : ControllerOwner} {record : NativeController}
    (hnew : NativeController.new identity owner = .ok record) (inputs : List ControllerInput) :
    (∀ t ∈ history controllerStep record inputs,
      (∀ controllerId sessionId, t.input.command ≠ .attach controllerId sessionId) →
      t.post.generation = t.pre.generation ∧
        t.post.identity.controllerId = t.pre.identity.controllerId ∧
        t.post.identity.sessionId = t.pre.identity.sessionId ∧ t.post.owner = t.pre.owner) ∧
    (∀ l₁ t l₂ controllerId sessionId, history controllerStep record inputs = l₁ ++ t :: l₂ →
      t.input.command = .attach controllerId sessionId →
      t.post.generation = t.pre.generation + 1 ∧
        ∃ target, target.controllerId = controllerId ∧ target.sessionId = sessionId ∧
          t.post.identity.controllerId = controllerId ∧ t.post.identity.sessionId = sessionId ∧
          t.post.owner = target.owner ∧ BegunThenObserved l₁ t.pre.generation target) ∧
    (∀ earlier later, inputs = earlier ++ later →
      (final controllerStep record earlier).generation <
        (final controllerStep record inputs).generation →
      ∀ version actor command,
        applyControllerCommand (final controllerStep record inputs) version
          (final controllerStep record earlier).fence actor command = .error .staleFence) ∧
    (∀ t ∈ history controllerStep record inputs, ∀ operatorId,
      t.pre.owner = .human operatorId → t.input.command.isOwnerCommand = true →
      t.input.actor = .human operatorId) := by
  obtain ⟨hhandoff, hvalid⟩ := new_eq_ok hnew
  refine ⟨?_, ?_, ?_, ?_⟩
  · intro t ht hattach
    have hsame := sameSession_of_not_attach (accepts_of_mem ht) hattach
    exact ⟨hsame.generation, by rw [hsame.identity], by rw [hsame.identity], hsame.owner⟩
  · intro l₁ t l₂ controllerId sessionId hsplit hcommand
    obtain ⟨is₁, -, hrun, hpre, hacc, -, -⟩ := history_split hsplit
    have htrail := handoffTrail_run hhandoff is₁
    rw [hrun, hpre] at htrail
    exact attach_after_observation hacc hcommand htrail
  · intro earlier later _ hlt version actor command
    refine applyControllerCommand_stale (validate_run hvalid inputs) ?_ version actor command
    intro hfence
    have hgeneration := congrArg ControllerFence.generation hfence
    exact absurd hgeneration (Nat.ne_of_lt hlt)
  · intro t ht operatorId howner hcommand
    exact human_issues_owner_commands (accepts_of_mem ht) howner hcommand

/-- A human takes the session over, resumes it and is the only one who can. -/
def sampleHandoff : List ControllerInput :=
  let target : HandoffTarget := ⟨.fromU128 5, .fromU128 2, .human (.fromU128 9), .sameSession ⟨6⟩⟩
  [⟨1, ⟨.fromU128 3, 1⟩, .human (.fromU128 9), .beginHandoff target⟩,
   ⟨2, ⟨.fromU128 3, 1⟩, .adapter, .observeOldController .terminal⟩,
   ⟨3, ⟨.fromU128 3, 1⟩, .adapter, .attach (.fromU128 5) (.fromU128 2)⟩,
   ⟨4, ⟨.fromU128 5, 2⟩, .automation, .resume⟩,
   ⟨4, ⟨.fromU128 5, 2⟩, .human (.fromU128 9), .resume⟩]

/-- After the sample handoff the old fence opens nothing. -/
theorem sample_handoff_fenced :
    NativeController.new sampleIdentity .structured = .ok sampleController ∧
      (history controllerStep sampleController sampleHandoff).length = 4 ∧
      ∀ version actor command,
        applyControllerCommand (final controllerStep sampleController sampleHandoff) version
          sampleController.fence actor command = .error .staleFence := by
  have hnew : new sampleIdentity .structured = .ok sampleController := rfl
  obtain ⟨-, -, hstale, -⟩ := handoff_fenced_and_human_exclusive hnew sampleHandoff
  exact ⟨hnew, by decide +kernel, hstale [] sampleHandoff rfl (by decide +kernel)⟩

end Vibemux.Controller
