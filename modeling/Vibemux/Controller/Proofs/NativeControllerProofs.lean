import Vibemux.Controller.NativeController
import Vibemux.Lib.History

/-!
# What one controller command can do

`controllerStep_cases` takes an accepted step apart into the common checks and the branch of its
command. Three views follow: `DeliveryStep` for the last submission, `OwnershipStep` for the owner and
the handoff, `ApprovalStep` for the challenges.
-/

namespace Vibemux.Controller

open Checked

variable {record record' next : NativeController} {input : ControllerInput} {duplicate : Bool}
  {actor : ControllerActor} {command : ControllerCommand} {reservation : InputReservation}

/-- The checks every accepted command has passed. -/
structure CommandGuards (record : NativeController) (input : ControllerInput) : Prop where
  valid : record.validate = .ok ()
  fence : input.fence = record.fence
  version : input.expectedVersion = record.version
  phase : record.phase ≠ .closed
  adapter : input.command.isAdapterCommand = decide (input.actor = .adapter)

section

variable (h : controllerStep record input = .ok (duplicate, record'))
include h

/-- What an accepted command can be. -/
theorem controllerStep_cases : CommandGuards record input ∧
      ((record' = record ∧ ∃ next, reduceCommand record input.actor input.command =
          .ok (next, true)) ∨
        ∃ next, reduceCommand record input.actor input.command = .ok (next, false) ∧
          record' = { next with version := record.version + 1 } ∧ record'.validate = .ok ()) := by
  simp only [controllerStep, applyControllerCommand, eq_ok] at h
  obtain ⟨transition, ⟨hvalid, hfence, hversion, hphase, hactor, next, dup, hreduce, h⟩, -, hpost⟩ := h
  refine ⟨⟨hvalid, hfence, hversion, hphase, hactor.1⟩, ?_⟩
  cases dup with
  | true =>
    simp only [if_true, return_eq_ok] at h
    subst h
    exact .inl ⟨hpost.symm, next, hreduce⟩
  | false =>
    simp only [Bool.false_eq_true, if_false, eq_ok, checkedSucc_eq_some] at h
    obtain ⟨version, ⟨-, rfl⟩, hnext, rfl⟩ := h
    exact .inr ⟨next, hreduce, hpost.symm, by rw [← hpost]; exact hnext⟩

/-- Every accepted command leaves a valid record. -/
theorem validate_of_step : record'.validate = .ok () := by
  obtain ⟨hguards, ⟨rfl, -⟩ | ⟨next, -, -, hvalid⟩⟩ := controllerStep_cases h
  · exact hguards.valid
  · exact hvalid

end

@[simp]
theorem matchingSubmission_eq_ok {submissionId : Uuid} {submission : SubmissionRecord} :
    record.matchingSubmission submissionId = .ok submission ↔
      record.lastSubmission = some submission ∧
        submission.reservation.submissionId = submissionId := by
  simp [NativeController.matchingSubmission, Option.filter_eq_some_iff]

/-! ## Delivery -/

/-- The sequence number of the last reservation, or zero before the first. -/
def lastSequence (last : Option SubmissionRecord) : Nat :=
  (last.map (·.reservation.sequence)).getD 0

@[simp]
theorem lastSequence_some (submission : SubmissionRecord) :
    lastSequence (some submission) = submission.reservation.sequence := rfl

@[simp]
theorem lastSequence_none : lastSequence none = 0 := rfl

/-- What an accepted command does to the last submission. Every command that is not about a
submission keeps it, and so does a repeated reservation. -/
inductive DeliveryStep :
    ControllerCommand → Option SubmissionRecord → Option SubmissionRecord → Prop where
  /-- The submission is left alone. -/
  | keep {command : ControllerCommand} {last : Option SubmissionRecord}
      (hbegin : ∀ id, command ≠ .beginSubmission id)
      (hreserve : ∀ r, command = .reserveSubmission r → last.map (·.reservation) = some r)
      (hsettle : ∀ id outcome, command ≠ .settleSubmission id outcome) :
      DeliveryStep command last last
  /-- A fresh reservation takes the next sequence number. -/
  | reserve {reservation : InputReservation} {last : Option SubmissionRecord}
      (hprevious : ∀ p, last = some p → p.state = .settled)
      (hsequence : reservation.sequence = lastSequence last + 1) :
      DeliveryStep (.reserveSubmission reservation) last (some ⟨reservation, .reserved, none⟩)
  /-- Input is about to be written. -/
  | submit {submission : SubmissionRecord} (hstate : submission.state = .reserved) :
      DeliveryStep (.beginSubmission submission.reservation.submissionId) (some submission)
        (some { submission with state := .submitted })
  /-- The adapter saw the input arrive. -/
  | acknowledge {submission : SubmissionRecord}
      (hstate : submission.state = .submitted ∨ submission.state = .deliveryUnknown) :
      DeliveryStep (.acknowledgeSubmission submission.reservation.submissionId) (some submission)
        (some { submission with state := .acknowledged })
  /-- The adapter lost track of the input. -/
  | lose {submission : SubmissionRecord} (hstate : submission.state = .submitted) :
      DeliveryStep (.deliveryUnknown submission.reservation.submissionId) (some submission)
        (some { submission with state := .deliveryUnknown })
  /-- The submission reaches its outcome. -/
  | settle {submission : SubmissionRecord} {outcome : SubmissionOutcome}
      (hstate : outcome.settlesFrom submission.state = true) :
      DeliveryStep (.settleSubmission submission.reservation.submissionId outcome)
        (some submission) (some { submission with state := .settled, outcome := some outcome })

theorem reserveFresh_eq_ok {result : NativeController × Bool}
    (h : reserveFresh record reservation = .ok result) :
    reservation.sequence = lastSequence record.lastSubmission + 1 ∧
      result = ({ record with
        lastSubmission := some ⟨reservation, .reserved, none⟩
        interruption := none }, false) := by
  simp only [reserveFresh, eq_ok, checkedSucc_eq_some] at h
  obtain ⟨sequence, ⟨-, rfl⟩, hsequence, rfl⟩ := h
  exact ⟨hsequence, rfl⟩

/-- The branches of `ReserveSubmission`: a repetition of the last reservation, or a fresh one. -/
theorem reserveSubmission_cases
    (h : reduceCommand record actor (.reserveSubmission reservation) = .ok (next, duplicate)) :
    record.checkInputActor actor = .ok () ∧
      ((next = record ∧ duplicate = true ∧
          record.lastSubmission.map (·.reservation) = some reservation) ∨
        (duplicate = false ∧ (∀ p, record.lastSubmission = some p → p.state = .settled) ∧
          reservation.sequence = lastSequence record.lastSubmission + 1 ∧
          next = { record with
            lastSubmission := some ⟨reservation, .reserved, none⟩
            interruption := none })) := by
  simp only [reduceCommand, eq_ok] at h
  obtain ⟨hactor, -, -, h⟩ := h
  refine ⟨hactor, ?_⟩
  cases hlast : record.lastSubmission with
  | none =>
    simp only [hlast] at h
    obtain ⟨hsequence, hresult⟩ := reserveFresh_eq_ok h
    obtain ⟨rfl, rfl⟩ := Prod.mk.inj hresult
    exact .inr ⟨rfl, nofun, by rw [← hlast]; exact hsequence, rfl⟩
  | some previous =>
    simp only [hlast] at h
    split_ifs at h with hid
    · simp only [eq_ok] at h
      obtain ⟨heq, rfl, rfl⟩ := h
      exact .inl ⟨rfl, rfl, by simp [heq]⟩
    · simp only [eq_ok] at h
      obtain ⟨⟨hsettled, -⟩, h⟩ := h
      obtain ⟨hsequence, hresult⟩ := reserveFresh_eq_ok h
      obtain ⟨rfl, rfl⟩ := Prod.mk.inj hresult
      refine .inr ⟨rfl, ?_, by rw [← hlast]; exact hsequence, rfl⟩
      rintro p hp
      cases hp
      exact hsettled

/-! ## Ownership -/

/-- The session is still with the same controller. -/
structure SameSession (record next : NativeController) : Prop where
  identity : next.identity = record.identity
  generation : next.generation = record.generation
  owner : next.owner = record.owner

/-- What an accepted command does to the owner, the generation and the handoff. -/
inductive OwnershipStep (record next : NativeController) : ControllerCommand → Prop where
  /-- The handoff, if there is one, does not get further. -/
  | stay {command : ControllerCommand}
      (hattach : ∀ controllerId sessionId, command ≠ .attach controllerId sessionId)
      (hsame : SameSession record next) (hhandoff : next.handoff = record.handoff)
      (hphase : next.phase = .awaitingAttach → record.phase = .awaitingAttach) :
      OwnershipStep record next command
  /-- A handoff to `target` begins. -/
  | start {target : HandoffTarget} (hsame : SameSession record next)
      (hhandoff : next.handoff = some target) (hphase : next.phase = .quiescing) :
      OwnershipStep record next (.beginHandoff target)
  /-- The old controller was seen terminal, with nothing left to settle. -/
  | observe (hsame : SameSession record next) (hhandoff : next.handoff = record.handoff)
      (hsettled : record.hasUnsettledInput = false) (happroval : record.pendingApproval = none) :
      OwnershipStep record next (.observeOldController .terminal)
  /-- The target of the handoff takes the session. -/
  | attach {target : HandoffTarget} (hphase : record.phase = .awaitingAttach)
      (hhandoff : record.handoff = some target)
      (hgeneration : next.generation = record.generation + 1)
      (hcontroller : next.identity.controllerId = target.controllerId)
      (hsession : next.identity.sessionId = target.sessionId) (howner : next.owner = target.owner)
      (hdone : next.handoff = none) :
      OwnershipStep record next (.attach target.controllerId target.sessionId)

/-! ## Approvals -/

/-- The commands after which input may reach the session. -/
@[simp]
def ControllerCommand.startsInput : ControllerCommand → Bool
  | .resume => true
  | .beginSubmission _ => true
  | _ => false

/-- The resolution on record after a settlement: a challenge still pending expires. -/
def expiredResolution (record : NativeController) : Option ApprovalResolution :=
  match record.pendingApproval with
  | some challenge => some ⟨challenge, none, none⟩
  | none => record.lastApprovalResolution

/-- What an accepted command does to the pending challenge and to the last resolution. -/
inductive ApprovalStep (record next : NativeController) (actor : ControllerActor) :
    ControllerCommand → Prop where
  | keep {command : ControllerCommand}
      (hsettle : ∀ id outcome, command ≠ .settleSubmission id outcome)
      (hfree : command.startsInput = true → record.pendingApproval = none)
      (hpending : next.pendingApproval = record.pendingApproval)
      (hresolution : next.lastApprovalResolution = record.lastApprovalResolution) :
      ApprovalStep record next actor command
  | raise {challenge : ApprovalChallenge} (hvalid : record.validateChallenge challenge = .ok ())
      (hpending : next.pendingApproval = some challenge)
      (hresolution : next.lastApprovalResolution = record.lastApprovalResolution) :
      ApprovalStep record next actor (.raiseApproval challenge)
  | resolve {challenge : ApprovalChallenge} {decision : ApprovalDecision} {operatorId : Uuid}
      (hactor : actor = .human operatorId) (hpending : record.pendingApproval = some challenge)
      (hnext : next.pendingApproval = none)
      (hresolution : next.lastApprovalResolution = some ⟨challenge, some decision, some operatorId⟩) :
      ApprovalStep record next actor (.resolveApproval challenge decision)
  | settle {id : Uuid} {outcome : SubmissionOutcome}
      (hcompleted : outcome = .completed → record.pendingApproval = none)
      (hnext : next.pendingApproval = none)
      (hresolution : next.lastApprovalResolution = expiredResolution record) :
      ApprovalStep record next actor (.settleSubmission id outcome)

/-- The views of the record a command leads to. -/
theorem reduceCommand_views (h : reduceCommand record actor command = .ok (next, false)) :
    DeliveryStep command record.lastSubmission next.lastSubmission ∧
      OwnershipStep record next command ∧ ApprovalStep record next actor command := by
  cases command
  case reserveSubmission reservation =>
    obtain ⟨-, ⟨-, hdup, -⟩ | ⟨-, hprevious, hsequence, rfl⟩⟩ := reserveSubmission_cases h
    · cases hdup
    · exact ⟨.reserve hprevious hsequence, .stay (by simp) ⟨rfl, rfl, rfl⟩ rfl id,
        .keep (by simp) (by simp) rfl rfl⟩
  case raiseApproval challenge =>
    simp only [reduceCommand, eq_ok] at h
    obtain ⟨hvalid, h⟩ := h
    cases hpending : record.pendingApproval with
    | some existing =>
      simp only [hpending, eq_ok] at h
      obtain ⟨-, -, hdup⟩ := h
      cases hdup
    | none =>
      simp only [hpending, eq_ok] at h
      obtain ⟨-, rfl, -⟩ := h
      exact ⟨.keep (by simp) (by simp) (by simp), .stay (by simp) ⟨rfl, rfl, rfl⟩ rfl id,
        .raise hvalid rfl rfl⟩
  case resolveApproval challenge decision =>
    cases actor with
    | automation => cases h
    | adapter => cases h
    | human operatorId =>
      simp only [reduceCommand, eq_ok] at h
      obtain ⟨hpending, -, rfl, -⟩ := h
      exact ⟨.keep (by simp) (by simp) (by simp), .stay (by simp) ⟨rfl, rfl, rfl⟩ rfl id,
        .resolve rfl hpending rfl rfl⟩
  all_goals simp only [reduceCommand, eq_ok, matchingSubmission_eq_ok, checkedSucc_eq_some] at h
  case pause =>
    obtain ⟨hphase, rfl, -⟩ := h
    split_ifs with hhandoff
    · exact ⟨.keep (by simp) (by simp) (by simp), .stay (by simp) ⟨rfl, rfl, rfl⟩ rfl (by simp),
        .keep (by simp) (by simp) rfl rfl⟩
    · exact ⟨.keep (by simp) (by simp) (by simp), .stay (by simp) ⟨rfl, rfl, rfl⟩ rfl id,
        .keep (by simp) (by simp) rfl rfl⟩
  case resume =>
    obtain ⟨-, ⟨-, hfree⟩, rfl, -⟩ := h
    exact ⟨.keep (by simp) (by simp) (by simp), .stay (by simp) ⟨rfl, rfl, rfl⟩ rfl (by simp),
      .keep (by simp) (fun _ => hfree) rfl rfl⟩
  case beginSubmission submissionId =>
    obtain ⟨-, ⟨-, hfree⟩, submission, ⟨hlast, rfl⟩, hstate, rfl, -⟩ := h
    rw [hlast]
    exact ⟨.submit hstate, .stay (by simp) ⟨rfl, rfl, rfl⟩ rfl id,
      .keep (by simp) (fun _ => hfree) rfl rfl⟩
  case acknowledgeSubmission submissionId =>
    obtain ⟨submission, ⟨hlast, rfl⟩, hstate, rfl, -⟩ := h
    rw [hlast]
    exact ⟨.acknowledge hstate, .stay (by simp) ⟨rfl, rfl, rfl⟩ rfl id, .keep (by simp) (by simp) rfl rfl⟩
  case deliveryUnknown submissionId =>
    obtain ⟨-, submission, ⟨hlast, rfl⟩, hstate, rfl, -⟩ := h
    rw [hlast]
    refine ⟨.lose hstate, .stay (by simp) ⟨rfl, rfl, rfl⟩ rfl ?_, .keep (by simp) (by simp) rfl rfl⟩
    intro hphase
    by_cases hhandoff : record.handoff = none
    · simp [hhandoff] at hphase
    · simpa [hhandoff] using hphase
  case settleSubmission submissionId outcome =>
    obtain ⟨submission, ⟨hlast, rfl⟩, hstate, hcompleted, rfl, -⟩ := h
    rw [hlast]
    refine ⟨.settle hstate, .stay (by simp) ⟨rfl, rfl, rfl⟩ rfl id, .settle (fun hdone => ?_) rfl rfl⟩
    simpa [hdone] using hcompleted
  case requestInterruption submissionId =>
    obtain ⟨submission, -, -, rfl, -⟩ := h
    refine ⟨.keep (by simp) (by simp) (by simp), .stay (by simp) ⟨rfl, rfl, rfl⟩ rfl ?_,
      .keep (by simp) (by simp) rfl rfl⟩
    intro hphase
    by_cases hquiescing : record.phase = .quiescing <;> simp [hquiescing] at hphase
  case observeInterruption submissionId acknowledged =>
    obtain ⟨submission, -, -, rfl, -⟩ := h
    exact ⟨.keep (by simp) (by simp) (by simp), .stay (by simp) ⟨rfl, rfl, rfl⟩ rfl id,
      .keep (by simp) (by simp) rfl rfl⟩
  case beginHandoff target =>
    obtain ⟨-, -, -, rfl, -⟩ := h
    exact ⟨.keep (by simp) (by simp) (by simp), .start ⟨rfl, rfl, rfl⟩ rfl rfl,
      .keep (by simp) (by simp) rfl rfl⟩
  case observeOldController observation =>
    obtain ⟨-, rfl, ⟨hsettled, happroval⟩, rfl, -⟩ := h
    exact ⟨.keep (by simp) (by simp) (by simp), .observe ⟨rfl, rfl, rfl⟩ rfl hsettled happroval,
      .keep (by simp) (by simp) rfl rfl⟩
  case attach controllerId sessionId =>
    obtain ⟨hphase, _, hhandoff, ⟨rfl, rfl⟩, _, ⟨-, rfl⟩, rfl, -⟩ := h
    exact ⟨.keep (by simp) (by simp) (by simp), .attach hphase hhandoff rfl rfl rfl rfl rfl,
      .keep (by simp) (by simp) rfl rfl⟩
  case close =>
    obtain ⟨-, -, rfl, -⟩ := h
    exact ⟨.keep (by simp) (by simp) (by simp), .stay (by simp) ⟨rfl, rfl, rfl⟩ rfl (by simp),
      .keep (by simp) (by simp) rfl rfl⟩

/-- The commands that can be duplicates. -/
theorem reduceCommand_duplicate (h : reduceCommand record actor command = .ok (next, true)) :
    (∃ r, command = .reserveSubmission r ∧ record.lastSubmission.map (·.reservation) = some r) ∨
      (∃ challenge, command = .raiseApproval challenge) ∨
      ∃ submissionId, command = .requestInterruption submissionId := by
  cases command with
  | reserveSubmission reservation =>
    obtain ⟨-, ⟨-, -, hlast⟩ | ⟨hdup, -⟩⟩ := reserveSubmission_cases h
    · exact .inl ⟨reservation, rfl, hlast⟩
    · cases hdup
  | raiseApproval challenge => exact .inr (.inl ⟨challenge, rfl⟩)
  | requestInterruption submissionId => exact .inr (.inr ⟨submissionId, rfl⟩)
  | resolveApproval challenge decision => cases actor <;> simp [reduceCommand] at h
  | _ => simp [reduceCommand] at h

section

variable (h : controllerStep record input = .ok (duplicate, record'))
include h

theorem deliveryStep_of_step :
    DeliveryStep input.command record.lastSubmission record'.lastSubmission := by
  obtain ⟨-, ⟨rfl, _, hreduce⟩ | ⟨_, hreduce, rfl, -⟩⟩ := controllerStep_cases h
  · rcases reduceCommand_duplicate hreduce with ⟨_, hc, hlast⟩ | ⟨_, hc⟩ | ⟨_, hc⟩
    · rw [hc]
      refine .keep nofun ?_ nofun
      intro r' hr
      cases hr
      exact hlast
    · exact hc ▸ .keep nofun nofun nofun
    · exact hc ▸ .keep nofun nofun nofun
  · exact (reduceCommand_views hreduce).1

theorem ownershipStep_of_step : OwnershipStep record record' input.command := by
  obtain ⟨-, ⟨rfl, _, hreduce⟩ | ⟨_, hreduce, rfl, -⟩⟩ := controllerStep_cases h
  · have hattach : ∀ c s, input.command ≠ .attach c s := by
      intro c s
      rcases reduceCommand_duplicate hreduce with ⟨r, hc, -⟩ | ⟨c, hc⟩ | ⟨id, hc⟩ <;> simp [hc]
    exact .stay hattach ⟨rfl, rfl, rfl⟩ rfl id
  · have hview := (reduceCommand_views hreduce).2.1
    generalize input.command = command at hview
    cases hview with
    | stay hattach hsame hhandoff hphase =>
      exact .stay hattach ⟨hsame.identity, hsame.generation, hsame.owner⟩ hhandoff hphase
    | start hsame hhandoff hphase =>
      exact .start ⟨hsame.identity, hsame.generation, hsame.owner⟩ hhandoff hphase
    | observe hsame hhandoff hsettled happroval =>
      exact .observe ⟨hsame.identity, hsame.generation, hsame.owner⟩ hhandoff hsettled happroval
    | attach hphase hhandoff hgeneration hcontroller hsession howner hdone =>
      exact .attach hphase hhandoff hgeneration hcontroller hsession howner hdone

theorem approvalStep_of_step : ApprovalStep record record' input.actor input.command := by
  obtain ⟨-, ⟨rfl, _, hreduce⟩ | ⟨_, hreduce, rfl, -⟩⟩ := controllerStep_cases h
  · rcases reduceCommand_duplicate hreduce with ⟨r, hc, -⟩ | ⟨c, hc⟩ | ⟨id, hc⟩ <;>
      exact hc ▸ .keep nofun nofun rfl rfl
  · have hview := (reduceCommand_views hreduce).2.2
    generalize input.command = command at hview
    cases hview with
    | keep hsettle hfree hpending hresolution => exact .keep hsettle hfree hpending hresolution
    | raise hvalid hpending hresolution => exact .raise hvalid hpending hresolution
    | resolve hactor hpending hnext hresolution =>
      exact .resolve hactor hpending hnext hresolution
    | settle hcompleted hnext hresolution => exact .settle hcompleted hnext hresolution

end

end Vibemux.Controller
