import Vibemux.Controller.Proofs.NativeControllerProofs

/-!
# Input is delivered at most once

From an accepted `BeginSubmission` on, the input may have reached the session. The proofs follow the
lowest sequence number that can still be begun (`nextBegin`), which every such step raises past its own.
-/

namespace Vibemux.Controller

open Machine List

variable {t : ControllerStep} {reservation : InputReservation} {run : List ControllerStep}
  {record : NativeController}

/-- An accepted command of a run. -/
abbrev ControllerStep := Transition NativeController ControllerInput Bool

/-- The reservation an accepted `BeginSubmission` begins. -/
def begunReservation (t : ControllerStep) : Option InputReservation :=
  match t.input.command with
  | .beginSubmission _ => t.pre.lastSubmission.map (·.reservation)
  | _ => none

/-- The sequence number an accepted `BeginSubmission` begins. -/
def begunSequence (t : ControllerStep) : Option Nat := (begunReservation t).map (·.sequence)

/-- The reservation an accepted `AcknowledgeSubmission` acknowledges. -/
def acknowledgedReservation (t : ControllerStep) : Option InputReservation :=
  match t.input.command with
  | .acknowledgeSubmission _ => t.pre.lastSubmission.map (·.reservation)
  | _ => none

/-- The lowest sequence number that can still be begun. -/
def nextBegin (last : Option SubmissionRecord) : Nat :=
  match last with
  | none => 1
  | some submission =>
    if submission.state = .reserved then submission.reservation.sequence
    else submission.reservation.sequence + 1

theorem nextBegin_some_le (submission : SubmissionRecord) :
    nextBegin (some submission) ≤ submission.reservation.sequence + 1 := by
  simp only [nextBegin]
  split_ifs <;> omega

theorem deliveryStep_nextBegin_le {command : ControllerCommand}
    {last last' : Option SubmissionRecord} (h : DeliveryStep command last last') :
    nextBegin last ≤ nextBegin last' := by
  cases h with
  | keep => exact le_rfl
  | reserve hprevious hsequence =>
    cases last with
    | none => simpa [nextBegin] using hsequence.ge
    | some previous => simp [nextBegin, hprevious previous rfl, hsequence]
  | submit hstate => simp [nextBegin, hstate]
  | acknowledge hstate => rcases hstate with hstate | hstate <;> simp [nextBegin, hstate]
  | lose hstate => simp [nextBegin, hstate]
  | settle hstate => exact nextBegin_some_le _

theorem begunReservation_eq_some (hacc : Accepts controllerStep t)
    (h : begunReservation t = some reservation) :
    ∃ submission, t.pre.lastSubmission = some submission ∧ submission.reservation = reservation ∧
      submission.state = .reserved ∧
      t.post.lastSubmission = some { submission with state := .submitted } := by
  have hstep := deliveryStep_of_step hacc
  unfold begunReservation at h
  split at h
  · rename_i id hcommand
    rw [hcommand] at hstep
    generalize t.pre.lastSubmission = last at hstep h ⊢
    generalize t.post.lastSubmission = last' at hstep ⊢
    cases hstep with
    | keep hbegin => exact absurd rfl (hbegin id)
    | submit hstate => exact ⟨_, rfl, by simpa using h, hstate, rfl⟩
  · cases h

/-- The numbers begun in a run increase strictly, and start from what the first record allows. -/
theorem begun_increase (record : NativeController) (inputs : List ControllerInput) :
    ((history controllerStep record inputs).filterMap begunSequence).Pairwise (· < ·) ∧
      ∀ m ∈ (history controllerStep record inputs).filterMap begunSequence,
        nextBegin record.lastSubmission ≤ m := by
  refine marks_increase (fun r => nextBegin r.lastSubmission) begunSequence ?_ ?_ record inputs
  · intro t hacc
    exact deliveryStep_nextBegin_le (deliveryStep_of_step hacc)
  · intro t m hacc hm
    obtain ⟨reservation, hres, rfl⟩ := Option.map_eq_some_iff.1 hm
    obtain ⟨_, hpre, rfl, hstate, hpost⟩ := begunReservation_eq_some hacc hres
    simp [hpre, hpost, nextBegin, hstate]

theorem begun_nodup (record : NativeController) (inputs : List ControllerInput) :
    ((history controllerStep record inputs).filterMap begunReservation).Nodup := by
  have hlt := (begun_increase record inputs).1
  have hmap : (history controllerStep record inputs).filterMap begunSequence =
      ((history controllerStep record inputs).filterMap begunReservation).map (·.sequence) := by
    rw [map_filterMap]
    rfl
  rw [hmap, pairwise_map] at hlt
  exact hlt.imp fun h heq => absurd (heq ▸ h) (lt_irrefl _)

/-! ## Completed submissions -/

/-- The run begins the reservation and later acknowledges it. -/
def BegunThenAcknowledged (run : List ControllerStep) (reservation : InputReservation) : Prop :=
  ∃ l₁ b l₂ a l₃, run = l₁ ++ b :: (l₂ ++ a :: l₃) ∧ begunReservation b = some reservation ∧
    acknowledgedReservation a = some reservation

theorem BegunThenAcknowledged.snoc (h : BegunThenAcknowledged run reservation) (t : ControllerStep) :
    BegunThenAcknowledged (run ++ [t]) reservation := by
  obtain ⟨l₁, b, l₂, a, l₃, rfl, hb, ha⟩ := h
  exact ⟨l₁, b, l₂, a, l₃ ++ [t], by simp, hb, ha⟩

/-- What a run must have done for the last submission to be where it is. -/
structure DeliveryTrail (run : List ControllerStep) (last : Option SubmissionRecord) : Prop where
  /-- A submission under way was begun. -/
  begun : ∀ submission, last = some submission → submission.state ≠ .reserved →
    submission.state ≠ .settled →
    ∃ b ∈ run, begunReservation b = some submission.reservation
  /-- An acknowledged or completed submission was begun and then acknowledged. -/
  acknowledged : ∀ submission, last = some submission →
    submission.state = .acknowledged ∨ submission.outcome = some .completed →
    BegunThenAcknowledged run submission.reservation

theorem DeliveryTrail.keep {last : Option SubmissionRecord} (h : DeliveryTrail run last)
    (t : ControllerStep) : DeliveryTrail (run ++ [t]) last where
  begun := by
    intro submission hlast hreserved hsettled
    obtain ⟨b, hb, hbegun⟩ := h.begun submission hlast hreserved hsettled
    exact ⟨b, mem_append_left _ hb, hbegun⟩
  acknowledged := fun submission hlast hstate => (h.acknowledged submission hlast hstate).snoc t

/-- One command keeps the trail of deliveries. -/
theorem deliveryTrail_step (hacc : Accepts controllerStep t)
    (h : DeliveryTrail run t.pre.lastSubmission) :
    DeliveryTrail (run ++ [t]) t.post.lastSubmission := by
  have hstep := deliveryStep_of_step hacc
  generalize hcommand : t.input.command = command at hstep
  generalize hpre : t.pre.lastSubmission = last at hstep h
  generalize t.post.lastSubmission = last' at hstep ⊢
  cases hstep with
  | keep => exact h.keep t
  | reserve =>
    refine ⟨?_, ?_⟩ <;> rintro _ ⟨⟩
    · intro hreserved
      exact absurd rfl hreserved
    · rintro (hstate | hstate) <;> cases hstate
  | @submit submission hstate =>
    refine ⟨?_, ?_⟩ <;> rintro _ ⟨⟩
    · intro _ _
      exact ⟨t, by simp, by simp [begunReservation, hcommand, hpre]⟩
    · rintro (hstate | houtcome)
      · cases hstate
      · exact (h.acknowledged submission rfl (.inr houtcome)).snoc t
  | @acknowledge submission hstate =>
    obtain ⟨b, hb, hbegun⟩ := h.begun submission rfl (by rcases hstate with h | h <;> simp [h])
      (by rcases hstate with h | h <;> simp [h])
    refine ⟨?_, ?_⟩ <;> rintro _ ⟨⟩
    · intro _ _
      exact ⟨b, mem_append_left _ hb, hbegun⟩
    · intro _
      obtain ⟨l₁, l₂, rfl⟩ := append_of_mem hb
      exact ⟨l₁, b, l₂, t, [], by simp, hbegun, by simp [acknowledgedReservation, hcommand, hpre]⟩
  | @lose submission hstate =>
    refine ⟨?_, ?_⟩ <;> rintro _ ⟨⟩
    · intro _ _
      obtain ⟨b, hb, hbegun⟩ := h.begun submission rfl (by simp [hstate]) (by simp [hstate])
      exact ⟨b, mem_append_left _ hb, hbegun⟩
    · rintro (hstate | houtcome)
      · cases hstate
      · exact (h.acknowledged submission rfl (.inr houtcome)).snoc t
  | @settle submission outcome hstate =>
    refine ⟨?_, ?_⟩ <;> rintro _ ⟨⟩
    · intro _ hsettled
      exact absurd rfl hsettled
    · rintro (hstate' | houtcome)
      · cases hstate'
      · -- only an acknowledged submission settles as completed
        cases houtcome
        have hack : submission.state = .acknowledged := by
          cases hs : submission.state <;> simp [hs, SubmissionOutcome.settlesFrom] at hstate ⊢
        exact (h.acknowledged submission rfl (.inl hack)).snoc t

/-- The trail of deliveries after every run. -/
theorem deliveryTrail_run (hnew : record.lastSubmission = none) (inputs : List ControllerInput) :
    DeliveryTrail (history controllerStep record inputs)
      (final controllerStep record inputs).lastSubmission := by
  refine history_invariant (fun run r => DeliveryTrail run r.lastSubmission) ?_ ?_ inputs
  · simp only [hnew]
    exact ⟨nofun, nofun⟩
  · intro run r i d r' htrail hstep
    exact deliveryTrail_step (t := ⟨r, i, d, r'⟩) hstep htrail

theorem lastSubmission_new {identity : ControllerIdentity} {owner : ControllerOwner}
    (h : NativeController.new identity owner = .ok record) :
    record.lastSubmission = none := by
  simp only [NativeController.new, Checked.bind_eq_ok, Checked.exists_unit,
    Checked.return_eq_ok] at h
  obtain ⟨-, rfl⟩ := h
  rfl

/-! ## The results -/

/-- A reservation other than the last one is accepted only once the last submission is settled. -/
theorem settled_of_reserve (hacc : Accepts controllerStep t)
    (hcommand : t.input.command = .reserveSubmission reservation) {previous : SubmissionRecord}
    (hprevious : t.pre.lastSubmission = some previous) (hne : previous.reservation ≠ reservation) :
    previous.state = .settled := by
  have hstep := deliveryStep_of_step hacc
  rw [hcommand, hprevious] at hstep
  generalize t.post.lastSubmission = last' at hstep
  cases hstep with
  | keep _ hreserve => exact absurd (Option.some.inj (hreserve reservation rfl)) hne
  | reserve hsettled => exact hsettled previous rfl

/-- Once a submission is settled, its number is never begun again. -/
theorem not_begun_of_settled {submission : SubmissionRecord}
    (hlast : record.lastSubmission = some submission) (hsettled : submission.state = .settled)
    (inputs : List ControllerInput) {b : ControllerStep}
    (hb : b ∈ history controllerStep record inputs) :
    begunReservation b ≠ some submission.reservation := by
  intro hbegun
  have hmem : submission.reservation.sequence ∈
      (history controllerStep record inputs).filterMap begunSequence :=
    mem_filterMap.2 ⟨b, hb, by simp [begunSequence, hbegun]⟩
  have hle := (begun_increase record inputs).2 _ hmem
  simp only [hlast, nextBegin, hsettled] at hle
  exact absurd hle (Nat.not_succ_le_self _)

/-- Input is delivered at most once, over every run of a new controller. The numbers of the begun
reservations increase strictly, so that none is begun twice; a different submission is reserved only
once the previous one is settled; a completed submission was begun and then acknowledged; and a
reservation settled as not delivered before it was begun is never begun later. A submission is
identified by its reservation: `submission_id` alone may come back under a later number. -/
theorem input_delivered_at_most_once {identity : ControllerIdentity} {owner : ControllerOwner}
    {record : NativeController} (hnew : NativeController.new identity owner = .ok record)
    (inputs : List ControllerInput) :
    ((history controllerStep record inputs).filterMap begunSequence).Pairwise (· < ·) ∧
    ((history controllerStep record inputs).filterMap begunReservation).Nodup ∧
    (∀ t ∈ history controllerStep record inputs, ∀ reservation previous,
      t.input.command = .reserveSubmission reservation →
      t.pre.lastSubmission = some previous → previous.reservation ≠ reservation →
      previous.state = .settled) ∧
    (∀ submission, (final controllerStep record inputs).lastSubmission = some submission →
      submission.outcome = some .completed →
      BegunThenAcknowledged (history controllerStep record inputs) submission.reservation) ∧
    (∀ l₁ t l₂ submissionId submission,
      history controllerStep record inputs = l₁ ++ t :: l₂ →
      t.input.command = .settleSubmission submissionId .notDelivered →
      t.pre.lastSubmission = some submission → submission.state = .reserved →
      ∀ b ∈ l₂, begunReservation b ≠ some submission.reservation) := by
  refine ⟨(begun_increase record inputs).1, begun_nodup record inputs, ?_, ?_, ?_⟩
  · intro t ht reservation previous hcommand hprevious hne
    exact settled_of_reserve (accepts_of_mem ht) hcommand hprevious hne
  · intro submission hlast houtcome
    exact (deliveryTrail_run (lastSubmission_new hnew) inputs).acknowledged submission hlast
      (.inr houtcome)
  · intro l₁ t l₂ submissionId submission hsplit hcommand hlast hstate b hb
    obtain ⟨-, is₂, -, -, hacc, rfl, -⟩ := history_split hsplit
    have hstep := deliveryStep_of_step hacc
    rw [hcommand, hlast] at hstep
    generalize hpost : t.post.lastSubmission = last' at hstep
    cases hstep with
    | keep _ _ hsettle => exact absurd rfl (hsettle _ _)
    | settle => exact not_begun_of_settled hpost rfl is₂ hb

/-! ## A run -/

/-- The identity of a session used in concrete runs. -/
def sampleIdentity : ControllerIdentity :=
  ⟨.fromU128 1, .fromU128 2, .fromU128 3, ⟨7⟩, 1⟩

/-- The new structured controller of that session. -/
def sampleController : NativeController :=
  { schemaVersion := 1, identity := sampleIdentity, generation := 1, version := 1
    owner := .structured, phase := .paused, lastSubmission := none, interruption := none
    pendingApproval := none, lastApprovalResolution := none, handoff := none }

def sampleReservation : InputReservation := ⟨.fromU128 4, 1, ⟨7⟩, ⟨8⟩, 14⟩

/-- One submission is reserved, begun, acknowledged and completed. -/
def sampleDelivery : List ControllerInput :=
  let fence : ControllerFence := ⟨.fromU128 3, 1⟩
  [⟨1, fence, .automation, .resume⟩,
   ⟨2, fence, .automation, .reserveSubmission sampleReservation⟩,
   ⟨3, fence, .automation, .beginSubmission (.fromU128 4)⟩,
   ⟨4, fence, .adapter, .acknowledgeSubmission (.fromU128 4)⟩,
   ⟨5, fence, .adapter, .settleSubmission (.fromU128 4) .completed⟩]

/-- The sample input is begun once and acknowledged. -/
theorem sample_input_delivered_once :
    NativeController.new sampleIdentity .structured = .ok sampleController ∧
      (history controllerStep sampleController sampleDelivery).filterMap begunSequence = [1] ∧
      BegunThenAcknowledged (history controllerStep sampleController sampleDelivery)
        sampleReservation := by
  have hnew : NativeController.new sampleIdentity .structured = .ok sampleController := rfl
  have hlast : (final controllerStep sampleController sampleDelivery).lastSubmission =
      some ⟨sampleReservation, .settled, some .completed⟩ := by decide +kernel
  obtain ⟨-, -, -, hcompleted, -⟩ := input_delivered_at_most_once hnew sampleDelivery
  exact ⟨hnew, by decide +kernel, hcompleted _ hlast rfl⟩

end Vibemux.Controller
