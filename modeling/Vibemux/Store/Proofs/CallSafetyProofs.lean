import Vibemux.Store.Proofs.CallProofs

/-!
# Model calls are charged once and never replayed

`CallInv` ties the account of an owner to the rows of its calls. A row only moves on along `Advanced`,
so a call is submitted once and a settled one stays, through recovery and through every other operation.
-/

namespace Vibemux.Store

open Checked Table List Option Machine

variable {s s' : Store} {digests : StoreDigests} {record : ModelCallRecord} {owner : CallOwner}
  {admission : ModelCallAdmission} {callId : Uuid} {ownerKey : SpecIdentifier} {s₁ : Store}

/-- The stored call of an identifier. -/
abbrev callRow (s : Store) (callId : Uuid) : Option ModelCallRecord :=
  Table.lookup ModelCallRecord.callId s.calls callId

/-- The account of an owner. -/
abbrev ownerRow (s : Store) (ownerKey : SpecIdentifier) : Option CallOwner :=
  Table.lookup CallOwner.ownerKey s.callOwners ownerKey

/-- The number of stored calls of an owner. -/
def callsOf (s : Store) (ownerKey : SpecIdentifier) : Nat :=
  s.calls.countP fun call => call.admission.ownerKey = ownerKey

/-! ## The account of an owner -/

theorem NewCall.ownerRow_self (h : NewCall s s' admission record owner) :
    s'.ownerRow admission.ownerKey = some { owner with callsUsed := owner.callsUsed + 1 } := by
  rw [ownerRow, h.callOwners, ← h.ownerOf.ownerKey]
  exact lookup_upsert_self s.callOwners { owner with callsUsed := owner.callsUsed + 1 }

theorem NewCall.ownerRow_of_ne (h : NewCall s s' admission record owner)
    (hne : ownerKey ≠ admission.ownerKey) : s'.ownerRow ownerKey = s.ownerRow ownerKey := by
  rw [ownerRow, h.callOwners]
  exact lookup_upsert_of_ne fun heq => hne (heq.trans h.ownerOf.ownerKey)

theorem ownerRow_associated {workflowId : Uuid} (hfound : s.ownerRow owner.ownerKey = some owner)
    (howners : s'.callOwners = put CallOwner.ownerKey s.callOwners
      { owner with workflowId := some workflowId }) (ownerKey : SpecIdentifier) :
    s'.ownerRow ownerKey = if ownerKey = owner.ownerKey then
      some { owner with workflowId := some workflowId } else s.ownerRow ownerKey := by
  rw [ownerRow, howners]
  split_ifs with hk
  · subst hk
    exact lookup_put_self hfound
  · exact lookup_put_of_ne hk

/-- What holds of the calls and their owners. -/
structure CallInv (s : Store) : Prop where
  uniqueCalls : Table.Unique ModelCallRecord.callId s.calls
  uniqueOwners : Table.Unique CallOwner.ownerKey s.callOwners
  owned : ∀ call ∈ s.calls, ∃ owner, s.ownerRow call.admission.ownerKey = some owner
  counted : ∀ ownerKey owner, s.ownerRow ownerKey = some owner →
    owner.callsUsed = s.callsOf ownerKey ∧ owner.callsUsed ≤ owner.maxCalls

theorem callInv_empty {projectId : Uuid} : CallInv (.empty projectId) :=
  ⟨nodup_nil, nodup_nil, fun _ h => absurd h not_mem_nil, fun _ _ h => by cases h⟩

theorem CallInv.callsOf_eq_zero (h : CallInv s) (hnone : s.ownerRow ownerKey = none) :
    s.callsOf ownerKey = 0 := by
  refine countP_eq_zero.2 fun call hcall hkey => ?_
  obtain ⟨owner, howner⟩ := h.owned call hcall
  rw [of_decide_eq_true hkey, hnone] at howner
  cases howner

theorem CallInv.reserved (h : CallInv s) (hnew : NewCall s s' admission record owner) :
    CallInv s' := by
  have hrow := hnew.row
  -- The account that is charged agrees with the rows before the charge, stored or new.
  have hused : owner.callsUsed = s.callsOf admission.ownerKey := by
    rcases hnew.ownerOf.found with hfound | ⟨hnone, hzero⟩
    · exact (h.counted _ owner hfound).1
    · rw [hzero, h.callsOf_eq_zero hnone]
  have hcount : ∀ key, s'.callsOf key =
      s.callsOf key + if admission.ownerKey = key then 1 else 0 := by
    intro key
    rw [callsOf, callsOf, hnew.calls, countP_append, hrow]
    by_cases hk : admission.ownerKey = key
    · simp [hk]
    · simp [hk]
  refine ⟨?_, ?_, ?_, ?_⟩
  · rw [hnew.calls]
    exact h.uniqueCalls.append (by rw [hrow]; exact hnew.fresh)
  · rw [hnew.callOwners]
    exact h.uniqueOwners.upsert _
  · intro call hcall
    by_cases hk : call.admission.ownerKey = admission.ownerKey
    · exact ⟨_, hk ▸ hnew.ownerRow_self⟩
    · rw [hnew.ownerRow_of_ne hk]
      rw [hnew.calls, mem_append, mem_singleton] at hcall
      rcases hcall with hcall | rfl
      · exact h.owned call hcall
      · exact absurd (by rw [hrow]) hk
  · intro key found hfound
    by_cases hk : key = admission.ownerKey
    · subst hk
      obtain rfl := some.inj (hnew.ownerRow_self.symm.trans hfound)
      exact ⟨by rw [hcount, if_pos rfl, hused], hnew.limit⟩
    · rw [hnew.ownerRow_of_ne hk] at hfound
      rw [hcount, if_neg (Ne.symm hk), Nat.add_zero]
      exact h.counted key found hfound

theorem CallInv.change (h : CallInv s) (hchange : CallChange s s') : CallInv s' := by
  cases hchange with
  | same hcalls howners =>
    refine ⟨hcalls ▸ h.uniqueCalls, howners ▸ h.uniqueOwners, ?_, ?_⟩
    · intro call hcall
      rw [ownerRow, howners]
      exact h.owned call (hcalls ▸ hcall)
    · intro key owner howner
      rw [ownerRow, howners] at howner
      rw [callsOf, hcalls]
      exact h.counted key owner howner
  | reserved hnew => exact h.reserved hnew
  | @advanced old new hfound hadvanced hcalls howners =>
    have hcount : ∀ key, s'.callsOf key = s.callsOf key := by
      intro key
      rw [callsOf, hcalls]
      exact h.uniqueCalls.countP_put (hadvanced.callId ▸ hfound) (by rw [hadvanced.admission])
    refine ⟨hcalls ▸ h.uniqueCalls.put new, howners ▸ h.uniqueOwners, ?_, ?_⟩
    · intro call hcall
      rw [hcalls] at hcall
      rw [ownerRow, howners]
      rcases mem_put hcall with rfl | ⟨hcall, -⟩
      · rw [hadvanced.admission]
        exact h.owned old (mem_of_lookup hfound)
      · exact h.owned call hcall
    · intro key owner howner
      rw [hcount]
      rw [ownerRow, howners] at howner
      exact h.counted key owner howner
  | @associated owner _ hfound hcalls howners =>
    have hrows := ownerRow_associated hfound howners
    refine ⟨hcalls ▸ h.uniqueCalls, howners ▸ h.uniqueOwners.put _, ?_, ?_⟩
    · intro call hcall
      rw [hrows]
      split_ifs
      · exact ⟨_, rfl⟩
      · exact h.owned call (hcalls ▸ hcall)
    · intro key found hrow
      rw [callsOf, hcalls]
      rw [hrows] at hrow
      split_ifs at hrow with hk
      · subst hk
        cases hrow
        exact h.counted _ owner hfound
      · exact h.counted key found hrow

theorem CallInv.changes (h : CallInv s) (hchanges : CallChanges s s') : CallInv s' := by
  induction hchanges with
  | refl => exact h
  | tail _ hchange ih => exact ih.change hchange

/-- An account keeps its limit and never shrinks. -/
def OwnersKept (s s' : Store) : Prop :=
  ∀ ownerKey owner, s.ownerRow ownerKey = some owner → ∃ owner', s'.ownerRow ownerKey = some owner' ∧
    owner'.maxCalls = owner.maxCalls ∧ owner.callsUsed ≤ owner'.callsUsed

theorem OwnersKept.refl (s : Store) : OwnersKept s s :=
  fun _ owner howner => ⟨owner, howner, rfl, Nat.le_refl _⟩

theorem OwnersKept.trans (h : OwnersKept s s₁) (h' : OwnersKept s₁ s') :
    OwnersKept s s' := by
  intro ownerKey owner howner
  obtain ⟨mid, hmid, hmax, hused⟩ := h ownerKey owner howner
  obtain ⟨last, hlast, hmax', hused'⟩ := h' ownerKey mid hmid
  exact ⟨last, hlast, hmax'.trans hmax, hused.trans hused'⟩

theorem CallChange.ownersKept (h : CallChange s s') : OwnersKept s s' := by
  intro ownerKey found hfound
  cases h with
  | same _ howners => exact ⟨found, by rw [ownerRow, howners]; exact hfound, rfl, Nat.le_refl _⟩
  | advanced _ _ _ howners =>
    exact ⟨found, by rw [ownerRow, howners]; exact hfound, rfl, Nat.le_refl _⟩
  | @reserved admission _ _ hnew =>
    by_cases hk : ownerKey = admission.ownerKey
    · subst hk
      refine ⟨_, hnew.ownerRow_self, ?_⟩
      -- The charged account is the stored one: the other case has no row under this key.
      rcases hnew.ownerOf.found with hstored | ⟨hnone, -⟩
      · obtain rfl := some.inj (hstored.symm.trans hfound)
        exact ⟨rfl, Nat.le_succ _⟩
      · cases hnone.symm.trans hfound
    · exact ⟨found, (hnew.ownerRow_of_ne hk).trans hfound, rfl, Nat.le_refl _⟩
  | @associated _ _ hstored _ howners =>
    rw [ownerRow_associated hstored howners]
    split_ifs with hk
    · subst hk
      obtain rfl := some.inj (hstored.symm.trans hfound)
      exact ⟨_, rfl, rfl, Nat.le_refl _⟩
    · exact ⟨found, hfound, rfl, Nat.le_refl _⟩

theorem CallChanges.ownersKept (h : CallChanges s s') : OwnersKept s s' := by
  induction h with
  | refl => exact .refl s
  | tail _ hchange ih => exact ih.trans hchange.ownersKept

/-! ## The life of a call -/

/-- Every stored call stays stored, as it was or moved on. -/
def CallsAge (s s' : Store) : Prop :=
  ∀ callId record, s.callRow callId = some record →
    ∃ record', s'.callRow callId = some record' ∧ (record' = record ∨ Advanced record record')

theorem CallsAge.refl (s : Store) : CallsAge s s := fun _ record h => ⟨record, h, .inl rfl⟩

theorem CallsAge.trans (h : CallsAge s s₁) (h' : CallsAge s₁ s') : CallsAge s s' := by
  intro callId record hrow
  obtain ⟨mid, hmid, hage⟩ := h callId record hrow
  obtain ⟨last, hlast, hage'⟩ := h' callId mid hmid
  refine ⟨last, hlast, ?_⟩
  rcases hage with rfl | hage
  · exact hage'
  · rcases hage' with rfl | hage'
    · exact .inr hage
    · exact .inr (hage.trans hage')

theorem CallChange.callsAge (h : CallChange s s') : CallsAge s s' := by
  intro callId found hfound
  cases h with
  | same hcalls _ => exact ⟨found, by rw [callRow, hcalls]; exact hfound, .inl rfl⟩
  | associated _ hcalls _ => exact ⟨found, by rw [callRow, hcalls]; exact hfound, .inl rfl⟩
  | reserved hnew =>
    rw [callRow, hnew.calls]
    exact ⟨found, lookup_append_of_isSome hfound _, .inl rfl⟩
  | @advanced _ new hstored hadvanced hcalls _ =>
    rw [callRow, hcalls]
    by_cases hk : callId = new.callId
    · subst hk
      rw [callRow, hadvanced.callId] at hfound
      obtain rfl := some.inj (hstored.symm.trans hfound)
      exact ⟨new, lookup_put_self (hadvanced.callId ▸ hstored), .inr hadvanced⟩
    · exact ⟨found, (lookup_put_of_ne hk).trans hfound, .inl rfl⟩

theorem CallChanges.callsAge (h : CallChanges s s') : CallsAge s s' := by
  induction h with
  | refl => exact .refl s
  | tail _ hchange ih => exact ih.trans hchange.callsAge

theorem CallsAge.settled (h : CallsAge s s') (hrow : s.callRow callId = some record)
    (hsettled : record.isSettled = true) :
    s'.callRow callId = some record := by
  obtain ⟨record', hrow', rfl | hadvanced⟩ := h callId record hrow
  · exact hrow'
  · exact absurd (hsettled.symm.trans hadvanced.unsettled) (by decide)

/-- Recovery gives every submitted call among its identifiers an unknown outcome. -/
theorem recoverCalls_unknown {ids : List Uuid} {recovered recovered' : Nat}
    (h : recoverCalls ids recovered s = .ok (recovered', s')) (hmem : callId ∈ ids)
    (hrow : s.callRow callId = some record) (hstate : record.state = .submitted) :
    ∃ record', s'.callRow callId = some record' ∧ record'.state = .unknown := by
  induction ids generalizing recovered s with
  | nil => exact absurd hmem not_mem_nil
  | cons id rest ih =>
    simp only [recoverCalls, bind_eq_ok] at h
    obtain ⟨loaded, hload, h⟩ := h
    have hloaded := loadExistingCall_eq_ok hload
    by_cases hid : callId = id
    · -- The call itself: its row becomes unknown, and a settled row stays through the rest.
      subst hid
      obtain rfl := some.inj (hloaded.symm.trans hrow)
      have hrecover : loaded.recoverAfterRestart = some { loaded with
          state := .unknown, errorCode := some ModelCallRecord.outcomeUnknownCode } :=
        if_pos hstate
      simp only [hrecover, persistCall, eq_ok] at h
      obtain ⟨_, ⟨sequence, s₁, happend, rfl⟩, _, -, h⟩ := h
      obtain ⟨events, -, rfl⟩ := append_eq_ok.1 happend
      have hkey := key_of_lookup hloaded
      subst hkey
      exact ⟨_, (recoverCalls_changes h).callsAge.settled (lookup_put_self hloaded) rfl, rfl⟩
    · have hrest : callId ∈ rest := (mem_cons.1 hmem).resolve_left hid
      cases hrecover : loaded.recoverAfterRestart with
      | none =>
        rw [hrecover] at h
        exact ih h hrest hrow
      | some next =>
        have hadvanced := (recoverAfterRestart_eq_some hrecover).2.2
        simp only [hrecover, persistCall, eq_ok] at h
        obtain ⟨_, ⟨_, _, happend, rfl⟩, _, -, h⟩ := h
        obtain ⟨events, -, rfl⟩ := append_eq_ok.1 happend
        refine ih h hrest ?_
        have hne : callId ≠ next.callId := by
          rw [hadvanced.callId, key_of_lookup hloaded]
          exact hid
        exact (lookup_put_of_ne hne).trans hrow

theorem recoverModelCalls_unknown {count : Nat} (h : s.recoverModelCalls = .ok (count, s'))
    (hrow : s.callRow callId = some record) (hstate : record.state = .submitted) :
    ∃ record', s'.callRow callId = some record' ∧ record'.state = .unknown := by
  refine recoverCalls_unknown h ?_ hrow hstate
  refine (mem_insertionSort _).2 (mem_map.2 ⟨record, ?_, key_of_lookup hrow⟩)
  exact mem_filter.2 ⟨mem_of_lookup hrow, decide_eq_true hstate⟩

/-! ## Runs -/

/-- The transition makes the stored call a submitted one. -/
def submits (callId : Uuid) (t : Machine.Transition Store StoreOp StoreResponse) : Bool :=
  ((t.pre.callRow callId).all fun record => record.state != .submitted) &&
    ((t.post.callRow callId).any fun record => record.state == .submitted)

theorem submitted_once (callId : Uuid) (s : Store) (ops : List StoreOp) :
    ((history (storeStep digests) s ops).filter (submits callId)).length ≤ 1 := by
  refine marked_once (fun s => (s.callRow callId).any fun record => record.state != .reserved)
    (submits callId) ?_ ?_ s ops
  · intro t hacc hpassed
    obtain ⟨record, hrow, hstate⟩ := (any_eq_true _ _).1 hpassed
    obtain ⟨record', hrow', hage⟩ := (storeStep_stepped hacc).callChanges.callsAge callId record hrow
    refine (any_eq_true _ _).2 ⟨record', hrow', ?_⟩
    rcases hage with rfl | hadvanced
    · exact hstate
    · rcases hadvanced.state with ⟨-, hsubmitted⟩ | hsettled
      · rw [hsubmitted]
        rfl
      · exact (Bool.and_eq_true_iff.1 hsettled).1
  · intro t hacc hmark
    obtain ⟨hpre, hpost⟩ := Bool.and_eq_true_iff.1 hmark
    obtain ⟨record', hrow', hsubmitted⟩ := (any_eq_true _ _).1 hpost
    refine ⟨?_, (any_eq_true _ _).2 ⟨record', hrow', by rw [eq_of_beq hsubmitted]; rfl⟩⟩
    cases hrow : t.pre.callRow callId with
    | none => rfl
    | some record =>
      rw [hrow, all_some] at hpre
      obtain ⟨_, hfound, hage⟩ := (storeStep_stepped hacc).callChanges.callsAge callId record hrow
      obtain rfl := some.inj (hfound.symm.trans hrow')
      rcases hage with rfl | hadvanced
      · exact absurd hsubmitted (by simpa using hpre)
      · rcases isSettled_eq_false.1 hadvanced.unsettled with hreserved | hsub
        · simp [hreserved]
        · exact absurd hsub (by simpa using hpre)

/-- The calls and their owners after every run. -/
theorem callInv_final (digests : StoreDigests) (projectId : Uuid) (ops : List StoreOp) :
    CallInv (final (storeStep digests) (.empty projectId) ops) :=
  final_invariant CallInv callInv_empty
    (fun _ _ _ _ hinv h => hinv.changes (storeStep_stepped h).callChanges) ops

/-- A stored call only moves on in a run. -/
theorem callsAge_final (s : Store) (ops : List StoreOp) :
    CallsAge s (final (storeStep digests) s ops) :=
  final_invariant (CallsAge s) (.refl s)
    (fun _ _ _ _ hage h => hage.trans (storeStep_stepped h).callChanges.callsAge) ops

/-- What a run of the store from its first state guarantees about model calls. A restart leaves the
stored tables, so it may come between any two operations of the run. -/
structure CallsChargedOnce (digests : StoreDigests) (projectId : Uuid) (ops : List StoreOp) : Prop where
  counted : ∀ owner ∈ (Machine.final (storeStep digests) (.empty projectId) ops).callOwners,
    owner.callsUsed =
        (Machine.final (storeStep digests) (.empty projectId) ops).callsOf owner.ownerKey ∧
      owner.callsUsed ≤ owner.maxCalls
  owned : ∀ call ∈ (Machine.final (storeStep digests) (.empty projectId) ops).calls,
    ∃! owner, owner ∈ (Machine.final (storeStep digests) (.empty projectId) ops).callOwners ∧
      owner.ownerKey = call.admission.ownerKey
  /-- The limit of an owner stays, and no operation lowers its account. -/
  accounts : ∀ t ∈ Machine.history (storeStep digests) (.empty projectId) ops, OwnersKept t.pre t.post
  submittedOnce : ∀ callId,
    ((Machine.history (storeStep digests) (.empty projectId) ops).filter (submits callId)).length ≤ 1
  /-- A call that recovery finds submitted is unknown from then on. -/
  recovered : ∀ t ∈ Machine.history (storeStep digests) (.empty projectId) ops,
    t.input = .call .recover → ∀ callId record, t.pre.callRow callId = some record →
      record.state = .submitted → ∃ record', record'.state = .unknown ∧
        t.post.callRow callId = some record' ∧
        (Machine.final (storeStep digests) (.empty projectId) ops).callRow callId = some record'
  settled : ∀ t ∈ Machine.history (storeStep digests) (.empty projectId) ops, ∀ callId record,
    t.pre.callRow callId = some record → record.isSettled = true →
      t.post.callRow callId = some record
  /-- A reservation whose identifier is stored writes nothing. -/
  repeated : ∀ t ∈ Machine.history (storeStep digests) (.empty projectId) ops, ∀ admission now record,
    t.input = .call (.reserve admission now) → t.pre.callRow admission.callId = some record →
      record.admission = admission ∧ t.response = .call (.record record) ∧ t.post = t.pre
  /-- A round whose call is stored adds no call and charges nobody. -/
  repeatedRound : ∀ t ∈ Machine.history (storeStep digests) (.empty projectId) ops,
    ∀ admission now write record, t.input = .supervisor (.reserveRound admission now write) →
      t.pre.callRow admission.callId = some record → record.admission = admission ∧
        t.post.calls = t.pre.calls ∧ t.post.callOwners = t.pre.callOwners ∧
        t.post.workflows = t.pre.workflows

/-- Every run of the store charges a model call once. -/
theorem calls_charged_once (digests : StoreDigests) (projectId : Uuid) (ops : List StoreOp) :
    CallsChargedOnce digests projectId ops := by
  have hinv := callInv_final digests projectId ops
  refine ⟨?_, ?_, ?_, ?_, ?_, ?_, ?_, ?_⟩
  · intro owner howner
    exact hinv.counted owner.ownerKey owner (hinv.uniqueOwners.lookup_eq howner)
  · intro call hcall
    obtain ⟨owner, howner⟩ := hinv.owned call hcall
    refine ⟨owner, ⟨mem_of_lookup howner, key_of_lookup howner⟩, ?_⟩
    rintro other ⟨hother, hkey⟩
    exact hinv.uniqueOwners.eq_of_mem hother (mem_of_lookup howner)
      (hkey.trans (key_of_lookup howner).symm)
  · intro t ht
    exact (storeStep_stepped (accepts_of_mem ht)).callChanges.ownersKept
  · exact fun callId => submitted_once callId _ ops
  · intro t ht hinput callId record hrow hstate
    obtain ⟨l₁, l₂, hsplit⟩ := append_of_mem ht
    obtain ⟨-, later, -, -, hacc, -, hfinal⟩ := history_split hsplit
    have hstep : storeStep digests t.pre (.call .recover) = .ok (t.response, t.post) := hinput ▸ hacc
    simp only [storeStep, callStep, eq_ok] at hstep
    obtain ⟨_, _, ⟨_, _, hrecover, -, rfl⟩, -, hpost⟩ := hstep
    obtain ⟨record', hrow', hunknown⟩ := recoverModelCalls_unknown hrecover hrow hstate
    rw [hpost] at hrow'
    refine ⟨record', hunknown, hrow', ?_⟩
    rw [← hfinal]
    exact (callsAge_final t.post later).settled hrow' (by simp [ModelCallRecord.isSettled, hunknown])
  · intro t ht callId record hrow hsettled
    exact (storeStep_stepped (accepts_of_mem ht)).callChanges.callsAge.settled hrow hsettled
  · intro t ht admission now record hinput hrow
    have hstep : storeStep digests t.pre (.call (.reserve admission now)) = .ok (t.response, t.post) :=
      hinput ▸ accepts_of_mem ht
    simp only [storeStep, callStep, reserveModelCall, eq_ok] at hstep
    obtain ⟨_, _, ⟨_, _, hreserve, rfl, rfl⟩, hresponse, hpost⟩ := hstep
    rcases reserveModelCallIn_eq_ok hreserve with ⟨hfound, hadmission, rfl⟩ | ⟨_, hnew⟩
    · obtain rfl := some.inj (hfound.symm.trans hrow)
      exact ⟨hadmission, hresponse.symm, hpost.symm⟩
    · cases hnew.fresh.symm.trans hrow
  · intro t ht admission now write record hinput hrow
    have hstep : storeStep digests t.pre (.supervisor (.reserveRound admission now write)) =
        .ok (t.response, t.post) := hinput ▸ accepts_of_mem ht
    simp only [storeStep, supervisorStep, reserveSupervisorRound, eq_ok] at hstep
    obtain ⟨_, ⟨_, _, hreserve, hsave⟩, -, rfl⟩ := hstep
    have hwrites := saveSupervisor_writes hsave
    rcases reserveModelCallIn_eq_ok hreserve with ⟨hfound, hadmission, rfl⟩ | ⟨_, hnew⟩
    · obtain rfl := some.inj (hfound.symm.trans hrow)
      exact ⟨hadmission, hwrites .calls (by decide), hwrites .callOwners (by decide),
        hwrites .workflows (by decide)⟩
    · cases hnew.fresh.symm.trans hrow

end Vibemux.Store
