import Vibemux.Harness.Proofs.OutputPageProofs
import Vibemux.Store.Contents
import Vibemux.Store.Proofs.AcceptanceProofs

/-!
# Operations that one key lets happen once

The key of a slot observation is made of the slot and the digest of its facts, that of an acceptance
of the workflow and the candidate, that of a deletion of the content. None tells one occasion from
another, so each operation succeeds exactly while its key is new.
-/

namespace Vibemux

open Checked Machine Text Table List

variable {digest : Sha256Digest} {events : List Event} {key rest : List Char}
  {result : Nat × List Event}

theorem insertEvent_eq_ok (hpos : 0 < byteLen key) (hlen : byteLen key ≤ 256) :
    insertEvent events key = .ok result ↔
      hasKey events key = false ∧ (events.length + 1, events ++ [⟨key⟩]) = result := by
  have hne : key ≠ [] := fun h => (Nat.ne_of_gt hpos) (byteLen_eq_zero.2 h)
  simp only [insertEvent, eq_ok]
  exact and_iff_right ⟨hne, hlen⟩

namespace Store

variable {s s' : Store} {digests : StoreDigests} {slot : SlotFacts}

theorem append_ok_iff (hpos : 0 < byteLen key) (hlen : byteLen key ≤ 256) :
    (∃ sequence s', s.append key = .ok (sequence, s')) ↔ hasKey s.events key = false := by
  simp only [append_eq_ok, insertEvent_eq_ok hpos hlen]
  constructor
  · rintro ⟨_, _, _, ⟨hfresh, -⟩, -⟩
    exact hfresh
  · intro hfresh
    exact ⟨_, _, _, ⟨hfresh, rfl⟩, rfl⟩

/-- A key is in the log after a run because one step of the run appended it. -/
theorem key_appended_in_run (projectId : Uuid) (ops : List StoreOp)
    (h : hasKey (final (storeStep digests) (.empty projectId) ops).events key = true) :
    ∃ t ∈ history (storeStep digests) (.empty projectId) ops,
      hasKey t.pre.events key = false ∧ hasKey t.post.events key = true := by
  obtain ⟨t, ht, hbefore, hafter⟩ := exists_step_of_final
    (p := fun s : Store => hasKey s.events key = true) (by simp [Store.empty, hasKey]) h
  exact ⟨t, ht, Bool.not_eq_true _ ▸ hbefore, hafter⟩

/-! ## Slot observations -/

/-- The key of the event of a slot observation. -/
def slotKey (digests : StoreDigests) (slot : SlotFacts) : List Char :=
  "workflow_slot:".toList ++ slot.slotId.text ++ ':' :: (digests.slot slot).toHex

theorem byteLen_slotKey :
    byteLen (slotKey digests slot) = 79 + byteLen slot.slotId.text := by
  have hlabel : byteLen "workflow_slot:".toList = 14 := by decide
  have hcolon : (':' : Char).utf8Size = 1 := by decide
  unfold slotKey Sha256Digest.toHex
  rw [byteLen_append, byteLen_append, byteLen_cons, byteLen_hexDigits, hlabel, hcolon]
  omega

theorem byteLen_identifier (id : SpecIdentifier) : byteLen id.text ≤ 64 := by
  have hvalid := id.valid
  unfold isSnakeCase at hvalid
  simp only [Bool.and_eq_true, decide_eq_true_eq] at hvalid
  exact hvalid.1.1.1.1.2

/-- The stored facts of a slot. -/
def slotFacts (s : Store) (slotId : SpecIdentifier) : Option SlotFacts :=
  (s.loadSlot slotId).map SlotRow.facts

/-- The observation is accepted, and its facts are the stored ones afterwards. -/
def Lands (digests : StoreDigests) (s : Store) (slot : SlotFacts) : Prop :=
  ∃ response s', storeStep digests s (.lease (.upsertSlot slot)) = .ok (response, s') ∧
    s'.slotFacts slot.slotId = some slot

theorem upsertWorkflowSlot_of_ne (hfacts : slot.leasedGeneration = none)
    (hne : s.slotFacts slot.slotId ≠ some slot) :
    (∃ event s', s.upsertWorkflowSlot digests slot = .ok (event, s')) ↔
      hasKey s.events (slotKey digests slot) = false := by
  have hother : ¬ ((s.loadSlot slot.slotId).any fun row => row.facts = slot) = true := by
    simpa [slotFacts, Option.any_eq_true] using hne
  have hlen := byteLen_identifier slot.slotId
  rw [← append_ok_iff (byteLen_slotKey ▸ by omega) (byteLen_slotKey ▸ by omega)]
  simp only [upsertWorkflowSlot, hfacts, if_neg hother, eq_ok, true_and]
  constructor
  · rintro ⟨_, _, sequence, s₁, happend, -⟩
    exact ⟨sequence, s₁, happend⟩
  · rintro ⟨sequence, s₁, happend⟩
    exact ⟨_, _, sequence, s₁, happend, rfl, rfl⟩

theorem slotFacts_of_upsert {event : Option Event}
    (h : s.upsertWorkflowSlot digests slot = .ok (event, s')) :
    s'.slotFacts slot.slotId = some slot := by
  simp only [upsertWorkflowSlot, eq_ok] at h
  obtain ⟨-, h⟩ := h
  split at h
  case isTrue hsame =>
    cases h
    simpa [slotFacts, Option.any_eq_true] using hsame
  case isFalse =>
    simp only [eq_ok] at h
    obtain ⟨_, s₁, -, -, rfl⟩ := h
    exact congrArg (Option.map SlotRow.facts) (lookup_upsert_self s₁.slots _)

/-- In every state, an observation lands exactly when it repeats the stored facts or no event has the
key of its facts yet. -/
theorem slot_observation_lands_iff (digests : StoreDigests) (s : Store) {slot : SlotFacts}
    (hfacts : slot.leasedGeneration = none) :
    Lands digests s slot ↔
      s.slotFacts slot.slotId = some slot ∨ hasKey s.events (slotKey digests slot) = false := by
  have hlands : Lands digests s slot ↔ ∃ event s', s.upsertWorkflowSlot digests slot = .ok (event, s') := by
    simp only [Lands, storeStep, leaseStep, eq_ok]
    constructor
    · rintro ⟨_, _, ⟨_, _, ⟨event, s', hupsert, -⟩, -⟩, -⟩
      exact ⟨event, s', hupsert⟩
    · rintro ⟨event, s', hupsert⟩
      exact ⟨_, _, ⟨_, _, ⟨event, s', hupsert, rfl, rfl⟩, rfl, rfl⟩, slotFacts_of_upsert hupsert⟩
  rw [hlands]
  by_cases hsame : s.slotFacts slot.slotId = some slot
  · have hany : ((s.loadSlot slot.slotId).any fun row => row.facts = slot) = true := by
      simpa [slotFacts, Option.any_eq_true] using hsame
    refine iff_of_true ⟨none, s, ?_⟩ (.inl hsame)
    simp only [upsertWorkflowSlot, ensure_of _ hfacts, if_pos hany]
    rfl
  · rw [upsertWorkflowSlot_of_ne hfacts hsame, or_iff_right hsame]

/-- The slot as the daemon sees it, in one state of health and in another. -/
def sampleFacts (health : SlotHealth) : SlotFacts :=
  ⟨sampleSlot, .codex, .structured, [], health, none, none, none, .unknown⟩

/-- The samples with digests that tell three observations apart. -/
def slotDigests : StoreDigests :=
  { sampleStoreDigests with
    slot := fun facts =>
      if facts.health = .idle then ⟨1⟩ else if facts.health = .busy then ⟨2⟩ else ⟨3⟩ }

/-- The slot was seen idle and then busy. -/
def busyStore : Store :=
  final (storeStep slotDigests) (.empty (Uuid.fromU128 1))
    [.lease (.upsertSlot (sampleFacts .idle)), .lease (.upsertSlot (sampleFacts .busy))]

/-- After the two observations, the last one may be repeated and a new one lands. -/
theorem sampleFacts_lands :
    (∀ health, (sampleFacts health).leasedGeneration = none) ∧
      Lands slotDigests busyStore (sampleFacts .busy) ∧
      Lands slotDigests busyStore (sampleFacts .cooldown) := by
  refine ⟨fun _ => rfl, ?_, ?_⟩
  · exact (slot_observation_lands_iff slotDigests busyStore rfl).2 (.inl (by decide +kernel))
  · exact (slot_observation_lands_iff slotDigests busyStore rfl).2 (.inr (by decide +kernel))

/-- When the slot is idle again, its observation is refused. -/
theorem busyStore_refuses_idle : ¬ Lands slotDigests busyStore (sampleFacts .idle) := by
  rintro ⟨response, s', hstep, -⟩
  have hrefused : (storeStep slotDigests busyStore
      (.lease (.upsertSlot (sampleFacts .idle)))).isOk = false := by decide +kernel
  rw [hstep] at hrefused
  cases hrefused

/-! ## Acceptance of a candidate -/

theorem byteLen_candidateAcceptedKey (workflowId : Uuid) (digest : Sha256Digest) :
    byteLen (candidateAcceptedKey workflowId digest) = 129 := by
  have hlabel : byteLen "workflow_candidate_accepted:".toList = 28 := by decide
  have hcolon : (':' : Char).utf8Size = 1 := by decide
  unfold candidateAcceptedKey Sha256Digest.toHex
  rw [byteLen_append, byteLen_append, byteLen_cons, byteLen_hyphenated, byteLen_hexDigits, hlabel,
    hcolon]

/-- The new record of a workflow whose candidate was accepted passes its checks again. -/
theorem validate_accepted {record : WorkflowRecord} {taskKey : SpecIdentifier} {nowMs : Nat}
    (h : record.validate = .ok ()) :
    { record with
      tasks := WorkflowRecord.replaceTask taskKey (acceptTask digest) record.tasks
      version := record.version + 1, updatedAtMs := nowMs }.validate = .ok () := by
  have hmap : ∀ {β : Type} (f : WorkflowTask → β), (∀ task, f (acceptTask digest task) = f task) →
      ∀ tasks, (WorkflowRecord.replaceTask taskKey (acceptTask digest) tasks).map f = tasks.map f := by
    intro β f hf tasks
    induction tasks with
    | nil => rfl
    | cons task rest ih =>
      unfold WorkflowRecord.replaceTask
      split_ifs <;> simp [hf, ih]
  have hkeys := hmap WorkflowTask.taskKey (fun _ => rfl) record.tasks
  have hbudget := hmap (fun task =>
    decide (task.turnsUsed ≤ task.maxTurns) && decide (task.repairsUsed ≤ task.maxRepairs))
    (fun _ => rfl) record.tasks
  have hlength := congrArg length hkeys
  simp only [length_map] at hlength
  have hne (htasks : record.tasks ≠ []) :
      WorkflowRecord.replaceTask taskKey (acceptTask digest) record.tasks ≠ [] := by
    rwa [← length_pos_iff, hlength, length_pos_iff]
  have hall := congrArg (all · id) hbudget
  simp only [all_map, Function.id_comp] at hall
  simp only [WorkflowRecord.validate, ensure_eq_ok] at h ⊢
  rw [hkeys, hlength, hall]
  obtain ⟨hschema, hid, -, hkey, hkeyLen, hkeyChars, hbase, htasks, hrest⟩ := h
  exact ⟨hschema, hid, Nat.succ_pos _, hkey, hkeyLen, hkeyChars, hbase, hne htasks, hrest⟩

/-- What the acceptance of a candidate asks of the state, apart from the room for its version and the
key of its event. -/
def acceptable (digests : StoreDigests) (s : Store) (workflowId : Uuid) (version : Nat)
    (taskKey : SpecIdentifier) (digest : Sha256Digest) : Bool :=
  (s.checkTaskGate workflowId (some taskKey)).isOk &&
    match s.loadExistingWorkflow workflowId with
    | .error _ => false
    | .ok stored => stored.record.version == version && stored.record.phase.admitsWork &&
      (stored.record.task taskKey).any (·.progress = .candidateCollected) &&
      (s.gateCandidate digests stored.record taskKey digest).isOk

/-- In every state, supervised or not, a candidate that passes its gate is accepted exactly when its
workflow has a next version and no event has the key of its acceptance. -/
theorem acceptable_accepted_iff (digests : StoreDigests) (s : Store) {workflowId : Uuid} {version : Nat}
    {taskKey : SpecIdentifier} {digest : Sha256Digest}
    (h : acceptable digests s workflowId version taskKey digest = true) (timestamp : Timestamp) :
    (storeStep digests s
      (.receipt (.acceptCandidate workflowId version taskKey digest timestamp))).isOk = true ↔
      version < u64Max ∧ hasKey s.events (candidateAcceptedKey workflowId digest) = false := by
  have hlen := byteLen_candidateAcceptedKey workflowId digest
  rw [← append_ok_iff (hlen ▸ by decide) (hlen ▸ by decide), isOk_iff]
  unfold acceptable at h
  cases hload : s.loadExistingWorkflow workflowId with
  | error error => simp [hload] at h
  | ok stored =>
    simp only [hload, Bool.and_eq_true, isOk_iff, exists_unit, beq_iff_eq, Option.any_eq_true,
      decide_eq_true_eq] at h
    obtain ⟨hgate, ⟨⟨rfl, hwork⟩, task, htask, hcollected⟩, acceptance, hpassed⟩ := h
    obtain ⟨hrow, hvalid⟩ := loadExistingWorkflow_eq_ok.1 hload
    simp only [storeStep, receiptStep, acceptWorkflowCandidate, hgate, hload, bind_eq_ok, Prod.exists,
      exists_unit, ensure_eq_ok, require_eq_ok, mapError_eq_ok, return_eq_ok,
      WorkflowRecord.taskMut_eq_ok, WorkflowRecord.bumped_eq_ok]
    constructor
    · rintro ⟨_, _, _, _, ⟨_, _, ⟨-, _, hstored, -, -, -, -, -, -, -, _, ⟨-, rfl⟩, _, ⟨hlt, -⟩, sequence, s₁,
        happend, -⟩, -⟩, -⟩
      cases hstored
      exact ⟨hlt, sequence, s₁, happend⟩
    · rintro ⟨hlt, sequence, s₁, happend⟩
      obtain ⟨events, -, rfl⟩ := append_eq_ok.1 happend
      have hid : stored.record.workflowId = workflowId := loadExistingWorkflow_id hload
      have hrow' : lookup WorkflowRow.workflowId s.workflows stored.record.workflowId =
          some stored := hid ▸ hrow
      exact ⟨_, _, _, _, ⟨_, _, ⟨trivial, stored, rfl, rfl, hwork, acceptance, hpassed, task, htask,
        hcollected, _, ⟨by simp [htask], rfl⟩, _, ⟨hlt, rfl⟩, sequence, _, happend, _,
        updateWorkflow_eq_ok.2 ⟨validate_accepted hvalid, stored, hrow', rfl, rfl⟩, rfl⟩, rfl⟩, rfl⟩

/-- A candidate with its review and its verification. -/
def gatedOps : List StoreOp :=
  sampleSetup ++ sampleAttempt 1000 2 .implement 21 "a".toList ++
    [sampleRecorded (.candidate (sampleCandidate 1000 "a".toList))] ++
    sampleAttempt 2000 4 .review 22 "b".toList ++
    [sampleRecorded (.review (sampleReview 2000 22 "b".toList)),
     sampleRecorded (sampleVerification 3000 (some sampleKey) ⟨4⟩)]

/-- The same under a model supervisor, whose gate of the task is open. -/
def supervisedOps : List StoreOp :=
  gatedOps ++ [.supervisor (.save ⟨[⟨sampleSupervision, 0⟩], [], ["supervisor_start".toList]⟩)]

/-- The state after a run of the samples. -/
def sampleState (ops : List StoreOp) : Store :=
  final (storeStep sampleStoreDigests) (.empty (Uuid.fromU128 1)) ops

/-- The supervised candidate is accepted. -/
theorem supervisedOps_accepted :
    acceptable sampleStoreDigests (sampleState supervisedOps) sampleFlow 5 sampleKey ⟨4⟩ = true ∧
      (storeStep sampleStoreDigests (sampleState supervisedOps)
        (.receipt (.acceptCandidate sampleFlow 5 sampleKey ⟨4⟩ 0))).isOk = true := by
  have h : acceptable sampleStoreDigests (sampleState supervisedOps) sampleFlow 5 sampleKey ⟨4⟩ =
      true := by
    decide +kernel
  exact ⟨h, (acceptable_accepted_iff sampleStoreDigests (sampleState supervisedOps) h 0).2
    (by decide +kernel)⟩

/-- The candidate is accepted, and another attempt at the task makes it again. -/
def collectedAgainOps : List StoreOp :=
  gatedOps ++ .receipt (.acceptCandidate sampleFlow 5 sampleKey ⟨4⟩ 0) ::
    sampleAttempt 4000 6 .implement 21 "a".toList ++
    [sampleRecorded (.candidate (sampleCandidate 4000 "a".toList))]

/-- The candidate passes its gate again, but is refused. -/
theorem collectedAgain_refused :
    acceptable sampleStoreDigests (sampleState collectedAgainOps) sampleFlow 8 sampleKey ⟨4⟩ = true ∧
      (storeStep sampleStoreDigests (sampleState collectedAgainOps)
        (.receipt (.acceptCandidate sampleFlow 8 sampleKey ⟨4⟩ 0))).isOk = false := by
  decide +kernel

end Store

/-! ## Deletion of contents -/

theorem contentKey_rest {digest' : Sha256Digest} {rest' : List Char}
    (h : contentKey digest rest = contentKey digest' rest') : rest = rest' := by
  have hlength : ∀ count n, (hexDigits count n).length = count := by
    intro count
    induction count with
    | zero => exact fun _ => rfl
    | succ count ih => simp [hexDigits, ih]
  refine (append_inj h ?_).2
  simp [Sha256Digest.toHex, hlength]

theorem contentDeletedKey_ne_present (digest : Sha256Digest) (entry : ContentEntry) :
    contentDeletedKey digest ≠ contentPresentKey entry := by
  intro h
  have hsecond : some 'd' = some 'p' := congrArg (·[1]?) (contentKey_rest h)
  exact absurd hsecond (by decide)

theorem updatedAtMs_of_contentPresentKey {entry other : ContentEntry}
    (h : contentPresentKey other = contentPresentKey entry) : other.updatedAtMs = entry.updatedAtMs := by
  have htime := congrArg (Nat.ofDigitChars 10 · 0) (append_cancel_left (contentKey_rest h))
  simpa [decimal, Nat.ofDigitChars_ten_toDigits, UInt64.toNat_inj] using htime

theorem insertEvent_contentKey (hrest : byteLen rest ≤ 29) :
    insertEvent events (contentKey digest rest) = .ok result ↔
      hasKey events (contentKey digest rest) = false ∧
        (events.length + 1, events ++ [⟨contentKey digest rest⟩]) = result := by
  have hlabel : byteLen "workflow_content:".toList = 17 := by decide
  have hlen : byteLen (contentKey digest rest) = 81 + byteLen rest := by
    unfold contentKey Sha256Digest.toHex
    rw [byteLen_append, byteLen_append, byteLen_hexDigits, hlabel]
  exact insertEvent_eq_ok (by omega) (by omega)

namespace ContentStore

variable {s s' : ContentStore} {entry : ContentEntry}

/-- Whether a digest is recorded as present or deleted. -/
def contentState (s : ContentStore) (digest : Sha256Digest) : Option ContentState :=
  (s.loadContent digest).map ContentEntry.state

theorem contentState_upsert {rows : List ContentEntry} (entry : ContentEntry) :
    contentState ⟨events, upsert ContentEntry.contentSha256 rows entry⟩ entry.contentSha256 =
      some entry.state :=
  congrArg (Option.map ContentEntry.state) (lookup_upsert_self rows entry)

/-- A step changes nothing, or writes an entry under the key of its deletion or its record. -/
theorem contentStep_cases {op : ContentOp} {response : Option Event ⊕ Option ContentEntry}
    (h : s.contentStep op = .ok (response, s')) :
    s' = s ∨ ∃ key entry, s.appendContent key entry = .ok s' ∧
      (key = contentDeletedKey entry.contentSha256 ∨
        op = .record entry ∧ key = contentPresentKey entry) := by
  cases op <;>
    simp only [contentStep, recordWorkflowContent, deleteWorkflowContent, eq_ok] at h
  case record entry =>
    obtain ⟨_, _, ⟨-, h⟩, -, rfl⟩ := h
    split_ifs at h
    · cases h
      exact .inl rfl
    · simp only [eq_ok] at h
      obtain ⟨_, happend, -, rfl⟩ := h
      exact .inr ⟨_, entry, happend, .inr ⟨rfl, rfl⟩⟩
  case delete digest reasonCode timestamp =>
    obtain ⟨_, _, h, -, rfl⟩ := h
    cases hload : s.loadContent digest with
    | none =>
      rw [hload] at h
      cases h
      exact .inl rfl
    | some existing =>
      simp only [hload] at h
      split_ifs at h
      · cases h
        exact .inl rfl
      · simp only [eq_ok] at h
        obtain ⟨-, _, happend, -, rfl⟩ := h
        obtain rfl := key_of_lookup hload
        exact .inr ⟨_, _, happend, .inl rfl⟩

/-- After the accepted calls `l`: every event is a deletion or a record of them, and every count fits
its column. -/
structure ContentInv (l : List (Transition ContentStore ContentOp (Option Event ⊕ Option ContentEntry)))
    (s : ContentStore) : Prop where
  keyed : ∀ event ∈ s.events, (∃ digest, event.idempotencyKey = contentDeletedKey digest) ∨
    ∃ t ∈ l, ∃ entry, t.input = .record entry ∧ event.idempotencyKey = contentPresentKey entry
  fits : ∀ entry ∈ s.contents, entry.byteCount < 2 ^ 63

/-- The index and its events after every run. -/
theorem contentInv_final (ops : List ContentOp) :
    ContentInv (history contentStep ⟨[], []⟩ ops) (final contentStep ⟨[], []⟩ ops) := by
  refine history_invariant ContentInv ⟨by simp, by simp⟩ ?_ ops
  intro l s op response s' hinv hstep
  have hlater : ContentInv (l ++ [⟨s, op, response, s'⟩]) s := by
    refine ⟨fun event hmem => (hinv.keyed event hmem).imp_right ?_, hinv.fits⟩
    exact fun ⟨t, ht, hrecord⟩ => ⟨t, mem_append_left _ ht, hrecord⟩
  rcases contentStep_cases hstep with rfl | ⟨_, entry, happend, hkey⟩
  · exact hlater
  · simp only [appendContent, insertEvent, eq_ok] at happend
    obtain ⟨_, _, ⟨-, -, -, rfl⟩, hcount, rfl⟩ := happend
    refine ⟨forall_mem_snoc hlater.keyed ?_, fun other hmem => ?_⟩
    · rcases hkey with rfl | ⟨rfl, rfl⟩
      · exact .inl ⟨_, rfl⟩
      · exact .inr ⟨_, mem_append_right _ (.head _), entry, rfl, rfl⟩
    · rcases mem_upsert hmem with rfl | hmem
      · exact hcount
      · exact hinv.fits other hmem

theorem record_deleted (hdeleted : s.contentState entry.contentSha256 = some .deleted)
    (hpresent : entry.state = .present) (hfits : entry.byteCount < 2 ^ 63)
    (hfresh : hasKey s.events (contentPresentKey entry) = false) :
    ∃ response s', s.contentStep (.record entry) = .ok (response, s') ∧
      s'.contentState entry.contentSha256 = some .present := by
  have hother : ¬ ((s.loadContent entry.contentSha256).any fun existing =>
      existing.state = .present) = true := by
    obtain ⟨existing, hload, hstate⟩ := Option.map_eq_some_iff.1 hdeleted
    simp [hload, hstate]
  have htime : byteLen (":present:".toList ++ decimal entry.updatedAtMs.toNat) ≤ 29 := by
    have hlabel : byteLen ":present:".toList = 9 := by decide
    have hmax : byteLen (decimal u64Max) = 20 := by decide
    have hle := byteLen_decimal_le (Nat.le_pred_of_lt entry.updatedAtMs.toNat_lt)
    rw [byteLen_append, hlabel]
    omega
  simp only [contentStep, recordWorkflowContent, appendContent, contentPresentKey, if_neg hother,
    eq_ok, insertEvent_contentKey htime]
  exact ⟨_, _, ⟨_, _, ⟨hpresent, _, ⟨_, _, ⟨hfresh, rfl, rfl⟩, hfits, rfl⟩, rfl, rfl⟩, rfl, rfl⟩,
    (contentState_upsert entry).trans (congrArg some hpresent)⟩

/-- The reason leaves the event of a deletion short enough. -/
def DeletionFits (s : ContentStore) (digest : Sha256Digest) (reasonCode : String) : Prop :=
  ∀ existing, s.loadContent digest = some existing →
    byteLen (contentDeletedPayload existing reasonCode) ≤ maxEventPayloadBytes

/-- The deletion works, and so does a record of the digest after it under a time of its own. -/
def Deletes (ops : List ContentOp) (digest : Sha256Digest) (reasonCode : String)
    (timestamp : Timestamp) : Prop :=
  ∃ response s', (final contentStep ⟨[], []⟩ ops).contentStep (.delete digest reasonCode timestamp) =
      .ok (response, s') ∧ s'.contentState digest = some .deleted ∧
    ∀ entry, entry.contentSha256 = digest → entry.state = .present → entry.byteCount < 2 ^ 63 →
      (∀ t ∈ history contentStep ⟨[], []⟩ ops, ∀ other, t.input = .record other →
        other.updatedAtMs ≠ entry.updatedAtMs) →
      ∃ response s'', s'.contentStep (.record entry) = .ok (response, s'') ∧
        s''.contentState digest = some .present

/-- After any run, the deletion of a present digest works exactly when its event fits and no event has
its key. -/
theorem present_deletes_iff (ops : List ContentOp) {digest : Sha256Digest} (reasonCode : String)
    (timestamp : Timestamp)
    (hpresent : (final contentStep ⟨[], []⟩ ops).contentState digest = some .present) :
    Deletes ops digest reasonCode timestamp ↔
      DeletionFits (final contentStep ⟨[], []⟩ ops) digest reasonCode ∧
      hasKey (final contentStep ⟨[], []⟩ ops).events (contentDeletedKey digest) = false := by
  have hinv := contentInv_final ops
  unfold Deletes DeletionFits
  generalize final contentStep ⟨[], []⟩ ops = s at *
  obtain ⟨existing, hload, hstate⟩ := Option.map_eq_some_iff.1 hpresent
  obtain rfl := key_of_lookup hload
  simp only [contentStep.eq_2, deleteWorkflowContent, appendContent, contentDeletedKey, hload,
    hstate, reduceCtorEq, if_false, eq_ok, Option.some.injEq, forall_eq',
    insertEvent_contentKey (by decide : byteLen ":deleted".toList ≤ 29)]
  constructor
  · rintro ⟨_, _, ⟨_, _, ⟨hshort, _, ⟨_, _, ⟨hfresh, -⟩, -⟩, -⟩, -⟩, -⟩
    exact ⟨hshort, hfresh⟩
  · rintro ⟨hshort, hfresh⟩
    refine ⟨_, _, ⟨_, _, ⟨hshort, _, ⟨_, _, ⟨hfresh, rfl, rfl⟩,
      hinv.fits existing (mem_of_lookup hload), rfl⟩, rfl, rfl⟩, rfl, rfl⟩, contentState_upsert _, ?_⟩
    intro entry hdigest hentry hfits htimes
    rw [← hdigest]
    refine record_deleted (hdigest ▸ contentState_upsert _) hentry hfits ?_
    simp only [hasKey, any_eq_false, beq_iff_eq, mem_append, mem_singleton]
    rintro event (hmem | rfl) hkey
    · rcases hinv.keyed event hmem with ⟨digest, hdeleted⟩ | ⟨t, ht, other, hinput, hother⟩
      · exact contentDeletedKey_ne_present digest entry (hdeleted.symm.trans hkey)
      · exact htimes t ht other hinput (updatedAtMs_of_contentPresentKey (hother.symm.trans hkey))
    · exact contentDeletedKey_ne_present _ entry hkey

def sampleContent (updatedAtMs : UInt64) : ContentEntry :=
  ⟨⟨1⟩, none, .transcript, 4, .present, 0, updatedAtMs⟩

/-- A recorded text can be deleted. -/
theorem sampleContent_deletes :
    (final contentStep ⟨[], []⟩ [.record (sampleContent 1)]).contentState ⟨1⟩ = some .present ∧
      Deletes [.record (sampleContent 1)] ⟨1⟩ "retention_expired" 0 := by
  have hpresent : (final contentStep ⟨[], []⟩ [.record (sampleContent 1)]).contentState ⟨1⟩ =
      some .present := by decide +kernel
  have hload : (final contentStep ⟨[], []⟩ [.record (sampleContent 1)]).loadContent ⟨1⟩ =
      some (sampleContent 1) := by decide +kernel
  refine ⟨hpresent, (present_deletes_iff _ _ 0 hpresent).2 ⟨?_, by decide +kernel⟩⟩
  intro existing hexisting
  obtain rfl := Option.some.inj (hload.symm.trans hexisting)
  decide +kernel

/-- The text is recorded, deleted and recorded again. -/
def recordedAgain : List ContentOp :=
  [.record (sampleContent 1), .delete ⟨1⟩ "retention_expired" 0, .record (sampleContent 2)]

/-- Its second deletion is refused. -/
theorem recordedAgain_stays :
    (final contentStep ⟨[], []⟩ recordedAgain).contentState ⟨1⟩ = some .present ∧
      ¬ Deletes recordedAgain ⟨1⟩ "retention_expired" 0 := by
  refine ⟨by decide +kernel, ?_⟩
  rintro ⟨response, s', hstep, -⟩
  have hrefused : ((final contentStep ⟨[], []⟩ recordedAgain).contentStep
      (.delete ⟨1⟩ "retention_expired" 0)).isOk = false := by decide +kernel
  rw [hstep] at hrefused
  cases hrefused

end ContentStore

end Vibemux
