import Vibemux.A2a.TaskRuntime

/-!
# What a turn of the task runtime does

An input is one of four turns: it only answers, starts a task, queues a waiter, or finishes the task of a
job that ended. The tasks that are not terminal are those with a running job.
-/

namespace Vibemux

open Checked OrderedMap List RuntimeEntry Owner

variable {entry : RuntimeEntry} {entries : List (String × RuntimeEntry)} {subject : String}
  {context : CommandContext} {found : RuntimeEntry} {id key : String} {jobId : JobId}
  {request : TaskListRequest}

/-! ## Entries -/

/-- The same task in the same state, whatever its waiters and its cancel flag are. -/
structure RuntimeEntry.SameTask (entry other : RuntimeEntry) : Prop where
  subject : entry.subject = other.subject
  key : entry.key = other.key
  input : entry.input = other.input
  snapshot : entry.snapshot = other.snapshot

theorem RuntimeEntry.SameTask.refl (entry : RuntimeEntry) : entry.SameTask entry := ⟨rfl, rfl, rfl, rfl⟩

theorem RuntimeEntry.queueWaiter_sameTask (reply : ReplyId) (closed : List ReplyId) (entry : RuntimeEntry) :
    (entry.queueWaiter reply closed).SameTask entry := by
  unfold queueWaiter
  dsimp only
  split_ifs <;> exact ⟨rfl, rfl, rfl, rfl⟩

@[simp]
theorem get_modifyEntry_self (id : String) (change : RuntimeEntry → RuntimeEntry)
    (entries : List (String × RuntimeEntry)) :
    get (modifyEntry id change entries) id = (get entries id).map change := by
  simp [modifyEntry]

theorem get_modifyEntry_of_ne {other : String} (h : other ≠ id)
    (change : RuntimeEntry → RuntimeEntry) (entries : List (String × RuntimeEntry)) :
    get (modifyEntry id change entries) other = get entries other := by
  rw [modifyEntry, get_mapValues]
  simp [h]

section Finished

variable (parseUrl : String → Option ParsedUrl)

section

variable (snapshot : TaskSnapshot) (result : Except TaskGatewayError TaskExecution)

theorem finishedSnapshot_isTerminal :
    (finishedSnapshot parseUrl snapshot result).state.isTerminal = true := by
  unfold finishedSnapshot
  split
  · rfl
  · dsimp only
    split <;> rfl
  · rfl

theorem finishedSnapshot_taskId :
    (finishedSnapshot parseUrl snapshot result).taskId = snapshot.taskId := by
  unfold finishedSnapshot
  split
  · rfl
  · dsimp only
    split <;> rfl
  · rfl

theorem finishedSnapshot_contextId :
    (finishedSnapshot parseUrl snapshot result).contextId = snapshot.contextId := by
  unfold finishedSnapshot
  split
  · rfl
  · dsimp only
    split <;> rfl
  · rfl

end

theorem RuntimeEntry.finish_of_terminal (h : entry.snapshot.state.isTerminal = true)
    (result : Except TaskGatewayError TaskExecution) :
    entry.finish parseUrl result = entry := if_pos h

section

variable (h : entry.snapshot.state.isTerminal = false)
  (result : Except TaskGatewayError TaskExecution)
include h result

theorem RuntimeEntry.finish_of_open : entry.finish parseUrl result =
      { entry with snapshot := finishedSnapshot parseUrl entry.snapshot result, cancelWaiters := [] } := by
  simp [finish, h]

theorem RuntimeEntry.finishEffects_of_open (id : String) : entry.finishEffects parseUrl result id =
      .published id (finishedSnapshot parseUrl entry.snapshot result) ::
        entry.cancelWaiters.map fun reply =>
          .replied reply (.snapshot (finishedSnapshot parseUrl entry.snapshot result)) := by
  simp [finishEffects, h]

end

end Finished

/-! ## Replies -/

/-- The snapshots that a reply shows. -/
def RuntimeReply.snapshots : RuntimeReply → List TaskSnapshot
  | .snapshot shown => [shown]
  | .stream initial => [initial]
  | .list page => page.tasks
  | .refused _ => []

/-- A reply that shows tasks as they are. -/
def RuntimeReply.Shows (entries : List (String × RuntimeEntry)) (reply : RuntimeReply) : Prop :=
  ∀ snapshot ∈ reply.snapshots, ∃ id entry, (id, entry) ∈ entries ∧
    snapshot.taskId = entry.snapshot.taskId ∧ snapshot.state = entry.snapshot.state

/-- The replies to the commands from number `received` on. -/
def answers (received : Nat) : List RuntimeReply → List RuntimeEffect
  | [] => []
  | reply :: rest => .replied received reply :: answers (received + 1) rest

theorem rejected_eq_answers (received : Nat) (queued : List RuntimeCommand) :
    rejected received queued = answers received (queued.map fun _ => .refused .server) := by
  induction queued generalizing received with
  | nil => rfl
  | cons first rest ih =>
    rw [map_cons, answers, ← ih, rejected, zipIdx_cons, map_cons, zipIdx_succ,
      map_map, rejected]
    refine congrArg (cons _) (map_congr_left fun command _ => ?_)
    simp only [Function.comp_apply, Nat.add_right_comm, ← Nat.add_assoc]

theorem ownedEntry_eq_ok {subject : String} :
    ownedEntry entries subject id = .ok entry ↔ get entries id = some entry ∧ entry.subject = subject := by
  rw [ownedEntry, require_eq_ok, Option.filter_eq_some_iff, beq_iff_eq]

theorem keyedEntry_eq_some {subject : String} (h : keyedEntry entries subject key = some entry) :
    ∃ id, (id, entry) ∈ entries ∧ entry.subject = subject ∧ entry.key = key := by
  obtain ⟨found, hfound, rfl⟩ := Option.map_eq_some_iff.1 h
  have hkeys := find?_some hfound
  simp only [Bool.and_eq_true, beq_iff_eq] at hkeys
  exact ⟨found.1, mem_of_find?_eq_some hfound, hkeys⟩

theorem keyedEntry_eq_none {subject : String} :
    keyedEntry entries subject key = none ↔
      ∀ entry ∈ entries, ¬(entry.2.subject = subject ∧ entry.2.key = key) := by
  simp [keyedEntry]

section List

variable {parseUrl : String → Option ParsedUrl}

theorem matchingTasks_shown {snapshot : TaskSnapshot}
    (h : snapshot ∈ matchingTasks entries subject request) :
    ∃ id entry, (id, entry) ∈ entries ∧ entry.subject = subject ∧ snapshot = entry.snapshot := by
  obtain ⟨⟨id, entry⟩, hmem, rfl⟩ := mem_map.1 h
  obtain ⟨hentry, hcond⟩ := mem_filter.1 hmem
  simp only [Bool.and_eq_true, beq_iff_eq] at hcond
  exact ⟨id, entry, hentry, hcond.1.1, rfl⟩

/-- A page holds the snapshots it started with and some of those it is given, perhaps without their
artifacts. -/
theorem fillList_mem {includeArtifacts : Bool} {total : Nat} {snapshots : List TaskSnapshot}
    {page page' : TaskList} {stop stop' : Nat}
    (h : fillList parseUrl includeArtifacts total page stop snapshots = .ok (page', stop'))
    {snapshot : TaskSnapshot} (hmem : snapshot ∈ page'.tasks) :
    snapshot ∈ page.tasks ∨
      ∃ full ∈ snapshots, snapshot.taskId = full.taskId ∧ snapshot.state = full.state := by
  induction snapshots generalizing page stop with
  | nil =>
    cases h
    exact .inl hmem
  | cons first rest ih =>
    rw [fillList] at h
    dsimp only at h
    split at h
    · rcases ih h with hpage | ⟨full, hfull, hsame⟩
      · rcases mem_append.1 hpage with hold | hnew
        · exact .inl hold
        · rw [mem_singleton.1 hnew]
          refine .inr ⟨first, mem_cons_self, ?_⟩
          split <;> exact ⟨rfl, rfl⟩
      · exact .inr ⟨full, mem_cons_of_mem _ hfull, hsame⟩
    · split at h
      · cases h
      · cases h
        exact .inl hmem

theorem listTasks_shows {list : TaskList}
    (h : listTasks parseUrl entries subject request = .ok list) :
    (RuntimeReply.list list).Shows entries := by
  simp only [listTasks, eq_ok] at h
  obtain ⟨_, -, -, _, _, hfill, -, rfl⟩ := h
  intro snapshot hmem
  rcases fillList_mem hfill hmem with hpage | ⟨_, hfull, hid, hstate⟩
  · cases hpage
  · have hmatching := mem_of_mem_drop (mem_of_mem_take hfull)
    obtain ⟨id, entry, hentry, -, rfl⟩ := matchingTasks_shown hmatching
    exact ⟨id, entry, hentry, hid, hstate⟩

end List

/-! ## The invariant of the owner -/

/-- The owner of a runtime that runs at most `maxParallel` jobs. -/
structure Owner.WellFormed (maxParallel : Nat) (owner : Owner) : Prop where
  sorted : Sorted owner.entries
  /-- An idempotency key of a subject names one task. -/
  keyed : (owner.entries.map fun entry => (entry.2.subject, entry.2.key)).Nodup
  jobIds : owner.jobIds = owner.jobs
  jobKeys : (keys owner.jobs).Nodup
  jobTasks : (owner.jobs.map Prod.snd).Nodup
  jobEntry : ∀ id ∈ owner.jobs.map Prod.snd, id ∈ keys owner.entries
  running : ∀ id entry, (id, entry) ∈ owner.entries →
    (entry.snapshot.state.isTerminal = false ↔ id ∈ owner.jobs.map Prod.snd)
  opened : ∀ id entry, (id, entry) ∈ owner.entries → entry.snapshot.state.isTerminal = false →
    entry.snapshot = ⟨id, entry.snapshot.contextId, .working, [], none⟩
  named : ∀ id entry, (id, entry) ∈ owner.entries → entry.snapshot.taskId = id
  answered : ∀ id entry, (id, entry) ∈ owner.entries → entry.snapshot.state.isTerminal = true →
    entry.cancelWaiters = []
  entries_le : owner.entries.length ≤ maxRuntimeTasks
  jobs_le : owner.jobs.length ≤ maxParallel

/-- A new owner is well formed. -/
theorem Owner.wellFormed_new (maxParallel : Nat) : new.WellFormed maxParallel where
  sorted := List.Pairwise.nil
  keyed := nodup_nil
  jobIds := rfl
  jobKeys := nodup_nil
  jobTasks := nodup_nil
  jobEntry := by simp [new]
  running := by simp [new]
  opened := by simp [new]
  named := by simp [new]
  answered := by simp [new]
  entries_le := Nat.zero_le _
  jobs_le := Nat.zero_le _

/-! ## Turns -/

/-- What a turn does, apart from the phase and the recorded failure. -/
inductive Turn (parseUrl : String → Option ParsedUrl) (floats : String → FloatValue) (maxParallel : Nat)
    (before : Runtime) (input : RuntimeInput) (after : Runtime) : Prop
  /-- Commands are answered from the entries as they are. -/
  | answered (change : String → RuntimeEntry → RuntimeEntry) (replies : List RuntimeReply)
      (same : ∀ id entry, (change id entry).SameTask entry)
      (waiters : ∀ id entry, (change id entry).cancelWaiters = entry.cancelWaiters)
      (entries : after.owner.entries = mapValues change before.owner.entries)
      (jobs : after.owner.jobs = before.owner.jobs)
      (jobIds : after.owner.jobIds = before.owner.jobIds)
      (shows : ∀ reply ∈ replies, reply.Shows before.owner.entries)
      (received : after.received = before.received + replies.length)
      (log : after.log = before.log ++ answers before.received replies)
  | started (context : CommandContext) (subject : String) (request : TaskRequest) (identity : List Char)
      (command : input = .command (.send subject request) context)
      (fresh : context.taskId ∉ keys before.owner.entries)
      (freshJob : context.jobId ∉ keys before.owner.jobs)
      (identified : inputIdentity floats request = .ok identity)
      (unkeyed : keyedEntry before.owner.entries subject request.idempotencyKey = none)
      (room : before.owner.entries.length < maxRuntimeTasks ∧ before.owner.jobs.length < maxParallel)
      (owner : after.owner = (before.owner.startTask before.received context subject request identity).1)
      (received : after.received = before.received + 1)
      (log : after.log =
        before.log ++ (before.owner.startTask before.received context subject request identity).2)
  | queued (context : CommandContext) (subject id : String) (entry : RuntimeEntry)
      (command : input = .command (.cancel subject id) context)
      (found : get before.owner.entries id = some entry)
      (owned : entry.subject = subject)
      (unfinished : entry.snapshot.state.isTerminal = false)
      (entries : after.owner.entries =
        modifyEntry id (RuntimeEntry.queueWaiter before.received context.closed) before.owner.entries)
      (jobs : after.owner.jobs = before.owner.jobs)
      (jobIds : after.owner.jobIds = before.owner.jobIds)
      (received : after.received = before.received + 1)
      (log : after.log = before.log ++ entry.queueEffects before.received context.closed)
  | finished (jobId : JobId) (id : String) (entry : RuntimeEntry)
      (result : Except TaskGatewayError TaskExecution)
      (job : get before.owner.jobs jobId = some id)
      (found : get before.owner.entries id = some entry)
      (unfinished : entry.snapshot.state.isTerminal = false)
      (entries : after.owner.entries =
        modifyEntry id (RuntimeEntry.finish parseUrl result) before.owner.entries)
      (jobs : after.owner.jobs = erase before.owner.jobs jobId)
      (jobIds : after.owner.jobIds = erase before.owner.jobIds jobId)
      (received : after.received = before.received)
      (log : after.log = before.log ++ entry.finishEffects parseUrl result id)

/-! ### The invariant is kept -/

section Kept

variable {parseUrl : String → Option ParsedUrl} {floats : String → FloatValue} {maxParallel : Nat}
  {owner owner' : Owner} {result : Except TaskGatewayError TaskExecution}

/-- A change of flags and waiters, as long as terminal tasks get no waiter. -/
theorem Owner.WellFormed.sameTasks (h : owner.WellFormed maxParallel)
    {change : String → RuntimeEntry → RuntimeEntry}
    (hsame : ∀ id entry, (id, entry) ∈ owner.entries → (change id entry).SameTask entry)
    (hwaiters : ∀ id entry, (id, entry) ∈ owner.entries → entry.snapshot.state.isTerminal = true →
      (change id entry).cancelWaiters = [])
    (hentries : owner'.entries = mapValues change owner.entries)
    (hjobs : owner'.jobs = owner.jobs) (hjobIds : owner'.jobIds = owner.jobIds) :
    owner'.WellFormed maxParallel where
  sorted := hentries ▸ h.sorted.mapValues change
  keyed := by
    have hmap : (owner'.entries.map fun entry => (entry.2.subject, entry.2.key)) =
        owner.entries.map fun entry => (entry.2.subject, entry.2.key) := by
      rw [hentries, mapValues, map_map]
      refine map_congr_left fun entry hmem => ?_
      have hentry := hsame entry.1 entry.2 hmem
      exact Prod.ext hentry.subject hentry.key
    rw [hmap]
    exact h.keyed
  jobIds := by rw [hjobIds, hjobs, h.jobIds]
  jobKeys := hjobs ▸ h.jobKeys
  jobTasks := hjobs ▸ h.jobTasks
  jobEntry := by
    rw [hjobs, hentries, keys_mapValues]
    exact h.jobEntry
  running := by
    intro id entry hmem
    rw [hentries] at hmem
    obtain ⟨old, hold, rfl⟩ := mem_mapValues.1 hmem
    rw [(hsame id old hold).snapshot, hjobs]
    exact h.running id old hold
  opened := by
    intro id entry hmem hopen
    rw [hentries] at hmem
    obtain ⟨old, hold, rfl⟩ := mem_mapValues.1 hmem
    rw [(hsame id old hold).snapshot] at hopen ⊢
    exact h.opened id old hold hopen
  named := by
    intro id entry hmem
    rw [hentries] at hmem
    obtain ⟨old, hold, rfl⟩ := mem_mapValues.1 hmem
    rw [(hsame id old hold).snapshot]
    exact h.named id old hold
  answered := by
    intro id entry hmem hterminal
    rw [hentries] at hmem
    obtain ⟨old, hold, rfl⟩ := mem_mapValues.1 hmem
    rw [(hsame id old hold).snapshot] at hterminal
    exact hwaiters id old hold hterminal
  entries_le := by
    rw [hentries, length_mapValues]
    exact h.entries_le
  jobs_le := hjobs ▸ h.jobs_le

theorem Owner.WellFormed.start (h : owner.WellFormed maxParallel) {request : TaskRequest}
    (reply : ReplyId) (input : List Char) (hfresh : context.taskId ∉ keys owner.entries)
    (hfreshJob : context.jobId ∉ keys owner.jobs)
    (hunkeyed : keyedEntry owner.entries subject request.idempotencyKey = none)
    (hroom : owner.entries.length < maxRuntimeTasks ∧ owner.jobs.length < maxParallel) :
    (owner.startTask reply context subject request input).1.WellFormed maxParallel where
  sorted := sorted_insert h.sorted
  keyed := by
    refine ((perm_insert_of_notMem hfresh _).map _).nodup_iff.2 (nodup_cons.2 ⟨?_, h.keyed⟩)
    intro hmem
    obtain ⟨entry, hentry, heq⟩ := mem_map.1 hmem
    exact keyedEntry_eq_none.1 hunkeyed entry hentry (Prod.ext_iff.1 heq)
  jobIds := congrArg (cons _) h.jobIds
  jobKeys := nodup_cons.2 ⟨hfreshJob, h.jobKeys⟩
  jobTasks := nodup_cons.2 ⟨fun hmem => hfresh (h.jobEntry _ hmem), h.jobTasks⟩
  jobEntry := by
    intro id hmem
    refine mem_keys_insert.2 ?_
    rcases mem_cons.1 hmem with rfl | hmem
    · exact .inl rfl
    · exact .inr (h.jobEntry id hmem)
  running := by
    intro id entry hmem
    rcases (mem_insert_of_notMem hfresh).1 hmem with ⟨rfl, rfl⟩ | hold
    · exact iff_of_true rfl mem_cons_self
    · have hne : id ≠ context.taskId := fun heq => hfresh (heq ▸ mem_map_of_mem hold)
      rw [h.running id entry hold]
      exact (mem_cons.trans (or_iff_right hne)).symm
  opened := by
    intro id entry hmem hopen
    rcases (mem_insert_of_notMem hfresh).1 hmem with ⟨rfl, rfl⟩ | hold
    · rfl
    · exact h.opened id entry hold hopen
  named := by
    intro id entry hmem
    rcases (mem_insert_of_notMem hfresh).1 hmem with ⟨rfl, rfl⟩ | hold
    · rfl
    · exact h.named id entry hold
  answered := by
    intro id entry hmem hterminal
    rcases (mem_insert_of_notMem hfresh).1 hmem with ⟨rfl, rfl⟩ | hold
    · rfl
    · exact h.answered id entry hold hterminal
  entries_le := (perm_insert_of_notMem hfresh _).length_eq.trans_le hroom.1
  jobs_le := hroom.2

/-- An entry of the owner after the task of a job is finished: the finished one, or another as it was. -/
theorem mem_finished {k : String} {entry : RuntimeEntry} (hsorted : Sorted entries)
    (hfound : get entries id = some found)
    (hmem : (k, entry) ∈ modifyEntry id (finish parseUrl result) entries) :
    (k = id ∧ entry = found.finish parseUrl result) ∨ (k ≠ id ∧ (k, entry) ∈ entries) := by
  obtain ⟨old, hold, rfl⟩ := mem_mapValues.1 hmem
  by_cases hk : k = id
  · subst hk
    have hsome := (get_eq_some_iff hsorted).2 hold
    rw [hfound] at hsome
    cases hsome
    exact .inl ⟨rfl, if_pos rfl⟩
  · exact .inr ⟨hk, by simpa [hk] using hold⟩

theorem Owner.WellFormed.finish (h : owner.WellFormed maxParallel)
    (hjob : get owner.jobs jobId = some id) (hfound : get owner.entries id = some found)
    (hopen : found.snapshot.state.isTerminal = false)
    (hentries : owner'.entries = modifyEntry id (RuntimeEntry.finish parseUrl result) owner.entries)
    (hjobs : owner'.jobs = erase owner.jobs jobId)
    (hjobIds : owner'.jobIds = erase owner.jobIds jobId) :
    owner'.WellFormed maxParallel := by
  have hterminal := finishedSnapshot_isTerminal parseUrl found.snapshot result
  have htasks (k : String) : k ∈ owner'.jobs.map Prod.snd ↔ k ∈ owner.jobs.map Prod.snd ∧ k ≠ id := by
    rw [hjobs]
    exact mem_values_erase h.jobKeys h.jobTasks hjob
  have hcases {k : String} {entry : RuntimeEntry} (hmem : (k, entry) ∈ owner'.entries) :
      (k = id ∧ entry = { found with
        snapshot := finishedSnapshot parseUrl found.snapshot result, cancelWaiters := [] }) ∨
        (k ≠ id ∧ (k, entry) ∈ owner.entries) := by
    rw [hentries] at hmem
    have hcases := mem_finished h.sorted hfound hmem
    rwa [finish_of_open parseUrl hopen] at hcases
  refine ⟨?_, ?_, ?_, ?_, ?_, ?_, ?_, ?_, ?_, ?_, ?_, ?_⟩
  · rw [hentries]
    exact h.sorted.mapValues _
  · have hmap : (owner'.entries.map fun entry => (entry.2.subject, entry.2.key)) =
        owner.entries.map fun entry => (entry.2.subject, entry.2.key) := by
      rw [hentries, modifyEntry, OrderedMap.mapValues, map_map]
      refine map_congr_left fun entry _ => ?_
      dsimp only [Function.comp_apply]
      unfold RuntimeEntry.finish
      split_ifs <;> rfl
    rw [hmap]
    exact h.keyed
  · rw [hjobIds, hjobs, h.jobIds]
  · rw [hjobs]
    exact h.jobKeys.sublist (filter_sublist.map _)
  · rw [hjobs]
    exact h.jobTasks.sublist (filter_sublist.map _)
  · intro k hmem
    rw [hentries, modifyEntry, keys_mapValues]
    exact h.jobEntry k ((htasks k).1 hmem).1
  · intro k entry hmem
    rcases hcases hmem with ⟨rfl, rfl⟩ | ⟨hne, hold⟩
    · rw [htasks]
      simp [hterminal]
    · rw [htasks, h.running k entry hold]
      exact (and_iff_left hne).symm
  · intro k entry hmem hopen'
    rcases hcases hmem with ⟨rfl, rfl⟩ | ⟨-, hold⟩
    · rw [hterminal] at hopen'
      cases hopen'
    · exact h.opened k entry hold hopen'
  · intro k entry hmem
    rcases hcases hmem with ⟨rfl, rfl⟩ | ⟨-, hold⟩
    · rw [finishedSnapshot_taskId]
      exact h.named k found (mem_of_get hfound)
    · exact h.named k entry hold
  · intro k entry hmem hterminal'
    rcases hcases hmem with ⟨rfl, rfl⟩ | ⟨-, hold⟩
    · rfl
    · exact h.answered k entry hold hterminal'
  · rw [hentries, modifyEntry, length_mapValues]
    exact h.entries_le
  · rw [hjobs]
    exact (length_filter_le _ _).trans h.jobs_le

/-- One turn keeps the owner well formed. -/
theorem Turn.wellFormed {before after : Runtime} {input : RuntimeInput}
    (h : before.owner.WellFormed maxParallel) (turn : Turn parseUrl floats maxParallel before input after) :
    after.owner.WellFormed maxParallel := by
  cases turn with
  | answered _ _ same waiters entries jobs jobIds =>
    refine h.sameTasks (fun id entry _ => same id entry) ?_ entries jobs jobIds
    intro id entry hmem hterminal
    rw [waiters, h.answered id entry hmem hterminal]
  | started _ _ _ _ _ fresh freshJob _ unkeyed room owner =>
    rw [owner]
    exact h.start _ _ fresh freshJob unkeyed room
  | queued _ _ id _ _ found _ unfinished entries jobs jobIds =>
    refine h.sameTasks (fun k other _ => ?_) (fun k other hmem hterminal => ?_) entries jobs jobIds
    · split_ifs
      · exact other.queueWaiter_sameTask _ _
      · exact .refl other
    · have hne : k ≠ id := by
        rintro rfl
        have hsome := (get_eq_some_iff h.sorted).2 hmem
        rw [found] at hsome
        cases hsome
        rw [hterminal] at unfinished
        cases unfinished
      rw [if_neg hne]
      exact h.answered k other hmem hterminal
  | finished _ _ _ _ job found unfinished entries jobs jobIds =>
    exact h.finish job found unfinished entries jobs jobIds

end Kept

/-! ### Every accepted input is a turn -/

section Inversion

variable {parseUrl : String → Option ParsedUrl} {floats : String → FloatValue} {maxParallel : Nat}
  {before after : Runtime} {input : RuntimeInput}

theorem RuntimeReply.Shows.refused (entries : List (String × RuntimeEntry)) (error : TaskGatewayError) :
    (RuntimeReply.refused error).Shows entries := by
  intro snapshot hmem
  cases hmem

theorem RuntimeReply.Shows.ofEntry (hmem : (id, entry) ∈ entries) :
    (RuntimeReply.snapshot entry.snapshot).Shows entries := by
  intro snapshot hsnapshot
  rw [mem_singleton.1 hsnapshot]
  exact ⟨id, entry, hmem, rfl, rfl⟩

/-- One command is answered and nothing changes. -/
theorem Turn.answer (reply : RuntimeReply) (hshows : reply.Shows before.owner.entries) :
    Turn parseUrl floats maxParallel before input { before with
      received := before.received + 1
      log := before.log ++ [.replied before.received reply] } :=
  .answered (fun _ entry => entry) [reply] (fun _ => .refl) (fun _ _ => rfl)
    (mapValues_eq_self fun _ _ _ => rfl).symm rfl rfl
    (fun _ hmem => mem_singleton.1 hmem ▸ hshows) rfl rfl

theorem handleSend_turn {request : TaskRequest}
    (hfresh : context.taskId ∉ keys before.owner.entries)
    (hfreshJob : context.jobId ∉ keys before.owner.jobs) :
    let turn := before.owner.handleSend floats maxParallel before.received context subject request
    Turn parseUrl floats maxParallel before (.command (.send subject request) context) { before with
      owner := turn.1, received := before.received + 1, log := before.log ++ turn.2 } := by
  unfold handleSend
  split
  · exact .answer _ (.refused _ _)
  case h_2 identity hidentity =>
    split
    case h_1 existing hexisting =>
      obtain ⟨id, hmem, -⟩ := keyedEntry_eq_some hexisting
      refine .answer _ ?_
      split_ifs
      · exact RuntimeReply.Shows.ofEntry hmem
      · exact .refused _ _
    case h_2 hunkeyed =>
      by_cases htask : request.taskId.isSome = true
      · rw [if_pos htask]
        exact .answer _ (.refused _ _)
      · rw [if_neg htask]
        by_cases hfull : maxRuntimeTasks ≤ before.owner.entries.length ∨ maxParallel ≤ before.owner.jobs.length
        · rw [if_pos hfull]
          exact .answer _ (.refused _ _)
        · rw [if_neg hfull]
          rw [not_or, not_le, not_le] at hfull
          exact .started context subject request identity rfl hfresh hfreshJob hidentity hunkeyed hfull
            rfl rfl rfl

theorem handleCancel_turn {subject : String} :
    let turn := before.owner.handleCancel before.received context subject id
    Turn parseUrl floats maxParallel before (.command (.cancel subject id) context) { before with
      owner := turn.1, received := before.received + 1, log := before.log ++ turn.2 } := by
  unfold handleCancel
  split
  · exact .answer _ (.refused _ _)
  case h_2 entry hentry =>
    obtain ⟨hfound, howned⟩ := ownedEntry_eq_ok.1 hentry
    by_cases hcanceled : entry.snapshot.state = .canceled
    · rw [if_pos hcanceled]
      exact .answer _ (RuntimeReply.Shows.ofEntry (mem_of_get hfound))
    · rw [if_neg hcanceled]
      cases hterminal : entry.snapshot.state.isTerminal with
      | true => exact .answer _ (.refused _ _)
      | false =>
        exact .queued context subject id entry rfl hfound howned hterminal rfl rfl rfl rfl rfl

theorem handleCommand_turn {command : RuntimeCommand}
    (hfresh : context.taskId ∉ keys before.owner.entries)
    (hfreshJob : context.jobId ∉ keys before.owner.jobs) :
    let turn := before.owner.handleCommand parseUrl floats maxParallel before.received context command
    Turn parseUrl floats maxParallel before (.command command context) { before with
      owner := turn.1, received := before.received + 1, log := before.log ++ turn.2 } := by
  cases command with
  | send subject request => exact handleSend_turn hfresh hfreshJob
  | cancel subject id => exact handleCancel_turn
  | get subject id =>
    refine .answer _ ?_
    cases hentry : ownedEntry before.owner.entries subject id with
    | error error => exact .refused _ _
    | ok entry => exact RuntimeReply.Shows.ofEntry (mem_of_get (ownedEntry_eq_ok.1 hentry).1)
  | list subject request =>
    refine .answer _ ?_
    cases hlist : listTasks parseUrl before.owner.entries subject request with
    | error error => exact .refused _ _
    | ok list => exact listTasks_shows hlist
  | subscribe subject id =>
    refine .answer _ ?_
    cases hentry : ownedEntry before.owner.entries subject id with
    | error error => exact .refused _ _
    | ok entry =>
      unfold subscribeReply
      dsimp only
      split_ifs
      · exact .refused _ _
      · exact RuntimeReply.Shows.ofEntry (mem_of_get (ownedEntry_eq_ok.1 hentry).1)

/-- A job that ended finishes its own task, whatever it returned. -/
theorem joined_turn (h : before.owner.WellFormed maxParallel) {taskId : String}
    {outcome : JobOutcome} (hjob : get before.owner.jobs jobId = some taskId)
    (aborted : Option TaskGatewayError) :
    let turn := before.owner.joined parseUrl jobId taskId outcome aborted
    Turn parseUrl floats maxParallel before input
      { before with owner := turn.1, log := before.log ++ turn.2 } := by
  have hmem : taskId ∈ before.owner.jobs.map Prod.snd := mem_map_of_mem (mem_of_get hjob)
  obtain ⟨entry, hfound⟩ := Option.isSome_iff_exists.1 (mem_keys_iff.1 (h.jobEntry taskId hmem))
  have hopen := (h.running taskId entry (mem_of_get hfound)).2 hmem
  have hknown : get before.owner.jobIds jobId = some taskId := h.jobIds ▸ hjob
  cases outcome with
  | returned result =>
    refine .finished jobId taskId entry result hjob hfound hopen ?_ ?_ ?_ rfl ?_ <;>
      simp [joined, hknown, finishTask, hfound]
  | failed =>
    refine .finished jobId taskId entry (.error (aborted.getD .internal)) hjob hfound hopen ?_ ?_ ?_ rfl ?_ <;>
      simp [joined, hknown, finishTask, hfound, fail]

/-- The end of the drain only sets the phase: with no job left every task is terminal. -/
theorem settle_eq (parseUrl : String → Option ParsedUrl) {runtime : Runtime} (h : runtime.owner.WellFormed maxParallel) :
    ∃ phase, Runtime.settle parseUrl runtime = { runtime with phase := phase } := by
  unfold Runtime.settle
  split
  · split_ifs
    · exact ⟨_, rfl⟩
    · exact ⟨runtime.phase, rfl⟩
  · split_ifs with hjobs
    · have hnone : runtime.owner.jobs = [] := isEmpty_iff.1 hjobs
      have hterminal (id : String) (entry : RuntimeEntry) (hmem : (id, entry) ∈ runtime.owner.entries) :
          entry.snapshot.state.isTerminal = true := by
        rw [← Bool.not_eq_false, h.running id entry hmem, hnone]
        exact not_mem_nil
      have hentries : mapValues (fun _ entry => entry.finish parseUrl (.error .deadline))
          runtime.owner.entries = runtime.owner.entries :=
        mapValues_eq_self fun id entry hmem => finish_of_terminal parseUrl (hterminal id entry hmem) _
      have heffects : (runtime.owner.entries.flatMap fun entry =>
          entry.2.finishEffects parseUrl (.error .deadline) entry.1) = [] := by
        refine flatMap_eq_nil_iff.2 fun entry hmem => ?_
        exact if_pos (hterminal entry.1 entry.2 hmem)
      refine ⟨.stopped (.error .deadline), ?_⟩
      simp only [failOpen, hentries, heffects, append_nil]
    · exact ⟨runtime.phase, rfl⟩
  · exact ⟨runtime.phase, rfl⟩
  · exact ⟨runtime.phase, rfl⟩

/-- A turn says nothing about the phase. -/
theorem Turn.withPhase (turn : Turn parseUrl floats maxParallel before input after) (phase : RuntimePhase) :
    Turn parseUrl floats maxParallel before input { after with phase := phase } := by
  cases turn with
  | answered change replies same waiters entries jobs jobIds shows received log =>
    exact .answered change replies same waiters entries jobs jobIds shows received log
  | started context subject request identity command fresh freshJob identified unkeyed room owner received
      log =>
    exact .started context subject request identity command fresh freshJob identified unkeyed room owner
      received log
  | queued context subject id entry command found owned unfinished entries jobs jobIds received log =>
    exact .queued context subject id entry command found owned unfinished entries jobs jobIds received log
  | finished jobId id entry result job found unfinished entries jobs jobIds received log =>
    exact .finished jobId id entry result job found unfinished entries jobs jobIds received log

theorem Turn.settle (h : before.owner.WellFormed maxParallel)
    (turn : Turn parseUrl floats maxParallel before input after) :
    Turn parseUrl floats maxParallel before input (Runtime.settle parseUrl after) := by
  obtain ⟨phase, heq⟩ := settle_eq parseUrl (turn.wellFormed h)
  rw [heq]
  exact turn.withPhase phase

/-- A step of the runtime is a turn of its owner. -/
theorem runtimeStep_turn (h : before.owner.WellFormed maxParallel)
    (hstep : runtimeStep parseUrl floats maxParallel before input = .ok ((), after)) :
    Turn parseUrl floats maxParallel before input after := by
  cases input
  all_goals simp only [runtimeStep, eq_ok, true_and] at hstep
  case command command context =>
    obtain ⟨⟨-, hfresh, hfreshJob⟩, rfl⟩ := hstep
    exact handleCommand_turn hfresh hfreshJob
  case joined jobId outcome =>
    obtain ⟨taskId, hjob, rfl⟩ := hstep
    exact (joined_turn h hjob _).settle h
  case stop queued =>
    obtain ⟨-, rfl⟩ := hstep
    refine Turn.settle h (.answered
      (fun _ entry => if entry.snapshot.state.isTerminal then entry else { entry with cancel := true })
      (queued.map fun _ => .refused .server) ?_ ?_ rfl rfl rfl ?_ ?_ ?_)
    · intro _ entry
      split_ifs <;> exact ⟨rfl, rfl, rfl, rfl⟩
    · intro _ entry
      split_ifs <;> rfl
    · intro reply hmem
      obtain ⟨_, -, rfl⟩ := mem_map.1 hmem
      exact .refused _ _
    · simp
    · simp [rejected_eq_answers]
  case deadline =>
    obtain ⟨-, rfl⟩ := hstep
    exact .answered (fun _ entry => entry) [] (fun _ => .refl) (fun _ _ => rfl)
      (mapValues_eq_self fun _ _ _ => rfl).symm rfl rfl (fun _ hmem => by cases hmem) rfl
      (append_nil _).symm

/-- The owner is well formed after every run. -/
theorem runtime_wellFormed (inputs : List RuntimeInput) :
    (Machine.final (runtimeStep parseUrl floats maxParallel) .start inputs).owner.WellFormed maxParallel :=
  Machine.final_invariant (fun runtime => runtime.owner.WellFormed maxParallel)
    (wellFormed_new maxParallel)
    (fun _ _ _ _ h hstep => (runtimeStep_turn h hstep).wellFormed h) inputs

end Inversion

end Vibemux
