import Vibemux.A2a.Proofs.TaskRuntimeProofs

/-!
# Safety of the task runtime

Everything that is sent is in the log. Each part of the log is tied to the entries by an equation that
every turn keeps: the started jobs, the published snapshots, and the replies.
-/

namespace Vibemux

open Checked OrderedMap RuntimeEffect RuntimeEntry Owner Machine

variable {id : String} {entry : RuntimeEntry} {effect : RuntimeEffect} {n : ReplyId}
  {change : String → RuntimeEntry → RuntimeEntry} {entries : List (String × RuntimeEntry)}
  {command : RuntimeCommand} {inputs : List RuntimeInput}

/-! ## Reading the log -/

/-- A job started for an idempotency key of a subject. -/
def RuntimeEffect.startsFor (subject key : String) : RuntimeEffect → Bool
  | .started _ _ owner request => owner == subject && request.idempotencyKey == key
  | _ => false

/-- A reply to one command. -/
def RuntimeEffect.repliesTo (n : ReplyId) : RuntimeEffect → Bool
  | .replied reply _ => reply == n
  | _ => false

/-- One waiter left its queue. -/
def RuntimeEffect.drops (n : ReplyId) : RuntimeEffect → Bool
  | .dropped reply => reply == n
  | _ => false

/-- The snapshot that is published for a task. -/
def RuntimeEffect.publishes (id : String) : RuntimeEffect → Option TaskSnapshot
  | .published taskId snapshot => if taskId = id then some snapshot else none
  | _ => none

/-- The snapshots published for a task, in order. -/
def publishedOf (id : String) (log : List RuntimeEffect) : List TaskSnapshot :=
  log.filterMap (RuntimeEffect.publishes id)

/-- Every snapshot that is sent, in a reply or to the subscribers. -/
def RuntimeEffect.snapshots : RuntimeEffect → List TaskSnapshot
  | .replied _ reply => reply.snapshots
  | .published _ snapshot => [snapshot]
  | .started .. | .dropped _ => []

/-- The states in which a task is shown, in order. -/
def statesOf (id : String) (log : List RuntimeEffect) : List TaskState :=
  ((log.flatMap RuntimeEffect.snapshots).filter fun snapshot => snapshot.taskId = id).map fun snapshot =>
    snapshot.state

/-- How often a command waits. -/
def waiting (n : ReplyId) (entries : List (String × RuntimeEntry)) : Nat :=
  (entries.map fun entry => entry.2.cancelWaiters.count n).sum

/-- The snapshot that a new task is published with. -/
def workingSnapshot (id contextId : String) : TaskSnapshot := ⟨id, contextId, .working, [], none⟩

/-- The entry of a new task. -/
def startedEntry (context : CommandContext) (subject : String) (request : TaskRequest)
    (identity : List Char) : RuntimeEntry :=
  ⟨subject, request.idempotencyKey, identity, workingSnapshot context.taskId request.contextId, false, []⟩

section

variable (owner : Owner) (reply : ReplyId) (context : CommandContext) (subject : String)
  (request : TaskRequest) (identity : List Char)
include owner reply context subject request identity

theorem startTask_entries : (owner.startTask reply context subject request identity).1.entries =
      insert context.taskId (startedEntry context subject request identity) owner.entries := rfl

theorem startTask_effects : (owner.startTask reply context subject request identity).2 =
      [.replied reply (.snapshot ⟨context.taskId, request.contextId, .submitted, [], none⟩),
        .published context.taskId (workingSnapshot context.taskId request.contextId),
        .started context.jobId context.taskId subject request] := rfl

end

/-- What has been published for the task of an entry. -/
def RuntimeEntry.published (id : String) (entry : RuntimeEntry) : List TaskSnapshot :=
  workingSnapshot id entry.snapshot.contextId ::
    if entry.snapshot.state.isTerminal then [entry.snapshot] else []

theorem publishedOf_append (id : String) (log effects : List RuntimeEffect) :
    publishedOf id (log ++ effects) = publishedOf id log ++ publishedOf id effects :=
  List.filterMap_append

theorem statesOf_append (id : String) (log effects : List RuntimeEffect) :
    statesOf id (log ++ effects) = statesOf id log ++ statesOf id effects := by
  simp [statesOf]

/-- A state in which some snapshot was sent. -/
theorem mem_statesOf {log : List RuntimeEffect} {state : TaskState} :
    state ∈ statesOf id log ↔
      ∃ effect ∈ log, ∃ snapshot ∈ effect.snapshots, snapshot.taskId = id ∧ snapshot.state = state := by
  simp only [statesOf, List.mem_map, List.mem_filter, List.mem_flatMap, decide_eq_true_eq]
  constructor
  · rintro ⟨snapshot, ⟨⟨effect, heffect, hmem⟩, hid⟩, rfl⟩
    exact ⟨effect, heffect, snapshot, hmem, hid, rfl⟩
  · rintro ⟨effect, heffect, snapshot, hmem, hid, rfl⟩
    exact ⟨snapshot, ⟨⟨effect, heffect, hmem⟩, hid⟩, rfl⟩

/-! ### Answers -/

@[simp]
theorem repliesTo_replied (n m : Nat) (reply : RuntimeReply) :
    repliesTo n (.replied m reply) = true ↔ m = n := beq_iff_eq

theorem mem_answers {received : Nat} {replies : List RuntimeReply}
    (h : effect ∈ answers received replies) : ∃ n, ∃ reply ∈ replies, effect = .replied n reply := by
  induction replies generalizing received with
  | nil => cases h
  | cons first rest ih =>
    rcases List.mem_cons.1 h with rfl | hrest
    · exact ⟨received, first, List.mem_cons_self, rfl⟩
    · obtain ⟨n, reply, hmem, rfl⟩ := ih hrest
      exact ⟨n, reply, List.mem_cons_of_mem _ hmem, rfl⟩

theorem countP_repliesTo_answers (n received : Nat) (replies : List RuntimeReply) :
    (answers received replies).countP (repliesTo n) =
      if received ≤ n ∧ n < received + replies.length then 1 else 0 := by
  induction replies generalizing received with
  | nil => simp [answers]
  | cons first rest ih =>
    rw [answers, List.countP_cons, ih, List.length_cons]
    simp only [repliesTo_replied]
    split_ifs <;> omega

/-- Nothing but replies is among the answers. -/
theorem countP_answers_eq_zero {p : RuntimeEffect → Bool} (hp : ∀ n reply, p (.replied n reply) = false)
    (received : Nat) (replies : List RuntimeReply) : (answers received replies).countP p = 0 := by
  refine List.countP_eq_zero.2 fun effect hmem => ?_
  obtain ⟨n, reply, -, rfl⟩ := mem_answers hmem
  rw [hp]
  exact Bool.false_ne_true

theorem publishedOf_answers (id : String) (received : Nat) (replies : List RuntimeReply) :
    publishedOf id (answers received replies) = [] := by
  refine List.filterMap_eq_nil_iff.2 fun effect hmem => ?_
  obtain ⟨n, reply, -, rfl⟩ := mem_answers hmem
  rfl

/-! ### Entries -/

theorem waiting_sameWaiters
    (hwaiters : ∀ id entry, (change id entry).cancelWaiters = entry.cancelWaiters) (n : ReplyId)
    (entries : List (String × RuntimeEntry)) :
    waiting n (mapValues change entries) = waiting n entries := by
  rw [waiting, mapValues, List.map_map]
  refine congrArg List.sum (List.map_congr_left fun entry _ => ?_)
  simp only [Function.comp_apply, hwaiters]

/-- A sum over the entries after one of them has changed. -/
theorem sum_modifyEntry (f : RuntimeEntry → Nat) (hsorted : Sorted entries)
    (hfound : get entries id = some entry) (change : RuntimeEntry → RuntimeEntry) :
    ((modifyEntry id change entries).map fun e => f e.2).sum + f entry =
      (entries.map fun e => f e.2).sum + f (change entry) := by
  induction entries with
  | nil => cases hfound
  | cons first rest ih =>
    obtain ⟨hfirst, hrest⟩ := List.pairwise_cons.1 hsorted
    rw [get_cons] at hfound
    have hcons : modifyEntry id change (first :: rest) =
        (first.1, if first.1 = id then change first.2 else first.2) :: modifyEntry id change rest := rfl
    simp only [hcons, List.map_cons, List.sum_cons]
    by_cases hid : first.1 = id
    · rw [if_pos hid] at hfound
      cases hfound
      have hsame : modifyEntry id change rest = rest := by
        refine mapValues_eq_self fun k value hmem => if_neg ?_
        rintro rfl
        exact ne_of_compare_lt (hfirst _ hmem) hid
      rw [hsame, if_pos hid]
      omega
    · rw [if_neg hid] at hfound ⊢
      have hrec := ih hrest hfound
      omega

/-! ## The log and the entries -/

/-- How the log of a runtime follows from its entries. -/
structure Runtime.Logged (floats : String → FloatValue) (runtime : Runtime) : Prop where
  starts : ∀ subject key, runtime.log.countP (RuntimeEffect.startsFor subject key) =
    runtime.owner.entries.countP fun entry => entry.2.subject == subject && entry.2.key == key
  origin : ∀ jobId id subject request, .started jobId id subject request ∈ runtime.log →
    ∃ entry, get runtime.owner.entries id = some entry ∧ entry.subject = subject ∧
      entry.key = request.idempotencyKey ∧ inputIdentity floats request = .ok entry.input
  published : ∀ id, publishedOf id runtime.log =
    ((get runtime.owner.entries id).map (RuntimeEntry.published id)).getD []
  /-- A task is shown as submitted or working first, and then only in its terminal state. -/
  states : ∀ id, ∃ early late, statesOf id runtime.log = early ++ late ∧
    (∀ state ∈ early, state = .submitted ∨ state = .working) ∧
    ∀ state ∈ late, ∃ entry, get runtime.owner.entries id = some entry ∧
      entry.snapshot.state.isTerminal = true ∧ state = entry.snapshot.state
  /-- A command that was received is answered, was dropped, or waits. -/
  accounted : ∀ n : Nat, runtime.log.countP (RuntimeEffect.repliesTo n) +
    runtime.log.countP (RuntimeEffect.drops n) + waiting n runtime.owner.entries =
      if n < runtime.received then 1 else 0

section Turns

variable {parseUrl : String → Option ParsedUrl} {floats : String → FloatValue} {maxParallel : Nat}
  {before after : Runtime} {input : RuntimeInput} {result : Except TaskGatewayError TaskExecution}

/-- The entries keep their keys when the tasks of one owner change. -/
theorem countP_keyed_mapValues (hsubject : ∀ id entry, (change id entry).subject = entry.subject)
    (hkey : ∀ id entry, (change id entry).key = entry.key) (subject key : String)
    (entries : List (String × RuntimeEntry)) :
    (mapValues change entries).countP (fun entry => entry.2.subject == subject && entry.2.key == key) =
      entries.countP fun entry => entry.2.subject == subject && entry.2.key == key := by
  rw [mapValues, List.countP_map]
  refine List.countP_congr fun entry _ => ?_
  simp only [Function.comp_apply, hsubject, hkey]

theorem RuntimeEntry.finish_same (result : Except TaskGatewayError TaskExecution) (entry : RuntimeEntry) :
    (entry.finish parseUrl result).subject = entry.subject ∧
      (entry.finish parseUrl result).key = entry.key ∧
      (entry.finish parseUrl result).input = entry.input := by
  unfold finish
  split_ifs <;> exact ⟨rfl, rfl, rfl⟩

/-- What is sent while a waiter is queued or a task finishes starts no job. -/
theorem queueEffects_cases {reply : ReplyId} {closed : List ReplyId}
    (h : effect ∈ entry.queueEffects reply closed) :
    (∃ n ∈ closed, n ∈ entry.cancelWaiters ∧ effect = .dropped n) ∨
      effect = .replied reply (.refused .busy) := by
  rcases List.mem_append.1 h with hdropped | hrefused
  · obtain ⟨n, hmem, rfl⟩ := List.mem_map.1 hdropped
    obtain ⟨hwaiter, hclosed⟩ := List.mem_filter.1 hmem
    exact .inl ⟨n, of_decide_eq_true hclosed, hwaiter, rfl⟩
  · split_ifs at hrefused
    · exact .inr (List.mem_singleton.1 hrefused)
    · cases hrefused

theorem finishEffects_cases (hopen : entry.snapshot.state.isTerminal = false)
    (h : effect ∈ entry.finishEffects parseUrl result id) :
    effect = .published id (entry.finish parseUrl result).snapshot ∨
      ∃ n ∈ entry.cancelWaiters, effect = .replied n (.snapshot (entry.finish parseUrl result).snapshot) := by
  rw [finishEffects_of_open parseUrl hopen] at h
  rw [finish_of_open parseUrl hopen]
  rcases List.mem_cons.1 h with rfl | hwaiter
  · exact .inl rfl
  · obtain ⟨n, hmem, rfl⟩ := List.mem_map.1 hwaiter
    exact .inr ⟨n, hmem, rfl⟩

/-- Every effect of a turn that does not start a task. -/
theorem countP_startsFor_eq_zero {effects : List RuntimeEffect}
    (h : ∀ effect ∈ effects, ∀ jobId id subject request, effect ≠ .started jobId id subject request)
    (subject key : String) : effects.countP (startsFor subject key) = 0 := by
  refine List.countP_eq_zero.2 fun effect hmem => ?_
  cases effect with
  | started jobId id owner request => exact absurd rfl (h _ hmem jobId id owner request)
  | replied _ _ => exact Bool.false_ne_true
  | published _ _ => exact Bool.false_ne_true
  | dropped _ => exact Bool.false_ne_true

section

variable (turn : Turn parseUrl floats maxParallel before input after)
include turn

/-- A task keeps its subject, its key and its input, and its snapshot once it is terminal. -/
theorem Turn.kept (h : get before.owner.entries id = some entry) :
    ∃ entry', get after.owner.entries id = some entry' ∧ entry'.subject = entry.subject ∧
      entry'.key = entry.key ∧ entry'.input = entry.input ∧
      (entry.snapshot.state.isTerminal = true → entry'.snapshot = entry.snapshot) := by
  cases turn with
  | answered change _ same _ entries =>
    have hsame := same id entry
    refine ⟨change id entry, ?_, hsame.subject, hsame.key, hsame.input, fun _ => hsame.snapshot⟩
    rw [entries, get_mapValues, h]
    rfl
  | started context _ _ _ _ fresh _ _ _ _ owner =>
    have hne : id ≠ context.taskId := by
      rintro rfl
      exact fresh (mem_keys_iff.2 (h ▸ rfl))
    refine ⟨entry, ?_, rfl, rfl, rfl, fun _ => rfl⟩
    rw [owner, startTask_entries, get_insert_of_ne hne, h]
  | queued context subject k _ _ _ _ _ entries =>
    by_cases hk : id = k
    · subst hk
      have hsame := entry.queueWaiter_sameTask before.received context.closed
      refine ⟨_, ?_, hsame.subject, hsame.key, hsame.input, fun _ => hsame.snapshot⟩
      rw [entries, get_modifyEntry_self, h]
      rfl
    · refine ⟨entry, ?_, rfl, rfl, rfl, fun _ => rfl⟩
      rw [entries, get_modifyEntry_of_ne hk, h]
  | finished _ k _ result _ _ _ entries =>
    by_cases hk : id = k
    · subst hk
      obtain ⟨hsubject, hkey, hinput⟩ := finish_same result entry
      refine ⟨entry.finish parseUrl result, ?_, hsubject, hkey, hinput, fun hterminal => ?_⟩
      · rw [entries, get_modifyEntry_self, h]
        rfl
      · rw [finish_of_terminal parseUrl hterminal]
    · refine ⟨entry, ?_, rfl, rfl, rfl, fun _ => rfl⟩
      rw [entries, get_modifyEntry_of_ne hk, h]

/-- The jobs that a turn starts are those of its new entries. -/
theorem Turn.starts (hlogged : before.Logged floats) (subject key : String) :
    after.log.countP (startsFor subject key) =
      after.owner.entries.countP fun entry => entry.2.subject == subject && entry.2.key == key := by
  cases turn with
  | answered _ _ same _ entries _ _ _ _ log =>
    rw [log, List.countP_append, countP_answers_eq_zero (fun _ _ => rfl), hlogged.starts, entries,
      countP_keyed_mapValues (fun id entry => (same id entry).subject) fun id entry => (same id entry).key]
    rfl
  | started _ _ _ _ _ fresh _ _ _ _ howner _ log =>
    rw [log, howner, List.countP_append, hlogged.starts, startTask_effects, startTask_entries,
      (perm_insert_of_notMem fresh _).countP_eq]
    simp [startsFor, startedEntry, List.countP_cons]
  | queued _ _ _ _ _ _ _ _ entries _ _ _ log =>
    rw [log, List.countP_append, hlogged.starts, countP_startsFor_eq_zero, entries, modifyEntry,
      countP_keyed_mapValues]
    · rfl
    · intro k other
      split_ifs
      exacts [(other.queueWaiter_sameTask _ _).subject, rfl]
    · intro k other
      split_ifs
      exacts [(other.queueWaiter_sameTask _ _).key, rfl]
    · rintro effect hmem jobId k owner' request rfl
      rcases queueEffects_cases hmem with ⟨_, -, -, heq⟩ | heq <;> cases heq
  | finished _ _ _ result _ _ unfinished entries _ _ _ log =>
    rw [log, List.countP_append, hlogged.starts, countP_startsFor_eq_zero, entries, modifyEntry,
      countP_keyed_mapValues]
    · rfl
    · intro k other
      split_ifs
      exacts [(other.finish_same result).1, rfl]
    · intro k other
      split_ifs
      exacts [(other.finish_same result).2.1, rfl]
    · rintro effect hmem jobId' k owner' request rfl
      rcases finishEffects_cases unfinished hmem with heq | ⟨_, -, heq⟩ <;> cases heq

/-- What a turn adds to the log. -/
theorem Turn.newEffect
    {effect : RuntimeEffect} (h : effect ∈ after.log) (hold : effect ∉ before.log) :
    (∃ context subject request identity, inputIdentity floats request = .ok identity ∧
        after.owner = (before.owner.startTask before.received context subject request identity).1 ∧
        effect ∈ (before.owner.startTask before.received context subject request identity).2) ∨
      (∃ n command context, input = .command command context ∧ n ∈ context.closed ∧
        effect = .dropped n) ∨
      (∃ n reply, effect = .replied n reply) ∨ ∃ id snapshot, effect = .published id snapshot := by
  cases turn with
  | answered _ _ _ _ _ _ _ _ _ log =>
    rw [log] at h
    obtain ⟨n, reply, -, heq⟩ := mem_answers ((List.mem_append.1 h).resolve_left hold)
    exact .inr (.inr (.inl ⟨n, reply, heq⟩))
  | started context subject request identity _ _ _ identified _ _ owner _ log =>
    rw [log] at h
    have hnew := (List.mem_append.1 h).resolve_left hold
    exact .inl ⟨context, subject, request, identity, identified, owner, hnew⟩
  | queued context _ _ _ command _ _ _ _ _ _ _ log =>
    rw [log] at h
    rcases queueEffects_cases ((List.mem_append.1 h).resolve_left hold) with ⟨n, hclosed, -, heq⟩ | heq
    · exact .inr (.inl ⟨n, _, context, command, hclosed, heq⟩)
    · exact .inr (.inr (.inl ⟨_, _, heq⟩))
  | finished _ k _ _ _ _ unfinished _ _ _ _ log =>
    rw [log] at h
    rcases finishEffects_cases unfinished ((List.mem_append.1 h).resolve_left hold) with heq | ⟨n, -, heq⟩
    · exact .inr (.inr (.inr ⟨k, _, heq⟩))
    · exact .inr (.inr (.inl ⟨n, _, heq⟩))

/-- A job that is new in the log is that of a new entry. -/
theorem Turn.origin
    (hlogged : before.Logged floats) {jobId : JobId} {id subject : String} {request : TaskRequest}
    (h : .started jobId id subject request ∈ after.log) :
    ∃ entry, get after.owner.entries id = some entry ∧ entry.subject = subject ∧
      entry.key = request.idempotencyKey ∧ inputIdentity floats request = .ok entry.input := by
  by_cases hold : .started jobId id subject request ∈ before.log
  · obtain ⟨_, hfound, hsubject, hkey, hinput⟩ := hlogged.origin jobId id subject request hold
    obtain ⟨entry', hfound', hsubject', hkey', hinput', -⟩ := turn.kept hfound
    exact ⟨entry', hfound', hsubject'.trans hsubject, hkey'.trans hkey, hinput'.symm ▸ hinput⟩
  rcases turn.newEffect h hold with ⟨context, owner, request', identity, identified, howner, hnew⟩ |
    ⟨_, _, _, -, -, heq⟩ | ⟨_, _, heq⟩ | ⟨_, _, heq⟩
  · simp only [startTask_effects, List.mem_cons, List.not_mem_nil, or_false, reduceCtorEq, false_or,
      started.injEq] at hnew
    obtain ⟨rfl, rfl, rfl, rfl⟩ := hnew
    refine ⟨startedEntry context subject request identity, ?_, rfl, rfl, identified⟩
    rw [howner, startTask_entries, get_insert_self]
  · cases heq
  · cases heq
  · cases heq

end

theorem publishedOf_queueEffects (id : String) (reply : ReplyId) (closed : List ReplyId)
    (entry : RuntimeEntry) : publishedOf id (entry.queueEffects reply closed) = [] := by
  refine List.filterMap_eq_nil_iff.2 fun effect hmem => ?_
  rcases queueEffects_cases hmem with ⟨_, -, -, rfl⟩ | rfl <;> rfl

theorem publishedOf_finishEffects {id k : String} (hopen : entry.snapshot.state.isTerminal = false) :
    publishedOf id (entry.finishEffects parseUrl result k) =
      if k = id then [finishedSnapshot parseUrl entry.snapshot result] else [] := by
  have hreplies : publishedOf id (entry.cancelWaiters.map fun reply =>
      .replied reply (.snapshot (finishedSnapshot parseUrl entry.snapshot result))) = [] := by
    refine List.filterMap_eq_nil_iff.2 fun effect hmem => ?_
    obtain ⟨n, -, rfl⟩ := List.mem_map.1 hmem
    rfl
  rw [finishEffects_of_open parseUrl hopen, ← List.singleton_append, publishedOf_append, hreplies,
    List.append_nil]
  by_cases hk : k = id <;> simp [publishedOf, publishes, hk]

theorem RuntimeEntry.SameTask.published_eq {entry other : RuntimeEntry} (h : entry.SameTask other)
    (id : String) : entry.published id = other.published id := by
  simp only [published, h.snapshot]

theorem Turn.published (turn : Turn parseUrl floats maxParallel before input after)
    (hlogged : before.Logged floats) (id : String) :
    publishedOf id after.log = ((get after.owner.entries id).map (RuntimeEntry.published id)).getD [] := by
  cases turn with
  | answered _ _ same _ entries _ _ _ _ log =>
    rw [log, publishedOf_append, publishedOf_answers, List.append_nil, hlogged.published, entries,
      get_mapValues, Option.map_map]
    cases get before.owner.entries id with
    | none => rfl
    | some entry => exact ((same id entry).published_eq id).symm
  | started context _ _ _ _ fresh _ _ _ _ owner _ log =>
    rw [log, publishedOf_append, hlogged.published, owner, startTask_entries, startTask_effects]
    by_cases hid : id = context.taskId
    · rw [hid, get_insert_self, get_eq_none_iff.2 fresh]
      simp [publishedOf, List.filterMap_cons, RuntimeEffect.publishes, RuntimeEntry.published, startedEntry,
        workingSnapshot, TaskState.isTerminal]
    · rw [get_insert_of_ne hid]
      simp [publishedOf, List.filterMap_cons, RuntimeEffect.publishes, Ne.symm hid]
  | queued _ _ k entry _ found _ _ entries _ _ _ log =>
    rw [log, publishedOf_append, publishedOf_queueEffects, List.append_nil, hlogged.published, entries]
    by_cases hk : id = k
    · subst hk
      rw [get_modifyEntry_self, found]
      exact ((entry.queueWaiter_sameTask _ _).published_eq id).symm
    · rw [get_modifyEntry_of_ne hk]
  | finished _ k _ _ _ found unfinished entries _ _ _ log =>
    rw [log, publishedOf_append, publishedOf_finishEffects unfinished, hlogged.published, entries]
    by_cases hk : id = k
    · subst hk
      rw [get_modifyEntry_self, found, if_pos rfl]
      simp [RuntimeEntry.published, RuntimeEntry.finish_of_open parseUrl unfinished, unfinished,
        finishedSnapshot_isTerminal, finishedSnapshot_contextId]
    · rw [get_modifyEntry_of_ne hk, if_neg (Ne.symm hk), List.append_nil]

section

variable (h : before.owner.WellFormed maxParallel)
  (turn : Turn parseUrl floats maxParallel before input after)
include h turn

/-- The states that a turn shows a task in: either the task is open before it, or it is terminal after
it and shown in no other state. -/
theorem Turn.newStates (id : String) : ∃ effects, after.log = before.log ++ effects ∧
      (((∀ entry, get before.owner.entries id = some entry → entry.snapshot.state.isTerminal = false) ∧
          ∀ state ∈ statesOf id effects, state = .submitted ∨ state = .working) ∨
        ∀ state ∈ statesOf id effects, ∃ entry, get after.owner.entries id = some entry ∧
          entry.snapshot.state.isTerminal = true ∧ state = entry.snapshot.state) := by
  have hturn := turn
  cases turn with
  | answered _ replies _ _ entries _ _ shows received log =>
    refine ⟨_, log, ?_⟩
    -- what is shown is an entry as it is
    have hshown : ∀ state ∈ statesOf id (answers before.received replies),
        ∃ entry, get before.owner.entries id = some entry ∧ state = entry.snapshot.state := by
      intro state hstate
      obtain ⟨effect, heffect, snapshot, hsnapshot, hid, rfl⟩ := mem_statesOf.1 hstate
      obtain ⟨n, reply, hreply, rfl⟩ := mem_answers heffect
      obtain ⟨k, entry, hentry, hname, hshows⟩ := shows reply hreply snapshot hsnapshot
      rw [hname, h.named k entry hentry] at hid
      exact ⟨entry, (get_eq_some_iff h.sorted).2 (hid ▸ hentry), hshows⟩
    cases hget : get before.owner.entries id with
    | none =>
      refine .inr fun state hstate => ?_
      obtain ⟨entry, hfound, -⟩ := hshown state hstate
      rw [hget] at hfound
      cases hfound
    | some entry =>
      have hstates : ∀ state ∈ statesOf id (answers before.received replies),
          state = entry.snapshot.state := by
        intro state hstate
        obtain ⟨found, hfound, rfl⟩ := hshown state hstate
        rw [hget] at hfound
        cases hfound
        rfl
      cases hterminal : entry.snapshot.state.isTerminal with
      | false =>
        refine .inl ⟨fun found hfound => ?_, fun state hstate => .inr ?_⟩
        · cases hfound
          exact hterminal
        · rw [hstates state hstate, h.opened id entry (mem_of_get hget) hterminal]
      | true =>
        refine .inr fun state hstate => ?_
        obtain ⟨entry', hfound', -, -, -, hsame⟩ := hturn.kept hget
        rw [hstates state hstate, ← hsame hterminal]
        exact ⟨entry', hfound', (hsame hterminal).symm ▸ hterminal, rfl⟩
  | started context _ _ _ _ fresh _ _ _ _ _ _ log =>
    refine ⟨_, log, ?_⟩
    by_cases hid : id = context.taskId
    · refine .inl ⟨fun entry hfound => ?_, fun state hstate => ?_⟩
      · rw [hid, get_eq_none_iff.2 fresh] at hfound
        cases hfound
      · simpa [statesOf, startTask_effects, snapshots, RuntimeReply.snapshots,
          workingSnapshot, hid] using hstate
    · refine .inr fun state hstate => ?_
      simp [statesOf, startTask_effects, snapshots, RuntimeReply.snapshots,
        workingSnapshot, Ne.symm hid] at hstate
  | queued _ _ _ _ _ _ _ _ _ _ _ _ log =>
    refine ⟨_, log, .inr fun state hstate => ?_⟩
    obtain ⟨effect, heffect, snapshot, hsnapshot, -⟩ := mem_statesOf.1 hstate
    rcases queueEffects_cases heffect with ⟨_, -, -, rfl⟩ | rfl <;> cases hsnapshot
  | finished _ k entry result _ found unfinished entries _ _ _ log =>
    refine ⟨_, log, .inr fun state hstate => ?_⟩
    obtain ⟨_, heffect, snapshot, hsnapshot, hid, rfl⟩ := mem_statesOf.1 hstate
    have hfinished : snapshot = (entry.finish parseUrl result).snapshot := by
      rcases finishEffects_cases unfinished heffect with rfl | ⟨_, -, rfl⟩ <;>
        exact List.mem_singleton.1 hsnapshot
    have hname : (entry.finish parseUrl result).snapshot.taskId = k := by
      rw [finish_of_open parseUrl unfinished]
      exact (finishedSnapshot_taskId parseUrl _ _).trans (h.named k entry (mem_of_get found))
    rw [hfinished, hname] at hid
    subst hid
    refine ⟨entry.finish parseUrl result, ?_, ?_, congrArg _ hfinished⟩
    · rw [entries, get_modifyEntry_self, found]
      rfl
    · rw [finish_of_open parseUrl unfinished]
      exact finishedSnapshot_isTerminal parseUrl _ _

theorem Turn.states (hlogged : before.Logged floats) (id : String) :
    ∃ early late, statesOf id after.log = early ++ late ∧
      (∀ state ∈ early, state = .submitted ∨ state = .working) ∧
      ∀ state ∈ late, ∃ entry, get after.owner.entries id = some entry ∧
        entry.snapshot.state.isTerminal = true ∧ state = entry.snapshot.state := by
  obtain ⟨effects, hlog, hnew⟩ := turn.newStates h id
  obtain ⟨early, late, hstates, hearly, hlate⟩ := hlogged.states id
  rw [hlog, statesOf_append, hstates]
  have hlate' : ∀ state ∈ late, ∃ entry, get after.owner.entries id = some entry ∧
      entry.snapshot.state.isTerminal = true ∧ state = entry.snapshot.state := by
    intro state hstate
    obtain ⟨entry, hfound, hterminal, rfl⟩ := hlate state hstate
    obtain ⟨entry', hfound', -, -, -, hsame⟩ := turn.kept hfound
    exact ⟨entry', hfound', (hsame hterminal).symm ▸ hterminal, by rw [hsame hterminal]⟩
  rcases hnew with ⟨hopen, hnew⟩ | hnew
  · -- an open task has not been shown as terminal yet
    have hnone : late = [] := by
      refine List.eq_nil_iff_forall_not_mem.2 fun state hstate => ?_
      obtain ⟨entry, hfound, hterminal, -⟩ := hlate state hstate
      rw [hopen entry hfound] at hterminal
      cases hterminal
    subst hnone
    refine ⟨early ++ statesOf id effects, [], by simp, ?_, by simp⟩
    intro state hstate
    rcases List.mem_append.1 hstate with hold | hstate
    exacts [hearly state hold, hnew state hstate]
  · refine ⟨early, late ++ statesOf id effects, by simp, hearly, ?_⟩
    intro state hstate
    rcases List.mem_append.1 hstate with hold | hstate
    exacts [hlate' state hold, hnew state hstate]

end

/-! ### Waiters -/

theorem countP_drops_dropped (n : ReplyId) (waiters : List ReplyId) :
    (waiters.map dropped).countP (drops n) = waiters.count n := by
  rw [List.countP_map]
  rfl

theorem countP_repliesTo_dropped (n : ReplyId) (waiters : List ReplyId) :
    (waiters.map dropped).countP (repliesTo n) = 0 := by
  refine List.countP_eq_zero.2 fun effect hmem => ?_
  obtain ⟨_, -, rfl⟩ := List.mem_map.1 hmem
  exact Bool.false_ne_true

theorem countP_repliesTo_finishEffects (hopen : entry.snapshot.state.isTerminal = false)
    (n : ReplyId) (id : String) :
    (entry.finishEffects parseUrl result id).countP (repliesTo n) =
      entry.cancelWaiters.count n := by
  rw [finishEffects_of_open parseUrl hopen, List.countP_cons_of_neg Bool.false_ne_true,
    List.countP_map]
  rfl

theorem countP_drops_finishEffects (hopen : entry.snapshot.state.isTerminal = false) (n : ReplyId)
    (id : String) :
    (entry.finishEffects parseUrl result id).countP (drops n) = 0 := by
  refine List.countP_eq_zero.2 fun effect hmem => ?_
  rcases finishEffects_cases hopen hmem with rfl | ⟨_, -, rfl⟩ <;> exact Bool.false_ne_true

/-- A waiter of the queue stays in it or is dropped, and the new command waits or is refused. -/
theorem queue_accounted (n reply : Nat) (closed : List ReplyId) (entry : RuntimeEntry) :
    (entry.queueEffects reply closed).countP (repliesTo n) +
        (entry.queueEffects reply closed).countP (drops n) +
        (entry.queueWaiter reply closed).cancelWaiters.count n =
      entry.cancelWaiters.count n + if n = reply then 1 else 0 := by
  have hsplit : (entry.cancelWaiters.filter (· ∈ closed)).count n +
      (entry.cancelWaiters.filter (· ∉ closed)).count n = entry.cancelWaiters.count n := by
    rw [← (List.filter_append_perm (· ∈ closed) entry.cancelWaiters).count_eq n, List.count_append]
    simp only [decide_not]
  unfold queueEffects queueWaiter
  rw [List.countP_append, List.countP_append, countP_repliesTo_dropped, countP_drops_dropped]
  dsimp only
  by_cases hfull : maxCancelWaiters ≤ (entry.cancelWaiters.filter (· ∉ closed)).length
  · rw [if_pos hfull, if_pos hfull]
    simp only [List.countP_cons, List.countP_nil, repliesTo_replied, drops]
    split_ifs <;> first | omega | contradiction
  · rw [if_neg hfull, if_neg hfull]
    have hlast : [reply].count n = if n = reply then 1 else 0 := by
      rw [List.count_singleton]
      simp only [beq_iff_eq, @eq_comm Nat reply n]
    rw [List.count_append, hlast]
    simp only [List.countP_nil]
    omega

section

variable (h : before.owner.WellFormed maxParallel)
  (turn : Turn parseUrl floats maxParallel before input after) (hlogged : before.Logged floats)
include h turn hlogged

theorem Turn.accounted (n : Nat) :
    after.log.countP (repliesTo n) + after.log.countP (drops n) +
      waiting n after.owner.entries = if n < after.received then 1 else 0 := by
  have hbefore := hlogged.accounted n
  cases turn with
  | answered _ replies _ waiters entries _ _ _ received log =>
    have hdrops : (answers before.received replies).countP (drops n) = 0 :=
      countP_answers_eq_zero (fun _ _ => rfl) _ _
    rw [log, entries, received, List.countP_append, List.countP_append, countP_repliesTo_answers, hdrops,
      waiting_sameWaiters waiters]
    split_ifs at hbefore ⊢ <;> omega
  | started context subject request identity _ fresh _ _ _ _ owner received log =>
    have hwaiting : waiting n after.owner.entries = waiting n before.owner.entries := by
      rw [owner, startTask_entries, waiting, ((perm_insert_of_notMem fresh _).map _).sum_eq, List.map_cons,
        List.sum_cons]
      exact Nat.zero_add _
    have hreplies : (before.owner.startTask before.received context subject request identity).2.countP
        (repliesTo n) = if before.received = n then 1 else 0 := by
      rw [startTask_effects, List.countP_cons]
      simp only [repliesTo_replied]
      exact Nat.zero_add _
    have hdrops : (before.owner.startTask before.received context subject request identity).2.countP
        (drops n) = 0 := rfl
    rw [log, received, hwaiting, List.countP_append, List.countP_append, hreplies, hdrops]
    split_ifs at hbefore ⊢ <;> omega
  | queued context _ _ entry _ found _ _ entries _ _ received log =>
    have hsum := sum_modifyEntry (fun e => e.cancelWaiters.count n) h.sorted found
      (queueWaiter before.received context.closed)
    have hqueue := queue_accounted n before.received context.closed entry
    rw [log, received, entries, List.countP_append, List.countP_append]
    unfold waiting at hbefore ⊢
    split_ifs at hbefore hqueue ⊢ <;> omega
  | finished _ _ _ result _ found unfinished entries _ _ received log =>
    have hsum := sum_modifyEntry (fun e => e.cancelWaiters.count n) h.sorted found
      (finish parseUrl result)
    rw [finish_of_open parseUrl unfinished, List.count_nil, Nat.add_zero] at hsum
    rw [log, received, entries, List.countP_append, List.countP_append,
      countP_repliesTo_finishEffects unfinished, countP_drops_finishEffects unfinished]
    unfold waiting at hbefore ⊢
    omega

theorem Turn.logged : after.Logged floats where
  starts := turn.starts hlogged
  origin := fun _ _ _ _ => turn.origin hlogged
  published := turn.published hlogged
  states := turn.states h hlogged
  accounted := turn.accounted h hlogged

end

/-- Where a waiter of a task is: in the queue, answered with the terminal snapshot, or dropped. -/
def Runtime.Waiter (id : String) (n : ReplyId) (runtime : Runtime) : Prop :=
  (∃ entry, get runtime.owner.entries id = some entry ∧ n ∈ entry.cancelWaiters) ∨
    (∃ entry, get runtime.owner.entries id = some entry ∧ entry.snapshot.state.isTerminal = true ∧
      .replied n (.snapshot entry.snapshot) ∈ runtime.log) ∨
    .dropped n ∈ runtime.log

/-- Only waiters whose receivers are gone are dropped. -/
theorem Turn.dropped (turn : Turn parseUrl floats maxParallel before input after)
    (h : .dropped n ∈ after.log) :
    .dropped n ∈ before.log ∨ ∃ command context, input = .command command context ∧ n ∈ context.closed := by
  by_cases hold : .dropped n ∈ before.log
  · exact .inl hold
  refine .inr ?_
  rcases turn.newEffect h hold with ⟨context, subject, request, identity, -, -, hnew⟩ |
    ⟨m, command, context, hinput, hclosed, heq⟩ | ⟨_, _, heq⟩ | ⟨_, _, heq⟩
  · simp [startTask_effects] at hnew
  · cases heq
    exact ⟨command, context, hinput, hclosed⟩
  · cases heq
  · cases heq

end Turns

/-! ## Commands of one subject -/

section Subject

variable {parseUrl : String → Option ParsedUrl} {floats : String → FloatValue} {maxParallel : Nat}
  {owner : Owner}

end Subject

/-! ## Runs -/

section Runs

variable (parseUrl : String → Option ParsedUrl) (floats : String → FloatValue) (maxParallel : Nat)
  {t : Machine.Transition Runtime RuntimeInput Unit}

variable {parseUrl floats maxParallel}

variable (parseUrl floats maxParallel)

variable {parseUrl floats maxParallel}

/-- A waiter shows in one of the three counts. -/
theorem Runtime.Waiter.counted {runtime : Runtime} (h : runtime.Waiter id n) :
    1 ≤ runtime.log.countP (repliesTo n) + runtime.log.countP (drops n) +
      waiting n runtime.owner.entries := by
  rcases h with ⟨entry, hfound, hqueued⟩ | ⟨entry, -, -, hreplied⟩ | hdropped
  · have hcount : 0 < entry.cancelWaiters.count n := List.count_pos_iff.2 hqueued
    have hsum : entry.cancelWaiters.count n ≤ waiting n runtime.owner.entries :=
      List.single_le_sum (fun _ _ => Nat.zero_le _) _ (List.mem_map.2 ⟨(id, entry), mem_of_get hfound, rfl⟩)
    omega
  · have hcount : 0 < runtime.log.countP (repliesTo n) :=
      List.countP_pos_iff.2 ⟨_, hreplied, beq_self_eq_true n⟩
    omega
  · have hcount : 0 < runtime.log.countP (drops n) :=
      List.countP_pos_iff.2 ⟨_, hdropped, beq_self_eq_true n⟩
    omega

end Runs

end Vibemux
