import Vibemux.A2a.TaskWire

/-!
# When the stream reproduces every snapshot

The client arrives at the next snapshot exactly when that one keeps the places of the artifacts before
it, and every state on the way is within the size limit that the client checks after each event.
-/

namespace Vibemux

open Checked Text List

variable {parseUrl : String → Option ParsedUrl} {snapshot : TaskSnapshot}
  {batches : List (TaskSnapshot × List StreamResponse)} {artifact : TaskArtifact}
  {artifacts : List TaskArtifact} {result : TaskSnapshot} {state : SubscriptionState}
  {task : WireTask}

/-! ## Conversions there and back -/

theorem validateAll_eq_ok {α : Type} {check : α → Except TaskGatewayError Unit} {l : List α} :
    validateAll check l = .ok () ↔ ∀ a ∈ l, check a = .ok () := by
  induction l with
  | nil => simp [validateAll]
  | cons a rest ih => simp [validateAll, ih]

theorem partFromWire_partToWire {part : TaskPart} (h : part.validate parseUrl = .ok ()) :
    partFromWire parseUrl (partToWire part) = .ok part := by
  cases part <;> exact bind_eq_ok.2 ⟨(), h, rfl⟩

theorem partsFromWire_map {parts : List TaskPart}
    (h : ∀ part ∈ parts, part.validate parseUrl = .ok ()) :
    partsFromWire parseUrl (parts.map partToWire) = .ok parts := by
  induction parts with
  | nil => rfl
  | cons part rest ih =>
    obtain ⟨hpart, hrest⟩ := forall_mem_cons.1 h
    exact bind_eq_ok.2 ⟨part, partFromWire_partToWire hpart, bind_eq_ok.2 ⟨rest, ih hrest, rfl⟩⟩

theorem artifactFromWire_artifactToWire (h : artifact.validate parseUrl = .ok ()) :
    artifactFromWire parseUrl (artifactToWire artifact) = .ok artifact := by
  have hparts : ∀ part ∈ artifact.parts, part.validate parseUrl = .ok () := by
    simp only [TaskArtifact.validate, validateParts, eq_ok, validateAll_eq_ok] at h
    exact h.2.2.2
  exact bind_eq_ok.2 ⟨artifact.parts, partsFromWire_map hparts, bind_eq_ok.2 ⟨(), h, rfl⟩⟩

theorem artifactsFromWire_map (h : ∀ artifact ∈ artifacts, artifact.validate parseUrl = .ok ()) :
    artifactsFromWire parseUrl (artifacts.map artifactToWire) = .ok artifacts := by
  induction artifacts with
  | nil => rfl
  | cons artifact rest ih =>
    obtain ⟨hartifact, hrest⟩ := forall_mem_cons.1 h
    exact bind_eq_ok.2
      ⟨artifact, artifactFromWire_artifactToWire hartifact, bind_eq_ok.2 ⟨rest, ih hrest, rfl⟩⟩

@[simp]
theorem stateFromWire_stateToWire (state : TaskState) : stateFromWire (stateToWire state) = .ok state := by
  cases state <;> rfl

@[simp]
theorem errorFromMetadata_errorMetadata (errorCode : Option String) :
    errorFromMetadata (errorMetadata errorCode) = errorCode := by
  cases errorCode <;> simp [errorFromMetadata, errorMetadata, Json.getStr, Json.asStr]

/-- What the checks of a snapshot say. -/
theorem TaskSnapshot.validate_eq_ok : snapshot.validate parseUrl = .ok () ↔
    (validateTaskIdentifier snapshot.taskId = .ok () ∧ validateTaskIdentifier snapshot.contextId = .ok () ∧
      validateOptionalIdentifier snapshot.errorCode = .ok ()) ∧
    snapshot.artifacts.length ≤ maxTaskArtifacts ∧
    (∀ artifact ∈ snapshot.artifacts, artifact.validate parseUrl = .ok ()) ∧
    byteLen (encodeJson snapshot.toJson) ≤ maxTaskWireBytes / 2 := by
  simp only [TaskSnapshot.validate, boundedJson, eq_ok, validateAll_eq_ok]
  constructor
  · rintro ⟨htask, hcontext, hcount, hartifacts, herror, hsize⟩
    exact ⟨⟨htask, hcontext, herror⟩, hcount, hartifacts, hsize⟩
  · rintro ⟨⟨htask, hcontext, herror⟩, hcount, hartifacts, hsize⟩
    exact ⟨htask, hcontext, hcount, hartifacts, herror, hsize⟩

theorem snapshotFromWire_of_toWire (h : snapshotToWire parseUrl snapshot = .ok task) :
    snapshotFromWire parseUrl task = .ok snapshot := by
  simp only [snapshotToWire, eq_ok] at h
  obtain ⟨hvalid, rfl⟩ := h
  have hartifacts := artifactsFromWire_map (TaskSnapshot.validate_eq_ok.1 hvalid).2.2.1
  have hwire : artifactsFromWire parseUrl ((if snapshot.artifacts.isEmpty = true then none
      else some (snapshot.artifacts.map artifactToWire)).getD []) = .ok snapshot.artifacts := by
    cases hlist : snapshot.artifacts with
    | nil => rfl
    | cons artifact rest => rwa [hlist] at hartifacts
  simp only [snapshotFromWire, hwire, stateFromWire_stateToWire, errorFromMetadata_errorMetadata]
  exact bind_eq_ok.2 ⟨_, rfl, bind_eq_ok.2 ⟨_, rfl, bind_eq_ok.2 ⟨(), hvalid, rfl⟩⟩⟩

/-- The first event carries the snapshot whole. -/
theorem applyStreamResponse_task (hvalid : snapshot.validate parseUrl = .ok ())
    (h : snapshotToWire parseUrl snapshot = .ok task) :
    applyStreamResponse parseUrl none (.task task) = .ok snapshot :=
  bind_eq_ok.2 ⟨snapshot, snapshotFromWire_of_toWire h, bind_eq_ok.2 ⟨(), hvalid, rfl⟩⟩

/-! ## Events of a delta -/

theorem mergeArtifact_replace (artifact : TaskArtifact) (artifacts : List TaskArtifact) :
    mergeArtifact (some false) artifact artifacts =
      Delta.update TaskArtifact.artifactId artifact artifacts := by
  induction artifacts with
  | nil => rfl
  | cons existing rest ih => simp [mergeArtifact, Delta.update, ih]

theorem applyEvents_append (client : Option TaskSnapshot) (events more : List StreamResponse) :
    applyEvents parseUrl client (events ++ more) =
      applyEvents parseUrl client events >>= fun client => applyEvents parseUrl client more := by
  induction events generalizing client with
  | nil => rfl
  | cons event events ih =>
    rw [cons_append, applyEvents, applyEvents]
    cases applyStreamResponse parseUrl client event with
    | error e => rfl
    | ok next => exact ih (some next)

/-- The client's snapshot with other artifacts is one it accepts. -/
def AcceptsArtifacts (parseUrl : String → Option ParsedUrl) (client : TaskSnapshot)
    (artifacts : List TaskArtifact) : Prop :=
  ({ client with artifacts := artifacts } : TaskSnapshot).validate parseUrl = .ok ()

section Delta

variable {client next : TaskSnapshot}

/-- An update that keeps the task's identity is taken when the result is a valid snapshot. -/
theorem applyStreamResponse_of_update {event : StreamResponse} {updated : TaskSnapshot}
    (hupdate : streamUpdate parseUrl (some client) event = .ok updated)
    (htask : client.taskId = updated.taskId) (hcontext : client.contextId = updated.contextId) :
    applyStreamResponse parseUrl (some client) event = .ok result ↔
      updated.validate parseUrl = .ok () ∧ result = updated := by
  have hsame : (some client).all (fun previous =>
      previous.taskId = updated.taskId ∧ previous.contextId = updated.contextId) = true := by
    simp [htask, hcontext]
  constructor
  · intro h
    simp only [applyStreamResponse, hupdate, eq_ok, Except.ok.injEq] at h
    obtain ⟨_, rfl, hvalid, -, rfl⟩ := h
    exact ⟨hvalid, rfl⟩
  · rintro ⟨hvalid, rfl⟩
    exact bind_eq_ok.2 ⟨_, hupdate, bind_eq_ok.2 ⟨(), hvalid,
      bind_eq_ok.2 ⟨(), ensure_eq_ok.2 hsame, rfl⟩⟩⟩

section

variable (htask : client.taskId = next.taskId) (hcontext : client.contextId = next.contextId)
include htask hcontext

/-- The client takes an artifact of a snapshot of its task. -/
theorem applyStreamResponse_artifactEvent (hartifact : artifact.validate parseUrl = .ok ()) :
    applyStreamResponse parseUrl (some client) (artifactEvent next artifact) = .ok result ↔
      AcceptsArtifacts parseUrl client
        (Delta.update TaskArtifact.artifactId artifact client.artifacts) ∧
      result = { client with
        artifacts := Delta.update TaskArtifact.artifactId artifact client.artifacts } := by
  refine applyStreamResponse_of_update ?_ rfl rfl
  rw [← mergeArtifact_replace]
  exact bind_eq_ok.2 ⟨client, rfl, bind_eq_ok.2 ⟨(), ensure_eq_ok.2 ⟨htask, hcontext⟩,
    bind_eq_ok.2 ⟨artifact, artifactFromWire_artifactToWire hartifact, rfl⟩⟩⟩

/-- The client takes a status. -/
theorem applyStreamResponse_statusEvent :
    applyStreamResponse parseUrl (some client) (statusEvent next) = .ok result ↔
      ({ next with artifacts := client.artifacts } : TaskSnapshot).validate parseUrl = .ok () ∧
      result = { next with artifacts := client.artifacts } := by
  refine applyStreamResponse_of_update ?_ htask hcontext
  refine bind_eq_ok.2 ⟨client, rfl, bind_eq_ok.2 ⟨(), ensure_eq_ok.2 ⟨htask, hcontext⟩,
    bind_eq_ok.2 ⟨next.state, stateFromWire_stateToWire next.state, ?_⟩⟩⟩
  simp only [errorFromMetadata_errorMetadata, htask, hcontext]
  rfl

/-- The client takes some artifacts one after another. -/
theorem applyEvents_artifacts {result : Option TaskSnapshot}
    (hartifacts : ∀ artifact ∈ artifacts, artifact.validate parseUrl = .ok ()) :
    applyEvents parseUrl (some client) (artifacts.map (artifactEvent next)) = .ok result ↔
      Delta.Checked TaskArtifact.artifactId (AcceptsArtifacts parseUrl client) client.artifacts artifacts ∧
      result = some { client with
        artifacts := artifacts.foldl (fun rows row => Delta.update TaskArtifact.artifactId row rows)
          client.artifacts } := by
  induction artifacts generalizing client with
  | nil =>
    simp only [map_nil, applyEvents, return_eq_ok, Delta.Checked, foldl_nil, true_and]
    exact eq_comm
  | cons artifact rest ih =>
    obtain ⟨hartifact, hrest⟩ := forall_mem_cons.1 hartifacts
    simp only [map_cons, applyEvents, bind_eq_ok, Delta.Checked, foldl_cons,
      applyStreamResponse_artifactEvent htask hcontext hartifact]
    let updated : TaskSnapshot := { client with
      artifacts := Delta.update TaskArtifact.artifactId artifact client.artifacts }
    have htask' : updated.taskId = next.taskId := htask
    have hmore := ih htask' hcontext hrest
    constructor
    · rintro ⟨_, ⟨hvalid, rfl⟩, hevents⟩
      obtain ⟨hchecked, rfl⟩ := hmore.1 hevents
      exact ⟨⟨hvalid, hchecked⟩, rfl⟩
    · rintro ⟨⟨hvalid, hchecked⟩, rfl⟩
      exact ⟨_, ⟨hvalid, rfl⟩, hmore.2 ⟨hchecked, rfl⟩⟩

end

/-- The next snapshot keeps to the places of the previous one's artifacts: each of them keeps its id,
and stays as it is or, as the first of its id, changes to something that was not there; the new ones
follow, with ids of their own. -/
def KeepsPlaces (previous next : TaskSnapshot) : Prop :=
  Delta.Updated TaskArtifact.artifactId (· ∉ previous.artifacts) [] previous.artifacts next.artifacts

/-- With the previous status, every mix of a start of the next artifacts with the rest of the previous
ones is within the limit of a snapshot. -/
def MixesFit (previous next : TaskSnapshot) : Prop :=
  ∀ k ≤ next.artifacts.length,
    byteLen (encodeJson ({ previous with
      artifacts := next.artifacts.take k ++ previous.artifacts.drop k } : TaskSnapshot).toJson) ≤
      maxTaskWireBytes / 2

/-- Only the size of a mix of two valid snapshots is in question. -/
theorem acceptsArtifacts_mix {k : Nat} (hclient : client.validate parseUrl = .ok ())
    (hnext : next.validate parseUrl = .ok ()) (hplaces : KeepsPlaces client next)
    (hk : k ≤ next.artifacts.length) :
    AcceptsArtifacts parseUrl client (next.artifacts.take k ++ client.artifacts.drop k) ↔
      byteLen (encodeJson ({ client with
        artifacts := next.artifacts.take k ++ client.artifacts.drop k } : TaskSnapshot).toJson) ≤
        maxTaskWireBytes / 2 := by
  obtain ⟨hids, -, hold, -⟩ := TaskSnapshot.validate_eq_ok.1 hclient
  obtain ⟨-, hcount, hnew, -⟩ := TaskSnapshot.validate_eq_ok.1 hnext
  have hlength : (next.artifacts.take k ++ client.artifacts.drop k).length ≤ maxTaskArtifacts := by
    have hle := hplaces.length_le
    rw [length_append, length_take, length_drop]
    omega
  have hvalid : ∀ artifact ∈ next.artifacts.take k ++ client.artifacts.drop k,
      artifact.validate parseUrl = .ok () := by
    intro artifact hartifact
    rcases mem_append.1 hartifact with h | h
    · exact hnew artifact (mem_of_mem_take h)
    · exact hold artifact (mem_of_mem_drop h)
  unfold AcceptsArtifacts
  rw [TaskSnapshot.validate_eq_ok]
  exact ⟨fun h => h.2.2.2, fun h => ⟨hids, hlength, hvalid, h⟩⟩

/-- The status comes last and completes the snapshot. -/
theorem applyEvents_status (hnext : next.validate parseUrl = .ok ())
    (htask : client.taskId = next.taskId) (hcontext : client.contextId = next.contextId)
    (artifacts : List TaskArtifact) :
    applyEvents parseUrl (some { client with artifacts := artifacts })
        (if client.state ≠ next.state ∨ client.errorCode ≠ next.errorCode then [statusEvent next] else []) =
      .ok (some next) ↔ artifacts = next.artifacts := by
  split_ifs with hstatus
  · simp only [applyEvents, eq_ok, Option.some.injEq, exists_eq_right]
    let updated : TaskSnapshot := { client with artifacts := artifacts }
    have htask' : updated.taskId = next.taskId := htask
    rw [applyStreamResponse_statusEvent htask' hcontext]
    constructor
    · rintro ⟨-, heq⟩
      exact (congrArg TaskSnapshot.artifacts heq).symm
    · rintro rfl
      exact ⟨hnext, rfl⟩
  · obtain ⟨hstate, herror⟩ := not_or.1 hstatus
    simp only [applyEvents, return_eq_ok, Option.some.injEq]
    constructor
    · exact fun heq => congrArg TaskSnapshot.artifacts heq
    · rintro rfl
      rw [htask, hcontext, not_not.1 hstate, not_not.1 herror]

/-- A client at the previous snapshot arrives at the next one. -/
theorem applyEvents_deltaEvents (hclient : client.validate parseUrl = .ok ())
    (hnext : next.validate parseUrl = .ok ())
    (htask : client.taskId = next.taskId) (hcontext : client.contextId = next.contextId) :
    applyEvents parseUrl (some client) (deltaEvents client next) = .ok (some next) ↔
      KeepsPlaces client next ∧ MixesFit client next := by
  have hsent : ∀ artifact ∈ next.artifacts.filter (· ∉ client.artifacts),
      artifact.validate parseUrl = .ok () := fun artifact h =>
    (TaskSnapshot.validate_eq_ok.1 hnext).2.2.1 artifact (mem_filter.1 h).1
  have hplaces : (next.artifacts.filter (· ∉ client.artifacts)).foldl
      (fun rows row => Delta.update TaskArtifact.artifactId row rows) client.artifacts = next.artifacts ↔
      KeepsPlaces client next := Delta.foldl_update_eq_iff next.artifacts
  rw [deltaEvents, applyEvents_append, bind_eq_ok]
  simp only [applyEvents_artifacts htask hcontext hsent, and_assoc, exists_and_left, exists_eq_left,
    applyEvents_status hnext htask hcontext, hplaces]
  rw [and_comm]
  refine and_congr_right fun hkeeps => ?_
  rw [Delta.checked_iff hkeeps hclient]
  exact forall₂_congr fun k hk => acceptsArtifacts_mix hclient hnext hkeeps hk

end Delta

/-! ## Whole streams -/

/-- Every event is taken, and after the events of each snapshot the client holds it. -/
def Reproduces (parseUrl : String → Option ParsedUrl) :
    Option TaskSnapshot → List (TaskSnapshot × List StreamResponse) → Prop
  | _, [] => True
  | client, (snapshot, events) :: rest =>
    applyEvents parseUrl client events = .ok (some snapshot) ∧ Reproduces parseUrl (some snapshot) rest

/-- What a snapshot that the subscription took is. -/
theorem snapshotEvents_eq_ok {state' : SubscriptionState} {events : List StreamResponse}
    (h : snapshotEvents parseUrl state snapshot = .ok (state', events)) :
    snapshot.validate parseUrl = .ok () ∧ snapshot.taskId = state.taskId ∧
      snapshot.contextId = state.contextId ∧ eventsOf parseUrl state.previous snapshot = .ok events ∧
      state'.previous = some snapshot ∧ state'.taskId = state.taskId ∧ state'.contextId = state.contextId := by
  simp only [snapshotEvents, eq_ok] at h
  obtain ⟨hvalid, ⟨htask, hcontext⟩, _, hevents, rfl, rfl⟩ := h
  exact ⟨hvalid, htask, hcontext, hevents, rfl, rfl, rfl⟩

theorem serveSnapshots_cons {rest : List TaskSnapshot}
    (h : serveSnapshots parseUrl state (snapshot :: rest) = .ok batches) :
    ∃ state' events more, snapshotEvents parseUrl state snapshot = .ok (state', events) ∧
      serveSnapshots parseUrl state' rest = .ok more ∧ batches = (snapshot, events) :: more := by
  simp only [serveSnapshots, eq_ok] at h
  obtain ⟨state', events, hevents, more, hmore, rfl⟩ := h
  exact ⟨state', events, more, hevents, hmore, rfl⟩

/-- From a snapshot on that both sides have. -/
theorem reproduces_iff_chain {previous : TaskSnapshot} {snapshots : List TaskSnapshot}
    (h : serveSnapshots parseUrl state snapshots = .ok batches)
    (hprevious : state.previous = some previous) (hvalid : previous.validate parseUrl = .ok ())
    (htask : previous.taskId = state.taskId) (hcontext : previous.contextId = state.contextId) :
    Reproduces parseUrl (some previous) batches ↔
      (previous :: snapshots).IsChain fun a b => KeepsPlaces a b ∧ MixesFit a b := by
  induction snapshots generalizing state previous batches with
  | nil =>
    obtain rfl : [] = batches := return_eq_ok.1 h
    simp [Reproduces]
  | cons snapshot rest ih =>
    obtain ⟨_, _, _, hsnapshot, hmore, rfl⟩ := serveSnapshots_cons h
    obtain ⟨hnext, hnextTask, hnextContext, hevents, hprevious', htask', hcontext'⟩ :=
      snapshotEvents_eq_ok hsnapshot
    rw [hprevious] at hevents
    simp only [eventsOf, eq_ok] at hevents
    obtain ⟨-, rfl⟩ := hevents
    rw [Reproduces, isChain_cons_cons, applyEvents_deltaEvents hvalid hnext
      (htask.trans hnextTask.symm) (hcontext.trans hnextContext.symm),
      ih hmore hprevious' hnext (hnextTask.trans htask'.symm) (hnextContext.trans hcontext'.symm)]

/-- A new subscription. -/
def subscription (taskId contextId : String) (stopOnInterrupted : Bool) : SubscriptionState :=
  ⟨taskId, contextId, none, false, stopOnInterrupted⟩

/-- The stream reproduces every snapshot that the subscription takes exactly when each keeps the places
of the one before and the client's states on the way fit. -/
theorem stream_reproduces_iff (parseUrl : String → Option ParsedUrl) (taskId contextId : String)
    (stopOnInterrupted : Bool) (snapshots : List TaskSnapshot)
    (batches : List (TaskSnapshot × List StreamResponse))
    (h : serveSnapshots parseUrl (subscription taskId contextId stopOnInterrupted) snapshots =
      .ok batches) :
    Reproduces parseUrl none batches ↔
      snapshots.IsChain fun a b => KeepsPlaces a b ∧ MixesFit a b := by
  cases snapshots with
  | nil =>
    obtain rfl : [] = batches := return_eq_ok.1 h
    simp [Reproduces]
  | cons snapshot rest =>
    obtain ⟨_, _, _, hsnapshot, hmore, rfl⟩ := serveSnapshots_cons h
    obtain ⟨hvalid, htask, hcontext, hevents, hprevious, htask', hcontext'⟩ := snapshotEvents_eq_ok hsnapshot
    simp only [subscription, eventsOf, eq_ok] at hevents
    obtain ⟨task, hwire, rfl⟩ := hevents
    have hfirst : applyEvents parseUrl none [.task task] = .ok (some snapshot) :=
      bind_eq_ok.2 ⟨snapshot, applyStreamResponse_task hvalid hwire, rfl⟩
    rw [Reproduces, and_iff_right hfirst]
    exact reproduces_iff_chain hmore hprevious hvalid (htask.trans htask'.symm)
      (hcontext.trans hcontext'.symm)

/-- A snapshot with two artifacts, in either order. -/
def sampleSnapshot (swapped : Bool) : TaskSnapshot where
  taskId := "task_1"
  contextId := "context_1"
  state := .working
  artifacts :=
    if swapped then [⟨"b", none, [.text "y"]⟩, ⟨"a", none, [.text "x"]⟩]
    else [⟨"a", none, [.text "x"]⟩, ⟨"b", none, [.text "y"]⟩]
  errorCode := none

/-- What is sent for the two orders one after the other. -/
def sampleBatches : List (TaskSnapshot × List StreamResponse) :=
  [(sampleSnapshot false, [.task ⟨"task_1", "context_1", .working, some
    [⟨"a", none, [⟨.text "x", none, none⟩]⟩, ⟨"b", none, [⟨.text "y", none, none⟩]⟩], none⟩]),
    (sampleSnapshot true, [])]

/-- The condition for the sample, whose artifacts change places. -/
theorem stream_reproduces_iff_sample : Reproduces (fun _ => none) none sampleBatches ↔
    [sampleSnapshot false, sampleSnapshot true].IsChain fun a b => KeepsPlaces a b ∧ MixesFit a b :=
  stream_reproduces_iff (fun _ => none) "task_1" "context_1" false
    [sampleSnapshot false, sampleSnapshot true] sampleBatches (by decide +kernel)

/-- Nothing is sent for the second order, and the client keeps the first. -/
theorem stream_keeps_old_order :
    ∃ batches, serveSnapshots (fun _ => none) (subscription "task_1" "context_1" false)
        [sampleSnapshot false, sampleSnapshot true] = .ok batches ∧
      ¬Reproduces (fun _ => none) none batches := by
  refine ⟨sampleBatches, by decide +kernel, ?_⟩
  rintro ⟨-, hsecond, -⟩
  exact absurd hsecond (by decide)

end Vibemux
