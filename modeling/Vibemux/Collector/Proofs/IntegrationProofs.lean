import Vibemux.Collector.Proofs.RoundTripProofs

/-!
# Integrating several manifests

`overlappingPaths` compares whole paths, while a write also needs directories above its path. Manifests
without a common path integrate in any order exactly when none of them writes a path above a path of
another, or deletes a path above one that another writes.
-/

namespace Vibemux.Collector

open Text OrderedMap List Checked

variable {access : FileAccess} {sha256 : Bytes → Sha256Digest} {blobs : BlobStore} {base : Tree}
  {fs : FileSystem} {path : Path} {done : List (Path × SnapshotChange)}
  {entry : Path × SnapshotChange} {manifest other : SnapshotManifest}
  {rest : List (Path × SnapshotChange)} {above : Path}

/-! ## Reported overlaps -/

/-- The number under an alias is the number of entries with that alias. -/
theorem count_foldl_countAlias (toUppercase : List Char → List Char)
    (entries : List (Path × SnapshotChange)) (seen : List (List Char × (Path × Nat)))
    (key : List Char) :
    ((get (entries.foldl (countAlias toUppercase) seen) key).map fun v => v.2).getD 0 =
      ((get seen key).map fun v => v.2).getD 0 +
        (entries.map fun entry => toUppercase entry.1).count key := by
  induction entries generalizing seen with
  | nil => simp
  | cons entry rest ih =>
    rw [foldl_cons, ih, map_cons, count_cons]
    by_cases halias : toUppercase entry.1 = key
    · subst halias
      rw [countAlias, get_insert_self]
      cases get seen (toUppercase entry.1) <;> simp <;> omega
    · rw [countAlias, get_insert_of_ne (Ne.symm halias)]
      simp [halias]

/-- Where no overlap is reported, no path occurs twice. -/
theorem nodup_of_overlappingPaths {toUppercase : List Char → List Char}
    {manifests : List SnapshotManifest} (h : overlappingPaths toUppercase manifests = []) :
    (keys (manifests.flatMap SnapshotManifest.entries)).Nodup := by
  have haliases : ((manifests.flatMap SnapshotManifest.entries).map
      fun entry => toUppercase entry.1).Nodup := by
    refine nodup_iff_count_le_one.2 fun key => ?_
    have hcount := count_foldl_countAlias toUppercase (manifests.flatMap SnapshotManifest.entries) []
      key
    rw [show get ([] : List (List Char × (Path × Nat))) key = none from rfl] at hcount
    simp only [Option.map_none, Option.getD_none, Nat.zero_add] at hcount
    rw [← hcount]
    cases hget : get ((manifests.flatMap SnapshotManifest.entries).foldl
        (countAlias toUppercase) []) key with
    | none => simp
    | some counted =>
      have hmem := mem_of_get hget
      have hnone := filter_eq_nil_iff.1 (map_eq_nil_iff.1 h) _ hmem
      simpa using hnone
  have hkeys : ((keys (manifests.flatMap SnapshotManifest.entries)).map toUppercase).Nodup := by
    rw [OrderedMap.keys, map_map]
    exact haliases
  exact hkeys.of_map

/-! ## What an entry needs -/

theorem ancestorsFrom_append (read mid below : List Char) :
    ancestorsFrom read (mid ++ '/' :: below) =
      ancestorsFrom read mid ++ (read ++ mid) :: ancestorsFrom (read ++ mid ++ ['/']) below := by
  induction mid generalizing read with
  | nil => simp [ancestorsFrom]
  | cons c mid ih =>
    rw [cons_append, ancestorsFrom, ih, ancestorsFrom]
    split_ifs <;> simp

/-- The directories above an ancestor come before it. -/
theorem ancestors_eq_append (h : above ∈ ancestors path) :
    ∃ lower, ancestors path = ancestors above ++ above :: lower := by
  obtain ⟨below, rfl⟩ := mem_ancestors.1 h
  exact ⟨_, ancestorsFrom_append [] above below⟩

/-- A check that passes has seen every directory that comes before what it refuses. -/
theorem not_rejectLinkedAncestors {file : File} {higher lower : List Path}
    (hdirs : ∀ dir ∈ higher, stat access fs dir = .directory)
    (hfile : stat access fs above = .file file) :
    rejectLinkedAncestors access fs (higher ++ above :: lower) ≠ .ok () := by
  induction higher with
  | nil => simp [rejectLinkedAncestors, hfile]
  | cons dir higher ih =>
    rw [cons_append, rejectLinkedAncestors, hdirs dir mem_cons_self]
    exact ih fun other hother => hdirs other (mem_cons_of_mem _ hother)

/-- What an entry leaves at its path. -/
def entryFile (sha256 : Bytes → Sha256Digest) (blobs : BlobStore) (before : Option File) :
    SnapshotChange → Option File
  | .delete => none
  | .write digest byteCount =>
    match BlobStore.get sha256 blobs digest byteCount with
    | .ok bytes => some (.regular (keptMode before) bytes)
    | .error _ => none

/-- The state after the entries in `done`, in any order. -/
structure Applied (sha256 : Bytes → Sha256Digest) (blobs : BlobStore) (base : Tree)
    (done : List (Path × SnapshotChange)) (fs : FileSystem) : Prop where
  kept : ∀ p, p ∉ OrderedMap.keys done → fs.get p = base.get p
  changed : ∀ entry ∈ done, fs.get entry.1 = entryFile sha256 blobs (base.get entry.1) entry.2
  written : ∀ entry ∈ done, entry.2 ≠ .delete → fs.get entry.1 ≠ none
  dirs : ∀ dir, dir ∈ fs.dirs ↔ dir ∈ (checkout base).dirs ∨
    ∃ entry ∈ done, entry.2 ≠ .delete ∧ dir ∈ ancestors entry.1
  apart : ∀ dir ∈ fs.dirs, fs.get dir = none

/-- What an entry needs of the base tree and of the entries before it. -/
structure Ready (sha256 : Bytes → Sha256Digest) (blobs : BlobStore) (base : Tree)
    (done : List (Path × SnapshotChange)) (entry : Path × SnapshotChange) : Prop where
  relative : isRelativePath entry.1 = true
  blob : ∀ digest byteCount, entry.2 = .write digest byteCount →
    ∃ bytes, BlobStore.get sha256 blobs digest byteCount = .ok bytes
  /-- A file of the base tree above the path was named earlier. -/
  baseAbove : ∀ above ∈ ancestors entry.1, above ∉ OrderedMap.keys done → base.get above = none
  doneAbove : ∀ other ∈ done, other.1 ∈ ancestors entry.1 → other.2 = .delete
  /-- The path is no directory, neither of the base tree nor of an earlier write. -/
  baseBelow : entry.1 ∉ (checkout base).dirs
  doneBelow : ∀ other ∈ done, entry.1 ∈ ancestors other.1 → other.2 = .delete

theorem applied_checkout (base : Tree) : Applied sha256 blobs base [] (checkout base) := by
  refine ⟨fun p _ => rfl, by simp, by simp, by simp, fun dir hdir => ?_⟩
  obtain ⟨p, hp, hmem⟩ := mem_flatMap.1 hdir
  exact Tree.get_ancestor (Option.isSome_iff_ne_none.1 (mem_keys_iff.1 hp)) hmem

/-! ## One entry -/

theorem stat_missing (hget : fs.get path = none) (habove : NoFileAbove fs path)
    (hdir : path ∉ fs.dirs) : stat access fs path = .notFound := by
  have hnone : (ancestors path).filterMap fs.get = [] := filterMap_eq_nil_iff.2 habove
  simp [stat, hget, hdir, hnone]

theorem ne_of_done (hfresh : entry.1 ∉ keys done) {other : Path × SnapshotChange}
    (hother : other ∈ done) : other.1 ≠ entry.1 := by
  intro hsame
  exact hfresh (hsame ▸ mem_map_of_mem hother)

theorem mem_keys_append_singleton {p : Path} :
    p ∈ keys (done ++ [entry]) ↔ p ∈ keys done ∨ p = entry.1 := by
  simp [OrderedMap.keys]

section

variable (happlied : Applied sha256 blobs base done fs)

include happlied

/-- What is above a file is a directory. -/
theorem Applied.closed (hfile : fs.get path ≠ none) (habove : above ∈ ancestors path) :
    above ∈ fs.dirs := by
  rw [happlied.dirs]
  by_cases hdone : path ∈ keys done
  · obtain ⟨entry, hentry, rfl⟩ := mem_map.1 hdone
    refine .inr ⟨entry, hentry, fun hdelete => hfile ?_, habove⟩
    rw [happlied.changed entry hentry, hdelete]
    rfl
  · rw [happlied.kept path hdone] at hfile
    have hkey : path ∈ keys base.files :=
      mem_keys_iff.2 (Option.isSome_iff_ne_none.2 hfile)
    exact .inl (mem_flatMap.2 ⟨path, hkey, habove⟩)

theorem Applied.stat_dir {dir : Path} (hdir : dir ∈ fs.dirs) : stat access fs dir = .directory := by
  unfold stat
  rw [happlied.apart dir hdir]
  exact if_pos hdir

/-- The check of the directories above a path finds every file there. -/
theorem Applied.noFileAbove_iff :
    rejectLinkedAncestors access fs (ancestors path) = .ok () ↔ NoFileAbove fs path := by
  refine ⟨fun hok above habove => ?_, rejectLinkedAncestors_of_noFileAbove⟩
  by_contra hfile
  obtain ⟨file, hget⟩ := Option.ne_none_iff_exists'.1 hfile
  obtain ⟨lower, hsplit⟩ := ancestors_eq_append habove
  rw [hsplit] at hok
  exact not_rejectLinkedAncestors
    (fun dir hdir => happlied.stat_dir (happlied.closed hfile hdir)) (stat_of_get hget) hok

theorem Applied.noFileAbove (hready : Ready sha256 blobs base done entry) :
    NoFileAbove fs entry.1 := by
  intro above habove
  by_cases hdone : above ∈ keys done
  · obtain ⟨other, hother, rfl⟩ := mem_map.1 hdone
    rw [happlied.changed other hother, hready.doneAbove other hother habove]
    rfl
  · rw [happlied.kept above hdone]
    exact hready.baseAbove above habove hdone

theorem Applied.not_dir (hready : Ready sha256 blobs base done entry) : entry.1 ∉ fs.dirs := by
  rw [happlied.dirs, not_or]
  refine ⟨hready.baseBelow, ?_⟩
  rintro ⟨other, hother, hwrite, hbelow⟩
  exact hwrite (hready.doneBelow other hother hbelow)

theorem Applied.ready (hrelative : isRelativePath entry.1 = true)
    (hblob : ∀ digest byteCount, entry.2 = .write digest byteCount →
      ∃ bytes, BlobStore.get sha256 blobs digest byteCount = .ok bytes)
    (habove : NoFileAbove fs entry.1) (hdir : entry.1 ∉ fs.dirs) :
    Ready sha256 blobs base done entry := by
  rw [happlied.dirs, not_or] at hdir
  refine ⟨hrelative, hblob, fun above hmem hdone => ?_, fun other hother hmem => ?_, hdir.1,
    fun other hother hmem => ?_⟩
  · rw [← happlied.kept above hdone]
    exact habove above hmem
  · by_contra hwrite
    exact happlied.written other hother hwrite (habove other.1 hmem)
  · by_contra hwrite
    exact hdir.2 ⟨other, hother, hwrite, hmem⟩

variable (hfresh : entry.1 ∉ OrderedMap.keys done)

include hfresh

/-- One more path was changed, and the directories above it were made if it was written. -/
theorem Applied.snoc {next : FileSystem}
    (hself : next.get entry.1 = entryFile sha256 blobs (base.get entry.1) entry.2)
    (hwritten : entry.2 ≠ .delete → next.get entry.1 ≠ none)
    (hother : ∀ p, p ≠ entry.1 → next.get p = fs.get p)
    (hdirs : ∀ dir, dir ∈ next.dirs ↔
      dir ∈ fs.dirs ∨ entry.2 ≠ .delete ∧ dir ∈ ancestors entry.1)
    (hapart : ∀ dir ∈ next.dirs, next.get dir = none) :
    Applied sha256 blobs base (done ++ [entry]) next := by
  refine ⟨fun p hp => ?_, fun e he => ?_, fun e he hwrite => ?_, fun dir => ?_, hapart⟩
  · rw [mem_keys_append_singleton, not_or] at hp
    rw [hother p hp.2, happlied.kept p hp.1]
  · rcases mem_append.1 he with he | he
    · rw [hother _ (ne_of_done hfresh he), happlied.changed e he]
    · obtain rfl := mem_singleton.1 he
      exact hself
  · rcases mem_append.1 he with he | he
    · rw [hother _ (ne_of_done hfresh he)]
      exact happlied.written e he hwrite
    · obtain rfl := mem_singleton.1 he
      exact hwritten hwrite
  · rw [hdirs, happlied.dirs, or_assoc]
    simp [or_and_right, exists_or]

theorem applyEntry_ready_delete (hready : Ready sha256 blobs base done entry)
    (hchange : entry.2 = .delete) (access : FileAccess) :
    ∃ next, applyEntry access sha256 blobs fs entry = .ok next ∧
      Applied sha256 blobs base (done ++ [entry]) next := by
  have habove := happlied.noFileAbove hready
  have hdir := happlied.not_dir hready
  obtain ⟨p, change⟩ := entry
  obtain rfl : change = .delete := hchange
  cases hget : fs.get p with
  | some file =>
    refine ⟨_, applyEntry_delete hready.relative habove hget, happlied.snoc hfresh
      (get_erase_self _ _) (fun h => absurd rfl h)
      (fun q hq => get_erase_of_ne hq _) (by simp) fun dir hmem => ?_⟩
    have hne : dir ≠ p := fun hsame => hdir (hsame ▸ hmem)
    exact (get_erase_of_ne hne _).trans (happlied.apart dir hmem)
  | none =>
    have hstat : stat access fs p = .notFound := stat_missing hget habove hdir
    refine ⟨fs, ?_, happlied.snoc hfresh hget (fun h => absurd rfl h) (fun q _ => rfl) (by simp)
      happlied.apart⟩
    simp only [applyEntry, eq_ok]
    refine ⟨hready.relative, rejectLinkedAncestors_of_noFileAbove habove, ?_⟩
    rw [removeFile, hstat]

theorem applyEntry_ready_write {digest : Sha256Digest} {byteCount : Nat}
    (hready : Ready sha256 blobs base done entry) (hchange : entry.2 = .write digest byteCount)
    (hlink : ∀ target, base.get entry.1 ≠ some (.symlink target)) (access : FileAccess) :
    ∃ next, applyEntry access sha256 blobs fs entry = .ok next ∧
      Applied sha256 blobs base (done ++ [entry]) next := by
  have habove := happlied.noFileAbove hready
  have hdir := happlied.not_dir hready
  have hget := happlied.kept entry.1 hfresh
  obtain ⟨p, change⟩ := entry
  obtain rfl : change = .write digest byteCount := hchange
  obtain ⟨bytes, hblob⟩ := hready.blob digest byteCount rfl
  have hself : get (insert p (.regular (keptMode (fs.get p)) bytes) fs.files) p =
      some (.regular (keptMode (fs.get p)) bytes) := get_insert_self _ _ _
  refine ⟨_, applyEntry_write hready.relative habove hblob hdir (by rwa [hget]),
    happlied.snoc hfresh ?_ (fun _ => ?_) (fun q hq => get_insert_of_ne hq _ _)
    (by simp) fun dir hmem => ?_⟩
  · rw [entryFile, hblob, ← hget]
    exact hself
  · rw [FileSystem.get, hself]
    exact Option.some_ne_none _
  · rcases mem_append.1 hmem with hold | hnew
    · have hne : dir ≠ p := fun hsame => hdir (hsame ▸ hold)
      exact (get_insert_of_ne hne _ _).trans (happlied.apart dir hold)
    · have hne : dir ≠ p := fun hsame => not_mem_ancestors_self (hsame ▸ hnew)
      exact (get_insert_of_ne hne _ _).trans (habove dir hnew)

omit hfresh in
/-- An entry that was applied was ready. -/
theorem Applied.ready_of_applyEntry {next : FileSystem}
    (h : applyEntry access sha256 blobs fs entry = .ok next) :
    Ready sha256 blobs base done entry := by
  simp only [applyEntry, eq_ok] at h
  obtain ⟨hrelative, hlinked, h⟩ := h
  have habove := happlied.noFileAbove_iff.1 hlinked
  obtain ⟨p, change⟩ := entry
  cases change with
  | delete =>
    refine happlied.ready hrelative (fun _ _ hwrite => by cases hwrite) habove fun hdir => ?_
    rw [removeFile, happlied.stat_dir hdir] at h
    cases h
  | write digest byteCount =>
    simp only [bind_eq_ok] at h
    obtain ⟨bytes, hblob, _, hcreated, hwrite⟩ := h
    obtain rfl := createDirAll_dirs hcreated
    refine happlied.ready hrelative ?_ habove fun hdir => ?_
    · rintro _ _ ⟨⟩
      exact ⟨bytes, hblob⟩
    · rw [writeFile, if_pos (mem_append_left _ hdir)] at hwrite
      cases hwrite

theorem applyEntry_ready (hready : Ready sha256 blobs base done entry)
    (hlink : entry.2 ≠ .delete → ∀ target, base.get entry.1 ≠ some (.symlink target))
    (access : FileAccess) :
    ∃ next, applyEntry access sha256 blobs fs entry = .ok next ∧
      Applied sha256 blobs base (done ++ [entry]) next := by
  cases hchange : entry.2 with
  | delete => exact applyEntry_ready_delete happlied hfresh hready hchange access
  | write digest byteCount =>
    exact applyEntry_ready_write happlied hfresh hready hchange (hlink (by simp [hchange])) access

end

/-! ## All entries -/

/-- No entry writes a path that is a link of the base tree. -/
def NoLinkWritten (base : Tree) (entries : List (Path × SnapshotChange)) : Prop :=
  ∀ entry ∈ entries, entry.2 ≠ .delete → ∀ target, base.get entry.1 ≠ some (.symlink target)

/-- Every entry is ready after the ones before it. -/
def AllReady (sha256 : Bytes → Sha256Digest) (blobs : BlobStore) (base : Tree)
    (done entries : List (Path × SnapshotChange)) : Prop :=
  ∀ earlier entry later, entries = earlier ++ entry :: later →
    Ready sha256 blobs base (done ++ earlier) entry

theorem AllReady.tail (h : AllReady sha256 blobs base done (entry :: rest)) :
    AllReady sha256 blobs base (done ++ [entry]) rest := by
  intro earlier next later hsplit
  have hready := h (entry :: earlier) next later (by rw [hsplit, cons_append])
  simpa using hready

section

variable {entries : List (Path × SnapshotChange)}
  (hnodup : (OrderedMap.keys (done ++ entries)).Nodup) (hlinks : NoLinkWritten base entries)
  (happlied : Applied sha256 blobs base done fs)

include hnodup in
theorem fresh_of_nodup (hentries : entries = entry :: rest) :
    entry.1 ∉ keys done := by
  intro hdone
  rw [hentries, OrderedMap.keys, map_append] at hnodup
  exact (nodup_append'.1 hnodup).2.2 hdone (by simp)

include hnodup hlinks happlied

theorem applyEntries_of_ready (hready : AllReady sha256 blobs base done entries)
    (access : FileAccess) :
    ∃ after, applyEntries access sha256 blobs fs entries = .ok after ∧
      Applied sha256 blobs base (done ++ entries) after := by
  induction entries generalizing done fs with
  | nil => exact ⟨fs, rfl, by simpa using happlied⟩
  | cons entry rest ih =>
    have hfirst : Ready sha256 blobs base done entry := by
      have h := hready [] entry rest rfl
      rwa [append_nil] at h
    obtain ⟨next, hnext, hdone⟩ := applyEntry_ready happlied (fresh_of_nodup hnodup rfl) hfirst
      (hlinks entry mem_cons_self) access
    have hsplit : done ++ entry :: rest = done ++ [entry] ++ rest := by simp
    rw [hsplit] at hnodup ⊢
    obtain ⟨after, hafter, hall⟩ := ih hnodup
      (fun other hother => hlinks other (mem_cons_of_mem _ hother)) hdone hready.tail
    refine ⟨after, ?_, hall⟩
    rw [applyEntries, hnext]
    exact hafter

theorem ready_of_applyEntries {after : FileSystem}
    (h : applyEntries access sha256 blobs fs entries = .ok after) :
    AllReady sha256 blobs base done entries := by
  induction entries generalizing done fs with
  | nil =>
    intro earlier entry later hsplit
    simp at hsplit
  | cons entry rest ih =>
    rw [applyEntries, bind_eq_ok] at h
    obtain ⟨next, hnext, hrest⟩ := h
    have hfirst := happlied.ready_of_applyEntry hnext
    obtain ⟨other, hother, hdone⟩ := applyEntry_ready happlied (fresh_of_nodup hnodup rfl) hfirst
      (hlinks entry mem_cons_self) access
    obtain rfl : next = other := Except.ok.inj (hnext.symm.trans hother)
    have hsplit : done ++ entry :: rest = done ++ [entry] ++ rest := by simp
    rw [hsplit] at hnodup
    have htail := ih hnodup (fun e he => hlinks e (mem_cons_of_mem _ he)) hdone hrest
    intro earlier e later hentries
    cases earlier with
    | nil =>
      obtain ⟨rfl, rfl⟩ := cons.inj hentries
      rwa [append_nil]
    | cons first earlier =>
      obtain ⟨rfl, hlater⟩ := cons.inj hentries
      have hready := htail earlier e later hlater
      rwa [append_assoc] at hready

end

/-! ## Several manifests -/

/-- The same files and the same directories. -/
def SameTree (fs other : FileSystem) : Prop :=
  (∀ p, fs.get p = other.get p) ∧ ∀ dir, dir ∈ fs.dirs ↔ dir ∈ other.dirs

/-- The manifests apply to the base tree, and in every order they give the same tree. -/
def IntegratesInAnyOrder (access : FileAccess) (sha256 : Bytes → Sha256Digest) (blobs : BlobStore)
    (base : Tree) (manifests : List SnapshotManifest) : Prop :=
  ∃ final, applyManifests access sha256 blobs (checkout base) manifests = .ok final ∧
    ∀ permuted, manifests.Perm permuted → ∃ other,
      applyManifests access sha256 blobs (checkout base) permuted = .ok other ∧ SameTree final other

/-- Where a path of one manifest is above a path of the other, both are deleted. -/
def Unnested (manifest other : SnapshotManifest) : Prop :=
  ∀ entry ∈ manifest.entries, ∀ otherEntry ∈ other.entries,
    entry.1 ∈ ancestors otherEntry.1 ∨ otherEntry.1 ∈ ancestors entry.1 →
      entry.2 = .delete ∧ otherEntry.2 = .delete

/-- No path lies below another one. -/
def NoNesting (manifests : List SnapshotManifest) : Prop := manifests.Pairwise Unnested

theorem Unnested.symm (h : Unnested manifest other) :
    Unnested other manifest := fun entry hentry otherEntry hother hnested =>
  (h otherEntry hother entry hentry hnested.symm).symm

theorem NoNesting.perm {manifests permuted : List SnapshotManifest} (h : NoNesting manifests)
    (hperm : manifests.Perm permuted) : NoNesting permuted :=
  (hperm.pairwise_iff fun hpair => hpair.symm).1 h

theorem Applied.sameTree {entries permuted : List (Path × SnapshotChange)} {other : FileSystem}
    (hperm : entries.Perm permuted) (hentries : Applied sha256 blobs base entries fs)
    (hpermuted : Applied sha256 blobs base permuted other) : SameTree fs other := by
  refine ⟨fun p => ?_, fun dir => ?_⟩
  · by_cases hp : p ∈ keys entries
    · obtain ⟨entry, hentry, rfl⟩ := mem_map.1 hp
      rw [hentries.changed entry hentry, hpermuted.changed entry (hperm.mem_iff.1 hentry)]
    · have hp' : p ∉ keys permuted := fun h => hp ((hperm.map Prod.fst).mem_iff.2 h)
      rw [hentries.kept p hp, hpermuted.kept p hp']
  · simp only [hentries.dirs, hpermuted.dirs, hperm.mem_iff]

/-- Entries that do not nest with the next one may come before it. -/
theorem Ready.after {extra : List (Path × SnapshotChange)}
    (hready : Ready sha256 blobs base done entry)
    (hextra : ∀ other ∈ extra, other.1 ∈ ancestors entry.1 ∨ entry.1 ∈ ancestors other.1 →
      other.2 = .delete) : Ready sha256 blobs base (extra ++ done) entry := by
  refine ⟨hready.relative, hready.blob, fun above habove hnew => ?_, fun other hother hmem => ?_,
    hready.baseBelow, fun other hother hmem => ?_⟩
  · rw [OrderedMap.keys, map_append, mem_append, not_or] at hnew
    exact hready.baseAbove above habove hnew.2
  · rcases mem_append.1 hother with hother | hother
    · exact hextra other hother (.inl hmem)
    · exact hready.doneAbove other hother hmem
  · rcases mem_append.1 hother with hother | hother
    · exact hextra other hother (.inr hmem)
    · exact hready.doneBelow other hother hmem

/-- An entry of a list of manifests belongs to one of them. -/
theorem flatMap_entries_eq {manifests : List SnapshotManifest}
    {earlier later : List (Path × SnapshotChange)}
    (h : manifests.flatMap SnapshotManifest.entries = earlier ++ entry :: later) :
    ∃ before manifest after own next, manifests = before ++ manifest :: after ∧
      manifest.entries = own ++ entry :: next ∧
      earlier = before.flatMap SnapshotManifest.entries ++ own := by
  induction manifests generalizing earlier with
  | nil => simp at h
  | cons manifest rest ih =>
    rw [flatMap_cons] at h
    rcases append_eq_append_cons h with ⟨next, hown, -⟩ | ⟨_, rfl, hrest⟩
    · exact ⟨[], manifest, rest, earlier, next, rfl, hown, rfl⟩
    · obtain ⟨before, found, after, own, next, rfl, hown, rfl⟩ := ih hrest
      exact ⟨manifest :: before, found, after, own, next, rfl, hown, by simp⟩

theorem allReady_flatMap {manifests : List SnapshotManifest}
    (heach : ∀ manifest ∈ manifests, AllReady sha256 blobs base [] manifest.entries)
    (hnesting : NoNesting manifests) :
    AllReady sha256 blobs base [] (manifests.flatMap SnapshotManifest.entries) := by
  intro earlier entry later hsplit
  obtain ⟨_, manifest, after, own, next, rfl, hown, rfl⟩ := flatMap_entries_eq hsplit
  have hready := heach manifest (by simp) own entry next hown
  refine hready.after fun other hother hnested => ?_
  obtain ⟨earlierManifest, hbefore, hmem⟩ := mem_flatMap.1 hother
  have hpair := (pairwise_append.1 hnesting).2.2 earlierManifest hbefore manifest
    mem_cons_self
  exact (hpair other hmem entry (by simp [hown]) hnested).1

section

variable {rest : List SnapshotManifest}
  (hready : AllReady sha256 blobs base [] ((manifest :: other :: rest).flatMap SnapshotManifest.entries))
include hready

/-- Of two manifests that apply one after the other, the second has no path below a write of the
first, and none above one. -/
theorem delete_of_allReady {otherEntry : Path × SnapshotChange} (hentry : entry ∈ manifest.entries)
    (hother : otherEntry ∈ other.entries)
    (hnested : entry.1 ∈ ancestors otherEntry.1 ∨ otherEntry.1 ∈ ancestors entry.1) :
    entry.2 = .delete := by
  obtain ⟨own, next, hown⟩ := append_of_mem hother
  have hlater := hready (manifest.entries ++ own) otherEntry
    (next ++ rest.flatMap SnapshotManifest.entries) (by simp [hown])
  have hmem : entry ∈ [] ++ (manifest.entries ++ own) := by simp [hentry]
  rcases hnested with hnested | hnested
  · exact hlater.doneAbove entry hmem hnested
  · exact hlater.doneBelow entry hmem hnested

theorem unnested_of_allReady (hswapped : AllReady sha256 blobs base []
      ((other :: manifest :: rest).flatMap SnapshotManifest.entries)) :
    Unnested manifest other := fun _ hentry _ hother hnested =>
  ⟨delete_of_allReady hready hentry hother hnested,
    delete_of_allReady hswapped hother hentry hnested.symm⟩

end

/-! ## Any order -/

section

variable {manifests permuted : List SnapshotManifest}
  (hnodup : (OrderedMap.keys (manifests.flatMap SnapshotManifest.entries)).Nodup)
  (hlinks : NoLinkWritten base (manifests.flatMap SnapshotManifest.entries))

include hnodup hlinks

theorem allReady_of_applyManifests (hperm : manifests.Perm permuted) {after : FileSystem}
    (h : applyManifests access sha256 blobs (checkout base) permuted = .ok after) :
    AllReady sha256 blobs base [] (permuted.flatMap SnapshotManifest.entries) := by
  have hentries := hperm.flatMap_right SnapshotManifest.entries
  exact ready_of_applyEntries ((hentries.map Prod.fst).nodup_iff.1 hnodup)
    (fun entry hentry => hlinks entry (hentries.mem_iff.2 hentry)) (applied_checkout base) h

theorem applyManifests_of_allReady (hperm : manifests.Perm permuted)
    (hready : AllReady sha256 blobs base [] (permuted.flatMap SnapshotManifest.entries))
    (access : FileAccess) :
    ∃ after, applyManifests access sha256 blobs (checkout base) permuted = .ok after ∧
      Applied sha256 blobs base (permuted.flatMap SnapshotManifest.entries) after := by
  have hentries := hperm.flatMap_right SnapshotManifest.entries
  have hkeys : (keys ([] ++ permuted.flatMap SnapshotManifest.entries)).Nodup :=
    (hentries.map Prod.fst).nodup_iff.1 hnodup
  exact applyEntries_of_ready hkeys
    (fun entry hentry => hlinks entry (hentries.mem_iff.2 hentry)) (applied_checkout base) hready
    access

/-- A manifest that applies alone has its entries in an order in which they are ready. -/
theorem allReady_of_alone {manifest : SnapshotManifest} (hmem : manifest ∈ manifests)
    {after : FileSystem}
    (h : applyManifests access sha256 blobs (checkout base) [manifest] = .ok after) :
    AllReady sha256 blobs base [] manifest.entries := by
  obtain ⟨before, later, rfl⟩ := append_of_mem hmem
  have hentries : [manifest].flatMap SnapshotManifest.entries = manifest.entries := by simp
  have hsub : manifest.entries.Sublist
      ((before ++ manifest :: later).flatMap SnapshotManifest.entries) := by
    rw [flatMap_append, flatMap_cons]
    exact (sublist_append_left _ _).trans (sublist_append_right _ _)
  rw [applyManifests, hentries] at h
  exact ready_of_applyEntries (hnodup.sublist (hsub.map Prod.fst))
    (fun entry hentry => hlinks entry (hsub.subset hentry)) (applied_checkout base) h

end

/-- Manifests that apply alone, without a reported overlap and without writes through links,
integrate in any order exactly when no path of one of them stands above a path of another, unless
both are deleted. -/
theorem integratesInAnyOrder_iff {toUppercase : List Char → List Char}
    {manifests : List SnapshotManifest}
    (heach : ∀ manifest ∈ manifests,
      ∃ after, applyManifests access sha256 blobs (checkout base) [manifest] = .ok after)
    (hnone : overlappingPaths toUppercase manifests = [])
    (hlinks : NoLinkWritten base (manifests.flatMap SnapshotManifest.entries)) :
    IntegratesInAnyOrder access sha256 blobs base manifests ↔ NoNesting manifests := by
  have hnodup := nodup_of_overlappingPaths hnone
  constructor
  · rintro ⟨final, -, hall⟩
    refine pairwise_iff_forall_sublist.2 fun {manifest other} hpair => ?_
    obtain ⟨rest, hrest⟩ := hpair.exists_perm_append
    have hperm : manifests.Perm (manifest :: other :: rest) := hrest
    have hswapped : manifests.Perm (other :: manifest :: rest) := hperm.trans (List.Perm.swap ..)
    obtain ⟨_, hfirst, -⟩ := hall _ hperm
    obtain ⟨_, hsecond, -⟩ := hall _ hswapped
    exact unnested_of_allReady (allReady_of_applyManifests hnodup hlinks hperm hfirst)
      (allReady_of_applyManifests hnodup hlinks hswapped hsecond)
  · intro hnesting
    have hready : ∀ manifest ∈ manifests, AllReady sha256 blobs base [] manifest.entries := by
      intro manifest hmem
      obtain ⟨after, hafter⟩ := heach manifest hmem
      exact allReady_of_alone hnodup hlinks hmem hafter
    have hrun : ∀ permuted, manifests.Perm permuted → ∃ after,
        applyManifests access sha256 blobs (checkout base) permuted = .ok after ∧
          Applied sha256 blobs base (permuted.flatMap SnapshotManifest.entries) after :=
      fun permuted hperm => applyManifests_of_allReady hnodup hlinks hperm
        (allReady_flatMap (fun manifest hmem => hready manifest (hperm.mem_iff.2 hmem))
          (hnesting.perm hperm)) access
    obtain ⟨final, hfinal, happlied⟩ := hrun manifests (List.Perm.refl _)
    refine ⟨final, hfinal, fun permuted hperm => ?_⟩
    obtain ⟨other, hother, hsame⟩ := hrun permuted hperm
    exact ⟨other, hother, happlied.sameTree (hperm.flatMap_right _) hsame⟩

/-- The tree of an empty commit. -/
def emptyTree : Tree := ⟨[], by simp [OrderedMap.keys], by simp [OrderedMap.keys]⟩

/-- A manifest that writes one empty file. -/
def oneFileManifest (path : String) : SnapshotManifest :=
  ⟨1, [], [(path.toList, .write ⟨1⟩ 0)]⟩

/-- Two files in two directories. -/
theorem separateFiles_integrate :
    IntegratesInAnyOrder noAccess (fun _ => ⟨1⟩) [(⟨1⟩, [])] emptyTree
      [oneFileManifest "docs/a", oneFileManifest "src/b"] := by
  have hnone : overlappingPaths (map Char.toUpper)
      [oneFileManifest "docs/a", oneFileManifest "src/b"] = [] := by decide +kernel
  have hnesting : NoNesting [oneFileManifest "docs/a", oneFileManifest "src/b"] := by
    unfold NoNesting Unnested
    decide +kernel
  have hlinks : NoLinkWritten emptyTree
      ([oneFileManifest "docs/a", oneFileManifest "src/b"].flatMap SnapshotManifest.entries) := by
    intro entry _ _ target
    exact Option.some_ne_none _ |>.symm
  refine (integratesInAnyOrder_iff ?_ hnone hlinks).2 hnesting
  intro manifest hmem
  rcases mem_pair.1 hmem with rfl | rfl
  · exact ⟨_, rfl⟩
  · exact ⟨_, rfl⟩

/-- One manifest writes a file where the other needs a directory: each of them applies alone and no
overlap is reported. -/
theorem nestedFiles_not_integrate :
    (∀ manifest ∈ [oneFileManifest "docs", oneFileManifest "docs/a"], ∃ after,
      applyManifests noAccess (fun _ => ⟨1⟩) [(⟨1⟩, [])] (checkout emptyTree) [manifest] = .ok after) ∧
    overlappingPaths (List.map Char.toUpper) [oneFileManifest "docs", oneFileManifest "docs/a"] = [] ∧
    ¬ IntegratesInAnyOrder noAccess (fun _ => ⟨1⟩) [(⟨1⟩, [])] emptyTree
      [oneFileManifest "docs", oneFileManifest "docs/a"] := by
  refine ⟨fun manifest hmem => ?_, by decide +kernel, ?_⟩
  · rcases mem_pair.1 hmem with rfl | rfl
    · exact ⟨_, rfl⟩
    · exact ⟨_, rfl⟩
  · rintro ⟨final, hfinal, -⟩
    have hfails : applyManifests noAccess (fun _ => ⟨1⟩) [(⟨1⟩, [])] (checkout emptyTree)
        [oneFileManifest "docs", oneFileManifest "docs/a"] = .error .snapshot := rfl
    rw [hfails] at hfinal
    cases hfinal

end Vibemux.Collector
