import Vibemux.Collector.Proofs.CollectProofs

/-!
# Applying a manifest

Applying the entries of a manifest to a fresh checkout gives, at every entry, the bytes of the work
tree. What is above a path sorts before it, so a file that makes room for a directory is removed first;
a directory that makes room for a file is not.
-/

namespace Vibemux.Collector

open Text SortDedup OrderedMap List Checked

variable {access : FileAccess} {sha256 : Bytes → Sha256Digest} {fs : FileSystem} {path : Path}
  {blobs : BlobStore} {dirs : List Path} {after : FileSystem} {entry : Path × SnapshotChange}
  {above : Path} {bytes : Bytes} {dir : Path} {entries : List (Path × SnapshotChange)}
  {byteCount : Nat} {digest : Sha256Digest} {file : File} {target : Bytes}

/-! ## Ancestors -/

theorem mem_ancestorsFrom {read rest : List Char} :
    above ∈ ancestorsFrom read rest ↔ ∃ mid below, rest = mid ++ '/' :: below ∧ above = read ++ mid := by
  induction rest generalizing read with
  | nil => simp [ancestorsFrom]
  | cons c rest ih =>
    rw [ancestorsFrom]
    constructor
    · intro h
      split_ifs at h with hslash
      · subst hslash
        rcases mem_cons.1 h with rfl | h
        · exact ⟨[], rest, rfl, by simp⟩
        · obtain ⟨mid, below, rfl, rfl⟩ := ih.1 h
          exact ⟨'/' :: mid, below, rfl, by simp⟩
      · obtain ⟨mid, below, rfl, rfl⟩ := ih.1 h
        exact ⟨c :: mid, below, rfl, by simp⟩
    · rintro ⟨mid, below, hsplit, rfl⟩
      cases mid with
      | nil =>
        obtain ⟨rfl, rfl⟩ := cons.inj hsplit
        simp
      | cons d mid =>
        obtain ⟨rfl, rfl⟩ := cons.inj hsplit
        have hlater : read ++ c :: mid ∈ ancestorsFrom (read ++ [c]) (mid ++ '/' :: below) :=
          ih.2 ⟨mid, below, rfl, by simp⟩
        split_ifs
        · exact mem_cons_of_mem _ hlater
        · exact hlater

theorem mem_ancestors :
    above ∈ ancestors path ↔ ∃ below, path = above ++ '/' :: below := by
  rw [ancestors, mem_ancestorsFrom]
  constructor
  · rintro ⟨mid, below, rfl, rfl⟩
    exact ⟨below, rfl⟩
  · rintro ⟨below, rfl⟩
    exact ⟨above, below, rfl, rfl⟩

theorem ancestors_trans {above middle : Path} (h : above ∈ ancestors middle)
    (hmiddle : middle ∈ ancestors path) : above ∈ ancestors path := by
  obtain ⟨below, rfl⟩ := mem_ancestors.1 h
  obtain ⟨rest, rfl⟩ := mem_ancestors.1 hmiddle
  exact mem_ancestors.2 ⟨below ++ '/' :: rest, by simp⟩

/-- What is above a path sorts before it. -/
theorem compare_ancestor (h : above ∈ ancestors path) :
    compare above path = .lt := by
  obtain ⟨below, rfl⟩ := mem_ancestors.1 h
  show List.compareLex compare above (above ++ '/' :: below) = .lt
  clear h
  induction above with
  | nil => rfl
  | cons c above ih =>
    rw [List.cons_append, List.compareLex_cons_cons, ih]
    simp

theorem not_mem_ancestors_self : path ∉ ancestors path := fun h =>
  ne_of_compare_lt (compare_ancestor h) rfl

/-! ## One entry -/

/-- Nothing but directories above a path. -/
def NoFileAbove (fs : FileSystem) (path : Path) : Prop :=
  ∀ above ∈ ancestors path, fs.get above = none

theorem stat_of_noFileAbove (hget : fs.get path = none) (habove : NoFileAbove fs path) :
    stat access fs path = .directory ∨ stat access fs path = .notFound := by
  have hnone : ((ancestors path).filterMap fs.get).head? = none := by
    rw [head?_eq_none_iff, filterMap_eq_nil_iff]
    exact habove
  unfold stat
  rw [hget]
  dsimp only
  split_ifs
  · exact .inl rfl
  · rw [hnone]
    exact .inr rfl

theorem rejectLinkedAncestors_ok (h : ∀ above ∈ dirs, fs.get above = none ∧ NoFileAbove fs above) :
    rejectLinkedAncestors access fs dirs = .ok () := by
  induction dirs with
  | nil => rfl
  | cons above rest ih =>
    obtain ⟨hget, habove⟩ := h above mem_cons_self
    rw [rejectLinkedAncestors]
    rcases stat_of_noFileAbove hget habove with hstat | hstat
    · rw [hstat]
      exact ih fun a ha => h a (mem_cons_of_mem _ ha)
    · rw [hstat]

theorem rejectLinkedAncestors_of_noFileAbove (h : NoFileAbove fs path) :
    rejectLinkedAncestors access fs (ancestors path) = .ok () :=
  rejectLinkedAncestors_ok fun above habove =>
    ⟨h above habove, fun higher hhigher => h higher (ancestors_trans hhigher habove)⟩

theorem createDirAll_ok (h : ∀ dir ∈ dirs, fs.get dir = none) :
    createDirAll fs dirs = .ok { fs with dirs := fs.dirs ++ dirs } := by
  unfold createDirAll
  rw [if_neg]
  simp only [any_eq_true, not_exists, not_and, Bool.not_eq_true]
  intro dir hdir
  rw [h dir hdir]
  rfl

/-- The mode of a file that is overwritten, or of a new one. -/
def keptMode : Option File → Bool
  | some (.regular executable _) => executable
  | _ => false

/-- A write replaces a file, or goes through a link. -/
theorem writeFile_eq_ok :
    writeFile access fs path bytes = .ok after ↔ path ∉ fs.dirs ∧
      (((∀ target, fs.get path ≠ some (.symlink target)) ∧ after =
          ⟨insert path (.regular (keptMode (fs.get path)) bytes) fs.files, fs.dirs⟩) ∨
        ((∃ target, fs.get path = some (.symlink target)) ∧
          access.writeThrough fs path bytes = some after)) := by
  unfold writeFile
  split_ifs with hdir
  · simp [hdir]
  · cases hfile : fs.get path with
    | none => simp [hdir, keptMode, eq_comm]
    | some file =>
      cases file with
      | regular executable old => simp [hdir, keptMode, eq_comm]
      | symlink target => simp [hdir, require_eq_ok]

/-- A write to a path that is neither a directory nor a link. -/
theorem applyEntry_write (hrelative : isRelativePath path = true) (habove : NoFileAbove fs path)
    (hblob : BlobStore.get sha256 blobs digest byteCount = .ok bytes) (hdir : path ∉ fs.dirs)
    (hlink : ∀ target, fs.get path ≠ some (.symlink target)) :
    applyEntry access sha256 blobs fs (path, .write digest byteCount) =
      .ok ⟨insert path (.regular (keptMode (fs.get path)) bytes) fs.files,
        fs.dirs ++ ancestors path⟩ := by
  have hnew : path ∉ fs.dirs ++ ancestors path := by
    rw [mem_append, not_or]
    exact ⟨hdir, not_mem_ancestors_self⟩
  simp only [applyEntry, eq_ok]
  exact ⟨hrelative, rejectLinkedAncestors_of_noFileAbove habove, bytes, hblob, _,
    createDirAll_ok habove, writeFile_eq_ok.2 ⟨hnew, .inl ⟨hlink, rfl⟩⟩⟩

/-- The removal of a file. -/
theorem applyEntry_delete (hrelative : isRelativePath path = true) (habove : NoFileAbove fs path)
    (hget : fs.get path = some file) :
    applyEntry access sha256 blobs fs (path, .delete) =
      .ok { fs with files := erase fs.files path } := by
  simp only [applyEntry, eq_ok]
  refine ⟨hrelative, rejectLinkedAncestors_of_noFileAbove habove, ?_⟩
  rw [removeFile, stat_of_get hget]

/-! ## What no entry takes away -/

theorem writeFile_dirs (haccess : access.Lawful) (h : writeFile access fs path bytes = .ok after)
    (hdir : dir ∈ fs.dirs) : dir ∈ after.dirs := by
  obtain ⟨-, ⟨-, rfl⟩ | ⟨-, hthrough⟩⟩ := writeFile_eq_ok.1 h
  · exact hdir
  · exact haccess.keepsDirs hthrough hdir

theorem createDirAll_dirs (h : createDirAll fs dirs = .ok after) :
    after = { fs with dirs := fs.dirs ++ dirs } := by
  unfold createDirAll at h
  split_ifs at h
  cases h
  rfl

theorem removeFile_eq_ok (h : removeFile access fs path = .ok after) :
    after = fs ∨ after = { fs with files := erase fs.files path } := by
  unfold removeFile at h
  cases hstat : stat access fs path with
  | file file =>
    rw [hstat] at h
    cases h
    exact .inr rfl
  | notFound =>
    rw [hstat] at h
    cases h
    exact .inl rfl
  | directory =>
    rw [hstat] at h
    cases h
  | notADirectory =>
    rw [hstat] at h
    cases h

/-- What applying an entry did. -/
theorem applyEntry_cases (h : applyEntry access sha256 blobs fs entry = .ok after) :
    (entry.2 = .delete ∧ (after = fs ∨ after = { fs with files := erase fs.files entry.1 })) ∨
      ∃ digest byteCount bytes, entry.2 = .write digest byteCount ∧
        writeFile access { fs with dirs := fs.dirs ++ ancestors entry.1 } entry.1 bytes = .ok after := by
  simp only [applyEntry, eq_ok] at h
  obtain ⟨-, -, h⟩ := h
  obtain ⟨p, change⟩ := entry
  cases change with
  | delete => exact .inl ⟨rfl, removeFile_eq_ok h⟩
  | write digest byteCount =>
    simp only [bind_eq_ok] at h
    obtain ⟨bytes, -, created, hcreated, hwrite⟩ := h
    obtain rfl := createDirAll_dirs hcreated
    exact .inr ⟨digest, byteCount, bytes, rfl, hwrite⟩

section

variable (haccess : access.Lawful)
include haccess

/-- Directories stay, and none of them is written. -/
theorem applyEntry_dirs
    (h : applyEntry access sha256 blobs fs entry = .ok after) (hdir : dir ∈ fs.dirs) :
    dir ∈ after.dirs ∧ (entry.1 = dir → entry.2 = .delete) := by
  obtain ⟨hdelete, rfl | rfl⟩ | ⟨_, _, _, -, hwrite⟩ := applyEntry_cases h
  · exact ⟨hdir, fun _ => hdelete⟩
  · exact ⟨hdir, fun _ => hdelete⟩
  · have hstill : dir ∈ fs.dirs ++ ancestors entry.1 := mem_append_left _ hdir
    refine ⟨writeFile_dirs haccess hwrite hstill, fun hsame => ?_⟩
    exact absurd (hsame ▸ hstill) (writeFile_eq_ok.1 hwrite).1

theorem not_dir_of_applyEntries (h : applyEntries access sha256 blobs fs entries = .ok after)
    (hmem : (dir, SnapshotChange.write digest byteCount) ∈ entries) : dir ∉ fs.dirs := by
  intro hdir
  induction entries generalizing fs with
  | nil => cases hmem
  | cons entry rest ih =>
    rw [applyEntries, bind_eq_ok] at h
    obtain ⟨next, hnext, hrest⟩ := h
    obtain ⟨hstill, hdelete⟩ := applyEntry_dirs haccess hnext hdir
    rcases mem_cons.1 hmem with rfl | hmem
    · cases hdelete rfl
    · exact ih hrest hmem hstill

/-- A link that is not removed stays. -/
theorem applyEntry_link (h : applyEntry access sha256 blobs fs entry = .ok after)
    (hkept : entry.1 = path → entry.2 ≠ .delete) (hlink : fs.get path = some (.symlink target)) :
    after.get path = some (.symlink target) := by
  obtain ⟨hdelete, rfl | rfl⟩ | ⟨_, _, _, -, hwrite⟩ := applyEntry_cases h
  · exact hlink
  · have hne : path ≠ entry.1 := fun hsame => hkept hsame.symm hdelete
    exact (get_erase_of_ne hne _).trans hlink
  · obtain ⟨-, ⟨hfile, rfl⟩ | ⟨-, hthrough⟩⟩ := writeFile_eq_ok.1 hwrite
    · have hne : path ≠ entry.1 := fun hsame => hfile target (hsame ▸ hlink)
      exact (get_insert_of_ne hne _ _).trans hlink
    · exact haccess.keepsLinks hthrough hlink

theorem applyEntries_link (h : applyEntries access sha256 blobs fs entries = .ok after)
    (hkept : (path, SnapshotChange.delete) ∉ entries) (hlink : fs.get path = some (.symlink target)) :
    after.get path = some (.symlink target) := by
  induction entries generalizing fs with
  | nil =>
    cases h
    exact hlink
  | cons entry rest ih =>
    rw [applyEntries, bind_eq_ok] at h
    obtain ⟨next, hnext, hrest⟩ := h
    rw [mem_cons, not_or] at hkept
    refine ih hrest hkept.2 (applyEntry_link haccess hnext (fun hsame hdelete => ?_) hlink)
    exact hkept.1 (Prod.ext hsame.symm hdelete.symm)

end

theorem namedFiles_checkout (tree : Tree) : NamedFiles (checkout tree) := by
  refine ⟨fun {p} h => ?_⟩
  have hget : tree.get p ≠ none := h
  exact Tree.named_get hget

theorem namedFiles_insert (hfs : NamedFiles fs) (hpath : path ≠ [] ∧ '\x00' ∉ path) :
    NamedFiles ⟨insert path file fs.files, dirs⟩ := by
  refine ⟨fun {p} hp => ?_⟩
  by_cases hsame : p = path
  · rw [hsame]
    exact hpath
  · have hget : FileSystem.get ⟨insert path file fs.files, dirs⟩ p = fs.get p :=
      get_insert_of_ne hsame _ _
    rw [hget] at hp
    exact hfs.named hp

section

variable (haccess : access.Lawful) (hfs : NamedFiles fs)
include haccess hfs

theorem writeFile_named
    (hpath : path ≠ [] ∧ '\x00' ∉ path) (h : writeFile access fs path bytes = .ok after) :
    NamedFiles after := by
  obtain ⟨-, ⟨-, rfl⟩ | ⟨-, hthrough⟩⟩ := writeFile_eq_ok.1 h
  · exact namedFiles_insert hfs hpath
  · refine ⟨fun {p} hp => ?_⟩
    by_cases hnone : fs.get p = none
    · exact haccess.keepsNames hthrough hp hnone
    · exact hfs.named hnone

/-- An entry with a name leaves named files. -/
theorem applyEntry_named (hpath : entry.1 ≠ [] ∧ '\x00' ∉ entry.1)
    (h : applyEntry access sha256 blobs fs entry = .ok after) : NamedFiles after := by
  obtain ⟨-, rfl | rfl⟩ | ⟨_, _, _, -, hwrite⟩ := applyEntry_cases h
  · exact hfs
  · refine ⟨fun {q} hq => ?_⟩
    obtain ⟨file, hfile⟩ := Option.ne_none_iff_exists'.1 hq
    exact hfs.named (by simp [FileSystem.get, get_of_get_erase hfile])
  · have hcreated : NamedFiles { fs with dirs := fs.dirs ++ ancestors entry.1 } := ⟨hfs.named⟩
    exact writeFile_named haccess hcreated hpath hwrite

theorem applyEntries_named (hpaths : ∀ entry ∈ entries, entry.1 ≠ [] ∧ '\x00' ∉ entry.1)
    (h : applyEntries access sha256 blobs fs entries = .ok after) : NamedFiles after := by
  induction entries generalizing fs with
  | nil =>
    cases h
    exact hfs
  | cons entry rest ih =>
    rw [applyEntries, bind_eq_ok] at h
    obtain ⟨next, hnext, hrest⟩ := h
    have hnamed := applyEntry_named haccess hfs (hpaths entry mem_cons_self) hnext
    exact ih hnamed (fun e he => hpaths e (mem_cons_of_mem _ he)) hrest

end

/-! ## The whole manifest -/

/-- What a path holds after its entry was applied: the bytes of the work tree with the mode of the
base tree. -/
def overlaid (base work : Option File) : Option File :=
  match work with
  | some (.regular _ bytes) => some (.regular (keptMode base) bytes)
  | _ => none

@[simp]
theorem overlaid_none (base : Option File) : overlaid base none = none := rfl

/-- Entries that lead from a base tree to a work tree, and that can be applied. -/
structure Applicable (sha256 : Bytes → Sha256Digest) (blobs : BlobStore) (base : Tree)
    (work : WorkTree) (entries : List (Path × SnapshotChange)) : Prop where
  sorted : OrderedMap.Sorted entries
  relative : ∀ p ∈ OrderedMap.keys entries, isRelativePath p = true
  held : ∀ entry ∈ entries, entry.2 = heldChange sha256 work.toFileSystem entry.1
  /-- Every path that has another content is among the entries. -/
  covers : ∀ p, (work.get p).map File.content ≠ (base.get p).map File.content →
    p ∈ OrderedMap.keys entries
  /-- A path that was removed was in the base tree, and what was written is a regular file that
  does not replace a link. -/
  removed : ∀ p ∈ OrderedMap.keys entries, work.get p = none → base.get p ≠ none
  written : ∀ p ∈ OrderedMap.keys entries, ∀ file, work.get p = some file →
    ∃ executable bytes, file = .regular executable bytes ∧
      BlobStore.get sha256 blobs (sha256 bytes) bytes.length = .ok bytes ∧
      ∀ target, base.get p ≠ some (.symlink target)
  /-- No file stands where the base tree has a directory. -/
  noDirReplaced : ∀ p q, work.get p ≠ none → base.get q ≠ none → p ∉ ancestors q

/-- The state after the entries in `done`. -/
structure Overlay (base : Tree) (work : WorkTree) (done : List (Path × SnapshotChange))
    (fs : FileSystem) : Prop where
  get : ∀ p, fs.get p =
    if p ∈ OrderedMap.keys done then overlaid (base.get p) (work.get p) else base.get p
  dirs : ∀ dir ∈ fs.dirs, (∃ p, base.get p ≠ none ∧ dir ∈ ancestors p) ∨
    ∃ p, work.get p ≠ none ∧ dir ∈ ancestors p

theorem overlay_checkout (base : Tree) (work : WorkTree) :
    Overlay base work [] (checkout base) := by
  refine ⟨fun p => rfl, fun dir hdir => .inl ?_⟩
  obtain ⟨p, hp, hmem⟩ := mem_flatMap.1 hdir
  exact ⟨p, Option.isSome_iff_ne_none.1 (mem_keys_iff.1 hp), hmem⟩

theorem WorkTree.get_ancestor {work : WorkTree} (hpath : work.get path ≠ none)
    (habove : above ∈ ancestors path) : work.get above = none := by
  have hkey : path ∈ keys work.files :=
    mem_keys_iff.2 (Option.isSome_iff_ne_none.2 hpath)
  exact get_eq_none_iff.2 (work.apart above (work.closed path hkey above habove))

section

variable {base : Tree} {work : WorkTree} {done rest : List (Path × SnapshotChange)}
  {entry : Path × SnapshotChange}
  (happlicable : Applicable sha256 blobs base work (done ++ entry :: rest))
  (hoverlay : Overlay base work done fs)

theorem key_mem_next : entry.1 ∈ keys (done ++ entry :: rest) :=
  mem_map_of_mem (mem_append_right _ mem_cons_self)

include happlicable in
theorem next_not_done : entry.1 ∉ keys done := by
  intro hdone
  obtain ⟨earlier, hearlier, hkey⟩ := mem_map.1 hdone
  have hlt := (pairwise_append.1 happlicable.sorted).2.2 earlier hearlier entry
    mem_cons_self
  exact ne_of_compare_lt hlt hkey

include happlicable hoverlay

/-- Above the next path there is no file left. -/
theorem noFileAbove_next : NoFileAbove fs entry.1 := by
  intro above habove
  rw [hoverlay.get above]
  have hkey : entry.1 ∈ keys (done ++ entry :: rest) := key_mem_next
  by_cases hwork : work.get entry.1 = none
  · -- a removed path: its base tree has only directories above it
    have hbase := happlicable.removed entry.1 hkey hwork
    split_ifs
    · have hnone : work.get above = none := by
        by_contra hfile
        exact happlicable.noDirReplaced above entry.1 hfile hbase habove
      rw [hnone, overlaid_none]
    · exact Tree.get_ancestor hbase habove
  · -- a written path: a base file above it was removed earlier
    have hnone : work.get above = none := WorkTree.get_ancestor hwork habove
    split_ifs with hdone
    · rw [hnone, overlaid_none]
    · by_contra hfile
      have hcovered : above ∈ keys (done ++ entry :: rest) := by
        refine happlicable.covers above ?_
        rw [hnone]
        obtain ⟨file, hsome⟩ := Option.ne_none_iff_exists'.1 hfile
        simp [hsome]
      obtain ⟨other, hother, rfl⟩ := mem_map.1 hcovered
      rcases mem_append.1 hother with hearlier | hlater
      · exact hdone (mem_map_of_mem hearlier)
      · have hlt := compare_ancestor habove
        rcases mem_cons.1 hlater with rfl | hlater
        · exact ne_of_compare_lt hlt rfl
        · have hsorted := (pairwise_append.1 happlicable.sorted).2.1
          have hgt := (pairwise_cons.1 hsorted).1 other hlater
          exact ne_of_compare_lt (Std.TransCmp.lt_trans hlt hgt) rfl

/-- One entry after the ones that are done. -/
theorem applyEntry_overlay :
    ∃ next, applyEntry access sha256 blobs fs entry = .ok next ∧
      Overlay base work (done ++ [entry]) next := by
  have hkey : entry.1 ∈ keys (done ++ entry :: rest) := key_mem_next
  have hnotDone := next_not_done happlicable
  have habove := noFileAbove_next happlicable hoverlay
  have hrelative := happlicable.relative entry.1 hkey
  have hget : fs.get entry.1 = base.get entry.1 := by rw [hoverlay.get, if_neg hnotDone]
  have hheld := happlicable.held entry (mem_append_right _ mem_cons_self)
  have hkeys : ∀ p, p ∈ keys (done ++ [entry]) ↔ p ∈ keys done ∨ p = entry.1 := by
    intro p
    simp [OrderedMap.keys]
  obtain ⟨p, change⟩ := entry
  cases hwork : work.get p with
  | none =>
    obtain ⟨file, hfile⟩ := Option.ne_none_iff_exists'.1 (happlicable.removed p hkey hwork)
    have hchange : change = .delete := by
      rw [show change = heldChange sha256 work.toFileSystem p from hheld, heldChange, hwork]
    subst hchange
    refine ⟨_, applyEntry_delete hrelative habove (hget.trans hfile), fun q => ?_,
      hoverlay.dirs⟩
    by_cases hq : q = p
    · rw [if_pos ((hkeys q).2 (.inr hq)), hq, hwork]
      exact get_erase_self _ _
    · have hsame : q ∈ OrderedMap.keys (done ++ [(p, .delete)]) ↔ q ∈ OrderedMap.keys done := by
        simp [hkeys, hq]
      rw [show FileSystem.get { fs with files := erase fs.files p } q = fs.get q from
        get_erase_of_ne hq _, hoverlay.get q]
      simp only [hsame]
  | some file =>
    obtain ⟨_, bytes, rfl, hblob, hlink⟩ := happlicable.written p hkey file hwork
    have hchange : change = .write (sha256 bytes) bytes.length := by
      rw [show change = heldChange sha256 work.toFileSystem p from hheld, heldChange, hwork]
    subst hchange
    have hdir : p ∉ fs.dirs := by
      intro hdir
      rcases hoverlay.dirs p hdir with ⟨q, hbase, hmem⟩ | ⟨q, hfile, hmem⟩
      · exact happlicable.noDirReplaced p q (by simp [hwork]) hbase hmem
      · have hnone := WorkTree.get_ancestor hfile hmem
        rw [hwork] at hnone
        cases hnone
    have hnolink : ∀ target, fs.get p ≠ some (.symlink target) := fun target => by
      rw [hget]
      exact hlink target
    refine ⟨_, applyEntry_write hrelative habove hblob hdir hnolink, fun q => ?_, fun dir hmem => ?_⟩
    · by_cases hq : q = p
      · rw [if_pos ((hkeys q).2 (.inr hq)), hq, hwork, overlaid, ← hget]
        exact get_insert_self _ _ _
      · have hsame : q ∈ OrderedMap.keys (done ++ [(p, .write (sha256 bytes) bytes.length)]) ↔
            q ∈ keys done := by
          simp [hkeys, hq]
        have hother : FileSystem.get ⟨insert p (.regular (keptMode (fs.get p)) bytes)
            fs.files, fs.dirs ++ ancestors p⟩ q = fs.get q :=
          get_insert_of_ne hq _ _
        rw [hother, hoverlay.get q]
        simp only [hsame]
    · rcases mem_append.1 hmem with hold | hnew
      · exact hoverlay.dirs dir hold
      · exact .inr ⟨p, by simp [hwork], hnew⟩

end

/-- The entries can be applied one after the other. -/
theorem applyEntries_overlay {base : Tree} {work : WorkTree}
    {done rest : List (Path × SnapshotChange)}
    (happlicable : Applicable sha256 blobs base work (done ++ rest))
    (hoverlay : Overlay base work done fs) (access : FileAccess) :
    ∃ after, applyEntries access sha256 blobs fs rest = .ok after ∧
      Overlay base work (done ++ rest) after := by
  induction rest generalizing done fs with
  | nil => exact ⟨fs, rfl, by simpa using hoverlay⟩
  | cons entry rest ih =>
    obtain ⟨next, hnext, hdone⟩ := applyEntry_overlay happlicable hoverlay
    have hsplit : done ++ entry :: rest = done ++ [entry] ++ rest := by simp
    rw [hsplit] at happlicable ⊢
    obtain ⟨after, hafter, hall⟩ := ih happlicable hdone
    refine ⟨after, ?_, hall⟩
    rw [applyEntries, hnext]
    exact hafter

end Vibemux.Collector
