import Vibemux.Collector.Proofs.ManifestProofs
import Vibemux.Collector.Proofs.BlobProofs

/-!
# One collection

`AdmittedStatus` collects the conditions under which the changes of a work tree are admitted. A
collection that returns a manifest meets them, and a work tree that meets them is collected.
-/

namespace Vibemux.Collector

open Text SortDedup OrderedMap List Checked Option

variable {access : FileAccess} {sha256 : Bytes → Sha256Digest} {report : GitReport}
  {base index : Tree} {fs : FileSystem} {path : Path} {kind : ObservedChangeKind}
  {scope : CollectionScope} {limits : CandidateLimits} {entries : List (Path × ObservedChangeKind)}
  {file : File} {total : Nat} {entry : Path × ObservedChangeKind}

/-! ## One path -/

theorem stat_of_get (h : fs.get path = some file) :
    stat access fs path = .file file := by
  simp only [stat, h]

/-- A file that `stat` finds is there, or it lies behind a link. -/
theorem get_of_stat (h : stat access fs path = .file file) :
    fs.get path = some file ∨
      fs.get path = none ∧ ∃ above ∈ ancestors path, ∃ target,
        fs.get above = some (.symlink target) := by
  unfold stat at h
  cases hget : fs.get path with
  | some found =>
    rw [hget] at h
    cases h
    exact .inl rfl
  | none =>
    rw [hget] at h
    dsimp only at h
    split_ifs at h
    cases hhead : ((ancestors path).filterMap fs.get).head? with
    | none =>
      rw [hhead] at h
      cases h
    | some found =>
      rw [hhead] at h
      obtain ⟨above, habove, hfound⟩ := mem_filterMap.1 (mem_of_head? hhead)
      cases found with
      | regular executable bytes => cases h
      | symlink target => exact .inr ⟨rfl, above, habove, target, hfound⟩

theorem get_of_stat_notFound (h : stat access fs path = .notFound) : fs.get path = none := by
  cases hget : fs.get path with
  | none => rfl
  | some file =>
    rw [stat_of_get hget] at h
    cases h

/-- What an admitted observation says about the path. -/
theorem observe_admissible {policy : ScopePolicy} {one : Observation} {mode : Bool}
    (h : observe access sha256 fs path kind limits total = .ok one)
    (hadmissible : Admissible policy { one.change with modeChanged := mode }) :
    one.change.path = path ∧
      (one.change.kind = .deleted ∧ one.bytes = none ∧
          (kind = .deleted ∨ stat access fs path = .notFound) ∨
        kind ≠ .deleted ∧ one.change.kind = kind ∧ ∃ executable bytes,
          stat access fs path = .file (.regular executable bytes) ∧
          one.change.content = some ⟨sha256 bytes, bytes.length, true⟩ ∧ one.bytes = some bytes ∧
          isTextContent bytes = true ∧ bytes.length ≤ policy.maxFileBytes) := by
  unfold observe at h
  dsimp only at h
  by_cases hskip : kind = .deleted ∨ isRelativePath path = false
  · rw [if_pos hskip] at h
    cases h
    rcases hskip with hdeleted | hrelative
    · exact ⟨rfl, .inl ⟨hdeleted, rfl, .inl hdeleted⟩⟩
    · have hpath : isRelativePath path = true := hadmissible.relative
      rw [hrelative] at hpath
      cases hpath
  rw [if_neg hskip] at h
  have hkind : kind ≠ .deleted := fun hdeleted => hskip (.inl hdeleted)
  cases hstat : stat access fs path with
  | notFound =>
    rw [hstat] at h
    cases h
    exact ⟨rfl, .inl ⟨rfl, rfl, .inr rfl⟩⟩
  | notADirectory =>
    rw [hstat] at h
    cases h
  | directory =>
    rw [hstat] at h
    cases h
    cases hadmissible.regular
  | file file =>
    rw [hstat] at h
    cases file with
    | symlink target =>
      cases h
      cases hadmissible.regular
    | regular executable bytes =>
      dsimp only at h
      split_ifs at h with hlarge
      · cases h
        obtain ⟨content, hcontent, htext, -⟩ := hadmissible.content hkind
        cases hcontent
        cases htext
      · cases h
        obtain ⟨content, hcontent, htext, hsize⟩ := hadmissible.content hkind
        cases hcontent
        exact ⟨rfl, .inr ⟨hkind, rfl, executable, bytes, rfl, by rw [show isTextContent bytes = true from htext], rfl, htext, hsize⟩⟩

/-! ## The loop over the status -/

/-- The change that was recorded for a status entry. -/
def RecordedAs (access : FileAccess) (sha256 : Bytes → Sha256Digest) (fs : FileSystem)
    (limits : CandidateLimits) (modes : List Path) (entry : Path × ObservedChangeKind)
    (change : ObservedChange) : Prop :=
  ∃ total one, observe access sha256 fs entry.1 entry.2 limits total = .ok one ∧
    change = { one.change with modeChanged := modes.contains entry.1 }

/-- The loop records one change for each entry, and the bytes that it keeps were observed. -/
theorem observeAll_spec {modes : List Path} {observed result : Observed}
    (h : observeAll access sha256 fs limits modes total observed entries = .ok result) :
    ∃ changes, result.changes = observed.changes ++ changes ∧
      List.Forall₂ (RecordedAs access sha256 fs limits modes) entries changes ∧
      ∀ p bytes, OrderedMap.get result.contents p = some bytes →
        OrderedMap.get observed.contents p = some bytes ∨
          ∃ entry ∈ entries, entry.1 = p ∧ ∃ t one,
            observe access sha256 fs p entry.2 limits t = .ok one ∧ one.bytes = some bytes ∧
            { one.change with modeChanged := modes.contains p } ∈ changes := by
  induction entries generalizing total observed with
  | nil =>
    cases h
    exact ⟨[], by simp, .nil, fun p bytes hget => .inl hget⟩
  | cons entry rest ih =>
    obtain ⟨p, k⟩ := entry
    rw [observeAll, bind_eq_ok] at h
    obtain ⟨one, hone, hrest⟩ := h
    obtain ⟨changes, hchanges, hforall, hcontents⟩ := ih hrest
    refine ⟨{ one.change with modeChanged := modes.contains p } :: changes, by simp [hchanges],
      .cons ⟨total, one, hone, rfl⟩ hforall, fun q bytes hget => ?_⟩
    rcases hcontents q bytes hget with hkept | ⟨later, hlater, hpath, t, seen, hseen, hbytes, hmem⟩
    · cases hone' : one.bytes with
      | none =>
        rw [hone'] at hkept
        exact .inl hkept
      | some content =>
        rw [hone'] at hkept
        by_cases hq : q = p
        · subst hq
          rw [get_insert_self, some.injEq] at hkept
          subst hkept
          exact .inr ⟨(q, k), mem_cons_self, rfl, total, one, hone, hone',
            mem_cons_self⟩
        · rw [get_insert_of_ne hq] at hkept
          exact .inl hkept
    · exact .inr ⟨later, mem_cons_of_mem _ hlater, hpath, t, seen, hseen, hbytes,
        mem_cons_of_mem _ hmem⟩

/-! ## Admitted status entries -/

/-- The bytes a status entry adds to the total. -/
def entryBytes (fs : FileSystem) (entry : Path × ObservedChangeKind) : Nat :=
  if entry.2 = .deleted then 0
  else
    match fs.get entry.1 with
    | some (.regular _ bytes) => bytes.length
    | _ => 0

/-- The status entries of a work tree are within the scope. -/
structure AdmittedStatus (scope : CollectionScope) (base index : Tree) (fs : FileSystem)
    (entries : List (Path × ObservedChangeKind)) : Prop where
  nonempty : entries ≠ []
  few : entries.length ≤ scope.limits.maxFiles
  small : min (entries.map (entryBytes fs)).sum u64Max ≤ scope.limits.maxTotalBytes
  relative : ∀ entry ∈ entries, isRelativePath entry.1 = true
  place : ∀ entry ∈ entries, placeViolations scope.policy entry.1 = []
  mode : ∀ entry ∈ entries,
    modesDiffer (base.get entry.1) (diffedFile index fs entry.1) = false
  held : ∀ entry ∈ entries, entry.2 ≠ .deleted → ∀ file, fs.get entry.1 = some file →
    ∃ executable bytes, file = .regular executable bytes ∧ isTextContent bytes = true ∧
      bytes.length ≤ scope.limits.maxFileBytes

/-- A recorded change that agrees with what the work tree holds. -/
structure Faithful (sha256 : Bytes → Sha256Digest) (fs : FileSystem)
    (entry : Path × ObservedChangeKind) (change : ObservedChange) : Prop where
  path : change.path = entry.1
  relative : isRelativePath change.path = true
  recorded : snapshotChange change = some (statusChange sha256 fs entry)
  counted : changeBytes change = entryBytes fs entry

section

variable {changes : List ObservedChange} (h : List.Forall₂ (Faithful sha256 fs) entries changes)
include h

theorem foldl_insertChange (acc : List (Path × SnapshotChange)) : changes.foldl insertChange acc =
      entries.foldl (fun acc entry =>
        insert entry.1 (statusChange sha256 fs entry) acc) acc := by
  induction h generalizing acc with
  | nil => rfl
  | cons hhead _ ih =>
    rw [foldl_cons, foldl_cons, ih]
    congr 1
    rw [insertChange, if_pos hhead.relative, hhead.recorded]
    dsimp only
    rw [hhead.path]

theorem map_changeBytes : changes.map changeBytes = entries.map (entryBytes fs) := by
  induction h with
  | nil => rfl
  | cons hhead _ ih => rw [map_cons, map_cons, ih, hhead.counted]

end

/-! ## From a collection to its conditions -/

theorem forall₂_imp_mem {α β : Type} {R S : α → β → Prop} {l : List α} {m : List β}
    (h : List.Forall₂ R l m) (himp : ∀ a ∈ l, ∀ b ∈ m, R a b → S a b) : List.Forall₂ S l m := by
  induction h with
  | nil => exact .nil
  | cons hhead _ ih =>
    refine .cons (himp _ mem_cons_self _ mem_cons_self hhead) (ih ?_)
    exact fun a ha b hb => himp a (mem_cons_of_mem _ ha) b (mem_cons_of_mem _ hb)

theorem exists_of_forall₂ {α β : Type} {R : α → β → Prop} {l : List α} {m : List β}
    (h : List.Forall₂ R l m) {a : α} (ha : a ∈ l) : ∃ b ∈ m, R a b := by
  induction h with
  | nil => cases ha
  | cons hhead _ ih =>
    rcases mem_cons.1 ha with rfl | ha
    · exact ⟨_, mem_cons_self, hhead⟩
    · obtain ⟨b, hb, hR⟩ := ih ha
      exact ⟨b, mem_cons_of_mem _ hb, hR⟩

theorem mem_untrackedEntries (hfile : fs.get path ≠ none) (hindex : index.get path = none) :
    (path, .added) ∈ untrackedEntries report index fs := by
  refine mem_map.2 ⟨path, ?_, rfl⟩
  rw [mem_append, mem_filter, mem_filter, mem_untrackedPaths]
  cases report.ignored path <;> simp [hfile, hindex]

/-- An entry for a path that is not in the work tree, and not a deletion, is in the index. -/
theorem index_of_missing
    (hmem : entry ∈ statusEntries report base index fs)
    (hkind : entry.2 ≠ .deleted) (hmissing : fs.get entry.1 = none) :
    index.get entry.1 ≠ none := by
  rcases mem_append.1 hmem with htracked | huntracked
  · obtain ⟨p, -, rfl⟩ := mem_map.1 htracked
    intro hindex
    exact hkind (by simp only [hindex]; rfl)
  · obtain ⟨p, hp, rfl⟩ := mem_map.1 huntracked
    have huntrackedPath : p ∈ untrackedPaths index fs := by
      rcases mem_append.1 hp with h | h
      · exact mem_of_mem_filter h
      · exact mem_of_mem_filter h
    exact absurd hmissing (mem_untrackedPaths.1 huntrackedPath).1

/-- The directories above a path of the index are not in the index. -/
theorem Tree.get_ancestor {tree : Tree} {above : Path} (hpath : tree.get path ≠ none)
    (habove : above ∈ ancestors path) : tree.get above = none := by
  refine get_eq_none_iff.2 (tree.plain path ?_ above habove)
  exact mem_keys_iff.2 (isSome_iff_ne_none.2 hpath)

section

variable {modes : List Path} {changes : List ObservedChange}
  (hrecorded : List.Forall₂ (RecordedAs access sha256 fs scope.limits modes)
    (statusEntries report base index fs) changes)
  (hadmissible : ∀ change ∈ changes, Admissible scope.policy change)

include hrecorded hadmissible

/-- No admitted path lies behind a link: the link itself would have been refused. -/
theorem get_of_stat_admitted
    (hmem : entry ∈ statusEntries report base index fs)
    (hkind : entry.2 ≠ .deleted) (hstat : stat access fs entry.1 = .file file) :
    fs.get entry.1 = some file := by
  rcases get_of_stat hstat with hget | ⟨hmissing, above, habove, target, hlink⟩
  · exact hget
  · have hindex : index.get above = none :=
      Tree.get_ancestor (index_of_missing hmem hkind hmissing) habove
    have huntracked : (above, .added) ∈
        statusEntries report base index fs :=
      mem_append_right _ (mem_untrackedEntries (by simp [hlink]) hindex)
    obtain ⟨_, hchange, _, _, hone, rfl⟩ := exists_of_forall₂ hrecorded huntracked
    obtain ⟨-, hcases⟩ := observe_admissible hone (hadmissible _ hchange)
    have hstatLink : stat access fs above = .file (.symlink target) := stat_of_get hlink
    rcases hcases with ⟨-, -, hdeleted | hnone⟩ | ⟨-, -, _, _, hregular, -⟩
    · cases hdeleted
    · rw [hstatLink] at hnone
      cases hnone
    · rw [hstatLink] at hregular
      cases hregular

theorem faithful_of_recorded :
    List.Forall₂ (Faithful sha256 fs)
      (statusEntries report base index fs) changes := by
  refine forall₂_imp_mem hrecorded fun entry hentry change hchange hrecord => ?_
  obtain ⟨total, one, hone, rfl⟩ := hrecord
  have hadmitted := hadmissible _ hchange
  obtain ⟨hpath, hcases⟩ := observe_admissible hone hadmitted
  have hrelative := hadmitted.relative
  rcases hcases with ⟨hdeleted, -, hwhy⟩ | ⟨hkind, hsame, _, bytes, hstat, hcontent, -⟩
  · have hchange : statusChange sha256 fs entry = .delete ∧ entryBytes fs entry = 0 := by
      rcases hwhy with hkind | hnone
      · simp [statusChange, entryBytes, hkind]
      · simp [statusChange, entryBytes, heldChange, get_of_stat_notFound hnone]
    refine ⟨hpath, hrelative, ?_, ?_⟩
    · simp [snapshotChange, hdeleted, hchange.1]
    · simp [changeBytes, snapshotChange, hdeleted, hchange.2]
  · have hget := get_of_stat_admitted hrecorded hadmissible hentry hkind hstat
    have hwrite : snapshotChange { one.change with modeChanged := modes.contains entry.1 } =
        some (.write (sha256 bytes) bytes.length) := by
      simp only [snapshotChange, hcontent, hsame]
    refine ⟨hpath, hrelative, ?_, ?_⟩
    · rw [hwrite, statusChange, if_neg hkind, heldChange, hget]
    · rw [changeBytes, hwrite, if_pos hrelative, entryBytes, if_neg hkind, hget]

end

/-- What a collection that returned a manifest found. -/
theorem admitted_of_collect {workspace : Workspace} {blobs blobs' : BlobStore}
    {collection : Collection} {manifest : SnapshotManifest} (hfs : NamedFiles workspace.work)
    (h : collect access sha256 report workspace scope blobs = .ok (collection, blobs'))
    (hmanifest : collection.manifest = .ok manifest) :
    AdmittedStatus scope workspace.base workspace.index workspace.work
        (statusEntries report workspace.base workspace.index workspace.work) ∧
      manifest = ⟨snapshotSchemaVersion, workspace.baseCommit,
        statusManifest sha256 workspace.work
          (statusEntries report workspace.base workspace.index workspace.work)⟩ ∧
      ∃ contents texts,
        storeWrites sha256 contents [] blobs manifest.entries = .ok (texts, blobs') ∧
        ∀ p bytes, OrderedMap.get contents p = some bytes →
          ∃ executable, workspace.work.get p = some (.regular executable bytes) := by
  unfold collect at h
  by_cases hhead : workspace.head ≠ workspace.baseCommit
  · rw [if_pos hhead] at h
    cases h
    cases hmanifest
  obtain ⟨modes, hmodes, hmem⟩ := parseModeChanges_gitRawDiff report workspace.base workspace.index
    workspace.work
  simp only [if_neg hhead, parseStatus_gitStatus hfs, hmodes, bind_eq_ok,
    Except.ok.injEq, exists_eq_left'] at h
  obtain ⟨observed, hobserved, h⟩ := h
  cases hbuild : buildManifest workspace.baseCommit observed.changes scope.policy with
  | error violations =>
    rw [hbuild] at h
    cases h
    cases hmanifest
  | ok built =>
    rw [hbuild] at h
    simp only [eq_ok] at h
    obtain ⟨_, _, hstored, rfl, rfl⟩ := h
    cases hmanifest
    obtain ⟨changes, hchanges, hrecorded, hcontents⟩ := observeAll_spec hobserved
    simp only [nil_append] at hchanges
    obtain ⟨⟨hnonempty, hfew, hadmissible, hsmall⟩, hbuilt⟩ := buildManifest_eq_ok.1 hbuild
    rw [hchanges] at hnonempty hfew hadmissible hsmall hbuilt
    have hfaithful := faithful_of_recorded hrecorded hadmissible
    rw [map_changeBytes hfaithful, foldl_saturatingAdd _ (Nat.zero_le _), Nat.zero_add] at hsmall
    have hlength := hrecorded.length_eq
    refine ⟨⟨?_, ?_, hsmall, ?_, ?_, ?_, ?_⟩, ?_, observed.contents, _, hstored, ?_⟩
    · intro hnil
      rw [hnil] at hlength
      exact hnonempty (eq_nil_of_length_eq_zero hlength.symm)
    · rw [hlength]
      exact hfew
    · intro entry hentry
      obtain ⟨change, hchange, hfaith⟩ := exists_of_forall₂ hfaithful hentry
      rw [← hfaith.path]
      exact (hadmissible change hchange).relative
    · intro entry hentry
      obtain ⟨change, hchange, hfaith⟩ := exists_of_forall₂ hfaithful hentry
      rw [← hfaith.path]
      exact (hadmissible change hchange).place
    · intro entry hentry
      obtain ⟨change, hchange, total, one, hone, rfl⟩ := exists_of_forall₂ hrecorded hentry
      have hmode : modes.contains entry.1 = false := (hadmissible _ hchange).mode
      by_contra hdiffer
      have hin : entry.1 ∈ modes := (hmem entry.1).2 (by simpa using hdiffer)
      rw [contains_iff_mem.2 hin] at hmode
      cases hmode
    · intro entry hentry hkind file hfile
      obtain ⟨_, hchange, total, one, hone, rfl⟩ := exists_of_forall₂ hrecorded hentry
      obtain ⟨-, hcases⟩ := observe_admissible hone (hadmissible _ hchange)
      have hstat : stat access workspace.work entry.1 = .file file := stat_of_get hfile
      rcases hcases with ⟨-, -, hdeleted | hnone⟩ |
        ⟨-, -, executable, bytes, hregular, -, -, htext, hsize⟩
      · exact absurd hdeleted hkind
      · rw [hstat] at hnone
        cases hnone
      · rw [hstat] at hregular
        cases hregular
        exact ⟨executable, bytes, rfl, htext, hsize⟩
    · rw [hbuilt, foldl_insertChange hfaithful]
      rfl
    · intro p bytes hget
      rcases hcontents p bytes hget with hnone | ⟨_, hentry, rfl, _, _, hone, hbytes, hin⟩
      · cases hnone
      · obtain ⟨-, hcases⟩ := observe_admissible hone (hadmissible _ hin)
        rcases hcases with ⟨-, hnone, -⟩ | ⟨hkind, -, executable, _, hstat, -, hfound, -⟩
        · rw [hbytes] at hnone
          cases hnone
        · rw [hbytes, some.injEq] at hfound
          subst hfound
          exact ⟨executable, get_of_stat_admitted hrecorded hadmissible hentry hkind hstat⟩

/-! ## From the conditions to a collection -/

/-- The change that is recorded for an entry whose file is read. -/
def recordedChange (sha256 : Bytes → Sha256Digest) (fs : FileSystem) (modes : List Path)
    (entry : Path × ObservedChangeKind) : ObservedChange :=
  ⟨entry.1, entry.2, .regular, modes.contains entry.1,
    if entry.2 = .deleted then none
    else
      match fs.get entry.1 with
      | some (.regular _ bytes) => some ⟨sha256 bytes, bytes.length, isTextContent bytes⟩
      | _ => none⟩

/-- An entry that can be read: a deletion, or a regular file within its bound. -/
def Readable (fs : FileSystem) (limits : CandidateLimits)
    (entry : Path × ObservedChangeKind) : Prop :=
  isRelativePath entry.1 = true ∧ (entry.2 ≠ .deleted → ∃ executable bytes,
    fs.get entry.1 = some (.regular executable bytes) ∧ isTextContent bytes = true ∧
      bytes.length ≤ limits.maxFileBytes)

/-- The bytes that were kept are those of the work tree. -/
def HeldContents (fs : FileSystem) (contents : List (Path × Bytes)) : Prop :=
  ∀ p bytes, OrderedMap.get contents p = some bytes →
    ∃ executable, fs.get p = some (.regular executable bytes)

theorem heldContents_insert {contents : List (Path × Bytes)} {executable : Bool} {bytes : Bytes}
    (h : HeldContents fs contents) (hget : fs.get path = some (.regular executable bytes)) :
    HeldContents fs (insert path bytes contents) := by
  intro p found hfound
  by_cases hp : p = path
  · rw [hp, get_insert_self, some.injEq] at hfound
    subst hfound
    rw [hp]
    exact ⟨executable, hget⟩
  · rw [get_insert_of_ne hp] at hfound
    exact h p found hfound

theorem le_foldl_saturatingAdd (counts : List Nat) (htotal : total ≤ u64Max) :
    total ≤ counts.foldl saturatingAdd total := by
  rw [foldl_saturatingAdd counts htotal]
  exact Nat.le_min.2 ⟨Nat.le_add_right _ _, htotal⟩

theorem observeAll_ok (access : FileAccess) (sha256 : Bytes → Sha256Digest) (modes : List Path)
    (observed : Observed) (htotal : total ≤ u64Max)
    (hreadable : ∀ entry ∈ entries, Readable fs limits entry)
    (hsmall : (entries.map (entryBytes fs)).foldl saturatingAdd total ≤ limits.maxTotalBytes)
    (hheld : HeldContents fs observed.contents) :
    ∃ contents, observeAll access sha256 fs limits modes total observed entries =
        .ok ⟨observed.changes ++ entries.map (recordedChange sha256 fs modes), contents⟩ ∧
      HeldContents fs contents ∧
      (∀ p ∈ keys observed.contents, p ∈ keys contents) ∧
      ∀ entry ∈ entries, entry.2 ≠ .deleted → entry.1 ∈ keys contents := by
  induction entries generalizing total observed with
  | nil => exact ⟨observed.contents, by simp [observeAll], hheld, fun _ h => h, nofun⟩
  | cons entry rest ih =>
    obtain ⟨p, k⟩ := entry
    obtain ⟨hrelative, hfile⟩ := hreadable (p, k) mem_cons_self
    have hrest : ∀ entry ∈ rest, Readable fs limits entry := fun entry hentry =>
      hreadable entry (mem_cons_of_mem _ hentry)
    rw [map_cons, foldl_cons] at hsmall
    by_cases hkind : k = .deleted
    · subst hkind
      have hone : observe access sha256 fs p .deleted limits total =
          .ok ⟨⟨p, .deleted, .regular, false, none⟩, none, total⟩ := by simp [observe]
      have hbytes : saturatingAdd total (entryBytes fs (p, .deleted)) = total := by
        simp [entryBytes, saturatingAdd, htotal]
      rw [hbytes] at hsmall
      obtain ⟨contents, hok, hcontents, hkeeps, hkeys⟩ := ih
        ⟨observed.changes ++ [⟨p, .deleted, .regular, modes.contains p, none⟩],
          observed.contents⟩ htotal hrest hsmall hheld
      refine ⟨contents, ?_, hcontents, hkeeps, ?_⟩
      · rw [observeAll, hone]
        refine hok.trans ?_
        simp [recordedChange]
      · rintro entry (_ | ⟨_, hentry⟩) hdeleted
        · exact absurd rfl hdeleted
        · exact hkeys entry hentry hdeleted
    · obtain ⟨_, bytes, hget, _, _⟩ := hfile hkind
      have hbytes : entryBytes fs (p, k) = bytes.length := by simp [entryBytes, hkind, hget]
      rw [hbytes] at hsmall
      have hnext : saturatingAdd total bytes.length ≤ u64Max := Nat.min_le_right _ _
      have hfits : saturatingAdd total bytes.length ≤ limits.maxTotalBytes :=
        Nat.le_trans (le_foldl_saturatingAdd _ hnext) hsmall
      have hone : observe access sha256 fs p k limits total =
          .ok ⟨⟨p, k, .regular, false, some ⟨sha256 bytes, bytes.length, isTextContent bytes⟩⟩,
            some bytes, saturatingAdd total bytes.length⟩ := by
        simp only [observe, hkind, hrelative, stat_of_get hget, false_or, Bool.true_eq_false,
          if_false]
        rw [if_neg (by omega)]
      obtain ⟨contents, hok, hcontents, hkeeps, hkeys⟩ := ih
        ⟨observed.changes ++ [⟨p, k, .regular, modes.contains p,
          some ⟨sha256 bytes, bytes.length, isTextContent bytes⟩⟩],
          insert p bytes observed.contents⟩ hnext hrest hsmall
        (heldContents_insert hheld hget)
      refine ⟨contents, ?_, hcontents, fun q hq => hkeeps q (mem_keys_insert.2 (.inr hq)),
        ?_⟩
      · rw [observeAll, hone]
        refine hok.trans ?_
        simp [recordedChange, hkind, hget]
      · rintro entry (_ | ⟨_, hentry⟩) hdeleted
        · exact hkeeps p (mem_keys_insert.2 (.inl rfl))
        · exact hkeys entry hentry hdeleted

theorem faithful_recordedChange {modes : List Path} (h : Readable fs limits entry) :
    Faithful sha256 fs entry (recordedChange sha256 fs modes entry) := by
  obtain ⟨hrelative, hfile⟩ := h
  by_cases hkind : entry.2 = .deleted
  · refine ⟨rfl, hrelative, ?_, ?_⟩
    · simp [snapshotChange, recordedChange, statusChange, hkind]
    · simp [changeBytes, snapshotChange, recordedChange, entryBytes, hkind]
  · obtain ⟨executable, bytes, hget, -⟩ := hfile hkind
    have hwrite : snapshotChange (recordedChange sha256 fs modes entry) =
        some (.write (sha256 bytes) bytes.length) := by
      simp only [snapshotChange, recordedChange, hkind, hget, if_false]
    refine ⟨rfl, hrelative, ?_, ?_⟩
    · rw [hwrite, statusChange, if_neg hkind, heldChange, hget]
    · rw [changeBytes, hwrite, if_pos (show isRelativePath (recordedChange sha256 fs modes
        entry).path = true from hrelative), entryBytes, if_neg hkind, hget]

/-- A reported file of the work tree has an entry that is not a deletion. -/
theorem exists_entry_of_file (report : GitReport) (hfile : fs.get path ≠ none)
    (hreported : ¬ (index.get path = base.get path ∧ fs.get path = base.get path)) :
    ∃ kind, kind ≠ .deleted ∧
      (path, kind) ∈ statusEntries report base index fs := by
  cases hindex : index.get path with
  | none =>
    exact ⟨.added, by decide, mem_append_right _ (mem_untrackedEntries hfile hindex)⟩
  | some i =>
    refine ⟨trackedKind (base.get path) (index.get path) (fs.get path), ?_,
      mem_append_left _ (mem_map.2 ⟨path, mem_filter.2 ⟨?_, ?_⟩, rfl⟩)⟩
    · obtain ⟨w, hw⟩ := ne_none_iff_exists'.1 hfile
      rw [hindex, hw]
      cases base.get path <;> simp [trackedKind]
    · exact mem_trackedPaths.2 (.inr (by simp [hindex]))
    · exact decide_eq_true hreported

/-- A work tree whose status is within the scope is collected. -/
theorem collect_of_admitted (access : FileAccess) (sha256 : Bytes → Sha256Digest)
    (workspace : Workspace) (hfs : NamedFiles workspace.work)
    (hhead : workspace.head = workspace.baseCommit)
    (hadmitted : AdmittedStatus scope workspace.base workspace.index workspace.work
      (statusEntries report workspace.base workspace.index workspace.work))
    (hfound : ∀ entry ∈ statusEntries report workspace.base workspace.index workspace.work,
      entry.2 ≠ .deleted → workspace.work.get entry.1 ≠ none) (blobs : BlobStore) :
    ∃ collection blobs',
      collect access sha256 report workspace scope blobs = .ok (collection, blobs') ∧
      collection.manifest = .ok ⟨snapshotSchemaVersion, workspace.baseCommit,
        statusManifest sha256 workspace.work
          (statusEntries report workspace.base workspace.index workspace.work)⟩ := by
  obtain ⟨modes, hmodes, hmem⟩ := parseModeChanges_gitRawDiff report workspace.base workspace.index
    workspace.work
  have hstatus : parseStatus (gitStatus report workspace.base workspace.index workspace.work) =
      .ok (statusEntries report workspace.base workspace.index workspace.work) := parseStatus_gitStatus hfs
  generalize hentries : statusEntries report workspace.base workspace.index workspace.work = entries at *
  have hreadable : ∀ entry ∈ entries, Readable workspace.work scope.limits entry := by
    refine fun entry hentry => ⟨hadmitted.relative entry hentry, fun hkind => ?_⟩
    obtain ⟨file, hfile⟩ := ne_none_iff_exists'.1 (hfound entry hentry hkind)
    obtain ⟨executable, bytes, rfl, htext, hsize⟩ :=
      hadmitted.held entry hentry hkind file hfile
    exact ⟨executable, bytes, hfile, htext, hsize⟩
  have hsum : (entries.map (entryBytes workspace.work)).foldl saturatingAdd 0 ≤
      scope.limits.maxTotalBytes := by
    rw [foldl_saturatingAdd _ (Nat.zero_le _), Nat.zero_add]
    exact hadmitted.small
  obtain ⟨contents, hobserved, hcontents, -, hkeys⟩ := observeAll_ok access sha256
    modes ⟨[], []⟩ (Nat.zero_le _) hreadable hsum nofun
  have hfaithful : List.Forall₂ (Faithful sha256 workspace.work) entries
      (entries.map (recordedChange sha256 workspace.work modes)) := by
    rw [forall₂_map_right_iff, forall₂_same]
    exact fun entry hentry => faithful_recordedChange (hreadable entry hentry)
  have hbuild : buildManifest workspace.baseCommit
      ([] ++ entries.map (recordedChange sha256 workspace.work modes)) scope.policy =
        .ok ⟨snapshotSchemaVersion, workspace.baseCommit,
          statusManifest sha256 workspace.work entries⟩ := by
    rw [nil_append, buildManifest_eq_ok, foldl_insertChange hfaithful,
      map_changeBytes hfaithful]
    refine ⟨⟨by simpa using hadmitted.nonempty, ?_, ?_, hsum⟩, rfl⟩
    · rw [length_map]
      exact hadmitted.few
    intro change hchange
    obtain ⟨entry, hentry, rfl⟩ := mem_map.1 hchange
    refine ⟨hadmitted.relative entry hentry, hadmitted.place entry hentry, rfl, ?_, ?_⟩
    · have hmode := hadmitted.mode entry hentry
      by_contra hdiffer
      have hin : entry.1 ∈ modes := contains_iff_mem.1 (by simpa [recordedChange] using hdiffer)
      rw [(hmem entry.1).1 hin] at hmode
      cases hmode
    · intro hkind
      obtain ⟨executable, bytes, hget, htext, hsize⟩ := (hreadable entry hentry).2 hkind
      have hdeleted : entry.2 ≠ .deleted := hkind
      exact ⟨⟨sha256 bytes, bytes.length, isTextContent bytes⟩, by
        simp [recordedChange, hdeleted, hget], htext, hsize⟩
  have hwrites : ∀ p digest byteCount, (p, SnapshotChange.write digest byteCount) ∈
      statusManifest sha256 workspace.work entries →
        ∃ bytes, get contents p = some bytes ∧ sha256 bytes = digest ∧
          (ByteArray.mk bytes.toArray).validateUTF8 = true := by
    intro p digest byteCount hwrite
    have hget := (get_eq_some_iff (sorted_statusManifest entries)).2 hwrite
    rw [← hentries, get_statusManifest] at hget
    split_ifs at hget with hsame
    have hheld : heldChange sha256 workspace.work p = .write digest byteCount := by
      simpa using hget
    unfold heldChange at hheld
    cases hfile : workspace.work.get p with
    | none => simp [hfile] at hheld
    | some file =>
      obtain ⟨kind, hkind, hentry⟩ := exists_entry_of_file report
        (by simp [hfile]) hsame
      rw [hentries] at hentry
      obtain ⟨executable, bytes, hregular, htext, -⟩ := (hreadable _ hentry).2 hkind
      have hsome := mem_keys_iff.1 (hkeys _ hentry hkind)
      obtain ⟨kept, hkept⟩ := isSome_iff_exists.1 hsome
      obtain ⟨mode, hkeptFile⟩ := hcontents p kept hkept
      rw [hregular] at hkeptFile
      cases hkeptFile
      rw [hregular] at hheld
      cases hheld
      refine ⟨bytes, hkept, rfl, ?_⟩
      unfold isTextContent at htext
      rw [Bool.and_eq_true] at htext
      exact htext.1
  obtain ⟨stored, hstored⟩ := storeWrites_ok [] blobs
    (sorted_statusManifest entries) hwrites
  refine ⟨⟨.ok _, stored.1⟩, stored.2, ?_, rfl⟩
  unfold collect
  rw [if_neg (by simp [hhead]), hstatus, hmodes]
  simp only [bind_eq_ok, Except.ok.injEq, exists_eq_left', hobserved, hbuild]
  exact ⟨stored, hstored, rfl⟩

end Vibemux.Collector
