import Vibemux.Collector.Collector

/-!
# Reading back Git's reports

The parsers return what Git rendered: the changed tracked paths, the untracked ones, and the tracked
files whose mode differs from the base tree.
-/

namespace Vibemux.Collector

open Text SortDedup OrderedMap Option

variable {report : GitReport} {base index : Tree} {work : WorkTree} {path : Path}
  {b i w : Option File} {fs : FileSystem}

/-! ## Records between NULs -/

theorem fieldsOf_flatMap {records : List (List Char)}
    (h : ∀ record ∈ records, record ≠ [] ∧ '\x00' ∉ record) :
    fieldsOf (records.flatMap (· ++ ['\x00'])) = records := by
  induction records with
  | nil => rfl
  | cons record rest ih =>
    obtain ⟨hne, hnul⟩ := h record List.mem_cons_self
    have htail := ih fun r hr => h r (List.mem_cons_of_mem _ hr)
    rw [fieldsOf] at htail ⊢
    rw [List.flatMap_cons, List.append_assoc, List.singleton_append, splitOn_append hnul,
      List.filter_cons, if_pos (by simpa using hne), htail]

/-! ## The letters -/

theorem changeLetter_eq_blank {before after : File} :
    changeLetter before after = ' ' ↔ before = after := by
  unfold changeLetter
  split_ifs with h
  · simp [h]
  · cases before <;> cases after <;> simp [h]

theorem changeLetter_cases (before after : File) :
    changeLetter before after = ' ' ∨ changeLetter before after = 'M' ∨
      changeLetter before after = 'T' := by
  unfold changeLetter
  split_ifs
  · exact .inl rfl
  · cases before <;> cases after <;> simp

/-- The kind of a tracked change, from the three versions of the file. -/
def trackedKind : Option File → Option File → Option File → ObservedChangeKind
  | _, none, _ => .deleted
  | none, some _, _ => .added
  | some _, some _, none => .deleted
  | some _, some _, some _ => .modified

/-- Whether the status is silent about a tracked path. -/
theorem letters_blank_iff (htracked : b ≠ none ∨ i ≠ none) :
    indexLetter b i = ' ' ∧ treeLetter i w = ' ' ↔ i = b ∧ w = b := by
  cases b with
  | none =>
    cases i with
    | none => simp at htracked
    | some i => simp [indexLetter]
  | some b =>
    cases i with
    | none => simp [indexLetter]
    | some i =>
      cases w with
      | none => simp [treeLetter]
      | some w =>
        simp only [indexLetter, treeLetter, changeLetter_eq_blank, some.injEq]
        constructor
        · rintro ⟨rfl, rfl⟩
          exact ⟨rfl, rfl⟩
        · rintro ⟨rfl, rfl⟩
          exact ⟨rfl, rfl⟩

theorem changeKind_tracked (htracked : b ≠ none ∨ i ≠ none) :
    changeKind [indexLetter b i, treeLetter i w] = trackedKind b i w := by
  cases b with
  | none =>
    cases i with
    | none => simp at htracked
    | some i => rfl
  | some b =>
    cases i with
    | none => rfl
    | some i =>
      have hindex := changeLetter_cases b i
      cases w with
      | none =>
        simp only [indexLetter, treeLetter, trackedKind]
        rcases hindex with h | h | h <;> rw [h] <;> rfl
      | some w =>
        have htree := changeLetter_cases i w
        simp only [indexLetter, treeLetter, trackedKind]
        rcases hindex with h | h | h <;> rcases htree with h' | h' | h' <;> rw [h, h'] <;> rfl

theorem letter_plain :
    (indexLetter b i).utf8Size = 1 ∧ (treeLetter i w).utf8Size = 1 ∧
      indexLetter b i ≠ '\x00' ∧ treeLetter i w ≠ '\x00' := by
  have hletter : ∀ before after : File, (changeLetter before after).utf8Size = 1 ∧
      changeLetter before after ≠ '\x00' := by
    intro before after
    rcases changeLetter_cases before after with h | h | h <;> rw [h] <;> decide
  cases b <;> cases i <;> cases w <;> simp [indexLetter, treeLetter, hletter] <;> decide

/-! ## The paths -/

theorem mem_trackedPaths :
    path ∈ trackedPaths base index ↔ base.get path ≠ none ∨ index.get path ≠ none := by
  simp only [trackedPaths, mem_sortDedup, List.mem_append, mem_keys_iff, Tree.get,
    isSome_iff_ne_none]

theorem mem_untrackedPaths :
    path ∈ untrackedPaths index fs ↔ fs.get path ≠ none ∧ index.get path = none := by
  simp only [untrackedPaths, mem_sortDedup, List.mem_filter, mem_keys_iff,
    FileSystem.get, isSome_iff_ne_none, isNone_iff_eq_none]

/-- The names of the files that Git reports about. -/
structure NamedFiles (fs : FileSystem) : Prop where
  named : ∀ {path}, fs.get path ≠ none → path ≠ [] ∧ '\x00' ∉ path

theorem Tree.named_get {tree : Tree} (h : tree.get path ≠ none) : path ≠ [] ∧ '\x00' ∉ path :=
  tree.named path (mem_keys_iff.2 (isSome_iff_ne_none.2 h))

theorem WorkTree.namedFiles (work : WorkTree) : NamedFiles work.toFileSystem :=
  ⟨fun h => work.named _ (mem_keys_iff.2 (isSome_iff_ne_none.2 h))⟩

/-! ## The status -/

section

variable (report base index)

/-- The entries of the changed tracked paths. -/
def trackedEntries (fs : FileSystem) : List (Path × ObservedChangeKind) :=
  ((trackedPaths base index).filter fun path =>
    decide (¬ (index.get path = base.get path ∧ fs.get path = base.get path))).map
    fun path => (path, trackedKind (base.get path) (index.get path) (fs.get path))

/-- The entries of the untracked files, the ignored ones last. -/
def untrackedEntries (fs : FileSystem) : List (Path × ObservedChangeKind) :=
  ((untrackedPaths index fs).filter (!report.ignored ·) ++
    (untrackedPaths index fs).filter (report.ignored ·)).map fun path => (path, .added)

end

/-- The entries of a status, in its order. -/
abbrev statusEntries (report : GitReport) (base index : Tree) (fs : FileSystem) :
    List (Path × ObservedChangeKind) :=
  trackedEntries base index fs ++ untrackedEntries report index fs

theorem parseRecord_text {record : StatusRecord} (hindex : record.index.utf8Size = 1)
    (htree : record.tree.utf8Size = 1) (hpath : record.path ≠ []) :
    parseRecord record.text = .ok (record.path, changeKind [record.index, record.tree]) := by
  have hsplit : splitAt 2 record.text = some ([record.index, record.tree], ' ' :: record.path) := by
    have h := splitAt_append [record.index, record.tree] (' ' :: record.path)
    simpa [hindex, htree, StatusRecord.text] using h
  rw [parseRecord, hsplit]
  exact if_neg hpath

theorem parseRecords_text {records : List StatusRecord}
    (h : ∀ record ∈ records, record.index.utf8Size = 1 ∧ record.tree.utf8Size = 1 ∧
      record.path ≠ []) :
    parseRecords (records.map StatusRecord.text) =
      .ok (records.map fun record => (record.path, changeKind [record.index, record.tree])) := by
  induction records with
  | nil => rfl
  | cons record rest ih =>
    obtain ⟨hindex, htree, hpath⟩ := h record List.mem_cons_self
    rw [List.map_cons, parseRecords, parseRecord_text hindex htree hpath,
      ih fun r hr => h r (List.mem_cons_of_mem _ hr)]
    rfl

/-- Every record of the status can be read back. -/
theorem statusRecord_plain (hfs : NamedFiles fs) {record : StatusRecord}
    (h : record ∈ statusRecords report base index fs) :
    (record.index.utf8Size = 1 ∧ record.tree.utf8Size = 1 ∧ record.path ≠ []) ∧
      '\x00' ∉ record.text := by
  simp only [statusRecords, List.mem_append, List.mem_filter, List.mem_map] at h
  have huntracked : ∀ p ∈ untrackedPaths index fs, p ≠ [] ∧ '\x00' ∉ p := fun p hp =>
    hfs.named (mem_untrackedPaths.1 hp).1
  rcases h with (⟨⟨p, hp, rfl⟩, -⟩ | ⟨p, ⟨hp, -⟩, rfl⟩) | ⟨p, ⟨hp, -⟩, rfl⟩
  · obtain ⟨hindex, htree, hnul, hnul'⟩ := letter_plain (b := base.get p) (i := index.get p)
      (w := fs.get p)
    have hname : p ≠ [] ∧ '\x00' ∉ p := by
      rcases mem_trackedPaths.1 hp with h | h
      · exact Tree.named_get h
      · exact Tree.named_get h
    exact ⟨⟨hindex, htree, hname.1⟩, by
      simp [StatusRecord.text, trackedRecord, hname.2, hnul.symm, hnul'.symm]⟩
  · obtain ⟨hne, hnul⟩ := huntracked p hp
    exact ⟨⟨rfl, rfl, hne⟩, by simp [StatusRecord.text, hnul]⟩
  · obtain ⟨hne, hnul⟩ := huntracked p hp
    exact ⟨⟨rfl, rfl, hne⟩, by simp [StatusRecord.text, hnul]⟩

theorem statusRecords_entries (fs : FileSystem) :
    (statusRecords report base index fs).map
        (fun record => (record.path, changeKind [record.index, record.tree])) =
      statusEntries report base index fs := by
  have htracked : ∀ paths : List Path, (∀ p ∈ paths, p ∈ trackedPaths base index) →
      ((paths.map (trackedRecord base index fs)).filter
          (fun record => record.index != ' ' || record.tree != ' ')).map
          (fun record => (record.path, changeKind [record.index, record.tree])) =
        (paths.filter fun p => decide (¬ (index.get p = base.get p ∧ fs.get p = base.get p))).map
          fun p => (p, trackedKind (base.get p) (index.get p) (fs.get p)) := by
    intro paths hpaths
    rw [List.filter_map, List.map_map]
    have hfilter : ∀ p ∈ paths, ((fun record : StatusRecord =>
        record.index != ' ' || record.tree != ' ') ∘ trackedRecord base index fs) p =
          decide (¬ (index.get p = base.get p ∧ fs.get p = base.get p)) := by
      intro p hp
      have hblank := letters_blank_iff (w := fs.get p) (mem_trackedPaths.1 (hpaths p hp))
      rw [Bool.eq_iff_iff]
      simp only [Function.comp, trackedRecord, Bool.or_eq_true, bne_iff_ne, decide_eq_true_eq,
        ne_eq, ← hblank, not_and_or]
    rw [List.filter_congr hfilter]
    refine List.map_congr_left fun p hp => ?_
    have htracked := mem_trackedPaths.1 (hpaths p (List.mem_of_mem_filter hp))
    simp only [Function.comp, trackedRecord, changeKind_tracked htracked]
  unfold statusRecords statusEntries trackedEntries untrackedEntries
  rw [List.map_append, List.map_append, htracked _ fun _ hp => hp, List.map_map, List.map_map,
    List.map_append, List.append_assoc]
  rfl

/-- The parsed status is the tracked entries followed by the untracked ones. -/
theorem parseStatus_gitStatus (hfs : NamedFiles fs) :
    parseStatus (gitStatus report base index fs) =
      .ok (statusEntries report base index fs) := by
  have htext : gitStatus report base index fs =
      ((statusRecords report base index fs).map StatusRecord.text).flatMap (· ++ ['\x00']) := by
    rw [gitStatus, List.flatMap_map]
  rw [parseStatus, htext, fieldsOf_flatMap, parseRecords_text, statusRecords_entries]
  · exact fun record h => (statusRecord_plain hfs h).1
  · intro text htext
    obtain ⟨record, hrecord, rfl⟩ := List.mem_map.1 htext
    exact ⟨by simp [StatusRecord.text], (statusRecord_plain hfs hrecord).2⟩

/-! ## The raw diff -/

/-- Whether two files have modes that differ. -/
def modesDiffer (before after : Option File) : Bool :=
  !isZeroMode (fileMode before) && !isZeroMode (fileMode after) &&
    fileMode before != fileMode after

theorem modesDiffer_regular {b w : Bool} {c d : Bytes} :
    modesDiffer (some (.regular b c)) (some (.regular w d)) = decide (b ≠ w) := by
  cases b <;> cases w <;> rfl

theorem modesDiffer_none (before : Option File) : modesDiffer before none = false := by
  rcases before with _ | (⟨_ | _, _⟩ | _) <;> rfl

theorem modesDiffer_symlink {target bytes : Bytes} {w : Bool} :
    modesDiffer (some (.symlink target)) (some (.regular w bytes)) = true := by
  cases w <;> rfl

theorem fileMode_plain (file : Option File) : ' ' ∉ fileMode file ∧ '\x00' ∉ fileMode file := by
  have hmodes : ∀ mode ∈ ["000000", "100644", "100755", "120000"].map String.toList,
      ' ' ∉ mode ∧ '\x00' ∉ mode := by decide
  rcases file with _ | (⟨_ | _, _⟩ | _)
  · exact hmodes _ (.head _)
  · exact hmodes _ (.tail _ (.head _))
  · exact hmodes _ (.tail _ (.tail _ (.head _)))
  · exact hmodes _ (.tail _ (.tail _ (.tail _ (.head _))))

theorem parseHeader_diffHeader (fs : FileSystem) :
    parseHeader (diffHeader report base index fs path) =
      .ok (modesDiffer (base.get path) (diffedFile index fs path)) := by
  have hmodes : splitOn ' ' (fileMode (base.get path) ++
      ' ' :: (fileMode (diffedFile index fs path) ++ ' ' :: report.objects path)) =
        fileMode (base.get path) :: fileMode (diffedFile index fs path) ::
          splitOn ' ' (report.objects path) := by
    rw [splitOn_append (fileMode_plain _).1, splitOn_append (fileMode_plain _).1]
  simp only [diffHeader, parseHeader, hmodes]
  rfl

theorem parseModeRecords_diff (fs : FileSystem) (paths : List Path) :
    parseModeRecords (paths.flatMap fun p => [diffHeader report base index fs p, p]) =
      .ok (paths.filter fun p => modesDiffer (base.get p) (diffedFile index fs p)) := by
  induction paths with
  | nil => rfl
  | cons p rest ih =>
    rw [List.flatMap_cons, List.filter_cons]
    show parseModeRecords (diffHeader report base index fs p :: p :: rest.flatMap _) = _
    rw [parseModeRecords, parseHeader_diffHeader, ih]
    cases modesDiffer (base.get p) (diffedFile index fs p) <;> rfl

/-- The parsed mode changes. -/
theorem parseModeChanges_gitRawDiff (report : GitReport) (base index : Tree) (fs : FileSystem) :
    ∃ modes, parseModeChanges (gitRawDiff report base index fs) = .ok modes ∧
      ∀ p, p ∈ modes ↔ modesDiffer (base.get p) (diffedFile index fs p) = true := by
  have htext : gitRawDiff report base index fs = ((diffPaths base index fs).flatMap fun p =>
      [diffHeader report base index fs p, p]).flatMap (· ++ ['\x00']) := by
    simp [gitRawDiff, List.flatMap_assoc]
  refine ⟨(diffPaths base index fs).filter fun p =>
    modesDiffer (base.get p) (diffedFile index fs p), ?_, ?_⟩
  · rw [parseModeChanges, htext, fieldsOf_flatMap, parseModeRecords_diff]
    intro field hfield
    obtain ⟨p, hp, hmem⟩ := List.mem_flatMap.1 hfield
    rcases List.mem_cons.1 hmem with rfl | hmem
    · refine ⟨by simp [diffHeader], ?_⟩
      simp [diffHeader, (fileMode_plain _).2, report.objects_text]
    · obtain rfl := List.mem_singleton.1 hmem
      rcases mem_trackedPaths.1 (List.mem_of_mem_filter hp) with h | h
      · exact Tree.named_get h
      · exact Tree.named_get h
  · intro p
    refine ⟨fun h => (List.mem_filter.1 h).2, fun h => List.mem_filter.2 ⟨?_, h⟩⟩
    -- files whose modes differ are there, and they are different
    simp only [modesDiffer, Bool.and_eq_true, Bool.not_eq_true', bne_iff_ne] at h
    have hbase : base.get p ≠ none := by
      intro hnone
      rw [hnone] at h
      exact absurd h.1.1 (by decide)
    have hne : base.get p ≠ diffedFile index fs p := fun heq => h.2 (by rw [heq])
    exact List.mem_filter.2 ⟨mem_trackedPaths.2 (.inl hbase), by simpa using hne⟩

end Vibemux.Collector
