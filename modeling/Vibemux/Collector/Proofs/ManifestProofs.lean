import Vibemux.Collector.Proofs.StatusProofs

/-!
# Manifests

`buildManifest_eq_ok` says which changes are admitted and which manifest they give. For the changes
of a status the manifest has, at every reported path, what the work tree holds there.
-/

namespace Vibemux.Collector

open Text SortDedup OrderedMap List

variable {scope : ScopePolicy} {change : ObservedChange} {changes : List ObservedChange}

theorem scopeIf_eq_nil {found : Bool} {violation : ScopeViolation} :
    scopeIf found violation = [] ↔ found = false := by
  cases found <;> simp [scopeIf]

/-- What the scope demands of one change. -/
structure Admissible (scope : ScopePolicy) (change : ObservedChange) : Prop where
  relative : isRelativePath change.path = true
  place : placeViolations scope change.path = []
  regular : change.fileType = .regular
  mode : change.modeChanged = false
  content : change.kind ≠ .deleted → ∃ content, change.content = some content ∧
    content.isText = true ∧ content.byteCount ≤ scope.maxFileBytes

theorem contentViolations_eq_nil :
    contentViolations scope change = [] ↔ (change.kind ≠ .deleted → ∃ content,
      change.content = some content ∧ content.isText = true ∧
        content.byteCount ≤ scope.maxFileBytes) := by
  unfold contentViolations
  cases hkind : change.kind <;> cases hcontent : change.content <;> simp [scopeIf_eq_nil]

theorem changeViolations_eq_nil :
    changeViolations scope change = [] ↔ Admissible scope change := by
  unfold changeViolations
  cases hrelative : isRelativePath change.path with
  | false =>
    refine ⟨nofun, fun h => ?_⟩
    have hpath := h.relative
    rw [hrelative] at hpath
    cases hpath
  | true =>
    simp only [Bool.not_true, Bool.false_eq_true, if_false, append_eq_nil_iff, scopeIf_eq_nil,
      contentViolations_eq_nil]
    have htype : typeViolations change = [] ↔ change.fileType = .regular := by
      unfold typeViolations
      cases change.fileType <;> simp
    rw [htype]
    exact ⟨fun ⟨⟨⟨hplace, hregular⟩, hmode⟩, hcontent⟩ =>
      ⟨hrelative, hplace, hregular, hmode, hcontent⟩,
      fun h => ⟨⟨⟨h.place, h.regular⟩, h.mode⟩, h.content⟩⟩

/-- When the manifest is admitted, and what it is. -/
theorem buildManifest_eq_ok {baseCommit : List Char} {manifest : SnapshotManifest} :
    buildManifest baseCommit changes scope = .ok manifest ↔
      (changes ≠ [] ∧ changes.length ≤ scope.maxFiles ∧
        (∀ change ∈ changes, Admissible scope change) ∧
        (changes.map changeBytes).foldl saturatingAdd 0 ≤ scope.maxTotalBytes) ∧
      manifest = ⟨snapshotSchemaVersion, baseCommit, changes.foldl insertChange []⟩ := by
  have hviolations : manifestViolations changes scope = [] ↔
      changes ≠ [] ∧ changes.length ≤ scope.maxFiles ∧
        (∀ change ∈ changes, Admissible scope change) ∧
        (changes.map changeBytes).foldl saturatingAdd 0 ≤ scope.maxTotalBytes := by
    simp only [manifestViolations, append_eq_nil_iff, scopeIf_eq_nil,
      flatMap_eq_nil_iff, changeViolations_eq_nil, beq_eq_false_iff_ne, decide_eq_false_iff_not,
      Nat.not_lt, and_assoc]
  rw [← hviolations]
  unfold buildManifest
  split_ifs with h
  · simp [h, eq_comm]
  · simp [h]

/-! ## Sums -/

theorem foldl_saturatingAdd (counts : List Nat) {total : Nat} (htotal : total ≤ u64Max) :
    counts.foldl saturatingAdd total = min (total + counts.sum) u64Max := by
  induction counts generalizing total with
  | nil => simp [htotal]
  | cons count rest ih =>
    have hle : saturatingAdd total count ≤ u64Max := Nat.min_le_right _ _
    rw [foldl_cons, ih hle, sum_cons, saturatingAdd]
    omega

/-! ## The entries of a status -/

section

variable (sha256 : Bytes → Sha256Digest) (fs : FileSystem)

/-- The entry for what a work tree holds at a path. -/
def heldChange (path : Path) : SnapshotChange :=
  match fs.get path with
  | some (.regular _ bytes) => .write (sha256 bytes) bytes.length
  | _ => .delete

/-- The entry for a status entry. -/
def statusChange (entry : Path × ObservedChangeKind) : SnapshotChange :=
  if entry.2 = .deleted then .delete else heldChange sha256 fs entry.1

/-- The manifest entries for a list of status entries. -/
def statusManifest (entries : List (Path × ObservedChangeKind)) : List (Path × SnapshotChange) :=
  entries.foldl (fun acc entry =>
    OrderedMap.insert entry.1 (statusChange sha256 fs entry) acc) []

end

variable {sha256 : Bytes → Sha256Digest} {fs : FileSystem} {report : GitReport}
  {base index : Tree} {path : Path}

theorem sorted_statusManifest (entries : List (Path × ObservedChangeKind)) :
    OrderedMap.Sorted (statusManifest sha256 fs entries) := by
  suffices h : ∀ acc, OrderedMap.Sorted acc → OrderedMap.Sorted (entries.foldl (fun acc entry =>
      insert entry.1 (statusChange sha256 fs entry) acc) acc) from
    h [] List.Pairwise.nil
  induction entries with
  | nil => exact fun acc hacc => hacc
  | cons entry rest ih => exact fun acc hacc => ih _ (sorted_insert hacc)

theorem mem_keys_statusManifest {entries : List (Path × ObservedChangeKind)} :
    path ∈ keys (statusManifest sha256 fs entries) ↔
      ∃ entry ∈ entries, entry.1 = path := by
  suffices h : ∀ acc, path ∈ keys (entries.foldl (fun acc entry =>
      insert entry.1 (statusChange sha256 fs entry) acc) acc) ↔
        (∃ entry ∈ entries, entry.1 = path) ∨ path ∈ keys acc from
    (h []).trans (or_iff_left not_mem_nil)
  induction entries with
  | nil => simp
  | cons entry rest ih =>
    intro acc
    rw [foldl_cons, ih, mem_keys_insert, exists_mem_cons_iff, eq_comm,
      or_left_comm, or_assoc]

/-- A tracked change that no untracked file follows is what the work tree holds. -/
theorem statusChange_tracked (hfollowed : index.get path = none → fs.get path = none) :
    statusChange sha256 fs (path, trackedKind (base.get path) (index.get path) (fs.get path)) =
      heldChange sha256 fs path := by
  unfold statusChange heldChange
  cases hindex : index.get path with
  | none => simp [trackedKind, hfollowed hindex]
  | some i =>
    cases hbase : base.get path with
    | none => simp [trackedKind]
    | some b => cases hwork : fs.get path <;> simp [trackedKind]

/-- The manifest of a status has an entry at the paths where the index or the work tree differs from
the base tree, and the entry is what the work tree holds. -/
theorem get_statusManifest (path : Path) :
    get (statusManifest sha256 fs
        (statusEntries report base index fs)) path =
      if index.get path = base.get path ∧ fs.get path = base.get path then none
      else some (heldChange sha256 fs path) := by
  have hfold : ∀ entries : List (Path × ObservedChangeKind), statusManifest sha256 fs entries =
      (entries.map fun entry => (entry.1, statusChange sha256 fs entry)).foldl
        (fun acc entry => insert entry.1 entry.2 acc) [] := by
    intro entries
    rw [foldl_map]
    rfl
  have hmap : ((statusEntries report base index fs).map fun entry =>
      (entry.1, statusChange sha256 fs entry)).reverse =
        (((untrackedPaths index fs).filter (!report.ignored ·) ++
          (untrackedPaths index fs).filter (report.ignored ·)).reverse.map
            fun p => (p, statusChange sha256 fs (p, .added))) ++
        (((trackedPaths base index).filter fun p =>
          decide (¬ (index.get p = base.get p ∧ fs.get p = base.get p))).reverse.map
            fun p => (p, statusChange sha256 fs
              (p, trackedKind (base.get p) (index.get p) (fs.get p)))) := by
    rw [map_append, reverse_append, untrackedEntries, trackedEntries, map_map,
      map_map, ← map_reverse, ← map_reverse]
    rfl
  rw [hfold, get_foldl_insert, hmap, get_append, get_map_pair,
    get_map_pair]
  have huntracked : path ∈ ((untrackedPaths index fs).filter (!report.ignored ·) ++
      (untrackedPaths index fs).filter (report.ignored ·)).reverse ↔
        fs.get path ≠ none ∧ index.get path = none := by
    rw [mem_reverse, mem_append, mem_filter, mem_filter, ← and_or_left,
      mem_untrackedPaths]
    cases report.ignored path <;> simp
  have htracked : path ∈ ((trackedPaths base index).filter fun p =>
      decide (¬ (index.get p = base.get p ∧ fs.get p = base.get p))).reverse ↔
        (base.get path ≠ none ∨ index.get path ≠ none) ∧
          ¬ (index.get path = base.get path ∧ fs.get path = base.get path) := by
    rw [mem_reverse, mem_filter, mem_trackedPaths, decide_eq_true_eq]
  by_cases hfile : fs.get path ≠ none ∧ index.get path = none
  · have hchanged : ¬ (index.get path = base.get path ∧ fs.get path = base.get path) :=
      fun ⟨h₁, h₂⟩ => hfile.1 (h₂.trans (h₁.symm.trans hfile.2))
    rw [if_pos (huntracked.2 hfile), if_neg hchanged]
    rfl
  · rw [if_neg (huntracked.not.2 hfile)]
    by_cases hsame : index.get path = base.get path ∧ fs.get path = base.get path
    · rw [if_pos hsame, if_neg fun h => (htracked.1 h).2 hsame]
      rfl
    · have hsomewhere : base.get path ≠ none ∨ index.get path ≠ none := by
        by_contra hnone
        rw [not_or, not_not, not_not] at hnone
        refine hsame ⟨hnone.2.trans hnone.1.symm, ?_⟩
        by_contra hne
        exact hfile ⟨fun h => hne (h.trans hnone.1.symm), hnone.2⟩
      rw [if_neg hsame, if_pos (htracked.2 ⟨hsomewhere, hsame⟩), statusChange_tracked]
      · rfl
      · intro hindex
        by_contra hwork
        exact hfile ⟨hwork, hindex⟩

end Vibemux.Collector
