import Vibemux.Collector.Proofs.ManifestProofs
import Vibemux.Compiler.Proofs.CoverageProofs
import Vibemux.Compiler.Proofs.PathPatternProofs

/-!
# Case aliases in a manifest

Forbidden and protected paths are compared without regard to ASCII case, one change at a time. The
entries are not compared with each other, so two spellings of one path may both be admitted.
-/

namespace Vibemux.Collector

open Text SortDedup OrderedMap List

variable {scope : ScopePolicy} {baseCommit : List Char} {changes : List ObservedChange}
  {manifest : SnapshotManifest}

/-- No entry is a spelling of another one, and none is a spelling of a path that may not change. -/
structure AliasFree (scope : ScopePolicy) (manifest : SnapshotManifest) : Prop where
  apart : manifest.entries.Pairwise fun a b => toAsciiLowercase a.1 ≠ toAsciiLowercase b.1
  outside : ∀ entry ∈ manifest.entries, ∀ pattern ∈ scope.forbidden ++ scope.guarded,
    pattern.matchesCaseInsensitively entry.1 = false

/-- An admissible change has its entry. -/
theorem Admissible.recorded {change : ObservedChange} (h : Admissible scope change) :
    ∃ entry, snapshotChange change = some entry := by
  unfold snapshotChange
  by_cases hdeleted : change.kind = .deleted
  · simp [hdeleted]
  · obtain ⟨content, hcontent, -, -⟩ := h.content hdeleted
    cases hkind : change.kind <;> simp [hcontent]

theorem placeViolations_eq_nil {path : Path} (h : placeViolations scope path = []) :
    ∀ pattern ∈ scope.forbidden ++ scope.guarded, pattern.matchesCaseInsensitively path = false := by
  unfold placeViolations at h
  split_ifs at h with hguarded hforbidden
  intro pattern hpattern
  rcases mem_append.1 hpattern with hmem | hmem
  · simpa using any_eq_false.1 (Bool.eq_false_of_not_eq_true hforbidden) pattern hmem
  · simpa using any_eq_false.1 (Bool.eq_false_of_not_eq_true hguarded) pattern hmem

/-- The entries of distinct changes are those of the changes. -/
theorem keys_foldl_insertChange (acc : List (Path × SnapshotChange))
    (hadmissible : ∀ change ∈ changes, Admissible scope change)
    (hdistinct : (changes.map ObservedChange.path).Nodup)
    (hnew : ∀ change ∈ changes, change.path ∉ keys acc) :
    (keys (changes.foldl insertChange acc)).Perm
      (changes.map ObservedChange.path ++ keys acc) := by
  induction changes generalizing acc with
  | nil => exact .refl _
  | cons change rest ih =>
    obtain ⟨hhead, htail⟩ := forall_mem_cons.1 hadmissible
    obtain ⟨hnewHead, hnewTail⟩ := forall_mem_cons.1 hnew
    rw [map_cons, nodup_cons] at hdistinct
    obtain ⟨entry, hentry⟩ := hhead.recorded
    have hinsert : insertChange acc change = insert change.path entry acc := by
      rw [insertChange, if_pos hhead.relative, hentry]
    have hkeys : (keys (insert change.path entry acc)).Perm
        (change.path :: keys acc) :=
      (perm_insert_of_notMem hnewHead entry).map Prod.fst
    have hrest := ih (insert change.path entry acc) htail hdistinct.2 (by
      intro other hother hmem
      rcases mem_keys_insert.1 hmem with heq | hold
      · exact hdistinct.1 (heq ▸ mem_map_of_mem hother)
      · exact hnewTail other hother hold)
    rw [foldl_cons, hinsert]
    exact hrest.trans ((hkeys.append_left _).trans perm_middle)

/-- The paths of an admitted manifest are those of the changes. -/
theorem perm_paths (hdistinct : (changes.map ObservedChange.path).Nodup)
    (h : buildManifest baseCommit changes scope = .ok manifest) :
    manifest.paths.Perm (changes.map ObservedChange.path) := by
  obtain ⟨⟨-, -, hadmissible, -⟩, rfl⟩ := buildManifest_eq_ok.1 h
  have hperm := keys_foldl_insertChange [] hadmissible hdistinct (by simp [OrderedMap.keys])
  simpa [SnapshotManifest.paths, OrderedMap.keys] using hperm

/-- The manifest of distinct paths is free of aliases exactly when the changed paths differ in more
than their case. -/
theorem buildManifest_aliasFree_iff (hdistinct : (changes.map ObservedChange.path).Nodup)
    (h : buildManifest baseCommit changes scope = .ok manifest) :
    AliasFree scope manifest ↔
      (changes.map fun change => toAsciiLowercase change.path).Nodup := by
  have hperm := perm_paths hdistinct h
  obtain ⟨⟨-, -, hadmissible, -⟩, -⟩ := buildManifest_eq_ok.1 h
  have houtside : ∀ entry ∈ manifest.entries, ∀ pattern ∈ scope.forbidden ++ scope.guarded,
      pattern.matchesCaseInsensitively entry.1 = false := by
    intro entry hentry
    have hpath : entry.1 ∈ manifest.paths := mem_map_of_mem hentry
    obtain ⟨change, hchange, hsame⟩ := mem_map.1 (hperm.mem_iff.1 hpath)
    rw [← hsame]
    exact placeViolations_eq_nil (hadmissible change hchange).place
  have hspellings : manifest.entries.Pairwise
        (fun a b => toAsciiLowercase a.1 ≠ toAsciiLowercase b.1) ↔
      (changes.map fun change => toAsciiLowercase change.path).Nodup := by
    have hmap : (manifest.paths.map toAsciiLowercase).Nodup ↔
        (changes.map fun change => toAsciiLowercase change.path).Nodup := by
      rw [(hperm.map toAsciiLowercase).nodup_iff, List.map_map]
      rfl
    rw [← hmap, SnapshotManifest.paths, OrderedMap.keys, List.map_map, List.Nodup, List.pairwise_map]
    rfl
  rw [← hspellings]
  exact ⟨AliasFree.apart, fun hapart => ⟨hapart, houtside⟩⟩

/-! ## Two spellings of one path -/

/-- Everything below `src` is owned, and its keys are protected. -/
def spellingScope : ScopePolicy where
  owned := [sourceTree]
  forbidden := []
  guarded := [⟨"src/keys/**".toList, by decide⟩]
  maxFiles := 2
  maxFileBytes := 8
  maxTotalBytes := 16

def spellingChange (path : String) : ObservedChange :=
  ⟨path.toList, .added, .regular, false, some ⟨⟨1⟩, 4, true⟩⟩

def spellingManifest : SnapshotManifest :=
  ⟨snapshotSchemaVersion, [], [("src/A.mjs".toList, .write ⟨1⟩ 4), ("src/a.mjs".toList, .write ⟨1⟩ 4)]⟩

/-- Two spellings of one path are both admitted. -/
theorem spellingManifest_not_aliasFree :
    ([spellingChange "src/A.mjs", spellingChange "src/a.mjs"].map ObservedChange.path).Nodup ∧
    buildManifest [] [spellingChange "src/A.mjs", spellingChange "src/a.mjs"] spellingScope =
      .ok spellingManifest ∧
    ¬ AliasFree spellingScope spellingManifest := by
  refine ⟨by decide, by decide +kernel, fun h => ?_⟩
  have hapart := h.apart
  simp only [spellingManifest, pairwise_cons] at hapart
  exact absurd (hapart.1 _ mem_cons_self) (by decide)

/-- Two files of one directory are admitted without an alias. -/
theorem twoFiles_aliasFree :
    ([spellingChange "src/a.mjs", spellingChange "src/b.mjs"].map ObservedChange.path).Nodup ∧
    ∃ manifest, buildManifest [] [spellingChange "src/a.mjs", spellingChange "src/b.mjs"]
      spellingScope = .ok manifest ∧ AliasFree spellingScope manifest := by
  have hdistinct : ([spellingChange "src/a.mjs", spellingChange "src/b.mjs"].map
      ObservedChange.path).Nodup := by decide
  have hbuilt : buildManifest [] [spellingChange "src/a.mjs", spellingChange "src/b.mjs"]
      spellingScope = .ok ⟨snapshotSchemaVersion, [],
        [("src/a.mjs".toList, .write ⟨1⟩ 4), ("src/b.mjs".toList, .write ⟨1⟩ 4)]⟩ := by
    decide +kernel
  exact ⟨hdistinct, _, hbuilt, (buildManifest_aliasFree_iff hdistinct hbuilt).2 (by decide)⟩

end Vibemux.Collector
