import Vibemux.Collector.Proofs.ApplyProofs

/-!
# Collect, apply, collect again

A collected manifest names the paths with another content exactly when no unchanged file was left
staged. It survives being applied and collected again when, besides, it writes neither over a
directory nor through a link of the base tree.
-/

namespace Vibemux.Collector

open Text SortDedup OrderedMap List Option

variable {file : File} {bytes : Bytes} {executable : Bool} {report' : GitReport}

/-- The manifest has the paths whose content differs from the base tree. -/
def ExactManifest (base : Tree) (work : FileSystem) (manifest : SnapshotManifest) : Prop :=
  ∀ p, p ∈ OrderedMap.keys manifest.entries ↔
    (work.get p).map File.content ≠ (base.get p).map File.content

/-- Applied to a fresh work tree and collected again, the manifest comes back. -/
def Reproducible (access : FileAccess) (sha256 : Bytes → Sha256Digest) (report : GitReport)
    (base : Tree) (scope : CollectionScope) (blobs : BlobStore) (manifest : SnapshotManifest) :
    Prop :=
  ∃ collection after,
    materialize access sha256 report manifest.baseCommit base [manifest] scope blobs =
      .ok (collection, after) ∧ collection.manifest = .ok manifest

/-- What the three trees have to agree on. -/
structure Settled (base index : Tree) (work : FileSystem) : Prop where
  /-- A path with the content of the base tree is not staged as something else. -/
  unstaged : ∀ p, (work.get p).map File.content = (base.get p).map File.content →
    index.get p = base.get p
  /-- No file stands where the base tree has a directory. -/
  noDirReplaced : ∀ p q, work.get p ≠ none → base.get q ≠ none → p ∉ ancestors q
  /-- A link that left the index was not replaced by a regular file. -/
  noLinkReplaced : ∀ p target executable bytes, base.get p = some (.symlink target) →
    index.get p = none → work.get p ≠ some (.regular executable bytes)

variable {access : FileAccess} {sha256 : Bytes → Sha256Digest} {report : GitReport}
  {base index : Tree} {work : WorkTree} {scope : CollectionScope} {path : Path}

/-- The index and the work tree have the file of the base tree. -/
def Unreported (base index : Tree) (fs : FileSystem) (p : Path) : Prop :=
  index.get p = base.get p ∧ fs.get p = base.get p

section

variable {fs : FileSystem}

theorem get_status_of_unreported (h : Unreported base index fs path) :
    get (statusManifest sha256 fs
      (statusEntries report base index fs)) path = none := by
  rw [get_statusManifest]
  exact if_pos h

theorem get_status_of_reported (sha256 : Bytes → Sha256Digest) (report : GitReport)
    (h : ¬ Unreported base index fs path) :
    get (statusManifest sha256 fs
      (statusEntries report base index fs)) path =
        some (heldChange sha256 fs path) := by
  rw [get_statusManifest]
  exact if_neg h

theorem mem_keys_status :
    path ∈ keys (statusManifest sha256 fs
      (statusEntries report base index fs)) ↔
        ¬ Unreported base index fs path := by
  rw [mem_keys_iff]
  by_cases h : Unreported base index fs path
  · simp [get_status_of_unreported h, h]
  · simp [get_status_of_reported _ _ h, h]

theorem exists_entry_iff (report : GitReport) :
    (∃ entry ∈ statusEntries report base index fs,
      entry.1 = path) ↔ ¬ Unreported base index fs path := by
  have hkeys : path ∈ keys (statusManifest (fun _ => ⟨0⟩) fs
      (statusEntries report base index fs)) ↔
        ¬ Unreported base index fs path := mem_keys_status
  rw [← hkeys, mem_keys_statusManifest]

/-- An entry of the second status that is not a deletion has a file. -/
theorem file_of_again {entry : Path × ObservedChangeKind}
    (hmem : entry ∈ statusEntries report' base base fs) (hkind : entry.2 ≠ .deleted) :
    fs.get entry.1 ≠ none := by
  intro hmissing
  have hbase := index_of_missing hmem hkind hmissing
  rcases mem_append.1 hmem with htracked | huntracked
  · obtain ⟨p, -, rfl⟩ := mem_map.1 htracked
    obtain ⟨file, hfile⟩ := ne_none_iff_exists'.1 hbase
    simp [trackedKind, hfile, hmissing] at hkind
  · obtain ⟨p, hp, rfl⟩ := mem_map.1 huntracked
    have huntrackedPath : p ∈ untrackedPaths base fs := by
      rcases mem_append.1 hp with h | h
      · exact mem_of_mem_filter h
      · exact mem_of_mem_filter h
    exact (mem_untrackedPaths.1 huntrackedPath).1 hmissing

/-- The second status has one entry for each path. -/
theorem nodup_again (base : Tree) (fs : FileSystem) (report' : GitReport) :
    (keys (statusEntries report' base base fs)).Nodup := by
  have htracked : keys (trackedEntries base base fs) =
      (trackedPaths base base).filter fun p =>
        decide (¬ (base.get p = base.get p ∧ fs.get p = base.get p)) := by
    simp [OrderedMap.keys, trackedEntries, Function.comp_def]
  have huntracked : keys (untrackedEntries report' base fs) =
      (untrackedPaths base fs).filter (!report'.ignored ·) ++
        (untrackedPaths base fs).filter (report'.ignored ·) := by
    simp [OrderedMap.keys, untrackedEntries, Function.comp_def]
  rw [OrderedMap.keys, map_append, ← OrderedMap.keys, ← OrderedMap.keys, htracked, huntracked,
    nodup_append', nodup_append']
  refine ⟨(nodup_sortDedup _).filter _, ⟨(nodup_sortDedup _).filter _,
    (nodup_sortDedup _).filter _, ?_⟩, ?_⟩
  · intro p hseen hignored
    have h := (mem_filter.1 hseen).2
    rw [(mem_filter.1 hignored).2] at h
    cases h
  · intro p htrackedPath huntrackedPath
    have hbase : base.get p ≠ none := by
      simpa using mem_trackedPaths.1 (mem_of_mem_filter htrackedPath)
    have hnone : base.get p = none := by
      rcases mem_append.1 huntrackedPath with h | h
      · exact (mem_untrackedPaths.1 (mem_of_mem_filter h)).2
      · exact (mem_untrackedPaths.1 (mem_of_mem_filter h)).2
    exact hbase hnone

end

/-! ## The paths of the manifest -/

section

variable (hadmitted : AdmittedStatus scope base index work.toFileSystem
  (statusEntries report base index work.toFileSystem))

include hadmitted

/-- What is written at a reported path. -/
theorem regular_of_reported (hreported : ¬ Unreported base index work.toFileSystem path)
    (hfile : work.get path = some file) :
    ∃ executable bytes, file = .regular executable bytes ∧ isTextContent bytes = true ∧
      bytes.length ≤ scope.limits.maxFileBytes := by
  obtain ⟨kind, hkind, hentry⟩ := exists_entry_of_file report (by simp [hfile]) hreported
  exact hadmitted.held _ hentry hkind file hfile

/-- A reported path that is in the index has the mode of the base tree. -/
theorem modesDiffer_of_reported (hreported : ¬ Unreported base index work.toFileSystem path)
    (hindex : index.get path ≠ none) :
    modesDiffer (base.get path) (work.get path) = false := by
  have hdiffed : diffedFile index work.toFileSystem path = work.get path := by
    rw [diffedFile, if_neg (by simpa using hindex)]
  obtain ⟨entry, hentry, rfl⟩ := (exists_entry_iff report).2 hreported
  rw [← hdiffed]
  exact hadmitted.mode entry hentry

/-- Only unreported paths have the content of the base tree, if none of these is staged. -/
theorem unreported_of_content
    (hunstaged : ∀ p, (work.get p).map File.content = (base.get p).map File.content →
      index.get p = base.get p)
    (hcontent : (work.get path).map File.content = (base.get path).map File.content) :
    Unreported base index work.toFileSystem path := by
  have hindex := hunstaged path hcontent
  by_contra hreported
  refine hreported ⟨hindex, ?_⟩
  show work.get path = base.get path
  cases hbase : base.get path with
  | none => simpa [hbase] using hcontent
  | some b =>
    have hmode := modesDiffer_of_reported hadmitted hreported (by simp [hindex, hbase])
    cases hwork : work.get path with
    | none => simp [hwork, hbase] at hcontent
    | some w =>
      rw [hwork, hbase, map_some, map_some, some.injEq] at hcontent
      rw [hwork, hbase] at hmode
      cases b with
      | symlink target =>
        cases w with
        | symlink other => simpa [File.content] using hcontent
        | regular executable bytes => cases hcontent
      | regular before old =>
        cases w with
        | symlink other => cases hcontent
        | regular after bytes =>
          -- the same bytes: the modes do not differ either
          cases hcontent
          rw [modesDiffer_regular, decide_eq_false_iff_not, not_not] at hmode
          rw [hmode]

theorem exactManifest_iff {manifest : SnapshotManifest}
    (hkeys : ∀ p, p ∈ OrderedMap.keys manifest.entries ↔
      ¬ Unreported base index work.toFileSystem p) :
    ExactManifest base work.toFileSystem manifest ↔
      ∀ p, (work.get p).map File.content = (base.get p).map File.content →
        index.get p = base.get p := by
  constructor
  · intro hexact p hcontent
    by_contra hindex
    exact (hexact p).1 ((hkeys p).2 fun h => hindex h.1) hcontent
  · intro hunstaged p
    rw [hkeys p]
    constructor
    · intro hreported hcontent
      exact hreported (unreported_of_content hadmitted hunstaged hcontent)
    · intro hcontent hunreported
      exact hcontent (congrArg (Option.map File.content) hunreported.2)

/-- A reported path that is written does not replace a link. -/
theorem not_link_of_written
    (hlinks : ∀ p target executable bytes, base.get p = some (.symlink target) → index.get p = none → work.get p ≠ some (.regular executable bytes))
    (hreported : ¬ Unreported base index work.toFileSystem path)
    (hwork : work.get path = some (.regular executable bytes)) (target : Bytes) :
    base.get path ≠ some (.symlink target) := by
  intro hbase
  by_cases hindex : index.get path = none
  · exact hlinks path target executable bytes hbase hindex hwork
  · have hmode := modesDiffer_of_reported hadmitted hreported hindex
    rw [hbase, hwork, modesDiffer_symlink] at hmode
    cases hmode

end

/-! ## Applying the manifest -/

section

variable {blobs : BlobStore} {fs : FileSystem}
  (hadmitted : AdmittedStatus scope base index work.toFileSystem
    (statusEntries report base index work.toFileSystem))
  (hsettled : Settled base index work.toFileSystem)

include hadmitted hsettled

theorem base_of_removed (hreported : ¬ Unreported base index work.toFileSystem path)
    (hwork : work.get path = none) : base.get path ≠ none := by
  intro hbase
  exact hreported (unreported_of_content hadmitted hsettled.unstaged (by rw [hwork, hbase]))

theorem applicable_of_settled
    (hblobs : ∀ p executable bytes, ¬ Unreported base index work.toFileSystem p →
      work.get p = some (.regular executable bytes) →
        BlobStore.get sha256 blobs (sha256 bytes) bytes.length = .ok bytes) :
    Applicable sha256 blobs base work (statusManifest sha256 work.toFileSystem
      (statusEntries report base index work.toFileSystem)) where
  sorted := sorted_statusManifest _
  relative := by
    intro p hp
    obtain ⟨entry, hentry, rfl⟩ := mem_keys_statusManifest.1 hp
    exact hadmitted.relative entry hentry
  held := by
    rintro ⟨p, change⟩ hmem
    have hget := (get_eq_some_iff (sorted_statusManifest _)).2 hmem
    rw [get_statusManifest] at hget
    split_ifs at hget
    exact (some.inj hget).symm
  covers := by
    intro p hcontent
    rw [mem_keys_status]
    intro hunreported
    exact hcontent (congrArg (Option.map File.content) hunreported.2)
  removed := fun p hp hwork => base_of_removed hadmitted hsettled (mem_keys_status.1 hp) hwork
  written := by
    intro p hp file hfile
    have hreported := mem_keys_status.1 hp
    obtain ⟨executable, bytes, rfl, -⟩ := regular_of_reported hadmitted hreported hfile
    exact ⟨executable, bytes, rfl, hblobs p executable bytes hreported hfile,
      not_link_of_written hadmitted hsettled.noLinkReplaced hreported hfile⟩
  noDirReplaced := hsettled.noDirReplaced

variable (hoverlay : Overlay base work (statusManifest sha256 work.toFileSystem
  (statusEntries report base index work.toFileSystem)) fs)

include hoverlay

omit hadmitted hsettled in
theorem get_of_unreported (h : Unreported base index work.toFileSystem path) :
    fs.get path = base.get path := by
  rw [hoverlay.get, if_neg fun hmem => mem_keys_status.1 hmem h]

omit hadmitted hsettled in
theorem get_of_reported (h : ¬ Unreported base index work.toFileSystem path) :
    fs.get path = overlaid (base.get path) (work.get path) := by
  rw [hoverlay.get, if_pos (mem_keys_status.2 h)]

/-- The second status reports the same paths. -/
theorem unreported_again :
    Unreported base base fs path ↔ Unreported base index work.toFileSystem path := by
  constructor
  · intro hagain
    by_contra hreported
    have hget := (get_of_reported hoverlay hreported).symm.trans hagain.2
    cases hwork : work.get path with
    | none =>
      rw [hwork, overlaid_none] at hget
      exact base_of_removed hadmitted hsettled hreported hwork hget.symm
    | some file =>
      obtain ⟨executable, bytes, rfl, -⟩ := regular_of_reported hadmitted hreported hwork
      refine hreported (unreported_of_content hadmitted hsettled.unstaged ?_)
      rw [hwork] at hget ⊢
      rw [← hget]
      rfl
  · intro hunreported
    exact ⟨rfl, get_of_unreported hoverlay hunreported⟩

omit hsettled in
/-- What the second collection finds at a reported path that was not removed. -/
theorem written_again (hreported : ¬ Unreported base index work.toFileSystem path)
    (hfile : fs.get path ≠ none) :
    ∃ executable bytes, work.get path = some (.regular executable bytes) ∧
      fs.get path = some (.regular (keptMode (base.get path)) bytes) ∧
      isTextContent bytes = true ∧ bytes.length ≤ scope.limits.maxFileBytes ∧
      ∃ kind, kind ≠ .deleted ∧ (path, kind) ∈ statusEntries report base index work.toFileSystem := by
  have hget := get_of_reported hoverlay hreported
  cases hwork : work.get path with
  | none =>
    rw [hwork, overlaid_none] at hget
    exact absurd hget hfile
  | some file =>
    obtain ⟨executable, bytes, rfl, htext, hsize⟩ := regular_of_reported hadmitted hreported hwork
    rw [hwork] at hget
    exact ⟨executable, bytes, rfl, hget, htext, hsize,
      exists_entry_of_file report (by simp [hwork]) hreported⟩

/-- The second status gives the same manifest. -/
theorem statusManifest_again (report' : GitReport) :
    statusManifest sha256 fs (statusEntries report' base base fs) =
      statusManifest sha256 work.toFileSystem
        (statusEntries report base index work.toFileSystem) := by
  refine eq_of_get_eq (sorted_statusManifest _) (sorted_statusManifest _) fun p => ?_
  have hagain : Unreported base base fs p ↔ Unreported base index work.toFileSystem p :=
    unreported_again hadmitted hsettled hoverlay
  by_cases hsame : Unreported base index work.toFileSystem p
  · rw [get_status_of_unreported (hagain.2 hsame), get_status_of_unreported hsame]
  · rw [get_status_of_reported _ _ (hagain.not.2 hsame), get_status_of_reported _ _ hsame]
    have hget := get_of_reported hoverlay hsame
    congr 1
    unfold heldChange
    rw [hget]
    cases hwork : work.get p with
    | none => rw [overlaid_none]
    | some file =>
      obtain ⟨executable, bytes, rfl, -⟩ := regular_of_reported hadmitted hsame hwork
      rfl

/-- The second status is within the scope as well. -/
theorem admitted_again (report' : GitReport) :
    AdmittedStatus scope base base fs
      (statusEntries report' base base fs) := by
  have hentry : ∀ entry ∈ statusEntries report' base base fs,
      ¬ Unreported base index work.toFileSystem entry.1 := fun entry hmem hsame =>
    (exists_entry_iff report').1 ⟨entry, hmem, rfl⟩
      ((unreported_again hadmitted hsettled hoverlay).2 hsame)
  have hfirst : ∀ entry ∈ statusEntries report' base base fs,
      ∃ first ∈ statusEntries report base index work.toFileSystem, first.1 = entry.1 :=
    fun entry hmem => (exists_entry_iff report).2 (hentry entry hmem)
  refine ⟨?_, ?_, ?_, ?_, ?_, ?_, ?_⟩
  · intro hnil
    obtain ⟨first, hmem⟩ := exists_mem_of_ne_nil _ hadmitted.nonempty
    have hreported := (exists_entry_iff report).1 ⟨first, hmem, rfl⟩
    obtain ⟨again, hagain, -⟩ := (exists_entry_iff report').2
      ((unreported_again hadmitted hsettled hoverlay).not.2 hreported)
    rw [hnil] at hagain
    cases hagain
  · have hcount := sum_map_le_of_keys (nodup_again base fs report')
      fun entry hmem => .inr (by
        obtain ⟨first, hmem', hkey⟩ := hfirst entry hmem
        exact ⟨first, hmem', hkey, Nat.le_refl 1⟩)
    rw [map_const', map_const', sum_replicate_nat, sum_replicate_nat,
      Nat.mul_one, Nat.mul_one] at hcount
    exact Nat.le_trans hcount hadmitted.few
  · have hbytes : ((statusEntries report' base base fs).map
        (entryBytes fs)).sum ≤ ((statusEntries report base index work.toFileSystem).map
            (entryBytes work.toFileSystem)).sum := by
      refine sum_map_le_of_keys (nodup_again base fs report') fun entry hmem => ?_
      by_cases hkind : entry.2 = .deleted
      · exact .inl (by rw [entryBytes, if_pos hkind])
      · obtain ⟨executable, bytes, hwork, hget, -, -, kind, hlive, hfirstEntry⟩ :=
          written_again hadmitted hoverlay (hentry entry hmem) (file_of_again hmem hkind)
        refine .inr ⟨(entry.1, kind), hfirstEntry, rfl, Nat.le_of_eq ?_⟩
        have hwork' : work.toFileSystem.get entry.1 = some (.regular executable bytes) := hwork
        rw [entryBytes, entryBytes, if_neg hkind, if_neg hlive, hget]
        simp only [hwork']
    exact Nat.le_trans (by omega) hadmitted.small
  · intro entry hmem
    obtain ⟨first, hmem', hkey⟩ := hfirst entry hmem
    rw [← hkey]
    exact hadmitted.relative first hmem'
  · intro entry hmem
    obtain ⟨first, hmem', hkey⟩ := hfirst entry hmem
    rw [← hkey]
    exact hadmitted.place first hmem'
  · intro entry hmem
    have hreported := hentry entry hmem
    cases hbase : base.get entry.1 with
    | none => rfl
    | some b =>
      rw [diffedFile, if_neg (by simp [hbase])]
      by_cases hfile : fs.get entry.1 = none
      · rw [hfile, modesDiffer_none]
      · obtain ⟨executable, bytes, hwork, hget, -⟩ :=
          written_again hadmitted hoverlay hreported hfile
        rw [hget, hbase]
        cases b with
        | regular before old =>
          rw [keptMode, modesDiffer_regular]
          simp
        | symlink target =>
          exact absurd hbase
            (not_link_of_written hadmitted hsettled.noLinkReplaced hreported hwork target)
  · intro entry hmem hkind file hfile
    obtain ⟨_, bytes, -, hget, htext, hsize, -⟩ :=
      written_again hadmitted hoverlay (hentry entry hmem) (by simp [hfile])
    rw [hget] at hfile
    cases hfile
    exact ⟨_, bytes, rfl, htext, hsize⟩

omit hadmitted hsettled in
theorem namedFiles_of_overlay : NamedFiles fs := by
  refine ⟨fun {p} hp => ?_⟩
  by_cases hbase : base.get p = none
  · by_cases hunreported : Unreported base index work.toFileSystem p
    · exact absurd ((get_of_unreported hoverlay hunreported).trans hbase) hp
    · refine work.namedFiles.named fun hnone => hp ?_
      rw [get_of_reported hoverlay hunreported, show work.get p = none from hnone, overlaid_none]
  · exact Tree.named_get hbase

end

/-! ## The round trip -/

/-- The contents that the work tree and the blob store have. -/
def contentsAtHand (work : FileSystem) (blobs : BlobStore) : Set Bytes :=
  {bytes | (∃ p executable, work.get p = some (.regular executable bytes)) ∨
    ∃ digest, OrderedMap.get blobs digest = some bytes}

/-- After a collection the blob store has the bytes of every written path. -/
theorem blobs_of_collect {contents texts : List (Path × Bytes)} {blobs blobs' : BlobStore}
    (hinj : Set.InjOn sha256 (contentsAtHand work.toFileSystem blobs))
    (hstored : storeWrites sha256 contents [] blobs (statusManifest sha256 work.toFileSystem (statusEntries report base index work.toFileSystem)) = .ok (texts, blobs'))
    (hcontents : ∀ p bytes, OrderedMap.get contents p = some bytes → ∃ executable, work.get p = some (.regular executable bytes))
    (hreported : ¬ Unreported base index work.toFileSystem path)
    (hfile : work.get path = some (.regular executable bytes)) :
    BlobStore.get sha256 blobs' (sha256 bytes) bytes.length = .ok bytes := by
  have hwithin : blobs.Within (contentsAtHand work.toFileSystem blobs) :=
    fun digest found hfound => .inr ⟨digest, hfound⟩
  have hheld : ∀ p found, OrderedMap.get contents p = some found →
      found ∈ contentsAtHand work.toFileSystem blobs := by
    intro p found hfound
    obtain ⟨mode, hget⟩ := hcontents p found hfound
    exact .inl ⟨p, mode, hget⟩
  have hget := get_status_of_reported sha256 report hreported
  rw [heldChange, show work.toFileSystem.get path = some (.regular executable bytes) from hfile]
    at hget
  obtain ⟨found, hfound, hdigest, hblob⟩ := (storeWrites_spec hinj hwithin hheld hstored).2 path
    (sha256 bytes) bytes.length (mem_of_get hget)
  obtain ⟨mode, hsame⟩ := hcontents path found hfound
  rw [hfile] at hsame
  cases hsame
  exact BlobStore.get_eq_ok.2 ⟨hblob, rfl, rfl⟩

section

variable {baseCommit head : List Char} {blobs blobs' : BlobStore} {collection : Collection}
  {manifest : SnapshotManifest}
  (hinj : Set.InjOn sha256 (contentsAtHand work.toFileSystem blobs))
  (hcollect : collect access sha256 report ⟨baseCommit, base, head, index, work.toFileSystem⟩ scope
    blobs = .ok (collection, blobs'))
  (hmanifest : collection.manifest = .ok manifest)

include hinj hcollect hmanifest

theorem reproducible_of_settled (hsettled : Settled base index work.toFileSystem)
    (report' : GitReport) : Reproducible access sha256 report' base scope blobs' manifest := by
  obtain ⟨hadmitted, rfl, _, _, hstored, hcontents⟩ :=
    admitted_of_collect work.namedFiles hcollect hmanifest
  dsimp only at hadmitted hstored hcontents
  have happlicable := applicable_of_settled hadmitted hsettled
    fun p executable bytes hreported hfile =>
      blobs_of_collect hinj hstored hcontents hreported hfile
  have hstart : Overlay base work [] (checkout base) := overlay_checkout base work
  obtain ⟨fs, happlied, hoverlay⟩ := applyEntries_overlay happlicable hstart access
  rw [nil_append] at hoverlay
  obtain ⟨again, after, hagain, hsame⟩ := collect_of_admitted access sha256
    ⟨baseCommit, base, baseCommit, base, fs⟩ (namedFiles_of_overlay hoverlay) rfl
    (admitted_again hadmitted hsettled hoverlay report')
    (fun entry hmem hkind => file_of_again hmem hkind) blobs'
  refine ⟨again, after, ?_, ?_⟩
  · simp only [materialize, applyManifests, flatMap_cons, flatMap_nil, append_nil,
      Checked.bind_eq_ok]
    exact ⟨fs, happlied, hagain⟩
  · rw [hsame]
    dsimp only
    rw [statusManifest_again hadmitted hsettled hoverlay]

omit hinj in
theorem settled_of_reproducible (haccess : access.Lawful)
    (hexact : ExactManifest base work.toFileSystem manifest)
    (hreproducible : Reproducible access sha256 report' base scope blobs' manifest) :
    Settled base index work.toFileSystem := by
  obtain ⟨hadmitted, rfl, -⟩ := admitted_of_collect work.namedFiles hcollect hmanifest
  dsimp only at hadmitted
  obtain ⟨again, after, hagain, hsame⟩ := hreproducible
  simp only [materialize, applyManifests, flatMap_cons, flatMap_nil, append_nil,
    Checked.bind_eq_ok] at hagain
  obtain ⟨fs, happlied, hagain⟩ := hagain
  refine ⟨(exactManifest_iff hadmitted fun p => mem_keys_status).1 hexact, ?_, ?_⟩
  · intro p q hwork hbase hancestor
    -- the path is a directory of the checkout, and the manifest writes to it
    have hnone : base.get p = none := Tree.get_ancestor hbase hancestor
    have hreported : ¬ Unreported base index work.toFileSystem p :=
      fun h => hwork (h.2.trans hnone)
    obtain ⟨file, hfile⟩ := ne_none_iff_exists'.1 hwork
    obtain ⟨executable, bytes, rfl, -⟩ := regular_of_reported hadmitted hreported hfile
    have hget := get_status_of_reported sha256 report hreported
    rw [heldChange, hfile] at hget
    refine not_dir_of_applyEntries haccess happlied (mem_of_get hget)
      (mem_flatMap.2 ⟨q, ?_, hancestor⟩)
    exact mem_keys_iff.2 (isSome_iff_ne_none.2 hbase)
  · intro p target executable bytes hbase hindex hwork
    -- the link is still there, so the second status is silent about it
    have hreported : ¬ Unreported base index work.toFileSystem p := by
      intro h
      rw [Unreported, hindex, hbase] at h
      cases h.1
    have hget := get_status_of_reported sha256 report hreported
    rw [heldChange, hwork] at hget
    have hkept : (p, SnapshotChange.delete) ∉ statusManifest sha256 work.toFileSystem
        (statusEntries report base index work.toFileSystem) := by
      intro hdelete
      rw [← get_eq_some_iff (sorted_statusManifest _), hget] at hdelete
      cases hdelete
    have hlink : fs.get p = some (.symlink target) := applyEntries_link haccess happlied hkept hbase
    have hnames : ∀ entry ∈ statusManifest sha256 work.toFileSystem
        (statusEntries report base index work.toFileSystem), entry.1 ≠ [] ∧ '\x00' ∉ entry.1 := by
      intro entry hentry
      have hkey := mem_keys_status.1 (mem_map_of_mem hentry)
      by_cases hworkNone : work.get entry.1 = none
      · by_cases hbaseNone : base.get entry.1 = none
        · have hindexed : index.get entry.1 ≠ none := fun hindexNone =>
            hkey ⟨hindexNone.trans hbaseNone.symm, hworkNone.trans hbaseNone.symm⟩
          exact Tree.named_get hindexed
        · exact Tree.named_get hbaseNone
      · exact work.namedFiles.named hworkNone
    have hnamed : NamedFiles fs :=
      applyEntries_named haccess (namedFiles_checkout base) hnames happlied
    obtain ⟨-, hentries, -⟩ := admitted_of_collect hnamed hagain hsame
    rw [SnapshotManifest.mk.injEq] at hentries
    have hmem : p ∈ keys (statusManifest sha256 work.toFileSystem
        (statusEntries report base index work.toFileSystem)) := mem_keys_status.2 hreported
    rw [hentries.2.2] at hmem
    exact mem_keys_status.1 hmem ⟨rfl, hlink.trans hbase.symm⟩

end

/-- A collected manifest is exact and comes back after it was applied when, and only when, the three
trees agree on what is unchanged, on the directories and on the links. -/
theorem exact_reproducible_iff_settled (haccess : access.Lawful) {baseCommit head : List Char}
    {blobs blobs' : BlobStore} {collection : Collection} {manifest : SnapshotManifest}
    (hinj : Set.InjOn sha256 (contentsAtHand work.toFileSystem blobs))
    (hcollect : collect access sha256 report ⟨baseCommit, base, head, index, work.toFileSystem⟩
      scope blobs = .ok (collection, blobs'))
    (hmanifest : collection.manifest = .ok manifest) (report' : GitReport) :
    ExactManifest base work.toFileSystem manifest ∧
        Reproducible access sha256 report' base scope blobs' manifest ↔
      Settled base index work.toFileSystem := by
  constructor
  · rintro ⟨hexact, hreproducible⟩
    exact settled_of_reproducible hcollect hmanifest haccess hexact hreproducible
  · intro hsettled
    refine ⟨?_, reproducible_of_settled hinj hcollect hmanifest hsettled report'⟩
    obtain ⟨hadmitted, rfl, -⟩ := admitted_of_collect work.namedFiles hcollect hmanifest
    exact (exactManifest_iff hadmitted fun p => mem_keys_status).2 hsettled.unstaged

/-! ### One file -/

theorem keys_singleton {p : Path} (hp : p ≠ [] ∧ '\x00' ∉ p) :
    ∀ path ∈ keys [(p, file)], path ≠ [] ∧ '\x00' ∉ path := by
  intro path hpath
  rw [mem_singleton.1 hpath]
  exact hp

theorem no_ancestor_singleton :
    ∀ path ∈ keys [("notes".toList, file)], ∀ above ∈ ancestors path, above ∈ [] := by
  intro path hpath above habove
  rw [mem_singleton.1 hpath, show ancestors "notes".toList = [] from rfl] at habove
  exact habove

/-- A tree that has the file `notes`. -/
def notesTree (bytes : Bytes) : Tree :=
  ⟨[("notes".toList, .regular false bytes)], keys_singleton (by decide), fun path hpath above habove =>
    absurd (no_ancestor_singleton path hpath above habove) List.not_mem_nil⟩

/-- A work tree that has the file `notes`. -/
def notesWork (bytes : Bytes) : WorkTree :=
  ⟨⟨[("notes".toList, .regular false bytes)], []⟩, keys_singleton (by decide),
    no_ancestor_singleton, nofun⟩

/-- A scope that owns `notes`. -/
def notesScope : CollectionScope := ⟨[⟨"notes".toList, by decide⟩], [], [], ⟨4, 16, 64⟩⟩

def plainReport : GitReport := ⟨fun _ => false, fun _ => [], fun _ => List.not_mem_nil⟩

/-- Nothing lies behind a link. -/
def noAccess : FileAccess := ⟨fun _ _ => .notFound, fun _ _ _ => none⟩

theorem noAccess_lawful : noAccess.Lawful := ⟨nofun, nofun, nofun⟩

/-- The manifest that writes one byte to `notes`. -/
def notesManifest : SnapshotManifest :=
  ⟨snapshotSchemaVersion, [], [("notes".toList, .write ⟨1⟩ 1)]⟩

/-- A file that was edited and not staged comes back. -/
theorem notes_edited_settled :
    Settled (notesTree [97]) (notesTree [97]) (notesWork [98]).toFileSystem ∧
      ExactManifest (notesTree [97]) (notesWork [98]).toFileSystem notesManifest ∧
      Reproducible noAccess (fun _ => ⟨1⟩) plainReport (notesTree [97]) notesScope [(⟨1⟩, [98])]
        notesManifest := by
  have hsettled : Settled (notesTree [97]) (notesTree [97]) (notesWork [98]).toFileSystem := by
    refine ⟨fun p _ => rfl, fun p q _ hbase hancestor => ?_, fun p target executable bytes hbase => ?_⟩
    · have hkey : q ∈ keys (notesTree [97]).files :=
        mem_keys_iff.2 (isSome_iff_ne_none.2 hbase)
      exact absurd (no_ancestor_singleton q hkey p hancestor) not_mem_nil
    · have hmem := mem_of_get hbase
      cases mem_singleton.1 hmem
  have hinj : Set.InjOn (fun _ : Bytes => (⟨1⟩ : Sha256Digest))
      (contentsAtHand (notesWork [98]).toFileSystem []) := by
    have honly : ∀ bytes ∈ contentsAtHand (notesWork [98]).toFileSystem [], bytes = [98] := by
      rintro _ (⟨_, _, hfile⟩ | ⟨_, hblob⟩)
      · have hmem := mem_of_get hfile
        cases mem_singleton.1 hmem
        rfl
      · cases hblob
    intro a ha b hb _
    rw [honly a ha, honly b hb]
  have hcollect : collect noAccess (fun _ => ⟨1⟩) plainReport
      ⟨[], notesTree [97], [], notesTree [97], (notesWork [98]).toFileSystem⟩ notesScope [] =
        .ok (⟨.ok notesManifest, [("notes".toList, [98])]⟩, [(⟨1⟩, [98])]) := by rfl
  exact ⟨hsettled, (exact_reproducible_iff_settled noAccess_lawful hinj hcollect rfl
    plainReport).2 hsettled⟩

/-- A file that was staged and then reverted is collected as a change. -/
theorem notes_reverted_collected :
    collect noAccess (fun _ => ⟨1⟩) plainReport
        ⟨[], notesTree [97], [], notesTree [98], (notesWork [97]).toFileSystem⟩ notesScope [] =
          .ok (⟨.ok notesManifest, [("notes".toList, [97])]⟩, [(⟨1⟩, [97])]) ∧
      ¬ ExactManifest (notesTree [97]) (notesWork [97]).toFileSystem notesManifest := by
  refine ⟨by rfl, fun hexact => ?_⟩
  have hkey : "notes".toList ∈ keys notesManifest.entries := mem_cons_self
  exact (hexact "notes".toList).1 hkey rfl

end Vibemux.Collector
