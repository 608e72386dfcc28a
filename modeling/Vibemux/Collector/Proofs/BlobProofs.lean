import Vibemux.Collector.Collector

/-!
# The blob store

Blobs are named by their digest. As long as no two of the contents at hand have the same digest,
what was put can be read back, also after later puts.
-/

namespace Vibemux.Collector

open OrderedMap Checked BlobStore

variable {sha256 : Bytes → Sha256Digest} {blobs : BlobStore} {held : Set Bytes} {bytes : Bytes}

/-- Every blob is one of the contents at hand. -/
def BlobStore.Within (blobs : BlobStore) (held : Set Bytes) : Prop :=
  ∀ digest bytes, OrderedMap.get blobs digest = some bytes → bytes ∈ held

theorem BlobStore.get_eq_ok {digest : Sha256Digest} {byteCount : Nat} :
    BlobStore.get sha256 blobs digest byteCount = .ok bytes ↔
      OrderedMap.get blobs digest = some bytes ∧ bytes.length = byteCount ∧
        sha256 bytes = digest := by
  unfold get
  cases OrderedMap.get blobs digest with
  | none => simp
  | some found =>
    dsimp only
    split_ifs with h
    · refine ⟨nofun, ?_⟩
      rintro ⟨hfound, hlength, hdigest⟩
      cases hfound
      rcases h with h | h
      · exact absurd hlength h
      · exact absurd hdigest h
    · rw [not_or, not_not, not_not] at h
      constructor
      · intro hok
        cases hok
        exact ⟨rfl, h⟩
      · rintro ⟨hfound, -⟩
        cases hfound
        rfl

theorem BlobStore.put_fst (bytes : Bytes) : (put sha256 blobs bytes).1 = sha256 bytes := by
  unfold put
  dsimp only
  cases get sha256 blobs (sha256 bytes) bytes.length <;> rfl

section

variable (hinj : Set.InjOn sha256 held) (hwithin : blobs.Within held)
include hinj hwithin

/-- A put changes nothing but the blob of its digest, which then has these bytes. -/
theorem BlobStore.put_snd (hbytes : bytes ∈ held) :
    OrderedMap.get (BlobStore.put sha256 blobs bytes).2 (sha256 bytes) = some bytes ∧
      ∀ digest ≠ sha256 bytes, OrderedMap.get (BlobStore.put sha256 blobs bytes).2 digest =
        OrderedMap.get blobs digest := by
  unfold put
  dsimp only
  cases hget : get sha256 blobs (sha256 bytes) bytes.length with
  | error e =>
    exact ⟨get_insert_self _ _ _, fun digest hne =>
      get_insert_of_ne hne _ _⟩
  | ok found =>
    obtain ⟨hfound, -, hdigest⟩ := get_eq_ok.1 hget
    -- the blob that is there has the same digest, so it is the same content
    rw [hinj (hwithin _ _ hfound) hbytes hdigest] at hfound
    exact ⟨hfound, fun _ _ => rfl⟩

theorem BlobStore.within_put (hbytes : bytes ∈ held) :
    BlobStore.Within (put sha256 blobs bytes).2 held := by
  obtain ⟨hself, hother⟩ := put_snd hinj hwithin hbytes
  intro digest found hfound
  by_cases hdigest : digest = sha256 bytes
  · rw [hdigest, hself] at hfound
    cases hfound
    exact hbytes
  · rw [hother digest hdigest] at hfound
    exact hwithin digest found hfound

/-- A blob that reads back keeps doing so after a put. -/
theorem BlobStore.get_put_of_get {bytes kept : Bytes} (hbytes : bytes ∈ held)
    (hkept : OrderedMap.get blobs (sha256 kept) = some kept) :
    OrderedMap.get (BlobStore.put sha256 blobs bytes).2 (sha256 kept) = some kept := by
  obtain ⟨hself, hother⟩ := put_snd hinj hwithin hbytes
  by_cases hdigest : sha256 kept = sha256 bytes
  · obtain rfl := hinj (hwithin _ _ hkept) hbytes hdigest
    exact hself
  · rw [hother _ hdigest]
    exact hkept

end

/-! ## The writes of a manifest -/

section

variable {contents texts : List (Path × Bytes)} {entries : List (Path × SnapshotChange)}

/-- After the loop every write of the manifest can be read from the store. -/
theorem storeWrites_spec {result : List (Path × Bytes) × BlobStore}
    (hinj : Set.InjOn sha256 held) (hwithin : blobs.Within held)
    (hcontents : ∀ path bytes, get contents path = some bytes → bytes ∈ held)
    (h : storeWrites sha256 contents texts blobs entries = .ok result) :
    (∀ kept, get blobs (sha256 kept) = some kept →
      get result.2 (sha256 kept) = some kept) ∧
    ∀ path digest byteCount, (path, SnapshotChange.write digest byteCount) ∈ entries →
      ∃ bytes, get contents path = some bytes ∧ sha256 bytes = digest ∧
        get result.2 digest = some bytes := by
  induction entries generalizing contents texts blobs with
  | nil =>
    cases h
    exact ⟨fun _ hkept => hkept, nofun⟩
  | cons entry rest ih =>
    obtain ⟨path, change⟩ := entry
    cases change with
    | delete =>
      rw [storeWrites] at h
      obtain ⟨hkeeps, hwrites⟩ := ih hwithin hcontents h
      refine ⟨hkeeps, fun p digest count hmem => ?_⟩
      rcases List.mem_cons.1 hmem with heq | hmem
      · cases heq
      · exact hwrites p digest count hmem
    | write digest byteCount =>
      simp only [storeWrites, eq_ok, put_fst] at h
      obtain ⟨bytes, hbytes, rfl, -, hrest⟩ := h
      have hheld := hcontents path bytes hbytes
      obtain ⟨hkeeps, hwrites⟩ := ih (within_put hinj hwithin hheld)
        (fun p b hb => hcontents p b (get_of_get_erase hb)) hrest
      refine ⟨fun kept hkept => hkeeps kept
        (get_put_of_get hinj hwithin hheld hkept), fun p d count hmem => ?_⟩
      rcases List.mem_cons.1 hmem with heq | hmem
      · cases heq
        exact ⟨bytes, hbytes, rfl, hkeeps bytes (put_snd hinj hwithin hheld).1⟩
      · obtain ⟨b, hb, hdigest, hstored⟩ := hwrites p d count hmem
        exact ⟨b, get_of_get_erase hb, hdigest, hstored⟩

/-- The loop goes through when the bytes of every write are at hand. -/
theorem storeWrites_ok (texts : List (Path × Bytes)) (blobs : BlobStore)
    (hsorted : OrderedMap.Sorted entries)
    (h : ∀ path digest byteCount, (path, SnapshotChange.write digest byteCount) ∈ entries →
      ∃ bytes, get contents path = some bytes ∧ sha256 bytes = digest ∧
        (ByteArray.mk bytes.toArray).validateUTF8 = true) :
    ∃ result, storeWrites sha256 contents texts blobs entries = .ok result := by
  induction entries generalizing contents texts blobs with
  | nil => exact ⟨_, rfl⟩
  | cons entry rest ih =>
    obtain ⟨path, change⟩ := entry
    obtain ⟨hhead, hrest⟩ := List.pairwise_cons.1 hsorted
    have hlater : ∀ p digest byteCount, (p, SnapshotChange.write digest byteCount) ∈ rest →
        ∃ bytes, get contents p = some bytes ∧ sha256 bytes = digest ∧
          (ByteArray.mk bytes.toArray).validateUTF8 = true :=
      fun p digest count hmem => h p digest count (List.mem_cons_of_mem _ hmem)
    cases change with
    | delete =>
      rw [storeWrites]
      exact ih _ _ hrest hlater
    | write digest byteCount =>
      obtain ⟨bytes, hbytes, rfl, htext⟩ := h path digest byteCount List.mem_cons_self
      simp only [storeWrites, eq_ok, put_fst, hbytes]
      have hstep : ∃ result, storeWrites sha256 (erase contents path)
          (insert path bytes texts) (put sha256 blobs bytes).2 rest =
            .ok result := by
        refine ih _ _ hrest fun p d count hmem => ?_
        have hne : p ≠ path := (ne_of_compare_lt (hhead _ hmem)).symm
        rw [get_erase_of_ne hne]
        exact hlater p d count hmem
      obtain ⟨result, hresult⟩ := hstep
      exact ⟨result.1, result.2, bytes, rfl, rfl, htext, hresult⟩

end

end Vibemux.Collector
