import Mathlib

/-!
# Ordered maps

A map is the list of its entries in the order of the keys. Inserting a key that is present replaces
its value. Two maps in order with the same values at every key are equal.
-/

namespace OrderedMap

open List

variable {κ ν : Type*} [DecidableEq κ] {map : List (κ × ν)} {value : ν} {other : κ} {key k : κ}

/-- The entries with `key` bound to `value`. -/
def insert [Ord κ] (key : κ) (value : ν) : List (κ × ν) → List (κ × ν)
  | [] => [(key, value)]
  | entry :: rest =>
    if entry.1 = key then (key, value) :: rest
    else if compare key entry.1 = .lt then (key, value) :: entry :: rest
    else entry :: insert key value rest

/-- The value bound to `key`. -/
def get (map : List (κ × ν)) (key : κ) : Option ν :=
  (map.find? fun entry => decide (entry.1 = key)).map Prod.snd

/-- The entries without `key`. -/
def erase (map : List (κ × ν)) (key : κ) : List (κ × ν) :=
  map.filter fun entry => !decide (entry.1 = key)

omit [DecidableEq κ] in
/-- The keys in order. -/
def keys (map : List (κ × ν)) : List κ := map.map Prod.fst

theorem get_cons (entry : κ × ν) (rest : List (κ × ν)) (key : κ) :
    get (entry :: rest) key = if entry.1 = key then some entry.2 else get rest key := by
  unfold get
  rw [find?_cons]
  by_cases h : entry.1 = key <;> simp [h]

theorem get_append (map other : List (κ × ν)) (key : κ) :
    get (map ++ other) key = (get map key).or (get other key) := by
  induction map with
  | nil => simp [get]
  | cons entry rest ih =>
    rw [cons_append, get_cons, get_cons, ih]
    split_ifs <;> rfl

/-- A map that is given by a function on a list of keys. -/
theorem get_map_pair (paths : List κ) (value : κ → ν) (key : κ) :
    get (paths.map fun k => (k, value k)) key = if key ∈ paths then some (value key) else none := by
  induction paths with
  | nil => simp [get]
  | cons k rest ih =>
    rw [map_cons, get_cons, ih]
    by_cases h : k = key
    · simp [h]
    · simp [h, Ne.symm h]

theorem mem_keys_iff :
    key ∈ keys map ↔ (get map key).isSome = true := by
  induction map with
  | nil => simp [keys, get]
  | cons entry rest ih =>
    rw [get_cons, keys, map_cons, mem_cons, ← keys, ih]
    by_cases h : entry.1 = key
    · simp [h]
    · simp [h, Ne.symm h]

theorem get_eq_none_iff : get map key = none ↔ key ∉ keys map := by
  rw [mem_keys_iff, Bool.not_eq_true, Option.isSome_eq_false_iff, Option.isNone_iff_eq_none]

theorem mem_of_get (h : get map key = some value) :
    (key, value) ∈ map := by
  obtain ⟨entry, hentry, rfl⟩ := Option.map_eq_some_iff.1 h
  have hkey : entry.1 = key := by simpa using find?_some hentry
  rw [← hkey]
  exact mem_of_find?_eq_some hentry

@[simp]
theorem get_erase_self (map : List (κ × ν)) (key : κ) : get (erase map key) key = none := by
  rw [get_eq_none_iff, keys, erase]
  simp

theorem get_erase_of_ne (h : other ≠ key) (map : List (κ × ν)) :
    get (erase map key) other = get map other := by
  induction map with
  | nil => rfl
  | cons entry rest ih =>
    rw [get_cons, erase, filter_cons, ← erase]
    by_cases hkey : entry.1 = key
    · rw [if_neg (by simp [hkey]), ih, if_neg (by rw [hkey]; exact h.symm)]
    · rw [if_pos (by simp [hkey]), get_cons, ih]

theorem mem_erase :
    (k, value) ∈ erase map key ↔ (k, value) ∈ map ∧ k ≠ key := by
  simp [erase]

/-- Where neither keys nor values are repeated, the values left after an erasure are the others. -/
theorem mem_values_erase (hkeys : (keys map).Nodup) (hvalues : (map.map Prod.snd).Nodup)
    {value other : ν} (h : get map key = some value) :
    other ∈ (erase map key).map Prod.snd ↔ other ∈ map.map Prod.snd ∧ other ≠ value := by
  have hmem : (key, value) ∈ map := mem_of_get h
  simp only [mem_map, Prod.exists, exists_eq_right, mem_erase]
  constructor
  · rintro ⟨k, hk, hne⟩
    refine ⟨⟨k, hk⟩, ?_⟩
    rintro rfl
    exact hne (Prod.ext_iff.1 (inj_on_of_nodup_map hvalues hk hmem rfl)).1
  · rintro ⟨⟨k, hk⟩, hne⟩
    refine ⟨k, hk, ?_⟩
    rintro rfl
    exact hne (Prod.ext_iff.1 (inj_on_of_nodup_map hkeys hk hmem rfl)).2

theorem get_of_get_erase (h : get (erase map key) other = some value) :
    get map other = some value := by
  by_cases hsame : other = key
  · rw [hsame, get_erase_self] at h
    cases h
  · rwa [get_erase_of_ne hsame] at h

/-- The values changed, each by its key. -/
def mapValues (change : κ → ν → ν) (map : List (κ × ν)) : List (κ × ν) :=
  map.map fun entry => (entry.1, change entry.1 entry.2)

omit [DecidableEq κ] in
@[simp]
theorem keys_mapValues (change : κ → ν → ν) (map : List (κ × ν)) :
    keys (mapValues change map) = keys map := by
  simp [keys, mapValues]

omit [DecidableEq κ] in
@[simp]
theorem length_mapValues (change : κ → ν → ν) (map : List (κ × ν)) :
    (mapValues change map).length = map.length := length_map _

omit [DecidableEq κ] in
theorem mapValues_eq_self {change : κ → ν → ν}
    (h : ∀ key value, (key, value) ∈ map → change key value = value) :
    mapValues change map = map := by
  refine (map_congr_left fun entry hmem => ?_).trans (map_id map)
  exact Prod.ext rfl (h entry.1 entry.2 hmem)

@[simp]
theorem get_mapValues (change : κ → ν → ν) (map : List (κ × ν)) (key : κ) :
    get (mapValues change map) key = (get map key).map (change key) := by
  induction map with
  | nil => rfl
  | cons entry rest ih =>
    rw [mapValues, map_cons, get_cons, get_cons, ← mapValues, ih]
    by_cases h : entry.1 = key <;> simp [h]

omit [DecidableEq κ] in
theorem mem_mapValues {change : κ → ν → ν} :
    (key, value) ∈ mapValues change map ↔ ∃ old, (key, old) ∈ map ∧ value = change key old := by
  simp only [mapValues, mem_map, Prod.mk.injEq, Prod.exists]
  constructor
  · rintro ⟨_, old, hmem, rfl, rfl⟩
    exact ⟨old, hmem, rfl⟩
  · rintro ⟨old, hmem, rfl⟩
    exact ⟨key, old, hmem, rfl, rfl⟩

section Insert

variable [Ord κ]

@[simp]
theorem get_insert_self (key : κ) (value : ν) (map : List (κ × ν)) :
    get (insert key value map) key = some value := by
  induction map with
  | nil => simp [insert, get_cons]
  | cons entry rest ih =>
    rw [insert]
    split_ifs with heq hlt
    · simp [get_cons]
    · simp [get_cons]
    · rw [get_cons, if_neg heq, ih]

theorem get_insert_of_ne (h : other ≠ key) (value : ν) (map : List (κ × ν)) :
    get (insert key value map) other = get map other := by
  induction map with
  | nil => simp [insert, get_cons, h.symm]
  | cons entry rest ih =>
    rw [insert]
    split_ifs with heq hlt
    · rw [get_cons, get_cons, if_neg h.symm, if_neg (by rw [heq]; exact h.symm)]
    · rw [get_cons, if_neg h.symm]
    · rw [get_cons, ih, ← get_cons]

@[simp]
theorem mem_keys_insert :
    k ∈ keys (insert key value map) ↔ k = key ∨ k ∈ keys map := by
  by_cases h : k = key
  · simp [h, mem_keys_iff]
  · simp [h, mem_keys_iff, get_insert_of_ne h]

/-- A new key only adds its entry. -/
theorem perm_insert_of_notMem (h : key ∉ keys map) (value : ν) :
    (insert key value map).Perm ((key, value) :: map) := by
  induction map with
  | nil => exact .refl _
  | cons entry rest ih =>
    have hne : entry.1 ≠ key := fun heq => h (heq ▸ mem_cons_self)
    have hrest : key ∉ keys rest := fun hmem => h (mem_cons_of_mem _ hmem)
    rw [insert, if_neg hne]
    split_ifs
    · exact .refl _
    · exact ((ih hrest).cons entry).trans (List.Perm.swap _ _ _)

theorem mem_insert_of_notMem {value v : ν} (h : key ∉ keys map) :
    (k, v) ∈ insert key value map ↔ (k = key ∧ v = value) ∨ (k, v) ∈ map := by
  rw [(perm_insert_of_notMem h value).mem_iff, mem_cons, Prod.mk.injEq]

/-- After inserting a list of entries the last value of a key counts. -/
theorem get_foldl_insert (entries map : List (κ × ν)) (key : κ) :
    get (entries.foldl (fun acc entry => insert entry.1 entry.2 acc) map) key =
      (get entries.reverse key).or (get map key) := by
  induction entries generalizing map with
  | nil => simp [get]
  | cons entry rest ih =>
    rw [foldl_cons, ih, reverse_cons, get_append, Option.or_assoc]
    congr 1
    by_cases h : entry.1 = key
    · simp [h, get_cons]
    · rw [get_insert_of_ne (Ne.symm h), get_cons, if_neg h]
      simp [get]

/-! ## Order -/

/-- The keys strictly increase. -/
def Sorted (map : List (κ × ν)) : Prop := map.Pairwise fun a b => compare a.1 b.1 = .lt

omit [DecidableEq κ] in
theorem Sorted.mapValues (h : Sorted map) (change : κ → ν → ν) :
    Sorted (mapValues change map) := pairwise_map.2 h

variable [Std.TransOrd κ] [Std.LawfulEqOrd κ]

omit [DecidableEq κ] [Std.TransOrd κ] in
theorem ne_of_compare_lt {a b : κ} (h : compare a b = .lt) : a ≠ b := by
  intro heq
  rw [Std.compare_eq_iff_eq.2 heq] at h
  cases h

theorem sorted_insert (h : Sorted map) :
    Sorted (insert key value map) := by
  induction map with
  | nil => exact pairwise_singleton _ _
  | cons entry rest ih =>
    obtain ⟨hhead, hrest⟩ := pairwise_cons.1 h
    rw [insert]
    split_ifs with heq hlt
    · subst heq
      exact pairwise_cons.2 ⟨hhead, hrest⟩
    · refine pairwise_cons.2 ⟨?_, h⟩
      rintro other (_ | ⟨_, hother⟩)
      · exact hlt
      · exact Std.TransCmp.lt_trans hlt (hhead other hother)
    · refine pairwise_cons.2 ⟨fun other hother => ?_, ih hrest⟩
      have hkey : other.1 ∈ keys (insert key value rest) := mem_map_of_mem hother
      rcases mem_keys_insert.1 hkey with hnew | hold
      · rw [hnew]
        have hne : compare key entry.1 ≠ .eq := fun he => heq (Std.compare_eq_iff_eq.1 he).symm
        have hgt : compare key entry.1 = .gt := by
          cases hc : compare key entry.1 <;> simp_all
        exact Std.OrientedCmp.lt_of_gt hgt
      · obtain ⟨old, hold, hfst⟩ := mem_map.1 hold
        rw [← hfst]
        exact hhead old hold

omit [Std.TransOrd κ] in
theorem get_eq_some_iff (h : Sorted map) :
    get map key = some value ↔ (key, value) ∈ map := by
  refine ⟨mem_of_get, fun hmem => ?_⟩
  induction map with
  | nil => cases hmem
  | cons entry rest ih =>
    obtain ⟨hhead, hrest⟩ := pairwise_cons.1 h
    rw [get_cons]
    rcases mem_cons.1 hmem with rfl | hmem
    · simp
    · have hne : entry.1 ≠ key := ne_of_compare_lt (hhead _ hmem)
      rw [if_neg hne, ih hrest hmem]

/-- Maps in order with the same values are equal. -/
theorem eq_of_get_eq {map other : List (κ × ν)} (hmap : Sorted map) (hother : Sorted other)
    (h : ∀ key, get map key = get other key) : map = other := by
  have hnodup : ∀ {m : List (κ × ν)}, Sorted m → m.Nodup := by
    intro m hm
    exact List.Pairwise.imp (fun hlt hab => ne_of_compare_lt hlt (congrArg Prod.fst hab)) hm
  have hperm : map.Perm other := by
    rw [perm_ext_iff_of_nodup (hnodup hmap) (hnodup hother)]
    rintro ⟨key, value⟩
    rw [← get_eq_some_iff hmap, ← get_eq_some_iff hother, h]
  refine hperm.eq_of_pairwise (fun a b _ _ hab hba => ?_) hmap hother
  exact absurd rfl (ne_of_compare_lt (Std.TransCmp.lt_trans hab hba))

end Insert

omit [DecidableEq κ] in
/-- Entries with distinct keys add up to no more than entries that cover them. -/
theorem sum_map_le_of_keys {μ : Type*} {entries : List (κ × ν)} {other : List (κ × μ)}
    {count : κ × ν → Nat} {bound : κ × μ → Nat} (hnodup : (keys entries).Nodup)
    (h : ∀ entry ∈ entries, count entry = 0 ∨
      ∃ cover ∈ other, cover.1 = entry.1 ∧ count entry ≤ bound cover) :
    (entries.map count).sum ≤ (other.map bound).sum := by
  induction entries generalizing other with
  | nil => simp
  | cons entry rest ih =>
    obtain ⟨hfresh, hrest⟩ := nodup_cons.1 hnodup
    have hlater := fun e (he : e ∈ rest) => h e (mem_cons_of_mem _ he)
    rw [map_cons, sum_cons]
    rcases h entry mem_cons_self with hzero | ⟨cover, hcover, hkey, _⟩
    · rw [hzero, Nat.zero_add]
      exact ih hrest hlater
    · -- the cover of this entry covers no other
      obtain ⟨before, after, rfl⟩ := append_of_mem hcover
      have hsum : (rest.map count).sum ≤ ((before ++ after).map bound).sum := by
        refine ih hrest fun e he => ?_
        rcases hlater e he with hzero | ⟨c, hc, hckey, hcle⟩
        · exact .inl hzero
        · have hne : c ≠ cover := by
            rintro rfl
            exact hfresh (mem_map.2 ⟨e, he, hckey.symm.trans hkey⟩)
          refine .inr ⟨c, ?_, hckey, hcle⟩
          simpa [hne] using hc
      simp only [map_append, map_cons, sum_append, sum_cons] at hsum ⊢
      omega

end OrderedMap
