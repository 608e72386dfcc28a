import Mathlib

/-!
# Sorting and removing repetitions

`sortDedup` sorts a list by the order of its elements and drops each element that repeats the one
before it. The members stay the same.
-/

namespace SortDedup

open List

variable {α : Type*} {l : List α} {a : α}

/-- Without the elements that are equal to the next one. -/
def dedup [DecidableEq α] : List α → List α
  | [] => []
  | [a] => [a]
  | a :: b :: rest => if a = b then dedup (b :: rest) else a :: dedup (b :: rest)

/-- The list in the order of `compare`, equal elements in their old order. -/
def sort [Ord α] (l : List α) : List α := l.insertionSort fun a b => (compare a b).isLE = true

/-- The list in the order of `compare`, without repetitions of adjacent elements. -/
def sortDedup [Ord α] [DecidableEq α] (l : List α) : List α := dedup (sort l)

/-- The list in the order of a key, elements of one key in their old order. -/
def sortBy {κ : Type*} [Ord κ] (key : α → κ) (l : List α) : List α :=
  l.insertionSort fun a b => (compare (key a) (key b)).isLE = true

@[simp]
theorem mem_dedup [DecidableEq α] : a ∈ dedup l ↔ a ∈ l := by
  induction l using dedup.induct with
  | case1 => rfl
  | case2 b => rfl
  | case3 b rest ih =>
    rw [dedup, if_pos rfl, ih]
    simp
  | case4 b _ _ hne ih =>
    rw [dedup, if_neg hne, mem_cons, ih, mem_cons (a := a) (b := b)]

theorem perm_sort [Ord α] (l : List α) : (sort l).Perm l := perm_insertionSort _ l

theorem perm_sortBy {κ : Type*} [Ord κ] (key : α → κ) (l : List α) : (sortBy key l).Perm l :=
  perm_insertionSort _ l

@[simp]
theorem mem_sortBy {κ : Type*} [Ord κ] {key : α → κ} : a ∈ sortBy key l ↔ a ∈ l :=
  (perm_sortBy key l).mem_iff

/-- Lists that sort alike have the same elements. -/
theorem perm_of_sort [Ord α] {l l' : List α} (h : sort l = sort l') : l.Perm l' := by
  have hperm := perm_sort l'
  rw [← h] at hperm
  exact (perm_sort l).symm.trans hperm

@[simp]
theorem mem_sort [Ord α] : a ∈ sort l ↔ a ∈ l :=
  (perm_sort l).mem_iff

@[simp]
theorem mem_sortDedup [Ord α] [DecidableEq α] :
    a ∈ sortDedup l ↔ a ∈ l := by
  rw [sortDedup, mem_dedup, mem_sort]

/-! ## Order -/

section Order

variable [Ord α] [Std.TransOrd α]

theorem pairwise_sort (l : List α) : (sort l).Pairwise fun a b => (compare a b).isLE = true := by
  have : IsTrans α fun a b : α => (compare a b).isLE = true :=
    ⟨fun _ _ _ hab hbc => Std.TransCmp.isLE_trans hab hbc⟩
  have : Std.Total fun a b : α => (compare a b).isLE = true := by
    refine ⟨fun a b => ?_⟩
    have hswap : compare b a = (compare a b).swap := Std.OrientedOrd.eq_swap
    rw [hswap]
    cases compare a b <;> simp
  exact pairwise_insertionSort _ l

/-- Without repetitions a sorted list strictly increases. -/
theorem pairwise_dedup [Std.LawfulEqOrd α] [DecidableEq α]
    (h : l.Pairwise fun a b => (compare a b).isLE = true) :
    (dedup l).Pairwise fun a b => compare a b = .lt := by
  induction l using dedup.induct with
  | case1 => exact List.Pairwise.nil
  | case2 b => exact pairwise_singleton _ _
  | case3 b rest ih =>
    rw [dedup, if_pos rfl]
    exact ih (pairwise_cons.1 h).2
  | case4 b c _ hne ih =>
    obtain ⟨hhead, htail⟩ := pairwise_cons.1 h
    rw [dedup, if_neg hne]
    refine pairwise_cons.2 ⟨fun x hx => ?_, ih htail⟩
    have hbx := hhead x (mem_dedup.1 hx)
    cases hcompare : compare b x with
    | lt => rfl
    | gt => simp [hcompare] at hbx
    | eq =>
      -- then `x` would be both above and below its neighbour
      obtain rfl : b = x := Std.compare_eq_iff_eq.1 hcompare
      rcases mem_cons.1 (mem_dedup.1 hx) with heq | hrest
      · exact absurd heq hne
      · have hcb := (pairwise_cons.1 htail).1 b hrest
        have hbc := hhead c mem_cons_self
        exact absurd (Std.compare_eq_iff_eq.1 (Std.OrientedCmp.isLE_antisymm hbc hcb)) hne

theorem nodup_sortDedup [Std.LawfulEqOrd α] [DecidableEq α] (l : List α) :
    (sortDedup l).Nodup := by
  refine List.Pairwise.imp (fun {a b} hlt heq => ?_) (pairwise_dedup (pairwise_sort l))
  rw [Std.compare_eq_iff_eq.2 heq] at hlt
  cases hlt

/-- A list that loses nothing has no repetitions. -/
theorem nodup_of_length_sortDedup [Std.LawfulEqOrd α] [DecidableEq α]
    (h : (sortDedup l).length = l.length) : l.Nodup := by
  have hsub : (sortDedup l).Subperm l :=
    subperm_of_subset (nodup_sortDedup l) fun _ ha => mem_sortDedup.1 ha
  exact (hsub.perm_of_length_le (le_of_eq h.symm)).nodup_iff.1 (nodup_sortDedup l)

/-! ## Normal forms -/

/-- Lists with the same members have the same normal form. -/
theorem sortDedup_congr [Std.LawfulEqOrd α] [DecidableEq α] {l l' : List α}
    (h : ∀ a, a ∈ l ↔ a ∈ l') : sortDedup l = sortDedup l' := by
  have hperm : (sortDedup l).Perm (sortDedup l') :=
    (perm_ext_iff_of_nodup (nodup_sortDedup l) (nodup_sortDedup l')).2 fun a => by
      rw [mem_sortDedup, mem_sortDedup, h]
  refine hperm.eq_of_pairwise (fun a b _ _ hab hba => ?_) (pairwise_dedup (pairwise_sort l))
    (pairwise_dedup (pairwise_sort l'))
  rw [Std.OrientedOrd.eq_swap (a := b), hab] at hba
  cases hba

@[simp]
theorem sortDedup_sortDedup [Std.LawfulEqOrd α] [DecidableEq α] (l : List α) :
    sortDedup (sortDedup l) = sortDedup l :=
  sortDedup_congr fun _ => mem_sortDedup

theorem length_sortDedup [Std.LawfulEqOrd α] [DecidableEq α] (l : List α) :
    (sortDedup l).length = l.toFinset.card := by
  rw [← toFinset_card_of_nodup (nodup_sortDedup l)]
  congr 1
  ext a
  simp

theorem length_sortDedup_le [Std.LawfulEqOrd α] [DecidableEq α] (l : List α) :
    (sortDedup l).length ≤ l.length := by
  rw [length_sortDedup]
  exact toFinset_card_le l

end Order

@[simp]
theorem sortDedup_eq_nil [Ord α] [DecidableEq α] : sortDedup l = [] ↔ l = [] := by
  simp only [eq_nil_iff_forall_not_mem, mem_sortDedup]

/-! ## Sorting by a key -/

section SortBy

variable {κ : Type*} [Ord κ] {key : α → κ} {l l' : List α}

/-- A change that keeps the keys may come before or after the sort. -/
theorem map_sortBy {f : α → α} (hkey : ∀ a, key (f a) = key a) :
    (sortBy key l).map f = sortBy key (l.map f) :=
  map_insertionSort _ _ f l fun a _ b _ => by rw [hkey a, hkey b]

/-- Elements of one key keep their order. -/
theorem filter_sortBy [Std.LawfulEqOrd κ] [DecidableEq κ] (k : κ) :
    (sortBy key l).filter (key · = k) = l.filter (key · = k) := by
  have hequal : (l.filter (key · = k)).Pairwise
      fun a b => (compare (key a) (key b)).isLE = true := by
    refine pairwise_of_forall_mem_list fun a ha b hb => ?_
    have hkeys : key a = key b := by
      rw [of_decide_eq_true (mem_filter.1 ha).2, of_decide_eq_true (mem_filter.1 hb).2]
    rw [hkeys, Std.ReflOrd.compare_self]
    rfl
  have hsub : (l.filter (key · = k)).Sublist (sortBy key l) :=
    sublist_insertionSort hequal filter_sublist
  have hfiltered := hsub.filter (key · = k)
  rw [filter_filter] at hfiltered
  simp only [Bool.and_self] at hfiltered
  exact (hfiltered.eq_of_length ((perm_sortBy key l).filter _).length_eq.symm).symm

variable [Std.TransOrd κ]

theorem pairwise_sortBy (l : List α) :
    (sortBy key l).Pairwise fun a b => (compare (key a) (key b)).isLE = true := by
  have : IsTrans α fun a b : α => (compare (key a) (key b)).isLE = true :=
    ⟨fun _ _ _ hab hbc => Std.TransCmp.isLE_trans hab hbc⟩
  have : Std.Total fun a b : α => (compare (key a) (key b)).isLE = true := by
    refine ⟨fun a b => ?_⟩
    rw [Std.OrientedOrd.eq_swap (a := key b)]
    cases compare (key a) (key b) <;> simp
  exact pairwise_insertionSort _ l

@[simp]
theorem sortBy_sortBy (l : List α) : sortBy key (sortBy key l) = sortBy key l :=
  (pairwise_sortBy l).insertionSort_eq

/-- Where a key stands for one element, the order of the input does not matter. -/
theorem sortBy_eq_of_perm [Std.LawfulEqOrd κ] (hperm : l.Perm l')
    (hinj : ∀ a ∈ l, ∀ b ∈ l, key a = key b → a = b) : sortBy key l = sortBy key l' := by
  have hsorted : (sortBy key l).Perm (sortBy key l') :=
    (perm_sortBy key l).trans (hperm.trans (perm_sortBy key l').symm)
  refine hsorted.eq_of_pairwise (fun a b ha hb hab hba => ?_) (pairwise_sortBy l)
    (pairwise_sortBy l')
  exact hinj a (mem_sortBy.1 ha) b (hperm.mem_iff.2 (mem_sortBy.1 hb))
    (Std.compare_eq_iff_eq.1 (Std.OrientedCmp.isLE_antisymm hab hba))

end SortBy

end SortDedup
