import Mathlib

/-!
# Sorting with a comparator

`sortWith` is stable insertion sort. A strict total order gives one result for every order of the input.
A comparator with a cycle does not: a chain at the head of the input stays a chain of the result, and
the elements of a cycle form more than one chain.
-/

namespace SortWith

open List

variable {α : Type*} (cmp : α → α → Ordering) {l : List α}

/-- The elements sorted so far are kept in reverse: a new one moves past those it is less than. -/
def insert (sorted : List α) (a : α) : List α :=
  sorted.orderedInsert (fun a b => cmp a b ≠ .lt) a

def sortWith (l : List α) : List α := (l.foldl (insert cmp) []).reverse

/-- The comparator is a strict total order on the elements that satisfy `p`. -/
structure StrictOn (p : α → Prop) : Prop where
  swap : ∀ a b, p a → p b → cmp b a = (cmp a b).swap
  eq : ∀ a b, p a → p b → cmp a b = .eq → a = b
  trans : ∀ a b c, p a → p b → p c → cmp a b = .lt → cmp b c = .lt → cmp a c = .lt

variable {cmp}

theorem perm_insert (sorted : List α) (a : α) : (insert cmp sorted a).Perm (a :: sorted) :=
  perm_orderedInsert _ a sorted

theorem perm_foldl_insert (l sorted : List α) : (l.foldl (insert cmp) sorted).Perm (l ++ sorted) := by
  induction l generalizing sorted with
  | nil => exact .refl _
  | cons a rest ih =>
    refine (ih (insert cmp sorted a)).trans ?_
    exact ((perm_insert sorted a).append_left rest).trans perm_middle

theorem perm_sortWith (l : List α) : (sortWith cmp l).Perm l := by
  have h : (l.foldl (insert cmp) []).Perm (l ++ []) := perm_foldl_insert l []
  rw [append_nil] at h
  exact (reverse_perm _).trans h

/-- A list in order stays as it is. -/
theorem sortWith_eq_self (h : l.Pairwise fun a b => cmp b a ≠ .lt) : sortWith cmp l = l := by
  have hfold : ∀ rest sorted : List α, (sorted.reverse ++ rest).Pairwise (fun a b => cmp b a ≠ .lt) →
      rest.foldl (insert cmp) sorted = rest.reverse ++ sorted := by
    intro rest
    induction rest with
    | nil => simp
    | cons a rest ih =>
      intro sorted hpairwise
      have hlast : ∀ b ∈ sorted, cmp a b ≠ .lt := fun b hb =>
        (pairwise_append.1 hpairwise).2.2 b (mem_reverse.2 hb) a mem_cons_self
      have hinsert : insert cmp sorted a = a :: sorted := by
        cases sorted with
        | nil => rfl
        | cons b sorted => simp [insert, hlast b mem_cons_self]
      rw [foldl_cons, hinsert, ih (a :: sorted) (by simpa using hpairwise)]
      simp
  rw [sortWith, hfold l [] (by simpa using h), append_nil, reverse_reverse]

/-! ## Total orders -/

section Strict

variable {p : α → Prop}

section

variable (hcmp : StrictOn cmp p)
include hcmp

theorem pairwise_insert {sorted : List α} {a : α}
    (hsorted : ∀ b ∈ sorted, p b) (ha : p a) (hfresh : a ∉ sorted)
    (h : sorted.Pairwise fun b c => cmp c b = .lt) :
    (insert cmp sorted a).Pairwise fun b c => cmp c b = .lt := by
  induction sorted with
  | nil => exact pairwise_singleton _ a
  | cons b rest ih =>
    have hb : p b := hsorted b mem_cons_self
    have hrest : ∀ c ∈ rest, p c := fun c hc => hsorted c (mem_cons_of_mem b hc)
    obtain ⟨hhead, htail⟩ := pairwise_cons.1 h
    have hswap := hcmp.swap a b ha hb
    unfold insert at ih ⊢
    rw [orderedInsert_cons]
    split_ifs with hab
    · -- `a` is not less than the last element, so it is greater
      have hba : cmp b a = .lt := by
        cases hcase : cmp a b with
        | lt => exact absurd hcase hab
        | eq => exact absurd (hcmp.eq a b ha hb hcase) fun heq => hfresh (heq ▸ mem_cons_self)
        | gt => rw [hswap, hcase]; rfl
      refine pairwise_cons.2 ⟨fun c hc => ?_, h⟩
      rcases mem_cons.1 hc with rfl | hc
      · exact hba
      · exact hcmp.trans c b a (hrest c hc) hb ha (hhead c hc) hba
    · have hlt : cmp a b = .lt := by simpa using hab
      refine pairwise_cons.2 ⟨fun c hc => ?_, ?_⟩
      · rcases mem_cons.1 ((perm_orderedInsert _ a rest).mem_iff.1 hc) with rfl | hc
        · exact hlt
        · exact hhead c hc
      · exact ih hrest (fun hmem => hfresh (mem_cons_of_mem b hmem)) htail

theorem pairwise_foldl_insert {l sorted : List α}
    (hp : ∀ a ∈ l ++ sorted, p a) (hnodup : (l ++ sorted).Nodup)
    (h : sorted.Pairwise fun b c => cmp c b = .lt) :
    (l.foldl (insert cmp) sorted).Pairwise fun b c => cmp c b = .lt := by
  induction l generalizing sorted with
  | nil => exact h
  | cons a rest ih =>
    have hperm : (rest ++ insert cmp sorted a).Perm (a :: rest ++ sorted) :=
      ((perm_insert sorted a).append_left rest).trans perm_middle
    have hfresh : a ∉ sorted := fun hmem =>
      (nodup_cons.1 hnodup).1 (mem_append_right rest hmem)
    refine ih (fun b hb => hp b (hperm.mem_iff.1 hb)) (hperm.nodup_iff.2 hnodup) ?_
    exact pairwise_insert hcmp (fun b hb => hp b (mem_append_right _ hb))
      (hp a (mem_append_left _ mem_cons_self)) hfresh h

theorem pairwise_sortWith (hp : ∀ a ∈ l, p a) (hnodup : l.Nodup) :
    (sortWith cmp l).Pairwise fun a b => cmp a b = .lt := by
  refine pairwise_reverse.2 (pairwise_foldl_insert hcmp ?_ ?_ List.Pairwise.nil)
  · rwa [append_nil]
  · rwa [append_nil]

/-- The order of the input does not matter. -/
theorem sortWith_perm {l l' : List α} (hp : ∀ a ∈ l, p a)
    (hnodup : l.Nodup) (h : l'.Perm l) : sortWith cmp l' = sortWith cmp l := by
  have hp' : ∀ a ∈ l', p a := fun a ha => hp a (h.mem_iff.1 ha)
  have hperm : (sortWith cmp l').Perm (sortWith cmp l) :=
    (perm_sortWith l').trans (h.trans (perm_sortWith l).symm)
  refine hperm.eq_of_pairwise (fun a b ha hb hab hba => ?_)
    (pairwise_sortWith hcmp hp' (h.nodup_iff.2 hnodup)) (pairwise_sortWith hcmp hp hnodup)
  have hpa := hp' a ((perm_sortWith l').mem_iff.1 ha)
  have hpb := hp b ((perm_sortWith l).mem_iff.1 hb)
  rw [hcmp.swap a b hpa hpb, hab] at hba
  cases hba

end

end Strict

/-! ## Cycles -/

theorem sublist_foldl_insert (l sorted : List α) : sorted.Sublist (l.foldl (insert cmp) sorted) := by
  induction l generalizing sorted with
  | nil => exact .refl _
  | cons a rest ih => exact (sublist_orderedInsert a sorted).trans (ih (insert cmp sorted a))

/-- A chain of three at the head of the input keeps its order. -/
theorem sublist_sortWith_of_chain {a b c : α} (hab : cmp b a ≠ .lt) (hbc : cmp c b ≠ .lt)
    (rest : List α) : [a, b, c].Sublist (sortWith cmp (a :: b :: c :: rest)) := by
  have hplaced : insert cmp (insert cmp (insert cmp [] a) b) c = [c, b, a] := by
    simp [insert, hab, hbc]
  unfold sortWith
  rw [foldl_cons, foldl_cons, foldl_cons, hplaced]
  exact (sublist_foldl_insert rest [c, b, a]).reverse

/-- Two elements stand in one order only. -/
theorem not_sublist_swap {a b : α} (hnodup : l.Nodup) (h : [a, b].Sublist l) :
    ¬[b, a].Sublist l := by
  induction l with
  | nil => cases h
  | cons c rest ih =>
    obtain ⟨hfresh, hrest⟩ := nodup_cons.1 hnodup
    intro h'
    cases h with
    | cons _ htail =>
      cases h' with
      | cons _ htail' => exact ih hrest htail htail'
      | cons_cons _ htail' => exact hfresh (htail.subset (by simp))
    | cons_cons _ htail =>
      cases h' with
      | cons _ htail' => exact hfresh (htail'.subset (by simp))
      | cons_cons _ htail' => exact hfresh (htail.subset (by simp))

end SortWith
