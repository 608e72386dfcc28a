import Mathlib

/-!
# Lists kept in step by updates

A producer sends every row that the consumer's list does not contain; the consumer puts a row in the
place of the first one with its key, or at the end. `Updated` says which new lists it arrives at.
-/

namespace Delta

open List

variable {α κ : Type*} [DecidableEq κ] (key : α → κ) {row : α}

/-- Replaces the first row that has the key of `row`, or appends `row` when there is none. -/
def update (row : α) : List α → List α
  | [] => [row]
  | r :: rest => if key r = key row then row :: rest else r :: update row rest

/-- The new list goes through the old one in order. A row stays as it is, or it is the first with its
key and changes to a fresh row with the same key; what follows the old rows is fresh, with keys of its
own. `seen` are the keys before. -/
def Updated (fresh : α → Prop) (seen : List κ) : List α → List α → Prop
  | [], new => (new.map key).Nodup ∧ ∀ row ∈ new, key row ∉ seen ∧ fresh row
  | _ :: _, [] => False
  | o :: old, n :: new =>
    key n = key o ∧ (n = o ∨ key o ∉ seen ∧ fresh n) ∧ Updated fresh (key o :: seen) old new

variable {key}

theorem update_append_of_notMem {front : List α} (back : List α) (h : key row ∉ front.map key) :
    update key row (front ++ back) = front ++ update key row back := by
  induction front with
  | nil => rfl
  | cons r front ih =>
    rw [map_cons, mem_cons, not_or] at h
    rw [cons_append, update, if_neg (Ne.symm h.1), ih h.2, cons_append]

section Updated

variable {fresh : α → Prop} {seen : List κ}

omit [DecidableEq κ] in
theorem Updated.refl (old : List α) : Updated key fresh seen old old := by
  induction old generalizing seen with
  | nil => exact ⟨nodup_nil, nofun⟩
  | cons o old ih => exact ⟨rfl, .inl rfl, ih⟩

omit [DecidableEq κ] in
theorem Updated.length_le {old new : List α} (h : Updated key fresh seen old new) :
    old.length ≤ new.length := by
  induction old generalizing seen new with
  | nil => exact Nat.zero_le _
  | cons o old ih =>
    cases new with
    | nil => exact h.elim
    | cons n new => exact Nat.succ_le_succ (ih h.2.2)

theorem map_key_update (row : α) (rows : List α) : (update key row rows).map key =
    if key row ∈ rows.map key then rows.map key else rows.map key ++ [key row] := by
  induction rows with
  | nil => simp [update]
  | cons r rest ih =>
    by_cases h : key r = key row
    · simp [update, h]
    · have hne : key row ≠ key r := Ne.symm h
      rw [update, if_neg h, map_cons, ih]
      by_cases hmem : key row ∈ rest.map key
      · rw [if_pos hmem, if_pos (by simp [hmem]), map_cons]
      · rw [if_neg hmem, if_neg (by simpa [hne] using hmem), map_cons, cons_append]

theorem mem_update {row r : α} {rows : List α} (h : r ∈ update key row rows) : r = row ∨ r ∈ rows := by
  induction rows with
  | nil => exact .inl (mem_singleton.1 h)
  | cons s rest ih =>
    rw [update] at h
    split_ifs at h with hs
    · exact (mem_cons.1 h).imp_right (mem_cons_of_mem s)
    · rcases mem_cons.1 h with rfl | h
      · exact .inr mem_cons_self
      · exact (ih h).imp_right (mem_cons_of_mem s)

/-- One more fresh row. -/
theorem Updated.update {old new : List α} (h : Updated key fresh seen old new)
    (hrow : key row ∉ seen) (hfresh : fresh row) :
    Updated key fresh seen old (update key row new) := by
  induction old generalizing seen new with
  | nil =>
    obtain ⟨hnodup, hnew⟩ := h
    refine ⟨?_, fun r hr => ?_⟩
    · rw [map_key_update]
      split_ifs with hmem
      · exact hnodup
      · exact hnodup.append (nodup_singleton _) (by simpa using hmem)
    · rcases mem_update hr with rfl | hr
      · exact ⟨hrow, hfresh⟩
      · exact hnew r hr
  | cons o old ih =>
    cases new with
    | nil => exact h.elim
    | cons n new =>
      obtain ⟨hkey, hchange, hrest⟩ := h
      rw [Delta.update]
      split_ifs with hn
      · exact ⟨hn.symm.trans hkey, .inr ⟨by rwa [← hkey, hn], hfresh⟩, hrest⟩
      · have hrow' : key row ∉ key o :: seen := by
          rw [mem_cons, not_or]
          exact ⟨fun heq => hn (hkey.trans heq.symm), hrow⟩
        exact ⟨hkey, hchange, ih hrest hrow'⟩

theorem Updated.foldl_update {old new rows : List α} (h : Updated key fresh [] old new)
    (hfresh : ∀ row ∈ rows, fresh row) :
    Updated key fresh [] old (rows.foldl (fun new row => Delta.update key row new) new) := by
  induction rows generalizing new with
  | nil => exact h
  | cons row rows ih =>
    obtain ⟨hrow, hrows⟩ := forall_mem_cons.1 hfresh
    exact ih (h.update not_mem_nil hrow) hrows

end Updated

/-! ## Replaying what the consumer does not have -/

/-- The states after each update all satisfy `p`. -/
def Checked (key : α → κ) (p : List α → Prop) : List α → List α → Prop
  | _, [] => True
  | rows, row :: rest => p (update key row rows) ∧ Checked key p (update key row rows) rest

section Replay

variable {p : List α → Prop}

omit [DecidableEq κ] in
/-- The border between the new and the old list moves by one. -/
theorem forall_mix_cons (front back : List α) (row : α) (rest : List α) :
    (∀ k ≤ (row :: rest).length, p (front ++ ((row :: rest).take k ++ back.drop k))) ↔
      p (front ++ back) ∧ ∀ k ≤ rest.length, p (front ++ [row] ++ (rest.take k ++ back.tail.drop k)) := by
  constructor
  · intro h
    refine ⟨by simpa using h 0 (Nat.zero_le _), fun k hk => ?_⟩
    simpa using h (k + 1) (Nat.succ_le_succ hk)
  · rintro ⟨hzero, hsucc⟩ k hk
    cases k with
    | zero => simpa using hzero
    | succ k => simpa using hsucc k (Nat.le_of_succ_le_succ hk)

variable [DecidableEq α] {old : List α}

/-- The claim about the border: the updates that are left go to the end of the new list, and their
states are the mixes of a start of what is to come with the rest of the old list. -/
def Replays (key : α → κ) (p : List α → Prop) (old front back rest : List α) : Prop :=
  (rest.filter (· ∉ old)).foldl (fun rows row => update key row rows) (front ++ back) = front ++ rest ∧
    (p (front ++ back) → (Checked key p (front ++ back) (rest.filter (· ∉ old)) ↔
      ∀ k ≤ rest.length, p (front ++ (rest.take k ++ back.drop k))))

/-- The border moves over a row that the consumer has. -/
theorem Replays.keep {front back rest : List α} (hrow : row ∈ old)
    (h : Replays key p old (front ++ [row]) back rest) :
    Replays key p old front (row :: back) (row :: rest) := by
  obtain ⟨hfold, hchecked⟩ := h
  rw [append_assoc, singleton_append] at hfold hchecked
  have hfilter : (row :: rest).filter (· ∉ old) = rest.filter (· ∉ old) :=
    filter_cons_of_neg (by simpa using hrow)
  refine ⟨by rw [hfilter, hfold, append_assoc]; rfl, fun hp => ?_⟩
  rw [hfilter, hchecked hp, forall_mix_cons]
  exact (and_iff_right hp).symm

/-- The border moves over a row that an update puts there. -/
theorem Replays.change {front back rest : List α} (hrow : row ∉ old)
    (hupdate : update key row (front ++ back) = front ++ [row] ++ back.tail)
    (h : Replays key p old (front ++ [row]) back.tail rest) :
    Replays key p old front back (row :: rest) := by
  obtain ⟨hfold, hchecked⟩ := h
  have hfilter : (row :: rest).filter (· ∉ old) = row :: rest.filter (· ∉ old) :=
    filter_cons_of_pos (by simpa using hrow)
  refine ⟨by rw [hfilter, foldl_cons, hupdate, hfold, append_assoc]; rfl, fun hp => ?_⟩
  rw [hfilter, Checked, hupdate, forall_mix_cons, and_iff_right hp]
  constructor
  · rintro ⟨hnext, hrest⟩
    exact (hchecked hnext).1 hrest
  · intro hall
    have hnext : p (front ++ [row] ++ back.tail) := by simpa using hall 0 (Nat.zero_le _)
    exact ⟨hnext, (hchecked hnext).2 hall⟩

theorem replays_of_updated {seen : List κ} (front back rest : List α)
    (h : Updated key (· ∉ old) seen back rest) (hseen : ∀ k, k ∈ seen ↔ k ∈ front.map key)
    (hback : ∀ row ∈ back, row ∈ old) : Replays key p old front back rest := by
  induction back generalizing seen front rest with
  | nil =>
    obtain ⟨hnodup, hnew⟩ := h
    induction rest generalizing seen front with
    | nil => exact ⟨rfl, fun hp => by simpa [Checked] using hp⟩
    | cons row rest ih =>
      obtain ⟨hrowKey, hkeys⟩ := nodup_cons.1 hnodup
      obtain ⟨⟨hrow, hfresh⟩, hrest⟩ := forall_mem_cons.1 hnew
      have hend : update key row (front ++ []) = front ++ [row] ++ [].tail := by
        rw [update_append_of_notMem [] ((hseen _).not.1 hrow)]
        simp [update]
      have hseen' : ∀ k, k ∈ key row :: seen ↔ k ∈ (front ++ [row]).map key := by
        intro k
        simp [hseen, or_comm]
      refine Replays.change hfresh hend (ih (front ++ [row]) hseen' hkeys ?_)
      intro other hother
      obtain ⟨hseenOther, hfreshOther⟩ := hrest other hother
      refine ⟨?_, hfreshOther⟩
      rw [mem_cons, not_or]
      exact ⟨fun heq => hrowKey (heq ▸ mem_map_of_mem hother), hseenOther⟩
  | cons o back ih =>
    cases rest with
    | nil => exact h.elim
    | cons n rest =>
      obtain ⟨hkey, hchange, hrest⟩ := h
      obtain ⟨ho, hbackRest⟩ := forall_mem_cons.1 hback
      have hseen' : ∀ k, k ∈ key o :: seen ↔ k ∈ (front ++ [n]).map key := by
        intro k
        simp [hseen, or_comm, hkey]
      have hnext := ih (front ++ [n]) rest hrest hseen' hbackRest
      rcases hchange with rfl | ⟨hfirst, hfresh⟩
      · exact hnext.keep ho
      · refine Replays.change hfresh ?_ hnext
        rw [update_append_of_notMem (o :: back) (by rw [hkey]; exact (hseen _).not.1 hfirst), update,
          if_pos hkey.symm, append_assoc]
        rfl

/-- The updates take the old list to the new one exactly when the new one keeps the old places. -/
theorem foldl_update_eq_iff (new : List α) :
    (new.filter (· ∉ old)).foldl (fun rows row => update key row rows) old = new ↔
      Updated key (· ∉ old) [] old new := by
  constructor
  · intro h
    have hrefl : Updated key (· ∉ old) [] old old := Updated.refl old
    have hfresh : ∀ row ∈ new.filter (· ∉ old), row ∉ old := fun row hrow => by
      simpa using (mem_filter.1 hrow).2
    have hfold := hrefl.foldl_update hfresh
    rwa [h] at hfold
  · intro h
    have hreplays : Replays key (fun _ => True) old [] old new :=
      replays_of_updated [] old new h (by simp) fun _ hrow => hrow
    exact hreplays.1

/-- The states on the way are the mixes of a start of the new list with the rest of the old one. -/
theorem checked_iff {new : List α} (h : Updated key (· ∉ old) [] old new) (hp : p old) :
    Checked key p old (new.filter (· ∉ old)) ↔
      ∀ k ≤ new.length, p (new.take k ++ old.drop k) := by
  have hreplays : Replays key p old [] old new :=
    replays_of_updated [] old new h (by simp) fun _ hrow => hrow
  simpa using hreplays.2 hp

end Replay

end Delta
