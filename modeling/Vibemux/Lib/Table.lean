import Mathlib

/-!
# Tables with a primary key

A table is the list of its rows in the order they were inserted, and a column is a function of the row.
`lookup` selects by a column, `put` replaces the row of a key, `upsert` inserts it when its key is new.
-/

namespace Table

open List

variable {ρ κ : Type*} [DecidableEq κ] (key : ρ → κ) {rows : List ρ} {k : κ} {row r : ρ}

/-- The first row whose column has the given value. -/
def lookup (rows : List ρ) (k : κ) : Option ρ := rows.find? fun r => decide (key r = k)

/-- Replaces the row that has the key of `row`. -/
def put (rows : List ρ) (row : ρ) : List ρ := rows.map fun r => if key r = key row then row else r

/-- Replaces the row that has the key of `row`, or inserts `row` when there is none. -/
def upsert (rows : List ρ) (row : ρ) : List ρ :=
  if (lookup key rows (key row)).isSome then put key rows row else rows ++ [row]

/-- No two rows have the same key. -/
def Unique (rows : List ρ) : Prop := (rows.map key).Nodup

variable {key}

theorem lookup_eq_none :
    lookup key rows k = none ↔ ∀ r ∈ rows, key r ≠ k := by
  simp [lookup]

theorem mem_of_lookup (h : lookup key rows k = some r) :
    r ∈ rows := mem_of_find?_eq_some h

theorem key_of_lookup (h : lookup key rows k = some r) :
    key r = k := by
  have hk := find?_some h
  simpa using hk

theorem lookup_append (rows new : List ρ) (k : κ) :
    lookup key (rows ++ new) k = (lookup key rows k).or (lookup key new k) := by
  simp [lookup, find?_append]

theorem lookup_append_of_isSome (h : lookup key rows k = some r) (new : List ρ) :
    lookup key (rows ++ new) k = some r := by
  rw [lookup_append, h, Option.some_or]

theorem lookup_append_of_ne (h : key row ≠ k) :
    lookup key (rows ++ [row]) k = lookup key rows k := by
  have hnew : lookup key [row] k = none := by simpa [lookup] using h
  rw [lookup_append, hnew, Option.or_none]

theorem lookup_append_self (h : lookup key rows (key row) = none) :
    lookup key (rows ++ [row]) (key row) = some row := by
  rw [lookup_append, h, Option.none_or]
  simp [lookup]

theorem lookup_cons (r : ρ) (rest : List ρ) (k : κ) :
    lookup key (r :: rest) k = if key r = k then some r else lookup key rest k := by
  by_cases h : key r = k
  · simp [lookup, h]
  · simp [lookup, h]

theorem put_cons (r : ρ) (rest : List ρ) (row : ρ) :
    put key (r :: rest) row = (if key r = key row then row else r) :: put key rest row := rfl

theorem lookup_put_of_ne (h : k ≠ key row) :
    lookup key (put key rows row) k = lookup key rows k := by
  induction rows with
  | nil => rfl
  | cons r rest ih =>
    rw [put_cons, lookup_cons, lookup_cons, ih]
    by_cases hr : key r = key row
    · have hrk : key r ≠ k := fun hk => h (hk.symm.trans hr)
      rw [if_pos hr, if_neg (Ne.symm h), if_neg hrk]
    · rw [if_neg hr]

theorem lookup_put_self (h : lookup key rows (key row) = some r) :
    lookup key (put key rows row) (key row) = some row := by
  induction rows with
  | nil => simp [lookup] at h
  | cons a rest ih =>
    rw [put_cons, lookup_cons]
    by_cases ha : key a = key row
    · rw [if_pos ha, if_pos rfl]
    · rw [lookup_cons, if_neg ha] at h
      rw [if_neg ha, if_neg ha, ih h]

theorem mem_put (h : r ∈ put key rows row) :
    r = row ∨ (r ∈ rows ∧ key r ≠ key row) := by
  obtain ⟨a, ha, hr⟩ := mem_map.1 h
  by_cases hk : key a = key row
  · rw [if_pos hk] at hr
    exact .inl hr.symm
  · rw [if_neg hk] at hr
    exact .inr (hr ▸ ⟨ha, hk⟩)

theorem mem_put_of_ne (h : r ∈ rows) (hk : key r ≠ key row) :
    r ∈ put key rows row := mem_map.2 ⟨r, h, if_neg hk⟩

/-- A replaced row that agrees with the new one on `f` leaves the column `f`. -/
theorem map_put {τ : Type*} {f : ρ → τ} (h : ∀ r ∈ rows, key r = key row → f r = f row) :
    (put key rows row).map f = rows.map f := by
  rw [put, map_map]
  refine map_congr_left fun r hr => ?_
  by_cases hk : key r = key row
  · simp [hk, h r hr hk]
  · simp [hk]

theorem map_key_put (rows : List ρ) (row : ρ) : (put key rows row).map key = rows.map key :=
  map_put fun _ _ hk => hk

theorem Unique.put (h : Unique key rows) (row : ρ) :
    Unique key (put key rows row) := by
  unfold Unique
  rw [map_key_put]
  exact h

theorem Unique.append (h : Unique key rows) (hnew : lookup key rows (key row) = none) :
    Unique key (rows ++ [row]) := by
  unfold Unique
  rw [map_append, map_singleton, nodup_append]
  refine ⟨h, nodup_singleton _, ?_⟩
  intro k hk l hl
  obtain ⟨r, hr, rfl⟩ := mem_map.1 hk
  rw [mem_singleton.1 hl]
  exact lookup_eq_none.1 hnew r hr

omit [DecidableEq κ] in
theorem Unique.eq_of_mem (h : Unique key rows) {r r' : ρ} (hr : r ∈ rows) (hr' : r' ∈ rows)
    (hk : key r = key r') : r = r' :=
  inj_on_of_nodup_map h hr hr' hk

theorem Unique.lookup_eq (h : Unique key rows) (hr : r ∈ rows) :
    lookup key rows (key r) = some r := by
  cases hl : lookup key rows (key r) with
  | none => exact absurd rfl (lookup_eq_none.1 hl r hr)
  | some r' =>
    rw [h.eq_of_mem (mem_of_lookup hl) hr (key_of_lookup hl)]

theorem Unique.countP_put (h : Unique key rows) {old new : ρ} {p : ρ → Bool}
    (hold : lookup key rows (key new) = some old) (hp : p old = p new) :
    (Table.put key rows new).countP p = rows.countP p := by
  have hcolumn : (Table.put key rows new).map p = rows.map p := by
    refine map_put fun r hr hk => ?_
    have hrow : some r = some old := (h.lookup_eq hr).symm.trans (hk ▸ hold)
    rw [Option.some.inj hrow, hp]
  have hcount : ∀ l : List ρ, l.countP p = (l.map p).countP id := fun l => by
    rw [countP_map]
    rfl
  rw [hcount, hcolumn, hcount]

omit [DecidableEq κ] in
/-- At most one row satisfies a property that two rows with different keys cannot both have. -/
theorem Unique.length_filter_le_one (h : Unique key rows) (p : ρ → Bool)
    (hp : ∀ r ∈ rows, ∀ r' ∈ rows, p r = true → p r' = true → key r = key r') :
    (rows.filter p).length ≤ 1 := by
  induction rows with
  | nil => exact Nat.zero_le 1
  | cons r rest ih =>
    have htail : Unique key rest := (nodup_cons.1 h).2
    have hrest := ih htail fun a ha b hb => hp a (.tail _ ha) b (.tail _ hb)
    cases hr : p r with
    | false => simpa [filter_cons, hr] using hrest
    | true =>
      -- a second row would have the key of the first
      have hempty : rest.filter p = [] := by
        refine filter_eq_nil_iff.2 fun a ha hpa => ?_
        have hkey := hp r (.head _) a (.tail _ ha) hr hpa
        exact (nodup_cons.1 h).1 (hkey ▸ mem_map_of_mem ha)
      simp [hr, hempty]

theorem lookup_upsert_self (rows : List ρ) (row : ρ) :
    lookup key (upsert key rows row) (key row) = some row := by
  unfold upsert
  cases hl : lookup key rows (key row) with
  | none => simpa [hl] using lookup_append_self hl
  | some r => simpa [hl] using lookup_put_self hl

theorem Unique.upsert (h : Unique key rows) (row : ρ) :
    Unique key (upsert key rows row) := by
  unfold Table.upsert
  cases hl : lookup key rows (key row) with
  | none => simpa [hl] using h.append hl
  | some r => simpa [hl] using h.put row

theorem mem_upsert (h : r ∈ upsert key rows row) : r = row ∨ r ∈ rows := by
  unfold upsert put at h
  split_ifs at h
  · obtain ⟨old, hold, rfl⟩ := mem_map.1 h
    split_ifs
    · exact .inl rfl
    · exact .inr hold
  · simpa [or_comm] using h

theorem lookup_upsert_of_ne (h : k ≠ key row) :
    lookup key (upsert key rows row) k = lookup key rows k := by
  unfold upsert
  split_ifs
  · exact lookup_put_of_ne h
  · exact lookup_append_of_ne (Ne.symm h)

/-- Saving a row, or leaving the table when the row does not change, leaves the row's new value. -/
theorem lookup_saved {old new : ρ} {changed : Bool} (hold : lookup key rows (key new) = some old)
    (hsame : changed = false → new = old) :
    lookup key (if changed = true then upsert key rows new else rows) (key new) = some new := by
  cases changed with
  | true => exact lookup_upsert_self rows new
  | false => rw [if_neg (by decide), hold, hsame rfl]

theorem lookup_saved_of_ne {new : ρ} {changed : Bool} (hk : k ≠ key new) :
    lookup key (if changed = true then upsert key rows new else rows) k = lookup key rows k := by
  cases changed with
  | true => exact lookup_upsert_of_ne hk
  | false => rfl

/-! ## Row by row

Two states of a table whose rows correspond, in the order of the table. -/

section RowByRow

variable {R S T : ρ → ρ → Prop} {rows rows' rows'' : List ρ}

omit [DecidableEq κ] in
theorem forall₂_trans (htrans : ∀ a b c, R a b → S b c → T a c) (h : List.Forall₂ R rows rows')
    (h' : List.Forall₂ S rows' rows'') : List.Forall₂ T rows rows'' := by
  induction h generalizing rows'' with
  | nil =>
    cases h'
    exact .nil
  | cons hhead _ ih =>
    cases h' with
    | cons hhead' htail' => exact .cons (htrans _ _ _ hhead hhead') (ih htail')

omit [DecidableEq κ] in
/-- A column that corresponding rows share. -/
theorem map_of_forall₂ {τ : Type*} {f : ρ → τ} (hf : ∀ a b, R a b → f b = f a)
    (h : List.Forall₂ R rows rows') : rows'.map f = rows.map f := by
  induction h with
  | nil => rfl
  | cons hhead _ ih => rw [map_cons, map_cons, hf _ _ hhead, ih]

omit [DecidableEq κ] in
theorem filter_of_forall₂ {p : ρ → Bool} (hp : ∀ a b, R a b → p b = p a)
    (h : List.Forall₂ R rows rows') : List.Forall₂ R (rows.filter p) (rows'.filter p) := by
  induction h with
  | nil => exact .nil
  | @cons a b _ _ hhead _ ih =>
    cases ha : p a with
    | true =>
      rw [filter_cons_of_pos ha, filter_cons_of_pos ((hp a b hhead).trans ha)]
      exact .cons hhead ih
    | false =>
      rw [filter_cons_of_neg (by simp [ha]),
        filter_cons_of_neg (by simp [hp a b hhead, ha])]
      exact ih

omit [DecidableEq κ] in
theorem mem_of_forall₂ (h : List.Forall₂ R rows rows') {b : ρ} (hb : b ∈ rows') :
    ∃ a ∈ rows, R a b := by
  induction h with
  | nil => cases hb
  | @cons a _ _ _ hhead _ ih =>
    rcases mem_cons.1 hb with rfl | htail
    · exact ⟨a, mem_cons_self, hhead⟩
    · obtain ⟨a', ha', hrow⟩ := ih htail
      exact ⟨a', mem_cons_of_mem a ha', hrow⟩

theorem lookup_of_forall₂ (hkey : ∀ a b, R a b → key b = key a) (h : List.Forall₂ R rows rows')
    (hfound : lookup key rows k = some r) :
    ∃ r', lookup key rows' k = some r' ∧ R r r' := by
  induction h with
  | nil => cases hfound
  | @cons a b _ _ hhead _ ih =>
    rw [lookup_cons] at hfound ⊢
    rw [hkey a b hhead]
    split_ifs at hfound ⊢ with hk
    · cases hfound
      exact ⟨b, rfl, hhead⟩
    · exact ih hfound

end RowByRow

end Table
