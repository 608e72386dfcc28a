import Vibemux.Lib.Checked

/-!
# Runs of a machine that may refuse

A machine is a function `step : σ → ι → Except ε (ρ × σ)`: an input is accepted, with a response and a
new state, or refused, which leaves the state. `exec` keeps the history of the accepted transitions.
`history_invariant` is the induction over a run for the history and the state together; `history_split`
cuts a run at one accepted transition.
-/

namespace Machine

open List

/-- An accepted input, with the states around it. -/
structure Transition (σ ι ρ : Type*) where
  /-- The state the input was applied to. -/
  pre : σ
  /-- The accepted input. -/
  input : ι
  /-- What the machine answered. -/
  response : ρ
  /-- The state after it. -/
  post : σ

variable {σ ι ρ ε : Type*} (step : σ → ι → Except ε (ρ × σ))

/-- Runs the inputs in order from `s`; returns the accepted transitions and the last state. -/
def exec (s : σ) : List ι → List (Transition σ ι ρ) × σ
  | [] => ([], s)
  | i :: is =>
    match step s i with
    | .error _ => exec s is
    | .ok (r, s') => (⟨s, i, r, s'⟩ :: (exec s' is).1, (exec s' is).2)

/-- The accepted transitions of a run. -/
def history (s : σ) (is : List ι) : List (Transition σ ι ρ) := (exec step s is).1

/-- The state a run ends in. -/
def final (s : σ) (is : List ι) : σ := (exec step s is).2

/-- A transition the machine really makes. -/
def Accepts (t : Transition σ ι ρ) : Prop := step t.pre t.input = .ok (t.response, t.post)

variable {step}

@[simp]
theorem history_nil (s : σ) : history step s [] = [] := rfl

@[simp]
theorem final_nil (s : σ) : final step s [] = s := rfl

section

variable {s s' : σ} {i : ι} {r : ρ} (h : step s i = .ok (r, s')) (is : List ι)
include h is

theorem history_cons_ok : history step s (i :: is) = ⟨s, i, r, s'⟩ :: history step s' is := by
  simp [history, exec, h]

theorem final_cons_ok : final step s (i :: is) = final step s' is := by
  simp [final, exec, h]

end

section

variable {s : σ} {i : ι} {e : ε} (h : step s i = .error e) (is : List ι)
include h is

theorem history_cons_error : history step s (i :: is) = history step s is := by
  simp [history, exec, h]

theorem final_cons_error : final step s (i :: is) = final step s is := by
  simp [final, exec, h]

end

theorem final_append (s : σ) (is js : List ι) :
    final step s (is ++ js) = final step (final step s is) js := by
  induction is generalizing s with
  | nil => rfl
  | cons i is ih =>
    cases h : step s i with
    | error e => rw [cons_append, final_cons_error h, final_cons_error h, ih]
    | ok p =>
      obtain ⟨r, s'⟩ := p
      rw [cons_append, final_cons_ok h, final_cons_ok h, ih]

theorem history_append (s : σ) (is js : List ι) :
    history step s (is ++ js) = history step s is ++ history step (final step s is) js := by
  induction is generalizing s with
  | nil => rfl
  | cons i is ih =>
    cases h : step s i with
    | error e =>
      rw [cons_append, history_cons_error h, history_cons_error h, final_cons_error h, ih]
    | ok p =>
      obtain ⟨r, s'⟩ := p
      rw [cons_append, history_cons_ok h, history_cons_ok h, final_cons_ok h, ih,
        cons_append]

/-- An input that is accepted after a run is the last transition of the longer run. -/
theorem mem_history_append {s s' : σ} {is : List ι} {i : ι} {r : ρ}
    (h : step (final step s is) i = .ok (r, s')) :
    ⟨final step s is, i, r, s'⟩ ∈ history step s (is ++ [i]) := by
  rw [history_append, history_cons_ok h]
  exact mem_append_right _ (.head _)

theorem forall_mem_snoc {α : Type*} {p : α → Prop} {l : List α} {a : α} (h : ∀ x ∈ l, p x) (ha : p a) :
    ∀ x ∈ l ++ [a], p x :=
  forall_mem_append.2 ⟨h, forall_mem_singleton.2 ha⟩

/-- Induction over a run: a property of the history and the state that holds at the start and is
kept by every accepted transition holds at the end. -/
theorem history_invariant (I : List (Transition σ ι ρ) → σ → Prop) {s₀ : σ} (h₀ : I [] s₀)
    (hstep : ∀ l s i r s', I l s → step s i = .ok (r, s') → I (l ++ [⟨s, i, r, s'⟩]) s')
    (is : List ι) : I (history step s₀ is) (final step s₀ is) := by
  induction is using reverseRecOn with
  | nil => exact h₀
  | append_singleton is i ih =>
    rw [history_append, final_append]
    cases h : step (final step s₀ is) i with
    | error e => simpa [history_cons_error h, final_cons_error h] using ih
    | ok p =>
      obtain ⟨r, s'⟩ := p
      rw [history_cons_ok h, final_cons_ok h]
      exact hstep _ _ _ _ _ ih h

/-- Induction over a run for a property of the state alone. -/
theorem final_invariant (I : σ → Prop) {s₀ : σ} (h₀ : I s₀)
    (hstep : ∀ s i r s', I s → step s i = .ok (r, s') → I s') (is : List ι) :
    I (final step s₀ is) :=
  history_invariant (fun _ s => I s) h₀ (fun _ s i r s' hI h => hstep s i r s' hI h) is

/-- What holds at the end of a run and not at its start was brought about by one of its steps. -/
theorem exists_step_of_final {p : σ → Prop} {s₀ : σ} {is : List ι} (h₀ : ¬ p s₀)
    (h : p (final step s₀ is)) : ∃ t ∈ history step s₀ is, ¬ p t.pre ∧ p t.post := by
  refine history_invariant (fun l s => p s → ∃ t ∈ l, ¬ p t.pre ∧ p t.post) (fun hp => absurd hp h₀)
    ?_ is h
  intro l s i r s' hinv _ hp'
  by_cases hp : p s
  · obtain ⟨t, ht, hstep⟩ := hinv hp
    exact ⟨t, mem_append_left _ ht, hstep⟩
  · exact ⟨⟨s, i, r, s'⟩, mem_append_right _ (.head _), hp, hp'⟩

section

variable {s₀ : σ} {is : List ι} {t : Transition σ ι ρ}

/-- A run cut at one of its accepted transitions. -/
theorem history_split {l₁ l₂ : List (Transition σ ι ρ)} (h : history step s₀ is = l₁ ++ t :: l₂) :
    ∃ is₁ is₂, history step s₀ is₁ = l₁ ∧ final step s₀ is₁ = t.pre ∧ Accepts step t ∧
      history step t.post is₂ = l₂ ∧ final step t.post is₂ = final step s₀ is := by
  induction is generalizing s₀ l₁ with
  | nil => simp at h
  | cons i is ih =>
    cases hs : step s₀ i with
    | error e =>
      rw [history_cons_error hs] at h
      obtain ⟨is₁, is₂, h₁, h₂, hacc, h₃, h₄⟩ := ih h
      exact ⟨is₁, is₂, h₁, h₂, hacc, h₃, by rw [h₄, final_cons_error hs]⟩
    | ok p =>
      obtain ⟨r, s'⟩ := p
      rw [history_cons_ok hs] at h
      cases l₁ with
      | nil =>
        obtain ⟨rfl, rfl⟩ := cons.inj h
        exact ⟨[], is, rfl, rfl, hs, rfl, (final_cons_ok hs is).symm⟩
      | cons t₁ l₁ =>
        obtain ⟨rfl, hrest⟩ := cons.inj h
        obtain ⟨is₁, is₂, h₁, h₂, hacc, h₃, h₄⟩ := ih hrest
        exact ⟨i :: is₁, is₂, by rw [history_cons_ok hs, h₁], by rw [final_cons_ok hs, h₂], hacc,
          h₃, by rw [h₄, final_cons_ok hs]⟩

theorem accepts_of_mem (h : t ∈ history step s₀ is) : Accepts step t := by
  obtain ⟨l₁, l₂, h⟩ := append_of_mem h
  obtain ⟨-, -, -, -, hacc, -, -⟩ := history_split h
  exact hacc

/-- The state an accepted transition of a run starts from is the end of a shorter run. -/
theorem pre_of_mem (h : t ∈ history step s₀ is) : ∃ is₁, final step s₀ is₁ = t.pre := by
  obtain ⟨l₁, l₂, h⟩ := append_of_mem h
  obtain ⟨is₁, -, -, h₁, -, -, -⟩ := history_split h
  exact ⟨is₁, h₁⟩

end

/-- A one-way door is crossed at most once: where no transition undoes `passed`, and every marked one
makes it true, a run has at most one marked transition. -/
theorem marked_once (passed : σ → Bool) (mark : Transition σ ι ρ → Bool)
    (hstay : ∀ t, Accepts step t → passed t.pre = true → passed t.post = true)
    (hmark : ∀ t, Accepts step t → mark t = true → passed t.pre = false ∧ passed t.post = true)
    (s₀ : σ) (is : List ι) : ((history step s₀ is).filter mark).length ≤ 1 := by
  suffices hinv : ((history step s₀ is).filter mark).length ≤ 1 ∧
      (passed (final step s₀ is) = false → (history step s₀ is).filter mark = []) from hinv.1
  refine history_invariant (fun l s => (l.filter mark).length ≤ 1 ∧
    (passed s = false → l.filter mark = [])) ⟨Nat.zero_le 1, fun _ => rfl⟩ ?_ is
  intro l s i r s' ⟨hlength, hnone⟩ hstep
  have hacc : Accepts step ⟨s, i, r, s'⟩ := hstep
  rw [filter_append]
  cases hm : mark ⟨s, i, r, s'⟩ with
  | false =>
    rw [filter_cons_of_neg (by simp [hm]), filter_nil, append_nil]
    refine ⟨hlength, fun hpost => hnone ?_⟩
    cases hpre : passed s with
    | false => rfl
    | true => exact absurd (hpost.symm.trans (hstay _ hacc hpre)) (by decide)
  | true =>
    obtain ⟨hpre, hpost⟩ := hmark _ hacc hm
    rw [hnone hpre, filter_cons_of_pos hm, filter_nil, nil_append]
    exact ⟨Nat.le_refl 1, fun hpost' => absurd (hpost'.symm.trans hpost) (by decide)⟩

/-- A potential that no transition lowers, and that every marked transition raises past its mark,
orders the marks of a run: they increase strictly, from the potential of the first state on. -/
theorem marks_increase {κ : Type*} [Preorder κ] (floor : σ → κ)
    (mark : Transition σ ι ρ → Option κ)
    (hle : ∀ t, Accepts step t → floor t.pre ≤ floor t.post)
    (hmark : ∀ t m, Accepts step t → mark t = some m → floor t.pre ≤ m ∧ m < floor t.post)
    (s₀ : σ) (is : List ι) :
    ((history step s₀ is).filterMap mark).Pairwise (· < ·) ∧
      (∀ m ∈ (history step s₀ is).filterMap mark, floor s₀ ≤ m) := by
  suffices hinv : floor s₀ ≤ floor (final step s₀ is) ∧
      ((history step s₀ is).filterMap mark).Pairwise (· < ·) ∧
      ∀ m ∈ (history step s₀ is).filterMap mark, floor s₀ ≤ m ∧ m < floor (final step s₀ is) from
    ⟨hinv.2.1, fun m hm => (hinv.2.2 m hm).1⟩
  refine history_invariant (fun l s => floor s₀ ≤ floor s ∧ (l.filterMap mark).Pairwise (· < ·) ∧
    ∀ m ∈ l.filterMap mark, floor s₀ ≤ m ∧ m < floor s) ⟨le_rfl, List.Pairwise.nil, by simp⟩ ?_ is
  intro l s i r s' ⟨hfloor, hsorted, hbound⟩ hstep
  have hacc : Accepts step ⟨s, i, r, s'⟩ := hstep
  have hmono : floor s ≤ floor s' := hle _ hacc
  have hold : ∀ m ∈ l.filterMap mark, floor s₀ ≤ m ∧ m < floor s' := fun m hm =>
    ⟨(hbound m hm).1, lt_of_lt_of_le (hbound m hm).2 hmono⟩
  rw [filterMap_append]
  cases hm : mark ⟨s, i, r, s'⟩ with
  | none =>
    rw [filterMap_cons_none hm, filterMap_nil, append_nil]
    exact ⟨le_trans hfloor hmono, hsorted, hold⟩
  | some n =>
    obtain ⟨hlow, hhigh⟩ := hmark _ n hacc hm
    rw [filterMap_cons_some hm, filterMap_nil]
    refine ⟨le_trans hfloor hmono, ?_, ?_⟩
    · refine pairwise_append.2 ⟨hsorted, pairwise_singleton _ _, ?_⟩
      intro m hm₁ n' hn
      rw [mem_singleton.1 hn]
      exact lt_of_lt_of_le (hbound m hm₁).2 hlow
    · exact forall_mem_snoc hold ⟨le_trans hfloor hlow, hhigh⟩

end Machine
