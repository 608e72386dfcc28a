import Mathlib

/-!
# Which parts of a state a step writes

`Writes` says that two states agree on every part outside a list, so that a property which reads none of
the listed parts carries over. The parts a composed step writes are those of its steps.
-/

/-- The parts of a state, each with the type of its value. -/
structure Layout (σ ι : Type*) where
  Value : ι → Type*
  part : (i : ι) → σ → Value i

namespace Layout

variable {σ ι : Type*} (L : Layout σ ι)

/-- The states agree outside the listed parts. -/
def Writes (written : List ι) (s s' : σ) : Prop := ∀ i, i ∉ written → L.part i s' = L.part i s

variable {L} {written written' : List ι} {s s₁ s' : σ}

theorem Writes.refl (written : List ι) (s : σ) : L.Writes written s s := fun _ _ => rfl

theorem Writes.trans (h : L.Writes written s s₁) (h' : L.Writes written s₁ s') :
    L.Writes written s s' := fun i hi => (h' i hi).trans (h i hi)

theorem Writes.append (h : L.Writes written s s₁) (h' : L.Writes written' s₁ s') :
    L.Writes (written ++ written') s s' := fun i hi =>
  (h' i fun hmem => hi (List.mem_append_right _ hmem)).trans
    (h i fun hmem => hi (List.mem_append_left _ hmem))

/-- A step that writes some parts writes at most more of them. -/
theorem Writes.mono (h : L.Writes written s s') (hsub : written ⊆ written') :
    L.Writes written' s s' := fun i hi => h i fun hmem => hi (hsub hmem)

end Layout
