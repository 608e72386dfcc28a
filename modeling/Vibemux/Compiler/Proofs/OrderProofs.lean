import Vibemux.Compiler.TaskSpec

/-!
# The orders of the specification's parts

Every list of a specification is sorted by a derived order. They are total orders, and elements that
compare equal are equal.
-/

namespace Vibemux

section Derived

variable {α β : Type} [Ord α] [Ord β]

/-- An order that agrees with a transitive comparison. -/
theorem transOrd_of_cmp (cmp : α → α → Ordering) [Std.TransCmp cmp]
    (h : ∀ a b : α, compare a b = cmp a b) : Std.TransOrd α := by
  have hcmp : (compare : α → α → Ordering) = cmp := funext fun a => funext fun b => h a b
  change Std.TransCmp (compare : α → α → Ordering)
  rw [hcmp]
  infer_instance

theorem lawfulEqOrd_of_cmp (cmp : α → α → Ordering) [Std.ReflCmp cmp]
    (h : ∀ a b : α, compare a b = cmp a b) (heq : ∀ a b, cmp a b = .eq → a = b) :
    Std.LawfulEqOrd α where
  compare_self {a} := by rw [h]; exact Std.ReflCmp.compare_self
  eq_of_compare {a b} hab := heq a b ((h a b).symm.trans hab)

/-- An order read off a key. -/
theorem transOrd_of_key [Std.TransOrd β] (key : α → β)
    (h : ∀ a b, compare a b = compare (key a) (key b)) : Std.TransOrd α :=
  transOrd_of_cmp (compareOn key) h

theorem lawfulEqOrd_of_key [Std.LawfulEqOrd β] (key : α → β) (hkey : Function.Injective key)
    (h : ∀ a b, compare a b = compare (key a) (key b)) : Std.LawfulEqOrd α :=
  lawfulEqOrd_of_cmp (compareOn key) h fun _ _ hab => hkey (Std.LawfulEqOrd.eq_of_compare hab)

end Derived

/-! ## Texts -/

theorem SpecIdentifier.text_injective : Function.Injective SpecIdentifier.text := by
  rintro ⟨text, _⟩ ⟨_, _⟩ rfl
  rfl

theorem PathPattern.text_injective : Function.Injective PathPattern.text := by
  rintro ⟨text, _⟩ ⟨_, _⟩ rfl
  rfl

theorem Sha256Digest.bits_toNat_injective :
    Function.Injective fun digest : Sha256Digest => digest.bits.toNat := by
  rintro ⟨bits⟩ ⟨bits'⟩ h
  exact congrArg Sha256Digest.mk (BitVec.eq_of_toNat_eq h)

instance : Std.TransOrd SpecIdentifier := transOrd_of_key SpecIdentifier.text fun _ _ => rfl

instance : Std.LawfulEqOrd SpecIdentifier :=
  lawfulEqOrd_of_key SpecIdentifier.text SpecIdentifier.text_injective fun _ _ => rfl

instance : Std.TransOrd PathPattern := transOrd_of_key PathPattern.text fun _ _ => rfl

instance : Std.LawfulEqOrd PathPattern :=
  lawfulEqOrd_of_key PathPattern.text PathPattern.text_injective fun _ _ => rfl

instance : Std.TransOrd Sha256Digest := transOrd_of_key (fun d => d.bits.toNat) fun _ _ => rfl

instance : Std.LawfulEqOrd Sha256Digest :=
  lawfulEqOrd_of_key (fun d => d.bits.toNat) Sha256Digest.bits_toNat_injective fun _ _ => rfl

/-! ## Variants -/

instance : Std.TransOrd MediaType := transOrd_of_key MediaType.ctorIdx fun _ _ => rfl

instance : Std.LawfulEqOrd MediaType :=
  lawfulEqOrd_of_key MediaType.ctorIdx (fun a b => by cases a <;> cases b <;> decide) fun _ _ => rfl

instance : Std.TransOrd ToolName := transOrd_of_key ToolName.ctorIdx fun _ _ => rfl

instance : Std.LawfulEqOrd ToolName :=
  lawfulEqOrd_of_key ToolName.ctorIdx (fun a b => by cases a <;> cases b <;> decide) fun _ _ => rfl

instance : Std.TransOrd AcceptanceLevel := transOrd_of_key AcceptanceLevel.ctorIdx fun _ _ => rfl

instance : Std.LawfulEqOrd AcceptanceLevel :=
  lawfulEqOrd_of_key AcceptanceLevel.ctorIdx (fun a b => by cases a <;> cases b <;> decide)
    fun _ _ => rfl

instance : Std.TransOrd MessageKind := transOrd_of_key MessageKind.ctorIdx fun _ _ => rfl

instance : Std.LawfulEqOrd MessageKind :=
  lawfulEqOrd_of_key MessageKind.ctorIdx (fun a b => by cases a <;> cases b <;> decide)
    fun _ _ => rfl

instance : Std.TransOrd SlotCapability := transOrd_of_key SlotCapability.ctorIdx fun _ _ => rfl

instance : Std.LawfulEqOrd SlotCapability :=
  lawfulEqOrd_of_key SlotCapability.ctorIdx (fun a b => by cases a <;> cases b <;> decide)
    fun _ _ => rfl

/-! ## Records -/

theorem SourceSpan.compare_eq (a b : SourceSpan) :
    compare a b = compareLex (compareOn SourceSpan.start)
      (compareLex (compareOn SourceSpan.stop) (compareOn SourceSpan.quoted)) a b := by
  change (compare a.start b.start).then ((compare a.stop b.stop).then
    ((compare a.quoted b.quoted).then .eq)) = _
  rw [Ordering.then_eq]
  rfl

instance : Std.TransOrd SourceSpan := transOrd_of_cmp _ SourceSpan.compare_eq

instance : Std.LawfulEqOrd SourceSpan := by
  refine lawfulEqOrd_of_cmp _ SourceSpan.compare_eq fun a b h => ?_
  simp only [compareLex, compareOn, Ordering.then_eq_eq, Std.compare_eq_iff_eq] at h
  cases a
  cases b
  simp_all

theorem ContractExcerpt.compare_eq (a b : ContractExcerpt) :
    compare a b =
      compareLex (compareOn ContractExcerpt.artifactId) (compareOn ContractExcerpt.quoted) a b := by
  change (compare a.artifactId b.artifactId).then ((compare a.quoted b.quoted).then .eq) = _
  rw [Ordering.then_eq]
  rfl

instance : Std.TransOrd ContractExcerpt := transOrd_of_cmp _ ContractExcerpt.compare_eq

instance : Std.LawfulEqOrd ContractExcerpt := by
  refine lawfulEqOrd_of_cmp _ ContractExcerpt.compare_eq fun a b h => ?_
  simp only [compareLex, compareOn, Ordering.then_eq_eq, Std.compare_eq_iff_eq] at h
  cases a
  cases b
  simp_all

theorem ArtifactRef.compare_eq (a b : ArtifactRef) :
    compare a b = compareLex (compareOn ArtifactRef.artifactId)
      (compareLex (compareOn ArtifactRef.sha256)
        (compareLex (compareOn ArtifactRef.byteCount) (compareOn ArtifactRef.mediaType))) a b := by
  change (compare a.artifactId b.artifactId).then ((compare a.sha256 b.sha256).then
    ((compare a.byteCount b.byteCount).then ((compare a.mediaType b.mediaType).then .eq))) = _
  rw [Ordering.then_eq]
  rfl

instance : Std.TransOrd ArtifactRef := transOrd_of_cmp _ ArtifactRef.compare_eq

instance : Std.LawfulEqOrd ArtifactRef := by
  refine lawfulEqOrd_of_cmp _ ArtifactRef.compare_eq fun a b h => ?_
  simp only [compareLex, compareOn, Ordering.then_eq_eq, Std.compare_eq_iff_eq] at h
  cases a
  cases b
  simp_all

end Vibemux
