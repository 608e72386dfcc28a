import Vibemux.Compiler.Identifiers
import Vibemux.Lib.AsciiCase

/-!
# What a path pattern covers

`matches_iff` says what a pattern covers in terms of its base. From it, `isWithin` is inclusion of
the covered sets, and two patterns that cover a common path overlap, also up to ASCII case.
-/

namespace Vibemux.PathPattern

open Bool List Text

variable {p q : PathPattern} {path : List Char}

theorem isRecursive_eq_isSome (p : PathPattern) :
    p.isRecursive = (stripSuffix recursiveSuffix p.text).isSome := by
  unfold isRecursive stripSuffix
  split_ifs with h
  · exact h
  · exact eq_false_of_not_eq_true h

theorem text_eq_base (h : p.isRecursive = false) : p.text = p.base := by
  unfold base stripSuffix
  unfold isRecursive at h
  simp [h]

theorem matches_recursive_iff (h : p.isRecursive = true) :
    p.matches path = true ↔ ∃ rest, path = p.base ++ '/' :: rest := by
  rw [«matches», if_pos h]
  simp only [and_eq_true, decide_eq_true_eq, isPrefixOf_iff_prefix, beq_iff_eq]
  constructor
  · rintro ⟨⟨-, rest, rfl⟩, hhead⟩
    rw [drop_left] at hhead
    cases rest with
    | nil => cases hhead
    | cons c tail =>
      cases hhead
      exact ⟨tail, rfl⟩
  · rintro ⟨rest, rfl⟩
    refine ⟨⟨?_, prefix_append _ _⟩, by simp⟩
    have hpos := Char.utf8Size_pos '/'
    simp only [byteLen_append, byteLen_cons]
    omega

theorem matches_literal_iff (h : p.isRecursive = false) :
    p.matches path = true ↔ path = p.base := by
  rw [«matches», h, if_neg Bool.false_ne_true, beq_iff_eq, text_eq_base h]

/-- A pattern within another covers no more than it. -/
theorem matches_of_isWithin (hwithin : p.isWithin q = true) (h : p.matches path = true) :
    q.matches path = true := by
  unfold isWithin at hwithin
  cases hq : q.isRecursive with
  | false =>
    simp only [hq, false_eq_true, if_false, and_eq_true, not_eq_true',
      beq_iff_eq] at hwithin
    obtain ⟨hp, htext⟩ := hwithin
    rw [matches_literal_iff hp] at h
    rw [matches_literal_iff hq, h, ← text_eq_base hp, ← text_eq_base hq, htext]
  | true =>
    simp only [hq, if_true, or_eq_true, and_eq_true, beq_iff_eq] at hwithin
    rw [matches_recursive_iff hq] at hwithin ⊢
    cases hp : p.isRecursive with
    | false =>
      rw [matches_literal_iff hp] at h
      rcases hwithin with ⟨rest, hbase⟩ | ⟨hp', -⟩
      · exact ⟨rest, h.trans hbase⟩
      · exact absurd hp' (by simp [hp])
    | true =>
      obtain ⟨tail, rfl⟩ := (matches_recursive_iff hp).1 h
      rcases hwithin with ⟨rest, hbase⟩ | ⟨-, hbase⟩
      · exact ⟨rest ++ '/' :: tail, by simp [hbase]⟩
      · exact ⟨tail, by rw [hbase]⟩

/-- Two directories above one path are comparable. -/
theorem base_comparable {a b s t : List Char} (h : a ++ '/' :: s = b ++ '/' :: t) :
    a = b ∨ (∃ r, b = a ++ '/' :: r) ∨ ∃ r, a = b ++ '/' :: r := by
  rcases append_eq_append_iff.1 h with ⟨mid, hb, hs⟩ | ⟨mid, ha, ht⟩
  · cases mid with
    | nil => exact .inl (by simpa using hb.symm)
    | cons c mid =>
      obtain ⟨rfl, -⟩ := cons.inj hs
      exact .inr (.inl ⟨mid, hb⟩)
  · cases mid with
    | nil => exact .inl (by simpa using ha)
    | cons c mid =>
      obtain ⟨rfl, -⟩ := cons.inj ht
      exact .inr (.inr ⟨mid, ha⟩)

/-- Patterns that cover a common path overlap. -/
theorem overlaps_of_matches (hp : p.matches path = true) (hq : q.matches path = true) :
    p.overlaps q = true := by
  unfold overlaps
  cases hrp : p.isRecursive with
  | false =>
    rw [matches_literal_iff hrp] at hp
    subst hp
    cases hrq : q.isRecursive with
    | true => simp [hq]
    | false =>
      rw [matches_literal_iff hrq] at hq
      have hwithin : p.isWithin q = true := by
        unfold isWithin
        simp [hrq, hrp, text_eq_base hrp, text_eq_base hrq, hq]
      simp [hwithin]
  | true =>
    cases hrq : q.isRecursive with
    | false =>
      rw [matches_literal_iff hrq] at hq
      subst hq
      simp [hp]
    | true =>
      obtain ⟨s, hs⟩ := (matches_recursive_iff hrp).1 hp
      obtain ⟨t, ht⟩ := (matches_recursive_iff hrq).1 hq
      rcases base_comparable (hs.symm.trans ht) with hbase | hbelow | hbelow
      · have hwithin : p.isWithin q = true := by
          unfold isWithin
          simp [hrp, hrq, hbase]
        simp [hwithin]
      · simp [(matches_recursive_iff hrp).2 hbelow]
      · simp [(matches_recursive_iff hrq).2 hbelow]

/-! ## ASCII case -/

theorem recursiveSuffix_not_alpha : recursiveSuffix.any Char.isAlpha = false := by decide

theorem isPathSegment_toAsciiLowercase (segment : List Char) :
    isPathSegment (toAsciiLowercase segment) = isPathSegment segment := by
  have hnil : toAsciiLowercase segment = [] ↔ segment = [] := toAsciiLowercase_eq_iff (by decide)
  have hdot : toAsciiLowercase segment = ['.'] ↔ segment = ['.'] :=
    toAsciiLowercase_eq_iff (by decide)
  have hdots : toAsciiLowercase segment = ['.', '.'] ↔ segment = ['.', '.'] :=
    toAsciiLowercase_eq_iff (by decide)
  have hchars : ∀ c : Char, (c.toLower.isAlphanum || c.toLower == '.' || c.toLower == '_' ||
      c.toLower == '-') = (c.isAlphanum || c == '.' || c == '_' || c == '-') := by
    intro c
    rw [isAlphanum_toLower, Bool.eq_iff_iff]
    simp only [Bool.or_eq_true, beq_iff_eq]
    rw [toLower_eq_iff (d := '.') (by decide), toLower_eq_iff (d := '_') (by decide),
      toLower_eq_iff (d := '-') (by decide)]
  rw [Bool.eq_iff_iff]
  simp only [isPathSegment, Bool.and_eq_true, bne_iff_ne, ne_eq, hnil, hdot, hdots]
  rw [toAsciiLowercase, all_map]
  simp only [Function.comp_def, hchars]

theorem isRelativePath_toAsciiLowercase (value : List Char) :
    isRelativePath (toAsciiLowercase value) = isRelativePath value := by
  have hnil : toAsciiLowercase value = [] ↔ value = [] := toAsciiLowercase_eq_iff (by decide)
  rw [Bool.eq_iff_iff]
  simp only [isRelativePath, Bool.and_eq_true, bne_iff_ne, ne_eq, hnil, byteLen_toAsciiLowercase]
  rw [splitOn_toAsciiLowercase (by decide), all_map]
  simp only [Function.comp_def, isPathSegment_toAsciiLowercase]

theorem isPathPattern_toAsciiLowercase (value : List Char) :
    isPathPattern (toAsciiLowercase value) = isPathPattern value := by
  unfold isPathPattern
  rw [byteLen_toAsciiLowercase, stripSuffix_toAsciiLowercase recursiveSuffix_not_alpha]
  cases stripSuffix recursiveSuffix value with
  | none => simp [isRelativePath_toAsciiLowercase]
  | some rest => simp [isRelativePath_toAsciiLowercase]

/-- The pattern in lower case. -/
def lowered (p : PathPattern) : PathPattern :=
  ⟨toAsciiLowercase p.text, by rw [isPathPattern_toAsciiLowercase, p.valid]⟩

theorem new_toAsciiLowercase (p : PathPattern) :
    PathPattern.new (toAsciiLowercase p.text) = .ok p.lowered := by
  have hvalid : isPathPattern (toAsciiLowercase p.text) = true := p.lowered.valid
  rw [new, dif_pos hvalid]
  rfl

theorem isRecursive_lowered (p : PathPattern) : p.lowered.isRecursive = p.isRecursive := by
  rw [isRecursive_eq_isSome, isRecursive_eq_isSome]
  simp [lowered, stripSuffix_toAsciiLowercase recursiveSuffix_not_alpha]

theorem base_lowered (p : PathPattern) : p.lowered.base = toAsciiLowercase p.base := by
  simp only [base, lowered, stripSuffix_toAsciiLowercase recursiveSuffix_not_alpha]
  cases stripSuffix recursiveSuffix p.text <;> rfl

theorem lowered_matches (h : p.matches path = true) :
    p.lowered.matches (toAsciiLowercase path) = true := by
  cases hp : p.isRecursive with
  | false =>
    rw [matches_literal_iff hp] at h
    rw [matches_literal_iff (by rw [isRecursive_lowered, hp]), base_lowered, h]
  | true =>
    obtain ⟨rest, rfl⟩ := (matches_recursive_iff hp).1 h
    rw [matches_recursive_iff (by rw [isRecursive_lowered, hp]), base_lowered]
    exact ⟨toAsciiLowercase rest, by simp⟩

/-- A pattern that covers a path up to case overlaps every pattern that covers it. -/
theorem protectionOverlap_of_matches (hp : p.matches path = true)
    (hq : q.matchesCaseInsensitively path = true) : p.protectionOverlap q = true := by
  unfold matchesCaseInsensitively at hq
  unfold protectionOverlap
  simp only [new_toAsciiLowercase] at hq ⊢
  exact overlaps_of_matches (lowered_matches hp) hq

end Vibemux.PathPattern
