import Vibemux.Lib.Text

/-!
# ASCII case

Lowering the ASCII letters of a text keeps its length, its separators and every cut at them.
-/

namespace Text

open List Option

theorem toLower_eq_iff {c d : Char} (hd : d.isAlpha = false) : c.toLower = d ↔ c = d := by
  have hupper : ∀ {a : Char}, a.isAlpha = false → ¬ a.isUpper = true := by
    intro a ha hup
    simp [Char.isAlpha, hup] at ha
  constructor
  · intro h
    have hc : c.isAlpha = false := by rw [← Char.isAlpha_toLower_eq_isAlpha, h, hd]
    rwa [Char.toLower_eq_of_not_isUpper (hupper hc)] at h
  · rintro rfl
    exact Char.toLower_eq_of_not_isUpper (hupper hd)

theorem utf8Size_toLower (c : Char) : c.toLower.utf8Size = c.utf8Size := by
  simp only [Char.utf8Size, Char.toLower]
  split <;> grind [UInt32.toNat_add, Char.toNat_val]

theorem isAlphanum_toLower (c : Char) : c.toLower.isAlphanum = c.isAlphanum := by
  by_cases h : c.isUpper = true
  · simp [Char.isAlphanum, Char.isAlpha, h]
  · rw [Char.toLower_eq_of_not_isUpper h]

@[simp]
theorem toAsciiLowercase_nil : toAsciiLowercase [] = [] := rfl

@[simp]
theorem toAsciiLowercase_cons (c : Char) (text : List Char) :
    toAsciiLowercase (c :: text) = c.toLower :: toAsciiLowercase text := rfl

@[simp]
theorem toAsciiLowercase_append (a b : List Char) :
    toAsciiLowercase (a ++ b) = toAsciiLowercase a ++ toAsciiLowercase b := map_append

@[simp]
theorem byteLen_toAsciiLowercase (text : List Char) :
    byteLen (toAsciiLowercase text) = byteLen text := by
  induction text with
  | nil => rfl
  | cons c rest ih => simp [ih, utf8Size_toLower]

/-- A text without letters is the lower case of itself only. -/
theorem toAsciiLowercase_eq_iff {text fixed : List Char}
    (hfixed : fixed.any Char.isAlpha = false) : toAsciiLowercase text = fixed ↔ text = fixed := by
  induction fixed generalizing text with
  | nil => simp [toAsciiLowercase]
  | cons d fixed ih =>
    cases text with
    | nil => simp
    | cons c text =>
      rw [any_cons, Bool.or_eq_false_iff] at hfixed
      rw [toAsciiLowercase_cons, cons.injEq, cons.injEq, toLower_eq_iff hfixed.1,
        ih hfixed.2]

theorem splitOn_toAsciiLowercase {sep : Char} (hsep : sep.isAlpha = false) (text : List Char) :
    splitOn sep (toAsciiLowercase text) = (splitOn sep text).map toAsciiLowercase := by
  induction text with
  | nil => rfl
  | cons c rest ih =>
    rw [toAsciiLowercase_cons, splitOn, splitOn, ih]
    by_cases hc : c = sep
    · simp [hc, (toLower_eq_iff hsep).2]
    · rw [if_neg hc, if_neg fun h => hc ((toLower_eq_iff hsep).1 h)]
      cases splitOn sep rest with
      | nil => rfl
      | cons piece pieces => rfl

theorem stripSuffix_toAsciiLowercase {suffix : List Char}
    (hsuffix : suffix.any Char.isAlpha = false) (text : List Char) :
    stripSuffix suffix (toAsciiLowercase text) =
      (stripSuffix suffix text).map toAsciiLowercase := by
  cases h : stripSuffix suffix text with
  | some rest =>
    have htext := stripSuffix_eq_some.1 h
    rw [map_some, stripSuffix_eq_some, htext, toAsciiLowercase_append,
      (toAsciiLowercase_eq_iff hsuffix).2 rfl]
  | none =>
    rw [map_none, ← not_isSome_iff_eq_none, isSome_iff_exists]
    rintro ⟨rest, hrest⟩
    have htext := stripSuffix_eq_some.1 hrest
    obtain ⟨_, _, rfl, rfl, hb⟩ := map_eq_append_iff.1 htext
    rw [(toAsciiLowercase_eq_iff hsuffix).1 hb] at h
    rw [stripSuffix_eq_some.2 rfl] at h
    cases h

end Text
