import Vibemux.Compiler.Proofs.MarkerScanProofs
import Vibemux.Lib.AsciiCase

/-!
# Prohibition markers and lower case

Markers are looked up in a lowered copy of the request, and the offsets found there are used in the
request itself. The copy of the text before a marker may be longer or shorter than the text. Where the
lengths of the two differ, the request is searched as it stands, and upper case is missed.
-/

namespace Vibemux

open Text List

variable {d : Char} {c : Char} {after before marker rest x y : List Char} {next : Option Char}

/-! ## Lower case -/

/-- The lower case of one character in a text: that of the character, or the final form of sigma. -/
def IsLowerImage (charLower : Char → List Char) (c : Char) (image : List Char) : Prop :=
  image = charLower c ∨ c = 'Σ' ∧ image = ['ς']

def isIdeograph (c : Char) : Bool := decide (0x4E00 ≤ c.toNat) && decide (c.toNat ≤ 0x9FFF)

/-- `str::to_lowercase` lowers each character by `char::to_lowercase`, up to final sigmas, and what
the tables of the Unicode standard say of ASCII characters, ideographs and characters without case. -/
structure UnicodeTables.LowersBy (tables : UnicodeTables) (charLower : Char → List Char) : Prop where
  text : ∀ text, ∃ images, List.Forall₂ (IsLowerImage charLower) text images ∧
    tables.toLowercase text = images.flatten
  nonempty : ∀ c, charLower c ≠ []
  ascii : ∀ c, c.toNat < 128 → charLower c = [c.toLower]
  /-- Two characters outside ASCII have ASCII characters in their lower case. -/
  toAscii : ∀ c d, d ∈ charLower c → d.toNat < 128 → c.toNat < 128 ∨ c = '\u0130' ∨ c = '\u212a'
  dotted : charLower '\u0130' = ['i', '\u0307']
  kelvin : charLower '\u212a' = ['k']
  sigma : charLower 'Σ' = ['σ']
  ideograph : ∀ c, isIdeograph c = true → charLower c = [c]
  toIdeograph : ∀ c d, d ∈ charLower c → isIdeograph d = true → c = d
  caseless : ∀ c, tables.isAlphanumeric c = false → charLower c = [c]
  sigmas : tables.isAlphanumeric 'σ' = true ∧ tables.isAlphanumeric 'ς' = true

section Images

variable {charLower : Char → List Char} {text : List Char} {images : List (List Char)}

/-- A character of the copy comes from a character of the text. -/
theorem exists_image (h : List.Forall₂ (IsLowerImage charLower) text images)
    (heq : images.flatten = x ++ d :: y) :
    ∃ before c after left right u v, text = before ++ c :: after ∧
      images = left ++ (u ++ d :: v) :: right ∧
      List.Forall₂ (IsLowerImage charLower) before left ∧ IsLowerImage charLower c (u ++ d :: v) ∧
      List.Forall₂ (IsLowerImage charLower) after right ∧ x = left.flatten ++ u ∧
      y = v ++ right.flatten := by
  induction h generalizing x with
  | nil => simp at heq
  | cons hhead htail ih =>
    rename_i c image text images
    rw [flatten_cons] at heq
    rcases append_eq_append_cons heq with ⟨v, rfl, rfl⟩ | ⟨x, rfl, hrest⟩
    · exact ⟨[], c, text, [], images, x, v, rfl, rfl, .nil, hhead, htail, rfl, rfl⟩
    · obtain ⟨before, c', after, left, right, u, v, rfl, rfl, hbefore, hc, hafter, rfl, rfl⟩ := ih hrest
      exact ⟨c :: before, c', after, image :: left, right, u, v, rfl, rfl, .cons hhead hbefore, hc,
        hafter, by simp, rfl⟩

/-- Where `d` occurs in the copy before `next`, it is the whole image of a character of the text that
is `d` up to ASCII case. -/
def KeptBefore (charLower : Char → List Char) (d : Char) (next : Option Char) : Prop :=
  ∀ c u v, IsLowerImage charLower c (u ++ d :: v) → (v = [] ∨ v.head? = next) →
    u = [] ∧ v = [] ∧ c.toLower = d

/-- All characters of the marker are kept, whatever follows the marker. -/
def KeptMarker (charLower : Char → List Char) : List Char → Prop
  | [] => True
  | [d] => ∀ next, KeptBefore charLower d next
  | d :: e :: rest => KeptBefore charLower d (some e) ∧ KeptMarker charLower (e :: rest)

theorem KeptMarker.head (h : KeptMarker charLower (d :: rest)) :
    KeptBefore charLower d (rest ++ y).head? := by
  cases rest with
  | nil => exact h _
  | cons e rest => exact h.1

theorem KeptMarker.tail (h : KeptMarker charLower (d :: rest)) :
    KeptMarker charLower rest := by
  cases rest with
  | nil => trivial
  | cons e rest => exact h.2

/-- What follows an image in the copy. -/
theorem eq_nil_or_head_eq {v z : List Char} (h : rest ++ y = v ++ z) :
    v = [] ∨ v.head? = (rest ++ y).head? := by
  cases v with
  | nil => exact .inl rfl
  | cons e v => exact .inr (by rw [h]; rfl)

/-- A kept marker at the start of the copy stands at the start of the text. -/
theorem exists_occurrence_at_start (hkept : KeptMarker charLower marker)
    (h : List.Forall₂ (IsLowerImage charLower) text images) (heq : images.flatten = marker ++ y)
    (hnonempty : ∀ c, charLower c ≠ []) :
    ∃ occurrence after right, text = occurrence ++ after ∧
      List.Forall₂ (IsLowerImage charLower) after right ∧ y = right.flatten ∧
      toAsciiLowercase occurrence = marker := by
  induction marker generalizing text images with
  | nil => exact ⟨[], text, images, rfl, h, heq.symm, rfl⟩
  | cons d rest ih =>
    cases h with
    | nil => cases heq
    | cons hhead htail =>
      rename_i c image text images
      have himage : image ≠ [] := by
        rcases hhead with rfl | ⟨-, rfl⟩
        · exact hnonempty c
        · simp
      obtain ⟨first, v, rfl⟩ := exists_cons_of_ne_nil himage
      rw [flatten_cons, cons_append, cons_append, cons.injEq] at heq
      obtain ⟨rfl, heq⟩ := heq
      obtain ⟨-, rfl, hlower⟩ := hkept.head c [] v hhead (eq_nil_or_head_eq heq.symm)
      obtain ⟨occurrence, after, right, rfl, hafter, rfl, hrest⟩ := ih hkept.tail htail heq
      exact ⟨c :: occurrence, after, right, rfl, hafter, rfl, by
        rw [toAsciiLowercase_cons, hlower, hrest]⟩

/-- A kept marker of the copy comes from a text that is the marker up to ASCII case. -/
theorem exists_occurrence (hmarker : marker ≠ []) (hkept : KeptMarker charLower marker)
    (h : List.Forall₂ (IsLowerImage charLower) text images)
    (heq : images.flatten = x ++ (marker ++ y)) (hnonempty : ∀ c, charLower c ≠ []) :
    ∃ before occurrence after left right, text = before ++ (occurrence ++ after) ∧
      List.Forall₂ (IsLowerImage charLower) before left ∧
      List.Forall₂ (IsLowerImage charLower) after right ∧ x = left.flatten ∧ y = right.flatten ∧
      toAsciiLowercase occurrence = marker := by
  obtain ⟨d, rest, rfl⟩ := exists_cons_of_ne_nil hmarker
  rw [cons_append] at heq
  obtain ⟨before, c, _, left, right, u, v, rfl, rfl, hbefore, hc, hafter, rfl, hy⟩ :=
    exists_image h heq
  obtain ⟨rfl, rfl, -⟩ := hkept.head c u v hc (eq_nil_or_head_eq hy)
  have hstart : ([[d]] ++ right).flatten = d :: rest ++ y := by
    rw [nil_append] at hy
    simp [hy]
  obtain ⟨occurrence, after', right', hsplit, hright, hy', hlower⟩ :=
    exists_occurrence_at_start hkept (List.Forall₂.cons hc hafter) hstart hnonempty
  exact ⟨before, occurrence, after', left, right', by rw [hsplit], hbefore, hright, by simp, hy',
    hlower⟩

end Images

/-! ## The markers of the table -/

section Tables

variable {tables : UnicodeTables} {charLower : Char → List Char} {images : List (List Char)}
  {text : List Char} {image : List Char}

theorem toLower_of_not_ascii (h : ¬ c.toNat < 128) : c.toLower = c := by
  unfold Char.toLower
  split_ifs with hupper
  · have hle := hupper.2
    rw [UInt32.le_iff_toNat_le] at hle
    exact absurd (lt_of_le_of_lt hle (by decide)) h
  · rfl

theorem not_ascii_of_isIdeograph (h : isIdeograph d = true) : ¬ d.toNat < 128 := by
  simp only [isIdeograph, Bool.and_eq_true, decide_eq_true_eq] at h
  omega

theorem keptBefore_of_isIdeograph (h : tables.LowersBy charLower) (hd : isIdeograph d = true) :
    KeptBefore charLower d next := by
  rintro c u v (himage | ⟨-, himage⟩) -
  · obtain rfl := h.toIdeograph c d (by rw [← himage]; simp) hd
    rw [h.ideograph c hd, append_eq_singleton_iff] at himage
    rcases himage with ⟨rfl, hv⟩ | ⟨-, hv⟩
    · obtain ⟨-, rfl⟩ := cons.inj hv
      exact ⟨rfl, rfl, toLower_of_not_ascii (not_ascii_of_isIdeograph hd)⟩
    · cases hv
  · have hmem : d ∈ ['ς'] := by rw [← himage]; simp
    rw [mem_singleton.1 hmem] at hd
    exact absurd hd (by decide)

theorem keptBefore_of_ascii (h : tables.LowersBy charLower) (hd : d.toNat < 128) (hkelvin : d ≠ 'k')
    (hdotted : d = 'i' → ∃ e, next = some e ∧ e.toNat < 128) :
    KeptBefore charLower d next := by
  rintro c u v (himage | ⟨-, himage⟩) hnext
  · rcases h.toAscii c d (by rw [← himage]; simp) hd with hascii | rfl | rfl
    · rw [h.ascii c hascii, append_eq_singleton_iff] at himage
      rcases himage with ⟨rfl, hv⟩ | ⟨-, hv⟩
      · obtain ⟨rfl, rfl⟩ := cons.inj hv
        exact ⟨rfl, rfl, rfl⟩
      · cases hv
    · -- the dot would follow, which is no part of a marker
      rw [h.dotted] at himage
      cases u with
      | nil =>
        obtain ⟨rfl, rfl⟩ := cons.inj himage
        obtain ⟨e, rfl, he⟩ := hdotted rfl
        rcases hnext with hnil | hdot
        · cases hnil
        · cases hdot
          exact absurd he (by decide)
      | cons first u =>
        obtain ⟨rfl, htail⟩ := cons.inj himage
        have hmem : d ∈ ['\u0307'] := by rw [← htail]; simp
        rw [mem_singleton.1 hmem] at hd
        exact absurd hd (by decide)
    · rw [h.kelvin] at himage
      have hmem : d ∈ ['k'] := by rw [← himage]; simp
      exact absurd (mem_singleton.1 hmem) hkelvin
  · have hmem : d ∈ ['ς'] := by rw [← himage]; simp
    rw [mem_singleton.1 hmem] at hd
    exact absurd hd (by decide)

/-- A marker of ideographs, or of ASCII characters other than `k` that does not end in `i`. -/
def isKeptMarker : List Char → Bool
  | [] => true
  | d :: rest =>
    (isIdeograph d || (decide (d.toNat < 128) && d != 'k' &&
      (d != 'i' || rest.head?.any fun e => decide (e.toNat < 128)))) && isKeptMarker rest

section

variable (h : tables.LowersBy charLower)
include h

theorem keptMarker_of_isKeptMarker
    (hmarker : isKeptMarker marker = true) : KeptMarker charLower marker := by
  induction marker with
  | nil => trivial
  | cons d rest ih =>
    rw [isKeptMarker, Bool.and_eq_true] at hmarker
    obtain ⟨hd, hrest⟩ := hmarker
    have hbefore : ∀ next, (rest = [] ∨ next = rest.head?) → KeptBefore charLower d next := by
      intro next hnext
      rcases Bool.or_eq_true_iff.1 hd with hideograph | hascii
      · exact keptBefore_of_isIdeograph h hideograph
      · simp only [Bool.and_eq_true, decide_eq_true_eq, bne_iff_ne, Bool.or_eq_true] at hascii
        obtain ⟨⟨hd, hkelvin⟩, hdotted⟩ := hascii
        refine keptBefore_of_ascii h hd hkelvin fun hi => ?_
        have hfollowed := hdotted.resolve_left fun hne => hne hi
        cases rest with
        | nil => cases hfollowed
        | cons e rest => exact ⟨e, hnext.resolve_left (cons_ne_nil e rest), by simpa using hfollowed⟩
    cases rest with
    | nil => exact fun next => hbefore next (.inl rfl)
    | cons e rest => exact ⟨hbefore _ (.inr rfl), ih hrest⟩

/-- A character of a marker is the whole image of each character that it is up to ASCII case. -/
theorem image_eq_singleton {c d : Char}
    (hd : d.toNat < 128 ∨ isIdeograph d = true) (hc : c.toLower = d)
    (himage : IsLowerImage charLower c image) : image = [d] := by
  by_cases hascii : c.toNat < 128
  · rcases himage with rfl | ⟨rfl, -⟩
    · rw [h.ascii c hascii, hc]
    · exact absurd hascii (by decide)
  · obtain rfl : c = d := (toLower_of_not_ascii hascii).symm.trans hc
    have hideograph := hd.resolve_left hascii
    rcases himage with rfl | ⟨rfl, -⟩
    · exact h.ideograph c hideograph
    · exact absurd hideograph (by decide)

theorem flatten_of_occurrence {occurrence : List Char}
    (hmarker : ∀ d ∈ marker, d.toNat < 128 ∨ isIdeograph d = true)
    (hlower : toAsciiLowercase occurrence = marker)
    (himages : List.Forall₂ (IsLowerImage charLower) occurrence images) :
    images.flatten = marker := by
  induction himages generalizing marker with
  | nil => exact hlower
  | cons hhead htail ih =>
    rename_i c image occurrence images
    subst hlower
    rw [toAsciiLowercase_cons] at hmarker ⊢
    rw [flatten_cons, image_eq_singleton h (hmarker _ mem_cons_self) rfl hhead,
      ih (fun d hd => hmarker d (mem_cons_of_mem _ hd)) rfl]
    rfl

end

/-- The images of two texts in a row. -/
theorem forall₂_append_left {α β : Type} {R : α → β → Prop} {a b : List α} {l : List β}
    (h : List.Forall₂ R (a ++ b) l) :
    ∃ left right, l = left ++ right ∧ List.Forall₂ R a left ∧ List.Forall₂ R b right := by
  induction a generalizing l with
  | nil => exact ⟨[], l, rfl, .nil, h⟩
  | cons x a ih =>
    cases h with
    | cons hhead htail =>
      obtain ⟨left, right, rfl, hleft, hright⟩ := ih htail
      exact ⟨_ :: left, right, rfl, .cons hhead hleft, hright⟩

/-! ## Lengths and word boundaries of the copy -/

/-- The text lowered character by character, without regard to final sigmas. -/
def lowered (charLower : Char → List Char) (text : List Char) : List Char := text.flatMap charLower

section

variable (h : tables.LowersBy charLower)
include h

theorem byteLen_lowered (himages : List.Forall₂ (IsLowerImage charLower) text images) :
    byteLen images.flatten = byteLen (lowered charLower text) := by
  induction himages with
  | nil => rfl
  | cons hhead htail ih =>
    rename_i c image text images
    have himage : byteLen image = byteLen (charLower c) := by
      rcases hhead with rfl | ⟨rfl, rfl⟩
      · rfl
      · rw [h.sigma]
        decide
    rw [flatten_cons, lowered, flatMap_cons, byteLen_append, byteLen_append, himage, ih]
    rfl

/-- Both forms of sigma belong to words. -/
theorem isWordBoundary_image (himage : IsLowerImage charLower c image) :
    isWordBoundary tables image.getLast? = isWordBoundary tables (charLower c).getLast? ∧
    isWordBoundary tables image.head? = isWordBoundary tables (charLower c).head? := by
  rcases himage with rfl | ⟨rfl, rfl⟩
  · exact ⟨rfl, rfl⟩
  · simp [h.sigma, isWordBoundary, h.sigmas.1, h.sigmas.2]

theorem isLowerImage_ne_nil (himage : IsLowerImage charLower c image) : image ≠ [] := by
  rcases himage with rfl | ⟨-, rfl⟩
  · exact h.nonempty c
  · simp

theorem isWordBoundary_getLast? (himages : List.Forall₂ (IsLowerImage charLower) text images) :
    isWordBoundary tables images.flatten.getLast? =
      isWordBoundary tables (lowered charLower text).getLast? := by
  rcases eq_nil_or_concat' text with rfl | ⟨text, c, rfl⟩
  · cases himages
    rfl
  · obtain ⟨left, right, rfl, -, hright⟩ := forall₂_append_left himages
    cases hright with
    | cons hhead hnil =>
      cases hnil
      rename_i image
      rw [flatten_append, lowered, flatMap_append, flatten_singleton,
        flatMap_singleton, getLast?_append_of_ne_nil _ (isLowerImage_ne_nil h hhead),
        getLast?_append_of_ne_nil _ (h.nonempty c)]
      exact (isWordBoundary_image h hhead).1

theorem isWordBoundary_head? (himages : List.Forall₂ (IsLowerImage charLower) text images) :
    isWordBoundary tables images.flatten.head? =
      isWordBoundary tables (lowered charLower text).head? := by
  cases himages with
  | nil => rfl
  | cons hhead htail =>
    rename_i c image text images
    rw [flatten_cons, lowered, flatMap_cons,
      head?_append_of_ne_nil _ (isLowerImage_ne_nil h hhead),
      head?_append_of_ne_nil _ (h.nonempty c)]
    exact (isWordBoundary_image h hhead).2

/-- What ends a word is no letter, and stays as it is. -/
theorem charLower_of_isWordBoundary
    (hc : isWordBoundary tables (some c) = true) : charLower c = [c] := by
  simp only [isWordBoundary, Option.all_some, Bool.not_eq_true', Bool.or_eq_false_iff] at hc
  exact h.caseless c hc.1.1

/-- Word boundaries of the text are word boundaries of the copy. -/
theorem IsBounded.lowered (hbounded : IsBounded tables before after) :
    IsBounded tables (lowered charLower before) (lowered charLower after) := by
  obtain ⟨hbefore, hafter⟩ := hbounded
  constructor
  · rcases eq_nil_or_concat' before with rfl | ⟨text, c, rfl⟩
    · rfl
    · rw [getLast?_concat] at hbefore
      have hc := charLower_of_isWordBoundary h hbefore
      rw [Vibemux.lowered, flatMap_append, flatMap_singleton, hc, getLast?_concat]
      exact hbefore
  · cases after with
    | nil => rfl
    | cons c text =>
      rw [head?_cons] at hafter
      rw [Vibemux.lowered, flatMap_cons, charLower_of_isWordBoundary h hafter]
      exact hafter

end

/-! ## What is reported -/

/-- The marker stands between the two texts, up to ASCII case. -/
def Occurs (text marker before after : List Char) : Prop :=
  ∃ occurrence, text = before ++ (occurrence ++ after) ∧ toAsciiLowercase occurrence = marker

/-- The range of a marker behind a text. -/
def rangeBehind (before marker : List Char) : ByteRange :=
  ⟨byteLen before, byteLen before + byteLen marker⟩

/-- The place is not inside a literal. -/
def OutsideLiterals (text : List Char) (range : ByteRange) : Prop :=
  ∀ region ∈ literalRegions text, region.overlaps range = false

/-- An occurrence that passes the check of word boundaries in the copy. -/
structure Seen (tables : UnicodeTables) (charLower : Char → List Char)
    (text marker before after : List Char) : Prop where
  occurs : Occurs text marker before after
  bounded : isAscii marker = true →
    IsBounded tables (lowered charLower before) (lowered charLower after)

theorem mem_of_isKeptMarker (h : isKeptMarker marker = true) :
    ∀ d ∈ marker, d.toNat < 128 ∨ isIdeograph d = true := by
  induction marker with
  | nil => simp
  | cons c rest ih =>
    rw [isKeptMarker, Bool.and_eq_true, Bool.or_eq_true] at h
    intro d hd
    rcases mem_cons.1 hd with rfl | hd
    · rcases h.1 with hideograph | hascii
      · exact .inr hideograph
      · simp only [Bool.and_eq_true, decide_eq_true_eq] at hascii
        exact .inl hascii.1.1
    · exact ih h.2 d hd

theorem prohibitionMarkerTable_kept : ∀ marker ∈ prohibitionMarkerTable,
    marker ≠ [] ∧ isKeptMarker marker = true ∧ toAsciiLowercase marker = marker := by
  decide +kernel

/-- The occurrences of the copy are those of the text, moved by the change of the text before. -/
theorem exists_reported_iff (h : tables.LowersBy charLower) {text : List Char} {range : ByteRange}
    (hmarker : marker ∈ prohibitionMarkerTable) :
    (∃ before after, Reported tables (tables.toLowercase text) marker range before after) ↔
      ∃ before after, Seen tables charLower text marker before after ∧
        range = rangeBehind (lowered charLower before) marker := by
  obtain ⟨hnonempty, hkept, -⟩ := prohibitionMarkerTable_kept marker hmarker
  obtain ⟨images, himages, hcopy⟩ := h.text text
  constructor
  · rintro ⟨_, _, heq, hbounded, rfl⟩
    obtain ⟨before, occurrence, after, left, right, rfl, hleft, hright, rfl, rfl, hlower⟩ :=
      exists_occurrence hnonempty (keptMarker_of_isKeptMarker h hkept) himages (hcopy.symm.trans heq)
        h.nonempty
    refine ⟨before, after, ⟨⟨occurrence, rfl, hlower⟩, fun hascii => ?_⟩, ?_⟩
    · obtain ⟨hbefore, hafter⟩ := hbounded hascii
      rw [isWordBoundary_getLast? h hleft] at hbefore
      rw [isWordBoundary_head? h hright] at hafter
      exact ⟨hbefore, hafter⟩
    · rw [rangeBehind, byteLen_lowered h hleft]
  · rintro ⟨_, _, ⟨⟨_, rfl, hlower⟩, hbounded⟩, rfl⟩
    obtain ⟨left, _, rfl, hleft, hrest⟩ := forall₂_append_left himages
    obtain ⟨_, right, rfl, hmiddle, hright⟩ := forall₂_append_left hrest
    refine ⟨left.flatten, right.flatten, ?_, fun hascii => ?_, ?_⟩
    · rw [hcopy, flatten_append, flatten_append,
        flatten_of_occurrence h (mem_of_isKeptMarker hkept) hlower hmiddle]
    · obtain ⟨hbefore, hafter⟩ := hbounded hascii
      rw [← isWordBoundary_getLast? h hleft] at hbefore
      rw [← isWordBoundary_head? h hright] at hafter
      exact ⟨hbefore, hafter⟩
    · rw [rangeBehind, byteLen_lowered h hleft]

/-- Each occurrence of an English marker on word boundaries and outside literals is reported, and what
is reported is a marker up to ASCII case. -/
structure MarkersExact (tables : UnicodeTables) (source : SourceRequest) : Prop where
  complete : ∀ marker ∈ prohibitionMarkerTable, isAscii marker = true → ∀ before after,
    Occurs source.text marker before after → IsBounded tables before after →
    OutsideLiterals source.text (rangeBehind before marker) →
    rangeBehind before marker ∈ source.prohibitionMarkers tables
  sound : ∀ range ∈ source.prohibitionMarkers tables, ∃ marker ∈ prohibitionMarkerTable,
    ∃ before after, Occurs source.text marker before after ∧ range = rangeBehind before marker

/-- Markers keep their places in the copy, up to markers that take each other's places; and where the
copy has another length, the markers of the request are in lower case. -/
structure MarkersKeepPlace (tables : UnicodeTables) (charLower : Char → List Char)
    (source : SourceRequest) : Prop where
  /-- An occurrence that should be reported stays in its place, or another one moves there. -/
  kept : byteLen (tables.toLowercase source.text) = byteLen source.text →
    ∀ marker ∈ prohibitionMarkerTable, isAscii marker = true → ∀ before after,
    Occurs source.text marker before after → IsBounded tables before after →
    OutsideLiterals source.text (rangeBehind before marker) →
    byteLen (lowered charLower before) = byteLen before ∨
      ∃ other ∈ prohibitionMarkerTable, ∃ before' after',
        Seen tables charLower source.text other before' after' ∧
        rangeBehind (lowered charLower before') other = rangeBehind before marker
  /-- An occurrence that will be reported stays in its place, or moves to that of another one. -/
  taken : byteLen (tables.toLowercase source.text) = byteLen source.text →
    ∀ marker ∈ prohibitionMarkerTable, ∀ before after,
    Seen tables charLower source.text marker before after →
    OutsideLiterals source.text (rangeBehind (lowered charLower before) marker) →
    byteLen (lowered charLower before) = byteLen before ∨
      ∃ other ∈ prohibitionMarkerTable, ∃ before' after',
        Occurs source.text other before' after' ∧
        rangeBehind before' other = rangeBehind (lowered charLower before) marker
  lowerCase : byteLen (tables.toLowercase source.text) ≠ byteLen source.text →
    ∀ marker ∈ prohibitionMarkerTable, isAscii marker = true → ∀ before after,
    Occurs source.text marker before after → IsBounded tables before after →
    OutsideLiterals source.text (rangeBehind before marker) →
    source.text = before ++ (marker ++ after)

variable {source : SourceRequest}

theorem mem_prohibitionMarkers_of_eq (h : tables.LowersBy charLower)
    (hlength : byteLen (tables.toLowercase source.text) = byteLen source.text) (range : ByteRange) :
    range ∈ source.prohibitionMarkers tables ↔
      (∃ marker ∈ prohibitionMarkerTable, ∃ before after,
        Seen tables charLower source.text marker before after ∧
        range = rangeBehind (lowered charLower before) marker) ∧ OutsideLiterals source.text range := by
  rw [mem_prohibitionMarkers, haystackOf, if_pos hlength]
  refine and_congr_left' (exists_congr fun marker => and_congr_right fun hmarker => ?_)
  exact exists_reported_iff h hmarker

theorem mem_prohibitionMarkers_of_ne
    (hlength : byteLen (tables.toLowercase source.text) ≠ byteLen source.text) (range : ByteRange) :
    range ∈ source.prohibitionMarkers tables ↔
      (∃ marker ∈ prohibitionMarkerTable, ∃ before after,
        Reported tables source.text marker range before after) ∧
      OutsideLiterals source.text range := by
  rw [mem_prohibitionMarkers, haystackOf, if_neg hlength]
  rfl

/-- The marker of a range is in lower case, if it is found in the request as it stands. -/
theorem eq_of_reported {text other before' after' : List Char}
    (hother : other ∈ prohibitionMarkerTable) (hoccurs : Occurs text marker before after)
    (hreported : Reported tables text other (rangeBehind before marker) before' after') :
    text = before ++ (marker ++ after) := by
  obtain ⟨occurrence, hsplit, hlower⟩ := hoccurs
  obtain ⟨hsplit', -, hrange⟩ := hreported
  obtain ⟨-, -, hself⟩ := prohibitionMarkerTable_kept other hother
  rw [rangeBehind, ByteRange.mk.injEq] at hrange
  obtain ⟨hstart, hstop⟩ := hrange
  obtain ⟨rfl, hrest⟩ := eq_of_byteLen_eq (hsplit.symm.trans hsplit') hstart
  have hlen : byteLen occurrence = byteLen other := by
    have hmarker : byteLen marker = byteLen occurrence := by rw [← hlower, byteLen_toAsciiLowercase]
    omega
  obtain ⟨rfl, rfl⟩ := eq_of_byteLen_eq hrest hlen
  rw [← hlower, hself]
  exact hsplit

/-- The markers of a request are found exactly when they keep their places in the lowered copy. -/
theorem markersExact_iff (h : tables.LowersBy charLower) :
    MarkersExact tables source ↔ MarkersKeepPlace tables charLower source := by
  constructor
  · intro hexact
    refine ⟨fun hlength marker hmarker hascii before after hoccurs hbounded houtside => .inr ?_,
      fun hlength marker hmarker before after hseen houtside => .inr ?_,
      fun hlength marker hmarker hascii before after hoccurs hbounded houtside => ?_⟩
    · have hmem := hexact.complete marker hmarker hascii before after hoccurs hbounded houtside
      obtain ⟨⟨other, hother, before', after', hseen, hrange⟩, -⟩ :=
        (mem_prohibitionMarkers_of_eq h hlength _).1 hmem
      exact ⟨other, hother, before', after', hseen, hrange.symm⟩
    · have hmem := (mem_prohibitionMarkers_of_eq h hlength _).2
        ⟨⟨marker, hmarker, before, after, hseen, rfl⟩, houtside⟩
      obtain ⟨other, hother, before', after', hoccurs, hrange⟩ := hexact.sound _ hmem
      exact ⟨other, hother, before', after', hoccurs, hrange.symm⟩
    · have hmem := hexact.complete marker hmarker hascii before after hoccurs hbounded houtside
      obtain ⟨⟨other, hother, before', after', hreported⟩, -⟩ :=
        (mem_prohibitionMarkers_of_ne hlength _).1 hmem
      exact eq_of_reported hother hoccurs hreported
  · intro hplace
    by_cases hlength : byteLen (tables.toLowercase source.text) = byteLen source.text
    · have hmem := mem_prohibitionMarkers_of_eq h hlength
      refine ⟨fun marker hmarker hascii before after hoccurs hbounded houtside => ?_,
        fun range hrange => ?_⟩
      · rw [hmem]
        refine ⟨?_, houtside⟩
        rcases hplace.kept hlength marker hmarker hascii before after hoccurs hbounded houtside with
          hsame | ⟨other, hother, before', after', hseen, hrange⟩
        · refine ⟨marker, hmarker, before, after, ⟨hoccurs, fun _ => hbounded.lowered h⟩, ?_⟩
          rw [rangeBehind, rangeBehind, hsame]
        · exact ⟨other, hother, before', after', hseen, hrange.symm⟩
      · rw [hmem] at hrange
        obtain ⟨⟨marker, hmarker, before, after, hseen, rfl⟩, houtside⟩ := hrange
        rcases hplace.taken hlength marker hmarker before after hseen houtside with
          hsame | ⟨other, hother, before', after', hoccurs, hrange⟩
        · refine ⟨marker, hmarker, before, after, hseen.occurs, ?_⟩
          rw [rangeBehind, rangeBehind, hsame]
        · exact ⟨other, hother, before', after', hoccurs, hrange.symm⟩
    · have hmem := mem_prohibitionMarkers_of_ne hlength
      refine ⟨fun marker hmarker hascii before after hoccurs hbounded houtside => ?_,
        fun range hrange => ?_⟩
      · rw [hmem]
        have hsplit := hplace.lowerCase hlength marker hmarker hascii before after hoccurs hbounded
          houtside
        exact ⟨⟨marker, hmarker, before, after, hsplit, fun _ => hbounded, rfl⟩, houtside⟩
      · rw [hmem] at hrange
        obtain ⟨⟨marker, hmarker, before, after, hsplit, -, rfl⟩, -⟩ := hrange
        obtain ⟨-, -, hself⟩ := prohibitionMarkerTable_kept marker hmarker
        exact ⟨marker, hmarker, before, after, ⟨marker, hsplit, hself⟩, rfl⟩

/-! ## ASCII requests -/

theorem byteLen_lowered_of_ascii (h : tables.LowersBy charLower)
    (hascii : ∀ c ∈ text, c.toNat < 128) : byteLen (lowered charLower text) = byteLen text := by
  induction text with
  | nil => rfl
  | cons c rest ih =>
    rw [lowered, flatMap_cons, h.ascii c (hascii c mem_cons_self), byteLen_append,
      byteLen_cons, byteLen_cons, byteLen_nil, utf8Size_toLower, Nat.add_zero]
    exact congrArg _ (ih fun d hd => hascii d (mem_cons_of_mem c hd))

/-- In an ASCII request nothing moves. -/
theorem markersKeepPlace_of_ascii (h : tables.LowersBy charLower)
    (hrequest : isAscii source.text = true) : MarkersKeepPlace tables charLower source := by
  have hascii : ∀ c ∈ source.text, c.toNat < 128 := by simpa [isAscii] using hrequest
  have hbefore : ∀ marker before after, Occurs source.text marker before after →
      byteLen (lowered charLower before) = byteLen before := by
    rintro marker before after ⟨_, hsplit, -⟩
    exact byteLen_lowered_of_ascii h fun c hc => hascii c (by rw [hsplit]; simp [hc])
  have hlength : byteLen (tables.toLowercase source.text) = byteLen source.text := by
    obtain ⟨images, himages, hcopy⟩ := h.text source.text
    rw [hcopy, byteLen_lowered h himages, byteLen_lowered_of_ascii h hascii]
  exact ⟨fun _ marker _ _ before after hoccurs _ _ => .inl (hbefore marker before after hoccurs),
    fun _ marker _ before after hseen _ => .inl (hbefore marker before after hseen.occurs),
    fun hne => absurd hlength hne⟩

end Tables

/-! ## Characters whose length changes -/

/-- The lower case of ASCII letters, and of the characters that the counterexample and the tables
name. -/
def sampleCharLower (c : Char) : List Char :=
  if c = '\u0130' then ['i', '\u0307']
  else if c = '\u1e9e' then ['ß']
  else if c = '\u212a' then ['k']
  else if c = 'Σ' then ['σ']
  else [c.toLower]

def sampleTables : UnicodeTables where
  isAlphanumeric c := c.isAlphanum || decide (128 ≤ c.toNat)
  toLowercase text := text.flatMap sampleCharLower

/-- The characters that are not lowered as in ASCII. -/
def sampleLetters : List Char := ['\u0130', '\u1e9e', '\u212a', 'Σ']

/-- Outside the special characters, a character is lowered as in ASCII. -/
theorem sampleCharLower_cases (c : Char) :
    c ∈ sampleLetters ∨ sampleCharLower c = [c.toLower] := by
  unfold sampleCharLower sampleLetters
  split_ifs <;> simp_all

theorem of_sampleLetters (p : Char → Prop) [DecidablePred p]
    (hall : sampleLetters.all (fun c => decide (p c)) = true) (hmem : c ∈ sampleLetters) : p c :=
  of_decide_eq_true (all_eq_true.1 hall c hmem)

theorem toLower_ascii (h : c.toNat < 128) : c.toLower.toNat < 128 := by
  have hsize : c.utf8Size = 1 :=
    Char.utf8Size_eq_one_iff.2 (UInt32.le_iff_toNat_le.2 (Nat.le_of_lt_succ h))
  rw [← utf8Size_toLower] at hsize
  exact Nat.lt_succ_of_le (UInt32.le_iff_toNat_le.1 (Char.utf8Size_eq_one_iff.1 hsize))

theorem sampleTables_lowersBy : sampleTables.LowersBy sampleCharLower where
  text text := ⟨text.map sampleCharLower, by
    induction text with
    | nil => exact .nil
    | cons c rest ih => exact .cons (.inl rfl) ih, rfl⟩
  nonempty c := by
    rcases sampleCharLower_cases c with hmem | h
    · exact of_sampleLetters (fun c => sampleCharLower c ≠ []) (by decide) hmem
    · simp [h]
  ascii c hc := by
    refine (sampleCharLower_cases c).resolve_left fun hmem => ?_
    exact of_sampleLetters (fun c => ¬ c.toNat < 128) (by decide) hmem hc
  toAscii c d hd hascii := by
    rcases sampleCharLower_cases c with hmem | h
    · have hlower := of_sampleLetters (fun c => (sampleCharLower c).all (128 ≤ ·.toNat) = true ∨
        c = '\u0130' ∨ c = '\u212a') (by decide) hmem
      refine .inr (hlower.resolve_left fun hall => ?_)
      exact Nat.not_le.2 hascii (of_decide_eq_true (all_eq_true.1 hall d hd))
    · rw [h, mem_singleton] at hd
      subst hd
      by_contra hnot
      rw [not_or] at hnot
      rw [toLower_of_not_ascii hnot.1] at hascii
      exact hnot.1 hascii
  dotted := by decide
  kelvin := by decide
  sigma := by decide
  ideograph c hc := by
    rcases sampleCharLower_cases c with hmem | h
    · exact absurd hc (of_sampleLetters (fun c => ¬ isIdeograph c = true) (by decide) hmem)
    · rw [h, toLower_of_not_ascii (not_ascii_of_isIdeograph hc)]
  toIdeograph c d hd hideograph := by
    have hnot := not_ascii_of_isIdeograph hideograph
    rcases sampleCharLower_cases c with hmem | h
    · have hlower := of_sampleLetters
        (fun c => (sampleCharLower c).all (isIdeograph · == false) = true) (by decide) hmem
      have hfalse := all_eq_true.1 hlower d hd
      simp [hideograph] at hfalse
    · rw [h, mem_singleton] at hd
      by_cases hc : c.toNat < 128
      · rw [hd] at hnot
        exact absurd (toLower_ascii hc) hnot
      · rw [hd, toLower_of_not_ascii hc]
  caseless c hc := by
    simp only [sampleTables, Char.isAlphanum, Bool.or_eq_false_iff, decide_eq_false_iff_not,
      not_le] at hc
    rcases sampleCharLower_cases c with hmem | h
    · exact absurd hc.2 (of_sampleLetters (fun c => ¬ c.toNat < 128) (by decide) hmem)
    · rw [h, (toLower_eq_iff hc.1.1).2 rfl]
  sigmas := by decide

def dottedRequest : SourceRequest :=
  ⟨"İ must not ẞ".toList, ⟨1⟩, by decide⟩

/-- The first character is longer in lower case and the last one is shorter: the marker at 3 is reported
at 4. -/
theorem dottedRequest_not_exact :
    sampleTables.LowersBy sampleCharLower ∧ ¬ MarkersExact sampleTables dottedRequest := by
  refine ⟨sampleTables_lowersBy, fun hexact => ?_⟩
  have hmem := hexact.complete "must not".toList (by decide +kernel) (by decide) "İ ".toList
    " ẞ".toList ⟨"must not".toList, by decide, by decide⟩ ⟨by decide, by decide⟩
    (by unfold OutsideLiterals; decide +kernel)
  exact absurd hmem (by decide +kernel)

def plainRequest : SourceRequest :=
  ⟨"You MUST NOT edit src/a.mjs.".toList, ⟨1⟩, by decide⟩

/-- A plain request has exactly its markers. -/
theorem plainRequest_exact : MarkersExact sampleTables plainRequest :=
  (markersExact_iff sampleTables_lowersBy).2
    (markersKeepPlace_of_ascii sampleTables_lowersBy (by decide +kernel))

end Vibemux
