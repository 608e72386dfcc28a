import Mathlib

/-!
# Text with byte offsets

A text is a list of characters, and a position in it is a byte offset of its UTF-8 encoding. Cutting at
an offset succeeds only on a character boundary; searching returns the offset of the first match.
-/

namespace Text

open List Option

variable {d : Char} {needle text : List Char} {before after left right : List Char} {offset : Nat}
  {piece word : List Char} {sep : Char} {words : List (List Char)}

/-- The number of bytes of a text. -/
def byteLen : List Char → Nat
  | [] => 0
  | c :: rest => c.utf8Size + byteLen rest

@[simp]
theorem byteLen_nil : byteLen [] = 0 := rfl

@[simp]
theorem byteLen_cons (c : Char) (rest : List Char) :
    byteLen (c :: rest) = c.utf8Size + byteLen rest := rfl

@[simp]
theorem byteLen_append (a b : List Char) : byteLen (a ++ b) = byteLen a + byteLen b := by
  induction a with
  | nil => simp
  | cons c rest ih => simp [ih, Nat.add_assoc]

theorem byteLen_pos (h : text ≠ []) : 0 < byteLen text := by
  cases text with
  | nil => exact absurd rfl h
  | cons c rest => exact Nat.lt_of_lt_of_le c.utf8Size_pos (Nat.le_add_right _ _)

@[simp]
theorem byteLen_eq_zero : byteLen text = 0 ↔ text = [] := by
  refine ⟨fun h => ?_, fun h => by simp [h]⟩
  by_contra hne
  exact absurd h (Nat.ne_of_gt (byteLen_pos hne))

/-- The text before and after a byte offset, if the offset is a character boundary. -/
def splitAt (offset : Nat) : List Char → Option (List Char × List Char)
  | [] => if offset = 0 then some ([], []) else none
  | c :: rest =>
    if offset = 0 then some ([], c :: rest)
    else if c.utf8Size ≤ offset then
      (splitAt (offset - c.utf8Size) rest).map fun p => (c :: p.1, p.2)
    else none

theorem splitAt_append (before after : List Char) :
    splitAt (byteLen before) (before ++ after) = some (before, after) := by
  induction before with
  | nil => cases after <;> rfl
  | cons c rest ih =>
    have hpos := c.utf8Size_pos
    rw [cons_append, byteLen_cons, splitAt, if_neg (by omega), if_pos (by omega),
      Nat.add_sub_cancel_left, ih]
    rfl

theorem eq_append_of_splitAt {text before after : List Char}
    (h : splitAt offset text = some (before, after)) :
    text = before ++ after ∧ byteLen before = offset := by
  induction text generalizing offset before with
  | nil =>
    rw [splitAt] at h
    split_ifs at h with h0
    cases h
    exact ⟨rfl, h0.symm⟩
  | cons c rest ih =>
    rw [splitAt] at h
    split_ifs at h with h0 hle
    · cases h
      exact ⟨rfl, h0.symm⟩
    · obtain ⟨⟨b, a⟩, hsplit, hpair⟩ := map_eq_some_iff.1 h
      cases hpair
      obtain ⟨rfl, hlen⟩ := ih hsplit
      refine ⟨rfl, ?_⟩
      rw [byteLen_cons, hlen]
      omega

/-- The text between two byte offsets, if both are character boundaries in order. -/
def slice (text : List Char) (start stop : Nat) : Option (List Char) :=
  if start ≤ stop then
    (splitAt start text).bind fun p => (splitAt (stop - start) p.2).map Prod.fst
  else none

theorem slice_append (before middle after : List Char) :
    slice (before ++ middle ++ after) (byteLen before) (byteLen before + byteLen middle) =
      some middle := by
  rw [slice, if_pos (by omega), append_assoc, splitAt_append, bind_some,
    Nat.add_sub_cancel_left, splitAt_append]
  rfl

theorem slice_eq_some {text middle : List Char} {start stop : Nat} :
    slice text start stop = some middle ↔
      ∃ before after, text = before ++ middle ++ after ∧ start = byteLen before ∧
        stop = byteLen before + byteLen middle := by
  constructor
  · intro h
    rw [slice] at h
    split_ifs at h with hle
    obtain ⟨⟨before, rest⟩, h₁, h⟩ := bind_eq_some_iff.1 h
    obtain ⟨⟨m, after⟩, h₂, rfl⟩ := map_eq_some_iff.1 h
    obtain ⟨rfl, hb⟩ := eq_append_of_splitAt h₁
    obtain ⟨rfl, hm⟩ := eq_append_of_splitAt h₂
    refine ⟨before, after, by simp, hb.symm, ?_⟩
    simp only at hm ⊢
    omega
  · rintro ⟨before, after, rfl, rfl, rfl⟩
    exact slice_append before middle after

/-- An element of two lists in a row stands in the first or in the second. -/
theorem append_eq_append_cons {α : Type*} {first second left right : List α} {c : α}
    (h : first ++ second = left ++ c :: right) :
    (∃ more, first = left ++ c :: more ∧ right = more ++ second) ∨
      ∃ more, left = first ++ more ∧ second = more ++ c :: right := by
  rcases append_eq_append_iff.1 h with ⟨more, hleft, hsecond⟩ | ⟨more, hfirst, htail⟩
  · exact .inr ⟨more, hleft, hsecond⟩
  · cases more with
    | nil => exact .inr ⟨[], by simpa using hfirst.symm, by simpa using htail.symm⟩
    | cons d more =>
      obtain ⟨rfl, hright⟩ := cons.inj htail
      exact .inl ⟨more, hfirst, hright⟩

/-- A boundary behind the start of a character is behind the whole character. -/
theorem byteLen_le_of_lt {c : Char} (h : before ++ c :: after = left ++ right)
    (hlt : byteLen before < byteLen left) :
    byteLen before + c.utf8Size ≤ byteLen left := by
  rcases append_eq_append_cons h.symm with ⟨more, rfl, -⟩ | ⟨more, rfl, -⟩
  · simp only [byteLen_append, byteLen_cons]
    omega
  · rw [byteLen_append] at hlt
    omega

/-- Characters at one offset of a text are the same. -/
theorem eq_of_byteLen_eq (h : before ++ after = left ++ right)
    (hlen : byteLen before = byteLen left) :
    before = left ∧ after = right := by
  have hbefore := splitAt_append before after
  rw [h, hlen, splitAt_append] at hbefore
  cases hbefore
  exact ⟨rfl, rfl⟩

/-- The byte offset of the first occurrence of `needle`. -/
def find (needle : List Char) : List Char → Option Nat
  | [] => if needle = [] then some 0 else none
  | c :: rest =>
    if needle.isPrefixOf (c :: rest) then some 0
    else (find needle rest).map (c.utf8Size + ·)

/-- A gap that does not contain the first character of the needle is skipped. -/
theorem find_skip {gap : List Char} (h : d ∉ gap) (ds after : List Char) :
    find (d :: ds) (gap ++ (d :: ds ++ after)) = some (byteLen gap) := by
  induction gap with
  | nil => simp [find]
  | cons c gap ih =>
    rw [mem_cons, not_or] at h
    rw [cons_append, find, if_neg (by simp [h.1]), ih h.2]
    rfl

/-- A character is found behind the characters that differ from it. -/
theorem eq_append_of_find_singleton (h : find [d] text = some offset) :
    ∃ before after, text = before ++ d :: after ∧ d ∉ before ∧ byteLen before = offset := by
  induction text generalizing offset with
  | nil => simp [find] at h
  | cons c rest ih =>
    rw [find] at h
    split_ifs at h with hprefix
    · obtain rfl : d = c := by simpa using hprefix
      cases h
      exact ⟨[], rest, rfl, by simp, rfl⟩
    · obtain ⟨inner, hinner, rfl⟩ := map_eq_some_iff.1 h
      obtain ⟨before, after, rfl, hnot, rfl⟩ := ih hinner
      have hne : d ≠ c := by simpa using hprefix
      exact ⟨c :: before, after, rfl, by simp [hne, hnot], rfl⟩

theorem find_eq_none (h : find needle text = none) (before after : List Char) :
    text ≠ before ++ (needle ++ after) := by
  induction text generalizing before with
  | nil =>
    rw [find] at h
    split_ifs at h with hneedle
    rintro heq
    have hnil := append_eq_nil_iff.1 heq.symm
    exact hneedle (append_eq_nil_iff.1 hnil.2).1
  | cons c rest ih =>
    rw [find] at h
    split_ifs at h with hprefix
    rw [map_eq_none_iff] at h
    intro heq
    cases before with
    | nil => exact hprefix ( isPrefixOf_iff_prefix.2 ⟨after, heq.symm⟩)
    | cons d before => exact ih h before (cons.inj heq).2

/-- The first occurrence is found. -/
theorem find_eq_some {position : Nat} (h : find needle text = some position) :
    (∃ before after, text = before ++ (needle ++ after) ∧ byteLen before = position) ∧
      ∀ before after, text = before ++ (needle ++ after) → position ≤ byteLen before := by
  induction text generalizing position with
  | nil =>
    rw [find] at h
    split_ifs at h with hneedle
    cases h
    exact ⟨⟨[], [], by simp [hneedle], rfl⟩, fun _ _ _ => Nat.zero_le _⟩
  | cons c rest ih =>
    rw [find] at h
    split_ifs at h with hprefix
    · cases h
      obtain ⟨after, heq⟩ := isPrefixOf_iff_prefix.1 hprefix
      exact ⟨⟨[], after, heq.symm, rfl⟩, fun _ _ _ => Nat.zero_le _⟩
    · obtain ⟨inner, hinner, rfl⟩ := map_eq_some_iff.1 h
      obtain ⟨⟨before, after, hsplit, hlen⟩, hleast⟩ := ih hinner
      refine ⟨⟨c :: before, after, by rw [hsplit]; rfl, by rw [byteLen_cons, hlen]⟩, ?_⟩
      intro before' after' heq
      cases before' with
      | nil => exact absurd ( isPrefixOf_iff_prefix.2 ⟨after', heq.symm⟩) hprefix
      | cons d before' =>
        obtain ⟨rfl, htail⟩ := cons.inj heq
        rw [byteLen_cons]
        exact Nat.add_le_add_left (hleast before' after' htail) _

/-- Of two starts of one text, the one with fewer bytes starts the other. -/
theorem eq_append_of_byteLen_le {left right before after : List Char}
    (h : left ++ right = before ++ after) (hle : byteLen left ≤ byteLen before) :
    ∃ more, before = left ++ more ∧ right = more ++ after := by
  rcases append_eq_append_iff.1 h with ⟨more, hbefore, hright⟩ | ⟨more, hleft, hafter⟩
  · exact ⟨more, hbefore, hright⟩
  · rw [hleft, byteLen_append] at hle
    obtain rfl : more = [] := byteLen_eq_zero.1 (by omega)
    exact ⟨[], by simpa using hleft.symm, by simpa using hafter.symm⟩

/-- The text before and behind the first occurrence of `needle`. -/
def splitOnce (needle : List Char) : List Char → Option (List Char × List Char)
  | [] => if needle = [] then some ([], []) else none
  | c :: rest =>
    if needle.isPrefixOf (c :: rest) then some ([], (c :: rest).drop needle.length)
    else (splitOnce needle rest).map fun p => (c :: p.1, p.2)

/-- Whether `needle` occurs in the text. -/
def contains (text needle : List Char) : Bool := (find needle text).isSome

/-- The characters with the Unicode property White_Space. -/
def isWhitespace (c : Char) : Bool :=
  let n := c.toNat
  (9 ≤ n && n ≤ 13) || n == 0x20 || n == 0x85 || n == 0xA0 || n == 0x1680 ||
    (0x2000 ≤ n && n ≤ 0x200A) || n == 0x2028 || n == 0x2029 || n == 0x202F || n == 0x205F ||
    n == 0x3000

/-- The characters of the Unicode category Cc. -/
def isControl (c : Char) : Bool := c.toNat < 0x20 || (0x7F ≤ c.toNat && c.toNat ≤ 0x9F)

/-- Without the characters at the start that satisfy `p`. -/
def trimStartMatches (p : Char → Bool) (text : List Char) : List Char := text.dropWhile p

/-- Without the characters at the end that satisfy `p`. -/
def trimEndMatches (p : Char → Bool) (text : List Char) : List Char :=
  (text.reverse.dropWhile p).reverse

theorem trimStartMatches_split (p : Char → Bool) (text : List Char) :
    ∃ dropped, text = dropped ++ trimStartMatches p text ∧ ∀ c ∈ dropped, p c = true :=
  ⟨text.takeWhile p, takeWhile_append_dropWhile.symm, fun _ h => mem_takeWhile_imp h⟩

theorem trimEndMatches_split (p : Char → Bool) (text : List Char) :
    ∃ dropped, text = trimEndMatches p text ++ dropped ∧ ∀ c ∈ dropped, p c = true := by
  obtain ⟨dropped, hsplit, hdropped⟩ := trimStartMatches_split p text.reverse
  refine ⟨dropped.reverse, ?_, by simpa using hdropped⟩
  rw [trimEndMatches, ← trimStartMatches, ← reverse_append, ← hsplit, reverse_reverse]

/-- Trimming the end stops at a character that stays. -/
theorem trimEndMatches_append {p : Char → Bool} {kept dropped : List Char}
    (hkept : ∀ c ∈ kept.getLast?, p c = false) (hdropped : ∀ c ∈ dropped, p c = true) :
    trimEndMatches p (kept ++ dropped) = kept := by
  have hreverse : ∀ c ∈ dropped.reverse, p c = true := fun c hc => hdropped c (mem_reverse.1 hc)
  rw [trimEndMatches, reverse_append, dropWhile_append_of_pos hreverse]
  have hself : kept.reverse.dropWhile p = kept.reverse := by
    cases hrev : kept.reverse with
    | nil => rfl
    | cons c rest =>
      have hc := hkept c (by rw [← head?_reverse, hrev]; rfl)
      rw [dropWhile_cons_of_neg (by simp [hc])]
  rw [hself, reverse_reverse]

theorem getLast?_trimEndMatches (p : Char → Bool) (text : List Char) :
    ∀ c ∈ (trimEndMatches p text).getLast?, p c = false := by
  intro c hc
  rw [trimEndMatches, getLast?_reverse, mem_def] at hc
  have hhead := head?_dropWhile_not p text.reverse
  rwa [hc] at hhead

def trimStart (text : List Char) : List Char := trimStartMatches isWhitespace text

def trimEnd (text : List Char) : List Char := trimEndMatches isWhitespace text

/-- Without white space at either end. -/
def trim (text : List Char) : List Char := trimEnd (trimStart text)

/-- The pieces between the characters equal to `sep`; a text without it is one piece. -/
def splitOn (sep : Char) : List Char → List (List Char)
  | [] => [[]]
  | c :: rest =>
    if c = sep then [] :: splitOn sep rest
    else
      match splitOn sep rest with
      | [] => [[c]]
      | piece :: pieces => (c :: piece) :: pieces

theorem splitOn_append (h : sep ∉ piece) (rest : List Char) :
    splitOn sep (piece ++ sep :: rest) = piece :: splitOn sep rest := by
  induction piece with
  | nil => simp [splitOn]
  | cons c piece ih =>
    rw [mem_cons, not_or] at h
    rw [cons_append, splitOn, if_neg (Ne.symm h.1), ih h.2]

theorem splitOn_of_notMem (h : sep ∉ piece) :
    splitOn sep piece = [piece] := by
  induction piece with
  | nil => rfl
  | cons c piece ih =>
    rw [mem_cons, not_or] at h
    rw [splitOn, if_neg (Ne.symm h.1), ih h.2]

theorem splitOn_ne_nil (sep : Char) (text : List Char) : splitOn sep text ≠ [] := by
  cases text with
  | nil => simp [splitOn]
  | cons c rest =>
    rw [splitOn]
    split_ifs
    · simp
    · split <;> simp

/-- The pieces on both sides of a separator. -/
theorem splitOn_append_sep (sep : Char) (left right : List Char) :
    splitOn sep (left ++ sep :: right) = splitOn sep left ++ splitOn sep right := by
  induction left with
  | nil => simp [splitOn]
  | cons c left ih =>
    rw [cons_append, splitOn, splitOn, ih]
    by_cases hc : c = sep
    · simp [hc]
    · rw [if_neg hc, if_neg hc]
      cases hleft : splitOn sep left with
      | nil => exact absurd hleft (splitOn_ne_nil sep left)
      | cons piece pieces => rfl

/-- The pieces that end behind each `sep`; nothing is left out, and no piece is empty. -/
def splitInclusive (sep : Char) : List Char → List (List Char)
  | [] => []
  | c :: rest =>
    if c = sep then [c] :: splitInclusive sep rest
    else
      match splitInclusive sep rest with
      | [] => [[c]]
      | piece :: pieces => (c :: piece) :: pieces

/-- The maximal runs of characters that are not white space, in order. `word` is the run that is
being read. -/
def splitWhitespaceFrom (word : List Char) : List Char → List (List Char)
  | [] => if word = [] then [] else [word]
  | c :: rest =>
    if isWhitespace c then
      if word = [] then splitWhitespaceFrom [] rest else word :: splitWhitespaceFrom [] rest
    else splitWhitespaceFrom (word ++ [c]) rest

/-- The words of a text. -/
def splitWhitespace (text : List Char) : List (List Char) := splitWhitespaceFrom [] text

/-- The run that is being read goes on up to white space or the end. -/
theorem splitWhitespaceFrom_eq_cons {run text : List Char} (hrun : run ≠ [])
    (h : splitWhitespaceFrom run text = word :: words) :
    ∃ more after, text = more ++ after ∧ word = run ++ more ∧
      (∀ c ∈ more, isWhitespace c = false) ∧ (∀ c ∈ after.head?, isWhitespace c = true) ∧
      splitWhitespace after = words := by
  induction text generalizing run with
  | nil =>
    rw [splitWhitespaceFrom, if_neg hrun] at h
    cases h
    exact ⟨[], [], rfl, by simp, by simp, by simp, rfl⟩
  | cons c rest ih =>
    rw [splitWhitespaceFrom] at h
    split_ifs at h with hwhite
    · cases h
      refine ⟨[], c :: rest, rfl, by simp, by simp, by simpa using hwhite, ?_⟩
      rw [splitWhitespace, splitWhitespaceFrom, if_pos hwhite, if_pos rfl]
    · obtain ⟨more, after, rfl, rfl, hmore, hafter, hwords⟩ := ih (by simp) h
      refine ⟨c :: more, after, rfl, by simp, ?_, hafter, hwords⟩
      simpa [hwhite] using hmore

/-- The first word of a text stands behind white space and ends before white space. -/
theorem splitWhitespace_eq_cons {text : List Char} (h : splitWhitespace text = word :: words) :
    ∃ gap after, text = gap ++ (word ++ after) ∧ (∀ c ∈ gap, isWhitespace c = true) ∧
      word ≠ [] ∧ (∀ c ∈ word, isWhitespace c = false) ∧
      (∀ c ∈ after.head?, isWhitespace c = true) ∧ splitWhitespace after = words := by
  induction text with
  | nil => cases h
  | cons c rest ih =>
    rw [splitWhitespace, splitWhitespaceFrom] at h
    by_cases hwhite : isWhitespace c = true
    · rw [if_pos hwhite, if_pos rfl] at h
      obtain ⟨gap, after, rfl, hgap, hword⟩ := ih h
      exact ⟨c :: gap, after, rfl, by simpa [hwhite] using hgap, hword⟩
    · rw [if_neg hwhite] at h
      obtain ⟨_, after, rfl, rfl, hmore, hafter, hwords⟩ :=
        splitWhitespaceFrom_eq_cons (by simp) h
      exact ⟨[], after, rfl, by simp, by simp, by simpa [hwhite] using hmore, hafter, hwords⟩

/-- The text without `suffix` at its end, if it ends in it. -/
def stripSuffix (suffix text : List Char) : Option (List Char) :=
  if suffix.isSuffixOf text then some (text.take (text.length - suffix.length)) else none

theorem stripSuffix_eq_some {suffix text rest : List Char} :
    stripSuffix suffix text = some rest ↔ text = rest ++ suffix := by
  unfold stripSuffix
  split_ifs with h
  · obtain ⟨r, rfl⟩ := isSuffixOf_iff_suffix.1 h
    simp [eq_comm]
  · refine ⟨nofun, ?_⟩
    rintro rfl
    exact absurd (isSuffixOf_iff_suffix.2 (suffix_append _ _)) h

/-- ASCII letters in lower case, everything else as it is. -/
def toAsciiLowercase (text : List Char) : List Char := text.map Char.toLower

end Text
