import Vibemux.Compiler.PathAuthority

/-!
# Complete literal tokens

A complete literal token is the whole inside of a quoted region, or a whole unquoted word without the
punctuation around it. The ranges that `exactLiteralRanges` finds are such tokens.
-/

namespace Vibemux

open Option Text

variable {range : ByteRange} {path text : List Char}

/-- A maximal run of characters that are not white space. -/
structure IsWord (text before word after : List Char) : Prop where
  split : text = before ++ (word ++ after)
  nonempty : word ≠ []
  solid : ∀ c ∈ word, isWhitespace c = false
  opens : ∀ c ∈ before.getLast?, isWhitespace c = true
  closes : ∀ c ∈ after.head?, isWhitespace c = true

/-- `token` is a complete literal token of `text`, and it stands at `range`. -/
inductive LiteralTokenAt (text token : List Char) (range : ByteRange) : Prop where
  | quoted (before after : List Char) (opening closing : Char)
      (split : text = before ++ opening :: (token ++ closing :: after))
      (delimited : closingDelimiter opening = some closing)
      (region : ByteRange.mk (byteLen before) (byteLen before + opening.utf8Size + byteLen token +
        closing.utf8Size) ∈ literalRegions text)
      (place : range = ⟨byteLen before + opening.utf8Size,
        byteLen before + opening.utf8Size + byteLen token⟩)
  | word (before opening closing after : List Char)
      (isWord : IsWord text before (opening ++ (token ++ closing)) after)
      (trimmed : trimWord (opening ++ (token ++ closing)) = token)
      (unquoted : ∀ region ∈ literalRegions text, region.overlaps ⟨byteLen before,
        byteLen before + byteLen (opening ++ (token ++ closing))⟩ = false)
      (place : range = ⟨byteLen before + byteLen opening,
        byteLen before + byteLen opening + byteLen token⟩)

/-- A literal region is a delimiter, text without its closing delimiter, and that delimiter. -/
theorem mem_literalRegionsFrom {region : ByteRange} {fuel : Nat} (before : List Char)
    {rest : List Char}
    (h : region ∈ literalRegionsFrom fuel (byteLen before) rest) :
    ∃ left content right opening closing,
      before ++ rest = left ++ opening :: (content ++ closing :: right) ∧
      closingDelimiter opening = some closing ∧
      region = ⟨byteLen left,
        byteLen left + opening.utf8Size + byteLen content + closing.utf8Size⟩ := by
  induction fuel generalizing before rest with
  | zero => simp [literalRegionsFrom] at h
  | succ fuel ih =>
    cases rest with
    | nil => simp [literalRegionsFrom] at h
    | cons c rest =>
      have hnext : byteLen before + c.utf8Size = byteLen (before ++ [c]) := by simp
      have hskip := @ih (before ++ [c]) rest
      rw [← hnext, List.append_assoc, List.singleton_append] at hskip
      rw [literalRegionsFrom] at h
      cases hclose : closingDelimiter c with
      | none =>
        rw [hclose] at h
        exact hskip h
      | some close =>
        rw [hclose] at h
        dsimp only at h
        cases hfind : find [close] rest with
        | none =>
          rw [hfind] at h
          exact hskip h
        | some offset =>
          rw [hfind] at h
          obtain ⟨content, right, rfl, -, rfl⟩ := eq_append_of_find_singleton hfind
          have hsplit : splitAt (byteLen content + close.utf8Size) (content ++ close :: right) =
              some (content ++ [close], right) := by
            simpa using splitAt_append (content ++ [close]) right
          dsimp only at h
          rw [hsplit] at h
          rcases List.mem_cons.1 h with rfl | hmem
          · exact ⟨before, content, right, c, close, rfl, hclose, rfl⟩
          · have hstop : byteLen before + c.utf8Size + byteLen content + close.utf8Size =
                byteLen (before ++ c :: (content ++ [close])) := by
              simp only [byteLen_append, byteLen_cons, byteLen_nil]
              omega
            rw [hstop] at hmem
            simpa using ih _ hmem

theorem literalRegions_split {region : ByteRange} (h : region ∈ literalRegions text) :
    ∃ left content right opening closing,
      text = left ++ opening :: (content ++ closing :: right) ∧
      closingDelimiter opening = some closing ∧
      region = ⟨byteLen left,
        byteLen left + opening.utf8Size + byteLen content + closing.utf8Size⟩ :=
  mem_literalRegionsFrom [] h

theorem literalTokenAt_of_mem_quotedRanges (h : range ∈ quotedRanges text path) :
    LiteralTokenAt text path range := by
  obtain ⟨region, hregion, hrange⟩ := List.mem_filterMap.1 h
  obtain ⟨left, content, right, opening, closing, rfl, hclose, rfl⟩ := literalRegions_split hregion
  -- the text of the region, and of its inside
  have hinside : textOf (left ++ opening :: (content ++ closing :: right))
      ⟨byteLen left, byteLen left + opening.utf8Size + byteLen content + closing.utf8Size⟩ =
        opening :: (content ++ [closing]) := by
    have hslice := slice_append left (opening :: (content ++ [closing])) right
    simp only [byteLen_cons, byteLen_append, byteLen_nil, ← Nat.add_assoc, Nat.add_zero] at hslice
    simp only [textOf]
    rw [show left ++ opening :: (content ++ closing :: right) =
      left ++ opening :: (content ++ [closing]) ++ right by simp, hslice]
    rfl
  have hcontent : slice (left ++ opening :: (content ++ closing :: right))
      (byteLen left + opening.utf8Size) (byteLen left + opening.utf8Size + byteLen content) =
        some content := by
    have hslice := slice_append (left ++ [opening]) content (closing :: right)
    simpa using hslice
  have hlast : (opening :: (content ++ [closing])).getLast? = some closing := by
    rw [← List.cons_append, List.getLast?_append]
    rfl
  simp only [hinside, List.head?_cons, hlast, map_some, getD_some,
    Nat.add_sub_cancel, hcontent, some.injEq] at hrange
  split_ifs at hrange with hpath
  subst hpath
  cases hrange
  exact .quoted left right opening closing rfl hclose hregion rfl

/-- A word is what was trimmed from it and the rest. -/
theorem trimWord_split {word token : List Char} (h : trimWord word = token) (htoken : token ≠ []) :
    ∃ opening closing, word = opening ++ (token ++ closing) ∧
      byteLen word - byteLen (trimStartMatches isOpeningParenthesis word) = byteLen opening := by
  obtain ⟨closing, hclosing, -⟩ := trimEndMatches_split isTrailingPunctuation word
  obtain ⟨opening, hopening, hparens⟩ :=
    trimStartMatches_split isOpeningParenthesis (trimEndMatches isTrailingPunctuation word)
  have htrim : trimStartMatches isOpeningParenthesis
      (trimEndMatches isTrailingPunctuation word) = token := h
  rw [htrim] at hopening
  have hword : word = opening ++ (token ++ closing) := by
    rw [hopening, List.append_assoc] at hclosing
    exact hclosing
  refine ⟨opening, closing, hword, ?_⟩
  -- the token starts with a character that is kept, so the closing part does not matter
  cases token with
  | nil => exact absurd rfl htoken
  | cons c rest =>
    have hhead : isOpeningParenthesis c = false := by
      have hdrop := List.head?_dropWhile_not isOpeningParenthesis
        (trimEndMatches isTrailingPunctuation word)
      rw [← trimStartMatches, htrim] at hdrop
      simpa using hdrop
    have hdropped : trimStartMatches isOpeningParenthesis word = c :: rest ++ closing := by
      rw [trimStartMatches, hword, List.dropWhile_append_of_pos hparens, List.cons_append,
        List.dropWhile_cons_of_neg (by simp [hhead])]
    rw [hdropped, hword, byteLen_append, Nat.add_sub_cancel]

/-- The loop over the words: `before` is the text up to the end of the last word. -/
theorem literalTokenAt_of_mem_wordRanges (before : List Char) {rest : List Char}
    {words : List (List Char)} (hpath : path ≠ []) (htext : text = before ++ rest)
    (hopens : ∀ c ∈ rest.head?, isWhitespace c = true ∨ before = [])
    (hwords : splitWhitespace rest = words)
    (h : range ∈ wordRanges text path (literalRegions text) (byteLen before) words) :
    LiteralTokenAt text path range := by
  induction words generalizing before rest with
  | nil => cases h
  | cons word words ih =>
    obtain ⟨gap, after, rfl, hgap, hne, hsolid, hafter, hrest⟩ := splitWhitespace_eq_cons hwords
    -- the search finds the word itself: it cannot start in the gap
    have hfind : find word (gap ++ (word ++ after)) = some (byteLen gap) := by
      cases word with
      | nil => exact absurd rfl hne
      | cons c tail =>
        refine find_skip (fun hmem => ?_) tail after
        have hwhite := hgap c hmem
        have hblack := hsolid c List.mem_cons_self
        simp [hwhite] at hblack
    have hnext : byteLen before + byteLen gap + byteLen word = byteLen (before ++ gap ++ word) := by
      rw [byteLen_append, byteLen_append]
    have hlater : range ∈ wordRanges text path (literalRegions text)
        (byteLen before + byteLen gap + byteLen word) words → LiteralTokenAt text path range := by
      intro hmem
      rw [hnext] at hmem
      exact ih _ (by simp [htext]) (fun c hc => .inl (hafter c hc)) hrest hmem
    rw [wordRanges, htext, splitAt_append, ← htext, bind_some, hfind] at h
    dsimp only at h
    split_ifs at h with hquoted htrim
    · exact hlater h
    · rcases List.mem_cons.1 h with rfl | hmem
      · obtain ⟨opening, closing, rfl, hleading⟩ := trimWord_split htrim hpath
        have hregions : ∀ region ∈ literalRegions text, region.overlaps ⟨byteLen (before ++ gap),
            byteLen (before ++ gap) + byteLen (opening ++ (path ++ closing))⟩ = false := by
          intro region hregion
          simpa using (List.any_eq_false.1 (Bool.eq_false_of_not_eq_true hquoted)) region hregion
        refine .word (before ++ gap) opening closing after ⟨by simp [htext], hne, hsolid, ?_, hafter⟩
          htrim hregions ?_
        · intro c hc
          rw [List.getLast?_append] at hc
          cases hlast : gap.getLast? with
          | some d =>
            rw [hlast] at hc
            cases hc
            exact hgap c (List.mem_of_getLast? hlast)
          | none =>
            obtain rfl := List.getLast?_eq_none_iff.1 hlast
            -- without a gap the word would go on from the text before
            cases hword : opening ++ (path ++ closing) with
            | nil => exact absurd hword hne
            | cons d tail =>
              rw [hword] at hopens hsolid
              rcases hopens d rfl with hwhite | rfl
              · have hblack := hsolid d List.mem_cons_self
                simp [hwhite] at hblack
              · simp at hc
        · rw [hleading, htrim, byteLen_append]
      · exact hlater hmem
    · exact hlater h

/-- The ranges found for a path are complete literal tokens equal to it. -/
theorem literalTokenAt_of_mem_exactLiteralRanges {source : SourceRequest} (hpath : path ≠ [])
    (h : range ∈ exactLiteralRanges source path) :
    LiteralTokenAt source.text path range := by
  rcases List.mem_append.1 h with hquoted | hword
  · exact literalTokenAt_of_mem_quotedRanges hquoted
  · exact literalTokenAt_of_mem_wordRanges [] hpath rfl (fun _ _ => .inr rfl) rfl hword

end Vibemux
