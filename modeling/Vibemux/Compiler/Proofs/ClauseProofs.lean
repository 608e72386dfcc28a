import Vibemux.Compiler.Proofs.LiteralTokenProofs

/-!
# Clauses lose and duplicate nothing

The clauses of a request are laid out in its text with white space between them. The scanner cuts only
outside literal regions, and trimming moves a cut over white space, never over a delimiter.
-/

namespace Vibemux

open Text List

/-! ## Layout -/

/-- A text that starts and ends with a character other than white space. -/
structure IsCore (core : List Char) : Prop where
  first : ∃ c, core.head? = some c ∧ isWhitespace c = false
  last : ∃ c, core.getLast? = some c ∧ isWhitespace c = false

/-- The text behind `before` is white space and cores in turn, and the ranges are those of the
cores. -/
inductive LaidOut : List Char → List Char → List ByteRange → Prop where
  | blank (before gap : List Char) (hgap : ∀ c ∈ gap, isWhitespace c = true) :
      LaidOut before gap []
  | clause (before gap core rest : List Char) (ranges : List ByteRange)
      (hgap : ∀ c ∈ gap, isWhitespace c = true) (hcore : IsCore core)
      (hrest : LaidOut (before ++ gap ++ core) rest ranges) :
      LaidOut before (gap ++ (core ++ rest))
        (⟨byteLen (before ++ gap), byteLen (before ++ gap ++ core)⟩ :: ranges)

theorem IsCore.ne_nil {core : List Char} (h : IsCore core) : core ≠ [] := by
  rintro rfl
  obtain ⟨c, hc, -⟩ := h.first
  cases hc

namespace LaidOut

variable {before rest gap : List Char} {ranges : List ByteRange}

/-- More white space in front. -/
theorem prepend (hgap : ∀ c ∈ gap, isWhitespace c = true) (h : LaidOut (before ++ gap) rest ranges) :
    LaidOut before (gap ++ rest) ranges := by
  generalize hstart : before ++ gap = start at h
  cases h with
  | blank _ more hmore =>
    refine .blank before (gap ++ rest) fun c hc => ?_
    rcases mem_append.1 hc with hc | hc
    · exact hgap c hc
    · exact hmore c hc
  | clause _ more core rest ranges hmore hcore _ =>
    subst hstart
    have hwhite : ∀ c ∈ gap ++ more, isWhitespace c = true := fun c hc =>
      (mem_append.1 hc).elim (hgap c) (hmore c)
    have hlaid : LaidOut (before ++ (gap ++ more) ++ core) rest ranges := by
      rwa [← append_assoc]
    have hclause := LaidOut.clause before (gap ++ more) core rest ranges hwhite hcore hlaid
    simpa only [append_assoc] using hclause

end LaidOut

/-- A piece is white space, or a core with white space around it. -/
theorem blank_or_core (piece : List Char) :
    (∀ c ∈ piece, isWhitespace c = true) ∨ ∃ leading core trailing,
      piece = leading ++ (core ++ trailing) ∧ (∀ c ∈ leading, isWhitespace c = true) ∧
      (∀ c ∈ trailing, isWhitespace c = true) ∧ IsCore core ∧
      trimStart piece = core ++ trailing ∧ trimEnd piece = leading ++ core := by
  obtain ⟨leading, hpiece, hleading⟩ := trimStartMatches_split isWhitespace piece
  obtain ⟨trailing, hrest, htrailing⟩ :=
    trimEndMatches_split isWhitespace (trimStartMatches isWhitespace piece)
  have hlast := getLast?_trimEndMatches isWhitespace (trimStartMatches isWhitespace piece)
  generalize hcore : trimEndMatches isWhitespace (trimStartMatches isWhitespace piece) = core at *
  cases core with
  | nil =>
    left
    intro c hc
    rw [hpiece, hrest, nil_append, mem_append] at hc
    exact hc.elim (hleading c) (htrailing c)
  | cons first more =>
    right
    have hfirst : isWhitespace first = false := by
      have hhead := head?_dropWhile_not isWhitespace piece
      have hdrop : piece.dropWhile isWhitespace = first :: more ++ trailing := hrest
      rw [hdrop] at hhead
      exact hhead
    have hfinal := hlast _ (getLast?_eq_some_getLast (cons_ne_nil first more))
    refine ⟨leading, first :: more, trailing, by rw [← hrest, ← hpiece], hleading, htrailing,
      ⟨⟨first, rfl, hfirst⟩, ⟨_, getLast?_eq_some_getLast (cons_ne_nil first more), hfinal⟩⟩,
      hrest, ?_⟩
    have hsplit : piece = leading ++ first :: more ++ trailing := by
      rw [append_assoc, ← hrest, ← hpiece]
    rw [trimEnd, hsplit]
    refine trimEndMatches_append (fun c hc => hlast c ?_) htrailing
    rwa [getLast?_append_of_ne_nil _ (cons_ne_nil first more)] at hc

/-- The clause of a piece is its core. -/
theorem pushClause_eq {text before piece after : List Char} (htext : text = before ++ piece ++ after) :
    (∀ c ∈ piece, isWhitespace c = true) ∧
      pushClause text (byteLen before) (byteLen (before ++ piece)) = [] ∨
    ∃ leading core trailing, piece = leading ++ (core ++ trailing) ∧
      (∀ c ∈ leading, isWhitespace c = true) ∧ (∀ c ∈ trailing, isWhitespace c = true) ∧
      IsCore core ∧ pushClause text (byteLen before) (byteLen (before ++ piece)) =
        [⟨byteLen (before ++ leading), byteLen (before ++ leading ++ core)⟩] := by
  have hpiece : textOf text ⟨byteLen before, byteLen (before ++ piece)⟩ = piece := by
    rw [textOf, byteLen_append, htext, slice_append]
    rfl
  unfold pushClause
  rw [hpiece]
  dsimp only
  rcases blank_or_core piece with hblank | ⟨leading, core, trailing, hsplit, hleading, htrailing,
    hcore, hstart, hstop⟩
  · left
    refine ⟨hblank, ?_⟩
    have hnone : trimStart piece = [] := dropWhile_eq_nil_iff.2 hblank
    rw [hnone, byteLen_nil, if_neg (by omega)]
  · right
    refine ⟨leading, core, trailing, hsplit, hleading, htrailing, hcore, ?_⟩
    have hpos := byteLen_pos hcore.ne_nil
    have hlen : byteLen piece = byteLen leading + byteLen core + byteLen trailing := by
      rw [hsplit, byteLen_append, byteLen_append, Nat.add_assoc]
    rw [hstart, hstop]
    simp only [byteLen_append, hlen]
    rw [if_pos (by omega)]
    congr 2 <;> omega

theorem pushClause_laidOut {text before piece after rest : List Char} {ranges : List ByteRange}
    (htext : text = before ++ piece ++ after) (h : LaidOut (before ++ piece) rest ranges) :
    LaidOut before (piece ++ rest)
      (pushClause text (byteLen before) (byteLen (before ++ piece)) ++ ranges) := by
  rcases pushClause_eq htext with ⟨hblank, hnone⟩ | ⟨leading, core, trailing, rfl, hleading,
    htrailing, hcore, hclause⟩
  · rw [hnone]
    exact h.prepend hblank
  · rw [hclause, singleton_append]
    have hrest : LaidOut (before ++ leading ++ core) (trailing ++ rest) ranges :=
      LaidOut.prepend htrailing (by simpa only [append_assoc] using h)
    simpa only [append_assoc] using LaidOut.clause before leading core _ ranges hleading hcore hrest

theorem byteLen_snoc (before current : List Char) (c : Char) :
    byteLen (before ++ current) + c.utf8Size = byteLen (before ++ (current ++ [c])) := by
  simp only [byteLen_append, byteLen_cons, byteLen_nil]
  omega

/-- The loop: `before` has been given out, `current` is the piece that is being read. -/
theorem clausesFrom_laidOut {text : List Char} {regions : List ByteRange} (before : List Char)
    {rest current : List Char} (htext : text = before ++ current ++ rest) :
    LaidOut before (current ++ rest)
      (clausesFrom text regions (byteLen before) (byteLen (before ++ current)) rest) := by
  induction rest generalizing before current with
  | nil =>
    have hlaid := pushClause_laidOut htext (LaidOut.blank (before ++ current) [] (by simp))
    rw [append_nil] at htext hlaid
    rw [append_nil, clausesFrom, htext]
    rwa [htext, append_nil] at hlaid
  | cons c rest ih =>
    have hnext := byteLen_snoc before current c
    have htext' : text = before ++ (current ++ [c]) ++ rest := by simp [htext]
    rw [clausesFrom, hnext]
    split_ifs with hsplits
    · have hrest := ih (before ++ (current ++ [c])) (by rwa [append_nil])
      rw [append_nil, nil_append] at hrest
      simpa only [append_assoc, singleton_append] using pushClause_laidOut htext' hrest
    · simpa only [append_assoc, singleton_append] using ih before htext'

namespace LaidOut

variable {before rest : List Char} {ranges : List ByteRange}

section

variable (h : LaidOut before rest ranges)
include h

theorem start_le : ∀ range ∈ ranges, byteLen before ≤ range.start := by
  induction h with
  | blank => simp
  | clause _ _ _ _ _ _ _ _ ih =>
    intro range hmem
    rcases mem_cons.1 hmem with rfl | hmem
    · simp
    · have hle := ih range hmem
      simp only [byteLen_append] at hle
      omega

theorem ordered : ranges.Pairwise fun a b => a.stop ≤ b.start := by
  induction h with
  | blank => exact List.Pairwise.nil
  | clause _ _ _ _ _ _ _ hrest ih =>
    exact pairwise_cons.2 ⟨hrest.start_le, ih⟩

theorem isCore_slice : ∀ range ∈ ranges, range.start < range.stop ∧
      ∃ core, slice (before ++ rest) range.start range.stop = some core ∧ IsCore core := by
  induction h with
  | blank => simp
  | clause before gap core rest _ _ hcore _ ih =>
    intro range hmem
    rcases mem_cons.1 hmem with rfl | hmem
    · have hpos := byteLen_pos hcore.ne_nil
      refine ⟨by simp only [byteLen_append]; omega, core, slice_eq_some.2 ?_, hcore⟩
      exact ⟨before ++ gap, rest, by simp, rfl, byteLen_append _ _⟩
    · simpa only [append_assoc] using ih range hmem

/-- A character other than white space stands in one of the ranges. -/
theorem exists_contains {left right : List Char} {c : Char}
    (hc : isWhitespace c = false) (htext : rest = left ++ c :: right) :
    ∃ range ∈ ranges, range.contains ⟨byteLen (before ++ left),
      byteLen (before ++ left) + c.utf8Size⟩ = true := by
  induction h generalizing left with
  | blank before gap hgap =>
    have hwhite := hgap c (by simp [htext])
    rw [hc] at hwhite
    cases hwhite
  | clause _ _ _ _ _ hgap _ _ ih =>
    rcases append_eq_append_cons htext with ⟨more, rfl, -⟩ | ⟨left, rfl, hbehind⟩
    · have hwhite := hgap c (by simp)
      rw [hc] at hwhite
      cases hwhite
    rcases append_eq_append_cons hbehind with ⟨_, rfl, -⟩ | ⟨_, rfl, hrest'⟩
    · -- in the first clause
      refine ⟨_, mem_cons_self, ?_⟩
      simp only [ByteRange.contains, Bool.and_eq_true, decide_eq_true_eq, byteLen_append, byteLen_cons]
      omega
    · obtain ⟨range, hmem, hcontains⟩ := ih hrest'
      refine ⟨range, mem_cons_of_mem _ hmem, ?_⟩
      simpa only [append_assoc] using hcontains

end

end LaidOut

/-! ## Cuts -/

/-- The position is not strictly inside a literal region. -/
def IsCut (text : List Char) (position : Nat) : Prop :=
  ∀ region ∈ literalRegions text, ¬ (region.start < position ∧ position < region.stop)

variable {text before after : List Char} {c : Char}

theorem not_isWhitespace_of_delimiter {opening closing : Char}
    (h : closingDelimiter opening = some closing) :
    isWhitespace opening = false ∧ isWhitespace closing = false := by
  unfold closingDelimiter at h
  split at h <;> cases h <;> decide

/-- A character outside all regions may be followed by a cut. -/
theorem isCut_of_not_inside (htext : text = before ++ c :: after)
    (houtside : ((literalRegions text).any fun region =>
      decide (region.start ≤ byteLen before) && decide (byteLen before < region.stop)) = false) :
    IsCut text (byteLen before + c.utf8Size) := by
  rintro region hregion ⟨hstart, hstop⟩
  have hnot := any_eq_false.1 houtside region hregion
  simp only [Bool.and_eq_true, decide_eq_true_eq, not_and, not_lt] at hnot
  obtain ⟨left, _, _, _, _, hsplit, -, rfl⟩ := literalRegions_split hregion
  have hpos := c.utf8Size_pos
  dsimp only at hstart hstop hnot
  have hlt : byteLen before < byteLen left := by
    by_contra hle
    have := hnot (not_lt.1 hle)
    omega
  have hle := byteLen_le_of_lt (htext.symm.trans hsplit) hlt
  omega

/-- A cut moves forward over white space. -/
theorem IsCut.next (h : IsCut text (byteLen before)) (htext : text = before ++ c :: after)
    (hc : isWhitespace c = true) : IsCut text (byteLen (before ++ [c])) := by
  rintro region hregion ⟨hstart, hstop⟩
  have hnot := h region hregion
  obtain ⟨left, _, _, _, _, hsplit, hdelimiter, rfl⟩ :=
    literalRegions_split hregion
  simp only [byteLen_append, byteLen_cons, byteLen_nil] at hstart hstop hnot
  rcases lt_trichotomy (byteLen before) (byteLen left) with hlt | heq | hgt
  · have hle := byteLen_le_of_lt (htext.symm.trans hsplit) hlt
    omega
  · -- the region would open with white space
    obtain ⟨-, htail⟩ := eq_of_byteLen_eq (htext.symm.trans hsplit) heq
    obtain ⟨rfl, -⟩ := cons.inj htail
    rw [(not_isWhitespace_of_delimiter hdelimiter).1] at hc
    cases hc
  · omega

/-- A cut moves back over white space. -/
theorem IsCut.previous (h : IsCut text (byteLen (before ++ [c])))
    (htext : text = before ++ c :: after) (hc : isWhitespace c = true) :
    IsCut text (byteLen before) := by
  rintro region hregion ⟨hstart, hstop⟩
  have hnot := h region hregion
  obtain ⟨left, content, right, opening, closing, hsplit, hdelimiter, rfl⟩ :=
    literalRegions_split hregion
  have hinner : before ++ c :: after = (left ++ opening :: content) ++ closing :: right := by
    rw [← htext, hsplit]
    simp
  have hlen : byteLen (left ++ opening :: content) =
      byteLen left + opening.utf8Size + byteLen content := by
    simp only [byteLen_append, byteLen_cons]
    omega
  simp only [byteLen_append, byteLen_cons, byteLen_nil] at hstart hstop hnot
  have hpos := closing.utf8Size_pos
  rcases lt_trichotomy (byteLen before) (byteLen (left ++ opening :: content)) with hlt | heq | hgt
  · have hle := byteLen_le_of_lt hinner hlt
    omega
  · -- the region would close with white space
    obtain ⟨-, htail⟩ := eq_of_byteLen_eq hinner heq
    obtain ⟨rfl, -⟩ := cons.inj htail
    rw [(not_isWhitespace_of_delimiter hdelimiter).2] at hc
    cases hc
  · have hle := byteLen_le_of_lt hinner.symm hgt
    omega

theorem IsCut.forward {gap : List Char} (h : IsCut text (byteLen before))
    (htext : text = before ++ gap ++ after) (hgap : ∀ c ∈ gap, isWhitespace c = true) :
    IsCut text (byteLen (before ++ gap)) := by
  induction gap generalizing before with
  | nil => rwa [append_nil]
  | cons c gap ih =>
    have hsplit : text = before ++ c :: (gap ++ after) := by simp [htext]
    have hnext := h.next hsplit (hgap c mem_cons_self)
    have hrest := ih hnext (by simp [htext]) fun d hd => hgap d (mem_cons_of_mem c hd)
    simpa using hrest

theorem IsCut.back {gap : List Char} (h : IsCut text (byteLen (before ++ gap)))
    (htext : text = before ++ gap ++ after) (hgap : ∀ c ∈ gap, isWhitespace c = true) :
    IsCut text (byteLen before) := by
  induction gap generalizing before with
  | nil => rwa [append_nil] at h
  | cons c gap ih =>
    have hnext : IsCut text (byteLen (before ++ [c])) :=
      ih (by simpa using h) (by simp [htext]) fun d hd => hgap d (mem_cons_of_mem c hd)
    have hsplit : text = before ++ c :: (gap ++ after) := by simp [htext]
    exact hnext.previous hsplit (hgap c mem_cons_self)

theorem isCut_zero (text : List Char) : IsCut text 0 := fun _ _ h => absurd h.1 (Nat.not_lt_zero _)

theorem isCut_byteLen (text : List Char) : IsCut text (byteLen text) := by
  rintro region hregion ⟨-, hstop⟩
  obtain ⟨_, _, _, _, _, hsplit, -, rfl⟩ := literalRegions_split hregion
  rw [hsplit] at hstop
  simp only [byteLen_append, byteLen_cons] at hstop
  omega

/-- Trimming a piece between two cuts leaves cuts. -/
theorem pushClause_isCut {piece : List Char} (htext : text = before ++ piece ++ after)
    (hstart : IsCut text (byteLen before)) (hstop : IsCut text (byteLen (before ++ piece))) :
    ∀ clause ∈ pushClause text (byteLen before) (byteLen (before ++ piece)),
      IsCut text clause.start ∧ IsCut text clause.stop := by
  rcases pushClause_eq htext with ⟨-, hnone⟩ | ⟨leading, core, trailing, rfl, hleading, htrailing,
    -, hclause⟩
  · rw [hnone]
    simp
  · intro clause hmem
    rw [hclause] at hmem
    obtain rfl := mem_singleton.1 hmem
    have hsplit : text = before ++ leading ++ (core ++ trailing ++ after) := by simp [htext]
    have hsplit' : text = before ++ leading ++ core ++ trailing ++ after := by simp [htext]
    refine ⟨hstart.forward hsplit hleading, IsCut.back ?_ hsplit' htrailing⟩
    simpa only [append_assoc] using hstop

theorem clausesFrom_isCut (before : List Char) {rest current : List Char}
    (htext : text = before ++ current ++ rest) (hstart : IsCut text (byteLen before)) :
    ∀ clause ∈ clausesFrom text (literalRegions text) (byteLen before) (byteLen (before ++ current))
      rest, IsCut text clause.start ∧ IsCut text clause.stop := by
  induction rest generalizing before current with
  | nil =>
    have hend : byteLen text = byteLen (before ++ current) := by rw [htext, append_nil]
    have hstop := isCut_byteLen text
    rw [hend] at hstop
    rw [clausesFrom, hend]
    exact pushClause_isCut htext hstart hstop
  | cons c rest ih =>
    have hnext := byteLen_snoc before current c
    have htext' : text = before ++ (current ++ [c]) ++ rest := by simp [htext]
    rw [clausesFrom, hnext]
    split_ifs with hsplits
    · rw [Bool.and_eq_true, Bool.not_eq_true'] at hsplits
      have hcut := isCut_of_not_inside htext hsplits.1
      rw [hnext] at hcut
      intro clause hmem
      rcases mem_append.1 hmem with hmem | hmem
      · exact pushClause_isCut htext' hstart hcut clause hmem
      · have htext'' : text = before ++ (current ++ [c]) ++ [] ++ rest := by rwa [append_nil]
        have hrest := ih _ htext'' hcut
        rw [append_nil] at hrest
        exact hrest clause hmem
    · exact ih before htext' hstart

/-! ## The clauses of a request -/

/-- The ranges split the text without loss: in order, on character boundaries, trimmed, never inside a
literal region, and with each character other than white space in one of them. -/
structure SplitsExactly (text : List Char) (clauses : List ByteRange) : Prop where
  ordered : clauses.Pairwise fun a b => a.start < b.start ∧ a.stop ≤ b.start
  nonempty : ∀ clause ∈ clauses, clause.start < clause.stop
  trimmed : ∀ clause ∈ clauses, ∃ core, slice text clause.start clause.stop = some core ∧ IsCore core
  outsideLiterals : ∀ clause ∈ clauses, IsCut text clause.start ∧ IsCut text clause.stop
  covered : ∀ before c after, text = before ++ c :: after → isWhitespace c = false →
    ∃! clause, clause ∈ clauses ∧
      clause.contains ⟨byteLen before, byteLen before + c.utf8Size⟩ = true

/-- Ranges in order that share a character are one range. -/
theorem eq_of_contains {clauses : List ByteRange} {a b : ByteRange} {start stop : Nat}
    (hordered : clauses.Pairwise fun a b => a.stop ≤ b.start) (ha : a ∈ clauses) (hb : b ∈ clauses)
    (hlt : start < stop) (hina : a.contains ⟨start, stop⟩ = true)
    (hinb : b.contains ⟨start, stop⟩ = true) : a = b := by
  have : Std.Symm fun x y : ByteRange => x.stop ≤ y.start ∨ y.stop ≤ x.start := ⟨fun _ _ h => h.symm⟩
  have hapart : clauses.Pairwise fun x y => x.stop ≤ y.start ∨ y.stop ≤ x.start :=
    hordered.imp fun h => .inl h
  simp only [ByteRange.contains, Bool.and_eq_true, decide_eq_true_eq] at hina hinb
  by_contra hne
  rcases hapart.forall ha hb hne with hle | hle <;> omega

/-- Splitting a request into clauses loses and duplicates nothing. -/
theorem clauses_splitsExactly (source : SourceRequest) :
    SplitsExactly source.text source.clauses := by
  have hlaid : LaidOut [] source.text source.clauses := by
    have htext : source.text = [] ++ [] ++ source.text := rfl
    exact clausesFrom_laidOut [] htext
  have hcores := hlaid.isCore_slice
  refine ⟨?_, fun clause hmem => (hcores clause hmem).1, fun clause hmem => (hcores clause hmem).2, ?_,
    ?_⟩
  · refine hlaid.ordered.imp_of_mem fun {a b} ha _ hle => ⟨?_, hle⟩
    exact (hcores a ha).1.trans_le hle
  · have htext : source.text = [] ++ [] ++ source.text := rfl
    exact clausesFrom_isCut [] htext (isCut_zero _)
  · intro before c after htext hc
    obtain ⟨clause, hmem, hcontains⟩ := hlaid.exists_contains hc htext
    refine ⟨clause, ⟨hmem, hcontains⟩, ?_⟩
    rintro other ⟨hother, hin⟩
    have hpos := c.utf8Size_pos
    exact eq_of_contains hlaid.ordered hother hmem (by omega) hin hcontains

end Vibemux
