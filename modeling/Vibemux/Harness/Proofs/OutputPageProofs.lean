import Vibemux.Harness.OutputPage

/-!
# Paged output reassembles exactly

`ReaderAt` says where a reader stands in a transcript: how much of the first pending record it holds,
and which records are pending. Building a page and accepting it moves the reader along the transcript,
whatever the cut.
-/

namespace Vibemux

open Checked Text PageBuilder ObservedRecord
open List (append_assoc append_nil cons_ne_nil dropWhile_sublist map_cons map_nil mem_cons_self
  sum_cons)

variable {limits : OutputPageLimits} {record : ObservedRecord}
  {fragments : List DispatchOutputFragment} {back piece text : List Char} {c : Char}

/-! ## Encoded sizes -/

/-- Length of a text's characters after escaping. -/
def escapedLen (text : List Char) : Nat := (text.map escapedLength).sum

theorem byteLen_writeChar (c : Char) : byteLen (writeChar c) = escapedLength c := by
  have hhex : ∀ d < 16, (hexDigit d).utf8Size = 1 := by decide
  unfold writeChar
  split_ifs with hquote hslash hback hform hline hreturn htab hcontrol
  iterate 7 (subst c; rfl)
  all_goals
    have hother : ¬(c = '"' ∨ c = '\\' ∨ c = '\x08' ∨ c = '\t' ∨ c = '\n' ∨ c = '\x0c' ∨ c = '\r') := by
      simp [hquote, hslash, hback, hform, hline, hreturn, htab]
  · have hascii : ('\\').utf8Size = 1 ∧ ('u').utf8Size = 1 ∧ ('0').utf8Size = 1 := by decide
    rw [escapedLength, if_neg hother, if_pos (by omega)]
    simp only [byteLen_cons, byteLen_nil, hascii, hhex _ (show c.toNat / 16 < 16 by omega),
      hhex _ (show c.toNat % 16 < 16 by omega)]
  · rw [escapedLength, if_neg hother, if_neg (by omega)]
    simp

theorem byteLen_flatMap_writeChar (text : List Char) :
    byteLen (text.flatMap writeChar) = escapedLen text := by
  induction text with
  | nil => rfl
  | cons c rest ih => simp [escapedLen, byteLen_writeChar, ih]

/-- The size of a fragment is that of an empty one and the escaped length of its text. -/
theorem byteLen_encodeFragment (sequence : Nat) (kind : ObservationKind) (totalBytes offset : Nat)
    (text : List Char) : byteLen (encodeFragment ⟨sequence, kind, totalBytes, offset, text⟩) =
      byteLen (encodeFragment ⟨sequence, kind, totalBytes, offset, []⟩) + escapedLen text := by
  simp only [encodeFragment, writeString, byteLen_append, byteLen_cons, String.toList_ofList,
    byteLen_flatMap_writeChar, List.flatMap_nil, byteLen_nil]
  omega

theorem byteLen_commaSeparated_append (texts : List (List Char)) (text : List Char) :
    byteLen (commaSeparated (texts ++ [text])) =
      byteLen (commaSeparated texts) + (if texts.isEmpty then 0 else 1) + byteLen text := by
  induction texts with
  | nil => simp [commaSeparated]
  | cons first rest ih =>
    cases rest with
    | nil =>
      have hcomma : (',').utf8Size = 1 := by decide
      simp [commaSeparated, hcomma]
      omega
    | cons second rest =>
      simp only [List.cons_append, commaSeparated, byteLen_append, byteLen_cons, List.isEmpty_cons,
        Bool.false_eq_true, if_false] at ih ⊢
      omega

theorem byteLen_of_isDigit (h : ∀ c ∈ text, c.isDigit = true) :
    byteLen text = text.length := by
  induction text with
  | nil => rfl
  | cons c rest ih =>
    obtain ⟨hc, hrest⟩ := List.forall_mem_cons.1 h
    have hsize : c.utf8Size = 1 := by
      rw [Char.utf8Size_eq_one_iff]
      have hle : c.val ≤ 57 := by simpa [Char.isDigit] using (Bool.and_eq_true_iff.1 hc).2
      exact UInt32.le_trans hle (by decide)
    rw [byteLen_cons, List.length_cons, hsize, ih hrest, Nat.add_comm]

theorem byteLen_decimal (n : Nat) : byteLen (decimal n) = (decimal n).length :=
  byteLen_of_isDigit fun _ hc => Nat.isDigit_of_mem_toDigits (by decide) (by decide) hc

/-- No number of 64 bits is longer than the largest. -/
theorem byteLen_decimal_le {n : Nat} (h : n ≤ u64Max) : byteLen (decimal n) ≤ byteLen (decimal u64Max) := by
  have hmax : (decimal u64Max).length = 20 := by decide
  have hlength : (decimal n).length ≤ 20 :=
    (Nat.length_toDigits_le_iff (by decide) (by decide)).2 (by unfold u64Max at h; omega)
  rwa [byteLen_decimal, byteLen_decimal, hmax]

theorem byteLen_encodePage_le (page : DispatchOutputPage) (hafter : page.next.afterSequence ≤ u64Max)
    (hoffset : page.next.cursorOffset ≤ u64Max) : byteLen (encodePage page) ≤
      emptyPageBytes + byteLen (commaSeparated (page.fragments.map encodeFragment)) := by
  have h1 := byteLen_decimal_le hafter
  have h2 := byteLen_decimal_le hoffset
  have hflag : byteLen (if page.complete then "true".toList else "false".toList) ≤
      byteLen "false".toList := by
    cases page.complete <;> decide
  simp only [encodePage, encodeCursor, emptyPageBytes, byteLen_append, byteLen_cons, map_nil,
    commaSeparated, byteLen_nil, Bool.false_eq_true, if_false] at *
  omega

/-! ## What fits -/

@[simp]
theorem escapedLen_nil : escapedLen [] = 0 := rfl

@[simp]
theorem escapedLen_cons (c : Char) (text : List Char) :
    escapedLen (c :: text) = escapedLength c + escapedLen text := rfl

theorem fittingPrefixFrom_spec (rawBudget encodedBudget : Nat) (text : List Char) (length escaped : Nat)
    (hraw : length ≤ rawBudget) (hencoded : escaped ≤ encodedBudget) :
    ∃ front back, text = front ++ back ∧ length + byteLen front ≤ rawBudget ∧
      escaped + escapedLen front ≤ encodedBudget ∧
      fittingPrefixFrom rawBudget encodedBudget length escaped text =
        (length + byteLen front, escaped + escapedLen front) := by
  induction text generalizing length escaped with
  | nil => exact ⟨[], [], rfl, hraw, hencoded, rfl⟩
  | cons c rest ih =>
    rw [fittingPrefixFrom]
    split_ifs with hfull
    · exact ⟨[], c :: rest, rfl, hraw, hencoded, rfl⟩
    · obtain ⟨front, back, rfl, _, _, heq⟩ :=
        ih (length + c.utf8Size) (escaped + escapedLength c) (by omega) (by omega)
      refine ⟨c :: front, back, rfl, ?_, ?_, ?_⟩
      · rw [byteLen_cons]
        omega
      · rw [escapedLen_cons]
        omega
      · rw [heq, byteLen_cons, escapedLen_cons, Nat.add_assoc, Nat.add_assoc]

/-- The result of `fittingPrefix` is the size of a start of the text that keeps both budgets. -/
theorem fittingPrefix_spec (text : List Char) (rawBudget encodedBudget : Nat) :
    ∃ front back, text = front ++ back ∧ byteLen front ≤ rawBudget ∧
      escapedLen front ≤ encodedBudget ∧
      fittingPrefix text rawBudget encodedBudget = (byteLen front, escapedLen front) := by
  simpa [fittingPrefix] using
    fittingPrefixFrom_spec rawBudget encodedBudget text 0 0 (Nat.zero_le _) (Nat.zero_le _)

/-- Something fits when the first character does. -/
theorem fittingPrefix_pos {rest : List Char} {rawBudget encodedBudget : Nat}
    (hraw : c.utf8Size ≤ rawBudget) (hencoded : escapedLength c ≤ encodedBudget) :
    0 < (fittingPrefix (c :: rest) rawBudget encodedBudget).1 := by
  have hpos := c.utf8Size_pos
  obtain ⟨front, back, -, -, -, heq⟩ := fittingPrefixFrom_spec rawBudget encodedBudget rest
    (0 + c.utf8Size) (0 + escapedLength c) (by omega) (by omega)
  rw [fittingPrefix, fittingPrefixFrom, if_neg (by omega), heq]
  simp only
  omega

theorem textFrom_append (before after : List Char) :
    textFrom (before ++ after) (byteLen before) = after := by
  rw [textFrom, splitAt_append]
  rfl

theorem textUpTo_append (before after : List Char) :
    textUpTo (before ++ after) (byteLen before) = before := by
  rw [textUpTo, splitAt_append]
  rfl

/-! ## One turn of the builder's loop -/

namespace PageBuilder

variable {self : PageBuilder}

/-- A fragment of `record` that the builder adds. -/
def push (self : PageBuilder) (record : ObservedRecord) (piece : List Char) : PageBuilder where
  fragments := self.fragments ++
    [⟨record.sequence, record.kind, record.byteCount, self.offset, piece⟩]
  next := self.next
  rawBytes := self.rawBytes + byteLen piece
  encodedBytes := self.encodedBytes +
    (fragmentOverhead record self.offset + (if self.fragments.isEmpty then 0 else 1) + escapedLen piece)
  offset := self.offset

/-- The builder has room for `piece`. -/
structure Fits (limits : OutputPageLimits) (builder : PageBuilder) (record : ObservedRecord)
    (piece : List Char) : Prop where
  fragments : builder.fragments.length ≠ limits.fragments
  raw : byteLen piece ≤ limits.rawBytes - builder.rawBytes
  encoded : escapedLen piece ≤ limits.encodedBytes - (builder.encodedBytes +
    (fragmentOverhead record builder.offset + if builder.fragments.isEmpty then 0 else 1))

/-- What the loop does with the next record: it stops since not even a character fits, or it adds a
piece of the record's text, and goes on only when that was all of it. -/
theorem fill_cons (limits : OutputPageLimits) (self : PageBuilder) (record : ObservedRecord)
    (rest : List ObservedRecord) :
    (self.fill limits (record :: rest) = self ∧
        ∀ c back, textFrom record.rawJson self.offset = c :: back → ¬Fits limits self record [c]) ∨
      ∃ piece back, piece ≠ [] ∧ textFrom record.rawJson self.offset = piece ++ back ∧
        Fits limits self record piece ∧
        (back ≠ [] ∧ self.fill limits (record :: rest) =
            { self.push record piece with
              next := ⟨self.next.afterSequence, self.offset + byteLen piece⟩ } ∨
          back = [] ∧ self.fill limits (record :: rest) =
            fill limits { self.push record piece with
              next := ⟨record.sequence, self.next.cursorOffset⟩, offset := 0 } rest) := by
  rw [fill]
  by_cases hfull : self.fragments.length = limits.fragments
  · exact .inl ⟨if_pos hfull, fun _ _ _ hfits => hfits.fragments hfull⟩
  · rw [if_neg hfull]
    obtain ⟨piece, back, htext, hraw, hencoded, hfitting⟩ :=
      fittingPrefix_spec (textFrom record.rawJson self.offset) (limits.rawBytes - self.rawBytes)
        (limits.encodedBytes - (self.encodedBytes +
          (fragmentOverhead record self.offset + if self.fragments.isEmpty then 0 else 1)))
    dsimp only
    rw [hfitting]
    dsimp only
    by_cases hpiece : piece = []
    · subst hpiece
      refine .inl ⟨if_pos rfl, fun c rest hnext hfits => ?_⟩
      have hpos : 0 < (fittingPrefix (c :: rest) _ _).1 :=
        fittingPrefix_pos hfits.raw hfits.encoded
      rw [← hnext, hfitting] at hpos
      exact absurd hpos (Nat.lt_irrefl 0)
    · right
      refine ⟨piece, back, hpiece, htext, ⟨hfull, hraw, hencoded⟩, ?_⟩
      rw [if_neg (Nat.ne_of_gt (byteLen_pos hpiece)), htext, textUpTo_append, byteLen_append]
      by_cases hback : back = []
      · subst hback
        exact .inr ⟨rfl, by rw [if_neg (by simp)]; rfl⟩
      · have hlt := byteLen_pos hback
        exact .inl ⟨hback, by rw [if_pos (by omega)]; rfl⟩

/-- The builder's counts are those of its fragments and keep the limits. -/
structure WithinLimits (limits : OutputPageLimits) (builder : PageBuilder) : Prop where
  fragments_le : builder.fragments.length ≤ limits.fragments
  raw_eq : (builder.fragments.map fun fragment => byteLen fragment.fragment).sum = builder.rawBytes
  raw_le : builder.rawBytes ≤ limits.rawBytes
  encoded_eq : builder.encodedBytes =
    emptyPageBytes + byteLen (commaSeparated (builder.fragments.map encodeFragment))
  encoded_le : builder.encodedBytes ≤ limits.encodedBytes

theorem escapedLen_pos (h : text ≠ []) : 0 < escapedLen text := by
  cases text with
  | nil => exact absurd rfl h
  | cons c rest =>
    have hpos : 0 < escapedLength c := by
      have := c.utf8Size_pos
      unfold escapedLength
      split_ifs <;> omega
    rw [escapedLen_cons]
    omega

theorem WithinLimits.push (h : self.WithinLimits limits) (hfits : self.Fits limits record piece)
    (hpiece : piece ≠ []) (next : OutputCursor) (offset : Nat) :
    WithinLimits limits { self.push record piece with next := next, offset := offset } := by
  obtain ⟨_, hraw, _, hencoded, _⟩ := h
  obtain ⟨hfull, hrawFits, hencodedFits⟩ := hfits
  have hpos := byteLen_pos hpiece
  have hescaped := escapedLen_pos hpiece
  have hsize := byteLen_encodeFragment record.sequence record.kind record.byteCount self.offset piece
  constructor
  · simp only [PageBuilder.push, List.length_append, List.length_singleton]
    omega
  · simp [PageBuilder.push, hraw]
  · simp only [PageBuilder.push]
    omega
  · simp only [PageBuilder.push, List.map_append, map_cons, map_nil,
      byteLen_commaSeparated_append, List.isEmpty_map, hsize, hencoded, fragmentOverhead]
    omega
  · simp only [PageBuilder.push]
    omega

theorem fill_withinLimits (records : List ObservedRecord) (h : self.WithinLimits limits) :
    (self.fill limits records).WithinLimits limits := by
  induction records generalizing self with
  | nil => exact h
  | cons record rest ih =>
    rcases fill_cons limits self record rest with heq | ⟨_, _, hpiece, -, hfits, hcut | hwhole⟩
    · rwa [heq.1]
    · rw [hcut.2]
      exact h.push hfits hpiece _ _
    · rw [hwhole.2]
      exact ih (h.push hfits hpiece _ _)

/-- The loop only adds fragments. -/
theorem fill_extends (limits : OutputPageLimits) (records : List ObservedRecord) (self : PageBuilder) :
    ∃ more, (self.fill limits records).fragments = self.fragments ++ more := by
  induction records generalizing self with
  | nil => exact ⟨[], (append_nil _).symm⟩
  | cons record rest ih =>
    rcases fill_cons limits self record rest with heq | ⟨piece, _, -, -, -, hcut | hwhole⟩
    · exact ⟨[], by rw [heq.1, append_nil]⟩
    · exact ⟨_, congrArg fragments hcut.2⟩
    · obtain ⟨more, hmore⟩ := ih { self.push record piece with
        next := ⟨record.sequence, self.next.cursorOffset⟩, offset := 0 }
      exact ⟨_, by rw [hwhole.2, hmore, push, append_assoc]⟩

/-- A page that starts with room for a character is not empty. -/
theorem fill_ne_nil (rest : List ObservedRecord)
    (htext : textFrom record.rawJson self.offset = c :: back) (hfits : self.Fits limits record [c]) :
    (self.fill limits (record :: rest)).fragments ≠ [] := by
  rcases fill_cons limits self record rest with heq | ⟨piece, _, -, -, -, hcut | hwhole⟩
  · exact absurd hfits (heq.2 c back htext)
  · rw [hcut.2]
    simp [push]
  · obtain ⟨more, hmore⟩ := fill_extends limits rest { self.push record piece with
      next := ⟨record.sequence, self.next.cursorOffset⟩, offset := 0 }
    rw [hwhole.2, hmore]
    simp [push]

end PageBuilder

/-! ## Where a reader stands -/

/-- What a reader gets of a record. -/
def ObservedRecord.reassembled (record : ObservedRecord) : ReassembledRecord :=
  ⟨record.sequence, record.kind, record.rawJson⟩

/-- The reader holds `delivered` of the first of the `pending` records. -/
inductive ReaderAt : OutputReassembler → List Char → List ObservedRecord → Prop
  | between {after total : Nat} {pending : List ObservedRecord}
      (hlater : ∀ record ∈ pending, after < record.sequence) : ReaderAt ⟨after, none, total⟩ [] pending
  | inside {after : Nat} {record : ObservedRecord} {delivered back : List Char}
      {pending : List ObservedRecord} (hraw : record.rawJson = delivered ++ back)
      (hdelivered : delivered ≠ []) (hback : back ≠ [])
      (hlater : ∀ other ∈ record :: pending, after < other.sequence) :
      ReaderAt ⟨after, some ⟨record.sequence, record.kind, delivered⟩, record.byteCount⟩ delivered
        (record :: pending)

namespace ReaderAt

variable {reader : OutputReassembler} {delivered : List Char} {pending : List ObservedRecord}

theorem later (h : ReaderAt reader delivered pending) :
    ∀ record ∈ pending, reader.afterSequence < record.sequence := by
  cases h with
  | between hlater => exact hlater
  | inside _ _ _ hlater => exact hlater

theorem cursor (h : ReaderAt reader delivered pending) :
    reader.cursor = ⟨reader.afterSequence, byteLen delivered⟩ := by
  cases h with
  | between => rfl
  | inside => rfl

theorem delivered_eq_nil (h : ReaderAt reader delivered []) : delivered = [] := by
  cases h
  rfl

/-- The record in progress is what the reader holds and the text from there on. -/
theorem raw_eq (h : ReaderAt reader delivered (record :: pending)) :
    record.rawJson = delivered ++ textFrom record.rawJson (byteLen delivered) := by
  cases h with
  | between => rw [textFrom, List.nil_append]; cases record.rawJson <;> rfl
  | inside hraw => rw [hraw, textFrom_append]

theorem textFrom_ne_nil (h : ReaderAt reader delivered (record :: pending))
    (hne : record.rawJson ≠ []) : textFrom record.rawJson (byteLen delivered) ≠ [] := by
  cases h with
  | between => cases hraw : record.rawJson with
    | nil => exact absurd hraw hne
    | cons c rest => exact cons_ne_nil c rest
  | inside hraw _ hback => rwa [hraw, textFrom_append]

theorem delivered_le {bound : Nat} (h : ReaderAt reader delivered pending)
    (hbound : ∀ record ∈ pending, record.byteCount ≤ bound) : byteLen delivered ≤ bound := by
  cases h with
  | between => exact Nat.zero_le bound
  | @inside _ record _ _ _ hraw =>
    have hle := hbound record mem_cons_self
    rw [byteCount, hraw, byteLen_append] at hle
    omega

/-- The reader takes the next piece of the record in progress. -/
theorem acceptFragment (h : ReaderAt reader delivered (record :: pending))
    (hraw : record.rawJson = delivered ++ (piece ++ back)) (hpiece : piece ≠ []) :
    reader.acceptFragment ⟨record.sequence, record.kind, record.byteCount, byteLen delivered, piece⟩ =
      if back = [] then .ok (⟨record.sequence, none, record.byteCount⟩, [record.reassembled])
      else .ok (⟨reader.afterSequence, some ⟨record.sequence, record.kind, delivered ++ piece⟩,
        record.byteCount⟩, []) := by
  have hcontinued : reader.continuedBy
      ⟨record.sequence, record.kind, record.byteCount, byteLen delivered, piece⟩ = true := by
    cases h with
    | between hlater => simp [OutputReassembler.continuedBy, hlater record mem_cons_self]
    | inside => simp [OutputReassembler.continuedBy]
  have hextended : reader.extended
      ⟨record.sequence, record.kind, record.byteCount, byteLen delivered, piece⟩ =
        ⟨record.sequence, record.kind, delivered ++ piece⟩ := by
    cases h with
    | between => rfl
    | inside => rfl
  have hcount : record.byteCount = byteLen (delivered ++ piece) + byteLen back := by
    rw [byteCount, hraw, ← append_assoc, byteLen_append (delivered ++ piece)]
  have hrest : byteLen (delivered ++ piece) = record.byteCount ↔ back = [] := by
    rw [hcount, ← byteLen_eq_zero]
    omega
  rw [OutputReassembler.acceptFragment, hextended]
  simp only [hcontinued, hpiece, ensure, ne_eq, not_false_eq_true, and_self, if_true, hrest,
    show byteLen (delivered ++ piece) ≤ record.byteCount by omega]
  split_ifs with hback
  · subst hback
    rw [reassembled, hraw, append_nil]
    rfl
  · rfl

end ReaderAt

/-- The bytes of some records. -/
def bytesOf (records : List ObservedRecord) : Nat := (records.map ObservedRecord.byteCount).sum

/-- The bytes that some fragments carry. -/
def fragmentBytes (fragments : List DispatchOutputFragment) : Nat :=
  (fragments.map fun fragment => byteLen fragment.fragment).sum

/-- Accepting `fragments` takes the reader from one place of the transcript to another: it completes the
records `done`, and no byte is lost or repeated. -/
structure Advance (reader : OutputReassembler) (delivered : List Char) (pending : List ObservedRecord)
    (fragments : List DispatchOutputFragment) (reader' : OutputReassembler) (delivered' : List Char)
    (done pending' : List ObservedRecord) : Prop where
  accepted : reader.acceptFragments fragments = .ok (reader', done.map ObservedRecord.reassembled)
  stands : ReaderAt reader' delivered' pending'
  split : pending = done ++ pending'
  passed : ∀ record ∈ done, record.sequence ≤ reader'.afterSequence
  forward : reader.afterSequence ≤ reader'.afterSequence
  source : reader'.afterSequence = reader.afterSequence ∨
    ∃ record ∈ done, reader'.afterSequence = record.sequence
  content : ∀ fragment ∈ fragments, fragment.fragment ≠ []
  bytes : bytesOf pending' + byteLen delivered + fragmentBytes fragments =
    bytesOf pending + byteLen delivered'

section Advance

variable {reader reader' : OutputReassembler} {delivered delivered' : List Char}
  {pending pending' done : List ObservedRecord}

theorem Advance.refl (h : ReaderAt reader delivered pending) :
    Advance reader delivered pending [] reader delivered [] pending where
  accepted := rfl
  stands := h
  split := rfl
  passed := nofun
  forward := Nat.le_refl _
  source := .inl rfl
  content := nofun
  bytes := rfl

/-- A piece that leaves some of its record. -/
theorem Advance.cut (h : ReaderAt reader delivered (record :: pending))
    (hraw : record.rawJson = delivered ++ (piece ++ back)) (hpiece : piece ≠ []) (hback : back ≠ []) :
    Advance reader delivered (record :: pending)
      [⟨record.sequence, record.kind, record.byteCount, byteLen delivered, piece⟩]
      ⟨reader.afterSequence, some ⟨record.sequence, record.kind, delivered ++ piece⟩, record.byteCount⟩
      (delivered ++ piece) [] (record :: pending) where
  accepted := by
    simp only [OutputReassembler.acceptFragments, h.acceptFragment hraw hpiece, if_neg hback]
    rfl
  stands := .inside (by rw [hraw, append_assoc]) (by simp [hpiece]) hback h.later
  split := rfl
  passed := nofun
  forward := Nat.le_refl _
  source := .inl rfl
  content := by simpa using hpiece
  bytes := by
    simp only [fragmentBytes, map_cons, map_nil, sum_cons, List.sum_nil, byteLen_append]
    omega

/-- A piece that completes its record, and what follows it. -/
theorem Advance.whole {more : List DispatchOutputFragment}
    (h : ReaderAt reader delivered (record :: pending)) (hraw : record.rawJson = delivered ++ piece)
    (hpiece : piece ≠ [])
    (hmore : Advance ⟨record.sequence, none, record.byteCount⟩ [] pending more reader' delivered' done pending') :
    Advance reader delivered (record :: pending)
      (⟨record.sequence, record.kind, record.byteCount, byteLen delivered, piece⟩ :: more) reader'
      delivered' (record :: done) pending' where
  accepted := by
    have hraw' : record.rawJson = delivered ++ (piece ++ []) := by rw [hraw, append_nil]
    rw [OutputReassembler.acceptFragments, h.acceptFragment hraw' hpiece, if_pos rfl, bind_eq_ok]
    refine ⟨_, rfl, ?_⟩
    rw [bind_eq_ok]
    exact ⟨_, hmore.accepted, rfl⟩
  stands := hmore.stands
  split := by rw [hmore.split, List.cons_append]
  passed := List.forall_mem_cons.2 ⟨hmore.forward, hmore.passed⟩
  forward := Nat.le_trans (Nat.le_of_lt (h.later record mem_cons_self)) hmore.forward
  source := by
    rcases hmore.source with heq | ⟨last, hlast, heq⟩
    · exact .inr ⟨record, mem_cons_self, heq⟩
    · exact .inr ⟨last, List.mem_cons_of_mem record hlast, heq⟩
  content := List.forall_mem_cons.2 ⟨hpiece, hmore.content⟩
  bytes := by
    have hbytes := hmore.bytes
    have hcount : record.byteCount = byteLen delivered + byteLen piece := by
      rw [byteCount, hraw, byteLen_append]
    simp only [fragmentBytes, bytesOf, map_cons, sum_cons, byteLen_nil] at hbytes ⊢
    omega

end Advance

/-- Filling a page moves a reader that stands at the page's start along the transcript, and the page's
cursor is the reader's. Only a page that stops before its first character keeps another cursor. -/
theorem PageBuilder.fill_advances (limits : OutputPageLimits) (pending : List ObservedRecord)
    {builder : PageBuilder} {reader : OutputReassembler} {delivered : List Char}
    (h : ReaderAt reader delivered pending)
    (hsorted : pending.Pairwise fun a b => a.sequence < b.sequence)
    (hoffset : builder.offset = byteLen delivered) (hnext : builder.next = ⟨reader.afterSequence, 0⟩) :
    ∃ more reader' delivered' done pending',
      (builder.fill limits pending).fragments = builder.fragments ++ more ∧
      Advance reader delivered pending more reader' delivered' done pending' ∧
      ((delivered = [] ∨ more ≠ []) → (builder.fill limits pending).next = reader'.cursor) := by
  induction pending generalizing builder reader delivered with
  | nil =>
    refine ⟨[], reader, delivered, [], [], (append_nil _).symm, .refl h, fun _ => ?_⟩
    rw [fill, hnext, h.cursor, h.delivered_eq_nil, byteLen_nil]
  | cons record rest ih =>
    obtain ⟨hrecord, hrest⟩ := List.pairwise_cons.1 hsorted
    rcases fill_cons limits builder record rest with
      heq | ⟨piece, back, hpiece, htext, -, ⟨hback, hcut⟩ | ⟨rfl, hwhole⟩⟩
    · -- nothing fits
      refine ⟨[], reader, delivered, [], record :: rest, by rw [heq.1, append_nil], .refl h,
        fun hstart => ?_⟩
      rw [heq.1, hnext, h.cursor, hstart.resolve_right (by simp), byteLen_nil]
    · -- the page ends inside the record
      have hraw := h.raw_eq
      rw [← hoffset, htext] at hraw
      refine ⟨_, _, _, _, _, ?_, .cut h hraw hpiece hback, fun _ => ?_⟩
      · rw [hcut, ← hoffset]
        rfl
      · rw [hcut, hnext, hoffset, ← byteLen_append]
        rfl
    · -- the record is delivered, the loop goes on
      have hraw := h.raw_eq
      rw [← hoffset, htext, append_nil] at hraw
      let pushed : PageBuilder := { builder.push record piece with
        next := ⟨record.sequence, builder.next.cursorOffset⟩, offset := 0 }
      have hoffset' : pushed.offset = byteLen [] := rfl
      have hnext' : pushed.next = ⟨record.sequence, 0⟩ := by simp only [pushed, hnext]
      have hthere : ReaderAt ⟨record.sequence, none, record.byteCount⟩ [] rest := .between hrecord
      obtain ⟨_, reader', delivered', _, pending', hmore, hadvance, hcursor⟩ :=
        ih hthere hrest hoffset' hnext'
      refine ⟨_, reader', delivered', _, pending', ?_, .whole h hraw hpiece hadvance, fun _ => ?_⟩
      · rw [hwhole]
        refine hmore.trans ?_
        simp only [pushed, push, append_assoc, hoffset]
        rfl
      · rw [hwhole]
        exact hcursor (.inl rfl)

/-! ## One read -/

/-- One transcript: non-empty records whose sequences ascend from 1 on, with sizes and sequences that
64 bits hold. -/
structure Transcript where
  records : List ObservedRecord
  ascending : records.Pairwise fun a b => a.sequence < b.sequence
  positive : ∀ record ∈ records, 1 ≤ record.sequence
  nonempty : ∀ record ∈ records, record.rawJson ≠ []
  sequence_le : ∀ record ∈ records, record.sequence ≤ u64Max
  byteCount_le : ∀ record ∈ records, record.byteCount ≤ u64Max

/-- The limits are large enough for one character, whichever of the transcript is next. -/
structure OutputPageLimits.HoldOneCharacter (limits : OutputPageLimits)
    (records : List ObservedRecord) : Prop where
  empty_page : emptyPageBytes ≤ limits.encodedBytes
  fragments_pos : 0 < limits.fragments
  raw : ∀ record ∈ records, ∀ front c back, record.rawJson = front ++ c :: back →
    c.utf8Size ≤ limits.rawBytes
  encoded : ∀ record ∈ records, ∀ front c back, record.rawJson = front ++ c :: back →
    emptyPageBytes + fragmentOverhead record (byteLen front) + escapedLength c ≤ limits.encodedBytes

/-- A reassembler can hold a cursor of the transcript: it is between records, or the text it holds is
the start of the next record. -/
structure OutputReassembler.Holds (reader : OutputReassembler) (records : List ObservedRecord) : Prop where
  after_le : reader.afterSequence ≤ u64Max
  stands : ∃ delivered, ReaderAt reader delivered (recordsAfter records reader.afterSequence)

/-- The bytes that a reader has not yet. -/
def OutputReassembler.remaining (reader : OutputReassembler) (records : List ObservedRecord) : Nat :=
  bytesOf (recordsAfter records reader.afterSequence) - reader.cursor.cursorOffset

theorem recordsAfter_append {earlier later : List ObservedRecord} {sequence : Nat}
    (hearlier : ∀ record ∈ earlier, record.sequence ≤ sequence)
    (hlater : ∀ record ∈ later, sequence < record.sequence) :
    recordsAfter (earlier ++ later) sequence = later := by
  have hdrop : ∀ record ∈ earlier, decide (record.sequence ≤ sequence) = true := by
    simpa using hearlier
  rw [recordsAfter, List.dropWhile_append_of_pos hdrop]
  cases later with
  | nil => rfl
  | cons record rest => simp [hlater record mem_cons_self]

theorem recordsAfter_split (records : List ObservedRecord) (sequence : Nat) :
    ∃ earlier, records = earlier ++ recordsAfter records sequence ∧
      ∀ record ∈ earlier, record.sequence ≤ sequence := by
  refine ⟨records.takeWhile fun record => decide (record.sequence ≤ sequence), ?_, fun record h => ?_⟩
  · exact List.takeWhile_append_dropWhile.symm
  · simpa using List.mem_takeWhile_imp h

section Read

variable {reader : OutputReassembler} {delivered : List Char} {pending : List ObservedRecord}

theorem ReaderAt.checkOffset (h : ReaderAt reader delivered pending) :
    checkOffset pending (byteLen delivered) = .ok () := by
  cases h with
  | between => rfl
  | @inside _ record _ back _ hraw hdelivered hback =>
    have hoffset := byteLen_pos hdelivered
    have hrest := byteLen_pos hback
    have hcount : record.byteCount = byteLen delivered + byteLen back := by
      rw [byteCount, hraw, byteLen_append]
    have hsplit : (splitAt (byteLen delivered) record.rawJson).isSome = true := by
      rw [hraw, splitAt_append]
      rfl
    simp [Vibemux.checkOffset, hoffset, hsplit, show byteLen delivered < record.byteCount by omega]

/-- Something of the next record is left. -/
theorem ReaderAt.lt_bytesOf (h : ReaderAt reader delivered (record :: pending))
    (hne : record.rawJson ≠ []) : byteLen delivered < bytesOf (record :: pending) := by
  have hpos := byteLen_pos (h.textFrom_ne_nil hne)
  have hcount := congrArg byteLen h.raw_eq
  rw [byteLen_append] at hcount
  simp only [bytesOf, map_cons, sum_cons, byteCount]
  omega

theorem ReaderAt.delivered_le_bytesOf (h : ReaderAt reader delivered pending) :
    byteLen delivered ≤ bytesOf pending := by
  cases pending with
  | nil => rw [h.delivered_eq_nil]; exact Nat.zero_le _
  | cons record rest =>
    have hcount := congrArg byteLen h.raw_eq
    rw [byteLen_append] at hcount
    simp only [bytesOf, map_cons, sum_cons, byteCount]
    omega

theorem fragmentBytes_pos (hne : fragments ≠ [])
    (hcontent : ∀ fragment ∈ fragments, fragment.fragment ≠ []) : 0 < fragmentBytes fragments := by
  cases fragments with
  | nil => exact absurd rfl hne
  | cons fragment rest =>
    have hpos := byteLen_pos (hcontent fragment mem_cons_self)
    simp only [fragmentBytes, map_cons, sum_cons]
    omega

/-- The first character of what is left fits on an empty page. -/
theorem ReaderAt.start_fill_ne_nil {records : List ObservedRecord}
    (h : ReaderAt reader delivered (record :: pending)) (hlimits : limits.HoldOneCharacter records)
    (hrecord : record ∈ records) (hne : record.rawJson ≠ []) :
    ((start reader.cursor).fill limits (record :: pending)).fragments ≠ [] := by
  obtain ⟨c, back, htext⟩ := List.exists_cons_of_ne_nil (h.textFrom_ne_nil hne)
  have hraw := h.raw_eq
  rw [htext] at hraw
  have hoffset : (start reader.cursor).offset = byteLen delivered := by
    rw [h.cursor]
    rfl
  have hencoded := hlimits.encoded record hrecord delivered c back hraw
  rw [← hoffset] at htext
  refine fill_ne_nil pending htext ⟨?_, ?_, ?_⟩
  · exact Nat.ne_of_lt hlimits.fragments_pos
  · exact hlimits.raw record hrecord delivered c back hraw
  · rw [hoffset]
    simp only [start, List.isEmpty_nil, if_true, escapedLen_cons, escapedLen_nil]
    omega

end Read

/-- What a page that was read keeps to. -/
structure PageRead.Sound (records : List ObservedRecord) (finished : Bool) (limits : OutputPageLimits)
    (read : PageRead) : Prop where
  encoded_le : byteLen (encodePage read.page) ≤ limits.encodedBytes
  raw_le : fragmentBytes read.page.fragments ≤ limits.rawBytes
  fragments_le : read.page.fragments.length ≤ limits.fragments
  /-- A page with fragments leaves less to read. -/
  progress : read.page.fragments ≠ [] → read.after.remaining records < read.before.remaining records
  /-- A page is empty only when there was nothing to read. -/
  empty : read.page.fragments = [] → read.before.remaining records = 0
  /-- A page of a finished transcript is complete exactly when nothing remains after it. -/
  complete_iff : read.page.complete = true ↔ finished = true ∧ read.after.remaining records = 0

section Transcript

variable {transcript : Transcript} {limits : OutputPageLimits} {reader : OutputReassembler}

theorem OutputReassembler.Holds.remaining_eq_zero (h : reader.Holds transcript.records) :
    reader.remaining transcript.records = 0 ↔
      recordsAfter transcript.records reader.afterSequence = [] := by
  obtain ⟨-, delivered, hat⟩ := h
  unfold OutputReassembler.remaining
  rw [hat.cursor]
  cases hpending : recordsAfter transcript.records reader.afterSequence with
  | nil => simp [bytesOf]
  | cons record rest =>
    rw [hpending] at hat
    have hmem : record ∈ transcript.records :=
      (dropWhile_sublist _).mem (hpending ▸ mem_cons_self)
    have hlt := hat.lt_bytesOf (transcript.nonempty record hmem)
    simp only [reduceCtorEq, iff_false]
    omega

/-- The reassembler after a page stands in the same transcript. -/
theorem Advance.holds {reader' : OutputReassembler} {delivered delivered' : List Char}
    {done pending' : List ObservedRecord} (hafter : reader.afterSequence ≤ u64Max)
    (h : Advance reader delivered (recordsAfter transcript.records reader.afterSequence) fragments reader'
      delivered' done pending') :
    reader'.Holds transcript.records ∧
      recordsAfter transcript.records reader'.afterSequence = pending' := by
  obtain ⟨earlier, hrecords, hearlier⟩ := recordsAfter_split transcript.records reader.afterSequence
  rw [h.split] at hrecords
  have hpassed : ∀ record ∈ earlier ++ done, record.sequence ≤ reader'.afterSequence := by
    intro record hrecord
    rcases List.mem_append.1 hrecord with hrecord | hrecord
    · exact Nat.le_trans (hearlier record hrecord) h.forward
    · exact h.passed record hrecord
  have hpending : recordsAfter transcript.records reader'.afterSequence = pending' := by
    rw [hrecords, ← append_assoc]
    exact recordsAfter_append hpassed h.stands.later
  refine ⟨⟨?_, delivered', by rw [hpending]; exact h.stands⟩, hpending⟩
  rcases h.source with heq | ⟨record, hrecord, heq⟩
  · rwa [heq]
  · have hmem : record ∈ transcript.records := by
      rw [hrecords]
      exact List.mem_append_right _ (List.mem_append_left _ hrecord)
    rw [heq]
    exact transcript.sequence_le record hmem

/-- The last record tells whether any is left, since the sequences ascend. -/
theorem last_delivered_iff (sequence : Nat) :
    (transcript.records.getLast?.all fun last => decide (last.sequence ≤ sequence)) = true ↔
      recordsAfter transcript.records sequence = [] := by
  have hascending := transcript.ascending
  rw [recordsAfter, List.dropWhile_eq_nil_iff]
  cases hlast : transcript.records.getLast? with
  | none => simp [List.getLast?_eq_none_iff.1 hlast]
  | some last =>
    obtain ⟨front, hrecords⟩ := List.getLast?_eq_some_iff.1 hlast
    rw [hrecords] at hascending ⊢
    have hlt := (List.pairwise_append.1 hascending).2.2
    simp only [Option.all_some, decide_eq_true_eq]
    constructor
    · intro hle record hrecord
      rcases List.mem_append.1 hrecord with hfront | hfront
      · exact Nat.le_trans (Nat.le_of_lt (hlt record hfront last mem_cons_self)) hle
      · rwa [List.mem_singleton.1 hfront]
    · exact fun h => h last (List.mem_append_right _ mem_cons_self)

theorem start_withinLimits (hlimits : limits.HoldOneCharacter transcript.records) (cursor : OutputCursor) :
    (start cursor).WithinLimits limits where
  fragments_le := Nat.zero_le _
  raw_eq := rfl
  raw_le := Nat.zero_le _
  encoded_eq := by simp [start, commaSeparated]
  encoded_le := hlimits.empty_page

/-- The page at the cursor of a reader that stands in the transcript. -/
theorem buildOutputPage_advances (finished : Bool) (hlimits : limits.HoldOneCharacter transcript.records)
    {delivered : List Char}
    (hat : ReaderAt reader delivered (recordsAfter transcript.records reader.afterSequence)) :
    ∃ page reader' delivered' done pending',
      buildOutputPage transcript.records finished reader.cursor limits = .ok page ∧
      Advance reader delivered (recordsAfter transcript.records reader.afterSequence) page.fragments
        reader' delivered' done pending' ∧
      page.next = reader'.cursor ∧
      (page.fragments = [] → recordsAfter transcript.records reader.afterSequence = []) ∧
      (page.complete = true ↔ finished = true ∧ reader'.cursor.cursorOffset = 0 ∧
        recordsAfter transcript.records reader'.afterSequence = []) ∧
      page.fragments.length ≤ limits.fragments ∧ fragmentBytes page.fragments ≤ limits.rawBytes ∧
      emptyPageBytes + byteLen (commaSeparated (page.fragments.map encodeFragment)) ≤
        limits.encodedBytes := by
  have hsorted : (recordsAfter transcript.records reader.afterSequence).Pairwise
      fun a b => a.sequence < b.sequence := transcript.ascending.sublist (dropWhile_sublist _)
  have hoffset : (start reader.cursor).offset = byteLen delivered := by rw [hat.cursor]; rfl
  have hnext : (start reader.cursor).next = ⟨reader.afterSequence, 0⟩ := by
    rw [hat.cursor]; rfl
  obtain ⟨more, reader', delivered', done, pending', hmore, hadvance, hcursor⟩ :=
    fill_advances limits _ hat hsorted hoffset hnext
  have hwithin := fill_withinLimits (recordsAfter transcript.records reader.afterSequence)
    (start_withinLimits hlimits reader.cursor)
  have hstop : ((start reader.cursor).fill limits
      (recordsAfter transcript.records reader.afterSequence)).fragments ≠ [] ∨
      recordsAfter transcript.records reader.afterSequence = [] := by
    cases hpending : recordsAfter transcript.records reader.afterSequence with
    | nil => exact .inr rfl
    | cons record rest =>
      have hmem : record ∈ transcript.records :=
        (dropWhile_sublist _).mem (hpending ▸ mem_cons_self)
      rw [hpending] at hat
      exact .inl (hat.start_fill_ne_nil hlimits hmem (transcript.nonempty record hmem))
  generalize hbuilt : (start reader.cursor).fill limits
    (recordsAfter transcript.records reader.afterSequence) = built at *
  obtain rfl : built.fragments = more := hmore
  have hbuiltNext : built.next = reader'.cursor := by
    refine hcursor ?_
    rcases hstop with hne | hnil
    · exact .inr hne
    · rw [hnil] at hat
      exact .inl hat.delivered_eq_nil
  refine ⟨⟨built.fragments, built.next, finished && decide (built.next.cursorOffset = 0 ∧
    (transcript.records.getLast?.all fun last => decide (last.sequence ≤ built.next.afterSequence)) = true)⟩,
    reader', delivered', done, pending', ?_, hadvance, hbuiltNext, ?_, ?_, hwithin.fragments_le, ?_, ?_⟩
  · have hoffsetOk : checkOffset (recordsAfter transcript.records reader.cursor.afterSequence)
        reader.cursor.cursorOffset = .ok () := by
      rw [hat.cursor]
      exact hat.checkOffset
    subst hbuilt
    exact bind_eq_ok.2 ⟨(), hoffsetOk, bind_eq_ok.2 ⟨(), ensure_eq_ok.2 hstop, rfl⟩⟩
  · exact fun hnil => hstop.resolve_left (not_not.2 hnil)
  · simp only [Bool.and_eq_true, decide_eq_true_eq, last_delivered_iff, hbuiltNext]
    rfl
  · rw [fragmentBytes, hwithin.raw_eq]
    exact hwithin.raw_le
  · rw [← hwithin.encoded_eq]
    exact hwithin.encoded_le

/-- A read at the cursor of a reader that stands in the transcript succeeds and keeps to the limits. -/
theorem readPage_sound (finished : Bool) (hlimits : limits.HoldOneCharacter transcript.records)
    (hreader : reader.Holds transcript.records) :
    ∃ read, readPage transcript.records finished limits reader = .ok read ∧ read.before = reader ∧
      read.Sound transcript.records finished limits ∧ read.after.Holds transcript.records ∧
      (recordsAfter transcript.records reader.afterSequence).map reassembled =
        read.completed ++ (recordsAfter transcript.records read.after.afterSequence).map
          reassembled := by
  obtain ⟨delivered, hat⟩ := hreader.stands
  obtain ⟨page, reader', delivered', done, _, hbuild, hadvance, hnext, hempty, hcomplete, hcount,
    hraw, hencoded⟩ := buildOutputPage_advances finished hlimits hat
  obtain ⟨hholds, hpending⟩ := hadvance.holds hreader.after_le
  have haccept : reader.accept page = .ok (reader', done.map reassembled) :=
    bind_eq_ok.2 ⟨_, hadvance.accepted, bind_eq_ok.2 ⟨(), ensure_eq_ok.2 hnext, rfl⟩⟩
  have hread : readPage transcript.records finished limits reader =
      .ok ⟨reader, page, reader', done.map reassembled⟩ :=
    bind_eq_ok.2 ⟨page, mapError_eq_ok.2 hbuild, bind_eq_ok.2 ⟨_, mapError_eq_ok.2 haccept, rfl⟩⟩
  refine ⟨_, hread, rfl, ?_, hholds, ?_⟩
  · have hcursor : reader.cursor.cursorOffset = byteLen delivered := by rw [hat.cursor]
    have hcursor' : reader'.cursor.cursorOffset = byteLen delivered' := by rw [hadvance.stands.cursor]
    constructor
    · -- the widest cursor is counted, so the real one takes no more
      have hoffset : byteLen delivered' ≤ u64Max := hadvance.stands.delivered_le fun record hrecord =>
        transcript.byteCount_le record ((dropWhile_sublist _).mem (hpending ▸ hrecord))
      refine Nat.le_trans (byteLen_encodePage_le page ?_ ?_) hencoded
      · rw [hnext]
        exact hholds.after_le
      · rw [hnext, hcursor']
        exact hoffset
    · exact hraw
    · exact hcount
    · intro hne
      have hbytes := hadvance.bytes
      have hpos : 0 < fragmentBytes page.fragments := fragmentBytes_pos hne hadvance.content
      have hle := hadvance.stands.delivered_le_bytesOf
      simp only [OutputReassembler.remaining, hpending, hcursor, hcursor']
      omega
    · exact fun hnil => hreader.remaining_eq_zero.2 (hempty hnil)
    · rw [hcomplete, hholds.remaining_eq_zero]
      refine and_congr_right fun _ => and_iff_right_of_imp fun hnil => ?_
      have hstands := hadvance.stands
      rw [← hpending, hnil] at hstands
      rw [hcursor', hstands.delivered_eq_nil, byteLen_nil]
  · rw [hpending, ← List.map_append, ← hadvance.split]

end Transcript

/-! ## Reading to the end -/

/-- Reading a transcript page by page from `reader` on ends, and gives back what was captured. -/
structure ReadsExactly (records : List ObservedRecord) (finished : Bool) (limits : OutputPageLimits)
    (reader : OutputReassembler) (reads : List PageRead) : Prop where
  /-- So many reads are enough. -/
  terminates : readPages records finished limits (reader.remaining records + 1) reader = .ok (some reads)
  sound : ∀ read ∈ reads, read.Sound records finished limits
  /-- Only the last page can be empty. -/
  progress : ∀ read ∈ reads.dropLast, read.page.fragments ≠ []
  /-- Nothing remains after the last page. -/
  ends : ∃ last, reads.getLast? = some last ∧ last.after.remaining records = 0
  /-- The records are those after the cursor, byte for byte. -/
  exact : reads.flatMap PageRead.completed =
    (recordsAfter records reader.afterSequence).map ObservedRecord.reassembled

/-- `fuel` reads are enough for `fuel - 1` bytes. -/
theorem readPages_exact (transcript : Transcript) (finished : Bool)
    (hlimits : limits.HoldOneCharacter transcript.records) (fuel : Nat) {reader : OutputReassembler}
    (hreader : reader.Holds transcript.records) (hfuel : reader.remaining transcript.records < fuel) :
    ∃ reads, readPages transcript.records finished limits fuel reader = .ok (some reads) ∧ reads ≠ [] ∧
      (∀ read ∈ reads, read.Sound transcript.records finished limits) ∧
      (∀ read ∈ reads.dropLast, read.page.fragments ≠ []) ∧
      (∃ last, reads.getLast? = some last ∧ last.after.remaining transcript.records = 0) ∧
      reads.flatMap PageRead.completed =
        (recordsAfter transcript.records reader.afterSequence).map reassembled := by
  induction fuel generalizing reader with
  | zero => exact absurd hfuel (Nat.not_lt_zero _)
  | succ fuel ih =>
    obtain ⟨read, hread, rfl, hsound, hholds, hrecords⟩ := readPage_sound finished hlimits hreader
    rw [readPages, hread]
    by_cases hend : read.page.complete = true ∨ read.page.fragments = []
    · -- nothing was left to read, or this page delivered the rest
      have hzero : read.after.remaining transcript.records = 0 := by
        rcases hend with hcomplete | hempty
        · exact (hsound.complete_iff.1 hcomplete).2
        · rw [hreader.remaining_eq_zero.1 (hsound.empty hempty), map_nil] at hrecords
          rw [hholds.remaining_eq_zero]
          exact List.map_eq_nil_iff.1 (List.append_eq_nil_iff.1 hrecords.symm).2
      have hnone := hholds.remaining_eq_zero.1 hzero
      refine ⟨[read], ?_, cons_ne_nil _ _, by simpa using hsound, nofun, ⟨read, rfl, hzero⟩, ?_⟩
      · exact bind_eq_ok.2 ⟨read, rfl, if_pos hend⟩
      · rw [hrecords, hnone]
        simp
    · have hless := hsound.progress fun hempty => hend (.inr hempty)
      obtain ⟨reads, hreads, hne, hsounds, hprogress, _, hexact⟩ := ih hholds (by omega)
      refine ⟨read :: reads, ?_, cons_ne_nil _ _, List.forall_mem_cons.2 ⟨hsound, hsounds⟩, ?_, ?_, ?_⟩
      · refine bind_eq_ok.2 ⟨read, rfl, ?_⟩
        rw [if_neg hend, hreads]
        rfl
      · rw [List.dropLast_cons_of_ne_nil hne]
        exact List.forall_mem_cons.2 ⟨fun hempty => hend (.inr hempty), hprogress⟩
      · rwa [List.getLast?_cons_of_ne_nil hne]
      · rw [List.flatMap_cons, hexact, hrecords]

/-- Reading from any place of a transcript with limits that hold a character. -/
theorem output_reassembles_exactly (transcript : Transcript) (finished : Bool) (limits : OutputPageLimits)
    (reader : OutputReassembler) (hlimits : limits.HoldOneCharacter transcript.records)
    (hreader : reader.Holds transcript.records) :
    ∃ reads, ReadsExactly transcript.records finished limits reader reads := by
  obtain ⟨reads, hreads, -, hsound, hprogress, hlast, hexact⟩ :=
    readPages_exact transcript finished hlimits _ hreader (Nat.lt_succ_self _)
  exact ⟨reads, hreads, hsound, hprogress, hlast, hexact⟩

/-- Three records, of which the first is longer than a page of the limits below. -/
def sampleTranscript : Transcript where
  records := [⟨1, .started, "[10,20,30]".toList⟩, ⟨3, .text, "[\"né\"]".toList⟩, ⟨4, .tool, "[]".toList⟩]
  ascending := by decide
  positive := by decide
  nonempty := by decide
  sequence_le := by decide
  byteCount_le := by decide

/-- The limits hold the longest character wherever a record can be cut. -/
theorem holdOneCharacter_of_cuts {records : List ObservedRecord} (hfragments : 0 < limits.fragments)
    (hraw : 4 ≤ limits.rawBytes) (hempty : emptyPageBytes ≤ limits.encodedBytes)
    (hencoded : ∀ record ∈ records, ∀ n < record.rawJson.length, emptyPageBytes +
      fragmentOverhead record (byteLen (record.rawJson.take n)) + 6 ≤ limits.encodedBytes) :
    limits.HoldOneCharacter records where
  empty_page := hempty
  fragments_pos := hfragments
  raw _ _ _ c _ _ := c.utf8Size_le_four.trans hraw
  encoded record hrecord front c back h := by
    have hfront : record.rawJson.take front.length = front := by rw [h, List.take_left]
    have hcut := hencoded record hrecord front.length (by simp [h])
    have hescaped : escapedLength c ≤ 6 := by
      have hsize := c.utf8Size_le_four
      unfold escapedLength
      split_ifs <;> omega
    rw [hfront] at hcut
    omega

/-- Pages of six bytes cut the first record, and the second page ends it and starts the next one. -/
theorem output_reassembles_exactly_sample :
    ∃ reads, ReadsExactly sampleTranscript.records true ⟨6, 2, 512⟩ (.startingAfter 0) reads ∧
      reads.length = 4 := by
  have hlimits : OutputPageLimits.HoldOneCharacter ⟨6, 2, 512⟩ sampleTranscript.records :=
    holdOneCharacter_of_cuts (by decide) (by decide) (by decide +kernel) (by decide +kernel)
  obtain ⟨reads, hreads⟩ := output_reassembles_exactly sampleTranscript true ⟨6, 2, 512⟩
    (.startingAfter 0) hlimits ⟨by decide, [], .between (by decide)⟩
  refine ⟨reads, hreads, ?_⟩
  have hpages : (readPages sampleTranscript.records true ⟨6, 2, 512⟩
      ((OutputReassembler.startingAfter 0).remaining sampleTranscript.records + 1)
      (.startingAfter 0)).map (Option.map List.length) = .ok (some 4) := by decide +kernel
  rw [hreads.terminates] at hpages
  exact Option.some.inj (Except.ok.inj hpages)

end Vibemux
