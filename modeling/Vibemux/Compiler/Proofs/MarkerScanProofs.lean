import Vibemux.Compiler.SourceRequest

/-!
# The scan for markers

The scan goes on behind each match. No marker of the tables overlaps another occurrence of itself, so
the scan meets every occurrence, and reports those that stand on word boundaries.
-/

namespace Vibemux

open Text SortDedup

/-- No proper end of the text is also a start of it. -/
def Borderless (marker : List Char) : Prop :=
  ∀ start stop, marker = start ++ stop → start ≠ [] → stop ≠ [] → ¬ stop <+: marker

/-- Occurrences of a borderless text do not overlap. -/
theorem Borderless.apart {marker left right before after : List Char} (hborder : Borderless marker)
    (h : left ++ (marker ++ right) = before ++ (marker ++ after))
    (hlt : byteLen left < byteLen before) : byteLen left + byteLen marker ≤ byteLen before := by
  by_contra hoverlap
  obtain ⟨start, rfl, hinner⟩ := eq_append_of_byteLen_le h hlt.le
  rw [byteLen_append] at hlt hoverlap
  obtain ⟨stop, hmarker, hstop⟩ := eq_append_of_byteLen_le hinner.symm (by omega)
  have hstart : start ≠ [] := by
    rintro rfl
    simp at hlt
  have hnonempty : stop ≠ [] := by
    rintro rfl
    rw [List.append_nil] at hmarker
    rw [hmarker] at hoverlap
    omega
  refine hborder start stop hmarker hstart hnonempty ?_
  have hlen : byteLen stop ≤ byteLen marker := by
    rw [hmarker, byteLen_append]
    omega
  obtain ⟨more, hmore, -⟩ := eq_append_of_byteLen_le hstop.symm hlen
  exact ⟨more, hmore.symm⟩

/-- The check of `Borderless` for a given text. -/
def isBorderless (marker : List Char) : Bool :=
  (List.range marker.length).all fun k => k == 0 || !(marker.drop k).isPrefixOf marker

theorem borderless_of_isBorderless {marker : List Char} (h : isBorderless marker = true) :
    Borderless marker := by
  intro start stop hmarker hstart hstop hprefix
  have hlength : start.length < marker.length := by
    rw [hmarker, List.length_append]
    have := List.length_pos_iff.2 hstop
    omega
  have hcheck := List.all_eq_true.1 h start.length (List.mem_range.2 hlength)
  have hdrop : marker.drop start.length = stop := by rw [hmarker, List.drop_left]
  rw [hdrop, List.isPrefixOf_iff_prefix.2 hprefix] at hcheck
  have hpos := List.length_pos_iff.2 hstart
  simp at hcheck
  exact hstart hcheck

section Scan

variable (tables : UnicodeTables)

/-- The place between two texts is a word boundary on both sides. -/
def IsBounded (before after : List Char) : Prop :=
  isWordBoundary tables before.getLast? = true ∧ isWordBoundary tables after.head? = true

/-- An occurrence that the scan reports. -/
def Reported (haystack marker : List Char) (range : ByteRange) (before after : List Char) : Prop :=
  haystack = before ++ (marker ++ after) ∧ (isAscii marker = true → IsBounded tables before after) ∧
    range = ⟨byteLen before, byteLen before + byteLen marker⟩

variable {tables} {haystack marker : List Char} {range : ByteRange}

/-- What one match adds. -/
theorem mem_bounded_iff {before after : List Char} {start : ByteRange} :
    range ∈ (if !isAscii marker || (isWordBoundary tables before.getLast? &&
        isWordBoundary tables after.head?) then [start] else []) ↔
      range = start ∧ (isAscii marker = true → IsBounded tables before after) := by
  cases hascii : isAscii marker with
  | false => simp
  | true => simpa [IsBounded] using and_comm

theorem mem_markerOccurrences (hnonempty : marker ≠ []) (hborder : Borderless marker) {fuel : Nat}
    {done rest : List Char} (htext : haystack = done ++ rest) (hfuel : rest.length < fuel) :
    range ∈ markerOccurrences tables haystack marker fuel (byteLen done) ↔
      ∃ before after, byteLen done ≤ byteLen before ∧
        Reported tables haystack marker range before after := by
  induction fuel generalizing done rest with
  | zero => omega
  | succ fuel ih =>
    have hsplit : splitAt (byteLen done) haystack = some (done, rest) := by
      rw [htext, splitAt_append]
    rw [markerOccurrences, hsplit]
    dsimp only
    cases hfind : find marker rest with
    | none =>
      dsimp only
      refine iff_of_false (by simp) ?_
      rintro ⟨before, after, hle, heq, -⟩
      obtain ⟨more, -, hrest⟩ := eq_append_of_byteLen_le (htext.symm.trans heq) hle
      exact find_eq_none hfind more after hrest
    | some position =>
      obtain ⟨⟨gap, after, hrest, rfl⟩, hleast⟩ := find_eq_some hfind
      have hpos := byteLen_pos hnonempty
      have hhaystack : haystack = done ++ gap ++ (marker ++ after) := by simp [htext, hrest]
      have hbehind : haystack = done ++ gap ++ marker ++ after := by simp [hhaystack]
      have hstart : splitAt (byteLen done + byteLen gap) haystack =
          some (done ++ gap, marker ++ after) := by
        rw [hhaystack, ← byteLen_append, splitAt_append]
      have hstop : splitAt (byteLen done + byteLen gap + byteLen marker) haystack =
          some (done ++ gap ++ marker, after) := by
        rw [hbehind, ← byteLen_append, ← byteLen_append, splitAt_append]
      have hnext : byteLen done + byteLen gap + max (byteLen marker) 1 =
          byteLen (done ++ gap ++ marker) := by
        simp only [byteLen_append]
        omega
      have hshorter : after.length < fuel := by
        have := List.length_pos_iff.2 hnonempty
        rw [hrest] at hfuel
        simp only [List.length_append] at hfuel
        omega
      dsimp only
      rw [hstart, hstop, hnext, List.mem_append, ih hbehind hshorter]
      simp only [Option.map_some, Option.getD_some, mem_bounded_iff, byteLen_append]
      constructor
      · rintro (⟨rfl, hbounded⟩ | ⟨before, after', hle, hreported⟩)
        · exact ⟨done ++ gap, after, by simp, hhaystack, hbounded, by rw [byteLen_append]⟩
        · exact ⟨before, after', by omega, hreported⟩
      · rintro ⟨_, after', hle, heq, hbounded, rfl⟩
        obtain ⟨more, rfl, hmore⟩ := eq_append_of_byteLen_le (htext.symm.trans heq) hle
        have hfirst := hleast more after' hmore
        rcases hfirst.eq_or_lt with hsame | hlater
        · left
          obtain ⟨rfl, htail⟩ := eq_of_byteLen_eq (hrest.symm.trans hmore) hsame
          rw [List.append_cancel_left_eq] at htail
          subst htail
          exact ⟨by rw [byteLen_append], hbounded⟩
        · right
          have hapart := hborder.apart (hrest.symm.trans hmore) hlater
          refine ⟨done ++ more, after', ?_, heq, hbounded, by rw [byteLen_append]⟩
          rw [byteLen_append]
          omega

/-- The text that is searched: the lowered copy, if it is as long as the text. -/
def haystackOf (tables : UnicodeTables) (text : List Char) : List Char :=
  if byteLen (tables.toLowercase text) = byteLen text then tables.toLowercase text else text

theorem mem_markers {text : List Char} {table : List (List Char)}
    (htable : ∀ marker ∈ table, marker ≠ [] ∧ Borderless marker) :
    range ∈ markers tables text table ↔ ∃ marker ∈ table, ∃ before after,
      Reported tables (haystackOf tables text) marker range before after := by
  unfold markers
  rw [mem_sortDedup, List.mem_flatMap]
  refine exists_congr fun marker => and_congr_right fun hmarker => ?_
  obtain ⟨hnonempty, hborder⟩ := htable marker hmarker
  have hstart : haystackOf tables text = [] ++ haystackOf tables text := rfl
  have hscan : range ∈ markerOccurrences tables (haystackOf tables text) marker
      ((haystackOf tables text).length + 1) (byteLen []) ↔ _ :=
    mem_markerOccurrences hnonempty hborder hstart (Nat.lt_succ_self _)
  exact hscan.trans (by simp)

end Scan

theorem prohibitionMarkerTable_borderless :
    ∀ marker ∈ prohibitionMarkerTable, marker ≠ [] ∧ Borderless marker := by
  have hcheck : ∀ marker ∈ prohibitionMarkerTable, marker ≠ [] ∧ isBorderless marker = true := by
    decide +kernel
  exact fun marker hmarker =>
    ⟨(hcheck marker hmarker).1, borderless_of_isBorderless (hcheck marker hmarker).2⟩

theorem mem_prohibitionMarkers {tables : UnicodeTables} {source : SourceRequest} {range : ByteRange} :
    range ∈ source.prohibitionMarkers tables ↔
      (∃ marker ∈ prohibitionMarkerTable, ∃ before after,
        Reported tables (haystackOf tables source.text) marker range before after) ∧
      ∀ region ∈ literalRegions source.text, region.overlaps range = false := by
  unfold SourceRequest.prohibitionMarkers SourceRequest.markersOutsideLiterals
  rw [List.mem_filter, mem_markers prohibitionMarkerTable_borderless, Bool.not_eq_true',
    List.any_eq_false]
  simp only [Bool.not_eq_true]

end Vibemux
