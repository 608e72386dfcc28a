import Vibemux.Compiler.Proofs.PathPatternProofs

/-!
# The algebra of path patterns is exact

A recursive pattern is short enough that its directory has files with valid paths, so `isWithin` and
`overlaps` are inclusion and a common path of what the patterns cover.
-/

namespace Vibemux

open Text

theorem isRelativePath_iff {value : List Char} :
    isRelativePath value = true ↔ value ≠ [] ∧ byteLen value ≤ maxPathPatternBytes ∧
      ∀ segment ∈ splitOn '/' value, isPathSegment segment = true := by
  simp [isRelativePath, and_assoc]

/-- A file of a directory, if the name is not too long. -/
theorem isRelativePath_append {directory name : List Char} (h : isRelativePath directory = true)
    (hname : isPathSegment name = true) (hslash : '/' ∉ name)
    (hlen : byteLen directory + 1 + byteLen name ≤ maxPathPatternBytes) :
    isRelativePath (directory ++ '/' :: name) = true := by
  obtain ⟨-, -, hsegments⟩ := isRelativePath_iff.1 h
  have hsize : ('/' : Char).utf8Size = 1 := by decide
  refine isRelativePath_iff.2 ⟨by simp, ?_, ?_⟩
  · rw [byteLen_append, byteLen_cons, hsize]
    omega
  · intro segment hsegment
    rw [splitOn_append_sep, splitOn_of_notMem hslash, List.mem_append, List.mem_singleton] at hsegment
    rcases hsegment with hold | rfl
    · exact hsegments segment hold
    · exact hname

namespace PathPattern

variable {p q : PathPattern} {path : List Char}

theorem isRelativePath_base (p : PathPattern) : isRelativePath p.base = true := by
  have hvalid := p.valid
  rw [isPathPattern, Bool.and_eq_true] at hvalid
  exact hvalid.2

/-- The directory of a recursive pattern leaves room for a file. -/
theorem byteLen_base_of_isRecursive (h : p.isRecursive = true) :
    byteLen p.base + 3 ≤ maxPathPatternBytes := by
  have hvalid := p.valid
  rw [isPathPattern, Bool.and_eq_true, decide_eq_true_eq] at hvalid
  rw [isRecursive_eq_isSome] at h
  obtain ⟨directory, hstrip⟩ := Option.isSome_iff_exists.1 h
  have htext := stripSuffix_eq_some.1 hstrip
  have hsuffix : byteLen recursiveSuffix = 3 := by decide
  have hlen := hvalid.1
  rw [htext, byteLen_append, hsuffix] at hlen
  rw [base, hstrip, Option.getD_some]
  exact hlen

/-- A file of one letter below the directory of a recursive pattern. -/
theorem isRelativePath_file (h : p.isRecursive = true) (letter : Char)
    (hletter : isPathSegment [letter] = true) (hslash : letter ≠ '/') (hsize : letter.utf8Size = 1) :
    isRelativePath (p.base ++ ['/', letter]) = true := by
  have hroom := byteLen_base_of_isRecursive h
  refine isRelativePath_append p.isRelativePath_base hletter (by simpa using hslash.symm) ?_
  rw [byteLen_cons, byteLen_nil, hsize]
  omega

theorem matches_file (h : p.isRecursive = true) (letter : Char) :
    p.matches (p.base ++ ['/', letter]) = true :=
  (matches_recursive_iff h).2 ⟨[letter], rfl⟩

theorem matches_base (h : p.isRecursive = false) : p.matches p.base = true :=
  (matches_literal_iff h).2 rfl

/-- A directory with a file of another one is that one or lies above it. -/
theorem below_of_file {directory outer rest : List Char} {letter : Char} (hslash : letter ≠ '/')
    (h : directory ++ ['/', letter] = outer ++ '/' :: rest) :
    directory = outer ∨ ∃ between, directory = outer ++ '/' :: between := by
  rcases base_comparable h with heq | ⟨between, hbetween⟩ | hbelow
  · exact .inl heq
  · -- then the rest would start inside the name, which has no separator
    subst hbetween
    rw [List.append_assoc, List.append_cancel_left_eq, List.cons_append, List.cons.injEq] at h
    have hmem : '/' ∈ [letter] := by
      rw [h.2]
      simp
    exact absurd (List.mem_singleton.1 hmem).symm hslash
  · exact .inr hbelow

theorem isWithin_of_forall
    (h : ∀ path, isRelativePath path = true → p.matches path = true → q.matches path = true) :
    p.isWithin q = true := by
  unfold isWithin
  cases hp : p.isRecursive with
  | false =>
    have hbase := h p.base p.isRelativePath_base (matches_base hp)
    cases hq : q.isRecursive with
    | true => simp [hbase]
    | false =>
      rw [matches_literal_iff hq] at hbase
      simp [text_eq_base hp, text_eq_base hq, hbase]
  | true =>
    have ha := h _ (isRelativePath_file hp 'a' (by decide) (by decide) (by decide))
      (matches_file hp 'a')
    cases hq : q.isRecursive with
    | false =>
      -- the directory has two files, and a literal pattern covers one path
      have hb := h _ (isRelativePath_file hp 'b' (by decide) (by decide) (by decide))
        (matches_file hp 'b')
      rw [matches_literal_iff hq] at ha hb
      have heq := ha.trans hb.symm
      rw [List.append_cancel_left_eq] at heq
      exact absurd heq (by decide)
    | true =>
      obtain ⟨rest, hrest⟩ := (matches_recursive_iff hq).1 ha
      rcases below_of_file (by decide) hrest with heq | hbelow
      · simp [heq]
      · simp [(matches_recursive_iff hq).2 hbelow]

/-- A path that two overlapping patterns cover. -/
theorem exists_common_of_isWithin (h : p.isWithin q = true) :
    ∃ path, isRelativePath path = true ∧ p.matches path = true ∧ q.matches path = true := by
  cases hp : p.isRecursive with
  | false =>
    have hbase := matches_base hp
    exact ⟨p.base, p.isRelativePath_base, hbase, matches_of_isWithin h hbase⟩
  | true =>
    have hfile := matches_file hp 'a'
    exact ⟨_, isRelativePath_file hp 'a' (by decide) (by decide) (by decide), hfile,
      matches_of_isWithin h hfile⟩

/-- A pattern whose base another one covers lies within it. -/
theorem isWithin_of_matches_base (hq : q.isRecursive = true) (h : q.matches p.base = true) :
    p.isWithin q = true := by
  unfold isWithin
  simp [hq, h]

theorem exists_common_of_overlaps (h : p.overlaps q = true) :
    ∃ path, isRelativePath path = true ∧ p.matches path = true ∧ q.matches path = true := by
  have hsymm : q.isWithin p = true →
      ∃ path, isRelativePath path = true ∧ p.matches path = true ∧ q.matches path = true := by
    intro hwithin
    obtain ⟨path, hpath, hq, hp⟩ := exists_common_of_isWithin hwithin
    exact ⟨path, hpath, hp, hq⟩
  simp only [overlaps, Bool.or_eq_true, Bool.and_eq_true] at h
  rcases h with ((hwithin | hwithin) | ⟨hp, hbase⟩) | ⟨hq, hbase⟩
  · exact exists_common_of_isWithin hwithin
  · exact hsymm hwithin
  · exact hsymm (isWithin_of_matches_base hp hbase)
  · exact exists_common_of_isWithin (isWithin_of_matches_base hq hbase)

/-- `isWithin` is inclusion of what the patterns cover, and `overlaps` is a common path. -/
theorem algebra_exact (p q : PathPattern) :
    (p.isWithin q = true ↔
      ∀ path, isRelativePath path = true → p.matches path = true → q.matches path = true) ∧
    (p.overlaps q = true ↔
      ∃ path, isRelativePath path = true ∧ p.matches path = true ∧ q.matches path = true) := by
  refine ⟨⟨fun h path _ hpath => matches_of_isWithin h hpath, isWithin_of_forall⟩,
    exists_common_of_overlaps, ?_⟩
  rintro ⟨path, -, hp, hq⟩
  exact overlaps_of_matches hp hq

end PathPattern

end Vibemux
