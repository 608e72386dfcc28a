import Vibemux.Compiler.Proofs.PathAuthorityProofs
import Vibemux.Compiler.Proofs.PathAlgebraProofs

/-!
# Directories that a request prohibits

A directory in a prohibition is written without `/**`, so its pattern covers the name of the directory
only: what lies below is protected only as far as no owned path starts there.
-/

namespace Vibemux

open Text PathPattern

variable {tables : UnicodeTables} {digests : Digests} {spec : TaskSpec} {source : SourceRequest}
  {policy : OperatorPolicy} {contracts : List SharedContractText} {directory : List Char}

/-- A relative path that stands as a literal token in a clause with a prohibition. -/
structure ProhibitedToken (tables : UnicodeTables) (source : SourceRequest) (directory : List Char) :
    Prop where
  relative : isRelativePath directory = true
  token : ∃ clause ∈ source.clauses,
    (∃ marker ∈ source.prohibitionMarkers tables, clause.contains marker = true) ∧
    directory ∈ literalTokens source.text clause

/-- No owned path covers a prohibited path or anything below it, up to ASCII case. -/
def DirectoriesProtected (tables : UnicodeTables) (spec : TaskSpec) (source : SourceRequest) : Prop :=
  ∀ directory, ProhibitedToken tables source directory → ∀ owned ∈ spec.ownedPaths,
    owned.matchesCaseInsensitively directory = false ∧
    ∀ more, owned.matchesCaseInsensitively (directory ++ '/' :: more) = false

/-- The pattern is written below the directory, or covers all of it, up to ASCII case. -/
def PathPattern.StartsIn (pattern : PathPattern) (directory : List Char) : Prop :=
  (∃ more, toAsciiLowercase pattern.base = toAsciiLowercase (directory ++ '/' :: more)) ∨
    (pattern.isRecursive = true ∧ toAsciiLowercase pattern.base = toAsciiLowercase directory)

namespace PathPattern

variable {owned : PathPattern} {path directory : List Char}

theorem matchesCaseInsensitively_eq (p : PathPattern) (path : List Char) :
    p.matchesCaseInsensitively path = p.lowered.matches (toAsciiLowercase path) := by
  simp only [matchesCaseInsensitively, new_toAsciiLowercase]

/-- A pattern that starts in a directory covers something below it. -/
theorem exists_matches_of_startsIn (h : owned.StartsIn directory) :
    ∃ more, owned.matchesCaseInsensitively (directory ++ '/' :: more) = true := by
  simp only [matchesCaseInsensitively_eq]
  have hrec := isRecursive_lowered owned
  rcases h with ⟨more, hbase⟩ | ⟨hrecursive, hbase⟩
  · cases howned : owned.isRecursive with
    | false =>
      rw [howned] at hrec
      exact ⟨more, (matches_literal_iff hrec).2 (by rw [base_lowered, hbase])⟩
    | true =>
      rw [howned] at hrec
      refine ⟨more ++ ['/'], (matches_recursive_iff hrec).2 ⟨[], ?_⟩⟩
      rw [base_lowered, hbase]
      simp
  · rw [hrecursive] at hrec
    refine ⟨[], (matches_recursive_iff hrec).2 ⟨[], ?_⟩⟩
    rw [base_lowered, hbase]
    simp

/-- What covers something below a directory starts there, or covers the directory's name. -/
theorem startsIn_of_matches {more : List Char}
    (h : owned.matchesCaseInsensitively (directory ++ '/' :: more) = true) :
    owned.StartsIn directory ∨ owned.matchesCaseInsensitively directory = true := by
  simp only [matchesCaseInsensitively_eq] at h ⊢
  have hrec := isRecursive_lowered owned
  cases howned : owned.isRecursive with
  | false =>
    rw [howned] at hrec
    rw [matches_literal_iff hrec, base_lowered] at h
    exact .inl (.inl ⟨more, h.symm⟩)
  | true =>
    rw [howned] at hrec
    obtain ⟨rest, hrest⟩ := (matches_recursive_iff hrec).1 h
    have hslash : toAsciiLowercase (directory ++ '/' :: more) =
        toAsciiLowercase directory ++ '/' :: toAsciiLowercase more := by simp
    rw [base_lowered, hslash] at hrest
    rcases base_comparable hrest with hbase | ⟨r, hbelow⟩ | ⟨r, habove⟩
    · exact .inl (.inr ⟨howned, hbase.symm⟩)
    · -- the rest of the base is a part of `more` in lower case
      rw [hbelow, List.append_assoc, List.append_cancel_left_eq, List.cons_append,
        List.cons.injEq] at hrest
      refine .inl (.inl ⟨more.take r.length, ?_⟩)
      have hr : toAsciiLowercase (more.take r.length) = r := by
        rw [toAsciiLowercase, List.map_take]
        change (toAsciiLowercase more).take r.length = r
        rw [hrest.2, List.take_left]
      rw [hbelow, toAsciiLowercase_append, toAsciiLowercase_cons, hr]
      rfl
    · exact .inr ((matches_recursive_iff hrec).2 ⟨r, by rw [base_lowered, habove]⟩)

end PathPattern

/-! ## The pattern of a token -/

theorem stripSuffix_of_isRelativePath (h : isRelativePath directory = true) :
    stripSuffix recursiveSuffix directory = none := by
  cases hstrip : stripSuffix recursiveSuffix directory with
  | none => rfl
  | some rest =>
    -- the last segment would be `**`
    have htext : directory = rest ++ '/' :: ['*', '*'] := stripSuffix_eq_some.1 hstrip
    obtain ⟨-, -, hsegments⟩ := isRelativePath_iff.1 h
    have hstars := hsegments ['*', '*'] (by rw [htext, splitOn_append_sep]; simp [splitOn])
    exact absurd hstars (by decide)

/-- The pattern of a relative path covers that path alone. -/
theorem new_of_isRelativePath (h : isRelativePath directory = true) :
    ∃ pattern, new directory = .ok pattern ∧
      pattern.matchesCaseInsensitively directory = true := by
  have hstrip := stripSuffix_of_isRelativePath h
  have hvalid : isPathPattern directory = true := by
    rw [isPathPattern, hstrip, Option.getD_none, h, Bool.and_true]
    exact decide_eq_true (isRelativePath_iff.1 h).2.1
  refine ⟨⟨directory, hvalid⟩, by rw [new, dif_pos hvalid], ?_⟩
  rw [matchesCaseInsensitively_eq]
  refine lowered_matches ((matches_literal_iff ?_).2 ?_)
  · rw [isRecursive_eq_isSome, hstrip]
    rfl
  · rw [base, hstrip, Option.getD_none]

theorem mem_prohibitedPatterns {pattern : PathPattern} (h : ProhibitedToken tables source directory)
    (hnew : new directory = .ok pattern) :
    pattern ∈ prohibitedPatterns tables spec source := by
  obtain ⟨clause, hclause, ⟨marker, hmarker, hcontains⟩, htoken⟩ := h.token
  refine List.mem_append_right _ (mem_patternsOf (List.mem_flatMap.2 ⟨clause, ?_, htoken⟩) hnew)
  exact List.mem_filter.2 ⟨hclause, List.any_eq_true.2 ⟨marker, hmarker, hcontains⟩⟩

/-- The name of a prohibited directory is never granted. -/
theorem not_matches_prohibitedToken {map : PathAuthorityMap} {owned : PathPattern}
    (h : derivePathAuthority tables digests spec source policy contracts = .ok map)
    (htoken : ProhibitedToken tables source directory) (howned : owned ∈ spec.ownedPaths) :
    owned.matchesCaseInsensitively directory = false := by
  obtain ⟨-, -, policyDigest, hloop⟩ := derivePathAuthority_cases h
  obtain ⟨provenance, hprovenance⟩ := hloop owned howned
  obtain ⟨-, hprohibited, -⟩ := pathProvenance_cases hprovenance
  obtain ⟨pattern, hnew, hname⟩ := new_of_isRelativePath htoken.relative
  have hapart := hprohibited pattern (mem_prohibitedPatterns htoken hnew)
  by_contra hne
  have hmatch : owned.matchesCaseInsensitively directory = true := by simpa using hne
  rw [matchesCaseInsensitively_eq] at hmatch hname
  have hoverlap := overlaps_of_matches hmatch hname
  simp only [protectionOverlap, new_toAsciiLowercase] at hapart
  rw [hoverlap] at hapart
  cases hapart

/-- The contents of prohibited directories are protected exactly when no owned path starts in one. -/
theorem directoriesProtected_iff {map : PathAuthorityMap}
    (h : derivePathAuthority tables digests spec source policy contracts = .ok map) :
    DirectoriesProtected tables spec source ↔
      ∀ directory, ProhibitedToken tables source directory →
        ∀ owned ∈ spec.ownedPaths, ¬ owned.StartsIn directory := by
  constructor
  · intro hprotected directory htoken owned howned hstarts
    obtain ⟨more, hmore⟩ := exists_matches_of_startsIn hstarts
    rw [(hprotected directory htoken owned howned).2 more] at hmore
    cases hmore
  · intro hapart directory htoken owned howned
    have hname := not_matches_prohibitedToken h htoken howned
    refine ⟨hname, fun more => ?_⟩
    by_contra hne
    rcases startsIn_of_matches (by simpa using hne) with hstarts | hmatch
    · exact hapart directory htoken owned howned hstarts
    · rw [hname] at hmatch
      cases hmatch

/-- The file that the sample request prohibits is no directory of the owned file. -/
theorem editSpec_directoriesProtected : DirectoriesProtected asciiTables editSpec editRequest := by
  refine (directoriesProtected_iff editSpec_derivePathAuthority).2 ?_
  rintro directory ⟨-, clause, hclause, -, htoken⟩ owned howned hstarts
  have hlength : ∀ clause ∈ editRequest.clauses, ∀ token ∈ literalTokens editRequest.text clause,
      token.length = 9 := by decide +kernel
  obtain rfl := List.mem_singleton.1 howned
  rcases hstarts with ⟨more, hbase⟩ | ⟨hrecursive, -⟩
  · -- the name of the owned file is no longer than the token
    have hlengths := congrArg List.length hbase
    simp only [toAsciiLowercase, List.length_map, List.length_append, List.length_cons,
      hlength clause hclause directory htoken] at hlengths
    have hnine : (base ⟨"src/a.mjs".toList, by decide⟩).length = 9 := by decide
    omega
  · exact absurd hrecursive (by decide)

/-! ## A file of a prohibited directory -/

def libraryRequest : SourceRequest :=
  ⟨"Write src/lib/a.mjs now. Do not edit src/lib.".toList, sampleDigest, by decide⟩

def librarySpec : TaskSpec :=
  sampleSpec
    [sampleRequirement ⟨"extend".toList, by decide⟩ .must
      ⟨0, 24, "Write src/lib/a.mjs now.".toList⟩ ["src/lib/a.mjs".toList],
    sampleRequirement ⟨"leave".toList, by decide⟩ .mustNot
      ⟨25, 45, "Do not edit src/lib.".toList⟩ ["src/lib".toList]]
    [⟨"src/lib/a.mjs".toList, by decide⟩] [contractTree]

def libraryMap : PathAuthorityMap where
  schemaVersion := 1
  taskSpecDigest := sampleDigest
  sourceRequestDigest := sampleDigest
  policyDigest := sampleDigest
  ownedPaths := [(⟨"src/lib/a.mjs".toList, by decide⟩,
    .sourceRequirement ⟨"extend".toList, by decide⟩ ⟨0, 24, sampleDigest⟩)]

theorem libraryRequest_prohibits :
    ProhibitedToken asciiTables libraryRequest "src/lib".toList where
  relative := by decide
  token := ⟨⟨25, 45⟩, by decide +kernel, ⟨⟨25, 31⟩, by decide +kernel, by decide⟩,
    by decide +kernel⟩

/-- `src/lib` is prohibited and a file below it is granted. -/
theorem librarySpec_not_protected :
    derivePathAuthority asciiTables sampleDigests librarySpec libraryRequest samplePolicy [] =
      .ok libraryMap ∧
    ¬ DirectoriesProtected asciiTables librarySpec libraryRequest := by
  refine ⟨by decide +kernel, fun hprotected => ?_⟩
  have hfile := (hprotected _ libraryRequest_prohibits _ List.mem_cons_self).2 "a.mjs".toList
  exact absurd hfile (by decide)

end Vibemux
