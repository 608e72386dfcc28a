import Vibemux.Compiler.Proofs.CoverageProofs

/-!
# Numbers and citations

Coverage compares the numbers of a requirement with those of the pieces it cites. A piece that starts
or ends beside a digit or a point can show a number that the whole text does not have.
-/

namespace Vibemux

open Bool List SortDedup Text

variable {c : Char} {current number right : List Char} {requirement : Requirement}

/-! ## Numbers of a piece -/

/-- A character that can be part of a number. -/
def isNumberChar (c : Char) : Bool := c.isDigit || c == '.'

/-- The end of `left` and the start of `right` are not both parts of numbers. -/
def CleanCut (left right : List Char) : Prop :=
  (left.getLast?.any isNumberChar && right.head?.any isNumberChar) = false

theorem CleanCut.head {d : Char} {rest : List Char} (h : CleanCut [c] (d :: rest))
    (hc : isNumberChar c = true) : isNumberChar d = false := by
  simpa [CleanCut, hc] using h

/-- The number that was being read, when there is one. -/
def pendingNumber (current : List Char) : List (List Char) := if current = [] then [] else [current]

/-- Whether the number that is being read goes on with `c`, where `next` is the character after it. -/
def numberContinues (current : List Char) (c : Char) (next : Option Char) : Bool :=
  c.isDigit || (c == '.' && current != [] && !current.contains '.' && next.any Char.isDigit)

theorem numericTokensFrom_cons (current : List Char) (c : Char) (rest : List Char) :
    numericTokensFrom current (c :: rest) =
      if numberContinues current c rest.head? then numericTokensFrom (current ++ [c]) rest
      else pendingNumber current ++ numericTokensFrom [] rest := by
  rw [numericTokensFrom, numberContinues, pendingNumber]
  split_ifs <;> rfl

theorem numericTokensFrom_of_not_numberChar (current : List Char) (rest : List Char)
    (hc : isNumberChar c = false) :
    numericTokensFrom current (c :: rest) = pendingNumber current ++ numericTokensFrom [] rest := by
  have hstop : numberContinues current c rest.head? = false := by
    simp only [isNumberChar, or_eq_false_iff] at hc
    simp [numberContinues, hc.1, hc.2]
  simp [numericTokensFrom_cons, hstop]

/-- The last character before a clean cut. -/
theorem numericTokensFrom_singleton_append (hcut : CleanCut [c] right) :
    numericTokensFrom current (c :: right) =
      numericTokensFrom current [c] ++ numericTokensFrom [] right := by
  cases right with
  | nil => rw [numericTokensFrom.eq_1 []]; simp
  | cons d rest =>
    rw [numericTokensFrom_cons current c, numericTokensFrom_cons current c]
    cases hdigit : c.isDigit with
    | true =>
      have hd : isNumberChar d = false := hcut.head (by simp [isNumberChar, hdigit])
      simp only [numberContinues, hdigit, Bool.true_or, if_true]
      rw [numericTokensFrom_of_not_numberChar _ rest hd, numericTokensFrom_of_not_numberChar _ rest hd]
      simp [pendingNumber, numericTokensFrom]
    | false =>
      have hstop : ∀ next : Option Char, (next = none ∨ next = some d) →
          numberContinues current c next = false := by
        rintro next (rfl | rfl)
        · simp [numberContinues, hdigit]
        · by_cases hpoint : c = '.'
          · have hd : d.isDigit = false := by
              have hnumber := hcut.head (by simp [isNumberChar, hpoint])
              simp only [isNumberChar, Bool.or_eq_false_iff] at hnumber
              exact hnumber.1
            simp [numberContinues, hdigit, hd]
          · simp [numberContinues, hdigit, hpoint]
      rw [head?_cons, head?_nil, hstop _ (.inr rfl), hstop _ (.inl rfl)]
      simp [numericTokensFrom]

/-- Across a clean cut the numbers are read one side after the other. -/
theorem numericTokensFrom_append {left : List Char} (hleft : left = [] → current = [])
    (hcut : CleanCut left right) :
    numericTokensFrom current (left ++ right) =
      numericTokensFrom current left ++ numericTokensFrom [] right := by
  induction left generalizing current with
  | nil => simp [hleft rfl, numericTokensFrom]
  | cons c rest ih =>
    cases rest with
    | nil => exact numericTokensFrom_singleton_append hcut
    | cons d rest =>
      have hcut' : CleanCut (d :: rest) right := hcut
      have hnil : ∀ x : List Char, d :: rest = [] → x = [] := fun _ h => nomatch h
      rw [cons_append, numericTokensFrom_cons, numericTokensFrom_cons, ih (hnil _) hcut',
        ih (hnil _) hcut', cons_append, head?_cons, head?_cons]
      split_ifs
      · rfl
      · rw [append_assoc]

/-- The piece stands in the text with clean ends. -/
def QuotedWhole (text piece : List Char) : Prop :=
  ∃ before after, text = before ++ (piece ++ after) ∧
    CleanCut (before.map foldDigit) (piece.map foldDigit) ∧
    CleanCut (piece.map foldDigit) (after.map foldDigit)

theorem numericTokens_subset_of_quotedWhole {text piece : List Char} (h : QuotedWhole text piece)
    (hnumber : number ∈ numericTokens piece) :
    number ∈ numericTokens text := by
  obtain ⟨before, after, rfl, hbefore, hafter⟩ := h
  unfold numericTokens at hnumber ⊢
  rw [mem_sortDedup] at hnumber ⊢
  cases piece with
  | nil => cases hnumber
  | cons c rest =>
    have hbefore' : CleanCut (before.map foldDigit) ((c :: rest).map foldDigit ++ after.map foldDigit) :=
      hbefore
    rw [map_append, map_append, numericTokensFrom_append (fun _ => rfl) hbefore',
      numericTokensFrom_append (fun _ => rfl) hafter]
    exact mem_append_right _ (mem_append_left _ hnumber)

/-! ## Coverage -/

/-- The numbers a requirement states. -/
def Requirement.numbers (requirement : Requirement) : List (List Char) :=
  numericTokens requirement.statement ++ requirement.literals.flatMap numericTokens

section

variable {tables : UnicodeTables} {sha256 : List Char → Sha256Digest} {spec : TaskSpec}
  {request : SourceRequest} {contracts : List SharedContractText}

variable (request contracts) in
/-- A number of the whole request or of a contract text. -/
def NumberOfSource (number : List Char) : Prop :=
  number ∈ numericTokens request.text ∨
    ∃ contract ∈ contracts, number ∈ numericTokens contract.text

variable (request contracts) in
/-- The requirement cites the number from a piece with clean ends. -/
def CitedWhole (requirement : Requirement) (number : List Char) : Prop :=
  (∃ piece ∈ requirement.spanTexts request, number ∈ numericTokens piece ∧
    QuotedWhole request.text piece) ∨
  ∃ excerpt ∈ requirement.contractExcerpts, number ∈ numericTokens excerpt.quoted ∧
    ∃ contract ∈ contracts, QuotedWhole contract.text excerpt.quoted

theorem CitedWhole.numberOfSource (h : CitedWhole request contracts requirement number) :
    NumberOfSource request contracts number := by
  rcases h with ⟨_, -, hnumber, hwhole⟩ | ⟨_, -, hnumber, contract, hcontract, hwhole⟩
  · exact .inl (numericTokens_subset_of_quotedWhole hwhole hnumber)
  · exact .inr ⟨contract, hcontract, numericTokens_subset_of_quotedWhole hwhole hnumber⟩

variable (request contracts) in
/-- The requirement cites the number, but only from pieces that start or end beside a digit or a
point. -/
structure CitedCut (requirement : Requirement) (number : List Char) : Prop where
  cited : (∃ piece ∈ requirement.spanTexts request, number ∈ numericTokens piece) ∨
    ∃ excerpt ∈ requirement.contractExcerpts, excerptFound contracts excerpt = true ∧
      number ∈ numericTokens excerpt.quoted
  cut : ¬CitedWhole request contracts requirement number

/-- Coverage finds every number of a requirement in a piece it cites. -/
theorem number_cited {report : CoverageReport}
    (h : validateCoverage tables sha256 spec request contracts = .ok report)
    (hrequirement : requirement ∈ spec.requirements) (hnumber : number ∈ requirement.numbers) :
    (∃ piece ∈ requirement.spanTexts request, number ∈ numericTokens piece) ∨
      ∃ excerpt ∈ requirement.contractExcerpts,
        excerptFound (verifiedContracts sha256 spec contracts) excerpt = true ∧
        number ∈ numericTokens excerpt.quoted := by
  have hnone := coverageViolations_of_validateCoverage h
  simp only [coverageViolations, append_eq_nil_iff, flatMap_eq_nil_iff] at hnone
  obtain ⟨⟨⟨⟨⟨-, hrequirements⟩, -⟩, -⟩, -⟩, -⟩ := hnone
  have hcoverage := hrequirements requirement hrequirement
  simp only [requirementCoverage, append_eq_nil_iff] at hcoverage
  obtain ⟨⟨⟨⟨⟨⟨-, -⟩, -⟩, -⟩, hnumbers⟩, -⟩, -⟩ := hcoverage
  simp only [numberViolations, append_eq_nil_iff, map_eq_nil_iff,
    filter_eq_nil_iff] at hnumbers
  have hmem := hnumbers.2 number (mem_sortDedup.2 hnumber)
  simp only [not_eq_true', not_eq_false, contains_iff_mem, mem_sortDedup,
    mem_append, mem_flatMap, mem_map, mem_filter] at hmem
  rcases hmem with hpiece | ⟨_, ⟨excerpt, ⟨hexcerpt, hfound⟩, rfl⟩, htoken⟩
  · exact .inl hpiece
  · exact .inr ⟨excerpt, hexcerpt, hfound, htoken⟩

variable (sha256 spec request contracts) in
/-- Every number of a requirement is a number of the whole request or of a verified contract text. -/
def NumbersFromSource : Prop :=
  ∀ requirement ∈ spec.requirements, ∀ number ∈ requirement.numbers,
    NumberOfSource request (verifiedContracts sha256 spec contracts) number

variable (sha256 spec request contracts) in
/-- A number that a requirement cites only where it is cut is a number of the whole as well. -/
def CutNumbersKept : Prop :=
  ∀ requirement ∈ spec.requirements, ∀ number ∈ requirement.numbers,
    CitedCut request (verifiedContracts sha256 spec contracts) requirement number →
      NumberOfSource request (verifiedContracts sha256 spec contracts) number

end

/-- The numbers of an accepted spec come from the whole texts, exactly when those that are cited only
from cut pieces do. -/
theorem numbersFromSource_iff (tables : UnicodeTables) (sha256 : List Char → Sha256Digest)
    (spec : TaskSpec) (request : SourceRequest) (contracts : List SharedContractText)
    (report : CoverageReport)
    (h : validateCoverage tables sha256 spec request contracts = .ok report) :
    NumbersFromSource sha256 spec request contracts ↔ CutNumbersKept sha256 spec request contracts := by
  constructor
  · intro hsource requirement hrequirement number hnumber _
    exact hsource requirement hrequirement number hnumber
  · intro hkept requirement hrequirement number hnumber
    by_cases hwhole : CitedWhole request (verifiedContracts sha256 spec contracts) requirement number
    · exact hwhole.numberOfSource
    · exact hkept requirement hrequirement number hnumber
        ⟨number_cited h hrequirement hnumber, hwhole⟩

/-! ## A cut number -/

def limitRequest : SourceRequest := ⟨"Keep at most 1200 items.".toList, sampleDigest, by decide⟩

/-- The clause is cited up to the middle of its number. -/
def limitSpec : TaskSpec :=
  sampleSpec [{ sampleRequirement ⟨"limit".toList, by decide⟩ .must
      ⟨0, 15, "Keep at most 12".toList⟩ [] with statement := "Keep at most 12 items.".toList }]
    [sourceTree] []

theorem limitSpec_validateCoverage :
    validateCoverage asciiTables (fun _ => sampleDigest) limitSpec limitRequest [] =
      .ok ⟨1, 0, 1, 0⟩ := by
  decide +kernel

/-- A request for 1200 is accepted as a requirement for 12. -/
theorem limitSpec_changes_number :
    limitSpec.validateStructure = .ok () ∧
    validateCoverage asciiTables (fun _ => sampleDigest) limitSpec limitRequest [] =
      .ok ⟨1, 0, 1, 0⟩ ∧
    numericTokens limitRequest.text = ["1200".toList] ∧
    ¬NumbersFromSource (fun _ => sampleDigest) limitSpec limitRequest [] := by
  refine ⟨by decide +kernel, limitSpec_validateCoverage, by decide +kernel, fun hsource => ?_⟩
  rcases hsource _ (mem_singleton_self _) "12".toList (by decide +kernel) with hrequest | hcontract
  · exact absurd hrequest (by decide +kernel)
  · obtain ⟨contract, hmem, -⟩ := hcontract
    exact absurd hmem not_mem_nil

/-- The condition for the request with a limit in it. -/
theorem limitSpec_numbers_iff :
    NumbersFromSource (fun _ => sampleDigest) limitSpec limitRequest [] ↔
      CutNumbersKept (fun _ => sampleDigest) limitSpec limitRequest [] :=
  numbersFromSource_iff asciiTables _ _ _ _ _ limitSpec_validateCoverage

end Vibemux
