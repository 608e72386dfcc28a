import Vibemux.Compiler.Validation
import Vibemux.Compiler.Policy
import Vibemux.Lib.OrderedMap

/-!
# Provenance of owned paths

Every owned pattern needs an exact literal of the request in a positive requirement, or the identical
pattern declared by the operator. The digests of canonical encodings are parameters.
-/

namespace Vibemux

open Text SortDedup

/-- The digests that the compiler takes of its inputs. A canonical encoding can fail. -/
structure Digests where
  /-- `Sha256Digest::of` on the bytes of a text. -/
  sha256 : List Char → Sha256Digest
  taskSpec : TaskSpec → Option Sha256Digest
  operatorPolicy : OperatorPolicy → Option Sha256Digest
  /-- `Sha256Digest::of_fields` on the request digest, the offsets and the text of a span. -/
  sourceSpan : Sha256Digest → Nat → Nat → List Char → Sha256Digest

/-- `PATH_AUTHORITY_SCHEMA_VERSION`. -/
def pathAuthoritySchemaVersion : Nat := 1

/-- Identity of exact source bytes, without the quoted content. -/
structure SourceSpanIdentity where
  start : Nat
  stop : Nat
  spanDigest : Sha256Digest
deriving DecidableEq, Ord

/-- Where the authority over a path comes from. -/
inductive PathProvenance where
  | sourceRequirement (requirementId : SpecIdentifier) (sourceSpan : SourceSpanIdentity)
  | operatorPolicy (policyDigest : Sha256Digest) (exactPattern : PathPattern)
deriving DecidableEq

/-- The provenance of each path of a specification. -/
structure PathAuthorityMap where
  schemaVersion : Nat
  taskSpecDigest : Sha256Digest
  sourceRequestDigest : Sha256Digest
  policyDigest : Sha256Digest
  /-- In the order of the patterns. -/
  ownedPaths : List (PathPattern × PathProvenance)
deriving DecidableEq

/-- What is wrong with the authority over owned paths. -/
structure PathAuthorityViolation where
  code : String
  ownedPath : Option PathPattern
deriving DecidableEq, Ord

/-- The requirement and the span that name an owned path. -/
structure SourceWitness where
  requirementId : SpecIdentifier
  sourceSpan : SourceSpanIdentity
deriving DecidableEq, Ord

/-- The quoted regions whose inside is `path`. -/
def quotedRanges (text path : List Char) : List ByteRange :=
  (literalRegions text).filterMap fun region =>
    let inside := textOf text region
    let opening := (inside.head?.map Char.utf8Size).getD 0
    let closing := (inside.getLast?.map Char.utf8Size).getD 0
    let inner : ByteRange := ⟨region.start + opening, region.stop - closing⟩
    if slice text inner.start inner.stop = some path then some inner else none

/-- The loop of `exact_literal_ranges` over the words of the text. -/
def wordRanges (text path : List Char) (regions : List ByteRange) :
    Nat → List (List Char) → List ByteRange
  | _, [] => []
  | offset, word :: words =>
    match (splitAt offset text).bind fun p => find word p.2 with
    | none => []
    | some relative =>
      let start := offset + relative
      let stop := start + byteLen word
      let rest := wordRanges text path regions stop words
      if regions.any (·.overlaps ⟨start, stop⟩) then rest
      else if trimWord word = path then
        let leading := byteLen word - byteLen (trimStartMatches isOpeningParenthesis word)
        ⟨start + leading, start + leading + byteLen (trimWord word)⟩ :: rest
      else rest

/-- The complete literal tokens of the request that are equal to `path`. -/
def exactLiteralRanges (source : SourceRequest) (path : List Char) : List ByteRange :=
  quotedRanges source.text path ++
    wordRanges source.text path (literalRegions source.text) 0 (splitWhitespace source.text)

/-- The literals that are path patterns. -/
def patternsOf (literals : List (List Char)) : List PathPattern :=
  literals.filterMap fun literal => (PathPattern.new literal).toOption

section

variable (tables : UnicodeTables) (digests : Digests)

def SourceSpanIdentity.fromSource (source : SourceRequest) (span : SourceSpan) :
    Option SourceSpanIdentity :=
  (source.resolve span).map fun range =>
    ⟨span.start, span.stop,
      digests.sourceSpan source.digest span.start span.stop (textOf source.text range)⟩

/-- The pattern literals of `must_not` requirements, and the pattern tokens of the clauses with a
prohibition. -/
def prohibitedPatterns (spec : TaskSpec) (source : SourceRequest) : List PathPattern :=
  patternsOf ((spec.requirements.filter (·.force == .mustNot)).flatMap Requirement.literals) ++
    patternsOf ((source.clauses.filter fun clause =>
      (source.prohibitionMarkers tables).any clause.contains).flatMap (literalTokens source.text))

def prohibitedPath (path : PathPattern) (spec : TaskSpec) (source : SourceRequest) : Bool :=
  (prohibitedPatterns tables spec source).any path.protectionOverlap

/-- The witness of a requirement at one of its spans. -/
def spanWitness (path : List Char) (source : SourceRequest) (requirement : Requirement)
    (span : SourceSpan) : Option SourceWitness :=
  (source.resolve span).bind fun range =>
    if !(exactLiteralRanges source path).any range.contains ||
        (source.prohibitionMarkers tables).any range.overlaps then none
    else (SourceSpanIdentity.fromSource digests source span).map
      (SourceWitness.mk requirement.requirementId)

/-- The least witness over the positive requirements that carry the path as a literal. -/
def sourceWitness (path : List Char) (requirements : List Requirement) (source : SourceRequest) :
    Option SourceWitness :=
  (sort ((requirements.filter fun requirement =>
    requirement.force != .mustNot && requirement.literals.contains path).flatMap
      fun requirement => requirement.sourceRefs.filterMap
        (spanWitness tables digests path source requirement))).head?

/-- The body of the loop over the owned paths. -/
def pathProvenance (spec : TaskSpec) (source : SourceRequest) (policy : OperatorPolicy)
    (policyDigest : Sha256Digest) (path : PathPattern) :
    Except PathAuthorityViolation PathProvenance :=
  if (spec.forbiddenPaths ++ policy.protectedPaths).any path.protectionOverlap then
    .error ⟨"path_authority_path_protected", some path⟩
  else if prohibitedPath tables path spec source then
    .error ⟨"path_authority_path_prohibited", some path⟩
  else
    match sourceWitness tables digests path.text spec.requirements source with
    | some witness => .ok (.sourceRequirement witness.requirementId witness.sourceSpan)
    | none =>
      if policy.writableRoots.contains path then .ok (.operatorPolicy policyDigest path)
      else .error ⟨"path_authority_owned_path_unjustified", some path⟩

/-- One step of the loop: the map of the justified paths and the violations so far. -/
def recordProvenance (decide : PathPattern → Except PathAuthorityViolation PathProvenance)
    (acc : List (PathPattern × PathProvenance) × List PathAuthorityViolation)
    (path : PathPattern) : List (PathPattern × PathProvenance) × List PathAuthorityViolation :=
  match decide path with
  | .ok provenance => (OrderedMap.insert path provenance acc.1, acc.2)
  | .error violation => (acc.1, acc.2 ++ [violation])

/-- An earlier check's refusal, as codes only. -/
def codesOnly {α β : Type} (code : β → String) (result : Except (List β) α) :
    Except (List PathAuthorityViolation) α :=
  result.mapError fun errors => errors.map fun error => ⟨code error, none⟩

/-- Produces provenance for a normalized, policy-narrowed spec. -/
def derivePathAuthority (spec : TaskSpec) (source : SourceRequest) (policy : OperatorPolicy)
    (sharedContracts : List SharedContractText) :
    Except (List PathAuthorityViolation) PathAuthorityMap := do
  codesOnly SpecViolation.code spec.validateStructure
  codesOnly SpecViolation.code (policy.validate.mapError fun error => [error])
  let _ ← codesOnly CoverageViolation.code
    (validateCoverage tables digests.sha256 spec source sharedContracts)
  let narrowed ← codesOnly SpecViolation.code (intersect spec policy)
  Checked.ensure (narrowed.spec = spec) [⟨"path_authority_spec_not_narrowed", none⟩]
  let taskSpecDigest ← Checked.require (digests.taskSpec spec)
    [⟨"path_authority_invalid_identity", none⟩]
  let policyDigest ← Checked.require (digests.operatorPolicy policy)
    [⟨"path_authority_invalid_identity", none⟩]
  let outcome := spec.ownedPaths.foldl
    (recordProvenance (pathProvenance tables digests spec source policy policyDigest)) ([], [])
  Checked.ensure (outcome.2 = []) (sortDedup outcome.2)
  return ⟨pathAuthoritySchemaVersion, taskSpecDigest, source.digest, policyDigest, outcome.1⟩

end

end Vibemux
