import Vibemux.Compiler.Identifiers
import Vibemux.Lib.SortDedup

/-!
# The original request

The compiler checks a candidate against facts read off the request: clauses, markers, literal regions
and tokens, and numbers. Every range is a range of bytes. Two tables of the Unicode standard are
parameters: which characters are alphanumeric, and lower case.
-/

namespace Vibemux

open Text SortDedup

/-- The Unicode tables the scanner reads. -/
structure UnicodeTables where
  /-- `char::is_alphanumeric`. -/
  isAlphanumeric : Char → Bool
  /-- `str::to_lowercase`. -/
  toLowercase : List Char → List Char

/-- `MAX_SOURCE_REQUEST_BYTES`. -/
def maxSourceRequestBytes : Nat := 64 * 1024

/-- A half-open byte range of the request. -/
structure ByteRange where
  start : Nat
  stop : Nat
deriving DecidableEq, Ord

namespace ByteRange

def overlaps (self other : ByteRange) : Bool :=
  decide (self.start < other.stop) && decide (other.start < self.stop)

def contains (self other : ByteRange) : Bool :=
  decide (self.start ≤ other.start) && decide (other.stop ≤ self.stop)

end ByteRange

/-- The text of a range, if it lies on character boundaries. -/
def textOf (text : List Char) (range : ByteRange) : List Char :=
  (slice text range.start range.stop).getD []

/-- A byte range of the original request and the exact text it covers. -/
structure SourceSpan where
  start : Nat
  stop : Nat
  quoted : List Char
deriving DecidableEq, Ord

/-- The request and the digest of its bytes. -/
structure SourceRequest where
  text : List Char
  digest : Sha256Digest
  /-- At most 64 KiB, not blank and without NUL. -/
  valid : byteLen text ≤ maxSourceRequestBytes ∧ trim text ≠ [] ∧ '\x00' ∉ text

/-- The range a span claims, if it lies on character boundaries and its quoted text is exactly the
request text there. -/
def SourceRequest.resolve (request : SourceRequest) (span : SourceSpan) : Option ByteRange :=
  match slice request.text span.start span.stop with
  | some text =>
    if span.start < span.stop ∧ text = span.quoted then some ⟨span.start, span.stop⟩ else none
  | none => none

/-- The delimiters of a literal region. -/
def closingDelimiter : Char → Option Char
  | '\x60' => some '\x60'
  | '\x22' => some '\x22'
  | '“' => some '”'
  | '「' => some '」'
  | '『' => some '』'
  | _ => none

/-- The loop of `literal_regions` at `position`, where `rest` is the text from there on. -/
def literalRegionsFrom : Nat → Nat → List Char → List ByteRange
  | 0, _, _ => []
  | _ + 1, _, [] => []
  | fuel + 1, position, character :: rest =>
    let contentStart := position + character.utf8Size
    match closingDelimiter character with
    | none => literalRegionsFrom fuel contentStart rest
    | some close =>
      match find [close] rest with
      | none => literalRegionsFrom fuel contentStart rest
      | some offset =>
        let stop := contentStart + offset + close.utf8Size
        ⟨position, stop⟩ ::
          literalRegionsFrom fuel stop
            (((splitAt (offset + close.utf8Size) rest).map Prod.snd).getD [])

/-- Regions quoted with backticks, straight or curly double quotes, or corner brackets. -/
def literalRegions (text : List Char) : List ByteRange := literalRegionsFrom text.length 0 text

/-- The clause between two offsets, without white space around it; a blank one is dropped. -/
def pushClause (text : List Char) (start stop : Nat) : List ByteRange :=
  let piece := textOf text ⟨start, stop⟩
  let leading := byteLen piece - byteLen (trimStart piece)
  let trailing := byteLen piece - byteLen (trimEnd piece)
  if leading + trailing < byteLen piece then [⟨start + leading, stop - trailing⟩] else []

/-- Whether a clause ends after `character`. -/
def splitsClause (character : Char) (next : Option Char) : Bool :=
  match character with
  | '\n' => true
  | '。' => true
  | '；' => true
  | '！' => true
  | '？' => true
  | '.' => next.all isWhitespace
  | ';' => next.all isWhitespace
  | '!' => next.all isWhitespace
  | '?' => next.all isWhitespace
  | _ => false

/-- The loop of `clauses`: `start` is where the current clause starts, `index` is the offset of the
rest of the text. -/
def clausesFrom (text : List Char) (regions : List ByteRange) (start index : Nat) :
    List Char → List ByteRange
  | [] => pushClause text start (byteLen text)
  | character :: rest =>
    let insideLiteral := regions.any fun region =>
      decide (region.start ≤ index) && decide (index < region.stop)
    let stop := index + character.utf8Size
    if !insideLiteral && splitsClause character rest.head? then
      pushClause text start stop ++ clausesFrom text regions stop stop rest
    else clausesFrom text regions start stop rest

/-- The clauses of the request that are not blank. -/
def SourceRequest.clauses (request : SourceRequest) : List ByteRange :=
  clausesFrom request.text (literalRegions request.text) 0 0 request.text

/-- `PROHIBITION_MARKERS`. -/
def prohibitionMarkerTable : List (List Char) :=
  ["must not", "mustn't", "do not", "don't", "does not", "never", "shall not", "should not",
    "shouldn't", "cannot", "can't", "may not", "not allowed", "forbidden", "forbid", "prohibited",
    "prohibit", "without", "不得", "不要", "禁止", "不能", "不可", "不许", "严禁", "请勿", "不允许",
    "不准"].map String.toList

/-- `BINDING_MARKERS`. -/
def bindingMarkerTable : List (List Char) :=
  ["must", "shall", "required", "require", "need to", "needs to", "have to", "has to", "only",
    "exactly", "at most", "at least", "必须", "务必", "需要", "一定", "只能", "至少", "最多",
    "不超过"].map String.toList

def isAscii (text : List Char) : Bool := text.all fun c => decide (c.toNat < 128)

section Markers

variable (tables : UnicodeTables)

/-- Whether the character next to a match, if there is one, ends a word. -/
def isWordBoundary (neighbor : Option Char) : Bool :=
  neighbor.all fun character =>
    !(tables.isAlphanumeric character || character == '_' || character == '\x27')

/-- The loop of `markers` for one marker, from a byte offset on. -/
def markerOccurrences (haystack marker : List Char) : Nat → Nat → List ByteRange
  | 0, _ => []
  | fuel + 1, offset =>
    match splitAt offset haystack with
    | none => []
    | some (_, rest) =>
      match find marker rest with
      | none => []
      | some position =>
        let start := offset + position
        let stop := start + byteLen marker
        let before := ((splitAt start haystack).map Prod.fst).getD []
        let after := ((splitAt stop haystack).map Prod.snd).getD []
        let bounded := !isAscii marker ||
          (isWordBoundary tables before.getLast? && isWordBoundary tables after.head?)
        (if bounded then [⟨start, stop⟩] else []) ++
          markerOccurrences haystack marker fuel (start + max (byteLen marker) 1)

/-- The markers of a table in a text: without regard to case when lowering keeps the length. -/
def markers (text : List Char) (table : List (List Char)) : List ByteRange :=
  let lower := tables.toLowercase text
  let haystack := if byteLen lower = byteLen text then lower else text
  sortDedup (table.flatMap fun marker =>
    markerOccurrences tables haystack marker (haystack.length + 1) 0)

/-- Whether a text contains a marker that makes it binding. -/
def hasBindingMarker (text : List Char) : Bool :=
  !(markers tables text bindingMarkerTable).isEmpty ||
    !(markers tables text prohibitionMarkerTable).isEmpty

/-- The markers of a table in the request, outside literal regions. -/
def SourceRequest.markersOutsideLiterals (request : SourceRequest) (table : List (List Char)) :
    List ByteRange :=
  (markers tables request.text table).filter fun marker =>
    !(literalRegions request.text).any (·.overlaps marker)

/-- `prohibition_markers`. -/
def SourceRequest.prohibitionMarkers (request : SourceRequest) : List ByteRange :=
  request.markersOutsideLiterals tables prohibitionMarkerTable

end Markers

/-- The characters trimmed from the end of a word. -/
def isTrailingPunctuation (c : Char) : Bool :=
  [',', ';', ':', '.', ')', '，', '。', '；', '：', '）'].contains c

/-- The characters trimmed from the start of a word. -/
def isOpeningParenthesis (c : Char) : Bool := c == '(' || c == '（'

/-- The part of a file name after its last dot, if there is one. -/
def hasFileExtension (token : List Char) : Bool :=
  match token.reverse.span (· != '.') with
  | (extension, _ :: stem) =>
    stem != [] && decide (1 ≤ extension.length) && decide (extension.length ≤ 5) &&
      extension.all Char.isAlphanum && extension.any Char.isAlpha
  | (_, []) => false

def isPathLike (token : List Char) : Bool :=
  if byteLen token < 3 || !isAscii token then false
  else
    (token.contains '/' || token.contains '\\' || hasFileExtension token) &&
      !"http".toList.isPrefixOf token

/-- The inside of a literal region. -/
def literalContent (text : List Char) (region : ByteRange) : List Char :=
  (textOf text region).tail.dropLast

/-- A word without the punctuation around it. -/
def trimWord (word : List Char) : List Char :=
  trimStartMatches isOpeningParenthesis (trimEndMatches isTrailingPunctuation word)

/-- The loop of `literal_tokens` over the words of a range. -/
def wordTokens (text : List Char) (regions : List ByteRange) (stop : Nat) :
    Nat → List (List Char) → List (List Char)
  | _, [] => []
  | offset, word :: words =>
    let position := match find word (textOf text ⟨offset, stop⟩) with
      | some found => offset + found
      | none => offset
    let next := position + byteLen word
    let trimmed := trimWord word
    let rest := wordTokens text regions stop next words
    if regions.any (·.overlaps ⟨position, next⟩) then rest
    else if isPathLike trimmed || (trimmed.head? == some '@' && decide (1 < byteLen trimmed)) then
      trimmed :: rest
    else rest

/-- The contents of the quoted regions inside a range, and its unquoted path-like words. -/
def literalTokens (text : List Char) (range : ByteRange) : List (List Char) :=
  match slice text range.start range.stop with
  | none => []
  | some piece =>
    let regions := literalRegions text
    let quoted := (regions.filter range.contains).map (literalContent text)
    sortDedup (quoted.filter (· != []) ++
      wordTokens text regions range.stop range.start (splitWhitespace piece))

/-- A full-width digit as the ASCII digit. -/
def foldDigit (c : Char) : Char :=
  if 0xFF10 ≤ c.toNat ∧ c.toNat ≤ 0xFF19 then Char.ofNat (c.toNat - 0xFF10 + '0'.toNat) else c

/-- The loop of `numeric_tokens`; `current` is the number that is being read. -/
def numericTokensFrom (current : List Char) : List Char → List (List Char)
  | [] => if current = [] then [] else [current]
  | character :: rest =>
    let decimalPoint := character == '.' && current != [] && !current.contains '.' &&
      rest.head?.any Char.isDigit
    if character.isDigit || decimalPoint then numericTokensFrom (current ++ [character]) rest
    else if current = [] then numericTokensFrom [] rest
    else current :: numericTokensFrom [] rest

/-- Decimal number tokens, with full-width digits folded to ASCII. -/
def numericTokens (text : List Char) : List (List Char) :=
  sortDedup (numericTokensFrom [] (text.map foldDigit))

/-- Whether the text contains CJK ideographs, kana, or hangul. -/
def containsCjk (text : List Char) : Bool :=
  text.any fun c =>
    let n := c.toNat
    (0x3040 ≤ n && n ≤ 0x30FF) || (0x3400 ≤ n && n ≤ 0x4DBF) || (0x4E00 ≤ n && n ≤ 0x9FFF) ||
      (0xAC00 ≤ n && n ≤ 0xD7AF) || (0xF900 ≤ n && n ≤ 0xFAFF) || (0x20000 ≤ n && n ≤ 0x2FA1F)

end Vibemux
