import Vibemux.Basic
import Vibemux.Lib.Text

/-!
# Identifiers and path patterns

Identifiers are lowercase snake case. A path pattern is a repository-relative path, or a directory
followed by `/**`. Both are checked when they are built, so the checks are fields of the values.
-/

namespace Vibemux

open Text

/-- `MAX_IDENTIFIER_BYTES`. -/
def maxIdentifierBytes : Nat := 64

/-- `MAX_PATH_PATTERN_BYTES`. -/
def maxPathPatternBytes : Nat := 240

/-- `RECURSIVE_SUFFIX`. -/
def recursiveSuffix : List Char := "/**".toList

/-- What is wrong with an identifier. -/
inductive IdentifierError where
  | invalidIdentifier
  | invalidPathPattern
deriving DecidableEq

def isSnakeCase (value : List Char) : Bool :=
  value != [] && byteLen value ≤ maxIdentifierBytes && value.head?.any Char.isLower &&
    value.all (fun c => c.isLower || c.isDigit || c == '_') && !contains value "__".toList &&
    value.getLast? != some '_'

/-- A lowercase snake case identifier of at most 64 bytes. -/
structure SpecIdentifier where
  text : List Char
  valid : isSnakeCase text = true
deriving DecidableEq

def SpecIdentifier.new (value : List Char) : Except IdentifierError SpecIdentifier :=
  if h : isSnakeCase value = true then .ok ⟨value, h⟩ else .error .invalidIdentifier

/-- A plain name: neither empty, nor `.` or `..`, and made of ASCII letters, digits and `._-`. -/
def isPathSegment (segment : List Char) : Bool :=
  segment != [] && segment != ['.'] && segment != ['.', '.'] &&
    segment.all fun c => c.isAlphanum || c == '.' || c == '_' || c == '-'

/-- A non-empty relative path whose segments are plain names. -/
def isRelativePath (value : List Char) : Bool :=
  value != [] && byteLen value ≤ maxPathPatternBytes && (splitOn '/' value).all isPathSegment

/-- The check of `PathPattern::new`. -/
def isPathPattern (value : List Char) : Bool :=
  byteLen value ≤ maxPathPatternBytes &&
    isRelativePath ((stripSuffix recursiveSuffix value).getD value)

/-- A repository-relative path, or a directory followed by `/**`. -/
structure PathPattern where
  text : List Char
  valid : isPathPattern text = true
deriving DecidableEq

namespace PathPattern

def new (value : List Char) : Except IdentifierError PathPattern :=
  if h : isPathPattern value = true then .ok ⟨value, h⟩ else .error .invalidPathPattern

variable (self other : PathPattern)

def isRecursive : Bool := recursiveSuffix.isSuffixOf self.text

/-- The literal path, or the directory a recursive pattern covers. -/
def base : List Char := (stripSuffix recursiveSuffix self.text).getD self.text

/-- Whether `path` is covered. -/
def «matches» (path : List Char) : Bool :=
  if self.isRecursive then
    decide (byteLen self.base < byteLen path) && self.base.isPrefixOf path &&
      (path.drop self.base.length).head? == some '/'
  else path == self.text

/-- Whether every path this pattern covers is also covered by `outer`. -/
def isWithin (outer : PathPattern) : Bool :=
  if outer.isRecursive then
    outer.matches self.base || (self.isRecursive && self.base == outer.base)
  else !self.isRecursive && self.text == outer.text

/-- Whether the two patterns can cover a common path. -/
def overlaps : Bool :=
  self.isWithin other || other.isWithin self ||
    (self.isRecursive && self.matches other.base) ||
    (other.isRecursive && other.matches self.base)

/-- Whether the pattern covers `path` up to the case of ASCII letters. -/
def matchesCaseInsensitively (path : List Char) : Bool :=
  match PathPattern.new (toAsciiLowercase self.text) with
  | .ok lowered => lowered.matches (toAsciiLowercase path)
  | .error _ => false

/-- Whether the two patterns can cover a common path up to the case of ASCII letters; a pattern that
cannot be lowered counts as protected. -/
def protectionOverlap : Bool :=
  match PathPattern.new (toAsciiLowercase self.text),
    PathPattern.new (toAsciiLowercase other.text) with
  | .ok left, .ok right => left.overlaps right
  | _, _ => true

end PathPattern

end Vibemux
