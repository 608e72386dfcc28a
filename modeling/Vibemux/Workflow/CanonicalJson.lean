import Vibemux.Lib.Json
import Vibemux.Lib.SortWith
import Vibemux.Workflow.Authority

/-!
# Canonical JSON, version 1

The bytes that contract identities hash: no insignificant white space, members sorted by the UTF-8
bytes of their names, integers of 64 bits only, a fixed set of escapes and a bounded nesting. The writer
works on characters and the text is encoded at the end.
-/

namespace Vibemux

def maxCanonicalDepth : Nat := 32

/-- The lowercase hexadecimal digit of a number below sixteen. -/
def hexDigit (n : Nat) : Char := Nat.digitChar n

/-- One character of a string, escaped where it has to be. -/
def writeChar (c : Char) : List Char :=
  if c = '"' then ['\\', '"']
  else if c = '\\' then ['\\', '\\']
  else if c = '\x08' then ['\\', 'b']
  else if c = '\x0c' then ['\\', 'f']
  else if c = '\n' then ['\\', 'n']
  else if c = '\r' then ['\\', 'r']
  else if c = '\t' then ['\\', 't']
  else if c.toNat < 0x20 then
    ['\\', 'u', '0', '0', hexDigit (c.toNat / 16), hexDigit (c.toNat % 16)]
  else [c]

def writeString (text : String) : List Char := '"' :: text.toList.flatMap writeChar ++ ['"']

/-- The decimal text of a signed integer. -/
def writeInteger (value : Int) : List Char :=
  if value < 0 then '-' :: Nat.toDigits 10 value.natAbs else Nat.toDigits 10 value.natAbs

/-- A number is written when it is an integer of 64 bits, with or without a sign. -/
def writeNumber (number : Json) : Except CanonicalError (List Char) :=
  match number.asI64 with
  | some value => .ok (writeInteger value)
  | none =>
    match number.asU64 with
    | some value => .ok (writeInteger value)
    | none => .error .nonIntegerNumber

/-- The texts with a comma between each two. -/
def commaSeparated : List (List Char) → List Char
  | [] => []
  | [text] => text
  | text :: rest => text ++ ',' :: commaSeparated rest

/-- The texts of a list, or the first error in it. -/
def firstError : List (Except CanonicalError (List Char)) → Except CanonicalError (List (List Char))
  | [] => .ok []
  | result :: rest => do
    let text ← result
    let texts ← firstError rest
    return text :: texts

/-- A member's text: its name, a colon and the text of its value. -/
def writeMember (member : String × Except CanonicalError (List Char)) :
    Except CanonicalError (List Char) := do
  let text ← member.2
  return writeString member.1 ++ ':' :: text

mutual

def writeValue (depth : Nat) (value : Json) : Except CanonicalError (List Char) :=
  if maxCanonicalDepth < depth then .error .tooDeep
  else
    match value with
    | .null => .ok "null".toList
    | .bool value => .ok (if value then "true".toList else "false".toList)
    | .int number => writeNumber (.int number)
    | .float number => writeNumber (.float number)
    | .str text => .ok (writeString text)
    | .arr items => do
      let texts ← firstError (writeItems (depth + 1) items)
      return '[' :: commaSeparated texts ++ [']']
    | .obj fields => do
      let sorted := SortWith.sortWith (fun a b => Json.compareNames a.1 b.1)
        (writeMembers (depth + 1) fields)
      let texts ← firstError (sorted.map writeMember)
      return '{' :: commaSeparated texts ++ ['}']

/-- What writing each item gives. -/
def writeItems (depth : Nat) : List Json → List (Except CanonicalError (List Char))
  | [] => []
  | item :: rest => writeValue depth item :: writeItems depth rest

/-- What writing the value of each member gives, with its name. The code writes a member when its
turn in the sorted order comes; an error of a later one is not seen before that. -/
def writeMembers (depth : Nat) :
    List (String × Json) → List (String × Except CanonicalError (List Char))
  | [] => []
  | (name, value) :: rest => (name, writeValue depth value) :: writeMembers depth rest

end

/-- Canonical bytes of a JSON value. -/
def canonicalBytes (value : Json) : Except CanonicalError ByteArray := do
  let text ← writeValue 0 value
  return (String.ofList text).toByteArray

end Vibemux
