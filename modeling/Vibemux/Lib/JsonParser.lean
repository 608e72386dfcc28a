import Vibemux.Lib.Json

/-!
# A JSON parser

Text to values, for the whole grammar. An integer of 64 bits is an integer, every other number is kept
as its text. The members of an object are listed in the order of the UTF-8 bytes of their names; a
repeated name keeps the last value. The fuel bounds the length of what is read.
-/

namespace Json

open List

variable {c : Char} {fuel : Nat} {members : List (String × Json)} {rest tail text : List Char}

/-- A member goes to its place among the others and replaces one of the same name. -/
def insertMember (member : String × Json) : List (String × Json) → List (String × Json)
  | [] => [member]
  | other :: rest =>
    match compareNames member.1 other.1 with
    | .lt => member :: other :: rest
    | .eq => member :: rest
    | .gt => other :: insertMember member rest

def objOfMembers (members : List (String × Json)) : Json :=
  obj (members.foldl (fun fields member => insertMember member fields) [])

/-! ## Strings -/

def isSpace (c : Char) : Bool := c == ' ' || c == '\n' || c == '\r' || c == '\t'

def skipSpace (text : List Char) : List Char := text.dropWhile isSpace

def hexValue (c : Char) : Option Nat :=
  if '0' ≤ c ∧ c ≤ '9' then some (c.toNat - '0'.toNat)
  else if 'a' ≤ c ∧ c ≤ 'f' then some (c.toNat - 'a'.toNat + 10)
  else if 'A' ≤ c ∧ c ≤ 'F' then some (c.toNat - 'A'.toNat + 10)
  else none

/-- Four hexadecimal digits. -/
def parseHex : List Char → Option (Nat × List Char)
  | a :: b :: c :: d :: rest => do
    let a ← hexValue a
    let b ← hexValue b
    let c ← hexValue c
    let d ← hexValue d
    return (((a * 16 + b) * 16 + c) * 16 + d, rest)
  | _ => none

/-- The character after a backslash that stands for itself or for a control character. -/
def simpleEscape : Char → Option Char
  | '"' => some '"'
  | '\\' => some '\\'
  | '/' => some '/'
  | 'b' => some '\x08'
  | 'f' => some '\x0c'
  | 'n' => some '\n'
  | 'r' => some '\r'
  | 't' => some '\t'
  | _ => none

/-- The low half of a surrogate pair. -/
def parseLow (high : Nat) : List Char → Option (Char × List Char)
  | '\\' :: 'u' :: rest => do
    let (low, rest) ← parseHex rest
    if 0xDC00 ≤ low ∧ low < 0xE000 then
      some (Char.ofNat (0x10000 + (high - 0xD800) * 0x400 + (low - 0xDC00)), rest)
    else none
  | _ => none

/-- What follows `\u`. -/
def parseUnicode (text : List Char) : Option (Char × List Char) := do
  let (code, rest) ← parseHex text
  if 0xD800 ≤ code ∧ code < 0xDC00 then parseLow code rest
  else if 0xDC00 ≤ code ∧ code < 0xE000 then none
  else some (Char.ofNat code, rest)

/-- One character of a string's body. -/
def parseChar : List Char → Option (Char × List Char)
  | [] => none
  | c :: rest =>
    if c = '\\' then
      match rest with
      | [] => none
      | d :: rest => if d = 'u' then parseUnicode rest else (simpleEscape d).map fun e => (e, rest)
    else if c.toNat < 0x20 then none
    else some (c, rest)

/-- The body of a string up to its closing quote. -/
def parseBody : Nat → List Char → Option (List Char × List Char)
  | 0, _ => none
  | fuel + 1, text =>
    if text.head? = some '"' then some ([], text.tail)
    else do
      let (c, rest) ← parseChar text
      let (cs, rest) ← parseBody fuel rest
      return (c :: cs, rest)

def parseString (text : List Char) : Option (String × List Char) :=
  (parseBody (text.length + 1) text).map fun (body, rest) => (String.ofList body, rest)

/-! ## Numbers -/

/-- A non-empty run of digits. -/
def parseDigits (text : List Char) : Option (List Char × List Char) :=
  if (text.takeWhile Char.isDigit).isEmpty then none
  else some (text.takeWhile Char.isDigit, text.dropWhile Char.isDigit)

/-- Digits without a leading zero. -/
def parseWhole (text : List Char) : Option (List Char × List Char) := do
  let (digits, rest) ← parseDigits text
  if digits.head? = some '0' ∧ digits.length ≠ 1 then none else some (digits, rest)

/-- A fraction with its point, or nothing. -/
def parseFraction : List Char → Option (List Char × List Char)
  | '.' :: rest => (parseDigits rest).map fun (digits, rest) => ('.' :: digits, rest)
  | text => some ([], text)

/-- An exponent with its letter and sign, or nothing. -/
def parseExponent : List Char → Option (List Char × List Char)
  | c :: rest =>
    if c = 'e' ∨ c = 'E' then
      match rest with
      | '+' :: rest => (parseDigits rest).map fun (digits, rest) => (c :: '+' :: digits, rest)
      | '-' :: rest => (parseDigits rest).map fun (digits, rest) => (c :: '-' :: digits, rest)
      | rest => (parseDigits rest).map fun (digits, rest) => (c :: digits, rest)
    else some ([], c :: rest)
  | [] => some ([], [])

/-- The number with these digits: an integer when 64 bits hold it and it is not a negative zero. -/
def numberOf (negative : Bool) (whole fraction exponent : List Char) : Json :=
  let magnitude := Nat.ofDigitChars 10 whole 0
  if fraction = [] ∧ exponent = [] ∧ negative = false ∧ magnitude < 2 ^ 64 then int magnitude
  else if fraction = [] ∧ exponent = [] ∧ negative ∧ 0 < magnitude ∧ magnitude ≤ 2 ^ 63 then
    int (-magnitude)
  else float (String.ofList ((if negative then ['-'] else []) ++ whole ++ fraction ++ exponent))

def parseUnsigned (negative : Bool) (text : List Char) : Option (Json × List Char) := do
  let (whole, rest) ← parseWhole text
  let (fraction, rest) ← parseFraction rest
  let (exponent, rest) ← parseExponent rest
  return (numberOf negative whole fraction exponent, rest)

def parseNumber : List Char → Option (Json × List Char)
  | '-' :: rest => parseUnsigned true rest
  | text => parseUnsigned false text

/-! ## Values -/

/-- What stands before the next character, which must be `c`. -/
def expect (c : Char) (text : List Char) : Option (List Char) :=
  if (skipSpace text).head? = some c then some (skipSpace text).tail else none

mutual

def parseValue : Nat → List Char → Option (Json × List Char)
  | 0, _ => none
  | fuel + 1, text =>
    match skipSpace text with
    | 'n' :: 'u' :: 'l' :: 'l' :: rest => some (null, rest)
    | 't' :: 'r' :: 'u' :: 'e' :: rest => some (bool true, rest)
    | 'f' :: 'a' :: 'l' :: 's' :: 'e' :: rest => some (bool false, rest)
    | '"' :: rest => (parseString rest).map fun (text, rest) => (str text, rest)
    | '[' :: rest =>
      match expect ']' rest with
      | some rest => some (arr [], rest)
      | none => (parseItems fuel rest).map fun (items, rest) => (arr items, rest)
    | '{' :: rest =>
      match expect '}' rest with
      | some rest => some (obj [], rest)
      | none => (parseMembers fuel rest).map fun (members, rest) => (objOfMembers members, rest)
    | text => parseNumber text

/-- The items of an array and its closing bracket. -/
def parseItems : Nat → List Char → Option (List Json × List Char)
  | 0, _ => none
  | fuel + 1, text => do
    let (item, rest) ← parseValue fuel text
    match expect ']' rest with
    | some rest => some ([item], rest)
    | none => do
      let rest ← expect ',' rest
      let (items, rest) ← parseItems fuel rest
      return (item :: items, rest)

/-- The members of an object and its closing brace. -/
def parseMembers : Nat → List Char → Option (List (String × Json) × List Char)
  | 0, _ => none
  | fuel + 1, text => do
    let rest ← expect '"' text
    let (name, rest) ← parseString rest
    let rest ← expect ':' rest
    let (value, rest) ← parseValue fuel rest
    match expect '}' rest with
    | some rest => some ([(name, value)], rest)
    | none => do
      let rest ← expect ',' rest
      let (members, rest) ← parseMembers fuel rest
      return ((name, value) :: members, rest)

end

/-- The value of a whole text, with nothing but space after it. -/
def parse (text : List Char) : Option Json := do
  let (value, rest) ← parseValue (text.length + 1) text
  if skipSpace rest = [] then some value else none

/-- The value of a UTF-8 document. -/
def parseBytes (bytes : ByteArray) : Option Json :=
  (String.fromUTF8? bytes).bind fun text => parse text.toList

/-! ## Reading what is known to stand there -/

theorem skipSpace_cons (h : isSpace c = false) (rest : List Char) :
    skipSpace (c :: rest) = c :: rest := by
  simp [skipSpace, h]

theorem expect_self (h : isSpace c = false) (rest : List Char) :
    expect c (c :: rest) = some rest := by
  simp [expect, skipSpace_cons h]

theorem expect_of_ne {c d : Char} (h : isSpace d = false) (hne : d ≠ c) (rest : List Char) :
    expect c (d :: rest) = none := by
  simp [expect, skipSpace_cons h, hne]

/-- What follows does not continue a number. -/
def EndsNumber (rest : List Char) : Prop :=
  ∀ c ∈ rest.head?, c.isDigit = false ∧ c ≠ '.' ∧ c ≠ 'e' ∧ c ≠ 'E'

theorem endsNumber_nil : EndsNumber [] := nofun

theorem endsNumber_cons (rest : List Char) (h : c.isDigit = false ∧ c ≠ '.' ∧ c ≠ 'e' ∧ c ≠ 'E') :
    EndsNumber (c :: rest) := by
  intro d hd
  obtain rfl : c = d := by simpa using hd
  exact h

theorem parseDigits_append {digits : List Char} (hne : digits ≠ [])
    (hdigits : ∀ c ∈ digits, c.isDigit = true) (hrest : EndsNumber rest) :
    parseDigits (digits ++ rest) = some (digits, rest) := by
  have htake : rest.takeWhile Char.isDigit = [] := by
    cases rest with
    | nil => rfl
    | cons c rest => simp [(hrest c rfl).1]
  have hdrop : rest.dropWhile Char.isDigit = rest := by
    cases rest with
    | nil => rfl
    | cons c rest => simp [(hrest c rfl).1]
  simp [parseDigits, takeWhile_append_of_pos hdigits, dropWhile_append_of_pos hdigits, htake,
    hdrop, hne]

theorem eq_zero_of_toDigits_head {n : Nat} (h : (Nat.toDigits 10 n).head? = some '0') : n = 0 := by
  induction n using Nat.strongRecOn with
  | _ n ih =>
    rw [Nat.toDigits_eq_if (by decide)] at h
    split_ifs at h with hlt
    · have hdigit : ∀ d < 10, Nat.digitChar d = '0' → d = 0 := by decide
      exact hdigit n hlt (by simpa using h)
    · have hhead : (Nat.toDigits 10 (n / 10)).head? = some '0' := by
        cases hdigits : Nat.toDigits 10 (n / 10) with
        | nil => exact absurd hdigits Nat.toDigits_ne_nil
        | cons c rest => simpa [hdigits] using h
      have := ih (n / 10) (by omega) hhead
      omega

theorem parseWhole_toDigits (n : Nat) (hrest : EndsNumber rest) :
    parseWhole (Nat.toDigits 10 n ++ rest) = some (Nat.toDigits 10 n, rest) := by
  have hdigits : ∀ c ∈ Nat.toDigits 10 n, c.isDigit = true := fun c hc =>
    Nat.isDigit_of_mem_toDigits (by decide) (by decide) hc
  have hzero : ¬((Nat.toDigits 10 n).head? = some '0' ∧ (Nat.toDigits 10 n).length ≠ 1) := by
    rintro ⟨hhead, hlength⟩
    exact hlength (by rw [eq_zero_of_toDigits_head hhead]; rfl)
  simp [parseWhole, parseDigits_append Nat.toDigits_ne_nil hdigits hrest, hzero]

theorem parseUnsigned_toDigits (negative : Bool) (n : Nat) (hrest : EndsNumber rest) :
    parseUnsigned negative (Nat.toDigits 10 n ++ rest) =
      some (numberOf negative (Nat.toDigits 10 n) [] [], rest) := by
  have hfraction : parseFraction rest = some ([], rest) := by
    unfold parseFraction
    split
    · rename_i tail
      exact absurd rfl (hrest '.' rfl).2.1
    · rfl
  have hexponent : parseExponent rest = some ([], rest) := by
    cases rest with
    | nil => rfl
    | cons c rest =>
      obtain ⟨-, -, he, hE⟩ := hrest c rfl
      simp [parseExponent, he, hE]
  simp [parseUnsigned, parseWhole_toDigits n hrest, hfraction, hexponent]

/-- The first character of a number is none of those the parser looks for. -/
theorem ne_of_starts_number (h : c = '-' ∨ c.isDigit = true) :
    isSpace c = false ∧ ∀ d ∈ [']', 'n', 't', 'f', '"', '[', '{'], c ≠ d := by
  have hother : ∀ d ∈ [' ', '\n', '\r', '\t', ']', 'n', 't', 'f', '"', '[', '{'], c ≠ d := by
    rintro d hd rfl
    have hnone : [' ', '\n', '\r', '\t', ']', 'n', 't', 'f', '"', '[', '{'].all
        (fun d => d != '-' && !d.isDigit) = true := by decide
    have hc := all_eq_true.1 hnone c hd
    simp only [Bool.and_eq_true, bne_iff_ne, Bool.not_eq_true', ne_eq] at hc
    rcases h with h | h
    · exact hc.1 h
    · rw [hc.2] at h
      cases h
  simp only [forall_mem_cons] at hother ⊢
  obtain ⟨hspace, hnewline, hreturn, htab, hrest⟩ := hother
  exact ⟨by simp [isSpace, hspace, hnewline, hreturn, htab], hrest⟩

/-- A digit or a sign starts a number. -/
theorem parseValue_number (h : c = '-' ∨ c.isDigit = true) (fuel : Nat) (rest : List Char) :
    parseValue (fuel + 1) (c :: rest) = parseNumber (c :: rest) := by
  obtain ⟨hspace, hother⟩ := ne_of_starts_number h
  simp only [forall_mem_cons] at hother
  obtain ⟨-, _, _, _, _, _, _, -⟩ := hother
  rw [parseValue, skipSpace_cons hspace]
  split <;> simp_all

theorem parseItems_last {fuel : Nat} {text rest : List Char} {item : Json}
    (h : parseValue fuel text = some (item, ']' :: rest)) :
    parseItems (fuel + 1) text = some ([item], rest) := by
  have hclose : expect ']' (']' :: rest) = some rest := expect_self (by decide) rest
  simp [parseItems, h, hclose]

theorem parseItems_more {item : Json} {items : List Json}
    (h : parseValue fuel text = some (item, ',' :: tail))
    (htail : parseItems fuel tail = some (items, rest)) :
    parseItems (fuel + 1) text = some (item :: items, rest) := by
  have hclose : expect ']' (',' :: tail) = none := expect_of_ne (by decide) (by decide) tail
  have hcomma : expect ',' (',' :: tail) = some tail := expect_self (by decide) tail
  simp [parseItems, h, hclose, hcomma, htail]

theorem parseMembers_last {fuel : Nat} {text tail rest : List Char} {name : String} {value : Json}
    (hname : parseString text = some (name, ':' :: tail))
    (h : parseValue fuel tail = some (value, '}' :: rest)) :
    parseMembers (fuel + 1) ('"' :: text) = some ([(name, value)], rest) := by
  have hquote : expect '"' ('"' :: text) = some text := expect_self (by decide) text
  have hcolon : expect ':' (':' :: tail) = some tail := expect_self (by decide) tail
  have hclose : expect '}' ('}' :: rest) = some rest := expect_self (by decide) rest
  simp [parseMembers, hquote, hname, hcolon, h, hclose]

theorem parseMembers_more {next : List Char} {name : String} {value : Json}
    (hname : parseString text = some (name, ':' :: tail))
    (h : parseValue fuel tail = some (value, ',' :: next))
    (hnext : parseMembers fuel next = some (members, rest)) :
    parseMembers (fuel + 1) ('"' :: text) = some ((name, value) :: members, rest) := by
  have hquote : expect '"' ('"' :: text) = some text := expect_self (by decide) text
  have hcolon : expect ':' (':' :: tail) = some tail := expect_self (by decide) tail
  have hclose : expect '}' (',' :: next) = none := expect_of_ne (by decide) (by decide) next
  have hcomma : expect ',' (',' :: next) = some next := expect_self (by decide) next
  simp [parseMembers, hquote, hname, hcolon, h, hclose, hcomma, hnext]

theorem parseValue_arr_nil (fuel : Nat) (rest : List Char) :
    parseValue (fuel + 1) ('[' :: ']' :: rest) = some (arr [], rest) := by
  have hclose : expect ']' (']' :: rest) = some rest := expect_self (by decide) rest
  simp [parseValue, skipSpace_cons, isSpace, hclose]

theorem parseValue_arr {fuel : Nat} {text rest : List Char} {items : List Json}
    (hopen : expect ']' text = none) (h : parseItems fuel text = some (items, rest)) :
    parseValue (fuel + 1) ('[' :: text) = some (arr items, rest) := by
  simp [parseValue, skipSpace_cons, isSpace, hopen, h]

theorem parseValue_obj_nil (fuel : Nat) (rest : List Char) :
    parseValue (fuel + 1) ('{' :: '}' :: rest) = some (obj [], rest) := by
  have hclose : expect '}' ('}' :: rest) = some rest := expect_self (by decide) rest
  simp [parseValue, skipSpace_cons, isSpace, hclose]

theorem parseValue_obj {fuel : Nat} {text rest : List Char} {members : List (String × Json)}
    (hopen : expect '}' text = none) (h : parseMembers fuel text = some (members, rest)) :
    parseValue (fuel + 1) ('{' :: text) = some (objOfMembers members, rest) := by
  simp [parseValue, skipSpace_cons, isSpace, hopen, h]

theorem parseBytes_toByteArray (text : String) : parseBytes text.toByteArray = parse text.toList := by
  have hdecode : String.fromUTF8? text.toByteArray = some text := by
    rw [String.fromUTF8?, dif_pos text.isValidUTF8]
    rfl
  rw [parseBytes, hdecode, Option.bind_some]

/-! ## Members in order -/

instance : Std.LawfulEqCmp compareNames where
  compare_self := by simp [compareNames]
  eq_of_compare h := String.toByteArray_inj.1 (ByteArray.ext (Array.ext' (by
    simpa [compareNames] using h)))

instance : Std.TransCmp compareNames where
  eq_swap := Std.OrientedOrd.eq_swap
  isLE_trans := Std.TransOrd.isLE_trans

theorem insertMember_of_forall_lt {member : String × Json} {fields : List (String × Json)}
    (h : ∀ other ∈ fields, compareNames other.1 member.1 = .lt) :
    insertMember member fields = fields ++ [member] := by
  induction fields with
  | nil => rfl
  | cons other rest ih =>
    have hgt : compareNames member.1 other.1 = .gt :=
      Std.OrientedCmp.gt_of_lt (h other mem_cons_self)
    have hrest := ih fun third hthird => h third (mem_cons_of_mem other hthird)
    simp [insertMember, hgt, hrest]

/-- Members that come in order are kept as they come. -/
theorem objOfMembers_of_pairwise (h : members.Pairwise fun a b => compareNames a.1 b.1 = .lt) :
    objOfMembers members = obj members := by
  have hfold : ∀ (rest fields : List (String × Json)),
      (fields ++ rest).Pairwise (fun a b => compareNames a.1 b.1 = .lt) →
      rest.foldl (fun fields member => insertMember member fields) fields = fields ++ rest := by
    intro rest
    induction rest with
    | nil => simp
    | cons member rest ih =>
      intro fields hpairwise
      have hlt : ∀ other ∈ fields, compareNames other.1 member.1 = .lt := fun other hother =>
        (pairwise_append.1 hpairwise).2.2 other hother member mem_cons_self
      rw [foldl_cons, insertMember_of_forall_lt hlt, ih (fields ++ [member]) (by simpa using hpairwise)]
      simp
  rw [objOfMembers, hfold members [] (by simpa using h), nil_append]

end Json
