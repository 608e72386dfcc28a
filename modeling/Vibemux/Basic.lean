import Vibemux.Lib.Checked

/-!
# Identities and counters

The values every record of the workflow crates is built from: `Uuid`, `Sha256Digest`, and the
counters, which are `u32` and `u64` in the source. A counter is a natural number here, and only
`checked_add` looks at its width.
-/

namespace Vibemux

/-- A 128-bit identifier. -/
structure Uuid where
  /-- The identifier as an integer. -/
  bits : BitVec 128
deriving DecidableEq

instance : Ord Uuid := ⟨fun a b => compare a.bits.toNat b.bits.toNat⟩

/-- `Uuid::from_u128`. -/
def Uuid.fromU128 (n : Nat) : Uuid := ⟨BitVec.ofNat 128 n⟩

/-- `Uuid::nil`. -/
def Uuid.nil : Uuid := ⟨0⟩

/-- `Uuid::is_nil`. -/
def Uuid.isNil (id : Uuid) : Bool := id.bits == 0

/-- The result of SHA-256. -/
structure Sha256Digest where
  /-- The digest as an integer. -/
  bits : BitVec 256
deriving DecidableEq

instance : Ord Sha256Digest := ⟨fun a b => compare a.bits.toNat b.bits.toNat⟩

/-- `u64::MAX`. -/
def u64Max : Nat := 2 ^ 64 - 1

/-- `u32::MAX`. -/
def u32Max : Nat := 2 ^ 32 - 1

/-- `checked_add(1)` of a counter whose largest value is `limit`. -/
def checkedSucc (limit n : Nat) : Option Nat := if n < limit then some (n + 1) else none

@[simp]
theorem checkedSucc_eq_some {limit n m : Nat} :
    checkedSucc limit n = some m ↔ n < limit ∧ n + 1 = m := by
  unfold checkedSucc
  split_ifs with h <;> simp [h]

/-- `u64::saturating_add`. -/
def saturatingAdd (a b : Nat) : Nat := min (a + b) u64Max

/-! ## Texts of identities -/

/-- Membership of a text in a list of texts is decided with this instance everywhere. -/
instance instLawfulBEqListChar : LawfulBEq (List Char) := inferInstance

/-- `count` lowercase hexadecimal digits of `n`, most significant first. -/
def hexDigits : Nat → Nat → List Char
  | 0, _ => []
  | count + 1, n => hexDigits count (n / 16) ++ [Nat.digitChar (n % 16)]

/-- `Uuid::as_hyphenated`. -/
def Uuid.hyphenated (id : Uuid) : List Char :=
  let n := id.bits.toNat
  hexDigits 8 (n / 16 ^ 24) ++ '-' :: hexDigits 4 (n / 16 ^ 20) ++ '-' ::
    hexDigits 4 (n / 16 ^ 16) ++ '-' :: hexDigits 4 (n / 16 ^ 12) ++ '-' :: hexDigits 12 n

/-- `Sha256Digest::to_hex`. -/
def Sha256Digest.toHex (digest : Sha256Digest) : List Char := hexDigits 64 digest.bits.toNat

/-- The decimal text of a counter. -/
def decimal (n : Nat) : List Char := Nat.toDigits 10 n

/-! ## Digests of fields -/

/-- `count` big-endian bytes of `n`; eight of them are `u64::to_be_bytes`. -/
def beBytes : Nat → Nat → List UInt8
  | 0, _ => []
  | count + 1, n => beBytes count (n / 256) ++ [UInt8.ofNat n]

/-- The bytes of a slice, whose length is a `u64`. -/
abbrev ByteSlice := { bytes : List UInt8 // bytes.length < 2 ^ 64 }

/-- What `hash_fields` feeds to the hasher, one update after another. -/
def hashFieldsInput (domain : String) (fields : List ByteSlice) : List UInt8 :=
  domain.toByteArray.data.toList ++ 0 :: fields.flatMap fun field =>
    beBytes 8 field.val.length ++ field.val

/-- `Sha256Digest::of_fields`. -/
def Sha256Digest.ofFields (sha256 : List UInt8 → Sha256Digest) (domain : String)
    (fields : List ByteSlice) : Sha256Digest :=
  sha256 (hashFieldsInput domain fields)

end Vibemux
