import Vibemux.Basic

/-!
# The fields of a digest can be read back

The domain ends at the first NUL byte, and each field is as long as the eight bytes in front of it say.
-/

namespace Vibemux

open List

theorem length_beBytes (count n : Nat) : (beBytes count n).length = count := by
  induction count generalizing n with
  | zero => rfl
  | succ count ih => simp [beBytes, ih]

theorem beBytes_inj {count n m : Nat} (hn : n < 256 ^ count) (hm : m < 256 ^ count)
    (h : beBytes count n = beBytes count m) : n = m := by
  induction count generalizing n m with
  | zero => omega
  | succ count ih =>
    obtain ⟨hfront, hlast⟩ := append_inj' h rfl
    have hquotient : n / 256 = m / 256 := ih (by omega) (by omega) hfront
    have hremainder : n % 256 = m % 256 := by
      simpa using congrArg UInt8.toNat (singleton_inj.1 hlast)
    omega

theorem framed_inj {fields fields' : List ByteSlice}
    (h : (fields.flatMap fun field => beBytes 8 field.val.length ++ field.val) =
      fields'.flatMap fun field => beBytes 8 field.val.length ++ field.val) : fields = fields' := by
  induction fields generalizing fields' with
  | nil =>
    cases fields' with
    | nil => rfl
    | cons field' rest' => simpa [length_beBytes] using congrArg length h.symm
  | cons field rest ih =>
    cases fields' with
    | nil => simpa [length_beBytes] using congrArg length h
    | cons field' rest' =>
      simp only [flatMap_cons, append_assoc] at h
      obtain ⟨hlength, h⟩ := append_inj h (by rw [length_beBytes, length_beBytes])
      obtain ⟨hfield, hrest⟩ := append_inj h (beBytes_inj field.2 field'.2 hlength)
      rw [Subtype.ext hfield, ih hrest]

abbrev DigestDomain := { domain : String // 0 ∉ domain.toByteArray.data.toList }

theorem hashFieldsInput_inj {domain domain' : DigestDomain} {fields fields' : List ByteSlice}
    (h : hashFieldsInput domain fields = hashFieldsInput domain' fields') :
    domain = domain' ∧ fields = fields' := by
  have hlength : domain.val.toByteArray.data.toList.length =
      domain'.val.toByteArray.data.toList.length := by
    simpa [hashFieldsInput, idxOf_append_of_notMem, domain.2, domain'.2] using congrArg (idxOf 0) h
  obtain ⟨hdomain, hfields⟩ := append_inj h hlength
  refine ⟨Subtype.ext (String.toByteArray_inj.1 (ByteArray.ext (Array.toList_inj.1 hdomain))), ?_⟩
  exact framed_inj (cons.inj hfields).2

/-- The bytes that are hashed determine the domain and the fields. So two digests of different inputs are
equal only where the two byte strings that are hashed are a collision of SHA-256. -/
theorem ofFields_framed :
    (Function.Injective fun input : DigestDomain × List ByteSlice => hashFieldsInput input.1 input.2) ∧
    ∀ (sha256 : List UInt8 → Sha256Digest) (input other : DigestDomain × List ByteSlice),
      input ≠ other → Sha256Digest.ofFields sha256 input.1 input.2 = .ofFields sha256 other.1 other.2 →
      hashFieldsInput input.1 input.2 ≠ hashFieldsInput other.1 other.2 ∧
        sha256 (hashFieldsInput input.1 input.2) = sha256 (hashFieldsInput other.1 other.2) := by
  have hinjective : Function.Injective fun input : DigestDomain × List ByteSlice =>
      hashFieldsInput input.1 input.2 := by
    intro input other h
    obtain ⟨hdomain, hfields⟩ := hashFieldsInput_inj h
    exact Prod.ext hdomain hfields
  exact ⟨hinjective, fun sha256 input other hne h => ⟨hinjective.ne hne, h⟩⟩

end Vibemux
