import Mathlib.Data.List.Basic

/-!
# Zero bytes in UTF-8

The byte zero occurs in the encoding of the character U+0000 and of no other.
-/

namespace RustlsFfi.Utf8

theorem zero_eq_ofNat {n : Nat} (byte : n < 256) : (0 : UInt8) = UInt8.ofNat n ↔ n = 0 := by
  rw [← UInt8.toNat_inj, UInt8.toNat_ofNat_of_lt' byte]
  exact eq_comm

theorem eq_null_iff (c : Char) : c = '\x00' ↔ c.val.toNat = 0 := by
  constructor
  · rintro rfl
    rfl
  · exact fun zero => Char.ext (UInt32.toNat_inj.mp zero)

theorem zero_mem_encodeChar (c : Char) : 0 ∈ String.utf8EncodeChar c ↔ c = '\x00' := by
  rw [eq_null_iff, String.utf8EncodeChar]
  generalize c.val.toNat = v
  -- A single byte is the code point itself; the bytes of a longer encoding all have their top bit set.
  split_ifs <;> simp (disch := omega) only [List.mem_cons, List.not_mem_nil, or_false, zero_eq_ofNat] <;> omega

theorem zero_mem_encode (l : List Char) : 0 ∈ l.flatMap String.utf8EncodeChar ↔ '\x00' ∈ l := by
  simp [List.mem_flatMap, zero_mem_encodeChar]

end RustlsFfi.Utf8
