import Cesr.Core.Base64Int
import Cesr.Stream.Encode

set_option autoImplicit false

namespace Cesr.Stream

open Sextets Base64 UnsignedInt

theorem encode_soft_int (count : U32) (ss : Nat) (out : Bytes) (some' : 0 < ss) (fits : count.val < 64 ^ ss) :
    encodeSoftInto count ss out = out ++ encodeInt (BitVec.ofFin count : Word .u32) ss := by
  have value : (BitVec.ofFin count : Word .u32).toNat % 2 ^ 64 = count.val := Nat.mod_eq_of_lt (lt_trans count.isLt (by decide))
  have short : digitCount count.val ≤ ss := by
    rw [digit_count_log]
    by_cases none : count.val = 0
    · rw [if_pos none]
      exact some'
    · rw [if_neg none]
      exact Nat.log_lt_of_lt_pow none fits
  rw [encode_soft_digits, encode_digits, value, max_eq_right short]

-- The integers that are read back from their digits are those of at most 64 bits.
-- The decoder of every type reports what stands first: a value too large for the
-- type, or a character that is none.
theorem base64_integers (ty : UnsignedInt) (value : Word ty) (minLen : Nat) :
    (RoundTrips value minLen ↔ value.toNat < 2 ^ 64) ∧
      (∀ stream : Bytes,
        (UnsignedInt.decodeInt ty stream = .error .integerOverflow ↔ Overflows ty.bits stream) ∧
          (∀ char, UnsignedInt.decodeInt ty stream = .error (.invalidBase64Char char) ↔ Strays ty.bits stream char) ∧
            (¬Overflows ty.bits stream → (∀ char, ¬Strays ty.bits stream char) →
              ∃ denoted : Word ty, UnsignedInt.decodeInt ty stream = .ok denoted ∧ Denotes stream denoted.toNat)) ∧
        ∀ (count : U32) (ss : Nat) (out : Bytes), 0 < ss → count.val < 64 ^ ss →
          encodeSoftInto count ss out = out ++ encodeInt (BitVec.ofFin count : Word .u32) ss := by
  refine ⟨round_trips_iff value minLen, fun stream => ⟨?_, fun char => ?_, ?_⟩, encode_soft_int⟩
  · rw [decode_error, value_overflow]
  · rw [decode_error, value_invalid]
  · exact decode_otherwise stream

def wideValue : Word .u128 := BitVec.ofNat UnsignedInt.u128.bits (2 ^ 64)

theorem wide_integer_lost : ¬RoundTrips wideValue 1 := by
  have zero : encodeInt wideValue 1 = asBytes "A" := by decide
  intro trips
  rw [RoundTrips, zero] at trips
  have denotes := (decode_ok _ _).mp trips.1
  have nothing : Denotes (asBytes "A") 0 := ⟨[0], by decide, rfl⟩
  exact absurd (denotes_once _ _ _ denotes nothing) (by decide)

end Cesr.Stream
