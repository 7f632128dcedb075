import Cesr.Codec.Field
import Cesr.Codec.Utf8
import Cesr.Lib.Digits

set_option autoImplicit false

namespace Cesr.Codec

open Checks WriterJson

-- The texts of the standard library for unsigned numbers, in lowercase.
def toStrRadix (radix value : Nat) : String := String.ofList (Nat.toDigits radix value)

def digitByte (digit : Nat) : UInt8 := UInt8.ofNat (Nat.digitChar digit).toNat

section Radix

variable {radix : Nat}

theorem digit_byte_read : ∀ digit < 16, Char.ofUInt8 (digitByte digit) = Nat.digitChar digit ∧ (digitByte digit).toNat < 128 ∧
    Plain (digitByte digit) ∧ OpaqueScan.toDigit (digitByte digit) = some digit ∧ digitByte digit ≠ 0x2B ∧ digitByte digit ≠ 0x2F := by
  decide

theorem decimal_byte : ∀ digit < 10, isDigit (digitByte digit) = true ∧ (digitByte digit = 0x30 → digit = 0) := by
  decide

theorem radix_bytes (large : 1 < radix) (small : radix ≤ 16) (value : Nat) :
    ∃ digits : List Nat, asBytes (toStrRadix radix value) = digits.map digitByte ∧ (∀ digit ∈ digits, digit < radix) ∧
      digits.foldl (fun value digit => value * radix + digit) 0 = value ∧
      ∃ first rest, digits = first :: rest ∧ (first = 0 → rest = []) := by
  obtain ⟨digits, spelled, below, whole, shape⟩ := Digits.digits_spell large value
  have known : ∀ digit ∈ digits, digit < 16 := fun digit inside => Nat.lt_of_lt_of_le (below digit inside) small
  have text : toStrRadix radix value = asciiText (digits.map digitByte) := by
    rw [toStrRadix, asciiText, spelled, List.map_map]
    congr 1
    exact List.map_congr_left fun digit inside => (digit_byte_read digit (known digit inside)).1.symm
  refine ⟨digits, ?_, below, whole, shape⟩
  rw [text, as_bytes_ascii_text]
  intro char inside
  obtain ⟨digit, listed, rfl⟩ := List.mem_map.mp inside
  exact (digit_byte_read digit (known digit listed)).2.1

theorem radix_plain (large : 1 < radix) (small : radix ≤ 16) (value : Nat) :
    ∀ byte ∈ asBytes (toStrRadix radix value), Plain byte ∧ byte ≠ 0x2F := by
  obtain ⟨digits, spelled, below, _⟩ := radix_bytes large small value
  rw [spelled]
  intro byte inside
  obtain ⟨digit, listed, rfl⟩ := List.mem_map.mp inside
  obtain ⟨_, _, plain, _, _, slash⟩ := digit_byte_read digit (Nat.lt_of_lt_of_le (below digit listed) small)
  exact ⟨plain, slash⟩

theorem radix_read (large : 1 < radix) (small : radix ≤ 16) (width value : Nat) (fits : value < 2 ^ width) :
    fromStrRadix width radix (asBytes (toStrRadix radix value)) = some ⟨value, fits⟩ := by
  obtain ⟨digits, spelled, below, whole, first, rest, split, _⟩ := radix_bytes large small value
  have known : ∀ digit ∈ digits, digit < 16 := fun digit inside => Nat.lt_of_lt_of_le (below digit inside) small
  have unsigned : (asBytes (toStrRadix radix value)).head? ≠ some 0x2B := by
    rw [spelled, split, List.map_cons, List.head?_cons]
    intro same
    exact (digit_byte_read first (known first (by rw [split]; exact List.mem_cons_self))).2.2.2.2.1 (Option.some.inj same)
  have present : asBytes (toStrRadix radix value) ≠ [] := by
    rw [spelled, split]
    exact List.cons_ne_nil _ _
  have read : (asBytes (toStrRadix radix value)).mapM (fun byte => (OpaqueScan.toDigit byte).filter fun digit => digit < radix) = some digits := by
    rw [spelled, List.mapM_map]
    clear spelled split whole unsigned present
    induction digits with
    | nil => rfl
    | cons digit others ih =>
        obtain ⟨here, later⟩ := List.forall_mem_cons.mp below
        have digit' := (digit_byte_read digit (Nat.lt_of_lt_of_le here small)).2.2.2.1
        rw [List.mapM_cons, Function.comp_apply, digit', Option.filter_some, if_pos (by simpa using here),
          ih later fun digit inside => Nat.lt_of_lt_of_le (later digit inside) small]
        rfl
  simp only [fromStrRadix, if_neg unsigned, if_neg present, read, whole]
  exact dif_pos fits

theorem decimal_whole (value : Nat) : Whole (asBytes (toStrRadix 10 value)) := by
  obtain ⟨digits, spelled, below, _, first, rest, split, leading⟩ := @radix_bytes 10 (by decide) (by decide) value
  have digit : ∀ digit ∈ digits, isDigit (digitByte digit) = true := fun digit inside => (decimal_byte digit (below digit inside)).1
  rw [spelled, split, List.map_cons]
  rw [split] at digit below
  obtain ⟨here, later⟩ := List.forall_mem_cons.mp digit
  by_cases zero : first = 0
  · rw [leading zero, zero]
    exact .inl rfl
  · refine .inr ⟨_, _, rfl, here, ?_, ?_⟩
    · exact fun same => zero ((decimal_byte first (below first List.mem_cons_self)).2 same)
    · intro byte inside
      obtain ⟨other, listed, rfl⟩ := List.mem_map.mp inside
      exact later other listed

end Radix

end Cesr.Codec
