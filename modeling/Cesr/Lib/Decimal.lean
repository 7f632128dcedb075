import Mathlib.Data.List.Basic
import Mathlib.Data.UInt

set_option autoImplicit false

namespace Decimal

def isDigit (byte : UInt8) : Bool := decide (48 ≤ byte.toNat) && decide (byte.toNat ≤ 57)

def digitValue (byte : UInt8) : Nat := byte.toNat - 48

def digitByte (value : Nat) : UInt8 := UInt8.ofNat (48 + value)

def field (width value : Nat) : List UInt8 :=
  match width with
  | 0 => []
  | width + 1 => field width (value / 10) ++ [digitByte (value % 10)]

def read (bytes : List UInt8) : Nat := bytes.foldl (fun sum byte => sum * 10 + digitValue byte) 0

theorem digit_byte (value : Nat) (small : value < 10) : isDigit (digitByte value) = true ∧ digitValue (digitByte value) = value := by
  have kept : (digitByte value).toNat = 48 + value := by
    rw [digitByte, UInt8.toNat_ofNat', Nat.mod_eq_of_lt (by omega)]
  simp only [isDigit, digitValue, kept, Bool.and_eq_true, decide_eq_true_eq]
  omega

theorem byte_digit (byte : UInt8) (digit : isDigit byte = true) : digitValue byte < 10 ∧ digitByte (digitValue byte) = byte := by
  simp only [isDigit, Bool.and_eq_true, decide_eq_true_eq] at digit
  refine ⟨by unfold digitValue; omega, ?_⟩
  have value : 48 + digitValue byte = byte.toNat := by
    unfold digitValue
    omega
  rw [digitByte, value, UInt8.ofNat_toNat]

theorem length_field (width value : Nat) : (field width value).length = width := by
  induction width generalizing value with
  | zero => rfl
  | succ width ih => rw [field, List.length_append, ih, List.length_singleton]

theorem read_append (front : List UInt8) (byte : UInt8) : read (front ++ [byte]) = read front * 10 + digitValue byte := by
  rw [read, List.foldl_append]
  rfl

theorem read_field (width value : Nat) (small : value < 10 ^ width) :
    (field width value).all isDigit = true ∧ read (field width value) = value := by
  induction width generalizing value with
  | zero => exact ⟨rfl, by rw [Nat.pow_zero] at small; exact (Nat.lt_one_iff.mp small).symm⟩
  | succ width ih =>
      obtain ⟨digits, front⟩ := ih (value / 10) (by rw [Nat.pow_succ] at small; omega)
      obtain ⟨digit, last⟩ := digit_byte (value % 10) (Nat.mod_lt _ (by decide))
      apply And.intro
      · rw [field, List.all_append, digits, Bool.true_and, List.all_cons, digit]
        rfl
      · rw [field, read_append, front, last]
        omega

theorem field_read (bytes : List UInt8) (digits : bytes.all isDigit = true) :
    read bytes < 10 ^ bytes.length ∧ field bytes.length (read bytes) = bytes := by
  induction bytes using List.reverseRecOn with
  | nil => exact ⟨Nat.one_pos, rfl⟩
  | append_singleton front byte ih =>
      rw [List.all_append, Bool.and_eq_true, List.all_cons, List.all_nil, Bool.and_true] at digits
      obtain ⟨small, same⟩ := ih digits.1
      obtain ⟨digit, kept⟩ := byte_digit byte digits.2
      rw [read_append, List.length_append, List.length_singleton, Nat.pow_succ]
      apply And.intro
      · omega
      · have high : (read front * 10 + digitValue byte) / 10 = read front := by omega
        have low : (read front * 10 + digitValue byte) % 10 = digitValue byte := by omega
        rw [field, high, low, same, kept]

theorem prefix_append_iff {α : Type} (front back whole : List α) (start : Nat) :
    front ++ back <+: whole.drop start ↔ front <+: whole.drop start ∧ back <+: whole.drop (start + front.length) := by
  rw [← List.drop_drop]
  apply Iff.intro
  · intro both
    obtain ⟨rest, same⟩ := both
    rw [← same, List.append_assoc, List.drop_left]
    exact ⟨List.prefix_append _ _, List.prefix_append _ _⟩
  · intro each
    obtain ⟨⟨rest, same⟩, second⟩ := each
    rw [← same, List.drop_left] at second
    rw [← same]
    exact (List.prefix_append_right_inj front).mpr second

end Decimal
