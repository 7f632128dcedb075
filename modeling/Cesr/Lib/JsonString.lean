import Cesr.Lib.WriterJson

set_option autoImplicit false

namespace JsonString

open WriterJson

def hexValue (byte : UInt8) : Option Nat :=
  if 0x30 ≤ byte ∧ byte ≤ 0x39 then some (byte.toNat - 0x30)
  else if 0x61 ≤ byte ∧ byte ≤ 0x66 then some (byte.toNat - 0x61 + 10)
  else if 0x41 ≤ byte ∧ byte ≤ 0x46 then some (byte.toNat - 0x41 + 10)
  else none

-- Hexadecimal digits as a number, in front of which stands another.
def hexFrom : Nat → Text → Option Nat
  | value, [] => some value
  | value, byte :: rest => (hexValue byte).bind fun digit => hexFrom (value * 16 + digit) rest

-- The code unit that four hexadecimal digits spell.
def Unit' (digits : Text) (unit : Nat) : Prop := digits.length = 4 ∧ hexFrom 0 digits = some unit

def HighSurrogate (unit : Nat) : Prop := 0xD800 ≤ unit ∧ unit ≤ 0xDBFF

def LowSurrogate (unit : Nat) : Prop := 0xDC00 ≤ unit ∧ unit ≤ 0xDFFF

instance highDecidable (unit : Nat) : Decidable (HighSurrogate unit) := inferInstanceAs (Decidable (_ ∧ _))

instance lowDecidable (unit : Nat) : Decidable (LowSurrogate unit) := inferInstanceAs (Decidable (_ ∧ _))

def paired (high low : Nat) : Nat := 0x10000 + (high - 0xD800) * 0x400 + (low - 0xDC00)

def spelling (point : Nat) : Text := String.utf8EncodeChar (Char.ofNat point)

def shorts : List (UInt8 × UInt8) :=
  [(quote, quote), (backslash, backslash), (0x2F, 0x2F), (0x62, 0x08), (0x66, 0x0C), (0x6E, 0x0A), (0x72, 0x0D), (0x74, 0x09)]

-- What stands between two quotes, and the text that it is read as.
inductive Denotes : Text → Text → Prop
  | nil : Denotes [] []
  | plain (byte : UInt8) (rest text : Text) (raw : Plain byte) (others : Denotes rest text) : Denotes (byte :: rest) (byte :: text)
  | short (mark byte : UInt8) (rest text : Text) (known : (mark, byte) ∈ shorts) (others : Denotes rest text) :
      Denotes (backslash :: mark :: rest) (byte :: text)
  | unit (digits rest text : Text) (unit : Nat) (spelled : Unit' digits unit) (alone : ¬HighSurrogate unit ∧ ¬LowSurrogate unit)
      (others : Denotes rest text) : Denotes (backslash :: 0x75 :: (digits ++ rest)) (spelling unit ++ text)
  | pair (first second rest text : Text) (high low : Nat) (spelled : Unit' first high) (spelled' : Unit' second low)
      (leads : HighSurrogate high) (follows : LowSurrogate low) (others : Denotes rest text) :
      Denotes (backslash :: 0x75 :: (first ++ backslash :: 0x75 :: (second ++ rest))) (spelling (paired high low) ++ text)

theorem unit_small (digits : Text) (unit : Nat) (spelled : Unit' digits unit) : unit < 0x10000 := by
  have digit : ∀ byte value, hexValue byte = some value → value < 16 := by
    intro byte value found
    unfold hexValue at found
    split at found
    · rename_i inside
      have upper : byte.toNat ≤ 0x39 := inside.2
      cases found
      omega
    · split at found
      · rename_i inside
        have upper : byte.toNat ≤ 0x66 := inside.2
        cases found
        omega
      · split at found
        · rename_i inside
          have upper : byte.toNat ≤ 0x46 := inside.2
          cases found
          omega
        · cases found
  have bound : ∀ (digits : Text) (start unit : Nat), hexFrom start digits = some unit → unit < (start + 1) * 16 ^ digits.length := by
    intro digits
    induction digits with
    | nil =>
        intro start unit found
        cases found
        simp
    | cons byte rest ih =>
        intro start unit found
        obtain ⟨value, here, later⟩ := Option.bind_eq_some_iff.mp found
        have small := digit byte value here
        have less := ih _ unit later
        rw [List.length_cons, Nat.pow_succ, Nat.mul_comm (16 ^ rest.length), ← Nat.mul_assoc]
        exact Nat.lt_of_lt_of_le less (Nat.mul_le_mul_right _ (by omega))
  have less := bound digits 0 unit spelled.2
  rw [spelled.1] at less
  omega

end JsonString
