import Mathlib

set_option autoImplicit false

namespace Cesr

abbrev Bytes := List UInt8
abbrev U32 := Fin (2 ^ 32)
abbrev U64 := Fin (2 ^ 64)
abbrev U128 := Fin (2 ^ 128)

instance neZeroU32 : NeZero (2 ^ 32) := ⟨by decide⟩

instance neZeroU64 : NeZero (2 ^ 64) := ⟨by decide⟩

instance neZeroU128 : NeZero (2 ^ 128) := ⟨by decide⟩

-- usize is the 64-bit one, so a u32 or u64 always converts.
def usizeTryFrom (value : Nat) : Option Nat := if value < 2 ^ 64 then some value else none

def u32TryFrom (value : Nat) : Option U32 :=
  if fits : value < 2 ^ 32 then some ⟨value, fits⟩ else none

def checkedAdd {width : Nat} (left right : Fin (2 ^ width)) : Option (Fin (2 ^ width)) :=
  if fits : left.val + right.val < 2 ^ width then some ⟨left.val + right.val, fits⟩ else none

def checkedMul {width : Nat} (left right : Fin (2 ^ width)) : Option (Fin (2 ^ width)) :=
  if fits : left.val * right.val < 2 ^ width then some ⟨left.val * right.val, fits⟩ else none

@[simp] theorem usize_try_from_u32 (value : U32) : usizeTryFrom value.val = some value.val := by
  have bound := value.isLt
  exact if_pos (by omega)

@[simp] theorem usize_try_from_u64 (value : U64) : usizeTryFrom value.val = some value.val :=
  if_pos value.isLt

theorem u32_try_from_some (value : Nat) (word : U32) :
    u32TryFrom value = some word ↔ word.val = value := by
  have bound := word.isLt
  unfold u32TryFrom
  split
  · rename_i fits
    apply Iff.intro
    · intro same
      rw [← Option.some.inj same]
    · intro same
      simp [← same]
  · rename_i large
    apply Iff.intro
    · intro impossible
      cases impossible
    · intro same
      omega

theorem checked_add_some {width : Nat} (left right sum : Fin (2 ^ width)) :
    checkedAdd left right = some sum ↔ sum.val = left.val + right.val := by
  have bound := sum.isLt
  unfold checkedAdd
  split
  · constructor
    · intro same
      rw [← Option.some.inj same]
    · intro same
      simp [← same]
  · constructor
    · intro impossible
      cases impossible
    · intro same
      omega

inductive NumberCode where
  | short
  | long
  | tall
  | big
  | large
  | great
  | vast
deriving DecidableEq, Repr

def NumberCode.forValue (value : U128) : NumberCode :=
  if value.val ≤ 0xFFFF then .short
  else if value.val ≤ 0xFFFFFFFF then .long
  else if value.val ≤ 0xFFFFFFFFFF then .tall
  else if value.val ≤ 0xFFFFFFFFFFFFFFFF then .big
  else .vast

-- Equality of two numbers compares the code as well as the value.
structure Number where
  code : NumberCode
  value : U128
deriving DecidableEq, Repr

def Number.new (value : U128) : Number := ⟨NumberCode.forValue value, value⟩

inductive VerKeyCode where
  | ed25519
  | ed25519N
  | ecdsa256k1
  | ecdsa256k1N
  | ed448
  | ed448N
  | ecdsa256r1
  | ecdsa256r1N
deriving DecidableEq, Repr

def VerKeyCode.isTransferable : VerKeyCode → Bool
  | .ed25519 | .ecdsa256k1 | .ed448 | .ecdsa256r1 => true
  | _ => false

def VerKeyCode.isNonTransferable (code : VerKeyCode) : Bool := !code.isTransferable

inductive DigestCode where
  | blake3_256
  | blake2b_256
  | blake2s_256
  | sha3_256
  | sha2_256
  | blake3_512
  | blake2b_512
  | sha3_512
  | sha2_512
deriving DecidableEq, Repr

inductive VerserCode where
  | tag7
  | tag10
deriving DecidableEq, Repr

inductive IndexedSigCode where
  | ed25519
  | ed25519Crt
  | ecdsa256k1
  | ecdsa256k1Crt
  | ecdsa256r1
  | ecdsa256r1Crt
  | ed448
  | ed448Crt
  | ed25519Big
  | ed25519BigCrt
  | ecdsa256k1Big
  | ecdsa256k1BigCrt
  | ecdsa256r1Big
  | ecdsa256r1BigCrt
  | ed448Big
  | ed448BigCrt
deriving DecidableEq, Repr

def IndexedSigCode.asStr : IndexedSigCode → String
  | .ed25519 => "A"
  | .ed25519Crt => "B"
  | .ecdsa256k1 => "C"
  | .ecdsa256k1Crt => "D"
  | .ecdsa256r1 => "E"
  | .ecdsa256r1Crt => "F"
  | .ed448 => "0A"
  | .ed448Crt => "0B"
  | .ed25519Big => "2A"
  | .ed25519BigCrt => "2B"
  | .ecdsa256k1Big => "2C"
  | .ecdsa256k1BigCrt => "2D"
  | .ecdsa256r1Big => "2E"
  | .ecdsa256r1BigCrt => "2F"
  | .ed448Big => "3A"
  | .ed448BigCrt => "3B"

inductive CodeError where
  | unknownCode (hard : String)
deriving DecidableEq, Repr

def IndexedSigCode.fromHard (hard : String) : Except CodeError IndexedSigCode :=
  match hard with
  | "A" => .ok .ed25519
  | "B" => .ok .ed25519Crt
  | "C" => .ok .ecdsa256k1
  | "D" => .ok .ecdsa256k1Crt
  | "E" => .ok .ecdsa256r1
  | "F" => .ok .ecdsa256r1Crt
  | "0A" => .ok .ed448
  | "0B" => .ok .ed448Crt
  | "2A" => .ok .ed25519Big
  | "2B" => .ok .ed25519BigCrt
  | "2C" => .ok .ecdsa256k1Big
  | "2D" => .ok .ecdsa256k1BigCrt
  | "2E" => .ok .ecdsa256r1Big
  | "2F" => .ok .ecdsa256r1BigCrt
  | "3A" => .ok .ed448Big
  | "3B" => .ok .ed448BigCrt
  | _ => .error (.unknownCode hard)

theorem from_hard_as_str (code : IndexedSigCode) : IndexedSigCode.fromHard code.asStr = .ok code := by
  cases code <;> rfl

theorem as_str_injective (left right : IndexedSigCode) (same : left.asStr = right.asStr) : left = right := by
  have read := congrArg IndexedSigCode.fromHard same
  rw [from_hard_as_str, from_hard_as_str] at read
  exact Except.ok.inj read

-- Borrowed and owned buffers hold the same bytes, so a lifetime and a
-- conversion to an owned primitive leave no trace here.
structure Matter (Code : Type) where
  code : Code
  raw : Bytes
  soft : String
deriving DecidableEq, Repr

structure Siger where
  code : IndexedSigCode
  index : U32
  ondex : Option U32
  raw : Bytes
  verfer : Option (Matter VerKeyCode)
deriving DecidableEq, Repr

end Cesr
