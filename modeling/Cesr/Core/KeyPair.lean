import Cesr.Core.Indexer
import Cesr.Core.Verify

set_option autoImplicit false

namespace Cesr

open Checks

abbrev Array8 (length : Nat) := { bytes : Bytes // bytes.length = length }

-- The key stretching, the signature scheme and the hash functions are outside
-- the repository.
structure KeyLibrary where
  argon2id : Array8 16 → Bytes → Nat → Nat → Option (Array8 32)
  verifyingKey : Array8 32 → Array8 32
  signBytes : Array8 32 → Bytes → Array8 64
  hash : DigestCode → Bytes → Bytes

inductive Tier where
  | low
  | medium
  | high
deriving DecidableEq, Repr

def Tier.costs : Tier → Nat × Nat
  | .low => (2, 65536)
  | .medium => (3, 262144)
  | .high => (4, 1048576)

inductive SaltError where
  | stretch
deriving DecidableEq, Repr

inductive SigningError where
  | index (error : IndexerValidationError)
  | key (error : MatterBuildError)
deriving DecidableEq, Repr

def Failure.map {ε ε' : Type} (wrap : ε → ε') : Failure ε → Failure ε'
  | .error given => .error (wrap given)
  | .panicked => .panicked

structure KeyPair where
  secret : Array8 32
  publicKey : Array8 32
deriving DecidableEq

variable (library : KeyLibrary)

def Salt.stretch (salt : Array8 16) (path : String) (tier : Tier) : Except SaltError (Array8 32) :=
  match library.argon2id salt (asBytes path) tier.costs.1 tier.costs.2 with
  | some seed => .ok seed
  | none => .error .stretch

def KeyPair.fromSeedBytes (seed : Array8 32) : KeyPair := ⟨seed, library.verifyingKey seed⟩

def Salt.keyPair (salt : Array8 16) (path : String) (tier : Tier) : Except SaltError KeyPair := do
  let seed ← Salt.stretch library salt path tier
  pure (KeyPair.fromSeedBytes library seed)

def KeyPair.verfer (pair : KeyPair) (code : VerKeyCode) : Except (Failure MatterBuildError) (Matter VerKeyCode) :=
  buildRaw code pair.publicKey.val

def KeyPair.signIndexed (pair : KeyPair) (data : Bytes) (index : U32) (mode : IndexMode) :
    Except (Failure SigningError) Siger := do
  let smallCode : IndexedSigCode :=
    match mode with
    | .both => .ed25519
    | .currentOnly => .ed25519Crt
  let state ← (withIndex (smallCode.forIndex index) index).mapError fun error => .error (.index error)
  let indexer ← (state.withRaw (library.signBytes pair.secret data).val).mapError fun error => .error (.index error)
  let verfer ← (pair.verfer .ed25519).mapError (Failure.map .key)
  pure ⟨indexer.code, indexer.index, indexer.ondex, indexer.raw, some verfer⟩

def Diger.digest (code : DigestCode) (data : Bytes) : Except (Failure MatterBuildError) (Matter DigestCode) :=
  buildRaw code (library.hash code data)

-- What the signature scheme promises: a signature verifies under the key of its seed.
def SignsFor (crypto : Crypto) : Prop :=
  ∀ seed data, crypto.verifyBytes .ed25519 (library.verifyingKey seed).val data (library.signBytes seed data).val = .ok ()

theorem verfer_ed25519 (pair : KeyPair) (code : VerKeyCode) (simple : code = .ed25519 ∨ code = .ed25519N) :
    pair.verfer code = .ok ⟨code, pair.publicKey.val, ""⟩ := by
  have length := pair.publicKey.property
  have filled : pair.publicKey.val ≠ [] := by
    intro empty
    rw [empty] at length
    cases length
  have whole : pair.publicKey.val.take 32 = pair.publicKey.val := List.take_of_length_le (by omega)
  have sized : (CesrCode.toMatterCode code).getSizage.fs = .fixed 44 ∧ (CesrCode.toMatterCode code).getSizage.ss = 0 ∧
      (CesrCode.toMatterCode code).rawSize = .ok 32 := by
    rcases simple with same | same
    · rw [same]
      exact ⟨rfl, rfl, rfl⟩
    · rw [same]
      exact ⟨rfl, rfl, rfl⟩
  obtain ⟨fixed, plain, raw⟩ := sized
  simp only [KeyPair.verfer, buildRaw, withRaw, fixed, plain, raw, bind_ok, parsed, validated, map_error_ok, reject_if_ok,
    exists_done, pure_ok, validateAndTrimRaw, Except.ok.injEq]
  exact ⟨_, ⟨fun both => filled both.1, rfl⟩, by omega, 32, rfl, _, ⟨by omega, whole⟩, rfl⟩

theorem for_index_fits (index : U32) :
    index.val ≤ (IndexedSigCode.ed25519.forIndex index).maxIndex ↔ index.val ≤ 4095 := by
  have small : IndexedSigCode.ed25519.maxIndex = 63 := rfl
  have big : IndexedSigCode.ed25519Big.maxIndex = 4095 := rfl
  unfold IndexedSigCode.forIndex
  simp only [IndexedSigCode.isBig, Bool.false_eq_true, false_or]
  split <;> omega

theorem for_index_both (index : U32) : (IndexedSigCode.ed25519.forIndex index).mode = .both ∧
    (IndexedSigCode.ed25519.forIndex index).rawSize = 64 ∧
    Algorithm.ed25519.ownsIndexed (IndexedSigCode.ed25519.forIndex index) = true := by
  unfold IndexedSigCode.forIndex
  split
  · exact ⟨rfl, rfl, rfl⟩
  · exact ⟨rfl, rfl, rfl⟩

theorem sign_indexed_ok (pair : KeyPair) (data : Bytes) (index : U32) (siger : Siger) :
    pair.signIndexed library data index .both = .ok siger ↔
      index.val ≤ 4095 ∧ siger = ⟨IndexedSigCode.ed25519.forIndex index, index, some index,
        (library.signBytes pair.secret data).val, some ⟨.ed25519, pair.publicKey.val, ""⟩⟩ := by
  obtain ⟨mode, size, _⟩ := for_index_both index
  have length := (library.signBytes pair.secret data).property
  have fits := for_index_fits index
  simp only [KeyPair.signIndexed, withIndex, IWithIndex.withRaw, verfer_ed25519 pair .ed25519 (.inl rfl), bind_ok, map_error_ok,
    reject_if_ok, exists_done, mode, pure_ok, Except.ok.injEq, exists_eq_left', Nat.not_lt, fits, and_assoc, exists_and_left]
  apply and_congr_right
  intro _
  apply Iff.intro
  · intro found
    obtain ⟨_, made⟩ := found
    exact made.symm
  · intro made
    exact ⟨by rw [size, length]; exact fun different => different rfl, made.symm⟩

theorem signed_verifies (crypto : Crypto) (signs : SignsFor library crypto) (seed : Array8 32) (code : VerKeyCode)
    (simple : code = .ed25519 ∨ code = .ed25519N) (data : Bytes) (index : U32) (siger : Siger)
    (signed : (KeyPair.fromSeedBytes library seed).signIndexed library data index .both = .ok siger) :
    siger.index = index ∧ Verifies crypto ⟨code, (library.verifyingKey seed).val, ""⟩ data siger := by
  obtain ⟨_, made⟩ := (sign_indexed_ok library _ data index siger).mp signed
  have owns := (for_index_both index).2.2
  have valid := signs seed data
  rw [made]
  refine ⟨rfl, ?_⟩
  rcases simple with same | same
  · simp [Verifies, verify, verifyAs, same, owns, KeyPair.fromSeedBytes, valid, Except.mapError, Except.isOk, Except.toBool]
  · simp [Verifies, verify, verifyAs, same, owns, KeyPair.fromSeedBytes, valid, Except.mapError, Except.isOk, Except.toBool]

end Cesr
