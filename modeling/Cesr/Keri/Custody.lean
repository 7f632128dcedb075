import Cesr.Core.KeyPair
import Cesr.Lib.Calls

set_option autoImplicit false

namespace Cesr.Keri

open Checks Calls

structure KeySpec where
  count : Nat
  ncount : Nat
  transferable : Bool
deriving DecidableEq, Repr

structure KeyCommitment where
  verkeys : List (Matter VerKeyCode)
  nextDigests : List (Matter DigestCode)
deriving DecidableEq, Repr

-- The build errors keep their cause; the source keeps its text.
inductive CustodyError where
  | alreadyIncepted
  | notIncepted
  | emptyCurrentKeys
  | nonTransferableNextKeys (ncount : Nat)
  | notRotatable
  | rotationCountMismatch (expected actual : Nat)
  | indicesLengthMismatch (expected actual : Nat)
  | indexOverflow
  | salt (error : SaltError)
  | key (error : MatterBuildError)
  | signature (error : SigningError)
  | digest (error : MatterBuildError)
deriving DecidableEq, Repr

inductive PathConvention where
  | keripy
  | signify
  | custom (stem : String)
deriving DecidableEq, Repr

structure SaltyCustodian where
  salt : Array8 16
  tier : Tier
  convention : PathConvention
  pidx : U64
  ridx : U64
  kidx : U64
  count : Nat
  ncount : Nat
  transferable : Bool
  incepted : Bool
deriving DecidableEq

def SaltyCustodian.new (salt : Array8 16) (tier : Tier) (convention : PathConvention) : SaltyCustodian where
  salt := salt
  tier := tier
  convention := convention
  pidx := 0
  ridx := 0
  kidx := 0
  count := 0
  ncount := 0
  transferable := true
  incepted := false

abbrev Custody (α : Type) := Except (Failure CustodyError) α

def lowerHex (value : Nat) : String := String.ofList (Nat.toDigits 16 value)

def derivationPath (self : SaltyCustodian) (ridx kidx : U64) : String :=
  let stem :=
    match self.convention with
    | .keripy => lowerHex self.pidx.val
    | .signify => "signify:aid"
    | .custom stem => stem
  stem ++ lowerHex ridx.val ++ lowerHex kidx.val

def u64TryFrom (value : Nat) : Custody U64 :=
  if fits : value < 2 ^ 64 then .ok ⟨value, fits⟩ else .error (.error .indexOverflow)

def checkedIndexAdd (left right : U64) : Custody U64 :=
  match checkedAdd left right with
  | some sum => .ok sum
  | none => .error (.error .indexOverflow)

def custodyIndex (value : Nat) : Custody U32 :=
  match u32TryFrom value with
  | some index => .ok index
  | none => .error (.error .indexOverflow)

variable (library : KeyLibrary)

def pairAt (self : SaltyCustodian) (ridx kidx : U64) (position : Nat) : Custody KeyPair := do
  let offset ← u64TryFrom position
  let keyIndex ← checkedIndexAdd kidx offset
  (Salt.keyPair library self.salt (derivationPath self ridx keyIndex) self.tier).mapError fun error => .error (.salt error)

def deriveSet (self : SaltyCustodian) (ridx kidx : U64) (count : Nat) (code : VerKeyCode) :
    Custody (List (Matter VerKeyCode)) :=
  (List.range count).mapM fun position => do
    let pair ← pairAt library self ridx kidx position
    (pair.verfer code).mapError (Failure.map .key)

def commitKey (verkey : Matter VerKeyCode) : Custody (Matter DigestCode) :=
  match verkey.toQb64b with
  | some qb64 => (Diger.digest library .blake3_256 qb64).mapError (Failure.map .digest)
  | none => .error .panicked

def commitSet (verkeys : List (Matter VerKeyCode)) : Custody (List (Matter DigestCode)) := verkeys.mapM (commitKey library)

def rungUp (ridx kidx : U64) (count : Nat) : Custody (U64 × U64) := do
  let count64 ← u64TryFrom count
  let upR ← checkedIndexAdd ridx 1
  let upK ← checkedIndexAdd kidx count64
  pure (upR, upK)

def incept (spec : KeySpec) : Mutator SaltyCustodian (Failure CustodyError) KeyCommitment := do
  let self ← get
  check (rejectIf (self.incepted = true) (.error .alreadyIncepted))
  check (rejectIf (spec.count = 0) (.error .emptyCurrentKeys))
  check (rejectIf (spec.transferable = false ∧ spec.ncount ≠ 0) (.error (.nonTransferableNextKeys spec.ncount)))
  let code : VerKeyCode := if spec.transferable then .ed25519 else .ed25519N
  let verkeys ← check (deriveSet library self self.ridx self.kidx spec.count code)
  let upcoming ← check (rungUp self.ridx self.kidx spec.count)
  let next ← check (deriveSet library self upcoming.1 upcoming.2 spec.ncount .ed25519)
  let nextDigests ← check (commitSet library next)
  modify fun self =>
    { self with count := spec.count, ncount := spec.ncount, transferable := spec.transferable, incepted := true }
  pure ⟨verkeys, nextDigests⟩

def rotate (spec : KeySpec) : Mutator SaltyCustodian (Failure CustodyError) KeyCommitment := do
  let self ← get
  check (rejectIf (self.incepted = false) (.error .notIncepted))
  check (rejectIf (self.transferable = false ∨ self.ncount = 0) (.error .notRotatable))
  check (rejectIf (spec.count ≠ self.ncount) (.error (.rotationCountMismatch self.ncount spec.count)))
  let current ← check (rungUp self.ridx self.kidx self.count)
  let verkeys ← check (deriveSet library self current.1 current.2 spec.count .ed25519)
  let upcoming ← check (rungUp current.1 current.2 spec.count)
  let next ← check (deriveSet library self upcoming.1 upcoming.2 spec.ncount .ed25519)
  let nextDigests ← check (commitSet library next)
  modify fun self => { self with ridx := current.1, kidx := current.2, count := spec.count, ncount := spec.ncount }
  pure ⟨verkeys, nextDigests⟩

def checkIndices (self : SaltyCustodian) (indices : Option (List U32)) : Custody Unit :=
  match indices with
  | some idx => rejectIf (idx.length ≠ self.count) (.error (.indicesLengthMismatch self.count idx.length))
  | none => .ok ()

def signerIndex (indices : Option (List U32)) (position : Nat) : Custody U32 :=
  match indices with
  | none => custodyIndex position
  | some idx =>
      match idx[position]? with
      | some index => .ok index
      | none => .error .panicked

def sign (self : SaltyCustodian) (ser : Bytes) (indices : Option (List U32)) : Custody (List Siger) := do
  rejectIf (self.incepted = false) (.error .notIncepted)
  checkIndices self indices
  (List.range self.count).mapM fun position => do
    let pair ← pairAt library self self.ridx self.kidx position
    let index ← signerIndex indices position
    (pair.signIndexed library ser index .both).mapError (Failure.map .signature)

structure SaltyParams where
  convention : PathConvention
  tier : Tier
  pidx : U64
  ridx : U64
  kidx : U64
  count : Nat
  ncount : Nat
  transferable : Bool
  incepted : Bool
deriving DecidableEq, Repr

def SaltyCustodian.params (self : SaltyCustodian) : SaltyParams where
  convention := self.convention
  tier := self.tier
  pidx := self.pidx
  ridx := self.ridx
  kidx := self.kidx
  count := self.count
  ncount := self.ncount
  transferable := self.transferable
  incepted := self.incepted

def SaltyCustodian.resume (salt : Array8 16) (params : SaltyParams) : SaltyCustodian where
  salt := salt
  tier := params.tier
  convention := params.convention
  pidx := params.pidx
  ridx := params.ridx
  kidx := params.kidx
  count := params.count
  ncount := params.ncount
  transferable := params.transferable
  incepted := params.incepted

theorem resume_params (self : SaltyCustodian) : SaltyCustodian.resume self.salt self.params = self := rfl

end Cesr.Keri
