import Cesr.Core.Primitives
import Cesr.Lib.Checks

set_option autoImplicit false

namespace Cesr

open Checks

-- One code family serves two roles, so each role is a type of its own.
structure VerifyingKey where
  matter : Matter VerKeyCode
deriving DecidableEq, Repr

structure Digest where
  matter : Matter DigestCode
deriving DecidableEq, Repr

structure Said where
  matter : Matter DigestCode
deriving DecidableEq, Repr

structure BasicPrefix where
  matter : Matter VerKeyCode
deriving DecidableEq, Repr

inductive Identifier where
  | basic (pfx : BasicPrefix)
  | selfAddressing (said : Said)
deriving DecidableEq, Repr

def Identifier.isTransferable : Identifier → Bool
  | .basic pfx => pfx.matter.code.isTransferable
  | .selfAddressing _ => true

inductive ConfigTrait where
  | estOnly
  | doNotDelegate
  | noBackers
  | registrarBackers
  | noRegistrarBackers
  | delegateIsDelegator
deriving DecidableEq, Repr

inductive MessageType where
  | icp
  | rot
  | ixn
  | dip
  | drt
  | rct
  | vcp
  | vrt
  | iss
  | rev
  | bis
  | brv
  | qry
  | rpy
  | exn
deriving DecidableEq, Repr

def MessageType.isEstablishment : MessageType → Bool
  | .icp | .rot | .dip | .drt => true
  | _ => false

-- The threshold of accountable duplicity. A wire value is not yet checked
-- against any witness set, so the type itself carries no bound.
structure Toad where
  value : U32
deriving DecidableEq, Repr

inductive ToadError where
  | outOfRange (toad : U32) (witnesses : Nat)
  | overflow (witnesses : Nat)
deriving DecidableEq, Repr

def Toad.exact (toad : U32) (witnessCount : Nat) : Except ToadError Toad :=
  let valid :=
    if witnessCount = 0 then decide (toad.val = 0)
    else decide (1 ≤ toad.val) && (usizeTryFrom toad.val).any (fun count => decide (count ≤ witnessCount))
  if valid then .ok ⟨toad⟩ else .error (.outOfRange toad witnessCount)

def Toad.fromWire (toad : U32) : Toad := ⟨toad⟩

-- The domain law: zero exactly for an empty set, else within its size.
def Toad.Legal (toad : Toad) (count : Nat) : Prop :=
  (toad.value.val = 0 ↔ count = 0) ∧ toad.value.val ≤ count

instance (toad : Toad) (count : Nat) : Decidable (toad.Legal count) := inferInstanceAs (Decidable (_ ∧ _))

theorem toad_exact_ok (toad : U32) (witnessCount : Nat) (accepted : Toad) :
    Toad.exact toad witnessCount = .ok accepted ↔
      accepted = ⟨toad⟩ ∧ (Toad.fromWire toad).Legal witnessCount := by
  unfold Toad.exact Toad.fromWire Toad.Legal
  by_cases empty : witnessCount = 0
  · by_cases zero : toad.val = 0 <;> simp [empty, zero, eq_comm]
  · by_cases low : 1 ≤ toad.val
    · by_cases high : toad.val ≤ witnessCount
      · have positive : toad.val ≠ 0 := by omega
        simp [empty, low, high, positive, eq_comm]
      · simp [empty, low, high]
    · have zero : toad.val = 0 := by omega
      simp [empty, zero]

theorem toad_checked_ok {ε : Type} (wrap : ToadError → ε) (toad : Toad) (count : Nat) :
    ((Toad.exact toad.value count).mapError wrap >>= fun _ => pure ()) = .ok () ↔ toad.Legal count := by
  simp only [bind_ok, map_error_ok, toad_exact_ok, pure_ok, and_true]
  apply Iff.intro
  · intro accepted
    obtain ⟨_, _, legal⟩ := accepted
    exact legal
  · intro legal
    exact ⟨_, rfl, legal⟩

end Cesr
