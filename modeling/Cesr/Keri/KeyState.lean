import Cesr.Keri.Authority
import Cesr.Lib.Delta

set_option autoImplicit false

namespace Cesr.Keri

open Checks

variable (crypto : Crypto)

inductive Transferability where
  | transferable
  | nonTransferable
deriving DecidableEq, Repr

structure EstablishmentRef where
  sn : Number
  said : Said
deriving DecidableEq, Repr

structure Signed where
  event : KeriEvent
  body : Bytes
  sigs : List Siger
  wigs : List Siger
deriving DecidableEq

structure KeyState where
  pfx : Identifier
  sn : Number
  latestSaid : Said
  latestMessageType : MessageType
  keys : List VerifyingKey
  threshold : SigningThreshold
  nextKeys : List Digest
  nextThreshold : SigningThreshold
  witnesses : List BasicPrefix
  witnessThreshold : Toad
  config : List ConfigTrait
  delegator : Option Identifier
  transferability : Transferability
  lastEst : EstablishmentRef
deriving DecidableEq

structure AnchoredDelegation where
  delegator : KeyState
  delegatingEvent : KeriEvent
deriving DecidableEq

inductive DelegationEvidence where
  | anchored (anchor : AnchoredDelegation)
  | hostAccepted
deriving DecidableEq

def DelegationEvidence.authorizes (evidence : DelegationEvidence) (delegated : KeriEvent)
    (expectedDelegator : Identifier) : Except DelegationError Unit :=
  match evidence with
  | .hostAccepted => .ok ()
  | .anchored anchor => do
      rejectIf (anchor.delegator.pfx ≠ expectedDelegator ∨ anchor.delegatingEvent.pfx ≠ anchor.delegator.pfx)
        .delegatorMismatch
      rejectIf (ConfigTrait.doNotDelegate ∈ anchor.delegator.config) .denied
      rejectIf (anchor.delegatingEvent.anchorPosition delegated = none) .sealNotFound

namespace KeyState

def isTransferable (state : KeyState) : Bool := state.transferability == .transferable

def isEstablishmentOnly (state : KeyState) : Bool := state.config.any fun c => c == .estOnly

def authority (state : KeyState) : Authority := ⟨state.keys, state.threshold⟩

def commitment (state : KeyState) : Commitment := ⟨state.nextKeys, state.nextThreshold⟩

def rejectEstablishmentOnly (state : KeyState) : Except Rejection Unit :=
  rejectIf state.isEstablishmentOnly (.structural .interactionOnEstablishmentOnly)

def updatedMembers (current cuts additions : List BasicPrefix) : List BasicPrefix :=
  let kept := current.filter fun member => member ∉ cuts
  let added := (additions.zipIdx.filter fun entry =>
    entry.1 ∉ kept ∧ entry.1 ∉ additions.take entry.2).map Prod.fst
  kept ++ added

end KeyState

def checkNextSn (priorSn actual : U128) : Except Rejection Unit :=
  match checkedAdd priorSn 1 with
  | none => .error (.structural .sequenceNumberOverflow)
  | some expected => rejectIf (actual ≠ expected) (.outOfOrder expected actual)

def decideTransferability (icp : InceptionEvent) : Except TransferabilityError Transferability := do
  let transferable := icp.pfx.isTransferable
  let nextEmpty := icp.nextKeys.isEmpty
  rejectIf (¬ transferable ∧ ¬ nextEmpty) .nonTransferableCommitsNextKeys
  pure (if transferable ∧ ¬ nextEmpty then .transferable else .nonTransferable)

def checkNextThreshold (threshold : SigningThreshold) (keyCount : Nat) : Except Rejection Unit :=
  if keyCount ≠ 0 then (threshold.checkWellFormed keyCount).mapError .malformedThreshold else .ok ()

-- The source first converts the count to a u128, which a usize always fits.
def checkWitnessThreshold (witnessCount : Nat) (toad : U32) : Except Rejection Unit := do
  let _ ← (Toad.exact toad witnessCount).mapError fun _ =>
    if toad.val = 0 ∧ witnessCount ≠ 0 then .witnessThresholdZeroWithWitnesses witnessCount
    else .witnessThresholdExceeded toad witnessCount
  pure ()

def KeyState.checkChainsOnto (state : KeyState) (pfx : Identifier) (sn : U128) (priorSaid : Said) :
    Except Rejection Unit := do
  rejectIf (pfx ≠ state.pfx) (.structural .identifierMismatch)
  checkNextSn state.sn.value sn
  rejectIf (priorSaid ≠ state.latestSaid) .priorDigestMismatch

def resolveWitnesses (prior : KeyState) (rot : RotationEvent) : Except WitnessSetError (List BasicPrefix) := do
  let removals := rot.witnessRemovals
  let additions := rot.witnessAdditions
  (MemberSet.checkWitnessDeltas removals additions "witness removals" "witness additions").mapError .membership
  rejectIf (∃ removal ∈ removals, removal ∉ prior.witnesses) .removalNotCurrent
  rejectIf (∃ addition ∈ additions, addition ∈ prior.witnesses) .additionAlreadyPresent
  pure (KeyState.updatedMembers prior.witnesses removals additions)

def DelegationEvidence.Authorizes (evidence : DelegationEvidence) (delegated : KeriEvent) (delegator : Identifier) :
    Prop :=
  match evidence with
  | .hostAccepted => True
  | .anchored anchor =>
      anchor.delegator.pfx = delegator ∧ anchor.delegatingEvent.pfx = delegator ∧
        ConfigTrait.doNotDelegate ∉ anchor.delegator.config ∧ anchor.delegatingEvent.AnchorsSeal delegated

theorem authorizes_ok (evidence : DelegationEvidence) (delegated : KeriEvent) (delegator : Identifier) :
    evidence.authorizes delegated delegator = .ok () ↔ evidence.Authorizes delegated delegator := by
  cases evidence with
  | hostAccepted => simp [DelegationEvidence.authorizes, DelegationEvidence.Authorizes]
  | anchored anchor =>
      have found : ¬ anchor.delegatingEvent.anchorPosition delegated = none ↔
          anchor.delegatingEvent.AnchorsSeal delegated := by
        rw [← Option.ne_none_iff_exists'.trans (KeriEvent.anchor_position_some _ _)]
      simp only [DelegationEvidence.authorizes, DelegationEvidence.Authorizes, bind_ok, exists_done, reject_if_ok, found,
        not_or, not_not]
      grind

structure KeyState.Chains (state : KeyState) (pfx : Identifier) (sn : U128) (priorSaid : Said) : Prop where
  identifier : pfx = state.pfx
  next : sn.val = state.sn.value.val + 1
  prior : priorSaid = state.latestSaid

theorem check_next_sn_ok (priorSn actual : U128) :
    checkNextSn priorSn actual = .ok () ↔ actual.val = priorSn.val + 1 := by
  unfold checkNextSn
  cases stepped : checkedAdd priorSn 1 with
  | none =>
      simp only [reduceCtorEq, false_iff]
      intro next
      have some := (checked_add_some priorSn 1 actual).mpr next
      rw [stepped] at some
      cases some
  | some expected =>
      have sum := (checked_add_some priorSn 1 expected).mp stepped
      simp only [reject_if_ok, not_not, Fin.ext_iff]
      rw [sum]
      rfl

theorem check_chains_onto_ok (state : KeyState) (pfx : Identifier) (sn : U128) (priorSaid : Said) :
    state.checkChainsOnto pfx sn priorSaid = .ok () ↔ state.Chains pfx sn priorSaid := by
  simp only [KeyState.checkChainsOnto, bind_ok, exists_done, reject_if_ok, not_not, check_next_sn_ok]
  apply Iff.intro
  · intro passed
    exact ⟨passed.1, passed.2.1, passed.2.2⟩
  · intro chains
    exact ⟨chains.identifier, chains.next, chains.prior⟩

theorem check_next_threshold_ok (threshold : SigningThreshold) (keyCount : Nat) :
    checkNextThreshold threshold keyCount = .ok () ↔ (keyCount ≠ 0 → threshold.WellFormed keyCount) := by
  unfold checkNextThreshold
  by_cases some : keyCount ≠ 0
  · simp [some, check_well_formed_iff]
  · simp [some]

theorem decide_transferability_ok (icp : InceptionEvent) (transferability : Transferability) :
    decideTransferability icp = .ok transferability ↔
      (icp.nextKeys ≠ [] → icp.pfx.isTransferable = true) ∧
        transferability =
          if icp.pfx.isTransferable ∧ icp.nextKeys ≠ [] then .transferable else .nonTransferable := by
  simp only [decideTransferability, bind_ok, exists_done, reject_if_ok, pure_ok, List.isEmpty_iff]
  grind

theorem check_witness_threshold_ok (witnessCount : Nat) (toad : Toad) :
    checkWitnessThreshold witnessCount toad.value = .ok () ↔ toad.Legal witnessCount :=
  toad_checked_ok _ toad witnessCount

theorem updated_members_eq (current cuts additions : List BasicPrefix) (legal : Delta.Legal current cuts additions) :
    KeyState.updatedMembers current cuts additions = Delta.resolve current cuts additions := by
  have new : ∀ member ∈ additions, member ∉ current.filter fun member => member ∉ cuts :=
    fun member added kept => legal.additionsNew member added (List.mem_of_mem_filter kept)
  have fresh := Delta.filter_fresh (current.filter fun member => member ∉ cuts) additions legal.additionsDistinct new
  simp only [KeyState.updatedMembers, Delta.resolve, fresh]

theorem resolve_witnesses_ok (prior : KeyState) (rot : RotationEvent) (witnesses : List BasicPrefix) :
    resolveWitnesses prior rot = .ok witnesses ↔
      Delta.Legal prior.witnesses rot.witnessRemovals rot.witnessAdditions ∧
        MemberSet.NonTransferable rot.witnessRemovals ∧ MemberSet.NonTransferable rot.witnessAdditions ∧
        witnesses = KeyState.updatedMembers prior.witnesses rot.witnessRemovals rot.witnessAdditions := by
  simp only [resolveWitnesses, bind_ok, exists_done, map_error_ok, MemberSet.check_witness_deltas_ok, reject_if_ok, pure_ok,
    not_exists, not_and, not_not]
  apply Iff.intro
  · intro passed
    obtain ⟨⟨⟨cutsDistinct, additionsDistinct, separate⟩, fixedCuts, fixedAdditions⟩, current, new, same⟩ := passed
    exact ⟨⟨cutsDistinct, additionsDistinct, separate, current, new⟩, fixedCuts, fixedAdditions, same.symm⟩
  · intro met
    obtain ⟨legal, fixedCuts, fixedAdditions, same⟩ := met
    exact ⟨⟨⟨legal.cutsDistinct, legal.additionsDistinct, legal.separate⟩, fixedCuts, fixedAdditions⟩,
      legal.cutsCurrent, legal.additionsNew, same.symm⟩

end Cesr.Keri
