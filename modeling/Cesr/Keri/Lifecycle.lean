import Cesr.Keri.KeyState
import Cesr.Lib.Calls

set_option autoImplicit false

namespace Cesr.Keri

open Checks Calls

variable (crypto : Crypto)

namespace KeyState

def validateInception (icp : InceptionEvent) (signed : Signed) : Except Rejection Transferability := do
  let sn := icp.sn.value
  rejectIf (sn ≠ 0) (.structural (.nonZeroGenesisSn sn))
  icp.checkIdentity.mapError .inceptionIdentity
  (MemberSet.checkWitnesses icp.witnesses "witnesses").mapError fun error => .witnessSet (.membership error)
  (Establishment.authority icp).wellFormed.mapError .malformedThreshold
  let _ ← (Establishment.authority icp).verify crypto signed.body signed.sigs
  checkNextThreshold icp.nextThreshold icp.nextKeys.length
  let transferability ← (decideTransferability icp).mapError .transferability
  checkWitnessThreshold icp.witnesses.length icp.witnessThreshold.value
  (Witnessing.mk icp.witnesses icp.witnessThreshold).receiptedBy crypto signed.body signed.wigs
  pure transferability

def seed (icp : InceptionEvent) (transferability : Transferability) : KeyState where
  pfx := icp.pfx
  sn := Number.new 0
  latestSaid := icp.said
  latestMessageType := .icp
  keys := icp.keys
  threshold := icp.threshold
  nextKeys := icp.nextKeys
  nextThreshold := icp.nextThreshold
  witnesses := icp.witnesses
  witnessThreshold := icp.witnessThreshold
  config := icp.config
  delegator := none
  transferability := transferability
  lastEst := ⟨Number.new 0, icp.said⟩

def incept (signed : Signed) : Except Rejection KeyState :=
  match signed.event with
  | .inception icp => do
      let transferability ← validateInception crypto icp signed
      pure (seed icp transferability)
  | .delegatedInception _ => .error (.delegation .evidenceRequired)
  | _ => .error (.structural .notInception)

def inceptDelegated (signed : Signed) (evidence : DelegationEvidence) : Except Rejection KeyState :=
  match signed.event with
  | .delegatedInception dip =>
      match dip.inception.pfx with
      | .selfAddressing _ => do
          let transferability ← validateInception crypto dip.inception signed
          (evidence.authorizes signed.event dip.delegator).mapError .delegation
          pure { seed dip.inception transferability with latestMessageType := .dip, delegator := some dip.delegator }
      | .basic _ => .error (.structural .delegatedPrefixNotDigestive)
  | _ => .error (.structural .notDelegatedInception)

-- Receipts are judged against the set as it stands after the cuts and additions.
def validateRotation (state : KeyState) (rot : RotationEvent) (signed : Signed) :
    Except Rejection (List BasicPrefix) := do
  state.checkChainsOnto rot.pfx rot.sn.value rot.priorEventSaid
  (Establishment.authority rot).wellFormed.mapError .malformedThreshold
  checkNextThreshold rot.nextThreshold rot.nextKeys.length
  state.commitment.verifyOpening crypto (Establishment.authority rot) signed.body signed.sigs
  let witnesses ← (resolveWitnesses state rot).mapError .witnessSet
  checkWitnessThreshold witnesses.length rot.witnessThreshold.value
  (Witnessing.mk witnesses rot.witnessThreshold).receiptedBy crypto signed.body signed.wigs
  pure witnesses

def applyRotation (state : KeyState) (rot : RotationEvent) (witnesses : List BasicPrefix)
    (messageType : MessageType) : KeyState :=
  { state with
    sn := Number.new rot.sn.value
    latestSaid := rot.said
    latestMessageType := messageType
    keys := rot.keys
    threshold := rot.threshold
    nextKeys := rot.nextKeys
    nextThreshold := rot.nextThreshold
    witnesses := witnesses
    witnessThreshold := rot.witnessThreshold
    lastEst := ⟨Number.new rot.sn.value, rot.said⟩
    transferability := if rot.nextKeys.isEmpty then .nonTransferable else state.transferability }

def applyInteraction (state : KeyState) (ixn : InteractionEvent) : KeyState :=
  { state with sn := Number.new ixn.sn.value, latestSaid := ixn.said, latestMessageType := .ixn }

def rotateMut (rot : RotationEvent) (signed : Signed) : Mutator KeyState Rejection Unit := do
  let state ← get
  let witnesses ← check (state.validateRotation crypto rot signed)
  modify fun state => state.applyRotation rot witnesses .rot

def interactMut (ixn : InteractionEvent) (signed : Signed) : Mutator KeyState Rejection Unit := do
  let state ← get
  check state.rejectEstablishmentOnly
  check (state.checkChainsOnto ixn.pfx ixn.sn.value ixn.priorEventSaid)
  let _ ← check (state.authority.verify crypto signed.body signed.sigs)
  check ((Witnessing.mk state.witnesses state.witnessThreshold).receiptedBy crypto signed.body signed.wigs)
  modify fun state => state.applyInteraction ixn

def ingestMut (signed : Signed) : Mutator KeyState Rejection Unit := do
  let state ← get
  check (rejectIf (¬ state.isTransferable) .nonTransferableState)
  match signed.event with
  | .delegatedRotation _ =>
      if state.delegator = none then throw (.delegation .delegatorUnknown)
      else throw (.delegation .evidenceRequired)
  | .delegatedInception _ => throw (.delegation .evidenceRequired)
  | .inception _ => throw (.structural .duplicateInception)
  | .rotation rot =>
      if state.delegator ≠ none then throw (.delegation .plainRotationOnDelegatedState)
      else rotateMut crypto rot signed
  | .interaction ixn => interactMut crypto ixn signed

def ingestDelegatedMut (signed : Signed) (evidence : DelegationEvidence) : Mutator KeyState Rejection Unit := do
  let state ← get
  check (rejectIf (¬ state.isTransferable) .nonTransferableState)
  match signed.event with
  | .delegatedRotation drt =>
      match drt.rotation.pfx with
      | .selfAddressing _ =>
          match state.delegator with
          | none => throw (.delegation .delegatorUnknown)
          | some delegator => do
              let witnesses ← check (state.validateRotation crypto drt.rotation signed)
              check ((evidence.authorizes signed.event delegator).mapError .delegation)
              modify fun state => state.applyRotation drt.rotation witnesses .drt
      | .basic _ => throw (.structural .delegatedPrefixNotDigestive)
  | _ => throw (.structural .notDelegatedRotation)

-- The consuming entries hand the state back only when the event is accepted.
def ingest (state : KeyState) (signed : Signed) : Except Rejection KeyState :=
  consume (ingestMut crypto signed) state

def ingestDelegated (state : KeyState) (signed : Signed) (evidence : DelegationEvidence) :
    Except Rejection KeyState :=
  consume (ingestDelegatedMut crypto signed evidence) state

end KeyState

structure InceptionRules (icp : InceptionEvent) (signed : Signed) : Prop where
  first : icp.sn.value = 0
  identity : icp.checkIdentity = .ok ()
  distinct : icp.witnesses.Nodup
  fixed : MemberSet.NonTransferable icp.witnesses
  threshold : icp.threshold.WellFormed icp.keys.length
  signatures : icp.threshold.Holds (signers crypto icp.keys signed.body signed.sigs)
  nextThreshold : icp.nextKeys.length ≠ 0 → icp.nextThreshold.WellFormed icp.nextKeys.length
  commits : icp.nextKeys ≠ [] → icp.pfx.isTransferable = true
  toad : icp.witnessThreshold.Legal icp.witnesses.length
  receipts : icp.witnessThreshold.value.val ≤ (signers crypto icp.witnesses signed.body signed.wigs).card

def inceptionTransferability (icp : InceptionEvent) : Transferability :=
  if icp.pfx.isTransferable ∧ icp.nextKeys ≠ [] then .transferable else .nonTransferable

theorem validate_inception_ok (icp : InceptionEvent) (signed : Signed) (transferability : Transferability) :
    KeyState.validateInception crypto icp signed = .ok transferability ↔
      InceptionRules crypto icp signed ∧ transferability = inceptionTransferability icp := by
  simp only [KeyState.validateInception, bind_ok, exists_done, reject_if_ok, not_not, map_error_ok,
    MemberSet.check_witnesses_ok, Authority.wellFormed, Establishment.authority, check_well_formed_iff,
    authority_verify_ok, check_next_threshold_ok, decide_transferability_ok, check_witness_threshold_ok,
    receipted_by_ok, pure_ok]
  apply Iff.intro
  · intro passed
    obtain ⟨first, identity, ⟨distinct, fixed⟩, threshold, _, ⟨signatures, -⟩, nextThreshold, _,
      ⟨commits, decided⟩, toad, receipts, same⟩ := passed
    exact ⟨⟨first, identity, distinct, fixed, threshold, signatures, nextThreshold, commits, toad, receipts⟩,
      same.symm.trans decided⟩
  · intro met
    obtain ⟨rules, same⟩ := met
    exact ⟨rules.first, rules.identity, ⟨rules.distinct, rules.fixed⟩, rules.threshold, _, ⟨rules.signatures, rfl⟩,
      rules.nextThreshold, _, ⟨rules.commits, rfl⟩, rules.toad, rules.receipts, same.symm⟩

def KeyState.resolvedWitnesses (state : KeyState) (rot : RotationEvent) : List BasicPrefix :=
  Delta.resolve state.witnesses rot.witnessRemovals rot.witnessAdditions

structure RotationRules (state : KeyState) (rot : RotationEvent) (signed : Signed) : Prop where
  chains : state.Chains rot.pfx rot.sn.value rot.priorEventSaid
  threshold : rot.threshold.WellFormed rot.keys.length
  nextThreshold : rot.nextKeys.length ≠ 0 → rot.nextThreshold.WellFormed rot.nextKeys.length
  signatures : rot.threshold.Holds (signers crypto rot.keys signed.body signed.sigs)
  opening : state.nextThreshold.Holds
    (exposures crypto state.commitment (Establishment.authority rot) signed.body signed.sigs)
  deltas : Delta.Legal state.witnesses rot.witnessRemovals rot.witnessAdditions
  fixedRemovals : MemberSet.NonTransferable rot.witnessRemovals
  fixedAdditions : MemberSet.NonTransferable rot.witnessAdditions
  toad : rot.witnessThreshold.Legal (state.resolvedWitnesses rot).length
  receipts : rot.witnessThreshold.value.val ≤
    (signers crypto (state.resolvedWitnesses rot) signed.body signed.wigs).card

theorem validate_rotation_ok (state : KeyState) (rot : RotationEvent) (signed : Signed)
    (witnesses : List BasicPrefix) :
    state.validateRotation crypto rot signed = .ok witnesses ↔
      RotationRules crypto state rot signed ∧ witnesses = state.resolvedWitnesses rot := by
  simp only [KeyState.validateRotation, bind_ok, exists_done, map_error_ok, check_chains_onto_ok,
    Authority.wellFormed, Establishment.authority, check_well_formed_iff, check_next_threshold_ok, verify_opening_ok,
    resolve_witnesses_ok, check_witness_threshold_ok, receipted_by_ok, pure_ok]
  apply Iff.intro
  · intro passed
    obtain ⟨chains, threshold, nextThreshold, ⟨signatures, opening⟩, _, ⟨deltas, fixedRemovals, fixedAdditions, rfl⟩,
      toad, receipts, rfl⟩ := passed
    have resolved := updated_members_eq _ _ _ deltas
    rw [resolved] at toad receipts ⊢
    exact ⟨⟨chains, threshold, nextThreshold, signatures, opening, deltas, fixedRemovals, fixedAdditions, toad,
      receipts⟩, rfl⟩
  · intro met
    obtain ⟨rules, rfl⟩ := met
    exact ⟨rules.chains, rules.threshold, rules.nextThreshold, ⟨rules.signatures, rules.opening⟩, _,
      ⟨rules.deltas, rules.fixedRemovals, rules.fixedAdditions, (updated_members_eq _ _ _ rules.deltas).symm⟩,
      rules.toad, rules.receipts, rfl⟩

structure InteractionRules (state : KeyState) (ixn : InteractionEvent) (signed : Signed) : Prop where
  interactive : state.isEstablishmentOnly = false
  chains : state.Chains ixn.pfx ixn.sn.value ixn.priorEventSaid
  signatures : state.threshold.Holds (signers crypto state.keys signed.body signed.sigs)
  receipts : state.witnessThreshold.value.val ≤ (signers crypto state.witnesses signed.body signed.wigs).card

theorem interact_mut_ok (ixn : InteractionEvent) (signed : Signed) (state next : KeyState) :
    consume (KeyState.interactMut crypto ixn signed) state = .ok next ↔
      InteractionRules crypto state ixn signed ∧ next = state.applyInteraction ixn := by
  simp only [KeyState.interactMut, consume_get_bind, consume_check_bind, exists_done, consume_modify,
    KeyState.rejectEstablishmentOnly, reject_if_ok, Bool.not_eq_true, check_chains_onto_ok, authority_verify_ok,
    KeyState.authority, receipted_by_ok]
  apply Iff.intro
  · intro passed
    obtain ⟨allowed, chains, _, ⟨signatures, -⟩, receipts, same⟩ := passed
    exact ⟨⟨allowed, chains, signatures, receipts⟩, same.symm⟩
  · intro met
    obtain ⟨rules, same⟩ := met
    exact ⟨rules.interactive, rules.chains, _, ⟨rules.signatures, rfl⟩, rules.receipts, same.symm⟩

end Cesr.Keri
