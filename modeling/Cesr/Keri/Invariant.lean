import Cesr.Keri.Run

set_option autoImplicit false

namespace Cesr.Keri

open Calls

variable (crypto : Crypto)

structure WellFormedState (state : KeyState) : Prop where
  keys : state.keys ≠ []
  threshold : state.threshold.WellFormed state.keys.length
  nextThreshold : state.nextKeys ≠ [] → state.nextThreshold.WellFormed state.nextKeys.length
  distinct : state.witnesses.Nodup
  fixed : MemberSet.NonTransferable state.witnesses
  toad : state.witnessThreshold.Legal state.witnesses.length
  transferability : state.transferability = .transferable ↔ state.pfx.isTransferable = true ∧ state.nextKeys ≠ []
  established : state.lastEst.sn.value ≤ state.sn.value
  head : state.lastEst.sn.value = state.sn.value ↔ state.latestMessageType.isEstablishment = true
  bookmark : state.latestMessageType.isEstablishment = true → state.lastEst.said = state.latestSaid

structure SameIdentity (start state : KeyState) : Prop where
  pfx : state.pfx = start.pfx
  config : state.config = start.config
  delegator : state.delegator = start.delegator

theorem keys_of_well_formed (threshold : SigningThreshold) (keys : List VerifyingKey)
    (wellFormed : threshold.WellFormed keys.length) : keys ≠ [] :=
  List.length_pos_iff.mp (well_formed_positive threshold keys.length wellFormed)

theorem resolved_distinct (state : KeyState) (rot : RotationEvent) (signed : Signed)
    (wellFormed : WellFormedState state) (rules : RotationRules crypto state rot signed) :
    (state.resolvedWitnesses rot).Nodup :=
  Delta.resolve_nodup _ _ _ rules.deltas wellFormed.distinct

theorem resolved_fixed (state : KeyState) (rot : RotationEvent) (signed : Signed)
    (wellFormed : WellFormedState state) (rules : RotationRules crypto state rot signed) :
    MemberSet.NonTransferable (state.resolvedWitnesses rot) := by
  intro member inside
  rcases (Delta.mem_resolve _ _ _ member).mp inside with ⟨kept, -⟩ | added
  · exact wellFormed.fixed member kept
  · exact rules.fixedAdditions member added

theorem seed_well_formed (icp : InceptionEvent) (signed : Signed) (messageType : MessageType)
    (delegator : Option Identifier) (rules : InceptionRules crypto icp signed)
    (establishment : messageType.isEstablishment = true) :
    WellFormedState { KeyState.seed icp (inceptionTransferability icp) with
      latestMessageType := messageType, delegator := delegator } where
  keys := keys_of_well_formed icp.threshold icp.keys rules.threshold
  threshold := rules.threshold
  nextThreshold := fun some => rules.nextThreshold (mt List.eq_nil_of_length_eq_zero some)
  distinct := rules.distinct
  fixed := rules.fixed
  toad := rules.toad
  transferability := by
    change inceptionTransferability icp = .transferable ↔ icp.pfx.isTransferable = true ∧ icp.nextKeys ≠ []
    unfold inceptionTransferability
    split <;> rename_i both <;> simp [both]
  established := le_refl _
  head := ⟨fun _ => establishment, fun _ => rfl⟩
  bookmark := fun _ => rfl

theorem seeded_well_formed (genesis : Genesis) (start : KeyState) (seeded : Seeded crypto genesis start) :
    WellFormedState start := by
  cases seeded with
  | plain signed icp event rules => exact seed_well_formed crypto icp signed .icp none rules rfl
  | delegated signed evidence dip said event digestive rules authorized =>
      exact seed_well_formed crypto dip.inception signed .dip (some dip.delegator) rules rfl

theorem rotated_well_formed (state : KeyState) (rot : RotationEvent) (signed : Signed) (messageType : MessageType)
    (wellFormed : WellFormedState state) (transferable : state.isTransferable = true)
    (rules : RotationRules crypto state rot signed) (establishment : messageType.isEstablishment = true) :
    WellFormedState (state.rotated rot messageType) where
  keys := keys_of_well_formed rot.threshold rot.keys rules.threshold
  threshold := rules.threshold
  nextThreshold := fun some => rules.nextThreshold (mt List.eq_nil_of_length_eq_zero some)
  distinct := resolved_distinct crypto state rot signed wellFormed rules
  fixed := resolved_fixed crypto state rot signed wellFormed rules
  toad := rules.toad
  transferability := by
    have before : state.transferability = .transferable := by simpa [KeyState.isTransferable] using transferable
    have pfx : state.pfx.isTransferable = true := (wellFormed.transferability.mp before).1
    change (if rot.nextKeys.isEmpty then Transferability.nonTransferable else state.transferability) = .transferable ↔
      state.pfx.isTransferable = true ∧ rot.nextKeys ≠ []
    cases rot.nextKeys <;> simp [before, pfx]
  established := le_refl _
  head := ⟨fun _ => establishment, fun _ => rfl⟩
  bookmark := fun _ => rfl

theorem interacted_well_formed (state : KeyState) (ixn : InteractionEvent) (signed : Signed)
    (wellFormed : WellFormedState state) (rules : InteractionRules crypto state ixn signed) :
    WellFormedState (state.applyInteraction ixn) := by
  have later : state.lastEst.sn.value < ixn.sn.value := by
    have next := rules.chains.next
    have before := Fin.le_def.mp wellFormed.established
    rw [Fin.lt_def]
    omega
  exact
    { keys := wellFormed.keys
      threshold := wellFormed.threshold
      nextThreshold := wellFormed.nextThreshold
      distinct := wellFormed.distinct
      fixed := wellFormed.fixed
      toad := wellFormed.toad
      transferability := wellFormed.transferability
      established := le_of_lt later
      head := ⟨fun same => absurd same (ne_of_lt later), fun impossible => nomatch impossible⟩
      bookmark := fun impossible => nomatch impossible }

theorem advance_well_formed (state next : KeyState) (call : KelCall) (wellFormed : WellFormedState state)
    (advance : Advance crypto state call next) : WellFormedState next := by
  cases advance with
  | rotation signed rot transferable event independent rules =>
      exact rotated_well_formed crypto state rot signed .rot wellFormed transferable rules rfl
  | interaction signed ixn transferable event rules =>
      exact interacted_well_formed crypto state ixn signed wellFormed rules
  | delegatedRotation signed evidence drt said delegator transferable event digestive delegated rules authorized =>
      exact rotated_well_formed crypto state drt.rotation signed .drt wellFormed transferable rules rfl

theorem advance_identity (state next : KeyState) (call : KelCall) (advance : Advance crypto state call next) :
    SameIdentity state next := by
  cases advance <;> exact ⟨rfl, rfl, rfl⟩

theorem advance_sn (state next : KeyState) (call : KelCall) (advance : Advance crypto state call next) :
    next.sn.value.val = state.sn.value.val + 1 := by
  cases advance with
  | rotation signed rot transferable event independent rules => exact rules.chains.next
  | interaction signed ixn transferable event rules => exact rules.chains.next
  | delegatedRotation signed evidence drt said delegator transferable event digestive delegated rules authorized =>
      exact rules.chains.next

theorem seeded_sn (genesis : Genesis) (start : KeyState) (seeded : Seeded crypto genesis start) :
    start.sn = Number.new 0 := by
  cases seeded <;> rfl

theorem run_well_formed (genesis : Genesis) (start : KeyState) (seeded : Seeded crypto genesis start)
    (calls : List KelCall) : WellFormedState (kelRun crypto start calls) :=
  kel_invariant crypto WellFormedState
    (fun state call next wellFormed advance => advance_well_formed crypto state next call wellFormed advance)
    start (seeded_well_formed crypto genesis start seeded) calls

theorem run_identity (start : KeyState) (calls : List KelCall) : SameIdentity start (kelRun crypto start calls) := by
  refine kel_invariant crypto (SameIdentity start) ?_ start ⟨rfl, rfl, rfl⟩ calls
  intro state call next same advance
  have kept := advance_identity crypto state next call advance
  exact ⟨kept.pfx.trans same.pfx, kept.config.trans same.config, kept.delegator.trans same.delegator⟩

theorem run_sn (start : KeyState) (first : start.sn = Number.new 0) (calls : List KelCall) :
    (kelRun crypto start calls).sn.value.val = (kelAccepted crypto start calls).length := by
  refine kel_history crypto (fun state log => state.sn.value.val = log.length) ?_ start ?_ calls
  · intro state log call next counted advance
    rw [advance_sn crypto state next call advance, counted, List.length_append, List.length_singleton]
  · rw [first]
    rfl

theorem reachable_state_invariant (genesis : Genesis) (start : KeyState)
    (seeded : genesis.incept crypto = .ok start) (calls : List KelCall) :
    WellFormedState (kelRun crypto start calls) ∧
      (kelRun crypto start calls).sn.value.val = (kelAccepted crypto start calls).length ∧
      SameIdentity start (kelRun crypto start calls) ∧
      ∀ call : KelCall, ¬ Accepts (call.step crypto) (kelRun crypto start calls) →
        after (call.step crypto) (kelRun crypto start calls) = kelRun crypto start calls := by
  have origin := (seeded_iff crypto genesis start).mp seeded
  refine ⟨run_well_formed crypto genesis start origin calls, ?_, run_identity crypto start calls, ?_⟩
  · exact run_sn crypto start (seeded_sn crypto genesis start origin) calls
  · exact fun call refused => step_atomic crypto call _ refused

theorem reachable_state_invariant_sample :
    WellFormedState (kelRun Sample.scheme Sample.start [Sample.rotate]) ∧
      (kelRun Sample.scheme Sample.start [Sample.rotate]).sn.value.val =
        (kelAccepted Sample.scheme Sample.start [Sample.rotate]).length ∧
      SameIdentity Sample.start (kelRun Sample.scheme Sample.start [Sample.rotate]) ∧
      ∀ call : KelCall, ¬ Accepts (call.step Sample.scheme) (kelRun Sample.scheme Sample.start [Sample.rotate]) →
        after (call.step Sample.scheme) (kelRun Sample.scheme Sample.start [Sample.rotate]) =
          kelRun Sample.scheme Sample.start [Sample.rotate] :=
  reachable_state_invariant Sample.scheme Sample.genesis Sample.start (by decide) [Sample.rotate]

end Cesr.Keri
