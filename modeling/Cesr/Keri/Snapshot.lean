import Cesr.Keri.Run

set_option autoImplicit false

namespace Cesr.Keri

open Checks

variable (crypto : Crypto)

structure KeyStateSnapshot where
  pfx : Identifier
  sn : Number
  latestSaid : Said
  latestMessageType : MessageType
  keys : List VerifyingKey
  threshold : SigningThreshold
  nextKeys : List Digest
  nextThreshold : SigningThreshold
  witnesses : List BasicPrefix
  witnessThreshold : Toad
  config : List ConfigTrait
  delegator : Option Identifier
  transferability : Transferability
  lastEstSn : Number
  lastEstSaid : Said
deriving DecidableEq

namespace KeyStateSnapshot

def view (snapshot : KeyStateSnapshot) : KeyState where
  pfx := snapshot.pfx
  sn := snapshot.sn
  latestSaid := snapshot.latestSaid
  latestMessageType := snapshot.latestMessageType
  keys := snapshot.keys
  threshold := snapshot.threshold
  nextKeys := snapshot.nextKeys
  nextThreshold := snapshot.nextThreshold
  witnesses := snapshot.witnesses
  witnessThreshold := snapshot.witnessThreshold
  config := snapshot.config
  delegator := snapshot.delegator
  transferability := snapshot.transferability
  lastEst := ⟨snapshot.lastEstSn, snapshot.lastEstSaid⟩

def fromState (state : KeyState) : KeyStateSnapshot where
  pfx := state.pfx
  sn := state.sn
  latestSaid := state.latestSaid
  latestMessageType := state.latestMessageType
  keys := state.keys
  threshold := state.threshold
  nextKeys := state.nextKeys
  nextThreshold := state.nextThreshold
  witnesses := state.witnesses
  witnessThreshold := state.witnessThreshold
  config := state.config
  delegator := state.delegator
  transferability := state.transferability
  lastEstSn := state.lastEst.sn
  lastEstSaid := state.lastEst.said

def genesis (icp : InceptionEvent) : KeyStateSnapshot where
  pfx := icp.pfx
  sn := icp.sn
  latestSaid := icp.said
  latestMessageType := .icp
  keys := icp.keys
  threshold := icp.threshold
  nextKeys := icp.nextKeys
  nextThreshold := icp.nextThreshold
  witnesses := icp.witnesses
  witnessThreshold := icp.witnessThreshold
  config := icp.config
  delegator := none
  transferability := if icp.pfx.isTransferable && !icp.nextKeys.isEmpty then .transferable else .nonTransferable
  lastEstSn := icp.sn
  lastEstSaid := icp.said

def rolled (snapshot : KeyStateSnapshot) (rot : RotationEvent) (messageType : MessageType) : KeyStateSnapshot :=
  { snapshot with
    sn := rot.sn
    latestSaid := rot.said
    latestMessageType := messageType
    keys := rot.keys
    threshold := rot.threshold
    nextKeys := rot.nextKeys
    nextThreshold := rot.nextThreshold
    witnesses := KeyState.updatedMembers snapshot.witnesses rot.witnessRemovals rot.witnessAdditions
    witnessThreshold := rot.witnessThreshold
    lastEstSn := rot.sn
    lastEstSaid := rot.said
    transferability := if rot.nextKeys.isEmpty then .nonTransferable else snapshot.transferability }

def stepped (snapshot : KeyStateSnapshot) (ixn : InteractionEvent) : KeyStateSnapshot :=
  { snapshot with sn := ixn.sn, latestSaid := ixn.said, latestMessageType := .ixn }

-- Total on any input: an event no validating fold would accept is folded too.
def advance (snapshot : KeyStateSnapshot) : KeriEvent → KeyStateSnapshot
  | .inception icp => genesis icp
  | .delegatedInception dip =>
      { genesis dip.inception with latestMessageType := .dip, delegator := some dip.delegator }
  | .rotation rot => snapshot.rolled rot .rot
  | .delegatedRotation drt => snapshot.rolled drt.rotation .drt
  | .interaction ixn => snapshot.stepped ixn

end KeyStateSnapshot

open KeyStateSnapshot

-- The wire reader builds every number from its value alone.
def Parsed (event : KeriEvent) : Prop := event.sn = Number.new event.sn.value

-- An icp seeds the trusted fold directly, a dip is advanced over any snapshot.
def Genesis.trusted (genesis : Genesis) (earlier : KeyStateSnapshot) : KeyStateSnapshot :=
  match genesis.event with
  | .inception icp => KeyStateSnapshot.genesis icp
  | event => earlier.advance event

theorem view_round_trip (snapshot : KeyStateSnapshot) : fromState snapshot.view = snapshot := rfl

theorem genesis_from_state (icp : InceptionEvent) (signed : Signed) (parsed : icp.sn = Number.new icp.sn.value)
    (rules : InceptionRules crypto icp signed) :
    KeyStateSnapshot.genesis icp = fromState (KeyState.seed icp (inceptionTransferability icp)) := by
  rw [rules.first] at parsed
  have decided : (if icp.pfx.isTransferable && !icp.nextKeys.isEmpty then Transferability.transferable
      else .nonTransferable) = inceptionTransferability icp := by
    simp [inceptionTransferability]
  simp only [KeyStateSnapshot.genesis, fromState, KeyState.seed, parsed, decided]

theorem rolled_from_state (state : KeyState) (rot : RotationEvent) (signed : Signed) (messageType : MessageType)
    (parsed : rot.sn = Number.new rot.sn.value) (rules : RotationRules crypto state rot signed) :
    (fromState state).rolled rot messageType = fromState (state.rotated rot messageType) := by
  have resolved := updated_members_eq _ _ _ rules.deltas
  simp only [rolled, fromState, KeyState.rotated, KeyState.applyRotation, KeyState.resolvedWitnesses, resolved, ← parsed]

theorem seeded_snapshot (genesis : Genesis) (start : KeyState) (seeded : Seeded crypto genesis start)
    (parsed : Parsed genesis.event) (earlier : KeyStateSnapshot) :
    genesis.trusted earlier = fromState start := by
  cases seeded with
  | plain signed icp event rules =>
      have kind : (Genesis.plain signed).event = .inception icp := event
      rw [kind] at parsed
      simp only [Genesis.trusted, kind]
      exact genesis_from_state crypto icp signed parsed rules
  | delegated signed evidence dip said event digestive rules authorized =>
      have kind : (Genesis.delegated signed evidence).event = .delegatedInception dip := event
      rw [kind] at parsed
      simp only [Genesis.trusted, kind, KeyStateSnapshot.advance]
      rw [genesis_from_state crypto dip.inception signed parsed rules]
      rfl

theorem advance_snapshot (state next : KeyState) (call : KelCall) (parsed : Parsed call.event)
    (advance : Advance crypto state call next) : (fromState state).advance call.event = fromState next := by
  cases advance with
  | rotation signed rot transferable event independent rules =>
      have kind : (KelCall.plain signed).event = .rotation rot := event
      rw [kind] at parsed ⊢
      exact rolled_from_state crypto state rot signed .rot parsed rules
  | interaction signed ixn transferable event rules =>
      have kind : (KelCall.plain signed).event = .interaction ixn := event
      rw [kind] at parsed ⊢
      have number : ixn.sn = Number.new ixn.sn.value := parsed
      simp only [KeyStateSnapshot.advance, stepped, fromState, KeyState.applyInteraction, ← number]
  | delegatedRotation signed evidence drt said delegator transferable event digestive delegated rules authorized =>
      have kind : (KelCall.delegated signed evidence).event = .delegatedRotation drt := event
      rw [kind] at parsed ⊢
      exact rolled_from_state crypto state drt.rotation signed .drt parsed rules

theorem trusted_fold_matches (genesis : Genesis) (start final : KeyState) (calls : List KelCall)
    (seeded : genesis.incept crypto = .ok start)
    (folded : calls.foldlM (fun state call => call.ingest crypto state) start = .ok final)
    (parsedGenesis : Parsed genesis.event) (parsed : ∀ call ∈ calls, Parsed call.event)
    (earlier : KeyStateSnapshot) (length : Nat) :
    (∃ state, (calls.take length).foldlM (fun state call => call.ingest crypto state) start = .ok state ∧
      ((calls.take length).map KelCall.event).foldl KeyStateSnapshot.advance (genesis.trusted earlier) =
        fromState state) ∧
      ∀ snapshot : KeyStateSnapshot, fromState snapshot.view = snapshot := by
  refine ⟨?_, view_round_trip⟩
  obtain ⟨state, reached⟩ := fold_prefix _ calls start final folded length
  refine ⟨state, reached, ?_⟩
  rw [seeded_snapshot crypto genesis start ((seeded_iff crypto genesis start).mp seeded) parsedGenesis earlier,
    List.foldl_map]
  refine fold_simulates _ _ fromState _ ?_ start state reached
  intro call inside before next stepped
  exact advance_snapshot crypto before next call (parsed call (List.mem_of_mem_take inside))
    ((ingest_iff crypto call before next).mp stepped)

theorem trusted_fold_matches_sample :
    (∃ state, ([Sample.rotate].take 1).foldlM (fun state call => call.ingest Sample.scheme state) Sample.start =
        .ok state ∧
      (([Sample.rotate].take 1).map KelCall.event).foldl KeyStateSnapshot.advance
        (Sample.genesis.trusted (fromState Sample.start)) = fromState state) ∧
      ∀ snapshot : KeyStateSnapshot, fromState snapshot.view = snapshot :=
  trusted_fold_matches Sample.scheme Sample.genesis Sample.start
    (Sample.start.rotated Sample.rotation .rot) [Sample.rotate] (by decide) (by decide) rfl
    (fun call inside => List.mem_singleton.mp inside ▸ rfl)
    (fromState Sample.start) 1

end Cesr.Keri
