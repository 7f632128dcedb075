import Cesr.Keri.Lifecycle

set_option autoImplicit false

namespace Cesr.Keri

open Checks Calls

variable (crypto : Crypto)

-- The two mutable entries of the fold, called in any order on one state.
inductive KelCall where
  | plain (signed : Signed)
  | delegated (signed : Signed) (evidence : DelegationEvidence)
deriving DecidableEq

namespace KelCall

def signed : KelCall → Signed
  | .plain signed => signed
  | .delegated signed _ => signed

def event (call : KelCall) : KeriEvent := call.signed.event

def step : KelCall → Mutator KeyState Rejection Unit
  | .plain signed => KeyState.ingestMut crypto signed
  | .delegated signed evidence => KeyState.ingestDelegatedMut crypto signed evidence

def ingest (state : KeyState) : KelCall → Except Rejection KeyState
  | .plain signed => state.ingest crypto signed
  | .delegated signed evidence => state.ingestDelegated crypto signed evidence

end KelCall

inductive Genesis where
  | plain (signed : Signed)
  | delegated (signed : Signed) (evidence : DelegationEvidence)
deriving DecidableEq

def Genesis.signed : Genesis → Signed
  | .plain signed => signed
  | .delegated signed _ => signed

def Genesis.event (genesis : Genesis) : KeriEvent := genesis.signed.event

def Genesis.incept : Genesis → Except Rejection KeyState
  | .plain signed => KeyState.incept crypto signed
  | .delegated signed evidence => KeyState.inceptDelegated crypto signed evidence

def kelRun (start : KeyState) (calls : List KelCall) : KeyState := run (KelCall.step crypto) start calls

def kelAccepted (start : KeyState) (calls : List KelCall) : List KelCall :=
  accepted (KelCall.step crypto) start calls

def KeyState.rotated (state : KeyState) (rot : RotationEvent) (messageType : MessageType) : KeyState :=
  state.applyRotation rot (state.resolvedWitnesses rot) messageType

inductive Advance : KeyState → KelCall → KeyState → Prop where
  | rotation (state : KeyState) (signed : Signed) (rot : RotationEvent)
      (transferable : state.isTransferable = true) (event : signed.event = .rotation rot)
      (independent : state.delegator = none) (rules : RotationRules crypto state rot signed) :
      Advance state (.plain signed) (state.rotated rot .rot)
  | interaction (state : KeyState) (signed : Signed) (ixn : InteractionEvent)
      (transferable : state.isTransferable = true) (event : signed.event = .interaction ixn)
      (rules : InteractionRules crypto state ixn signed) :
      Advance state (.plain signed) (state.applyInteraction ixn)
  | delegatedRotation (state : KeyState) (signed : Signed) (evidence : DelegationEvidence)
      (drt : DelegatedRotationEvent) (said : Said) (delegator : Identifier)
      (transferable : state.isTransferable = true) (event : signed.event = .delegatedRotation drt)
      (digestive : drt.rotation.pfx = .selfAddressing said) (delegated : state.delegator = some delegator)
      (rules : RotationRules crypto state drt.rotation signed)
      (authorized : evidence.Authorizes signed.event delegator) :
      Advance state (.delegated signed evidence) (state.rotated drt.rotation .drt)

theorem rotate_mut_ok (rot : RotationEvent) (signed : Signed) (state next : KeyState) :
    consume (KeyState.rotateMut crypto rot signed) state = .ok next ↔
      RotationRules crypto state rot signed ∧ next = state.rotated rot .rot := by
  simp only [KeyState.rotateMut, consume_get_bind, consume_check_bind, consume_modify, validate_rotation_ok]
  apply Iff.intro
  · intro passed
    obtain ⟨_, ⟨rules, rfl⟩, same⟩ := passed
    exact ⟨rules, same.symm⟩
  · intro met
    obtain ⟨rules, same⟩ := met
    exact ⟨_, ⟨rules, rfl⟩, same.symm⟩

theorem ingest_mut_ok (signed : Signed) (state next : KeyState) :
    consume (KeyState.ingestMut crypto signed) state = .ok next ↔
      Advance crypto state (.plain signed) next := by
  simp only [KeyState.ingestMut, consume_get_bind, consume_check_bind, exists_done, reject_if_ok, not_not]
  apply Iff.intro
  · intro passed
    obtain ⟨transferable, rest⟩ := passed
    cases kind : signed.event with
    | inception icp => simp [kind] at rest
    | delegatedInception dip => simp [kind] at rest
    | delegatedRotation drt =>
        rw [kind] at rest
        dsimp only at rest
        split at rest <;> simp at rest
    | rotation rot =>
        rw [kind] at rest
        dsimp only at rest
        split at rest
        · simp at rest
        · rename_i independent
          obtain ⟨rules, rfl⟩ := (rotate_mut_ok crypto rot signed state next).mp rest
          exact .rotation state signed rot transferable kind (not_not.mp independent) rules
    | interaction ixn =>
        rw [kind] at rest
        obtain ⟨rules, rfl⟩ := (interact_mut_ok crypto ixn signed state next).mp rest
        exact .interaction state signed ixn transferable kind rules
  · intro advance
    cases advance with
    | rotation _ rot transferable event independent rules =>
        refine ⟨transferable, ?_⟩
        simpa [event, independent] using (rotate_mut_ok crypto rot signed state _).mpr ⟨rules, rfl⟩
    | interaction _ ixn transferable event rules =>
        refine ⟨transferable, ?_⟩
        simpa [event] using (interact_mut_ok crypto ixn signed state _).mpr ⟨rules, rfl⟩

theorem ingest_delegated_mut_ok (signed : Signed) (evidence : DelegationEvidence) (state next : KeyState) :
    consume (KeyState.ingestDelegatedMut crypto signed evidence) state = .ok next ↔
      Advance crypto state (.delegated signed evidence) next := by
  simp only [KeyState.ingestDelegatedMut, consume_get_bind, consume_check_bind, exists_done, reject_if_ok, not_not]
  apply Iff.intro
  · intro passed
    obtain ⟨transferable, rest⟩ := passed
    cases kind : signed.event with
    | delegatedRotation drt =>
        rw [kind] at rest
        dsimp only at rest
        cases digestive : drt.rotation.pfx with
        | basic pfx => simp [digestive] at rest
        | selfAddressing said =>
            cases delegated : state.delegator with
            | none => simp [digestive, delegated] at rest
            | some delegator =>
                simp only [digestive, delegated, consume_check_bind, consume_modify, validate_rotation_ok, exists_done,
                  map_error_ok, authorizes_ok] at rest
                obtain ⟨_, ⟨rules, rfl⟩, authorized, rfl⟩ := rest
                exact .delegatedRotation state signed evidence drt said delegator transferable kind digestive delegated
                  rules (kind ▸ authorized)
    | inception icp => simp [kind] at rest
    | delegatedInception dip => simp [kind] at rest
    | rotation rot => simp [kind] at rest
    | interaction ixn => simp [kind] at rest
  · intro advance
    cases advance with
    | delegatedRotation _ _ drt said delegator transferable event digestive delegated rules authorized =>
        refine ⟨transferable, ?_⟩
        simp only [event, digestive, delegated, consume_check_bind, consume_modify, validate_rotation_ok, exists_done,
          map_error_ok, authorizes_ok]
        exact ⟨_, ⟨rules, rfl⟩, event ▸ authorized, rfl⟩

theorem advance_iff (call : KelCall) (state next : KeyState) :
    consume (call.step crypto) state = .ok next ↔ Advance crypto state call next := by
  cases call with
  | plain signed => exact ingest_mut_ok crypto signed state next
  | delegated signed evidence => exact ingest_delegated_mut_ok crypto signed evidence state next

theorem accepted_advance (call : KelCall) (state : KeyState) (taken : Accepts (call.step crypto) state) :
    Advance crypto state call (after (call.step crypto) state) :=
  (advance_iff crypto call state _).mp (consume_accepted _ state taken)

theorem ingest_iff (call : KelCall) (state next : KeyState) :
    call.ingest crypto state = .ok next ↔ Advance crypto state call next := by
  rw [← advance_iff]
  cases call <;> rfl

theorem rotate_mut_atomic (rot : RotationEvent) (signed : Signed) : Atomic (KeyState.rotateMut crypto rot signed) := by
  refine atomic_bind _ _ read_only_get fun state => ?_
  exact atomic_bind _ _ (read_only_check _) fun witnesses => atomic_modify _

theorem interact_mut_atomic (ixn : InteractionEvent) (signed : Signed) :
    Atomic (KeyState.interactMut crypto ixn signed) := by
  refine atomic_bind _ _ read_only_get fun state => ?_
  refine atomic_bind _ _ (read_only_check _) fun _ => ?_
  refine atomic_bind _ _ (read_only_check _) fun _ => ?_
  refine atomic_bind _ _ (read_only_check _) fun _ => ?_
  exact atomic_bind _ _ (read_only_check _) fun _ => atomic_modify _

theorem ingest_mut_atomic (signed : Signed) : Atomic (KeyState.ingestMut crypto signed) := by
  refine atomic_bind _ _ read_only_get fun state => ?_
  refine atomic_bind _ _ (read_only_check _) fun _ => ?_
  cases signed.event with
  | inception icp => exact atomic_throw _
  | delegatedInception dip => exact atomic_throw _
  | delegatedRotation drt =>
      dsimp only
      split <;> exact atomic_throw _
  | rotation rot =>
      dsimp only
      split
      · exact atomic_throw _
      · exact rotate_mut_atomic crypto rot signed
  | interaction ixn => exact interact_mut_atomic crypto ixn signed

theorem ingest_delegated_mut_atomic (signed : Signed) (evidence : DelegationEvidence) :
    Atomic (KeyState.ingestDelegatedMut crypto signed evidence) := by
  refine atomic_bind _ _ read_only_get fun state => ?_
  refine atomic_bind _ _ (read_only_check _) fun _ => ?_
  cases signed.event with
  | inception icp => exact atomic_throw _
  | delegatedInception dip => exact atomic_throw _
  | rotation rot => exact atomic_throw _
  | interaction ixn => exact atomic_throw _
  | delegatedRotation drt =>
      dsimp only
      split
      · split
        · exact atomic_throw _
        · refine atomic_bind _ _ (read_only_check _) fun _ => ?_
          exact atomic_bind _ _ (read_only_check _) fun _ => atomic_modify _
      · exact atomic_throw _

theorem step_atomic (call : KelCall) : Atomic (call.step crypto) := by
  cases call with
  | plain signed => exact ingest_mut_atomic crypto signed
  | delegated signed evidence => exact ingest_delegated_mut_atomic crypto signed evidence

inductive Seeded : Genesis → KeyState → Prop where
  | plain (signed : Signed) (icp : InceptionEvent) (event : signed.event = .inception icp)
      (rules : InceptionRules crypto icp signed) :
      Seeded (.plain signed) (KeyState.seed icp (inceptionTransferability icp))
  | delegated (signed : Signed) (evidence : DelegationEvidence) (dip : DelegatedInceptionEvent) (said : Said)
      (event : signed.event = .delegatedInception dip) (digestive : dip.inception.pfx = .selfAddressing said)
      (rules : InceptionRules crypto dip.inception signed)
      (authorized : evidence.Authorizes signed.event dip.delegator) :
      Seeded (.delegated signed evidence)
        { KeyState.seed dip.inception (inceptionTransferability dip.inception) with
          latestMessageType := .dip, delegator := some dip.delegator }

theorem seeded_iff (genesis : Genesis) (start : KeyState) :
    genesis.incept crypto = .ok start ↔ Seeded crypto genesis start := by
  cases genesis with
  | plain signed =>
      simp only [Genesis.incept, KeyState.incept]
      apply Iff.intro
      · intro seeded
        cases kind : signed.event <;> rw [kind] at seeded <;> dsimp only at seeded
        case inception icp =>
          simp only [bind_ok, validate_inception_ok, pure_ok] at seeded
          obtain ⟨_, ⟨rules, rfl⟩, rfl⟩ := seeded
          exact .plain signed icp kind rules
        all_goals cases seeded
      · intro seeded
        cases seeded with
        | plain _ icp event rules =>
            simp only [event, bind_ok, validate_inception_ok, pure_ok]
            exact ⟨_, ⟨rules, rfl⟩, rfl⟩
  | delegated signed evidence =>
      simp only [Genesis.incept, KeyState.inceptDelegated]
      apply Iff.intro
      · intro seeded
        cases kind : signed.event <;> rw [kind] at seeded <;> dsimp only at seeded
        case delegatedInception dip =>
          cases digestive : dip.inception.pfx with
          | basic pfx => simp [digestive] at seeded
          | selfAddressing said =>
              simp only [digestive, bind_ok, validate_inception_ok, pure_ok, exists_done, map_error_ok,
                authorizes_ok] at seeded
              obtain ⟨_, ⟨rules, rfl⟩, authorized, rfl⟩ := seeded
              exact .delegated signed evidence dip said kind digestive rules (kind ▸ authorized)
        all_goals cases seeded
      · intro seeded
        cases seeded with
        | delegated _ _ dip said event digestive rules authorized =>
            simp only [event, digestive, bind_ok, validate_inception_ok, pure_ok, exists_done, map_error_ok,
              authorizes_ok]
            exact ⟨_, ⟨rules, rfl⟩, event ▸ authorized, rfl⟩

theorem kel_history (Good : KeyState → List KelCall → Prop)
    (grow : ∀ state log call next, Good state log → Advance crypto state call next → Good next (log ++ [call]))
    (start : KeyState) (first : Good start []) (calls : List KelCall) :
    Good (kelRun crypto start calls) (kelAccepted crypto start calls) := by
  have whole := run_history (KelCall.step crypto) (step_atomic crypto) Good ?_ start [] first calls
  · exact whole
  · intro state log call good taken
    exact grow state log call _ good (accepted_advance crypto call state taken)

theorem kel_invariant (Good : KeyState → Prop)
    (keep : ∀ state call next, Good state → Advance crypto state call next → Good next)
    (start : KeyState) (first : Good start) (calls : List KelCall) : Good (kelRun crypto start calls) :=
  kel_history crypto (fun state _ => Good state) (fun state _ call next good advance => keep state call next good advance)
    start first calls

namespace Sample

def pad (data : Bytes) : Bytes := (data ++ List.replicate 32 0).take 32

-- A signature is the key followed by the padded message, a digest repeats its key.
def scheme : Crypto where
  verifyBytes _ key data sig := if sig = key ++ pad data then .ok () else .error .invalid
  commits digest key := digest.raw == key.raw

def verkey (seed : UInt8) : Matter VerKeyCode := ⟨.ed25519, List.replicate 32 seed, ""⟩

def digest (seed : UInt8) : Matter DigestCode := ⟨.blake3_256, List.replicate 32 seed, ""⟩

def sign (seed : UInt8) (body : Bytes) : Siger := ⟨.ed25519, 0, some 0, List.replicate 32 seed ++ pad body, none⟩

def inception : InceptionEvent where
  pfx := .basic ⟨verkey 1⟩
  sn := Number.new 0
  said := ⟨digest 100⟩
  keys := [⟨verkey 1⟩]
  threshold := .simple 1
  nextKeys := [⟨digest 2⟩]
  nextThreshold := .simple 1
  witnesses := []
  witnessThreshold := ⟨0⟩
  config := []
  anchors := []

def rotation : RotationEvent where
  pfx := .basic ⟨verkey 1⟩
  sn := Number.new 1
  said := ⟨digest 101⟩
  priorEventSaid := ⟨digest 100⟩
  keys := [⟨verkey 2⟩]
  threshold := .simple 1
  nextKeys := [⟨digest 3⟩]
  nextThreshold := .simple 1
  witnessAdditions := []
  witnessRemovals := []
  witnessThreshold := ⟨0⟩
  anchors := []

def genesis : Genesis := .plain ⟨.inception inception, [10], [sign 1 [10]], []⟩

def rotate : KelCall := .plain ⟨.rotation rotation, [11], [sign 2 [11]], []⟩

def start : KeyState := KeyState.seed inception .transferable

def dip : DelegatedInceptionEvent where
  inception := { inception with
    pfx := .selfAddressing ⟨digest 50⟩
    said := ⟨digest 50⟩
    keys := [⟨verkey 5⟩]
    nextKeys := [⟨digest 6⟩] }
  delegator := .basic ⟨verkey 1⟩

def drt : DelegatedRotationEvent where
  rotation := { rotation with
    pfx := .selfAddressing ⟨digest 50⟩
    said := ⟨digest 51⟩
    priorEventSaid := ⟨digest 50⟩
    keys := [⟨verkey 6⟩]
    nextKeys := [⟨digest 7⟩] }

def sealOf (event : KeriEvent) : Seal := .event event.pfx event.sn event.said

def anchoring (sn : U128) (said : UInt8) (delegated : KeriEvent) : KeriEvent :=
  .interaction ⟨.basic ⟨verkey 1⟩, Number.new sn, ⟨digest said⟩, ⟨digest 100⟩, [sealOf delegated]⟩

def evidence (sn : U128) (said : UInt8) (delegated : KeriEvent) : DelegationEvidence :=
  .anchored ⟨start, anchoring sn said delegated⟩

def delegatedGenesis : Genesis :=
  .delegated ⟨.delegatedInception dip, [12], [sign 5 [12]], []⟩ (evidence 1 60 (.delegatedInception dip))

def delegatedRotate : KelCall :=
  .delegated ⟨.delegatedRotation drt, [13], [sign 6 [13]], []⟩ (evidence 2 61 (.delegatedRotation drt))

def delegatedStart : KeyState :=
  { KeyState.seed dip.inception .transferable with latestMessageType := .dip, delegator := some dip.delegator }

end Sample

end Cesr.Keri
