import Cesr.Keri.Delegation

set_option autoImplicit false

namespace Cesr.Keri

open Calls

variable (crypto : Crypto)

-- The rules of a rotation as KERI lists them, over sets of positions.
structure ListedRotation (state : KeyState) (rot : RotationEvent) (signed : Signed) : Prop where
  identifier : rot.pfx = state.pfx
  next : rot.sn.value.val = state.sn.value.val + 1
  prior : rot.priorEventSaid = state.latestSaid
  threshold : rot.threshold.WellFormed rot.keys.length
  nextThreshold : rot.nextKeys ≠ [] → rot.nextThreshold.WellFormed rot.nextKeys.length
  signatures : rot.threshold.Holds (signers crypto rot.keys signed.body signed.sigs)
  opening : state.nextThreshold.Holds
    (exposures crypto ⟨state.nextKeys, state.nextThreshold⟩ ⟨rot.keys, rot.threshold⟩ signed.body signed.sigs)
  cutsCurrent : ∀ cut ∈ rot.witnessRemovals, cut ∈ state.witnesses
  additionsNew : ∀ addition ∈ rot.witnessAdditions, addition ∉ state.witnesses
  separate : ∀ addition ∈ rot.witnessAdditions, addition ∉ rot.witnessRemovals
  cutsDistinct : rot.witnessRemovals.Nodup
  additionsDistinct : rot.witnessAdditions.Nodup
  toad : rot.witnessThreshold.Legal (state.resolvedWitnesses rot).length
  receipts : rot.witnessThreshold.value.val ≤
    (signers crypto (state.resolvedWitnesses rot) signed.body signed.wigs).card

structure ListedInteraction (state : KeyState) (ixn : InteractionEvent) (signed : Signed) : Prop where
  interactive : ConfigTrait.estOnly ∉ state.config
  identifier : ixn.pfx = state.pfx
  next : ixn.sn.value.val = state.sn.value.val + 1
  prior : ixn.priorEventSaid = state.latestSaid
  signatures : state.threshold.Holds (signers crypto state.keys signed.body signed.sigs)
  receipts : state.witnessThreshold.value.val ≤ (signers crypto state.witnesses signed.body signed.wigs).card

def ListedRules (state : KeyState) (call : KelCall) : Prop :=
  state.isTransferable = true ∧
    match call with
    | .plain signed =>
        match signed.event with
        | .rotation rot => state.delegator = none ∧ ListedRotation crypto state rot signed
        | .interaction ixn => ListedInteraction crypto state ixn signed
        | _ => False
    | .delegated signed evidence =>
        match signed.event with
        | .delegatedRotation drt =>
            ListedRotation crypto state drt.rotation signed ∧
              ∃ delegator, state.delegator = some delegator ∧ evidence.Authorizes signed.event delegator
        | _ => False

-- The rule the list leaves out: a witness added must be fixed to its key.
def AdditionsFixed (event : KeriEvent) : Prop :=
  match event with
  | .rotation rot => MemberSet.NonTransferable rot.witnessAdditions
  | .delegatedRotation drt => MemberSet.NonTransferable drt.rotation.witnessAdditions
  | _ => True

theorem rotation_rules_listed (state : KeyState) (rot : RotationEvent) (signed : Signed)
    (wellFormed : WellFormedState state) :
    RotationRules crypto state rot signed ↔
      ListedRotation crypto state rot signed ∧ MemberSet.NonTransferable rot.witnessAdditions := by
  apply Iff.intro
  · intro rules
    refine ⟨?_, rules.fixedAdditions⟩
    exact
      { identifier := rules.chains.identifier
        next := rules.chains.next
        prior := rules.chains.prior
        threshold := rules.threshold
        nextThreshold := fun some => rules.nextThreshold (mt List.eq_nil_of_length_eq_zero some)
        signatures := rules.signatures
        opening := rules.opening
        cutsCurrent := rules.deltas.cutsCurrent
        additionsNew := rules.deltas.additionsNew
        separate := fun addition added cut => rules.deltas.separate addition cut added
        cutsDistinct := rules.deltas.cutsDistinct
        additionsDistinct := rules.deltas.additionsDistinct
        toad := rules.toad
        receipts := rules.receipts }
  · rintro ⟨listed, fixedAdditions⟩
    exact
      { chains := ⟨listed.identifier, listed.next, listed.prior⟩
        threshold := listed.threshold
        nextThreshold := fun some => listed.nextThreshold (mt (congrArg List.length) some)
        signatures := listed.signatures
        opening := listed.opening
        deltas := ⟨listed.cutsDistinct, listed.additionsDistinct,
          fun cut removed added => listed.separate cut added removed, listed.cutsCurrent, listed.additionsNew⟩
        fixedRemovals := fun cut removed => wellFormed.fixed cut (listed.cutsCurrent cut removed)
        fixedAdditions := fixedAdditions
        toad := listed.toad
        receipts := listed.receipts }

theorem interaction_rules_listed (state : KeyState) (ixn : InteractionEvent) (signed : Signed) :
    InteractionRules crypto state ixn signed ↔ ListedInteraction crypto state ixn signed := by
  have interactive : state.isEstablishmentOnly = false ↔ ConfigTrait.estOnly ∉ state.config := by
    simp [KeyState.isEstablishmentOnly]
    grind
  apply Iff.intro
  · intro rules
    exact ⟨interactive.mp rules.interactive, rules.chains.identifier, rules.chains.next, rules.chains.prior,
      rules.signatures, rules.receipts⟩
  · intro listed
    exact ⟨interactive.mpr listed.interactive, ⟨listed.identifier, listed.next, listed.prior⟩, listed.signatures,
      listed.receipts⟩

-- Only a digest prefix is ever delegated, and rotations keep the prefix.
theorem delegated_prefix (genesis : Genesis) (start : KeyState) (seeded : Seeded crypto genesis start)
    (delegator : Identifier) (delegated : start.delegator = some delegator) :
    ∃ said, start.pfx = .selfAddressing said := by
  cases seeded with
  | plain signed icp event rules => cases delegated
  | delegated signed evidence dip said event digestive rules authorized => exact ⟨said, digestive⟩

theorem plain_acceptance (state : KeyState) (signed : Signed) (wellFormed : WellFormedState state) :
    (∃ next, Advance crypto state (.plain signed) next) ↔
      ListedRules crypto state (.plain signed) ∧ AdditionsFixed signed.event := by
  apply Iff.intro
  · rintro ⟨next, advance⟩
    cases advance with
    | rotation _ rot transferable event independent rules =>
        obtain ⟨listed, fixed⟩ := (rotation_rules_listed crypto state rot signed wellFormed).mp rules
        simp only [ListedRules, AdditionsFixed, event]
        exact ⟨⟨transferable, independent, listed⟩, fixed⟩
    | interaction _ ixn transferable event rules =>
        simp only [ListedRules, AdditionsFixed, event]
        exact ⟨⟨transferable, (interaction_rules_listed crypto state ixn signed).mp rules⟩, trivial⟩
  · rintro ⟨⟨transferable, listed⟩, fixed⟩
    cases event : signed.event with
    | rotation rot =>
        simp only [event, AdditionsFixed] at listed fixed
        exact ⟨_, .rotation state signed rot transferable event listed.1
          ((rotation_rules_listed crypto state rot signed wellFormed).mpr ⟨listed.2, fixed⟩)⟩
    | interaction ixn =>
        simp only [event] at listed
        exact ⟨_, .interaction state signed ixn transferable event
          ((interaction_rules_listed crypto state ixn signed).mpr listed)⟩
    | inception icp => simp [event] at listed
    | delegatedInception dip => simp [event] at listed
    | delegatedRotation drt => simp [event] at listed

theorem delegated_acceptance (state : KeyState) (signed : Signed) (evidence : DelegationEvidence)
    (wellFormed : WellFormedState state)
    (digestive : ∀ delegator, state.delegator = some delegator → ∃ said, state.pfx = .selfAddressing said) :
    (∃ next, Advance crypto state (.delegated signed evidence) next) ↔
      ListedRules crypto state (.delegated signed evidence) ∧ AdditionsFixed signed.event := by
  apply Iff.intro
  · rintro ⟨next, advance⟩
    cases advance with
    | delegatedRotation _ _ drt said delegator transferable event _ delegated rules authorized =>
        obtain ⟨listed, fixed⟩ := (rotation_rules_listed crypto state drt.rotation signed wellFormed).mp rules
        rw [event] at authorized
        simp only [ListedRules, AdditionsFixed, event]
        exact ⟨⟨transferable, listed, delegator, delegated, authorized⟩, fixed⟩
  · rintro ⟨⟨transferable, listed⟩, fixed⟩
    cases event : signed.event with
    | delegatedRotation drt =>
        simp only [event, AdditionsFixed] at listed fixed
        obtain ⟨listed, delegator, delegated, authorized⟩ := listed
        obtain ⟨said, own⟩ := digestive delegator delegated
        exact ⟨_, .delegatedRotation state signed evidence drt said delegator transferable event
          (listed.identifier.trans own) delegated
          ((rotation_rules_listed crypto state drt.rotation signed wellFormed).mpr ⟨listed, fixed⟩)
          (event ▸ authorized)⟩
    | inception icp => simp [event] at listed
    | delegatedInception dip => simp [event] at listed
    | rotation rot => simp [event] at listed
    | interaction ixn => simp [event] at listed

theorem accepts_iff_advance (call : KelCall) (state : KeyState) :
    Accepts (call.step crypto) state ↔ ∃ next, Advance crypto state call next := by
  rw [accepts_iff_consume]
  exact exists_congr fun next => advance_iff crypto call state next

theorem acceptance_exact (genesis : Genesis) (start : KeyState) (seeded : genesis.incept crypto = .ok start)
    (calls : List KelCall) (call : KelCall) :
    Accepts (call.step crypto) (kelRun crypto start calls) ↔
      ListedRules crypto (kelRun crypto start calls) call ∧ AdditionsFixed call.event := by
  have origin := (seeded_iff crypto genesis start).mp seeded
  have wellFormed := run_well_formed crypto genesis start origin calls
  have kept := run_identity crypto start calls
  rw [accepts_iff_advance]
  cases call with
  | plain signed => exact plain_acceptance crypto _ signed wellFormed
  | delegated signed evidence =>
      refine delegated_acceptance crypto _ signed evidence wellFormed ?_
      intro delegator delegated
      rw [kept.pfx]
      exact delegated_prefix crypto genesis start origin delegator (kept.delegator ▸ delegated)

theorem acceptance_exact_sample :
    Accepts (Sample.rotate.step Sample.scheme) (kelRun Sample.scheme Sample.start []) ↔
      ListedRules Sample.scheme (kelRun Sample.scheme Sample.start []) Sample.rotate ∧
        AdditionsFixed Sample.rotate.event :=
  acceptance_exact Sample.scheme Sample.genesis Sample.start (by decide) [] Sample.rotate

namespace Sample

-- A rotation that satisfies every listed rule and adds a transferable witness.
def looseRotation : RotationEvent :=
  { rotation with witnessAdditions := [⟨verkey 9⟩], witnessThreshold := ⟨1⟩ }

def looseSigned : Signed := ⟨.rotation looseRotation, [11], [sign 2 [11]], [sign 9 [11]]⟩

end Sample

theorem listed_rules_too_weak :
    ¬ ∀ (crypto : Crypto) (genesis : Genesis) (start : KeyState), genesis.incept crypto = .ok start →
      ∀ (calls : List KelCall) (call : KelCall), Accepts (call.step crypto) (kelRun crypto start calls) ↔
        ListedRules crypto (kelRun crypto start calls) call := by
  intro exact
  have listed : ListedRotation Sample.scheme Sample.start Sample.looseRotation Sample.looseSigned :=
    { identifier := rfl
      next := rfl
      prior := rfl
      threshold := by decide
      nextThreshold := fun _ => by decide
      signatures := (simple_holds 1 _).mpr (by decide)
      opening := (simple_holds 1 _).mpr (by decide)
      cutsCurrent := by decide
      additionsNew := by decide
      separate := by decide
      cutsDistinct := by decide
      additionsDistinct := by decide
      toad := by decide
      receipts := by decide }
  have accepted := (exact Sample.scheme Sample.genesis Sample.start (by decide) [] (.plain Sample.looseSigned)).mpr
    ⟨rfl, rfl, listed⟩
  exact absurd accepted (by decide)

end Cesr.Keri
