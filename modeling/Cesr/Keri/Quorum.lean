import Cesr.Events.ThresholdExact
import Cesr.Keri.Invariant

set_option autoImplicit false

namespace Cesr.Keri

open Calls Fractions

variable (crypto : Crypto)

def Signed.withSigs (signed : Signed) (sigs : List Siger) : Signed := { signed with sigs := sigs }

def KelCall.withSigs (call : KelCall) (sigs : List Siger) : KelCall :=
  match call with
  | .plain signed => .plain (signed.withSigs sigs)
  | .delegated signed evidence => .delegated (signed.withSigs sigs) evidence

def Genesis.withSigs (genesis : Genesis) (sigs : List Siger) : Genesis :=
  match genesis with
  | .plain signed => .plain (signed.withSigs sigs)
  | .delegated signed evidence => .delegated (signed.withSigs sigs) evidence

-- The sums that the thresholds of an event make over its signers can be represented.
def RotationFits (state : KeyState) (rot : RotationEvent) (signed : Signed) : Prop :=
  rot.threshold.Representable (signers crypto rot.keys signed.body signed.sigs) ∧
    state.nextThreshold.Representable (exposures crypto state.commitment (Establishment.authority rot) signed.body signed.sigs)

def CallFits (state : KeyState) (call : KelCall) : Prop :=
  match call.event with
  | .rotation rot => RotationFits crypto state rot call.signed
  | .delegatedRotation drt => RotationFits crypto state drt.rotation call.signed
  | _ => state.threshold.Representable (signers crypto state.keys call.signed.body call.signed.sigs)

def GenesisFits (genesis : Genesis) : Prop :=
  match genesis.event with
  | .inception icp => icp.threshold.Representable (signers crypto icp.keys genesis.signed.body genesis.signed.sigs)
  | .delegatedInception dip =>
      dip.inception.threshold.Representable (signers crypto dip.inception.keys genesis.signed.body genesis.signed.sigs)
  | _ => True

theorem signers_mono {K : Type} [VerifierKey K] (keys : List K) (bytes : Bytes) (fewer more : List Siger) (inside : fewer ⊆ more) :
    signers crypto keys bytes fewer ⊆ signers crypto keys bytes more := by
  intro index
  rw [mem_signers, mem_signers]
  intro found
  obtain ⟨sig, member, signs⟩ := found
  exact ⟨sig, inside member, signs⟩

theorem exposures_mono (commitment : Commitment) (revealed : Authority) (bytes : Bytes) (fewer more : List Siger)
    (inside : fewer ⊆ more) :
    exposures crypto commitment revealed bytes fewer ⊆ exposures crypto commitment revealed bytes more := by
  intro ondex
  rw [mem_exposures, mem_exposures]
  intro found
  obtain ⟨sig, member, signs⟩ := found
  exact ⟨sig, inside member, signs⟩

theorem rotation_more_sigs (state : KeyState) (rot : RotationEvent) (signed : Signed) (sigs : List Siger)
    (inside : signed.sigs ⊆ sigs) (rules : RotationRules crypto state rot signed) :
    RotationRules crypto state rot (signed.withSigs sigs) ↔ RotationFits crypto state rot (signed.withSigs sigs) := by
  have signing := holds_mono rot.threshold _ _ (signers_mono crypto rot.keys signed.body _ _ inside) rules.signatures
  have opening := holds_mono state.nextThreshold _ _
    (exposures_mono crypto state.commitment (Establishment.authority rot) signed.body _ _ inside) rules.opening
  apply Iff.intro
  · intro more
    exact ⟨signing.mp more.signatures, opening.mp more.opening⟩
  · intro fits
    exact { rules with signatures := signing.mpr fits.1, opening := opening.mpr fits.2 }

theorem interaction_more_sigs (state : KeyState) (ixn : InteractionEvent) (signed : Signed) (sigs : List Siger)
    (inside : signed.sigs ⊆ sigs) (rules : InteractionRules crypto state ixn signed) :
    InteractionRules crypto state ixn (signed.withSigs sigs) ↔
      state.threshold.Representable (signers crypto state.keys signed.body sigs) := by
  have signing := holds_mono state.threshold _ _ (signers_mono crypto state.keys signed.body _ _ inside) rules.signatures
  apply Iff.intro
  · intro more
    exact signing.mp more.signatures
  · intro fits
    exact { rules with signatures := signing.mpr fits }

theorem inception_more_sigs (icp : InceptionEvent) (signed : Signed) (sigs : List Siger) (inside : signed.sigs ⊆ sigs)
    (rules : InceptionRules crypto icp signed) :
    InceptionRules crypto icp (signed.withSigs sigs) ↔
      icp.threshold.Representable (signers crypto icp.keys signed.body sigs) := by
  have signing := holds_mono icp.threshold _ _ (signers_mono crypto icp.keys signed.body _ _ inside) rules.signatures
  apply Iff.intro
  · intro more
    exact signing.mp more.signatures
  · intro fits
    exact { rules with signatures := signing.mpr fits }

theorem advance_rotation (state next : KeyState) (signed : Signed) (rot : RotationEvent) (event : signed.event = .rotation rot)
    (advance : Advance crypto state (.plain signed) next) : RotationRules crypto state rot signed := by
  cases advance with
  | rotation _ other _ sameEvent _ rules =>
      cases event.symm.trans sameEvent
      exact rules
  | interaction _ ixn _ sameEvent _ => cases event.symm.trans sameEvent

theorem advance_interaction (state next : KeyState) (signed : Signed) (ixn : InteractionEvent) (event : signed.event = .interaction ixn)
    (advance : Advance crypto state (.plain signed) next) : InteractionRules crypto state ixn signed := by
  cases advance with
  | rotation _ rot _ sameEvent _ _ => cases event.symm.trans sameEvent
  | interaction _ other _ sameEvent rules =>
      cases event.symm.trans sameEvent
      exact rules

theorem advance_delegated (state next : KeyState) (signed : Signed) (evidence : DelegationEvidence) (drt : DelegatedRotationEvent)
    (event : signed.event = .delegatedRotation drt) (advance : Advance crypto state (.delegated signed evidence) next) :
    RotationRules crypto state drt.rotation signed := by
  cases advance with
  | delegatedRotation _ _ other _ _ _ sameEvent _ _ rules _ =>
      cases event.symm.trans sameEvent
      exact rules

theorem advance_more_sigs (state next : KeyState) (call : KelCall) (sigs : List Siger) (inside : call.signed.sigs ⊆ sigs)
    (advance : Advance crypto state call next) :
    Advance crypto state (call.withSigs sigs) next ↔ CallFits crypto state (call.withSigs sigs) := by
  cases advance with
  | rotation signed rot transferable event independent rules =>
      have event' : (signed.withSigs sigs).event = .rotation rot := event
      have fits : CallFits crypto state (.plain (signed.withSigs sigs)) ↔ RotationFits crypto state rot (signed.withSigs sigs) := by
        simp only [CallFits, KelCall.event, KelCall.signed, event']
      simp only [KelCall.withSigs]
      rw [fits, ← rotation_more_sigs crypto state rot signed sigs inside rules]
      apply Iff.intro
      · exact advance_rotation crypto state _ _ rot event'
      · exact .rotation state _ rot transferable event' independent
  | interaction signed ixn transferable event rules =>
      have event' : (signed.withSigs sigs).event = .interaction ixn := event
      have fits : CallFits crypto state (.plain (signed.withSigs sigs)) ↔
          state.threshold.Representable (signers crypto state.keys signed.body sigs) := by
        simp only [CallFits, KelCall.event, KelCall.signed, event']
        rfl
      simp only [KelCall.withSigs]
      rw [fits, ← interaction_more_sigs crypto state ixn signed sigs inside rules]
      apply Iff.intro
      · exact advance_interaction crypto state _ _ ixn event'
      · exact .interaction state _ ixn transferable event'
  | delegatedRotation signed evidence drt said delegator transferable event digestive delegated rules authorized =>
      have event' : (signed.withSigs sigs).event = .delegatedRotation drt := event
      have fits : CallFits crypto state (.delegated (signed.withSigs sigs) evidence) ↔
          RotationFits crypto state drt.rotation (signed.withSigs sigs) := by
        simp only [CallFits, KelCall.event, KelCall.signed, event']
      simp only [KelCall.withSigs]
      rw [fits, ← rotation_more_sigs crypto state drt.rotation signed sigs inside rules]
      apply Iff.intro
      · exact advance_delegated crypto state _ _ evidence drt event'
      · intro others
        exact .delegatedRotation state _ evidence drt said delegator transferable event' digestive delegated others authorized

theorem seeded_inception (start : KeyState) (signed : Signed) (icp : InceptionEvent) (event : signed.event = .inception icp)
    (seeded : Seeded crypto (.plain signed) start) : InceptionRules crypto icp signed := by
  cases seeded with
  | plain _ other sameEvent rules =>
      cases event.symm.trans sameEvent
      exact rules

theorem seeded_delegated (start : KeyState) (signed : Signed) (evidence : DelegationEvidence) (dip : DelegatedInceptionEvent)
    (event : signed.event = .delegatedInception dip) (seeded : Seeded crypto (.delegated signed evidence) start) :
    InceptionRules crypto dip.inception signed := by
  cases seeded with
  | delegated _ _ other _ sameEvent _ rules _ =>
      cases event.symm.trans sameEvent
      exact rules

theorem seeded_more_sigs (genesis : Genesis) (start : KeyState) (sigs : List Siger) (inside : genesis.signed.sigs ⊆ sigs)
    (seeded : Seeded crypto genesis start) :
    Seeded crypto (genesis.withSigs sigs) start ↔ GenesisFits crypto (genesis.withSigs sigs) := by
  cases seeded with
  | plain signed icp event rules =>
      have event' : (signed.withSigs sigs).event = .inception icp := event
      have fits : GenesisFits crypto (.plain (signed.withSigs sigs)) ↔
          icp.threshold.Representable (signers crypto icp.keys signed.body sigs) := by
        simp only [GenesisFits, Genesis.event, Genesis.signed, event']
        rfl
      simp only [Genesis.withSigs]
      rw [fits, ← inception_more_sigs crypto icp signed sigs inside rules]
      apply Iff.intro
      · exact seeded_inception crypto _ _ icp event'
      · exact .plain _ icp event'
  | delegated signed evidence dip said event digestive rules authorized =>
      have event' : (signed.withSigs sigs).event = .delegatedInception dip := event
      have fits : GenesisFits crypto (.delegated (signed.withSigs sigs) evidence) ↔
          dip.inception.threshold.Representable (signers crypto dip.inception.keys signed.body sigs) := by
        simp only [GenesisFits, Genesis.event, Genesis.signed, event']
        rfl
      simp only [Genesis.withSigs]
      rw [fits, ← inception_more_sigs crypto dip.inception signed sigs inside rules]
      apply Iff.intro
      · exact seeded_delegated crypto _ _ evidence dip event'
      · intro others
        exact .delegated _ evidence dip said event' digestive others authorized

-- A sum over more signers may leave the machine word, and only that loses the quorum.
theorem more_signers_keep_quorum :
    (∀ (threshold : SigningThreshold) (fewer more : List U32), fewer ⊆ more → threshold.satisfiedBy fewer = true →
      (threshold.satisfiedBy more = true ↔ threshold.Representable more.toFinset)) ∧
    (∀ (genesis : Genesis) (start : KeyState) (sigs : List Siger), genesis.signed.sigs ⊆ sigs →
      genesis.incept crypto = .ok start →
        ((genesis.withSigs sigs).incept crypto = .ok start ↔ GenesisFits crypto (genesis.withSigs sigs))) ∧
    ∀ (state next : KeyState) (call : KelCall) (sigs : List Siger), call.signed.sigs ⊆ sigs → call.ingest crypto state = .ok next →
      ((call.withSigs sigs).ingest crypto state = .ok next ↔ CallFits crypto state (call.withSigs sigs)) := by
  refine ⟨?_, ?_, ?_⟩
  · intro threshold fewer more inside satisfied
    rw [satisfied_by_holds] at satisfied ⊢
    have subset : fewer.toFinset ⊆ more.toFinset := by
      intro index
      rw [List.mem_toFinset, List.mem_toFinset]
      exact fun member => inside member
    exact holds_mono threshold _ _ subset satisfied
  · intro genesis start sigs inside seeded
    rw [seeded_iff] at seeded ⊢
    exact seeded_more_sigs crypto genesis start sigs inside seeded
  · intro state next call sigs inside taken
    rw [ingest_iff] at taken ⊢
    exact advance_more_sigs crypto state next call sigs inside taken

namespace Sample

def wide : WeightedThreshold where
  weights := [(1, 1), (1, 2 ^ 63), (1, 2 ^ 63)]
  clauseEnds := [3]
  covered := ⟨by decide, rfl⟩

end Sample

theorem more_signers_may_lose :
    ¬ ∀ (threshold : SigningThreshold) (keyCount : Nat), threshold.checkWellFormed keyCount = .ok () →
      ∀ fewer more : List U32, fewer ⊆ more → threshold.satisfiedBy fewer = true → threshold.satisfiedBy more = true := by
  intro monotone
  have lost := monotone (.weighted Sample.wide) 3 (by decide) [0] [0, 1, 2] (by decide) (by decide)
  exact absurd lost (by decide)

def everyIndex (keyCount : Nat) : List U32 := (List.range (min keyCount (2 ^ 32))).map (Fin.ofNat (2 ^ 32))

theorem mem_every_index (keyCount : Nat) (index : U32) : index ∈ everyIndex keyCount ↔ index.val < keyCount := by
  have bound := index.isLt
  rw [everyIndex, List.mem_map]
  apply Iff.intro
  · intro found
    obtain ⟨position, inside, same⟩ := found
    rw [List.mem_range] at inside
    have value := congrArg Fin.val same
    rw [Fin.val_ofNat, Nat.mod_eq_of_lt (by omega)] at value
    omega
  · intro inside
    exact ⟨index.val, by rw [List.mem_range]; omega, Fin.ofNat_val_eq_self index⟩

theorem card_every_index (keyCount : Nat) : (everyIndex keyCount).toFinset.card = min keyCount (2 ^ 32) := by
  have same : (everyIndex keyCount).toFinset = Finset.univ.filter fun index : U32 => index.val < keyCount := by
    ext index
    rw [List.mem_toFinset, mem_every_index, Finset.mem_filter]
    exact (and_iff_right (Finset.mem_univ index)).symm
  rw [same, Fin.card_filter_val_lt, min_comm]

def MeetsTogether (threshold : SigningThreshold) : Prop :=
  match threshold with
  | .simple required => required.val ≤ 2 ^ 32
  | .weighted flat =>
      ∀ clause ∈ flat.clauses, SolidClause clause ∧ Fits (2 ^ 64) (0, 1) (clause.map Weight.exact) ∧
        1 ≤ share (clause.map Weight.exact)

theorem well_formed_together (threshold : SigningThreshold) (keyCount : Nat) (wellFormed : threshold.WellFormed keyCount) :
    threshold.satisfiedBy (everyIndex keyCount) = true ↔ MeetsTogether threshold := by
  rw [satisfied_by_holds]
  cases threshold with
  | simple required =>
      have small := wellFormed.2
      rw [simple_holds, card_every_index, MeetsTogether]
      omega
  | weighted flat =>
      obtain ⟨some', _, small⟩ := wellFormed
      obtain ⟨flattened, counted, fits⟩ := weighted_clauses flat
      have clauses : flat.clauses ≠ [] := by
        intro none'
        rw [none'] at counted
        exact some' (List.length_eq_zero_iff.mp counted.symm)
      have run : ∀ before clause after, flat.clauses = before ++ clause :: after →
          signedWeights (everyIndex keyCount).toFinset before.flatten.length clause = clause.map Weight.exact := by
        intro before clause after split
        have total : before.flatten.length + clause.length ≤ flat.weights.length := by
          rw [← flattened, split, List.flatten_append, List.flatten_cons, List.length_append, List.length_append]
          omega
        apply signed_weights_all
        intro place inside
        refine ⟨⟨before.flatten.length + place, by omega⟩, ?_, rfl⟩
        rw [List.mem_toFinset, mem_every_index]
        simp only
        omega
      rw [weighted_holds_at, MeetsTogether]
      apply Iff.intro
      · intro met clause member
        obtain ⟨before, after, split⟩ := List.append_of_mem member
        have here := met.2 before clause after split
        rw [ClauseMet, ClauseFits, run before clause after split] at here
        exact here
      · intro met
        refine ⟨clauses, ?_⟩
        intro before clause after split
        rw [ClauseMet, ClauseFits, run before clause after split]
        apply met
        rw [split]
        exact List.mem_append_right before List.mem_cons_self

def Satisfiable (threshold : SigningThreshold) (keyCount : Nat) : Prop :=
  ∃ indices : List U32, (∀ index ∈ indices, index.val < keyCount) ∧ threshold.satisfiedBy indices = true

theorem light_clause_unsatisfiable (flat : WeightedThreshold) (clause : List Weight) (member : clause ∈ flat.clauses)
    (light : share (clause.map Weight.exact) < 1) (keyCount : Nat) : ¬ Satisfiable (.weighted flat) keyCount := by
  intro satisfiable
  obtain ⟨indices, _, satisfied⟩ := satisfiable
  rw [satisfied_by_holds, weighted_holds_at] at satisfied
  obtain ⟨before, after, split⟩ := List.append_of_mem member
  obtain ⟨_, _, enough⟩ := satisfied.2 before clause after split
  have less := share_sublist _ _ (signed_weights_sublist_all indices.toFinset before.flatten.length clause)
  exact absurd (lt_of_le_of_lt (le_trans enough less) light) (lt_irrefl 1)

theorem held_satisfiable (keys : List VerifyingKey) (threshold : SigningThreshold) (bytes : Bytes) (sigs : List Siger)
    (held : threshold.Holds (signers crypto keys bytes sigs)) : Satisfiable threshold keys.length := by
  refine ⟨(signers crypto keys bytes sigs).sort (· ≤ ·), ?_, ?_⟩
  · intro index member
    rw [Finset.mem_sort] at member
    exact signers_in_range crypto keys bytes sigs index member
  · rw [satisfied_by_holds, Finset.sort_toFinset]
    exact held

-- The keys in force have signed once, so their threshold can be met.
theorem seeded_satisfiable (genesis : Genesis) (start : KeyState) (seeded : Seeded crypto genesis start) :
    Satisfiable start.threshold start.keys.length := by
  cases seeded with
  | plain signed icp event rules => exact held_satisfiable crypto icp.keys icp.threshold _ _ rules.signatures
  | delegated signed evidence dip said event digestive rules authorized =>
      exact held_satisfiable crypto dip.inception.keys dip.inception.threshold _ _ rules.signatures

theorem advance_satisfiable (state next : KeyState) (call : KelCall) (before : Satisfiable state.threshold state.keys.length)
    (advance : Advance crypto state call next) : Satisfiable next.threshold next.keys.length := by
  cases advance with
  | rotation signed rot transferable event independent rules =>
      exact held_satisfiable crypto rot.keys rot.threshold _ _ rules.signatures
  | interaction signed ixn transferable event rules => exact before
  | delegatedRotation signed evidence drt said delegator transferable event digestive delegated rules authorized =>
      exact held_satisfiable crypto drt.rotation.keys drt.rotation.threshold _ _ rules.signatures

theorem well_formed_satisfied_exactly (genesis : Genesis) (start : KeyState) (seeded : genesis.incept crypto = .ok start)
    (calls : List KelCall) :
    (∀ (threshold : SigningThreshold) (keyCount : Nat), threshold.checkWellFormed keyCount = .ok () →
      (threshold.satisfiedBy (everyIndex keyCount) = true ↔ MeetsTogether threshold)) ∧
    Satisfiable (kelRun crypto start calls).threshold (kelRun crypto start calls).keys.length ∧
    ((kelRun crypto start calls).nextKeys ≠ [] →
      ((kelRun crypto start calls).nextThreshold.satisfiedBy (everyIndex (kelRun crypto start calls).nextKeys.length) = true ↔
        MeetsTogether (kelRun crypto start calls).nextThreshold)) := by
  have origin := (seeded_iff crypto genesis start).mp seeded
  refine ⟨?_, ?_, ?_⟩
  · intro threshold keyCount checked
    exact well_formed_together threshold keyCount ((check_well_formed_iff threshold keyCount).mp checked)
  · exact kel_invariant crypto (fun state => Satisfiable state.threshold state.keys.length)
      (fun state call next before advance => advance_satisfiable crypto state next call before advance)
      start (seeded_satisfiable crypto genesis start origin) calls
  · intro some'
    exact well_formed_together _ _ ((run_well_formed crypto genesis start origin calls).nextThreshold some')

namespace Sample

def half : WeightedThreshold where
  weights := [(1, 2)]
  clauseEnds := [1]
  covered := ⟨by decide, rfl⟩

def halfInception : InceptionEvent := { inception with nextThreshold := .weighted half }

def halfGenesis : Genesis := .plain ⟨.inception halfInception, [10], [sign 1 [10]], []⟩

end Sample

theorem half_unsatisfiable (keyCount : Nat) : ¬ Satisfiable (.weighted Sample.half) keyCount :=
  light_clause_unsatisfiable Sample.half [(1, 2)] (by decide) (by decide +kernel) keyCount

theorem well_formed_half :
    (¬ ∀ (threshold : SigningThreshold) (keyCount : Nat), threshold.checkWellFormed keyCount = .ok () →
      threshold.satisfiedBy (everyIndex keyCount) = true) ∧
    ∃ start, Sample.halfGenesis.incept Sample.scheme = .ok start ∧ start.nextKeys ≠ [] ∧
      ¬ Satisfiable start.nextThreshold start.nextKeys.length := by
  apply And.intro
  · intro satisfied
    have met := satisfied (.weighted Sample.half) 1 (by decide)
    refine half_unsatisfiable 1 ⟨everyIndex 1, ?_, met⟩
    intro index
    exact (mem_every_index 1 index).mp
  · exact ⟨KeyState.seed Sample.halfInception .transferable, by decide, by decide, half_unsatisfiable 1⟩

theorem well_formed_satisfied_exactly_sample :
    (∀ (threshold : SigningThreshold) (keyCount : Nat), threshold.checkWellFormed keyCount = .ok () →
      (threshold.satisfiedBy (everyIndex keyCount) = true ↔ MeetsTogether threshold)) ∧
    Satisfiable (kelRun Sample.scheme Sample.start [Sample.rotate]).threshold
      (kelRun Sample.scheme Sample.start [Sample.rotate]).keys.length ∧
    ((kelRun Sample.scheme Sample.start [Sample.rotate]).nextKeys ≠ [] →
      ((kelRun Sample.scheme Sample.start [Sample.rotate]).nextThreshold.satisfiedBy
          (everyIndex (kelRun Sample.scheme Sample.start [Sample.rotate]).nextKeys.length) = true ↔
        MeetsTogether (kelRun Sample.scheme Sample.start [Sample.rotate]).nextThreshold)) :=
  well_formed_satisfied_exactly Sample.scheme Sample.genesis Sample.start (by decide) [Sample.rotate]

end Cesr.Keri
