import Cesr.Keri.Invariant

set_option autoImplicit false

namespace Cesr.Keri

open Calls

variable (crypto : Crypto)

-- The part of a state that decides who controls the identifier next.
structure Controls where
  keys : List VerifyingKey
  threshold : SigningThreshold
  nextKeys : List Digest
  nextThreshold : SigningThreshold
  witnesses : List BasicPrefix
  witnessThreshold : Toad
deriving DecidableEq

def KeyState.controls (state : KeyState) : Controls :=
  ⟨state.keys, state.threshold, state.nextKeys, state.nextThreshold, state.witnesses, state.witnessThreshold⟩

theorem seeded_plain_delegator (signed : Signed) (start : KeyState) (seeded : Seeded crypto (.plain signed) start) :
    start.delegator = none := by
  cases seeded
  rfl

theorem seeded_delegator (signed : Signed) (evidence : DelegationEvidence) (dip : DelegatedInceptionEvent)
    (start : KeyState) (event : signed.event = .delegatedInception dip)
    (seeded : Seeded crypto (.delegated signed evidence) start) :
    start.delegator = some dip.delegator ∧ evidence.Authorizes signed.event dip.delegator := by
  cases seeded with
  | delegated _ _ own said kind digestive rules authorized =>
      have same : own = dip := KeriEvent.delegatedInception.inj (kind.symm.trans event)
      subst same
      exact ⟨rfl, authorized⟩

theorem control_change (state : KeyState) (call : KelCall) (delegator : Identifier)
    (delegated : state.delegator = some delegator)
    (changed : (after (call.step crypto) state).controls ≠ state.controls) :
    Accepts (call.step crypto) state ∧ ∃ signed evidence drt, call = .delegated signed evidence ∧
      signed.event = .delegatedRotation drt ∧ evidence.Authorizes signed.event delegator := by
  by_cases taken : Accepts (call.step crypto) state
  · refine ⟨taken, ?_⟩
    have advance := accepted_advance crypto call state taken
    generalize after (call.step crypto) state = next at advance changed
    cases advance with
    | rotation signed rot transferable event independent rules => simp [independent] at delegated
    | interaction signed ixn transferable event rules => exact absurd rfl changed
    | delegatedRotation signed evidence drt said own transferable event digestive held rules authorized =>
        have same : own = delegator := Option.some.inj (held.symm.trans delegated)
        exact ⟨signed, evidence, drt, rfl, event, same ▸ authorized⟩
  · rw [step_atomic crypto call state taken] at changed
    exact absurd rfl changed

theorem plain_rotation_refused (state : KeyState) (call : KelCall) (rot : RotationEvent) (delegator : Identifier)
    (delegated : state.delegator = some delegator) (event : call.event = .rotation rot) :
    ¬ Accepts (call.step crypto) state := by
  intro taken
  have advance := accepted_advance crypto call state taken
  generalize after (call.step crypto) state = next at advance
  cases advance with
  | rotation signed own transferable kind independent rules => simp [independent] at delegated
  | interaction signed ixn transferable kind rules => cases kind.symm.trans event
  | delegatedRotation signed evidence drt said own transferable kind digestive held rules authorized =>
      cases kind.symm.trans event

theorem delegated_rotation_refused (state : KeyState) (call : KelCall) (drt : DelegatedRotationEvent)
    (independent : state.delegator = none) (event : call.event = .delegatedRotation drt) :
    ¬ Accepts (call.step crypto) state := by
  intro taken
  have advance := accepted_advance crypto call state taken
  generalize after (call.step crypto) state = next at advance
  cases advance with
  | rotation signed rot transferable kind own rules => cases kind.symm.trans event
  | interaction signed ixn transferable kind rules => cases kind.symm.trans event
  | delegatedRotation signed evidence own said delegator transferable kind digestive held rules authorized =>
      simp [independent] at held

-- Whoever the dip named is the delegator of the whole run: what the evidence
-- of the dip and of every later drt is checked against.
theorem delegation_closed (genesis : Genesis) (start : KeyState) (seeded : genesis.incept crypto = .ok start)
    (calls : List KelCall) :
    (∀ signed evidence dip, genesis = .delegated signed evidence → signed.event = .delegatedInception dip →
      (kelRun crypto start calls).delegator = some dip.delegator ∧
        evidence.Authorizes signed.event dip.delegator ∧
        ∀ call : KelCall,
          ((after (call.step crypto) (kelRun crypto start calls)).controls ≠ (kelRun crypto start calls).controls →
            Accepts (call.step crypto) (kelRun crypto start calls) ∧
              ∃ signed evidence drt, call = .delegated signed evidence ∧
                signed.event = .delegatedRotation drt ∧ evidence.Authorizes signed.event dip.delegator) ∧
          ∀ rot, call.event = .rotation rot → ¬ Accepts (call.step crypto) (kelRun crypto start calls)) ∧
      ∀ signed, genesis = .plain signed → ∀ (call : KelCall) (drt : DelegatedRotationEvent),
        call.event = .delegatedRotation drt → ¬ Accepts (call.step crypto) (kelRun crypto start calls) := by
  have origin := (seeded_iff crypto genesis start).mp seeded
  have kept := run_identity crypto start calls
  apply And.intro
  · rintro signed evidence dip rfl event
    obtain ⟨named, authorized⟩ := seeded_delegator crypto signed evidence dip start event origin
    have delegated := kept.delegator.trans named
    refine ⟨delegated, authorized, fun call => ⟨?_, ?_⟩⟩
    · exact control_change crypto _ call dip.delegator delegated
    · exact fun rot kind => plain_rotation_refused crypto _ call rot dip.delegator delegated kind
  · rintro signed rfl call drt event
    have independent := kept.delegator.trans (seeded_plain_delegator crypto signed start origin)
    exact delegated_rotation_refused crypto _ call drt independent event

theorem delegation_closed_sample :
    (Accepts (Sample.delegatedRotate.step Sample.scheme) (kelRun Sample.scheme Sample.delegatedStart []) ∧
      ∃ signed evidence drt, Sample.delegatedRotate = .delegated signed evidence ∧
        signed.event = .delegatedRotation drt ∧ evidence.Authorizes signed.event Sample.dip.delegator) ∧
      ¬ Accepts (Sample.rotate.step Sample.scheme) (kelRun Sample.scheme Sample.delegatedStart []) ∧
      ¬ Accepts (Sample.delegatedRotate.step Sample.scheme) (kelRun Sample.scheme Sample.start [Sample.rotate]) := by
  have delegated := (delegation_closed Sample.scheme Sample.delegatedGenesis Sample.delegatedStart (by decide) []).1
    _ _ Sample.dip rfl rfl
  have plain := (delegation_closed Sample.scheme Sample.genesis Sample.start (by decide) [Sample.rotate]).2 _ rfl
  refine ⟨(delegated.2.2 Sample.delegatedRotate).1 (by decide), ?_, plain Sample.delegatedRotate Sample.drt rfl⟩
  exact (delegated.2.2 Sample.rotate).2 Sample.rotation rfl

end Cesr.Keri
