import Cesr.Keri.Duplicity

set_option autoImplicit false

namespace Cesr.Keri

open Checks Calls

variable (crypto : Crypto)

def DelegationContest.mirror (contest : DelegationContest) : DelegationContest :=
  ⟨contest.challenger, contest.incumbent⟩

structure LinkedContest where
  contest : DelegationContest
  delegatedOld : KeriEvent
  delegatedNew : KeriEvent
deriving DecidableEq

namespace LinkedContest

def mirror (level : LinkedContest) : LinkedContest :=
  ⟨level.contest.mirror, level.delegatedNew, level.delegatedOld⟩

def challengerPosition (level : LinkedContest) : Nat :=
  (level.contest.challenger.anchorPosition level.delegatedNew).getD 0

def incumbentPosition (level : LinkedContest) : Nat :=
  (level.contest.incumbent.anchorPosition level.delegatedOld).getD 0

def settled (level : LinkedContest) : Bool := level.contest.challenger.said == level.contest.incumbent.said

def favours (level : LinkedContest) : Bool :=
  level.contest.incumbent.sn.value < level.contest.challenger.sn.value ∨
    (level.contest.challenger.messageType = .drt ∧ level.contest.incumbent.messageType = .ixn) ∨
    (level.settled ∧ level.incumbentPosition < level.challengerPosition)

theorem settled_mirror (level : LinkedContest) : level.mirror.settled = level.settled :=
  BEq.comm

end LinkedContest

-- Both delegating events stand in one log and seal what stands below them.
def DelegationContest.Links (contest : DelegationContest) (expectedDelegator : Identifier) (level : Nat)
    (delegatedOld delegatedNew : KeriEvent) : Prop :=
  contest.incumbent.pfx = contest.challenger.pfx ∧ (level = 0 → contest.incumbent.pfx = expectedDelegator) ∧
    (contest.challenger.anchorPosition delegatedNew).isSome = true ∧
    (contest.incumbent.anchorPosition delegatedOld).isSome = true

instance (contest : DelegationContest) (expectedDelegator : Identifier) (level : Nat)
    (delegatedOld delegatedNew : KeriEvent) :
    Decidable (contest.Links expectedDelegator level delegatedOld delegatedNew) := by
  unfold DelegationContest.Links
  infer_instance

def linkedFrom (expectedDelegator : Identifier) (level : Nat) (delegatedOld delegatedNew : KeriEvent) :
    List DelegationContest → List LinkedContest
  | [] => []
  | contest :: rest =>
      if contest.Links expectedDelegator level delegatedOld delegatedNew then
        ⟨contest, delegatedOld, delegatedNew⟩ ::
          linkedFrom expectedDelegator (level + 1) contest.incumbent contest.challenger rest
      else []

theorem cascade_linked (delegator : Identifier) (contest : DelegationContest) (rest : List DelegationContest)
    (level : Nat) (old new : KeriEvent) (links : contest.Links delegator level old new) :
    cascadeFrom level old new delegator (contest :: rest) =
      if (LinkedContest.mk contest old new).favours then .ok .supersedes
      else if (LinkedContest.mk contest old new).settled then .ok .yields
      else cascadeFrom (level + 1) contest.incumbent contest.challenger delegator rest := by
  obtain ⟨pfx, bottom, challengerLinked, incumbentLinked⟩ := links
  obtain ⟨challengerPos, challengerFound⟩ := Option.isSome_iff_exists.mp challengerLinked
  obtain ⟨incumbentPos, incumbentFound⟩ := Option.isSome_iff_exists.mp incumbentLinked
  have matched : ¬ (contest.incumbent.pfx ≠ contest.challenger.pfx ∨ (level = 0 ∧ contest.incumbent.pfx ≠ delegator)) := by
    rintro (differs | ⟨first, differs⟩)
    · exact differs pfx
    · exact differs (bottom first)
  simp only [cascadeFrom, if_neg matched, challengerFound, incumbentFound, LinkedContest.favours, LinkedContest.settled,
    LinkedContest.challengerPosition, LinkedContest.incumbentPosition, Option.getD_some]
  by_cases later : contest.incumbent.sn.value < contest.challenger.sn.value
  · simp [later]
  · by_cases recovers : contest.challenger.messageType = .drt ∧ contest.incumbent.messageType = .ixn
    · simp [later, recovers]
    · by_cases same : contest.challenger.said = contest.incumbent.said
      · by_cases after : incumbentPos < challengerPos <;> simp [later, recovers, same, after]
      · simp [later, recovers, same]

theorem cascade_unlinked (delegator : Identifier) (contest : DelegationContest) (rest : List DelegationContest)
    (level : Nat) (old new : KeriEvent) (broken : ¬ contest.Links delegator level old new) :
    ∃ error, cascadeFrom level old new delegator (contest :: rest) = .error error := by
  unfold cascadeFrom
  split
  · exact ⟨_, rfl⟩
  · rename_i matched
    cases challengerPos : contest.challenger.anchorPosition new with
    | none => exact ⟨_, rfl⟩
    | some later =>
        cases incumbentPos : contest.incumbent.anchorPosition old with
        | none => exact ⟨_, rfl⟩
        | some earlier =>
            refine absurd ⟨?_, ?_, by rw [challengerPos]; rfl, by rw [incumbentPos]; rfl⟩ broken
            · exact not_not.mp fun differs => matched (.inl differs)
            · exact fun first => not_not.mp fun differs => matched (.inr ⟨first, differs⟩)

theorem cascade_supersedes (delegator : Identifier) (chain : List DelegationContest) (level : Nat)
    (old new : KeriEvent) :
    cascadeFrom level old new delegator chain = .ok .supersedes ↔
      Climb.wins LinkedContest.favours LinkedContest.settled (linkedFrom delegator level old new chain) = true := by
  induction chain generalizing level old new with
  | nil => simp [cascadeFrom, linkedFrom, Climb.wins]
  | cons contest rest ih =>
      by_cases links : contest.Links delegator level old new
      · rw [cascade_linked delegator contest rest level old new links, linkedFrom, if_pos links, Climb.wins]
        by_cases favoured : (LinkedContest.mk contest old new).favours = true
        · simp [favoured]
        · by_cases ended : (LinkedContest.mk contest old new).settled = true
          · simp [favoured, ended]
          · simp [favoured, ended, ih]
      · obtain ⟨error, failed⟩ := cascade_unlinked delegator contest rest level old new links
        simp [failed, linkedFrom, links, Climb.wins]

theorem cascade_not_duplicate (delegator : Identifier) (chain : List DelegationContest) (level : Nat)
    (old new : KeriEvent) : cascadeFrom level old new delegator chain ≠ .ok .duplicate := by
  induction chain generalizing level old new with
  | nil => exact nofun
  | cons contest rest ih =>
      by_cases links : contest.Links delegator level old new
      · rw [cascade_linked delegator contest rest level old new links]
        split
        · exact nofun
        · split
          · exact nofun
          · exact ih (level + 1) contest.incumbent contest.challenger
      · obtain ⟨error, failed⟩ := cascade_unlinked delegator contest rest level old new links
        rw [failed]
        exact nofun

theorem mirror_links (delegator : Identifier) (contest : DelegationContest) (level : Nat) (old new : KeriEvent) :
    contest.mirror.Links delegator level new old ↔ contest.Links delegator level old new := by
  apply Iff.intro
  · rintro ⟨pfx, bottom, incumbentLinked, challengerLinked⟩
    exact ⟨pfx.symm, fun first => pfx.symm.trans (bottom first), challengerLinked, incumbentLinked⟩
  · rintro ⟨pfx, bottom, challengerLinked, incumbentLinked⟩
    exact ⟨pfx.symm, fun first => pfx.symm.trans (bottom first), incumbentLinked, challengerLinked⟩

theorem linked_mirror (delegator : Identifier) (chain : List DelegationContest) (level : Nat) (old new : KeriEvent) :
    linkedFrom delegator level new old (chain.map DelegationContest.mirror) =
      (linkedFrom delegator level old new chain).map LinkedContest.mirror := by
  induction chain generalizing level old new with
  | nil => rfl
  | cons contest rest ih =>
      have both := mirror_links delegator contest level old new
      simp only [List.map_cons, linkedFrom]
      by_cases links : contest.Links delegator level old new
      · rw [if_pos (both.mpr links), if_pos links, List.map_cons]
        exact congrArg _ (ih (level + 1) contest.incumbent contest.challenger)
      · rw [if_neg (mt both.mp links), if_neg links, List.map_nil]

theorem judge_rotations (state : KeyState) (old new : DelegatedRotationEvent) (chain : List DelegationContest)
    (delegator : Identifier) (delegated : state.delegator = some delegator)
    (known : Recorded state (.delegatedRotation old)) (level : new.rotation.sn.value = old.rotation.sn.value)
    (identifier : new.rotation.pfx = state.pfx) :
    judgeSameSn state (.delegatedRotation new) (.delegatedRotation old) chain =
      if old.rotation.sn.value = state.lastEst.sn.value then
        cascade (.delegatedRotation new) (.delegatedRotation old) chain delegator
      else .ok (saidVerdict (.delegatedRotation new) (.delegatedRotation old)) := by
  rw [judge_recorded state (.delegatedRotation new) _ chain known level identifier nofun fun _ => by rw [delegated]; rfl]
  have behind : ¬ state.lastEst.sn.value < old.rotation.sn.value := fun after => nomatch known.later after
  simp only [recoveryVerdict, KeriEvent.sn, level, delegated]
  by_cases top : old.rotation.sn.value = state.lastEst.sn.value
  · rw [if_pos (le_of_eq top.symm), if_pos top]
  · have earlier : ¬ state.lastEst.sn.value ≤ old.rotation.sn.value :=
      fun reached => behind (lt_of_le_of_ne reached (Ne.symm top))
    rw [if_neg earlier, if_neg top]

theorem judge_redelivered (state : KeyState) (event : KeriEvent) (chain : List DelegationContest)
    (known : Recorded state event) :
    judgeSameSn state event event chain = .ok .duplicate ↔
      ¬ (event.messageType = .drt ∧ event.sn.value = state.lastEst.sn.value) := by
  have same : saidVerdict event event = .duplicate := if_pos rfl
  cases event with
  | delegatedRotation drt =>
      obtain ⟨delegator, delegated⟩ := Option.isSome_iff_exists.mp (known.delegated rfl)
      rw [judge_rotations state drt drt chain delegator delegated known rfl known.pfx]
      by_cases top : drt.rotation.sn.value = state.lastEst.sn.value
      · have undecided := cascade_not_duplicate delegator chain 0 (.delegatedRotation drt) (.delegatedRotation drt)
        simpa [KeriEvent.sn, KeriEvent.messageType, top, cascade] using undecided
      · simp [KeriEvent.sn, top, same]
  | rotation rot =>
      rw [judge_recorded state _ _ chain known rfl known.pfx known.plain known.delegated]
      have behind : ¬ state.lastEst.sn.value < rot.sn.value := fun after => nomatch known.later after
      simp [recoveryVerdict, KeriEvent.sn, behind, same, KeriEvent.messageType]
  | inception icp =>
      rw [judge_recorded state _ _ chain known rfl known.pfx known.plain known.delegated]
      simp [recoveryVerdict, same, KeriEvent.messageType]
  | delegatedInception dip =>
      rw [judge_recorded state _ _ chain known rfl known.pfx known.plain known.delegated]
      simp [recoveryVerdict, same, KeriEvent.messageType]
  | interaction ixn =>
      rw [judge_recorded state _ _ chain known rfl known.pfx known.plain known.delegated]
      simp [recoveryVerdict, same, KeriEvent.messageType]

theorem redelivery_is_duplicate (genesis : Genesis) (start : KeyState) (seeded : genesis.incept crypto = .ok start)
    (calls : List KelCall) (event : KeriEvent) (inside : event ∈ history genesis (kelAccepted crypto start calls))
    (chain : List DelegationContest) :
    judgeSameSn (kelRun crypto start calls) event event chain = .ok .duplicate ↔
      ¬ (event.messageType = .drt ∧ event.sn.value = (kelRun crypto start calls).lastEst.sn.value) := by
  have origin := (seeded_iff crypto genesis start).mp seeded
  exact judge_redelivered _ event chain (run_recorded crypto genesis start origin calls event inside)

theorem redelivery_is_duplicate_sample :
    judgeSameSn (kelRun Sample.scheme Sample.start [Sample.rotate]) (.rotation Sample.rotation)
        (.rotation Sample.rotation) [] = .ok .duplicate ↔
      ¬ ((KeriEvent.rotation Sample.rotation).messageType = .drt ∧ (KeriEvent.rotation Sample.rotation).sn.value =
        (kelRun Sample.scheme Sample.start [Sample.rotate]).lastEst.sn.value) :=
  redelivery_is_duplicate Sample.scheme Sample.genesis Sample.start (by decide) [Sample.rotate]
    (.rotation Sample.rotation) (by decide) []

def SealLinks (delegatedOld delegatedNew : KeriEvent) : List DelegationContest → Prop
  | [] => True
  | contest :: rest => contest.challenger.AnchorsSeal delegatedNew ∧ contest.incumbent.AnchorsSeal delegatedOld ∧
      SealLinks contest.incumbent contest.challenger rest

-- The last accepted drt, delivered again without a chain, stays undecided.
theorem redelivery_undecided :
    ¬ ∀ (crypto : Crypto) (genesis : Genesis) (start : KeyState) (calls : List KelCall),
      genesis.incept crypto = .ok start → ∀ event ∈ history genesis (kelAccepted crypto start calls),
        ∀ chain, SealLinks event event chain →
          judgeSameSn (kelRun crypto start calls) event event chain = .ok .duplicate := by
  intro idempotent
  have duplicate := idempotent Sample.scheme Sample.delegatedGenesis Sample.delegatedStart [Sample.delegatedRotate]
    (by decide) (.delegatedRotation Sample.drt) (by decide) [] trivial
  exact absurd duplicate (by decide)

def KeyState.contestLevels (state : KeyState) (incoming recorded : KeriEvent) (chain : List DelegationContest) :
    List LinkedContest :=
  match state.delegator with
  | none => []
  | some delegator => linkedFrom delegator 0 recorded incoming chain

def KeyState.Contradicts (state : KeyState) (incoming recorded : KeriEvent) (chain : List DelegationContest) : Prop :=
  Climb.Contradictory LinkedContest.favours LinkedContest.settled LinkedContest.mirror
    (state.contestLevels incoming recorded chain)

theorem rotation_supersedes (state : KeyState) (old new : DelegatedRotationEvent) (chain : List DelegationContest)
    (delegator : Identifier) (delegated : state.delegator = some delegator)
    (known : Recorded state (.delegatedRotation old)) (level : new.rotation.sn.value = old.rotation.sn.value)
    (identifier : new.rotation.pfx = state.pfx) :
    judgeSameSn state (.delegatedRotation new) (.delegatedRotation old) chain = .ok .supersedes ↔
      old.rotation.sn.value = state.lastEst.sn.value ∧
        Climb.wins LinkedContest.favours LinkedContest.settled
          (linkedFrom delegator 0 (.delegatedRotation old) (.delegatedRotation new) chain) = true := by
  rw [judge_rotations state old new chain delegator delegated known level identifier]
  by_cases top : old.rotation.sn.value = state.lastEst.sn.value
  · rw [if_pos top, cascade, cascade_supersedes]
    exact ⟨fun won => ⟨top, won⟩, fun both => both.2⟩
  · rw [if_neg top]
    refine ⟨fun said => ?_, fun both => absurd both.1 top⟩
    unfold saidVerdict at said
    split at said <;> cases said

theorem accepted_rotation (state : KeyState) (call : KelCall) (drt : DelegatedRotationEvent)
    (event : call.event = .delegatedRotation drt) (taken : Accepts (call.step crypto) state) :
    (∃ delegator, state.delegator = some delegator) ∧ drt.rotation.pfx = state.pfx ∧
      drt.rotation.sn.value.val = state.sn.value.val + 1 ∧
      (after (call.step crypto) state).lastEst.sn.value = drt.rotation.sn.value := by
  have advance := accepted_advance crypto call state taken
  generalize after (call.step crypto) state = next at advance
  cases advance with
  | rotation signed rot transferable kind independent rules => cases kind.symm.trans event
  | interaction signed ixn transferable kind rules => cases kind.symm.trans event
  | delegatedRotation signed evidence own said delegator transferable kind digestive delegated rules authorized =>
      have same : own = drt := KeriEvent.delegatedRotation.inj (kind.symm.trans event)
      subst same
      exact ⟨⟨delegator, delegated⟩, rules.chains.identifier, rules.chains.next, rfl⟩

theorem run_records (genesis : Genesis) (start : KeyState) (seeded : Seeded crypto genesis start)
    (before : List KelCall) (call : KelCall) (more : List KelCall)
    (taken : Accepts (call.step crypto) (kelRun crypto start before)) :
    Recorded (kelRun crypto start (before ++ call :: more)) call.event := by
  refine run_recorded crypto genesis start seeded (before ++ call :: more) call.event ?_
  have log : kelAccepted crypto start (before ++ call :: more) = kelAccepted crypto start before ++
      call :: kelAccepted crypto (after (call.step crypto) (kelRun crypto start before)) more := by
    rw [kelAccepted, accepted_append, accepted]
    exact congrArg _ (if_pos taken)
  simp [history, log]

-- Two rival drts after one common history: the climb cannot give the contest to
-- each of them in turn, unless its own levels do.
theorem contest_antisymmetric (genesis : Genesis) (start : KeyState) (seeded : genesis.incept crypto = .ok start)
    (before : List KelCall) (recorded incoming : KelCall) (old new : DelegatedRotationEvent)
    (oldEvent : recorded.event = .delegatedRotation old) (newEvent : incoming.event = .delegatedRotation new)
    (folded : Accepts (recorded.step crypto) (kelRun crypto start before))
    (refolded : Accepts (incoming.step crypto) (kelRun crypto start before))
    (more : List KelCall) (chain : List DelegationContest) :
    (judgeSameSn (kelRun crypto start (before ++ recorded :: more)) incoming.event recorded.event chain =
        .ok .supersedes →
      judgeSameSn (kelRun crypto start (before ++ [incoming])) recorded.event incoming.event
        (chain.map DelegationContest.mirror) ≠ .ok .supersedes) ↔
      (kelRun crypto start (before ++ recorded :: more)).lastEst.sn.value ≠ recorded.event.sn.value ∨
        ¬ (kelRun crypto start (before ++ recorded :: more)).Contradicts incoming.event recorded.event chain := by
  have origin := (seeded_iff crypto genesis start).mp seeded
  obtain ⟨⟨delegator, delegated⟩, oldPfx, oldSn, -⟩ := accepted_rotation crypto _ recorded old oldEvent folded
  obtain ⟨-, newPfx, newSn, rewound⟩ := accepted_rotation crypto _ incoming new newEvent refolded
  have identity := run_identity crypto start before
  have stateIdentity := run_identity crypto start (before ++ recorded :: more)
  have rewoundIdentity := run_identity crypto start (before ++ [incoming])
  have known := run_records crypto genesis start origin before recorded more folded
  have rewoundKnown := run_records crypto genesis start origin before incoming [] refolded
  have last : (kelRun crypto start (before ++ [incoming])).lastEst.sn.value = new.rotation.sn.value := by
    rw [kelRun, run_append]
    exact rewound
  rw [oldEvent] at known ⊢
  rw [newEvent] at rewoundKnown ⊢
  have level : new.rotation.sn.value = old.rotation.sn.value := Fin.ext (newSn.trans oldSn.symm)
  have stateDelegated := (stateIdentity.delegator.trans identity.delegator.symm).trans delegated
  have rewoundDelegated := (rewoundIdentity.delegator.trans identity.delegator.symm).trans delegated
  have statePfx := newPfx.trans (identity.pfx.trans stateIdentity.pfx.symm)
  have rewoundPfx := oldPfx.trans (identity.pfx.trans rewoundIdentity.pfx.symm)
  have forward := rotation_supersedes _ old new chain delegator stateDelegated known level statePfx
  have backward := rotation_supersedes _ new old (chain.map DelegationContest.mirror) delegator rewoundDelegated
    rewoundKnown level.symm rewoundPfx
  have climbs := Climb.both_win_iff LinkedContest.favours LinkedContest.settled LinkedContest.mirror
    LinkedContest.settled_mirror (linkedFrom delegator 0 (.delegatedRotation old) (.delegatedRotation new) chain)
  rw [forward, ne_eq, backward, linked_mirror, KeyState.Contradicts, KeyState.contestLevels, stateDelegated, ← climbs]
  apply Iff.intro
  · intro antisymmetric
    by_cases top : old.rotation.sn.value = (kelRun crypto start (before ++ recorded :: more)).lastEst.sn.value
    · exact .inr fun both => antisymmetric ⟨top, both.1⟩ ⟨last.symm, both.2⟩
    · exact .inl (Ne.symm top)
  · rintro (behind | consistent) ⟨top, won⟩ ⟨-, lost⟩
    · exact behind top.symm
    · exact consistent ⟨won, lost⟩

-- A contest between two drts whose delegator is itself delegated.
namespace Sample

def middle : Identifier := .selfAddressing ⟨digest 70⟩

def contestedGenesis : Genesis :=
  .delegated ⟨.delegatedInception { dip with delegator := middle }, [12], [sign 5 [12]], []⟩ .hostAccepted

def contestedStart : KeyState := { delegatedStart with delegator := some middle }

def rivalDrt : DelegatedRotationEvent where
  rotation := { drt.rotation with said := ⟨digest 52⟩, nextKeys := [⟨digest 8⟩] }

def held : KelCall := .delegated ⟨.delegatedRotation drt, [13], [sign 6 [13]], []⟩ .hostAccepted

def rival : KelCall := .delegated ⟨.delegatedRotation rivalDrt, [14], [sign 6 [14]], []⟩ .hostAccepted

-- The delegator sealed the first drt in an ixn, and recovered below it with a
-- drt of its own that seals the second.
def middleInteraction : KeriEvent :=
  .interaction ⟨middle, Number.new 5, ⟨digest 71⟩, ⟨digest 72⟩, [sealOf (.delegatedRotation drt)]⟩

def middleRecovery : KeriEvent :=
  .delegatedRotation ⟨{ drt.rotation with
    pfx := middle, sn := Number.new 3, said := ⟨digest 73⟩, anchors := [sealOf (.delegatedRotation rivalDrt)] }⟩

def recovered : DelegationContest := ⟨middleInteraction, middleRecovery⟩

end Sample

theorem contest_antisymmetric_sample :
    (judgeSameSn (kelRun Sample.scheme Sample.contestedStart [Sample.held]) Sample.rival.event Sample.held.event [Sample.recovered] =
        .ok .supersedes →
      judgeSameSn (kelRun Sample.scheme Sample.contestedStart [Sample.rival]) Sample.held.event Sample.rival.event
        [Sample.recovered.mirror] ≠ .ok .supersedes) ↔
      (kelRun Sample.scheme Sample.contestedStart [Sample.held]).lastEst.sn.value ≠ Sample.held.event.sn.value ∨
        ¬ (kelRun Sample.scheme Sample.contestedStart [Sample.held]).Contradicts Sample.rival.event
          Sample.held.event [Sample.recovered] :=
  contest_antisymmetric Sample.scheme Sample.contestedGenesis Sample.contestedStart (by decide) [] Sample.held
    Sample.rival Sample.drt Sample.rivalDrt rfl rfl (by decide) (by decide) [] [Sample.recovered]

-- Each of the two drts displaces the other, the first by the kind of its
-- delegating event and the second by the later sn.
theorem contest_displaces_both_ways :
    ¬ ∀ (crypto : Crypto) (genesis : Genesis) (start : KeyState) (before : List KelCall) (recorded incoming : KelCall)
      (old new : DelegatedRotationEvent) (more : List KelCall) (chain : List DelegationContest),
      genesis.incept crypto = .ok start → recorded.event = .delegatedRotation old →
        incoming.event = .delegatedRotation new → Accepts (recorded.step crypto) (kelRun crypto start before) →
          Accepts (incoming.step crypto) (kelRun crypto start before) →
            judgeSameSn (kelRun crypto start (before ++ recorded :: more)) incoming.event recorded.event chain =
                .ok .supersedes →
              judgeSameSn (kelRun crypto start (before ++ [incoming])) recorded.event incoming.event
                (chain.map DelegationContest.mirror) ≠ .ok .supersedes := by
  intro antisymmetric
  have final := antisymmetric Sample.scheme Sample.contestedGenesis Sample.contestedStart [] Sample.held Sample.rival
    Sample.drt Sample.rivalDrt [] [Sample.recovered] (by decide) rfl rfl (by decide) (by decide) (by decide)
  exact absurd (by decide) final

end Cesr.Keri
