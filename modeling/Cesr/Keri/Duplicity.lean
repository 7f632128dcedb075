import Cesr.Keri.Invariant
import Cesr.Lib.Climb

set_option autoImplicit false

namespace Cesr.Keri

open Checks Calls

variable (crypto : Crypto)

inductive SameSnVerdict where
  | duplicate
  | supersedes
  | duplicitous (recorded : Said)
  | yields
  | undecided
deriving DecidableEq, Repr

structure DelegationContest where
  incumbent : KeriEvent
  challenger : KeriEvent
deriving DecidableEq

inductive EvidenceError where
  | incomingIdentifierMismatch
  | recordedIdentifierMismatch
  | recordedHeadMismatch
  | recordedEstablishmentMismatch
  | recordedPostEstablishmentKind
  | delegatingIdentifierMismatch (level : Nat)
  | incompatibleEventKind (eventKind : MessageType) (delegated : Bool)
  | incomingNotStale (incomingSn stateSn : U128)
  | recordedSnMismatch (incomingSn recordedSn : U128)
  | sealNotFound (level : Nat)
deriving DecidableEq, Repr

def saidVerdict (incoming recorded : KeriEvent) : SameSnVerdict :=
  if incoming.said = recorded.said then .duplicate else .duplicitous recorded.said

def cascadeFrom (level : Nat) (delegatedOld delegatedNew : KeriEvent) (expectedDelegator : Identifier) :
    List DelegationContest → Except EvidenceError SameSnVerdict
  | [] => .ok .undecided
  | contest :: rest =>
      if contest.incumbent.pfx ≠ contest.challenger.pfx ∨
          (level = 0 ∧ contest.incumbent.pfx ≠ expectedDelegator) then
        .error (.delegatingIdentifierMismatch level)
      else
        match contest.challenger.anchorPosition delegatedNew with
        | none => .error (.sealNotFound level)
        | some challengerPos =>
            match contest.incumbent.anchorPosition delegatedOld with
            | none => .error (.sealNotFound level)
            | some incumbentPos =>
                -- A later delegating event wins, then a drt over an ixn, then the
                -- later seal of one event; a lower challenger only ties.
                if contest.incumbent.sn.value < contest.challenger.sn.value then .ok .supersedes
                else if contest.challenger.messageType = .drt ∧ contest.incumbent.messageType = .ixn then
                  .ok .supersedes
                else if contest.challenger.said = contest.incumbent.said then
                  .ok (if incumbentPos < challengerPos then .supersedes else .yields)
                else cascadeFrom (level + 1) contest.incumbent contest.challenger expectedDelegator rest

def cascade (incoming recorded : KeriEvent) (chain : List DelegationContest) (expectedDelegator : Identifier) :
    Except EvidenceError SameSnVerdict :=
  cascadeFrom 0 recorded incoming expectedDelegator chain

def expectedKind (delegated first : Bool) : MessageType :=
  match delegated, first with
  | false, true => .icp
  | false, false => .rot
  | true, true => .dip
  | true, false => .drt

def checkRecordedHistory (state : KeyState) (recorded : KeriEvent) (recordedSn : U128) (delegated : Bool) :
    Except EvidenceError Unit :=
  if recordedSn = state.lastEst.sn.value then
    rejectIf (recorded.said ≠ state.lastEst.said ∨ recorded.messageType ≠ expectedKind delegated (recordedSn = 0))
      .recordedEstablishmentMismatch
  else
    rejectIf (state.lastEst.sn.value < recordedSn ∧ recorded.messageType ≠ .ixn) .recordedPostEstablishmentKind

def recoveryVerdict (state : KeyState) (incoming recorded : KeriEvent) (chain : List DelegationContest) :
    Except EvidenceError SameSnVerdict :=
  match incoming with
  | .inception _ | .delegatedInception _ | .interaction _ => .ok (saidVerdict incoming recorded)
  | .rotation _ =>
      if state.lastEst.sn.value < incoming.sn.value then .ok .supersedes else .ok (saidVerdict incoming recorded)
  | .delegatedRotation _ =>
      if state.lastEst.sn.value ≤ incoming.sn.value then
        match recorded with
        | .interaction _ => .ok .supersedes
        | .delegatedRotation _ =>
            match state.delegator with
            | none => .error (.incompatibleEventKind incoming.messageType false)
            | some delegator => cascade incoming recorded chain delegator
        | .inception _ | .delegatedInception _ | .rotation _ => .ok (saidVerdict incoming recorded)
      else .ok (saidVerdict incoming recorded)

def judgeSameSn (state : KeyState) (incoming recorded : KeriEvent) (chain : List DelegationContest) :
    Except EvidenceError SameSnVerdict := do
  let incomingSn := incoming.sn.value
  let stateSn := state.sn.value
  rejectIf (stateSn < incomingSn) (.incomingNotStale incomingSn stateSn)
  let recordedSn := recorded.sn.value
  rejectIf (recordedSn ≠ incomingSn) (.recordedSnMismatch incomingSn recordedSn)
  rejectIf (incoming.pfx ≠ state.pfx) .incomingIdentifierMismatch
  rejectIf (recorded.pfx ≠ state.pfx) .recordedIdentifierMismatch
  rejectIf (recordedSn = stateSn ∧
    (recorded.said ≠ state.latestSaid ∨ recorded.messageType ≠ state.latestMessageType)) .recordedHeadMismatch
  let delegated := state.delegator.isSome
  checkRecordedHistory state recorded recordedSn delegated
  rejectIf ((incoming.messageType = .rot ∧ delegated) ∨ (incoming.messageType = .drt ∧ ¬ delegated))
    (.incompatibleEventKind incoming.messageType delegated)
  recoveryVerdict state incoming recorded chain

structure Recorded (state : KeyState) (event : KeriEvent) : Prop where
  pfx : event.pfx = state.pfx
  stale : event.sn.value ≤ state.sn.value
  head : event.sn.value = state.sn.value → event.said = state.latestSaid ∧ event.messageType = state.latestMessageType
  bookmark : event.sn.value = state.lastEst.sn.value → event.said = state.lastEst.said ∧
    event.messageType = expectedKind state.delegator.isSome (event.sn.value = 0)
  later : state.lastEst.sn.value < event.sn.value → event.messageType = .ixn
  plain : event.messageType = .rot → state.delegator = none
  delegated : event.messageType = .drt → state.delegator.isSome = true

def history (genesis : Genesis) (log : List KelCall) : List KeriEvent := genesis.event :: log.map KelCall.event

theorem recorded_behind (state next : KeyState) (event : KeriEvent) (known : Recorded state event)
    (same : SameIdentity state next) (ahead : state.sn.value < next.sn.value)
    (established : state.sn.value < next.lastEst.sn.value) : Recorded next event where
  pfx := known.pfx.trans same.pfx.symm
  stale := le_trans known.stale (le_of_lt ahead)
  head := fun level => absurd level (ne_of_lt (lt_of_le_of_lt known.stale ahead))
  bookmark := fun level => absurd level (ne_of_lt (lt_of_le_of_lt known.stale established))
  later := fun after => absurd after (not_lt_of_ge (le_trans known.stale (le_of_lt established)))
  plain := fun kind => same.delegator.trans (known.plain kind)
  delegated := fun kind => same.delegator.symm ▸ known.delegated kind

theorem recorded_under_interaction (state : KeyState) (ixn : InteractionEvent) (event : KeriEvent)
    (known : Recorded state event) (ahead : state.sn.value < ixn.sn.value) :
    Recorded (state.applyInteraction ixn) event where
  pfx := known.pfx
  stale := le_trans known.stale (le_of_lt ahead)
  head := fun level => absurd level (ne_of_lt (lt_of_le_of_lt known.stale ahead))
  bookmark := known.bookmark
  later := known.later
  plain := known.plain
  delegated := known.delegated

theorem chains_ahead (state : KeyState) (pfx : Identifier) (sn : U128) (priorSaid : Said)
    (chains : state.Chains pfx sn priorSaid) : state.sn.value < sn := by
  have next := chains.next
  rw [Fin.lt_def]
  omega

theorem chains_not_first (state : KeyState) (pfx : Identifier) (sn : U128) (priorSaid : Said)
    (chains : state.Chains pfx sn priorSaid) : sn ≠ 0 := by
  intro first
  have next := chains.next
  rw [first] at next
  exact absurd next.symm (Nat.succ_ne_zero _)

theorem recorded_interaction (state : KeyState) (ixn : InteractionEvent) (signed : Signed)
    (established : state.lastEst.sn.value ≤ state.sn.value) (rules : InteractionRules crypto state ixn signed) :
    Recorded (state.applyInteraction ixn) (.interaction ixn) where
  pfx := rules.chains.identifier
  stale := le_refl _
  head := fun _ => ⟨rfl, rfl⟩
  bookmark := fun level =>
    absurd level.symm (ne_of_lt (lt_of_le_of_lt established (chains_ahead state _ _ _ rules.chains)))
  later := fun _ => rfl
  plain := fun kind => nomatch kind
  delegated := fun kind => nomatch kind

theorem recorded_rotation (state : KeyState) (rot : RotationEvent) (signed : Signed)
    (independent : state.delegator = none) (rules : RotationRules crypto state rot signed) :
    Recorded (state.rotated rot .rot) (.rotation rot) where
  pfx := rules.chains.identifier
  stale := le_refl _
  head := fun _ => ⟨rfl, rfl⟩
  bookmark := fun _ => by
    have notFirst : rot.sn.value ≠ 0 := chains_not_first state _ _ _ rules.chains
    refine ⟨rfl, ?_⟩
    change MessageType.rot = expectedKind state.delegator.isSome (decide (rot.sn.value = 0))
    simp [independent, notFirst, expectedKind]
  later := fun after => absurd after (lt_irrefl _)
  plain := fun _ => independent
  delegated := fun kind => nomatch kind

theorem recorded_delegated_rotation (state : KeyState) (drt : DelegatedRotationEvent) (signed : Signed)
    (delegator : Identifier) (delegated : state.delegator = some delegator)
    (rules : RotationRules crypto state drt.rotation signed) :
    Recorded (state.rotated drt.rotation .drt) (.delegatedRotation drt) where
  pfx := rules.chains.identifier
  stale := le_refl _
  head := fun _ => ⟨rfl, rfl⟩
  bookmark := fun _ => by
    have notFirst : drt.rotation.sn.value ≠ 0 := chains_not_first state _ _ _ rules.chains
    refine ⟨rfl, ?_⟩
    change MessageType.drt = expectedKind state.delegator.isSome (decide (drt.rotation.sn.value = 0))
    simp [delegated, notFirst, expectedKind]
  later := fun after => absurd after (lt_irrefl _)
  plain := fun kind => nomatch kind
  delegated := fun _ => by
    change state.delegator.isSome = true
    rw [delegated]
    rfl

theorem expected_kind_first (delegated : Bool) :
    expectedKind delegated true ≠ .rot ∧ expectedKind delegated true ≠ .drt := by
  cases delegated <;> exact ⟨nofun, nofun⟩

theorem recorded_first (state : KeyState) (event : KeriEvent) (first : event.sn.value = 0)
    (pfx : event.pfx = state.pfx) (said : event.said = state.latestSaid)
    (kind : event.messageType = state.latestMessageType) (established : state.lastEst.sn.value = 0)
    (bookmark : event.said = state.lastEst.said)
    (inception : event.messageType = expectedKind state.delegator.isSome true) : Recorded state event where
  pfx := pfx
  stale := first ▸ Fin.zero_le _
  head := fun _ => ⟨said, kind⟩
  bookmark := fun _ => ⟨bookmark, by simp [first, inception]⟩
  later := fun after => by
    rw [established, first] at after
    exact absurd after (lt_irrefl _)
  plain := fun rot => absurd (inception.symm.trans rot) (expected_kind_first _).1
  delegated := fun drt => absurd (inception.symm.trans drt) (expected_kind_first _).2

theorem recorded_genesis (genesis : Genesis) (start : KeyState) (seeded : Seeded crypto genesis start) :
    Recorded start genesis.event := by
  cases seeded with
  | plain signed icp event rules =>
      rw [Genesis.event, Genesis.signed, event]
      exact recorded_first _ _ rules.first rfl rfl rfl rfl rfl rfl
  | delegated signed evidence dip said event digestive rules authorized =>
      rw [Genesis.event, Genesis.signed, event]
      exact recorded_first _ _ rules.first rfl rfl rfl rfl rfl rfl

theorem recorded_advance (state next : KeyState) (call : KelCall) (wellFormed : WellFormedState state)
    (advance : Advance crypto state call next) :
    Recorded next call.event ∧ ∀ event, Recorded state event → Recorded next event := by
  have same := advance_identity crypto state next call advance
  cases advance with
  | rotation signed rot transferable event independent rules =>
      have ahead := chains_ahead state _ _ _ rules.chains
      refine ⟨?_, fun earlier known => recorded_behind state _ earlier known same ahead ahead⟩
      rw [KelCall.event, KelCall.signed, event]
      exact recorded_rotation crypto state rot signed independent rules
  | interaction signed ixn transferable event rules =>
      have ahead := chains_ahead state _ _ _ rules.chains
      refine ⟨?_, fun earlier known => recorded_under_interaction state ixn earlier known ahead⟩
      rw [KelCall.event, KelCall.signed, event]
      exact recorded_interaction crypto state ixn signed wellFormed.established rules
  | delegatedRotation signed evidence drt said delegator transferable event digestive delegated rules authorized =>
      have ahead := chains_ahead state _ _ _ rules.chains
      refine ⟨?_, fun earlier known => recorded_behind state _ earlier known same ahead ahead⟩
      rw [KelCall.event, KelCall.signed, event]
      exact recorded_delegated_rotation crypto state drt signed delegator delegated rules

theorem run_recorded (genesis : Genesis) (start : KeyState) (seeded : Seeded crypto genesis start)
    (calls : List KelCall) :
    ∀ event ∈ history genesis (kelAccepted crypto start calls), Recorded (kelRun crypto start calls) event := by
  refine (kel_history crypto
    (fun state log => WellFormedState state ∧ ∀ event ∈ history genesis log, Recorded state event)
    ?_ start ?_ calls).2
  · rintro state log call next ⟨wellFormed, known⟩ advance
    obtain ⟨own, earlier⟩ := recorded_advance crypto state next call wellFormed advance
    refine ⟨advance_well_formed crypto state next call wellFormed advance, fun event inside => ?_⟩
    rw [history, List.map_append, List.map_singleton, ← List.cons_append, List.mem_append,
      List.mem_singleton] at inside
    rcases inside with before | rfl
    · exact earlier event (known event before)
    · exact own
  · refine ⟨seeded_well_formed crypto genesis start seeded, fun event inside => ?_⟩
    rw [List.mem_singleton.mp inside]
    exact recorded_genesis crypto genesis start seeded

theorem judge_recorded (state : KeyState) (incoming recorded : KeriEvent) (chain : List DelegationContest)
    (known : Recorded state recorded) (level : incoming.sn.value = recorded.sn.value)
    (identifier : incoming.pfx = state.pfx) (plain : incoming.messageType = .rot → state.delegator = none)
    (delegated : incoming.messageType = .drt → state.delegator.isSome = true) :
    judgeSameSn state incoming recorded chain = recoveryVerdict state incoming recorded chain := by
  have stale : ¬ state.sn.value < recorded.sn.value := not_lt_of_ge known.stale
  have head : ¬ (recorded.sn.value = state.sn.value ∧
      (recorded.said ≠ state.latestSaid ∨ recorded.messageType ≠ state.latestMessageType)) := by
    rintro ⟨top, differs⟩
    obtain ⟨said, kind⟩ := known.head top
    exact differs.elim (absurd said) (absurd kind)
  have past : checkRecordedHistory state recorded recorded.sn.value state.delegator.isSome = .ok () := by
    unfold checkRecordedHistory
    split
    · rename_i top
      obtain ⟨said, kind⟩ := known.bookmark top
      simp [said, kind, rejectIf]
    · exact (reject_if_ok _ _ _).mpr fun fault => fault.2 (known.later fault.1)
  have compatible : ¬ ((incoming.messageType = .rot ∧ state.delegator.isSome = true) ∨
      (incoming.messageType = .drt ∧ ¬ state.delegator.isSome = true)) := by
    rintro (⟨kind, some⟩ | ⟨kind, absent⟩)
    · rw [plain kind] at some
      cases some
    · exact absent (delegated kind)
  simp only [judgeSameSn, rejectIf, if_neg stale, level, identifier, known.pfx, if_neg head, past, if_neg compatible,
    ne_eq, not_true, if_false, ok_bind]

end Cesr.Keri
