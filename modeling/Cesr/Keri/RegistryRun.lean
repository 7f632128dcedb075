import Cesr.Keri.Registry
import Cesr.Keri.Run

set_option autoImplicit false

namespace Cesr.Keri

open Checks Calls

variable (crypto : Crypto)

structure TelCall where
  signed : SignedTel
  evidence : TelEvidence
deriving DecidableEq

def TelCall.step (call : TelCall) : Mutator RegistryState RegistryRejection Unit :=
  RegistryState.ingestMut crypto call.signed call.evidence

def registryRun (start : RegistryState) (calls : List TelCall) : RegistryState := run (TelCall.step crypto) start calls

def registryAccepted (start : RegistryState) (calls : List TelCall) : List TelCall :=
  accepted (TelCall.step crypto) start calls

def SignedTel.Receipted (signed : SignedTel) (backers : List BasicPrefix) (toad : Toad) : Prop :=
  backers ≠ [] → toad.value.val ≤ (signatories crypto backers signed.signedBytes signed.backerSigs).card

structure RegistryInceptionRules (vcp : RegistryInception) (signed : SignedTel) (issuer : KeyState) : Prop where
  issuer : issuer.pfx = vcp.issuer
  backerless : ConfigTrait.noBackers ∈ vcp.config → vcp.backers = []
  distinct : vcp.backers.Nodup
  threshold : vcp.backerThreshold.Legal vcp.backers.length
  anchored : ∃ kel, signed.acceptedAnchor = some (.fromHostAcceptedEvent kel) ∧ signed.AnchoredBy vcp.issuer kel
  receipts : signed.Receipted crypto vcp.backers vcp.backerThreshold

def RegistryState.seed (vcp : RegistryInception) : RegistryState where
  id := vcp.said
  issuer := vcp.issuer
  sn := vcp.sn
  latest := vcp.said
  config := vcp.config
  backerThreshold := vcp.backerThreshold
  backers := vcp.backers

theorem receipts_ok (signed : SignedTel) (backers : List BasicPrefix) (toad : Toad) (distinct : backers.Nodup) :
    (if backers.isEmpty then pure () else RegistryState.authenticateBacker crypto signed backers toad) = .ok () ↔
      signed.Receipted crypto backers toad := by
  rw [SignedTel.Receipted, card_signatories crypto _ _ _ distinct, ← authenticate_backer_ok]
  cases backers with
  | nil => simp
  | cons member rest => simp

theorem registry_incept_ok (signed : SignedTel) (issuer : KeyState) (start : RegistryState) :
    RegistryState.incept crypto signed issuer = .ok start ↔
      ∃ vcp, signed.event = .registryInception vcp ∧ RegistryInceptionRules crypto vcp signed issuer ∧
        start = RegistryState.seed vcp := by
  cases event : signed.event with
  | registryInception vcp =>
      simp only [RegistryState.incept, event, bind_ok, exists_done, reject_if_ok, not_not, map_error_ok,
        MemberSet.check_members_ok, check_backer_threshold_ok, verify_kel_anchor_ok, pure_ok]
      apply Iff.intro
      · intro passed
        obtain ⟨sameIssuer, traits, distinct, threshold, anchored, receipts, rfl⟩ := passed
        have backerless : ConfigTrait.noBackers ∈ vcp.config → vcp.backers = [] := by simpa using traits
        exact ⟨vcp, rfl, ⟨sameIssuer, backerless, distinct, threshold, anchored,
          (receipts_ok crypto signed _ _ distinct).mp receipts⟩, rfl⟩
      · intro met
        obtain ⟨own, same, rules, rfl⟩ := met
        have kind : vcp = own := TelEvent.registryInception.inj same
        subst kind
        refine ⟨rules.issuer, by simpa using rules.backerless, rules.distinct, rules.threshold, rules.anchored, ?_, rfl⟩
        exact (receipts_ok crypto signed _ _ rules.distinct).mpr rules.receipts
  | registryRotation vrt => simp [RegistryState.incept, event]
  | issue iss => simp [RegistryState.incept, event]
  | revoke rev => simp [RegistryState.incept, event]
  | backedIssue bis => simp [RegistryState.incept, event]
  | backedRevoke brv => simp [RegistryState.incept, event]

def RegistryState.resolvedBackers (state : RegistryState) (vrt : RegistryRotation) : List BasicPrefix :=
  Delta.resolve state.backers vrt.backerCuts vrt.backerAdditions

def RegistryState.rotated (state : RegistryState) (vrt : RegistryRotation) : RegistryState :=
  { state with
    sn := vrt.sn, latest := vrt.said, backers := state.resolvedBackers vrt, backerThreshold := vrt.backerThreshold }

structure RegistryRotationRules (state : RegistryState) (vrt : RegistryRotation) (call : TelCall) : Prop where
  registry : vrt.registry = state.id
  backed : state.isBackerless = false
  next : vrt.sn.value.val = state.sn.value.val + 1
  prior : vrt.prior = state.latest
  issuer : ∃ keyState anchor, call.evidence = .issuer keyState anchor ∧ keyState.pfx = state.issuer
  anchored : ∃ kel, call.evidence.suppliedAnchor call.signed = some (.fromHostAcceptedEvent kel) ∧
    call.signed.AnchoredBy state.issuer kel
  deltas : Delta.Legal state.backers vrt.backerCuts vrt.backerAdditions
  threshold : vrt.backerThreshold.Legal (state.resolvedBackers vrt).length
  receipts : call.signed.Receipted crypto (state.resolvedBackers vrt) vrt.backerThreshold

structure RegistryAdvance (state : RegistryState) (call : TelCall) (next : RegistryState) (vrt : RegistryRotation) :
    Prop where
  event : call.signed.event = .registryRotation vrt
  rules : RegistryRotationRules crypto state vrt call
  final : next = state.rotated vrt

theorem registry_rotate_ok (state next : RegistryState) (call : TelCall) (vrt : RegistryRotation)
    (distinct : state.backers.Nodup) :
    consume (RegistryState.rotateMut crypto vrt call.signed call.evidence) state = .ok next ↔
      RegistryRotationRules crypto state vrt call ∧ next = state.rotated vrt := by
  simp only [RegistryState.rotateMut, consume_get_bind, consume_check_bind, exists_done, consume_modify, reject_if_ok,
    not_not, Bool.not_eq_true, check_next_tel_sn_ok, authenticate_issuer_ok, map_error_ok, resolve_backers_ok,
    check_backer_threshold_ok]
  apply Iff.intro
  · intro passed
    obtain ⟨registry, backed, sn, prior, ⟨issuer, anchored⟩, _, ⟨deltas, rfl⟩, threshold, receipts, rfl⟩ := passed
    have resolved : KeyState.updatedMembers state.backers vrt.backerCuts vrt.backerAdditions = state.resolvedBackers vrt :=
      updated_members_eq _ _ _ deltas
    rw [resolved] at threshold receipts ⊢
    have receipted := (receipts_ok crypto _ _ _ (Delta.resolve_nodup _ _ _ deltas distinct)).mp receipts
    exact ⟨⟨registry, backed, sn, prior, issuer, anchored, deltas, threshold, receipted⟩, rfl⟩
  · intro met
    obtain ⟨rules, rfl⟩ := met
    have resolved : KeyState.updatedMembers state.backers vrt.backerCuts vrt.backerAdditions = state.resolvedBackers vrt :=
      updated_members_eq _ _ _ rules.deltas
    refine ⟨rules.registry, rules.backed, rules.next, rules.prior, ⟨rules.issuer, rules.anchored⟩, _,
      ⟨rules.deltas, resolved.symm⟩, rules.threshold, ?_, rfl⟩
    exact (receipts_ok crypto _ _ _ (Delta.resolve_nodup _ _ _ rules.deltas distinct)).mpr rules.receipts

theorem registry_advance_iff (state next : RegistryState) (call : TelCall) (distinct : state.backers.Nodup) :
    consume (call.step crypto) state = .ok next ↔ ∃ vrt, RegistryAdvance crypto state call next vrt := by
  cases event : call.signed.event with
  | registryRotation vrt =>
      simp only [TelCall.step, RegistryState.ingestMut, event]
      rw [registry_rotate_ok crypto state next call vrt distinct]
      apply Iff.intro
      · intro passed
        obtain ⟨rules, final⟩ := passed
        exact ⟨vrt, event, rules, final⟩
      · intro met
        obtain ⟨own, kind, rules, final⟩ := met
        have same : vrt = own := TelEvent.registryRotation.inj (event.symm.trans kind)
        subst same
        exact ⟨rules, final⟩
  | _ =>
      simp only [TelCall.step, RegistryState.ingestMut, event, consume_throw, false_iff, not_exists]
      intro vrt advance
      cases event.symm.trans advance.event

theorem registry_accepted_advance (state : RegistryState) (call : TelCall) (distinct : state.backers.Nodup)
    (taken : Accepts (call.step crypto) state) :
    ∃ vrt, RegistryAdvance crypto state call (after (call.step crypto) state) vrt :=
  (registry_advance_iff crypto state _ call distinct).mp (consume_accepted _ state taken)

theorem registry_rotate_atomic (vrt : RegistryRotation) (signed : SignedTel) (evidence : TelEvidence) :
    Atomic (RegistryState.rotateMut crypto vrt signed evidence) := by
  refine atomic_bind _ _ read_only_get fun state => ?_
  refine atomic_bind _ _ (read_only_check _) fun _ => ?_
  refine atomic_bind _ _ (read_only_check _) fun _ => ?_
  refine atomic_bind _ _ (read_only_check _) fun _ => ?_
  refine atomic_bind _ _ (read_only_check _) fun _ => ?_
  refine atomic_bind _ _ (read_only_check _) fun _ => ?_
  refine atomic_bind _ _ (read_only_check _) fun backers => ?_
  refine atomic_bind _ _ (read_only_check _) fun _ => ?_
  exact atomic_bind _ _ (read_only_check _) fun _ => atomic_modify _

theorem registry_step_atomic (call : TelCall) : Atomic (call.step crypto) := by
  unfold TelCall.step RegistryState.ingestMut
  cases call.signed.event with
  | registryRotation vrt => exact registry_rotate_atomic crypto vrt call.signed call.evidence
  | _ => exact atomic_throw _

structure WellFormedRegistry (state : RegistryState) : Prop where
  distinct : state.backers.Nodup
  threshold : state.backerThreshold.Legal state.backers.length
  backerless : ConfigTrait.noBackers ∈ state.config → state.backers = []

structure SameRegistry (start state : RegistryState) : Prop where
  id : state.id = start.id
  issuer : state.issuer = start.issuer
  config : state.config = start.config

theorem seed_registry_well_formed (vcp : RegistryInception) (signed : SignedTel) (issuer : KeyState)
    (rules : RegistryInceptionRules crypto vcp signed issuer) : WellFormedRegistry (RegistryState.seed vcp) :=
  ⟨rules.distinct, rules.threshold, rules.backerless⟩

theorem backerless_iff (state : RegistryState) : state.isBackerless = true ↔ ConfigTrait.noBackers ∈ state.config := by
  simp [RegistryState.isBackerless]

theorem registry_advance_well_formed (state next : RegistryState) (call : TelCall) (vrt : RegistryRotation)
    (wellFormed : WellFormedRegistry state) (advance : RegistryAdvance crypto state call next vrt) :
    WellFormedRegistry next := by
  obtain ⟨event, rules, rfl⟩ := advance
  refine ⟨Delta.resolve_nodup _ _ _ rules.deltas wellFormed.distinct, rules.threshold, fun trait => ?_⟩
  have backerless := (backerless_iff state).mpr trait
  rw [rules.backed] at backerless
  cases backerless

def latestSaid (start : RegistryState) (log : List TelCall) : Said :=
  (log.map fun call => call.signed.event.said).getLastD start.latest

structure RegistryHistory (start state : RegistryState) (log : List TelCall) : Prop where
  wellFormed : WellFormedRegistry state
  same : SameRegistry start state
  counted : state.sn.value.val = start.sn.value.val + log.length
  latest : state.latest = latestSaid start log
  still : ConfigTrait.noBackers ∈ start.config → log = []

theorem registry_history_grows (start state next : RegistryState) (log : List TelCall) (call : TelCall)
    (vrt : RegistryRotation) (history : RegistryHistory start state log)
    (advance : RegistryAdvance crypto state call next vrt) : RegistryHistory start next (log ++ [call]) where
  wellFormed := registry_advance_well_formed crypto state next call vrt history.wellFormed advance
  same := by
    obtain ⟨event, rules, rfl⟩ := advance
    exact ⟨history.same.id, history.same.issuer, history.same.config⟩
  counted := by
    obtain ⟨event, rules, rfl⟩ := advance
    have next : vrt.sn.value.val = state.sn.value.val + 1 := rules.next
    rw [List.length_append, List.length_singleton, ← Nat.add_assoc, ← history.counted]
    exact next
  latest := by
    obtain ⟨event, rules, rfl⟩ := advance
    simp [latestSaid, RegistryState.rotated, event, TelEvent.said]
  still := by
    intro trait
    have backerless := (backerless_iff state).mpr (history.same.config ▸ trait)
    rw [advance.rules.backed] at backerless
    cases backerless

theorem registry_run_history (start : RegistryState) (wellFormed : WellFormedRegistry start) (calls : List TelCall) :
    RegistryHistory start (registryRun crypto start calls) (registryAccepted crypto start calls) := by
  refine run_history (TelCall.step crypto) (registry_step_atomic crypto) (RegistryHistory start) ?_ start [] ?_ calls
  · intro state log call history taken
    obtain ⟨vrt, advance⟩ := registry_accepted_advance crypto state call history.wellFormed.distinct taken
    exact registry_history_grows crypto start state _ log call vrt history advance
  · exact ⟨wellFormed, ⟨rfl, rfl, rfl⟩, rfl, rfl, fun _ => rfl⟩

theorem registry_run_invariant (signed : SignedTel) (issuer : KeyState) (start : RegistryState)
    (incepted : RegistryState.incept crypto signed issuer = .ok start) (calls : List TelCall) :
    RegistryHistory start (registryRun crypto start calls) (registryAccepted crypto start calls) ∧
      (∃ vcp, signed.event = .registryInception vcp ∧ start = RegistryState.seed vcp ∧
        RegistryInceptionRules crypto vcp signed issuer) ∧
      ∀ call : TelCall,
        (Accepts (call.step crypto) (registryRun crypto start calls) → ∃ vrt,
          RegistryAdvance crypto (registryRun crypto start calls) call
            (after (call.step crypto) (registryRun crypto start calls)) vrt) ∧
        (¬ Accepts (call.step crypto) (registryRun crypto start calls) →
          after (call.step crypto) (registryRun crypto start calls) = registryRun crypto start calls) := by
  obtain ⟨vcp, event, rules, origin⟩ := (registry_incept_ok crypto signed issuer start).mp incepted
  have wellFormed : WellFormedRegistry start := origin ▸ seed_registry_well_formed crypto vcp signed issuer rules
  have history := registry_run_history crypto start wellFormed calls
  refine ⟨history, ⟨vcp, event, origin, rules⟩, fun call => ⟨?_, ?_⟩⟩
  · exact registry_accepted_advance crypto _ call history.wellFormed.distinct
  · exact registry_step_atomic crypto call _

namespace Sample

def backerKey (seed : UInt8) : BasicPrefix := ⟨.ed25519N, List.replicate 32 seed, ""⟩

def telAnchor (sn : U128) (said : UInt8) (id : Said) (event : TelEvent) : KeriEvent :=
  .interaction ⟨.basic ⟨verkey 1⟩, Number.new sn, ⟨digest said⟩, ⟨digest 100⟩,
    [.event (.selfAddressing id) event.sn event.said]⟩

def registryInception : RegistryInception := ⟨⟨digest 110⟩, .basic ⟨verkey 1⟩, [], ⟨1⟩, [backerKey 7]⟩

def registryRotation : RegistryRotation :=
  ⟨⟨digest 111⟩, ⟨digest 110⟩, ⟨digest 110⟩, Number.new 1, ⟨2⟩, [], [backerKey 8]⟩

def registrySigned : SignedTel where
  event := .registryInception registryInception
  signedBytes := [20]
  source := some ⟨Number.new 1, ⟨digest 80⟩⟩
  backerSigs := [sign 7 [20]]
  acceptedAnchor :=
    some (.fromHostAcceptedEvent (telAnchor 1 80 registryInception.said (.registryInception registryInception)))

def registryStart : RegistryState := RegistryState.seed registryInception

def registryRotate : TelCall where
  signed :=
    { event := .registryRotation registryRotation
      signedBytes := [21]
      source := some ⟨Number.new 2, ⟨digest 81⟩⟩
      backerSigs := [sign 7 [21], { sign 8 [21] with index := 1 }]
      acceptedAnchor := none }
  evidence := .issuer start (some (telAnchor 2 81 registryInception.said (.registryRotation registryRotation)))

end Sample

theorem registry_run_invariant_sample :
    RegistryHistory Sample.registryStart (registryRun Sample.scheme Sample.registryStart [Sample.registryRotate])
        (registryAccepted Sample.scheme Sample.registryStart [Sample.registryRotate]) ∧
      ∃ vrt, RegistryAdvance Sample.scheme Sample.registryStart Sample.registryRotate
        (after (Sample.registryRotate.step Sample.scheme) Sample.registryStart) vrt := by
  have run := registry_run_invariant Sample.scheme Sample.registrySigned Sample.start Sample.registryStart (by decide)
  exact ⟨(run [Sample.registryRotate]).1, ((run []).2.2 Sample.registryRotate).1 (by decide)⟩

end Cesr.Keri
