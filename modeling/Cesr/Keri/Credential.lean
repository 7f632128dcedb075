import Cesr.Keri.RegistryRun

set_option autoImplicit false

namespace Cesr.Keri

open Checks Calls

variable (crypto : Crypto)

inductive CredentialStatus where
  | issued
  | revoked
  | unknown
deriving DecidableEq, Repr

structure CredentialState where
  registry : Said
  credential : Said
  sn : Number
  head : Said
deriving DecidableEq

namespace CredentialState

-- The matches on the event kind stand inside the two entries in the source.
def inceptionCoordinates (registry : RegistryState) (signed : SignedTel) (evidence : TelEvidence) :
    Except RegistryRejection (Said × Number × Said) :=
  match signed.event with
  | .issue iss => do
      rejectIf (iss.registrySaid ≠ registry.id) .inconsistentRegistry
      rejectIf (¬ registry.isBackerless) (.structural .simpleEventOnBackerRegistry)
      registry.authenticateIssuer signed evidence
      pure (iss.credentialSaid, iss.sn, iss.said)
  | .backedIssue bis => do
      rejectIf (bis.registrySaid ≠ registry.id) .inconsistentRegistry
      rejectIf registry.isBackerless (.structural .backedEventOnBackerlessRegistry)
      RegistryState.verifyKelAnchor signed registry.issuer signed.acceptedAnchor
      let (backers, toad) ← registry.resolveBackerAuthority bis.anchor evidence
      RegistryState.authenticateBacker crypto signed backers toad
      pure (bis.credentialSaid, bis.sn, bis.said)
  | _ => .error (.structural .notCredentialInception)

def incept (registry : RegistryState) (signed : SignedTel) (evidence : TelEvidence) :
    Except RegistryRejection CredentialState := do
  let (credential, sn, head) ← inceptionCoordinates crypto registry signed evidence
  rejectIf (sn.value ≠ 0) (.outOfOrder 0 sn.value)
  pure { registry := registry.id, credential := credential, sn := sn, head := head }

def transitionCoordinates (registry : RegistryState) (signed : SignedTel) (evidence : TelEvidence) :
    Except RegistryRejection (Said × Number × Said × Said) :=
  match signed.event with
  | .revoke rev => do
      rejectIf (rev.registrySaid ≠ registry.id) .inconsistentRegistry
      rejectIf (¬ registry.isBackerless) (.structural .simpleEventOnBackerRegistry)
      registry.authenticateIssuer signed evidence
      pure (rev.credentialSaid, rev.sn, rev.said, rev.prior)
  | .backedRevoke brv => do
      rejectIf (¬ RegistryState.anchorNamesRegistry brv.anchor registry.id) .inconsistentRegistry
      rejectIf registry.isBackerless (.structural .backedEventOnBackerlessRegistry)
      RegistryState.verifyKelAnchor signed registry.issuer signed.acceptedAnchor
      let (backers, toad) ← registry.resolveBackerAuthority brv.anchor evidence
      RegistryState.authenticateBacker crypto signed backers toad
      pure (brv.credentialSaid, brv.sn, brv.said, brv.prior)
  | _ => .error (.structural .notCredentialTransition)

def ingestMut (registry : RegistryState) (signed : SignedTel) (evidence : TelEvidence) :
    Mutator CredentialState RegistryRejection Unit := do
  let state ← get
  check (rejectIf (state.registry ≠ registry.id) .inconsistentRegistry)
  let (credential, sn, head, prior) ← check (transitionCoordinates crypto registry signed evidence)
  check (rejectIf (credential ≠ state.credential) .inconsistentCredential)
  check (checkNextTelSn state.sn.value sn.value)
  check (rejectIf (prior ≠ state.head) .priorDigestMismatch)
  modify fun state => { state with sn := sn, head := head }

def status (state : CredentialState) : CredentialStatus := if state.sn.value = 0 then .issued else .revoked

end CredentialState

structure CredentialCall where
  registry : RegistryState
  signed : SignedTel
  evidence : TelEvidence
deriving DecidableEq

def CredentialCall.step (call : CredentialCall) : Mutator CredentialState RegistryRejection Unit :=
  CredentialState.ingestMut crypto call.registry call.signed call.evidence

def credentialRun (start : CredentialState) (calls : List CredentialCall) : CredentialState :=
  run (CredentialCall.step crypto) start calls

def credentialAccepted (start : CredentialState) (calls : List CredentialCall) : List CredentialCall :=
  accepted (CredentialCall.step crypto) start calls

structure BackersReceipted (registry : RegistryState) (anchor : Seal) (signed : SignedTel) (evidence : TelEvidence) :
    Prop where
  anchored : ∃ kel, signed.acceptedAnchor = some (.fromHostAcceptedEvent kel) ∧ signed.AnchoredBy registry.issuer kel
  receipts : ∃ backers toad, registry.resolveBackerAuthority anchor evidence = .ok (backers, toad) ∧
    toad.value.val ≤ (signers crypto backers signed.signedBytes signed.backerSigs).card

inductive Issuance (registry : RegistryState) (signed : SignedTel) (evidence : TelEvidence) :
    Said → Number → Said → Prop where
  | simple (iss : Issue) (event : signed.event = .issue iss) (named : iss.registrySaid = registry.id)
      (backerless : registry.isBackerless = true) (authentic : registry.authenticateIssuer signed evidence = .ok ()) :
      Issuance registry signed evidence iss.credentialSaid iss.sn iss.said
  | backed (bis : BackedIssue) (event : signed.event = .backedIssue bis) (named : bis.registrySaid = registry.id)
      (backed : registry.isBackerless = false) (authentic : BackersReceipted crypto registry bis.anchor signed evidence) :
      Issuance registry signed evidence bis.credentialSaid bis.sn bis.said

inductive Revocation (registry : RegistryState) (signed : SignedTel) (evidence : TelEvidence) :
    Said → Number → Said → Said → Prop where
  | simple (rev : Revoke) (event : signed.event = .revoke rev) (named : rev.registrySaid = registry.id)
      (backerless : registry.isBackerless = true) (authentic : registry.authenticateIssuer signed evidence = .ok ()) :
      Revocation registry signed evidence rev.credentialSaid rev.sn rev.said rev.prior
  | backed (brv : BackedRevoke) (event : signed.event = .backedRevoke brv)
      (named : RegistryState.anchorNamesRegistry brv.anchor registry.id = true)
      (backed : registry.isBackerless = false) (authentic : BackersReceipted crypto registry brv.anchor signed evidence) :
      Revocation registry signed evidence brv.credentialSaid brv.sn brv.said brv.prior

theorem backers_receipted_iff (registry : RegistryState) (anchor : Seal) (signed : SignedTel) (evidence : TelEvidence) :
    (RegistryState.verifyKelAnchor signed registry.issuer signed.acceptedAnchor = .ok () ∧
      ∃ authority, registry.resolveBackerAuthority anchor evidence = .ok authority ∧
        RegistryState.authenticateBacker crypto signed authority.1 authority.2 = .ok ()) ↔
      BackersReceipted crypto registry anchor signed evidence := by
  simp only [verify_kel_anchor_ok, authenticate_backer_ok, Prod.exists]
  apply Iff.intro
  · intro passed
    exact ⟨passed.1, passed.2⟩
  · intro receipted
    exact ⟨receipted.anchored, receipted.receipts⟩

theorem inception_coordinates_ok (registry : RegistryState) (signed : SignedTel) (evidence : TelEvidence)
    (credential : Said) (sn : Number) (head : Said) :
    CredentialState.inceptionCoordinates crypto registry signed evidence = .ok (credential, sn, head) ↔
      Issuance crypto registry signed evidence credential sn head := by
  apply Iff.intro
  · intro issued
    cases event : signed.event with
    | issue iss =>
        simp only [CredentialState.inceptionCoordinates, event, bind_ok, exists_done, reject_if_ok, not_not, pure_ok,
          Prod.mk.injEq] at issued
        obtain ⟨named, backerless, authentic, rfl, rfl, rfl⟩ := issued
        exact .simple iss event named backerless authentic
    | backedIssue bis =>
        simp only [CredentialState.inceptionCoordinates, event, bind_ok, exists_done, reject_if_ok, not_not, pure_ok,
          Bool.not_eq_true, Prod.mk.injEq] at issued
        obtain ⟨named, backed, anchored, authority, resolved, receipts, rfl, rfl, rfl⟩ := issued
        exact .backed bis event named backed
          ((backers_receipted_iff crypto _ _ _ _).mp ⟨anchored, authority, resolved, receipts⟩)
    | _ => simp [CredentialState.inceptionCoordinates, event] at issued
  · intro issued
    cases issued with
    | simple iss event named backerless authentic =>
        simp [CredentialState.inceptionCoordinates, event, named, backerless, authentic]
    | backed bis event named backed authentic =>
        obtain ⟨anchored, authority, resolved, receipts⟩ := (backers_receipted_iff crypto _ _ _ _).mpr authentic
        simp [CredentialState.inceptionCoordinates, event, named, backed, anchored, resolved, receipts]

theorem transition_coordinates_ok (registry : RegistryState) (signed : SignedTel) (evidence : TelEvidence)
    (credential : Said) (sn : Number) (head prior : Said) :
    CredentialState.transitionCoordinates crypto registry signed evidence = .ok (credential, sn, head, prior) ↔
      Revocation crypto registry signed evidence credential sn head prior := by
  apply Iff.intro
  · intro revoked
    cases event : signed.event with
    | revoke rev =>
        simp only [CredentialState.transitionCoordinates, event, bind_ok, exists_done, reject_if_ok, not_not, pure_ok,
          Prod.mk.injEq] at revoked
        obtain ⟨named, backerless, authentic, rfl, rfl, rfl, rfl⟩ := revoked
        exact .simple rev event named backerless authentic
    | backedRevoke brv =>
        simp only [CredentialState.transitionCoordinates, event, bind_ok, exists_done, reject_if_ok, pure_ok,
          Bool.not_eq_true, Bool.not_eq_false, Prod.mk.injEq] at revoked
        obtain ⟨named, backed, anchored, authority, resolved, receipts, rfl, rfl, rfl, rfl⟩ := revoked
        exact .backed brv event named backed
          ((backers_receipted_iff crypto _ _ _ _).mp ⟨anchored, authority, resolved, receipts⟩)
    | _ => simp [CredentialState.transitionCoordinates, event] at revoked
  · intro revoked
    cases revoked with
    | simple rev event named backerless authentic =>
        simp [CredentialState.transitionCoordinates, event, named, backerless, authentic]
    | backed brv event named backed authentic =>
        obtain ⟨anchored, authority, resolved, receipts⟩ := (backers_receipted_iff crypto _ _ _ _).mpr authentic
        simp [CredentialState.transitionCoordinates, event, named, backed, anchored, resolved, receipts]

structure CredentialAdvance (state : CredentialState) (call : CredentialCall) (next : CredentialState)
    (sn : Number) (head : Said) : Prop where
  registry : state.registry = call.registry.id
  revocation : Revocation crypto call.registry call.signed call.evidence state.credential sn head state.head
  chains : sn.value.val = state.sn.value.val + 1
  final : next = { state with sn := sn, head := head }

theorem credential_advance_iff (state next : CredentialState) (call : CredentialCall) :
    consume (call.step crypto) state = .ok next ↔ ∃ sn head, CredentialAdvance crypto state call next sn head := by
  simp only [CredentialCall.step, CredentialState.ingestMut, consume_get_bind, consume_check_bind, exists_done,
    reject_if_ok, not_not, Prod.exists, transition_coordinates_ok, check_next_tel_sn_ok, consume_modify]
  apply Iff.intro
  · intro passed
    obtain ⟨registry, _, sn, head, _, revocation, rfl, chains, rfl, final⟩ := passed
    exact ⟨sn, head, registry, revocation, chains, final.symm⟩
  · intro met
    obtain ⟨sn, head, registry, revocation, chains, final⟩ := met
    exact ⟨registry, _, sn, head, _, revocation, rfl, chains, rfl, final.symm⟩

theorem credential_accepted_advance (state : CredentialState) (call : CredentialCall)
    (taken : Accepts (call.step crypto) state) :
    ∃ sn head, CredentialAdvance crypto state call (after (call.step crypto) state) sn head :=
  (credential_advance_iff crypto state _ call).mp (consume_accepted _ state taken)

theorem credential_step_atomic (call : CredentialCall) : Atomic (call.step crypto) := by
  refine atomic_bind _ _ read_only_get fun state => ?_
  refine atomic_bind _ _ (read_only_check _) fun _ => ?_
  refine atomic_bind _ _ (read_only_check _) fun _ => ?_
  refine atomic_bind _ _ (read_only_check _) fun _ => ?_
  refine atomic_bind _ _ (read_only_check _) fun _ => ?_
  exact atomic_bind _ _ (read_only_check _) fun _ => atomic_modify _

theorem credential_incept_ok (registry : RegistryState) (signed : SignedTel) (evidence : TelEvidence)
    (start : CredentialState) :
    CredentialState.incept crypto registry signed evidence = .ok start ↔
      start.registry = registry.id ∧ start.sn.value = 0 ∧
        Issuance crypto registry signed evidence start.credential start.sn start.head := by
  simp only [CredentialState.incept, bind_ok, exists_done, Prod.exists, inception_coordinates_ok, reject_if_ok, not_not,
    pure_ok]
  apply Iff.intro
  · intro passed
    obtain ⟨credential, sn, head, issuance, first, rfl⟩ := passed
    exact ⟨rfl, first, issuance⟩
  · intro met
    obtain ⟨same, first, issuance⟩ := met
    refine ⟨_, _, _, issuance, first, ?_⟩
    rw [← same]

theorem revocation_sn (registry : RegistryState) (signed : SignedTel) (evidence : TelEvidence)
    (credential head prior : Said) (sn : Number)
    (revocation : Revocation crypto registry signed evidence credential sn head prior) : sn = Number.new 1 := by
  cases revocation <;> rfl

theorem advance_revokes (state next : CredentialState) (call : CredentialCall) (sn : Number) (head : Said)
    (advance : CredentialAdvance crypto state call next sn head) : state.status = .issued ∧ next.status = .revoked := by
  obtain ⟨registry, revocation, chains, rfl⟩ := advance
  have second := revocation_sn crypto _ _ _ _ _ _ sn revocation
  subst second
  have first : state.sn.value = 0 := Fin.ext (Nat.succ.inj chains).symm
  exact ⟨if_pos first, rfl⟩

theorem revoked_refuses (state : CredentialState) (call : CredentialCall) (revoked : state.status = .revoked) :
    ¬ Accepts (call.step crypto) state := by
  intro taken
  obtain ⟨sn, head, advance⟩ := credential_accepted_advance crypto state call taken
  have issued := (advance_revokes crypto state _ call sn head advance).1
  cases issued.symm.trans revoked

inductive CredentialHistory (start : CredentialState) : CredentialState → List CredentialCall → Prop where
  | issued : CredentialHistory start start []
  | revoked (call : CredentialCall) (state : CredentialState) (sn : Number) (head : Said)
      (advance : CredentialAdvance crypto start call state sn head) : CredentialHistory start state [call]

theorem credential_run_history (start : CredentialState) (calls : List CredentialCall) :
    CredentialHistory crypto start (credentialRun crypto start calls) (credentialAccepted crypto start calls) := by
  refine run_history (CredentialCall.step crypto) (credential_step_atomic crypto) (CredentialHistory crypto start) ?_
    start [] .issued calls
  intro state log call history taken
  cases history with
  | issued =>
      obtain ⟨sn, head, advance⟩ := credential_accepted_advance crypto start call taken
      exact .revoked call _ sn head advance
  | revoked earlier _ sn head advance =>
      have final := (advance_revokes crypto start state earlier sn head advance).2
      exact absurd taken (revoked_refuses crypto state call final)

theorem revoked_run (state : CredentialState) (revoked : state.status = .revoked) (calls : List CredentialCall) :
    credentialRun crypto state calls = state := by
  induction calls with
  | nil => rfl
  | cons call rest ih =>
      have same := credential_step_atomic crypto call state (revoked_refuses crypto state call revoked)
      rw [credentialRun, run, same]
      exact ih

def isBacked : TelEvent → Bool
  | .backedIssue _ | .backedRevoke _ => true
  | _ => false

theorem issuance_flavor (registry : RegistryState) (signed : SignedTel) (evidence : TelEvidence)
    (credential head : Said) (sn : Number) (issuance : Issuance crypto registry signed evidence credential sn head) :
    isBacked signed.event = !registry.isBackerless := by
  cases issuance with
  | simple iss event named backerless authentic => simp [event, backerless, isBacked]
  | backed bis event named backed authentic => simp [event, backed, isBacked]

theorem revocation_flavor (registry : RegistryState) (signed : SignedTel) (evidence : TelEvidence)
    (credential head prior : Said) (sn : Number)
    (revocation : Revocation crypto registry signed evidence credential sn head prior) :
    isBacked signed.event = !registry.isBackerless := by
  cases revocation with
  | simple rev event named backerless authentic => simp [event, backerless, isBacked]
  | backed brv event named backed authentic => simp [event, backed, isBacked]

theorem one_flavor (origin : RegistryState) (wellFormed : WellFormedRegistry origin) (earlier later : List TelCall)
    (signed : SignedTel) (evidence : TelEvidence) (start state : CredentialState) (call : CredentialCall)
    (sn : Number) (head : Said) (issuedAt : registryRun crypto origin earlier = call.registry)
    (issuance : Issuance crypto (registryRun crypto origin later) signed evidence start.credential start.sn start.head)
    (advance : CredentialAdvance crypto start call state sn head) :
    isBacked signed.event = !origin.isBackerless ∧ isBacked call.signed.event = !origin.isBackerless := by
  have before := (registry_run_history crypto origin wellFormed earlier).same.config
  have after := (registry_run_history crypto origin wellFormed later).same.config
  have first := issuance_flavor crypto _ _ _ _ _ _ issuance
  have second := revocation_flavor crypto _ _ _ _ _ _ _ advance.revocation
  rw [← issuedAt] at second
  rw [RegistryState.isBackerless] at first second ⊢
  rw [after] at first
  rw [before] at second
  exact ⟨first, second⟩

theorem history_bounded (start state : CredentialState) (log : List CredentialCall)
    (history : CredentialHistory crypto start state log) : log.length ≤ 1 := by
  cases history <;> simp

theorem history_status (start state : CredentialState) (log : List CredentialCall) (initial : start.status = .issued)
    (history : CredentialHistory crypto start state log) :
    state.status = if log = [] then .issued else .revoked := by
  cases history with
  | issued => exact initial
  | revoked call _ sn head advance => exact (advance_revokes crypto start state call sn head advance).2

theorem history_member (start state : CredentialState) (log : List CredentialCall)
    (history : CredentialHistory crypto start state log) (call : CredentialCall) (inside : call ∈ log) :
    ∃ sn head, CredentialAdvance crypto start call state sn head := by
  cases history with
  | issued => cases inside
  | revoked own _ sn head advance =>
      rw [List.mem_singleton.mp inside]
      exact ⟨sn, head, advance⟩

theorem revocation_is_permanent (registry : RegistryState) (signed : SignedTel) (evidence : TelEvidence)
    (start : CredentialState) (issued : CredentialState.incept crypto registry signed evidence = .ok start)
    (calls : List CredentialCall) :
    (start.status = .issued ∧ start.registry = registry.id ∧
        Issuance crypto registry signed evidence start.credential start.sn start.head) ∧
      CredentialHistory crypto start (credentialRun crypto start calls) (credentialAccepted crypto start calls) ∧
      (credentialAccepted crypto start calls).length ≤ 1 ∧
      ((credentialRun crypto start calls).status =
        if credentialAccepted crypto start calls = [] then .issued else .revoked) ∧
      ((credentialRun crypto start calls).status = .revoked → ∀ more,
        credentialRun crypto start (calls ++ more) = credentialRun crypto start calls) ∧
      (∀ call ∈ credentialAccepted crypto start calls, ∀ (origin : RegistryState) (earlier later : List TelCall),
        WellFormedRegistry origin → registryRun crypto origin earlier = call.registry →
          registryRun crypto origin later = registry →
            isBacked signed.event = !origin.isBackerless ∧ isBacked call.signed.event = !origin.isBackerless) ∧
      ∀ call : CredentialCall, ¬ Accepts (call.step crypto) (credentialRun crypto start calls) →
        after (call.step crypto) (credentialRun crypto start calls) = credentialRun crypto start calls := by
  obtain ⟨same, first, issuance⟩ := (credential_incept_ok crypto registry signed evidence start).mp issued
  have initial : start.status = .issued := if_pos first
  have history := credential_run_history crypto start calls
  refine ⟨⟨initial, same, issuance⟩, history, history_bounded crypto start _ _ history,
    history_status crypto start _ _ initial history, ?_, ?_, fun call => credential_step_atomic crypto call _⟩
  · intro revoked more
    rw [credentialRun, run_append]
    exact revoked_run crypto _ revoked more
  · intro call inside origin earlier later wellFormed revokedAt issuedAt
    obtain ⟨sn, head, advance⟩ := history_member crypto start _ _ history call inside
    subst issuedAt
    exact one_flavor crypto origin wellFormed earlier later signed evidence start _ call sn head revokedAt issuance
      advance

namespace Sample

def backerless : RegistryState :=
  RegistryState.seed { registryInception with config := [.noBackers], backerThreshold := ⟨0⟩, backers := [] }

def issueEvent : TelEvent := .issue ⟨⟨digest 121⟩, ⟨digest 120⟩, ⟨digest 110⟩⟩

def revokeEvent : TelEvent := .revoke ⟨⟨digest 122⟩, ⟨digest 120⟩, ⟨digest 110⟩, ⟨digest 121⟩⟩

def telSigned (event : TelEvent) (sn : U128) (said : UInt8) : SignedTel where
  event := event
  signedBytes := [22]
  source := some ⟨Number.new sn, ⟨digest said⟩⟩
  backerSigs := []
  acceptedAnchor := some (.fromHostAcceptedEvent (telAnchor sn said ⟨digest 120⟩ event))

def credentialStart : CredentialState := ⟨⟨digest 110⟩, ⟨digest 120⟩, Number.new 0, ⟨digest 121⟩⟩

def credentialRevoke : CredentialCall := ⟨backerless, telSigned revokeEvent 4 83, .issuer start none⟩

end Sample

theorem revocation_is_permanent_sample :
    (credentialAccepted Sample.scheme Sample.credentialStart [Sample.credentialRevoke]).length ≤ 1 ∧
      credentialRun Sample.scheme Sample.credentialStart ([Sample.credentialRevoke] ++ [Sample.credentialRevoke]) =
        credentialRun Sample.scheme Sample.credentialStart [Sample.credentialRevoke] := by
  have permanent := revocation_is_permanent Sample.scheme Sample.backerless (Sample.telSigned Sample.issueEvent 3 82)
    (.issuer Sample.start none) Sample.credentialStart (by decide) [Sample.credentialRevoke]
  exact ⟨permanent.2.2.1, permanent.2.2.2.2.1 (by decide) [Sample.credentialRevoke]⟩

end Cesr.Keri
