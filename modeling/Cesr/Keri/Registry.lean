import Cesr.Events.Tel
import Cesr.Keri.KeyState
import Cesr.Lib.Calls

set_option autoImplicit false

namespace Cesr.Keri

open Checks Calls

variable (crypto : Crypto)

-- An anchor exists only as the extract of an accepted event.
structure AcceptedTelAnchor where
  pfx : Identifier
  sn : Number
  said : Said
  seals : List Seal
  extracted : ∃ event : KeriEvent, pfx = event.pfx ∧ sn = event.sn ∧ said = event.said ∧ seals = event.anchors
deriving DecidableEq

def AcceptedTelAnchor.fromHostAcceptedEvent (event : KeriEvent) : AcceptedTelAnchor :=
  ⟨event.pfx, event.sn, event.said, event.anchors, event, rfl, rfl, rfl, rfl⟩

structure TelAnchorCoordinate where
  sn : Number
  said : Said
deriving DecidableEq

structure SignedTel where
  event : TelEvent
  signedBytes : Bytes
  source : Option TelAnchorCoordinate
  backerSigs : List Siger
  acceptedAnchor : Option AcceptedTelAnchor
deriving DecidableEq

structure RegistryState where
  id : Said
  issuer : Identifier
  sn : Number
  latest : Said
  config : List ConfigTrait
  backerThreshold : Toad
  backers : List BasicPrefix
deriving DecidableEq

inductive TelEvidence where
  | missing
  | issuer (state : KeyState) (anchor : Option KeriEvent)
  | backer
  | backerAt (management : RegistryState)
deriving DecidableEq

def eventId : TelEvent → Said
  | .registryInception vcp => vcp.said
  | .registryRotation vrt => vrt.registry
  | .issue iss => iss.credentialSaid
  | .revoke rev => rev.credentialSaid
  | .backedIssue bis => bis.credentialSaid
  | .backedRevoke brv => brv.credentialSaid

def checkNextTelSn (priorSn actual : U128) : Except RegistryRejection Unit :=
  match checkedAdd priorSn 1 with
  | none => .error (.structural .sequenceNumberOverflow)
  | some expected => rejectIf (actual ≠ expected) (.outOfOrder expected actual)

namespace RegistryState

def isBackerless (state : RegistryState) : Bool := state.config.contains .noBackers

def sealNamesRegistry (i : Identifier) (id : Said) : Bool :=
  match i with
  | .selfAddressing said => said == id
  | .basic _ => false

def anchorNamesRegistry (anchor : Seal) (id : Said) : Bool :=
  match anchor with
  | .event i _ _ => sealNamesRegistry i id
  | _ => false

def verifyKelAnchor (signed : SignedTel) (issuer : Identifier) (candidate : Option AcceptedTelAnchor) :
    Except RegistryRejection Unit :=
  match signed.source with
  | none => .error .missingAnchor
  | some source =>
      match candidate with
      | none => .error .missingAnchor
      | some anchor =>
          rejectIf (anchor.pfx ≠ issuer ∨ anchor.sn ≠ source.sn ∨ anchor.said ≠ source.said ∨
            anchor.seals ≠ [.event (.selfAddressing (eventId signed.event)) signed.event.sn signed.event.said])
            .inconsistentAnchor

def checkBackerThreshold (count : Nat) (toad : Toad) : Except RegistryRejection Unit := do
  let _ ← (Toad.exact toad.value count).mapError .backerThreshold
  pure ()

def authenticateBacker (signed : SignedTel) (backers : List BasicPrefix) (toad : Toad) :
    Except RegistryRejection Unit :=
  let threshold := SigningThreshold.simple (toad.value.castLE (by decide))
  match Verifier.withKeys crypto backers threshold signed.signedBytes signed.backerSigs with
  | .ok _ => .ok ()
  | .error (.missingSignatures verified) => .error (.missingBackerReceipts verified toad.value)
  | .error error => .error (.signatures error)

def authenticateIssuer (state : RegistryState) (signed : SignedTel) (evidence : TelEvidence) :
    Except RegistryRejection Unit :=
  match evidence with
  | .missing => .error .missingIssuer
  | .backer | .backerAt _ => .error .inconsistentIssuer
  | .issuer keyState anchor => do
      rejectIf (keyState.pfx ≠ state.issuer) .inconsistentIssuer
      match anchor with
      | some event => verifyKelAnchor signed state.issuer (some (.fromHostAcceptedEvent event))
      | none => verifyKelAnchor signed state.issuer signed.acceptedAnchor

-- An older management event can only be judged against a retained snapshot.
def resolveBackerAuthority (state : RegistryState) (anchor : Seal) (evidence : TelEvidence) :
    Except RegistryRejection (List BasicPrefix × Toad) :=
  match anchor with
  | .event i s d => do
      rejectIf (¬ sealNamesRegistry i state.id) .inconsistentRegistry
      let (backers, toad) ← match evidence with
        | .backerAt management =>
            if management.id ≠ state.id ∨ management.issuer ≠ state.issuer ∨ management.config ≠ state.config ∨
                management.sn ≠ s ∨ management.latest ≠ d then
              .error .inconsistentManagement
            else .ok (management.backers, management.backerThreshold)
        | .backer =>
            if s.value ≠ state.sn.value ∨ d ≠ state.latest then .error (.unresolvedAnchor s.value)
            else .ok (state.backers, state.backerThreshold)
        | .missing => .error (.unresolvedAnchor s.value)
        | .issuer _ _ => .error .inconsistentIssuer
      (MemberSet.checkMembers backers "backers").mapError fun error => .backerSet (.membership error)
      checkBackerThreshold backers.length toad
      pure (backers, toad)
  | _ => .error .inconsistentManagement

def incept (signed : SignedTel) (issuer : KeyState) : Except RegistryRejection RegistryState :=
  match signed.event with
  | .registryInception vcp => do
      rejectIf (issuer.pfx ≠ vcp.issuer) .inconsistentIssuer
      rejectIf (vcp.config.contains .noBackers ∧ ¬ vcp.backers.isEmpty) (.structural .noBackersWithBackers)
      (MemberSet.checkMembers vcp.backers "backers").mapError fun error => .backerSet (.membership error)
      checkBackerThreshold vcp.backers.length vcp.backerThreshold
      verifyKelAnchor signed vcp.issuer signed.acceptedAnchor
      (if vcp.backers.isEmpty then pure () else authenticateBacker crypto signed vcp.backers vcp.backerThreshold)
      pure
        { id := vcp.said
          issuer := vcp.issuer
          sn := vcp.sn
          latest := vcp.said
          config := vcp.config
          backerThreshold := vcp.backerThreshold
          backers := vcp.backers }
  | _ => .error (.structural .notRegistryInception)

end RegistryState

def resolveBackers (prior : RegistryState) (vrt : RegistryRotation) : Except WitnessSetError (List BasicPrefix) := do
  let removals := vrt.backerCuts
  let additions := vrt.backerAdditions
  (MemberSet.checkDeltas removals additions "backer cuts" "backer additions").mapError .membership
  rejectIf (∃ removal ∈ removals, removal ∉ prior.backers) .removalNotCurrent
  rejectIf (∃ addition ∈ additions, addition ∈ prior.backers) .additionAlreadyPresent
  pure (KeyState.updatedMembers prior.backers removals additions)

namespace RegistryState

-- The issuer steps are those of the issuer path above, written out again in
-- the source. Threshold and receipts are judged against the resolved set.
def rotateMut (vrt : RegistryRotation) (signed : SignedTel) (evidence : TelEvidence) :
    Mutator RegistryState RegistryRejection Unit := do
  let state ← get
  check (rejectIf (vrt.registry ≠ state.id) .inconsistentRegistry)
  check (rejectIf state.isBackerless (.structural .rotationOnBackerlessRegistry))
  check (checkNextTelSn state.sn.value vrt.sn.value)
  check (rejectIf (vrt.prior ≠ state.latest) .priorDigestMismatch)
  check (state.authenticateIssuer signed evidence)
  let backers ← check ((resolveBackers state vrt).mapError .backerSet)
  check (checkBackerThreshold backers.length vrt.backerThreshold)
  check (if backers.isEmpty then pure () else authenticateBacker crypto signed backers vrt.backerThreshold)
  modify fun state =>
    { state with sn := vrt.sn, latest := vrt.said, backers := backers, backerThreshold := vrt.backerThreshold }

def ingestMut (signed : SignedTel) (evidence : TelEvidence) : Mutator RegistryState RegistryRejection Unit :=
  match signed.event with
  | .registryInception _ => throw .duplicateInception
  | .registryRotation vrt => rotateMut crypto vrt signed evidence
  | _ => throw (.structural .notManagementRotation)

end RegistryState

-- What an accepted event of the issuer's log says about a TEL event.
structure SignedTel.AnchoredBy (signed : SignedTel) (issuer : Identifier) (kel : KeriEvent) : Prop where
  issuer : kel.pfx = issuer
  source : signed.source = some ⟨kel.sn, kel.said⟩
  sole : kel.anchors = [.event (.selfAddressing (eventId signed.event)) signed.event.sn signed.event.said]

def TelEvidence.suppliedAnchor (evidence : TelEvidence) (signed : SignedTel) : Option AcceptedTelAnchor :=
  match evidence with
  | .issuer _ (some event) => some (.fromHostAcceptedEvent event)
  | _ => signed.acceptedAnchor

theorem check_next_tel_sn_ok (priorSn actual : U128) :
    checkNextTelSn priorSn actual = .ok () ↔ actual.val = priorSn.val + 1 := by
  rw [← check_next_sn_ok]
  unfold checkNextTelSn checkNextSn
  cases checkedAdd priorSn 1 <;> simp

theorem extracted_event (anchor : AcceptedTelAnchor) :
    ∃ event, anchor = AcceptedTelAnchor.fromHostAcceptedEvent event := by
  obtain ⟨pfx, sn, said, seals, event, rfl, rfl, rfl, rfl⟩ := anchor
  exact ⟨event, rfl⟩

theorem verify_kel_anchor_ok (signed : SignedTel) (issuer : Identifier) (candidate : Option AcceptedTelAnchor) :
    RegistryState.verifyKelAnchor signed issuer candidate = .ok () ↔
      ∃ kel, candidate = some (.fromHostAcceptedEvent kel) ∧ signed.AnchoredBy issuer kel := by
  unfold RegistryState.verifyKelAnchor
  apply Iff.intro
  · intro verified
    cases coordinate : signed.source with
    | none => simp [coordinate] at verified
    | some source =>
        cases candidate with
        | none => simp [coordinate] at verified
        | some anchor =>
            obtain ⟨kel, rfl⟩ := extracted_event anchor
            simp only [coordinate, reject_if_ok, not_or, not_not] at verified
            obtain ⟨sameIssuer, sn, said, sole⟩ := verified
            have same : source = ⟨kel.sn, kel.said⟩ := by
              cases source
              exact congrArg₂ _ sn.symm said.symm
            exact ⟨kel, rfl, sameIssuer, coordinate.trans (congrArg some same), sole⟩
  · intro met
    obtain ⟨kel, rfl, sameIssuer, coordinate, sole⟩ := met
    simp [coordinate, AcceptedTelAnchor.fromHostAcceptedEvent, sameIssuer, sole]

theorem check_backer_threshold_ok (count : Nat) (toad : Toad) :
    RegistryState.checkBackerThreshold count toad = .ok () ↔ toad.Legal count :=
  toad_checked_ok _ toad count

theorem authenticate_backer_ok (signed : SignedTel) (backers : List BasicPrefix) (toad : Toad) :
    RegistryState.authenticateBacker crypto signed backers toad = .ok () ↔
      toad.value.val ≤ (signers crypto backers signed.signedBytes signed.backerSigs).card := by
  have holds := simple_holds (toad.value.castLE (by decide)) (signers crypto backers signed.signedBytes signed.backerSigs)
  rw [Fin.val_castLE] at holds
  rw [← holds]
  dsimp only [RegistryState.authenticateBacker]
  cases verified : Verifier.withKeys crypto backers (.simple (toad.value.castLE (by decide))) signed.signedBytes
      signed.backerSigs with
  | ok valid =>
      have met := ((with_keys_ok crypto backers _ _ _ valid).mp verified).1
      simp [met]
  | error error =>
      obtain ⟨short, rfl⟩ := (with_keys_error crypto backers _ _ _ error).mp verified
      simp [short]

theorem authenticate_issuer_ok (state : RegistryState) (signed : SignedTel) (evidence : TelEvidence) :
    state.authenticateIssuer signed evidence = .ok () ↔
      (∃ keyState anchor, evidence = .issuer keyState anchor ∧ keyState.pfx = state.issuer) ∧
        ∃ kel, evidence.suppliedAnchor signed = some (.fromHostAcceptedEvent kel) ∧
          signed.AnchoredBy state.issuer kel := by
  rw [← verify_kel_anchor_ok]
  cases evidence with
  | missing => simp [RegistryState.authenticateIssuer]
  | backer => simp [RegistryState.authenticateIssuer]
  | backerAt management => simp [RegistryState.authenticateIssuer]
  | issuer keyState anchor =>
      cases anchor <;>
        simp [RegistryState.authenticateIssuer, TelEvidence.suppliedAnchor]

theorem resolve_backers_ok (prior : RegistryState) (vrt : RegistryRotation) (backers : List BasicPrefix) :
    resolveBackers prior vrt = .ok backers ↔
      Delta.Legal prior.backers vrt.backerCuts vrt.backerAdditions ∧
        backers = KeyState.updatedMembers prior.backers vrt.backerCuts vrt.backerAdditions := by
  simp only [resolveBackers, bind_ok, exists_done, map_error_ok, MemberSet.check_deltas_ok, reject_if_ok, pure_ok,
    not_exists, not_and, not_not]
  apply Iff.intro
  · intro passed
    obtain ⟨⟨cutsDistinct, additionsDistinct, separate⟩, current, new, same⟩ := passed
    exact ⟨⟨cutsDistinct, additionsDistinct, separate, current, new⟩, same.symm⟩
  · intro met
    obtain ⟨legal, same⟩ := met
    exact ⟨⟨legal.cutsDistinct, legal.additionsDistinct, legal.separate⟩, legal.cutsCurrent, legal.additionsNew,
      same.symm⟩

end Cesr.Keri
