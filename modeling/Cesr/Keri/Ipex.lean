import Cesr.Core.KeyPair
import Cesr.Events.Exn
import Cesr.Keri.CredentialVerifier

set_option autoImplicit false

namespace Cesr.Keri

open Checks Calls

inductive ExchangeError where
  | senderMismatch
  | signatures (rejection : Rejection)
deriving DecidableEq

inductive ExnParseError where
  | unknownRoute (route : String)
  | attributeSaidForm (route : String)
  | missingField (name : String)
  | unknownEmbed (route label : String)
  | body
deriving DecidableEq, Repr

-- The strict readers of the payload and of the embedded bodies are taken as any
-- functions of the text and the limits.
structure IpexCodec extends CredentialCodec where
  applyPayload : String → JsonLimits → Option (String × Said × String × Identifier)
  grantPayload : String → JsonLimits → Option (String × Identifier)
  messageOnly : String → JsonLimits → Option String
  telEvent : Bytes → JsonLimits → Option TelEvent
  keriEvent : Bytes → JsonLimits → Option KeriEvent
  controllerSignatures : Bytes → Option (List Siger)

structure TypedEmbeds where
  acdc : Option Acdc
  iss : Option TelEvent
  anc : Option String

section Parse

variable (codec : IpexCodec)

def typedEmbed (route : IpexRoute) (limits : JsonLimits) (typed : TypedEmbeds) (entry : String × String) :
    Except ExnParseError TypedEmbeds :=
  if entry.1 = "acdc" ∧ (route = .offer ∨ route = .grant) then do
    let acdc ← present (codec.deserialize (asBytes entry.2) limits) .body
    pure { typed with acdc := some acdc }
  else if entry.1 = "iss" ∧ route = .grant then do
    let iss ← present (codec.telEvent (asBytes entry.2) limits) .body
    pure { typed with iss := some iss }
  else if entry.1 = "anc" ∧ route = .grant then do
    let _ ← present (codec.keriEvent (asBytes entry.2) limits) .body
    pure { typed with anc := some entry.2 }
  else .error (.unknownEmbed route.route entry.1)

def typedEmbeds (exn : Exn) (route : IpexRoute) (limits : JsonLimits) : Except ExnParseError TypedEmbeds :=
  match exn.embeds with
  | .map _ entries => entries.foldlM (typedEmbed codec route limits) ⟨none, none, none⟩
  | _ => .ok ⟨none, none, none⟩

def requiredAcdcEmbed (exn : Exn) (route : IpexRoute) (limits : JsonLimits) : Except ExnParseError Acdc := do
  let embeds ← typedEmbeds codec exn route limits
  present embeds.acdc (.missingField "acdc")

def attributesBlock (route : IpexRoute) : ExnAttributes → Except ExnParseError String
  | .block payload => .ok payload
  | .said _ => .error (.attributeSaidForm route.route)

def parsePayload (exn : Exn) (limits : JsonLimits) (attrs : String) : IpexRoute → Except ExnParseError IpexMessage
  | .apply => do
      let (message, schema, filter, recipient) ← present (codec.applyPayload attrs limits) .body
      pure (.apply ⟨message, schema, filter, recipient, exn.prior⟩)
  | .offer => do
      let message ← present (codec.messageOnly attrs limits) .body
      let acdc ← requiredAcdcEmbed codec exn .offer limits
      pure (.offer ⟨message, acdc, exn.prior⟩)
  | .agree => do
      let message ← present (codec.messageOnly attrs limits) .body
      pure (.agree ⟨message, exn.prior⟩)
  | .grant => do
      let (message, recipient) ← present (codec.grantPayload attrs limits) .body
      let embeds ← typedEmbeds codec exn .grant limits
      let acdc ← present embeds.acdc (.missingField "acdc")
      pure (.grant ⟨message, recipient, acdc, embeds.iss, embeds.anc, exn.prior⟩)
  | .admission => do
      let message ← present (codec.messageOnly attrs limits) .body
      pure (.admission ⟨message, exn.prior⟩)
  | .spurn => do
      let message ← present (codec.messageOnly attrs limits) .body
      pure (.spurn ⟨message, exn.prior⟩)

def IpexMessage.parse (exn : Exn) (limits : JsonLimits) : Except ExnParseError IpexMessage := do
  let route ← present (IpexRoute.fromRoute exn.route) (.unknownRoute exn.route)
  let attrs ← attributesBlock route exn.attributes
  parsePayload codec exn limits attrs route

end Parse

inductive IpexDecisionError where
  | missingConversation
  | missingSenderState
  | missingSchema
  | missingProofIssuer
  | missingPathedProof
  | missingAnchorState
  | credential (error : CredentialVerificationError)
  | authentication (error : ExchangeError)
  | malformedRoute
  | unsupportedStart
  | wrongPrior
  | wrongParticipant
  | wrongRecipient
  | wrongSchema
  | wrongCredential
  | invalidCredential
  | invalidPathedProof
  | incompleteGrant
  | issuanceMismatch
  | anchorMismatch
  | invalidTransition
  | duplicate
  | closed
deriving DecidableEq

structure IpexLimits where
  json : JsonLimits
  credential : CredentialVerificationLimits

structure IpexEvidence where
  senderState : Option KeyState
  schema : Option VerifiedSchema
  registry : Option RegistryState
  credentialState : Option CredentialState
  issuerState : Option KeyState
  anchorState : Option KeyState
  chain : List ChainCredential

structure IpexConversation where
  root : Said
  latest : Said
  route : IpexRoute
  applicant : Identifier
  issuer : Identifier
  schema : Said
  offeredCredential : Option Said
  lastSender : Identifier
deriving DecidableEq

variable (crypto : Crypto) (codec : IpexCodec)

def KeyState.verifyExn (state : KeyState) (msg : ExnMessage) : Except ExchangeError Verified := do
  rejectIf (state.pfx ≠ msg.exn.issuer) .senderMismatch
  (Authority.verify crypto ⟨state.keys, state.threshold⟩ msg.body msg.sigs).mapError .signatures

def authenticate (msg : ExnMessage) (state : Option KeyState) : Except IpexDecisionError Unit := do
  let accepted ← present state .missingSenderState
  let _ ← (accepted.verifyExn crypto msg).mapError .authentication
  pure ()

def allowedResponse : IpexRoute → IpexRoute → Bool
  | .apply, .offer | .apply, .spurn => true
  | .offer, .agree | .offer, .spurn => true
  | .agree, .grant | .agree, .spurn => true
  | .grant, .admission | .grant, .spurn => true
  | _, _ => false

abbrev IpexFailure := Failure IpexDecisionError

def deciding {α : Type} (decided : Except IpexDecisionError α) : Except IpexFailure α := decided.mapError .error

-- The block of the attributes; a credential with any other form binds nobody.
def attributesPayload (credential : Acdc) : Except IpexDecisionError String :=
  match credential.attributes with
  | some (.block payload) => .ok payload
  | _ => .error .wrongCredential

def bindCredential (credential : Acdc) (issuer applicant : Identifier) (schema : Said) : Except IpexFailure Unit := do
  rejectIf (credential.issuer ≠ issuer) (.error .wrongCredential)
  rejectIf (credential.schema ≠ .said schema) (.error .wrongSchema)
  let payload ← deciding (attributesPayload credential)
  let attrs ← present (codec.fromStr payload) (.error .wrongCredential)
  let name ← present applicant.toQb64 .panicked
  rejectIf ((attrs.get "i").bind Json.asStr ≠ some name) (.error .wrongCredential)

def onlyPath : List PathedAttachment → Except IpexDecisionError PathedAttachment
  | [] => .error .missingPathedProof
  | [path] => .ok path
  | _ => .error .invalidPathedProof

def verifyPathedAcdc (msg : ExnMessage) (acdcRaw : Bytes) (issuerState : Option KeyState) (expectedIssuer : Identifier) :
    Except IpexDecisionError Unit := do
  let state ← present issuerState .missingProofIssuer
  rejectIf (state.pfx ≠ expectedIssuer) .invalidPathedProof
  let path ← onlyPath msg.pathed
  rejectIf (path.pathQb64 ≠ "4AACA-e-acdc") .invalidPathedProof
  let signatures ← present (codec.controllerSignatures path.material) .invalidPathedProof
  let _ ← (Authority.verify crypto ⟨state.keys, state.threshold⟩ acdcRaw signatures).mapError fun _ =>
    IpexDecisionError.invalidPathedProof
  pure ()

def governingRegistry (credential : Acdc) : Except IpexDecisionError Said :=
  match credential.registry with
  | some (.said registry) => .ok registry
  | _ => .error .issuanceMismatch

def issuedUnder : TelEvent → Except IpexDecisionError (Said × Said)
  | .issue event => .ok (event.credentialSaid, event.registrySaid)
  | .backedIssue event => .ok (event.credentialSaid, event.registrySaid)
  | _ => .error .issuanceMismatch

def anchoredEvent (anchor : KeriEvent) : Except IpexDecisionError (Identifier × Number × Said) :=
  match anchor.anchors with
  | [.event i s d] => .ok (i, s, d)
  | _ => .error .anchorMismatch

def bindGrantAnchor (grant : IpexGrant) (credential : Acdc) (acceptedTel : Option CredentialState)
    (acceptedAnchor : Option KeyState) (limits : JsonLimits) : Except IpexDecisionError Unit := do
  let issue ← present grant.iss .incompleteGrant
  let registry ← governingRegistry credential
  let (issued, governed) ← issuedUnder issue
  rejectIf (issued ≠ credential.said ∨ governed ≠ registry) .issuanceMismatch
  let telState ← present acceptedTel (.credential (.status .missingCredentialState))
  rejectIf (issue.said ≠ telState.head ∨ issue.sn ≠ telState.sn) .issuanceMismatch
  let anchorRaw ← present grant.anc .incompleteGrant
  let anchor ← present (codec.keriEvent (asBytes anchorRaw) limits) .anchorMismatch
  let accepted ← present acceptedAnchor .missingAnchorState
  rejectIf (anchor.pfx ≠ credential.issuer ∨ anchor.pfx ≠ accepted.pfx ∨ anchor.sn ≠ accepted.sn ∨
    anchor.said ≠ accepted.latestSaid) .anchorMismatch
  let (i, s, d) ← anchoredEvent anchor
  rejectIf (i ≠ .selfAddressing credential.said ∨ s ≠ issue.sn ∨ d ≠ issue.said) .anchorMismatch

namespace IpexConversation

def isTerminal (conversation : IpexConversation) : Bool :=
  conversation.route == .admission || conversation.route == .spurn

def openingApply (msg : ExnMessage) : IpexMessage → Except IpexDecisionError IpexApply
  | .apply apply => .ok apply
  | _ => .error (if msg.exn.prior.isSome then .missingConversation else .unsupportedStart)

def begin (msg : ExnMessage) (senderState : Option KeyState) (limits : JsonLimits) :
    Except IpexDecisionError IpexConversation := do
  let typed ← (IpexMessage.parse codec msg.exn limits).mapError fun _ => IpexDecisionError.malformedRoute
  let apply ← openingApply msg typed
  rejectIf (msg.exn.prior.isSome = true) .wrongPrior
  rejectIf (msg.pathed ≠ []) .invalidPathedProof
  authenticate crypto msg senderState
  rejectIf (msg.exn.issuer = apply.recipient) .wrongRecipient
  let said ← present msg.exn.said .malformedRoute
  pure
    { root := said
      latest := said
      route := .apply
      applicant := msg.exn.issuer
      issuer := apply.recipient
      schema := apply.schema
      offeredCredential := none
      lastSender := msg.exn.issuer }

def expectedSender (conversation : IpexConversation) : Identifier :=
  if conversation.lastSender = conversation.applicant then conversation.issuer else conversation.applicant

def acceptOffer (conversation : IpexConversation) (msg : ExnMessage) (evidence : IpexEvidence) (limits : IpexLimits)
    (offer : IpexOffer) : Except IpexFailure Said := do
  let raw ← present (msg.exn.embed "acdc") (.error .malformedRoute)
  let schema ← present evidence.schema (.error .missingSchema)
  let credential ← (schema.validateCredential codec.toCredentialCodec (asBytes raw) limits.json).mapError fun _ =>
    Failure.error IpexDecisionError.invalidCredential
  bindCredential codec credential conversation.issuer conversation.applicant conversation.schema
  rejectIf (credential.said ≠ offer.acdc.said) (.error .wrongCredential)
  deciding (verifyPathedAcdc crypto codec msg (asBytes raw) evidence.issuerState conversation.issuer)
  pure credential.said

def acceptGrant (conversation : IpexConversation) (msg : ExnMessage) (evidence : IpexEvidence) (limits : IpexLimits)
    (grant : IpexGrant) : Except IpexFailure Unit := do
  rejectIf (grant.recipient ≠ conversation.applicant) (.error .wrongRecipient)
  let raw ← present (msg.exn.embed "acdc") (.error .malformedRoute)
  rejectIf (some grant.acdc.said ≠ conversation.offeredCredential) (.error .wrongCredential)
  deciding (verifyPathedAcdc crypto codec msg (asBytes raw) evidence.issuerState conversation.issuer)
  let credential ← (CredentialVerifier.verify codec.toCredentialCodec evidence.chain limits.credential
    ⟨asBytes raw, evidence.schema, evidence.registry, evidence.credentialState, evidence.issuerState⟩).1.mapError
      (Failure.map .credential)
  bindCredential codec credential conversation.issuer conversation.applicant conversation.schema
  rejectIf (credential.said ≠ grant.acdc.said) (.error .wrongCredential)
  deciding (bindGrantAnchor codec grant credential evidence.credentialState evidence.anchorState limits.json)

def acceptBody (conversation : IpexConversation) (msg : ExnMessage) (evidence : IpexEvidence) (limits : IpexLimits) :
    IpexMessage → Except IpexFailure (Option Said)
  | .offer offer => do
      let said ← acceptOffer crypto codec conversation msg evidence limits offer
      pure (some said)
  | .grant grant => do
      acceptGrant crypto codec conversation msg evidence limits grant
      pure none
  | .agree _ | .admission _ | .spurn _ => do
      rejectIf (msg.pathed ≠ []) (.error .invalidPathedProof)
      pure none
  | .apply _ => .error (.error .invalidTransition)

def ingestMut (msg : ExnMessage) (evidence : IpexEvidence) (limits : IpexLimits) :
    Mutator IpexConversation IpexFailure Unit := do
  let conversation ← get
  check (rejectIf (conversation.isTerminal = true) (.error .closed))
  let said ← check (present msg.exn.said (.error .malformedRoute))
  check (rejectIf (said = conversation.latest) (.error .duplicate))
  check (rejectIf (msg.exn.prior ≠ some conversation.latest) (.error .wrongPrior))
  check (deciding (authenticate crypto msg evidence.senderState))
  check (rejectIf (msg.exn.issuer ≠ conversation.expectedSender) (.error .wrongParticipant))
  let typed ← check ((IpexMessage.parse codec msg.exn limits.json).mapError fun _ =>
    Failure.error IpexDecisionError.malformedRoute)
  check (rejectIf (allowedResponse conversation.route typed.route = false) (.error .invalidTransition))
  let offered ← check (acceptBody crypto codec conversation msg evidence limits typed)
  modify fun conversation =>
    { conversation with
      latest := said
      route := typed.route
      lastSender := msg.exn.issuer
      offeredCredential := offered.or conversation.offeredCredential }

end IpexConversation

end Cesr.Keri
