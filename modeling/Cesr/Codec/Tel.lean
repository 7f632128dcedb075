import Cesr.Codec.Deserialize
import Cesr.Events.Tel

set_option autoImplicit false

namespace Cesr.Codec

open Checks WriterJson Scanner

structure ParsedVcp where
  said : String
  registry : String
  issuer : String
  sn : String
  config : List String
  backerThreshold : ParsedCount
  backers : List String
  nonce : String
deriving DecidableEq, Repr

structure ParsedVrt where
  said : String
  registry : String
  prior : String
  sn : String
  backerThreshold : ParsedCount
  backerCuts : List String
  backerAdditions : List String
deriving DecidableEq, Repr

structure ParsedIss where
  said : String
  credential : String
  sn : String
  registry : String
  datetime : String
deriving DecidableEq, Repr

structure ParsedRev where
  said : String
  credential : String
  sn : String
  registry : String
  prior : String
  datetime : String
deriving DecidableEq, Repr

structure ParsedBis where
  said : String
  credential : String
  issuer : String
  sn : String
  anchor : ParsedSeal
  datetime : String
deriving DecidableEq, Repr

structure ParsedBrv where
  said : String
  credential : String
  sn : String
  prior : String
  anchor : ParsedSeal
  datetime : String
deriving DecidableEq, Repr

inductive ParsedTel where
  | registryInception (parsed : ParsedVcp)
  | registryRotation (parsed : ParsedVrt)
  | issue (parsed : ParsedIss)
  | revoke (parsed : ParsedRev)
  | backedIssue (parsed : ParsedBis)
  | backedRevoke (parsed : ParsedBrv)
deriving DecidableEq, Repr

namespace ParsedTel

def vcp : Scan ParsedVcp := do
  let said ← field ",\"d\":" stringValue
  let registry ← field ",\"i\":" stringValue
  let issuer ← field ",\"ii\":" stringValue
  let sn ← field ",\"s\":" stringValue
  let config ← field ",\"c\":" stringArray
  let backerThreshold ← field ",\"bt\":" ParsedCount.decode
  let backers ← field ",\"b\":" stringArray
  let nonce ← field ",\"n\":" stringValue
  bodyEnd ⟨said, registry, issuer, sn, config, backerThreshold, backers, nonce⟩

def vrt : Scan ParsedVrt := do
  let said ← field ",\"d\":" stringValue
  let registry ← field ",\"i\":" stringValue
  let prior ← field ",\"p\":" stringValue
  let sn ← field ",\"s\":" stringValue
  let backerThreshold ← field ",\"bt\":" ParsedCount.decode
  let backerCuts ← field ",\"br\":" stringArray
  let backerAdditions ← field ",\"ba\":" stringArray
  bodyEnd ⟨said, registry, prior, sn, backerThreshold, backerCuts, backerAdditions⟩

def iss : Scan ParsedIss := do
  let said ← field ",\"d\":" stringValue
  let credential ← field ",\"i\":" stringValue
  let sn ← field ",\"s\":" stringValue
  let registry ← field ",\"ri\":" stringValue
  let datetime ← field ",\"dt\":" stringValue
  bodyEnd ⟨said, credential, sn, registry, datetime⟩

def rev : Scan ParsedRev := do
  let said ← field ",\"d\":" stringValue
  let credential ← field ",\"i\":" stringValue
  let sn ← field ",\"s\":" stringValue
  let registry ← field ",\"ri\":" stringValue
  let prior ← field ",\"p\":" stringValue
  let datetime ← field ",\"dt\":" stringValue
  bodyEnd ⟨said, credential, sn, registry, prior, datetime⟩

def bis : Scan ParsedBis := do
  let said ← field ",\"d\":" stringValue
  let credential ← field ",\"i\":" stringValue
  let issuer ← field ",\"ii\":" stringValue
  let sn ← field ",\"s\":" stringValue
  let anchor ← field ",\"ra\":" ParsedSeal.decode
  let datetime ← field ",\"dt\":" stringValue
  bodyEnd ⟨said, credential, issuer, sn, anchor, datetime⟩

def brv : Scan ParsedBrv := do
  let said ← field ",\"d\":" stringValue
  let credential ← field ",\"i\":" stringValue
  let sn ← field ",\"s\":" stringValue
  let prior ← field ",\"p\":" stringValue
  let anchor ← field ",\"ra\":" ParsedSeal.decode
  let datetime ← field ",\"dt\":" stringValue
  bodyEnd ⟨said, credential, sn, prior, anchor, datetime⟩

def body (messageType : Spanned) : Scan ParsedTel :=
  if messageType.value = "vcp" then do
    let parsed ← vcp
    pure (.registryInception parsed)
  else if messageType.value = "vrt" then do
    let parsed ← vrt
    pure (.registryRotation parsed)
  else if messageType.value = "iss" then do
    let parsed ← iss
    pure (.issue parsed)
  else if messageType.value = "rev" then do
    let parsed ← rev
    pure (.revoke parsed)
  else if messageType.value = "bis" then do
    let parsed ← bis
    pure (.backedIssue parsed)
  else if messageType.value = "brv" then do
    let parsed ← brv
    pure (.backedRevoke parsed)
  else reject (.unknownMessageType messageType.value)

def scan : Scan ParsedTel := do
  let messageType ← ParsedEvent.head
  body messageType

def parse (raw : Bytes) (budget : JsonBudget) : Except CodecError ParsedTel := scanned scan raw budget

def messageType : ParsedTel → MessageType
  | .registryInception _ => .vcp
  | .registryRotation _ => .vrt
  | .issue _ => .iss
  | .revoke _ => .rev
  | .backedIssue _ => .bis
  | .backedRevoke _ => .brv

def said : ParsedTel → String
  | .registryInception parsed => parsed.said
  | .registryRotation parsed => parsed.said
  | .issue parsed => parsed.said
  | .revoke parsed => parsed.said
  | .backedIssue parsed => parsed.said
  | .backedRevoke parsed => parsed.said

end ParsedTel

def staticCodes (reason : String) (pairs : List (String × DigestCode)) : Except CodecError SadCodes :=
  (SadCodes.fromPairs pairs).mapError fun _ => .internal (.eventLayout reason)

def telSadConfig (messageType : MessageType) (code : DigestCode) : Except CodecError SadCodes :=
  match messageType with
  | .vcp => staticCodes "static TEL SAID configuration rejected" [("d", code), ("i", code)]
  | .vrt | .iss | .rev | .bis | .brv => staticCodes "static TEL SAID configuration rejected" [("d", code)]
  | _ => .error (.internal (.eventLayout "non-TEL ilk has no TEL SAID configuration"))

-- A registry is named by the digest of its inception.
def validateRegistryIdentity : ParsedTel → Except CodecError Unit
  | .registryInception parsed => rejectIf (parsed.registry ≠ parsed.said) (.deserialize .registryIdentifierMismatch)
  | _ => .ok ()

structure TelRead where
  event : TelEvent
  datetime : Option String
  nonce : Option (Matter NoncerCode)
deriving DecidableEq

def pinSn (wire : String) (pinned : U128) (ilk : String) : Except CodecError Unit := do
  let sn ← decode (numberFromWire "s" wire)
  rejectIf (sn.value ≠ pinned) (.deserialize (.telSequenceDomain ilk sn.value))

def eventSealOf : Seal → Except CodecError Seal
  | .event i s d => .ok (.event i s d)
  | _ => .error (.builder .nonEventBackerAnchor)

def eventAnchor (parsed : ParsedSeal) : Except CodecError Seal := do
  let anchor ← decode (sealFromWire "ra" parsed)
  eventSealOf anchor

def buildVcp (parsed : ParsedVcp) : Except CodecError TelRead := do
  let said ← decode (saidFromWire "d" parsed.said)
  pinSn parsed.sn 0 "vcp"
  let issuer ← decode (identifierFromWire "ii" parsed.issuer)
  let config ← decode (eachFromWire configTraitFromWire "c" parsed.config)
  let backers ← decode (eachFromWire basicPrefixFromWire "b" parsed.backers)
  (MemberSet.checkMembers backers "backers").mapError fun error => .deserialize (.memberSet error)
  let count ← decode (countFromWire "bt" parsed.backerThreshold)
  let backerThreshold ← (Toad.exact count backers.length).mapError fun error =>
    .deserialize (.backerThresholdOutOfRange "bt" error)
  let nonce ← decode (noncerFromWire "n" parsed.nonce)
  pure ⟨.registryInception ⟨said, issuer, config, backerThreshold, backers⟩, none, some nonce⟩

def buildVrt (parsed : ParsedVrt) : Except CodecError TelRead := do
  let said ← decode (saidFromWire "d" parsed.said)
  let registry ← decode (saidFromWire "i" parsed.registry)
  let prior ← decode (saidFromWire "p" parsed.prior)
  let sn ← decode (numberFromWire "s" parsed.sn)
  let count ← decode (countFromWire "bt" parsed.backerThreshold)
  let backerCuts ← decode (eachFromWire basicPrefixFromWire "br" parsed.backerCuts)
  let backerAdditions ← decode (eachFromWire basicPrefixFromWire "ba" parsed.backerAdditions)
  (MemberSet.checkDeltas backerCuts backerAdditions "backer cuts" "backer additions").mapError fun error =>
    .deserialize (.memberSet error)
  pure ⟨.registryRotation ⟨said, registry, prior, sn, Toad.fromWire count, backerCuts, backerAdditions⟩, none, none⟩

def buildIss (parsed : ParsedIss) : Except CodecError TelRead := do
  let said ← decode (saidFromWire "d" parsed.said)
  let credential ← decode (saidFromWire "i" parsed.credential)
  pinSn parsed.sn 0 "iss"
  let registry ← decode (saidFromWire "ri" parsed.registry)
  pure ⟨.issue ⟨said, credential, registry⟩, some parsed.datetime, none⟩

def buildRev (parsed : ParsedRev) : Except CodecError TelRead := do
  let said ← decode (saidFromWire "d" parsed.said)
  let credential ← decode (saidFromWire "i" parsed.credential)
  pinSn parsed.sn 1 "rev"
  let registry ← decode (saidFromWire "ri" parsed.registry)
  let prior ← decode (saidFromWire "p" parsed.prior)
  pure ⟨.revoke ⟨said, credential, registry, prior⟩, some parsed.datetime, none⟩

def buildBis (parsed : ParsedBis) : Except CodecError TelRead := do
  let said ← decode (saidFromWire "d" parsed.said)
  let credential ← decode (saidFromWire "i" parsed.credential)
  pinSn parsed.sn 0 "bis"
  let registry ← decode (saidFromWire "ii" parsed.issuer)
  let anchor ← eventAnchor parsed.anchor
  pure ⟨.backedIssue ⟨said, credential, registry, anchor⟩, some parsed.datetime, none⟩

def buildBrv (parsed : ParsedBrv) : Except CodecError TelRead := do
  let said ← decode (saidFromWire "d" parsed.said)
  let credential ← decode (saidFromWire "i" parsed.credential)
  pinSn parsed.sn 1 "brv"
  let prior ← decode (saidFromWire "p" parsed.prior)
  let anchor ← eventAnchor parsed.anchor
  pure ⟨.backedRevoke ⟨said, credential, prior, anchor⟩, some parsed.datetime, none⟩

def buildTel : ParsedTel → Except CodecError TelRead
  | .registryInception parsed => buildVcp parsed
  | .registryRotation parsed => buildVrt parsed
  | .issue parsed => buildIss parsed
  | .revoke parsed => buildRev parsed
  | .backedIssue parsed => buildBis parsed
  | .backedRevoke parsed => buildBrv parsed

section Deserialize

variable (library : KeyLibrary)

-- What a reader does with a parsed body does not depend on the budget of the parse.
def liftTel (raw : Bytes) (parsed : ParsedTel) : Except CodecError TelRead := do
  validateRegistryIdentity parsed
  let code ← decode (inferDigestCode parsed.said)
  let codes ← telSadConfig parsed.messageType code
  let _ ← codes.verify library raw
  buildTel parsed

def deserializeTel (raw : Bytes) (budget : JsonBudget) : Except CodecError TelRead := do
  checkJsonBody raw
  let parsed ← ParsedTel.parse raw budget
  liftTel library raw parsed

end Deserialize

end Cesr.Codec
