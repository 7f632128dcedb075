import Cesr.Codec.Said
import Cesr.Codec.Seal

set_option autoImplicit false

namespace Cesr

def Protocol.asStr : Protocol → String
  | .keri => "KERI"
  | .acdc => "ACDC"

namespace Codec

open Checks WriterJson Scanner

structure ParsedIcp where
  said : Spanned
  pfx : Spanned
  sn : String
  threshold : ParsedTholder
  keys : List String
  nextThreshold : ParsedTholder
  nextKeys : List String
  witnessThreshold : ParsedCount
  witnesses : List String
  config : List String
  anchors : List ParsedSeal
deriving DecidableEq, Repr

structure ParsedDip where
  icp : ParsedIcp
  delegator : String
deriving DecidableEq, Repr

structure ParsedRot where
  said : Spanned
  pfx : String
  sn : String
  prior : String
  threshold : ParsedTholder
  keys : List String
  nextThreshold : ParsedTholder
  nextKeys : List String
  witnessThreshold : ParsedCount
  witnessRemovals : List String
  witnessAdditions : List String
  anchors : List ParsedSeal
deriving DecidableEq, Repr

structure ParsedIxn where
  said : Spanned
  pfx : String
  sn : String
  prior : String
  anchors : List ParsedSeal
deriving DecidableEq, Repr

inductive ParsedEvent where
  | inception (parsed : ParsedIcp)
  | rotation (parsed : ParsedRot)
  | interaction (parsed : ParsedIxn)
  | delegatedInception (parsed : ParsedDip)
  | delegatedRotation (parsed : ParsedRot)
deriving DecidableEq, Repr

-- A body in another serialization, or with a version string of the second version.
def checkJsonBody (raw : Bytes) : Except CodecError Unit :=
  match raw.head?.bind fun first => (Stream.ColdCode.detect first).toOption with
  | some .cbor => .error (.version (.unsupportedSerializationKind .cbor))
  | some .messagePack => .error (.version (.unsupportedSerializationKind .mgpk))
  | some .cesrBinary => .error (.version (.unsupportedSerializationKind .cesr))
  | _ =>
      rejectIf (asBytes "\x7b\"v\":\"" <+: raw ∧ (VersionStringV2.parse (raw.drop 6)).isOk)
        (.version (.unsupportedCesrVersion .v2))

def Scanner.versionString (proto : Protocol) : Scan VersionString := do
  let sc ← get
  if sc.left.length < versionStringLen then reject (sc.err "17-byte version string")
  else
    let vs ← check ((VersionString.parse (sc.left.take versionStringLen)).mapError fun error => .version (.version error))
    check (rejectIf (vs.proto ≠ proto)
      (.version (.invalidVersionString ("expected " ++ proto.asStr ++ " protocol, got " ++ vs.proto.asStr))))
    check (rejectIf (¬ (vs.major = 1 ∧ vs.minor = 0)) (.version (.unsupportedProtocolVersion vs.proto vs.major vs.minor)))
    check (rejectIf (vs.kind ≠ .json) (.version (.invalidVersionString ("expected JSON, got " ++ vs.kind.asStr))))
    modify fun sc => sc.moved (sc.pos + versionStringLen)
    pure vs

def Scanner.declaredSize (vs : VersionString) : Scan Unit := do
  let sc ← get
  check (rejectIf (vs.size ≠ sc.input.length) (.version (.invalidVersionString
    ("version string size " ++ toString vs.size ++ " does not match actual size " ++ toString sc.input.length))))

def ParsedEvent.head : Scan Spanned := do
  expect "\x7b\"v\":\""
  let vs ← versionString .keri
  declaredSize vs
  field "\",\"t\":" string

def ParsedIcp.fields : Scan ParsedIcp := do
  let said ← field ",\"d\":" string
  let pfx ← field ",\"i\":" string
  let sn ← field ",\"s\":" stringValue
  let threshold ← field ",\"kt\":" ParsedTholder.decode
  let keys ← field ",\"k\":" stringArray
  let nextThreshold ← field ",\"nt\":" ParsedTholder.decode
  let nextKeys ← field ",\"n\":" stringArray
  let witnessThreshold ← field ",\"bt\":" ParsedCount.decode
  let witnesses ← field ",\"b\":" stringArray
  let config ← field ",\"c\":" stringArray
  let anchors ← field ",\"a\":" (delimitedList ParsedSeal.decode)
  pure ⟨said, pfx, sn, threshold, keys, nextThreshold, nextKeys, witnessThreshold, witnesses, config, anchors⟩

-- The brace that ends a body also ends the input.
def Scanner.bodyEnd {α : Type} (parsed : α) : Scan α := do
  expect "\x7d"
  finish
  pure parsed

def ParsedIcp.body : Scan ParsedIcp := do
  let fields ← ParsedIcp.fields
  bodyEnd fields

def ParsedDip.body : Scan ParsedDip := do
  let icp ← ParsedIcp.fields
  let delegator ← field ",\"di\":" stringValue
  bodyEnd ⟨icp, delegator⟩

def ParsedRot.body : Scan ParsedRot := do
  let said ← field ",\"d\":" string
  let pfx ← field ",\"i\":" stringValue
  let sn ← field ",\"s\":" stringValue
  let prior ← field ",\"p\":" stringValue
  let threshold ← field ",\"kt\":" ParsedTholder.decode
  let keys ← field ",\"k\":" stringArray
  let nextThreshold ← field ",\"nt\":" ParsedTholder.decode
  let nextKeys ← field ",\"n\":" stringArray
  let witnessThreshold ← field ",\"bt\":" ParsedCount.decode
  let witnessRemovals ← field ",\"br\":" stringArray
  let witnessAdditions ← field ",\"ba\":" stringArray
  let anchors ← field ",\"a\":" (delimitedList ParsedSeal.decode)
  bodyEnd ⟨said, pfx, sn, prior, threshold, keys, nextThreshold, nextKeys, witnessThreshold, witnessRemovals,
    witnessAdditions, anchors⟩

def ParsedIxn.body : Scan ParsedIxn := do
  let said ← field ",\"d\":" string
  let pfx ← field ",\"i\":" stringValue
  let sn ← field ",\"s\":" stringValue
  let prior ← field ",\"p\":" stringValue
  let anchors ← field ",\"a\":" (delimitedList ParsedSeal.decode)
  bodyEnd ⟨said, pfx, sn, prior, anchors⟩

def ParsedEvent.body (messageType : Spanned) : Scan ParsedEvent :=
  if messageType.value = "icp" then do
    let parsed ← ParsedIcp.body
    pure (.inception parsed)
  else if messageType.value = "rot" then do
    let parsed ← ParsedRot.body
    pure (.rotation parsed)
  else if messageType.value = "ixn" then do
    let parsed ← ParsedIxn.body
    pure (.interaction parsed)
  else if messageType.value = "dip" then do
    let parsed ← ParsedDip.body
    pure (.delegatedInception parsed)
  else if messageType.value = "drt" then do
    let parsed ← ParsedRot.body
    pure (.delegatedRotation parsed)
  else if messageType.value = "rct" then reject .receiptNotKeyEvent
  else reject (.unknownMessageType messageType.value)

def ParsedEvent.scan : Scan ParsedEvent := do
  let messageType ← ParsedEvent.head
  ParsedEvent.body messageType

def scanned {α : Type} (scan : Scan α) (raw : Bytes) (budget : JsonBudget) : Except CodecError α :=
  (scan (withBudget raw budget)).map Prod.fst

def ParsedEvent.parse (raw : Bytes) (budget : JsonBudget) : Except CodecError ParsedEvent := scanned ParsedEvent.scan raw budget

def ParsedEvent.peekMessageType (raw : Bytes) (limits : JsonLimits) : Except CodecError MessageType := do
  let messageType ← scanned ParsedEvent.head raw (.ofLimits limits)
  match MessageType.fromCode messageType.value with
  | some known => .ok known
  | none => refuse (.unknownMessageType messageType.value)

def requireMessageType (messageType : Spanned) (expected : String) : Scan Unit := do
  let sc ← get
  if messageType.value = expected then pure () else reject (sc.errAt messageType.start expected)

def Scanner.typedBody {α : Type} (expected : String) (body : Scan α) : Scan α := do
  let messageType ← ParsedEvent.head
  requireMessageType messageType expected
  body

def ParsedIcp.parse (raw : Bytes) (budget : JsonBudget) : Except CodecError ParsedIcp :=
  scanned (typedBody "icp" ParsedIcp.body) raw budget

def ParsedRot.parse (raw : Bytes) (budget : JsonBudget) : Except CodecError ParsedRot :=
  scanned (typedBody "rot" ParsedRot.body) raw budget

def ParsedIxn.parse (raw : Bytes) (budget : JsonBudget) : Except CodecError ParsedIxn :=
  scanned (typedBody "ixn" ParsedIxn.body) raw budget

def ParsedDip.parse (raw : Bytes) (budget : JsonBudget) : Except CodecError ParsedDip :=
  scanned (typedBody "dip" ParsedDip.body) raw budget

def ParsedRot.parseDelegated (raw : Bytes) (budget : JsonBudget) : Except CodecError ParsedRot :=
  scanned (typedBody "drt" ParsedRot.body) raw budget

section Said

variable (library : KeyLibrary)

def verifySaidSpan (scratch : Bytes) (spanned : Spanned × DigestCode) : Except CodecError Unit := do
  let computed ← (Diger.digest library spanned.2 scratch).mapError fun failure => .said (.digest failure)
  let text ← saidText computed
  rejectIf (spanned.1.value ≠ text) (.said (.saidMismatch (some spanned.1.value) (some text)))

-- Every field digests the same render, in which all of them are dummied.
def verifySaidSpans (raw : Bytes) (fields : List (Spanned × DigestCode)) : Except CodecError Unit := do
  let scratch ← Calls.consume (fields.forM fun spanned => fillSpan (spanned.1.start, spanned.1.stop)) raw
  fields.forM (verifySaidSpan library scratch)

def ParsedIcp.verifySaid (parsed : ParsedIcp) (raw : Bytes) : Except CodecError Unit := do
  let dCode ← decode (inferDigestCode parsed.said.value)
  match probeDigestCode parsed.pfx.value with
  | none => verifySaidSpans library raw [(parsed.said, dCode)]
  | some iCode => verifySaidSpans library raw [(parsed.said, dCode), (parsed.pfx, iCode)]

def ParsedRot.verifySaid (parsed : ParsedRot) (raw : Bytes) : Except CodecError Unit := do
  let code ← decode (inferDigestCode parsed.said.value)
  verifySaidSpans library raw [(parsed.said, code)]

def ParsedIxn.verifySaid (parsed : ParsedIxn) (raw : Bytes) : Except CodecError Unit := do
  let code ← decode (inferDigestCode parsed.said.value)
  verifySaidSpans library raw [(parsed.said, code)]

def ParsedEvent.verifySaid (parsed : ParsedEvent) (raw : Bytes) : Except CodecError Unit :=
  match parsed with
  | .inception parsed => parsed.verifySaid library raw
  | .delegatedInception parsed => parsed.icp.verifySaid library raw
  | .rotation parsed => parsed.verifySaid library raw
  | .delegatedRotation parsed => parsed.verifySaid library raw
  | .interaction parsed => parsed.verifySaid library raw

end Said

end Codec

end Cesr
