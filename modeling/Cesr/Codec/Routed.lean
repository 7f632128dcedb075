import Cesr.Codec.Acdc

set_option autoImplicit false

namespace Cesr

def VersionString.keriJsonV1 : VersionString := ⟨.keri, 1, 0, .json, 0⟩

-- The version digits are one hexadecimal digit each, the size is six of them.
def VersionString.toStr (vs : VersionString) : Bytes :=
  asBytes vs.proto.asStr ++ [WriterJson.hexDigit (UInt8.ofNat vs.major), WriterJson.hexDigit (UInt8.ofNat vs.minor)] ++
    asBytes vs.kind.asStr ++ Codec.hexSize vs.size ++ asBytes "_"

namespace Codec

open Checks Calls WriterJson Scanner

structure RoutedBody where
  kind : MessageType
  said : Said
  datetime : String
  route : String
  replyRoute : Option String
  payload : String
deriving DecidableEq, Repr

structure ParsedRouted where
  kind : MessageType
  said : String
  datetime : String
  route : String
  replyRoute : Option String
  payload : Bytes
deriving DecidableEq, Repr

def routedKind (tag : Spanned) : Scan MessageType := do
  let sc ← get
  if tag.value = "qry" then pure .qry
  else if tag.value = "rpy" then pure .rpy
  else reject (sc.err "qry or rpy message type")

-- Only a query names the route of its answer.
def replyRouteField (kind : MessageType) : Scan (Option String) :=
  if kind = .qry then do
    let replyRoute ← field ",\"rr\":" stringValue
    pure (some replyRoute)
  else pure none

def payloadField (kind : MessageType) : Scan Bytes :=
  if kind = .qry then field ",\"q\":" objectValueSpan else field ",\"a\":" objectValueSpan

def ParsedRouted.scan : Scan ParsedRouted := do
  let tag ← ParsedEvent.head
  let kind ← routedKind tag
  let said ← field ",\"d\":" stringValue
  let datetime ← field ",\"dt\":" stringValue
  let route ← field ",\"r\":" stringValue
  let replyRoute ← replyRouteField kind
  let payload ← payloadField kind
  bodyEnd ⟨kind, said, datetime, route, replyRoute, payload⟩

def payloadText (span : Bytes) : Except CodecError String :=
  match fromUtf8 span with
  | some payload => .ok payload
  | none => .error (.internal (.eventLayout "routed payload is not UTF-8"))

section Routed

variable (library : KeyLibrary)

def liftRouted (raw : Bytes) (parsed : ParsedRouted) : Except CodecError RoutedBody := do
  let payload ← payloadText parsed.payload
  let code ← decode (inferDigestCode parsed.said)
  let codes ← staticCodes "routed SAID configuration rejected" [("d", code)]
  let _ ← codes.verify library raw
  let said ← decode (saidFromWire "d" parsed.said)
  pure ⟨parsed.kind, said, parsed.datetime, parsed.route, parsed.replyRoute, payload⟩

def RoutedBody.parse (raw : Bytes) (budget : JsonBudget) : Except CodecError RoutedBody := do
  checkJsonBody raw
  let parsed ← scanned ParsedRouted.scan raw budget
  liftRouted library raw parsed

abbrev RoutedShape := MessageType × Option String

def RoutedBody.suffix (replyRoute : Option String) (payload : String) : String :=
  match replyRoute with
  | none => ",\"a\":" ++ payload
  | some replyRoute => ",\"rr\":\"" ++ replyRoute ++ "\",\"q\":" ++ payload

-- The strings are put between the quotes as they are.
def RoutedBody.template (shape : RoutedShape) (slot : Bytes) (datetime route payload : String) : Bytes :=
  asBytes "\x7b\"v\":\"" ++ VersionString.keriJsonV1.toStr ++ asBytes ("\",\"t\":\"" ++ shape.1.code ++ "\",\"d\":\"") ++ slot ++
    asBytes ("\",\"dt\":\"" ++ datetime ++ "\",\"r\":\"" ++ route ++ "\"" ++ RoutedBody.suffix shape.2 payload ++ "\x7d")

def RoutedBody.write (shape : RoutedShape) (datetime route payload : String) (limits : JsonLimits) : Except CodecError Bytes := do
  let slot ← (placeholder .blake3_256).mapError fun error => .internal (.placeholderPrimitive error)
  let codes ← staticCodes "routed SAID configuration rejected" [("d", .blake3_256)]
  let raw ← consume (do let _ ← codes.saidify library) (RoutedBody.template shape slot datetime route payload)
  let _ ← RoutedBody.parse library raw (.ofLimits limits)
  pure raw

def RoutedBody.writeQuery (datetime route replyRoute payload : String) (limits : JsonLimits) : Except CodecError Bytes :=
  RoutedBody.write library (.qry, some replyRoute) datetime route payload limits

def RoutedBody.writeReply (datetime route payload : String) (limits : JsonLimits) : Except CodecError Bytes :=
  RoutedBody.write library (.rpy, none) datetime route payload limits

end Routed

end Codec

end Cesr
