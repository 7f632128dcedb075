import Cesr.Codec.Acdc
import Cesr.Events.Exn

set_option autoImplicit false

namespace Cesr.Codec

open Checks WriterJson Scanner

inductive ExnAttributeSpan where
  | said (text : String)
  | block (payload : String)
deriving DecidableEq, Repr

inductive ExnEmbedsSpan where
  | absent
  | empty
  | map (map said : String) (entries : List (String × String))
deriving DecidableEq, Repr

structure ParsedExn where
  said : String
  issuer : String
  replyTo : Option String
  prior : Option String
  datetime : String
  route : String
  modifiers : String
  attributes : ExnAttributeSpan
  embeds : ExnEmbedsSpan
deriving DecidableEq, Repr

def spanStr (span : Bytes) : Except CodecError String :=
  match fromUtf8 span with
  | some text => .ok text
  | none => .error (.internal (.eventLayout "object span is not UTF-8"))

def Scanner.objectStr : Scan String := do
  let span ← objectValueSpan
  check (spanStr span)

-- The empty string stands for a field that is not there.
def optionalStr (value : String) : Option String := if value = "" then none else some value

-- The size that the version string declares is left to the check of the said.
def ParsedExn.head : Scan Unit := do
  expect "\x7b\"v\":\""
  let _ ← versionString .keri
  expect "\",\"t\":\"exn\",\"d\":"

def ParsedExn.attributeSpan : Scan ExnAttributeSpan := do
  let sc ← get
  if sc.peek = some quote then
    let text ← stringValue
    pure (.said text)
  else if sc.peek = some 0x7B then
    let payload ← objectStr
    pure (.block payload)
  else reject (sc.err "SAID string or JSON object")

-- The entries of the embeds map up to its own said, which is the last member.
def ParsedExn.embedsEntries (map : String) : Nat → List (String × String) → Scan ExnEmbedsSpan
  | 0, _ => do
      let sc ← get
      reject (sc.err ",\"d\":")
  | fuel + 1, entries => do
      let key ← stringValue
      expect ":"
      if key = "d" then
        let said ← stringValue
        expect "\x7d"
        pure (.map map said entries)
      else
        let value ← objectStr
        if ← takeLit "," then embedsEntries map fuel (entries ++ [(key, value)])
        else
          let sc ← get
          reject (sc.err ",\"d\":")

def ParsedExn.embedsMap (map : String) : Scan ExnEmbedsSpan := do
  expect "\x7b"
  ParsedExn.embedsEntries map (asBytes map).length []

-- The map is scanned within the budget first, and then once more for its entries.
def ParsedExn.embedsSpan : Scan ExnEmbedsSpan := do
  let map ← objectStr
  if map = "\x7b\x7d" then pure .empty else check (scanned (ParsedExn.embedsMap map) (asBytes map) .unlimited)

def ParsedExn.embedsField : Scan ExnEmbedsSpan := do
  if ← takeLit ",\"e\":" then ParsedExn.embedsSpan else pure .absent

def ParsedExn.scan : Scan ParsedExn := do
  ParsedExn.head
  let said ← stringValue
  let issuer ← field ",\"i\":" stringValue
  let replyTo ← field ",\"rp\":" stringValue
  let prior ← field ",\"p\":" stringValue
  let datetime ← field ",\"dt\":" stringValue
  let route ← field ",\"r\":" stringValue
  let modifiers ← field ",\"q\":" objectStr
  let attributes ← field ",\"a\":" ParsedExn.attributeSpan
  let embeds ← ParsedExn.embedsField
  expect "\x7d"
  pure ⟨said, issuer, optionalStr replyTo, optionalStr prior, datetime, route, modifiers, attributes, embeds⟩

def ParsedExn.parse (raw : Bytes) (budget : JsonBudget) : Except CodecError ParsedExn := scanned ParsedExn.scan raw budget

-- What the exchange type leaves out of what was read.
structure ExnRead where
  exn : Exn
  replyTo : Option Identifier
  datetime : String
  modifiers : String
deriving DecidableEq, Repr

def liftAttributes : ExnAttributeSpan → Except CodecError ExnAttributes
  | .said text => (decode (saidFromWire "a" text)).map ExnAttributes.said
  | .block payload => .ok (.block payload)

def liftEmbeds : ExnEmbedsSpan → Except CodecError ExnEmbeds
  | .absent => .ok .absent
  | .empty => .ok .empty
  | .map _ said entries => (decode (saidFromWire "d" said)).map fun said => .map said entries

def ParsedExn.build (parsed : ParsedExn) : Except CodecError ExnRead := do
  let said ← decode (saidFromWire "d" parsed.said)
  let issuer ← decode (identifierFromWire "i" parsed.issuer)
  let replyTo ← transposed (fun text => decode (identifierFromWire "rp" text)) parsed.replyTo
  let prior ← transposed (fun text => decode (saidFromWire "p" text)) parsed.prior
  let attributes ← liftAttributes parsed.attributes
  let embeds ← liftEmbeds parsed.embeds
  pure ⟨⟨.verified said, issuer, prior, parsed.route, attributes, embeds⟩, replyTo, parsed.datetime, parsed.modifiers⟩

section Deserialize

variable (library : KeyLibrary)

def ParsedExn.verifyEmbeds (parsed : ParsedExn) : Except CodecError Unit :=
  match parsed.embeds with
  | .map map said entries => do
      let code ← decode (inferDigestCode said)
      let codes ← staticCodes "embeds map SAID configuration rejected" [("d", code)]
      let _ ← codes.verify library (asBytes map)
      entries.forM fun entry => verifyNestedBlock library (asBytes entry.2)
  | _ => .ok ()

def liftExn (raw : Bytes) (parsed : ParsedExn) : Except CodecError ExnRead := do
  let code ← decode (inferDigestCode parsed.said)
  let codes ← staticCodes "static exn SAID configuration rejected" [("d", code)]
  let _ ← codes.verify library raw
  parsed.verifyEmbeds library
  parsed.build

def deserializeExn (raw : Bytes) (budget : JsonBudget) : Except CodecError ExnRead := do
  checkJsonBody raw
  let parsed ← ParsedExn.parse raw budget
  liftExn library raw parsed

end Deserialize

end Cesr.Codec
