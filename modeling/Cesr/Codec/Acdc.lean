import Cesr.Codec.Tel

set_option autoImplicit false

namespace Cesr.Codec

open Checks WriterJson Scanner

inductive AcdcFieldSpan where
  | said (text : String)
  | block (payload : Bytes)
deriving DecidableEq, Repr

structure ParsedAcdc where
  said : String
  nonce : Option String
  issuer : String
  registry : Option AcdcFieldSpan
  schema : AcdcFieldSpan
  attributes : Option AcdcFieldSpan
  aggregateAttributes : Option String
  edges : Option AcdcFieldSpan
  rules : Option AcdcFieldSpan
deriving DecidableEq, Repr

def Scanner.optional {α : Type} (lit : String) (value : Scan α) : Scan (Option α) := do
  if ← takeLit lit then
    let found ← value
    pure (some found)
  else pure none

def Scanner.fieldSpan : Scan AcdcFieldSpan := do
  let sc ← get
  if sc.peek = some quote then
    let text ← stringValue
    pure (.said text)
  else if sc.peek = some 0x7B then
    let payload ← objectValueSpan
    pure (.block payload)
  else reject (sc.err "SAID string or JSON object")

-- Nothing here checks the size that the version string declares.
def ParsedAcdc.head : Scan Unit := do
  expect "\x7b\"v\":\""
  let _ ← versionString .acdc
  expect "\",\"d\":"

def ParsedAcdc.schemaField : Scan AcdcFieldSpan := do
  let sc ← get
  let found ← optional ",\"s\":" fieldSpan
  match found with
  | some span => pure span
  | none => reject (sc.err ",\"s\":")

def ParsedAcdc.aggregateField (attributes : Option AcdcFieldSpan) : Scan (Option String) := do
  let sc ← get
  let found ← optional ",\"A\":" stringValue
  if attributes.isSome ∧ found.isSome then reject (sc.err "only one of a and A") else pure found

def ParsedAcdc.scan : Scan ParsedAcdc := do
  ParsedAcdc.head
  let said ← stringValue
  let nonce ← optional ",\"u\":" stringValue
  let issuer ← field ",\"i\":" stringValue
  let registry ← optional ",\"ri\":" fieldSpan
  let schema ← ParsedAcdc.schemaField
  let attributes ← optional ",\"a\":" fieldSpan
  let aggregateAttributes ← ParsedAcdc.aggregateField attributes
  let edges ← optional ",\"e\":" fieldSpan
  let rules ← optional ",\"r\":" fieldSpan
  expect "\x7d"
  pure ⟨said, nonce, issuer, registry, schema, attributes, aggregateAttributes, edges, rules⟩

def ParsedAcdc.parse (raw : Bytes) (budget : JsonBudget) : Except CodecError ParsedAcdc := scanned ParsedAcdc.scan raw budget

def nestedKey : Scan String := do
  let key ← jsonString
  expect ":"
  pure key.value

def nestedSlotValue (label : String) : Scan (Option (String × DigestCode)) := do
  let value ← string
  pure ((inferDigestCode value.value).toOption.map fun code => (label, code))

-- Every failure of this scan means that no slot is found.
def nestedSlotMembers : Nat → Scan (Option (String × DigestCode))
  | 0 => pure none
  | fuel + 1 => do
      let label ← nestedKey
      if label = "d" ∨ label = "$id" then nestedSlotValue label
      else
        canonicalValue
        if ← takeLit "," then nestedSlotMembers fuel else pure none

def nestedSlotScan : Scan (Option (String × DigestCode)) := do
  expect "\x7b"
  if ← takeLit "\x7d" then pure none
  else
    let sc ← get
    nestedSlotMembers (sc.left.length + 1)

def nestedSaidSlot (payload : Bytes) : Option (String × DigestCode) :=
  match scanned nestedSlotScan payload .unlimited with
  | .ok slot => slot
  | .error _ => none

section Deserialize

variable (library : KeyLibrary)

def verifyNestedBlock (payload : Bytes) : Except CodecError Unit :=
  match nestedSaidSlot payload with
  | none => .ok ()
  | some slot => do
      let codes ← staticCodes "nested block SAID configuration rejected" [slot]
      let _ ← codes.verify library payload
      pure ()

def verifySpan : Option AcdcFieldSpan → Except CodecError Unit
  | some (.block payload) => verifyNestedBlock library payload
  | _ => .ok ()

def ParsedAcdc.spans (parsed : ParsedAcdc) : List (Option AcdcFieldSpan) :=
  [parsed.registry, some parsed.schema, parsed.attributes, parsed.edges, parsed.rules]

def ParsedAcdc.verifyNestedBlocks (parsed : ParsedAcdc) : Except CodecError Unit := parsed.spans.forM (verifySpan library)

def liftBlockOrSaid (label : String) : AcdcFieldSpan → Except CodecError AcdcField
  | .said qb64 => (decode (saidFromWire label qb64)).map AcdcField.said
  | .block payload =>
      match fromUtf8 payload with
      | some text => .ok (.block text)
      | none => .error (.internal (.eventLayout "nested ACDC block is not UTF-8"))

def transposed {ω α : Type} (lift : ω → Except CodecError α) : Option ω → Except CodecError (Option α)
  | none => .ok none
  | some wire => (lift wire).map some

def buildAcdc (parsed : ParsedAcdc) : Except CodecError Acdc := do
  let said ← decode (saidFromWire "d" parsed.said)
  let nonce ← transposed (fun text => decode (noncerFromWire "u" text)) parsed.nonce
  let issuer ← decode (identifierFromWire "i" parsed.issuer)
  let registry ← transposed (liftBlockOrSaid "ri") parsed.registry
  let schema ← liftBlockOrSaid "s" parsed.schema
  let attributes ← transposed (liftBlockOrSaid "a") parsed.attributes
  let aggregateAttributes ← transposed (fun text => decode (digestFromWire "A" text)) parsed.aggregateAttributes
  let edges ← transposed (liftBlockOrSaid "e") parsed.edges
  let rules ← transposed (liftBlockOrSaid "r") parsed.rules
  pure ⟨said, nonce, issuer, registry, schema, attributes, aggregateAttributes, edges, rules⟩

def liftAcdc (raw : Bytes) (parsed : ParsedAcdc) : Except CodecError Acdc := do
  let code ← decode (inferDigestCode parsed.said)
  let codes ← staticCodes "static ACDC SAID configuration rejected" [("d", code)]
  let _ ← codes.verify library raw
  parsed.verifyNestedBlocks library
  buildAcdc parsed

def deserializeAcdc (raw : Bytes) (budget : JsonBudget) : Except CodecError Acdc := do
  checkJsonBody raw
  let parsed ← ParsedAcdc.parse raw budget
  liftAcdc library raw parsed

end Deserialize

end Cesr.Codec
