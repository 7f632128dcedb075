import Cesr.Codec.Field

set_option autoImplicit false

namespace Cesr.Codec

open Checks WriterJson Scanner

inductive ThresholdForm where
  | hexString
  | integer
deriving DecidableEq, Repr

-- A flat array of weights is one clause.
inductive ParsedTholder where
  | hex (text : String)
  | number (text : String)
  | weighted (clauses : List (List String))
deriving DecidableEq, Repr

inductive ParsedCount where
  | hex (text : String)
  | number (text : String)
deriving DecidableEq, Repr

def Scanner.stringValue : Scan String := do
  let text ← string
  pure text.value

def Scanner.field {α : Type} (lit : String) (item : Scan α) : Scan α := do
  expect lit
  item

def ParsedTholder.clauses : Scan ParsedTholder := do
  let sc ← get
  if sc.peek = some quote then
    let clause ← tailList stringValue
    pure (.weighted [clause])
  else if sc.peek = some 0x5B then
    let clauses ← tailList stringArray
    pure (.weighted clauses)
  else reject (sc.err "weight fraction string or clause array")

def ParsedTholder.weightedArray : Scan ParsedTholder := do
  expect "["
  if ← takeLit "]" then pure (.weighted []) else ParsedTholder.clauses

def ParsedTholder.decode : Scan ParsedTholder := do
  let sc ← get
  if sc.peek = some quote then
    let text ← stringValue
    pure (.hex text)
  else if sc.atDigit then
    let text ← integer
    pure (.number text)
  else if sc.peek = some 0x5B then ParsedTholder.weightedArray
  else reject (sc.err "threshold (hex string, integer, or weighted array)")

def ParsedCount.decode : Scan ParsedCount := do
  let sc ← get
  if sc.peek = some quote then
    let text ← stringValue
    pure (.hex text)
  else if sc.atDigit then
    let text ← integer
    pure (.number text)
  else reject (sc.err "count (hex string or integer)")

def thresholdNumErr (field text : String) : DeserializeError :=
  .invalidPrimitive field (.unknownMatterCode ("invalid threshold: " ++ text))

def countErr (field text : String) : DeserializeError :=
  .invalidPrimitive field (.unknownMatterCode ("invalid count: " ++ text))

def orElse {α : Type} (found : Option α) (error : DeserializeError) : Except DeserializeError α :=
  match found with
  | some value => .ok value
  | none => .error error

-- The text in front of the first slash and the text behind it.
def splitOnce (text : Bytes) : Option (Bytes × Bytes) :=
  (text.findIdx? fun byte => byte = 0x2F).map fun at' => (text.take at', text.drop (at' + 1))

def parseWeight (field text : String) : Except DeserializeError Weight :=
  match splitOnce (asBytes text) with
  | some parts => do
      let num ← orElse (fromStrRadix 64 10 parts.1) (thresholdNumErr field text)
      let den ← orElse (fromStrRadix 64 10 parts.2) (thresholdNumErr field text)
      rejectIf (den = 0) (thresholdNumErr field text)
      pure (num, den)
  | none => do
      let num ← orElse (fromStrRadix 64 10 (asBytes text)) (thresholdNumErr field text)
      pure (num, 1)

def signingThresholdFromWire (field : String) : ParsedTholder → Except DeserializeError SigningThreshold
  | .hex text => (orElse (fromStrRadix 64 16 (asBytes text)) (thresholdNumErr field text)).map SigningThreshold.simple
  | .number text => (orElse (fromStrRadix 64 10 (asBytes text)) (thresholdNumErr field text)).map SigningThreshold.simple
  | .weighted clauses => do
      let nested ← clauses.mapM fun clause => clause.mapM (parseWeight field)
      ((WeightedThreshold.fromNested nested).mapError (.thresholdOutOfRange field)).map SigningThreshold.weighted

def countValue (field : String) : ParsedCount → Except DeserializeError U128
  | .hex text => orElse (fromStrRadix 128 16 (asBytes text)) (countErr field text)
  | .number text => orElse (fromStrRadix 128 10 (asBytes text)) (countErr field text)

def countFromWire (field : String) (count : ParsedCount) : Except DeserializeError U32 := do
  let value ← countValue field count
  orElse (u32TryFrom value.val) (countErr field (toString value.val ++ " exceeds u32::MAX"))

def thresholdFormOf : ParsedCount → ThresholdForm
  | .hex _ => .hexString
  | .number _ => .integer

-- The numeric thresholds of one event are all spelled alike.
def checkFormConsistency (field : String) (threshold : ParsedTholder) (form : ThresholdForm) : Except CodecError Unit :=
  let consistent :=
    match threshold, form with
    | .weighted _, _ => true
    | .hex _, .hexString => true
    | .number text, .integer => (fromStrRadix 32 10 (asBytes text)).isSome
    | _, _ => false
  rejectIf (consistent = false) (.builder (.mixedThresholdForms field))

end Cesr.Codec
