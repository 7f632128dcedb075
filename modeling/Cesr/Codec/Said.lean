import Cesr.Codec.CanonicalValue
import Cesr.Core.KeyPair
import Cesr.Lib.Calls
import Cesr.Lib.Slots

set_option autoImplicit false

namespace Cesr.Codec

open Checks Calls WriterJson Scanner Slots

def dummyByte : UInt8 := 0x23

def versionLabel : String := "v"

def versionSizeMax : Nat := 0xFFFFFF

def sadCodesMax : Nat := 4

inductive SadCodesError where
  | capacity
  | reservedVersionLabel
deriving DecidableEq, Repr

structure SadCodes where
  slots : List (String × DigestCode)
  fits : slots.length ≤ sadCodesMax
  unreserved : ∀ slot ∈ slots, slot.1 ≠ versionLabel

abbrev Span := Nat × Nat

structure ParsedSad where
  raw : Bytes
  fields : List (String × Span)
deriving DecidableEq, Repr

-- The spans stand in the order of the slots.
structure SadScan where
  spans : List (Option Span)
  version : Option (Span × VersionString)

abbrev Write (α : Type) := Mutator Bytes CodecError α

def fillSpan (span : Span) : Write Unit := do
  let buf ← get
  if span.1 ≤ span.2 ∧ span.2 ≤ buf.length then
    modify fun scratch => overwrite scratch span (List.replicate (span.2 - span.1) dummyByte)
  else throw (.internal (.eventLayout "SAID span out of bounds"))

def patchSlot (slot : Span) (replacement : Bytes) : Write Unit := do
  let buf ← get
  if ¬ (slot.1 ≤ slot.2 ∧ slot.2 ≤ buf.length) then throw (.internal (.eventLayout "slot out of bounds"))
  else if slot.2 - slot.1 ≠ replacement.length then
    throw (.internal (.eventLayout "slot width does not match replacement"))
  else modify fun dst => overwrite dst slot replacement

def placeholder (code : DigestCode) : Except ValidationError Bytes :=
  match code.toMatterCode.getSizage.fs with
  | .fixed count => .ok (List.replicate count dummyByte)
  | .small | .large => .error (.invalidSizingOperation code.toMatterCode.asStr)

def hexSize (size : Nat) : Bytes :=
  [5, 4, 3, 2, 1, 0].map fun place => hexDigit (UInt8.ofNat (size / 16 ^ place % 16))

def saidText (said : Matter DigestCode) : Except CodecError String :=
  match said.toQb64 with
  | some text => .ok text
  | none => .error (.said (.digest .panicked))

namespace SadCodes

def fromPairs (pairs : List (String × DigestCode)) : Except SadCodesError SadCodes :=
  if fits : pairs.length ≤ sadCodesMax then
    if unreserved : ∀ pair ∈ pairs, pair.1 ≠ versionLabel then .ok ⟨pairs, fits, unreserved⟩
    else .error .reservedVersionLabel
  else .error .capacity

def indexOf (codes : SadCodes) (label : String) : Option Nat := codes.slots.findIdx? fun slot => slot.1 = label

end SadCodes

def versionMember : Scan (Span × VersionString) := do
  let value ← string
  let version ← check ((VersionString.parse (asBytes value.value)).mapError fun error => .version (.version error))
  check (rejectIf ((asBytes value.value).length ≠ versionStringLen) (.version (.invalidVersionString
    ("expected exactly a 17-byte version string, got " ++ toString (asBytes value.value).length ++ " bytes"))))
  check (rejectIf (version.kind ≠ .json) (.version (.invalidVersionString ("expected JSON, got " ++ version.kind.asStr))))
  pure ((value.start, value.stop), version)

def slotMember : Scan Span := do
  let value ← string
  pure (value.start, value.stop)

section Scan

variable (codes : SadCodes)

def sadValue (label : String) (scan : SadScan) : Scan SadScan :=
  if label = versionLabel then do
    let found ← versionMember
    pure { scan with version := some found }
  else
    match codes.indexOf label with
    | some index => do
        let span ← slotMember
        pure { scan with spans := scan.spans.set index (some span) }
    | none => do
        canonicalValue
        pure scan

def sadMember (seen : List String) (scan : SadScan) : Scan (List String × SadScan) := do
  let key ← jsonString
  let sc ← get
  if key.value ∈ seen then reject (sc.errAt key.start "unique field label")
  else
    expect ":"
    let next ← sadValue codes key.value scan
    pure (key.value :: seen, next)

-- A member takes some of the input, so its length bounds their number.
def sadMembers : Nat → List String → SadScan → Scan SadScan
  | 0, _, _ => do
      let sc ← get
      reject (sc.err ",")
  | fuel + 1, seen, scan => do
      let next ← sadMember codes seen scan
      if ← takeLit "," then sadMembers fuel next.1 next.2 else pure next.2

def sadBody : Scan SadScan := do
  let scan : SadScan := ⟨List.replicate codes.slots.length none, none⟩
  if ← takeLit "\x7d" then pure scan
  else
    let sc ← get
    let found ← sadMembers codes (sc.left.length + 1) [] scan
    expect "\x7d"
    pure found

def sadObject : Scan SadScan := do
  expect "\x7b"
  let scan ← sadBody codes
  finish
  pure scan

def scanSad (raw : Bytes) : Except CodecError SadScan := (sadObject codes (Scanner.new raw)).map Prod.fst

end Scan

def requireAllConfigured (codes : SadCodes) (scan : SadScan) : Except CodecError Unit :=
  (codes.slots.zip scan.spans).forM fun both => rejectIf (both.2 = none) (.said (.missingDigestiveField both.1.1))

def requireSlotWidth (sad : Bytes) (slot : String × DigestCode) : Option Span → Except CodecError Unit
  | none => .ok ()
  | some span => do
      let expected ← (placeholder slot.2).mapError fun error => .internal (.placeholderPrimitive error)
      rejectIf (¬ (span.1 ≤ span.2 ∧ span.2 ≤ sad.length)) (.internal (.eventLayout "digestive span out of bounds"))
      rejectIf (span.2 - span.1 ≠ expected.length) (.said (.invalidSlotWidth slot.1 expected.length (span.2 - span.1)))

def requireSlotWidths (sad : Bytes) (codes : SadCodes) (scan : SadScan) : Except CodecError Unit :=
  (codes.slots.zip scan.spans).forM fun both => requireSlotWidth sad both.1 both.2

def scanFields (codes : SadCodes) (scan : SadScan) : List (Span × DigestCode) :=
  (codes.slots.zip scan.spans).filterMap fun both => both.2.map fun span => (span, both.1.2)

def scanFieldsLabeled (codes : SadCodes) (scan : SadScan) : List (String × Span) :=
  (codes.slots.zip scan.spans).filterMap fun both => both.2.map fun span => (both.1.1, span)

section Law

variable (library : KeyLibrary)

def computeSaidFields (render : Bytes) (fields : List (Span × DigestCode)) : Except CodecError (List (Matter DigestCode)) :=
  fields.mapM fun field => (Diger.digest library field.2 render).mapError fun failure => .said (.digest failure)

def patchSize (scan : SadScan) : Write Unit := do
  let sad ← get
  match scan.version with
  | none => pure ()
  | some found =>
      if sad.length ≤ versionSizeMax then patchSlot (found.1.1 + 10, found.1.1 + 16) (hexSize sad.length)
      else throw (.version (.version (.fieldOverflow "size" versionSizeMax)))

def fillSpans (fields : List (Span × DigestCode)) : Write Unit := fields.forM fun field => fillSpan field.1

def spliceSaid (span : Span) (said : Matter DigestCode) : Write Unit := do
  let text ← Calls.check (saidText said)
  patchSlot span (asBytes text)

def SadCodes.saidify (codes : SadCodes) : Write ParsedSad := do
  let sad ← get
  let scan ← Calls.check (scanSad codes sad)
  Calls.check (requireAllConfigured codes scan)
  Calls.check (requireSlotWidths sad codes scan)
  patchSize scan
  let fields := scanFields codes scan
  fillSpans fields
  let render ← get
  let computed ← Calls.check (computeSaidFields library render fields)
  (fields.zip computed).forM fun both => spliceSaid both.1.1 both.2
  let final ← get
  pure ⟨final, scanFieldsLabeled codes scan⟩

def checkSize (raw : Bytes) : Option (Span × VersionString) → Except CodecError Unit
  | none => .ok ()
  | some found =>
      rejectIf (¬ (raw.length < 2 ^ 32 ∧ found.2.size = raw.length)) (.version (.invalidVersionString
        ("version string size " ++ toString found.2.size ++ " does not match actual size " ++ toString raw.length)))

def checkSaid (raw : Bytes) (span : Span) (said : Matter DigestCode) : Except CodecError Unit := do
  rejectIf (¬ (span.1 ≤ span.2 ∧ span.2 ≤ raw.length)) (.internal (.eventLayout "digestive span out of bounds"))
  let claimed ←
    match fromUtf8 ((raw.take span.2).drop span.1) with
    | some claimed => .ok claimed
    | none => .error (.internal (.eventLayout "scanned span is not UTF-8"))
  let computed ← saidText said
  rejectIf (claimed ≠ computed) (.said (.saidMismatch (some claimed) (some computed)))

def SadCodes.verify (codes : SadCodes) (raw : Bytes) : Except CodecError ParsedSad := do
  let scan ← scanSad codes raw
  requireAllConfigured codes scan
  checkSize raw scan.version
  let fields := scanFields codes scan
  let scratch ← consume (fillSpans fields) raw
  let computed ← computeSaidFields library scratch fields
  (fields.zip computed).forM fun both => checkSaid raw both.1.1 both.2
  pure ⟨raw, scanFieldsLabeled codes scan⟩

end Law

end Cesr.Codec
