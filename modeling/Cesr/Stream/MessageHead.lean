import Cesr.Stream.GroupFrame

set_option autoImplicit false

namespace Cesr.Stream

open Sextets Base64 Checks Calls

-- A matching short prefix is incomplete; a differing byte is malformed.
def firstFieldPrefix (input : Bytes) (start : Nat) (expected : Bytes) : Except ParseError Nat := do
  rejectIf (input.length < start) (.needBytes 1)
  let available := input.drop start
  let compared := min available.length expected.length
  rejectIf (available.take compared ≠ expected.take compared) .missingVersionString
  rejectIf (available.length < expected.length) (.needBytes (expected.length - available.length))
  pure (start + expected.length)

def binaryMapHeader (cold : ColdCode) (first : UInt8) : Option Nat :=
  match cold with
  | .cbor =>
      if (0xA1 ≤ first ∧ first ≤ 0xB7) ∨ first = 0xBF then some 1
      else if first = 0xB8 then some 2
      else if first = 0xB9 then some 3
      else if first = 0xBA then some 5
      else if first = 0xBB then some 9
      else none
  | .messagePack =>
      if 0x81 ≤ first ∧ first ≤ 0x8F then some 1
      else if first = 0xDE then some 3
      else if first = 0xDF then some 5
      else none
  | _ => none

def binaryMapStart (input : Bytes) (cold : ColdCode) : Except ParseError Nat :=
  match input.head? with
  | none => .error (.needBytes 1)
  | some first =>
      match binaryMapHeader cold first with
      | none => .error .missingVersionString
      | some header => do
          rejectIf (input.length < header) (.needBytes (header - input.length))
          rejectIf (1 < header ∧ ((input.take header).drop 1).all (· == 0)) .missingVersionString
          pure header

-- The length of a short text, and the width of an extended length field.
def binaryTextHeader (cold : ColdCode) (first : UInt8) : Option (Nat × Nat) :=
  match cold with
  | .cbor =>
      if 0x60 ≤ first ∧ first ≤ 0x77 then some (first.toNat - 0x60, 0)
      else if first = 0x78 then some (0, 1)
      else if first = 0x79 then some (0, 2)
      else if first = 0x7A then some (0, 4)
      else if first = 0x7B then some (0, 8)
      else none
  | .messagePack =>
      if first = 0xD9 then some (0, 1)
      else if first = 0xDA then some (0, 2)
      else if first = 0xDB then some (0, 4)
      else if 0xA0 ≤ first ∧ first ≤ 0xBF then some (first.toNat - 0xA0, 0)
      else none
  | _ => none

def binaryTextStart (input : Bytes) (start : Nat) (cold : ColdCode) (expected : Nat) : Except ParseError Nat :=
  match input[start]? with
  | none => .error (.needBytes 1)
  | some first =>
      match binaryTextHeader cold first with
      | none => .error .missingVersionString
      | some header => do
          let stop := start + 1 + header.2
          rejectIf (header.2 ≠ 0 ∧ input.length < stop) (.needBytes (stop - input.length))
          let length := if header.2 = 0 then header.1 else bigEndian ((input.take stop).drop (start + 1))
          rejectIf (length ≠ expected) .missingVersionString
          pure stop

def binaryVersionOffset (input : Bytes) (cold : ColdCode) : Except ParseError Nat := do
  let start ← binaryMapStart input cold
  let keyStart ← binaryTextStart input start cold 1
  let valueStart ← firstFieldPrefix input keyStart (asBytes "v")
  binaryTextStart input valueStart cold versionStringLen

inductive JsonHeadState where
  | beforeKey
  | keyV
  | keyClose
  | beforeColon
  | beforeValue
  | complete
deriving DecidableEq, Repr

structure JsonVersionHead where
  offset : Nat
  state : JsonHeadState
deriving DecidableEq, Repr

def JsonVersionHead.new : JsonVersionHead := ⟨1, .beforeKey⟩

def isWhitespace (byte : UInt8) : Bool := byte = 0x20 || byte = 0x09 || byte = 0x0A || byte = 0x0D

def JsonHeadState.step (state : JsonHeadState) (byte : UInt8) : Option JsonHeadState :=
  match state with
  | .beforeKey => if byte = 0x22 then some .keyV else if isWhitespace byte then some .beforeKey else none
  | .keyV => if byte = 0x76 then some .keyClose else none
  | .keyClose => if byte = 0x22 then some .beforeColon else none
  | .beforeColon => if byte = 0x3A then some .beforeValue else if isWhitespace byte then some .beforeColon else none
  | .beforeValue => if byte = 0x22 then some .complete else if isWhitespace byte then some .beforeValue else none
  | .complete => none

-- The bytes that have arrived behind the offset, one at a time.
def JsonVersionHead.scan : Bytes → JsonVersionHead → Except ParseError Nat × JsonVersionHead
  | [], head => if head.state = .complete then (.ok head.offset, head) else (.error (.needBytes 1), head)
  | byte :: rest, head =>
      if head.state = .complete then (.ok head.offset, head)
      else
        match head.state.step byte with
        | some state => JsonVersionHead.scan rest ⟨head.offset + 1, state⟩
        | none => (.error .missingVersionString, head)

def JsonVersionHead.advance (input : Bytes) : Mutator JsonVersionHead ParseError Nat :=
  ExceptT.mk fun head =>
    if input.length < head.offset then pure (.error (.truncated (head.offset - input.length)), head)
    else pure (JsonVersionHead.scan (input.drop head.offset) head)

-- A V2 version string that is still being received.
def startsV2 (tail : Bytes) : Prop :=
  tail.length < versionStringV2Len ∧ tail[4]? = some 0x43 ∧ tail[7]? = some 0x43 ∧ 14 ≤ tail.length ∧
    (frameField tail 10 4 = asBytes "JSON" ∨ frameField tail 10 4 = asBytes "CBOR" ∨
      frameField tail 10 4 = asBytes "MGPK" ∨ frameField tail 10 4 = asBytes "CESR")

instance instDecidableStartsV2 (tail : Bytes) : Decidable (startsV2 tail) := by
  unfold startsV2
  exact inferInstance

def serializedAs (cold : ColdCode) (kind : SerializationKind) : Bool :=
  match cold, kind with
  | .json, .json => true
  | .cbor, .cbor => true
  | .messagePack, .mgpk => true
  | _, _ => false

def readVersionString (tail : Bytes) : Except ParseError VersionString :=
  match VersionString.parse tail with
  | .ok parsed => .ok parsed
  | .error v1Error =>
      if (VersionStringV2.parse tail).isOk then .error (.unsupportedVersion .v2)
      else if startsV2 tail then .error (.needBytes (versionStringV2Len - tail.length))
      else .error (VersionError.toParse v1Error)

def JsonVersionHead.eventSizeAt (input : Bytes) (vsOffset : Nat) (cold : ColdCode) : Except ParseError Nat := do
  rejectIf (input.length < vsOffset) (.truncated (vsOffset - input.length))
  let vs ← readVersionString (input.drop vsOffset)
  rejectIf (serializedAs cold vs.kind = false) (.versionKindMismatch cold vs.kind)
  rejectIf (vs.size < vsOffset + versionStringLen) (.invalidEventSize vs.size (vsOffset + versionStringLen))
  pure vs.size

def JsonVersionHead.eventSize (input : Bytes) (cold : ColdCode) : Except ParseError Nat := do
  let vsOffset ←
    if cold = .json then outcome (JsonVersionHead.advance input) JsonVersionHead.new else binaryVersionOffset input cold
  JsonVersionHead.eventSizeAt input vsOffset cold

end Cesr.Stream
