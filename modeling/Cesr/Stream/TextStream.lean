import Cesr.Core.Version
import Cesr.Core.IndexerCodec

set_option autoImplicit false

namespace Cesr.Stream

open Sextets Base64 Checks

inductive SpanKind where
  | groupStart
  | groupSpan
  | elementSpan
  | eventSize
  | quadletCount
  | counterSoftSize
deriving DecidableEq, Repr

inductive LimitKind where
  | bodyBytes
  | attachmentBytes
  | attachmentGroups
  | groupElements
  | signatures
  | nestedGroups
  | nestingDepth
deriving DecidableEq, Repr

inductive ColdCode where
  | cesrBase64
  | cesrBinary
  | json
  | cbor
  | messagePack
deriving DecidableEq, Repr

inductive ParseError where
  | needBytes (missing : Nat)
  | truncated (missing : Nat)
  | limitExceeded (kind : LimitKind) (limit actual : Nat)
  | unsupportedColdStart (domain : ColdCode)
  | unsupportedVersion (version : CesrVersion)
  | versionKindMismatch (cold : ColdCode) (kind : SerializationKind)
  | unknownMatterCode (code : String)
  | unknownCounterCode (code : Option String)
  | unexpectedCodeType (expected : String) (source : ValidationError)
  | overflow (span : SpanKind)
  | notACounter (got : Option UInt8)
  | nestedCounterMismatch (outer expected got : String)
  | genusVersionNotAGroup
  | misaligned (len unit : Nat)
  | invalidUtf8 (field : String)
  | countExceedsCapacity (count capacity : Nat)
  | versionMismatch (group : String) (version : CesrVersion)
  | unknownColdStart (byte : UInt8)
  | unsupportedGenusVersion (major : Nat)
  | depthExceeded (max : Nat)
  | missingVersionString
  | invalidEventSize (declared minimum : Nat)
  | matter (error : ParsingError)
  | matterValidation (error : ValidationError)
  | indexer (error : IndexerParseError)
  | base64 (error : Base64Error)
  | version (error : VersionError)
deriving DecidableEq, Repr

def usizeMax : Nat := 2 ^ 64 - 1

def VersionError.toParse : VersionError → ParseError
  | .truncated needed => .needBytes needed
  | other => .version other

def ParsingError.toParse : ParsingError → ParseError
  | .emptyStream | .streamTooShort _ => .needBytes 1
  | .unknownMatterCode code => .unknownMatterCode code
  | other => .matter other

def MatterBuildError.toParse : MatterBuildError → ParseError
  | .parsing error => ParsingError.toParse error
  | .validation error => .matterValidation error

def CounterCodeError.toParse : CounterCodeError → ParseError
  | .streamTooShort need => .needBytes need
  | .notACounter => .notACounter none
  | .unknownCode code => .unknownCounterCode code

def IndexerParseError.toParse : IndexerParseError → ParseError
  | .emptyStream => .needBytes 1
  | .streamTooShort need _ => .needBytes need
  | other => .indexer other

def Base64Error.toParse : Base64Error → ParseError
  | .misaligned len unit => .misaligned len unit
  | other => .base64 other

def mapCounterErr (input : Bytes) : CounterCodeError → ParseError
  | .notACounter => .notACounter input.head?
  | other => CounterCodeError.toParse other

def isAsciiAlphanumeric (byte : UInt8) : Bool :=
  (0x30 ≤ byte && byte ≤ 0x39) || (0x41 ≤ byte && byte ≤ 0x5A) || (0x61 ≤ byte && byte ≤ 0x7A)

def ColdCode.detect (first : UInt8) : Except ParseError ColdCode :=
  if first = 0x7B then .ok .json
  else if 0xA0 ≤ first ∧ first ≤ 0xBF then .ok .cbor
  else if (0x80 ≤ first ∧ first ≤ 0x8F) ∨ first = 0xDE ∨ first = 0xDF then .ok .messagePack
  else if 0x80 ≤ first then .ok .cesrBinary
  else if isAsciiAlphanumeric first ∨ first = 0x2D ∨ first = 0x5F then .ok .cesrBase64
  else .error (.unknownColdStart first)

-- A method of the cursor is a function of the bytes not yet consumed; a skip
-- answers with the number of bytes it consumes.
def takeBytes (remaining : Bytes) (count : Nat) : Except ParseError Nat :=
  if remaining.length < count then .error (.needBytes (count - remaining.length)) else .ok count

def skipMatter (remaining : Bytes) : Except ParseError Nat := do
  let fs ← (MatterCode.frameSize remaining).mapError MatterBuildError.toParse
  takeBytes remaining fs

def skipMatters : Nat → Bytes → Except ParseError Nat
  | 0, _ => .ok 0
  | arity + 1, remaining => do
      let first ← skipMatter remaining
      let others ← skipMatters arity (remaining.drop first)
      pure (first + others)

def skipIndexer (remaining : Bytes) : Except ParseError Nat := do
  let fs ← (IndexedSigCode.frameSize remaining).mapError IndexerParseError.toParse
  takeBytes remaining fs

def skipIndexers : Nat → Bytes → Except ParseError Nat
  | 0, _ => .ok 0
  | count + 1, remaining => do
      let first ← skipIndexer remaining
      let others ← skipIndexers count (remaining.drop first)
      pure (first + others)

def decodeCount (soft : Bytes) : Except ParseError U32 := do
  rejectIf (fromUtf8 soft = none) (.invalidUtf8 "counter soft field")
  let count ← (decodeInt 32 soft).mapError Base64Error.toParse
  pure (Fin.ofNat (2 ^ 32) count)

section Counters

variable {Code : Type} (fromBase64Stream : Bytes → Except CounterCodeError Code) (hardSize fullSize : Code → Nat)

-- The cursor is behind the full size of the code afterwards.
def readCounter (remaining : Bytes) : Except ParseError (Code × U32) := do
  let code ← (fromBase64Stream remaining).mapError (mapCounterErr remaining)
  rejectIf (remaining.length < fullSize code) (.needBytes (fullSize code - remaining.length))
  let count ← decodeCount ((remaining.take (fullSize code)).drop (hardSize code))
  pure (code, count)

end Counters

def readCounterV1 (remaining : Bytes) : Except ParseError (CounterCodeV1 × U32) :=
  readCounter CounterCodeV1.fromBase64Stream CounterCodeV1.hardSize CounterCodeV1.fullSize remaining

def readCounterV2 (remaining : Bytes) : Except ParseError (CounterCodeV2 × U32) :=
  readCounter CounterCodeV2.fromBase64Stream CounterCodeV2.hardSize CounterCodeV2.fullSize remaining

-- Only an unknown V1 code is tried against the V2 table.
def skipCounter (remaining : Bytes) : Except ParseError Nat := do
  let fs ←
    match CounterCodeV1.fromBase64Stream remaining with
    | .ok code => .ok code.fullSize
    | .error (.unknownCode _) =>
        ((CounterCodeV2.fromBase64Stream remaining).map CounterCodeV2.fullSize).mapError (mapCounterErr remaining)
    | .error error => .error (mapCounterErr remaining error)
  takeBytes remaining fs

def readMatter (remaining : Bytes) : Except ParseError (Matter MatterCode × Nat) := do
  let fs ← (MatterCode.frameSize remaining).mapError MatterBuildError.toParse
  let _ ← takeBytes remaining fs
  let matter ← (fromQualifiedBase64 (remaining.take fs)).mapError MatterBuildError.toParse
  pure (matter, fs)

def readIndexer (remaining : Bytes) : Except ParseError (Indexer × Nat) := do
  rejectIf (remaining = []) (.needBytes 1)
  let read ← (Indexer.fromQb64 remaining).mapError IndexerParseError.toParse
  let _ ← takeBytes remaining read.2
  pure read

end Cesr.Stream
