import Cesr.Core.Counter

set_option autoImplicit false

namespace Cesr

open Sextets Base64 Checks

inductive CesrVersion where
  | v1
  | v2
deriving DecidableEq, Repr

inductive VersionError where
  | truncated (needed : Nat)
  | unknownProtocol (found : Bytes)
  | invalidVersionDigit (field : String) (found : UInt8)
  | unknownKind (found : Bytes)
  | invalidSizeHex (found : Bytes)
  | missingTerminator (expected : Char) (found : UInt8)
  | fieldOverflow (field : String) (max : Nat)
  | unsupportedMajor (field : String) (found : Nat)
  | base64 (field : String) (error : Base64Error)
deriving DecidableEq, Repr

inductive SerializationKind where
  | json
  | cbor
  | mgpk
  | cesr
deriving DecidableEq, Repr

def SerializationKind.asStr : SerializationKind → String
  | .json => "JSON"
  | .cbor => "CBOR"
  | .mgpk => "MGPK"
  | .cesr => "CESR"

def SerializationKind.fromWire (wire : Bytes) : Except VersionError SerializationKind :=
  if wire = asBytes "JSON" then .ok .json
  else if wire = asBytes "CBOR" then .ok .cbor
  else if wire = asBytes "MGPK" then .ok .mgpk
  else if wire = asBytes "CESR" then .ok .cesr
  else .error (.unknownKind wire)

inductive Protocol where
  | keri
  | acdc
deriving DecidableEq, Repr

def Protocol.fromWire (wire : Bytes) : Except VersionError Protocol :=
  if wire = asBytes "KERI" then .ok .keri
  else if wire = asBytes "ACDC" then .ok .acdc
  else .error (.unknownProtocol wire)

def versionStringLen : Nat := 17

def versionStringV2Len : Nat := 19

structure VersionString where
  proto : Protocol
  major : Nat
  minor : Nat
  kind : SerializationKind
  size : Nat
deriving DecidableEq, Repr

structure VersionStringV2 where
  proto : Protocol
  protoMinor : Nat
  genusMinor : Nat
  kind : SerializationKind
  size : Nat
deriving DecidableEq, Repr

def splitFrame (input : Bytes) (frameLen : Nat) : Except VersionError Bytes := do
  rejectIf (input.length < frameLen) (.truncated (frameLen - input.length))
  pure (input.take frameLen)

def frameField (frame : Bytes) (start count : Nat) : Bytes := (frame.drop start).take count

def decodeHexDigit (byte : UInt8) : Option Nat :=
  if 0x30 ≤ byte ∧ byte ≤ 0x39 then some (byte.toNat - 0x30)
  else if 0x61 ≤ byte ∧ byte ≤ 0x66 then some (byte.toNat - 0x61 + 10)
  else if 0x41 ≤ byte ∧ byte ≤ 0x46 then some (byte.toNat - 0x41 + 10)
  else none

def decodeVersionDigit (field : String) (byte : UInt8) : Except VersionError Nat :=
  match decodeHexDigit byte with
  | some digit => .ok digit
  | none => .error (.invalidVersionDigit field byte)

-- Six digits stay far below the bounds of a u32, so the overflow arm is left out.
def decodeHexSize (bytes : Bytes) : Except VersionError Nat :=
  bytes.foldlM
    (fun size byte =>
      match decodeHexDigit byte with
      | some digit => .ok (size * 16 + digit)
      | none => .error (.invalidSizeHex bytes))
    0

def decodeB64Field (width : Nat) (bytes : Bytes) (field : String) : Except VersionError Nat :=
  (decodeInt width bytes).mapError fun error => .base64 field error

-- The parsers are of the frame alone; the rest of the input is what follows it.
def VersionString.parseFrame (frame : Bytes) : Except VersionError VersionString := do
  let proto ← Protocol.fromWire (frameField frame 0 4)
  let major ← decodeVersionDigit "major" (frame.getD 4 0)
  let minor ← decodeVersionDigit "minor" (frame.getD 5 0)
  let kind ← SerializationKind.fromWire (frameField frame 6 4)
  let size ← decodeHexSize (frameField frame 10 6)
  rejectIf (frame.getD 16 0 ≠ 0x5F) (.missingTerminator '_' (frame.getD 16 0))
  pure ⟨proto, major, minor, kind, size⟩

def VersionString.parse (input : Bytes) : Except VersionError VersionString := do
  let frame ← splitFrame input versionStringLen
  VersionString.parseFrame frame

def VersionStringV2.parseFrame (frame : Bytes) : Except VersionError VersionStringV2 := do
  let proto ← Protocol.fromWire (frameField frame 0 4)
  let protoMajor ← decodeB64Field 8 (frameField frame 4 1) "proto_major"
  rejectIf (protoMajor ≠ 2) (.unsupportedMajor "proto_major" protoMajor)
  let protoMinor ← decodeB64Field 16 (frameField frame 5 2) "proto_minor"
  let genusMajor ← decodeB64Field 8 (frameField frame 7 1) "genus_major"
  rejectIf (genusMajor ≠ 2) (.unsupportedMajor "genus_major" genusMajor)
  let genusMinor ← decodeB64Field 16 (frameField frame 8 2) "genus_minor"
  let kind ← SerializationKind.fromWire (frameField frame 10 4)
  let size ← decodeB64Field 32 (frameField frame 14 4) "size"
  rejectIf (frame.getD 18 0 ≠ 0x2E) (.missingTerminator '.' (frame.getD 18 0))
  pure ⟨proto, protoMinor, genusMinor, kind, size⟩

def VersionStringV2.parse (input : Bytes) : Except VersionError VersionStringV2 := do
  let frame ← splitFrame input versionStringV2Len
  VersionStringV2.parseFrame frame

example : VersionString.parse (asBytes "KERI10JSON00025d_,rest") = .ok ⟨.keri, 1, 0, .json, 0x25d⟩ := by
  decide

end Cesr
