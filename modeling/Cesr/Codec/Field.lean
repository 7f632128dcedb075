import Cesr.Codec.OpaqueScan
import Cesr.Stream.GroupKind

set_option autoImplicit false

namespace Cesr

def MatterPart.text : MatterPart → String
  | .head => "Head"
  | .soft => "Soft"
  | .xtra => "Xtra"
  | .padBits => "PadBits"
  | .leadBytes => "LeadBytes"

def ParsingError.text : ParsingError → String
  | .emptyStream => "Input stream is empty."
  | .streamTooShort part =>
      "Input stream is too short; more bytes were expected to complete parsing of \x60" ++ part.text ++ "\x60."
  | .unknownMatterCode code => "Unrecognized code: '" ++ code ++ "' does not correspond to a known Matter code."
  | .malformedCode part found => "Malformed code: the " ++ part.text ++ " component was invalid. Found '" ++ found ++ "'."
  | .conversion _ => "A low-level conversion error occurred"
  | .invalidUtf8 => "Invalid UTF-8 sequence encountered during parsing."
  | .base64 => "Base64 decoding failed."

def MatterCode.isDigest : MatterCode → Bool
  | .blake3_256 | .blake2b_256 | .blake2s_256 | .sha3_256 | .sha2_256 | .blake3_512 | .blake2b_512 | .sha3_512 | .sha2_512 => true
  | _ => false

def ConfigTrait.fromCode (code : String) : Option ConfigTrait :=
  [("EO", .estOnly), ("DND", .doNotDelegate), ("NB", .noBackers), ("RB", .registrarBackers), ("NRB", .noRegistrarBackers),
    ("DID", .delegateIsDelegator)].lookup code

def MessageType.code : MessageType → String
  | .icp => "icp"
  | .rot => "rot"
  | .ixn => "ixn"
  | .dip => "dip"
  | .drt => "drt"
  | .rct => "rct"
  | .vcp => "vcp"
  | .vrt => "vrt"
  | .iss => "iss"
  | .rev => "rev"
  | .bis => "bis"
  | .brv => "brv"
  | .qry => "qry"
  | .rpy => "rpy"
  | .exn => "exn"

def MessageType.all : List MessageType :=
  [.icp, .rot, .ixn, .dip, .drt, .rct, .vcp, .vrt, .iss, .rev, .bis, .brv, .qry, .rpy, .exn]

def MessageType.fromCode (code : String) : Option MessageType := MessageType.all.find? fun known => known.code = code

theorem from_code_iff (code : String) (known : MessageType) : MessageType.fromCode code = some known ↔ known.code = code := by
  apply Iff.intro
  · intro found
    exact of_decide_eq_true (List.find?_some (p := fun other : MessageType => decide (other.code = code)) found)
  · intro same
    rw [← same]
    cases known <;> rfl

namespace Codec

open Checks

-- The parser of the standard library for unsigned numbers: one sign may stand in front.
def fromStrRadix (width radix : Nat) (text : Bytes) : Option (Fin (2 ^ width)) :=
  let digits := if text.head? = some 0x2B then text.tail else text
  if digits = [] then none
  else
    match digits.mapM fun byte => (OpaqueScan.toDigit byte).filter fun digit => digit < radix with
    | none => none
    | some values =>
        let value := values.foldl (fun value digit => value * radix + digit) 0
        if fits : value < 2 ^ width then some ⟨value, fits⟩ else none

def mapQb64Error (field : String) : MatterBuildError → DeserializeError
  | .validation source => .invalidPrimitive field source
  | .parsing source => .unparseablePrimitive field source

-- A value read off the wire is lifted under the name of its field.
abbrev Lift (α : Type) := String → String → Except DeserializeError α

-- The text may go on behind the primitive; only the primitive is kept.
def matterFromWire {Code : Type} (tryFrom : MatterCode → Except ValidationError Code) : Lift (Matter Code) := fun field text => do
  let matter ← (fromQualifiedBase64 (asBytes text)).mapError (mapQb64Error field)
  let code ← (tryFrom matter.code).mapError (.invalidPrimitive field)
  pure ⟨code, matter.raw, matter.soft⟩

def verifyingKeyFromWire : Lift VerifyingKey := fun field text =>
  (matterFromWire VerKeyCode.tryFrom field text).map VerifyingKey.mk

def basicPrefixFromWire : Lift BasicPrefix := fun field text => (matterFromWire VerKeyCode.tryFrom field text).map BasicPrefix.mk

def digestFromWire : Lift Digest := fun field text => (matterFromWire DigestCode.tryFrom field text).map Digest.mk

def saidFromWire : Lift Said := fun field text => (matterFromWire DigestCode.tryFrom field text).map Said.mk

def verserFromWire : Lift (Matter VerserCode) := matterFromWire VerserCode.tryFrom

def noncerFromWire : Lift (Matter NoncerCode) := matterFromWire NoncerCode.tryFrom

-- A prefix is a key, or else a digest.
def identifierFromWire : Lift Identifier := fun field text =>
  match basicPrefixFromWire field text with
  | .ok basic => .ok (.basic basic)
  | .error _ => (saidFromWire field text).map Identifier.selfAddressing

def numberFromWire : Lift Number := fun field text =>
  match fromStrRadix 128 16 (asBytes text) with
  | some value => .ok (Number.new value)
  | none => .error (.invalidPrimitive field (.unknownMatterCode ("invalid hex " ++ field ++ ": " ++ text)))

-- An unknown trait is reported without its field.
def configTraitFromWire : Lift ConfigTrait := fun _ text =>
  match ConfigTrait.fromCode text with
  | some known => .ok known
  | none => .error (.unknownMessageType text)

def eachFromWire {ω α : Type} (lift : String → ω → Except DeserializeError α) (field : String) (items : List ω) :
    Except DeserializeError (List α) := items.mapM (lift field)

def decode {α : Type} (lifted : Except DeserializeError α) : Except CodecError α := lifted.mapError .deserialize

def inferDigestCode (qb64Said : String) : Except DeserializeError DigestCode := do
  let code ← (MatterCode.fromBase64Stream (asBytes qb64Said)).mapError fun error =>
    .invalidPrimitive "d" (.unknownMatterCode error.text)
  (DigestCode.tryFrom code).mapError (.invalidPrimitive "d")

def probeDigestCode (qb64 : String) : Option DigestCode :=
  match MatterCode.fromBase64Stream (asBytes qb64) with
  | .error _ => none
  | .ok code => if code.isDigest then (DigestCode.tryFrom code).toOption else none

theorem is_digest_try_from (code : MatterCode) : code.isDigest = (DigestCode.tryFrom code).isOk := by
  cases code <;> rfl

theorem probe_infer (qb64 : String) (code : DigestCode) : probeDigestCode qb64 = some code ↔ inferDigestCode qb64 = .ok code := by
  unfold probeDigestCode inferDigestCode
  cases MatterCode.fromBase64Stream (asBytes qb64) with
  | error error =>
      apply Iff.intro
      · intro found
        cases found
      · intro found
        cases found
  | ok matter =>
      have tried : ((Except.ok matter : Except ParsingError MatterCode).mapError fun error =>
          DeserializeError.invalidPrimitive "d" (.unknownMatterCode error.text)) = .ok matter := rfl
      simp only
      rw [tried, ok_bind, map_error_ok, is_digest_try_from]
      cases DigestCode.tryFrom matter with
      | error error => simp [Except.isOk, Except.toBool]
      | ok digest => simp [Except.isOk, Except.toBool, Except.toOption]

end Codec

end Cesr
