import Cesr.Core.MatterCode

set_option autoImplicit false

namespace Cesr

open Sextets Base64 Checks

-- A call can fail with an error of its own or stop in a panic.
inductive Failure (ε : Type) where
  | error (error : ε)
  | panicked
deriving DecidableEq, Repr

def padChar : UInt8 := 0x5F

def bigEndian (bytes : Bytes) : Nat := bytes.foldl (fun value byte => value * 2 ^ 8 + byte.toNat) 0

def computeFullSize (size cs : Nat) : Except ValidationError Nat :=
  match (usizeTryFrom (size * 4)).bind fun quad => usizeTryFrom (quad + cs) with
  | some fs => .ok fs
  | none => .error .sizeOverflow

def computeQb2ByteSize (fs : Nat) : Except ValidationError Nat :=
  match usizeTryFrom (fs * 3) with
  | some tripled => .ok ((tripled + 3) / 4)
  | none => .error .sizeOverflow

def MatterCode.sizeFromSoft (code : MatterCode) (softTail : Bytes) : Except MatterBuildError Nat :=
  match code.getSizage.fs with
  | .fixed fixed => .ok fixed
  | .small | .large => do
      let size ← (decodeInt 64 softTail).mapError fun error => .parsing (.conversion error)
      (computeFullSize size code.getSizage.cs).mapError .validation

def MatterCode.frameSize (stream : Bytes) : Except MatterBuildError Nat := do
  let code ← (MatterCode.fromBase64Stream stream).mapError .parsing
  let sizage := code.getSizage
  match sizage.fs with
  | .fixed fixed => pure fixed
  | .small | .large =>
      rejectIf (stream.length < sizage.cs) (.parsing (.streamTooShort .soft))
      let softTail := (stream.take sizage.cs).drop (sizage.hs + sizage.xs)
      let _ ← (parseUtf8 softTail).mapError .parsing
      code.sizeFromSoft softTail

-- The pad bits and the lead bytes in front of the raw value must be zero. The
-- branch of the source for an aligned code is this one with nothing to pad.
def stripLead (sizage : Sizage) (buf : Bytes) : Except ValidationError Bytes := do
  rejectIf (bigEndian (buf.take sizage.ps) % 2 ^ (2 * sizage.ps) ≠ 0) (.nonCanonicalEncoding .padBits)
  rejectIf (buf.length < sizage.ps + sizage.ls) .structuralIntegrityError
  rejectIf (((buf.drop sizage.ps).take sizage.ls).any (· != 0)) (.nonCanonicalEncoding .leadBytes)
  pure (buf.drop (sizage.ps + sizage.ls))

def decodePayload (text : Bytes) : Except ParsingError Bytes :=
  match urlSafe.decodePadded text with
  | some buf => .ok buf
  | none => .error .base64

def fromQualifiedBase64 (stream : Bytes) : Except MatterBuildError (Matter MatterCode) := do
  rejectIf (stream = []) (.parsing .emptyStream)
  let code ← (MatterCode.fromBase64Stream stream).mapError .parsing
  let sizage := code.getSizage
  rejectIf (stream.length < sizage.cs) (.parsing (.streamTooShort .soft))
  let softFull := (stream.take sizage.cs).drop sizage.hs
  let softTail := softFull.drop sizage.xs
  rejectIf ((softFull.take sizage.xs).any (· != padChar))
    (.parsing (.malformedCode .xtra (asciiText (List.replicate sizage.xs padChar))))
  let soft ← (parseUtf8 softTail).mapError .parsing
  let fs ← code.sizeFromSoft softTail
  rejectIf (stream.length < fs) (.validation (.incorrectRawSize code.asStr fs stream.length))
  let buf ← (decodePayload (List.replicate sizage.ps 0x41 ++ (stream.take fs).drop sizage.cs)).mapError .parsing
  let raw ← (stripLead sizage buf).mapError .validation
  pure ⟨code, raw, soft⟩

def fromQualifiedBase2 (stream : Bytes) : Except MatterBuildError (Matter MatterCode) := do
  rejectIf (stream = []) (.parsing .emptyStream)
  let code ← (MatterCode.fromStream stream).mapError .parsing
  let sizage := code.getSizage
  let bcs := (sizage.cs * 3 + 3) / 4
  rejectIf (stream.length < bcs) (.parsing (.streamTooShort .soft))
  let both ← (encodeBinary (stream.take bcs) sizage.cs).mapError fun error => .parsing (.conversion error)
  let softFull := (both.take sizage.cs).drop sizage.hs
  let softTail := softFull.drop sizage.xs
  rejectIf (softFull.take sizage.xs ≠ List.replicate sizage.xs padChar)
    (.parsing (.malformedCode .xtra (asciiText (List.replicate sizage.xs padChar))))
  let fs ← code.sizeFromSoft softTail
  let bfs ← (computeQb2ByteSize fs).mapError .validation
  rejectIf (stream.length < bfs) (.validation (.incorrectRawSize code.asStr bfs stream.length))
  let trimmed := stream.take bfs
  let leadEnd := bcs + sizage.ls
  rejectIf (trimmed.length < leadEnd) (.validation (.incorrectRawSize code.asStr leadEnd trimmed.length))
  rejectIf (sizage.ps ≠ 0 ∧ (trimmed.getD (bcs - 1) 0).toNat % 2 ^ (2 * sizage.ps) ≠ 0)
    (.validation (.nonCanonicalEncoding .padBits))
  rejectIf (((trimmed.take leadEnd).drop bcs).any (· != 0)) (.validation (.nonCanonicalEncoding .leadBytes))
  let raw := trimmed.drop leadEnd
  rejectIf (raw.length ≠ trimmed.length - leadEnd) (.validation .structuralIntegrityError)
  pure ⟨code, raw, asciiText softTail⟩

-- A slice of a text that does not end between two characters panics.
def extractSoft (code : MatterCode) (sizage : Sizage) (soft : String) : Except (Failure ValidationError) String :=
  let expected := sizage.ss - sizage.xs
  if (asBytes soft).length < expected then
    .error (.error (.incorrectSoftLength code.asStr expected (asBytes soft).length))
  else
    match fromUtf8 ((asBytes soft).take expected) with
    | none => .error .panicked
    | some final =>
        if isB64UrlSafeCharset (asBytes final) then .ok final else .error (.error (.invalidSoftFormat code.asStr))

def validateAndTrimRaw (code : MatterCode) (raw : Bytes) (rawSize : Nat) : Except ValidationError Bytes := do
  rejectIf (raw.length < rawSize) (.incorrectRawSize code.asStr rawSize raw.length)
  pure (raw.take rawSize)

section Build

variable {Code : Type} [CesrCode Code]

def Matter.widen (matter : Matter Code) : Matter MatterCode :=
  ⟨CesrCode.toMatterCode matter.code, matter.raw, matter.soft⟩

def withRaw (code : Code) (raw : Bytes) : Except ParsingError Bytes := do
  rejectIf (raw = [] ∧ (CesrCode.toMatterCode code).rawSize ≠ .ok 0) .emptyStream
  pure raw

def withSoft (soft : String) : Except ParsingError String := do
  rejectIf (soft = "") .emptyStream
  pure soft

def validated {α : Type} (check : Except ValidationError α) : Except (Failure MatterBuildError) α :=
  check.mapError fun error => .error (.validation error)

def parsed {α : Type} (check : Except ParsingError α) : Except (Failure MatterBuildError) α :=
  check.mapError fun error => .error (.parsing error)

def liftFailure (failure : Failure ValidationError) : Failure MatterBuildError :=
  match failure with
  | .error error => .error (.validation error)
  | .panicked => .panicked

def buildRaw (code : Code) (rawVal : Bytes) : Except (Failure MatterBuildError) (Matter Code) := do
  let raw ← parsed (withRaw code rawVal)
  let mc := CesrCode.toMatterCode code
  match mc.getSizage.fs with
  | .fixed _ =>
      rejectIf (0 < mc.getSizage.ss) (.error (.validation (.missingSoft mc.asStr)))
      let rawSize ← validated mc.rawSize
      let trimmed ← validated (validateAndTrimRaw mc raw rawSize)
      pure ⟨code, trimmed, ""⟩
  | .small | .large => .error (.error (.validation (.invalidSizingOperation mc.asStr)))

def buildRawSoft (code : Code) (rawVal : Bytes) (softVal : String) :
    Except (Failure MatterBuildError) (Matter Code) := do
  let raw ← parsed (withRaw code rawVal)
  let soft ← parsed (withSoft softVal)
  let mc := CesrCode.toMatterCode code
  match mc.getSizage.fs with
  | .fixed _ =>
      if mc.getSizage.ss = 0 then
        let rawSize ← validated mc.rawSize
        let trimmed ← validated (validateAndTrimRaw mc raw rawSize)
        pure ⟨code, trimmed, ""⟩
      else
        let finalSoft ← (extractSoft mc mc.getSizage soft).mapError liftFailure
        let rawSize ← validated mc.rawSize
        let trimmed ← validated (validateAndTrimRaw mc raw rawSize)
        pure ⟨code, trimmed, finalSoft⟩
  | .small | .large => .error (.error (.validation (.invalidSizingOperation mc.asStr)))

def buildSoft (code : Code) (softVal : String) : Except (Failure MatterBuildError) (Matter Code) := do
  let soft ← parsed (withSoft softVal)
  let mc := CesrCode.toMatterCode code
  let sizage := mc.getSizage
  match sizage.fs with
  | .fixed fixedSize =>
      if 0 < sizage.ss ∧ fixedSize = sizage.cs then
        let finalSoft ← (extractSoft mc sizage soft).mapError liftFailure
        pure ⟨code, [], finalSoft⟩
      else .error (.error (.validation (.invalidSoftFormat mc.asStr)))
  | .small | .large => .error (.error (.validation (.unknownMatterCode mc.asStr)))

-- Copying over a slice panics unless the slice exists and has the same length.
def copyFromSlice (out : Bytes) (start stop : Nat) (src : Bytes) : Option Bytes :=
  if start ≤ stop ∧ stop ≤ out.length ∧ src.length = stop - start then
    some (out.take start ++ src ++ out.drop stop)
  else none

def Matter.fullSize (matter : Matter Code) : Nat :=
  let sizage := (CesrCode.toMatterCode matter.code).getSizage
  match sizage.fs with
  | .fixed fixed => fixed
  | .small | .large => (matter.raw.length + sizage.ls + 2) / 3 * 4 + sizage.cs

-- The result is none where the encoder panics.
def Matter.appendQb64 (matter : Matter Code) (out : Bytes) : Option Bytes :=
  let sizage := (CesrCode.toMatterCode matter.code).getSizage
  let b64Start := sizage.cs - sizage.ps
  let written := zeroLeadEncode matter.raw (sizage.ls + sizage.ps)
  if b64Start + written.length = matter.fullSize then do
    let coded ← copyFromSlice (List.replicate b64Start 0 ++ written) 0 sizage.hs (asBytes (CesrCode.asStr matter.code))
    if 0 < sizage.ss then
      let filled ← copyFromSlice coded sizage.hs (sizage.hs + sizage.xs) (List.replicate sizage.xs padChar)
      let frame ← copyFromSlice filled (sizage.hs + sizage.xs) sizage.cs (asBytes matter.soft)
      some (out ++ frame)
    else some (out ++ coded)
  else none

def Matter.toQb64b (matter : Matter Code) : Option Bytes := matter.appendQb64 []

end Build

end Cesr
