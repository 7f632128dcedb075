import Cesr.Core.MatterBuilder

set_option autoImplicit false

namespace Cesr

open Sextets Base64 Checks

inductive IndexMode where
  | both
  | currentOnly
deriving DecidableEq, Repr

inductive XizageSize where
  | fixed (size : Nat)
  | variableSize
deriving DecidableEq, Repr

structure Xizage where
  hs : Nat
  ss : Nat
  os : Nat
  fs : XizageSize
  ls : Nat
deriving DecidableEq, Repr

def Xizage.cs (xizage : Xizage) : Nat := xizage.hs + xizage.ss

def Xizage.ms (xizage : Xizage) : Nat := xizage.ss - xizage.os

def Xizage.ps (xizage : Xizage) : Nat := xizage.cs % 4

inductive IndexerParseError where
  | emptyStream
  | streamTooShort (need got : Nat)
  | unknownCode (code : String)
  | invalidBase64
  | ondexNotZeroForCurrentOnly (ondex : U32)
  | sizeOverflow
deriving DecidableEq, Repr

inductive IndexerValidationError where
  | indexTooLarge (code : IndexedSigCode) (index : U32) (max : Nat)
  | ondexTooLarge (code : IndexedSigCode) (ondex : U32) (max : Nat)
  | ondexOnCurrentOnly (code : IndexedSigCode)
  | ondexMustEqualIndex (code : IndexedSigCode) (index ondex : U32)
  | unexpectedRawSize (code : IndexedSigCode) (expected got : Nat)
deriving DecidableEq, Repr

def CodeError.toIndexer : CodeError → IndexerParseError
  | .unknownCode hard => .unknownCode hard

def Base64Error.toIndexer : Base64Error → IndexerParseError
  | .invalidBase64Char _ | .invalidBase64Value _ | .misaligned _ _ | .integerOverflow => .invalidBase64
  | .shortBinaryStream => .streamTooShort 0 0

def IndexedSigCode.getXizage : IndexedSigCode → Xizage
  | .ed25519 | .ed25519Crt | .ecdsa256k1 | .ecdsa256k1Crt | .ecdsa256r1 | .ecdsa256r1Crt => ⟨1, 1, 0, .fixed 88, 0⟩
  | .ed448 | .ed448Crt => ⟨2, 2, 1, .fixed 156, 0⟩
  | .ed25519Big | .ed25519BigCrt | .ecdsa256k1Big | .ecdsa256k1BigCrt | .ecdsa256r1Big | .ecdsa256r1BigCrt =>
      ⟨2, 4, 2, .fixed 92, 0⟩
  | .ed448Big | .ed448BigCrt => ⟨2, 6, 3, .fixed 160, 0⟩

def IndexedSigCode.mode : IndexedSigCode → IndexMode
  | .ed25519 | .ecdsa256k1 | .ecdsa256r1 | .ed448 | .ed25519Big | .ecdsa256k1Big | .ecdsa256r1Big | .ed448Big => .both
  | .ed25519Crt | .ecdsa256k1Crt | .ecdsa256r1Crt | .ed448Crt | .ed25519BigCrt | .ecdsa256k1BigCrt | .ecdsa256r1BigCrt
  | .ed448BigCrt => .currentOnly

def IndexedSigCode.isBig : IndexedSigCode → Bool
  | .ed25519 | .ed25519Crt | .ecdsa256k1 | .ecdsa256k1Crt | .ecdsa256r1 | .ecdsa256r1Crt | .ed448 | .ed448Crt => false
  | .ed25519Big | .ed25519BigCrt | .ecdsa256k1Big | .ecdsa256k1BigCrt | .ecdsa256r1Big | .ecdsa256r1BigCrt | .ed448Big
  | .ed448BigCrt => true

def IndexedSigCode.rawSize : IndexedSigCode → Nat
  | .ed448 | .ed448Crt | .ed448Big | .ed448BigCrt => 114
  | _ => 64

def IndexedSigCode.maxIndex (code : IndexedSigCode) : Nat := 64 ^ code.getXizage.ms - 1

def IndexedSigCode.maxOndex (code : IndexedSigCode) : Option Nat :=
  match code.mode with
  | .currentOnly => none
  | .both => if code.getXizage.os = 0 then some code.maxIndex else some (64 ^ code.getXizage.os - 1)

-- A small code gives way to its big counterpart when the index does not fit.
def IndexedSigCode.forIndex (code : IndexedSigCode) (index : U32) : IndexedSigCode :=
  if code.isBig ∨ index.val ≤ code.maxIndex then code
  else
    match code with
    | .ed25519 => .ed25519Big
    | .ed25519Crt => .ed25519BigCrt
    | .ecdsa256k1 => .ecdsa256k1Big
    | .ecdsa256k1Crt => .ecdsa256k1BigCrt
    | .ecdsa256r1 => .ecdsa256r1Big
    | .ecdsa256r1Crt => .ecdsa256r1BigCrt
    | .ed448 => .ed448Big
    | .ed448Crt => .ed448BigCrt
    | big => big

def hardage (char : UInt8) : Option Nat :=
  if (0x41 ≤ char ∧ char ≤ 0x5A) ∨ (0x61 ≤ char ∧ char ≤ 0x7A) then some 1
  else if 0x30 ≤ char ∧ char ≤ 0x34 then some 2
  else none

structure Indexer where
  code : IndexedSigCode
  index : U32
  ondex : Option U32
  raw : Bytes
deriving DecidableEq, Repr

def indexerText (bytes : Bytes) : Except IndexerParseError String :=
  match fromUtf8 bytes with
  | some text => .ok text
  | none => .error .invalidBase64

def IndexedSigCode.readHard (stream : Bytes) : Except IndexerParseError IndexedSigCode :=
  match stream.head? with
  | none => .error .emptyStream
  | some first =>
      match hardage first with
      | none => .error (.unknownCode (asciiText [first]))
      | some hardSize => do
          rejectIf (stream.length < hardSize) (.streamTooShort hardSize stream.length)
          let hard ← indexerText (stream.take hardSize)
          (IndexedSigCode.fromHard hard).mapError CodeError.toIndexer

def readIndex (chars : Bytes) : Except IndexerParseError U32 := do
  let _ ← indexerText chars
  let value ← (decodeInt 32 chars).mapError Base64Error.toIndexer
  pure (Fin.ofNat (2 ^ 32) value)

def readOndex (code : IndexedSigCode) (index : U32) (chars : Bytes) : Except IndexerParseError (Option U32) :=
  match code.mode with
  | .currentOnly =>
      if 0 < code.getXizage.os then do
        let ondex ← readIndex chars
        rejectIf (ondex ≠ 0) (.ondexNotZeroForCurrentOnly ondex)
        pure none
      else .ok none
  | .both =>
      if 0 < code.getXizage.os then do
        let ondex ← readIndex chars
        pure (some ondex)
      else .ok (some index)

def indexerFullSize (index cs : Nat) : Except IndexerParseError Nat :=
  match (usizeTryFrom (index * 4)).bind fun quad => usizeTryFrom (quad + cs) with
  | some fs => .ok fs
  | none => .error .sizeOverflow

def XizageSize.fullSize (fs : XizageSize) (index cs : Nat) : Except IndexerParseError Nat :=
  match fs with
  | .fixed size => .ok size
  | .variableSize => indexerFullSize index cs

def IndexedSigCode.frameSizeOf (code : IndexedSigCode) (stream : Bytes) : Except IndexerParseError Nat :=
  let xizage := code.getXizage
  match xizage.fs with
  | .fixed size => .ok size
  | .variableSize => do
      rejectIf (stream.length < xizage.cs) (.streamTooShort xizage.cs stream.length)
      let chars := (stream.take (xizage.hs + xizage.ms)).drop xizage.hs
      let _ ← indexerText chars
      let index ← (decodeInt 64 chars).mapError Base64Error.toIndexer
      indexerFullSize index xizage.cs

def IndexedSigCode.frameSize (stream : Bytes) : Except IndexerParseError Nat := do
  let code ← IndexedSigCode.readHard stream
  code.frameSizeOf stream

def Indexer.fromQb64 (stream : Bytes) : Except IndexerParseError (Indexer × Nat) := do
  let code ← IndexedSigCode.readHard stream
  let xizage := code.getXizage
  rejectIf (stream.length < xizage.cs) (.streamTooShort xizage.cs stream.length)
  let index ← readIndex ((stream.take (xizage.hs + xizage.ms)).drop xizage.hs)
  let ondex ← readOndex code index ((stream.take (xizage.hs + xizage.ms + xizage.os)).drop (xizage.hs + xizage.ms))
  let fs ← xizage.fs.fullSize index.val xizage.cs
  rejectIf (stream.length < fs) (.streamTooShort fs stream.length)
  match urlSafe.decodeUnpadded (List.replicate xizage.ps 0x41 ++ (stream.take fs).drop xizage.cs) with
  | none => .error .invalidBase64
  | some decoded =>
      let skip := if xizage.ps ≠ 0 then xizage.ps else xizage.ls
      pure (⟨code, index, ondex, decoded.drop skip⟩, fs)

def binaryHardSize (first : UInt8) : Except IndexerParseError Nat :=
  if first.toNat / 4 ≤ 51 then .ok 1
  else if first.toNat / 4 ≤ 56 then .ok 2
  else .error (.unknownCode ("binary lead byte 0x" ++ String.ofList (Nat.toDigits 16 first.toNat)))

def Indexer.fromQb2 (stream : Bytes) : Except IndexerParseError (Indexer × Nat) :=
  match stream.head? with
  | none => .error .emptyStream
  | some first => do
      let hs ← binaryHardSize first
      let bhs := (hs * 3 + 3) / 4
      rejectIf (stream.length < bhs) (.streamTooShort bhs stream.length)
      let hard ← (encodeBinary (stream.take bhs) hs).mapError Base64Error.toIndexer
      let code ← (IndexedSigCode.fromHard (asciiText (hard.take hs))).mapError CodeError.toIndexer
      let xizage := code.getXizage
      let cs := hs + xizage.ss
      let bcs := (cs * 3 + 3) / 4
      rejectIf (stream.length < bcs) (.streamTooShort bcs stream.length)
      let both ← (encodeBinary (stream.take bcs) cs).mapError Base64Error.toIndexer
      let soft := (both.take cs).drop hs
      let index ← (decodeInt 32 (soft.take xizage.ms)).mapError Base64Error.toIndexer
      let fs ← xizage.fs.fullSize index cs
      let bfs := fs * 3 / 4
      rejectIf (stream.length < bfs) (.streamTooShort bfs stream.length)
      let parsed ← Indexer.fromQb64 (urlSafe.encode (stream.take bfs))
      pure (parsed.1, bfs)

def writeIndex (value width : Nat) : Bytes :=
  (List.range width).map fun position => b64Alphabet.getD (value / 2 ^ ((width - position - 1) * 6) % 64) 0

-- The result is none where the encoder panics.
def Indexer.appendQb64 (indexer : Indexer) (out : Bytes) : Option Bytes :=
  let xizage := indexer.code.getXizage
  match xizage.fs with
  | .variableSize => none
  | .fixed fs =>
      let ps := (3 - indexer.raw.length % 3) % 3
      let strip := ps - xizage.ls
      let b64Start := xizage.cs - strip
      let written := zeroLeadEncode indexer.raw ps
      if b64Start + written.length = fs then do
        let coded ← copyFromSlice (List.replicate b64Start 0 ++ written) 0 xizage.hs (asBytes indexer.code.asStr)
        let indexed ← copyFromSlice coded xizage.hs (xizage.hs + xizage.ms) (writeIndex indexer.index.val xizage.ms)
        let frame ← copyFromSlice indexed (xizage.hs + xizage.ms) xizage.cs
          (writeIndex (indexer.ondex.getD 0).val xizage.os)
        some (out ++ frame)
      else none

def Indexer.toQb64 (indexer : Indexer) : Option Bytes := indexer.appendQb64 []

def Indexer.toQb2 (indexer : Indexer) : Option Bytes :=
  indexer.toQb64.map fun qb64 => (urlSafe.decodeUnpadded qb64).getD []

structure IWithIndex where
  code : IndexedSigCode
  index : U32
  ondex : Option U32
deriving DecidableEq, Repr

def withIndex (code : IndexedSigCode) (index : U32) : Except IndexerValidationError IWithIndex := do
  rejectIf (code.maxIndex < index.val) (.indexTooLarge code index code.maxIndex)
  match code.mode with
  | .both => pure ⟨code, index, some index⟩
  | .currentOnly => pure ⟨code, index, none⟩

def checkMaxOndex (code : IndexedSigCode) (ondex : U32) : Except IndexerValidationError Unit :=
  match code.maxOndex with
  | some max => rejectIf (max < ondex.val) (.ondexTooLarge code ondex max)
  | none => .ok ()

def withIndices (code : IndexedSigCode) (index ondex : U32) : Except IndexerValidationError IWithIndex := do
  rejectIf (code.mode = .currentOnly) (.ondexOnCurrentOnly code)
  rejectIf (code.maxIndex < index.val) (.indexTooLarge code index code.maxIndex)
  checkMaxOndex code ondex
  rejectIf (code.getXizage.os = 0 ∧ ondex ≠ index) (.ondexMustEqualIndex code index ondex)
  pure ⟨code, index, some ondex⟩

def IWithIndex.withRaw (state : IWithIndex) (raw : Bytes) : Except IndexerValidationError Indexer := do
  rejectIf (raw.length ≠ state.code.rawSize) (.unexpectedRawSize state.code state.code.rawSize raw.length)
  pure ⟨state.code, state.index, state.ondex, raw⟩

end Cesr
