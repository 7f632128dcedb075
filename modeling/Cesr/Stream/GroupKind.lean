import Cesr.Stream.TextStream
import Cesr.Events.Acdc

set_option autoImplicit false

namespace Cesr

section TypedCodes

variable {Code : Type} [CesrCode Code]

def tryFromCode (codes : List Code) (code : MatterCode) : Except ValidationError Code :=
  match codes.find? fun typed => CesrCode.toMatterCode typed == code with
  | some typed => .ok typed
  | none => .error (.unknownMatterCode code.asStr)

end TypedCodes

def VerKeyCode.tryFrom : MatterCode → Except ValidationError VerKeyCode :=
  tryFromCode [.ed25519, .ed25519N, .ecdsa256k1, .ecdsa256k1N, .ed448, .ed448N, .ecdsa256r1, .ecdsa256r1N]

def SignatureCode.tryFrom : MatterCode → Except ValidationError SignatureCode :=
  tryFromCode [.ed25519Sig, .ecdsa256k1Sig, .ecdsa256r1Sig, .ed448Sig]

def VerserCode.tryFrom : MatterCode → Except ValidationError VerserCode := tryFromCode [.tag7, .tag10]

def NumberCode.tryFrom : MatterCode → Except ValidationError NumberCode :=
  tryFromCode [.short, .long, .tall, .big, .large, .great, .vast]

def NoncerCode.tryFrom : MatterCode → Except ValidationError NoncerCode :=
  tryFromCode
    [.empty, .salt128, .salt256, .blake3_256, .blake2b_256, .blake2s_256, .sha3_256, .sha2_256, .blake3_512,
      .blake2b_512, .sha3_512, .sha2_512]

def LabelerCode.tryFrom : MatterCode → Except ValidationError LabelerCode :=
  tryFromCode
    [.empty, .tag1, .tag2, .tag3, .tag4, .tag5, .tag6, .tag7, .tag8, .tag9, .tag10, .tag11, .label1, .label2,
      .strB64_L0, .strB64_L1, .strB64_L2, .strB64Big_L0, .strB64Big_L1, .strB64Big_L2, .bytes_L0, .bytes_L1,
      .bytes_L2, .bytesBig_L0, .bytesBig_L1, .bytesBig_L2]

def TexterCode.tryFrom : MatterCode → Except ValidationError TexterCode :=
  tryFromCode [.bytes_L0, .bytes_L1, .bytes_L2, .bytesBig_L0, .bytesBig_L1, .bytesBig_L2]

namespace Stream

open Checks

inductive GroupKind where
  | controllerIdxSig
  | witnessIdxSig
  | nonTransReceiptCouple
  | transReceiptQuadruple
  | firstSeenReplayCouple
  | transIdxSigGroup
  | sealSourceCouple
  | transLastIdxSigGroup
  | sealSourceTriple
  | digestSealSingle
  | merkleRootSealSingle
  | sealSourceLastSingle
  | backerRegistrarSealCouple
  | typedDigestSealCouple
  | blindedStateQuadruple
  | boundStateSextuple
  | typedMediaQuadruple
deriving DecidableEq, Repr

inductive FrameKind where
  | pathedMaterial
  | attachment
  | generic
  | bodyWithAttachment
  | nonNativeBody
  | essrPayload
  | datagramSegment
  | essrWrapper
  | fixBody
  | mapBody
  | genericMap
  | genericList
deriving DecidableEq, Repr

inductive Field where
  | verfer
  | identifierPrefix
  | matter
  | diger
  | cigar
  | verser
  | noncer
  | labeler
  | texter
  | number
  | siger
  | controllerSigs
deriving DecidableEq, Repr

-- The reads of `element`, in the order of the source.
def GroupKind.fields : GroupKind → List Field
  | .controllerIdxSig => [.siger]
  | .witnessIdxSig => [.siger]
  | .nonTransReceiptCouple => [.verfer, .cigar]
  | .transReceiptQuadruple => [.identifierPrefix, .matter, .diger, .siger]
  | .firstSeenReplayCouple => [.matter, .matter]
  | .transIdxSigGroup => [.identifierPrefix, .matter, .diger, .controllerSigs]
  | .sealSourceCouple => [.matter, .diger]
  | .transLastIdxSigGroup => [.identifierPrefix, .controllerSigs]
  | .sealSourceTriple => [.verfer, .matter, .diger]
  | .digestSealSingle => [.diger]
  | .merkleRootSealSingle => [.diger]
  | .sealSourceLastSingle => [.verfer]
  | .backerRegistrarSealCouple => [.verfer, .diger]
  | .typedDigestSealCouple => [.verser, .diger]
  | .blindedStateQuadruple => [.diger, .noncer, .noncer, .labeler]
  | .boundStateSextuple => [.diger, .noncer, .noncer, .labeler, .number, .noncer]
  | .typedMediaQuadruple => [.diger, .noncer, .labeler, .texter]

-- How `skip` sizes an element: matters, then indexers. The two kinds with a
-- nested signature group are skipped by a cursor of their own.
def GroupKind.skipped : GroupKind → Nat × Nat
  | .controllerIdxSig => (0, 1)
  | .witnessIdxSig => (0, 1)
  | .nonTransReceiptCouple => (2, 0)
  | .transReceiptQuadruple => (3, 1)
  | .firstSeenReplayCouple => (2, 0)
  | .transIdxSigGroup => (3, 0)
  | .sealSourceCouple => (2, 0)
  | .transLastIdxSigGroup => (1, 0)
  | .sealSourceTriple => (3, 0)
  | .digestSealSingle => (1, 0)
  | .merkleRootSealSingle => (1, 0)
  | .sealSourceLastSingle => (1, 0)
  | .backerRegistrarSealCouple => (2, 0)
  | .typedDigestSealCouple => (2, 0)
  | .blindedStateQuadruple => (4, 0)
  | .boundStateSextuple => (6, 0)
  | .typedMediaQuadruple => (4, 0)

def GroupKind.nestedSigGrammar : GroupKind → Option (Nat × String × String)
  | .transIdxSigGroup => some (3, "-F", "-X")
  | .transLastIdxSigGroup => some (1, "-H", "-Y")
  | _ => none

def GroupKind.signaturesPerElement : GroupKind → Nat
  | .controllerIdxSig | .witnessIdxSig | .nonTransReceiptCouple | .transReceiptQuadruple => 1
  | _ => 0

inductive GroupShape where
  | elements (kind : GroupKind)
  | quadlets (kind : FrameKind)
  | genusVersion
deriving DecidableEq, Repr

def shapeV1 : CounterCodeV1 → GroupShape
  | .controllerIdxSigs => .elements .controllerIdxSig
  | .witnessIdxSigs => .elements .witnessIdxSig
  | .nonTransReceiptCouples => .elements .nonTransReceiptCouple
  | .transReceiptQuadruples => .elements .transReceiptQuadruple
  | .firstSeenReplayCouples => .elements .firstSeenReplayCouple
  | .transIdxSigGroups => .elements .transIdxSigGroup
  | .sealSourceCouples => .elements .sealSourceCouple
  | .transLastIdxSigGroups => .elements .transLastIdxSigGroup
  | .sealSourceTriples => .elements .sealSourceTriple
  | .pathedMaterialCouples | .bigPathedMaterialCouples => .quadlets .pathedMaterial
  | .genericGroup | .bigGenericGroup => .quadlets .generic
  | .bodyWithAttachmentGroup | .bigBodyWithAttachmentGroup => .quadlets .bodyWithAttachment
  | .attachmentGroup | .bigAttachmentGroup => .quadlets .attachment
  | .nonNativeBodyGroup | .bigNonNativeBodyGroup => .quadlets .nonNativeBody
  | .essrPayloadGroup | .bigEssrPayloadGroup => .quadlets .essrPayload
  | .keriAcdcGenusVersion => .genusVersion

def shapeV2 : CounterCodeV2 → GroupShape
  | .attachmentGroup | .bigAttachmentGroup => .quadlets .attachment
  | .genericGroup | .bigGenericGroup => .quadlets .generic
  | .bodyWithAttachmentGroup | .bigBodyWithAttachmentGroup => .quadlets .bodyWithAttachment
  | .nonNativeBodyGroup | .bigNonNativeBodyGroup => .quadlets .nonNativeBody
  | .essrPayloadGroup | .bigEssrPayloadGroup => .quadlets .essrPayload
  | .pathedMaterialCouples | .bigPathedMaterialCouples => .quadlets .pathedMaterial
  | .datagramSegmentGroup | .bigDatagramSegmentGroup => .quadlets .datagramSegment
  | .essrWrapperGroup | .bigEssrWrapperGroup => .quadlets .essrWrapper
  | .fixBodyGroup | .bigFixBodyGroup => .quadlets .fixBody
  | .mapBodyGroup | .bigMapBodyGroup => .quadlets .mapBody
  | .genericMapGroup | .bigGenericMapGroup => .quadlets .genericMap
  | .genericListGroup | .bigGenericListGroup => .quadlets .genericList
  | .controllerIdxSigs | .bigControllerIdxSigs => .elements .controllerIdxSig
  | .witnessIdxSigs | .bigWitnessIdxSigs => .elements .witnessIdxSig
  | .nonTransReceiptCouples | .bigNonTransReceiptCouples => .elements .nonTransReceiptCouple
  | .transReceiptQuadruples | .bigTransReceiptQuadruples => .elements .transReceiptQuadruple
  | .firstSeenReplayCouples | .bigFirstSeenReplayCouples => .elements .firstSeenReplayCouple
  | .transIdxSigGroups | .bigTransIdxSigGroups => .elements .transIdxSigGroup
  | .sealSourceCouples | .bigSealSourceCouples => .elements .sealSourceCouple
  | .transLastIdxSigGroups | .bigTransLastIdxSigGroups => .elements .transLastIdxSigGroup
  | .sealSourceTriples | .bigSealSourceTriples => .elements .sealSourceTriple
  | .digestSealSingles | .bigDigestSealSingles => .elements .digestSealSingle
  | .merkleRootSealSingles | .bigMerkleRootSealSingles => .elements .merkleRootSealSingle
  | .sealSourceLastSingles | .bigSealSourceLastSingles => .elements .sealSourceLastSingle
  | .backerRegistrarSealCouples | .bigBackerRegistrarSealCouples => .elements .backerRegistrarSealCouple
  | .typedDigestSealCouples | .bigTypedDigestSealCouples => .elements .typedDigestSealCouple
  | .blindedStateQuadruples | .bigBlindedStateQuadruples => .elements .blindedStateQuadruple
  | .boundStateSextuples | .bigBoundStateSextuples => .elements .boundStateSextuple
  | .typedMediaQuadruples | .bigTypedMediaQuadruples => .elements .typedMediaQuadruple
  | .keriAcdcGenusVersion => .genusVersion

inductive FieldValue where
  | matter (matter : Matter MatterCode)
  | indexer (indexer : Indexer)
  | number (number : Number)
  | sigs (raw : Bytes) (count : U32)
deriving DecidableEq, Repr

-- A narrowed primitive keeps its raw value and its soft text; only the type of its code changes.
def readNarrow {Code : Type} (expected : String) (tryFrom : MatterCode → Except ValidationError Code)
    (remaining : Bytes) : Except ParseError (FieldValue × Nat) := do
  let read ← readMatter remaining
  let _ ← (tryFrom read.1.code).mapError (.unexpectedCodeType expected)
  pure (.matter read.1, read.2)

def readIdentifierPrefix (remaining : Bytes) : Except ParseError (FieldValue × Nat) := do
  let read ← readMatter remaining
  match VerKeyCode.tryFrom read.1.code with
  | .ok _ => pure (.matter read.1, read.2)
  | .error _ =>
      let _ ← (DigestCode.tryFrom read.1.code).mapError (.unexpectedCodeType "VerKeyCode or DigestCode")
      pure (.matter read.1, read.2)

-- The value of big-endian bytes; what is shifted out of a u128 is dropped.
def numberValue (raw : Bytes) : U128 :=
  raw.foldl (fun value byte => Fin.ofNat (2 ^ 128) (value.val * 2 ^ 8 + byte.toNat)) 0

def readNumber (remaining : Bytes) : Except ParseError (FieldValue × Nat) := do
  let read ← readMatter remaining
  let code ← (NumberCode.tryFrom read.1.code).mapError (.unexpectedCodeType "NumberCode")
  pure (.number ⟨code, numberValue read.1.raw⟩, read.2)

-- The nested counter is sized under either table and counted under the table of the group.
def nestedControllerSigs (input : Bytes) (version : CesrVersion) : Except ParseError (FieldValue × Nat) := do
  let counterSize ← skipCounter input
  let subCount ←
    match version with
    | .v1 => (readCounterV1 input).map Prod.snd
    | .v2 => (readCounterV2 input).map Prod.snd
  let sigs ← skipIndexers subCount.val (input.drop counterSize)
  pure (.sigs ((input.drop counterSize).take sigs) subCount, counterSize + sigs)

def Field.read (field : Field) (version : CesrVersion) (remaining : Bytes) : Except ParseError (FieldValue × Nat) :=
  match field with
  | .verfer => readNarrow "VerKeyCode" VerKeyCode.tryFrom remaining
  | .identifierPrefix => readIdentifierPrefix remaining
  | .matter => (readMatter remaining).map fun read => (.matter read.1, read.2)
  | .diger => readNarrow "DigestCode" DigestCode.tryFrom remaining
  | .cigar => readNarrow "SignatureCode" SignatureCode.tryFrom remaining
  | .verser => readNarrow "VerserCode" VerserCode.tryFrom remaining
  | .noncer => readNarrow "NoncerCode" NoncerCode.tryFrom remaining
  | .labeler => readNarrow "LabelerCode" LabelerCode.tryFrom remaining
  | .texter => readNarrow "TexterCode" TexterCode.tryFrom remaining
  | .number => readNumber remaining
  | .siger => (readIndexer remaining).map fun read => (.indexer read.1, read.2)
  | .controllerSigs => nestedControllerSigs remaining version

def readFields (version : CesrVersion) : List Field → Bytes → Except ParseError (List FieldValue × Nat)
  | [], _ => .ok ([], 0)
  | field :: fields, remaining => do
      let first ← field.read version remaining
      let others ← readFields version fields (remaining.drop first.2)
      pure (first.1 :: others.1, first.2 + others.2)

def GroupKind.element (kind : GroupKind) (input : Bytes) (version : CesrVersion) :
    Except ParseError (List FieldValue × Nat) :=
  readFields version kind.fields input

def readElements (kind : GroupKind) (version : CesrVersion) : Nat → Bytes → Except ParseError (List (List FieldValue))
  | 0, _ => .ok []
  | remaining + 1, raw => do
      let first ← kind.element raw version
      let others ← readElements kind version remaining (raw.drop first.2)
      pure (first.1 :: others)

end Stream

end Cesr
