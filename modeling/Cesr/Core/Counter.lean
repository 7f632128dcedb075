import Cesr.Core.MatterCodec

set_option autoImplicit false

namespace Cesr

open Sextets Base64 Checks

-- The lossy text of a hard code that is not UTF-8 is not kept.
inductive CounterCodeError where
  | unknownCode (hard : Option String)
  | notACounter
  | streamTooShort (need : Nat)
deriving DecidableEq, Repr

def streamHardSize (stream : Bytes) : Except CounterCodeError Nat :=
  match stream with
  | [] => .error (.streamTooShort 1)
  | first :: rest =>
      if first = 0x2D then
        match rest with
        | [] => .error (.streamTooShort 1)
        | second :: _ => if second = 0x2D then .ok 3 else if second = 0x5F then .ok 5 else .ok 2
      else .error .notACounter

def counterHard (hs : Nat) (stream : Bytes) : Except CounterCodeError String := do
  rejectIf (stream.length < hs) (.streamTooShort (hs - stream.length))
  match fromUtf8 (stream.take hs) with
  | some hard => pure hard
  | none => .error (.unknownCode none)

inductive CounterCodeV1 where
  | controllerIdxSigs
  | witnessIdxSigs
  | nonTransReceiptCouples
  | transReceiptQuadruples
  | firstSeenReplayCouples
  | transIdxSigGroups
  | sealSourceCouples
  | transLastIdxSigGroups
  | sealSourceTriples
  | pathedMaterialCouples
  | bigPathedMaterialCouples
  | genericGroup
  | bigGenericGroup
  | bodyWithAttachmentGroup
  | bigBodyWithAttachmentGroup
  | attachmentGroup
  | bigAttachmentGroup
  | nonNativeBodyGroup
  | bigNonNativeBodyGroup
  | essrPayloadGroup
  | bigEssrPayloadGroup
  | keriAcdcGenusVersion
deriving DecidableEq, Repr

def CounterCodeV1.asStr : CounterCodeV1 → String
  | .controllerIdxSigs => "-A"
  | .witnessIdxSigs => "-B"
  | .nonTransReceiptCouples => "-C"
  | .transReceiptQuadruples => "-D"
  | .firstSeenReplayCouples => "-E"
  | .transIdxSigGroups => "-F"
  | .sealSourceCouples => "-G"
  | .transLastIdxSigGroups => "-H"
  | .sealSourceTriples => "-I"
  | .pathedMaterialCouples => "-L"
  | .bigPathedMaterialCouples => "--L"
  | .genericGroup => "-T"
  | .bigGenericGroup => "--T"
  | .bodyWithAttachmentGroup => "-U"
  | .bigBodyWithAttachmentGroup => "--U"
  | .attachmentGroup => "-V"
  | .bigAttachmentGroup => "--V"
  | .nonNativeBodyGroup => "-W"
  | .bigNonNativeBodyGroup => "--W"
  | .essrPayloadGroup => "-Z"
  | .bigEssrPayloadGroup => "--Z"
  | .keriAcdcGenusVersion => "-_AAA"

def CounterCodeV1.all : List CounterCodeV1 :=
  [.controllerIdxSigs, .witnessIdxSigs, .nonTransReceiptCouples, .transReceiptQuadruples, .firstSeenReplayCouples,
    .transIdxSigGroups, .sealSourceCouples, .transLastIdxSigGroups, .sealSourceTriples, .pathedMaterialCouples,
    .bigPathedMaterialCouples, .genericGroup, .bigGenericGroup, .bodyWithAttachmentGroup, .bigBodyWithAttachmentGroup,
    .attachmentGroup, .bigAttachmentGroup, .nonNativeBodyGroup, .bigNonNativeBodyGroup, .essrPayloadGroup,
    .bigEssrPayloadGroup, .keriAcdcGenusVersion]

def CounterCodeV1.hardSize : CounterCodeV1 → Nat
  | .bigPathedMaterialCouples | .bigGenericGroup | .bigBodyWithAttachmentGroup | .bigAttachmentGroup
  | .bigNonNativeBodyGroup | .bigEssrPayloadGroup => 3
  | .keriAcdcGenusVersion => 5
  | _ => 2

def CounterCodeV1.softSize : CounterCodeV1 → Nat
  | .bigPathedMaterialCouples | .bigGenericGroup | .bigBodyWithAttachmentGroup | .bigAttachmentGroup
  | .bigNonNativeBodyGroup | .bigEssrPayloadGroup => 5
  | .keriAcdcGenusVersion => 3
  | _ => 2

def CounterCodeV1.fullSize : CounterCodeV1 → Nat
  | .bigPathedMaterialCouples | .bigGenericGroup | .bigBodyWithAttachmentGroup | .bigAttachmentGroup
  | .bigNonNativeBodyGroup | .bigEssrPayloadGroup
  | .keriAcdcGenusVersion => 8
  | _ => 4

def CounterCodeV1.fromHard (hard : String) : Except CounterCodeError CounterCodeV1 :=
  match CounterCodeV1.all.find? fun code => code.asStr == hard with
  | some code => .ok code
  | none => .error (.unknownCode (some hard))

def CounterCodeV1.fromBase64Stream (stream : Bytes) : Except CounterCodeError CounterCodeV1 := do
  let hs ← streamHardSize stream
  let hard ← counterHard hs stream
  CounterCodeV1.fromHard hard

inductive CounterCodeV2 where
  | genericGroup
  | bigGenericGroup
  | bodyWithAttachmentGroup
  | bigBodyWithAttachmentGroup
  | attachmentGroup
  | bigAttachmentGroup
  | datagramSegmentGroup
  | bigDatagramSegmentGroup
  | essrWrapperGroup
  | bigEssrWrapperGroup
  | fixBodyGroup
  | bigFixBodyGroup
  | mapBodyGroup
  | bigMapBodyGroup
  | nonNativeBodyGroup
  | bigNonNativeBodyGroup
  | genericMapGroup
  | bigGenericMapGroup
  | genericListGroup
  | bigGenericListGroup
  | controllerIdxSigs
  | bigControllerIdxSigs
  | witnessIdxSigs
  | bigWitnessIdxSigs
  | nonTransReceiptCouples
  | bigNonTransReceiptCouples
  | transReceiptQuadruples
  | bigTransReceiptQuadruples
  | firstSeenReplayCouples
  | bigFirstSeenReplayCouples
  | pathedMaterialCouples
  | bigPathedMaterialCouples
  | digestSealSingles
  | bigDigestSealSingles
  | merkleRootSealSingles
  | bigMerkleRootSealSingles
  | sealSourceCouples
  | bigSealSourceCouples
  | sealSourceTriples
  | bigSealSourceTriples
  | sealSourceLastSingles
  | bigSealSourceLastSingles
  | backerRegistrarSealCouples
  | bigBackerRegistrarSealCouples
  | typedDigestSealCouples
  | bigTypedDigestSealCouples
  | transIdxSigGroups
  | bigTransIdxSigGroups
  | transLastIdxSigGroups
  | bigTransLastIdxSigGroups
  | essrPayloadGroup
  | bigEssrPayloadGroup
  | blindedStateQuadruples
  | bigBlindedStateQuadruples
  | boundStateSextuples
  | bigBoundStateSextuples
  | typedMediaQuadruples
  | bigTypedMediaQuadruples
  | keriAcdcGenusVersion
deriving DecidableEq, Repr

def CounterCodeV2.asStr : CounterCodeV2 → String
  | .genericGroup => "-A"
  | .bigGenericGroup => "--A"
  | .bodyWithAttachmentGroup => "-B"
  | .bigBodyWithAttachmentGroup => "--B"
  | .attachmentGroup => "-C"
  | .bigAttachmentGroup => "--C"
  | .datagramSegmentGroup => "-D"
  | .bigDatagramSegmentGroup => "--D"
  | .essrWrapperGroup => "-E"
  | .bigEssrWrapperGroup => "--E"
  | .fixBodyGroup => "-F"
  | .bigFixBodyGroup => "--F"
  | .mapBodyGroup => "-G"
  | .bigMapBodyGroup => "--G"
  | .nonNativeBodyGroup => "-H"
  | .bigNonNativeBodyGroup => "--H"
  | .genericMapGroup => "-I"
  | .bigGenericMapGroup => "--I"
  | .genericListGroup => "-J"
  | .bigGenericListGroup => "--J"
  | .controllerIdxSigs => "-K"
  | .bigControllerIdxSigs => "--K"
  | .witnessIdxSigs => "-L"
  | .bigWitnessIdxSigs => "--L"
  | .nonTransReceiptCouples => "-M"
  | .bigNonTransReceiptCouples => "--M"
  | .transReceiptQuadruples => "-N"
  | .bigTransReceiptQuadruples => "--N"
  | .firstSeenReplayCouples => "-O"
  | .bigFirstSeenReplayCouples => "--O"
  | .pathedMaterialCouples => "-P"
  | .bigPathedMaterialCouples => "--P"
  | .digestSealSingles => "-Q"
  | .bigDigestSealSingles => "--Q"
  | .merkleRootSealSingles => "-R"
  | .bigMerkleRootSealSingles => "--R"
  | .sealSourceCouples => "-S"
  | .bigSealSourceCouples => "--S"
  | .sealSourceTriples => "-T"
  | .bigSealSourceTriples => "--T"
  | .sealSourceLastSingles => "-U"
  | .bigSealSourceLastSingles => "--U"
  | .backerRegistrarSealCouples => "-V"
  | .bigBackerRegistrarSealCouples => "--V"
  | .typedDigestSealCouples => "-W"
  | .bigTypedDigestSealCouples => "--W"
  | .transIdxSigGroups => "-X"
  | .bigTransIdxSigGroups => "--X"
  | .transLastIdxSigGroups => "-Y"
  | .bigTransLastIdxSigGroups => "--Y"
  | .essrPayloadGroup => "-Z"
  | .bigEssrPayloadGroup => "--Z"
  | .blindedStateQuadruples => "-a"
  | .bigBlindedStateQuadruples => "--a"
  | .boundStateSextuples => "-b"
  | .bigBoundStateSextuples => "--b"
  | .typedMediaQuadruples => "-c"
  | .bigTypedMediaQuadruples => "--c"
  | .keriAcdcGenusVersion => "-_AAA"

def CounterCodeV2.all : List CounterCodeV2 :=
  [.genericGroup, .bigGenericGroup, .bodyWithAttachmentGroup, .bigBodyWithAttachmentGroup, .attachmentGroup,
    .bigAttachmentGroup, .datagramSegmentGroup, .bigDatagramSegmentGroup, .essrWrapperGroup, .bigEssrWrapperGroup,
    .fixBodyGroup, .bigFixBodyGroup, .mapBodyGroup, .bigMapBodyGroup, .nonNativeBodyGroup, .bigNonNativeBodyGroup,
    .genericMapGroup, .bigGenericMapGroup, .genericListGroup, .bigGenericListGroup, .controllerIdxSigs,
    .bigControllerIdxSigs, .witnessIdxSigs, .bigWitnessIdxSigs, .nonTransReceiptCouples, .bigNonTransReceiptCouples,
    .transReceiptQuadruples, .bigTransReceiptQuadruples, .firstSeenReplayCouples, .bigFirstSeenReplayCouples,
    .pathedMaterialCouples, .bigPathedMaterialCouples, .digestSealSingles, .bigDigestSealSingles,
    .merkleRootSealSingles, .bigMerkleRootSealSingles, .sealSourceCouples, .bigSealSourceCouples, .sealSourceTriples,
    .bigSealSourceTriples, .sealSourceLastSingles, .bigSealSourceLastSingles, .backerRegistrarSealCouples,
    .bigBackerRegistrarSealCouples, .typedDigestSealCouples, .bigTypedDigestSealCouples, .transIdxSigGroups,
    .bigTransIdxSigGroups, .transLastIdxSigGroups, .bigTransLastIdxSigGroups, .essrPayloadGroup, .bigEssrPayloadGroup,
    .blindedStateQuadruples, .bigBlindedStateQuadruples, .boundStateSextuples, .bigBoundStateSextuples,
    .typedMediaQuadruples, .bigTypedMediaQuadruples, .keriAcdcGenusVersion]

def CounterCodeV2.hardSize : CounterCodeV2 → Nat
  | .bigGenericGroup | .bigBodyWithAttachmentGroup | .bigAttachmentGroup | .bigDatagramSegmentGroup
  | .bigEssrWrapperGroup | .bigFixBodyGroup | .bigMapBodyGroup | .bigNonNativeBodyGroup | .bigGenericMapGroup
  | .bigGenericListGroup | .bigControllerIdxSigs | .bigWitnessIdxSigs | .bigNonTransReceiptCouples
  | .bigTransReceiptQuadruples | .bigFirstSeenReplayCouples | .bigPathedMaterialCouples | .bigDigestSealSingles
  | .bigMerkleRootSealSingles | .bigSealSourceCouples | .bigSealSourceTriples | .bigSealSourceLastSingles
  | .bigBackerRegistrarSealCouples | .bigTypedDigestSealCouples | .bigTransIdxSigGroups
  | .bigTransLastIdxSigGroups | .bigEssrPayloadGroup | .bigBlindedStateQuadruples | .bigBoundStateSextuples
  | .bigTypedMediaQuadruples => 3
  | .keriAcdcGenusVersion => 5
  | _ => 2

def CounterCodeV2.softSize : CounterCodeV2 → Nat
  | .bigGenericGroup | .bigBodyWithAttachmentGroup | .bigAttachmentGroup | .bigDatagramSegmentGroup
  | .bigEssrWrapperGroup | .bigFixBodyGroup | .bigMapBodyGroup | .bigNonNativeBodyGroup | .bigGenericMapGroup
  | .bigGenericListGroup | .bigControllerIdxSigs | .bigWitnessIdxSigs | .bigNonTransReceiptCouples
  | .bigTransReceiptQuadruples | .bigFirstSeenReplayCouples | .bigPathedMaterialCouples | .bigDigestSealSingles
  | .bigMerkleRootSealSingles | .bigSealSourceCouples | .bigSealSourceTriples | .bigSealSourceLastSingles
  | .bigBackerRegistrarSealCouples | .bigTypedDigestSealCouples | .bigTransIdxSigGroups
  | .bigTransLastIdxSigGroups | .bigEssrPayloadGroup | .bigBlindedStateQuadruples | .bigBoundStateSextuples
  | .bigTypedMediaQuadruples => 5
  | .keriAcdcGenusVersion => 3
  | _ => 2

def CounterCodeV2.fullSize : CounterCodeV2 → Nat
  | .bigGenericGroup | .bigBodyWithAttachmentGroup | .bigAttachmentGroup | .bigDatagramSegmentGroup
  | .bigEssrWrapperGroup | .bigFixBodyGroup | .bigMapBodyGroup | .bigNonNativeBodyGroup | .bigGenericMapGroup
  | .bigGenericListGroup | .bigControllerIdxSigs | .bigWitnessIdxSigs | .bigNonTransReceiptCouples
  | .bigTransReceiptQuadruples | .bigFirstSeenReplayCouples | .bigPathedMaterialCouples | .bigDigestSealSingles
  | .bigMerkleRootSealSingles | .bigSealSourceCouples | .bigSealSourceTriples | .bigSealSourceLastSingles
  | .bigBackerRegistrarSealCouples | .bigTypedDigestSealCouples | .bigTransIdxSigGroups
  | .bigTransLastIdxSigGroups | .bigEssrPayloadGroup | .bigBlindedStateQuadruples | .bigBoundStateSextuples
  | .bigTypedMediaQuadruples
  | .keriAcdcGenusVersion => 8
  | _ => 4

def CounterCodeV2.fromHard (hard : String) : Except CounterCodeError CounterCodeV2 :=
  match CounterCodeV2.all.find? fun code => code.asStr == hard with
  | some code => .ok code
  | none => .error (.unknownCode (some hard))

def CounterCodeV2.fromBase64Stream (stream : Bytes) : Except CounterCodeError CounterCodeV2 := do
  let hs ← streamHardSize stream
  let hard ← counterHard hs stream
  CounterCodeV2.fromHard hard

theorem counter_v1_sizes (code : CounterCodeV1) :
    2 ≤ code.hardSize ∧ code.hardSize + code.softSize = code.fullSize ∧ 4 ∣ code.fullSize ∧ code.fullSize ≤ 8 ∧
      (asBytes code.asStr).length = code.hardSize := by
  cases code <;> decide

theorem counter_v2_sizes (code : CounterCodeV2) :
    2 ≤ code.hardSize ∧ code.hardSize + code.softSize = code.fullSize ∧ 4 ∣ code.fullSize ∧ code.fullSize ≤ 8 ∧
      (asBytes code.asStr).length = code.hardSize := by
  cases code <;> decide

end Cesr
