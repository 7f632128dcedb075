import Cesr.Stream.GroupScan
import Cesr.Codec.Deserialize
import Cesr.Events.Exn

set_option autoImplicit false

namespace Cesr.Codec

open Base64 Checks Resume Cesr.Stream

inductive EventMessageError where
  | frame (error : ParseError)
  | body (error : CodecError)
  | bareAttachment
  | unexpectedGroup (group : String)
  | invalidPathedMaterial (reason : String)
  | telSourceSnOutOfRange (qb64 : String)
deriving DecidableEq, Repr

inductive ReceiptMessageError where
  | frame (error : ParseError)
  | body (error : CodecError)
  | bareAttachment
  | missingEndorsement
  | transferableCouple (pfx : String)
  | endorserSnOutOfRange (qb64 : String)
  | unexpectedGroup (group : String)
deriving DecidableEq, Repr

def groupName : CesrGroup → String
  | .group .controllerIdxSig _ _ _ => "ControllerIdxSigs"
  | .group .witnessIdxSig _ _ _ => "WitnessIdxSigs"
  | .group .nonTransReceiptCouple _ _ _ => "NonTransReceiptCouples"
  | .group .transReceiptQuadruple _ _ _ => "TransReceiptQuadruples"
  | .group .firstSeenReplayCouple _ _ _ => "FirstSeenReplayCouples"
  | .group .transIdxSigGroup _ _ _ => "TransIdxSigGroups"
  | .group .sealSourceCouple _ _ _ => "SealSourceCouples"
  | .group .transLastIdxSigGroup _ _ _ => "TransLastIdxSigGroups"
  | .group .sealSourceTriple _ _ _ => "SealSourceTriples"
  | .group .digestSealSingle _ _ _ => "DigestSealSingles"
  | .group .merkleRootSealSingle _ _ _ => "MerkleRootSealSingles"
  | .group .sealSourceLastSingle _ _ _ => "SealSourceLastSingles"
  | .group .backerRegistrarSealCouple _ _ _ => "BackerRegistrarSealCouples"
  | .group .typedDigestSealCouple _ _ _ => "TypedDigestSealCouples"
  | .group .blindedStateQuadruple _ _ _ => "BlindedStateQuadruples"
  | .group .boundStateSextuple _ _ _ => "BoundStateSextuples"
  | .group .typedMediaQuadruple _ _ _ => "TypedMediaQuadruples"
  | .frame .pathedMaterial _ _ => "PathedMaterialCouples"
  | .frame .attachment _ _ => "AttachmentGroup"
  | .frame .generic _ _ => "GenericGroup"
  | .frame .bodyWithAttachment _ _ => "BodyWithAttachmentGroup"
  | .frame .nonNativeBody _ _ => "NonNativeBodyGroup"
  | .frame .essrPayload _ _ => "ESSRPayloadGroup"
  | .frame .datagramSegment _ _ => "DatagramSegmentGroup"
  | .frame .essrWrapper _ _ => "ESSRWrapperGroup"
  | .frame .fixBody _ _ => "FixBodyGroup"
  | .frame .mapBody _ _ => "MapBodyGroup"
  | .frame .genericMap _ _ => "GenericMapGroup"
  | .frame .genericList _ _ => "GenericListGroup"

def qb64Text {Code ε : Type} [CesrCode Code] (matter : Matter Code) : Except (Failure ε) String :=
  match matter.toQb64 with
  | some text => .ok text
  | none => .error .panicked

section Elements

def Siger.new (indexer : Indexer) : Siger := ⟨indexer.code, indexer.index, indexer.ondex, indexer.raw, none⟩

def narrow {Code : Type} (tryFrom : MatterCode → Except ValidationError Code) (matter : Matter MatterCode) :
    Except ValidationError (Matter Code) :=
  (tryFrom matter.code).map fun code => ⟨code, matter.raw, matter.soft⟩

def sigerElement : List FieldValue → Option Siger
  | [.indexer indexer] => some (Siger.new indexer)
  | _ => none

def sealSourceCouple : List FieldValue → Option (Matter MatterCode × Matter DigestCode)
  | [.matter seqner, .matter saider] => (narrow DigestCode.tryFrom saider).toOption.map fun saider => (seqner, saider)
  | _ => none

def nonTransReceiptCouple : List FieldValue → Option (Matter VerKeyCode × Matter SignatureCode)
  | [.matter prefixer, .matter signature] => do
      let prefixer ← (narrow VerKeyCode.tryFrom prefixer).toOption
      let signature ← (narrow SignatureCode.tryFrom signature).toOption
      some (prefixer, signature)
  | _ => none

structure TransIdxSigElement where
  prefixer : Matter MatterCode
  seqner : Matter MatterCode
  saider : Matter DigestCode
  raw : Bytes
  count : U32
deriving DecidableEq, Repr

def transIdxSigGroup : List FieldValue → Option TransIdxSigElement
  | [.matter prefixer, .matter seqner, .matter saider, .sigs raw count] =>
      (narrow DigestCode.tryFrom saider).toOption.map fun saider => ⟨prefixer, seqner, saider, raw, count⟩
  | _ => none

def intoVec {α : Type} (typed : List FieldValue → Option α) (kind : GroupKind) (version : CesrVersion) (count : U32)
    (raw : Bytes) : Except ParseError (List α) := do
  let elements ← readElements kind version count.val raw
  pure (elements.filterMap typed)

end Elements

section Walk

variable {σ ε : Type} (frame : ParseError → ε) (route : CesrGroup → σ → Except (Failure ε) σ)

-- The groups of an attachment frame, which are routed one level deep.
def routeInner (version : CesrVersion) : Nat → Bytes → σ → Except (Failure ε) σ
  | 0, _, found => .ok found
  | _ + 1, [], found => .ok found
  | fuel + 1, payload, found => do
      let parsed ← (CesrGroup.parseOf version payload).mapError fun error => .error (frame error)
      let found ← route parsed.1 found
      routeInner version fuel parsed.2 found

def routeTop (group : CesrGroup) (found : σ) : Except (Failure ε) σ :=
  match group with
  | .frame .attachment payload version => routeInner frame route version payload.length payload found
  | other => route other found

def isCesr (first : UInt8) : Bool :=
  match ColdCode.detect first with
  | .ok .cesrBase64 | .ok .cesrBinary => true
  | _ => false

-- Consecutive groups, up to the end of the input or the next body; the bytes
-- behind them are handed on.
def consumeGroups : Nat → Bytes → σ → Except (Failure ε) (σ × Bytes)
  | 0, input, found => .ok (found, input)
  | _ + 1, [], found => .ok (found, [])
  | fuel + 1, first :: rest, found =>
      if isCesr first then do
        let parsed ← (CesrGroup.parse (first :: rest)).mapError fun error => .error (frame error)
        let found ← routeTop frame route parsed.1 found
        consumeGroups fuel parsed.2 found
      else .ok (found, first :: rest)

end Walk

section Events

structure EventAttachments where
  sigs : List Siger
  wigs : List Siger
deriving DecidableEq, Repr

def sigersOf (kind : GroupKind) (version : CesrVersion) (count : U32) (raw : Bytes) :
    Except (Failure EventMessageError) (List Siger) :=
  (intoVec sigerElement kind version count raw).mapError fun error => .error (.frame error)

def unexpectedGroup (group : CesrGroup) : Failure EventMessageError := .error (.unexpectedGroup (groupName group))

def routeSignatureGroup (group : CesrGroup) (found : EventAttachments) : Except (Failure EventMessageError) EventAttachments :=
  match group with
  | .group .controllerIdxSig raw count version => do
      let sigs ← sigersOf .controllerIdxSig version count raw
      pure { found with sigs := found.sigs ++ sigs }
  | .group .witnessIdxSig raw count version => do
      let wigs ← sigersOf .witnessIdxSig version count raw
      pure { found with wigs := found.wigs ++ wigs }
  | other => .error (unexpectedGroup other)

def consumeAttachments (input : Bytes) : Except (Failure EventMessageError) (EventAttachments × Bytes) :=
  consumeGroups .frame routeSignatureGroup input.length input ⟨[], []⟩

structure TelSource where
  sn : Number
  said : Said
deriving DecidableEq, Repr

structure TelAttachments where
  sigs : List Siger
  source : Option TelSource
  backerSigs : List Siger
deriving DecidableEq, Repr

-- A later couple takes the place of an earlier one.
def takeTelSource (found : TelAttachments) (couple : Matter MatterCode × Matter DigestCode) :
    Except (Failure EventMessageError) TelAttachments :=
  if 16 < couple.1.raw.length then do
    let qb64 ← qb64Text couple.1
    .error (.error (.telSourceSnOutOfRange qb64))
  else .ok { found with source := some ⟨Number.new (numberValue couple.1.raw), ⟨couple.2⟩⟩ }

def routeTelGroup (group : CesrGroup) (found : TelAttachments) : Except (Failure EventMessageError) TelAttachments :=
  match group with
  | .group .controllerIdxSig raw count version => do
      let sigs ← sigersOf .controllerIdxSig version count raw
      pure { found with sigs := found.sigs ++ sigs }
  | .group .sealSourceCouple raw count version => do
      let couples ← (intoVec sealSourceCouple .sealSourceCouple version count raw).mapError fun error => .error (.frame error)
      couples.foldlM takeTelSource found
  | .group .witnessIdxSig raw count version => do
      let sigs ← sigersOf .witnessIdxSig version count raw
      pure { found with backerSigs := found.backerSigs ++ sigs }
  | other => .error (unexpectedGroup other)

def consumeTelAttachments (input : Bytes) : Except (Failure EventMessageError) (TelAttachments × Bytes) :=
  consumeGroups .frame routeTelGroup input.length input ⟨[], none, []⟩

end Events

section Exchanges

variable (limits : FrameLimits)

structure ExnAttachments where
  sigs : List Siger
  pathed : List PathedAttachment
  usedSignatures : Nat
deriving DecidableEq, Repr

def invalidPathedMaterial {α : Type} (reason : String) : Except (Failure EventMessageError) α :=
  .error (.error (.invalidPathedMaterial reason))

def LabelerCode.isPath : LabelerCode → Bool
  | .strB64_L0 | .strB64_L1 | .strB64_L2 | .strB64Big_L0 | .strB64Big_L1 | .strB64Big_L2 => true
  | _ => false

def pathedPath (raw : Bytes) : Except (Failure EventMessageError) String := do
  let matter ← (fromQualifiedBase64 raw).mapError fun _ => .error (.invalidPathedMaterial "invalid path primitive")
  let path ← (narrow LabelerCode.tryFrom matter).mapError fun _ => .error (.invalidPathedMaterial "path must be a CESR label")
  if LabelerCode.isPath path.code then qb64Text path
  else invalidPathedMaterial "path must be a CESR base64 string"

-- Each group is scanned with what the groups before it have left of the signatures.
def materialGroups : Nat → Bytes → Nat → Nat → Except (Failure EventMessageError) Nat
  | 0, _, _, signatures => .ok signatures
  | _ + 1, [], _, signatures => .ok signatures
  | fuel + 1, remainder, groups, signatures =>
      if limits.maxNestedGroups ≤ groups then invalidPathedMaterial "too many material groups"
      else do
        let scanned ← ({ limits with maxSignatures := limits.maxSignatures - signatures }.scanGroupV1 remainder).mapError
          fun error => .error (.frame (messageError limits.maxSignatures signatures error))
        if remainder.length < scanned.1 then .error (.error (.frame (.truncated 1)))
        else materialGroups fuel (remainder.drop scanned.1) (groups + 1) (saturatingAdd signatures scanned.2)

def parsePathedMaterial (raw : Bytes) (priorSignatures : Nat) :
    Except (Failure EventMessageError) (PathedAttachment × Nat) := do
  let pathQb64 ← pathedPath raw
  if raw.length < (asBytes pathQb64).length then invalidPathedMaterial "path extends beyond group"
  else
    let material := raw.drop (asBytes pathQb64).length
    if material = [] then invalidPathedMaterial "path has no material"
    else do
      let signatures ← materialGroups limits material.length material 0 priorSignatures
      pure (⟨pathQb64, material⟩, signatures - priorSignatures)

def routeExnGroup (group : CesrGroup) (found : ExnAttachments) : Except (Failure EventMessageError) ExnAttachments :=
  match group with
  | .group .controllerIdxSig raw count version => do
      let sigs ← sigersOf .controllerIdxSig version count raw
      let actual := saturatingAdd found.usedSignatures sigs.length
      if limits.maxSignatures < actual then .error (.error (.frame (.limitExceeded .signatures limits.maxSignatures actual)))
      else pure { found with sigs := found.sigs ++ sigs, usedSignatures := actual }
  | .frame .pathedMaterial payload _ =>
      if limits.maxAttachmentGroups ≤ found.pathed.length then invalidPathedMaterial "too many pathed groups"
      else do
        let parsed ← parsePathedMaterial limits payload found.usedSignatures
        pure { found with
          pathed := found.pathed ++ [parsed.1]
          usedSignatures := saturatingAdd found.usedSignatures parsed.2 }
  | other => .error (unexpectedGroup other)

def consumeExnAttachments (input : Bytes) : Except (Failure EventMessageError) (ExnAttachments × Bytes) :=
  consumeGroups .frame (routeExnGroup limits) input.length input ⟨[], [], 0⟩

-- The signatures of a pathed attachment, which is then one group of them.
def PathedAttachment.controllerSignatures (attachment : PathedAttachment) : Except EventMessageError (List Siger) := do
  let parsed ← (CesrGroup.parse attachment.material).mapError .frame
  match parsed.1 with
  | .group .controllerIdxSig raw count version =>
      if parsed.2 = [] then (intoVec sigerElement .controllerIdxSig version count raw).mapError .frame
      else .error (.invalidPathedMaterial "extra material after controller signatures")
  | _ => .error (.invalidPathedMaterial "path does not carry controller signatures")

end Exchanges

section Receipts

structure ReceiptCouple where
  receiptor : BasicPrefix
  signature : Matter SignatureCode
deriving DecidableEq, Repr

structure TransferableReceipt where
  receiptor : Identifier
  sn : Number
  said : Said
  signatures : List Siger
deriving DecidableEq, Repr

structure ReceiptAttachments where
  couples : List ReceiptCouple
  wigs : List Siger
  transReceipts : List TransferableReceipt
deriving DecidableEq, Repr

def unexpectedCode (expected : String) (source : ValidationError) : Failure ReceiptMessageError :=
  .error (.frame (.unexpectedCodeType expected source))

def endorserIdentifier (prefixer : Matter MatterCode) : Except (Failure ReceiptMessageError) Identifier :=
  match narrow VerKeyCode.tryFrom prefixer with
  | .ok key => .ok (.basic ⟨key⟩)
  | .error _ => do
      let digest ← (narrow DigestCode.tryFrom prefixer).mapError (unexpectedCode "VerKeyCode or DigestCode")
      pure (.selfAddressing ⟨digest⟩)

def seqnerNumber (seqner : Matter MatterCode) : Except (Failure ReceiptMessageError) Number :=
  if 16 < seqner.raw.length then do
    let qb64 ← qb64Text seqner
    .error (.error (.endorserSnOutOfRange qb64))
  else .ok (Number.new (numberValue seqner.raw))

def takeCouple (found : ReceiptAttachments) (couple : Matter VerKeyCode × Matter SignatureCode) :
    Except (Failure ReceiptMessageError) ReceiptAttachments :=
  if couple.1.code.isTransferable then do
    let qb64 ← qb64Text couple.1
    .error (.error (.transferableCouple qb64))
  else .ok { found with couples := found.couples ++ [⟨⟨couple.1⟩, couple.2⟩] }

def takeTransferable (version : CesrVersion) (found : ReceiptAttachments) (element : TransIdxSigElement) :
    Except (Failure ReceiptMessageError) ReceiptAttachments := do
  let receiptor ← endorserIdentifier element.prefixer
  let sn ← seqnerNumber element.seqner
  let signatures ← (intoVec sigerElement .controllerIdxSig version element.count element.raw).mapError fun error => .error (.frame error)
  pure { found with transReceipts := found.transReceipts ++ [⟨receiptor, sn, ⟨element.saider⟩, signatures⟩] }

def routeReceiptGroup (group : CesrGroup) (found : ReceiptAttachments) : Except (Failure ReceiptMessageError) ReceiptAttachments :=
  match group with
  | .group .nonTransReceiptCouple raw count version => do
      let couples ← (intoVec nonTransReceiptCouple .nonTransReceiptCouple version count raw).mapError fun error => .error (.frame error)
      couples.foldlM takeCouple found
  | .group .witnessIdxSig raw count version => do
      let wigs ← (intoVec sigerElement .witnessIdxSig version count raw).mapError fun error => .error (.frame error)
      pure { found with wigs := found.wigs ++ wigs }
  | .group .transIdxSigGroup raw count version => do
      let elements ← (intoVec transIdxSigGroup .transIdxSigGroup version count raw).mapError fun error => .error (.frame error)
      elements.foldlM (takeTransferable version) found
  | other => .error (.error (.unexpectedGroup (groupName other)))

def consumeReceiptAttachments (input : Bytes) : Except (Failure ReceiptMessageError) (ReceiptAttachments × Bytes) :=
  consumeGroups .frame routeReceiptGroup input.length input ⟨[], [], []⟩

end Receipts

end Cesr.Codec
