import Cesr.Codec.Encode
import Cesr.Codec.Routed

set_option autoImplicit false

namespace Cesr

def Identifier.saidCode : Identifier → Option DigestCode
  | .selfAddressing said => some said.matter.code
  | .basic _ => none

namespace KeriEvent

def saidCode (event : KeriEvent) : DigestCode := event.said.matter.code

-- The prefix of an inception that is a digest is computed with the said.
def prefixSaidCode : KeriEvent → Option DigestCode
  | .inception e => e.pfx.saidCode
  | .delegatedInception e => e.inception.pfx.saidCode
  | .rotation _ | .interaction _ | .delegatedRotation _ => none

end KeriEvent

namespace Codec

open Checks Calls WriterJson Appends

structure EventLayout where
  size : Span
  said : Span
  pfx : Option Span
deriving DecidableEq, Repr

structure SerializedEvent where
  raw : Bytes
  said : Said
  pfx : Option Said
  messageType : MessageType
  size : Nat
deriving DecidableEq

-- The slot of the size is the six digits in the version string.
def writeHead (messageType : MessageType) (placeholder : Bytes) : Write (Span × Span) := do
  push (asBytes "\x7b\"v\":\"")
  let vsStart ← place
  push VersionString.keriJsonV1.toStr
  push (asBytes "\",\"t\":")
  writeStr messageType.code
  push (asBytes ",\"d\":\"")
  let dStart ← place
  push placeholder
  let dEnd ← place
  push [quote]
  pure ((vsStart + 10, vsStart + 16), (dStart, dEnd))

def prefixField (placeholder : Option Bytes) : Identifier → Write (Option Span)
  | .selfAddressing _ =>
      match placeholder with
      | none => throw (.internal (.eventLayout "self-addressing prefix without placeholder"))
      | some filled => do
          push (asBytes ",\"i\":\"")
          let iStart ← place
          push filled
          let iEnd ← place
          push [quote]
          pure (some (iStart, iEnd))
  | .basic pfx => do
      push (asBytes ",\"i\":")
      encodeBasicPrefix pfx
      pure none

def delegatorField : Option Identifier → Write Unit
  | none => pure ()
  | some delegator => do
      push (asBytes ",\"di\":")
      encodeIdentifier delegator

def inceptionFields (e : InceptionEvent) (form : ThresholdForm) : Write Unit := do
  push (asBytes ",\"s\":")
  encodeNumh e.sn
  push (asBytes ",\"kt\":")
  ThresholdField.encode ⟨e.threshold, form⟩
  push (asBytes ",\"k\":")
  encodeEach encodeVerifyingKey e.keys
  push (asBytes ",\"nt\":")
  ThresholdField.encode ⟨e.nextThreshold, form⟩
  push (asBytes ",\"n\":")
  encodeEach encodeDigest e.nextKeys
  push (asBytes ",\"bt\":")
  CountField.encode ⟨e.witnessThreshold, form⟩
  push (asBytes ",\"b\":")
  encodeEach encodeBasicPrefix e.witnesses
  push (asBytes ",\"c\":")
  encodeEach encodeConfigTrait e.config
  push (asBytes ",\"a\":")
  encodeEach encodeSeal e.anchors

def renderIcp (e : InceptionEvent) (form : ThresholdForm) (placeholder : Bytes) (prefixPlaceholder : Option Bytes)
    (messageType : MessageType) (delegator : Option Identifier) : Write EventLayout := do
  let slots ← writeHead messageType placeholder
  let pfx ← prefixField prefixPlaceholder e.pfx
  inceptionFields e form
  delegatorField delegator
  push (asBytes "\x7d")
  pure ⟨slots.1, slots.2, pfx⟩

def rotationFields (e : RotationEvent) (form : ThresholdForm) : Write Unit := do
  push (asBytes ",\"i\":")
  encodeIdentifier e.pfx
  push (asBytes ",\"s\":")
  encodeNumh e.sn
  push (asBytes ",\"p\":")
  encodeSaid e.priorEventSaid
  push (asBytes ",\"kt\":")
  ThresholdField.encode ⟨e.threshold, form⟩
  push (asBytes ",\"k\":")
  encodeEach encodeVerifyingKey e.keys
  push (asBytes ",\"nt\":")
  ThresholdField.encode ⟨e.nextThreshold, form⟩
  push (asBytes ",\"n\":")
  encodeEach encodeDigest e.nextKeys
  push (asBytes ",\"bt\":")
  CountField.encode ⟨e.witnessThreshold, form⟩
  push (asBytes ",\"br\":")
  encodeEach encodeBasicPrefix e.witnessRemovals
  push (asBytes ",\"ba\":")
  encodeEach encodeBasicPrefix e.witnessAdditions
  push (asBytes ",\"a\":")
  encodeEach encodeSeal e.anchors

def renderRot (e : RotationEvent) (form : ThresholdForm) (placeholder : Bytes) (messageType : MessageType) : Write EventLayout := do
  let slots ← writeHead messageType placeholder
  rotationFields e form
  push (asBytes "\x7d")
  pure ⟨slots.1, slots.2, none⟩

def interactionFields (e : InteractionEvent) : Write Unit := do
  push (asBytes ",\"i\":")
  encodeIdentifier e.pfx
  push (asBytes ",\"s\":")
  encodeNumh e.sn
  push (asBytes ",\"p\":")
  encodeSaid e.priorEventSaid
  push (asBytes ",\"a\":")
  encodeEach encodeSeal e.anchors

def renderIxn (e : InteractionEvent) (placeholder : Bytes) : Write EventLayout := do
  let slots ← writeHead .ixn placeholder
  interactionFields e
  push (asBytes "\x7d")
  pure ⟨slots.1, slots.2, none⟩

def renderEvent (form : ThresholdForm) (placeholder : Bytes) (prefixPlaceholder : Option Bytes) : KeriEvent → Write EventLayout
  | .inception e => renderIcp e form placeholder prefixPlaceholder .icp none
  | .rotation e => renderRot e form placeholder .rot
  | .interaction e => renderIxn e placeholder
  | .delegatedInception e => renderIcp e.inception form placeholder prefixPlaceholder .dip (some e.delegator)
  | .delegatedRotation e => renderRot e.rotation form placeholder .drt

-- No other serialization has a writer.
def renderBody (kind : SerializationKind) (event : KeriEvent) (form : ThresholdForm) (placeholder : Bytes)
    (prefixPlaceholder : Option Bytes) : Write EventLayout :=
  match kind with
  | .json => renderEvent form placeholder prefixPlaceholder event
  | .cbor | .mgpk | .cesr => throw (.version (.unsupportedSerializationKind kind))

def slotPlaceholder (code : DigestCode) : Except CodecError Bytes :=
  (placeholder code).mapError fun error => .internal (.placeholderPrimitive error)

def slotMismatch : CodecError :=
  .internal (.eventLayout "prefix slot and prefix said code must be Some/None together")

def splicePrefix : Option Span → Option (Matter DigestCode) → Write (Option Said)
  | some slot, some said => do
      spliceSaid slot said
      pure (some ⟨said⟩)
  | none, none => pure none
  | _, _ => throw slotMismatch

section Serialize

variable (library : KeyLibrary)

def eventDigest (buf : Bytes) (code : DigestCode) : Except CodecError (Matter DigestCode) :=
  (Diger.digest library code buf).mapError fun failure => .said (.digest failure)

-- Both digests are of the same buffer, in which the placeholders stand.
def KeriEvent.fillDigests (event : KeriEvent) (layout : EventLayout) (size : Nat) : Write SerializedEvent := do
  let buf ← get
  let said ← Calls.check (eventDigest library buf event.saidCode)
  let pfx ← Calls.check (event.prefixSaidCode.mapM (eventDigest library buf))
  spliceSaid layout.said said
  let pfx ← splicePrefix layout.pfx pfx
  let raw ← get
  pure ⟨raw, ⟨said⟩, pfx, event.messageType, size⟩

def oversized : CodecError := .version (.version (.fieldOverflow "size" versionSizeMax))

def KeriEvent.fillSlots (event : KeriEvent) (layout : EventLayout) : Write SerializedEvent := do
  let buf ← get
  Calls.check (rejectIf (¬ buf.length ≤ versionSizeMax) oversized)
  patchSlot layout.size (hexSize buf.length)
  Calls.check (rejectIf (layout.pfx.isSome ≠ event.prefixSaidCode.isSome) slotMismatch)
  KeriEvent.fillDigests library event layout buf.length

def KeriEvent.writeEvent (event : KeriEvent) (form : ThresholdForm) : Write SerializedEvent := do
  let filled ← Calls.check (slotPlaceholder event.saidCode)
  let prefixFilled ← Calls.check (event.prefixSaidCode.mapM slotPlaceholder)
  let layout ← renderBody .json event form filled prefixFilled
  KeriEvent.fillSlots library event layout

def KeriEvent.serialize (event : KeriEvent) (form : ThresholdForm) : Except CodecError SerializedEvent :=
  outcome (KeriEvent.writeEvent library event form) []

end Serialize

end Codec

end Cesr
