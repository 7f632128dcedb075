import Cesr.Codec.Event

set_option autoImplicit false

namespace Cesr

-- The receipted event is named by its said; nothing in a receipt names the receipt.
structure Receipt where
  pfx : Identifier
  sn : Number
  said : Said
deriving DecidableEq, Repr

namespace Codec

open Checks WriterJson Scanner

structure ParsedRct where
  said : String
  pfx : String
  sn : String
deriving DecidableEq, Repr

def ParsedRct.body : Scan ParsedRct := do
  let said ← field ",\"d\":" stringValue
  let pfx ← field ",\"i\":" stringValue
  let sn ← field ",\"s\":" stringValue
  bodyEnd ⟨said, pfx, sn⟩

def ParsedRct.parse (raw : Bytes) (budget : JsonBudget) : Except CodecError ParsedRct :=
  scanned (typedBody "rct" ParsedRct.body) raw budget

def buildReceipt (parsed : ParsedRct) : Except CodecError Receipt := do
  let pfx ← decode (identifierFromWire "i" parsed.pfx)
  let sn ← decode (numberFromWire "s" parsed.sn)
  let said ← decode (saidFromWire "d" parsed.said)
  pure ⟨pfx, sn, said⟩

def deserializeReceipt (raw : Bytes) (budget : JsonBudget) : Except CodecError Receipt := do
  checkJsonBody raw
  let parsed ← ParsedRct.parse raw budget
  buildReceipt parsed

-- An event and the spelling of its numeric thresholds, which the event type leaves out.
structure Formed (Event : Type) where
  event : Event
  form : ThresholdForm
deriving DecidableEq

structure EventRead where
  event : KeriEvent
  form : Option ThresholdForm
deriving DecidableEq

def validateThreshold (threshold : SigningThreshold) (keyCount : Nat) (field : String) : Except CodecError Unit :=
  (threshold.checkWellFormed keyCount).mapError fun error => .builder (.signingThresholdOutOfRange field error)

-- An event that commits to no next keys has no threshold over them.
def checkThresholdsWellFormed (threshold : SigningThreshold) (keyCount : Nat) (nextThreshold : SigningThreshold)
    (nextKeyCount : Nat) : Except CodecError Unit := do
  validateThreshold threshold keyCount "signing"
  if nextKeyCount ≠ 0 then validateThreshold nextThreshold nextKeyCount "next signing"

def buildInception (parsed : ParsedIcp) : Except CodecError (Formed InceptionEvent) := do
  let form := thresholdFormOf parsed.witnessThreshold
  checkFormConsistency "kt" parsed.threshold form
  checkFormConsistency "nt" parsed.nextThreshold form
  let witnesses ← decode (eachFromWire basicPrefixFromWire "b" parsed.witnesses)
  (MemberSet.checkWitnesses witnesses "witnesses").mapError fun error => .deserialize (.memberSet error)
  let count ← decode (countFromWire "bt" parsed.witnessThreshold)
  let witnessThreshold ← (Toad.exact count witnesses.length).mapError fun error => .builder (.toad error)
  let keys ← decode (eachFromWire verifyingKeyFromWire "k" parsed.keys)
  let threshold ← decode (signingThresholdFromWire "kt" parsed.threshold)
  let nextKeys ← decode (eachFromWire digestFromWire "n" parsed.nextKeys)
  let nextThreshold ← decode (signingThresholdFromWire "nt" parsed.nextThreshold)
  checkThresholdsWellFormed threshold keys.length nextThreshold nextKeys.length
  let pfx ← decode (identifierFromWire "i" parsed.pfx.value)
  let sn ← decode (numberFromWire "s" parsed.sn)
  let said ← decode (saidFromWire "d" parsed.said.value)
  let config ← decode (eachFromWire configTraitFromWire "c" parsed.config)
  let anchors ← decode (eachFromWire sealFromWire "a" parsed.anchors)
  let inception : InceptionEvent :=
    ⟨pfx, sn, said, keys, threshold, nextKeys, nextThreshold, witnesses, witnessThreshold, config, anchors⟩
  inception.checkIdentity.mapError fun error => .deserialize (.inceptionIdentity error)
  pure ⟨inception, form⟩

def checkDigestive : Identifier → Except CodecError Unit
  | .selfAddressing _ => .ok ()
  | .basic _ => .error (.deserialize .delegatedPrefixNotDigestive)

def buildDelegatedInception (parsed : ParsedDip) : Except CodecError (Formed DelegatedInceptionEvent) := do
  let inception ← buildInception parsed.icp
  checkDigestive inception.event.pfx
  let delegator ← decode (identifierFromWire "di" parsed.delegator)
  pure ⟨⟨inception.event, delegator⟩, inception.form⟩

def buildRotation (parsed : ParsedRot) : Except CodecError (Formed RotationEvent) := do
  let form := thresholdFormOf parsed.witnessThreshold
  checkFormConsistency "kt" parsed.threshold form
  checkFormConsistency "nt" parsed.nextThreshold form
  let keys ← decode (eachFromWire verifyingKeyFromWire "k" parsed.keys)
  let threshold ← decode (signingThresholdFromWire "kt" parsed.threshold)
  let nextKeys ← decode (eachFromWire digestFromWire "n" parsed.nextKeys)
  let nextThreshold ← decode (signingThresholdFromWire "nt" parsed.nextThreshold)
  checkThresholdsWellFormed threshold keys.length nextThreshold nextKeys.length
  let additions ← decode (eachFromWire basicPrefixFromWire "ba" parsed.witnessAdditions)
  let removals ← decode (eachFromWire basicPrefixFromWire "br" parsed.witnessRemovals)
  (MemberSet.checkWitnessDeltas removals additions "witness removals" "witness additions").mapError fun error =>
    .deserialize (.memberSet error)
  let pfx ← decode (identifierFromWire "i" parsed.pfx)
  let sn ← decode (numberFromWire "s" parsed.sn)
  let said ← decode (saidFromWire "d" parsed.said.value)
  let prior ← decode (saidFromWire "p" parsed.prior)
  let count ← decode (countFromWire "bt" parsed.witnessThreshold)
  let anchors ← decode (eachFromWire sealFromWire "a" parsed.anchors)
  pure ⟨⟨pfx, sn, said, prior, keys, threshold, nextKeys, nextThreshold, additions, removals, Toad.fromWire count, anchors⟩, form⟩

def buildDelegatedRotation (parsed : ParsedRot) : Except CodecError (Formed DelegatedRotationEvent) := do
  let rotation ← buildRotation parsed
  checkDigestive rotation.event.pfx
  pure ⟨⟨rotation.event⟩, rotation.form⟩

def buildInteraction (parsed : ParsedIxn) : Except CodecError InteractionEvent := do
  let pfx ← decode (identifierFromWire "i" parsed.pfx)
  let sn ← decode (numberFromWire "s" parsed.sn)
  let said ← decode (saidFromWire "d" parsed.said.value)
  let prior ← decode (saidFromWire "p" parsed.prior)
  let anchors ← decode (eachFromWire sealFromWire "a" parsed.anchors)
  pure ⟨pfx, sn, said, prior, anchors⟩

def buildEvent : ParsedEvent → Except CodecError EventRead
  | .inception parsed => (buildInception parsed).map fun built => ⟨.inception built.event, some built.form⟩
  | .rotation parsed => (buildRotation parsed).map fun built => ⟨.rotation built.event, some built.form⟩
  | .interaction parsed => (buildInteraction parsed).map fun built => ⟨.interaction built, none⟩
  | .delegatedInception parsed =>
      (buildDelegatedInception parsed).map fun built => ⟨.delegatedInception built.event, some built.form⟩
  | .delegatedRotation parsed =>
      (buildDelegatedRotation parsed).map fun built => ⟨.delegatedRotation built.event, some built.form⟩

section Deserialize

variable (library : KeyLibrary)

def liftEvent (raw : Bytes) (parsed : ParsedEvent) : Except CodecError EventRead := do
  parsed.verifySaid library raw
  buildEvent parsed

def deserializeEvent (raw : Bytes) (budget : JsonBudget) : Except CodecError EventRead := do
  checkJsonBody raw
  let parsed ← ParsedEvent.parse raw budget
  liftEvent library raw parsed

def liftInception (raw : Bytes) (parsed : ParsedIcp) : Except CodecError (Formed InceptionEvent) := do
  parsed.verifySaid library raw
  buildInception parsed

def liftRotation (raw : Bytes) (parsed : ParsedRot) : Except CodecError (Formed RotationEvent) := do
  parsed.verifySaid library raw
  buildRotation parsed

def liftInteraction (raw : Bytes) (parsed : ParsedIxn) : Except CodecError InteractionEvent := do
  parsed.verifySaid library raw
  buildInteraction parsed

def liftDelegatedInception (raw : Bytes) (parsed : ParsedDip) : Except CodecError (Formed DelegatedInceptionEvent) := do
  parsed.icp.verifySaid library raw
  buildDelegatedInception parsed

def liftDelegatedRotation (raw : Bytes) (parsed : ParsedRot) : Except CodecError (Formed DelegatedRotationEvent) := do
  parsed.verifySaid library raw
  buildDelegatedRotation parsed

def deserializeInception (raw : Bytes) (budget : JsonBudget) : Except CodecError (Formed InceptionEvent) := do
  checkJsonBody raw
  let parsed ← ParsedIcp.parse raw budget
  liftInception library raw parsed

def deserializeRotation (raw : Bytes) (budget : JsonBudget) : Except CodecError (Formed RotationEvent) := do
  checkJsonBody raw
  let parsed ← ParsedRot.parse raw budget
  liftRotation library raw parsed

def deserializeInteraction (raw : Bytes) (budget : JsonBudget) : Except CodecError InteractionEvent := do
  checkJsonBody raw
  let parsed ← ParsedIxn.parse raw budget
  liftInteraction library raw parsed

def deserializeDelegatedInception (raw : Bytes) (budget : JsonBudget) : Except CodecError (Formed DelegatedInceptionEvent) := do
  checkJsonBody raw
  let parsed ← ParsedDip.parse raw budget
  liftDelegatedInception library raw parsed

def deserializeDelegatedRotation (raw : Bytes) (budget : JsonBudget) : Except CodecError (Formed DelegatedRotationEvent) := do
  checkJsonBody raw
  let parsed ← ParsedRot.parseDelegated raw budget
  liftDelegatedRotation library raw parsed

end Deserialize

end Codec

end Cesr
