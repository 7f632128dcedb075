import Cesr.Codec.AnchorPass
import Cesr.Codec.EventWriter
import Cesr.Codec.ThresholdReads

set_option autoImplicit false

namespace Cesr

-- What the reader asks of an inception; its builder lets a zero denominator through.
structure InceptionEvent.Writable (event : InceptionEvent) (form : Codec.ThresholdForm) : Prop where
  pfx : event.pfx.Made
  keys : ∀ key ∈ event.keys, key.matter.Made
  threshold : event.threshold.Writable form
  nextKeys : ∀ key ∈ event.nextKeys, key.matter.Made
  nextThreshold : event.nextThreshold.Writable form
  formed : Codec.checkThresholdsWellFormed event.threshold event.keys.length event.nextThreshold event.nextKeys.length = .ok ()
  witnesses : ∀ witness ∈ event.witnesses, witness.matter.Made
  members : MemberSet.checkWitnesses event.witnesses "witnesses" = .ok ()
  count : Toad.exact event.witnessThreshold.value event.witnesses.length = .ok event.witnessThreshold
  anchors : ∀ anchor ∈ event.anchors, anchor.Writable
  identity : event.checkIdentity = .ok ()

structure RotationEvent.Writable (event : RotationEvent) (form : Codec.ThresholdForm) : Prop where
  pfx : event.pfx.Made
  prior : event.priorEventSaid.matter.Made
  keys : ∀ key ∈ event.keys, key.matter.Made
  threshold : event.threshold.Writable form
  nextKeys : ∀ key ∈ event.nextKeys, key.matter.Made
  nextThreshold : event.nextThreshold.Writable form
  formed : Codec.checkThresholdsWellFormed event.threshold event.keys.length event.nextThreshold event.nextKeys.length = .ok ()
  additions : ∀ witness ∈ event.witnessAdditions, witness.matter.Made
  removals : ∀ witness ∈ event.witnessRemovals, witness.matter.Made
  members : MemberSet.checkWitnessDeltas event.witnessRemovals event.witnessAdditions "witness removals" "witness additions" = .ok ()
  anchors : ∀ anchor ∈ event.anchors, anchor.Writable

structure InteractionEvent.Writable (event : InteractionEvent) : Prop where
  pfx : event.pfx.Made
  prior : event.priorEventSaid.matter.Made
  anchors : ∀ anchor ∈ event.anchors, anchor.Writable

def Identifier.Digestive (pfx : Identifier) : Prop := Codec.checkDigestive pfx = .ok ()

def KeriEvent.Writable (form : Codec.ThresholdForm) : KeriEvent → Prop
  | .inception e => e.Writable form
  | .rotation e => e.Writable form
  | .interaction e => e.Writable
  | .delegatedInception e => e.inception.Writable form ∧ e.inception.pfx.Digestive ∧ e.delegator.Made
  | .delegatedRotation e => e.rotation.Writable form ∧ e.rotation.pfx.Digestive

def InceptionEvent.reread (event : InceptionEvent) (pfx : Identifier) (said : Said) : InceptionEvent :=
  { event with
    pfx := pfx
    sn := event.sn.reread
    said := said
    threshold := event.threshold.reread
    nextThreshold := event.nextThreshold.reread
    anchors := event.anchors.map Seal.reread }

def RotationEvent.reread (event : RotationEvent) (said : Said) : RotationEvent :=
  { event with
    sn := event.sn.reread
    said := said
    threshold := event.threshold.reread
    nextThreshold := event.nextThreshold.reread
    anchors := event.anchors.map Seal.reread }

def InteractionEvent.reread (event : InteractionEvent) (said : Said) : InteractionEvent :=
  { event with sn := event.sn.reread, said := said, anchors := event.anchors.map Seal.reread }

namespace Codec

open Checks Calls WriterJson Scanner Appends

section Next

variable {α β : Type}

theorem gives_next (lit : String) (item : Scan α) (next : α → Scan β) (value : α) (result : β) (text more : Bytes)
    (balanced : nesting (asBytes lit) 1 = some 1) (inner : Gives item value text 1 1) (behind : Gives (next value) result more 1 1) :
    Gives (field lit item >>= next) result (asBytes lit ++ (text ++ more)) 1 1 := by
  rw [← List.append_assoc]
  exact gives_bind _ _ _ _ _ _ _ _ _ (gives_field lit item value text 1 balanced inner) behind

theorem gives_next_until (lit comma : String) (item : Scan α) (next : α → Scan β) (value : α) (result : β) (text more : Bytes)
    (balanced : nesting (asBytes lit) 1 = some 1) (separates : (asBytes comma).head? = some 0x2C)
    (inner : GivesUntil item value text 1 1) (behind : Gives (next value) result (asBytes comma ++ more) 1 1) :
    Gives (field lit item >>= next) result (asBytes lit ++ (text ++ (asBytes comma ++ more))) 1 1 := by
  rw [← List.append_assoc]
  refine gives_until_bind _ _ _ _ _ _ _ _ _ (gives_until_field lit item value text 1 balanced inner) behind ?_
  intro rest byte first
  have same : byte = 0x2C := by
    cases spelled : asBytes comma with
    | nil =>
        rw [spelled] at separates
        cases separates
    | cons byte' others =>
        rw [spelled] at separates first
        exact (Option.some.inj first).symm.trans (Option.some.inj separates)
  exact stops_first 0x2C [] (.inl rfl) byte (by rw [same]; rfl)

theorem gives_last (lit : String) (item : Scan α) (make : α → β) (value : α) (text : Bytes)
    (balanced : nesting (asBytes lit) 1 = some 1) (inner : Gives item value text 1 1) :
    Gives (field lit item >>= fun value => pure (make value)) (make value) (asBytes lit ++ text) 1 1 := by
  have whole := gives_bind _ (fun value => pure (make value)) _ _ _ _ _ _ _ (gives_field lit item value text 1 balanced inner)
    (gives_pure (make value) 1)
  rw [List.append_nil] at whole
  exact whole

end Next

theorem formed_reread (threshold nextThreshold : SigningThreshold) (keyCount nextKeyCount : Nat) :
    checkThresholdsWellFormed threshold.reread keyCount nextThreshold.reread nextKeyCount =
      checkThresholdsWellFormed threshold keyCount nextThreshold nextKeyCount := by
  simp only [checkThresholdsWellFormed, validateThreshold, reread_well_formed]

theorem each_lifted {α ω : Type} {lift : String → ω → Except DeserializeError α} {field : String} {items : List α} {wires : List ω}
    (read : eachFromWire lift field wires = .ok (items.map id)) : eachFromWire lift field wires = .ok items := by
  rw [read, List.map_id]

section Inception

def icpBehind (said pfx : Spanned) : Scan ParsedIcp := do
  let sn ← field ",\"s\":" stringValue
  let threshold ← field ",\"kt\":" ParsedTholder.decode
  let keys ← field ",\"k\":" stringArray
  let nextThreshold ← field ",\"nt\":" ParsedTholder.decode
  let nextKeys ← field ",\"n\":" stringArray
  let witnessThreshold ← field ",\"bt\":" ParsedCount.decode
  let witnesses ← field ",\"b\":" stringArray
  let config ← field ",\"c\":" stringArray
  let anchors ← field ",\"a\":" (delimitedList ParsedSeal.decode)
  pure ⟨said, pfx, sn, threshold, keys, nextThreshold, nextKeys, witnessThreshold, witnesses, config, anchors⟩

theorem icp_fields_split :
    ParsedIcp.fields = (do
      let said ← field ",\"d\":" string
      let pfx ← field ",\"i\":" string
      icpBehind said pfx) := rfl

structure InceptionCarried (e : InceptionEvent) (form : ThresholdForm) (text : Bytes) (parsed : ParsedIcp) : Prop where
  adds : Adds (inceptionFields e form) (fun _ => ()) text
  gives : ∀ said pfx, Gives (icpBehind said pfx) { parsed with said := said, pfx := pfx } text 1 1
  builds : ∀ (said pfx : Spanned) (d : Said) (i : Identifier), saidFromWire "d" said.value = .ok d → identifierFromWire "i" pfx.value = .ok i →
    (e.reread i d).checkIdentity = .ok () → buildInception { parsed with said := said, pfx := pfx } = .ok ⟨e.reread i d, form⟩

theorem inception_carried (e : InceptionEvent) (form : ThresholdForm) (writable : e.Writable form) :
    ∃ text parsed, InceptionCarried e form text parsed := by
  obtain ⟨sn, number⟩ := carries_number e.sn "s"
  obtain ⟨kt, threshold, thresholdCarried⟩ := carries_threshold e.threshold form writable.threshold "kt"
  obtain ⟨keys, keysCarried⟩ := carries_each encodeVerifyingKey stringText stringValue verifyingKeyFromWire "k" id e.keys
    fun key inside => carries_verifying_key key (writable.keys key inside) "k"
  obtain ⟨nt, nextThreshold, nextCarried⟩ := carries_threshold e.nextThreshold form writable.nextThreshold "nt"
  obtain ⟨nextKeys, nextKeysCarried⟩ := carries_each encodeDigest stringText stringValue digestFromWire "n" id e.nextKeys
    fun key inside => carries_digest key (writable.nextKeys key inside) "n"
  obtain ⟨bt, count, countCarried⟩ := carries_count e.witnessThreshold form "bt"
  obtain ⟨witnesses, witnessesCarried⟩ := carries_each encodeBasicPrefix stringText stringValue basicPrefixFromWire "b" id e.witnesses
    fun witness inside => carries_basic_prefix witness (writable.witnesses witness inside) "b"
  obtain ⟨config, configCarried⟩ := carries_each encodeConfigTrait stringText stringValue configTraitFromWire "c" id e.config
    fun config _ => carries_config_trait config "c"
  obtain ⟨anchors, anchorsCarried⟩ := carries_each encodeSeal sealText ParsedSeal.decode sealFromWire "a" Seal.reread e.anchors
    fun anchor inside => carries_seal anchor (writable.anchors anchor inside) "a"
  have adds : Adds (inceptionFields e form) (fun _ => ()) _ :=
    field_adds _ _ _ _ _ number.adds (field_adds _ _ _ _ _ thresholdCarried.adds (field_adds _ _ _ _ _ keysCarried.adds
      (field_adds _ _ _ _ _ nextCarried.adds (field_adds _ _ _ _ _ nextKeysCarried.adds (field_adds _ _ _ _ _ countCarried.adds
        (field_adds _ _ _ _ _ witnessesCarried.adds (field_adds _ _ _ _ _ configCarried.adds
          (adds_both _ _ _ _ (adds_push (asBytes ",\"a\":")) anchorsCarried.adds))))))))
  refine ⟨_, ⟨⟨"", 0, 0⟩, ⟨"", 0, 0⟩, sn, threshold, keys, nextThreshold, nextKeys, count, witnesses, config, anchors⟩, adds, ?_, ?_⟩
  · intro said pfx
    refine gives_next _ _ _ _ _ _ _ rfl (number.gives 1) ?_
    refine gives_next_until _ ",\"k\":" _ _ _ _ _ _ rfl rfl (thresholdCarried.gives 1) ?_
    refine gives_next _ _ _ _ _ _ _ rfl (keysCarried.gives 1) ?_
    refine gives_next_until _ ",\"n\":" _ _ _ _ _ _ rfl rfl (nextCarried.gives 1) ?_
    refine gives_next _ _ _ _ _ _ _ rfl (nextKeysCarried.gives 1) ?_
    refine gives_next_until _ ",\"b\":" _ _ _ _ _ _ rfl rfl (countCarried.gives 1) ?_
    refine gives_next _ _ _ _ _ _ _ rfl (witnessesCarried.gives 1) ?_
    refine gives_next _ _ _ _ _ _ _ rfl (configCarried.gives 1) ?_
    exact gives_last _ _ _ _ _ rfl (anchorsCarried.gives 1)
  · intro said pfx d i found found' identity
    have formed : checkThresholdsWellFormed e.threshold.reread e.keys.length e.nextThreshold.reread e.nextKeys.length = .ok () := by
      rw [formed_reread]
      exact writable.formed
    simp only [buildInception, bind_ok, map_error_ok, decode_ok, exists_done, pure_ok, countCarried.formed]
    exact ⟨thresholdCarried.formed, nextCarried.formed, e.witnesses, each_lifted witnessesCarried.lifts, writable.members,
      e.witnessThreshold.value, countCarried.lifts, e.witnessThreshold, writable.count, e.keys, each_lifted keysCarried.lifts, e.threshold.reread,
      thresholdCarried.lifts, e.nextKeys, each_lifted nextKeysCarried.lifts, e.nextThreshold.reread, nextCarried.lifts, formed, i, found', e.sn.reread,
      number.lifts, d, found, e.config, each_lifted configCarried.lifts, e.anchors.map Seal.reread, anchorsCarried.lifts, identity, rfl⟩

end Inception

section Rotation

def rotBehind (said : Spanned) : Scan ParsedRot := do
  let pfx ← field ",\"i\":" stringValue
  let sn ← field ",\"s\":" stringValue
  let prior ← field ",\"p\":" stringValue
  let threshold ← field ",\"kt\":" ParsedTholder.decode
  let keys ← field ",\"k\":" stringArray
  let nextThreshold ← field ",\"nt\":" ParsedTholder.decode
  let nextKeys ← field ",\"n\":" stringArray
  let witnessThreshold ← field ",\"bt\":" ParsedCount.decode
  let witnessRemovals ← field ",\"br\":" stringArray
  let witnessAdditions ← field ",\"ba\":" stringArray
  let anchors ← field ",\"a\":" (delimitedList ParsedSeal.decode)
  pure ⟨said, pfx, sn, prior, threshold, keys, nextThreshold, nextKeys, witnessThreshold, witnessRemovals, witnessAdditions, anchors⟩

theorem rot_body_split :
    ParsedRot.body = (do
      let said ← field ",\"d\":" string
      let parsed ← rotBehind said
      bodyEnd parsed) := by
  simp only [ParsedRot.body, rotBehind, bind_assoc, pure_bind]

structure RotationCarried (e : RotationEvent) (form : ThresholdForm) (text : Bytes) (parsed : ParsedRot) : Prop where
  adds : Adds (rotationFields e form) (fun _ => ()) text
  gives : ∀ said, Gives (rotBehind said) { parsed with said := said } text 1 1
  builds : ∀ (said : Spanned) (d : Said), saidFromWire "d" said.value = .ok d →
    buildRotation { parsed with said := said } = .ok ⟨e.reread d, form⟩

theorem rotation_carried (e : RotationEvent) (form : ThresholdForm) (writable : e.Writable form) :
    ∃ text parsed, RotationCarried e form text parsed := by
  obtain ⟨pfx, pfxCarried⟩ := carries_identifier e.pfx writable.pfx "i"
  obtain ⟨sn, number⟩ := carries_number e.sn "s"
  obtain ⟨prior, priorCarried⟩ := carries_said e.priorEventSaid writable.prior "p"
  obtain ⟨kt, threshold, thresholdCarried⟩ := carries_threshold e.threshold form writable.threshold "kt"
  obtain ⟨keys, keysCarried⟩ := carries_each encodeVerifyingKey stringText stringValue verifyingKeyFromWire "k" id e.keys
    fun key inside => carries_verifying_key key (writable.keys key inside) "k"
  obtain ⟨nt, nextThreshold, nextCarried⟩ := carries_threshold e.nextThreshold form writable.nextThreshold "nt"
  obtain ⟨nextKeys, nextKeysCarried⟩ := carries_each encodeDigest stringText stringValue digestFromWire "n" id e.nextKeys
    fun key inside => carries_digest key (writable.nextKeys key inside) "n"
  obtain ⟨bt, count, countCarried⟩ := carries_count e.witnessThreshold form "bt"
  obtain ⟨removals, removalsCarried⟩ := carries_each encodeBasicPrefix stringText stringValue basicPrefixFromWire "br" id e.witnessRemovals
    fun witness inside => carries_basic_prefix witness (writable.removals witness inside) "br"
  obtain ⟨additions, additionsCarried⟩ := carries_each encodeBasicPrefix stringText stringValue basicPrefixFromWire "ba" id e.witnessAdditions
    fun witness inside => carries_basic_prefix witness (writable.additions witness inside) "ba"
  obtain ⟨anchors, anchorsCarried⟩ := carries_each encodeSeal sealText ParsedSeal.decode sealFromWire "a" Seal.reread e.anchors
    fun anchor inside => carries_seal anchor (writable.anchors anchor inside) "a"
  have adds : Adds (rotationFields e form) (fun _ => ()) _ :=
    field_adds _ _ _ _ _ pfxCarried.adds (field_adds _ _ _ _ _ number.adds (field_adds _ _ _ _ _ priorCarried.adds
      (field_adds _ _ _ _ _ thresholdCarried.adds (field_adds _ _ _ _ _ keysCarried.adds (field_adds _ _ _ _ _ nextCarried.adds
        (field_adds _ _ _ _ _ nextKeysCarried.adds (field_adds _ _ _ _ _ countCarried.adds (field_adds _ _ _ _ _ removalsCarried.adds
          (field_adds _ _ _ _ _ additionsCarried.adds (adds_both _ _ _ _ (adds_push (asBytes ",\"a\":")) anchorsCarried.adds))))))))))
  refine ⟨_, ⟨⟨"", 0, 0⟩, pfx, sn, prior, threshold, keys, nextThreshold, nextKeys, count, removals, additions, anchors⟩, adds, ?_, ?_⟩
  · intro said
    refine gives_next _ _ _ _ _ _ _ rfl (pfxCarried.gives 1) ?_
    refine gives_next _ _ _ _ _ _ _ rfl (number.gives 1) ?_
    refine gives_next _ _ _ _ _ _ _ rfl (priorCarried.gives 1) ?_
    refine gives_next_until _ ",\"k\":" _ _ _ _ _ _ rfl rfl (thresholdCarried.gives 1) ?_
    refine gives_next _ _ _ _ _ _ _ rfl (keysCarried.gives 1) ?_
    refine gives_next_until _ ",\"n\":" _ _ _ _ _ _ rfl rfl (nextCarried.gives 1) ?_
    refine gives_next _ _ _ _ _ _ _ rfl (nextKeysCarried.gives 1) ?_
    refine gives_next_until _ ",\"br\":" _ _ _ _ _ _ rfl rfl (countCarried.gives 1) ?_
    refine gives_next _ _ _ _ _ _ _ rfl (removalsCarried.gives 1) ?_
    refine gives_next _ _ _ _ _ _ _ rfl (additionsCarried.gives 1) ?_
    exact gives_last _ _ _ _ _ rfl (anchorsCarried.gives 1)
  · intro said d found
    have formed : checkThresholdsWellFormed e.threshold.reread e.keys.length e.nextThreshold.reread e.nextKeys.length = .ok () := by
      rw [formed_reread]
      exact writable.formed
    simp only [buildRotation, bind_ok, map_error_ok, decode_ok, exists_done, pure_ok, countCarried.formed]
    exact ⟨thresholdCarried.formed, nextCarried.formed, e.keys, each_lifted keysCarried.lifts, e.threshold.reread, thresholdCarried.lifts,
      e.nextKeys, each_lifted nextKeysCarried.lifts, e.nextThreshold.reread, nextCarried.lifts, formed, e.witnessAdditions,
      each_lifted additionsCarried.lifts, e.witnessRemovals, each_lifted removalsCarried.lifts, writable.members, e.pfx, pfxCarried.lifts,
      e.sn.reread, number.lifts, d, found, e.priorEventSaid, priorCarried.lifts, e.witnessThreshold.value, countCarried.lifts,
      e.anchors.map Seal.reread, anchorsCarried.lifts, rfl⟩

end Rotation

section Interaction

def ixnBehind (said : Spanned) : Scan ParsedIxn := do
  let pfx ← field ",\"i\":" stringValue
  let sn ← field ",\"s\":" stringValue
  let prior ← field ",\"p\":" stringValue
  let anchors ← field ",\"a\":" (delimitedList ParsedSeal.decode)
  pure ⟨said, pfx, sn, prior, anchors⟩

theorem ixn_body_split :
    ParsedIxn.body = (do
      let said ← field ",\"d\":" string
      let parsed ← ixnBehind said
      bodyEnd parsed) := by
  simp only [ParsedIxn.body, ixnBehind, bind_assoc, pure_bind]

structure InteractionCarried (e : InteractionEvent) (text : Bytes) (parsed : ParsedIxn) : Prop where
  adds : Adds (interactionFields e) (fun _ => ()) text
  gives : ∀ said, Gives (ixnBehind said) { parsed with said := said } text 1 1
  builds : ∀ (said : Spanned) (d : Said), saidFromWire "d" said.value = .ok d →
    buildInteraction { parsed with said := said } = .ok (e.reread d)

theorem interaction_carried (e : InteractionEvent) (writable : e.Writable) : ∃ text parsed, InteractionCarried e text parsed := by
  obtain ⟨pfx, pfxCarried⟩ := carries_identifier e.pfx writable.pfx "i"
  obtain ⟨sn, number⟩ := carries_number e.sn "s"
  obtain ⟨prior, priorCarried⟩ := carries_said e.priorEventSaid writable.prior "p"
  obtain ⟨anchors, anchorsCarried⟩ := carries_each encodeSeal sealText ParsedSeal.decode sealFromWire "a" Seal.reread e.anchors
    fun anchor inside => carries_seal anchor (writable.anchors anchor inside) "a"
  have adds : Adds (interactionFields e) (fun _ => ()) _ :=
    field_adds _ _ _ _ _ pfxCarried.adds (field_adds _ _ _ _ _ number.adds (field_adds _ _ _ _ _ priorCarried.adds
      (adds_both _ _ _ _ (adds_push (asBytes ",\"a\":")) anchorsCarried.adds)))
  refine ⟨_, ⟨⟨"", 0, 0⟩, pfx, sn, prior, anchors⟩, adds, ?_, ?_⟩
  · intro said
    refine gives_next _ _ _ _ _ _ _ rfl (pfxCarried.gives 1) ?_
    refine gives_next _ _ _ _ _ _ _ rfl (number.gives 1) ?_
    refine gives_next _ _ _ _ _ _ _ rfl (priorCarried.gives 1) ?_
    exact gives_last _ _ _ _ _ rfl (anchorsCarried.gives 1)
  · intro said d found
    simp only [buildInteraction, bind_ok, decode_ok, pure_ok]
    exact ⟨e.pfx, pfxCarried.lifts, e.sn.reread, number.lifts, d, found, e.priorEventSaid, priorCarried.lifts, e.anchors.map Seal.reread,
      anchorsCarried.lifts, rfl⟩

end Interaction

end Codec

end Cesr
