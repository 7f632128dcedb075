import Cesr.Codec.AnchorReading
import Cesr.Codec.ArrayScan

set_option autoImplicit false

namespace Cesr.Codec

open Checks WriterJson Scanner JsonTally JsonBudget

section Bodies

def ParsedIcp.front : Scan ParsedIcp := do
  let said ← field ",\"d\":" string
  let pfx ← field ",\"i\":" string
  let sn ← field ",\"s\":" stringValue
  let threshold ← field ",\"kt\":" ParsedTholder.decode
  let keys ← field ",\"k\":" stringArray
  let nextThreshold ← field ",\"nt\":" ParsedTholder.decode
  let nextKeys ← field ",\"n\":" stringArray
  let witnessThreshold ← field ",\"bt\":" ParsedCount.decode
  let witnesses ← field ",\"b\":" stringArray
  let config ← field ",\"c\":" stringArray
  pure ⟨said, pfx, sn, threshold, keys, nextThreshold, nextKeys, witnessThreshold, witnesses, config, []⟩

def ParsedRot.front : Scan ParsedRot := do
  let said ← field ",\"d\":" string
  let pfx ← field ",\"i\":" stringValue
  let sn ← field ",\"s\":" stringValue
  let prior ← field ",\"p\":" stringValue
  let threshold ← field ",\"kt\":" ParsedTholder.decode
  let keys ← field ",\"k\":" stringArray
  let nextThreshold ← field ",\"nt\":" ParsedTholder.decode
  let nextKeys ← field ",\"n\":" stringArray
  let witnessThreshold ← field ",\"bt\":" ParsedCount.decode
  let witnessRemovals ← field ",\"br\":" stringArray
  let witnessAdditions ← field ",\"ba\":" stringArray
  pure ⟨said, pfx, sn, prior, threshold, keys, nextThreshold, nextKeys, witnessThreshold, witnessRemovals, witnessAdditions, []⟩

def ParsedIxn.front : Scan ParsedIxn := do
  let said ← field ",\"d\":" string
  let pfx ← field ",\"i\":" stringValue
  let sn ← field ",\"s\":" stringValue
  let prior ← field ",\"p\":" stringValue
  pure ⟨said, pfx, sn, prior, []⟩

-- The bodies of the key events, whichever reader their anchors are left to.
variable (anchor : Scan ParsedSeal)

def anchorField : Scan (List ParsedSeal) := field ",\"a\":" (delimitedList anchor)

def ParsedIcp.fieldsBy : Scan ParsedIcp := do
  let front ← ParsedIcp.front
  let anchors ← anchorField anchor
  pure { front with anchors := anchors }

def ParsedIcp.bodyBy : Scan ParsedIcp := do
  let fields ← ParsedIcp.fieldsBy anchor
  bodyEnd fields

def ParsedDip.bodyBy : Scan ParsedDip := do
  let icp ← ParsedIcp.fieldsBy anchor
  let delegator ← field ",\"di\":" stringValue
  bodyEnd ⟨icp, delegator⟩

def ParsedRot.bodyBy : Scan ParsedRot := do
  let front ← ParsedRot.front
  let anchors ← anchorField anchor
  bodyEnd { front with anchors := anchors }

def ParsedIxn.bodyBy : Scan ParsedIxn := do
  let front ← ParsedIxn.front
  let anchors ← anchorField anchor
  bodyEnd { front with anchors := anchors }

def ParsedEvent.bodyBy (messageType : Spanned) : Scan ParsedEvent :=
  if messageType.value = "icp" then do
    let parsed ← ParsedIcp.bodyBy anchor
    pure (.inception parsed)
  else if messageType.value = "rot" then do
    let parsed ← ParsedRot.bodyBy anchor
    pure (.rotation parsed)
  else if messageType.value = "ixn" then do
    let parsed ← ParsedIxn.bodyBy anchor
    pure (.interaction parsed)
  else if messageType.value = "dip" then do
    let parsed ← ParsedDip.bodyBy anchor
    pure (.delegatedInception parsed)
  else if messageType.value = "drt" then do
    let parsed ← ParsedRot.bodyBy anchor
    pure (.delegatedRotation parsed)
  else if messageType.value = "rct" then reject .receiptNotKeyEvent
  else reject (.unknownMessageType messageType.value)

def ParsedEvent.scanBy : Scan ParsedEvent := do
  let messageType ← ParsedEvent.head
  ParsedEvent.bodyBy anchor messageType

theorem event_scan_by : ParsedEvent.scanBy ParsedSeal.decode = ParsedEvent.scan := by
  have icp : ParsedIcp.fieldsBy ParsedSeal.decode = ParsedIcp.fields := by
    simp only [ParsedIcp.fieldsBy, ParsedIcp.front, anchorField, ParsedIcp.fields, bind_assoc, pure_bind]
  have rot : ParsedRot.bodyBy ParsedSeal.decode = ParsedRot.body := by
    simp only [ParsedRot.bodyBy, ParsedRot.front, anchorField, ParsedRot.body, bind_assoc, pure_bind]
  have ixn : ParsedIxn.bodyBy ParsedSeal.decode = ParsedIxn.body := by
    simp only [ParsedIxn.bodyBy, ParsedIxn.front, anchorField, ParsedIxn.body, bind_assoc, pure_bind]
  unfold ParsedEvent.scanBy ParsedEvent.bodyBy ParsedIcp.bodyBy ParsedDip.bodyBy
  rw [icp, rot, ixn]
  rfl

def deserializeKept (library : KeyLibrary) (raw : Bytes) (budget : JsonBudget) : Except CodecError EventRead := do
  checkJsonBody raw
  let parsed ← scanned (ParsedEvent.scanBy ParsedSeal.opaqueBody) raw budget
  liftEvent library raw parsed

end Bodies

section Fronts

theorem spanned_priced (lit : String) (fair : Fair .outside .outside lit) : Priced False .outside .outside (field lit string) :=
  field_priced _ lit fair string_priced

theorem threshold_field_priced (lit : String) (fair : Fair .outside .outside lit) :
    Priced False .outside .outside (field lit ParsedTholder.decode) := field_priced _ lit fair threshold_priced

theorem count_field_priced (lit : String) (fair : Fair .outside .outside lit) :
    Priced False .outside .outside (field lit ParsedCount.decode) := field_priced _ lit fair count_priced

theorem icp_front_priced : Priced False .outside .outside ParsedIcp.front := by
  refine priced_bind _ _ (spanned_priced ",\"d\":" ⟨rfl, rfl⟩) fun said => ?_
  refine priced_bind _ _ (spanned_priced ",\"i\":" ⟨rfl, rfl⟩) fun pfx => ?_
  refine priced_bind _ _ (text_priced ",\"s\":" ⟨rfl, rfl⟩) fun sn => ?_
  refine priced_bind _ _ (threshold_field_priced ",\"kt\":" ⟨rfl, rfl⟩) fun threshold => ?_
  refine priced_bind _ _ (array_priced ",\"k\":" ⟨rfl, rfl⟩) fun keys => ?_
  refine priced_bind _ _ (threshold_field_priced ",\"nt\":" ⟨rfl, rfl⟩) fun nextThreshold => ?_
  refine priced_bind _ _ (array_priced ",\"n\":" ⟨rfl, rfl⟩) fun nextKeys => ?_
  refine priced_bind _ _ (count_field_priced ",\"bt\":" ⟨rfl, rfl⟩) fun count => ?_
  refine priced_bind _ _ (array_priced ",\"b\":" ⟨rfl, rfl⟩) fun witnesses => ?_
  exact priced_bind _ _ (array_priced ",\"c\":" ⟨rfl, rfl⟩) fun config => priced_pure _

theorem rot_front_priced : Priced False .outside .outside ParsedRot.front := by
  refine priced_bind _ _ (spanned_priced ",\"d\":" ⟨rfl, rfl⟩) fun said => ?_
  refine priced_bind _ _ (text_priced ",\"i\":" ⟨rfl, rfl⟩) fun pfx => ?_
  refine priced_bind _ _ (text_priced ",\"s\":" ⟨rfl, rfl⟩) fun sn => ?_
  refine priced_bind _ _ (text_priced ",\"p\":" ⟨rfl, rfl⟩) fun prior => ?_
  refine priced_bind _ _ (threshold_field_priced ",\"kt\":" ⟨rfl, rfl⟩) fun threshold => ?_
  refine priced_bind _ _ (array_priced ",\"k\":" ⟨rfl, rfl⟩) fun keys => ?_
  refine priced_bind _ _ (threshold_field_priced ",\"nt\":" ⟨rfl, rfl⟩) fun nextThreshold => ?_
  refine priced_bind _ _ (array_priced ",\"n\":" ⟨rfl, rfl⟩) fun nextKeys => ?_
  refine priced_bind _ _ (count_field_priced ",\"bt\":" ⟨rfl, rfl⟩) fun count => ?_
  refine priced_bind _ _ (array_priced ",\"br\":" ⟨rfl, rfl⟩) fun removals => ?_
  exact priced_bind _ _ (array_priced ",\"ba\":" ⟨rfl, rfl⟩) fun additions => priced_pure _

theorem ixn_front_priced : Priced False .outside .outside ParsedIxn.front := by
  refine priced_bind _ _ (spanned_priced ",\"d\":" ⟨rfl, rfl⟩) fun said => ?_
  refine priced_bind _ _ (text_priced ",\"i\":" ⟨rfl, rfl⟩) fun pfx => ?_
  refine priced_bind _ _ (text_priced ",\"s\":" ⟨rfl, rfl⟩) fun sn => ?_
  exact priced_bind _ _ (text_priced ",\"p\":" ⟨rfl, rfl⟩) fun prior => priced_pure _

variable (anchor : Scan ParsedSeal)

theorem scan_by_priced (priced : Priced False .outside .outside anchor) : Priced False .outside .outside (ParsedEvent.scanBy anchor) := by
  have anchors : Priced False .outside .outside (anchorField anchor) := field_priced _ _ ⟨rfl, rfl⟩ (delimited_list_priced _ priced)
  have icp : Priced False .outside .outside (ParsedIcp.fieldsBy anchor) :=
    priced_bind _ _ icp_front_priced fun _ => priced_bind _ _ anchors fun _ => priced_pure _
  have dip : Priced False .outside .outside (ParsedDip.bodyBy anchor) :=
    priced_bind _ _ icp fun _ => priced_bind _ _ (text_priced ",\"di\":" ⟨rfl, rfl⟩) fun _ => body_end_priced _
  have rot : Priced False .outside .outside (ParsedRot.bodyBy anchor) :=
    priced_bind _ _ rot_front_priced fun _ => priced_bind _ _ anchors fun _ => body_end_priced _
  have ixn : Priced False .outside .outside (ParsedIxn.bodyBy anchor) :=
    priced_bind _ _ ixn_front_priced fun _ => priced_bind _ _ anchors fun _ => body_end_priced _
  refine priced_bind _ _ event_head_priced fun messageType => ?_
  refine priced_ite _ _ _ (priced_bind _ _ (priced_bind _ _ icp fun _ => body_end_priced _) fun _ => priced_pure _) ?_
  refine priced_ite _ _ _ (priced_bind _ _ rot fun _ => priced_pure _) ?_
  refine priced_ite _ _ _ (priced_bind _ _ ixn fun _ => priced_pure _) ?_
  refine priced_ite _ _ _ (priced_bind _ _ dip fun _ => priced_pure _) ?_
  refine priced_ite _ _ _ (priced_bind _ _ rot fun _ => priced_pure _) ?_
  exact priced_ite _ _ _ (priced_reject _ rfl) (priced_reject _ rfl)

theorem scan_by_finishes : Finishes (ParsedEvent.scanBy anchor) := by
  have icp : Finishes (ParsedIcp.bodyBy anchor) := finishes_bind _ _ fun _ => body_end_finishes _
  have dip : Finishes (ParsedDip.bodyBy anchor) := finishes_bind _ _ fun _ => finishes_bind _ _ fun _ => body_end_finishes _
  have rot : Finishes (ParsedRot.bodyBy anchor) := finishes_bind _ _ fun _ => finishes_bind _ _ fun _ => body_end_finishes _
  have ixn : Finishes (ParsedIxn.bodyBy anchor) := finishes_bind _ _ fun _ => finishes_bind _ _ fun _ => body_end_finishes _
  refine finishes_bind _ _ fun messageType => ?_
  refine finishes_ite _ _ _ (finishes_map _ _ icp) ?_
  refine finishes_ite _ _ _ (finishes_map _ _ rot) ?_
  refine finishes_ite _ _ _ (finishes_map _ _ ixn) ?_
  refine finishes_ite _ _ _ (finishes_map _ _ dip) ?_
  refine finishes_ite _ _ _ (finishes_map _ _ rot) ?_
  exact finishes_ite _ _ _ (finishes_reject _) (finishes_reject _)

end Fronts

namespace ParsedEvent

def anchors : ParsedEvent → List ParsedSeal
  | .inception parsed => parsed.anchors
  | .rotation parsed => parsed.anchors
  | .interaction parsed => parsed.anchors
  | .delegatedInception parsed => parsed.icp.anchors
  | .delegatedRotation parsed => parsed.anchors

def withAnchors (anchors : List ParsedSeal) : ParsedEvent → ParsedEvent
  | .inception parsed => .inception { parsed with anchors := anchors }
  | .rotation parsed => .rotation { parsed with anchors := anchors }
  | .interaction parsed => .interaction { parsed with anchors := anchors }
  | .delegatedInception parsed => .delegatedInception { parsed with icp := { parsed.icp with anchors := anchors } }
  | .delegatedRotation parsed => .delegatedRotation { parsed with anchors := anchors }

end ParsedEvent

def EventRead.withAnchors (read : EventRead) (anchors : List Seal) : EventRead :=
  match read.event with
  | .inception event => ⟨.inception { event with anchors := anchors }, read.form⟩
  | .rotation event => ⟨.rotation { event with anchors := anchors }, read.form⟩
  | .interaction event => ⟨.interaction { event with anchors := anchors }, read.form⟩
  | .delegatedInception event => ⟨.delegatedInception { event with inception := { event.inception with anchors := anchors } }, read.form⟩
  | .delegatedRotation event => ⟨.delegatedRotation { event with rotation := { event.rotation with anchors := anchors } }, read.form⟩

section Scans

def Reread (anchors kept : List ParsedSeal) : Prop :=
  ∃ texts : List String, kept = texts.map ParsedSeal.opaqueSeal ∧ List.Forall₂ ReadAs texts anchors

theorem reread_each (anchors kept : List ParsedSeal)
    (each : List.Forall₂ (fun parsed given => ∃ text, given = ParsedSeal.opaqueSeal text ∧ ReadAs text parsed) anchors kept) :
    Reread anchors kept := by
  induction each with
  | nil => exact ⟨[], rfl, .nil⟩
  | cons first _ ih =>
      obtain ⟨text, rfl, read⟩ := first
      obtain ⟨texts, rfl, others⟩ := ih
      exact ⟨text :: texts, rfl, .cons read others⟩

theorem anchor_field_agree :
    Agree (anchorField ParsedSeal.decode) (anchorField ParsedSeal.opaqueBody) Reread := by
  have lit : Priced False .outside .outside (expect ",\"a\":") := priced_expect _ ⟨rfl, rfl⟩
  have lists : Agree (delimitedList ParsedSeal.decode) (delimitedList ParsedSeal.opaqueBody) Reread := by
    have each := agree_delimited_list _ _ _ anchors_agree
    refine ⟨?_, ?_⟩
    · intro sc done value unmetered read
      obtain ⟨unmetered', other, read', belongs⟩ := each.there sc done value unmetered read
      exact ⟨unmetered', other, read', reread_each value other belongs⟩
    · intro sc done other unmetered read
      obtain ⟨value, read', belongs⟩ := each.back sc done other unmetered read
      exact ⟨value, read', reread_each value other belongs⟩
  exact agree_shared _ _ _ _ lit fun _ => lists

theorem body_end_agree {α β : Type} (value : α) (other : β) (related : α → β → Prop) (belongs : related value other) :
    Agree (bodyEnd value) (bodyEnd other) related := by
  have closing : Priced False .outside .outside (expect "\x7d") := priced_expect _ ⟨rfl, rfl⟩
  have finishes : Priced False .outside .outside finish :=
    priced_get _ (fun _ => rfl) fun sc => meets_ite _ _ _ sc (fun _ => priced_pure () sc) fun _ => priced_reject _ rfl sc
  exact agree_shared _ _ _ _ closing fun _ => agree_shared _ _ _ _ finishes fun _ => agree_pure _ _ _ belongs

def icpReread (parsed kept : ParsedIcp) : Prop := Reread parsed.anchors kept.anchors ∧ parsed = { kept with anchors := parsed.anchors }

def rotReread (parsed kept : ParsedRot) : Prop := Reread parsed.anchors kept.anchors ∧ parsed = { kept with anchors := parsed.anchors }

def ixnReread (parsed kept : ParsedIxn) : Prop := Reread parsed.anchors kept.anchors ∧ parsed = { kept with anchors := parsed.anchors }

def eventReread (parsed kept : ParsedEvent) : Prop := Reread parsed.anchors kept.anchors ∧ parsed = kept.withAnchors parsed.anchors

theorem event_scans_agree : Agree (ParsedEvent.scanBy ParsedSeal.decode) (ParsedEvent.scanBy ParsedSeal.opaqueBody) eventReread := by
  have fields : Agree (ParsedIcp.fieldsBy ParsedSeal.decode) (ParsedIcp.fieldsBy ParsedSeal.opaqueBody) icpReread := by
    refine agree_shared _ _ _ _ icp_front_priced fun front => ?_
    exact agree_bind _ _ _ _ _ _ anchor_field_agree fun anchors kept belongs => agree_pure _ _ _ ⟨belongs, rfl⟩
  have icp : Agree (ParsedIcp.bodyBy ParsedSeal.decode) (ParsedIcp.bodyBy ParsedSeal.opaqueBody) icpReread :=
    agree_bind _ _ _ _ _ _ fields fun parsed kept belongs => body_end_agree _ _ _ belongs
  have rot : Agree (ParsedRot.bodyBy ParsedSeal.decode) (ParsedRot.bodyBy ParsedSeal.opaqueBody) rotReread := by
    refine agree_shared _ _ _ _ rot_front_priced fun front => ?_
    exact agree_bind _ _ _ _ _ _ anchor_field_agree fun anchors kept belongs => body_end_agree _ _ _ ⟨belongs, rfl⟩
  have ixn : Agree (ParsedIxn.bodyBy ParsedSeal.decode) (ParsedIxn.bodyBy ParsedSeal.opaqueBody) ixnReread := by
    refine agree_shared _ _ _ _ ixn_front_priced fun front => ?_
    exact agree_bind _ _ _ _ _ _ anchor_field_agree fun anchors kept belongs => body_end_agree _ _ _ ⟨belongs, rfl⟩
  have dip : Agree (ParsedDip.bodyBy ParsedSeal.decode) (ParsedDip.bodyBy ParsedSeal.opaqueBody) fun parsed kept =>
      icpReread parsed.icp kept.icp ∧ parsed.delegator = kept.delegator := by
    refine agree_bind _ _ _ _ _ _ fields fun parsed kept belongs => ?_
    exact agree_shared _ _ _ _ (text_priced ",\"di\":" ⟨rfl, rfl⟩) fun delegator => body_end_agree _ _ _ ⟨belongs, rfl⟩
  refine agree_shared _ _ _ _ event_head_priced fun messageType => ?_
  refine agree_ite _ _ _ _ _ _ (agree_bind _ _ _ _ _ _ icp fun parsed kept belongs => agree_pure _ _ _ ⟨belongs.1, congrArg _ belongs.2⟩) ?_
  refine agree_ite _ _ _ _ _ _ (agree_bind _ _ _ _ _ _ rot fun parsed kept belongs =>
    agree_pure _ _ _ ⟨belongs.1, congrArg _ belongs.2⟩) ?_
  refine agree_ite _ _ _ _ _ _ (agree_bind _ _ _ _ _ _ ixn fun parsed kept belongs =>
    agree_pure _ _ _ ⟨belongs.1, congrArg _ belongs.2⟩) ?_
  refine agree_ite _ _ _ _ _ _ (agree_bind _ _ _ _ _ _ dip fun parsed kept belongs => agree_pure _ _ _ ⟨belongs.1.1, ?_⟩) ?_
  · obtain ⟨⟨_, same⟩, delegator⟩ := belongs
    have whole : parsed = ⟨parsed.icp, parsed.delegator⟩ := rfl
    rw [whole, delegator, same]
    rfl
  refine agree_ite _ _ _ _ _ _ (agree_bind _ _ _ _ _ _ rot fun parsed kept belongs =>
    agree_pure _ _ _ ⟨belongs.1, congrArg _ belongs.2⟩) ?_
  exact agree_ite _ _ _ _ _ _ (agree_reject _ _) (agree_reject _ _)

end Scans

end Cesr.Codec
