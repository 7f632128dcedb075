import Cesr.Codec.EventRoundTrip

set_option autoImplicit false

namespace Cesr.Codec

open Checks Calls WriterJson Scanner Appends

section Each

variable {α : Type}

theorem for_same (step : α → Write Unit) (change : α → α) (items : List α) (same : ∀ item ∈ items, step (change item) = step item) :
    (items.map change).forM step = items.forM step := by
  induction items with
  | nil => rfl
  | cons item rest ih =>
      obtain ⟨first, others⟩ := List.forall_mem_cons.mp same
      show step (change item) >>= (fun _ => (rest.map change).forM step) = step item >>= fun _ => rest.forM step
      rw [first, ih others]

theorem each_same (encode : α → Write Unit) (change : α → α) (items : List α) (same : ∀ item ∈ items, encode (change item) = encode item) :
    encodeEach encode (items.map change) = encodeEach encode items := by
  have numbered : (items.map change).zipIdx.forM (encodeItem encode) = items.zipIdx.forM (encodeItem encode) := by
    rw [List.zipIdx_map]
    refine for_same (encodeItem encode) (Prod.map change id) _ fun item inside => ?_
    have listed : item.1 ∈ items := (List.mem_zipIdx' inside).2 ▸ List.getElem_mem _
    rw [encodeItem, encodeItem, Prod.map_fst, Prod.map_snd, id_eq, same item.1 listed]
  rw [encodeEach, encodeEach, numbered]

end Each

section Same

theorem weight_same (weight : Weight) (proper : weight.2.val ≠ 0) : weightToString (rereadWeight weight) = weightToString weight := by
  obtain ⟨num, den⟩ := weight
  by_cases none' : num.val = 0
  · have quotient : num.val / den.val = 0 := by rw [none', Nat.zero_div]
    rw [rereadWeight, if_pos none', weightToString, weightToString, if_pos (by decide), if_pos ⟨proper, .inl none'⟩]
    simp only [quotient]
    rfl
  · by_cases all : num = den
    · have quotient : num.val / den.val = 1 := by rw [all]; exact Nat.div_self (Nat.pos_of_ne_zero proper)
      rw [rereadWeight, if_neg none', if_pos all, weightToString, weightToString, if_pos (by decide), if_pos ⟨proper, .inr all⟩]
      simp only [quotient]
      rfl
    · rw [rereadWeight, if_neg none', if_neg all]

theorem clause_same (clause : List Weight) (proper : ∀ weight ∈ clause, weight.2.val ≠ 0) :
    weightClause (clause.map rereadWeight) = weightClause clause :=
  each_same _ rereadWeight clause fun weight inside => congrArg writeStr (weight_same weight (proper weight inside))

theorem threshold_same (threshold : SigningThreshold) (form : ThresholdForm) (writable : threshold.Writable form) :
    ThresholdField.encode ⟨threshold.reread, form⟩ = ThresholdField.encode ⟨threshold, form⟩ := by
  cases threshold with
  | simple threshold => rfl
  | weighted threshold =>
      have proper : ∀ clause ∈ threshold.clauses, weightClause (clause.map rereadWeight) = weightClause clause := by
        intro clause listed
        refine clause_same clause fun weight member => writable.1 weight ?_
        rw [← (weighted_clauses threshold).1]
        exact List.mem_flatten.mpr ⟨clause, listed, member⟩
      simp only [ThresholdField.encode, SigningThreshold.reread, reread_clauses]
      cases clauses : threshold.clauses with
      | nil => rfl
      | cons first later =>
          rw [clauses] at proper
          obtain ⟨head, others⟩ := List.forall_mem_cons.mp proper
          cases later with
          | nil => exact head
          | cons second rest =>
              obtain ⟨next, behind⟩ := List.forall_mem_cons.mp others
              have each := for_same (fun clause => do push (asBytes ","); weightClause clause) (List.map rereadWeight) rest
                fun clause inside => by simp only [behind clause inside]
              simp only [List.map_cons, head, next, each]

theorem seal_same (anchor : Seal) : encodeSeal anchor.reread = encodeSeal anchor := by
  cases anchor with
  | _ => rfl

theorem seals_same (anchors : List Seal) : encodeEach encodeSeal (anchors.map Seal.reread) = encodeEach encodeSeal anchors :=
  each_same encodeSeal Seal.reread anchors fun anchor _ => seal_same anchor

end Same

section Events

theorem inception_same (e : InceptionEvent) (form : ThresholdForm) (pfx : Identifier) (said : Said) (writable : e.Writable form) :
    inceptionFields (e.reread pfx said) form = inceptionFields e form := by
  have number : encodeNumh e.sn.reread = encodeNumh e.sn := rfl
  simp only [inceptionFields, InceptionEvent.reread, number, threshold_same _ form writable.threshold,
    threshold_same _ form writable.nextThreshold, seals_same]

theorem rotation_same (e : RotationEvent) (form : ThresholdForm) (said : Said) (writable : e.Writable form) :
    rotationFields (e.reread said) form = rotationFields e form := by
  have number : encodeNumh e.sn.reread = encodeNumh e.sn := rfl
  simp only [rotationFields, RotationEvent.reread, number, threshold_same _ form writable.threshold,
    threshold_same _ form writable.nextThreshold, seals_same]

theorem interaction_same (e : InteractionEvent) (said : Said) : interactionFields (e.reread said) = interactionFields e := by
  have number : encodeNumh e.sn.reread = encodeNumh e.sn := rfl
  simp only [interactionFields, InteractionEvent.reread, number, seals_same]

theorem prefix_same (filled : Option Bytes) (pfx : Identifier) (own : Option Said) (coded : own.isSome = pfx.saidCode.isSome) :
    prefixField filled (own.elim pfx Identifier.selfAddressing) = prefixField filled pfx := by
  cases own with
  | none => rfl
  | some said =>
      cases pfx with
      | basic pfx => cases coded
      | selfAddressing given => rfl

theorem icp_same (e : InceptionEvent) (form : ThresholdForm) (said : Said) (own : Option Said) (filled : Bytes) (prefixFilled : Option Bytes)
    (messageType : MessageType) (delegator : Option Identifier) (writable : e.Writable form) (coded : own.isSome = e.pfx.saidCode.isSome) :
    renderIcp (e.reread (own.elim e.pfx Identifier.selfAddressing) said) form filled prefixFilled messageType delegator =
      renderIcp e form filled prefixFilled messageType delegator := by
  have named : (e.reread (own.elim e.pfx Identifier.selfAddressing) said).pfx = own.elim e.pfx Identifier.selfAddressing := rfl
  simp only [renderIcp, inception_same e form _ said writable, named, prefix_same prefixFilled e.pfx own coded]

theorem render_same (event : KeriEvent) (form : ThresholdForm) (said : Said) (own : Option Said) (writable : event.Writable form)
    (coded : own.isSome = event.prefixSaidCode.isSome) (filled : Bytes) (prefixFilled : Option Bytes) :
    renderEvent form filled prefixFilled (event.reread said own) = renderEvent form filled prefixFilled event := by
  cases event with
  | inception e => exact icp_same e form said own filled prefixFilled .icp none writable coded
  | rotation e => simp only [renderEvent, KeriEvent.reread, renderRot, rotation_same e form said writable]
  | interaction e => simp only [renderEvent, KeriEvent.reread, renderIxn, interaction_same e said]
  | delegatedInception e => exact icp_same e.inception form said own filled prefixFilled .dip (some e.delegator) writable.1 coded
  | delegatedRotation e => simp only [renderEvent, KeriEvent.reread, renderRot, rotation_same e.rotation form said writable.1]

theorem codes_same (event : KeriEvent) (said : Said) (own : Option Said) (code : said.matter.code = event.saidCode)
    (codes : (own.map fun said => said.matter.code) = event.prefixSaidCode) :
    (event.reread said own).saidCode = event.saidCode ∧ (event.reread said own).prefixSaidCode = event.prefixSaidCode := by
  have inception : ∀ pfx : Identifier, (own.map fun said => said.matter.code) = pfx.saidCode →
      (own.elim pfx Identifier.selfAddressing).saidCode = pfx.saidCode := by
    intro pfx same
    cases own with
    | none => rfl
    | some given => exact same
  cases event with
  | inception e => exact ⟨code, inception e.pfx codes⟩
  | rotation e => exact ⟨code, rfl⟩
  | interaction e => exact ⟨code, rfl⟩
  | delegatedInception e => exact ⟨code, inception e.inception.pfx codes⟩
  | delegatedRotation e => exact ⟨code, rfl⟩

end Events

section Rewrite

variable (library : KeyLibrary)

theorem serialize_same (first second : KeriEvent) (form form' : ThresholdForm) (said : first.saidCode = second.saidCode)
    (pfx : first.prefixSaidCode = second.prefixSaidCode) (kind : first.messageType = second.messageType)
    (rendered : ∀ filled prefixFilled, renderEvent form filled prefixFilled first = renderEvent form' filled prefixFilled second) :
    KeriEvent.serialize library first form = KeriEvent.serialize library second form' := by
  simp only [KeriEvent.serialize, KeriEvent.writeEvent, KeriEvent.fillSlots, KeriEvent.fillDigests, renderBody, said, pfx, kind, rendered]

-- What is read back from a written event is written as the same bytes.
theorem key_events_rewritten (fixed : FixedLength library) (event : KeriEvent) (form : ThresholdForm) (writable : event.Writable form)
    (done : SerializedEvent) (written : KeriEvent.serialize library event form = .ok done) (limits : JsonLimits) (read : EventRead)
    (accepted : deserializeEvent library done.raw (.ofLimits limits) = .ok read) (other : ThresholdForm) :
    KeriEvent.serialize library read.event (read.form.getD other) = .ok done := by
  have trip := serialized_round_trip library fixed writable done written
  obtain ⟨same, _⟩ := (trip.reads limits read).mp accepted
  have coded : done.pfx.isSome = event.prefixSaidCode.isSome := by
    rw [← trip.pfx, Option.isSome_map]
  obtain ⟨said, pfx⟩ := codes_same event done.said done.pfx trip.said trip.pfx
  rw [← written, same]
  refine serialize_same library _ event _ form said pfx ?_ fun filled prefixFilled => ?_
  · cases event with
    | _ => rfl
  · rw [← render_same event form done.said done.pfx writable coded filled prefixFilled]
    cases event with
    | _ => rfl

end Rewrite

theorem key_events_rewritten_sample :
    ∃ done limits read, KeriEvent.serialize EventSample.keyLibrary (.inception EventSample.inception) .hexString = .ok done ∧
      deserializeEvent EventSample.keyLibrary done.raw (.ofLimits limits) = .ok read ∧
        KeriEvent.serialize EventSample.keyLibrary read.event (read.form.getD .integer) = .ok done := by
  obtain ⟨tail, carried⟩ := event_carried EventSample.keyLibrary (.inception EventSample.inception) .hexString EventSample.inception_writable
  obtain ⟨done, written, trip⟩ := written_round_trip EventSample.keyLibrary EventSample.key_library_fixed carried (by decide +kernel)
  have read := (trip.reads ⟨JsonTally.members done.raw, JsonTally.deepest done.raw⟩ _).mpr ⟨rfl, Nat.le_refl _, Nat.le_refl _⟩
  exact ⟨done, _, _, written, read, key_events_rewritten EventSample.keyLibrary EventSample.key_library_fixed (.inception EventSample.inception)
    .hexString EventSample.inception_writable done written _ _ read .integer⟩

end Cesr.Codec
