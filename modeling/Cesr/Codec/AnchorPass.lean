import Cesr.Codec.AnchorEvents

set_option autoImplicit false

namespace Cesr.Codec

open Checks WriterJson Scanner JsonTally JsonBudget

section Lifted

theorem decode_ok {α : Type} (lifted : Except DeserializeError α) (value : α) : decode lifted = .ok value ↔ lifted = .ok value :=
  map_error_ok _ _ _

theorem inception_resealed (parsed : ParsedIcp) (anchors : List ParsedSeal) (seals : List Seal) (built : Formed InceptionEvent)
    (size : anchors.length = parsed.anchors.length) (lifted : eachFromWire sealFromWire "a" anchors = .ok seals)
    (read : buildInception parsed = .ok built) :
    eachFromWire sealFromWire "a" parsed.anchors = .ok built.event.anchors ∧
      buildInception { parsed with anchors := anchors } = .ok ⟨{ built.event with anchors := seals }, built.form⟩ := by
  simp only [buildInception, bind_ok, map_error_ok, decode_ok, exists_done, pure_ok] at read ⊢
  obtain ⟨kt, nt, witnesses, witnesses', set, count, count', toad, toad', keys, keys', threshold, threshold', nextKeys, nextKeys',
    nextThreshold, nextThreshold', formed, pfx, pfx', sn, sn', said, said', config, config', seals', lifted', identity, rfl⟩ := read
  have long : seals.length = seals'.length := by
    rw [← ((map_m_ok _ _ _).mp lifted).length_eq, size, ((map_m_ok _ _ _).mp lifted').length_eq]
  have none : (seals ≠ []) = (seals' ≠ []) := by
    rw [← List.length_pos_iff, ← List.length_pos_iff, long]
  refine ⟨lifted', kt, nt, witnesses, witnesses', set, count, count', toad, toad', keys, keys', threshold, threshold', nextKeys, nextKeys',
    nextThreshold, nextThreshold', formed, pfx, pfx', sn, sn', said, said', config, config', seals, lifted, ?_, rfl⟩
  rw [← identity]
  unfold InceptionEvent.checkIdentity
  simp only [none]

theorem rotation_resealed (parsed : ParsedRot) (anchors : List ParsedSeal) (seals : List Seal) (built : Formed RotationEvent)
    (lifted : eachFromWire sealFromWire "a" anchors = .ok seals) (read : buildRotation parsed = .ok built) :
    eachFromWire sealFromWire "a" parsed.anchors = .ok built.event.anchors ∧
      buildRotation { parsed with anchors := anchors } = .ok ⟨{ built.event with anchors := seals }, built.form⟩ := by
  simp only [buildRotation, bind_ok, map_error_ok, decode_ok, exists_done, pure_ok] at read ⊢
  obtain ⟨kt, nt, keys, keys', threshold, threshold', nextKeys, nextKeys', nextThreshold, nextThreshold', formed, additions, additions',
    removals, removals', deltas, pfx, pfx', sn, sn', said, said', prior, prior', count, count', seals', lifted', rfl⟩ := read
  exact ⟨lifted', kt, nt, keys, keys', threshold, threshold', nextKeys, nextKeys', nextThreshold, nextThreshold', formed, additions,
    additions', removals, removals', deltas, pfx, pfx', sn, sn', said, said', prior, prior', count, count', seals, lifted, rfl⟩

theorem interaction_resealed (parsed : ParsedIxn) (anchors : List ParsedSeal) (seals : List Seal) (built : InteractionEvent)
    (lifted : eachFromWire sealFromWire "a" anchors = .ok seals) (read : buildInteraction parsed = .ok built) :
    eachFromWire sealFromWire "a" parsed.anchors = .ok built.anchors ∧
      buildInteraction { parsed with anchors := anchors } = .ok { built with anchors := seals } := by
  simp only [buildInteraction, bind_ok, decode_ok, pure_ok] at read ⊢
  obtain ⟨pfx, pfx', sn, sn', said, said', prior, prior', seals', lifted', rfl⟩ := read
  exact ⟨lifted', pfx, pfx', sn, sn', said, said', prior, prior', seals, lifted, rfl⟩

theorem map_ok {ε α β : Type} (check : Except ε α) (wrap : α → β) (result : β) :
    check.map wrap = .ok result ↔ ∃ value, check = .ok value ∧ wrap value = result := by
  cases check with
  | error error => simp [Except.map]
  | ok value => simp [Except.map]

theorem event_resealed (parsed : ParsedEvent) (anchors : List ParsedSeal) (seals : List Seal) (read : EventRead)
    (size : anchors.length = parsed.anchors.length) (lifted : eachFromWire sealFromWire "a" anchors = .ok seals)
    (built : buildEvent parsed = .ok read) :
    eachFromWire sealFromWire "a" parsed.anchors = .ok read.event.anchors ∧
      buildEvent (parsed.withAnchors anchors) = .ok (read.withAnchors seals) := by
  cases parsed with
  | inception parsed =>
      obtain ⟨event, made, rfl⟩ := (map_ok _ _ _).mp built
      obtain ⟨own, again⟩ := inception_resealed parsed anchors seals event size lifted made
      exact ⟨own, (map_ok _ _ _).mpr ⟨_, again, rfl⟩⟩
  | rotation parsed =>
      obtain ⟨event, made, rfl⟩ := (map_ok _ _ _).mp built
      obtain ⟨own, again⟩ := rotation_resealed parsed anchors seals event lifted made
      exact ⟨own, (map_ok _ _ _).mpr ⟨_, again, rfl⟩⟩
  | interaction parsed =>
      obtain ⟨event, made, rfl⟩ := (map_ok _ _ _).mp built
      obtain ⟨own, again⟩ := interaction_resealed parsed anchors seals event lifted made
      exact ⟨own, (map_ok _ _ _).mpr ⟨_, again, rfl⟩⟩
  | delegatedInception parsed =>
      obtain ⟨event, made, rfl⟩ := (map_ok _ _ _).mp built
      simp only [buildDelegatedInception, bind_ok, decode_ok, exists_done, pure_ok] at made
      obtain ⟨inception, icp, digestive, delegator, delegator', rfl⟩ := made
      obtain ⟨own, again⟩ := inception_resealed parsed.icp anchors seals inception size lifted icp
      refine ⟨own, (map_ok _ _ _).mpr ⟨⟨⟨{ inception.event with anchors := seals }, delegator⟩, inception.form⟩, ?_, rfl⟩⟩
      simp only [buildDelegatedInception, bind_ok, decode_ok, exists_done, pure_ok]
      exact ⟨_, again, digestive, delegator, delegator', rfl⟩
  | delegatedRotation parsed =>
      obtain ⟨event, made, rfl⟩ := (map_ok _ _ _).mp built
      simp only [buildDelegatedRotation, bind_ok, exists_done, pure_ok] at made
      obtain ⟨rotation, rot, digestive, rfl⟩ := made
      obtain ⟨own, again⟩ := rotation_resealed parsed anchors seals rotation lifted rot
      refine ⟨own, (map_ok _ _ _).mpr ⟨⟨⟨{ rotation.event with anchors := seals }⟩, rotation.form⟩, ?_, rfl⟩⟩
      simp only [buildDelegatedRotation, bind_ok, exists_done, pure_ok]
      exact ⟨_, again, digestive, rfl⟩

theorem opaque_lifted (texts : List String) :
    eachFromWire sealFromWire "a" (texts.map ParsedSeal.opaqueSeal) = .ok (texts.map Seal.opaqueSeal) := by
  rw [eachFromWire, map_m_ok, List.forall₂_map_left_iff, List.forall₂_map_right_iff]
  exact List.forall₂_same.mpr fun text _ => rfl

theorem with_anchors_twice (read : EventRead) (seals seals' : List Seal) :
    (read.withAnchors seals).withAnchors seals' = read.withAnchors seals' := by
  obtain ⟨event, form⟩ := read
  cases event with
  | _ => rfl

theorem with_own_anchors (read : EventRead) : read.withAnchors read.event.anchors = read := by
  obtain ⟨event, form⟩ := read
  cases event with
  | _ => rfl

theorem anchors_replaced (read : EventRead) (seals : List Seal) : (read.withAnchors seals).event.anchors = seals := by
  obtain ⟨event, form⟩ := read
  cases event with
  | _ => rfl

theorem parsed_with_own (parsed : ParsedEvent) : parsed.withAnchors parsed.anchors = parsed := by
  cases parsed with
  | _ => rfl

theorem parsed_with_twice (parsed : ParsedEvent) (anchors anchors' : List ParsedSeal) :
    (parsed.withAnchors anchors).withAnchors anchors' = parsed.withAnchors anchors' := by
  cases parsed with
  | _ => rfl

theorem said_resealed (library : KeyLibrary) (parsed : ParsedEvent) (anchors : List ParsedSeal) (raw : Bytes) :
    (parsed.withAnchors anchors).verifySaid library raw = parsed.verifySaid library raw := by
  cases parsed with
  | _ => rfl

end Lifted

section Each

variable {α β γ : Type} {first : α → β → Prop} {second : β → γ → Prop} {other : α → γ → Prop} {result : β → γ → Prop}

theorem forall_two_through (xs : List α) (ys : List β) (zs : List γ) (left : List.Forall₂ first xs ys) (right : List.Forall₂ second ys zs)
    (each : ∀ x y z, first x y → second y z → other x z) : List.Forall₂ other xs zs := by
  induction left generalizing zs with
  | nil =>
      cases right
      exact .nil
  | cons head _ ih =>
      cases right with
      | cons head' tail' => exact .cons (each _ _ _ head head') (ih _ tail')

theorem forall_two_beside (xs : List α) (ys : List β) (zs : List γ) (left : List.Forall₂ first xs ys) (right : List.Forall₂ other xs zs)
    (each : ∀ x y z, first x y → other x z → result y z) : List.Forall₂ result ys zs := by
  induction left generalizing zs with
  | nil =>
      cases right
      exact .nil
  | cons head _ ih =>
      cases right with
      | cons head' tail' => exact .cons (each _ _ _ head head') (ih _ tail')

end Each

theorem same_values (parsed parsed' : ParsedSeal) (typed : parsed.keys ∈ sealShapes) (keys : parsed.keys = parsed'.keys)
    (values : parsed.values = parsed'.values) : parsed = parsed' := by
  cases parsed with
  | opaqueSeal raw => simp [ParsedSeal.keys, sealShapes] at typed
  | _ =>
      cases parsed' with
      | _ => simp_all [ParsedSeal.keys, ParsedSeal.values]

theorem read_as_once (text : String) (parsed parsed' : ParsedSeal) (left : ReadAs text parsed) (right : ReadAs text parsed') :
    parsed = parsed' := by
  by_cases shaped : ∃ keys values, Shaped (asBytes text) keys values
  · obtain ⟨keys, values, shaped⟩ := shaped
    obtain ⟨first, second⟩ := left.typed keys values shaped
    obtain ⟨first', second'⟩ := right.typed keys values shaped
    exact same_values parsed parsed' (by rw [first]; exact shaped.known) (first.trans first'.symm) (second.trans second'.symm)
  · rw [left.untyped shaped, right.untyped shaped]

def SealOf (text : String) (given : Seal) : Prop := ∃ parsed, ReadAs text parsed ∧ sealFromWire "a" parsed = .ok given

section Kept

variable {α β : Type}

def Verbatim (part : Scan α) (piece : α → Bytes) : Prop :=
  ∀ sc done value, part sc = .ok (value, done) → ∃ front back, Took sc (front ++ piece value ++ back) done

variable {start middle : Mode}

theorem holds_behind (part : Scan α) (next : α → Scan β) (piece : β → Bytes) (priced : Priced False start middle part)
    (later : ∀ value, Verbatim (next value) piece) : Verbatim (part >>= next) piece := by
  intro sc done value read
  obtain ⟨first, at', taken, read⟩ := (scan_bind_ok _ _ _ _ _).mp read
  obtain ⟨text, took, _, _⟩ := priced_run part priced sc at' first taken
  obtain ⟨front, back, took'⟩ := later first at' done value read
  refine ⟨text ++ front, back, ?_⟩
  have whole := took_append _ _ _ _ _ took took'
  rw [← List.append_assoc, ← List.append_assoc] at whole
  exact whole

theorem holds_first (part : Scan α) (next : α → Scan β) (piece : α → Bytes) (piece' : β → Bytes)
    (holds : Verbatim part piece) (later : ∀ value, Priced False start middle (next value))
    (kept : ∀ value sc done result, next value sc = .ok (result, done) → piece' result = piece value) : Verbatim (part >>= next) piece' := by
  intro sc done value read
  obtain ⟨first, at', taken, read⟩ := (scan_bind_ok _ _ _ _ _).mp read
  obtain ⟨front, back, took⟩ := holds sc at' first taken
  obtain ⟨text, took', _, _⟩ := priced_run _ (later first) at' done value read
  refine ⟨front, back ++ text, ?_⟩
  rw [kept first at' done value read, ← List.append_assoc]
  exact took_append _ _ _ _ _ took took'

theorem holds_map (part : Scan α) (wrap : α → β) (piece : α → Bytes) (piece' : β → Bytes) (holds : Verbatim part piece)
    (same : ∀ value, piece' (wrap value) = piece value) : Verbatim (do let value ← part; pure (wrap value)) piece' := by
  refine holds_first part _ piece piece' holds (fun value => (priced_pure (wrap value) : Priced False .outside .outside _)) ?_
  intro value sc done result read
  obtain ⟨rfl, _⟩ := (scan_pure_ok _ _ _ _).mp read
  exact same value

theorem holds_ite (fault : Prop) [Decidable fault] (first second : Scan α) (piece : α → Bytes) (left : Verbatim first piece)
    (right : Verbatim second piece) : Verbatim (if fault then first else second) piece := by
  by_cases found : fault
  · rw [if_pos found]
    exact left
  · rw [if_neg found]
    exact right

theorem holds_reject (error : DeserializeError) (piece : α → Bytes) : Verbatim (reject error : Scan α) piece := by
  intro sc done value read
  cases read

theorem body_end_ok (given value : α) (sc done : Scanner) (read : bodyEnd given sc = .ok (value, done)) : value = given := by
  obtain ⟨_, at1, _, read⟩ := (scan_bind_ok _ _ _ _ _).mp read
  obtain ⟨_, at2, _, read⟩ := (scan_bind_ok _ _ _ _ _).mp read
  exact ((scan_pure_ok _ _ _ _).mp read).1.symm

def keptText : ParsedSeal → Bytes
  | .opaqueSeal raw => asBytes raw
  | _ => []

def anchorsText (anchors : List ParsedSeal) : Bytes := asBytes ",\"a\":" ++ arrayText (anchors.map keptText)

theorem kept_anchors_held : Verbatim (anchorField ParsedSeal.opaqueBody) anchorsText := by
  intro sc done anchors read
  obtain ⟨_, at', lit, read⟩ := (scan_bind_ok _ _ _ _ _).mp read
  have each : ∀ sc sc' value, ParsedSeal.opaqueBody sc = .ok (value, sc') → Took sc (keptText value) sc' := by
    intro sc sc' value read
    obtain ⟨raw, rfl, took⟩ := opaque_body_took sc sc' value read
    exact took
  refine ⟨[], [], ?_⟩
  rw [List.nil_append, List.append_nil]
  exact took_append _ _ _ _ _ (expect_took _ _ _ _ lit) (delimited_list_took _ keptText each _ _ _ read)

theorem event_scan_held : Verbatim (ParsedEvent.scanBy ParsedSeal.opaqueBody) fun parsed => anchorsText parsed.anchors := by
  have ended : ∀ {γ : Type} (finished : γ) (piece : γ → Bytes) (sc done : Scanner) (result : γ), bodyEnd finished sc = .ok (result, done) →
      piece result = piece finished := by
    intro γ finished piece sc done result read
    rw [body_end_ok _ _ _ _ read]
  have fields : Verbatim (ParsedIcp.fieldsBy ParsedSeal.opaqueBody) fun parsed => anchorsText parsed.anchors := by
    refine holds_behind _ _ _ icp_front_priced fun front => holds_map _ _ _ _ kept_anchors_held fun _ => rfl
  have icp : Verbatim (ParsedIcp.bodyBy ParsedSeal.opaqueBody) fun parsed => anchorsText parsed.anchors :=
    holds_first _ _ _ _ fields (fun _ => body_end_priced _) fun parsed sc done result read =>
      ended parsed (fun parsed => anchorsText parsed.anchors) sc done result read
  have dip : Verbatim (ParsedDip.bodyBy ParsedSeal.opaqueBody) fun parsed => anchorsText parsed.icp.anchors := by
    refine holds_first _ _ _ _ fields (fun _ => priced_bind _ _ (text_priced ",\"di\":" ⟨rfl, rfl⟩) fun _ => body_end_priced _) ?_
    intro parsed sc done result read
    obtain ⟨delegator, at', _, read⟩ := (scan_bind_ok _ _ _ _ _).mp read
    exact ended (ParsedDip.mk parsed delegator) (fun parsed => anchorsText parsed.icp.anchors) at' done result read
  have rot : Verbatim (ParsedRot.bodyBy ParsedSeal.opaqueBody) fun parsed => anchorsText parsed.anchors := by
    refine holds_behind _ _ _ rot_front_priced fun front => holds_first _ _ _ _ kept_anchors_held (fun _ => body_end_priced _) ?_
    intro anchors sc done result read
    exact ended (ParsedRot.mk _ _ _ _ _ _ _ _ _ _ _ _) (fun parsed => anchorsText parsed.anchors) sc done result read
  have ixn : Verbatim (ParsedIxn.bodyBy ParsedSeal.opaqueBody) fun parsed => anchorsText parsed.anchors := by
    refine holds_behind _ _ _ ixn_front_priced fun front => holds_first _ _ _ _ kept_anchors_held (fun _ => body_end_priced _) ?_
    intro anchors sc done result read
    exact ended (ParsedIxn.mk _ _ _ _ _) (fun parsed => anchorsText parsed.anchors) sc done result read
  refine holds_behind _ _ _ event_head_priced fun messageType => ?_
  refine holds_ite _ _ _ _ (holds_map _ _ _ _ icp fun _ => rfl) ?_
  refine holds_ite _ _ _ _ (holds_map _ _ _ _ rot fun _ => rfl) ?_
  refine holds_ite _ _ _ _ (holds_map _ _ _ _ ixn fun _ => rfl) ?_
  refine holds_ite _ _ _ _ (holds_map _ _ _ _ dip fun _ => rfl) ?_
  refine holds_ite _ _ _ _ (holds_map _ _ _ _ rot fun _ => rfl) ?_
  exact holds_ite _ _ _ _ (holds_reject _ _) (holds_reject _ _)

end Kept

section Pass

theorem kept_text_opaque (texts : List String) : (texts.map ParsedSeal.opaqueSeal).map keptText = texts.map asBytes := by
  rw [List.map_map]
  rfl

variable (library : KeyLibrary)

theorem kept_metered : Metered (deserializeKept library) :=
  finished_metered _ (liftEvent library) (scan_by_priced _ opaque_body_priced) (scan_by_finishes _)

theorem kept_texts (kept : ParsedEvent) (base : EventRead) (texts : List String) (opaque' : kept.anchors = texts.map ParsedSeal.opaqueSeal)
    (built : buildEvent kept = .ok base) : base.event.anchors = texts.map Seal.opaqueSeal := by
  have own := (event_resealed kept kept.anchors _ base rfl (by rw [opaque']; exact opaque_lifted texts) built).1
  rw [opaque', opaque_lifted, Except.ok.injEq] at own
  exact own.symm

theorem kept_beside (raw : Bytes) (read : EventRead) :
    deserializeEvent library raw .unlimited = .ok read ↔
      ∃ kept texts seals, deserializeKept library raw .unlimited = .ok kept ∧ kept.event.anchors = texts.map Seal.opaqueSeal ∧
        List.Forall₂ SealOf texts seals ∧ read = kept.withAnchors seals := by
  have start := unmetered_new raw
  simp only [deserializeEvent, deserializeKept, ParsedEvent.parse, ← event_scan_by, liftEvent, bind_ok, exists_done, scanned_ok]
  apply Iff.intro
  · intro found
    obtain ⟨json, parsed, ⟨done, scanned⟩, verified, built⟩ := found
    obtain ⟨_, kept, scanned', ⟨texts, opaque', each⟩, same⟩ := event_scans_agree.there _ done parsed start scanned
    have size : (texts.map ParsedSeal.opaqueSeal).length = parsed.anchors.length := by
      rw [List.length_map, each.length_eq]
    obtain ⟨lifted, again⟩ := event_resealed parsed _ _ read size (opaque_lifted texts) built
    have own : parsed.withAnchors (texts.map ParsedSeal.opaqueSeal) = kept := by
      rw [same, parsed_with_twice, ← opaque', parsed_with_own]
    rw [own] at again
    rw [same, said_resealed] at verified
    refine ⟨_, texts, read.event.anchors, ⟨json, kept, ⟨done, scanned'⟩, verified, again⟩, anchors_replaced _ _, ?_, ?_⟩
    · exact forall_two_through _ _ _ each ((map_m_ok _ _ _).mp lifted) fun text given result read lift => ⟨given, read, lift⟩
    · rw [with_anchors_twice, with_own_anchors]
  · intro found
    obtain ⟨base, texts, seals, ⟨json, kept, ⟨done, scanned⟩, verified, built⟩, kept', each, rfl⟩ := found
    obtain ⟨parsed, scanned', ⟨texts', opaque', each'⟩, same⟩ := event_scans_agree.back _ done kept start scanned
    have own := (kept_texts kept base texts' opaque' built).symm.trans kept'
    have texts_same : texts' = texts := List.map_injective_iff.mpr (fun _ _ given => Seal.opaqueSeal.inj given) own
    rw [texts_same] at each'
    have lifted : eachFromWire sealFromWire "a" parsed.anchors = .ok seals := by
      refine (map_m_ok _ _ _).mpr (forall_two_beside _ _ _ each' each fun text given result read found => ?_)
      obtain ⟨given', read', lift⟩ := found
      rw [read_as_once text given given' read read']
      exact lift
    have size : parsed.anchors.length = kept.anchors.length := by
      rw [opaque', List.length_map, texts_same, each'.length_eq]
    have again := (event_resealed kept parsed.anchors seals base size lifted built).2
    rw [← same] at again
    rw [← said_resealed library kept parsed.anchors, ← same] at verified
    exact ⟨json, parsed, ⟨done, scanned'⟩, verified, again⟩

theorem kept_verbatim (raw : Bytes) (kept : EventRead) (read : deserializeKept library raw .unlimited = .ok kept) :
    ∃ front, ∃ texts : List String, ∃ back, kept.event.anchors = texts.map Seal.opaqueSeal ∧
      raw = front ++ (asBytes ",\"a\":" ++ arrayText (texts.map asBytes)) ++ back := by
  simp only [deserializeKept, liftEvent, bind_ok, exists_done, scanned_ok] at read
  obtain ⟨_, parsed, ⟨done, scanned⟩, _, built⟩ := read
  obtain ⟨_, _, ⟨texts, opaque', _⟩, _⟩ := event_scans_agree.back _ done parsed (unmetered_new raw) scanned
  obtain ⟨front, back, took⟩ := event_scan_held _ done parsed scanned
  have nothing := scan_by_finishes _ _ parsed done scanned
  have whole : raw = front ++ anchorsText parsed.anchors ++ back := by
    have left := took.left
    rw [nothing, List.append_nil] at left
    exact left
  refine ⟨front, texts, back, kept_texts parsed kept texts opaque' built, ?_⟩
  rw [whole, anchorsText, opaque', kept_text_opaque]

end Pass

-- A key event is read as the reader that keeps all the anchors verbatim reads it,
-- each anchor then being the seal that its text stands for: a typed one if its
-- keys are those of a typed seal, and its own text if not.
theorem anchors_pass_through (library : KeyLibrary) (raw : Bytes) (limits : JsonLimits) :
    (∀ read, deserializeEvent library raw (.ofLimits limits) = .ok read ↔
        ∃ kept texts seals, deserializeKept library raw (.ofLimits limits) = .ok kept ∧ kept.event.anchors = texts.map Seal.opaqueSeal ∧
          List.Forall₂ SealOf texts seals ∧ read = kept.withAnchors seals) ∧
      ∀ kept, deserializeKept library raw (.ofLimits limits) = .ok kept →
        ∃ front, ∃ texts : List String, ∃ back, kept.event.anchors = texts.map Seal.opaqueSeal ∧
          raw = front ++ (asBytes ",\"a\":" ++ arrayText (texts.map asBytes)) ++ back := by
  have exact' := (json_budget_exact library).1.1.metered raw limits
  refine ⟨fun read => ?_, fun kept read => kept_verbatim library raw kept ((kept_metered library raw limits kept).mp read).1⟩
  rw [exact', kept_beside]
  apply Iff.intro
  · intro found
    obtain ⟨⟨kept, texts, seals, read', same⟩, within⟩ := found
    exact ⟨kept, texts, seals, (kept_metered library raw limits kept).mpr ⟨read', within⟩, same⟩
  · intro found
    obtain ⟨kept, texts, seals, read', same⟩ := found
    obtain ⟨free, within⟩ := (kept_metered library raw limits kept).mp read'
    exact ⟨⟨kept, texts, seals, free, same⟩, within⟩

end Cesr.Codec
