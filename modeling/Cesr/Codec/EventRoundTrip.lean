import Cesr.Codec.EventCarried

set_option autoImplicit false

namespace Cesr.Codec

open Checks Calls WriterJson Scanner Appends Slots JsonTally

section Slots

def slotOf (code : DigestCode) : Bytes := List.replicate (saidWidth code) dummyByte

theorem patch_runs (front old new back : Bytes) (span : Span) (same : span = (front.length, front.length + old.length))
    (wide : new.length = old.length) : exec (patchSlot span new) (front ++ (old ++ back)) = (.ok (), front ++ (new ++ back)) := by
  rw [same, exec_patch_slot _ new _ (Nat.le_add_right _ _) (by simp only [List.length_append]; omega) (by simp only [wide]; omega),
    overwrite_between]

theorem fill_runs (front old back : Bytes) (span : Span) (same : span = (front.length, front.length + old.length)) :
    exec (fillSpan span) (front ++ (old ++ back)) = (.ok (), front ++ (List.replicate old.length dummyByte ++ back)) := by
  rw [same, exec_fill_span _ _ (Nat.le_add_right _ _) (by simp only [List.length_append]; omega), overwrite_between,
    Nat.add_sub_cancel_left]

theorem splice_runs (front old back : Bytes) (span : Span) (said : Matter DigestCode) (text : String)
    (same : span = (front.length, front.length + old.length)) (shown : saidText said = .ok text) (wide : (asBytes text).length = old.length) :
    exec (spliceSaid span said) (front ++ (old ++ back)) = (.ok (), front ++ (asBytes text ++ back)) := by
  rw [spliceSaid, exec_bind, exec_check, shown]
  exact patch_runs front old (asBytes text) back span same wide

def versionFront : Bytes := asBytes "\x7b\"v\":\"" ++ VersionString.keriJsonV1.toStr.take 10

def versionBack (messageType : MessageType) (said : Bytes) (pfx : Option Bytes) (tail : Bytes) : Bytes :=
  VersionString.keriJsonV1.toStr.drop 16 ++ (asBytes "\",\"t\":" ++ (quoted (asBytes messageType.code) ++ (asBytes ",\"d\":\"" ++
    (said ++ (quote :: (prefixText pfx ++ tail))))))

theorem patched_text (messageType : MessageType) (size : Nat) (said : Bytes) (pfx : Option Bytes) (tail : Bytes) :
    eventText messageType (patched size) said pfx tail = versionFront ++ (hexSize size ++ versionBack messageType said pfx tail) := by
  simp only [eventText, saidFront, patched, versionFront, versionBack, List.append_assoc]

theorem patched_zero : patched 0 = versionZero := by decide

theorem patched_length (size : Nat) : (patched size).length = versionZero.length := by
  rw [← patched_zero, patched, patched]
  simp only [List.length_append, hex_size_length]

def prefixFront (messageType : MessageType) (version said : Bytes) : Bytes :=
  saidFront messageType version ++ (said ++ (quote :: asBytes ",\"i\":\""))

theorem prefix_text (messageType : MessageType) (version said pfx tail : Bytes) :
    eventText messageType version said (some pfx) tail = prefixFront messageType version said ++ (pfx ++ (quote :: tail)) := by
  have opens : asBytes ",\"i\":\"" = asBytes ",\"i\":" ++ [quote] := rfl
  simp only [eventText, prefixText, prefixFront, quoted, opens, List.append_assoc, List.cons_append, List.nil_append]

theorem prefix_front_length (messageType : MessageType) (size : Nat) (said : Bytes) :
    (prefixFront messageType (patched size) said).length = (saidFront messageType versionZero).length + said.length + 1 + 6 := by
  have opens : (asBytes ",\"i\":\"").length = 6 := rfl
  rw [prefixFront, List.length_append, said_front_length messageType (patched size) (patched_length size), List.length_append, List.length_cons,
    opens]
  omega

end Slots

section Written

variable (library : KeyLibrary)

def templateOf (event : KeriEvent) (size : Nat) (tail : Bytes) : Bytes :=
  eventText event.messageType (patched size) (slotOf event.saidCode) (event.prefixSaidCode.map slotOf) tail

structure Computed (event : KeriEvent) (data : Bytes) (said : String) (computed : Option (String × DigestCode)) : Prop where
  codes : computed.map Prod.snd = event.prefixSaidCode
  said : DigestSpelled library event.saidCode data said
  own : ∀ both ∈ computed, DigestSpelled library both.2 data both.1

theorem computed_exists (fixed : FixedLength library) (event : KeriEvent) (data : Bytes) : ∃ said computed, Computed library event data said computed := by
  obtain ⟨said, spelled⟩ := digest_spelled library fixed event.saidCode data
  cases coded : event.prefixSaidCode with
  | none =>
      refine ⟨said, none, coded.symm, spelled, fun both inside => ?_⟩
      cases inside
  | some code =>
      obtain ⟨pfx, own⟩ := digest_spelled library fixed code data
      refine ⟨said, some (pfx, code), coded.symm, spelled, fun both inside => ?_⟩
      rw [← Option.some.inj inside]
      exact own

def finalText (event : KeriEvent) (size : Nat) (said : String) (computed : Option (String × DigestCode)) (tail : Bytes) : Bytes :=
  eventText event.messageType (patched size) (asBytes said) (computed.map fun both => asBytes both.1) tail

theorem slot_placeholder (code : DigestCode) : slotPlaceholder code = .ok (slotOf code) := by
  rw [slotPlaceholder, placeholder_ok]
  rfl

theorem option_map_m {α β ε : Type} (step : α → Except ε β) (make : α → β) (ok : ∀ value, step value = .ok (make value)) (found : Option α) :
    found.mapM step = .ok (found.map make) := by
  cases found with
  | none => rfl
  | some value =>
      show (some <$> step value : Except ε (Option β)) = _
      rw [ok]
      rfl

theorem digest_event (fixed : FixedLength library) (data : Bytes) (code : DigestCode) :
    eventDigest library data code = .ok (digestOf library code data) := by
  rw [eventDigest, digest_ok library fixed]
  rfl

theorem own_wide {event : KeriEvent} {data : Bytes} {said : String} {computed : Option (String × DigestCode)}
    (found : Computed library event data said computed) :
    (event.prefixSaidCode.map slotOf).map List.length = (computed.map fun both => asBytes both.1).map List.length := by
  rw [← found.codes, Option.map_map, Option.map_map, Option.map_map]
  cases computed with
  | none => rfl
  | some both =>
      have wide := (found.own both rfl).wide
      simp only [Option.map_some, Function.comp, slotOf, List.length_replicate, wide]

theorem final_length {event : KeriEvent} {data : Bytes} {said : String} {computed : Option (String × DigestCode)} (size : Nat) (tail : Bytes)
    (found : Computed library event data said computed) :
    (finalText event size said computed tail).length =
      (eventText event.messageType versionZero (slotOf event.saidCode) (event.prefixSaidCode.map slotOf) tail).length := by
  refine event_text_length _ _ _ _ _ _ _ _ (patched_length size) ?_ (own_wide library found).symm
  rw [slotOf, List.length_replicate, found.said.wide]

theorem digests_fill (fixed : FixedLength library) (event : KeriEvent) (size : Nat) (tail : Bytes) (said : String)
    (computed : Option (String × DigestCode)) (found : Computed library event (templateOf event size tail) said computed) :
    exec (KeriEvent.fillDigests library event (layoutOf event.messageType (slotOf event.saidCode) (event.prefixSaidCode.map slotOf)) size)
        (templateOf event size tail) =
      (.ok ⟨finalText event size said computed tail, ⟨digestOf library event.saidCode (templateOf event size tail)⟩,
        event.prefixSaidCode.map fun code => ⟨digestOf library code (templateOf event size tail)⟩, event.messageType, size⟩,
        finalText event size said computed tail) := by
  have digested : event.prefixSaidCode.mapM (eventDigest library (templateOf event size tail)) =
      .ok (event.prefixSaidCode.map fun code => digestOf library code (templateOf event size tail)) :=
    option_map_m _ _ (digest_event library fixed (templateOf event size tail)) _
  have start : (saidFront event.messageType versionZero).length = (saidFront event.messageType (patched size)).length :=
    (said_front_length event.messageType (patched size) (patched_length size)).symm
  have first : exec (spliceSaid (layoutOf event.messageType (slotOf event.saidCode) (event.prefixSaidCode.map slotOf)).said
        (digestOf library event.saidCode (templateOf event size tail))) (templateOf event size tail) =
      (.ok (), eventText event.messageType (patched size) (asBytes said) (event.prefixSaidCode.map slotOf) tail) := by
    refine splice_runs _ (slotOf event.saidCode) _ _ _ said ?_ found.said.shown ?_
    · rw [layoutOf, ← start]
    · rw [slotOf, List.length_replicate, found.said.wide]
  rw [KeriEvent.fillDigests, exec_get_bind, digest_event library fixed, digested]
  generalize data' : templateOf event size tail = data at *
  rw [exec_bind, exec_check]
  simp only []
  rw [exec_bind, exec_check]
  simp only []
  rw [exec_bind, first]
  simp only []
  have codes := found.codes
  cases computed with
  | none =>
      have none' : event.prefixSaidCode = none := codes.symm
      rw [none']
      rfl
  | some both =>
      have some' : event.prefixSaidCode = some both.2 := codes.symm
      have second : exec (spliceSaid ((saidFront event.messageType versionZero).length + (slotOf event.saidCode).length + 1 + 6,
            (saidFront event.messageType versionZero).length + (slotOf event.saidCode).length + 1 + 6 + (slotOf both.2).length)
            (digestOf library both.2 data)) (eventText event.messageType (patched size) (asBytes said) (some (slotOf both.2)) tail) =
          (.ok (), eventText event.messageType (patched size) (asBytes said) (some (asBytes both.1)) tail) := by
        have own := found.own both rfl
        rw [prefix_text, prefix_text]
        refine splice_runs _ (slotOf both.2) _ _ _ both.1 ?_ own.shown ?_
        · rw [prefix_front_length, slotOf, List.length_replicate, found.said.wide]
        · rw [slotOf, List.length_replicate, own.wide]
      rw [some']
      simp only [Option.map_some, layoutOf, splicePrefix]
      rw [exec_bind, exec_bind, second]
      rfl

def KeriEvent.rendered (event : KeriEvent) (form : ThresholdForm) : Bytes :=
  after (renderEvent form (slotOf event.saidCode) (event.prefixSaidCode.map slotOf) event) []

theorem rendered_text {event : KeriEvent} {form : ThresholdForm} {tail : Bytes} (carried : EventCarried library event form tail) :
    KeriEvent.rendered event form =
      eventText event.messageType versionZero (slotOf event.saidCode) (event.prefixSaidCode.map slotOf) tail := by
  rw [KeriEvent.rendered, after, carried.renders _ _ (by rw [Option.isSome_map])]

def slotLayout (event : KeriEvent) : EventLayout :=
  layoutOf event.messageType (slotOf event.saidCode) (event.prefixSaidCode.map slotOf)

theorem serialize_rendered {event : KeriEvent} {form : ThresholdForm} {tail : Bytes} (carried : EventCarried library event form tail) :
    KeriEvent.serialize library event form =
      (exec (KeriEvent.fillSlots library event (slotLayout event)) (KeriEvent.rendered event form)).1 := by
  have slots := option_map_m slotPlaceholder slotOf slot_placeholder event.prefixSaidCode
  have rendered := carried.renders (slotOf event.saidCode) (event.prefixSaidCode.map slotOf) (by rw [Option.isSome_map])
  rw [KeriEvent.serialize, outcome, KeriEvent.writeEvent, slot_placeholder, slots, exec_bind, exec_check]
  simp only []
  rw [exec_bind, exec_check]
  simp only [renderBody]
  rw [exec_bind, rendered, rendered_text library carried]
  rfl

theorem event_oversized {event : KeriEvent} {form : ThresholdForm} {tail : Bytes} (carried : EventCarried library event form tail)
    (large : ¬ (KeriEvent.rendered event form).length ≤ versionSizeMax) : KeriEvent.serialize library event form = .error oversized := by
  have refused : rejectIf (¬ (KeriEvent.rendered event form).length ≤ versionSizeMax) oversized = .error oversized := by
    rw [rejectIf, if_pos large]
  rw [serialize_rendered library carried, KeriEvent.fillSlots, exec_get_bind, exec_bind, exec_check, refused]

theorem event_written (fixed : FixedLength library) {event : KeriEvent} {form : ThresholdForm} {tail : Bytes}
    (carried : EventCarried library event form tail) (size : Nat) (sized : (KeriEvent.rendered event form).length = size)
    (small : size ≤ versionSizeMax) (said : String) (computed : Option (String × DigestCode))
    (found : Computed library event (templateOf event size tail) said computed) :
    KeriEvent.serialize library event form =
      .ok ⟨finalText event size said computed tail, ⟨digestOf library event.saidCode (templateOf event size tail)⟩,
        event.prefixSaidCode.map fun code => ⟨digestOf library code (templateOf event size tail)⟩, event.messageType, size⟩ := by
  have within : rejectIf (¬ size ≤ versionSizeMax) oversized = .ok () := (reject_if_ok _ _ _).mpr (not_not.mpr small)
  have patch : exec (patchSlot (16, 22) (hexSize size)) (KeriEvent.rendered event form) = (.ok (), templateOf event size tail) := by
    rw [rendered_text library carried, ← patched_zero, templateOf, patched_text, patched_text]
    exact patch_runs versionFront (hexSize 0) (hexSize size) _ (16, 22) rfl rfl
  have matched : rejectIf ((slotLayout event).pfx.isSome ≠ event.prefixSaidCode.isSome) slotMismatch = .ok () := by
    refine (reject_if_ok _ _ _).mpr (not_not.mpr ?_)
    rw [slotLayout, layoutOf, Option.isSome_map, Option.isSome_map]
  rw [serialize_rendered library carried, KeriEvent.fillSlots, exec_get_bind, sized, exec_bind, exec_check, within]
  simp only []
  rw [exec_bind, show (slotLayout event).size = (16, 22) from rfl, patch]
  simp only []
  rw [exec_bind, exec_check, matched]
  simp only []
  rw [slotLayout, digests_fill library fixed event size tail said computed found]

end Written

section Verified

variable (library : KeyLibrary)

theorem span_verified (fixed : FixedLength library) (data : Bytes) (code : DigestCode) (spanned : Spanned)
    (spelled : DigestSpelled library code data spanned.value) : verifySaidSpan library data (spanned, code) = .ok () := by
  rw [verifySaidSpan, digest_ok library fixed]
  show (saidText (digestOf library code data) >>= _ : Except CodecError Unit) = _
  rw [spelled.shown]
  exact (reject_if_ok _ _ _).mpr fun other => other rfl

theorem spans_verified (fixed : FixedLength library) (event : KeriEvent) (size : Nat) (tail : Bytes) (said : String)
    (computed : Option (String × DigestCode)) (found : Computed library event (templateOf event size tail) said computed) :
    verifySaidSpans library (finalText event size said computed tail) (slotFields event.messageType said event.saidCode computed) = .ok () := by
  have first : exec (fillSpan ((saidSpan event.messageType said).start, (saidSpan event.messageType said).stop))
        (finalText event size said computed tail) =
      (.ok (), eventText event.messageType (patched size) (slotOf event.saidCode) (computed.map fun both => asBytes both.1) tail) := by
    rw [slotOf, ← found.said.wide]
    refine fill_runs _ (asBytes said) _ _ ?_
    rw [saidSpan, ← said_front_length event.messageType (patched size) (patched_length size)]
  have filled : consume ((slotFields event.messageType said event.saidCode computed).forM fun spanned => fillSpan (spanned.1.start, spanned.1.stop))
      (finalText event size said computed tail) = .ok (templateOf event size tail) := by
    have codes := found.codes
    cases computed with
    | none =>
        rw [templateOf, ← codes]
        show consume (fillSpan _ >>= fun _ => pure ()) _ = _
        rw [consume, exec_bind, first]
        rfl
    | some both =>
        have second : exec (fillSpan ((prefixSpan event.messageType said both.1).start, (prefixSpan event.messageType said both.1).stop))
              (eventText event.messageType (patched size) (slotOf event.saidCode) (some (asBytes both.1)) tail) =
            (.ok (), eventText event.messageType (patched size) (slotOf event.saidCode) (some (slotOf both.2)) tail) := by
          have slot : slotOf both.2 = List.replicate (asBytes both.1).length dummyByte := by rw [slotOf, (found.own both rfl).wide]
          rw [prefix_text, prefix_text, slot]
          refine fill_runs _ (asBytes both.1) _ _ ?_
          rw [prefix_front_length, prefixSpan, slotOf, List.length_replicate, found.said.wide]
        rw [templateOf, ← codes]
        show consume (fillSpan _ >>= fun _ => fillSpan _ >>= fun _ => pure ()) _ = _
        rw [consume, exec_bind, first]
        simp only []
        rw [exec_bind, show (Option.map (fun both => asBytes both.1) (some both)) = some (asBytes both.1) from rfl, second]
        rfl
  rw [verifySaidSpans, filled, ok_bind]
  have said' := span_verified library fixed _ _ (saidSpan event.messageType said) found.said
  cases computed with
  | none =>
      show (verifySaidSpan library _ _ >>= fun _ => pure () : Except CodecError Unit) = _
      rw [said', ok_bind]
      rfl
  | some both =>
      have own := span_verified library fixed _ _ (prefixSpan event.messageType said both.1) (found.own both rfl)
      show (verifySaidSpan library _ _ >>= fun _ => verifySaidSpan library _ _ >>= fun _ => pure () : Except CodecError Unit) = _
      rw [said', ok_bind, own, ok_bind]
      rfl

theorem first_version_json (rest : Bytes) : checkJsonBody (asBytes "\x7b\"v\":\"" ++ (asBytes "KERI10JSON" ++ rest)) = .ok () := by
  have later : (asBytes "\x7b\"v\":\"" ++ (asBytes "KERI10JSON" ++ rest)).drop 6 = asBytes "KERI10JSON" ++ rest := rfl
  have head : (asBytes "\x7b\"v\":\"" ++ (asBytes "KERI10JSON" ++ rest)).head? = some 0x7B := rfl
  have json : (Stream.ColdCode.detect 0x7B).toOption = some .json := by decide
  rw [checkJsonBody, head, Option.bind_some, json, later]
  simp only
  refine (reject_if_ok _ _ _).mpr fun both => ?_
  rw [first_version_only rest] at both
  cases both.2

theorem event_json (messageType : MessageType) (size : Nat) (said : Bytes) (pfx : Option Bytes) (tail : Bytes) :
    checkJsonBody (eventText messageType (patched size) said pfx tail) = .ok () := by
  have front : patched size = asBytes "KERI10JSON" ++ (hexSize size ++ VersionString.keriJsonV1.toStr.drop 16) := by
    rw [patched, List.append_assoc]
    rfl
  obtain ⟨rest, same⟩ : ∃ rest, eventText messageType (patched size) said pfx tail = asBytes "\x7b\"v\":\"" ++ (asBytes "KERI10JSON" ++ rest) := by
    rw [eventText, saidFront, front]
    exact ⟨_, by simp only [List.append_assoc]; rfl⟩
  rw [same]
  exact first_version_json rest

end Verified

section RoundTrip

variable (library : KeyLibrary)

theorem event_metered : Metered (deserializeEvent library) :=
  finished_metered _ (liftEvent library) event_scan_priced event_scan_finishes

structure RoundTrip (event : KeriEvent) (form : ThresholdForm) (done : SerializedEvent) : Prop where
  size : done.size = done.raw.length ∧ done.size = (KeriEvent.rendered event form).length
  messageType : done.messageType = event.messageType
  said : done.said.matter.code = event.saidCode
  pfx : (done.pfx.map fun said => said.matter.code) = event.prefixSaidCode
  reads : ∀ limits read, deserializeEvent library done.raw (.ofLimits limits) = .ok read ↔
    read = ⟨event.reread done.said done.pfx, formOf form event⟩ ∧ members done.raw ≤ limits.maxFields ∧ deepest done.raw ≤ limits.maxDepth

theorem written_round_trip (fixed : FixedLength library) {event : KeriEvent} {form : ThresholdForm} {tail : Bytes}
    (carried : EventCarried library event form tail) (small : (KeriEvent.rendered event form).length ≤ versionSizeMax) :
    ∃ done, KeriEvent.serialize library event form = .ok done ∧ RoundTrip library event form done := by
  generalize sized : (KeriEvent.rendered event form).length = size at small
  obtain ⟨said, computed, found⟩ := computed_exists library fixed event (templateOf event size tail)
  have written := event_written library fixed carried size sized small said computed found
  have long : (finalText event size said computed tail).length = size := by
    rw [final_length library size tail found, ← rendered_text library carried, sized]
  have owned : computed.map (digestSaid library (templateOf event size tail)) =
      event.prefixSaidCode.map fun code => ⟨digestOf library code (templateOf event size tail)⟩ := by
    rw [← found.codes, Option.map_map]
    rfl
  have declares : Declares .keri (patched size) (finalText event size said computed tail).length := by
    rw [long]
    exact ⟨(patched_shape size small).1, (patched_shape size small).2.1⟩
  obtain ⟨parsed, scan, verified, built⟩ := carried.reads (patched size) (templateOf event size tail) said computed found.codes found.said found.own
    (finalText event size said computed tail) rfl declares
  refine ⟨_, written, ⟨long.symm, sized.symm⟩, rfl, rfl, ?_, ?_⟩
  · rw [Option.map_map]
    show Option.map id _ = _
    rw [Option.map_id]
    rfl
  · intro limits read
    rw [event_metered library _ limits read]
    have free : deserializeEvent library (finalText event size said computed tail) .unlimited =
        .ok ⟨event.reread ⟨digestOf library event.saidCode (templateOf event size tail)⟩
          (event.prefixSaidCode.map fun code => ⟨digestOf library code (templateOf event size tail)⟩), formOf form event⟩ := by
      rw [deserializeEvent, finalText, event_json, ok_bind, ← finalText, ParsedEvent.parse, scan, ok_bind, liftEvent, verified,
        spans_verified library fixed event size tail said computed found, ok_bind, built, owned]
    rw [free, Except.ok.injEq]
    exact and_congr_left' eq_comm

theorem serialized_round_trip (fixed : FixedLength library) {event : KeriEvent} {form : ThresholdForm} (writable : event.Writable form)
    (done : SerializedEvent) (written : KeriEvent.serialize library event form = .ok done) : RoundTrip library event form done := by
  obtain ⟨tail, carried⟩ := event_carried library event form writable
  rcases Nat.lt_or_ge versionSizeMax (KeriEvent.rendered event form).length with large | small
  · rw [event_oversized library carried (Nat.not_le.mpr large)] at written
    cases written
  · obtain ⟨done', written', trip⟩ := written_round_trip library fixed carried small
    have same : done = done' := Except.ok.inj (written.symm.trans written')
    rw [same]
    exact trip

-- A writable event is written when its size can be declared, and whoever reads it
-- finds that event with its number codes and whole weights normalised.
theorem key_events_round_trip (fixed : FixedLength library) (event : KeriEvent) (form : ThresholdForm) (writable : event.Writable form) :
    ((KeriEvent.rendered event form).length ≤ versionSizeMax →
      ∃ done, KeriEvent.serialize library event form = .ok done ∧ RoundTrip library event form done) ∧
      (versionSizeMax < (KeriEvent.rendered event form).length → KeriEvent.serialize library event form = .error oversized) := by
  obtain ⟨tail, carried⟩ := event_carried library event form writable
  refine ⟨written_round_trip library fixed carried, fun large => ?_⟩
  exact event_oversized library carried (Nat.not_le.mpr large)

end RoundTrip

namespace EventSample

-- The BLAKE3 digest of the inception below with its said and its prefix overwritten.
def inceptionDigest : Bytes :=
  [254, 243, 168, 115, 160, 191, 74, 27, 247, 189, 137, 35, 140, 221, 98, 89, 40, 251, 203, 248, 207, 206, 164, 234, 6, 239, 205, 53,
    92, 24, 175, 36]

def keyLibrary : KeyLibrary :=
  { RoutedSample.keyLibrary with hash := fun code _ => (inceptionDigest ++ List.replicate 32 0).take (digestLength code) }

theorem key_library_fixed : FixedLength keyLibrary := by
  intro code data
  cases code with
  | _ => rfl

def key (byte : UInt8) : VerifyingKey := ⟨⟨.ed25519, List.replicate 32 byte, ""⟩⟩

theorem key_made (byte : UInt8) : (key byte).matter.Made := build_raw_built VerKeyCode.ed25519 (List.replicate 32 byte) _ rfl

def digest (byte : UInt8) : Matter DigestCode := ⟨.blake3_256, List.replicate 32 byte, ""⟩

theorem digest_made (byte : UInt8) : (digest byte).Made := build_raw_built DigestCode.blake3_256 (List.replicate 32 byte) _ rfl

def halves : WeightedThreshold := ⟨[(1, 2), (1, 2)], [2], ⟨Nat.zero_le _, rfl⟩⟩

-- The number of the anchor has a code wider than its value.
def inception : InceptionEvent :=
  ⟨.selfAddressing ⟨digest 0⟩, Number.new 0, ⟨digest 0⟩, [key 1, key 2], .weighted halves, [⟨digest 3⟩], .simple 1, [], ⟨0⟩, [.estOnly],
    [.source ⟨.vast, 1⟩ ⟨digest 4⟩]⟩

theorem inception_writable : inception.Writable .hexString := by
  refine ⟨digest_made 0, ?_, ?_, ?_, ?_, by decide, ?_, by decide, by decide, ?_, by decide⟩
  · exact List.forall_mem_cons.mpr ⟨key_made 1, List.forall_mem_singleton.mpr (key_made 2)⟩
  · have half : ((1, 2) : Weight).2.val ≠ 0 := by decide
    exact ⟨List.forall_mem_cons.mpr ⟨half, List.forall_mem_singleton.mpr half⟩, by decide⟩
  · exact List.forall_mem_singleton.mpr (digest_made 3)
  · intro bare
    cases bare
  · exact List.forall_mem_nil _
  · exact List.forall_mem_singleton.mpr (digest_made 4)

end EventSample

theorem key_events_round_trip_sample :
    ∃ done, KeriEvent.serialize EventSample.keyLibrary (.inception EventSample.inception) .hexString = .ok done ∧
      RoundTrip EventSample.keyLibrary (.inception EventSample.inception) .hexString done :=
  (key_events_round_trip EventSample.keyLibrary EventSample.key_library_fixed (.inception EventSample.inception) .hexString
    EventSample.inception_writable).1 (by decide +kernel)

end Cesr.Codec
