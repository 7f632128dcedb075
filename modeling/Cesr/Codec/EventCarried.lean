import Cesr.Codec.EventText

set_option autoImplicit false

namespace Cesr

-- An event as it is read back, under the said and the prefix that were computed.
def KeriEvent.reread (said : Said) (pfx : Option Said) : KeriEvent → KeriEvent
  | .inception e => .inception (e.reread (pfx.elim e.pfx Identifier.selfAddressing) said)
  | .rotation e => .rotation (e.reread said)
  | .interaction e => .interaction (e.reread said)
  | .delegatedInception e => .delegatedInception ⟨e.inception.reread (pfx.elim e.inception.pfx Identifier.selfAddressing) said, e.delegator⟩
  | .delegatedRotation e => .delegatedRotation ⟨e.rotation.reread said⟩

namespace Codec

open Checks Calls WriterJson Scanner Appends Slots

def formOf (form : ThresholdForm) : KeriEvent → Option ThresholdForm
  | .interaction _ => none
  | _ => some form

section Spelled

variable (library : KeyLibrary)

structure DigestSpelled (code : DigestCode) (data : Bytes) (text : String) : Prop where
  shown : saidText (digestOf library code data) = .ok text
  wide : (asBytes text).length = saidWidth code
  plain : ∀ byte ∈ asBytes text, Plain byte
  inferred : inferDigestCode text = .ok code
  said : saidFromWire "d" text = .ok ⟨digestOf library code data⟩
  identifier : identifierFromWire "i" text = .ok (.selfAddressing ⟨digestOf library code data⟩)

theorem digest_made (fixed : FixedLength library) (code : DigestCode) (data : Bytes) : (digestOf library code data).Made :=
  build_raw_built code _ _ (digest_ok library fixed code data)

theorem digest_spelled (fixed : FixedLength library) (code : DigestCode) (data : Bytes) : ∃ text, DigestSpelled library code data text := by
  obtain ⟨text, same, plain, inferred, said⟩ := said_read library fixed code data
  obtain ⟨text', shown, made, wide, _⟩ := said_text library fixed code data
  obtain ⟨text'', encoded, _, read⟩ := made_text (digestOf library code data) (digest_made library fixed code data)
  have one : text' = text := by
    apply as_bytes_injective
    rw [← same, saidBytes, made]
    rfl
  have other : text'' = text := by
    have decoded : fromUtf8 (asBytes text'') = some text'' := (from_utf8_some _ _).mpr rfl
    rw [saidText, Matter.toQb64, encoded, Option.bind_some, decoded] at shown
    rw [← one]
    exact Except.ok.inj shown
  rw [one] at shown wide
  rw [other] at read
  exact ⟨text, shown, wide, plain, inferred, said, said_identifier ⟨digestOf library code data⟩ text "i" read⟩

end Spelled

section Reads

theorem event_text_head (messageType : MessageType) (version said : Bytes) (pfx : Option Bytes) (tail : Bytes) :
    eventText messageType version said pfx tail =
      asBytes "\x7b\"v\":" ++ quoted version ++ (asBytes ",\"t\":" ++ quoted (asBytes messageType.code)) ++
        (asBytes ",\"d\":" ++ (quoted said ++ (prefixText pfx ++ tail))) := by
  have opens : asBytes "\x7b\"v\":\"" = asBytes "\x7b\"v\":" ++ [quote] := rfl
  have closes : asBytes "\",\"t\":" = quote :: asBytes ",\"t\":" := rfl
  have d : asBytes ",\"d\":\"" = asBytes ",\"d\":" ++ [quote] := rfl
  rw [eventText, saidFront, opens, closes, d]
  simp only [quoted, List.append_assoc, List.cons_append, List.nil_append]

theorem head_length (messageType : MessageType) (version : Bytes) (long : version.length = versionZero.length) :
    (asBytes "\x7b\"v\":" ++ quoted version ++ (asBytes ",\"t\":" ++ quoted (asBytes messageType.code))).length + 6 =
      (saidFront messageType versionZero).length := by
  have opens : (asBytes "\x7b\"v\":\"").length = (asBytes "\x7b\"v\":").length + 1 := rfl
  have closes : (asBytes "\",\"t\":").length = (asBytes ",\"t\":").length + 1 := rfl
  have d : (asBytes ",\"d\":\"").length = 6 := rfl
  simp only [saidFront, quoted, List.length_append, List.length_cons, List.length_nil, long, opens, closes, d]
  omega

theorem spanned_reads (lit text : String) (sc : Scanner) (rest : Bytes) (fits : Fits sc)
    (found : sc.left = asBytes lit ++ (quoted (asBytes text) ++ rest)) (balanced : nesting (asBytes lit) 1 = some 1) (deep : sc.budget.depth = 1)
    (plain : ∀ byte ∈ asBytes text, Plain byte) :
    ∃ sc', field lit string sc =
        .ok (⟨text, sc.pos + (asBytes lit).length + 1, sc.pos + (asBytes lit).length + 1 + (asBytes text).length⟩, sc') ∧
      sc'.left = rest ∧ Arrives sc (asBytes lit ++ quoted (asBytes text)) 1 sc' := by
  obtain ⟨at', read, arrives⟩ := gives_expect lit 1 1 balanced sc _ fits found deep
  have found' := took_left _ _ _ _ arrives.took found
  obtain ⟨sc', read', arrives'⟩ := string_arrives text at' rest arrives.fits found' plain
  rw [arrives.depth] at arrives'
  refine ⟨sc', ?_, took_left _ _ _ _ arrives'.took found', arrives_append _ _ _ _ _ _ _ arrives arrives'⟩
  rw [field, scan_bind_run _ _ _ _ _ read, read', arrives.took.pos]

theorem body_end_reads {α : Type} (parsed : α) (sc : Scanner) (fits : Fits sc) (found : sc.left = asBytes "\x7d") (deep : sc.budget.depth = 1) :
    ∃ done, bodyEnd parsed sc = .ok (parsed, done) := by
  have found' : sc.left = asBytes "\x7d" ++ [] := by rw [found, List.append_nil]
  obtain ⟨at', read, arrives⟩ := gives_expect "\x7d" 1 0 rfl sc [] fits found' deep
  have ends : at'.pos = at'.input.length := by
    have left : (sc.input.drop sc.pos).length = 1 := congrArg List.length found
    rw [List.length_drop] at left
    rw [arrives.took.pos, arrives.took.input, show (asBytes "\x7d").length = 1 from rfl]
    omega
  have finished : finish at' = .ok ((), at') := (finish_ok at' at' ()).mpr ⟨rfl, ends⟩
  refine ⟨at', ?_⟩
  rw [bodyEnd, scan_bind_run _ _ _ _ _ read, scan_bind_run _ _ _ _ _ finished]
  rfl

def saidSpan (messageType : MessageType) (said : String) : Spanned :=
  ⟨said, (saidFront messageType versionZero).length, (saidFront messageType versionZero).length + (asBytes said).length⟩

def prefixSpan (messageType : MessageType) (said pfx : String) : Spanned :=
  let start := (saidFront messageType versionZero).length + (asBytes said).length + 1 + 6
  ⟨pfx, start, start + (asBytes pfx).length⟩

structure Headed (raw : Bytes) (messageType : MessageType) (said : String) (tag : Spanned) (front behind : Scanner) (rest : Bytes) : Prop where
  head : ParsedEvent.head (Scanner.new raw) = .ok (tag, front)
  tagged : tag.value = messageType.code
  taken : field ",\"d\":" string front = .ok (saidSpan messageType said, behind)
  left : behind.left = rest
  fits : Fits behind
  depth : behind.budget.depth = 1
  pos : behind.pos = (saidFront messageType versionZero).length + (asBytes said).length + 1

theorem headed (messageType : MessageType) (version : Bytes) (said : String) (pfx : Option Bytes) (tail : Bytes)
    (declares : Declares .keri version (eventText messageType version (asBytes said) pfx tail).length)
    (plain : ∀ byte ∈ asBytes said, Plain byte) :
    ∃ tag front behind, Headed (eventText messageType version (asBytes said) pfx tail) messageType said tag front behind (prefixText pfx ++ tail) := by
  have found := event_text_head messageType version (asBytes said) pfx tail
  have long : version.length = versionZero.length := declares.long.trans (by decide)
  obtain ⟨tag, front, read, tagged, arrives⟩ := head_reads version _ messageType.code (Scanner.new (eventText messageType version (asBytes said) pfx tail))
    (message_code_plain messageType) (fits_new _) declares rfl found
  have found' := took_left _ _ _ _ arrives.took found
  obtain ⟨behind, read', left, arrives'⟩ := spanned_reads ",\"d\":" said front _ arrives.fits found' rfl arrives.depth plain
  have start : front.pos + (asBytes ",\"d\":").length + 1 = (saidFront messageType versionZero).length := by
    rw [arrives.took.pos, ← head_length messageType version long]
    show 0 + _ + 5 + 1 = _
    rw [Nat.zero_add]
  rw [start] at read'
  refine ⟨tag, front, behind, read, tagged, read', left, arrives'.fits, arrives'.depth, ?_⟩
  rw [arrives'.took.pos, ← start]
  simp only [quoted, List.length_append, List.length_cons, List.length_nil]
  omega

variable {raw : Bytes} {messageType : MessageType} {said : String} {tag : Spanned} {front behind : Scanner}

theorem rot_body_reads (e : RotationEvent) (form : ThresholdForm) (text : Bytes) (parsed : ParsedRot) (carried : RotationCarried e form text parsed)
    (headed : Headed raw messageType said tag front behind (text ++ asBytes "\x7d")) :
    ∃ done, ParsedRot.body front = .ok ({ parsed with said := saidSpan messageType said }, done) := by
  obtain ⟨at', read, arrives⟩ := carried.gives (saidSpan messageType said) behind _ headed.fits headed.left headed.depth
  obtain ⟨done, ended⟩ := body_end_reads { parsed with said := saidSpan messageType said } at' arrives.fits
    (took_left _ _ _ _ arrives.took headed.left) arrives.depth
  refine ⟨done, ?_⟩
  rw [rot_body_split, scan_bind_run _ _ _ _ _ headed.taken, scan_bind_run _ _ _ _ _ read]
  exact ended

theorem ixn_body_reads (e : InteractionEvent) (text : Bytes) (parsed : ParsedIxn) (carried : InteractionCarried e text parsed)
    (headed : Headed raw messageType said tag front behind (text ++ asBytes "\x7d")) :
    ∃ done, ParsedIxn.body front = .ok ({ parsed with said := saidSpan messageType said }, done) := by
  obtain ⟨at', read, arrives⟩ := carried.gives (saidSpan messageType said) behind _ headed.fits headed.left headed.depth
  obtain ⟨done, ended⟩ := body_end_reads { parsed with said := saidSpan messageType said } at' arrives.fits
    (took_left _ _ _ _ arrives.took headed.left) arrives.depth
  refine ⟨done, ?_⟩
  rw [ixn_body_split, scan_bind_run _ _ _ _ _ headed.taken, scan_bind_run _ _ _ _ _ read]
  exact ended

theorem icp_fields_reads (e : InceptionEvent) (form : ThresholdForm) (text ending : Bytes) (pfx : String) (parsed : ParsedIcp)
    (carried : InceptionCarried e form text parsed) (plain : ∀ byte ∈ asBytes pfx, Plain byte)
    (headed : Headed raw messageType said tag front behind (prefixText (some (asBytes pfx)) ++ (text ++ ending))) :
    ∃ sc', ParsedIcp.fields front = .ok ({ parsed with said := saidSpan messageType said, pfx := prefixSpan messageType said pfx }, sc') ∧
      sc'.left = ending ∧ Fits sc' ∧ sc'.budget.depth = 1 := by
  have found : behind.left = asBytes ",\"i\":" ++ (quoted (asBytes pfx) ++ (text ++ ending)) := by
    rw [headed.left, prefixText, List.append_assoc]
  obtain ⟨at', read, left, arrives⟩ := spanned_reads ",\"i\":" pfx behind _ headed.fits found rfl headed.depth plain
  have start : behind.pos + (asBytes ",\"i\":").length + 1 = (prefixSpan messageType said pfx).start := by
    rw [headed.pos]
    rfl
  rw [start] at read
  obtain ⟨sc', read', arrives'⟩ := carried.gives (saidSpan messageType said) (prefixSpan messageType said pfx) at' ending arrives.fits left
    arrives.depth
  refine ⟨sc', ?_, took_left _ _ _ _ arrives'.took left, arrives'.fits, arrives'.depth⟩
  rw [icp_fields_split, scan_bind_run _ _ _ _ _ headed.taken, scan_bind_run _ _ _ _ _ read]
  exact read'

end Reads

section Prefix

variable (library : KeyLibrary)

theorem matter_coded (matter : Matter MatterCode) (text : Bytes) (read : fromQualifiedBase64 text = .ok matter) :
    MatterCode.fromBase64Stream text = .ok matter.code := by
  obtain ⟨payload, buf, reads⟩ := (from_qualified_base64_ok _ _).mp read
  obtain ⟨rest, framed⟩ := reads.framed
  refine (from_base64_stream_ok _ _).mpr ⟨List.replicate matter.code.getSizage.xs padChar ++ asBytes matter.soft ++ payload ++ rest, ?_⟩
  rw [framed]
  simp only [Matter.header, List.append_assoc]
  rfl

theorem key_no_digest (code : VerKeyCode) : code.toMatterCode.isDigest = false := by
  cases code with
  | _ => rfl

structure PrefixCarried (pfx : Identifier) (own : Bytes) : Prop where
  runs : ∀ (filled : Option Bytes) (buf : Bytes), filled.isSome = pfx.saidCode.isSome →
    exec (prefixField filled pfx) buf =
      (.ok (filled.map fun slot => (buf.length + 6, buf.length + 6 + slot.length)), buf ++ (prefixText filled ++ own))
  reads : ∀ (data : Bytes) (computed : Option (String × DigestCode)), computed.map Prod.snd = pfx.saidCode →
    (∀ both ∈ computed, DigestSpelled library both.2 data both.1) →
      ∃ text : String, prefixText (computed.map fun both => asBytes both.1) ++ own = prefixText (some (asBytes text)) ∧
        (∀ byte ∈ asBytes text, Plain byte) ∧ probeDigestCode text = computed.map Prod.snd ∧ (∀ both ∈ computed, both.1 = text) ∧
          identifierFromWire "i" text =
            .ok ((computed.map fun both => Said.mk (digestOf library both.2 data)).elim pfx Identifier.selfAddressing)

theorem prefix_carried (pfx : Identifier) (made : pfx.Made) : ∃ own, PrefixCarried library pfx own := by
  cases pfx with
  | basic pfx =>
      obtain ⟨wire, encoded, plain, read⟩ := made_text pfx.matter made
      refine ⟨prefixText (some (asBytes wire)), ?_, ?_⟩
      · intro filled buf slotless
        cases filled with
        | some slot => cases slotless
        | none =>
            have run : exec (prefixField none (.basic pfx)) buf = (.ok none, buf ++ (asBytes ",\"i\":" ++ stringText wire)) := by
              simp only [prefixField, exec_bind, push, exec_modify, exec_pure]
              rw [show exec (encodeBasicPrefix pfx) _ = _ from matter_adds pfx.matter wire encoded (buf ++ asBytes ",\"i\":")]
              simp only [List.append_assoc]
            exact run
      · intro data computed coded spelled
        cases computed with
        | some both => cases coded
        | none =>
            refine ⟨wire, rfl, plain, ?_, ?_, ?_⟩
            · have undigestive : pfx.matter.widen.code.isDigest = false := key_no_digest pfx.matter.code
              rw [probeDigestCode, matter_coded pfx.matter.widen (asBytes wire) read]
              simp only [undigestive]
              rfl
            · intro both inside
              cases inside
            · rw [identifierFromWire, basicPrefixFromWire, matter_lifts VerKeyCode.tryFrom ver_key_known pfx.matter wire "i" read]
              rfl
  | selfAddressing said =>
      refine ⟨[], ?_, ?_⟩
      · intro filled buf slotted
        cases filled with
        | none => cases slotted
        | some slot =>
            rw [List.append_nil]
            exact prefix_runs said slot buf
      · intro data computed coded spelled
        cases computed with
        | none => cases coded
        | some both =>
            have digest := spelled both rfl
            refine ⟨both.1, List.append_nil _, digest.plain, ?_, ?_, digest.identifier⟩
            · exact (probe_infer _ _).mpr digest.inferred
            · intro other same
              rw [Option.some.inj same]

end Prefix

section Carried

variable (library : KeyLibrary)

def slotFields (messageType : MessageType) (said : String) (code : DigestCode) (computed : Option (String × DigestCode)) :
    List (Spanned × DigestCode) :=
  (saidSpan messageType said, code) :: (computed.map fun both => (prefixSpan messageType said both.1, both.2)).toList

def digestSaid (data : Bytes) (both : String × DigestCode) : Said := ⟨digestOf library both.2 data⟩

-- The writer leaves this text, and the reader finds the event in it.
structure EventCarried (event : KeriEvent) (form : ThresholdForm) (tail : Bytes) : Prop where
  renders : ∀ filled prefixFilled, prefixFilled.isSome = event.prefixSaidCode.isSome →
    exec (renderEvent form filled prefixFilled event) [] =
      (.ok (layoutOf event.messageType filled prefixFilled), eventText event.messageType versionZero filled prefixFilled tail)
  reads : ∀ (version data : Bytes) (said : String) (computed : Option (String × DigestCode)), computed.map Prod.snd = event.prefixSaidCode →
    DigestSpelled library event.saidCode data said → (∀ both ∈ computed, DigestSpelled library both.2 data both.1) →
      ∀ raw, raw = eventText event.messageType version (asBytes said) (computed.map fun both => asBytes both.1) tail →
        Declares .keri version raw.length →
          ∃ parsed, scanned ParsedEvent.scan raw .unlimited = .ok parsed ∧
            parsed.verifySaid library raw = verifySaidSpans library raw (slotFields event.messageType said event.saidCode computed) ∧
            buildEvent parsed =
              .ok ⟨event.reread ⟨digestOf library event.saidCode data⟩ (computed.map (digestSaid library data)), formOf form event⟩

theorem icp_verifies (parsed : ParsedIcp) (raw : Bytes) (messageType : MessageType) (said pfx : String) (code : DigestCode)
    (computed : Option (String × DigestCode)) (inferred : inferDigestCode said = .ok code)
    (probed : probeDigestCode pfx = computed.map Prod.snd) (own : ∀ both ∈ computed, both.1 = pfx) :
    ParsedIcp.verifySaid library { parsed with said := saidSpan messageType said, pfx := prefixSpan messageType said pfx } raw =
      verifySaidSpans library raw (slotFields messageType said code computed) := by
  have coded : inferDigestCode (saidSpan messageType said).value = .ok code := inferred
  have named : probeDigestCode (prefixSpan messageType said pfx).value = computed.map Prod.snd := probed
  rw [ParsedIcp.verifySaid, coded, named]
  cases computed with
  | none => rfl
  | some both =>
      have same := own both rfl
      subst same
      rfl

theorem rot_verifies (parsed : ParsedRot) (raw : Bytes) (messageType : MessageType) (said : String) (code : DigestCode)
    (inferred : inferDigestCode said = .ok code) :
    ParsedRot.verifySaid library { parsed with said := saidSpan messageType said } raw =
      verifySaidSpans library raw (slotFields messageType said code none) := by
  have coded : inferDigestCode (saidSpan messageType said).value = .ok code := inferred
  rw [ParsedRot.verifySaid, coded]
  rfl

theorem ixn_verifies (parsed : ParsedIxn) (raw : Bytes) (messageType : MessageType) (said : String) (code : DigestCode)
    (inferred : inferDigestCode said = .ok code) :
    ParsedIxn.verifySaid library { parsed with said := saidSpan messageType said } raw =
      verifySaidSpans library raw (slotFields messageType said code none) := by
  have coded : inferDigestCode (saidSpan messageType said).value = .ok code := inferred
  rw [ParsedIxn.verifySaid, coded]
  rfl

theorem scan_reads (messageType : MessageType) (version : Bytes) (said : String) (pfx : Option Bytes) (tail raw : Bytes) (parsed : ParsedEvent)
    (whole : raw = eventText messageType version (asBytes said) pfx tail) (declares : Declares .keri version raw.length)
    (plain : ∀ byte ∈ asBytes said, Plain byte)
    (body : ∀ tag front behind, Headed raw messageType said tag front behind (prefixText pfx ++ tail) →
      ∃ done, ParsedEvent.body tag front = .ok (parsed, done)) :
    scanned ParsedEvent.scan raw .unlimited = .ok parsed := by
  rw [whole] at declares
  obtain ⟨tag, front, behind, headed⟩ := headed messageType version said pfx tail declares plain
  rw [← whole] at headed
  obtain ⟨done, read⟩ := body tag front behind headed
  refine (scanned_ok _ _ _ _).mpr ⟨done, ?_⟩
  show ParsedEvent.scan (Scanner.new raw) = _
  rw [ParsedEvent.scan, scan_bind_run _ _ _ _ _ headed.head]
  exact read

theorem interaction_event (e : InteractionEvent) (form : ThresholdForm) (writable : e.Writable) :
    ∃ tail, EventCarried library (.interaction e) form tail := by
  obtain ⟨text, parsed, carried⟩ := interaction_carried e writable
  refine ⟨text ++ asBytes "\x7d", ?_, ?_⟩
  · intro filled prefixFilled slotless
    cases prefixFilled with
    | some slot => cases slotless
    | none => exact ixn_runs e filled text carried.adds
  · intro version data said computed coded spelled own raw whole declares
    cases computed with
    | some both => cases coded
    | none =>
        refine ⟨.interaction { parsed with said := saidSpan .ixn said }, ?_, ixn_verifies library parsed raw .ixn said _ spelled.inferred, ?_⟩
        · refine scan_reads .ixn version said none _ raw _ whole declares spelled.plain fun tag front behind headed => ?_
          obtain ⟨done, read⟩ := ixn_body_reads e text parsed carried headed
          refine ⟨done, ?_⟩
          have tagged : tag.value = "ixn" := headed.tagged
          simp only [ParsedEvent.body, tagged]
          rw [if_neg (by decide), if_neg (by decide), if_pos trivial, scan_bind_run _ _ _ _ _ read]
          rfl
        · rw [buildEvent, carried.builds (saidSpan .ixn said) _ spelled.said]
          rfl

theorem rotation_event (e : RotationEvent) (form : ThresholdForm) (writable : e.Writable form) :
    ∃ tail, EventCarried library (.rotation e) form tail := by
  obtain ⟨text, parsed, carried⟩ := rotation_carried e form writable
  refine ⟨text ++ asBytes "\x7d", ?_, ?_⟩
  · intro filled prefixFilled slotless
    cases prefixFilled with
    | some slot => cases slotless
    | none => exact rot_runs e form filled text .rot carried.adds
  · intro version data said computed coded spelled own raw whole declares
    cases computed with
    | some both => cases coded
    | none =>
        refine ⟨.rotation { parsed with said := saidSpan .rot said }, ?_, rot_verifies library parsed raw .rot said _ spelled.inferred, ?_⟩
        · refine scan_reads .rot version said none _ raw _ whole declares spelled.plain fun tag front behind headed => ?_
          obtain ⟨done, read⟩ := rot_body_reads e form text parsed carried headed
          refine ⟨done, ?_⟩
          have tagged : tag.value = "rot" := headed.tagged
          simp only [ParsedEvent.body, tagged]
          rw [if_neg (by decide), if_pos trivial, scan_bind_run _ _ _ _ _ read]
          rfl
        · rw [buildEvent, carried.builds (saidSpan .rot said) _ spelled.said]
          rfl

theorem delegated_rotation_event (e : DelegatedRotationEvent) (form : ThresholdForm) (writable : e.rotation.Writable form)
    (digestive : e.rotation.pfx.Digestive) : ∃ tail, EventCarried library (.delegatedRotation e) form tail := by
  obtain ⟨text, parsed, carried⟩ := rotation_carried e.rotation form writable
  refine ⟨text ++ asBytes "\x7d", ?_, ?_⟩
  · intro filled prefixFilled slotless
    cases prefixFilled with
    | some slot => cases slotless
    | none => exact rot_runs e.rotation form filled text .drt carried.adds
  · intro version data said computed coded spelled own raw whole declares
    cases computed with
    | some both => cases coded
    | none =>
        refine ⟨.delegatedRotation { parsed with said := saidSpan .drt said }, ?_, rot_verifies library parsed raw .drt said _ spelled.inferred, ?_⟩
        · refine scan_reads .drt version said none _ raw _ whole declares spelled.plain fun tag front behind headed => ?_
          obtain ⟨done, read⟩ := rot_body_reads e.rotation form text parsed carried headed
          refine ⟨done, ?_⟩
          have tagged : tag.value = "drt" := headed.tagged
          simp only [ParsedEvent.body, tagged]
          rw [if_neg (by decide), if_neg (by decide), if_neg (by decide), if_neg (by decide), if_pos trivial, scan_bind_run _ _ _ _ _ read]
          rfl
        · have again : checkDigestive (e.rotation.reread ⟨digestOf library (KeriEvent.saidCode (.delegatedRotation e)) data⟩).pfx = .ok () := digestive
          rw [buildEvent, buildDelegatedRotation, carried.builds (saidSpan .drt said) _ spelled.said, ok_bind]
          simp only [again, ok_bind]
          rfl

theorem reread_simple (threshold : SigningThreshold) (count : Fin (2 ^ 64)) : threshold.reread = .simple count ↔ threshold = .simple count := by
  cases threshold with
  | simple own => exact Iff.rfl
  | weighted own =>
      apply Iff.intro
      · intro same
        cases same
      · intro same
        cases same

theorem identity_reread (e : InceptionEvent) (said : Said) (pfx : Option Said) (coded : pfx.isSome = e.pfx.saidCode.isSome)
    (identity : e.checkIdentity = .ok ()) : (e.reread (pfx.elim e.pfx Identifier.selfAddressing) said).checkIdentity = .ok () := by
  cases pfx with
  | some own => rfl
  | none =>
      have whole : (e.anchors.map Seal.reread ≠ []) = (e.anchors ≠ []) := by rw [ne_eq, ne_eq, List.map_eq_nil_iff]
      have alone : (e.threshold.reread ≠ .simple 1) = (e.threshold ≠ .simple 1) := by rw [ne_eq, ne_eq, reread_simple]
      rw [← identity]
      simp only [InceptionEvent.checkIdentity, InceptionEvent.reread, Option.elim_none, whole, alone]

theorem icp_renders (e : InceptionEvent) (form : ThresholdForm) (text own ending filled : Bytes) (prefixFilled : Option Bytes)
    (messageType : MessageType) (delegator : Option Identifier) (adds : Adds (inceptionFields e form) (fun _ => ()) text)
    (prefixed : PrefixCarried library e.pfx own) (ends : Adds (inceptionEnd delegator) (fun _ => ()) ending)
    (slotted : prefixFilled.isSome = e.pfx.saidCode.isSome) :
    exec (renderIcp e form filled prefixFilled messageType delegator) [] =
      (.ok (layoutOf messageType filled prefixFilled), eventText messageType versionZero filled prefixFilled (own ++ (text ++ ending))) := by
  have field := prefixed.runs prefixFilled (saidFront messageType versionZero ++ (filled ++ [quote])) slotted
  have start : (saidFront messageType versionZero ++ (filled ++ [quote])).length = (saidFront messageType versionZero).length + filled.length + 1 := by
    simp only [List.length_append, List.length_singleton, Nat.add_assoc]
  rw [start] at field
  rw [icp_runs e form filled text ending prefixFilled messageType delegator adds ends (prefixText prefixFilled ++ own) field, eventText]
  simp only [List.append_assoc]

variable {library} in
theorem computed_coded {code : Option DigestCode} {data : Bytes} (computed : Option (String × DigestCode)) (coded : computed.map Prod.snd = code) :
    (computed.map (digestSaid library data)).isSome = code.isSome := by
  rw [← coded, Option.isSome_map, Option.isSome_map]

theorem inception_event (e : InceptionEvent) (form : ThresholdForm) (writable : e.Writable form) :
    ∃ tail, EventCarried library (.inception e) form tail := by
  obtain ⟨text, parsed, carried⟩ := inception_carried e form writable
  obtain ⟨own, prefixed⟩ := prefix_carried library e.pfx writable.pfx
  refine ⟨own ++ (text ++ asBytes "\x7d"), ?_, ?_⟩
  · intro filled prefixFilled slotted
    exact icp_renders library e form text own _ filled prefixFilled .icp none carried.adds prefixed end_adds slotted
  · intro version data said computed coded spelled digests raw whole declares
    obtain ⟨pfx, same, plain, probed, named, identified⟩ := prefixed.reads data computed coded digests
    refine ⟨.inception { parsed with said := saidSpan .icp said, pfx := prefixSpan .icp said pfx }, ?_,
      icp_verifies library parsed raw .icp said pfx _ computed spelled.inferred probed named, ?_⟩
    · refine scan_reads .icp version said _ _ raw _ whole declares spelled.plain fun tag front behind headed => ?_
      rw [← List.append_assoc, same] at headed
      obtain ⟨at', read, left, fits, deep⟩ := icp_fields_reads e form text _ pfx parsed carried plain headed
      obtain ⟨done, ended⟩ := body_end_reads { parsed with said := saidSpan .icp said, pfx := prefixSpan .icp said pfx } at' fits left deep
      refine ⟨done, ?_⟩
      have tagged : tag.value = "icp" := headed.tagged
      have body : ParsedIcp.body front = .ok ({ parsed with said := saidSpan .icp said, pfx := prefixSpan .icp said pfx }, done) := by
        rw [ParsedIcp.body, scan_bind_run _ _ _ _ _ read]
        exact ended
      simp only [ParsedEvent.body, tagged]
      rw [if_pos trivial, scan_bind_run _ _ _ _ _ body]
      rfl
    · have identity := identity_reread e ⟨digestOf library (KeriEvent.saidCode (.inception e)) data⟩ (computed.map (digestSaid library data))
        (computed_coded computed coded) writable.identity
      rw [buildEvent, carried.builds (saidSpan .icp said) (prefixSpan .icp said pfx) _ _ spelled.said identified identity]
      rfl

theorem digestive_reread (e : InceptionEvent) (said : Said) (pfx : Option Said) (coded : pfx.isSome = e.pfx.saidCode.isSome)
    (digestive : e.pfx.Digestive) : checkDigestive (e.reread (pfx.elim e.pfx Identifier.selfAddressing) said).pfx = .ok () := by
  cases pfx with
  | some own => rfl
  | none => exact digestive

theorem delegated_inception_event (e : DelegatedInceptionEvent) (form : ThresholdForm) (writable : e.inception.Writable form)
    (digestive : e.inception.pfx.Digestive) (made : e.delegator.Made) : ∃ tail, EventCarried library (.delegatedInception e) form tail := by
  obtain ⟨text, parsed, carried⟩ := inception_carried e.inception form writable
  obtain ⟨own, prefixed⟩ := prefix_carried library e.inception.pfx writable.pfx
  obtain ⟨delegator, delegates⟩ := carries_identifier e.delegator made "di"
  refine ⟨own ++ (text ++ (asBytes ",\"di\":" ++ stringText delegator ++ asBytes "\x7d")), ?_, ?_⟩
  · intro filled prefixFilled slotted
    exact icp_renders library e.inception form text own _ filled prefixFilled .dip (some e.delegator) carried.adds prefixed
      (delegated_end_adds e.delegator _ delegates.adds) slotted
  · intro version data said computed coded spelled digests raw whole declares
    obtain ⟨pfx, same, plain, probed, named, identified⟩ := prefixed.reads data computed coded digests
    refine ⟨.delegatedInception ⟨{ parsed with said := saidSpan .dip said, pfx := prefixSpan .dip said pfx }, delegator⟩, ?_,
      icp_verifies library parsed raw .dip said pfx _ computed spelled.inferred probed named, ?_⟩
    · refine scan_reads .dip version said _ _ raw _ whole declares spelled.plain fun tag front behind headed => ?_
      rw [← List.append_assoc, same] at headed
      obtain ⟨at', read, left, fits, deep⟩ := icp_fields_reads e.inception form text _ pfx parsed carried plain headed
      obtain ⟨at2, read2, arrives⟩ := gives_field ",\"di\":" stringValue delegator _ 1 rfl (delegates.gives 1) at' _ fits left deep
      obtain ⟨done, ended⟩ := body_end_reads
        (⟨{ parsed with said := saidSpan .dip said, pfx := prefixSpan .dip said pfx }, delegator⟩ : ParsedDip) at2 arrives.fits
        (took_left _ _ _ _ arrives.took left) arrives.depth
      refine ⟨done, ?_⟩
      have tagged : tag.value = "dip" := headed.tagged
      have body : ParsedDip.body front =
          .ok (⟨{ parsed with said := saidSpan .dip said, pfx := prefixSpan .dip said pfx }, delegator⟩, done) := by
        rw [ParsedDip.body, scan_bind_run _ _ _ _ _ read, scan_bind_run _ _ _ _ _ read2]
        exact ended
      simp only [ParsedEvent.body, tagged]
      rw [if_neg (by decide), if_neg (by decide), if_neg (by decide), if_pos trivial, scan_bind_run _ _ _ _ _ body]
      rfl
    · have matched := @computed_coded library _ data computed coded
      have identity := identity_reread e.inception ⟨digestOf library (KeriEvent.saidCode (.delegatedInception e)) data⟩
        (computed.map (digestSaid library data)) matched writable.identity
      have again := digestive_reread e.inception ⟨digestOf library (KeriEvent.saidCode (.delegatedInception e)) data⟩
        (computed.map (digestSaid library data)) matched digestive
      have built : buildInception { parsed with said := saidSpan .dip said, pfx := prefixSpan .dip said pfx } = .ok
          ⟨e.inception.reread ((computed.map (digestSaid library data)).elim e.inception.pfx Identifier.selfAddressing)
            ⟨digestOf library (KeriEvent.saidCode (.delegatedInception e)) data⟩, form⟩ :=
        carried.builds (saidSpan .dip said) (prefixSpan .dip said pfx) _ _ spelled.said identified identity
      have known : decode (identifierFromWire "di" delegator) = .ok e.delegator := by
        rw [delegates.lifts]
        rfl
      simp only [buildEvent, buildDelegatedInception, built, again, known, ok_bind]
      rfl

theorem event_carried (event : KeriEvent) (form : ThresholdForm) (writable : event.Writable form) :
    ∃ tail, EventCarried library event form tail := by
  cases event with
  | inception e => exact inception_event library e form writable
  | rotation e => exact rotation_event library e form writable
  | interaction e => exact interaction_event library e form writable
  | delegatedInception e => exact delegated_inception_event library e form writable.1 writable.2.1 writable.2.2
  | delegatedRotation e => exact delegated_rotation_event library e form writable.1 writable.2

end Carried

end Codec

end Cesr
