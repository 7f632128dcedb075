import Cesr.Codec.RoutedScan

set_option autoImplicit false

namespace Cesr.Codec

open Checks Calls WriterJson Scanner JsonTally

section Metered

theorem routed_scan_priced : Priced False .outside .outside ParsedRouted.scan := by
  have kind : ∀ tag, Priced False .outside .outside (routedKind tag) := fun tag =>
    priced_get _ (fun _ => rfl) fun sc => meets_ite _ _ _ sc (fun _ => priced_pure _ sc) fun _ =>
      meets_ite _ _ _ sc (fun _ => priced_pure _ sc) fun _ => priced_reject _ rfl sc
  have object : ∀ lit, Fair .outside .outside lit → Priced False .outside .outside (field lit objectValueSpan) :=
    fun lit fair => field_priced _ lit fair object_value_span_priced
  refine priced_bind _ _ event_head_priced fun tag => priced_bind _ _ (kind tag) fun kind => ?_
  refine priced_bind _ _ (text_priced ",\"d\":" ⟨rfl, rfl⟩) fun said => priced_bind _ _ (text_priced ",\"dt\":" ⟨rfl, rfl⟩) fun datetime => ?_
  refine priced_bind _ _ (text_priced ",\"r\":" ⟨rfl, rfl⟩) fun route => priced_bind _ _ (priced_ite _ _ _ ?_ (priced_pure none)) fun _ => ?_
  · exact priced_bind _ _ (text_priced ",\"rr\":" ⟨rfl, rfl⟩) fun _ => priced_pure _
  · exact priced_bind _ _ (priced_ite _ _ _ (object ",\"q\":" ⟨rfl, rfl⟩) (object ",\"a\":" ⟨rfl, rfl⟩)) fun _ => body_end_priced _

theorem routed_scan_finishes : Finishes ParsedRouted.scan := by
  iterate 7 refine finishes_bind _ _ fun _ => ?_
  exact body_end_finishes _

theorem routed_metered (library : KeyLibrary) : Metered (RoutedBody.parse library) :=
  finished_metered _ (liftRouted library) routed_scan_priced routed_scan_finishes

end Metered

section Text

theorem marks_swap (front old new behind : Bytes) (outside : ends .outside front = .outside) (silent : Silent .outside .outside old)
    (silent' : Silent .outside .outside new) : marks .outside (front ++ (old ++ behind)) = marks .outside (front ++ (new ++ behind)) := by
  rw [marks_append, marks_append _ front, outside, marks_append, marks_append _ new, silent.ends, silent'.ends, silent.marks, silent'.marks]

theorem plainly_silent (text : Bytes) (plain : Plainly text) : Silent .outside .outside (quoted text) := by
  obtain ⟨_, _, raw⟩ := plain
  have inside := silent_text text [] (fun byte inside => (raw byte inside).2) (silent_nil _)
  rw [List.append_nil] at inside
  exact silent_quoted _ inside

theorem members_marks (fields : RoutedFields) (version said version' said' : Bytes) (numbered : Plainly version) (digest : Plainly said)
    (numbered' : Plainly version') (digest' : Plainly said') :
    marks .outside (objectText (fields.members version said)) = marks .outside (objectText (fields.members version' said')) := by
  have coded : Plainly (asBytes fields.kind.code) := ⟨fields.kind.code, rfl, routed_code_plain fields⟩
  have versions := marks_swap (asBytes "\x7b\"v\":") (quoted version) (quoted version')
    (asBytes ",\"t\":" ++ quoted (asBytes fields.kind.code) ++ (asBytes ",\"d\":" ++ quoted said) ++
      (asBytes ",\"dt\":" ++ quoted (asBytes fields.datetime)) ++ (asBytes ",\"r\":" ++ quoted (asBytes fields.route)) ++
        fields.tailText ++ asBytes "\x7d") rfl (plainly_silent _ numbered) (plainly_silent _ numbered')
  have front : ends .outside (asBytes "\x7b\"v\":" ++ quoted version' ++ (asBytes ",\"t\":" ++ quoted (asBytes fields.kind.code)) ++
      asBytes ",\"d\":") = .outside := by
    have opening : ends .outside (asBytes "\x7b\"v\":") = .outside := rfl
    have named : ends .outside (asBytes ",\"t\":") = .outside := rfl
    rw [ends_append, ends_append, ends_append, ends_append, opening, (plainly_silent _ numbered').ends, named, (plainly_silent _ coded).ends]
    rfl
  have saids := marks_swap _ (quoted said) (quoted said')
    ((asBytes ",\"dt\":" ++ quoted (asBytes fields.datetime)) ++ (asBytes ",\"r\":" ++ quoted (asBytes fields.route)) ++
        fields.tailText ++ asBytes "\x7d") front (plainly_silent _ digest) (plainly_silent _ digest')
  rw [RoutedFields.members_text, RoutedFields.members_text]
  simp only [List.append_assoc] at versions saids ⊢
  exact versions.trans saids

end Text

namespace RoutedFields

def slot : Bytes := List.replicate (saidWidth .blake3_256) dummyByte

def template (fields : RoutedFields) : Bytes :=
  RoutedBody.template (fields.kind, fields.replyRoute) slot fields.datetime fields.route fields.payload

theorem template_text (fields : RoutedFields) : fields.template = objectText (fields.members VersionString.keriJsonV1.toStr slot) := by
  have v : asBytes "\x7b\"v\":\"" = asBytes "\x7b\"v\":" ++ [quote] := rfl
  have t : asBytes "\",\"t\":\"" = quote :: (asBytes ",\"t\":" ++ [quote]) := rfl
  have d : asBytes "\",\"d\":\"" = quote :: (asBytes ",\"d\":" ++ [quote]) := rfl
  have dt : asBytes "\",\"dt\":\"" = quote :: (asBytes ",\"dt\":" ++ [quote]) := rfl
  have r : asBytes "\",\"r\":\"" = quote :: (asBytes ",\"r\":" ++ [quote]) := rfl
  have rr : asBytes ",\"rr\":\"" = asBytes ",\"rr\":" ++ [quote] := rfl
  have q : asBytes "\",\"q\":" = quote :: asBytes ",\"q\":" := rfl
  have closing : asBytes "\"" = [quote] := rfl
  rw [members_text, template, RoutedBody.template, tailText]
  cases fields.replyRoute with
  | none =>
      simp only [RoutedBody.suffix, as_bytes_append, v, t, d, dt, r, closing, quoted, List.append_assoc, List.cons_append, List.nil_append]
  | some replyRoute =>
      simp only [RoutedBody.suffix, as_bytes_append, v, t, d, dt, r, rr, q, closing, quoted, List.append_assoc, List.cons_append, List.nil_append]

-- Strings that end where the writer puts their quotes.
structure Unquoted (fields : RoutedFields) : Prop where
  datetime : quote ∉ asBytes fields.datetime
  route : quote ∉ asBytes fields.route
  replyRoute : ∀ replyRoute, fields.replyRoute = some replyRoute → quote ∉ asBytes replyRoute

theorem spelled_unquoted (fields : RoutedFields) (spelled : Spelled fields) : Unquoted fields := by
  have plain : ∀ text : Bytes, (∀ byte ∈ text, Plain byte) → quote ∉ text := fun text all inside => (all quote inside).2.1 rfl
  exact ⟨plain _ spelled.datetime, plain _ spelled.route, fun replyRoute same => plain _ (spelled.replyRoute replyRoute same)⟩

end RoutedFields

theorem quoted_unquoted (first second rest rest' : Bytes) (left : quote ∉ first) (right : quote ∉ second)
    (same : quoted first ++ rest = quoted second ++ rest') : first = second ∧ rest = rest' := by
  have inner : first ++ quote :: rest = second ++ quote :: rest' := by
    have behind := (List.cons.inj same).2
    simp only [List.append_eq, List.append_assoc, List.cons_append, List.nil_append] at behind
    exact behind
  clear same
  induction first generalizing second with
  | nil =>
      cases second with
      | nil => exact ⟨rfl, (List.cons.inj inner).2⟩
      | cons byte others => exact absurd (by rw [(List.cons.inj inner).1]; exact List.mem_cons_self) right
  | cons byte others ih =>
      cases second with
      | nil => exact absurd (by rw [← (List.cons.inj inner).1]; exact List.mem_cons_self) left
      | cons byte' others' =>
          obtain ⟨head, later⟩ := List.cons.inj inner
          have rest := ih others' (fun inside => left (List.mem_cons_of_mem _ inside)) (fun inside => right (List.mem_cons_of_mem _ inside)) later
          exact ⟨by rw [head, rest.1], rest.2⟩

theorem routed_code_once (first second : RoutedFields) (same : asBytes first.kind.code = asBytes second.kind.code) :
    first.replyRoute.isSome = second.replyRoute.isSome := by
  have coded := as_bytes_injective same
  rw [RoutedFields.kind, RoutedFields.kind] at coded
  cases one : first.replyRoute.isSome with
  | false =>
      cases other : second.replyRoute.isSome with
      | false => rfl
      | true =>
          rw [one, other] at coded
          exact absurd coded (by decide)
  | true =>
      cases other : second.replyRoute.isSome with
      | false =>
          rw [one, other] at coded
          exact absurd coded (by decide)
      | true => rfl

theorem template_once (first second : RoutedFields) (left : RoutedFields.Unquoted first) (right : RoutedFields.Unquoted second)
    (same : first.template = second.template) : first = second := by
  have plain : ∀ fields : RoutedFields, Content Utf8 (asBytes fields.kind.code) := fun fields => plain_content _ (routed_code_plain fields)
  rw [RoutedFields.template_text, RoutedFields.template_text, RoutedFields.members_text, RoutedFields.members_text] at same
  simp only [List.append_assoc] at same
  have types := List.append_cancel_left (List.append_cancel_left (List.append_cancel_left same))
  obtain ⟨codes, behind⟩ := quoted_once _ _ _ _ (plain first) (plain second) types
  have datetimes := List.append_cancel_left (List.append_cancel_left (List.append_cancel_left behind))
  obtain ⟨datetime, behind⟩ := quoted_unquoted _ _ _ _ left.datetime right.datetime datetimes
  obtain ⟨route, tails⟩ := quoted_unquoted _ _ _ _ left.route right.route (List.append_cancel_left behind)
  have shapes := routed_code_once first second codes
  cases first with
  | mk datetime1 route1 reply1 payload1 =>
      cases second with
      | mk datetime2 route2 reply2 payload2 =>
          have datetime' : datetime1 = datetime2 := as_bytes_injective datetime
          have route' : route1 = route2 := as_bytes_injective route
          rw [datetime', route']
          cases reply1 with
          | none =>
              cases reply2 with
              | none =>
                  have payloads : asBytes payload1 = asBytes payload2 := List.append_cancel_left (List.append_cancel_right tails)
                  rw [as_bytes_injective payloads]
              | some other => cases shapes
          | some reply =>
              cases reply2 with
              | none => cases shapes
              | some other =>
                  simp only [RoutedFields.tailText, List.append_assoc] at tails
                  obtain ⟨replies, behind⟩ := quoted_unquoted _ _ _ _ (left.replyRoute _ rfl) (right.replyRoute _ rfl)
                    (List.append_cancel_left tails)
                  have payloads : asBytes payload1 = asBytes payload2 := List.append_cancel_right (List.append_cancel_left behind)
                  rw [as_bytes_injective payloads, as_bytes_injective replies]

def routedCodes : SadCodes := ⟨[("d", .blake3_256)], by decide, by decide⟩

section Members

variable (change : Bytes → Option (Bytes → Bytes))

def Outer : Prop := ∀ key, key ≠ asBytes "v" → key ≠ asBytes "d" → change key = none

theorem outer_kept (outer : Outer change) (member : Member) (version : member.1 ≠ asBytes "v") (said : member.1 ≠ asBytes "d") :
    rewrite change member = member := by
  rw [rewrite, outer member.1 version said]

theorem tail_apart (fields : RoutedFields) : ∀ member ∈ fields.tail, member.1 ≠ asBytes "v" ∧ member.1 ≠ asBytes "d" := by
  rw [RoutedFields.tail]
  cases fields.replyRoute with
  | none =>
      intro member inside
      rw [List.mem_singleton.mp inside]
      exact ⟨by simp only; decide, by simp only; decide⟩
  | some replyRoute =>
      intro member inside
      rcases List.mem_cons.mp inside with same | inside
      · rw [same]
        exact ⟨by simp only; decide, by simp only; decide⟩
      · rw [List.mem_singleton.mp inside]
        exact ⟨by simp only; decide, by simp only; decide⟩

def RoutedFields.behind (fields : RoutedFields) : List Member :=
  (asBytes "dt", quoted (asBytes fields.datetime)) :: (asBytes "r", quoted (asBytes fields.route)) :: fields.tail

theorem behind_apart (fields : RoutedFields) : ∀ member ∈ fields.behind, member.1 ≠ asBytes "v" ∧ member.1 ≠ asBytes "d" := by
  intro member inside
  rcases List.mem_cons.mp inside with same | inside
  · rw [same]
    exact ⟨by simp only; decide, by simp only; decide⟩
  · rcases List.mem_cons.mp inside with same | inside
    · rw [same]
      exact ⟨by simp only; decide, by simp only; decide⟩
    · exact tail_apart fields member inside

theorem outer_members (outer : Outer change) (fields : RoutedFields) (version said : Bytes) :
    (fields.members version said).map (rewrite change) =
      fields.members (slotEdit change (asBytes "v") version) (slotEdit change (asBytes "d") said) := by
  have kept : fields.behind.map (rewrite change) = fields.behind := by
    conv_rhs => rw [← List.map_id fields.behind]
    exact List.map_congr_left fun member inside =>
      outer_kept change outer member (behind_apart fields member inside).1 (behind_apart fields member inside).2
  show rewrite change _ :: rewrite change _ :: rewrite change _ :: fields.behind.map (rewrite change) = _
  rw [rewrite_string, outer_kept change outer _ (by simp only; decide) (by simp only; decide), rewrite_string, kept]
  rfl

theorem outer_inverse (outer : Outer change) (fields : RoutedFields) (version said : Bytes) (members : List Member)
    (strings : ∀ member ∈ members, member.1 = asBytes "v" ∨ member.1 = asBytes "d" → ∃ text, member.2 = quoted text)
    (same : members.map (rewrite change) = fields.members version said) :
    ∃ version' said', members = fields.members version' said' := by
  obtain ⟨first, rest1, split1, first', same1⟩ := List.map_eq_cons_iff.mp same
  obtain ⟨second, rest2, split2, second', same2⟩ := List.map_eq_cons_iff.mp same1
  obtain ⟨third, rest3, split3, third', same3⟩ := List.map_eq_cons_iff.mp same2
  have named : ∀ member key value, rewrite change member = (key, value) → member.1 = key := by
    intro member key value changed
    rw [← rewrite_key change member, changed]
  have key1 := named _ _ _ first'
  have key2 := named _ _ _ second'
  have key3 := named _ _ _ third'
  rw [split3] at split2
  rw [split2] at split1
  obtain ⟨version', value1⟩ := strings first (by rw [split1]; simp) (.inl key1)
  obtain ⟨said', value3⟩ := strings third (by rw [split1]; simp) (.inr key3)
  have kept2 : second = (asBytes "t", quoted (asBytes fields.kind.code)) := by
    rw [← second', outer_kept change outer second (by rw [key2]; decide) (by rw [key2]; decide)]
  have kept3 : rest3 = fields.behind := by
    have still : rest3.map (rewrite change) = rest3 := by
      conv_rhs => rw [← List.map_id rest3]
      apply List.map_congr_left
      intro member inside
      have listed : rewrite change member ∈ fields.behind := by
        have mapped := List.mem_map_of_mem (f := rewrite change) inside
        rw [same3] at mapped
        exact mapped
      have apart := behind_apart fields _ listed
      rw [rewrite_key] at apart
      exact outer_kept change outer member apart.1 apart.2
    rw [← still]
    exact same3
  refine ⟨version', said', ?_⟩
  rw [split1, kept2, kept3, show first = (asBytes "v", quoted version') from Prod.ext key1 value1,
    show third = (asBytes "d", quoted said') from Prod.ext key3 value3]
  rfl

end Members

theorem size_outer (size : Nat) : Outer (sizeChange size) := by
  intro key version _
  rw [sizeChange]
  exact if_neg version

theorem slot_outer (edit : DigestCode → Bytes → Bytes) : Outer (slotChange routedCodes edit) := by
  intro key _ said
  have other : ¬ asBytes "d" = key := fun same => said same.symm
  simp only [slotChange, slotCode, routedCodes, List.find?_cons, decide_eq_false other, List.find?_nil, Option.map_none]

section Written

variable (library : KeyLibrary)

def RoutedFields.write (fields : RoutedFields) (limits : JsonLimits) : Except CodecError Bytes :=
  match fields.replyRoute with
  | none => RoutedBody.writeReply library fields.datetime fields.route fields.payload limits
  | some replyRoute => RoutedBody.writeQuery library fields.datetime fields.route replyRoute fields.payload limits

-- The writer knows no more of the fields than the text they make.
def writeText (text : Bytes) (limits : JsonLimits) : Except CodecError Bytes := do
  let raw ← consume (do let _ ← routedCodes.saidify library) text
  let _ ← RoutedBody.parse library raw (.ofLimits limits)
  pure raw

theorem write_text (fields : RoutedFields) (limits : JsonLimits) : fields.write library limits = writeText library fields.template limits := by
  have filled := placeholder_ok .blake3_256
  have written : ∀ shape, RoutedBody.write library shape fields.datetime fields.route fields.payload limits =
      writeText library (RoutedBody.template shape RoutedFields.slot fields.datetime fields.route fields.payload) limits := by
    intro shape
    rw [RoutedBody.write, filled]
    rfl
  rw [RoutedFields.write, RoutedFields.template, RoutedFields.kind]
  cases fields.replyRoute with
  | none => exact written _
  | some replyRoute => exact written _

theorem saidify_written (fixed : FixedLength library) (text raw : Bytes) :
    consume (do let _ ← routedCodes.saidify library) text = .ok raw ↔
      ∃ members, text = objectText members ∧ Ready routedCodes members ∧ raw = objectText (saidified library routedCodes members) := by
  have distinct : (routedCodes.slots.map Prod.fst).Nodup := List.nodup_singleton _
  have ran : ∀ members, Ready routedCodes members →
      consume (do let _ ← routedCodes.saidify library) (objectText members) = .ok (objectText (saidified library routedCodes members)) := by
    intro members ready
    rw [consume, exec_runs _ _ _ _ _ (saidify_runs library routedCodes fixed distinct members ready)]
    rfl
  apply Iff.intro
  · intro done
    rcases saidify_refuses library routedCodes distinct text with ⟨members, same, ready⟩ | ⟨error, refused⟩
    · rw [same, ran members ready] at done
      exact ⟨members, same, ready, (Except.ok.inj done).symm⟩
    · rw [consume, exec_stops _ _ _ _ _ refused] at done
      cases done
  · intro found
    obtain ⟨members, same, ready, same'⟩ := found
    rw [same, ran members ready, same']

theorem said_read (fixed : FixedLength library) (code : DigestCode) (data : Bytes) :
    ∃ text : String, saidBytes library code data = asBytes text ∧ (∀ byte ∈ asBytes text, Plain byte) ∧ inferDigestCode text = .ok code ∧
      saidFromWire "d" text = .ok ⟨digestOf library code data⟩ := by
  obtain ⟨text, shown, made, _, plain⟩ := said_text library fixed code data
  obtain ⟨bytes, _, encoded, _, read, _⟩ := digest_text library fixed code data
  have spelled : asBytes text = bytes := by
    rw [saidText, Matter.toQb64, encoded, Option.bind_some] at shown
    cases decoded : fromUtf8 bytes with
    | none =>
        rw [decoded] at shown
        cases shown
    | some given =>
        rw [decoded] at shown
        rw [← Except.ok.inj shown]
        exact (from_utf8_some _ _).mp decoded
  obtain ⟨payload, buf, reads⟩ := (from_qualified_base64_ok _ _).mp read
  obtain ⟨rest, framed⟩ := reads.framed
  have coded : MatterCode.fromBase64Stream bytes = .ok code.toMatterCode := by
    refine (from_base64_stream_ok _ _).mpr ⟨?_, ?_⟩
    · exact List.replicate code.toMatterCode.getSizage.xs padChar ++ asBytes "" ++ payload ++ rest
    · rw [framed]
      simp only [Matter.header, List.append_assoc]
      rfl
  have known : DigestCode.tryFrom code.toMatterCode = .ok code := by
    cases code with
    | _ => rfl
  refine ⟨text, ?_, plain, ?_, ?_⟩
  · rw [saidBytes, made]
    rfl
  · rw [inferDigestCode, spelled, coded]
    simp only [map_error_ok, bind_ok]
    exact ⟨_, rfl, known⟩
  · have widened : (digestOf library code data).widen = ⟨code.toMatterCode, library.hash code data, ""⟩ := rfl
    rw [widened] at read
    rw [saidFromWire, matterFromWire, spelled, read]
    show (((DigestCode.tryFrom code.toMatterCode).mapError _ >>= _).map _ : Except DeserializeError Said) = _
    rw [known]
    rfl

end Written

section Ready

theorem version_zero : VersionText VersionString.keriJsonV1.toStr ⟨.keri, 1, 0, .json, 0⟩ :=
  ⟨by decide, by decide, rfl⟩

theorem plainly_zero : Plainly VersionString.keriJsonV1.toStr := by
  have ascii := version_ascii _ _ version_zero
  exact ⟨asciiText _, (as_bytes_ascii_text _ fun byte inside => (ascii byte inside).2).symm, fun byte inside => (ascii byte inside).1⟩

theorem plainly_slot : Plainly RoutedFields.slot := by
  refine ⟨"############################################", by decide +kernel, fun byte inside => ?_⟩
  rw [List.eq_of_mem_replicate inside]
  decide

theorem plainly_value (text : Bytes) (plain : Plainly text) : Spells Utf8 .value (quoted text) := by
  obtain ⟨given, rfl, raw⟩ := plain
  exact plain_value given raw

theorem members_keys (fields : RoutedFields) (version said : Bytes) :
    ∃ labels : List String, (fields.members version said).map Prod.fst = labels.map asBytes ∧ labels.Nodup ∧
      ∀ label ∈ labels, ∀ byte ∈ asBytes label, Plain byte := by
  rw [RoutedFields.members, RoutedFields.tail]
  cases fields.replyRoute with
  | none => exact ⟨["v", "t", "d", "dt", "r", "a"], rfl, by decide, plain_labels _ (by decide +kernel)⟩
  | some replyRoute => exact ⟨["v", "t", "d", "dt", "r", "rr", "q"], rfl, by decide, plain_labels _ (by decide +kernel)⟩

theorem tail_values (fields : RoutedFields) (spelled : RoutedFields.Spelled fields) : ∀ member ∈ fields.tail, Spells Utf8 .value member.2 := by
  obtain ⟨members, same, object⟩ := spelled.payload
  have payload : Spells Utf8 .value (asBytes fields.payload) := by
    rw [same]
    exact object_spells Utf8 members object
  rw [RoutedFields.tail]
  cases named : fields.replyRoute with
  | none =>
      intro member inside
      rw [List.mem_singleton.mp inside]
      exact payload
  | some replyRoute =>
      intro member inside
      rcases List.mem_cons.mp inside with same' | inside
      · rw [same']
        exact plain_value replyRoute (spelled.replyRoute _ named)
      · rw [List.mem_singleton.mp inside]
        exact payload

theorem routed_object (fields : RoutedFields) (spelled : RoutedFields.Spelled fields) (version said : Bytes) (numbered : Plainly version)
    (digest : Plainly said) : Object Utf8 (fields.members version said) := by
  obtain ⟨labels, keys, distinct, plain⟩ := members_keys fields version said
  refine ⟨?_, ?_, ?_⟩
  · intro member inside
    have key := List.mem_map_of_mem (f := Prod.fst) inside
    rw [keys] at key
    obtain ⟨label, listed, same⟩ := List.mem_map.mp key
    rw [← same]
    exact plain_content label (plain label listed)
  · rw [keys]
    exact distinct.map as_bytes_injective
  · refine List.forall_mem_cons.mpr ⟨plainly_value _ numbered, List.forall_mem_cons.mpr ⟨?_, List.forall_mem_cons.mpr ⟨plainly_value _ digest, ?_⟩⟩⟩
    · exact plain_value _ (routed_code_plain fields)
    · exact List.forall_mem_cons.mpr ⟨plain_value _ spelled.datetime, List.forall_mem_cons.mpr ⟨plain_value _ spelled.route,
        tail_values fields spelled⟩⟩

theorem routed_ready (fields : RoutedFields) (spelled : RoutedFields.Spelled fields) (small : fields.template.length ≤ versionSizeMax) :
    Ready routedCodes (fields.members VersionString.keriJsonV1.toStr RoutedFields.slot) := by
  have object := routed_object fields spelled _ _ plainly_zero plainly_slot
  rw [RoutedFields.template_text] at small
  refine ⟨object, ?_, ?_⟩
  · intro slot inside
    rw [List.mem_singleton.mp inside]
    refine ⟨RoutedFields.slot, ?_, plainly_slot, List.length_replicate⟩
    exact List.mem_cons_of_mem _ (List.mem_cons_of_mem _ List.mem_cons_self)
  · intro value inside
    have first : (asBytes versionLabel, quoted VersionString.keriJsonV1.toStr) ∈
        fields.members VersionString.keriJsonV1.toStr RoutedFields.slot := List.mem_cons_self
    have same := congrArg Prod.snd (List.inj_on_of_nodup_map object.distinct inside first rfl)
    obtain ⟨text, spelled', _⟩ := plainly_zero
    refine ⟨⟨text, _, by rw [← spelled']; exact same, by rw [← spelled']; exact version_zero⟩, small⟩

end Ready

section Reads

variable (library : KeyLibrary)

def patched (size : Nat) : Bytes :=
  VersionString.keriJsonV1.toStr.take 10 ++ hexSize size ++ VersionString.keriJsonV1.toStr.drop 16

theorem patched_shape (size : Nat) (small : size ≤ versionSizeMax) : VersionText (patched size) ⟨.keri, 1, 0, .json, size⟩ :=
  version_sized _ _ size version_zero small

theorem patched_plainly (size : Nat) (small : size ≤ versionSizeMax) : Plainly (patched size) := by
  have ascii := version_ascii _ _ (patched_shape size small)
  exact ⟨asciiText _, (as_bytes_ascii_text _ fun byte inside => (ascii byte inside).2).symm, fun byte inside => (ascii byte inside).1⟩

theorem first_version_only (behind : Bytes) : (VersionStringV2.parse (asBytes "KERI10JSON" ++ behind)).isOk = false := by
  cases parsed : VersionStringV2.parse (asBytes "KERI10JSON" ++ behind) with
  | error error => rfl
  | ok version =>
      simp only [VersionStringV2.parse, splitFrame, VersionStringV2.parseFrame, bind_ok, reject_if_ok, exists_done, pure_ok] at parsed
      obtain ⟨frame, ⟨_, framed⟩, _, _, major, read, known, _⟩ := parsed
      have digit : frameField frame 4 1 = [0x31] := by
        rw [← framed]
        rfl
      have value : decodeB64Field 8 [0x31] "proto_major" = .ok 53 := by decide +kernel
      rw [digit, value] at read
      rw [← Except.ok.inj read] at known
      exact absurd (not_not.mp known) (by decide)

theorem routed_json (fields : RoutedFields) (size : Nat) (said : Bytes) : checkJsonBody (objectText (fields.members (patched size) said)) = .ok () := by
  have front : patched size = asBytes "KERI10JSON" ++ (hexSize size ++ VersionString.keriJsonV1.toStr.drop 16) := by
    rw [patched, List.append_assoc]
    rfl
  have text := fields.members_text (patched size) said
  have opens : asBytes "\x7b\"v\":" ++ [quote] = asBytes "\x7b\"v\":\"" := rfl
  have behind : ∃ rest, objectText (fields.members (patched size) said) = asBytes "\x7b\"v\":\"" ++ (asBytes "KERI10JSON" ++ rest) := by
    rw [text, quoted, front]
    exact ⟨_, by simp only [← opens, List.append_assoc, List.cons_append, List.nil_append]; rfl⟩
  obtain ⟨rest, same⟩ := behind
  have later : (asBytes "\x7b\"v\":\"" ++ (asBytes "KERI10JSON" ++ rest)).drop 6 = asBytes "KERI10JSON" ++ rest := rfl
  have head : (asBytes "\x7b\"v\":\"" ++ (asBytes "KERI10JSON" ++ rest)).head? = some 0x7B := rfl
  have json : (Stream.ColdCode.detect 0x7B).toOption = some .json := by decide
  rw [same, checkJsonBody, head, Option.bind_some, json, later]
  simp only
  refine (reject_if_ok _ _ _).mpr fun both => ?_
  rw [first_version_only rest] at both
  cases both.2

theorem written_members (fields : RoutedFields) :
    ∃ data, saidified library routedCodes (fields.members VersionString.keriJsonV1.toStr RoutedFields.slot) =
      fields.members (patched fields.template.length) (saidBytes library .blake3_256 data) := by
  have known : slotCode routedCodes (asBytes "d") = some .blake3_256 := by decide
  have other : slotCode routedCodes (asBytes "v") = none := by decide
  have apart : asBytes "d" ≠ asBytes versionLabel := by decide
  refine ⟨objectText (dummied routedCodes (sized (fields.members VersionString.keriJsonV1.toStr RoutedFields.slot))), ?_⟩
  rw [saidified]
  generalize objectText (dummied routedCodes (sized (fields.members VersionString.keriJsonV1.toStr RoutedFields.slot))) = data
  rw [sized, outer_members _ (size_outer _), outer_members _ (slot_outer _), size_edit_other _ _ _ apart,
    ← RoutedFields.template_text]
  have version := size_edit_version fields.template.length VersionString.keriJsonV1.toStr
  have label : asBytes versionLabel = asBytes "v" := rfl
  rw [label] at version
  rw [version, slotEdit, slotChange, other, slotEdit, slotChange, known]
  rfl

-- A body that says what the fields say, under a said that is the digest of its text.
structure Conveys (fields : RoutedFields) (raw : Bytes) (body : RoutedBody) : Prop where
  kind : body.kind = fields.kind
  datetime : body.datetime = fields.datetime
  route : body.route = fields.route
  replyRoute : body.replyRoute = fields.replyRoute
  payload : body.payload = fields.payload
  said : ∃ members, raw = objectText members ∧ Verified library routedCodes members ∧
    body.said = ⟨digestOf library .blake3_256 (objectText (dummied routedCodes members))⟩

structure Admitted (limits : JsonLimits) (fields : RoutedFields) : Prop where
  size : fields.template.length ≤ versionSizeMax
  members : members fields.template ≤ limits.maxFields
  depth : deepest fields.template ≤ limits.maxDepth

theorem template_tally (fields : RoutedFields) (version said : Bytes) (numbered : Plainly version) (digest : Plainly said) :
    members (objectText (fields.members version said)) = members fields.template ∧
      deepest (objectText (fields.members version said)) = deepest fields.template := by
  have same := members_marks fields version said _ _ numbered digest plainly_zero plainly_slot
  rw [← RoutedFields.template_text] at same
  rw [members, deepest, same]
  exact ⟨rfl, rfl⟩

theorem routed_codes_distinct : (routedCodes.slots.map Prod.fst).Nodup := List.nodup_singleton _

theorem verified_reads (fixed : FixedLength library) (fields : RoutedFields) (spelled : RoutedFields.Spelled fields) (size : Nat) (said : Bytes)
    (small : size ≤ versionSizeMax) (whole : (objectText (fields.members (patched size) said)).length = size)
    (verified : Verified library routedCodes (fields.members (patched size) said)) :
    Plainly said ∧ ∃ body, RoutedBody.parse library (objectText (fields.members (patched size) said)) .unlimited = .ok body ∧
      Conveys library fields (objectText (fields.members (patched size) said)) body := by
  obtain ⟨text, carried, plain, inferred, lifted⟩ :=
    said_read library fixed .blake3_256 (objectText (dummied routedCodes (fields.members (patched size) said)))
  have held := verified.saids ("d", .blake3_256) List.mem_cons_self
  have listed : Holds (fields.members (patched size) said) "d" said := List.mem_cons_of_mem _ (List.mem_cons_of_mem _ List.mem_cons_self)
  have same : said = asBytes text := (holds_once _ verified.object.distinct "d" _ _ listed held).trans carried
  have declares : Declares .keri (patched size) (objectText (fields.members (patched size) (asBytes text))).length := by
    rw [← same, whole]
    exact ⟨(patched_shape size small).1, (patched_shape size small).2.1⟩
  obtain ⟨done, read⟩ := routed_reads fields spelled (patched size) text plain declares
  rw [← same] at read
  have decoded : payloadText (asBytes fields.payload) = .ok fields.payload := by
    rw [payloadText, (from_utf8_some (asBytes fields.payload) fields.payload).mpr rfl]
  have checked := (verify_ok library routedCodes fixed routed_codes_distinct _ _).mpr ⟨_, rfl, verified, rfl⟩
  refine ⟨⟨text, same, by rw [same]; exact plain⟩, ⟨fields.kind, ⟨digestOf library .blake3_256 (objectText (dummied routedCodes
    (fields.members (patched size) said)))⟩, fields.datetime, fields.route, fields.replyRoute, fields.payload⟩, ?_,
      rfl, rfl, rfl, rfl, rfl, _, rfl, verified, rfl⟩
  have scanned' := (scanned_ok ParsedRouted.scan (objectText (fields.members (patched size) said)) .unlimited (fields.parsed text)).mpr ⟨done, read⟩
  rw [RoutedBody.parse, routed_json, ok_bind, scanned', ok_bind, liftRouted]
  simp only [RoutedFields.parsed, decoded, inferred, decode, lifted, ok_bind]
  show (routedCodes.verify library _ >>= _ : Except CodecError RoutedBody) = _
  rw [checked]
  rfl

theorem spelled_written (fixed : FixedLength library) (limits : JsonLimits) (fields : RoutedFields) (spelled : RoutedFields.Spelled fields)
    (admitted : Admitted limits fields) :
    ∃ raw body, fields.write library limits = .ok raw ∧ RoutedBody.parse library raw (.ofLimits limits) = .ok body ∧
      Conveys library fields raw body := by
  have ready := routed_ready fields spelled admitted.size
  obtain ⟨_, verified, _, long, _⟩ := saidified_ready library routedCodes fixed routed_codes_distinct _ ready
  obtain ⟨data, form⟩ := written_members library fields
  rw [form] at verified long
  rw [← RoutedFields.template_text] at long
  obtain ⟨plain, body, read, conveys⟩ := verified_reads library fixed fields spelled _ _ admitted.size long verified
  obtain ⟨fewer, lower⟩ := template_tally fields _ _ (patched_plainly _ admitted.size) plain
  have parsed := (routed_metered library _ limits body).mpr ⟨read, by rw [fewer]; exact admitted.members, by rw [lower]; exact admitted.depth⟩
  refine ⟨_, body, ?_, parsed, conveys⟩
  have filled := (saidify_written library fixed fields.template _).mpr ⟨_, fields.template_text, ready, rfl⟩
  rw [form] at filled
  rw [write_text, writeText, filled, ok_bind, parsed]
  rfl

theorem ready_strings (members : List Member) (ready : Ready routedCodes members) :
    ∀ member ∈ members, member.1 = asBytes "v" ∨ member.1 = asBytes "d" → ∃ text, member.2 = quoted text ∧ Plainly text := by
  intro member inside key
  obtain ⟨listed, _⟩ := ready_listed routedCodes members ready
  have named : Named routedCodes member.1 := by
    rcases key with same | same
    · exact .inl same
    · exact .inr ⟨("d", .blake3_256), List.mem_cons_self, same.symm⟩
  obtain ⟨text, same, plain⟩ := (listed.fitting member inside).unescaped named
  exact ⟨asBytes text, same, text, rfl, plain⟩

theorem plainly_content (text : Bytes) (plain : Plainly text) : Content Utf8 text := by
  obtain ⟨given, rfl, raw⟩ := plain
  exact plain_content given raw

theorem template_same (fields other : RoutedFields) (version said : Bytes) (numbered : Plainly version) (digest : Plainly said)
    (same : fields.template = objectText (other.members version said)) : other.template = fields.template := by
  have plain : ∀ fields : RoutedFields, Content Utf8 (asBytes fields.kind.code) := fun fields => plain_content _ (routed_code_plain fields)
  have texts := same
  rw [RoutedFields.template_text, RoutedFields.members_text, RoutedFields.members_text] at texts
  simp only [List.append_assoc] at texts
  obtain ⟨versions, behind⟩ := quoted_once _ _ _ _ (plainly_content _ plainly_zero) (plainly_content _ numbered) (List.append_cancel_left texts)
  obtain ⟨_, behind⟩ := quoted_once _ _ _ _ (plain fields) (plain other) (List.append_cancel_left behind)
  obtain ⟨saids, _⟩ := quoted_once _ _ _ _ (plainly_content _ plainly_slot) (plainly_content _ digest) (List.append_cancel_left behind)
  rw [same, RoutedFields.template_text, versions, saids]

theorem written_spelled (fixed : FixedLength library) (limits : JsonLimits) (fields : RoutedFields) (raw : Bytes)
    (written : fields.write library limits = .ok raw) :
    ∃ other, RoutedFields.Spelled other ∧ Admitted limits other ∧ other.template = fields.template := by
  simp only [write_text, writeText, bind_ok, pure_ok] at written
  obtain ⟨final, filled, body, accepted, _⟩ := written
  obtain ⟨list, text, ready, same⟩ := (saidify_written library fixed fields.template final).mp filled
  obtain ⟨free, fewer, lower⟩ := (routed_metered library final limits body).mp accepted
  simp only [RoutedBody.parse, liftRouted, bind_ok, exists_done, scanned_ok] at free
  obtain ⟨_, parsed, ⟨done, read⟩, payload, decoded, _⟩ := free
  have spelling : parsed.payload = asBytes payload := by
    rw [payloadText] at decoded
    cases utf8 : fromUtf8 parsed.payload with
    | none =>
        rw [utf8] at decoded
        cases decoded
    | some given =>
        rw [utf8] at decoded
        rw [← Except.ok.inj decoded]
        exact ((from_utf8_some _ _).mp utf8).symm
  obtain ⟨other, version, spelled, _, numbered, digest, whole⟩ := routed_took final .unlimited parsed done payload read spelling
  obtain ⟨ready', _⟩ := sized_ready routedCodes list ready
  obtain ⟨final', _⟩ := saidified_ready library routedCodes fixed routed_codes_distinct list ready
  have members' := object_once _ _ final'.object (routed_object other spelled version _ numbered digest) (same.symm.trans whole)
  -- Neither the digest nor the size has changed anything but its own member.
  have strings : ∀ members, Ready routedCodes members → ∀ member ∈ members, member.1 = asBytes "v" ∨ member.1 = asBytes "d" →
      ∃ text, member.2 = quoted text := by
    intro members ready member inside key
    obtain ⟨text, same, _⟩ := ready_strings members ready member inside key
    exact ⟨text, same⟩
  obtain ⟨version1, said1, middle⟩ := outer_inverse _ (slot_outer _) other version _ (sized list) (strings _ ready') members'
  obtain ⟨version2, said2, start⟩ := outer_inverse _ (size_outer _) other version1 said1 list (strings _ ready) middle
  have first : (asBytes versionLabel, quoted version2) ∈ list := by
    rw [start]
    exact List.mem_cons_self
  have third : (asBytes "d", quoted said2) ∈ list := by
    rw [start]
    exact List.mem_cons_of_mem _ (List.mem_cons_of_mem _ List.mem_cons_self)
  have plain : ∀ key text, (key, quoted text) ∈ list → key = asBytes "v" ∨ key = asBytes "d" → Plainly text := by
    intro key text inside known
    obtain ⟨given, same, plain⟩ := ready_strings list ready _ inside known
    have inner := congrArg unquoted same
    rw [unquoted_quoted, unquoted_quoted] at inner
    rw [inner]
    exact plain
  have templates := template_same fields other version2 said2 (plain _ _ first (.inl rfl)) (plain _ _ third (.inr rfl)) (by rw [text, start])
  obtain ⟨tally, depth⟩ := template_tally other version _ numbered digest
  refine ⟨other, spelled, ⟨?_, ?_, ?_⟩, templates⟩
  · rw [templates, text]
    exact (ready.version _ first).2
  · rw [← tally, ← whole]
    exact fewer
  · rw [← depth, ← whole]
    exact lower

def Faithful (limits : JsonLimits) (fields : RoutedFields) : Prop :=
  ∀ raw, fields.write library limits = .ok raw → ∃ body, RoutedBody.parse library raw (.ofLimits limits) = .ok body ∧
    Conveys library fields raw body

end Reads

-- A string with a quote in it is written as it is. The writer says what it was asked
-- to unless the text can so be divided into other fields that are well spelled.
theorem routed_writer_faithful (library : KeyLibrary) (fixed : FixedLength library) (limits : JsonLimits) (fields : RoutedFields) :
    Faithful library limits fields ↔
      RoutedFields.Unquoted fields ∨
        ∀ other, RoutedFields.Spelled other → Admitted limits other → other.template ≠ fields.template := by
  apply Iff.intro
  · intro faithful
    by_cases unquoted' : RoutedFields.Unquoted fields
    · exact .inl unquoted'
    · refine .inr fun other spelled admitted same => ?_
      obtain ⟨raw, body, written, read, conveys⟩ := spelled_written library fixed limits other spelled admitted
      rw [write_text, same, ← write_text] at written
      obtain ⟨body', read', conveys'⟩ := faithful raw written
      rw [read] at read'
      have bodies : body = body' := Except.ok.inj read'
      rw [← bodies] at conveys'
      have fields' : other = fields := by
        cases other with
        | mk datetime route replyRoute payload =>
            cases fields with
            | mk datetime' route' replyRoute' payload' =>
                rw [RoutedFields.mk.injEq]
                exact ⟨conveys.datetime.symm.trans conveys'.datetime, conveys.route.symm.trans conveys'.route,
                  conveys.replyRoute.symm.trans conveys'.replyRoute, conveys.payload.symm.trans conveys'.payload⟩
      rw [← fields'] at unquoted'
      exact unquoted' (RoutedFields.spelled_unquoted other spelled)
  · intro condition raw written
    obtain ⟨other, spelled, admitted, same⟩ := written_spelled library fixed limits fields raw written
    rcases condition with unquoted' | apart
    · have fields' := template_once other fields (RoutedFields.spelled_unquoted other spelled) unquoted' same
      obtain ⟨raw', body, written', read, conveys⟩ := spelled_written library fixed limits other spelled admitted
      rw [fields'] at written' conveys
      rw [written] at written'
      have same' : raw = raw' := Except.ok.inj written'
      rw [same']
      exact ⟨body, read, conveys⟩
    · exact absurd same (apart other spelled admitted)

namespace RoutedSample

-- The BLAKE3 digest of the reply whose own said is overwritten.
def reply : Bytes :=
  [82, 53, 59, 207, 141, 195, 147, 61, 180, 62, 180, 133, 179, 67, 129, 146, 125, 38, 55, 219, 56, 230, 204, 109, 66, 146, 25, 97, 158,
    121, 62, 150]

def keyLibrary : KeyLibrary :=
  { Sample.keyLibrary with hash := fun code _ => (reply ++ List.replicate 32 0).take (digestLength code) }

theorem key_library_fixed : FixedLength keyLibrary := by
  intro code data
  cases code with
  | _ => rfl

def limits : JsonLimits := ⟨16, 4⟩

-- The route ends itself and opens the attributes, which the payload closes.
def given : RoutedFields := ⟨"t", "y\",\"a\":\x7b\"z\":\"", none, "\x7b\x7d\x7d"⟩

def read : RoutedFields := ⟨"t", "y", none, "\x7b\"z\":\"\",\"a\":\x7b\x7d\x7d"⟩

theorem read_spelled : RoutedFields.Spelled read := by
  refine ⟨by decide +kernel, by decide +kernel, (fun replyRoute same => by cases same), ?_⟩
  refine ⟨[(asBytes "z", quoted (asBytes "")), (asBytes "a", objectText [])], by decide, ?_, by decide, ?_⟩
  · exact List.forall_mem_cons.mpr ⟨plain_content "z" (by decide +kernel), List.forall_mem_cons.mpr ⟨plain_content "a" (by decide +kernel),
      List.forall_mem_nil _⟩⟩
  · exact List.forall_mem_cons.mpr ⟨plain_value "" (by decide +kernel), List.forall_mem_cons.mpr ⟨.emptyObject, List.forall_mem_nil _⟩⟩

theorem same_template : read.template = given.template := by decide

theorem read_admitted : Admitted limits read := ⟨by decide +kernel, by decide +kernel, by decide +kernel⟩

end RoutedSample

-- A route with a quote in it is accepted, and another route is sent.
theorem routed_route_smuggled :
    FixedLength RoutedSample.keyLibrary ∧ ¬Faithful RoutedSample.keyLibrary RoutedSample.limits RoutedSample.given := by
  refine ⟨RoutedSample.key_library_fixed, fun faithful => ?_⟩
  obtain ⟨raw, body, written, read, conveys⟩ := spelled_written RoutedSample.keyLibrary RoutedSample.key_library_fixed RoutedSample.limits
    RoutedSample.read RoutedSample.read_spelled RoutedSample.read_admitted
  rw [write_text, RoutedSample.same_template, ← write_text] at written
  obtain ⟨body', read', conveys'⟩ := faithful raw written
  rw [read] at read'
  have bodies : body = body' := Except.ok.inj read'
  rw [← bodies] at conveys'
  have routes := conveys.route.symm.trans conveys'.route
  exact absurd routes (by decide)

theorem routed_writer_faithful_sample :
    Faithful RoutedSample.keyLibrary RoutedSample.limits RoutedSample.given ↔
      RoutedFields.Unquoted RoutedSample.given ∨
        ∀ other, RoutedFields.Spelled other → Admitted RoutedSample.limits other → other.template ≠ RoutedSample.given.template :=
  routed_writer_faithful RoutedSample.keyLibrary RoutedSample.key_library_fixed RoutedSample.limits RoutedSample.given

end Cesr.Codec
