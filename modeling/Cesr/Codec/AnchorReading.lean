import Cesr.Codec.AnchorAgree

set_option autoImplicit false

namespace Cesr.Codec

open Checks WriterJson Scanner JsonTally JsonBudget

section Typed

theorem shape_keys (keys : List String) (typed : keys ∈ sealShapes) :
    (keys.map asBytes).Nodup ∧ ∀ key ∈ keys, ∀ byte ∈ asBytes key, Plain byte := by
  have checked : (sealShapes.all fun keys => decide (keys.map asBytes).Nodup &&
      keys.all fun key => (asBytes key).all fun byte => decide (Plain byte)) = true := by decide +kernel
  have shape := List.all_eq_true.mp checked keys typed
  rw [Bool.and_eq_true] at shape
  exact ⟨of_decide_eq_true shape.1, plain_labels keys shape.2⟩

theorem values_length (parsed : ParsedSeal) : parsed.values.length = parsed.keys.length := by
  cases parsed with
  | _ => rfl

theorem string_members_keys (keys values : List String) (paired : values.length = keys.length) :
    (stringMembers keys values).map Prod.fst = keys.map asBytes := by
  induction keys generalizing values with
  | nil => rfl
  | cons key keys ih =>
      obtain ⟨value, values, rfl⟩ := List.exists_cons_of_length_eq_add_one paired
      have later := ih values (Nat.succ.inj paired)
      rw [stringMembers, List.zipWith_cons_cons, List.map_cons, List.map_cons]
      exact congrArg _ later

theorem string_members_mem (keys values : List String) (member : Member) (inside : member ∈ stringMembers keys values) :
    ∃ key ∈ keys, ∃ value ∈ values, member = (asBytes key, quoted (asBytes value)) := by
  rw [stringMembers, ← List.map_uncurry_zip_eq_zipWith] at inside
  obtain ⟨both, listed, same⟩ := List.mem_map.mp inside
  obtain ⟨key, value⟩ := List.of_mem_zip listed
  exact ⟨both.1, key, both.2, value, same.symm⟩

theorem utf8_byte (byte : UInt8) (ascii : byte.toNat < 128) : Utf8 [byte] :=
  utf8_ascii [byte] fun other inside => by rw [List.mem_singleton.mp inside]; exact ascii

theorem utf8_quoted (content : Bytes) (utf8 : Utf8 content) : Utf8 (quoted content) :=
  utf8_append [quote] _ (utf8_byte quote (by decide)) (utf8_append content [quote] utf8 (utf8_byte quote (by decide)))

theorem utf8_members (members : List Member) (each : ∀ member ∈ members, Utf8 member.1 ∧ Utf8 member.2) : Utf8 (membersText members) := by
  have one : ∀ member : Member, Utf8 member.1 ∧ Utf8 member.2 → Utf8 (memberText member) := by
    intro member both
    exact utf8_append _ _ (utf8_quoted _ both.1) (utf8_append [0x3A] _ (utf8_byte 0x3A (by decide)) both.2)
  induction members with
  | nil => exact utf8_nil
  | cons member others ih =>
      obtain ⟨first, later⟩ := List.forall_mem_cons.mp each
      cases others with
      | nil => exact one member first
      | cons next rest => exact utf8_append _ _ (one member first) (utf8_append [0x2C] _ (utf8_byte 0x2C (by decide)) (ih later))

theorem typed_object (parsed : ParsedSeal) (typed : parsed.keys ∈ sealShapes) (plain : Unescaped parsed) :
    CompactJson.Spells OpaqueScan.Spoken .value parsed.text ∧ Utf8 parsed.text := by
  obtain ⟨distinct, bare⟩ := shape_keys _ typed
  have object : Object Utf8 (stringMembers parsed.keys parsed.values) := by
    refine ⟨?_, ?_, ?_⟩
    · intro member inside
      obtain ⟨key, listed, value, _, rfl⟩ := string_members_mem _ _ member inside
      exact plain_content key (bare key listed)
    · rw [string_members_keys _ _ (values_length parsed)]
      exact distinct
    · intro member inside
      obtain ⟨key, _, value, listed, rfl⟩ := string_members_mem _ _ member inside
      exact plain_value value (plain value listed)
  refine ⟨?_, ?_⟩
  · have spelled := (writer_spells .value parsed.text).mp (object_spells Utf8 _ object)
    exact CompactJson.spells_mono Written OpaqueScan.Spoken (fun _ _ written => written.1) .value _ spelled
  · refine utf8_append [0x7B] _ (utf8_byte 0x7B (by decide)) (utf8_append _ [0x7D] (utf8_members _ ?_) (utf8_byte 0x7D (by decide)))
    intro member inside
    obtain ⟨key, _, value, _, rfl⟩ := string_members_mem _ _ member inside
    exact ⟨⟨key, rfl⟩, utf8_quoted _ ⟨value, rfl⟩⟩

end Typed

section Anchors

open OpaqueScan hiding marks

theorem object_len_free (text rest : Bytes) (budget : JsonBudget) (free : Free budget) (spelled : CompactJson.Spells Spoken .value text)
    (brace : text.head? = some 0x7B) : ∃ spent, objectLen (text ++ rest) budget = .ok (text.length, spent) := by
  obtain ⟨body, same⟩ := head_cons ⟨0, text⟩ 0x7B brace
  have same' : text = 0x7B :: body := same
  rw [same'] at spelled ⊢
  obtain ⟨entered, enters, free'⟩ := free_enter budget free
  have runs := (CompactJson.object_runs Spoken body).mpr spelled
  have most := CompactJson.need_le .firstMember body
  obtain ⟨spent, read⟩ := turns_complete _ _ body runs (2 * (0x7B :: body ++ rest).length + 2) .firstKey [(true, [])] 1 rest entered
    free' rfl rfl (by
      rw [List.length_append, List.length_cons]
      omega)
  refine ⟨spent, ?_⟩
  have behind : (0x7B :: body ++ rest).tail = body ++ rest := rfl
  rw [objectLen, if_neg (fun other => other rfl), enters, behind, List.length_cons, Nat.add_comm body.length 1]
  exact read

theorem unmetered_free (sc : Scanner) (unmetered : Unmetered sc) : Free sc.budget := by
  have same := congrArg Scanner.budget unmetered.opened
  exact ⟨(congrArg JsonBudget.maxFields same).symm, (congrArg JsonBudget.maxDepth same).symm⟩

theorem opaque_body_took (sc done : Scanner) (parsed : ParsedSeal) (read : ParsedSeal.opaqueBody sc = .ok (parsed, done)) :
    ∃ raw, parsed = .opaqueSeal raw ∧ Took sc (asBytes raw) done := by
  obtain ⟨text, took, _, _⟩ := priced_run _ opaque_body_priced sc done parsed read
  simp only [ParsedSeal.opaqueBody, bind_ok, map_error_ok] at read
  obtain ⟨found, _, raw, decoded, last⟩ := read
  obtain ⟨same, same'⟩ := Prod.mk.inj (Except.ok.inj last)
  refine ⟨raw, same.symm, ?_⟩
  have size : text.length = found.1 := by
    have first := took.pos
    rw [← same'] at first
    exact (Nat.add_left_cancel first).symm
  have front : sc.left.take found.1 = text := by rw [took.left, ← size, List.take_left]
  rw [ParsedSeal.opaqueText, front] at decoded
  cases utf8 : fromUtf8 text with
  | none =>
      rw [utf8] at decoded
      cases decoded
  | some given =>
      rw [utf8] at decoded
      cases decoded
      rw [(from_utf8_some text raw).mp utf8]
      exact took

theorem codex_opaque (sc done : Scanner) (parsed : ParsedSeal) (unmetered : Unmetered sc) (read : ParsedSeal.codex sc = .ok (parsed, done)) :
    ∃ raw, asBytes raw = parsed.text ∧ ParsedSeal.opaqueBody sc = .ok (.opaqueSeal raw, done) := by
  have given := codex_took sc done parsed read
  obtain ⟨spelled, raw, same⟩ := typed_object parsed given.typed given.plain
  obtain ⟨spent, found⟩ := object_len_free parsed.text done.left sc.budget (unmetered_free sc unmetered) spelled rfl
  rw [← given.took.left] at found
  have decoded : ParsedSeal.opaqueText sc parsed.text.length = .ok raw := by
    rw [ParsedSeal.opaqueText, given.took.left, List.take_left, (from_utf8_some _ raw).mpr same]
  have kept : ParsedSeal.opaqueBody sc = .ok (.opaqueSeal raw, ⟨sc.input, sc.pos + parsed.text.length, spent⟩) := by
    rw [ParsedSeal.opaqueBody, found]
    show (ParsedSeal.opaqueText sc parsed.text.length >>= _) = _
    rw [decoded]
    rfl
  obtain ⟨text, took, bill, _⟩ := priced_run _ opaque_body_priced sc _ _ kept
  obtain ⟨text', took', bill', _⟩ := priced_run _ codex_priced sc _ _ read
  have size : text.length = parsed.text.length := (Nat.add_left_cancel took.pos).symm
  have size' : text'.length = parsed.text.length := Nat.add_left_cancel (took'.pos.symm.trans given.took.pos)
  have same' : text = text' := (List.append_inj (took.left.symm.trans took'.left) (size.trans size'.symm)).1
  rw [same', bill'] at bill
  refine ⟨raw, same, ?_⟩
  rw [kept]
  have last : (⟨sc.input, sc.pos + parsed.text.length, spent⟩ : Scanner) = done := by
    have paid : done.budget = spent := Option.some.inj bill
    rw [← given.took.input, ← given.took.pos, ← paid]
  rw [last]

-- What the text of an anchor is read as: a typed seal where it has the shape of
-- one, and itself where it has not.
structure ReadAs (text : String) (parsed : ParsedSeal) : Prop where
  typed : ∀ keys values, Shaped (asBytes text) keys values → parsed.keys = keys ∧ parsed.values = values
  untyped : (¬∃ keys values, Shaped (asBytes text) keys values) → parsed = .opaqueSeal text

theorem shaped_once (object : Bytes) (keys values keys' values' : List String) (first : Shaped object keys values)
    (second : Shaped object keys' values') : keys = keys' ∧ values = values' := by
  obtain ⟨parsed, rfl, rfl, same⟩ := shaped_parsed object keys values first
  obtain ⟨parsed', rfl, rfl, same'⟩ := shaped_parsed object keys' values' second
  have unique : parsed = parsed' := by
    obtain ⟨at', read, _⟩ := codex_gives parsed first.known first.plain 0 (Scanner.new object) [] (fits_new object)
      (by rw [List.append_nil]; exact same) rfl
    obtain ⟨at'', read', _⟩ := codex_gives parsed' second.known second.plain 0 (Scanner.new object) [] (fits_new object)
      (by rw [List.append_nil]; exact same') rfl
    rw [read] at read'
    exact (Prod.mk.inj (Except.ok.inj read')).1
  rw [unique]
  exact ⟨rfl, rfl⟩

theorem typed_read_as (text : String) (parsed : ParsedSeal) (typed : parsed.keys ∈ sealShapes) (plain : Unescaped parsed)
    (same : asBytes text = parsed.text) : ReadAs text parsed := by
  have shaped : Shaped (asBytes text) parsed.keys parsed.values := ⟨typed, values_length parsed, plain, same⟩
  refine ⟨?_, fun without => absurd ⟨_, _, shaped⟩ without⟩
  intro keys values other
  exact shaped_once _ _ _ _ _ shaped other

theorem anchors_agree :
    Agree ParsedSeal.decode ParsedSeal.opaqueBody fun parsed kept => ∃ text, kept = .opaqueSeal text ∧ ReadAs text parsed := by
  have unshaped : ∀ sc done error text, Unmetered sc → ParsedSeal.codex sc = .error error → Took sc (asBytes text) done →
      ReadAs text (.opaqueSeal text) := by
    intro sc done error text unmetered failed took
    refine ⟨?_, fun _ => rfl⟩
    intro keys values shaped
    obtain ⟨parsed, rfl, rfl, same⟩ := shaped_parsed _ keys values shaped
    obtain ⟨at', read, _⟩ := codex_gives parsed shaped.known shaped.plain sc.budget.depth sc done.left unmetered.fits
      (by rw [← same]; exact took.left) rfl
    rw [failed] at read
    cases read
  refine ⟨?_, ?_⟩
  · intro sc done parsed unmetered read
    refine ⟨priced_unmetered _ seal_priced sc done parsed unmetered read, ?_⟩
    rw [ParsedSeal.decode] at read
    cases typed : ParsedSeal.codex sc with
    | ok both =>
        rw [typed] at read
        cases read
        obtain ⟨raw, same, kept⟩ := codex_opaque sc done parsed unmetered typed
        have given := codex_took sc done parsed typed
        exact ⟨_, kept, raw, rfl, typed_read_as raw parsed given.typed given.plain same⟩
    | error error =>
        rw [typed] at read
        simp only at read
        by_cases limit : error.isLimit = true
        · rw [if_pos limit] at read
          cases read
        · rw [if_neg limit] at read
          obtain ⟨raw, rfl, took⟩ := opaque_body_took sc done parsed read
          exact ⟨_, read, raw, rfl, unshaped sc done error raw unmetered typed took⟩
  · intro sc done kept unmetered read
    rw [ParsedSeal.decode]
    cases typed : ParsedSeal.codex sc with
    | ok both =>
        obtain ⟨raw, same, kept'⟩ := codex_opaque sc both.2 both.1 unmetered typed
        rw [read] at kept'
        obtain ⟨rfl, rfl⟩ := Prod.mk.inj (Except.ok.inj kept')
        have given := codex_took sc both.2 both.1 typed
        exact ⟨both.1, rfl, raw, rfl, typed_read_as raw both.1 given.typed given.plain same⟩
    | error error =>
        -- Without limits the typed reader does not fail for want of budget.
        have free : error.isLimit = false := strict_error _ codex_priced sc error unmetered typed
        simp only
        rw [free, if_neg Bool.false_ne_true]
        obtain ⟨raw, rfl, took⟩ := opaque_body_took sc done kept read
        exact ⟨_, read, raw, rfl, unshaped sc done error raw unmetered typed took⟩

end Anchors

end Cesr.Codec
