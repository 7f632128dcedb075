import Cesr.Core.IndexerCodec
import Cesr.Core.NumberCodec
import Cesr.Stream.Elements

set_option autoImplicit false

namespace Cesr.Stream

open Sextets Base64 Checks Calls Resume

-- The text of a decoded value, none where its encoder panics or refuses.
def FieldValue.encode (version : CesrVersion) : FieldValue → Option Bytes
  | .matter value => value.toQb64b
  | .indexer value => value.toQb64
  | .number value => value.toQb64b
  | .sigs raw count =>
      match exec ((CesrGroup.group .controllerIdxSig raw count version).encodeCesr version) [] with
      | (.ok (), text) => some text
      | (.error _, _) => none

def encodeFields (version : CesrVersion) : List FieldValue → Option Bytes
  | [] => some []
  | value :: values => do
      let first ← value.encode version
      let others ← encodeFields version values
      some (first ++ others)

-- A field in the one spelling that its value is written in: no padding and, in
-- an indexer, no bit under the pad characters. The signatures of a nested group
-- are kept as they stand.
def Field.Canonical (field : Field) (stream : Bytes) : Prop :=
  match field with
  | .siger => ClearPad stream
  | .number => Unpadded stream ∧ FitsU128 stream
  | .controllerSigs => True
  | _ => Unpadded stream

def CanonicalFields (version : CesrVersion) : List Field → Bytes → Prop
  | [], _ => True
  | field :: fields, stream =>
      field.Canonical stream ∧ ∀ size, field.skip version stream = .ok size → CanonicalFields version fields (stream.drop size)

def CanonicalElements (kind : GroupKind) (version : CesrVersion) : Nat → Bytes → Prop
  | 0, _ => True
  | count + 1, stream =>
      CanonicalFields version kind.fields stream ∧
        ∀ size, kind.skip stream version = .ok size → CanonicalElements kind version count (stream.drop size)

section Pieces

-- A text stands for the first bytes of a stream: it is as long as these, and it
-- is these where they are canonical.
structure Reencodes (text : Option Bytes) (canonical : Prop) (stream : Bytes) (size : Nat) : Prop where
  length : ∀ written, text = some written → written.length = size
  exact : text = some (stream.take size) ↔ canonical

theorem Reencodes.nothing (stream : Bytes) : Reencodes (some []) True stream 0 := by
  apply Reencodes.mk
  · intro written same
    rw [← Option.some.inj same]
    rfl
  · exact iff_of_true rfl trivial

theorem Reencodes.weaken (text : Option Bytes) (canonical other : Prop) (stream : Bytes) (size : Nat)
    (reencodes : Reencodes text canonical stream size) (same : canonical ↔ other) : Reencodes text other stream size :=
  ⟨reencodes.length, reencodes.exact.trans same⟩

theorem Reencodes.join (first second : Option Bytes) (front back : Prop) (stream : Bytes) (size others : Nat)
    (head : Reencodes first front stream size) (tail : Reencodes second back (stream.drop size) others) :
    Reencodes (do let left ← first; let right ← second; some (left ++ right)) (front ∧ back) stream (size + others) := by
  cases first with
  | none =>
      apply Reencodes.mk
      · intro written same
        cases same
      · apply iff_of_false
        · intro same
          cases same
        · intro both
          cases head.exact.mpr both.1
  | some left =>
      have long := head.length left rfl
      cases second with
      | none =>
          apply Reencodes.mk
          · intro written same
            cases same
          · apply iff_of_false
            · intro same
              cases same
            · intro both
              cases tail.exact.mpr both.2
      | some right =>
          have longer := tail.length right rfl
          have text : (do let left ← some left; let right ← some right; some (left ++ right)) = some (left ++ right) := rfl
          rw [text]
          apply Reencodes.mk
          · intro written same
            rw [← Option.some.inj same, List.length_append, long, longer]
          · rw [← head.exact, ← tail.exact, Option.some.injEq, Option.some.injEq, Option.some.injEq, List.take_add]
            apply Iff.intro
            · intro same
              have counted := congrArg List.length same
              simp only [List.length_append, List.length_take, List.length_drop, long, longer] at counted
              exact List.append_inj same (by rw [List.length_take, long]; omega)
            · intro both
              rw [both.1, both.2]

theorem encode_fields_append (version : CesrVersion) (front back : List FieldValue) :
    encodeFields version (front ++ back) =
      (do let left ← encodeFields version front; let right ← encodeFields version back; some (left ++ right)) := by
  induction front with
  | nil =>
      rw [List.nil_append, encodeFields, Option.bind_eq_bind, Option.bind_some]
      cases encodeFields version back <;> rfl
  | cons value front ih =>
      rw [List.cons_append, encodeFields, encodeFields, ih]
      cases value.encode version with
      | none => rfl
      | some first =>
          cases encodeFields version front with
          | none => rfl
          | some left =>
              cases encodeFields version back with
              | none => rfl
              | some right => exact congrArg some (List.append_assoc first left right).symm

end Pieces

section Fields

theorem read_matter_reads (remaining : Bytes) (matter : Matter MatterCode) (size : Nat)
    (read : readMatter remaining = .ok (matter, size)) :
    ∃ payload buf, ReadsText matter payload buf remaining ∧ size = matter.code.getSizage.cs + payload.length := by
  obtain ⟨skipped, decoded⟩ := (read_matter_ok remaining matter size).mp read
  obtain ⟨payload, buf, reads⟩ := (from_qualified_base64_ok _ matter).mp decoded
  obtain ⟨rest, framed⟩ := reads.framed
  have whole : ReadsText matter payload buf remaining := by
    refine ⟨⟨rest ++ remaining.drop size, ?_⟩, reads.soft, reads.sized, reads.decoded, reads.carried⟩
    rw [← List.append_assoc, ← framed, List.take_append_drop]
  have sized := (reads_text_frame matter payload buf remaining whole).1
  simp only [skipMatter, bind_ok, map_error_ok, take_bytes_ok] at skipped
  obtain ⟨fs, announced, _, same⟩ := skipped
  rw [sized] at announced
  refine ⟨payload, buf, whole, ?_⟩
  rw [same, Except.ok.inj announced]

theorem matter_reencodes (remaining : Bytes) (matter : Matter MatterCode) (size : Nat)
    (read : readMatter remaining = .ok (matter, size)) : Reencodes matter.toQb64b (Unpadded remaining) remaining size := by
  obtain ⟨payload, buf, reads, same⟩ := read_matter_reads remaining matter size read
  obtain ⟨_, taken, shown⟩ := reads_text_frame matter payload buf remaining reads
  have length := header_length matter reads.soft
  by_cases last : payload.getLast? = some urlSafe.pad
  · have stopped := reads_text_padded matter payload buf remaining reads last
    rw [stopped]
    apply Reencodes.mk
    · intro written given
      cases given
    · apply iff_of_false
      · intro given
        cases given
      · intro unpadded
        exact unpadded payload shown last
  · have text := reads_text_encodes matter payload buf remaining reads last
    rw [text, same]
    apply Reencodes.mk
    · intro written given
      rw [← Option.some.inj given, List.length_append, length]
    · rw [taken]
      apply iff_of_true rfl
      intro other framed
      rw [shown] at framed
      rw [← Except.ok.inj framed]
      exact last

theorem number_value (raw : Bytes) : (numberValue raw).val = bigEndian raw % 2 ^ 128 := by
  induction raw using List.reverseRecOn with
  | nil => rfl
  | append_singleton front last ih =>
      have step : numberValue (front ++ [last]) = Fin.ofNat (2 ^ 128) ((numberValue front).val * 2 ^ 8 + last.toNat) := by
        rw [numberValue, List.foldl_append]
        rfl
      rw [step, big_endian_concat]
      show ((numberValue front).val * 2 ^ 8 + last.toNat) % 2 ^ 128 = _
      rw [ih]
      omega

theorem try_from_number (matterCode : MatterCode) (code : NumberCode) (narrowed : NumberCode.tryFrom matterCode = .ok code) :
    code.toMatterCode = matterCode := by
  unfold NumberCode.tryFrom tryFromCode at narrowed
  split at narrowed
  · rename_i typed found
    cases narrowed
    have matched := List.find?_some found
    exact beq_iff_eq.mp matched
  · cases narrowed

theorem number_reencodes (remaining : Bytes) (matter : Matter MatterCode) (code : NumberCode) (size : Nat)
    (read : readMatter remaining = .ok (matter, size)) (narrowed : NumberCode.tryFrom matter.code = .ok code) :
    Reencodes (Number.toQb64b ⟨code, numberValue matter.raw⟩) (Unpadded remaining ∧ FitsU128 remaining) remaining size := by
  obtain ⟨payload, buf, reads, same⟩ := read_matter_reads remaining matter size read
  obtain ⟨_, taken, shown⟩ := reads_text_frame matter payload buf remaining reads
  obtain ⟨length, exact'⟩ := number_encodes code (numberValue matter.raw) matter payload buf remaining reads
    (try_from_number matter.code code narrowed) (number_value matter.raw)
  rw [same]
  refine ⟨length, ?_⟩
  rw [taken, exact']
  apply Iff.intro
  · intro canonical
    refine ⟨?_, (fits_u128_iff matter payload buf remaining reads canonical.1).mpr canonical.2⟩
    intro other framed
    rw [shown] at framed
    rw [← Except.ok.inj framed]
    exact canonical.1
  · intro canonical
    have last := canonical.1 payload shown
    exact ⟨last, (fits_u128_iff matter payload buf remaining reads last).mp canonical.2⟩

theorem indexer_reencodes (remaining : Bytes) (indexer : Indexer) (size : Nat)
    (read : readIndexer remaining = .ok (indexer, size)) : Reencodes indexer.toQb64 (ClearPad remaining) remaining size := by
  obtain ⟨_, decoded⟩ := read_indexer_ok remaining indexer size read
  obtain ⟨⟨payload, buf, reads⟩, same⟩ := (from_qb64_ok remaining indexer size).mp decoded
  have sized := reads_indexer_raw indexer payload buf remaining reads
  rw [same]
  apply Reencodes.mk
  · intro written given
    rw [indexer_to_qb64 indexer sized] at given
    rw [← Option.some.inj given, List.length_append, indexer_header_length, indexer_payload_length indexer.code indexer.raw sized]
  · exact reads_indexer_encodes indexer payload buf remaining reads

theorem read_count_encodes (cursor : NestedSigCursor) (version : CesrVersion) (tail : Bytes) (read : U32 × Nat)
    (counted : cursor.readCount version tail = .ok read) :
    read.2 ≤ tail.length ∧ ∀ raw, (FieldValue.sigs raw read.1).encode version = some (tail.take read.2 ++ raw) := by
  cases version with
  | v1 =>
      simp only [NestedSigCursor.readCount, bind_ok, reject_if_ok, exists_done, not_not, pure_ok] at counted
      obtain ⟨found, counter, code, same⟩ := counted
      obtain ⟨rest, spelled, fits⟩ := (read_counter_ok counter_table_v1 tail found.1 found.2).mp counter
      have length : (asBytes found.1.asStr ++ (digits found.1.softSize found.2.val).map urlSafe.char).length = found.1.fullSize := by
        rw [List.length_append, List.length_map, length_digits, counter_table_v1.length, counter_table_v1.filled]
      rw [← same]
      refine ⟨(read_counter_v1_reads).within tail found counter, ?_⟩
      rw [spelled, List.take_left' length, code]
      rw [code] at fits
      intro raw
      have written := (encode_code_ok CounterCodeV1.controllerIdxSigs.asStr CounterCodeV1.controllerIdxSigs.softSize found.2 []
        _).mpr ⟨by decide, by decide, fits, rfl⟩
      simp only [FieldValue.encode, CesrGroup.encodeCesr, CesrGroup.encodeCesrV1, GroupKind.codeV1, exec_bind,
        encodeCountIntoV1, written, exec_modify, List.nil_append]
  | v2 =>
      simp only [NestedSigCursor.readCount, bind_ok, reject_if_ok, exists_done, not_not, pure_ok] at counted
      obtain ⟨found, counter, code, same⟩ := counted
      obtain ⟨rest, spelled, fits⟩ := (read_counter_ok counter_table_v2 tail found.1 found.2).mp counter
      have length : (asBytes found.1.asStr ++ (digits found.1.softSize found.2.val).map urlSafe.char).length = found.1.fullSize := by
        rw [List.length_append, List.length_map, length_digits, counter_table_v2.length, counter_table_v2.filled]
      rw [← same]
      refine ⟨(read_counter_v2_reads).within tail found counter, ?_⟩
      rw [spelled, List.take_left' length, code]
      rw [code] at fits
      intro raw
      have written := (encode_code_ok CounterCodeV2.controllerIdxSigs.asStr CounterCodeV2.controllerIdxSigs.softSize found.2 []
        _).mpr ⟨by decide, by decide, fits, rfl⟩
      simp only [FieldValue.encode, CesrGroup.encodeCesr, CesrGroup.encodeCesrV2, GroupKind.codeV2, exec_bind,
        encodeCountIntoV2, written, exec_modify, List.nil_append]

theorem sigs_reencode (cursor : NestedSigCursor) (version : CesrVersion) (tail : Bytes) (read : U32 × Nat)
    (counted : cursor.readCount version tail = .ok read) (value : FieldValue) (size : Nat)
    (nested : nestedControllerSigs tail version = .ok (value, size)) : Reencodes (value.encode version) True tail size := by
  obtain ⟨sigs, listed, sized, kept⟩ := nested_sigs_consume cursor version tail read counted value size nested
  obtain ⟨headed, written⟩ := read_count_encodes cursor version tail read counted
  have reach : sigs ≤ (tail.drop read.2).length := (skip_indexers_reads read.1.val).within _ sigs listed
  rw [List.length_drop] at reach
  have text : value.encode version = some (tail.take size) := by
    rw [kept, written, sized, List.take_add]
  rw [text]
  apply Reencodes.mk
  · intro other given
    rw [← Option.some.inj given, List.length_take]
    exact Nat.min_eq_left (by omega)
  · exact iff_of_true rfl trivial

theorem field_reencodes (field : Field) (version : CesrVersion) (remaining : Bytes) (value : FieldValue) (size : Nat)
    (plain : field ≠ .controllerSigs) (read : field.read version remaining = .ok (value, size)) :
    Reencodes (value.encode version) (field.Canonical remaining) remaining size := by
  cases field_reads field version remaining value size read with
  | matter _ matter _ one other taken =>
      have reencodes := matter_reencodes remaining matter size taken
      cases field <;> first | exact reencodes | exact absurd rfl other | cases one
  | number matter code _ taken narrowed => exact number_reencodes remaining matter code size taken narrowed
  | siger indexer _ taken => exact indexer_reencodes remaining indexer size taken
  | sigs _ _ taken => exact absurd rfl plain

theorem canonical_fields_cons (version : CesrVersion) (field : Field) (fields : List Field) (stream : Bytes) (size : Nat)
    (skipped : field.skip version stream = .ok size) :
    field.Canonical stream ∧ CanonicalFields version fields (stream.drop size) ↔
      CanonicalFields version (field :: fields) stream := by
  apply Iff.intro
  · intro canonical
    refine ⟨canonical.1, ?_⟩
    intro other again
    rw [skipped] at again
    rw [← Except.ok.inj again]
    exact canonical.2
  · intro canonical
    exact ⟨canonical.1, canonical.2 size skipped⟩

theorem canonical_fields_append (version : CesrVersion) (front back : List Field) (stream : Bytes) (size : Nat)
    (skipped : skipFields version front stream = .ok size) :
    CanonicalFields version front stream ∧ CanonicalFields version back (stream.drop size) ↔
      CanonicalFields version (front ++ back) stream := by
  induction front generalizing stream size with
  | nil =>
      cases skipped
      exact and_iff_right trivial
  | cons field front ih =>
      simp only [skipFields, bind_ok, pure_ok] at skipped
      obtain ⟨first, head, others, tail, same⟩ := skipped
      rw [List.cons_append, ← canonical_fields_cons version field front stream first head,
        ← canonical_fields_cons version field (front ++ back) stream first head, ← ih (stream.drop first) others tail,
        List.drop_drop, same, and_assoc]

theorem read_fields_append (version : CesrVersion) (front back : List Field) (remaining : Bytes) (values : List FieldValue)
    (total : Nat) (read : readFields version (front ++ back) remaining = .ok (values, total)) :
    ∃ left right first second, readFields version front remaining = .ok (left, first) ∧
      readFields version back (remaining.drop first) = .ok (right, second) ∧ values = left ++ right ∧ total = first + second := by
  induction front generalizing remaining values total with
  | nil => exact ⟨[], values, 0, total, rfl, read, rfl, (Nat.zero_add total).symm⟩
  | cons field front ih =>
      simp only [List.cons_append, readFields, bind_ok, pure_ok, Prod.mk.injEq] at read ⊢
      obtain ⟨head, headRead, others, othersRead, listed, counted⟩ := read
      obtain ⟨left, right, first, second, leftRead, rightRead, split, sum⟩ :=
        ih (remaining.drop head.2) others.1 others.2 othersRead
      refine ⟨head.1 :: left, right, head.2 + first, second, ⟨head, headRead, (left, first), leftRead, rfl, rfl⟩, ?_, ?_, ?_⟩
      · rw [← List.drop_drop]
        exact rightRead
      · rw [← listed, split]
        rfl
      · omega

theorem plain_fields_reencode (version : CesrVersion) (fields : List Field) (plain : .controllerSigs ∉ fields)
    (remaining : Bytes) (values : List FieldValue) (total : Nat)
    (read : readFields version fields remaining = .ok (values, total)) :
    Reencodes (encodeFields version values) (CanonicalFields version fields remaining) remaining total := by
  induction fields generalizing remaining values total with
  | nil =>
      cases read
      exact Reencodes.nothing remaining
  | cons field fields ih =>
      simp only [readFields, bind_ok, pure_ok, Prod.mk.injEq] at read
      obtain ⟨head, headRead, others, othersRead, listed, counted⟩ := read
      rw [List.mem_cons, not_or] at plain
      have first := field_reencodes field version remaining head.1 head.2 (Ne.symm plain.1) headRead
      have second := ih plain.2 (remaining.drop head.2) others.1 others.2 othersRead
      rw [← listed, ← counted]
      exact (Reencodes.join _ _ _ _ _ _ _ first second).weaken _ _ _ _ _
        (canonical_fields_cons version field fields remaining head.2 (field_consumes field version remaining _ _ headRead))

end Fields

section Groups

variable (kind : GroupKind) (version : CesrVersion)

theorem element_reencodes (input : Bytes) (values : List FieldValue) (size total : Nat)
    (skipped : kind.skip input version = .ok size) (read : kind.element input version = .ok (values, total)) :
    Reencodes (encodeFields version values) (CanonicalFields version kind.fields input) input total := by
  cases grammar : kind.nestedSigGrammar with
  | none =>
      have plain : .controllerSigs ∉ kind.fields := by
        cases kind <;> first | decide | cases grammar
      exact plain_fields_reencode version kind.fields plain input values total read
  | some counters =>
      obtain ⟨split, matters, counted⟩ := nested_kind_fields kind counters grammar
      have plain : .controllerSigs ∉ kind.fields.take counters.1 := by
        intro inside
        cases matters _ inside
      rw [GroupKind.element, split] at read
      obtain ⟨left, right, first, second, leftRead, rightRead, listed, sum⟩ := read_fields_append version _ _ input values total read
      have front := plain_fields_reencode version _ plain input left first leftRead
      have skippedFront := read_fields_consume version _ input left first leftRead
      have place := skippedFront
      rw [skip_fields_matters version _ matters, counted] at place
      unfold GroupKind.skip at skipped
      simp only [grammar] at skipped
      obtain ⟨head, found, sigs, front', counter, _, _⟩ := (advance_new_ok _ _ _ _ _ _).mp skipped
      rw [place, Except.ok.injEq] at front'
      rw [← front'] at counter
      simp only [readFields, bind_ok, pure_ok, Prod.mk.injEq] at rightRead
      obtain ⟨last, nested, none', ended, listed', counted'⟩ := rightRead
      cases ended
      have signed := sigs_reencode _ version _ found counter last.1 last.2 nested
      have back : Reencodes (encodeFields version right) (CanonicalFields version [.controllerSigs] (input.drop first))
          (input.drop first) second := by
        rw [← listed', ← counted']
        exact (Reencodes.join _ _ _ _ _ _ _ signed (Reencodes.nothing _)).weaken _ _ _ _ _
          (canonical_fields_cons version .controllerSigs [] _ last.2 (field_consumes .controllerSigs version _ _ _ nested))
      rw [listed, sum, encode_fields_append, split]
      exact (Reencodes.join _ _ _ _ _ _ _ front back).weaken _ _ _ _ _
        (canonical_fields_append version _ _ input first skippedFront)

def Elements.Yields (iterated : Elements) (elements : List (List FieldValue)) : Prop :=
  ∀ call, iterated.nth call = elements[call]?.map Except.ok

theorem yields_iff (raw : Bytes) (count : U32) (elements : List (List FieldValue)) :
    (Elements.iter kind raw count version).Yields elements ↔ elementItems kind version count.val raw = elements.map Except.ok := by
  have items : ∀ call, (Elements.iter kind raw count version).nth call = (elementItems kind version count.val raw)[call]? :=
    fun call => nth_items kind raw version call 0 count.val
  apply Iff.intro
  · intro yields
    apply List.ext_getElem?
    intro call
    rw [List.getElem?_map, ← yields call, items]
  · intro same call
    rw [items, same, List.getElem?_map]

theorem items_reencode (count total : Nat) (stream : Bytes) (elements : List (List FieldValue))
    (framed : kind.skipAll version count stream = .ok total)
    (items : elementItems kind version count stream = elements.map Except.ok) :
    Reencodes (encodeFields version elements.flatten) (CanonicalElements kind version count stream) stream total := by
  induction count generalizing total stream elements with
  | zero =>
      cases framed
      have none' : elements = [] := List.map_eq_nil_iff.mp items.symm
      rw [none']
      exact Reencodes.nothing stream
  | succ count ih =>
      rw [skip_all_eq, skip_times_succ, ← skip_all_eq] at framed
      obtain ⟨size, skipped, others, later, same⟩ := framed
      rw [elementItems] at items
      cases element : kind.element stream version with
      | error error =>
          rw [element] at items
          cases elements with
          | nil => cases items
          | cons first elements => cases items
      | ok read =>
          rw [element] at items
          cases elements with
          | nil => cases items
          | cons first elements =>
              obtain ⟨head, tail⟩ := List.cons.inj items
              have consumed := element_consumes kind version stream read.1 size read.2 skipped element
              have first' := element_reencodes kind version stream read.1 size read.2 skipped element
              rw [consumed] at first' tail
              have second := ih others (stream.drop size) elements later tail
              rw [List.flatten_cons, encode_fields_append, ← Except.ok.inj head, ← same]
              refine (Reencodes.join _ _ _ _ _ _ _ first' second).weaken _ _ _ _ _ ?_
              apply Iff.intro
              · intro canonical
                refine ⟨canonical.1, ?_⟩
                intro other again
                rw [skipped] at again
                rw [← Except.ok.inj again]
                exact canonical.2
              · intro canonical
                exact ⟨canonical.1, canonical.2 size skipped⟩

end Groups

-- Iteration goes through a parsed group as its framing did; the elements, when
-- all decode, are written back to the bytes of the group exactly when every
-- field was in its canonical spelling.
theorem typed_iteration_iff (version : CesrVersion) (buf rest raw : Bytes) (kind : GroupKind) (count : U32)
    (parsed : CesrGroup.parseOf version buf = .ok (.group kind raw count version, rest)) :
    FramedIteration kind raw version count ∧
      ∀ elements, (Elements.iter kind raw count version).Yields elements →
        (encodeFields version elements.flatten = some raw ↔ CanonicalElements kind version count.val raw) := by
  obtain ⟨size, sized, _⟩ := (parse_of_ok version buf rest _).mp parsed
  have framed : kind.skipAll version count.val raw = .ok raw.length := by
    cases sized_of_parsed version buf _ size sized with
    | group _ _ _ _ skipped => exact skipped
  refine ⟨framed_iteration kind raw version count framed, ?_⟩
  intro elements yields
  have items := (yields_iff kind version raw count elements).mp yields
  have reencodes := items_reencode kind version count.val raw.length raw elements framed items
  rw [← reencodes.exact, List.take_length]

def wideSextuple : Bytes :=
  asBytes "E" ++ List.replicate 43 0x41 ++ asBytes "1AAP1AAP1AAP" ++ (asBytes "UAE" ++ List.replicate 21 0x41) ++ asBytes "1AAP"

def narrowValues : List FieldValue :=
  [.matter ⟨.blake3_256, List.replicate 32 0, ""⟩, .matter ⟨.empty, [], ""⟩, .matter ⟨.empty, [], ""⟩,
    .matter ⟨.empty, [], ""⟩, .number ⟨.vast, 0⟩, .matter ⟨.empty, [], ""⟩]

theorem wide_number_not_restored :
    CesrGroup.parseOf .v2 (asBytes "-bAB" ++ wideSextuple) = .ok (.group .boundStateSextuple wideSextuple 1 .v2, []) ∧
      (Elements.iter .boundStateSextuple wideSextuple 1 .v2).Yields [narrowValues] ∧
      ∃ text, encodeFields .v2 [narrowValues].flatten = some text ∧ text ≠ wideSextuple := by
  refine ⟨by decide +kernel, ?_, ?_⟩
  · exact (yields_iff .boundStateSextuple .v2 wideSextuple 1 [narrowValues]).mpr (by decide +kernel)
  · exact ⟨asBytes "E" ++ List.replicate 43 0x41 ++ asBytes "1AAP1AAP1AAP" ++ (asBytes "U" ++ List.replicate 23 0x41) ++
      asBytes "1AAP", by decide +kernel, by decide +kernel⟩

theorem short_couple_restored :
    FramedIteration .firstSeenReplayCouple (asBytes "MAAAMAAB") .v1 1 ∧
      ∀ elements, (Elements.iter .firstSeenReplayCouple (asBytes "MAAAMAAB") 1 .v1).Yields elements →
        (encodeFields .v1 elements.flatten = some (asBytes "MAAAMAAB") ↔
          CanonicalElements .firstSeenReplayCouple .v1 1 (asBytes "MAAAMAAB")) :=
  typed_iteration_iff .v1 (asBytes "-EABMAAAMAAB") [] (asBytes "MAAAMAAB") .firstSeenReplayCouple 1 (by decide +kernel)

end Cesr.Stream
