import Cesr.Stream.Encode

set_option autoImplicit false

namespace Cesr.Stream

open Sextets Base64 Checks Calls Resume

def otherTable : CesrVersion → CesrVersion
  | .v1 => .v2
  | .v2 => .v1

-- The items of a group's iterator: its elements, until the first that does not read.
def elementItems (kind : GroupKind) (version : CesrVersion) : Nat → Bytes → List (Except ParseError (List FieldValue))
  | 0, _ => []
  | remaining + 1, raw =>
      match kind.element raw version with
      | .ok read => .ok read.1 :: elementItems kind version remaining (raw.drop read.2)
      | .error error => [.error error]

-- The iterators over two payloads yield the same groups, one by one, and the
-- iterators over these again; both come to an end, or both fail at the same place.
inductive SameItems (version other : CesrVersion) : Bytes → Bytes → Prop where
  | done : SameItems version other [] []
  | broken (left right : Bytes) (first second : ParseError) (failed : CesrGroup.parseOf version left = .error first)
      (failed' : CesrGroup.parseOf other right = .error second) : SameItems version other left right
  | elements (left right raw raw' rest rest' : Bytes) (kind : GroupKind) (count : U32)
      (parsed : CesrGroup.parseOf version left = .ok (.group kind raw count version, rest))
      (parsed' : CesrGroup.parseOf other right = .ok (.group kind raw' count other, rest'))
      (same : elementItems kind version count.val raw = elementItems kind other count.val raw')
      (later : SameItems version other rest rest') : SameItems version other left right
  | frame (left right payload payload' rest rest' : Bytes) (kind : FrameKind)
      (parsed : CesrGroup.parseOf version left = .ok (.frame kind payload version, rest))
      (parsed' : CesrGroup.parseOf other right = .ok (.frame kind payload' other, rest'))
      (tally : payload.length = payload'.length) (inner : SameItems version other payload payload')
      (later : SameItems version other rest rest') : SameItems version other left right

inductive SameGroup (version other : CesrVersion) : CesrGroup → CesrGroup → Prop where
  | elements (kind : GroupKind) (raw raw' : Bytes) (count : U32)
      (same : elementItems kind version count.val raw = elementItems kind other count.val raw') :
      SameGroup version other (.group kind raw count version) (.group kind raw' count other)
  | frame (kind : FrameKind) (payload payload' : Bytes) (tally : payload.length = payload'.length)
      (inner : SameItems version other payload payload') :
      SameGroup version other (.frame kind payload version) (.frame kind payload' other)

-- A payload that both tables read alike: ESSR payload groups, the only ones the
-- tables head with the same letter, whose payloads are so again, up to the end
-- or to a place where neither table has a group.
inductive ReadsAlike : Bytes → Prop where
  | done : ReadsAlike []
  | broken (payload : Bytes) (fails : ∀ version parsed, CesrGroup.parseOf version payload ≠ .ok parsed) : ReadsAlike payload
  | essr (payload inner rest : Bytes)
      (parsed : ∀ version, CesrGroup.parseOf version payload = .ok (.frame .essrPayload inner version, rest))
      (alike : ReadsAlike inner) (later : ReadsAlike rest) : ReadsAlike payload

def CesrGroup.survives : CesrGroup → Prop
  | .group kind _ count _ => kind.nestedSigGrammar = none ∨ count.val = 0
  | .frame _ payload _ => ReadsAlike payload

section Letters

theorem stream_hard_size_of {Code : Type} {asStr : Code → String} {fromHard : String → Except CounterCodeError Code}
    {hardSize softSize fullSize : Code → Nat} (table : CounterTable asStr fromHard hardSize softSize fullSize) (code : Code)
    (rest : Bytes) : streamHardSize (asBytes (asStr code) ++ rest) = .ok (hardSize code) :=
  stream_hard_size_steady.settled _ rest _ (table.headed code)

theorem same_hard (buf : Bytes) (code : CounterCodeV1) (other : CounterCodeV2) (count count' : U32)
    (read : readCounterV1 buf = .ok (code, count)) (read' : readCounterV2 buf = .ok (other, count')) : code.asStr = other.asStr := by
  obtain ⟨rest, same, _⟩ := (read_counter_ok counter_table_v1 buf code count).mp read
  obtain ⟨rest', same', _⟩ := (read_counter_ok counter_table_v2 buf other count').mp read'
  rw [List.append_assoc] at same same'
  have size := stream_hard_size_of counter_table_v1 code ((digits code.softSize count.val).map urlSafe.char ++ rest)
  have size' := stream_hard_size_of counter_table_v2 other ((digits other.softSize count'.val).map urlSafe.char ++ rest')
  rw [← same] at size
  rw [← same', size] at size'
  have lengths : code.hardSize = other.hardSize := Except.ok.inj size'
  apply as_bytes_injective
  have left := congrArg (List.take code.hardSize) same
  have right := congrArg (List.take other.hardSize) same'
  rw [List.take_left' (counter_table_v1.length code)] at left
  rw [List.take_left' (counter_table_v2.length other)] at right
  rw [← left, ← right, lengths]

theorem shared_codes (code : CounterCodeV1) (other : CounterCodeV2) (shape : shapeV1 code = shapeV2 other)
    (group : shapeV1 code ≠ .genusVersion) (letters : code.asStr = other.asStr) :
    shapeV1 code = .quadlets .essrPayload ∧ code.fullSize = other.fullSize ∧ code.softSize = other.softSize := by
  have pairs : (CounterCodeV1.all.all fun code => CounterCodeV2.all.all fun other => decide (shapeV1 code = shapeV2 other →
      shapeV1 code ≠ .genusVersion → code.asStr = other.asStr →
        shapeV1 code = .quadlets .essrPayload ∧ code.fullSize = other.fullSize ∧ code.softSize = other.softSize)) = true := by
    decide +kernel
  have listed : code ∈ CounterCodeV1.all := by cases code <;> decide
  have listed' : other ∈ CounterCodeV2.all := by cases other <;> decide
  exact of_decide_eq_true (List.all_eq_true.mp (List.all_eq_true.mp pairs code listed) other listed') shape group letters

theorem shared_counts (buf : Bytes) (code : CounterCodeV1) (other : CounterCodeV2) (count count' : U32)
    (read : readCounterV1 buf = .ok (code, count)) (read' : readCounterV2 buf = .ok (other, count'))
    (soft : code.softSize = other.softSize) : count = count' := by
  have letters := same_hard buf code other count count' read read'
  obtain ⟨rest, same, fits⟩ := (read_counter_ok counter_table_v1 buf code count).mp read
  obtain ⟨rest', same', fits'⟩ := (read_counter_ok counter_table_v2 buf other count').mp read'
  rw [same, letters, List.append_assoc, List.append_assoc, List.append_cancel_left_eq, ← soft] at same'
  have spelled := (List.append_inj same' (by simp only [List.length_map, length_digits])).1
  rw [← soft] at fits'
  have sextets := List.map_injective_iff.mpr (char_injective urlSafe) spelled
  apply Fin.ext
  rw [← number_digits code.softSize count.val fits, sextets, number_digits code.softSize count'.val fits']

theorem shared_head (buf : Bytes) (head head' : GroupShape × Nat × U32) (read : readShape .v1 buf = .ok head)
    (read' : readShape .v2 buf = .ok head') (shape : head.1 = head'.1) (group : head.1 ≠ .genusVersion) :
    head.1 = .quadlets .essrPayload ∧ head = head' := by
  simp only [readShape, bind_ok, pure_ok] at read read'
  obtain ⟨found, counter, same⟩ := read
  obtain ⟨found', counter', same'⟩ := read'
  rw [← same, ← same'] at shape
  rw [← same] at group
  have letters := same_hard buf found.1 found'.1 found.2 found'.2 counter counter'
  obtain ⟨essr, full, soft⟩ := shared_codes found.1 found'.1 shape group letters
  have counts := shared_counts buf found.1 found'.1 found.2 found'.2 counter counter' soft
  rw [← same, ← same']
  refine ⟨essr, ?_⟩
  dsimp only at shape
  rw [shape, full, counts]

end Letters

section Plain

theorem plain_fields (kind : GroupKind) (plain : kind.nestedSigGrammar = none) : Field.controllerSigs ∉ kind.fields := by
  cases kind <;> first | decide | cases plain

theorem field_read_other (field : Field) (plain : field ≠ .controllerSigs) (version other : CesrVersion) :
    field.read version = field.read other := by
  funext remaining
  cases field <;> first | rfl | exact absurd rfl plain

theorem read_fields_other (fields : List Field) (plain : Field.controllerSigs ∉ fields) (version other : CesrVersion) :
    readFields version fields = readFields other fields := by
  induction fields with
  | nil => rfl
  | cons field fields ih =>
      rw [List.mem_cons, not_or] at plain
      funext remaining
      rw [readFields, readFields, field_read_other field (Ne.symm plain.1) version other, ih plain.2]

theorem element_items_other (kind : GroupKind) (plain : kind.nestedSigGrammar = none) (version other : CesrVersion) (count : Nat)
    (raw : Bytes) : elementItems kind version count raw = elementItems kind other count raw := by
  induction count generalizing raw with
  | zero => rfl
  | succ count ih =>
      rw [elementItems, elementItems, GroupKind.element, GroupKind.element,
        read_fields_other kind.fields (plain_fields kind plain) version other]
      cases readFields other kind.fields raw with
      | ok read => exact congrArg _ (ih _)
      | error error => rfl

theorem skip_other (kind : GroupKind) (plain : kind.nestedSigGrammar = none) (version other : CesrVersion) (input : Bytes) :
    kind.skip input version = kind.skip input other := by
  unfold GroupKind.skip
  simp only [plain]

theorem skip_all_other (kind : GroupKind) (plain : kind.nestedSigGrammar = none) (version other : CesrVersion) (count : Nat) :
    kind.skipAll version count = kind.skipAll other count := by
  rw [skip_all_eq, skip_all_eq]
  congr 1
  funext input
  exact skip_other kind plain version other input

end Plain

section Nested

theorem read_count_once (cursor : NestedSigCursor) (tail : Bytes) (read read' : U32 × Nat)
    (first : cursor.readCount .v1 tail = .ok read) (second : cursor.readCount .v2 tail = .ok read') : False := by
  simp only [NestedSigCursor.readCount, bind_ok, reject_if_ok, exists_done, not_not] at first second
  obtain ⟨found, counter, code, _⟩ := first
  obtain ⟨found', counter', code', _⟩ := second
  have letters := same_hard tail found.1 found'.1 found.2 found'.2 counter counter'
  rw [code, code'] at letters
  exact absurd letters (by decide)

theorem skip_nested_once (kind : GroupKind) (nested : kind.nestedSigGrammar ≠ none) (input : Bytes) (size size' : Nat)
    (version : CesrVersion) (first : kind.skip input version = .ok size)
    (second : kind.skip input (otherTable version) = .ok size') : False := by
  unfold GroupKind.skip at first second
  cases grammar : kind.nestedSigGrammar with
  | none => exact nested grammar
  | some grammar' =>
      simp only [grammar] at first second
      obtain ⟨head, read, _, matters, counted, _, _⟩ := (advance_new_ok _ _ _ _ _ _).mp first
      obtain ⟨head', read', _, matters', counted', _, _⟩ := (advance_new_ok _ _ _ _ _ _).mp second
      rw [matters] at matters'
      cases matters'
      cases version with
      | v1 => exact read_count_once _ _ read read' counted counted'
      | v2 => exact read_count_once _ _ read' read counted' counted

end Nested

section Frames

def CesrGroup.shape : CesrGroup → GroupShape
  | .group kind _ _ _ => .elements kind
  | .frame kind _ _ => .quadlets kind

theorem shape_ne_genus (group : CesrGroup) : group.shape ≠ .genusVersion := by
  cases group <;> exact nofun

theorem sized_of_shape (version : CesrVersion) (buf : Bytes) (group : CesrGroup) (size : Nat)
    (read : CesrGroup.sizedOf version buf = .ok (group, size)) :
    ∃ head, readShape version buf = .ok head ∧ head.1 = group.shape ∧
      payloadSized version head (buf.drop head.2.1) = .ok (group, size - head.2.1) ∧ head.2.1 ≤ size := by
  simp only [CesrGroup.sizedOf, bind_ok, pure_ok, Prod.mk.injEq] at read
  obtain ⟨head, shaped, sized, framed, same, counted⟩ := read
  have rest : size - head.2.1 = sized.2 := by omega
  refine ⟨head, shaped, ?_, by rw [rest, ← same]; exact framed, by omega⟩
  rw [← same]
  unfold payloadSized at framed
  cases shape : head.1 with
  | elements kind =>
      simp only [shape, bind_ok, pure_ok] at framed
      obtain ⟨_, _, same'⟩ := framed
      rw [← same']
      rfl
  | quadlets kind =>
      simp only [shape, bind_ok, pure_ok] at framed
      obtain ⟨_, _, same'⟩ := framed
      rw [← same']
      rfl
  | genusVersion =>
      simp only [shape] at framed
      cases framed

theorem shared_heads (version : CesrVersion) (buf : Bytes) (head head' : GroupShape × Nat × U32)
    (read : readShape version buf = .ok head) (read' : readShape (otherTable version) buf = .ok head') (shape : head.1 = head'.1)
    (group : head.1 ≠ .genusVersion) : head.1 = .quadlets .essrPayload ∧ head = head' := by
  cases version with
  | v1 => exact shared_head buf head head' read read' shape group
  | v2 =>
      obtain ⟨essr, same⟩ := shared_head buf head' head read' read shape.symm (by rw [← shape]; exact group)
      exact ⟨by rw [shape]; exact essr, same.symm⟩

theorem shared_group (version : CesrVersion) (buf rest rest' : Bytes) (group group' : CesrGroup)
    (parsed : CesrGroup.parseOf version buf = .ok (group, rest))
    (parsed' : CesrGroup.parseOf (otherTable version) buf = .ok (group', rest')) (shape : group.shape = group'.shape) :
    ∃ inner, group = .frame .essrPayload inner version ∧ group' = .frame .essrPayload inner (otherTable version) ∧ rest = rest' := by
  obtain ⟨size, read, behind⟩ := (parse_of_ok version buf rest group).mp parsed
  obtain ⟨size', read', behind'⟩ := (parse_of_ok _ buf rest' group').mp parsed'
  obtain ⟨head, shaped, same, framed, reach⟩ := sized_of_shape version buf group size read
  obtain ⟨head', shaped', same', framed', reach'⟩ := sized_of_shape _ buf group' size' read'
  obtain ⟨essr, heads⟩ := shared_heads version buf head head' shaped shaped' (by rw [same, same', shape])
    (by rw [same]; exact shape_ne_genus group)
  rw [← heads] at framed' reach'
  simp only [payloadSized, essr, bind_ok, pure_ok, take_bytes_ok, Prod.mk.injEq] at framed framed'
  obtain ⟨offset, ⟨_, whole⟩, built, sized⟩ := framed
  obtain ⟨offset', ⟨_, whole'⟩, built', sized'⟩ := framed'
  refine ⟨(buf.drop head.2.1).take offset, built.symm, ?_, ?_⟩
  · rw [← built', whole, whole']
  · have sizes : size = size' := by omega
    rw [behind, behind', sizes]

theorem essr_both (version : CesrVersion) (buf inner rest : Bytes)
    (parsed : CesrGroup.parseOf version buf = .ok (.frame .essrPayload inner version, rest))
    (parsed' : CesrGroup.parseOf (otherTable version) buf = .ok (.frame .essrPayload inner (otherTable version), rest)) :
    ∀ table, CesrGroup.parseOf table buf = .ok (.frame .essrPayload inner table, rest) := by
  intro table
  cases version <;> cases table <;> assumption

theorem same_items_alike (version : CesrVersion) (left right : Bytes) (same : SameItems version (otherTable version) left right)
    (equal : left = right) : ReadsAlike left := by
  induction same with
  | done => exact .done
  | broken left right first second failed failed' =>
      apply ReadsAlike.broken
      intro table parsed accepted
      have one : table = version ∨ table = otherTable version := by cases version <;> cases table <;> decide
      rcases one with same | same
      · rw [same, failed] at accepted
        cases accepted
      · rw [same, equal, failed'] at accepted
        cases accepted
  | elements left right raw raw' rest rest' kind count parsed parsed' same later ih =>
      rw [← equal] at parsed'
      obtain ⟨_, impossible, _⟩ := shared_group version left rest rest' _ _ parsed parsed' rfl
      cases impossible
  | frame left right payload payload' rest rest' kind parsed parsed' tally inner later innerIh laterIh =>
      rw [← equal] at parsed'
      obtain ⟨inner', first, second, rests⟩ := shared_group version left rest rest' _ _ parsed parsed' rfl
      cases first
      cases second
      rw [← rests] at parsed'
      exact .essr left payload rest (essr_both version left payload rest parsed parsed') (innerIh rfl) (laterIh rests)

theorem alike_same_items (version : CesrVersion) (payload : Bytes) (alike : ReadsAlike payload) :
    SameItems version (otherTable version) payload payload := by
  induction alike with
  | done => exact .done
  | broken payload fails =>
      cases first : CesrGroup.parseOf version payload with
      | ok parsed => exact absurd first (fails version parsed)
      | error error =>
          cases second : CesrGroup.parseOf (otherTable version) payload with
          | ok parsed => exact absurd second (fails (otherTable version) parsed)
          | error error' => exact .broken payload payload error error' first second
  | essr payload inner rest parsed alike later innerIh laterIh =>
      exact .frame payload payload inner inner rest rest .essrPayload (parsed version) (parsed (otherTable version)) rfl innerIh
        laterIh

end Frames

section Translation

theorem encodes_known (version : CesrVersion) (group : CesrGroup) (dst final : Bytes)
    (encoded : exec (group.encodeCesr version) dst = (.ok (), final)) : KnownShape version group.shape := by
  cases version with
  | v1 =>
      cases group with
      | group kind raw count given =>
          cases coded : kind.codeV1 with
          | none =>
              rw [CesrGroup.encodeCesr, CesrGroup.encodeCesrV1, coded] at encoded
              cases encoded
          | some code => exact ⟨code, by cases kind <;> cases coded <;> rfl⟩
      | frame kind payload given =>
          cases coded : kind.codeV1 with
          | none =>
              rw [CesrGroup.encodeCesr, CesrGroup.encodeCesrV1, coded] at encoded
              cases encoded
          | some code => exact ⟨code, by cases kind <;> cases coded <;> rfl⟩
  | v2 =>
      cases group with
      | group kind raw count given => exact ⟨kind.codeV2, by cases kind <;> rfl⟩
      | frame kind payload given => exact ⟨kind.codeV2, by cases kind <;> rfl⟩

theorem translated_parse (version : CesrVersion) (shape : GroupShape) (hard : String) (count : U32) (payload dst written : Bytes)
    (headed : HeadsAs version shape hard 2)
    (encoded : exec (encodeCodeInto hard 2 count >>= fun _ => modify fun dst => dst ++ payload) dst = (.ok (), dst ++ written))
    (group : CesrGroup) :
    CesrGroup.parseFor version written = .ok (group, []) ↔
      ∃ start, payloadSized version (shape, start, count) payload = .ok (group, payload.length) := by
  obtain ⟨fits, same⟩ := (written_ok hard count payload dst _).mp encoded
  have spelled := List.append_cancel_left same
  have read := sized_of_headed version shape hard 2 count _ payload headed fits rfl
  have start : ∀ first second, payloadSized version (shape, first, count) payload = payloadSized version (shape, second, count) payload :=
    fun _ _ => rfl
  rw [parse_for_ok, parse_of_ok, spelled, read]
  simp only [bind_ok, pure_ok, Prod.mk.injEq]
  apply Iff.intro
  · intro found
    obtain ⟨size, ⟨sized, framed, same', counted⟩, behind⟩ := found
    have reach : sized.2 ≤ payload.length := (payload_sized_reads version _).within payload sized framed
    have whole := List.drop_eq_nil_iff.mp behind.symm
    rw [List.length_append] at whole
    have all : sized.2 = payload.length := by omega
    exact ⟨_, by rw [framed, ← same', ← all]⟩
  · intro found
    obtain ⟨first, framed⟩ := found
    refine ⟨_, ⟨(group, payload.length), by rw [start _ first]; exact framed, rfl, rfl⟩, ?_⟩
    rw [← List.length_append, List.drop_length]

theorem elements_survive (version : CesrVersion) (kind : GroupKind) (raw : Bytes) (count : U32)
    (skipped : kind.skipAll version count.val raw = .ok raw.length) :
    (∃ again, (∃ start, payloadSized (otherTable version) (.elements kind, start, count) raw = .ok (again, raw.length)) ∧
        SameGroup version (otherTable version) (.group kind raw count version) again) ↔
      (CesrGroup.group kind raw count version).survives := by
  have built : ∀ start size, kind.skipAll (otherTable version) count.val raw = .ok size → size = raw.length →
      payloadSized (otherTable version) (.elements kind, start, count) raw =
        .ok (CesrGroup.group kind raw count (otherTable version), raw.length) := by
    intro start size read same
    simp only [payloadSized, bind_ok, pure_ok]
    exact ⟨size, read, by rw [same, List.take_length]⟩
  apply Iff.intro
  · intro found
    obtain ⟨again, ⟨start, framed⟩, _⟩ := found
    simp only [payloadSized, bind_ok] at framed
    obtain ⟨size, read, _⟩ := framed
    by_cases plain : kind.nestedSigGrammar = none
    · exact .inl plain
    · refine .inr ?_
      cases counted : count.val with
      | zero => rfl
      | succ rest =>
          rw [counted, skip_all_eq, skip_times_succ] at skipped read
          obtain ⟨first, skip, _⟩ := skipped
          obtain ⟨second, skip', _⟩ := read
          exact (skip_nested_once kind plain raw first second version skip skip').elim
  · intro survives
    rcases survives with plain | empty
    · rw [skip_all_other kind plain version (otherTable version)] at skipped
      exact ⟨_, ⟨0, built 0 raw.length skipped rfl⟩,
        .elements kind raw raw count (element_items_other kind plain version (otherTable version) count.val raw)⟩
    · rw [empty] at skipped
      have none' : 0 = raw.length := Except.ok.inj skipped
      refine ⟨_, ⟨0, built 0 0 (by rw [empty]; rfl) none'⟩, .elements kind raw raw count ?_⟩
      rw [empty]
      rfl

theorem frame_survives (version : CesrVersion) (kind : FrameKind) (payload : Bytes) (count : U32)
    (sized : payload.length = count.val * 4) :
    (∃ again, (∃ start, payloadSized (otherTable version) (.quadlets kind, start, count) payload = .ok (again, payload.length)) ∧
        SameGroup version (otherTable version) (.frame kind payload version) again) ↔
      (CesrGroup.frame kind payload version).survives := by
  have built : ∀ start, payloadSized (otherTable version) (.quadlets kind, start, count) payload =
      .ok (CesrGroup.frame kind payload (otherTable version), payload.length) := by
    intro start
    simp only [payloadSized, bind_ok, pure_ok, take_bytes_ok]
    exact ⟨payload.length, ⟨Nat.le_of_eq sized.symm, sized⟩, by rw [List.take_length]⟩
  apply Iff.intro
  · intro found
    obtain ⟨again, ⟨start, framed⟩, same⟩ := found
    rw [built start] at framed
    cases framed
    cases same with
    | frame _ _ _ tally inner => exact same_items_alike version payload payload inner rfl
  · intro alike
    exact ⟨_, ⟨0, built 0⟩, .frame kind payload payload rfl (alike_same_items version payload alike)⟩

-- A group keeps its meaning under the other table exactly when nothing inside it is a counter,
-- or the counters inside it are those both tables share.
theorem translates_iff (version : CesrVersion) (buf rest dst written : Bytes) (group : CesrGroup)
    (parsed : CesrGroup.parseFor version buf = .ok (group, rest))
    (encoded : exec (group.encodeCesr (otherTable version)) dst = (.ok (), dst ++ written)) :
    (∃ again, CesrGroup.parseFor (otherTable version) written = .ok (again, []) ∧
        SameGroup version (otherTable version) group again) ↔ group.survives := by
  obtain ⟨size, read, _⟩ := (parse_of_ok version buf rest group).mp ((parse_for_ok version buf rest group).mp parsed)
  have known := encodes_known (otherTable version) group dst _ encoded
  cases sized_of_parsed version buf group size read with
  | group kind raw count _ skipped =>
      obtain ⟨hard, headed, encodes⟩ := elements_code (otherTable version) kind known
      rw [encodes] at encoded
      simp only [translated_parse (otherTable version) _ hard count raw dst written headed encoded]
      exact elements_survive version kind raw count skipped
  | frame kind payload count _ sized =>
      obtain ⟨hard, headed, encodes⟩ := quadlets_code (otherTable version) kind known
      rw [encodes, exec_bind, exec_check, frame_quadlet_count_ok payload count sized] at encoded
      simp only [translated_parse (otherTable version) _ hard count payload dst written headed encoded]
      exact frame_survives version kind payload count sized

theorem translates_controller_sigs :
    let signature := List.replicate 88 0x41
    (∃ again, CesrGroup.parseFor (otherTable .v1) (asBytes "-KAB" ++ signature) = .ok (again, []) ∧
        SameGroup .v1 (otherTable .v1) (.group .controllerIdxSig signature (Fin.ofNat (2 ^ 32) 1) .v1) again) ↔
      (CesrGroup.group .controllerIdxSig signature (Fin.ofNat (2 ^ 32) 1) .v1).survives :=
  translates_iff .v1 (asBytes "-AAB" ++ List.replicate 88 0x41) [] [] (asBytes "-KAB" ++ List.replicate 88 0x41)
    (.group .controllerIdxSig (List.replicate 88 0x41) (Fin.ofNat (2 ^ 32) 1) .v1) (by decide +kernel) (by decide +kernel)

-- The counter in front of the elements is translated, the one inside the element is not.
theorem trans_last_untranslated :
    let raw := asBytes "DAAAAAAAAAAAAAAAAAAAAAAAAAAAAAAAAAAAAAAAAAAA-AAA"
    CesrGroup.parseFor .v1 (asBytes "-HAB" ++ raw) = .ok (.group .transLastIdxSigGroup raw (Fin.ofNat (2 ^ 32) 1) .v1, []) ∧
      exec ((CesrGroup.group .transLastIdxSigGroup raw (Fin.ofNat (2 ^ 32) 1) .v1).encodeCesr .v2) [] = (.ok (), asBytes "-YAB" ++ raw) ∧
      CesrGroup.parseFor .v2 (asBytes "-YAB" ++ raw) = .error (.nestedCounterMismatch "-Y" "-K" "-A") := by
  decide +kernel

end Translation

end Cesr.Stream
