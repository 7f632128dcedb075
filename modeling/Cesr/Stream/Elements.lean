import Cesr.Stream.Translate

set_option autoImplicit false

namespace Cesr.Stream

open Sextets Base64 Checks Calls Resume

structure Elements where
  kind : GroupKind
  raw : Bytes
  cursor : Nat
  remaining : Nat
  version : CesrVersion
  errored : Bool
deriving DecidableEq, Repr

def Elements.iter (kind : GroupKind) (raw : Bytes) (count : U32) (version : CesrVersion) : Elements where
  kind := kind
  raw := raw
  cursor := 0
  remaining := count.val
  version := version
  errored := false

def Elements.next (elements : Elements) : Option (Except ParseError (List FieldValue)) × Elements :=
  if elements.remaining = 0 ∨ elements.errored then (none, elements)
  else
    match elements.kind.element (elements.raw.drop elements.cursor) elements.version with
    | .ok read =>
        (some (.ok read.1),
          { elements with remaining := elements.remaining - 1, cursor := elements.cursor + read.2 })
    | .error error => (some (.error error), { elements with remaining := elements.remaining - 1, errored := true })

def Elements.after : Nat → Elements → Elements
  | 0, elements => elements
  | calls + 1, elements => Elements.after calls elements.next.2

def Elements.nth (call : Nat) (elements : Elements) : Option (Except ParseError (List FieldValue)) :=
  (elements.after call).next.1

section Fields

def Field.isMatter : Field → Bool
  | .siger | .controllerSigs => false
  | _ => true

def Field.skip (field : Field) (version : CesrVersion) (remaining : Bytes) : Except ParseError Nat :=
  match field with
  | .siger => skipIndexer remaining
  | .controllerSigs => (nestedControllerSigs remaining version).map Prod.snd
  | _ => skipMatter remaining

def skipFields (version : CesrVersion) : List Field → Bytes → Except ParseError Nat
  | [], _ => .ok 0
  | field :: fields, remaining => do
      let first ← field.skip version remaining
      let others ← skipFields version fields (remaining.drop first)
      pure (first + others)

theorem read_matter_ok (remaining : Bytes) (matter : Matter MatterCode) (size : Nat) :
    readMatter remaining = .ok (matter, size) ↔
      skipMatter remaining = .ok size ∧ fromQualifiedBase64 (remaining.take size) = .ok matter := by
  simp only [readMatter, skipMatter, bind_ok, map_error_ok, pure_ok, Prod.mk.injEq, take_bytes_ok]
  apply Iff.intro
  · intro found
    obtain ⟨fs, sized, _, ⟨reach, taken⟩, matter', decoded, same, counted⟩ := found
    rw [← counted, ← same]
    exact ⟨⟨fs, sized, reach, rfl⟩, decoded⟩
  · intro found
    obtain ⟨⟨fs, sized, reach, same⟩, decoded⟩ := found
    rw [same] at decoded
    exact ⟨fs, sized, fs, ⟨reach, rfl⟩, matter, decoded, rfl, same.symm⟩

theorem read_indexer_ok (remaining : Bytes) (indexer : Indexer) (size : Nat)
    (read : readIndexer remaining = .ok (indexer, size)) :
    skipIndexer remaining = .ok size ∧ Indexer.fromQb64 remaining = .ok (indexer, size) := by
  simp only [readIndexer, bind_ok, map_error_ok, reject_if_ok, exists_done, pure_ok, take_bytes_ok] at read
  obtain ⟨_, given, decoded, _, ⟨reach, _⟩, same⟩ := read
  rw [same] at decoded reach
  refine ⟨?_, decoded⟩
  obtain ⟨⟨payload, buf, reads⟩, counted⟩ := (from_qb64_ok remaining indexer size).mp decoded
  obtain ⟨rest, framed⟩ := reads.framed
  have headed : ∃ behind, remaining = asBytes indexer.code.asStr ++ behind := by
    rw [framed, Indexer.header, List.append_assoc, List.append_assoc, List.append_assoc]
    exact ⟨_, rfl⟩
  rw [counted] at reach ⊢
  exact (skip_indexer_ok remaining indexer.code.size).mpr ⟨indexer.code, headed, reach, rfl⟩

inductive FieldReads (version : CesrVersion) (remaining : Bytes) : Field → FieldValue → Nat → Prop where
  | matter (field : Field) (matter : Matter MatterCode) (size : Nat) (one : field.isMatter = true) (plain : field ≠ .number)
      (read : readMatter remaining = .ok (matter, size)) : FieldReads version remaining field (.matter matter) size
  | number (matter : Matter MatterCode) (code : NumberCode) (size : Nat) (read : readMatter remaining = .ok (matter, size))
      (narrowed : NumberCode.tryFrom matter.code = .ok code) :
      FieldReads version remaining .number (.number ⟨code, numberValue matter.raw⟩) size
  | siger (indexer : Indexer) (size : Nat) (read : readIndexer remaining = .ok (indexer, size)) :
      FieldReads version remaining .siger (.indexer indexer) size
  | sigs (value : FieldValue) (size : Nat) (read : nestedControllerSigs remaining version = .ok (value, size)) :
      FieldReads version remaining .controllerSigs value size

theorem read_narrow_ok {Code : Type} (expected : String) (tryFrom : MatterCode → Except ValidationError Code)
    (remaining : Bytes) (value : FieldValue) (size : Nat) (read : readNarrow expected tryFrom remaining = .ok (value, size)) :
    ∃ matter, readMatter remaining = .ok (matter, size) ∧ value = .matter matter := by
  simp only [readNarrow, bind_ok, map_error_ok, pure_ok, Prod.mk.injEq] at read
  obtain ⟨found, taken, _, _, same, counted⟩ := read
  refine ⟨found.1, ?_, same.symm⟩
  rw [taken, ← counted]

theorem read_identifier_prefix_ok (remaining : Bytes) (value : FieldValue) (size : Nat)
    (read : readIdentifierPrefix remaining = .ok (value, size)) :
    ∃ matter, readMatter remaining = .ok (matter, size) ∧ value = .matter matter := by
  simp only [readIdentifierPrefix, bind_ok] at read
  obtain ⟨found, taken, chosen⟩ := read
  cases key : VerKeyCode.tryFrom found.1.code with
  | ok code =>
      simp only [key, pure_ok, Prod.mk.injEq] at chosen
      refine ⟨found.1, ?_, chosen.1.symm⟩
      rw [taken, ← chosen.2]
  | error error =>
      simp only [key, bind_ok, pure_ok, Prod.mk.injEq] at chosen
      obtain ⟨_, _, same, counted⟩ := chosen
      refine ⟨found.1, ?_, same.symm⟩
      rw [taken, ← counted]

theorem field_reads (field : Field) (version : CesrVersion) (remaining : Bytes) (value : FieldValue) (size : Nat)
    (read : field.read version remaining = .ok (value, size)) : FieldReads version remaining field value size := by
  have narrow : ∀ {Code : Type} (expected : String) (tryFrom : MatterCode → Except ValidationError Code),
      readNarrow expected tryFrom remaining = .ok (value, size) → field.isMatter = true → field ≠ .number →
        FieldReads version remaining field value size := by
    intro Code expected tryFrom narrowed one plain
    obtain ⟨matter, taken, same⟩ := read_narrow_ok expected tryFrom remaining value size narrowed
    rw [same]
    exact .matter field matter size one plain taken
  cases field with
  | verfer => exact narrow _ _ read rfl (by decide)
  | diger => exact narrow _ _ read rfl (by decide)
  | cigar => exact narrow _ _ read rfl (by decide)
  | verser => exact narrow _ _ read rfl (by decide)
  | noncer => exact narrow _ _ read rfl (by decide)
  | labeler => exact narrow _ _ read rfl (by decide)
  | texter => exact narrow _ _ read rfl (by decide)
  | identifierPrefix =>
      obtain ⟨matter, taken, same⟩ := read_identifier_prefix_ok remaining value size read
      rw [same]
      exact .matter _ matter size rfl (by decide) taken
  | matter =>
      cases taken : readMatter remaining with
      | error error =>
          rw [Field.read, taken] at read
          cases read
      | ok found =>
          rw [Field.read, taken] at read
          cases read
          exact .matter _ found.1 found.2 rfl (by decide) taken
  | number =>
      simp only [Field.read, readNumber, bind_ok, map_error_ok, pure_ok, Prod.mk.injEq] at read
      obtain ⟨found, taken, code, narrowed, same, counted⟩ := read
      rw [← same]
      refine .number found.1 code size ?_ narrowed
      rw [taken, ← counted]
  | siger =>
      cases taken : readIndexer remaining with
      | error error =>
          rw [Field.read, taken] at read
          cases read
      | ok found =>
          rw [Field.read, taken] at read
          cases read
          exact .siger found.1 found.2 taken
  | controllerSigs => exact .sigs value size read

theorem field_consumes (field : Field) (version : CesrVersion) (remaining : Bytes) (value : FieldValue) (size : Nat)
    (read : field.read version remaining = .ok (value, size)) : field.skip version remaining = .ok size := by
  cases field_reads field version remaining value size read with
  | matter _ matter _ one plain taken =>
      have skipped := ((read_matter_ok remaining matter size).mp taken).1
      cases field <;> first | exact skipped | cases one
  | number matter code _ taken narrowed => exact ((read_matter_ok remaining matter size).mp taken).1
  | siger indexer _ taken => exact (read_indexer_ok remaining indexer size taken).1
  | sigs _ _ taken =>
      rw [Field.skip, taken]
      rfl

theorem read_fields_consume (version : CesrVersion) (fields : List Field) (remaining : Bytes) (values : List FieldValue)
    (total : Nat) (read : readFields version fields remaining = .ok (values, total)) :
    skipFields version fields remaining = .ok total := by
  induction fields generalizing remaining values total with
  | nil =>
      cases read
      rfl
  | cons field fields ih =>
      simp only [readFields, bind_ok, pure_ok, Prod.mk.injEq] at read
      obtain ⟨first, head, others, tail, _, counted⟩ := read
      simp only [skipFields, bind_ok, pure_ok]
      exact ⟨first.2, field_consumes field version remaining first.1 first.2 head, others.2,
        ih (remaining.drop first.2) others.1 others.2 tail, counted⟩

end Fields

section Kinds

theorem skip_fields_append (version : CesrVersion) (front back : List Field) (remaining : Bytes) (total : Nat) :
    skipFields version (front ++ back) remaining = .ok total ↔
      ∃ first second, skipFields version front remaining = .ok first ∧
        skipFields version back (remaining.drop first) = .ok second ∧ first + second = total := by
  induction front generalizing remaining total with
  | nil =>
      simp only [List.nil_append, skipFields, Except.ok.injEq]
      apply Iff.intro
      · intro skipped
        exact ⟨0, total, rfl, skipped, Nat.zero_add total⟩
      · intro found
        obtain ⟨first, second, none', skipped, same⟩ := found
        rw [← none', List.drop_zero] at skipped
        rw [skipped, ← same, ← none', Nat.zero_add]
  | cons field front ih =>
      simp only [List.cons_append, skipFields, bind_ok, pure_ok]
      apply Iff.intro
      · intro found
        obtain ⟨head, skipped, tail, later, same⟩ := found
        obtain ⟨first, second, front', back', split⟩ := (ih (remaining.drop head) tail).mp later
        rw [List.drop_drop] at back'
        exact ⟨head + first, second, ⟨head, skipped, first, front', rfl⟩, back', by omega⟩
      · intro found
        obtain ⟨_, second, ⟨head, skipped, first, front', split⟩, back', same⟩ := found
        rw [← split, ← List.drop_drop] at back'
        exact ⟨head, skipped, first + second, (ih _ _).mpr ⟨first, second, front', back', rfl⟩, by omega⟩

theorem skip_fields_matters (version : CesrVersion) (fields : List Field) (matters : ∀ field ∈ fields, field.isMatter = true)
    (remaining : Bytes) : skipFields version fields remaining = skipMatters fields.length remaining := by
  induction fields generalizing remaining with
  | nil => rfl
  | cons field fields ih =>
      have one := matters field List.mem_cons_self
      have head : field.skip version remaining = skipMatter remaining := by
        cases field <;> first | rfl | cases one
      rw [skipFields, head, List.length_cons, skipMatters]
      apply bind_congr
      intro first
      rw [ih (fun other inside => matters other (List.mem_cons_of_mem field inside))]

theorem skip_fields_indexers (version : CesrVersion) (count : Nat) (remaining : Bytes) :
    skipFields version (List.replicate count .siger) remaining = skipIndexers count remaining := by
  induction count generalizing remaining with
  | zero => rfl
  | succ count ih =>
      rw [List.replicate_succ, skipFields, Field.skip, skipIndexers]
      apply bind_congr
      intro first
      rw [ih]

theorem plain_kind_fields (kind : GroupKind) (plain : kind.nestedSigGrammar = none) :
    kind.fields = kind.fields.take kind.skipped.1 ++ List.replicate kind.skipped.2 .siger ∧
      (∀ field ∈ kind.fields.take kind.skipped.1, field.isMatter = true) ∧
        (kind.fields.take kind.skipped.1).length = kind.skipped.1 := by
  cases kind <;> first | decide | cases plain

theorem nested_kind_fields (kind : GroupKind) (grammar : Nat × String × String) (nested : kind.nestedSigGrammar = some grammar) :
    kind.fields = kind.fields.take grammar.1 ++ [.controllerSigs] ∧
      (∀ field ∈ kind.fields.take grammar.1, field.isMatter = true) ∧ (kind.fields.take grammar.1).length = grammar.1 := by
  cases kind <;> cases nested <;> decide

-- The counter of a nested group is sized as it is read, under either table:
-- the V1 table, which is asked first, does not know the V2 code.
theorem skip_counter_v1 (tail : Bytes) (code : CounterCodeV1) (count : U32) (read : readCounterV1 tail = .ok (code, count)) :
    skipCounter tail = .ok code.fullSize := by
  obtain ⟨rest, spelled, _⟩ := (read_counter_ok counter_table_v1 tail code count).mp read
  have reach : code.fullSize ≤ tail.length := (read_counter_v1_reads).within tail (code, count) read
  have coded : CounterCodeV1.fromBase64Stream tail = .ok code :=
    (hard_from_stream_ok counter_table_v1 tail code).mpr ⟨_, by rw [spelled, List.append_assoc]⟩
  unfold skipCounter
  rw [coded]
  exact (take_bytes_ok tail code.fullSize code.fullSize).mpr ⟨reach, rfl⟩

theorem skip_counter_v2 (tail : Bytes) (count : U32) (read : readCounterV2 tail = .ok (.controllerIdxSigs, count)) :
    skipCounter tail = .ok CounterCodeV2.controllerIdxSigs.fullSize := by
  obtain ⟨rest, spelled, _⟩ := (read_counter_ok counter_table_v2 tail .controllerIdxSigs count).mp read
  have reach := (read_counter_v2_reads).within tail (.controllerIdxSigs, count) read
  have coded : CounterCodeV2.fromBase64Stream tail = .ok .controllerIdxSigs :=
    (hard_from_stream_ok counter_table_v2 tail .controllerIdxSigs).mpr ⟨_, by rw [spelled, List.append_assoc]⟩
  have sized := stream_hard_size_of counter_table_v2 .controllerIdxSigs
    ((digits CounterCodeV2.controllerIdxSigs.softSize count.val).map urlSafe.char ++ rest)
  have hard := (counter_hard_steady 2).settled (asBytes "-K")
    ((digits CounterCodeV2.controllerIdxSigs.softSize count.val).map urlSafe.char ++ rest) "-K" (by decide)
  have unknown : CounterCodeV1.fromHard "-K" = .error (.unknownCode (some "-K")) := by decide
  have other : CounterCodeV1.fromBase64Stream tail = .error (.unknownCode (some "-K")) := by
    rw [CounterCodeV1.fromBase64Stream, spelled, List.append_assoc, sized, ok_bind]
    show counterHard 2 (asBytes "-K" ++ _) >>= _ = _
    rw [hard, ok_bind, unknown]
  unfold skipCounter
  rw [other, coded]
  exact (take_bytes_ok tail _ _).mpr ⟨reach, rfl⟩

theorem nested_sigs_consume (cursor : NestedSigCursor) (version : CesrVersion) (tail : Bytes) (read : U32 × Nat)
    (counted : cursor.readCount version tail = .ok read) (value : FieldValue) (size : Nat)
    (nested : nestedControllerSigs tail version = .ok (value, size)) :
    ∃ sigs, skipIndexers read.1.val (tail.drop read.2) = .ok sigs ∧ size = read.2 + sigs ∧
      value = .sigs ((tail.drop read.2).take sigs) read.1 := by
  cases version with
  | v1 =>
      simp only [NestedSigCursor.readCount, bind_ok, reject_if_ok, exists_done, not_not, pure_ok] at counted
      obtain ⟨found, counter, code, same⟩ := counted
      rw [← same]
      simp only [nestedControllerSigs, skip_counter_v1 tail found.1 found.2 counter, ok_bind, counter, Except.map, bind_ok,
        pure_ok] at nested
      obtain ⟨sigs, listed, same'⟩ := nested
      cases same'
      exact ⟨sigs, listed, rfl, rfl⟩
  | v2 =>
      simp only [NestedSigCursor.readCount, bind_ok, reject_if_ok, exists_done, not_not, pure_ok] at counted
      obtain ⟨found, counter, code, same⟩ := counted
      rw [← same, code]
      have skipped := skip_counter_v2 tail found.2 (by rw [counter, ← code])
      simp only [nestedControllerSigs, skipped, ok_bind, counter, Except.map, bind_ok, pure_ok] at nested
      obtain ⟨sigs, listed, same'⟩ := nested
      cases same'
      exact ⟨sigs, listed, rfl, rfl⟩

theorem skip_fields_kind (kind : GroupKind) (version : CesrVersion) (input : Bytes) (size total : Nat)
    (skipped : kind.skip input version = .ok size) (fields : skipFields version kind.fields input = .ok total) : total = size := by
  unfold GroupKind.skip at skipped
  cases grammar : kind.nestedSigGrammar with
  | none =>
      obtain ⟨split, matters, counted⟩ := plain_kind_fields kind grammar
      rw [split, skip_fields_append] at fields
      obtain ⟨first, second, front, back, same⟩ := fields
      rw [skip_fields_matters version _ matters, counted] at front
      rw [skip_fields_indexers] at back
      simp only [grammar, bind_ok, pure_ok] at skipped
      obtain ⟨first', front', second', back', same'⟩ := skipped
      rw [front'] at front
      cases front
      rw [back'] at back
      cases back
      omega
  | some grammar' =>
      obtain ⟨split, matters, counted⟩ := nested_kind_fields kind grammar' grammar
      rw [split, skip_fields_append] at fields
      obtain ⟨first, second, front, back, same⟩ := fields
      rw [skip_fields_matters version _ matters, counted] at front
      simp only [grammar] at skipped
      obtain ⟨head, read, sigs, front', counter, listed, same'⟩ := (advance_new_ok _ _ _ _ _ _).mp skipped
      rw [front', Except.ok.injEq] at front
      rw [← front] at back same
      simp only [skipFields, bind_ok, pure_ok] at back
      obtain ⟨last, nested, _, none', sum⟩ := back
      rw [Field.skip] at nested
      cases taken : nestedControllerSigs (input.drop head) version with
      | error error =>
          rw [taken] at nested
          cases nested
      | ok found =>
          rw [taken] at nested
          cases nested
          cases none'
          obtain ⟨sigs', listed', size', _⟩ := nested_sigs_consume _ version _ read counter found.1 found.2 taken
          rw [List.drop_drop, listed] at listed'
          cases listed'
          omega

theorem element_consumes (kind : GroupKind) (version : CesrVersion) (input : Bytes) (values : List FieldValue) (size total : Nat)
    (skipped : kind.skip input version = .ok size) (read : kind.element input version = .ok (values, total)) : total = size :=
  skip_fields_kind kind version input size total skipped (read_fields_consume version kind.fields input values total read)

end Kinds

section Iteration

def Elements.going (kind : GroupKind) (raw : Bytes) (version : CesrVersion) (cursor remaining : Nat) : Elements :=
  ⟨kind, raw, cursor, remaining, version, false⟩

variable (kind : GroupKind) (raw : Bytes) (version : CesrVersion)

theorem next_ended (elements : Elements) (ended : elements.remaining = 0 ∨ elements.errored = true) :
    elements.next = (none, elements) := if_pos ended

theorem after_ended (elements : Elements) (ended : elements.remaining = 0 ∨ elements.errored = true) (calls : Nat) :
    elements.after calls = elements := by
  induction calls with
  | zero => rfl
  | succ calls ih => rw [Elements.after, next_ended elements ended, ih]

theorem nth_ended (elements : Elements) (ended : elements.remaining = 0 ∨ elements.errored = true) (call : Nat) :
    elements.nth call = none := by
  rw [Elements.nth, after_ended elements ended, next_ended elements ended]

theorem next_going (cursor remaining : Nat) :
    (Elements.going kind raw version cursor (remaining + 1)).next =
      match kind.element (raw.drop cursor) version with
      | .ok read => (some (.ok read.1), Elements.going kind raw version (cursor + read.2) remaining)
      | .error error => (some (.error error), { Elements.going kind raw version cursor remaining with errored := true }) := by
  have open' : ¬((Elements.going kind raw version cursor (remaining + 1)).remaining = 0 ∨
      (Elements.going kind raw version cursor (remaining + 1)).errored = true) := by
    intro ended
    rcases ended with none' | errored
    · exact absurd none' (Nat.succ_ne_zero remaining)
    · cases errored
  rw [Elements.next, if_neg open']
  show (match kind.element (raw.drop cursor) version with | .ok _ => _ | .error _ => _) = _
  cases kind.element (raw.drop cursor) version <;> rfl

theorem nth_items (call cursor remaining : Nat) :
    (Elements.going kind raw version cursor remaining).nth call =
      (elementItems kind version remaining (raw.drop cursor))[call]? := by
  induction call generalizing cursor remaining with
  | zero =>
      cases remaining with
      | zero => exact nth_ended _ (.inl rfl) 0
      | succ remaining =>
          rw [Elements.nth, Elements.after, next_going, elementItems]
          cases kind.element (raw.drop cursor) version <;> rfl
  | succ call ih =>
      cases remaining with
      | zero => exact nth_ended _ (.inl rfl) (call + 1)
      | succ remaining =>
          rw [Elements.nth, Elements.after, next_going, elementItems]
          cases element : kind.element (raw.drop cursor) version with
          | error error => exact nth_ended _ (.inr rfl) call
          | ok read =>
              dsimp only
              rw [List.drop_drop]
              exact ih (cursor + read.2) remaining

theorem element_items_length (count : Nat) (stream : Bytes) : (elementItems kind version count stream).length ≤ count := by
  induction count generalizing stream with
  | zero => exact Nat.le_refl 0
  | succ count ih =>
      rw [elementItems]
      cases kind.element stream version with
      | error error => exact Nat.succ_le_succ (Nat.zero_le count)
      | ok read => exact Nat.succ_le_succ (ih _)

theorem element_items_error (count call later : Nat) (stream : Bytes) (error : ParseError)
    (failed : (elementItems kind version count stream)[call]? = some (.error error)) (behind : call < later) :
    (elementItems kind version count stream)[later]? = none := by
  induction count generalizing stream call later with
  | zero => cases failed
  | succ count ih =>
      obtain ⟨before, same⟩ : ∃ before, later = before + 1 := ⟨later - 1, by omega⟩
      rw [elementItems] at failed ⊢
      cases element : kind.element stream version with
      | error other =>
          rw [same]
          rfl
      | ok read =>
          rw [element] at failed
          cases call with
          | zero => cases failed
          | succ call =>
              rw [same]
              exact ih call before _ failed (by omega)

theorem going_consumes (call cursor remaining total : Nat) (values : List FieldValue)
    (framed : kind.skipAll version remaining (raw.drop cursor) = .ok total)
    (given : (Elements.going kind raw version cursor remaining).nth call = some (.ok values)) :
    ∃ start size, kind.skipAll version call (raw.drop cursor) = .ok start ∧
      ((Elements.going kind raw version cursor remaining).after call).cursor = cursor + start ∧
      kind.skip (raw.drop (cursor + start)) version = .ok size ∧
      ((Elements.going kind raw version cursor remaining).after (call + 1)).cursor = cursor + start + size ∧
      start + size ≤ total ∧ kind.element (raw.drop (cursor + start)) version = .ok (values, size) := by
  induction call generalizing cursor remaining total with
  | zero =>
      cases remaining with
      | zero =>
          rw [nth_ended _ (.inl rfl)] at given
          cases given
      | succ remaining =>
          rw [skip_all_eq, skip_times_succ] at framed
          obtain ⟨size, skipped, others, _, same⟩ := framed
          rw [Elements.nth, Elements.after, next_going] at given
          cases element : kind.element (raw.drop cursor) version with
          | error error =>
              rw [element] at given
              cases given
          | ok read =>
              rw [element] at given
              cases given
              have consumed := element_consumes kind version (raw.drop cursor) read.1 size read.2 skipped element
              refine ⟨0, size, rfl, rfl, skipped, ?_, by omega, by rw [← consumed]; exact element⟩
              rw [Elements.after, Elements.after, next_going, element, ← consumed]
              rfl
  | succ call ih =>
      cases remaining with
      | zero =>
          rw [nth_ended _ (.inl rfl)] at given
          cases given
      | succ remaining =>
          rw [skip_all_eq, skip_times_succ, ← skip_all_eq] at framed
          obtain ⟨first, skipped, others, later, same⟩ := framed
          rw [Elements.nth, Elements.after] at given
          cases element : kind.element (raw.drop cursor) version with
          | error error =>
              rw [next_going, element] at given
              have none' := nth_ended { Elements.going kind raw version cursor remaining with errored := true } (.inr rfl) call
              rw [Elements.nth] at none'
              rw [none'] at given
              cases given
          | ok read =>
              have consumed := element_consumes kind version (raw.drop cursor) read.1 first read.2 skipped element
              have behind : (Elements.going kind raw version cursor (remaining + 1)).next.2 =
                  Elements.going kind raw version (cursor + first) remaining := by
                rw [next_going, element, ← consumed]
              rw [List.drop_drop] at later
              rw [behind] at given
              obtain ⟨start, size, before, here, takes, next, within, reads⟩ := ih (cursor + first) remaining others later given
              have place : cursor + (first + start) = cursor + first + start := by omega
              refine ⟨first + start, size, ?_, ?_, ?_, ?_, by omega, ?_⟩
              · rw [skip_all_eq, skip_times_succ, ← skip_all_eq]
                exact ⟨first, skipped, start, by rw [List.drop_drop]; exact before, rfl⟩
              · rw [Elements.after, behind, here, place]
              · rw [place]
                exact takes
              · rw [Elements.after, behind, next, place]
              · rw [place]
                exact reads

theorem skip_all_last (count : Nat) (stream : Bytes) (start size : Nat) (before : kind.skipAll version count stream = .ok start)
    (last : kind.skip (stream.drop start) version = .ok size) : kind.skipAll version (count + 1) stream = .ok (start + size) := by
  induction count generalizing stream start with
  | zero =>
      cases before
      rw [skip_all_eq, skip_times_succ]
      exact ⟨size, last, 0, rfl, by omega⟩
  | succ count ih =>
      rw [skip_all_eq, skip_times_succ, ← skip_all_eq] at before
      obtain ⟨first, skipped, others, later, same⟩ := before
      rw [skip_all_eq, skip_times_succ, ← skip_all_eq]
      rw [← same, ← List.drop_drop] at last
      exact ⟨first, skipped, others + size, ih (stream.drop first) others later last, by omega⟩

-- How the iterator of a group goes through its bytes: the element of each call
-- begins behind the bytes framed for the elements before it and takes the bytes
-- framed for it.
structure FramedIteration (count : U32) : Prop where
  consumes : ∀ call values, (Elements.iter kind raw count version).nth call = some (.ok values) →
    ∃ start size, kind.skipAll version call raw = .ok start ∧
      ((Elements.iter kind raw count version).after call).cursor = start ∧ kind.skip (raw.drop start) version = .ok size ∧
      ((Elements.iter kind raw count version).after (call + 1)).cursor = start + size ∧ start + size ≤ raw.length
  bounded : ∀ call, count.val ≤ call → (Elements.iter kind raw count version).nth call = none
  fused : ∀ call error, (Elements.iter kind raw count version).nth call = some (.error error) →
    ∀ later, call < later → (Elements.iter kind raw count version).nth later = none
  whole : (∀ call, call < count.val → ∃ values, (Elements.iter kind raw count version).nth call = some (.ok values)) →
    ((Elements.iter kind raw count version).after count.val).cursor = raw.length

theorem framed_iteration (count : U32) (skipped : kind.skipAll version count.val raw = .ok raw.length) :
    FramedIteration kind raw version count := by
  have iterates : Elements.iter kind raw count version = Elements.going kind raw version 0 count.val := rfl
  apply FramedIteration.mk
  · intro call values given
    obtain ⟨start, size, before, here, takes, next, within, _⟩ := going_consumes kind raw version call 0 count.val raw.length values skipped given
    rw [Nat.zero_add] at here takes next
    exact ⟨start, size, before, here, takes, next, within⟩
  · intro call past
    rw [iterates, nth_items]
    exact List.getElem?_eq_none (Nat.le_trans (element_items_length kind version count.val _) past)
  · intro call error failed later behind
    rw [iterates, nth_items] at failed ⊢
    exact element_items_error kind version count.val call later _ error failed behind
  · intro decodes
    cases counted : count.val with
    | zero =>
        rw [counted] at skipped
        exact Except.ok.inj skipped
    | succ last =>
        obtain ⟨values, given⟩ := decodes last (by omega)
        obtain ⟨start, size, before, _, takes, next, _, _⟩ :=
          going_consumes kind raw version last 0 count.val raw.length values skipped given
        rw [Nat.zero_add] at takes next
        have all := skip_all_last kind version last raw start size before takes
        rw [counted, all] at skipped
        rw [iterates, next]
        exact Except.ok.inj skipped

end Iteration

end Cesr.Stream
