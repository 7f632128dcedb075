import Cesr.Codec.OpaqueTurn

set_option autoImplicit false

namespace Cesr.Codec

open Checks WriterJson JsonString OpaqueScan

section Writer

theorem escaped_denotes (text : Bytes) : Denotes (escape text) text := by
  have all : ∀ byte : UInt8, Plain byte ∧ escapeByte byte = [byte] ∨
      (escapeByte byte = [backslash, (escapeByte byte).getD 1 0] ∧ ((escapeByte byte).getD 1 0, byte) ∈ shorts) ∨
      (escapeByte byte = backslash :: 0x75 :: (escapeByte byte).drop 2 ∧ ((escapeByte byte).drop 2).length = 4 ∧
        hexFrom 0 ((escapeByte byte).drop 2) = some byte.toNat ∧ ¬HighSurrogate byte.toNat ∧ ¬LowSurrogate byte.toNat ∧
        spelling byte.toNat = [byte]) := every_byte _ (by decide +kernel)
  induction text with
  | nil => exact .nil
  | cons byte text ih =>
      have unfolded : escape (byte :: text) = escapeByte byte ++ escape text := rfl
      rw [unfolded]
      rcases all byte with ⟨raw, same⟩ | ⟨same, known⟩ | ⟨shape, long, spelled, high, low, same⟩
      · rw [same]
        exact .plain byte _ text raw ih
      · rw [same]
        exact .short _ byte _ text known ih
      · have whole := Denotes.unit _ _ text byte.toNat ⟨long, spelled⟩ ⟨high, low⟩ ih
        rw [same] at whole
        rw [shape]
        exact whole

theorem escape_injective (first second : Bytes) (same : escape first = escape second) : first = second := by
  have whole : ∀ byte text, escape (byte :: text) = escapeByte byte ++ escape text := fun _ _ => rfl
  have plain : ∀ byte, Plain byte → escapeByte byte = [byte] := by
    intro byte raw
    have alone := escape_plain [byte] (List.forall_mem_singleton.mpr raw)
    rw [whole byte []] at alone
    exact (List.append_nil _).symm.trans alone
  have filled := escape_byte_filled
  have apart : ∀ (raw special : UInt8) (text more : Bytes), Plain raw → ¬Plain special →
      escapeByte raw ++ text ≠ escapeByte special ++ more := by
    intro raw special text more plain' other same
    obtain ⟨head, _, _⟩ := special_escape special other more
    rw [plain raw plain'] at same
    cases shape : escapeByte special with
    | nil => exact filled special shape
    | cons mark rest =>
        rw [shape] at same head
        have first : raw = mark := (List.cons.inj same).1
        have slash : mark = backslash := Option.some.inj head
        exact plain'.2.2 (first.trans slash)
  induction first generalizing second with
  | nil =>
      cases second with
      | nil => rfl
      | cons byte text =>
          rw [whole] at same
          exact absurd (List.append_eq_nil_iff.mp same.symm).1 (filled byte)
  | cons byte text ih =>
      cases second with
      | nil =>
          rw [whole] at same
          exact absurd (List.append_eq_nil_iff.mp same).1 (filled byte)
      | cons byte' text' =>
          rw [whole, whole] at same
          have equal : byte = byte' := by
            by_cases raw : Plain byte
            · by_cases raw' : Plain byte'
              · rw [plain byte raw, plain byte' raw'] at same
                exact (List.cons.inj same).1
              · exact absurd same (apart byte byte' _ _ raw raw')
            · by_cases raw' : Plain byte'
              · exact absurd same.symm (apart byte' byte _ _ raw' raw)
              · obtain ⟨_, ascii, read⟩ := special_escape byte raw (escape text)
                obtain ⟨_, ascii', read'⟩ := special_escape byte' raw' (escape text')
                rw [same, read'] at read
                have chars := (Prod.mk.inj (Except.ok.inj read)).1
                have one := as_bytes_singleton byte ascii
                rw [← chars, as_bytes_singleton byte' ascii'] at one
                exact (List.cons.inj one).1.symm
          rw [← equal] at same
          rw [equal, ih text' (List.append_cancel_left same)]

def Written (content name : Bytes) : Prop := Spoken content name ∧ content = escape name

theorem written_content (content : Bytes) : Content Utf8 content ↔ ∃ name, Written content name := by
  apply Iff.intro
  · intro allowed
    obtain ⟨utf8, name, same⟩ := allowed
    exact ⟨name, ⟨same ▸ escaped_denotes name, utf8⟩, same⟩
  · intro found
    obtain ⟨name, spoken, same⟩ := found
    exact ⟨spoken.2, name, same⟩

-- The writer's grammar keeps the keys as they are written.
def inWriting : CompactJson.Part → Part
  | .value => .value
  | .items => .items
  | .members seen => .members (seen.map escape)

theorem name_written (name : Bytes) (seen : List Bytes) : escape name ∈ seen.map escape ↔ name ∈ seen :=
  List.mem_map_of_injective fun _ _ same => escape_injective _ _ same

theorem writer_spells (part : CompactJson.Part) (text : Bytes) :
    Spells Utf8 (inWriting part) text ↔ CompactJson.Spells Written part text := by
  apply Iff.intro
  · intro spelled
    generalize which : inWriting part = part' at spelled
    induction spelled generalizing part with
    | word text known =>
        cases part <;> cases which
        exact .scalar text (.inl known)
    | number text numeral =>
        cases part <;> cases which
        exact .scalar text (.inr (.inl numeral))
    | string content allowed =>
        cases part <;> cases which
        obtain ⟨name, written⟩ := (written_content content).mp allowed
        exact .scalar _ (.inr (.inr ⟨content, name, written, rfl⟩))
    | emptyArray =>
        cases part <;> cases which
        exact .emptyArray
    | array items _ ih =>
        cases part <;> cases which
        exact .array items (ih .items rfl)
    | emptyObject =>
        cases part <;> cases which
        exact .emptyObject
    | object members _ ih =>
        cases part <;> cases which
        exact .object members (ih (.members []) rfl)
    | lastItem item _ ih =>
        cases part <;> cases which
        exact .lastItem item (ih .value rfl)
    | moreItems item rest _ _ ih ih' =>
        cases part <;> cases which
        exact .moreItems item rest (ih .value rfl) (ih' .items rfl)
    | lastMember seen key item allowed fresh _ ih =>
        cases part <;> cases which
        rename_i seen
        obtain ⟨name, written⟩ := (written_content key).mp allowed
        rw [written.2, name_written] at fresh
        exact .lastMember seen key name item written fresh (ih .value rfl)
    | moreMembers seen key item rest allowed fresh first others ih ih' =>
        cases part <;> cases which
        rename_i seen
        obtain ⟨name, written⟩ := (written_content key).mp allowed
        have fresh' := fresh
        rw [written.2, name_written] at fresh'
        exact .moreMembers seen key name item rest written fresh' (ih .value rfl) (ih' (.members (name :: seen)) (by
          rw [written.2]
          rfl))
  · intro spelled
    induction spelled with
    | scalar text plain =>
        rcases plain with known | numeral | ⟨content, name, written, same⟩
        · exact .word text known
        · exact .number text numeral
        · rw [same]
          exact .string content ((written_content content).mpr ⟨name, written⟩)
    | emptyArray => exact .emptyArray
    | array items _ ih => exact .array items ih
    | emptyObject => exact .emptyObject
    | object members _ ih => exact .object members ih
    | lastItem item _ ih => exact .lastItem item ih
    | moreItems item rest _ _ ih ih' => exact .moreItems item rest ih ih'
    | lastMember seen key name item written fresh _ ih =>
        refine .lastMember _ key item ((written_content key).mpr ⟨name, written⟩) ?_ ih
        rw [written.2, name_written]
        exact fresh
    | moreMembers seen key name item rest written fresh _ _ ih ih' =>
        refine .moreMembers _ key item rest ((written_content key).mpr ⟨name, written⟩) ?_ ih ?_
        · rw [written.2, name_written]
          exact fresh
        · rw [written.2]
          exact ih'

end Writer

section Turns

theorem turns_enough (fuel more : Nat) (state : ScanState) (containers : List Scanner.Container) (c : Cursor) (budget : JsonBudget)
    (proper : CompactJson.Proper (placed state) (containers.map named)) (enough : CompactJson.need (placed state) c.left ≤ fuel) :
    turns (fuel + more) state containers c budget = turns fuel state containers c budget := by
  induction fuel generalizing state containers c budget with
  | zero =>
      have least := CompactJson.le_need (placed state) c.left
      omega
  | succ fuel ih =>
      rw [Nat.add_right_comm, turns, turns]
      cases taken : turn state containers c budget with
      | error error => rfl
      | ok turned =>
          rw [ok_bind, ok_bind]
          cases next : turned.next with
          | none => rfl
          | some both =>
              obtain ⟨part, step, passes⟩ := turn_sound c containers budget turned state proper taken
              have kept := CompactJson.step_kept Spoken _ _ _ _ step proper
              rw [next] at step kept
              have shorter := CompactJson.step_need Spoken _ _ _ _ part turned.cursor.left step
              rw [← passes.1] at shorter
              exact ih both.1 both.2 turned.cursor turned.budget kept (by omega)

theorem string_end_enough (fuel more : Nat) (c : Cursor) (enough : c.left.length < fuel) :
    stringEnd (fuel + more) c = stringEnd fuel c := by
  induction fuel generalizing c with
  | zero => cases enough
  | succ fuel ih =>
      have shorter : ∀ (c' : Cursor) (text : Bytes), Passes c text c' → text ≠ [] → c'.left.length < fuel := by
        intro c' text passes some'
        have size := congrArg List.length passes.1
        have long := List.length_pos_iff.mpr some'
        rw [List.length_append] at size
        omega
      rw [Nat.add_right_comm, stringEnd, stringEnd]
      cases left : c.left with
      | nil => rfl
      | cons byte behind =>
          have first := bump_passes c byte behind left
          simp only
          by_cases closing : byte = quote
          · rw [if_pos closing, if_pos closing]
          · rw [if_neg closing, if_neg closing]
            by_cases slash : byte = backslash
            · rw [if_pos slash, if_pos slash]
              cases behind with
              | nil => rfl
              | cons esc rest =>
                  simp only
                  by_cases mark : esc ∈ marks
                  · rw [if_pos mark, if_pos mark]
                    exact ih _ (shorter _ _ (skip_passes c [byte, esc] rest left) (List.cons_ne_nil _ _))
                  · rw [if_neg mark, if_neg mark]
                    by_cases long : esc = 0x75
                    · rw [if_pos long, if_pos long]
                      cases escape : scanUnicodeEscape c.bump with
                      | error error => rfl
                      | ok after =>
                          have found : c.bump.left = 0x75 :: rest := by rw [bump_over c _ _ left, long]
                          obtain ⟨digits, text, _, passes⟩ := (unicode_escape_ok _ _ rest found).mp escape
                          exact ih after (shorter after _ (passes_append _ _ _ _ _ first passes) (by simp))
                    · rw [if_neg long, if_neg long]
            · rw [if_neg slash, if_neg slash]
              by_cases control : byte < 0x20
              · rw [if_pos control, if_pos control]
              · rw [if_neg control, if_neg control]
                exact ih _ (shorter _ _ first (List.cons_ne_nil _ _))

end Turns

theorem canonical_object_ok (input : Bytes) (stop : Nat) (brace : input.head? = some 0x7B) :
    (∃ sc', Scanner.canonicalValue (Scanner.new input) = .ok ((), sc') ∧ sc'.pos = stop) ↔
      ∃ text rest, input = text ++ rest ∧ stop = text.length ∧ CompactJson.Spells Written .value text := by
  have whole : (Scanner.new input).left = input := rfl
  apply Iff.intro
  · intro found
    obtain ⟨sc', read, same⟩ := found
    obtain ⟨text, took, spelled⟩ := canonical_value_took _ _ _ read
    refine ⟨text, sc'.left, whole.symm.trans took.left, ?_, (writer_spells .value text).mp spelled⟩
    rw [← same, took.pos]
    exact Nat.zero_add _
  · intro found
    obtain ⟨text, rest, split, size, spelled⟩ := found
    have spelled' := (writer_spells .value text).mpr spelled
    have head : text.head? = some 0x7B := by
      obtain ⟨first, more, start, _⟩ := value_head text spelled'
      rw [split, start] at brace
      rw [start]
      exact brace
    obtain ⟨sc', read, arrives⟩ := object_value_reads (Scanner.new input) text rest spelled' head (whole.trans split) (fits_new input)
    refine ⟨sc', read, ?_⟩
    rw [arrives.took.pos, size]
    exact Nat.zero_add _

-- The two scans that take JSON apart accept compact JSON with distinct names,
-- the first with any escapes and the second with those of the writer.
theorem recognizers_exact (input : Bytes) :
    (∀ stop, (∃ spent, objectLen input .unlimited = .ok (stop, spent)) ↔
        ∃ text rest, input = text ++ rest ∧ stop = text.length ∧ CompactJson.Spells Spoken .value text ∧ text.head? = some 0x7B) ∧
      (∀ more budget, turns (2 * input.length + 2 + more) .firstKey [(true, [])] ⟨1, input.tail⟩ budget =
        turns (2 * input.length + 2) .firstKey [(true, [])] ⟨1, input.tail⟩ budget) ∧
      (∀ more (c : Cursor), stringEnd (c.left.length + 1 + more) c = stringEnd (c.left.length + 1) c) ∧
      (input.head? = some 0x7B → ∀ stop,
        ((∃ sc', Scanner.canonicalValue (Scanner.new input) = .ok ((), sc') ∧ sc'.pos = stop) ↔
          ∃ text rest, input = text ++ rest ∧ stop = text.length ∧ CompactJson.Spells Written .value text)) ∧
      (input.head? = some 0x7B → ∀ sc', Scanner.canonicalValue (Scanner.new input) = .ok ((), sc') →
        ∃ spent, objectLen input .unlimited = .ok (sc'.pos, spent)) := by
  refine ⟨object_len_ok input, ?_, ?_, fun brace stop => canonical_object_ok input stop brace, ?_⟩
  · intro more budget
    apply turns_enough _ more .firstKey [(true, [])] ⟨1, input.tail⟩ budget ⟨[], [], rfl⟩
    have size : input.tail.length ≤ input.length := by
      rw [List.length_tail]
      exact Nat.sub_le _ _
    show 2 * input.tail.length + 1 ≤ _
    omega
  · intro more c
    exact string_end_enough _ more c (Nat.lt_succ_self _)
  · intro brace sc' read
    obtain ⟨text, rest, split, size, spelled⟩ := (canonical_object_ok input sc'.pos brace).mp ⟨sc', read, rfl⟩
    refine (object_len_ok input sc'.pos).mpr ⟨text, rest, split, size, ?_, ?_⟩
    · exact CompactJson.spells_mono Written Spoken (fun _ _ written => written.1) .value text spelled
    · obtain ⟨first, more, start, _⟩ := value_head text ((writer_spells .value text).mpr spelled)
      rw [split, start] at brace
      rw [start]
      exact brace

end Cesr.Codec
