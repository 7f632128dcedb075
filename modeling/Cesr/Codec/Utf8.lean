import Cesr.Codec.Reads
import Cesr.Core.MatterSoft

set_option autoImplicit false

namespace Cesr.Codec

open WriterJson

theorem utf8_nil : Utf8 [] := ⟨"", rfl⟩

theorem utf8_append (front back : Bytes) (first : Utf8 front) (second : Utf8 back) : Utf8 (front ++ back) := by
  obtain ⟨text, same⟩ := first
  obtain ⟨more, same'⟩ := second
  exact ⟨text ++ more, by rw [as_bytes_append, same, same']⟩

theorem utf8_ascii (bytes : Bytes) (ascii : ∀ byte ∈ bytes, byte.toNat < 128) : Utf8 bytes :=
  ⟨asciiText bytes, as_bytes_ascii_text bytes ascii⟩

theorem as_bytes_chars (text : String) : asBytes text = text.toList.flatMap String.utf8EncodeChar := by
  conv_lhs => rw [← String.ofList_toList (s := text)]
  rw [asBytes, String.toUTF8_eq_toByteArray, String.toByteArray_ofList, List.utf8Encode, List.toList_data_toByteArray]

theorem utf8_chars (chars : List Char) : Utf8 (chars.flatMap String.utf8EncodeChar) :=
  ⟨String.ofList chars, by rw [as_bytes_chars, String.toList_ofList]⟩

theorem char_bytes (char : Char) :
    (∃ byte, String.utf8EncodeChar char = [byte] ∧ byte.toNat < 128) ∨
      ∀ byte ∈ String.utf8EncodeChar char, 128 ≤ byte.toNat := by
  have high : ∀ value : Nat, 128 ≤ value → value < 256 → 128 ≤ (UInt8.ofNat value).toNat := by
    intro value low small
    rw [UInt8.toNat_ofNat_of_lt' small]
    exact low
  unfold String.utf8EncodeChar
  by_cases one : char.val.toNat ≤ 0x7F
  · refine .inl ⟨UInt8.ofNat char.val.toNat, by rw [if_pos one], ?_⟩
    rw [UInt8.toNat_ofNat_of_lt' (Nat.lt_of_le_of_lt one (by decide))]
    omega
  · right
    rw [if_neg one]
    intro byte inside
    by_cases two : char.val.toNat ≤ 0x7FF
    · rw [if_pos two] at inside
      simp only [List.mem_cons, List.not_mem_nil, or_false] at inside
      rcases inside with same | same
      all_goals exact same ▸ high _ (by omega) (by omega)
    · rw [if_neg two] at inside
      by_cases three : char.val.toNat ≤ 0xFFFF
      · rw [if_pos three] at inside
        simp only [List.mem_cons, List.not_mem_nil, or_false] at inside
        rcases inside with same | same | same
        all_goals exact same ▸ high _ (by omega) (by omega)
      · rw [if_neg three] at inside
        simp only [List.mem_cons, List.not_mem_nil, or_false] at inside
        rcases inside with same | same | same | same
        all_goals exact same ▸ high _ (by omega) (by omega)

theorem chars_split (chars : List Char) (front back : Bytes) (byte : UInt8) (ascii : byte.toNat < 128)
    (split : chars.flatMap String.utf8EncodeChar = front ++ byte :: back) : Utf8 front ∧ Utf8 back := by
  induction chars generalizing front with
  | nil =>
      rw [List.flatMap_nil] at split
      exact absurd split.symm (by simp)
  | cons char rest ih =>
      rw [List.flatMap_cons] at split
      rcases List.append_eq_append_iff.mp split with ⟨later, same, behind⟩ | ⟨later, same, behind⟩
      · -- The byte stands behind the first character.
        obtain ⟨first, second⟩ := ih later behind
        rw [same]
        refine ⟨utf8_append _ _ ?_ first, second⟩
        have alone := utf8_chars [char]
        rw [List.flatMap_singleton] at alone
        exact alone
      · cases later with
        | nil =>
            rw [List.append_nil] at same
            obtain ⟨_, second⟩ := ih [] behind.symm
            refine ⟨?_, second⟩
            have alone := utf8_chars [char]
            rw [List.flatMap_singleton, same] at alone
            exact alone
        | cons first later =>
            obtain ⟨here, behind⟩ := List.cons.inj behind
            rcases char_bytes char with ⟨only, alone, _⟩ | high
            · rw [alone] at same
              obtain ⟨empty, tail⟩ : front = [] ∧ later = [] := by
                have size := congrArg List.length same
                rw [List.length_append, List.length_cons, List.length_cons, List.length_nil] at size
                exact ⟨List.length_eq_zero_iff.mp (by omega), List.length_eq_zero_iff.mp (by omega)⟩
              rw [empty, behind, tail]
              exact ⟨utf8_nil, utf8_chars rest⟩
            · have large := high byte (by
                rw [same, ← here]
                exact List.mem_append_right front List.mem_cons_self)
              omega

-- A text can be cut at any of its ASCII bytes.
theorem utf8_split (front back : Bytes) (byte : UInt8) (ascii : byte.toNat < 128) :
    Utf8 (front ++ byte :: back) ↔ Utf8 front ∧ Utf8 back := by
  apply Iff.intro
  · intro whole
    obtain ⟨text, same⟩ := whole
    rw [as_bytes_chars] at same
    exact chars_split _ front back byte ascii same
  · intro both
    apply utf8_append _ _ both.1
    exact utf8_append [byte] back (utf8_ascii [byte] (by simpa using ascii)) both.2

theorem utf8_ascii_front (front back : Bytes) (ascii : ∀ byte ∈ front, byte.toNat < 128) : Utf8 (front ++ back) ↔ Utf8 back := by
  induction front with
  | nil => rfl
  | cons byte rest ih =>
      obtain ⟨first, others⟩ := List.forall_mem_cons.mp ascii
      rw [List.cons_append, ← List.nil_append (byte :: (rest ++ back)), utf8_split _ _ _ first, ih others]
      simp [utf8_nil]

theorem hex_digit_ascii (value : UInt8) (small : value.toNat < 16) : (hexDigit value).toNat < 128 := by
  unfold hexDigit
  split_ifs <;> rw [UInt8.toNat_add] <;> simp only [UInt8.reduceToNat] <;> omega

theorem short_ascii (mark : UInt8) (low : mark.toNat < 128) : ∀ other ∈ [backslash, mark], other.toNat < 128 := by
  simp only [List.mem_cons, List.not_mem_nil, or_false, forall_eq_or_imp, forall_eq]
  exact ⟨by decide, low⟩

theorem escape_byte_ascii (byte : UInt8) :
    escapeByte byte = [byte] ∨
      byte.toNat < 128 ∧ ∃ mark rest, escapeByte byte = mark :: rest ∧ ∀ other ∈ mark :: rest, other.toNat < 128 := by
  unfold escapeByte
  split_ifs with quoted' slashed back tab line form ret control
  · exact .inr ⟨by rw [quoted']; decide, _, _, rfl, short_ascii _ (by decide)⟩
  · exact .inr ⟨by rw [slashed]; decide, _, _, rfl, short_ascii _ (by decide)⟩
  · exact .inr ⟨by rw [back]; decide, _, _, rfl, short_ascii _ (by decide)⟩
  · exact .inr ⟨by rw [tab]; decide, _, _, rfl, short_ascii _ (by decide)⟩
  · exact .inr ⟨by rw [line]; decide, _, _, rfl, short_ascii _ (by decide)⟩
  · exact .inr ⟨by rw [form]; decide, _, _, rfl, short_ascii _ (by decide)⟩
  · exact .inr ⟨by rw [ret]; decide, _, _, rfl, short_ascii _ (by decide)⟩
  · have small : byte.toNat < 32 := UInt8.lt_iff_toNat_lt.mp control
    have high := hex_digit_ascii (byte / 16) (by rw [UInt8.toNat_div]; simp only [UInt8.reduceToNat]; omega)
    have low := hex_digit_ascii (byte % 16) (by rw [UInt8.toNat_mod]; simp only [UInt8.reduceToNat]; omega)
    refine .inr ⟨by omega, _, _, rfl, ?_⟩
    simp only [List.mem_cons, List.not_mem_nil, or_false, forall_eq_or_imp, forall_eq]
    exact ⟨by decide, by decide, by decide, by decide, high, low⟩
  · exact .inl rfl

theorem utf8_escape_behind (front text : Bytes) : Utf8 (front ++ escape text) ↔ Utf8 (front ++ text) := by
  induction text generalizing front with
  | nil => rfl
  | cons byte text ih =>
      have unfolded : escape (byte :: text) = escapeByte byte ++ escape text := rfl
      rcases escape_byte_ascii byte with same | ⟨low, mark, rest, shape, ascii⟩
      · have next := ih (front ++ [byte])
        rw [List.append_assoc, List.append_assoc] at next
        rw [unfolded, same]
        exact next
      · obtain ⟨first, others⟩ := List.forall_mem_cons.mp ascii
        have later := ih []
        rw [List.nil_append, List.nil_append] at later
        rw [unfolded, shape, List.cons_append, utf8_split _ _ _ first, utf8_ascii_front _ _ others, utf8_split _ _ _ low, later]

theorem utf8_escape (text : Bytes) : Utf8 (escape text) ↔ Utf8 text := utf8_escape_behind [] text

end Cesr.Codec
