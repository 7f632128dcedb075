import Cesr.Codec.Utf8

set_option autoImplicit false

namespace Cesr.Codec

open Checks WriterJson Scanner

namespace JsonWriter

def hex : Bytes := asBytes "0123456789abcdef"

def writeByte (byte : UInt8) : Bytes :=
  if byte = 0x22 then asBytes "\\\""
  else if byte = 0x5C then asBytes "\\\\"
  else if byte = 0x08 then asBytes "\\b"
  else if byte = 0x09 then asBytes "\\t"
  else if byte = 0x0A then asBytes "\\n"
  else if byte = 0x0C then asBytes "\\f"
  else if byte = 0x0D then asBytes "\\r"
  else if byte < 0x20 then asBytes "\\u00" ++ [hex.getD (byte >>> 4).toNat 0, hex.getD (byte &&& 0x0F).toNat 0]
  else [byte]

def writeStr (buf : Bytes) (s : String) : Bytes :=
  (asBytes s).foldl (fun buf byte => buf ++ writeByte byte) (buf ++ [quote]) ++ [quote]

theorem write_byte (byte : UInt8) : writeByte byte = escapeByte byte := by
  have all : ∀ byte : UInt8, writeByte byte = escapeByte byte := every_byte _ (by decide +kernel)
  exact all byte

theorem write_str (buf : Bytes) (s : String) : writeStr buf s = buf ++ quoted (escape (asBytes s)) := by
  have each : ∀ (text front : Bytes), text.foldl (fun buf byte => buf ++ writeByte byte) front = front ++ escape text := by
    intro text
    induction text with
    | nil => exact fun front => (List.append_nil front).symm
    | cons byte text ih =>
        intro front
        rw [List.foldl_cons, ih, write_byte, List.append_assoc]
        rfl
  rw [writeStr, each, quoted, List.append_assoc, List.append_assoc]
  rfl

end JsonWriter

def strTo (text : String) (stop : Nat) : Option String := fromUtf8 ((asBytes text).take stop)

def strFrom (text : String) (start : Nat) : Option String :=
  if start ≤ (asBytes text).length then fromUtf8 ((asBytes text).drop start) else none

def hexOf (byte : UInt8) : Except CodecError UInt8 :=
  match hexValue byte with
  | some value => .ok value
  | none => .error (.internal (.eventLayout "validated control escape has invalid hex"))

-- The character that an escape stands for, and the width of the escape.
def decodeEscape (behind : Bytes) : Except CodecError (Char × Nat) :=
  match behind[1]? with
  | none => .error (.internal (.eventLayout "validated JSON escape was truncated"))
  | some escape =>
      if escape = 0x22 then .ok ('"', 2)
      else if escape = 0x5C then .ok ('\\', 2)
      else if escape = 0x62 then .ok (Char.ofUInt8 0x08, 2)
      else if escape = 0x66 then .ok (Char.ofUInt8 0x0C, 2)
      else if escape = 0x6E then .ok ('\n', 2)
      else if escape = 0x72 then .ok ('\r', 2)
      else if escape = 0x74 then .ok ('\t', 2)
      else if escape = 0x75 then
        match behind[4]?, behind[5]? with
        | some first, some second => do
            let high ← hexOf first
            let low ← hexOf second
            .ok (Char.ofUInt8 ((high <<< 4) ||| low), 6)
        | _, _ => .error (.internal (.eventLayout "validated control escape was truncated"))
      else .error (.internal (.eventLayout "invalid validated JSON escape"))

-- An escape takes some of the tail, so the length of the tail bounds the steps.
def decodeTail : Nat → String → String → Except CodecError String
  | 0, _, _ => .error (.internal (.eventLayout "validated JSON escape width exceeds string"))
  | fuel + 1, decoded, tail =>
      match (asBytes tail).idxOf? backslash with
      | none => .ok (decoded ++ tail)
      | some place => do
          let found ← decodeEscape ((asBytes tail).drop place)
          -- The slice in front of an ASCII byte ends on a character boundary.
          let chunk := (strTo tail place).getD ""
          match strFrom tail (place + found.2) with
          | some rest => decodeTail fuel (decoded ++ chunk ++ String.singleton found.1) rest
          | none => .error (.internal (.eventLayout "validated JSON escape width exceeds string"))

namespace Scanner

def jsonText : Scan String := do
  let encoded ← jsonString
  if backslash ∈ asBytes encoded.value then check (decodeTail ((asBytes encoded.value).length + 1) "" encoded.value)
  else pure encoded.value

end Scanner

section Decode

theorem special_escape (byte : UInt8) (special : ¬Plain byte) (behind : Bytes) :
    (escapeByte byte).head? = some backslash ∧ byte.toNat < 128 ∧
      decodeEscape (escapeByte byte ++ behind) = .ok (Char.ofUInt8 byte, (escapeByte byte).length) := by
  have all : ∀ byte : UInt8, ¬Plain byte →
      byte.toNat < 128 ∧ ((escapeByte byte = [backslash, (escapeByte byte).getD 1 0] ∧
          decodeEscape [backslash, (escapeByte byte).getD 1 0] = .ok (Char.ofUInt8 byte, 2) ∧ (escapeByte byte).getD 1 0 ≠ 0x75) ∨
        (byte / 16 < 16 ∧ byte % 16 < 16 ∧ byte = (byte / 16) <<< (4 : UInt8) ||| byte % 16 ∧
          escapeByte byte = [backslash, 0x75, 0x30, 0x30, hexDigit (byte / 16), hexDigit (byte % 16)])) :=
    every_byte _ (by decide +kernel)
  obtain ⟨ascii, short | long⟩ := all byte special
  · generalize (escapeByte byte).getD 1 0 = mark at short
    obtain ⟨shape, decoded, other⟩ := short
    rw [shape]
    refine ⟨rfl, ascii, ?_⟩
    have short : decodeEscape ([backslash, mark] ++ behind) = decodeEscape [backslash, mark] := by
      unfold decodeEscape
      simp [other]
    rw [short, decoded]
    rfl
  · obtain ⟨high, low, same, shape⟩ := long
    have digit : ∀ value : UInt8, value < 16 → hexOf (hexDigit value) = .ok value := every_byte _ (by decide +kernel)
    rw [shape]
    refine ⟨rfl, ascii, ?_⟩
    unfold decodeEscape
    simp [digit _ high, digit _ low, ← same]

theorem find_special (text : Bytes) :
    (∀ byte ∈ text, Plain byte) ∨ ∃ front byte rest, text = front ++ byte :: rest ∧ (∀ other ∈ front, Plain other) ∧ ¬Plain byte := by
  induction text with
  | nil => exact .inl fun _ inside => absurd inside List.not_mem_nil
  | cons byte text ih =>
      by_cases plain : Plain byte
      · rcases ih with all | ⟨front, special, rest, split, others, found⟩
        · exact .inl (List.forall_mem_cons.mpr ⟨plain, all⟩)
        · exact .inr ⟨byte :: front, special, rest, by rw [split]; rfl, List.forall_mem_cons.mpr ⟨plain, others⟩, found⟩
      · exact .inr ⟨[], byte, text, rfl, fun _ inside => absurd inside List.not_mem_nil, plain⟩

theorem escape_append (front back : Bytes) : escape (front ++ back) = escape front ++ escape back := List.flatMap_append

theorem no_backslash (text : Bytes) (plain : ∀ byte ∈ text, Plain byte) : backslash ∉ text :=
  fun inside => (plain backslash inside).2.2 rfl

theorem as_bytes_singleton (byte : UInt8) (ascii : byte.toNat < 128) : asBytes (String.singleton (Char.ofUInt8 byte)) = [byte] := by
  have same : String.singleton (Char.ofUInt8 byte) = asciiText [byte] := by
    apply String.toList_inj.mp
    simp [asciiText]
  rw [same, as_bytes_ascii_text _ (by simpa using ascii)]

theorem decode_tail (fuel : Nat) (decoded tail text : String) (spelled : asBytes tail = escape (asBytes text))
    (enough : (asBytes tail).length < fuel) : decodeTail fuel decoded tail = .ok (decoded ++ text) := by
  induction fuel generalizing decoded tail text with
  | zero => omega
  | succ fuel ih =>
      rcases find_special (asBytes text) with plain | ⟨front, byte, rest, split, plain, special⟩
      · rw [escape_plain _ plain] at spelled
        have none' : (asBytes tail).idxOf? backslash = none := by
          rw [List.idxOf?_eq_none_iff, spelled]
          exact no_backslash _ plain
        rw [decodeTail, none', as_bytes_injective spelled]
      · -- The text is cut at the first byte that has an escape.
        obtain ⟨head, ascii, read⟩ := special_escape byte special (escape rest)
        obtain ⟨mark, more, shape⟩ : ∃ mark more, escapeByte byte = mark :: more := by
          cases shape : escapeByte byte with
          | nil =>
              rw [shape] at head
              cases head
          | cons mark more => exact ⟨mark, more, rfl⟩
        have first : mark = backslash := by
          rw [shape] at head
          exact Option.some.inj head
        have unfolded : escape (byte :: rest) = escapeByte byte ++ escape rest := rfl
        have whole : asBytes tail = front ++ (escapeByte byte ++ escape rest) := by
          rw [spelled, split, escape_append, escape_plain _ plain, unfolded]
        have place : (asBytes tail).idxOf? backslash = some front.length := by
          rw [List.idxOf?_eq_some_iff]
          refine ⟨by rw [whole, shape]; simp, ?_, ?_⟩
          · simp [whole, shape, first]
          · intro other before
            simp only [whole]
            rw [List.getElem_append_left before]
            intro same
            exact no_backslash _ plain (same ▸ List.getElem_mem before)
        obtain ⟨utf8, utf8'⟩ := (utf8_split front rest byte ascii).mp ⟨text, split⟩
        obtain ⟨chunk, same⟩ := utf8
        obtain ⟨later, same'⟩ := utf8'
        obtain ⟨next, spelled'⟩ := (utf8_escape rest).mpr ⟨later, same'⟩
        have cut : strTo tail front.length = some chunk := by
          rw [strTo, whole, List.take_left]
          exact (from_utf8_some _ _).mpr same
        have behind : strFrom tail (front.length + (escapeByte byte).length) = some next := by
          rw [strFrom, if_pos (by rw [whole, List.length_append, List.length_append]; omega), whole, ← List.append_assoc,
            ← List.length_append, List.drop_left]
          exact (from_utf8_some _ _).mpr spelled'
        have shorter : (asBytes next).length < fuel := by
          rw [whole, shape, List.length_append, List.length_append, List.length_cons] at enough
          rw [spelled']
          omega
        rw [decodeTail, place]
        simp only [whole, List.drop_left, read, ok_bind, cut, behind, Option.getD_some]
        rw [ih _ next later (by rw [spelled', same']) shorter]
        congr 1
        apply as_bytes_injective
        simp only [as_bytes_append]
        rw [same, same', as_bytes_singleton byte ascii, split, List.append_assoc, List.append_assoc]
        rfl

end Decode

section Codec

variable (sc : Scanner) (s : String)

theorem json_string_spelled (suffix : Bytes) (found : sc.left = JsonWriter.writeStr [] s ++ suffix) :
    ∃ encoded, asBytes encoded = escape (asBytes s) ∧ Scanner.jsonString sc =
      .ok (⟨encoded, sc.pos + 1, sc.pos + 1 + (asBytes encoded).length⟩, sc.moved (sc.pos + (JsonWriter.writeStr [] s).length)) := by
  obtain ⟨encoded, spelled⟩ := (utf8_escape (asBytes s)).mpr ⟨s, rfl⟩
  rw [JsonWriter.write_str, List.nil_append, ← spelled] at found
  refine ⟨encoded, spelled, ?_⟩
  rw [JsonWriter.write_str, List.nil_append, ← spelled]
  exact json_string_reads encoded sc suffix found ⟨⟨encoded, rfl⟩, asBytes s, spelled⟩

theorem json_text_reads (suffix : Bytes) (found : sc.left = JsonWriter.writeStr [] s ++ suffix) :
    Scanner.jsonText sc = .ok (s, sc.moved (sc.pos + (JsonWriter.writeStr [] s).length)) := by
  obtain ⟨encoded, spelled, read⟩ := json_string_spelled sc s suffix found
  rw [Scanner.jsonText, scan_bind_run _ _ _ _ _ read]
  by_cases escaped : backslash ∈ asBytes encoded
  · simp only [if_pos escaped]
    rw [check, decode_tail _ "" encoded s spelled (by omega)]
    simp [Except.map]
  · simp only [if_neg escaped]
    rcases find_special (asBytes s) with plain | ⟨front, byte, rest, split, _, special⟩
    · rw [escape_plain _ plain] at spelled
      rw [as_bytes_injective spelled]
      rfl
    · -- An escape would have left its backslash.
      have inside : backslash ∈ escape (asBytes s) := by
        have unfolded : escape (byte :: rest) = escapeByte byte ++ escape rest := rfl
        rw [split, escape_append, unfolded]
        apply List.mem_append_right
        exact List.mem_append_left _ (List.mem_of_mem_head? (special_escape byte special []).1)
      rw [← spelled] at inside
      exact absurd inside escaped

theorem json_string_written (text : Spanned) (sc' : Scanner) (read : Scanner.jsonString sc = .ok (text, sc')) :
    ∃ s, sc.left = JsonWriter.writeStr [] s ++ sc'.left ∧ asBytes text.value = escape (asBytes s) := by
  obtain ⟨took, ⟨_, plain, spelled⟩, _⟩ := json_string_took sc sc' text read
  have utf8 : Utf8 (escape plain) := ⟨text.value, spelled⟩
  obtain ⟨s, same⟩ := (utf8_escape plain).mp utf8
  refine ⟨s, ?_, by rw [spelled, same]⟩
  rw [JsonWriter.write_str, List.nil_append, same, ← spelled]
  exact took.left

end Codec

-- The reader decodes what the writer writes and stops behind it, and accepts
-- nothing else.
theorem json_string_codec :
    (∀ (s : String) (suffix : Bytes) (sc : Scanner), sc.left = JsonWriter.writeStr [] s ++ suffix →
      ∃ sc', Scanner.jsonText sc = .ok (s, sc') ∧ sc'.left = suffix ∧ sc' = sc.moved sc'.pos) ∧
      (∀ sc : Scanner, (∃ text sc', Scanner.jsonString sc = .ok (text, sc')) ↔
        ∃ (s : String) (suffix : Bytes), sc.left = JsonWriter.writeStr [] s ++ suffix) ∧
      (∀ (sc sc' : Scanner) (s : String), Scanner.jsonText sc = .ok (s, sc') →
        sc.left = JsonWriter.writeStr [] s ++ sc'.left) ∧
      ∀ first second : String, JsonWriter.writeStr [] first = JsonWriter.writeStr [] second → first = second := by
  refine ⟨?_, ?_, ?_, ?_⟩
  · intro s suffix sc found
    refine ⟨_, json_text_reads sc s suffix found, ?_, rfl⟩
    exact (took_moved sc _ suffix found).2
  · intro sc
    apply Iff.intro
    · intro read
      obtain ⟨text, sc', read⟩ := read
      obtain ⟨s, found, _⟩ := json_string_written sc text sc' read
      exact ⟨s, sc'.left, found⟩
    · intro found
      obtain ⟨s, suffix, found⟩ := found
      obtain ⟨encoded, _, read⟩ := json_string_spelled sc s suffix found
      exact ⟨_, _, read⟩
  · intro sc sc' s read
    have taken := read
    rw [Scanner.jsonText] at taken
    obtain ⟨text, sc'', first, _⟩ := (scan_bind_ok _ _ _ _ _).mp taken
    obtain ⟨other, found, _⟩ := json_string_written sc text sc'' first
    have again := json_text_reads sc other sc''.left found
    rw [read] at again
    obtain ⟨same, moved⟩ := Prod.mk.inj (Except.ok.inj again)
    rw [same, moved, (took_moved sc _ sc''.left found).2]
    exact found
  · intro first second same
    obtain ⟨encoded, spelled⟩ := (utf8_escape (asBytes first)).mpr ⟨first, rfl⟩
    have read := json_text_reads (Scanner.new (JsonWriter.writeStr [] first)) first [] (by simp [Scanner.new, Scanner.left])
    have read' := json_text_reads (Scanner.new (JsonWriter.writeStr [] first)) second []
      (by rw [same]; simp [Scanner.new, Scanner.left])
    rw [read] at read'
    exact (Prod.mk.inj (Except.ok.inj read')).1

end Cesr.Codec
