import Cesr.Core.Primitives
import Cesr.Lib.Checks
import Cesr.Lib.Base64

set_option autoImplicit false

namespace Cesr

open Sextets Base64 Checks

def asBytes (text : String) : Bytes := text.toUTF8.data.toList

def fromUtf8 (bytes : Bytes) : Option String := String.fromUTF8? ⟨bytes.toArray⟩

theorem from_utf8_some (bytes : Bytes) (text : String) : fromUtf8 bytes = some text ↔ asBytes text = bytes := by
  unfold fromUtf8 String.fromUTF8? asBytes
  apply Iff.intro
  · intro read
    split at read
    · rw [← Option.some.inj read]
      rfl
    · cases read
  · intro same
    have whole : (⟨bytes.toArray⟩ : ByteArray) = text.toByteArray := by
      rw [← same]
      rfl
    simp only [whole]
    rw [dif_pos text.isValidUTF8]
    rfl

theorem as_bytes_injective : Function.Injective asBytes := by
  intro left right same
  have read := (from_utf8_some (asBytes right) left).mpr same
  rw [(from_utf8_some (asBytes right) right).mpr rfl] at read
  exact (Option.some.inj read).symm

inductive Base64Error where
  | integerOverflow
  | invalidBase64Char (char : UInt8)
  | invalidBase64Value (value : Nat)
  | shortBinaryStream
  | misaligned (len unit : Nat)
deriving DecidableEq, Repr

def b64Alphabet : Bytes := asBytes "ABCDEFGHIJKLMNOPQRSTUVWXYZabcdefghijklmnopqrstuvwxyz0123456789-_"

-- The reverse table holds the position of each byte of the alphabet and
-- marks every other byte.
def b64Reverse (byte : UInt8) : Option Sextet := (b64Alphabet.idxOf? byte).map sextetOf

theorem b64_alphabet_ranges :
    b64Alphabet.map UInt8.toNat = List.range' 0x41 26 ++ List.range' 0x61 26 ++ List.range' 0x30 10 ++ [0x2D, 0x5F] := by
  decide +kernel

theorem b64_alphabet_nodup : b64Alphabet.Nodup := by
  have plain : (b64Alphabet.map UInt8.toNat).Nodup := by
    rw [b64_alphabet_ranges]
    decide +kernel
  exact plain.of_map

theorem b64_reverse_alphabet (sextet : Sextet) : b64Reverse (b64Alphabet.getD sextet.val 0) = some sextet := by
  have inside : sextet.val < b64Alphabet.length := sextet.isLt
  have first : b64Alphabet.idxOf? b64Alphabet[sextet.val] = some sextet.val := by
    refine List.idxOf?_eq_some_iff.mpr ⟨inside, rfl, ?_⟩
    intro earlier before same
    exact absurd (b64_alphabet_nodup.getElem_inj_iff.mp same) (Nat.ne_of_lt before)
  rw [List.getD_eq_getElem b64Alphabet 0 inside, b64Reverse, first, Option.map_some,
    sextet_of_eq sextet.val sextet (Nat.mod_eq_of_lt sextet.isLt)]

theorem b64_alphabet_reverse (byte : UInt8) (sextet : Sextet) (found : b64Reverse byte = some sextet) :
    b64Alphabet.getD sextet.val 0 = byte := by
  unfold b64Reverse at found
  rw [Option.map_eq_some_iff] at found
  obtain ⟨position, first, same⟩ := found
  obtain ⟨inside, here, _⟩ := List.idxOf?_eq_some_iff.mp first
  have bound : position < 64 := inside
  rw [← same, sextet_of_val, Nat.mod_eq_of_lt bound, List.getD_eq_getElem b64Alphabet 0 inside]
  exact here

def urlSafe : Alphabet where
  char sextet := b64Alphabet.getD sextet.val 0
  value := b64Reverse
  pad := 0x3D
  value_char := b64_reverse_alphabet
  char_value := b64_alphabet_reverse
  value_pad := by decide

def b64ByteToIndex (byte : UInt8) : Except Base64Error Sextet :=
  match b64Reverse byte with
  | some index => .ok index
  | none => .error (.invalidBase64Char byte)

def b64IndexToChar (index : Nat) : Except Base64Error UInt8 :=
  match b64Alphabet[index]? with
  | some char => .ok char
  | none => .error (.invalidBase64Value index)

def isB64UrlSafeCharset (bytes : Bytes) : Bool :=
  bytes.all fun byte =>
    (0x41 ≤ byte && byte ≤ 0x5A) || (0x61 ≤ byte && byte ≤ 0x7A) || (0x30 ≤ byte && byte ≤ 0x39) ||
      byte == 0x2D || byte == 0x5F

theorem b64_reverse_some (byte : UInt8) : (b64Reverse byte).isSome = true ↔ byte ∈ b64Alphabet := by
  rw [b64Reverse, Option.isSome_map, List.isSome_idxOf?]

theorem url_safe_byte (byte : UInt8) :
    ((0x41 ≤ byte && byte ≤ 0x5A) || (0x61 ≤ byte && byte ≤ 0x7A) || (0x30 ≤ byte && byte ≤ 0x39) ||
      byte == 0x2D || byte == 0x5F) = (b64Reverse byte).isSome := by
  have listed : byte ∈ b64Alphabet ↔ byte.toNat ∈ b64Alphabet.map UInt8.toNat :=
    (List.mem_map_of_injective fun _ _ same => UInt8.toNat_inj.mp same).symm
  rw [Bool.eq_iff_iff, b64_reverse_some, listed, b64_alphabet_ranges]
  simp only [Bool.or_eq_true, Bool.and_eq_true, decide_eq_true_eq, beq_iff_eq, UInt8.le_iff_toNat_le, ← UInt8.toNat_inj,
    UInt8.reduceToNat, List.mem_append, List.mem_range'_1, List.mem_cons, List.not_mem_nil, or_false]
  omega

theorem url_safe_charset_iff (bytes : Bytes) : isB64UrlSafeCharset bytes = true ↔ urlSafe.Spells bytes := by
  simp only [isB64UrlSafeCharset, url_safe_byte, List.all_eq_true]
  rfl

def decodeIntStep (width out : Nat) (byte : UInt8) : Except Base64Error Nat := do
  let value ← b64ByteToIndex byte
  rejectIf (2 ^ width ≤ out * 2 ^ 6) .integerOverflow
  rejectIf (2 ^ width ≤ out * 2 ^ 6 + value.val) .integerOverflow
  pure (out * 2 ^ 6 + value.val)

-- The width is that of the integer type read: 32 for a u32, 64 for a usize.
def decodeInt (width : Nat) (stream : Bytes) : Except Base64Error Nat := stream.foldlM (decodeIntStep width) 0

theorem b64_byte_to_index_ok (byte : UInt8) (sextet : Sextet) :
    b64ByteToIndex byte = .ok sextet ↔ b64Reverse byte = some sextet := by
  unfold b64ByteToIndex
  cases b64Reverse byte <;> simp

theorem decode_int_step_ok (width out : Nat) (byte : UInt8) (value : Nat) :
    decodeIntStep width out byte = .ok value ↔
      ∃ sextet, b64Reverse byte = some sextet ∧ out * 64 + sextet.val = value ∧ value < 2 ^ width := by
  simp only [decodeIntStep, bind_ok, b64_byte_to_index_ok, reject_if_ok, exists_done, pure_ok]
  apply exists_congr
  intro sextet
  apply and_congr_right
  intro _
  apply Iff.intro
  · intro found
    obtain ⟨_, fits, same⟩ := found
    exact ⟨by omega, by omega⟩
  · intro found
    obtain ⟨same, fits⟩ := found
    exact ⟨by omega, by omega, by omega⟩

theorem decode_int_ok (width : Nat) (stream : Bytes) (value : Nat) :
    decodeInt width stream = .ok value ↔
      ∃ sextets, stream = sextets.map urlSafe.char ∧ number sextets = value ∧ value < 2 ^ width := by
  induction stream using List.reverseRecOn generalizing value with
  | nil =>
      simp only [decodeInt, List.foldlM_nil, pure_ok]
      apply Iff.intro
      · intro same
        exact ⟨[], rfl, same, by rw [← same]; exact Nat.two_pow_pos width⟩
      · intro found
        obtain ⟨sextets, empty, same, _⟩ := found
        rw [List.map_eq_nil_iff.mp empty.symm] at same
        exact same
  | append_singleton left last ih =>
      simp only [decodeInt, List.foldlM_append, List.foldlM_cons, List.foldlM_nil, bind_ok, pure_ok]
      apply Iff.intro
      · intro found
        obtain ⟨out, before, value', step, same⟩ := found
        obtain ⟨sextet, read, counted, fits⟩ := (decode_int_step_ok width out last value').mp step
        obtain ⟨sextets, spelled, number, _⟩ := (ih out).mp before
        refine ⟨sextets ++ [sextet], ?_, ?_, same ▸ fits⟩
        · rw [List.map_append, List.map_singleton, ← spelled, urlSafe.char_value last sextet read]
        · rw [number_append, number, counted, same]
      · intro found
        obtain ⟨sextets, spelled, counted, fits⟩ := found
        induction sextets using List.reverseRecOn with
        | nil => simp at spelled
        | append_singleton sextets sextet =>
            rw [List.map_append, List.map_singleton] at spelled
            obtain ⟨front, back⟩ := List.append_inj' spelled rfl
            rw [number_append] at counted
            refine ⟨number sextets, (ih _).mpr ⟨sextets, front, rfl, by omega⟩, value, ?_, rfl⟩
            rw [decode_int_step_ok]
            refine ⟨sextet, ?_, counted, fits⟩
            rw [List.singleton_inj.mp back]
            exact urlSafe.value_char sextet

-- The inner loop moves whole digits from the accumulator to the output.
def encodeDrain (length : Nat) : Nat → Nat → Bytes → Except Base64Error (Nat × Nat × Bytes)
  | bits + 6, accumulator, output =>
      if output.length < length then do
        let char ← b64IndexToChar (accumulator / 2 ^ bits % 2 ^ 8)
        encodeDrain length bits (accumulator % 2 ^ bits) (output ++ [char])
      else .ok (bits + 6, accumulator, output)
  | bits, accumulator, output => .ok (bits, accumulator, output)

def encodeByte (length : Nat) (state : Nat × Nat × Bytes) (byte : UInt8) : Except Base64Error (Nat × Nat × Bytes) :=
  encodeDrain length (state.1 + 8) ((state.2.1 * 2 ^ 8 + byte.toNat) % 2 ^ 32) state.2.2

-- The characters pushed are ASCII; the text is kept as its bytes.
def encodeBinary (stream : Bytes) (length : Nat) : Except Base64Error Bytes := do
  let taken := (length * 3 + 3) / 4
  rejectIf (stream.length < taken) .shortBinaryStream
  let state ← (stream.take taken).foldlM (encodeByte length) (0, 0, [])
  pure state.2.2

theorem b64_index_to_char (sextet : Sextet) : b64IndexToChar sextet.val = .ok (urlSafe.char sextet) := by
  revert sextet
  decide

theorem encode_drain_push (length bits accumulator : Nat) (output : Bytes) (room : output.length < length)
    (small : accumulator < 2 ^ bits * 64) :
    encodeDrain length (bits + 6) accumulator output =
      encodeDrain length bits (accumulator % 2 ^ bits)
        (output ++ [urlSafe.char (sextetOf (accumulator / 2 ^ bits))]) := by
  have digit : accumulator / 2 ^ bits < 64 := Nat.div_lt_of_lt_mul small
  have value : (sextetOf (accumulator / 2 ^ bits)).val = accumulator / 2 ^ bits % 2 ^ 8 := by
    rw [sextet_of_val, Nat.mod_eq_of_lt digit, Nat.mod_eq_of_lt (lt_trans digit (by decide))]
  rw [encodeDrain, if_pos room, ← value, b64_index_to_char]
  rfl

theorem encode_drain_full (length bits accumulator : Nat) (output : Bytes) (full : length ≤ output.length) :
    encodeDrain length bits accumulator output = .ok (bits, accumulator, output) := by
  unfold encodeDrain
  split
  · rw [if_neg (Nat.not_lt_of_le full)]
  · rfl

theorem encode_drain_short (length bits accumulator : Nat) (output : Bytes) (few : bits < 6) :
    encodeDrain length bits accumulator output = .ok (bits, accumulator, output) := by
  unfold encodeDrain
  split
  · omega
  · rfl

theorem encode_byte_first (length : Nat) (output : Bytes) (first : UInt8) (room : output.length < length) :
    encodeByte length (0, 0, output) first =
      .ok (2, first.toNat % 4, output ++ [urlSafe.char (sextetOf (first.toNat / 4))]) := by
  have bound := first.toNat_lt
  unfold encodeByte
  simp only
  rw [Nat.zero_mul, Nat.zero_add, Nat.zero_add, Nat.mod_eq_of_lt (by omega)]
  rw [encode_drain_push length 2 _ _ room (by omega), encode_drain_short _ _ _ _ (by omega)]
  norm_num

theorem encode_byte_second (length held : Nat) (output : Bytes) (second : UInt8) (room : output.length < length)
    (small : held < 4) :
    encodeByte length (2, held, output) second =
      .ok (4, second.toNat % 16, output ++ [urlSafe.char (sextetOf (held * 16 + second.toNat / 16))]) := by
  have bound := second.toNat_lt
  have shifted : (held * 2 ^ 8 + second.toNat) / 2 ^ 4 = held * 16 + second.toNat / 16 := by omega
  have kept : (held * 2 ^ 8 + second.toNat) % 2 ^ 4 = second.toNat % 16 := by omega
  unfold encodeByte
  simp only
  rw [Nat.mod_eq_of_lt (by omega), encode_drain_push length 4 _ _ room (by omega),
    encode_drain_short _ _ _ _ (by omega), shifted, kept]

theorem encode_byte_third (length held : Nat) (output : Bytes) (third : UInt8) (room : output.length < length)
    (small : held < 16) :
    encodeByte length (4, held, output) third =
      encodeDrain length 6 (third.toNat % 64)
        (output ++ [urlSafe.char (sextetOf (held * 4 + third.toNat / 64))]) := by
  have bound := third.toNat_lt
  have shifted : (held * 2 ^ 8 + third.toNat) / 2 ^ 6 = held * 4 + third.toNat / 64 := by omega
  have kept : (held * 2 ^ 8 + third.toNat) % 2 ^ 6 = third.toNat % 64 := by omega
  unfold encodeByte
  simp only
  rw [Nat.mod_eq_of_lt (by omega), encode_drain_push length 6 _ _ room (by omega), shifted, kept]

theorem encode_bytes_spread (stream : Bytes) (length left : Nat) (output : Bytes) (counted : output.length + left = length)
    (enough : stream.length = (left * 3 + 3) / 4) :
    ∃ state, stream.foldlM (encodeByte length) (0, 0, output) = .ok state ∧
      state.2.2 = output ++ ((spread stream).take left).map urlSafe.char := by
  induction stream using spread.induct generalizing left output with
  | case1 first second third rest ih =>
      simp only [List.length_cons] at enough
      have secondBound := second.toNat_lt
      rw [List.foldlM_cons, encode_byte_first length output first (by omega), ok_bind, List.foldlM_cons,
        encode_byte_second length _ _ second (by simp; omega) (by omega), ok_bind, List.foldlM_cons,
        encode_byte_third length _ _ third (by simp; omega) (by omega)]
      by_cases last : left = 3
      · have empty : rest = [] := List.length_eq_zero_iff.mp (by omega)
        rw [encode_drain_full _ _ _ _ (by simp; omega), ok_bind, empty]
        refine ⟨_, rfl, ?_⟩
        simp [spread, last]
      · obtain ⟨more, split⟩ := Nat.exists_eq_add_of_le' (show 4 ≤ left by omega)
        rw [encode_drain_push length 0 _ _ (by simp; omega) (by omega), encode_drain_short _ _ _ _ (by omega), ok_bind]
        have rest := ih more (output ++ [urlSafe.char (sextetOf (first.toNat / 4))] ++
          [urlSafe.char (sextetOf (first.toNat % 4 * 16 + second.toNat / 16))] ++
          [urlSafe.char (sextetOf (second.toNat % 16 * 4 + third.toNat / 64))] ++
          [urlSafe.char (sextetOf third.toNat)]) (by simp; omega) (by omega)
        obtain ⟨state, folded, same⟩ := rest
        have spent : third.toNat % 64 % 2 ^ 0 = 0 := by simp [Nat.mod_one]
        have digit : sextetOf (third.toNat % 64 / 2 ^ 0) = sextetOf third.toNat := by
          apply Fin.ext
          simp
        rw [spent, digit]
        refine ⟨state, folded, ?_⟩
        rw [same, split]
        simp [spread]
  | case2 first second =>
      simp only [List.length_cons, List.length_nil] at enough
      have two : left = 2 := by omega
      rw [List.foldlM_cons, encode_byte_first length output first (by omega), ok_bind, List.foldlM_cons,
        encode_byte_second length _ _ second (by simp; omega) (by omega), ok_bind]
      refine ⟨_, rfl, ?_⟩
      simp [spread, two]
  | case3 first =>
      simp only [List.length_cons, List.length_nil] at enough
      have one : left = 1 := by omega
      rw [List.foldlM_cons, encode_byte_first length output first (by omega), ok_bind]
      refine ⟨_, rfl, ?_⟩
      simp [spread, one]
  | case4 =>
      have nothing : left = 0 := by
        simp only [List.length_nil] at enough
        omega
      refine ⟨_, rfl, ?_⟩
      simp [nothing]

theorem encode_binary_ok (stream : Bytes) (length : Nat) (text : Bytes) :
    encodeBinary stream length = .ok text ↔
      (length * 3 + 3) / 4 ≤ stream.length ∧ text = ((spread stream).take length).map urlSafe.char := by
  simp only [encodeBinary, bind_ok, reject_if_ok, exists_done, pure_ok, Nat.not_lt]
  apply and_congr_right
  intro enough
  obtain ⟨state, folded, same⟩ := encode_bytes_spread (stream.take ((length * 3 + 3) / 4)) length length []
    (Nat.zero_add length) (by rw [List.length_take, Nat.min_eq_left enough])
  rw [List.nil_append, spread_take stream _ length (by omega)] at same
  rw [folded, ← same]
  apply Iff.intro
  · intro found
    obtain ⟨middle, reached, shown⟩ := found
    rw [← shown, Except.ok.inj reached]
  · intro shown
    exact ⟨state, rfl, shown.symm⟩

-- What ZeroLead writes: full zero groups, one mixed block, then the rest.
def zeroLeadEncode (raw : Bytes) (bytes : Nat) : Bytes :=
  let zeros := List.replicate (bytes / 3 * 4) 0x41
  let first := bytes % 3
  if first ≠ 0 then
    let take := min (3 - first) raw.length
    zeros ++ urlSafe.encode (List.replicate first 0 ++ raw.take take) ++ urlSafe.encode (raw.drop take)
  else zeros ++ urlSafe.encode raw

theorem encode_append (left right : Bytes) (aligned : 3 ∣ left.length) :
    urlSafe.encode (left ++ right) = urlSafe.encode left ++ urlSafe.encode right := by
  unfold Alphabet.encode
  rw [spread_append left right aligned, List.map_append]

theorem encode_zero_groups (groups : Nat) (raw : Bytes) :
    urlSafe.encode (List.replicate (groups * 3) 0 ++ raw) = List.replicate (groups * 4) 0x41 ++ urlSafe.encode raw := by
  induction groups with
  | zero => simp
  | succ groups ih =>
      rw [Nat.succ_mul, Nat.succ_mul, Nat.add_comm _ 3, Nat.add_comm _ 4, List.replicate_add, List.replicate_add,
        List.append_assoc, encode_append _ _ (by simp), ih, List.append_assoc]
      rfl

theorem zero_lead_encode (raw : Bytes) (bytes : Nat) :
    zeroLeadEncode raw bytes = urlSafe.encode (List.replicate bytes 0 ++ raw) := by
  have split : List.replicate bytes (0 : UInt8) ++ raw =
      List.replicate (bytes / 3 * 3) 0 ++ (List.replicate (bytes % 3) 0 ++ raw) := by
    rw [← List.append_assoc, ← List.replicate_add, Nat.div_add_mod']
  rw [split, encode_zero_groups]
  unfold zeroLeadEncode
  simp only
  split
  · rename_i partly
    rw [List.append_assoc]
    congr 1
    by_cases enough : 3 - bytes % 3 ≤ raw.length
    · rw [Nat.min_eq_left enough, ← encode_append, List.append_assoc, List.take_append_drop]
      rw [List.length_append, List.length_replicate, List.length_take, Nat.min_eq_left enough]
      have within := Nat.mod_lt bytes (show 3 > 0 by decide)
      rw [Nat.add_sub_cancel' (Nat.le_of_lt within)]
    · rw [Nat.min_eq_right (Nat.le_of_not_le enough), List.take_length, List.drop_length]
      exact List.append_nil _
  · rename_i whole
    rw [not_not] at whole
    rw [whole]
    rfl

def qb64DecodeBlocks : Bytes → Except Base64Error Bytes
  | first :: second :: third :: fourth :: rest => do
      let v0 ← b64ByteToIndex first
      let v1 ← b64ByteToIndex second
      let v2 ← b64ByteToIndex third
      let v3 ← b64ByteToIndex fourth
      let bits := v0.val * 2 ^ 18 + v1.val * 2 ^ 12 + v2.val * 2 ^ 6 + v3.val
      let others ← qb64DecodeBlocks rest
      pure (byteOf (bits / 2 ^ 16) :: byteOf (bits / 2 ^ 8) :: byteOf bits :: others)
  | _ => pure []

def qb64Decode (qb64 : Bytes) : Except Base64Error Bytes := do
  rejectIf (qb64.length % 4 ≠ 0) (.misaligned qb64.length 4)
  qb64DecodeBlocks qb64

theorem byte_of_congr (left right : Nat) (same : left % 256 = right % 256) : byteOf left = byteOf right :=
  byte_of_eq left (byteOf right) (by rw [byte_of_to_nat, same])

theorem b64_byte_to_index_char (sextet : Sextet) : b64ByteToIndex (urlSafe.char sextet) = .ok sextet :=
  (b64_byte_to_index_ok _ sextet).mpr (urlSafe.value_char sextet)

theorem qb64_decode_map (sextets : List Sextet) (aligned : 4 ∣ sextets.length) :
    qb64Decode (sextets.map urlSafe.char) = .ok (pack sextets) := by
  have whole : (sextets.map urlSafe.char).length % 4 = 0 := by
    rw [List.length_map]
    exact Nat.mod_eq_zero_of_dvd aligned
  rw [qb64Decode, rejectIf, if_neg (by omega), ok_bind]
  induction sextets using pack.induct with
  | case1 first second third fourth rest ih =>
      have firstBound := first.isLt
      have secondBound := second.isLt
      have thirdBound := third.isLt
      have fourthBound := fourth.isLt
      simp only [List.length_cons] at aligned
      simp only [List.map_cons, qb64DecodeBlocks, b64_byte_to_index_char, ok_bind, pack]
      rw [ih (by omega) (by rw [List.length_map]; omega), ok_bind]
      have high := byte_of_congr ((first.val * 2 ^ 18 + second.val * 2 ^ 12 + third.val * 2 ^ 6 + fourth.val) / 2 ^ 16)
        (first.val * 4 + second.val / 16) (by omega)
      have middle := byte_of_congr ((first.val * 2 ^ 18 + second.val * 2 ^ 12 + third.val * 2 ^ 6 + fourth.val) / 2 ^ 8)
        (second.val % 16 * 16 + third.val / 4) (by omega)
      have low := byte_of_congr (first.val * 2 ^ 18 + second.val * 2 ^ 12 + third.val * 2 ^ 6 + fourth.val)
        (third.val % 4 * 64 + fourth.val) (by omega)
      rw [high, middle, low]
      rfl
  | case2 first second third => simp at aligned
  | case3 first second => simp at aligned
  | case4 first => simp at aligned
  | case5 => rfl

theorem qb64_decode_blocks_spells (text binary : Bytes) (aligned : 4 ∣ text.length) (read : qb64DecodeBlocks text = .ok binary) :
    urlSafe.Spells text := by
  induction text using qb64DecodeBlocks.induct generalizing binary with
  | case1 first second third fourth rest ih =>
      simp only [qb64DecodeBlocks, bind_ok, b64_byte_to_index_ok, pure_ok] at read
      obtain ⟨v0, first, v1, second, v2, third, v3, fourth, others, later, _⟩ := read
      have tail := ih others (by simp only [List.length_cons] at aligned; omega) later
      simp only [Alphabet.Spells, List.forall_mem_cons]
      exact ⟨Option.isSome_of_eq_some first, Option.isSome_of_eq_some second, Option.isSome_of_eq_some third,
        Option.isSome_of_eq_some fourth, tail⟩
  | case2 text short =>
      have empty : text = [] := by
        rcases text with _ | ⟨first, _ | ⟨second, _ | ⟨third, _ | ⟨fourth, rest⟩⟩⟩⟩
        · rfl
        · simp at aligned
        · simp at aligned
        · simp at aligned
        · exact absurd rfl (short first second third fourth rest)
      rw [empty]
      intro byte inside
      cases inside

theorem qb64_decode_ok (text binary : Bytes) :
    qb64Decode text = .ok binary ↔ ∃ sextets, 4 ∣ sextets.length ∧ text = sextets.map urlSafe.char ∧ binary = pack sextets := by
  apply Iff.intro
  · intro read
    have blocks := read
    simp only [qb64Decode, bind_ok, reject_if_ok, exists_done, not_not] at blocks
    obtain ⟨whole, decoded⟩ := blocks
    have aligned := Nat.dvd_of_mod_eq_zero whole
    obtain ⟨sextets, same⟩ := (spells_iff urlSafe text).mp (qb64_decode_blocks_spells text binary aligned decoded)
    have count : 4 ∣ sextets.length := by rwa [same, List.length_map] at aligned
    refine ⟨sextets, count, same, ?_⟩
    rw [same, qb64_decode_map sextets count] at read
    exact (Except.ok.inj read).symm
  · intro found
    obtain ⟨sextets, aligned, spelled, packed⟩ := found
    rw [spelled, packed, qb64_decode_map sextets aligned]

def asciiText (chars : Bytes) : String := String.ofList (chars.map Char.ofUInt8)

theorem as_bytes_ascii_text (chars : Bytes) (ascii : ∀ char ∈ chars, char.toNat < 128) :
    asBytes (asciiText chars) = chars := by
  have each : ∀ char ∈ chars, String.utf8EncodeChar (Char.ofUInt8 char) = [char] := by
    intro char inside
    have small : (Char.ofUInt8 char).val.toNat = char.toNat := UInt8.toNat_toUInt32 char
    have bound := ascii char inside
    rw [String.utf8EncodeChar, small, if_pos (by omega), UInt8.ofNat_toNat]
  rw [asBytes, asciiText, String.toUTF8_eq_toByteArray, String.toByteArray_ofList, List.utf8Encode,
    List.toList_data_toByteArray, List.flatMap_map, List.flatMap_congr each]
  exact List.flatMap_singleton' chars

theorem url_safe_ascii (sextet : Sextet) : (urlSafe.char sextet).toNat < 128 := by
  revert sextet
  decide

end Cesr
