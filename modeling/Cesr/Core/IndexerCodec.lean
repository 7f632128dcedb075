import Cesr.Core.Indexer
import Cesr.Core.MatterBuilt

set_option autoImplicit false

namespace Cesr

open Sextets Base64 Checks

-- The full size in the table; every code is of a fixed size.
def IndexedSigCode.size (code : IndexedSigCode) : Nat :=
  match code.getXizage.fs with
  | .fixed size => size
  | .variableSize => 0

theorem xizage_fixed (code : IndexedSigCode) : code.getXizage.fs = .fixed code.size := by
  cases code <;> rfl

theorem xizage_sound (code : IndexedSigCode) :
    code.getXizage.ls = 0 ∧ code.getXizage.ps ≤ 2 ∧ code.getXizage.os ≤ code.getXizage.ss ∧ code.getXizage.cs < code.size ∧
      4 ∣ code.size ∧ 4 * (code.rawSize + code.getXizage.ps) = 3 * (code.size - code.getXizage.cs + code.getXizage.ps) := by
  cases code <;> decide

theorem hard_length (code : IndexedSigCode) : (asBytes code.asStr).length = code.getXizage.hs := by
  cases code <;> decide

theorem hard_spelled (code : IndexedSigCode) : urlSafe.Spells (asBytes code.asStr) :=
  (url_safe_charset_iff _).mp (by cases code <;> decide)

theorem hardage_of_hard (code : IndexedSigCode) :
    ∃ first tail, asBytes code.asStr = first :: tail ∧ hardage first = some code.getXizage.hs := by
  cases code <;> exact ⟨_, _, rfl, by decide⟩

theorem from_hard_ok (hard : String) (code : IndexedSigCode) : IndexedSigCode.fromHard hard = .ok code ↔ code.asStr = hard := by
  apply Iff.intro
  · intro read
    unfold IndexedSigCode.fromHard at read
    split at read
    all_goals cases read
    all_goals rfl
  · intro named
    rw [← named, from_hard_as_str]

theorem indexer_text_ok (bytes : Bytes) (text : String) : indexerText bytes = .ok text ↔ asBytes text = bytes := by
  rw [← from_utf8_some]
  unfold indexerText
  cases fromUtf8 bytes with
  | none => simp
  | some found => simp

theorem read_hard_ok (stream : Bytes) (code : IndexedSigCode) :
    IndexedSigCode.readHard stream = .ok code ↔ ∃ rest, stream = asBytes code.asStr ++ rest := by
  apply Iff.intro
  · intro read
    unfold IndexedSigCode.readHard at read
    split at read
    · cases read
    · split at read
      · cases read
      · rename_i hs _
        simp only [bind_ok, reject_if_ok, exists_done, indexer_text_ok, map_error_ok, from_hard_ok] at read
        obtain ⟨_, text, taken, named⟩ := read
        exact ⟨stream.drop hs, by rw [named, taken, List.take_append_drop]⟩
  · intro found
    obtain ⟨rest, same⟩ := found
    obtain ⟨first, tail, spelled, sized⟩ := hardage_of_hard code
    have length := hard_length code
    have head : stream.head? = some first := by rw [same, spelled]; rfl
    unfold IndexedSigCode.readHard
    rw [head]
    simp only [sized, bind_ok, reject_if_ok, exists_done, indexer_text_ok, map_error_ok, from_hard_ok]
    refine ⟨?_, code.asStr, ?_, rfl⟩
    · rw [same, List.length_append]
      omega
    · rw [same, List.take_left' length]

theorem write_index (value width : Nat) : writeIndex value width = (digits width value).map urlSafe.char := by
  unfold writeIndex digits
  rw [List.map_map]
  apply List.map_congr_left
  intro position _
  have shift : 2 ^ ((width - position - 1) * 6) = 64 ^ (width - position - 1) := by
    rw [Nat.mul_comm, pow_mul]
    rfl
  rw [shift]
  rfl

theorem read_index_ok (chars : Bytes) (index : U32) :
    readIndex chars = .ok index ↔ index.val < 64 ^ chars.length ∧ chars = (digits chars.length index.val).map urlSafe.char := by
  simp only [readIndex, bind_ok, indexer_text_ok, map_error_ok, decode_int_ok, pure_ok]
  apply Iff.intro
  · intro found
    obtain ⟨_, _, value, ⟨sextets, spelled, counted, small⟩, same⟩ := found
    have length : chars.length = sextets.length := by rw [spelled, List.length_map]
    have word : index.val = value := by
      rw [← same]
      exact Nat.mod_eq_of_lt small
    rw [word, ← counted, length, digits_number]
    exact ⟨number_lt sextets, spelled⟩
  · intro found
    obtain ⟨fits, spelled⟩ := found
    have chosen : urlSafe.Spells chars := by
      rw [spelled]
      exact spells_map urlSafe _
    refine ⟨asciiText chars, ascii_of_spelled chars chosen, index.val, ⟨_, spelled, number_digits _ _ fits, index.isLt⟩, ?_⟩
    exact Fin.ofNat_val_eq_self index

def WellOrdered (code : IndexedSigCode) (index : U32) (ondex : Option U32) : Prop :=
  match code.mode with
  | .currentOnly => ondex = none
  | .both =>
      if 0 < code.getXizage.os then ∃ other, ondex = some other ∧ other.val < 64 ^ code.getXizage.os else ondex = some index

theorem read_ondex_ok (code : IndexedSigCode) (index : U32) (chars : Bytes) (ondex : Option U32)
    (length : chars.length = code.getXizage.os) :
    readOndex code index chars = .ok ondex ↔
      WellOrdered code index ondex ∧ chars = (digits code.getXizage.os (ondex.getD 0).val).map urlSafe.char := by
  unfold readOndex WellOrdered
  by_cases wide : 0 < code.getXizage.os
  · rw [if_pos wide, if_pos wide, if_pos wide]
    cases code.mode with
    | currentOnly =>
        simp only [bind_ok, read_index_ok, reject_if_ok, exists_done, pure_ok, not_not, length]
        apply Iff.intro
        · intro found
          obtain ⟨other, ⟨_, spelled⟩, zero, same⟩ := found
          rw [zero] at spelled
          rw [← same]
          exact ⟨rfl, spelled⟩
        · intro found
          obtain ⟨absent, spelled⟩ := found
          rw [absent] at spelled
          exact ⟨0, ⟨Nat.pow_pos (by decide), spelled⟩, rfl, absent.symm⟩
    | both =>
        simp only [bind_ok, read_index_ok, pure_ok, length]
        apply Iff.intro
        · intro found
          obtain ⟨other, ⟨fits, spelled⟩, same⟩ := found
          rw [← same]
          exact ⟨⟨other, rfl, fits⟩, spelled⟩
        · intro found
          obtain ⟨⟨other, given, fits⟩, spelled⟩ := found
          rw [given] at spelled
          exact ⟨other, ⟨fits, spelled⟩, given.symm⟩
  · have narrow : code.getXizage.os = 0 := by omega
    have empty : chars = [] := List.length_eq_zero_iff.mp (by omega)
    rw [if_neg wide, if_neg wide, if_neg wide, narrow, empty]
    cases code.mode with
    | currentOnly => simp [digits, eq_comm]
    | both => simp [digits, eq_comm]

def Indexer.header (indexer : Indexer) : Bytes :=
  asBytes indexer.code.asStr ++ (digits indexer.code.getXizage.ms indexer.index.val).map urlSafe.char ++
    (digits indexer.code.getXizage.os (indexer.ondex.getD 0).val).map urlSafe.char

theorem indexer_header_length (indexer : Indexer) : indexer.header.length = indexer.code.getXizage.cs := by
  have sound := xizage_sound indexer.code
  simp only [Indexer.header, List.length_append, List.length_map, length_digits, hard_length, Xizage.cs, Xizage.ms]
  omega

theorem indexer_header_spelled (indexer : Indexer) : urlSafe.Spells indexer.header := by
  simp only [Indexer.header, spells_append]
  exact ⟨⟨hard_spelled indexer.code, spells_map urlSafe _⟩, spells_map urlSafe _⟩

-- A text is accepted when it is a header, a payload that fills the full size of
-- the code and anything after it; the bytes under the pad characters are dropped.
structure ReadsIndexer (indexer : Indexer) (payload buf stream : Bytes) : Prop where
  framed : ∃ rest, stream = indexer.header ++ payload ++ rest
  fits : indexer.index.val < 64 ^ indexer.code.getXizage.ms
  ordered : WellOrdered indexer.code indexer.index indexer.ondex
  sized : indexer.code.getXizage.cs + payload.length = indexer.code.size
  decoded : List.replicate indexer.code.getXizage.ps 0x41 ++ payload = urlSafe.encode buf
  rest : indexer.raw = buf.drop indexer.code.getXizage.ps

theorem skip_pads (code : IndexedSigCode) :
    (if code.getXizage.ps ≠ 0 then code.getXizage.ps else code.getXizage.ls) = code.getXizage.ps := by
  cases code <;> rfl

theorem from_qb64_ok (stream : Bytes) (indexer : Indexer) (consumed : Nat) :
    Indexer.fromQb64 stream = .ok (indexer, consumed) ↔
      (∃ payload buf, ReadsIndexer indexer payload buf stream) ∧ consumed = indexer.code.size := by
  apply Iff.intro
  · intro accepted
    simp only [Indexer.fromQb64, bind_ok, reject_if_ok, exists_done, read_hard_ok, read_index_ok, Nat.not_lt] at accepted
    obtain ⟨code, ⟨tail, spelled⟩, long, index, ⟨fits, indexChars⟩, ondex, ondexRead, fs, sized, whole, decoding⟩ := accepted
    have sound := xizage_sound code
    have hard := hard_length code
    have split : code.getXizage.cs = code.getXizage.hs + code.getXizage.ss := rfl
    have main : code.getXizage.ms = code.getXizage.ss - code.getXizage.os := rfl
    have size : code.size = fs := by
      rw [xizage_fixed, XizageSize.fullSize] at sized
      exact Except.ok.inj sized
    have indexLength : ((stream.take (code.getXizage.hs + code.getXizage.ms)).drop code.getXizage.hs).length =
        code.getXizage.ms := by
      rw [List.length_drop, List.length_take]
      omega
    have ondexLength : ((stream.take (code.getXizage.hs + code.getXizage.ms + code.getXizage.os)).drop
        (code.getXizage.hs + code.getXizage.ms)).length = code.getXizage.os := by
      rw [List.length_drop, List.length_take]
      omega
    rw [indexLength] at fits indexChars
    obtain ⟨ordered, ondexChars⟩ := (read_ondex_ok code index _ ondex ondexLength).mp ondexRead
    split at decoding
    · cases decoding
    · rename_i buf decoded
      rw [decode_unpadded_some] at decoded
      simp only [pure_ok, Prod.mk.injEq, skip_pads] at decoding
      obtain ⟨same, counted⟩ := decoding
      have header : Indexer.header ⟨code, index, ondex, buf.drop code.getXizage.ps⟩ = stream.take code.getXizage.cs := by
        have first : asBytes code.asStr = (stream.take (code.getXizage.hs + code.getXizage.ms)).take code.getXizage.hs := by
          rw [List.take_take, Nat.min_eq_left (Nat.le_add_right _ _), spelled, List.take_left' hard]
        have second : stream.take (code.getXizage.hs + code.getXizage.ms) =
            (stream.take (code.getXizage.hs + code.getXizage.ms + code.getXizage.os)).take
              (code.getXizage.hs + code.getXizage.ms) := by
          rw [List.take_take, Nat.min_eq_left (Nat.le_add_right _ _)]
        rw [Indexer.header, ← indexChars, ← ondexChars, first, List.take_append_drop, second, List.take_append_drop]
        congr 1
        omega
      rw [← same, ← counted, ← size]
      refine ⟨⟨(stream.take fs).drop code.getXizage.cs, buf, ?_, fits, ordered, ?_, decoded, rfl⟩, rfl⟩
      · refine ⟨stream.drop fs, ?_⟩
        have shorter : stream.take code.getXizage.cs = (stream.take fs).take code.getXizage.cs := by
          rw [List.take_take, Nat.min_eq_left (by omega)]
        rw [header, shorter, List.take_append_drop, List.take_append_drop]
      · simp only [List.length_drop, List.length_take]
        omega
  · intro found
    obtain ⟨⟨payload, buf, reads⟩, counted⟩ := found
    obtain ⟨rest, framed⟩ := reads.framed
    have length := indexer_header_length indexer
    have sound := xizage_sound indexer.code
    have hard := hard_length indexer.code
    have sized := reads.sized
    have split : indexer.code.getXizage.cs = indexer.code.getXizage.hs + indexer.code.getXizage.ss := rfl
    have main : indexer.code.getXizage.ms = indexer.code.getXizage.ss - indexer.code.getXizage.os := rfl
    have streamLength := congrArg List.length framed
    rw [List.length_append, List.length_append, length] at streamLength
    have behind : stream = asBytes indexer.code.asStr ++ ((digits indexer.code.getXizage.ms indexer.index.val).map urlSafe.char ++
        ((digits indexer.code.getXizage.os (indexer.ondex.getD 0).val).map urlSafe.char ++ (payload ++ rest))) := by
      rw [framed]
      simp only [Indexer.header, List.append_assoc]
    have indexChars : (stream.take (indexer.code.getXizage.hs + indexer.code.getXizage.ms)).drop indexer.code.getXizage.hs =
        (digits indexer.code.getXizage.ms indexer.index.val).map urlSafe.char := by
      rw [List.drop_take, behind, List.drop_left' hard, Nat.add_sub_cancel_left, List.take_left' (by simp)]
    have ondexChars : (stream.take (indexer.code.getXizage.hs + indexer.code.getXizage.ms + indexer.code.getXizage.os)).drop
        (indexer.code.getXizage.hs + indexer.code.getXizage.ms) =
          (digits indexer.code.getXizage.os (indexer.ondex.getD 0).val).map urlSafe.char := by
      rw [List.drop_take, behind, ← List.append_assoc, List.drop_left' (by simp [hard]), Nat.add_sub_cancel_left,
        List.take_left' (by simp)]
    simp only [Indexer.fromQb64, bind_ok, reject_if_ok, exists_done, read_hard_ok, Nat.not_lt]
    refine ⟨indexer.code, ⟨_, behind⟩, by omega, indexer.index, ?_, indexer.ondex, ?_, indexer.code.size, ?_, by omega, ?_⟩
    · rw [indexChars, read_index_ok, List.length_map, length_digits]
      exact ⟨reads.fits, rfl⟩
    · rw [ondexChars, read_ondex_ok _ _ _ _ (by simp)]
      exact ⟨reads.ordered, rfl⟩
    · rw [xizage_fixed, XizageSize.fullSize]
    · have text : (stream.take indexer.code.size).drop indexer.code.getXizage.cs = payload := by
        rw [framed, List.take_left' (by rw [List.length_append, length, sized]), List.drop_left' length]
      rw [text, reads.decoded, decode_unpadded_encode]
      simp only [pure_ok, skip_pads, ← reads.rest, counted]

theorem raw_pads (code : IndexedSigCode) : (3 - code.rawSize % 3) % 3 = code.getXizage.ps := by
  cases code <;> rfl

def indexerPayload (code : IndexedSigCode) (raw : Bytes) : Bytes :=
  (urlSafe.encode (List.replicate code.getXizage.ps 0 ++ raw)).drop code.getXizage.ps

theorem indexer_payload_encoded (code : IndexedSigCode) (raw : Bytes) :
    List.replicate code.getXizage.ps 0x41 ++ indexerPayload code raw =
      urlSafe.encode (List.replicate code.getXizage.ps 0 ++ raw) := by
  have few := (xizage_sound code).2.1
  have first : (urlSafe.encode (List.replicate code.getXizage.ps 0 ++ raw)).take code.getXizage.ps =
      List.replicate code.getXizage.ps 0x41 := by
    rw [Alphabet.encode, ← List.map_take, spread_zero_lead _ _ few, map_replicate_zero]
  rw [indexerPayload, ← first, List.take_append_drop]

theorem indexer_payload_length (code : IndexedSigCode) (raw : Bytes) (sized : raw.length = code.rawSize) :
    code.getXizage.cs + (indexerPayload code raw).length = code.size := by
  have sound := xizage_sound code
  have counted := congrArg List.length (indexer_payload_encoded code raw)
  rw [length_encode, List.length_append, List.length_append, List.length_replicate, List.length_replicate, sized] at counted
  omega

theorem indexer_to_qb64 (indexer : Indexer) (sized : indexer.raw.length = indexer.code.rawSize) :
    indexer.toQb64 = some (indexer.header ++ indexerPayload indexer.code indexer.raw) := by
  have sound := xizage_sound indexer.code
  have hard := hard_length indexer.code
  have pads := raw_pads indexer.code
  have length := indexer_payload_length indexer.code indexer.raw sized
  have encoded := indexer_payload_encoded indexer.code indexer.raw
  have padded : indexer.code.getXizage.ps ≤ indexer.code.getXizage.cs := Nat.mod_le _ 4
  have split : indexer.code.getXizage.cs = indexer.code.getXizage.hs + indexer.code.getXizage.ss := rfl
  have main : indexer.code.getXizage.ms = indexer.code.getXizage.ss - indexer.code.getXizage.os := rfl
  let front : Bytes := List.replicate (indexer.code.getXizage.cs - indexer.code.getXizage.ps) 0 ++
    List.replicate indexer.code.getXizage.ps 0x41
  have frontLength : front.length = indexer.code.getXizage.cs := by
    simp only [front, List.length_append, List.length_replicate]
    omega
  have whole : List.replicate (indexer.code.getXizage.cs - indexer.code.getXizage.ps) 0 ++
      (List.replicate indexer.code.getXizage.ps 0x41 ++ indexerPayload indexer.code indexer.raw) =
        front ++ indexerPayload indexer.code indexer.raw := (List.append_assoc _ _ _).symm
  unfold Indexer.toQb64 Indexer.appendQb64 Indexer.header
  simp only [xizage_fixed, sized, pads, sound.1, Nat.sub_zero, zero_lead_encode, ← encoded, List.length_append,
    List.length_replicate, write_index]
  rw [if_pos (by omega), whole]
  generalize indexerPayload indexer.code indexer.raw = payload
  have first := copy_from_slice_some (front ++ payload) [] (front.take indexer.code.getXizage.hs)
    (front.drop indexer.code.getXizage.hs ++ payload) (asBytes indexer.code.asStr) 0 indexer.code.getXizage.hs
    (by rw [List.nil_append, ← List.append_assoc, List.take_append_drop]) rfl
    (by rw [List.length_nil, List.length_take]; omega) (by rw [List.length_take]; omega)
  have second := copy_from_slice_some (asBytes indexer.code.asStr ++ (front.drop indexer.code.getXizage.hs ++ payload))
    (asBytes indexer.code.asStr) ((front.drop indexer.code.getXizage.hs).take indexer.code.getXizage.ms)
    ((front.drop indexer.code.getXizage.hs).drop indexer.code.getXizage.ms ++ payload)
    ((digits indexer.code.getXizage.ms indexer.index.val).map urlSafe.char) indexer.code.getXizage.hs
    (indexer.code.getXizage.hs + indexer.code.getXizage.ms)
    (by rw [List.append_assoc, ← List.append_assoc (List.take _ _), List.take_append_drop]) hard
    (by rw [List.length_take, List.length_drop]; omega)
    (by rw [List.length_take, List.length_drop, List.length_map, length_digits]; omega)
  have third := copy_from_slice_some
    (asBytes indexer.code.asStr ++ (digits indexer.code.getXizage.ms indexer.index.val).map urlSafe.char ++
      ((front.drop indexer.code.getXizage.hs).drop indexer.code.getXizage.ms ++ payload))
    (asBytes indexer.code.asStr ++ (digits indexer.code.getXizage.ms indexer.index.val).map urlSafe.char)
    ((front.drop indexer.code.getXizage.hs).drop indexer.code.getXizage.ms) payload
    ((digits indexer.code.getXizage.os (indexer.ondex.getD 0).val).map urlSafe.char)
    (indexer.code.getXizage.hs + indexer.code.getXizage.ms) indexer.code.getXizage.cs (List.append_assoc _ _ _).symm
    (by rw [List.length_append, List.length_map, length_digits, hard])
    (by simp only [List.length_append, List.length_map, length_digits, List.length_drop]; omega)
    (by rw [List.length_drop, List.length_drop, List.length_map, length_digits]; omega)
  rw [first, Option.bind_eq_bind, Option.bind_some, List.nil_append, second, Option.bind_some, third, Option.bind_some,
    List.nil_append]

theorem reads_indexer_raw (indexer : Indexer) (payload buf stream : Bytes) (reads : ReadsIndexer indexer payload buf stream) :
    indexer.raw.length = indexer.code.rawSize := by
  have sound := xizage_sound indexer.code
  have sized := reads.sized
  have counted := congrArg List.length reads.decoded
  rw [List.length_append, List.length_replicate, length_encode] at counted
  rw [reads.rest, List.length_drop]
  omega

-- The high bits of the first payload character are the pad bits; the decoder
-- drops the bytes they decode to.
def ClearPad (stream : Bytes) : Prop :=
  ∀ code first, IndexedSigCode.readHard stream = .ok code →
    b64Reverse (stream.getD code.getXizage.cs 0) = some first → first.val / 4 ^ (3 - code.getXizage.ps) = 0

theorem read_hard_header (indexer : Indexer) (rest : Bytes) :
    IndexedSigCode.readHard (indexer.header ++ rest) = .ok indexer.code :=
  (read_hard_ok _ _).mpr ⟨(digits indexer.code.getXizage.ms indexer.index.val).map urlSafe.char ++
    (digits indexer.code.getXizage.os (indexer.ondex.getD 0).val).map urlSafe.char ++ rest, by
      simp only [Indexer.header, List.append_assoc]⟩

theorem clear_pad_spare (indexer : Indexer) (sextets : List Sextet) (rest : Bytes) (some : sextets ≠ []) :
    ClearPad (indexer.header ++ (sextets.map urlSafe.char ++ rest)) ↔ spare indexer.code.getXizage.ps sextets = 0 := by
  have length := indexer_header_length indexer
  cases sextets with
  | nil => exact absurd rfl some
  | cons first others =>
      have here : (indexer.header ++ ((first :: others).map urlSafe.char ++ rest)).getD indexer.code.getXizage.cs 0 =
          urlSafe.char first := by
        rw [← length, List.getD_append_right _ _ _ _ (Nat.le_refl _), Nat.sub_self]
        rfl
      apply Iff.intro
      · intro clear
        exact clear indexer.code first (read_hard_header indexer _) (by rw [here]; exact urlSafe.value_char first)
      · intro zero code other hard read
        rw [read_hard_header] at hard
        rw [← Except.ok.inj hard] at read ⊢
        rw [here] at read
        have same : first = other := Option.some.inj ((urlSafe.value_char first).symm.trans read)
        rw [← same]
        exact zero

theorem replicate_zero_spare (lead : Nat) (payload : List Sextet) (few : lead ≤ 2) (nonempty : payload ≠ []) :
    (pack (List.replicate lead 0 ++ payload)).take lead = List.replicate lead 0 ↔ spare lead payload = 0 := by
  by_cases padded : 1 ≤ lead
  · have bound := spare_lt lead payload (by omega)
    have small : spare lead payload < 256 := lt_of_lt_of_le bound (by interval_cases lead <;> decide)
    rw [pack_zero_lead lead payload padded (by omega) nonempty]
    obtain ⟨count, same⟩ := Nat.exists_eq_add_of_le' padded
    rw [same, Nat.add_sub_cancel, List.replicate_succ', List.append_cancel_left_eq, List.singleton_inj]
    rw [same] at small
    apply Iff.intro
    · intro byte
      have value := congrArg UInt8.toNat byte
      rw [byte_of_to_nat, Nat.mod_eq_of_lt small] at value
      exact value
    · intro zero
      rw [zero]
      rfl
  · have nothing : lead = 0 := by omega
    rw [nothing]
    apply Iff.intro
    · intro _
      cases payload with
      | nil => rfl
      | cons first others =>
          have bound := first.isLt
          simp only [spare]
          omega
    · intro _
      rfl

theorem reads_indexer_encodes (indexer : Indexer) (payload buf stream : Bytes)
    (reads : ReadsIndexer indexer payload buf stream) :
    indexer.toQb64 = some (stream.take indexer.code.size) ↔ ClearPad stream := by
  obtain ⟨rest, framed⟩ := reads.framed
  have sound := xizage_sound indexer.code
  have length := indexer_header_length indexer
  have sized := reads.sized
  have taken : stream.take indexer.code.size = indexer.header ++ payload := by
    rw [framed, List.take_left' (by rw [List.length_append, length, sized])]
  have whole : urlSafe.Spells (List.replicate indexer.code.getXizage.ps 0x41 ++ payload) := by
    rw [reads.decoded]
    exact spells_map urlSafe _
  obtain ⟨sextets, spelled⟩ := (spells_iff urlSafe payload).mp ((spells_append urlSafe _ _).mp whole).2
  have some : sextets ≠ [] := by
    intro empty
    rw [empty] at spelled
    rw [spelled, List.map_nil, List.length_nil] at sized
    omega
  have digitsOf : List.replicate indexer.code.getXizage.ps 0 ++ sextets = spread buf := by
    apply List.map_injective_iff.mpr (char_injective urlSafe)
    rw [List.map_append, map_replicate_zero, ← spelled, reads.decoded]
    rfl
  have packed : buf = pack (List.replicate indexer.code.getXizage.ps 0 ++ sextets) := by rw [digitsOf, pack_spread]
  rw [indexer_to_qb64 indexer (reads_indexer_raw indexer payload buf stream reads), taken, Option.some.injEq,
    List.append_cancel_left_eq, framed, List.append_assoc, spelled, clear_pad_spare indexer sextets rest some,
    ← replicate_zero_spare _ sextets sound.2.1 some, ← packed, ← spelled]
  have encoded := indexer_payload_encoded indexer.code indexer.raw
  apply Iff.intro
  · intro same
    rw [same, reads.decoded] at encoded
    have bytes := congrArg urlSafe.decodeUnpadded encoded
    rw [decode_unpadded_encode, decode_unpadded_encode, Option.some.injEq] at bytes
    rw [bytes, List.take_left' List.length_replicate]
  · intro zero
    have bytes : List.replicate indexer.code.getXizage.ps 0 ++ indexer.raw = buf := by
      rw [← zero, reads.rest, List.take_append_drop]
    rw [bytes, ← reads.decoded] at encoded
    exact List.append_cancel_left encoded

theorem ondex_width (code : IndexedSigCode) : code.getXizage.os = 0 ∨ code.getXizage.os = code.getXizage.ms := by
  cases code <;> decide

theorem max_index_lt (code : IndexedSigCode) (index : U32) (fits : ¬code.maxIndex < index.val) :
    index.val < 64 ^ code.getXizage.ms := by
  have positive : 0 < 64 ^ code.getXizage.ms := Nat.pow_pos (by decide)
  unfold IndexedSigCode.maxIndex at fits
  omega

theorem with_index_ordered (code : IndexedSigCode) (index : U32) (state : IWithIndex) (made : withIndex code index = .ok state) :
    state.code = code ∧ state.index.val < 64 ^ code.getXizage.ms ∧ WellOrdered code state.index state.ondex := by
  simp only [withIndex, bind_ok, reject_if_ok, exists_done] at made
  obtain ⟨fits, chosen⟩ := made
  have bound := max_index_lt code index fits
  unfold WellOrdered
  cases mode : code.mode with
  | currentOnly =>
      rw [mode] at chosen
      cases chosen
      exact ⟨rfl, bound, rfl⟩
  | both =>
      rw [mode] at chosen
      cases chosen
      refine ⟨rfl, bound, ?_⟩
      simp only
      split
      · rename_i wide
        have width := ondex_width code
        have same : code.getXizage.os = code.getXizage.ms := by omega
        exact ⟨index, rfl, by rw [same]; exact bound⟩
      · trivial

theorem with_indices_ordered (code : IndexedSigCode) (index ondex : U32) (state : IWithIndex)
    (made : withIndices code index ondex = .ok state) :
    state.code = code ∧ state.index.val < 64 ^ code.getXizage.ms ∧ WellOrdered code state.index state.ondex := by
  simp only [withIndices, bind_ok, reject_if_ok, exists_done, pure_ok] at made
  obtain ⟨dual, fits, max, equal, same⟩ := made
  have bound := max_index_lt code index fits
  rw [← same]
  refine ⟨rfl, bound, ?_⟩
  unfold WellOrdered
  cases mode : code.mode with
  | currentOnly => exact absurd mode dual
  | both =>
      simp only
      split
      · rename_i wide
        have positive : 0 < 64 ^ code.getXizage.os := Nat.pow_pos (by decide)
        have some : code.getXizage.os ≠ 0 := by omega
        simp only [checkMaxOndex, IndexedSigCode.maxOndex, mode, some, if_false, reject_if_ok] at max
        exact ⟨ondex, rfl, by omega⟩
      · rename_i narrow
        have zero : code.getXizage.os = 0 := by omega
        by_contra different
        exact equal ⟨zero, fun same => different (congrArg some same)⟩

-- What the builder makes: indices that fit their fields and a raw value of the code's size.
structure BuiltIndexer (indexer : Indexer) : Prop where
  fits : indexer.index.val < 64 ^ indexer.code.getXizage.ms
  ordered : WellOrdered indexer.code indexer.index indexer.ondex
  raw : indexer.raw.length = indexer.code.rawSize

theorem with_raw_built (state : IWithIndex) (raw : Bytes) (indexer : Indexer)
    (fits : state.index.val < 64 ^ state.code.getXizage.ms) (ordered : WellOrdered state.code state.index state.ondex)
    (made : state.withRaw raw = .ok indexer) : BuiltIndexer indexer := by
  simp only [IWithIndex.withRaw, bind_ok, reject_if_ok, exists_done, pure_ok, ne_eq, not_not] at made
  obtain ⟨sized, same⟩ := made
  rw [← same]
  exact ⟨fits, ordered, sized⟩

theorem built_indexer_reads (indexer : Indexer) (built : BuiltIndexer indexer) (rest : Bytes) :
    ReadsIndexer indexer (indexerPayload indexer.code indexer.raw) (List.replicate indexer.code.getXizage.ps 0 ++ indexer.raw)
      (indexer.header ++ indexerPayload indexer.code indexer.raw ++ rest) where
  framed := ⟨rest, rfl⟩
  fits := built.fits
  ordered := built.ordered
  sized := indexer_payload_length indexer.code indexer.raw built.raw
  decoded := indexer_payload_encoded indexer.code indexer.raw
  rest := by rw [List.drop_left' List.length_replicate]

theorem hardages_agree (first : Sextet) (size : Nat) (byte : UInt8) (quotient : byte.toNat / 4 = first.val)
    (sized : hardage (urlSafe.char first) = some size) : binaryHardSize byte = .ok size := by
  have table : ∀ sextet : Sextet, hardage (urlSafe.char sextet) =
      if sextet.val ≤ 51 then some 1 else if sextet.val ≤ 56 then some 2 else none := by decide +kernel
  rw [table] at sized
  unfold binaryHardSize
  rw [quotient]
  split at sized
  · rename_i low
    rw [if_pos low, Option.some.inj sized]
  · rename_i high
    split at sized
    · rename_i middle
      rw [if_neg high, if_pos middle, Option.some.inj sized]
    · cases sized

theorem from_qb2_text (indexer : Indexer) (payload buf : Bytes) (sextets : List Sextet)
    (reads : ReadsIndexer indexer payload buf (sextets.map urlSafe.char)) (whole : sextets.length = indexer.code.size) :
    Indexer.fromQb2 (pack sextets) = .ok (indexer, (pack sextets).length) := by
  have sound := xizage_sound indexer.code
  have hard := hard_length indexer.code
  have aligned : 4 ∣ sextets.length := by rw [whole]; exact sound.2.2.2.2.1
  have packed := length_pack sextets
  have split : indexer.code.getXizage.cs = indexer.code.getXizage.hs + indexer.code.getXizage.ss := rfl
  have main : indexer.code.getXizage.ms = indexer.code.getXizage.ss - indexer.code.getXizage.os := rfl
  obtain ⟨rest, framed⟩ := reads.framed
  obtain ⟨first, tail, spelled, sized⟩ := hardage_of_hard indexer.code
  obtain ⟨lead, others, shape⟩ : ∃ lead others, sextets = lead :: others := by
    cases sextets with
    | nil =>
        rw [List.length_nil] at whole
        omega
    | cons lead others => exact ⟨lead, others, rfl⟩
  have named : urlSafe.char lead = first := by
    rw [shape, Indexer.header, spelled] at framed
    exact (List.cons.inj framed).1
  have firsts := pack_head sextets aligned
  rw [shape, List.head?_cons, Option.map_some, Option.map_eq_some_iff] at firsts
  obtain ⟨byte, head, quotient⟩ := firsts
  rw [← shape] at head
  have front : ∀ count, ((spread ((pack sextets).take ((count * 3 + 3) / 4))).take count).map urlSafe.char =
      (sextets.map urlSafe.char).take count := by
    intro count
    rw [spread_take _ _ _ (by omega), spread_pack sextets aligned, List.map_take]
  have taken : ∀ count, count ≤ sextets.length →
      (count * 3 + 3) / 4 ≤ ((pack sextets).take ((count * 3 + 3) / 4)).length := by
    intro count within
    rw [List.length_take]
    omega
  have hardText : ((sextets.map urlSafe.char).take indexer.code.getXizage.hs).take indexer.code.getXizage.hs =
      asBytes indexer.code.asStr := by
    rw [List.take_take, Nat.min_self, framed, Indexer.header, List.append_assoc, List.append_assoc, List.append_assoc,
      List.take_left' hard]
  have indexChars : ((((sextets.map urlSafe.char).take indexer.code.getXizage.cs).take indexer.code.getXizage.cs).drop
      indexer.code.getXizage.hs).take indexer.code.getXizage.ms =
        (digits indexer.code.getXizage.ms indexer.index.val).map urlSafe.char := by
    rw [List.take_take, Nat.min_self, List.drop_take, List.take_take, framed, Indexer.header, List.append_assoc,
      List.append_assoc, List.append_assoc, List.drop_left' hard, Nat.min_eq_left (by omega), List.take_left' (by simp)]
  have all : (pack sextets).take (indexer.code.size * 3 / 4) = pack sextets := List.take_of_length_le (by omega)
  have text : urlSafe.encode (pack sextets) = sextets.map urlSafe.char := by
    rw [Alphabet.encode, spread_pack sextets aligned]
  unfold Indexer.fromQb2
  rw [head]
  simp only [bind_ok, reject_if_ok, exists_done, map_error_ok, encode_binary_ok, from_hard_ok, pure_ok, Nat.not_lt]
  refine ⟨indexer.code.getXizage.hs, hardages_agree lead _ byte quotient (by rw [named, sized]), by omega, _,
    ⟨taken _ (by omega), (front _).symm⟩, indexer.code, ?_, by omega, _, ⟨taken _ (by omega), (front _).symm⟩,
    indexer.index.val, ?_, indexer.code.size, ?_, by omega, (indexer, indexer.code.size), ?_, ?_⟩
  · exact as_bytes_injective (by rw [hardText, ascii_of_spelled _ (hard_spelled _)])
  · rw [← split, indexChars, decode_int_ok]
    exact ⟨_, rfl, number_digits _ _ reads.fits, indexer.index.isLt⟩
  · rw [xizage_fixed, XizageSize.fullSize]
  · rw [all, text]
    exact (from_qb64_ok _ _ _).mpr ⟨⟨payload, buf, reads⟩, rfl⟩
  · rw [packed, whole]
    simp only [Prod.mk.injEq, true_and]
    omega

theorem built_indexer_parses (indexer : Indexer) (built : BuiltIndexer indexer) :
    ∃ text binary, indexer.toQb64 = some text ∧ indexer.toQb2 = some binary ∧
      (∀ suffix, Indexer.fromQb64 (text ++ suffix) = .ok (indexer, text.length)) ∧
      Indexer.fromQb2 binary = .ok (indexer, binary.length) := by
  have sound := xizage_sound indexer.code
  have encoded := indexer_to_qb64 indexer built.raw
  have reads := built_indexer_reads indexer built
  have length : (indexer.header ++ indexerPayload indexer.code indexer.raw).length = indexer.code.size := by
    rw [List.length_append, indexer_header_length, indexer_payload_length _ _ built.raw]
  have spelled : urlSafe.Spells (indexer.header ++ indexerPayload indexer.code indexer.raw) := by
    rw [spells_append, indexerPayload, Alphabet.encode, ← List.map_drop]
    exact ⟨indexer_header_spelled indexer, spells_map urlSafe _⟩
  obtain ⟨sextets, same⟩ := (spells_iff urlSafe _).mp spelled
  have whole : sextets.length = indexer.code.size := by rw [← length, same, List.length_map]
  have aligned : 4 ∣ sextets.length := by rw [whole]; exact sound.2.2.2.2.1
  have alone := reads []
  rw [List.append_nil, same] at alone
  refine ⟨_, pack sextets, encoded, ?_, ?_, from_qb2_text indexer _ _ sextets alone whole⟩
  · rw [Indexer.toQb2, encoded, Option.map_some, same, decode_unpadded_map _ _ aligned, Option.getD_some]
  · intro suffix
    rw [length]
    exact (from_qb64_ok _ _ _).mpr ⟨⟨_, _, reads suffix⟩, rfl⟩

-- An accepted text is the encoding of what it reads exactly when its pad bits
-- are zero; what the builder makes is read back from both of its forms.
theorem indexer_one_wire_form_iff (indexer : Indexer) :
    (∀ stream consumed, Indexer.fromQb64 stream = .ok (indexer, consumed) →
      (indexer.toQb64 = some (stream.take consumed) ↔ ClearPad stream)) ∧
    (∀ left right leftConsumed rightConsumed, Indexer.fromQb64 left = .ok (indexer, leftConsumed) →
      Indexer.fromQb64 right = .ok (indexer, rightConsumed) → ClearPad left → ClearPad right →
        left.take leftConsumed = right.take rightConsumed) ∧
    ∀ code index ondex raw state, withIndex code index = .ok state ∨ withIndices code index ondex = .ok state →
      state.withRaw raw = .ok indexer →
        ∃ text binary, indexer.toQb64 = some text ∧ indexer.toQb2 = some binary ∧
          (∀ suffix, Indexer.fromQb64 (text ++ suffix) = .ok (indexer, text.length)) ∧
          Indexer.fromQb2 binary = .ok (indexer, binary.length) := by
  have encodes : ∀ stream consumed, Indexer.fromQb64 stream = .ok (indexer, consumed) →
      (indexer.toQb64 = some (stream.take consumed) ↔ ClearPad stream) := by
    intro stream consumed accepted
    obtain ⟨⟨payload, buf, reads⟩, counted⟩ := (from_qb64_ok stream indexer consumed).mp accepted
    rw [counted]
    exact reads_indexer_encodes indexer payload buf stream reads
  refine ⟨encodes, ?_, ?_⟩
  · intro left right leftConsumed rightConsumed first second leftClear rightClear
    have leftText := (encodes left leftConsumed first).mpr leftClear
    have rightText := (encodes right rightConsumed second).mpr rightClear
    exact Option.some.inj (leftText.symm.trans rightText)
  · intro code index ondex raw state chosen made
    have indexed : state.code = code ∧ state.index.val < 64 ^ code.getXizage.ms ∧ WellOrdered code state.index state.ondex := by
      rcases chosen with chosen | chosen
      · exact with_index_ordered code index state chosen
      · exact with_indices_ordered code index ondex state chosen
    obtain ⟨same, fits, ordered⟩ := indexed
    exact built_indexer_parses indexer (with_raw_built state raw indexer (by rw [same]; exact fits) (by rw [same]; exact ordered) made)

def zeroSiger : Indexer := ⟨.ed25519, 0, some 0, List.replicate 64 0⟩

theorem pad_bits_read_as_zero :
    Indexer.fromQb64 (asBytes "AAQ" ++ List.replicate 85 0x41) = .ok (zeroSiger, 88) ∧
      Indexer.fromQb64 (List.replicate 88 0x41) = .ok (zeroSiger, 88) ∧
      zeroSiger.toQb64 = some (List.replicate 88 0x41) ∧
      asBytes "AAQ" ++ List.replicate 85 0x41 ≠ List.replicate 88 0x41 := by
  decide +kernel

theorem zero_siger_one_wire_form :
    (zeroSiger.toQb64 = some ((List.replicate 88 0x41).take 88) ↔ ClearPad (List.replicate 88 0x41)) ∧
      (ClearPad (List.replicate 88 0x41) →
        (List.replicate 88 (0x41 : UInt8)).take 88 = (List.replicate 88 (0x41 : UInt8)).take 88) ∧
      ∃ text binary, zeroSiger.toQb64 = some text ∧ zeroSiger.toQb2 = some binary ∧
        (∀ suffix, Indexer.fromQb64 (text ++ suffix) = .ok (zeroSiger, text.length)) ∧
        Indexer.fromQb2 binary = .ok (zeroSiger, binary.length) :=
  ⟨(indexer_one_wire_form_iff zeroSiger).1 _ _ (by decide +kernel),
    fun clear => (indexer_one_wire_form_iff zeroSiger).2.1 (List.replicate 88 0x41) (List.replicate 88 0x41) 88 88
      (by decide +kernel) (by decide +kernel) clear clear,
    (indexer_one_wire_form_iff zeroSiger).2.2 .ed25519 0 0 (List.replicate 64 0) ⟨.ed25519, 0, some 0⟩
      (.inl (by decide +kernel)) (by decide +kernel)⟩

end Cesr
