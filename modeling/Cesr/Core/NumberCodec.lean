import Cesr.Core.MatterBuilt

set_option autoImplicit false

namespace Cesr

open Sextets Base64 Checks

def bigEndianBytes : Nat → Nat → Bytes
  | 0, _ => []
  | width + 1, value => bigEndianBytes width (value / 2 ^ 8) ++ [byteOf value]

section Values

theorem big_endian_concat (front : Bytes) (last : UInt8) : bigEndian (front ++ [last]) = bigEndian front * 2 ^ 8 + last.toNat := by
  rw [bigEndian, List.foldl_append]
  rfl

theorem big_endian_bytes (bytes : Bytes) : bigEndianBytes bytes.length (bigEndian bytes) = bytes := by
  induction bytes using List.reverseRecOn with
  | nil => rfl
  | append_singleton front last ih =>
      have bound := last.toNat_lt
      have high : (bigEndian front * 2 ^ 8 + last.toNat) / 2 ^ 8 = bigEndian front := by omega
      have low : byteOf (bigEndian front * 2 ^ 8 + last.toNat) = last := byte_of_eq _ _ (by omega)
      rw [List.length_append, List.length_singleton, big_endian_concat, bigEndianBytes, high, low, ih]

theorem big_endian_bytes_le (width value : Nat) : bigEndian (bigEndianBytes width value) ≤ value := by
  induction width generalizing value with
  | zero => exact Nat.zero_le value
  | succ width ih =>
      have high := ih (value / 2 ^ 8)
      have low : (byteOf value).toNat = value % 256 := byte_of_to_nat value
      rw [bigEndianBytes, big_endian_concat, low]
      omega

theorem length_big_endian_bytes (width value : Nat) : (bigEndianBytes width value).length = width := by
  induction width generalizing value with
  | zero => rfl
  | succ width ih => rw [bigEndianBytes, List.length_append, ih, List.length_singleton]

theorem number_spread_from (bytes : Bytes) (aligned : 3 ∣ bytes.length) (start : Nat) :
    (spread bytes).foldl (fun value sextet => value * 64 + sextet.val) start =
      bytes.foldl (fun value byte => value * 2 ^ 8 + byte.toNat) start := by
  induction bytes using spread.induct generalizing start with
  | case1 first second third rest ih =>
      have firstBound := first.toNat_lt
      have secondBound := second.toNat_lt
      have thirdBound := third.toNat_lt
      have shorter : 3 ∣ rest.length := by
        rw [List.length_cons, List.length_cons, List.length_cons] at aligned
        omega
      simp only [spread, List.foldl_cons]
      rw [ih shorter]
      congr 1
      simp only [sextetOf, Fin.ofNat]
      omega
  | case2 first second => exact absurd (show 3 ∣ 2 from aligned) (by decide)
  | case3 first => exact absurd (show 3 ∣ 1 from aligned) (by decide)
  | case4 => rfl

theorem number_spread (bytes : Bytes) (aligned : 3 ∣ bytes.length) : number (spread bytes) = bigEndian bytes :=
  number_spread_from bytes aligned 0

theorem number_zeros (count : Nat) (sextets : List Sextet) : number (List.replicate count 0 ++ sextets) = number sextets := by
  induction count with
  | zero => rfl
  | succ count ih => exact ih

theorem big_endian_zeros (count : Nat) (bytes : Bytes) : bigEndian (List.replicate count 0 ++ bytes) = bigEndian bytes := by
  induction count with
  | zero => rfl
  | succ count ih => exact ih

end Values

section Encode

def Number.toMatter (value : Number) : Except ValidationError (Matter NumberCode) := do
  let size ← (CesrCode.toMatterCode value.code).rawSize
  pure ⟨value.code, bigEndianBytes size value.value.val, ""⟩

def Number.toQb64b (value : Number) : Option Bytes :=
  match value.toMatter with
  | .ok matter => matter.toQb64b
  | .error _ => none

def FitsU128 (stream : Bytes) : Prop :=
  ∀ payload sextets, framePayload stream = .ok payload → payload = sextets.map urlSafe.char → number sextets < 2 ^ 128

theorem number_code_sized (code : NumberCode) :
    ∃ fixed, code.toMatterCode.getSizage.fs = .fixed fixed ∧ code.toMatterCode.getSizage.ss = 0 ∧
      code.toMatterCode.rawSize = .ok ((fixed - code.toMatterCode.getSizage.cs) * 3 / 4 - code.toMatterCode.getSizage.ls) := by
  cases code <;> exact ⟨_, rfl, rfl, rfl⟩

theorem fits_u128_iff (matter : Matter MatterCode) (payload buf stream : Bytes) (reads : ReadsText matter payload buf stream)
    (last : payload.getLast? ≠ some urlSafe.pad) : FitsU128 stream ↔ bigEndian matter.raw < 2 ^ 128 := by
  have few := pad_size_le matter.code
  have shown := (reads_text_frame matter payload buf stream reads).2.2
  have value := carried_value _ payload buf matter.raw (by omega) reads.decoded reads.carried
  obtain ⟨aligned, spelled, pads⟩ := decode_padded_some urlSafe _ buf reads.decoded
  rw [List.length_append, List.length_replicate] at aligned
  have unpadded := (pads_zero_iff urlSafe (List.replicate matter.code.getSizage.ps 0x41 ++ payload)).mpr
    (by rwa [padded_last _ _ (by omega) aligned])
  rw [unpadded] at pads
  rw [unpadded, List.replicate_zero, List.append_nil] at spelled
  have whole : 3 ∣ buf.length := by omega
  have held : ∀ sextets, payload = sextets.map urlSafe.char → number sextets = bigEndian matter.raw := by
    intro sextets same
    have digits : List.replicate matter.code.getSizage.ps 0 ++ sextets = spread buf := by
      apply List.map_injective_iff.mpr (char_injective urlSafe)
      rw [List.map_append, map_replicate_zero, ← same]
      exact spelled
    calc number sextets = number (spread buf) := by rw [← digits, number_zeros]
      _ = bigEndian buf := number_spread buf whole
      _ = bigEndian matter.raw := by rw [value, big_endian_zeros]
  apply Iff.intro
  · intro fits
    have chars := spells_map urlSafe (spread buf)
    rw [show (spread buf).map urlSafe.char = _ from spelled.symm, spells_append] at chars
    obtain ⟨sextets, same⟩ := (spells_iff urlSafe payload).mp chars.2
    rw [← held sextets same]
    exact fits payload sextets shown same
  · intro small other sextets framed same
    rw [shown] at framed
    rw [← Except.ok.inj framed] at same
    rw [held sextets same]
    exact small

variable (code : NumberCode) (value : U128)

theorem number_encodes (matter : Matter MatterCode) (payload buf stream : Bytes) (reads : ReadsText matter payload buf stream)
    (same : code.toMatterCode = matter.code) (valued : value.val = bigEndian matter.raw % 2 ^ 128) :
    (∀ text, Number.toQb64b ⟨code, value⟩ = some text → text.length = matter.code.getSizage.cs + payload.length) ∧
      (Number.toQb64b ⟨code, value⟩ = some (matter.header ++ payload) ↔
        payload.getLast? ≠ some urlSafe.pad ∧ bigEndian matter.raw < 2 ^ 128) := by
  obtain ⟨fixed, shape, plain, size⟩ := number_code_sized code
  generalize width : (fixed - code.toMatterCode.getSizage.cs) * 3 / 4 - code.toMatterCode.getSizage.ls = count at size
  let written : Matter MatterCode := ⟨code.toMatterCode, bigEndianBytes count value.val, ""⟩
  have text : Number.toQb64b ⟨code, value⟩ = written.toQb64b := by
    have made : Number.toMatter ⟨code, value⟩ = .ok ⟨code, bigEndianBytes count value.val, ""⟩ := by
      simp only [Number.toMatter, bind_ok, pure_ok]
      exact ⟨count, size, rfl⟩
    rw [Number.toQb64b, made]
    exact (widen_to_qb64b _).symm
  have built : Built written fixed := by
    refine ⟨shape, ?_, ?_, ?_⟩
    · rw [length_big_endian_bytes, ← width]
    · show 0 = code.toMatterCode.getSizage.ss - code.toMatterCode.getSizage.xs
      rw [plain, Nat.zero_sub]
    · intro byte inside
      cases inside
  obtain ⟨found, _, encoded, _, _, back⟩ := built_text written fixed built
  obtain ⟨decoded, framed⟩ := back []
  rw [List.append_nil] at decoded framed
  have fits : ∀ (any : MatterCode) (soft : Bytes) (total : Nat), any = code.toMatterCode →
      any.sizeFromSoft soft = .ok total → total = fixed := by
    intro any soft total named sized
    rw [named] at sized
    simp only [MatterCode.sizeFromSoft, shape, Except.ok.injEq] at sized
    exact sized.symm
  have announced := fits matter.code _ _ same.symm reads.sized
  have long : found.length = fixed := by
    obtain ⟨payload', buf', reads'⟩ := (from_qualified_base64_ok found written).mp decoded
    have sized := (reads_text_frame written payload' buf' found reads').1
    rw [framed] at sized
    rw [Except.ok.inj sized]
    exact fits written.code _ _ rfl reads'.sized
  have rawLength := reads_text_raw_length matter payload buf stream reads
  have fixedLength : matter.code.rawLength (matter.code.getSizage.cs + payload.length) = count := by
    rw [MatterCode.rawLength, ← same, size]
  rw [fixedLength] at rawLength
  rw [text, encoded]
  apply And.intro
  · intro other given
    rw [← Option.some.inj given, long, announced]
  · apply Iff.intro
    · intro equal
      have alone : ReadsText matter payload buf (matter.header ++ payload) :=
        ⟨⟨[], (List.append_nil _).symm⟩, reads.soft, reads.sized, reads.decoded, reads.carried⟩
      have again := (from_qualified_base64_ok _ matter).mpr ⟨payload, buf, alone⟩
      rw [← Option.some.inj equal, decoded] at again
      have raw : matter.raw = bigEndianBytes count value.val := by rw [← Except.ok.inj again]
      refine ⟨rawLength.mp (by rw [raw, length_big_endian_bytes]), ?_⟩
      rw [raw]
      exact Nat.lt_of_le_of_lt (big_endian_bytes_le count value.val) value.isLt
    · intro canonical
      obtain ⟨last, small⟩ := canonical
      have soft : matter.soft = "" := by
        apply as_bytes_injective
        have none' := reads.soft
        rw [← same, plain, Nat.zero_sub] at none'
        exact List.length_eq_zero_iff.mp none'
      have raw : bigEndianBytes count value.val = matter.raw := by
        rw [valued, Nat.mod_eq_of_lt small, ← rawLength.mpr last, big_endian_bytes]
      have whole : written = matter := by
        rw [show matter = ⟨matter.code, matter.raw, matter.soft⟩ from rfl, soft, ← raw, ← same]
      rw [← encoded, whole]
      exact reads_text_encodes matter payload buf stream reads last

end Encode

end Cesr
