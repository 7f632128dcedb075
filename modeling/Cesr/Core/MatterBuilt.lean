import Cesr.Core.MatterBinary

set_option autoImplicit false

namespace Cesr

open Sextets Base64 Checks

-- What every constructor leaves: a fixed code, a raw value of its size and a soft text of the alphabet.
structure Built (matter : Matter MatterCode) (fixed : Nat) : Prop where
  size : matter.code.getSizage.fs = .fixed fixed
  raw : matter.raw.length = (fixed - matter.code.getSizage.cs) * 3 / 4 - matter.code.getSizage.ls
  soft : (asBytes matter.soft).length = matter.code.getSizage.ss - matter.code.getSizage.xs
  spelled : urlSafe.Spells (asBytes matter.soft)

theorem extract_soft_ok (code : MatterCode) (sizage : Sizage) (soft final : String)
    (extracted : extractSoft code sizage soft = .ok final) :
    (asBytes final).length = sizage.ss - sizage.xs ∧ urlSafe.Spells (asBytes final) := by
  unfold extractSoft at extracted
  simp only at extracted
  split at extracted
  · cases extracted
  · rename_i long
    split at extracted
    · cases extracted
    · rename_i text cut
      split at extracted
      · rename_i spelled
        rw [← Except.ok.inj extracted]
        refine ⟨?_, (url_safe_charset_iff _).mp spelled⟩
        rw [(from_utf8_some _ _).mp cut, List.length_take, Nat.min_eq_left (Nat.le_of_not_lt long)]
      · cases extracted

theorem validate_and_trim_raw_ok (code : MatterCode) (raw trimmed : Bytes) (rawSize : Nat)
    (trims : validateAndTrimRaw code raw rawSize = .ok trimmed) : trimmed.length = rawSize := by
  simp only [validateAndTrimRaw, bind_ok, reject_if_ok, exists_done, pure_ok] at trims
  obtain ⟨long, same⟩ := trims
  rw [← same, List.length_take, Nat.min_eq_left (Nat.le_of_not_lt long)]

theorem no_soft (code : MatterCode) (plain : code.getSizage.ss = 0) :
    (asBytes "").length = code.getSizage.ss - code.getSizage.xs ∧ urlSafe.Spells (asBytes "") := by
  refine ⟨?_, ?_⟩
  · rw [plain, Nat.zero_sub]
    rfl
  · intro byte inside
    cases inside

section Constructors

variable {Code : Type} [CesrCode Code]

theorem build_raw_built (code : Code) (rawVal : Bytes) (matter : Matter Code) (made : buildRaw code rawVal = .ok matter) :
    ∃ fixed, Built matter.widen fixed := by
  simp only [buildRaw, bind_ok, parsed, map_error_ok] at made
  obtain ⟨raw, _, chosen⟩ := made
  split at chosen
  · rename_i fixed shape
    simp only [bind_ok, reject_if_ok, exists_done, validated, map_error_ok, pure_ok] at chosen
    obtain ⟨plain, rawSize, sized, trimmed, trims, same⟩ := chosen
    have soft := no_soft (CesrCode.toMatterCode code) (by omega)
    simp only [MatterCode.rawSize, shape, Except.ok.injEq] at sized
    have length := validate_and_trim_raw_ok _ raw trimmed rawSize trims
    rw [← same]
    exact ⟨fixed, shape, length.trans sized.symm, soft.1, soft.2⟩
  all_goals cases chosen

theorem build_raw_soft_built (code : Code) (rawVal : Bytes) (softVal : String) (matter : Matter Code)
    (made : buildRawSoft code rawVal softVal = .ok matter) : ∃ fixed, Built matter.widen fixed := by
  simp only [buildRawSoft, bind_ok, parsed, map_error_ok] at made
  obtain ⟨raw, _, given, _, chosen⟩ := made
  split at chosen
  · rename_i fixed shape
    split at chosen
    · rename_i plain
      simp only [bind_ok, validated, map_error_ok, pure_ok] at chosen
      obtain ⟨rawSize, sized, trimmed, trims, same⟩ := chosen
      have soft := no_soft (CesrCode.toMatterCode code) plain
      simp only [MatterCode.rawSize, shape, Except.ok.injEq] at sized
      have length := validate_and_trim_raw_ok _ raw trimmed rawSize trims
      rw [← same]
      exact ⟨fixed, shape, length.trans sized.symm, soft.1, soft.2⟩
    · simp only [bind_ok, validated, map_error_ok, pure_ok] at chosen
      obtain ⟨final, extracted, rawSize, sized, trimmed, trims, same⟩ := chosen
      have soft := extract_soft_ok _ _ given final extracted
      simp only [MatterCode.rawSize, shape, Except.ok.injEq] at sized
      have length := validate_and_trim_raw_ok _ raw trimmed rawSize trims
      rw [← same]
      exact ⟨fixed, shape, length.trans sized.symm, soft.1, soft.2⟩
  all_goals cases chosen

theorem build_soft_built (code : Code) (softVal : String) (matter : Matter Code) (made : buildSoft code softVal = .ok matter) :
    ∃ fixed, Built matter.widen fixed := by
  simp only [buildSoft, bind_ok, parsed, map_error_ok] at made
  obtain ⟨given, _, chosen⟩ := made
  split at chosen
  · rename_i fixed shape
    split at chosen
    · rename_i whole
      simp only [bind_ok, map_error_ok, pure_ok] at chosen
      obtain ⟨final, extracted, same⟩ := chosen
      have soft := extract_soft_ok _ _ given final extracted
      rw [← same]
      refine ⟨fixed, shape, ?_, soft.1, soft.2⟩
      rw [whole.2]
      simp [Matter.widen]
    · cases chosen
  all_goals cases chosen

theorem widen_to_qb64b (matter : Matter Code) : matter.widen.toQb64b = matter.toQb64b := by
  simp only [Matter.toQb64b, Matter.appendQb64, Matter.fullSize, Matter.widen, CesrCode.as_str_to_matter]
  rfl

end Constructors

theorem spread_zero_lead (lead : Nat) (rest : Bytes) (few : lead ≤ 2) :
    (spread (List.replicate lead 0 ++ rest)).take lead = List.replicate lead 0 := by
  rw [← spread_take _ lead lead (by omega), List.take_left' List.length_replicate]
  interval_cases lead <;> rfl

theorem big_endian_zero (count : Nat) : bigEndian (List.replicate count 0) = 0 := by
  induction count with
  | zero => rfl
  | succ count ih =>
      rw [List.replicate_succ', bigEndian, List.foldl_append, ← bigEndian, ih]
      rfl

def builtPayload (matter : Matter MatterCode) : Bytes :=
  (urlSafe.encode (List.replicate (matter.code.getSizage.ps + matter.code.getSizage.ls) 0 ++ matter.raw)).drop
    matter.code.getSizage.ps

theorem built_reads (matter : Matter MatterCode) (fixed : Nat) (built : Built matter fixed) (rest : Bytes) :
    ReadsText matter (builtPayload matter)
      (List.replicate (matter.code.getSizage.ps + matter.code.getSizage.ls) 0 ++ matter.raw)
      (matter.header ++ builtPayload matter ++ rest) := by
  obtain ⟨whole, within, lead, _⟩ := fixed_size_sound matter.code fixed built.size
  have few := pad_size_le matter.code
  have pads : matter.code.getSizage.ps = matter.code.getSizage.cs % 4 := rfl
  have rawLength := built.raw
  generalize shape : List.replicate (matter.code.getSizage.ps + matter.code.getSizage.ls) 0 ++ matter.raw = buf
  have bufLength : buf.length = matter.code.getSizage.ps + (fixed - matter.code.getSizage.cs) * 3 / 4 := by
    rw [← shape, List.length_append, List.length_replicate]
    omega
  have encoded : urlSafe.encode buf = List.replicate matter.code.getSizage.ps 0x41 ++ builtPayload matter := by
    have first : (urlSafe.encode buf).take matter.code.getSizage.ps = List.replicate matter.code.getSizage.ps 0x41 := by
      rw [← shape, Alphabet.encode, ← List.map_take, List.replicate_add, List.append_assoc, spread_zero_lead _ _ few,
        map_replicate_zero]
    rw [builtPayload, shape, ← first, List.take_append_drop]
  have counted := congrArg List.length encoded
  rw [length_encode, List.length_append, List.length_replicate] at counted
  refine ⟨⟨rest, rfl⟩, built.soft, ?_, ?_, ?_⟩
  · simp only [MatterCode.sizeFromSoft, built.size, Except.ok.injEq]
    omega
  · have digits : (spread buf).length = matter.code.getSizage.ps + (builtPayload matter).length := by
      rw [length_spread]
      omega
    have last : (urlSafe.encode buf).getLast? ≠ some urlSafe.pad := by
      intro last
      have value := spells_map urlSafe (spread buf) urlSafe.pad (List.mem_of_getLast? last)
      rw [urlSafe.value_pad] at value
      cases value
    rw [← encoded, decode_padded_of_unpadded _ _ last (by rw [length_encode]; omega), decode_unpadded_encode]
  · refine ⟨?_, by omega, ?_, ?_⟩
    · rw [← shape, List.replicate_add, List.append_assoc, List.take_left' List.length_replicate, big_endian_zero, Nat.zero_mod]
    · intro byte inside
      rw [← shape, List.replicate_add, List.append_assoc, List.drop_left' List.length_replicate,
        List.take_left' List.length_replicate] at inside
      exact List.eq_of_mem_replicate inside
    · rw [← shape, List.drop_left' List.length_replicate]

theorem built_text (matter : Matter MatterCode) (fixed : Nat) (built : Built matter fixed) :
    ∃ (text : Bytes) (sextets : List Sextet), matter.toQb64b = some text ∧ 4 ∣ sextets.length ∧ text = sextets.map urlSafe.char ∧
      ∀ suffix, fromQualifiedBase64 (text ++ suffix) = .ok matter ∧
        MatterCode.frameSize (text ++ suffix) = .ok text.length := by
  have reads := built_reads matter fixed built
  have last : (builtPayload matter).getLast? ≠ some urlSafe.pad := by
    rw [← payload_spelled matter _ _ _ (reads [])]
    rw [builtPayload, Alphabet.encode, ← List.map_drop]
    exact spells_map urlSafe _
  have chars : urlSafe.Spells (matter.header ++ builtPayload matter) := by
    rw [spells_append, header_spelled, payload_spelled matter _ _ _ (reads [])]
    exact ⟨built.spelled, last⟩
  obtain ⟨sextets, same⟩ := (spells_iff urlSafe _).mp chars
  have length : (matter.header ++ builtPayload matter).length = matter.code.getSizage.cs + (builtPayload matter).length := by
    rw [List.length_append, header_length matter built.soft]
  have whole := (size_from_soft_bound _ _ _ (by rw [built.soft]; exact Nat.sub_le _ _) (reads []).sized).1
  refine ⟨matter.header ++ builtPayload matter, sextets, reads_text_encodes matter _ _ _ (reads []) last, ?_, same, ?_⟩
  · rwa [← length, same, List.length_map] at whole
  · intro suffix
    refine ⟨(from_qualified_base64_ok _ _).mpr ⟨_, _, reads suffix⟩, ?_⟩
    rw [length]
    exact (reads_text_frame matter _ _ _ (reads suffix)).1

-- What a constructor builds is read back from its text, whatever follows it, and from its binary form.
theorem matter_encode_decode {Code : Type} [CesrCode Code] (code : Code) (raw : Bytes) (soft : String) (matter : Matter Code)
    (made : buildRaw code raw = .ok matter ∨ buildRawSoft code raw soft = .ok matter ∨ buildSoft code soft = .ok matter) :
    ∃ text binary, matter.toQb64b = some text ∧ qb64Decode text = .ok binary ∧
      fromQualifiedBase2 binary = .ok matter.widen ∧
      ∀ suffix, fromQualifiedBase64 (text ++ suffix) = .ok matter.widen ∧
        MatterCode.frameSize (text ++ suffix) = .ok text.length := by
  have built : ∃ fixed, Built matter.widen fixed := by
    rcases made with made | made | made
    · exact build_raw_built code raw matter made
    · exact build_raw_soft_built code raw soft matter made
    · exact build_soft_built code soft matter made
  obtain ⟨fixed, built⟩ := built
  obtain ⟨text, sextets, encoded, aligned, spelled, reads⟩ := built_text matter.widen fixed built
  have alone := (reads []).1
  rw [List.append_nil, spelled] at alone
  refine ⟨text, pack sextets, by rw [← widen_to_qb64b, encoded], by rw [spelled, qb64_decode_map sextets aligned], ?_, reads⟩
  rwa [from_qualified_base2_ok sextets aligned]

theorem short_encode_decode :
    ∃ text binary, (⟨MatterCode.short, [0, 1], ""⟩ : Matter MatterCode).toQb64b = some text ∧ qb64Decode text = .ok binary ∧
      fromQualifiedBase2 binary = .ok ⟨.short, [0, 1], ""⟩ ∧
      ∀ suffix, fromQualifiedBase64 (text ++ suffix) = .ok ⟨.short, [0, 1], ""⟩ ∧
        MatterCode.frameSize (text ++ suffix) = .ok text.length :=
  matter_encode_decode MatterCode.short [0, 1] "" ⟨.short, [0, 1], ""⟩ (.inl (by decide))

end Cesr
