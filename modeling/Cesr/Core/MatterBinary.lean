import Cesr.Core.MatterCodec

set_option autoImplicit false

namespace Cesr

open Sextets Base64 Checks

theorem compute_full_size_ok (size cs fs : Nat) (computed : computeFullSize size cs = .ok fs) : fs = size * 4 + cs := by
  unfold computeFullSize at computed
  split at computed
  · rename_i full shape
    cases computed
    simp only [usizeTryFrom, Option.bind_eq_some_iff, Option.ite_none_right_eq_some, Option.some.injEq] at shape
    obtain ⟨quad, ⟨_, first⟩, _, second⟩ := shape
    omega
  · cases computed

-- Frames are whole quadlets, far from the bounds of the size arithmetic.
theorem size_from_soft_bound (code : MatterCode) (soft : Bytes) (fs : Nat) (short : soft.length ≤ code.getSizage.ss)
    (sized : code.sizeFromSoft soft = .ok fs) : 4 ∣ fs ∧ fs < 2 ^ 32 := by
  have sound := sizage_sound code
  unfold MatterCode.sizeFromSoft at sized
  split at sized
  · rename_i fixed shape
    obtain ⟨whole, _, _, small⟩ := fixed_size_sound code fixed shape
    rw [← Except.ok.inj sized]
    exact ⟨whole, by omega⟩
  all_goals
    rename_i shape
    simp only [Sizage.sound, shape, Bool.and_eq_true, beq_iff_eq, decide_eq_true_eq] at sound
    simp only [bind_ok, map_error_ok] at sized
    obtain ⟨size, read, computed⟩ := sized
    obtain ⟨sextets, spelled, value, _⟩ := (decode_int_ok 64 soft size).mp read
    have total := compute_full_size_ok _ _ _ computed
    have counted := congrArg List.length spelled
    rw [List.length_map] at counted
    have bound := number_lt sextets
    have few : 64 ^ sextets.length ≤ 64 ^ 4 := Nat.pow_le_pow_right (by decide) (by omega)
    have whole : code.getSizage.cs % 4 = 0 := sound.1.1.1
    exact ⟨by omega, by omega⟩

theorem compute_qb2_byte_size_ok (fs : Nat) (whole : 4 ∣ fs) (small : fs < 2 ^ 32) :
    computeQb2ByteSize fs = .ok (fs / 4 * 3) := by
  have fits : usizeTryFrom (fs * 3) = some (fs * 3) := if_pos (by omega)
  unfold computeQb2ByteSize
  rw [fits]
  simp only [Except.ok.injEq]
  omega

section Frame

variable (sizage : Sizage) (sextets : List Sextet) (fs : Nat)

def payloadBytes : Bytes := pack (List.replicate sizage.ps (sextetOf 0) ++ (sextets.take fs).drop sizage.cs)

theorem payload_decoded (aligned : 4 ∣ fs) (within : sizage.cs ≤ fs) (whole : fs ≤ sextets.length) :
    urlSafe.decodePadded (List.replicate sizage.ps 0x41 ++ ((sextets.map urlSafe.char).take fs).drop sizage.cs) =
      some (payloadBytes sizage sextets fs) := by
  have pads : sizage.ps = sizage.cs % 4 := rfl
  have length : (List.replicate sizage.ps (0 : Sextet) ++ (sextets.take fs).drop sizage.cs).length =
      sizage.ps + (fs - sizage.cs) := by
    simp only [List.length_append, List.length_replicate, List.length_drop, List.length_take]
    omega
  have counted : 4 ∣ (List.replicate sizage.ps (0 : Sextet) ++ (sextets.take fs).drop sizage.cs).length := by omega
  rw [← map_replicate_zero, ← List.map_take, ← List.map_drop, ← List.map_append,
    decode_padded_of_unpadded _ _ _ (by rwa [List.length_map]), decode_unpadded_map _ _ counted]
  · rfl
  · intro last
    rw [List.getLast?_map, Option.map_eq_some_iff] at last
    obtain ⟨sextet, _, same⟩ := last
    exact char_ne_pad urlSafe sextet same

theorem binary_frame (aligned : 4 ∣ fs) (within : sizage.cs ≤ fs) (whole : fs ≤ sextets.length) :
    ∃ lead, lead.length = sizage.ps ∧
      (pack sextets).take (fs / 4 * 3) =
        pack (sextets.take (sizage.cs - sizage.ps)) ++ pack (lead ++ (sextets.take fs).drop sizage.cs) := by
  have pads : sizage.ps = sizage.cs % 4 := rfl
  refine ⟨(sextets.take sizage.cs).drop (sizage.cs - sizage.ps), ?_, ?_⟩
  · rw [List.length_drop, List.length_take]
    omega
  · have frame : pack sextets = pack (sextets.take fs) ++ pack (sextets.drop fs) := by
      rw [← pack_append _ _ (by rw [List.length_take]; omega), List.take_append_drop]
    have length : (pack (sextets.take fs)).length = fs / 4 * 3 := by
      rw [length_pack, List.length_take]
      omega
    rw [frame, List.take_left' length, ← pack_append _ _ (by rw [List.length_take]; omega), ← List.append_assoc]
    congr 1
    have front : sextets.take (sizage.cs - sizage.ps) = (sextets.take sizage.cs).take (sizage.cs - sizage.ps) := by
      rw [List.take_take, Nat.min_eq_left (by omega)]
    have code : sextets.take sizage.cs = (sextets.take fs).take sizage.cs := by
      rw [List.take_take, Nat.min_eq_left within]
    rw [front, List.take_append_drop, code, List.take_append_drop]

end Frame

theorem pad_bits_agree (lead payload : List Sextet) (few : lead.length ≤ 3) (aligned : 4 ∣ lead.length + payload.length) :
    bigEndian ((pack (List.replicate lead.length 0 ++ payload)).take lead.length) % 2 ^ (2 * lead.length) = 0 ↔
      ¬(lead.length ≠ 0 ∧ ((pack (lead ++ payload)).getD (lead.length - 1) 0).toNat % 2 ^ (2 * lead.length) ≠ 0) := by
  by_cases padded : 1 ≤ lead.length
  · have nonempty : payload ≠ [] := by
      intro empty
      rw [empty, List.length_nil] at aligned
      omega
    have mask : 2 ^ (2 * lead.length) = 4 ^ lead.length := by rw [pow_mul]; rfl
    rw [mask, pad_bits_spare _ payload padded few nonempty, Nat.mod_eq_of_lt (spare_lt _ payload few),
      pack_lead_last lead payload padded few aligned]
    apply Iff.intro
    · intro clear both
      exact both.2 clear
    · intro clear
      by_contra dirty
      exact clear ⟨by omega, dirty⟩
  · have nothing : lead.length = 0 := by omega
    simp [nothing, bigEndian]

theorem carries_binary (sizage : Sizage) (sextets : List Sextet) (fs : Nat) (raw : Bytes) (few : sizage.ps ≤ 3)
    (aligned : 4 ∣ fs) (within : sizage.cs ≤ fs) (whole : fs ≤ sextets.length) :
    Carries sizage (payloadBytes sizage sextets fs) raw ↔
      (sizage.cs * 3 + 3) / 4 + sizage.ls ≤ ((pack sextets).take (fs / 4 * 3)).length ∧
        ¬(sizage.ps ≠ 0 ∧
          (((pack sextets).take (fs / 4 * 3)).getD ((sizage.cs * 3 + 3) / 4 - 1) 0).toNat % 2 ^ (2 * sizage.ps) ≠ 0) ∧
        (∀ byte ∈ (((pack sextets).take (fs / 4 * 3)).take ((sizage.cs * 3 + 3) / 4 + sizage.ls)).drop
          ((sizage.cs * 3 + 3) / 4), byte = 0) ∧
        raw = ((pack sextets).take (fs / 4 * 3)).drop ((sizage.cs * 3 + 3) / 4 + sizage.ls) := by
  obtain ⟨lead, leadLength, frame⟩ := binary_frame sizage sextets fs aligned within whole
  have pads : sizage.ps = sizage.cs % 4 := rfl
  have payloadLength : ((sextets.take fs).drop sizage.cs).length = fs - sizage.cs := by
    rw [List.length_drop, List.length_take, Nat.min_eq_left whole]
  have codeLength : (pack (sextets.take (sizage.cs - sizage.ps))).length + sizage.ps = (sizage.cs * 3 + 3) / 4 := by
    rw [length_pack, List.length_take]
    omega
  have counted : 4 ∣ lead.length + ((sextets.take fs).drop sizage.cs).length := by omega
  have dropped := pack_drop_lead lead (List.replicate sizage.ps (sextetOf 0)) _ (by rw [leadLength, List.length_replicate])
    (by omega) counted
  have bits := pad_bits_agree lead _ (by omega) counted
  have bufLength : (payloadBytes sizage sextets fs).length = (pack (lead ++ (sextets.take fs).drop sizage.cs)).length := by
    rw [payloadBytes, length_pack, length_pack, List.length_append, List.length_append, List.length_replicate, leadLength]
  have zero : (0 : Sextet) = sextetOf 0 := rfl
  rw [leadLength] at dropped bits
  rw [zero] at bits
  rw [← payloadBytes] at dropped bits
  generalize pack (lead ++ (sextets.take fs).drop sizage.cs) = tail at frame dropped bits bufLength
  generalize pack (sextets.take (sizage.cs - sizage.ps)) = code at frame codeLength
  generalize (pack sextets).take (fs / 4 * 3) = trimmed at frame
  have behind : ∀ count, trimmed.drop ((sizage.cs * 3 + 3) / 4 + count) =
      (payloadBytes sizage sextets fs).drop (sizage.ps + count) := by
    intro count
    rw [frame, ← codeLength, Nat.add_assoc, List.drop_length_add_append, ← List.drop_drop, dropped, List.drop_drop]
  have leadField : (trimmed.take ((sizage.cs * 3 + 3) / 4 + sizage.ls)).drop ((sizage.cs * 3 + 3) / 4) =
      ((payloadBytes sizage sextets fs).drop sizage.ps).take sizage.ls := by
    have start := behind 0
    simp only [Nat.add_zero] at start
    rw [List.drop_take, start, Nat.add_sub_cancel_left]
  have last : sizage.ps ≠ 0 → trimmed.getD ((sizage.cs * 3 + 3) / 4 - 1) 0 = tail.getD (sizage.ps - 1) 0 := by
    intro padded
    rw [frame, ← codeLength, Nat.add_sub_assoc (by omega), List.getD_append_right _ _ _ _ (Nat.le_add_right _ _),
      Nat.add_sub_cancel_left]
  have length : trimmed.length = code.length + (payloadBytes sizage sextets fs).length := by
    rw [frame, List.length_append, bufLength]
  rw [leadField, behind]
  apply Iff.intro
  · intro carries
    refine ⟨?_, ?_, carries.lead, carries.rest⟩
    · have complete := carries.complete
      omega
    · intro found
      obtain ⟨padded, dirty⟩ := found
      rw [last padded] at dirty
      exact bits.mp carries.canonical ⟨padded, dirty⟩
  · intro found
    obtain ⟨complete, clear, zero, rest⟩ := found
    refine ⟨bits.mpr ?_, by omega, zero, rest⟩
    intro found
    obtain ⟨padded, dirty⟩ := found
    rw [← last padded] at dirty
    exact clear ⟨padded, dirty⟩

theorem quadlets_cover (sextets : List Sextet) (aligned : 4 ∣ sextets.length) (size : Nat) :
    (size * 3 + 3) / 4 ≤ (pack sextets).length ↔ size ≤ sextets.length := by
  rw [length_pack]
  omega

theorem parse_utf8_spelled (text : Bytes) (spelled : urlSafe.Spells text) (soft : String) :
    parseUtf8 text = .ok soft ↔ asciiText text = soft := by
  rw [parse_utf8_ok]
  apply Iff.intro
  · intro same
    exact as_bytes_injective (by rw [ascii_of_spelled text spelled, same])
  · intro same
    rw [← same, ascii_of_spelled text spelled]

theorem from_qualified_base2_ok (sextets : List Sextet) (aligned : 4 ∣ sextets.length) (matter : Matter MatterCode) :
    fromQualifiedBase2 (pack sextets) = .ok matter ↔ fromQualifiedBase64 (sextets.map urlSafe.char) = .ok matter := by
  have emptyIff : pack sextets = [] ↔ sextets.map urlSafe.char = [] := by
    rw [← List.length_eq_zero_iff, ← List.length_eq_zero_iff, length_pack, List.length_map]
    omega
  simp only [fromQualifiedBase2, fromQualifiedBase64, bind_ok, reject_if_ok, exists_done, map_error_ok, from_stream_ok _ aligned,
    from_base64_stream_ok, emptyIff]
  apply and_congr_right
  intro _
  apply exists_congr
  intro code
  apply and_congr_right
  intro _
  have covered := quadlets_cover sextets aligned code.getSizage.cs
  rw [Nat.not_lt, Nat.not_lt, List.length_map, covered]
  apply and_congr_right
  intro long
  have digits : ((spread ((pack sextets).take ((code.getSizage.cs * 3 + 3) / 4))).take code.getSizage.cs).map urlSafe.char =
      (sextets.map urlSafe.char).take code.getSizage.cs := by
    rw [spread_take _ _ _ (by omega), spread_pack sextets aligned, List.map_take]
  have enough : (code.getSizage.cs * 3 + 3) / 4 ≤ ((pack sextets).take ((code.getSizage.cs * 3 + 3) / 4)).length := by
    rw [List.length_take, Nat.min_eq_left (covered.mpr long)]
  have again : ((sextets.map urlSafe.char).take code.getSizage.cs).take code.getSizage.cs =
      (sextets.map urlSafe.char).take code.getSizage.cs := by rw [List.take_take, Nat.min_self]
  simp only [encode_binary_ok, digits, enough, true_and, exists_eq_left, again]
  have short : (((sextets.map urlSafe.char).take code.getSizage.cs).drop code.getSizage.hs).length = code.getSizage.ss := by
    rw [List.length_drop, List.length_take, List.length_map, Nat.min_eq_left long]
    exact Nat.add_sub_cancel_left ..
  have spelled : urlSafe.Spells (((sextets.map urlSafe.char).take code.getSizage.cs).drop code.getSizage.hs) := by
    rw [← List.map_take, ← List.map_drop]
    exact spells_map urlSafe _
  generalize ((sextets.map urlSafe.char).take code.getSizage.cs).drop code.getSizage.hs = softFull at short spelled
  have tailSpelled : urlSafe.Spells (softFull.drop code.getSizage.xs) := fun char inside => spelled char (List.mem_of_mem_drop inside)
  have pads : (softFull.take code.getSizage.xs).length = code.getSizage.xs := by
    rw [List.length_take, short, Nat.min_eq_left (xtra_size_le code)]
  simp only [any_ne_pad, pads, ne_eq, not_not, parse_utf8_spelled _ tailSpelled, exists_eq_left', decode_payload_ok, strip_lead_ok]
  apply and_congr_right
  intro _
  apply exists_congr
  intro fs
  apply and_congr_right
  intro sized
  obtain ⟨aligned', small⟩ := size_from_soft_bound code _ fs (by rw [List.length_drop, short]; exact Nat.sub_le _ _) sized
  have within := size_from_soft_large code _ fs sized
  have framed : fs / 4 * 3 ≤ (pack sextets).length ↔ fs ≤ sextets.length := by
    rw [length_pack]
    omega
  simp only [compute_qb2_byte_size_ok fs aligned' small, Except.ok.injEq, exists_eq_left', pure_ok]
  simp only [Nat.not_lt, framed]
  apply and_congr_right
  intro whole
  have few := pad_size_le code
  have carries := fun raw => carries_binary code.getSizage sextets fs raw (by omega) aligned' within whole
  simp only [payload_decoded code.getSizage sextets fs aligned' within whole, Option.some.injEq, exists_eq_left', carries,
    List.any_eq_true, bne_iff_ne, ne_eq, not_exists, not_and, not_not, List.length_drop, true_and]
  apply Iff.intro
  · intro found
    obtain ⟨complete, clear, zero, same⟩ := found
    exact ⟨_, ⟨complete, clear, zero, rfl⟩, same⟩
  · intro found
    obtain ⟨raw, ⟨complete, clear, zero, shown⟩, same⟩ := found
    exact ⟨complete, clear, zero, by rw [← shown, same]⟩

def frameSoft (stream : Bytes) : Except MatterBuildError Bytes := do
  let code ← (MatterCode.fromBase64Stream stream).mapError .parsing
  pure ((stream.take code.getSizage.cs).drop (code.getSizage.hs + code.getSizage.xs))

def SpelledSoft (stream : Bytes) : Prop := ∀ soft, frameSoft stream = .ok soft → urlSafe.Spells soft

theorem reads_text_soft (matter : Matter MatterCode) (payload buf stream : Bytes)
    (reads : ReadsText matter payload buf stream) : frameSoft stream = .ok (asBytes matter.soft) := by
  obtain ⟨rest, framed⟩ := reads.framed
  have coded : MatterCode.fromBase64Stream stream = .ok matter.code :=
    (from_base64_stream_ok _ _).mpr
      ⟨List.replicate matter.code.getSizage.xs padChar ++ asBytes matter.soft ++ payload ++ rest, by
        rw [framed]
        simp only [Matter.header, CesrCode.toMatterCode, List.append_assoc]⟩
  simp only [frameSoft, bind_ok, map_error_ok, pure_ok]
  refine ⟨matter.code, coded, ?_⟩
  rw [framed, List.append_assoc, ← List.drop_drop, header_fields matter _ reads.soft, List.drop_left' List.length_replicate]

theorem header_spelled (matter : Matter MatterCode) :
    urlSafe.Spells matter.header ↔ urlSafe.Spells (asBytes matter.soft) := by
  have pads : urlSafe.Spells (List.replicate matter.code.getSizage.xs padChar) := by
    intro byte inside
    rw [List.eq_of_mem_replicate inside]
    decide
  simp only [Matter.header, CesrCode.toMatterCode, spells_append, code_spelled, pads, true_and]

theorem payload_spelled (matter : Matter MatterCode) (payload buf stream : Bytes)
    (reads : ReadsText matter payload buf stream) : urlSafe.Spells payload ↔ payload.getLast? ≠ some urlSafe.pad := by
  have few := pad_size_le matter.code
  obtain ⟨aligned, spelled, _⟩ := decode_padded_some urlSafe _ buf reads.decoded
  rw [List.length_append, List.length_replicate] at aligned
  apply Iff.intro
  · intro chars last
    have value := chars urlSafe.pad (List.mem_of_getLast? last)
    rw [urlSafe.value_pad] at value
    cases value
  · intro last
    rw [← padded_last _ payload (by omega) aligned, ← pads_zero_iff] at last
    rw [last, List.replicate_zero, List.append_nil] at spelled
    have whole : urlSafe.Spells (List.replicate matter.code.getSizage.ps 0x41 ++ payload) := by
      rw [spelled]
      exact spells_map urlSafe _
    exact ((spells_append urlSafe _ _).mp whole).2

theorem qb64_decode_spelled (text : Bytes) (aligned : 4 ∣ text.length) :
    (∃ binary, qb64Decode text = .ok binary) ↔ urlSafe.Spells text := by
  simp only [qb64_decode_ok]
  apply Iff.intro
  · intro found
    obtain ⟨_, sextets, _, spelled, _⟩ := found
    exact (spells_iff urlSafe text).mpr ⟨sextets, spelled⟩
  · intro spelled
    obtain ⟨sextets, same⟩ := (spells_iff urlSafe text).mp spelled
    exact ⟨pack sextets, sextets, by rwa [same, List.length_map] at aligned, same, rfl⟩

-- Both domains accept the same primitives. A frame of the text domain has a binary
-- image exactly when its payload is not padded and its soft text is in the alphabet.
theorem matter_domains_agree_iff (matter : Matter MatterCode) :
    (∀ text, urlSafe.Spells text → text.length % 4 = 0 → ∃ binary, qb64Decode text = .ok binary ∧
        (fromQualifiedBase64 text = .ok matter ↔ fromQualifiedBase2 binary = .ok matter)) ∧
      ∀ stream fs, fromQualifiedBase64 stream = .ok matter → MatterCode.frameSize stream = .ok fs →
        (urlSafe.Spells (stream.take fs) ∧ (∃ binary, qb64Decode (stream.take fs) = .ok binary) ↔
          Unpadded stream ∧ SpelledSoft stream) := by
  apply And.intro
  · intro text spelled whole
    obtain ⟨sextets, same⟩ := (spells_iff urlSafe text).mp spelled
    have aligned : 4 ∣ sextets.length := by
      rw [same, List.length_map] at whole
      exact Nat.dvd_of_mod_eq_zero whole
    refine ⟨pack sextets, by rw [same, qb64_decode_map sextets aligned], ?_⟩
    rw [same, from_qualified_base2_ok sextets aligned]
  · intro stream fs accepted sized
    obtain ⟨payload, buf, reads⟩ := (from_qualified_base64_ok stream matter).mp accepted
    obtain ⟨framed, taken, shown⟩ := reads_text_frame matter payload buf stream reads
    have frame := Except.ok.inj (sized.symm.trans framed)
    have soft := reads_text_soft matter payload buf stream reads
    have quadlets : 4 ∣ (matter.header ++ payload).length := by
      rw [List.length_append, header_length matter reads.soft]
      exact (size_from_soft_bound _ _ _ (by rw [reads.soft]; exact Nat.sub_le _ _) reads.sized).1
    rw [frame, taken, qb64_decode_spelled _ quadlets, and_self, spells_append, header_spelled,
      payload_spelled matter payload buf stream reads]
    apply Iff.intro
    · intro found
      obtain ⟨chars, last⟩ := found
      refine ⟨?_, ?_⟩
      · intro other read
        rw [shown] at read
        rwa [← Except.ok.inj read]
      · intro other read
        rw [soft] at read
        rwa [← Except.ok.inj read]
    · intro found
      obtain ⟨unpadded, spelled⟩ := found
      exact ⟨spelled _ soft, unpadded _ shown⟩

theorem unspelled_tag_has_no_binary :
    fromQualifiedBase64 (asBytes "X!!!") = .ok ⟨.tag3, [], "!!!"⟩ ∧ MatterCode.frameSize (asBytes "X!!!") = .ok 4 ∧
      ¬urlSafe.Spells ((asBytes "X!!!").take 4) ∧ qb64Decode ((asBytes "X!!!").take 4) = .error (.invalidBase64Char 0x21) := by
  decide +kernel

theorem short_domains_agree :
    (∃ binary, qb64Decode (asBytes "MAAA") = .ok binary ∧
        (fromQualifiedBase64 (asBytes "MAAA") = .ok ⟨.short, [0, 0], ""⟩ ↔ fromQualifiedBase2 binary = .ok ⟨.short, [0, 0], ""⟩)) ∧
      (urlSafe.Spells ((asBytes "X!!!").take 4) ∧ (∃ binary, qb64Decode ((asBytes "X!!!").take 4) = .ok binary) ↔
        Unpadded (asBytes "X!!!") ∧ SpelledSoft (asBytes "X!!!")) :=
  ⟨(matter_domains_agree_iff ⟨.short, [0, 0], ""⟩).1 (asBytes "MAAA") (by decide +kernel) (by decide +kernel),
    (matter_domains_agree_iff ⟨.tag3, [], "!!!"⟩).2 (asBytes "X!!!") 4 (by decide) (by decide)⟩

end Cesr
