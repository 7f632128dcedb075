import Cesr.Core.MatterBuilder

set_option autoImplicit false

namespace Cesr

open Sextets Base64 Checks

def Sizage.sound (sizage : Sizage) : Bool :=
  match sizage.fs with
  | .fixed size => size % 4 == 0 && sizage.cs ≤ size && sizage.ls ≤ (size - sizage.cs) * 3 / 4 && size < 256
  | .small | .large => sizage.ps == 0 && sizage.xs == 0 && sizage.ss ≤ 4 && sizage.cs ≤ 8

theorem sizages_checked (code : MatterCode) :
    code.getSizage.ps ≤ 2 ∧ code.getSizage.xs ≤ code.getSizage.ss ∧ code.getSizage.sound = true :=
  of_decide_eq_true
    (every_matter_code
      (fun code => decide
        (code.getSizage.ps ≤ 2 ∧ code.getSizage.xs ≤ code.getSizage.ss ∧ code.getSizage.sound = true))
      (by decide +kernel) code)

theorem pad_size_le (code : MatterCode) : code.getSizage.ps ≤ 2 := (sizages_checked code).1

theorem xtra_size_le (code : MatterCode) : code.getSizage.xs ≤ code.getSizage.ss := (sizages_checked code).2.1

theorem sizage_sound (code : MatterCode) : code.getSizage.sound = true := (sizages_checked code).2.2

theorem spellings_checked (code : MatterCode) :
    (asBytes code.asStr).length = code.getSizage.hs ∧ isB64UrlSafeCharset (asBytes code.asStr) = true ∧
      (asBytes code.asStr).head?.bind getHardSizeFromByte = some code.getSizage.hs :=
  of_decide_eq_true
    (every_matter_code
      (fun code => decide
        ((asBytes code.asStr).length = code.getSizage.hs ∧ isB64UrlSafeCharset (asBytes code.asStr) = true ∧
          (asBytes code.asStr).head?.bind getHardSizeFromByte = some code.getSizage.hs))
      (by decide +kernel) code)

theorem hard_size_eq (code : MatterCode) : (asBytes code.asStr).length = code.getSizage.hs :=
  (spellings_checked code).1

theorem code_spelled (code : MatterCode) : urlSafe.Spells (asBytes code.asStr) :=
  (url_safe_charset_iff _).mp (spellings_checked code).2.1

theorem hard_size_of_first (code : MatterCode) :
    (asBytes code.asStr).head?.bind getHardSizeFromByte = some code.getSizage.hs :=
  (spellings_checked code).2.2

theorem fixed_size_sound (code : MatterCode) (size : Nat) (fixed : code.getSizage.fs = .fixed size) :
    4 ∣ size ∧ code.getSizage.cs ≤ size ∧ code.getSizage.ls ≤ (size - code.getSizage.cs) * 3 / 4 ∧ size < 256 := by
  have sound := sizage_sound code
  simp only [Sizage.sound, fixed, Bool.and_eq_true, beq_iff_eq, decide_eq_true_eq] at sound
  exact ⟨Nat.dvd_of_mod_eq_zero sound.1.1.1, sound.1.1.2, sound.1.2, sound.2⟩

theorem hard_sizes_agree (first : Sextet) :
    getHardSizeFromSextet first.val = getHardSizeFromByte (urlSafe.char first) := by
  revert first
  decide

theorem parse_code_ok (text : String) (code : MatterCode) : parseCode text = .ok code ↔ code.asStr = text := by
  rw [← from_str_some]
  unfold parseCode
  cases MatterCode.fromStr text with
  | none => simp
  | some found => simp

theorem parse_utf8_ok (bytes : Bytes) (text : String) : parseUtf8 bytes = .ok text ↔ asBytes text = bytes := by
  rw [← from_utf8_some]
  unfold parseUtf8
  cases fromUtf8 bytes with
  | none => simp
  | some found => simp

theorem first_of_code (code : MatterCode) :
    ∃ first tail, asBytes code.asStr = first :: tail ∧ getHardSizeFromByte first = some code.getSizage.hs := by
  have sized := hard_size_of_first code
  cases spelled : asBytes code.asStr with
  | nil => simp [spelled] at sized
  | cons first tail => exact ⟨first, tail, rfl, by simpa [spelled] using sized⟩

theorem from_base64_stream_ok (stream : Bytes) (code : MatterCode) :
    MatterCode.fromBase64Stream stream = .ok code ↔ ∃ rest, stream = asBytes code.asStr ++ rest := by
  apply Iff.intro
  · intro read
    unfold MatterCode.fromBase64Stream at read
    split at read
    · cases read
    · split at read
      · cases read
      · rename_i hs _
        simp only [bind_ok, reject_if_ok, exists_done, parse_utf8_ok, parse_code_ok] at read
        obtain ⟨_, text, taken, named⟩ := read
        exact ⟨stream.drop hs, by rw [named, taken, List.take_append_drop]⟩
  · intro found
    obtain ⟨rest, same⟩ := found
    obtain ⟨first, tail, spelled, sized⟩ := first_of_code code
    have length := hard_size_eq code
    have head : stream.head? = some first := by rw [same, spelled]; rfl
    unfold MatterCode.fromBase64Stream
    rw [head]
    simp only [sized, bind_ok, reject_if_ok, exists_done, parse_utf8_ok, parse_code_ok]
    refine ⟨?_, code.asStr, ?_, rfl⟩
    · rw [same, List.length_append]
      omega
    · rw [same, List.take_left' length]

theorem ascii_of_spelled (text : Bytes) (spelled : urlSafe.Spells text) : asBytes (asciiText text) = text := by
  obtain ⟨sextets, same⟩ := (spells_iff urlSafe text).mp spelled
  apply as_bytes_ascii_text
  intro char inside
  rw [same, List.mem_map] at inside
  obtain ⟨sextet, _, spelled⟩ := inside
  rw [← spelled]
  exact url_safe_ascii sextet

theorem pack_head (sextets : List Sextet) (aligned : 4 ∣ sextets.length) :
    (pack sextets).head?.map (fun byte => byte.toNat / 4) = sextets.head?.map Fin.val := by
  cases sextets using pack.fun_cases with
  | case1 first second third fourth rest =>
      have firstBound := first.isLt
      have secondBound := second.isLt
      simp [pack]
      omega
  | case2 first second third => simp at aligned
  | case3 first second => simp at aligned
  | case4 first => simp at aligned
  | case5 => rfl

theorem from_stream_ok (sextets : List Sextet) (aligned : 4 ∣ sextets.length) (code : MatterCode) :
    MatterCode.fromStream (pack sextets) = .ok code ↔
      ∃ rest, sextets.map urlSafe.char = asBytes code.asStr ++ rest := by
  have firsts := pack_head sextets aligned
  apply Iff.intro
  · intro read
    unfold MatterCode.fromStream at read
    split at read
    · cases read
    · split at read
      · cases read
      · rename_i hs _
        simp only [bind_ok, reject_if_ok, exists_done, map_error_ok, encode_binary_ok, parse_code_ok] at read
        obtain ⟨_, text, ⟨_, taken⟩, named⟩ := read
        rw [spread_pack sextets aligned] at taken
        refine ⟨(sextets.drop hs).map urlSafe.char, ?_⟩
        rw [named, taken, ascii_of_spelled _ (spells_map urlSafe _), ← List.map_append, List.take_append_drop]
  · intro found
    obtain ⟨rest, same⟩ := found
    obtain ⟨first, tail, spelled, sized⟩ := first_of_code code
    have length := hard_size_eq code
    have counted := congrArg List.length same
    rw [List.length_map, List.length_append, length] at counted
    have packed := length_pack sextets
    obtain ⟨lead, others, shape⟩ : ∃ lead others, sextets = lead :: others := by
      cases sextets with
      | nil => simp [spelled] at same
      | cons lead others => exact ⟨lead, others, rfl⟩
    have named : urlSafe.char lead = first := by
      rw [shape, spelled] at same
      exact (List.cons.inj same).1
    rw [shape, List.head?_cons, Option.map_some, Option.map_eq_some_iff] at firsts
    obtain ⟨byte, head, quotient⟩ := firsts
    rw [← shape] at head
    have taken : ((spread (pack sextets)).take code.getSizage.hs).map urlSafe.char = asBytes code.asStr := by
      rw [spread_pack sextets aligned, List.map_take, same, List.take_left' length]
    unfold MatterCode.fromStream
    rw [head]
    simp only [quotient, hard_sizes_agree, named, sized, bind_ok, reject_if_ok, exists_done, map_error_ok,
      encode_binary_ok, parse_code_ok]
    refine ⟨by omega, asBytes code.asStr, ⟨by omega, taken.symm⟩, ?_⟩
    exact as_bytes_injective (ascii_of_spelled _ (code_spelled code)).symm

section Frames

variable {Code : Type} [CesrCode Code]

def Matter.header (matter : Matter Code) : Bytes :=
  let code := CesrCode.toMatterCode matter.code
  asBytes code.asStr ++ List.replicate code.getSizage.xs padChar ++ asBytes matter.soft

end Frames

-- A decoded payload, its pad and lead bytes still in front, that carries the raw value.
structure Carries (sizage : Sizage) (buf raw : Bytes) : Prop where
  canonical : bigEndian (buf.take sizage.ps) % 2 ^ (2 * sizage.ps) = 0
  complete : sizage.ps + sizage.ls ≤ buf.length
  lead : ∀ byte ∈ (buf.drop sizage.ps).take sizage.ls, byte = 0
  rest : raw = buf.drop (sizage.ps + sizage.ls)

theorem strip_lead_ok (sizage : Sizage) (buf raw : Bytes) :
    stripLead sizage buf = .ok raw ↔ Carries sizage buf raw := by
  simp only [stripLead, bind_ok, reject_if_ok, exists_done, pure_ok, not_not, Nat.not_lt, List.any_eq_true,
    not_exists, not_and, bne_iff_ne]
  apply Iff.intro
  · intro found
    obtain ⟨canonical, complete, lead, rest⟩ := found
    exact ⟨canonical, complete, lead, rest.symm⟩
  · intro carries
    exact ⟨carries.canonical, carries.complete, carries.lead, carries.rest.symm⟩

theorem decode_payload_ok (text buf : Bytes) : decodePayload text = .ok buf ↔ urlSafe.decodePadded text = some buf := by
  unfold decodePayload
  cases urlSafe.decodePadded text with
  | none => simp
  | some found => simp

theorem any_ne_pad (chars : Bytes) : ¬ chars.any (· != padChar) = true ↔ chars = List.replicate chars.length padChar := by
  rw [List.eq_replicate_iff]
  simp

-- A text is accepted when it is a header, a payload of the size the header
-- announces and anything after it, and the payload carries the raw value.
structure ReadsText (matter : Matter MatterCode) (payload buf stream : Bytes) : Prop where
  framed : ∃ rest, stream = matter.header ++ payload ++ rest
  soft : (asBytes matter.soft).length = matter.code.getSizage.ss - matter.code.getSizage.xs
  sized : matter.code.sizeFromSoft (asBytes matter.soft) = .ok (matter.code.getSizage.cs + payload.length)
  decoded : urlSafe.decodePadded (List.replicate matter.code.getSizage.ps 0x41 ++ payload) = some buf
  carried : Carries matter.code.getSizage buf matter.raw

theorem header_length (matter : Matter MatterCode)
    (soft : (asBytes matter.soft).length = matter.code.getSizage.ss - matter.code.getSizage.xs) :
    matter.header.length = matter.code.getSizage.cs := by
  have extra := xtra_size_le matter.code
  have hard := hard_size_eq matter.code
  simp only [Matter.header, CesrCode.toMatterCode, List.length_append, List.length_replicate, soft, hard, Sizage.cs]
  omega

theorem header_fields (matter : Matter MatterCode) (rest : Bytes)
    (soft : (asBytes matter.soft).length = matter.code.getSizage.ss - matter.code.getSizage.xs) :
    (((matter.header ++ rest).take matter.code.getSizage.cs).drop matter.code.getSizage.hs) =
      List.replicate matter.code.getSizage.xs padChar ++ asBytes matter.soft := by
  rw [List.take_left' (header_length matter soft)]
  simp only [Matter.header, CesrCode.toMatterCode, List.append_assoc]
  rw [List.drop_left' (hard_size_eq matter.code)]

theorem size_from_soft_large (code : MatterCode) (soft : Bytes) (fs : Nat) (sized : code.sizeFromSoft soft = .ok fs) :
    code.getSizage.cs ≤ fs := by
  unfold MatterCode.sizeFromSoft at sized
  split at sized
  · rename_i fixed shape
    have bound := (fixed_size_sound code fixed shape).2.1
    cases sized
    exact bound
  all_goals
    simp only [bind_ok, map_error_ok, computeFullSize] at sized
    obtain ⟨size, _, computed⟩ := sized
    split at computed
    · rename_i full shape
      cases computed
      simp only [usizeTryFrom, Option.bind_eq_some_iff, Option.ite_none_right_eq_some, Option.some.injEq] at shape
      obtain ⟨quad, _, _, total⟩ := shape
      omega
    · cases computed

theorem from_qualified_base64_ok (stream : Bytes) (matter : Matter MatterCode) :
    fromQualifiedBase64 stream = .ok matter ↔ ∃ payload buf, ReadsText matter payload buf stream := by
  apply Iff.intro
  · intro accepted
    simp only [fromQualifiedBase64, bind_ok, reject_if_ok, exists_done, map_error_ok, from_base64_stream_ok,
      parse_utf8_ok, decode_payload_ok, strip_lead_ok, pure_ok, any_ne_pad, Nat.not_lt] at accepted
    obtain ⟨_, code, ⟨tail, spelled⟩, long, xtra, soft, softRead, fs, sized, whole, buf, decoded, raw, carried, same⟩ := accepted
    subst same
    generalize full : ((stream.take code.getSizage.cs).drop code.getSizage.hs) = softFull at xtra softRead sized
    have hard := hard_size_eq code
    have extra := xtra_size_le code
    have split : code.getSizage.cs = code.getSizage.hs + code.getSizage.ss := rfl
    have fullLength : softFull.length = code.getSizage.ss := by
      rw [← full, List.length_drop, List.length_take, Nat.min_eq_left long]
      omega
    have coded : (stream.take code.getSizage.cs).take code.getSizage.hs = asBytes code.asStr := by
      rw [List.take_take, Nat.min_eq_left (by omega), spelled, List.take_left' hard]
    have pads : softFull.take code.getSizage.xs = List.replicate code.getSizage.xs padChar := by
      rwa [List.length_take, fullLength, Nat.min_eq_left extra] at xtra
    have header : Matter.header ⟨code, raw, soft⟩ = stream.take code.getSizage.cs := by
      simp only [Matter.header, CesrCode.toMatterCode]
      rw [← pads, softRead, List.append_assoc, List.take_append_drop, ← full, ← coded, List.take_append_drop]
    refine ⟨(stream.take fs).drop code.getSizage.cs, buf, ?_, ?_, ?_, decoded, carried⟩
    · have within := size_from_soft_large code _ fs sized
      refine ⟨stream.drop fs, ?_⟩
      have shorter : stream.take code.getSizage.cs = (stream.take fs).take code.getSizage.cs := by
        rw [List.take_take, Nat.min_eq_left within]
      rw [header, shorter, List.take_append_drop, List.take_append_drop]
    · rw [softRead, List.length_drop, fullLength]
    · have within := size_from_soft_large code _ fs sized
      rw [softRead, sized, List.length_drop, List.length_take, Nat.min_eq_left whole, Nat.add_sub_cancel' within]
  · intro found
    obtain ⟨payload, buf, reads⟩ := found
    obtain ⟨rest, framed⟩ := reads.framed
    have soft := reads.soft
    have length := header_length matter soft
    have extra := xtra_size_le matter.code
    have counted := congrArg List.length framed
    rw [List.length_append, List.length_append, length] at counted
    have fields : ((stream.take matter.code.getSizage.cs).drop matter.code.getSizage.hs) =
        List.replicate matter.code.getSizage.xs padChar ++ asBytes matter.soft := by
      rw [framed, List.append_assoc]
      exact header_fields matter (payload ++ rest) soft
    have tail : (List.replicate matter.code.getSizage.xs padChar ++ asBytes matter.soft).drop matter.code.getSizage.xs =
        asBytes matter.soft := List.drop_left' List.length_replicate
    simp only [fromQualifiedBase64, bind_ok, reject_if_ok, exists_done, map_error_ok, from_base64_stream_ok,
      parse_utf8_ok, decode_payload_ok, strip_lead_ok, pure_ok, any_ne_pad, Nat.not_lt]
    refine ⟨?_, matter.code, ?_, by omega, ?_, matter.soft, ?_, matter.code.getSizage.cs + payload.length, ?_, by omega,
      buf, ?_, matter.raw, reads.carried, rfl⟩
    · intro empty
      obtain ⟨first, others, spelled, _⟩ := first_of_code matter.code
      simp [empty, Matter.header, CesrCode.toMatterCode, spelled] at framed
    · exact ⟨List.replicate matter.code.getSizage.xs padChar ++ asBytes matter.soft ++ payload ++ rest, by
        rw [framed]
        simp only [Matter.header, CesrCode.toMatterCode, List.append_assoc]⟩
    · rw [fields, List.take_left' List.length_replicate, List.length_replicate]
    · rw [fields, tail]
    · rw [fields, tail, reads.sized]
    · rw [framed, List.take_left' (by rw [List.length_append, length]), List.drop_left' length]
      exact reads.decoded

theorem copy_from_slice_some (out left middle right src : Bytes) (start stop : Nat) (split : out = left ++ middle ++ right)
    (begins : left.length = start) (ends : left.length + middle.length = stop) (same : src.length = middle.length) :
    copyFromSlice out start stop src = some (left ++ src ++ right) := by
  have fits : start ≤ stop ∧ stop ≤ out.length ∧ src.length = stop - start := by
    rw [split, List.length_append, List.length_append]
    omega
  have kept : out.take start = left := by rw [split, List.append_assoc, List.take_left' begins]
  have after : out.drop stop = right := by rw [split, List.drop_left' (by rw [List.length_append, ends])]
  rw [copyFromSlice, if_pos fits, kept, after]

section Encode

variable {Code : Type} [CesrCode Code]

theorem to_qb64b_some (matter : Matter Code) (payload : Bytes)
    (soft : (asBytes matter.soft).length = matter.widen.code.getSizage.ss - matter.widen.code.getSizage.xs)
    (encoded : zeroLeadEncode matter.raw (matter.widen.code.getSizage.ls + matter.widen.code.getSizage.ps) =
      List.replicate matter.widen.code.getSizage.ps 0x41 ++ payload)
    (sized : matter.fullSize = matter.widen.code.getSizage.cs + payload.length) :
    matter.toQb64b = some (matter.header ++ payload) := by
  simp only [Matter.widen] at soft encoded sized
  have hard := hard_size_eq (CesrCode.toMatterCode matter.code)
  have extra := xtra_size_le (CesrCode.toMatterCode matter.code)
  generalize kind : CesrCode.toMatterCode matter.code = code at soft encoded sized hard extra
  have split : code.getSizage.cs = code.getSizage.hs + code.getSizage.ss := rfl
  have padded : code.getSizage.ps ≤ code.getSizage.cs := Nat.mod_le _ 4
  have named : asBytes (CesrCode.asStr matter.code) = asBytes code.asStr := by
    rw [CesrCode.as_str_to_matter, kind]
  let front : Bytes := List.replicate (code.getSizage.cs - code.getSizage.ps) 0 ++ List.replicate code.getSizage.ps 0x41
  have frontLength : front.length = code.getSizage.cs := by
    simp only [front, List.length_append, List.length_replicate]
    omega
  have whole : List.replicate (code.getSizage.cs - code.getSizage.ps) 0 ++
      (List.replicate code.getSizage.ps 0x41 ++ payload) = front ++ payload := (List.append_assoc _ _ _).symm
  unfold Matter.toQb64b Matter.appendQb64 Matter.header
  simp only [kind, encoded, sized, named, List.length_append, List.length_replicate]
  rw [if_pos (by omega), whole]
  have first := copy_from_slice_some (front ++ payload) [] (front.take code.getSizage.hs)
    (front.drop code.getSizage.hs ++ payload) (asBytes code.asStr) 0 code.getSizage.hs
    (by rw [List.nil_append, ← List.append_assoc, List.take_append_drop]) rfl
    (by rw [List.length_nil, List.length_take]; omega) (by rw [List.length_take]; omega)
  rw [first, Option.bind_eq_bind, Option.bind_some, List.nil_append]
  by_cases special : 0 < code.getSizage.ss
  · rw [if_pos special]
    have second := copy_from_slice_some (asBytes code.asStr ++ (front.drop code.getSizage.hs ++ payload))
      (asBytes code.asStr) ((front.drop code.getSizage.hs).take code.getSizage.xs)
      ((front.drop code.getSizage.hs).drop code.getSizage.xs ++ payload)
      (List.replicate code.getSizage.xs padChar) code.getSizage.hs (code.getSizage.hs + code.getSizage.xs)
      (by rw [List.append_assoc, ← List.append_assoc (List.take _ _), List.take_append_drop]) hard
      (by rw [List.length_take, List.length_drop]; omega)
      (by rw [List.length_take, List.length_drop, List.length_replicate]; omega)
    have third := copy_from_slice_some
      (asBytes code.asStr ++ List.replicate code.getSizage.xs padChar ++
        ((front.drop code.getSizage.hs).drop code.getSizage.xs ++ payload))
      (asBytes code.asStr ++ List.replicate code.getSizage.xs padChar)
      ((front.drop code.getSizage.hs).drop code.getSizage.xs) payload (asBytes matter.soft)
      (code.getSizage.hs + code.getSizage.xs) code.getSizage.cs (List.append_assoc _ _ _).symm
      (by rw [List.length_append, List.length_replicate, hard])
      (by simp only [List.length_append, List.length_replicate, List.length_drop]; omega)
      (by rw [List.length_drop, List.length_drop]; omega)
    rw [second, Option.bind_some, third, Option.bind_some, List.nil_append]
  · have plain : code.getSizage.ss = 0 := by omega
    have noSoft : asBytes matter.soft = [] := List.length_eq_zero_iff.mp (by omega)
    have noExtra : code.getSizage.xs = 0 := by omega
    have dropped : front.drop code.getSizage.hs = [] := List.drop_of_length_le (by omega)
    rw [if_neg special, noSoft, noExtra, dropped]
    simp

end Encode

theorem spare_lt (lead : Nat) (payload : List Sextet) (few : lead ≤ 3) : spare lead payload < 4 ^ lead := by
  cases payload with
  | nil => exact Nat.pow_pos (by decide)
  | cons first rest =>
      have bound := first.isLt
      simp only [spare]
      interval_cases lead <;> norm_num <;> omega

theorem pad_bits_spare (lead : Nat) (payload : List Sextet) (padded : 1 ≤ lead) (few : lead ≤ 3)
    (nonempty : payload ≠ []) :
    bigEndian ((pack (List.replicate lead 0 ++ payload)).take lead) = spare lead payload := by
  have bound := spare_lt lead payload few
  have small : spare lead payload < 256 := lt_of_lt_of_le bound (by interval_cases lead <;> decide)
  rw [pack_zero_lead lead payload padded few nonempty]
  interval_cases lead <;> simp [bigEndian, List.replicate] <;> omega

theorem pad_bits_zero (lead : Nat) (payload : List Sextet) (padded : 1 ≤ lead) (few : lead ≤ 3) (nonempty : payload ≠ [])
    (canonical : bigEndian ((pack (List.replicate lead 0 ++ payload)).take lead) % 2 ^ (2 * lead) = 0) :
    (pack (List.replicate lead 0 ++ payload)).take lead = List.replicate lead 0 := by
  have bound := spare_lt lead payload few
  have mask : 2 ^ (2 * lead) = 4 ^ lead := by rw [pow_mul]; rfl
  rw [pad_bits_spare lead payload padded few nonempty, mask, Nat.mod_eq_of_lt bound] at canonical
  rw [pack_zero_lead lead payload padded few nonempty, canonical]
  interval_cases lead <;> rfl

theorem char_zero : urlSafe.char 0 = 0x41 := by decide

theorem map_replicate_zero (count : Nat) : (List.replicate count (0 : Sextet)).map urlSafe.char = List.replicate count 0x41 := by
  rw [List.map_replicate, char_zero]

theorem lead_bytes_zero (lead : Nat) (payload buf tail : Bytes) (few : lead ≤ 3) (enough : lead ≤ buf.length)
    (spelled : List.replicate lead 0x41 ++ payload = urlSafe.encode buf ++ tail)
    (canonical : bigEndian (buf.take lead) % 2 ^ (2 * lead) = 0) : buf.take lead = List.replicate lead 0 := by
  by_cases padded : 1 ≤ lead
  · have length := length_spread buf
    have longer : lead + 1 ≤ (spread buf).length := by omega
    have first : (spread buf).take lead = List.replicate lead 0 := by
      apply List.map_injective_iff.mpr (char_injective urlSafe)
      have cut := congrArg (List.take lead) spelled
      rw [List.take_left' List.length_replicate, List.take_append_of_le_length
        (by rw [Alphabet.encode, List.length_map]; omega), Alphabet.encode, ← List.map_take] at cut
      rw [map_replicate_zero, ← cut]
    have nonempty : (spread buf).drop lead ≠ [] := by
      intro empty
      have counted := congrArg List.length empty
      rw [List.length_drop, List.length_nil] at counted
      omega
    have packed : buf = pack (List.replicate lead 0 ++ (spread buf).drop lead) := by
      rw [← first, List.take_append_drop, pack_spread]
    rw [packed] at canonical ⊢
    exact pad_bits_zero lead _ padded few nonempty canonical
  · have nothing : lead = 0 := by omega
    rw [nothing]
    rfl

theorem carried_value (sizage : Sizage) (payload buf raw : Bytes) (few : sizage.ps ≤ 3)
    (decoded : urlSafe.decodePadded (List.replicate sizage.ps 0x41 ++ payload) = some buf) (carried : Carries sizage buf raw) :
    buf = List.replicate (sizage.ls + sizage.ps) 0 ++ raw := by
  obtain ⟨_, spelled, _⟩ := decode_padded_some urlSafe _ buf decoded
  have complete := carried.complete
  have pads := lead_bytes_zero sizage.ps payload buf _ few (by omega) spelled carried.canonical
  have lead : (buf.drop sizage.ps).take sizage.ls = List.replicate sizage.ls 0 := by
    rw [List.eq_replicate_iff]
    refine ⟨?_, carried.lead⟩
    rw [List.length_take, List.length_drop]
    omega
  calc buf = buf.take sizage.ps ++ ((buf.drop sizage.ps).take sizage.ls ++ (buf.drop sizage.ps).drop sizage.ls) := by
        rw [List.take_append_drop, List.take_append_drop]
    _ = List.replicate (sizage.ls + sizage.ps) 0 ++ raw := by
        rw [pads, lead, List.drop_drop, carried.rest, ← List.append_assoc, ← List.replicate_add, Nat.add_comm]

def framePayload (stream : Bytes) : Except MatterBuildError Bytes := do
  let code ← (MatterCode.fromBase64Stream stream).mapError .parsing
  let fs ← MatterCode.frameSize stream
  pure ((stream.take fs).drop code.getSizage.cs)

def Unpadded (stream : Bytes) : Prop :=
  ∀ payload, framePayload stream = .ok payload → payload.getLast? ≠ some urlSafe.pad

-- The raw length a code fixes: its own, or what the quadlets of the frame hold behind the lead bytes.
def MatterCode.rawLength (code : MatterCode) (fs : Nat) : Nat :=
  match code.rawSize with
  | .ok size => size
  | .error _ => (fs - code.getSizage.cs) / 4 * 3 - code.getSizage.ls

theorem frame_size_header (matter : Matter MatterCode) (rest : Bytes) (fs : Nat)
    (soft : (asBytes matter.soft).length = matter.code.getSizage.ss - matter.code.getSizage.xs)
    (sized : matter.code.sizeFromSoft (asBytes matter.soft) = .ok fs) :
    MatterCode.frameSize (matter.header ++ rest) = .ok fs := by
  have length := header_length matter soft
  have coded : MatterCode.fromBase64Stream (matter.header ++ rest) = .ok matter.code :=
    (from_base64_stream_ok _ _).mpr ⟨List.replicate matter.code.getSizage.xs padChar ++ asBytes matter.soft ++ rest, by
      simp only [Matter.header, CesrCode.toMatterCode, List.append_assoc]⟩
  have tail : ((matter.header ++ rest).take matter.code.getSizage.cs).drop
      (matter.code.getSizage.hs + matter.code.getSizage.xs) = asBytes matter.soft := by
    rw [← List.drop_drop, header_fields matter rest soft, List.drop_left' List.length_replicate]
  simp only [MatterCode.frameSize, bind_ok, map_error_ok]
  refine ⟨matter.code, coded, ?_⟩
  split
  · rename_i fixed shape
    unfold MatterCode.sizeFromSoft at sized
    rw [shape] at sized
    exact sized
  all_goals
    simp only [bind_ok, reject_if_ok, exists_done, map_error_ok, parse_utf8_ok]
    exact ⟨by rw [List.length_append]; omega, matter.soft, tail.symm, by rw [tail]; exact sized⟩

theorem reads_text_frame (matter : Matter MatterCode) (payload buf stream : Bytes)
    (reads : ReadsText matter payload buf stream) :
    MatterCode.frameSize stream = .ok (matter.code.getSizage.cs + payload.length) ∧
      stream.take (matter.code.getSizage.cs + payload.length) = matter.header ++ payload ∧
      framePayload stream = .ok payload := by
  obtain ⟨rest, framed⟩ := reads.framed
  have length := header_length matter reads.soft
  have sized : MatterCode.frameSize stream = .ok (matter.code.getSizage.cs + payload.length) := by
    rw [framed, List.append_assoc]
    exact frame_size_header matter _ _ reads.soft reads.sized
  have taken : stream.take (matter.code.getSizage.cs + payload.length) = matter.header ++ payload := by
    rw [framed, List.take_left' (by rw [List.length_append, length])]
  have coded : MatterCode.fromBase64Stream stream = .ok matter.code :=
    (from_base64_stream_ok _ _).mpr
      ⟨List.replicate matter.code.getSizage.xs padChar ++ asBytes matter.soft ++ payload ++ rest, by
        rw [framed]
        simp only [Matter.header, CesrCode.toMatterCode, List.append_assoc]⟩
  refine ⟨sized, taken, ?_⟩
  simp only [framePayload, bind_ok, map_error_ok, pure_ok]
  exact ⟨matter.code, coded, _, sized, by rw [taken, List.drop_left' length]⟩

theorem sized_payload (code : MatterCode) (soft : Bytes) (payload : Nat)
    (sized : code.sizeFromSoft soft = .ok (code.getSizage.cs + payload)) :
    code.getSizage.fs = .fixed (code.getSizage.cs + payload) ∨
      ((code.getSizage.fs = .small ∨ code.getSizage.fs = .large) ∧ code.getSizage.ps = 0) := by
  unfold MatterCode.sizeFromSoft at sized
  have sound := sizage_sound code
  split at sized
  · rename_i fixed shape
    exact Or.inl (by rw [shape, Except.ok.inj sized])
  all_goals
    rename_i shape
    simp only [Sizage.sound, shape, Bool.and_eq_true, beq_iff_eq] at sound
    exact Or.inr ⟨by simp [shape], sound.1.1.1⟩

theorem padded_last (lead : Nat) (payload : Bytes) (few : lead ≤ 3) (aligned : 4 ∣ lead + payload.length) :
    (List.replicate lead 0x41 ++ payload).getLast? = payload.getLast? := by
  cases payload using List.reverseRecOn with
  | nil =>
      have nothing : lead = 0 := by
        simp only [List.length_nil] at aligned
        omega
      rw [nothing]
      rfl
  | append_singleton body last => rw [← List.append_assoc, List.getLast?_concat, List.getLast?_concat]

theorem raw_length_sized (code : MatterCode) (soft : Bytes) (payload : Nat)
    (sized : code.sizeFromSoft soft = .ok (code.getSizage.cs + payload)) (aligned : 4 ∣ code.getSizage.ps + payload) :
    code.rawLength (code.getSizage.cs + payload) = (code.getSizage.ps + payload) / 4 * 3 - code.getSizage.ps - code.getSizage.ls := by
  have few := pad_size_le code
  rcases sized_payload code soft payload sized with fixed | ⟨variableSize, whole⟩
  · simp only [MatterCode.rawLength, MatterCode.rawSize, fixed, Nat.add_sub_cancel_left]
    omega
  · have unknown : ∃ error, code.rawSize = .error error := by
      unfold MatterCode.rawSize
      rcases variableSize with small | large
      · exact ⟨_, by rw [small]⟩
      · exact ⟨_, by rw [large]⟩
    obtain ⟨error, failed⟩ := unknown
    simp only [MatterCode.rawLength, failed, whole]
    omega

theorem reads_text_raw_length (matter : Matter MatterCode) (payload buf stream : Bytes)
    (reads : ReadsText matter payload buf stream) :
    matter.raw.length = matter.code.rawLength (matter.code.getSizage.cs + payload.length) ↔
      payload.getLast? ≠ some urlSafe.pad := by
  have few := pad_size_le matter.code
  have complete := reads.carried.complete
  have short := decode_padded_short urlSafe _ buf reads.decoded
  obtain ⟨aligned, spelled, _⟩ := decode_padded_some urlSafe _ buf reads.decoded
  have counted := congrArg List.length spelled
  rw [List.length_append, List.length_replicate] at aligned short
  rw [List.length_append, List.length_append, length_encode, List.length_replicate, List.length_replicate] at counted
  rw [padded_last _ _ (by omega) aligned] at short
  rw [raw_length_sized matter.code _ _ reads.sized aligned, ne_eq, short, reads.carried.rest, List.length_drop]
  omega

-- An accepted text is the encoding of what it reads as unless its payload is padded.
theorem reads_text_encodes (matter : Matter MatterCode) (payload buf stream : Bytes)
    (reads : ReadsText matter payload buf stream) (last : payload.getLast? ≠ some urlSafe.pad) :
    matter.toQb64b = some (matter.header ++ payload) := by
  have few := pad_size_le matter.code
  have value := carried_value _ payload buf matter.raw (by omega) reads.decoded reads.carried
  obtain ⟨aligned, spelled, _⟩ := decode_padded_some urlSafe _ buf reads.decoded
  have textLength : 4 ∣ matter.code.getSizage.ps + payload.length := by
    rwa [List.length_append, List.length_replicate] at aligned
  have unpadded := (pads_zero_iff urlSafe (List.replicate matter.code.getSizage.ps 0x41 ++ payload)).mpr
    (by rwa [padded_last _ _ (by omega) textLength])
  rw [unpadded, List.replicate_zero, List.append_nil] at spelled
  apply to_qb64b_some matter payload reads.soft
  · rw [value] at spelled
    rw [zero_lead_encode]
    exact spelled.symm
  · have counted := congrArg List.length spelled
    rw [value, length_encode, List.length_append, List.length_append, List.length_replicate, List.length_replicate] at counted
    rcases sized_payload _ _ _ reads.sized with fixed | ⟨variableSize, whole⟩
    · simp only [Matter.fullSize, CesrCode.toMatterCode, fixed, Matter.widen]
    · have size : matter.fullSize = (matter.raw.length + matter.code.getSizage.ls + 2) / 3 * 4 + matter.code.getSizage.cs := by
        rcases variableSize with small | large
        · simp only [Matter.fullSize, CesrCode.toMatterCode, small]
        · simp only [Matter.fullSize, CesrCode.toMatterCode, large]
      rw [whole] at counted textLength
      have third : matter.raw.length % 3 = (3 - matter.code.getSizage.ls % 3) % 3 := by omega
      rw [size]
      simp only [Matter.widen, CesrCode.toMatterCode]
      omega

theorem reads_text_padded (matter : Matter MatterCode) (payload buf stream : Bytes)
    (reads : ReadsText matter payload buf stream) (last : payload.getLast? = some urlSafe.pad) : matter.toQb64b = none := by
  have few := pad_size_le matter.code
  have value := carried_value _ payload buf matter.raw (by omega) reads.decoded reads.carried
  have padded : matter.code.getSizage.ps ≤ matter.code.getSizage.cs := Nat.mod_le _ 4
  obtain ⟨aligned, spelled, pads⟩ := decode_padded_some urlSafe _ buf reads.decoded
  have counted := congrArg List.length spelled
  rw [List.length_append, List.length_append, List.length_replicate, List.length_replicate, length_encode] at counted
  rw [List.length_append, List.length_replicate] at aligned
  have short := (decode_padded_short urlSafe _ buf reads.decoded).mp (by rwa [padded_last _ _ (by omega) aligned])
  rw [List.length_append, List.length_replicate] at short
  have written : (zeroLeadEncode matter.raw (matter.code.getSizage.ls + matter.code.getSizage.ps)).length =
      (4 * buf.length + 2) / 3 := by
    rw [zero_lead_encode, ← value, length_encode]
  have unequal : matter.code.getSizage.cs - matter.code.getSizage.ps + (4 * buf.length + 2) / 3 ≠ matter.fullSize := by
    rcases sized_payload _ _ _ reads.sized with fixed | ⟨variableSize, whole⟩
    · have size : matter.fullSize = matter.code.getSizage.cs + payload.length := by
        simp only [Matter.fullSize, CesrCode.toMatterCode, fixed]
      omega
    · have size : matter.fullSize = (matter.raw.length + matter.code.getSizage.ls + 2) / 3 * 4 + matter.code.getSizage.cs := by
        rcases variableSize with small | large
        · simp only [Matter.fullSize, CesrCode.toMatterCode, small]
        · simp only [Matter.fullSize, CesrCode.toMatterCode, large]
      have length := congrArg List.length value
      rw [List.length_append, List.length_replicate] at length
      omega
  rw [← written] at unequal
  exact if_neg unequal

theorem reads_text_unique (matter : Matter MatterCode) (left leftBuf leftStream right rightBuf rightStream : Bytes)
    (first : ReadsText matter left leftBuf leftStream) (second : ReadsText matter right rightBuf rightStream) : left = right := by
  have few := pad_size_le matter.code
  have leftValue := carried_value _ left leftBuf matter.raw (by omega) first.decoded first.carried
  have rightValue := carried_value _ right rightBuf matter.raw (by omega) second.decoded second.carried
  have same := decode_padded_injective urlSafe _ _ leftBuf first.decoded (by rw [second.decoded, leftValue, rightValue])
  exact List.append_cancel_left same

-- Decoding and then encoding gives the frame back exactly when its payload is
-- not padded; what is accepted has one spelling in any case.
theorem matter_decode_encode_iff (matter : Matter MatterCode) :
    (∀ stream, fromQualifiedBase64 stream = .ok matter →
      ((∃ fs, MatterCode.frameSize stream = .ok fs ∧ matter.raw.length = matter.code.rawLength fs ∧
          matter.toQb64b = some (stream.take fs)) ↔ Unpadded stream)) ∧
      ∀ left right, fromQualifiedBase64 left = .ok matter → fromQualifiedBase64 right = .ok matter →
        ∃ fs, MatterCode.frameSize left = .ok fs ∧ MatterCode.frameSize right = .ok fs ∧ left.take fs = right.take fs := by
  apply And.intro
  · intro stream accepted
    obtain ⟨payload, buf, reads⟩ := (from_qualified_base64_ok stream matter).mp accepted
    obtain ⟨sized, taken, shown⟩ := reads_text_frame matter payload buf stream reads
    have length := reads_text_raw_length matter payload buf stream reads
    apply Iff.intro
    · intro found other read
      obtain ⟨fs, framed, fixed, _⟩ := found
      rw [sized] at framed
      rw [shown] at read
      rw [← Except.ok.inj framed] at fixed
      rw [← Except.ok.inj read]
      exact length.mp fixed
    · intro unpadded
      have last := unpadded payload shown
      exact ⟨_, sized, length.mpr last, by rw [taken]; exact reads_text_encodes matter payload buf stream reads last⟩
  · intro left right first second
    obtain ⟨leftPayload, leftBuf, leftReads⟩ := (from_qualified_base64_ok left matter).mp first
    obtain ⟨rightPayload, rightBuf, rightReads⟩ := (from_qualified_base64_ok right matter).mp second
    have same := reads_text_unique matter leftPayload leftBuf left rightPayload rightBuf right leftReads rightReads
    obtain ⟨leftSized, leftTaken, _⟩ := reads_text_frame matter leftPayload leftBuf left leftReads
    obtain ⟨rightSized, rightTaken, _⟩ := reads_text_frame matter rightPayload rightBuf right rightReads
    rw [← same] at rightSized rightTaken
    exact ⟨_, leftSized, rightSized, by rw [leftTaken, rightTaken]⟩

theorem padded_short_does_not_encode :
    fromQualifiedBase64 (asBytes "MA==") = .ok ⟨.short, [], ""⟩ ∧ MatterCode.frameSize (asBytes "MA==") = .ok 4 ∧
      MatterCode.short.rawLength 4 = 2 ∧ (⟨.short, [], ""⟩ : Matter MatterCode).toQb64b = none := by
  decide

theorem unpadded_short_encodes :
    ∃ fs, MatterCode.frameSize (asBytes "MAAA") = .ok fs ∧ [0, 0].length = MatterCode.short.rawLength fs ∧
      (⟨.short, [0, 0], ""⟩ : Matter MatterCode).toQb64b = some ((asBytes "MAAA").take fs) := by
  refine ((matter_decode_encode_iff ⟨.short, [0, 0], ""⟩).1 (asBytes "MAAA") (by decide)).mpr ?_
  intro payload framed
  have shown : framePayload (asBytes "MAAA") = .ok (asBytes "AAA") := by decide
  rw [shown] at framed
  rw [← Except.ok.inj framed]
  decide

end Cesr
