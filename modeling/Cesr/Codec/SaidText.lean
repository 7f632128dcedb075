import Cesr.Codec.SadScan
import Cesr.Core.MatterBuilt

set_option autoImplicit false

namespace Cesr.Codec

open Checks Calls WriterJson Scanner Slots Sextets Base64

section Digest

variable (library : KeyLibrary)

def digestLength : DigestCode → Nat
  | .blake3_512 | .blake2b_512 | .sha3_512 | .sha2_512 => 64
  | _ => 32

def saidWidth : DigestCode → Nat
  | .blake3_512 | .blake2b_512 | .sha3_512 | .sha2_512 => 88
  | _ => 44

-- What the hash functions promise: every digest has the length of its algorithm.
def FixedLength : Prop := ∀ code data, (library.hash code data).length = digestLength code

def digestOf (code : DigestCode) (data : Bytes) : Matter DigestCode := ⟨code, library.hash code data, ""⟩

def saidOf (code : DigestCode) (data : Bytes) : Option Bytes :=
  (Diger.digest library code data).toOption.bind fun said => said.toQb64.map asBytes

def saidBytes (code : DigestCode) (data : Bytes) : Bytes := (saidOf library code data).getD []

theorem digest_sizage (code : DigestCode) :
    code.toMatterCode.getSizage.fs = .fixed (saidWidth code) ∧ code.toMatterCode.getSizage.ss = 0 ∧
      code.toMatterCode.rawSize = .ok (digestLength code) := by
  cases code with
  | _ => exact ⟨rfl, rfl, rfl⟩

theorem placeholder_ok (code : DigestCode) : placeholder code = .ok (List.replicate (saidWidth code) dummyByte) := by
  unfold placeholder
  rw [(digest_sizage code).1]

theorem digest_ok (fixed : FixedLength library) (code : DigestCode) (data : Bytes) :
    Diger.digest library code data = .ok (digestOf library code data) := by
  obtain ⟨shape, plain, raw⟩ := digest_sizage code
  have length := fixed code data
  have positive : 0 < digestLength code := by
    cases code with
    | _ => decide
  have filled : library.hash code data ≠ [] := by
    intro empty
    rw [empty, List.length_nil] at length
    omega
  have whole : (library.hash code data).take (digestLength code) = library.hash code data := List.take_of_length_le (by omega)
  have code' : CesrCode.toMatterCode code = code.toMatterCode := rfl
  simp only [Diger.digest, buildRaw, withRaw, code', shape, plain, raw, bind_ok, parsed, validated, map_error_ok, reject_if_ok,
    exists_done, pure_ok, validateAndTrimRaw, Except.ok.injEq]
  exact ⟨_, ⟨fun both => filled both.1, rfl⟩, by omega, _, rfl, _, ⟨by omega, whole⟩, rfl⟩

theorem url_safe_plain (sextet : Sextet) : Plain (urlSafe.char sextet) := by
  revert sextet
  decide

theorem digest_text (fixed : FixedLength library) (code : DigestCode) (data : Bytes) :
    ∃ (text : Bytes) (sextets : List Sextet), (digestOf library code data).toQb64b = some text ∧ text = sextets.map urlSafe.char ∧
      fromQualifiedBase64 text = .ok (digestOf library code data).widen ∧ MatterCode.frameSize text = .ok text.length := by
  obtain ⟨count, built⟩ := build_raw_built code _ _ (digest_ok library fixed code data)
  obtain ⟨text, sextets, encoded, _, spelled, reads⟩ := built_text _ count built
  rw [widen_to_qb64b] at encoded
  have read := reads []
  rw [List.append_nil] at read
  exact ⟨text, sextets, encoded, spelled, read⟩

theorem said_text (fixed : FixedLength library) (code : DigestCode) (data : Bytes) :
    ∃ text, saidText (digestOf library code data) = .ok text ∧ saidOf library code data = some (asBytes text) ∧
      (asBytes text).length = saidWidth code ∧ ∀ byte ∈ asBytes text, Plain byte := by
  have made := digest_ok library fixed code data
  obtain ⟨text, sextets, encoded, spelled, read', framed⟩ := digest_text library fixed code data
  have ascii : asBytes (asciiText text) = text := by
    apply as_bytes_ascii_text
    rw [spelled]
    intro char inside
    obtain ⟨sextet, _, same⟩ := List.mem_map.mp inside
    rw [← same]
    exact url_safe_ascii sextet
  have read : (digestOf library code data).toQb64 = some (asciiText text) := by
    rw [Matter.toQb64, encoded, Option.bind_some]
    exact (from_utf8_some text (asciiText text)).mpr ascii
  have width : text.length = saidWidth code := by
    obtain ⟨payload, buf, found⟩ := (from_qualified_base64_ok _ _).mp read'
    have shape : (digestOf library code data).widen.code.getSizage.fs = .fixed (saidWidth code) := (digest_sizage code).1
    have sized := found.sized
    rw [(reads_text_frame _ _ _ _ found).1, Except.ok.injEq] at framed
    rw [MatterCode.sizeFromSoft, shape, Except.ok.injEq] at sized
    exact framed.symm.trans sized.symm
  refine ⟨asciiText text, ?_, ?_, by rw [ascii, width], ?_⟩
  · rw [saidText, read]
  · simp only [saidOf, made, Except.toOption, Option.bind_some, read, Option.map_some]
  · rw [ascii, spelled]
    intro byte inside
    obtain ⟨sextet, _, same⟩ := List.mem_map.mp inside
    rw [← same]
    exact url_safe_plain sextet

end Digest

section Version

def AsciiPlain (byte : UInt8) : Prop := Plain byte ∧ byte.toNat < 128

instance asciiPlainDecidable (byte : UInt8) : Decidable (AsciiPlain byte) := inferInstanceAs (Decidable (_ ∧ _))

theorem hex_digit_plain (byte : UInt8) (value : Nat) (read : decodeHexDigit byte = some value) : AsciiPlain byte := by
  have all : ∀ byte : UInt8, (decodeHexDigit byte).isSome = true → AsciiPlain byte := every_byte _ (by decide +kernel)
  exact all byte (by rw [read]; rfl)

theorem hex_digit_read (value : UInt8) (small : value < 16) : decodeHexDigit (hexDigit value) = some value.toNat := by
  have all : ∀ value : UInt8, value < 16 → decodeHexDigit (hexDigit value) = some value.toNat := every_byte _ (by decide +kernel)
  exact all value small

theorem hex_size_digits (bytes : Bytes) (whole : Bytes) (start size : Nat)
    (read : bytes.foldlM (fun size byte =>
      match decodeHexDigit byte with
      | some digit => (.ok (size * 16 + digit) : Except VersionError Nat)
      | none => .error (.invalidSizeHex whole)) start = .ok size) : ∀ byte ∈ bytes, AsciiPlain byte := by
  induction bytes generalizing start with
  | nil => exact fun _ inside => absurd inside List.not_mem_nil
  | cons byte rest ih =>
      rw [List.foldlM_cons, bind_ok] at read
      obtain ⟨middle, first, later⟩ := read
      cases digit : decodeHexDigit byte with
      | none =>
          rw [digit] at first
          cases first
      | some value => exact List.forall_mem_cons.mpr ⟨hex_digit_plain byte value digit, ih middle later⟩

theorem parse_parts (front size last : Bytes) (long : front.length = 10) (six : size.length = 6) (one : last.length = 1)
    (version : VersionString) :
    VersionString.parse (front ++ size ++ last) = .ok version ↔
      Protocol.fromWire (front.take 4) = .ok version.proto ∧ decodeVersionDigit "major" (front.getD 4 0) = .ok version.major ∧
        decodeVersionDigit "minor" (front.getD 5 0) = .ok version.minor ∧ SerializationKind.fromWire (front.drop 6) = .ok version.kind ∧
        decodeHexSize size = .ok version.size ∧ last = [0x5F] := by
  have whole : (front ++ size ++ last).length = 17 := by
    rw [List.length_append, List.length_append, long, six, one]
  have field1 : frameField (front ++ size ++ last) 0 4 = front.take 4 := by
    rw [frameField, List.drop_zero, List.append_assoc, List.take_append_of_le_length (by omega)]
  have field2 : frameField (front ++ size ++ last) 6 4 = front.drop 6 := by
    rw [frameField, List.append_assoc, List.drop_append_of_le_length (by omega), List.take_left' (by rw [List.length_drop, long])]
  have field3 : frameField (front ++ size ++ last) 10 6 = size := by
    rw [frameField, List.append_assoc, ← long, List.drop_left, List.take_left' six]
  have digit : ∀ place, place < 10 → (front ++ size ++ last).getD place 0 = front.getD place 0 := by
    intro place low
    rw [List.append_assoc, List.getD_append _ _ _ _ (by omega)]
  have final : (front ++ size ++ last).getD 16 0 = last.getD 0 0 := by
    rw [List.getD_append_right _ _ _ _ (by rw [List.length_append, long, six]), List.length_append, long, six]
  have single : last = [0x5F] ↔ last.getD 0 0 = 0x5F := by
    obtain ⟨byte, same⟩ := List.length_eq_one_iff.mp one
    rw [same]
    simp
  have short : ¬(front ++ size ++ last).length < versionStringLen := by
    rw [whole]
    decide
  have taken : (front ++ size ++ last).take versionStringLen = front ++ size ++ last := List.take_of_length_le (by rw [whole]; decide)
  simp only [VersionString.parse, splitFrame, VersionString.parseFrame, bind_ok, reject_if_ok, exists_done, pure_ok, short,
    not_false_eq_true, true_and, taken, exists_eq_left', field1, field2, field3, digit 4 (by decide), digit 5 (by decide), final,
    not_not, single]
  apply Iff.intro
  · intro found
    obtain ⟨proto, first, major, second, minor, third, kind, fourth, count, fifth, ends, same⟩ := found
    rw [← same]
    exact ⟨first, second, third, fourth, fifth, ends⟩
  · intro parts
    obtain ⟨first, second, third, fourth, fifth, ends⟩ := parts
    exact ⟨_, first, _, second, _, third, _, fourth, _, fifth, ends, rfl⟩

theorem version_parts (text : Bytes) (version : VersionString) (shape : VersionText text version) :
    ∃ front size last, text = front ++ size ++ last ∧ front.length = 10 ∧ size.length = 6 ∧ last.length = 1 := by
  have long := shape.2.1
  have count : versionStringLen = 17 := rfl
  refine ⟨text.take 10, (text.drop 10).take 6, text.drop 16, ?_, ?_, ?_, ?_⟩
  · rw [List.append_assoc, show text.drop 16 = (text.drop 10).drop 6 by rw [List.drop_drop], List.take_append_drop,
      List.take_append_drop]
  · rw [List.length_take]
    omega
  · rw [List.length_take, List.length_drop]
    omega
  · rw [List.length_drop]
    omega

theorem wire_plain (text : Bytes) (lit : String) (same : text = asBytes lit)
    (plain : ((asBytes lit).all fun byte => decide (AsciiPlain byte)) = true) : ∀ byte ∈ text, AsciiPlain byte := by
  rw [same]
  exact fun byte inside => of_decide_eq_true (List.all_eq_true.mp plain byte inside)

theorem proto_plain (wire : Bytes) (proto : Protocol) (read : Protocol.fromWire wire = .ok proto) : ∀ byte ∈ wire, AsciiPlain byte := by
  unfold Protocol.fromWire at read
  by_cases keri : wire = asBytes "KERI"
  · exact wire_plain wire "KERI" keri (by decide +kernel)
  · rw [if_neg keri] at read
    by_cases acdc : wire = asBytes "ACDC"
    · exact wire_plain wire "ACDC" acdc (by decide +kernel)
    · rw [if_neg acdc] at read
      cases read

theorem kind_plain (wire : Bytes) (kind : SerializationKind) (read : SerializationKind.fromWire wire = .ok kind)
    (json : kind = .json) : wire = asBytes "JSON" := by
  unfold SerializationKind.fromWire at read
  by_cases found : wire = asBytes "JSON"
  · exact found
  · rw [if_neg found] at read
    split at read
    · rw [← Except.ok.inj read] at json
      cases json
    · split at read
      · rw [← Except.ok.inj read] at json
        cases json
      · split at read
        · rw [← Except.ok.inj read] at json
          cases json
        · cases read

theorem version_digit_plain (field : String) (byte : UInt8) (digit : Nat) (read : decodeVersionDigit field byte = .ok digit) :
    AsciiPlain byte := by
  unfold decodeVersionDigit at read
  cases found : decodeHexDigit byte with
  | none =>
      rw [found] at read
      cases read
  | some value => exact hex_digit_plain byte value found

theorem version_ascii (text : Bytes) (version : VersionString) (shape : VersionText text version) : ∀ byte ∈ text, AsciiPlain byte := by
  obtain ⟨front, size, last, split, long, six, one⟩ := version_parts text version shape
  have parsed := shape.1
  rw [split, parse_parts front size last long six one] at parsed
  obtain ⟨proto, major, minor, kind, digits, ends⟩ := parsed
  have known := kind_plain _ _ kind shape.2.2
  have whole : front = front.take 4 ++ front.getD 4 0 :: front.getD 5 0 :: front.drop 6 := by
    rw [List.getD_eq_getElem _ _ (show 4 < front.length by omega), List.getD_eq_getElem _ _ (show 5 < front.length by omega),
      List.getElem_cons_drop, List.getElem_cons_drop, List.take_append_drop]
  rw [split, ends, whole]
  intro byte inside
  simp only [List.mem_append] at inside
  rcases inside with (inside | inside) | inside
  · rcases inside with early | late
    · exact proto_plain _ _ proto byte early
    · revert byte
      exact List.forall_mem_cons.mpr ⟨version_digit_plain _ _ _ major, List.forall_mem_cons.mpr ⟨version_digit_plain _ _ _ minor,
        wire_plain _ "JSON" known (by decide +kernel)⟩⟩
  · exact hex_size_digits size size 0 _ digits byte inside
  · rw [List.mem_singleton.mp inside]
    decide

theorem version_plain (text : Bytes) (version : VersionString) (shape : VersionText text version) : ∀ byte ∈ text, Plain byte :=
  fun byte inside => (version_ascii text version shape byte inside).1

theorem hex_size_read (size : Nat) (small : size ≤ versionSizeMax) : decodeHexSize (hexSize size) = .ok size := by
  have digit : ∀ place, decodeHexDigit (hexDigit (UInt8.ofNat (size / 16 ^ place % 16))) = some (size / 16 ^ place % 16) := by
    intro place
    have low : size / 16 ^ place % 16 < 16 := Nat.mod_lt _ (by decide)
    have byte : (UInt8.ofNat (size / 16 ^ place % 16)).toNat = size / 16 ^ place % 16 :=
      UInt8.toNat_ofNat_of_lt' (Nat.lt_trans low (by decide))
    rw [hex_digit_read _ (by rw [UInt8.lt_iff_toNat_lt, byte]; exact low), byte]
  unfold versionSizeMax at small
  simp only [decodeHexSize, hexSize, List.map_cons, List.map_nil, List.foldlM_cons, List.foldlM_nil, digit, ok_bind, pure_ok]
  norm_num
  omega

theorem hex_size_length (size : Nat) : (hexSize size).length = 6 := rfl

theorem version_sized (text : Bytes) (version : VersionString) (size : Nat) (shape : VersionText text version)
    (small : size ≤ versionSizeMax) : VersionText (text.take 10 ++ hexSize size ++ text.drop 16) { version with size := size } := by
  obtain ⟨front, old, last, split, long, six, one⟩ := version_parts text version shape
  have parsed := shape.1
  rw [split, parse_parts front old last long six one] at parsed
  obtain ⟨proto, major, minor, kind, digits, ends⟩ := parsed
  have first : text.take 10 = front := by rw [split, List.append_assoc, ← long, List.take_left]
  have final : text.drop 16 = last := by rw [split, List.drop_left' (by rw [List.length_append, long, six])]
  rw [first, final]
  refine ⟨?_, ?_, shape.2.2⟩
  · rw [parse_parts front _ last long (hex_size_length size) one]
    exact ⟨proto, major, minor, kind, hex_size_read size small, ends⟩
  · rw [List.length_append, List.length_append, long, hex_size_length, one]
    rfl

end Version

end Cesr.Codec
