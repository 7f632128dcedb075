import Cesr.Stream.GroupParse

set_option autoImplicit false

namespace Cesr.Stream

open Sextets Base64 Checks Calls Resume

def checkCounterCapacity (ss : Nat) (count : U32) : Except ParseError Nat := do
  rejectIf (ss = 0 ∨ 2 ^ 64 ≤ 64 ^ ss) (.overflow .counterSoftSize)
  rejectIf (64 ^ ss - 1 < count.val) (.countExceedsCapacity count.val (64 ^ ss - 1))
  pure ss

def encodeSoftInto (count : U32) (ss : Nat) (out : Bytes) : Bytes :=
  out ++ (List.range ss).reverse.map fun pos =>
    b64Alphabet.getD (if 32 ≤ 6 * pos then 0 else (count.val >>> (6 * pos)) &&& 0x3F) 0

def encodeCodeInto (hard : String) (softSize : Nat) (count : U32) : Mutator Bytes ParseError Unit := do
  let ss ← check (checkCounterCapacity softSize count)
  modify fun dst => dst ++ asBytes hard
  modify fun dst => encodeSoftInto count ss dst

def encodeCountIntoV1 (code : CounterCodeV1) (count : U32) : Mutator Bytes ParseError Unit :=
  encodeCodeInto code.asStr code.softSize count

def encodeCountIntoV2 (code : CounterCodeV2) (count : U32) : Mutator Bytes ParseError Unit :=
  encodeCodeInto code.asStr code.softSize count

def GroupKind.codeV1 : GroupKind → Option CounterCodeV1
  | .controllerIdxSig => some .controllerIdxSigs
  | .witnessIdxSig => some .witnessIdxSigs
  | .nonTransReceiptCouple => some .nonTransReceiptCouples
  | .transReceiptQuadruple => some .transReceiptQuadruples
  | .firstSeenReplayCouple => some .firstSeenReplayCouples
  | .transIdxSigGroup => some .transIdxSigGroups
  | .sealSourceCouple => some .sealSourceCouples
  | .transLastIdxSigGroup => some .transLastIdxSigGroups
  | .sealSourceTriple => some .sealSourceTriples
  | _ => none

def GroupKind.codeV2 : GroupKind → CounterCodeV2
  | .controllerIdxSig => .controllerIdxSigs
  | .witnessIdxSig => .witnessIdxSigs
  | .nonTransReceiptCouple => .nonTransReceiptCouples
  | .transReceiptQuadruple => .transReceiptQuadruples
  | .firstSeenReplayCouple => .firstSeenReplayCouples
  | .transIdxSigGroup => .transIdxSigGroups
  | .sealSourceCouple => .sealSourceCouples
  | .transLastIdxSigGroup => .transLastIdxSigGroups
  | .sealSourceTriple => .sealSourceTriples
  | .digestSealSingle => .digestSealSingles
  | .merkleRootSealSingle => .merkleRootSealSingles
  | .sealSourceLastSingle => .sealSourceLastSingles
  | .backerRegistrarSealCouple => .backerRegistrarSealCouples
  | .typedDigestSealCouple => .typedDigestSealCouples
  | .blindedStateQuadruple => .blindedStateQuadruples
  | .boundStateSextuple => .boundStateSextuples
  | .typedMediaQuadruple => .typedMediaQuadruples

def FrameKind.codeV1 : FrameKind → Option CounterCodeV1
  | .pathedMaterial => some .pathedMaterialCouples
  | .attachment => some .attachmentGroup
  | .generic => some .genericGroup
  | .bodyWithAttachment => some .bodyWithAttachmentGroup
  | .nonNativeBody => some .nonNativeBodyGroup
  | .essrPayload => some .essrPayloadGroup
  | _ => none

def FrameKind.codeV2 : FrameKind → CounterCodeV2
  | .pathedMaterial => .pathedMaterialCouples
  | .attachment => .attachmentGroup
  | .generic => .genericGroup
  | .bodyWithAttachment => .bodyWithAttachmentGroup
  | .nonNativeBody => .nonNativeBodyGroup
  | .essrPayload => .essrPayloadGroup
  | .datagramSegment => .datagramSegmentGroup
  | .essrWrapper => .essrWrapperGroup
  | .fixBody => .fixBodyGroup
  | .mapBody => .mapBodyGroup
  | .genericMap => .genericMapGroup
  | .genericList => .genericListGroup

def frameQuadletCount (payload : Bytes) : Except ParseError U32 := do
  rejectIf (¬4 ∣ payload.length) (.misaligned payload.length 4)
  rejectIf (2 ^ 32 ≤ payload.length / 4) (.overflow .quadletCount)
  pure (Fin.ofNat (2 ^ 32) (payload.length / 4))

def v2OnlyGroup : ParseError := .versionMismatch "V2-only group type" .v1

def CesrGroup.encodeCesrV1 : CesrGroup → Mutator Bytes ParseError Unit
  | .group kind raw count _ =>
      match kind.codeV1 with
      | none => throw v2OnlyGroup
      | some code => do
          encodeCountIntoV1 code count
          modify fun dst => dst ++ raw
  | .frame kind payload _ =>
      match kind.codeV1 with
      | none => throw v2OnlyGroup
      | some code => do
          let count ← check (frameQuadletCount payload)
          encodeCountIntoV1 code count
          modify fun dst => dst ++ payload

def CesrGroup.encodeCesrV2 : CesrGroup → Mutator Bytes ParseError Unit
  | .group kind raw count _ => do
      encodeCountIntoV2 kind.codeV2 count
      modify fun dst => dst ++ raw
  | .frame kind payload _ => do
      let count ← check (frameQuadletCount payload)
      encodeCountIntoV2 kind.codeV2 count
      modify fun dst => dst ++ payload

def CesrGroup.encodeCesr : CesrVersion → CesrGroup → Mutator Bytes ParseError Unit
  | .v1 => CesrGroup.encodeCesrV1
  | .v2 => CesrGroup.encodeCesrV2

section Counters

theorem encode_soft_digits (count : U32) (ss : Nat) (out : Bytes) :
    encodeSoftInto count ss out = out ++ (digits ss count.val).map urlSafe.char := by
  unfold encodeSoftInto digits
  rw [List.map_map]
  congr 1
  apply List.ext_getElem
  · simp
  · intro position left right
    simp only [List.length_map, List.length_reverse, List.length_range] at left
    simp only [List.getElem_map, List.getElem_reverse, List.getElem_range, List.length_range, Function.comp]
    have small := count.isLt
    show b64Alphabet.getD _ 0 = b64Alphabet.getD (count.val / 64 ^ (ss - position - 1) % 64) 0
    have place : ss - 1 - position = ss - position - 1 := by omega
    have power : 64 ^ (ss - position - 1) = 2 ^ (6 * (ss - position - 1)) := by rw [Nat.pow_mul]
    rw [place, power]
    by_cases wide : 32 ≤ 6 * (ss - position - 1)
    · have tall : count.val < 2 ^ (6 * (ss - position - 1)) := Nat.lt_of_lt_of_le small (Nat.pow_le_pow_right (by decide) wide)
      rw [if_pos wide, Nat.div_eq_of_lt tall]
    · rw [if_neg wide, Nat.shiftRight_eq_div_pow]
      congr 1
      exact Nat.and_two_pow_sub_one_eq_mod _ 6

theorem check_counter_capacity_ok (ss : Nat) (count : U32) (size : Nat) :
    checkCounterCapacity ss count = .ok size ↔ size = ss ∧ 0 < ss ∧ 64 ^ ss < 2 ^ 64 ∧ count.val < 64 ^ ss := by
  have positive : 0 < 64 ^ ss := Nat.pow_pos (by decide)
  simp only [checkCounterCapacity, bind_ok, reject_if_ok, exists_done, pure_ok, not_or, Nat.not_le, Nat.not_lt]
  apply Iff.intro
  · intro found
    obtain ⟨⟨some', small⟩, fits, same⟩ := found
    exact ⟨same.symm, Nat.pos_of_ne_zero some', small, by omega⟩
  · intro found
    obtain ⟨same, some', small, fits⟩ := found
    exact ⟨⟨Nat.ne_of_gt some', small⟩, by omega, same.symm⟩

theorem encode_code_ok (hard : String) (softSize : Nat) (count : U32) (dst final : Bytes) :
    exec (encodeCodeInto hard softSize count) dst = (.ok (), final) ↔
      0 < softSize ∧ 64 ^ softSize < 2 ^ 64 ∧ count.val < 64 ^ softSize ∧
        final = dst ++ (asBytes hard ++ (digits softSize count.val).map urlSafe.char) := by
  simp only [encodeCodeInto, exec_check_bind_ok, exec_modify_bind, exec_modify, encode_soft_digits, List.append_assoc,
    check_counter_capacity_ok, Prod.mk.injEq, true_and]
  apply Iff.intro
  · intro found
    obtain ⟨ss, ⟨same, some', small, fits⟩, written⟩ := found
    rw [same] at written
    exact ⟨some', small, fits, written.symm⟩
  · intro found
    obtain ⟨some', small, fits, written⟩ := found
    exact ⟨softSize, ⟨rfl, some', small, fits⟩, written.symm⟩

theorem encode_code_error (hard : String) (softSize : Nat) (count : U32) (dst final : Bytes) (error : ParseError)
    (failed : exec (encodeCodeInto hard softSize count) dst = (.error error, final)) : final = dst := by
  rw [encodeCodeInto, exec_bind, exec_check] at failed
  cases capacity : checkCounterCapacity softSize count with
  | error given =>
      rw [capacity] at failed
      exact (Prod.mk.inj failed).2.symm
  | ok ss =>
      rw [capacity] at failed
      cases failed

end Counters

section Forwarding

def HeadsAs (version : CesrVersion) (shape : GroupShape) (hard : String) (soft : Nat) : Prop :=
  ∀ (count : U32) (payload : Bytes), count.val < 64 ^ soft →
    readShape version (asBytes hard ++ (digits soft count.val).map urlSafe.char ++ payload) =
      .ok (shape, (asBytes hard ++ (digits soft count.val).map urlSafe.char).length, count)

theorem heads_as_v1 (code : CounterCodeV1) : HeadsAs .v1 (shapeV1 code) code.asStr code.softSize := by
  intro count payload fits
  have read := (read_counter_ok counter_table_v1 _ code count).mpr ⟨payload, rfl, fits⟩
  have length : (asBytes code.asStr ++ (digits code.softSize count.val).map urlSafe.char).length = code.fullSize := by
    rw [List.length_append, List.length_map, length_digits, counter_table_v1.length, counter_table_v1.filled]
  rw [length, readShape]
  exact (bind_ok _ _ _).mpr ⟨(code, count), read, rfl⟩

theorem heads_as_v2 (code : CounterCodeV2) : HeadsAs .v2 (shapeV2 code) code.asStr code.softSize := by
  intro count payload fits
  have read := (read_counter_ok counter_table_v2 _ code count).mpr ⟨payload, rfl, fits⟩
  have length : (asBytes code.asStr ++ (digits code.softSize count.val).map urlSafe.char).length = code.fullSize := by
    rw [List.length_append, List.length_map, length_digits, counter_table_v2.length, counter_table_v2.filled]
  rw [length, readShape]
  exact (bind_ok _ _ _).mpr ⟨(code, count), read, rfl⟩

theorem sized_of_headed (version : CesrVersion) (shape : GroupShape) (hard : String) (soft : Nat) (count : U32)
    (head payload : Bytes) (headed : HeadsAs version shape hard soft) (fits : count.val < 64 ^ soft)
    (written : head = asBytes hard ++ (digits soft count.val).map urlSafe.char) :
    CesrGroup.sizedOf version (head ++ payload) =
      payloadSized version (shape, head.length, count) payload >>= fun sized => pure (sized.1, head.length + sized.2) := by
  rw [CesrGroup.sizedOf, written, headed count payload fits, ok_bind, List.drop_left, ← written]

def KnownShape : CesrVersion → GroupShape → Prop
  | .v1, shape => ∃ code, shapeV1 code = shape
  | .v2, shape => ∃ code, shapeV2 code = shape

inductive ParsedGroup (version : CesrVersion) : CesrGroup → Prop where
  | group (kind : GroupKind) (raw : Bytes) (count : U32) (known : KnownShape version (.elements kind))
      (skipped : kind.skipAll version count.val raw = .ok raw.length) : ParsedGroup version (.group kind raw count version)
  | frame (kind : FrameKind) (payload : Bytes) (count : U32) (known : KnownShape version (.quadlets kind))
      (sized : payload.length = count.val * 4) : ParsedGroup version (.frame kind payload version)

theorem read_shape_known (version : CesrVersion) (buf : Bytes) (head : GroupShape × Nat × U32)
    (read : readShape version buf = .ok head) : KnownShape version head.1 := by
  cases version with
  | v1 =>
      simp only [readShape, bind_ok, pure_ok] at read
      obtain ⟨code, _, same⟩ := read
      exact ⟨code.1, by rw [← same]⟩
  | v2 =>
      simp only [readShape, bind_ok, pure_ok] at read
      obtain ⟨code, _, same⟩ := read
      exact ⟨code.1, by rw [← same]⟩

theorem sized_of_parsed (version : CesrVersion) (buf : Bytes) (group : CesrGroup) (size : Nat)
    (read : CesrGroup.sizedOf version buf = .ok (group, size)) : ParsedGroup version group := by
  simp only [CesrGroup.sizedOf, bind_ok, pure_ok, Prod.mk.injEq] at read
  obtain ⟨head, shaped, sized, framed, same, _⟩ := read
  have known := read_shape_known version buf head shaped
  rw [← same]
  unfold payloadSized at framed
  cases shape : head.1 with
  | elements kind =>
      simp only [shape, bind_ok, pure_ok] at framed
      obtain ⟨offset, skipped, same'⟩ := framed
      have reads := skip_all_reads kind version head.2.2.val
      have reach : offset ≤ (buf.drop head.2.1).length := reads.within _ offset skipped
      rw [← same']
      refine .group kind _ head.2.2 (by rw [← shape]; exact known) ?_
      rw [List.length_take, Nat.min_eq_left reach]
      exact reads.exact _ offset skipped
  | quadlets kind =>
      simp only [shape, bind_ok, pure_ok, take_bytes_ok] at framed
      obtain ⟨offset, ⟨reach, whole⟩, same'⟩ := framed
      rw [← same']
      refine .frame kind _ head.2.2 (by rw [← shape]; exact known) ?_
      rw [List.length_take, whole]
      exact Nat.min_eq_left reach
  | genusVersion =>
      simp only [shape] at framed
      cases framed

theorem elements_code (version : CesrVersion) (kind : GroupKind) (known : KnownShape version (.elements kind)) :
    ∃ hard, HeadsAs version (.elements kind) hard 2 ∧ ∀ raw count given,
      (CesrGroup.group kind raw count given).encodeCesr version =
        (encodeCodeInto hard 2 count >>= fun _ => modify fun dst => dst ++ raw) := by
  cases version with
  | v1 =>
      have small : ∀ code, kind.codeV1 = some code → shapeV1 code = .elements kind ∧ code.softSize = 2 := by
        cases kind <;> intro code same <;> cases same <;> decide
      have listed : kind.codeV1 ≠ none := by
        obtain ⟨code, shape⟩ := known
        cases code <;> cases shape <;> decide
      cases coded : kind.codeV1 with
      | none => exact absurd coded listed
      | some code =>
          obtain ⟨shape, soft⟩ := small code coded
          refine ⟨code.asStr, ?_, ?_⟩
          · rw [← shape, ← soft]
            exact heads_as_v1 code
          · intro raw count given
            rw [CesrGroup.encodeCesr, CesrGroup.encodeCesrV1, coded]
            simp only [encodeCountIntoV1, soft]
  | v2 =>
      have small : shapeV2 kind.codeV2 = .elements kind ∧ kind.codeV2.softSize = 2 := by cases kind <;> decide
      refine ⟨kind.codeV2.asStr, ?_, ?_⟩
      · rw [← small.1, ← small.2]
        exact heads_as_v2 kind.codeV2
      · intro raw count given
        rw [CesrGroup.encodeCesr, CesrGroup.encodeCesrV2, encodeCountIntoV2, small.2]

theorem quadlets_code (version : CesrVersion) (kind : FrameKind) (known : KnownShape version (.quadlets kind)) :
    ∃ hard, HeadsAs version (.quadlets kind) hard 2 ∧ ∀ payload given,
      (CesrGroup.frame kind payload given).encodeCesr version =
        (check (frameQuadletCount payload) >>= fun count =>
          encodeCodeInto hard 2 count >>= fun _ => modify fun dst => dst ++ payload) := by
  cases version with
  | v1 =>
      have small : ∀ code, kind.codeV1 = some code → shapeV1 code = .quadlets kind ∧ code.softSize = 2 := by
        cases kind <;> intro code same <;> cases same <;> decide
      have listed : kind.codeV1 ≠ none := by
        obtain ⟨code, shape⟩ := known
        cases code <;> cases shape <;> decide
      cases coded : kind.codeV1 with
      | none => exact absurd coded listed
      | some code =>
          obtain ⟨shape, soft⟩ := small code coded
          refine ⟨code.asStr, ?_, ?_⟩
          · rw [← shape, ← soft]
            exact heads_as_v1 code
          · intro payload given
            rw [CesrGroup.encodeCesr, CesrGroup.encodeCesrV1, coded]
            simp only [encodeCountIntoV1, soft]
  | v2 =>
      have small : shapeV2 kind.codeV2 = .quadlets kind ∧ kind.codeV2.softSize = 2 := by cases kind <;> decide
      refine ⟨kind.codeV2.asStr, ?_, ?_⟩
      · rw [← small.1, ← small.2]
        exact heads_as_v2 kind.codeV2
      · intro payload given
        rw [CesrGroup.encodeCesr, CesrGroup.encodeCesrV2]
        simp only [encodeCountIntoV2, small.2]

-- What the counter of a group declares: its elements, or its quadlets.
def CesrGroup.tally : CesrGroup → Nat
  | .group _ _ count _ => count.val
  | .frame _ payload _ => payload.length / 4

theorem written_ok (hard : String) (count : U32) (payload dst final : Bytes) :
    exec (encodeCodeInto hard 2 count >>= fun _ => modify fun dst => dst ++ payload) dst = (.ok (), final) ↔
      count.val < 64 ^ 2 ∧ final = dst ++ (asBytes hard ++ (digits 2 count.val).map urlSafe.char ++ payload) := by
  rw [exec_bind_ok]
  apply Iff.intro
  · intro found
    obtain ⟨_, middle, coded, added⟩ := found
    obtain ⟨_, _, fits, written⟩ := (encode_code_ok hard 2 count dst middle).mp coded
    cases added
    rw [written]
    exact ⟨fits, List.append_assoc dst _ payload⟩
  · intro found
    obtain ⟨fits, written⟩ := found
    refine ⟨(), _, (encode_code_ok hard 2 count dst _).mpr ⟨by decide, by decide, fits, rfl⟩, ?_⟩
    rw [written, exec_modify, List.append_assoc]

theorem written_error (hard : String) (count : U32) (payload dst final : Bytes) (error : ParseError)
    (failed : exec (encodeCodeInto hard 2 count >>= fun _ => modify fun dst => dst ++ payload) dst = (.error error, final)) :
    final = dst := by
  rw [exec_bind] at failed
  cases coded : exec (encodeCodeInto hard 2 count) dst with
  | mk answer middle =>
      rw [coded] at failed
      cases answer with
      | ok done => cases failed
      | error given =>
          cases failed
          exact encode_code_error hard 2 count dst final error coded

theorem frame_quadlet_count_ok (payload : Bytes) (count : U32) (sized : payload.length = count.val * 4) :
    frameQuadletCount payload = .ok count := by
  have small := count.isLt
  have quadlets : payload.length / 4 = count.val := by omega
  simp only [frameQuadletCount, bind_ok, reject_if_ok, exists_done, pure_ok, quadlets]
  refine ⟨not_not.mpr (Dvd.intro_left count.val sized.symm), Nat.not_le_of_lt small, ?_⟩
  exact Fin.ext (Nat.mod_eq_of_lt small)

theorem parsed_encodes (version : CesrVersion) (group : CesrGroup) (parsed : ParsedGroup version group) :
    ∃ hard count payload, group.tally = count.val ∧
      (∀ dst, exec (group.encodeCesr version) dst =
        exec (encodeCodeInto hard 2 count >>= fun _ => modify fun dst => dst ++ payload) dst) ∧
      (count.val < 64 ^ 2 →
        CesrGroup.parseOf version (asBytes hard ++ (digits 2 count.val).map urlSafe.char ++ payload) = .ok (group, [])) := by
  cases parsed with
  | group kind raw count known skipped =>
      obtain ⟨hard, headed, encodes⟩ := elements_code version kind known
      refine ⟨hard, count, raw, rfl, fun dst => by rw [encodes], fun fits => ?_⟩
      have sized : ∀ start, payloadSized version (.elements kind, start, count) raw =
          .ok (CesrGroup.group kind raw count version, raw.length) := by
        intro start
        simp only [payloadSized, bind_ok, pure_ok]
        exact ⟨raw.length, skipped, by rw [List.take_length]⟩
      have read := sized_of_headed version _ hard 2 count _ raw headed fits rfl
      rw [sized] at read
      refine (parse_of_ok version _ _ _).mpr ⟨_, read, ?_⟩
      rw [← List.length_append, List.drop_length]
  | frame kind payload count known sized =>
      obtain ⟨hard, headed, encodes⟩ := quadlets_code version kind known
      refine ⟨hard, count, payload, ?_, fun dst => ?_, fun fits => ?_⟩
      · show payload.length / 4 = count.val
        omega
      · rw [encodes, exec_bind, exec_check, frame_quadlet_count_ok payload count sized]
      · have sized' : ∀ start, payloadSized version (.quadlets kind, start, count) payload =
            .ok (CesrGroup.frame kind payload version, payload.length) := by
          intro start
          simp only [payloadSized, bind_ok, pure_ok, take_bytes_ok]
          exact ⟨payload.length, ⟨Nat.le_of_eq sized.symm, sized⟩, by rw [List.take_length]⟩
        have read := sized_of_headed version _ hard 2 count _ payload headed fits rfl
        rw [sized'] at read
        refine (parse_of_ok version _ _ _).mpr ⟨_, read, ?_⟩
        rw [← List.length_append, List.drop_length]

-- A parsed group can be forwarded exactly when its tally fits the two digits of a small counter.
theorem forwards_iff (version : CesrVersion) (buf rest dst : Bytes) (group : CesrGroup)
    (parsed : CesrGroup.parseFor version buf = .ok (group, rest)) :
    ((∃ written, exec (group.encodeCesr version) dst = (.ok (), dst ++ written) ∧
        CesrGroup.parseFor version written = .ok (group, [])) ↔ group.tally < 4096) ∧
      ∀ error final, exec (group.encodeCesr version) dst = (.error error, final) → final = dst := by
  obtain ⟨size, read, _⟩ := (parse_of_ok version buf rest group).mp ((parse_for_ok version buf rest group).mp parsed)
  obtain ⟨hard, count, payload, tallied, encodes, reads⟩ := parsed_encodes version group (sized_of_parsed version buf group size read)
  simp only [encodes, tallied]
  refine ⟨Iff.intro ?_ ?_, ?_⟩
  · intro found
    obtain ⟨written, encoded, _⟩ := found
    exact ((written_ok hard count payload dst _).mp encoded).1
  · intro fits
    exact ⟨_, (written_ok hard count payload dst _).mpr ⟨fits, rfl⟩, (parse_for_ok version _ _ _).mpr (reads fits)⟩
  · exact fun error final failed => written_error hard count payload dst final error failed

theorem forwards_attached_signature :
    let payload := asBytes "-AAB" ++ List.replicate 88 0x41
    ((∃ written, exec ((CesrGroup.frame .attachment payload .v1).encodeCesr .v1) [] = (.ok (), [] ++ written) ∧
        CesrGroup.parseFor .v1 written = .ok (.frame .attachment payload .v1, [])) ↔
      (CesrGroup.frame .attachment payload .v1).tally < 4096) ∧
      ∀ error final, exec ((CesrGroup.frame .attachment payload .v1).encodeCesr .v1) [] = (.error error, final) → final = [] :=
  forwards_iff .v1 (asBytes "-VAX-AAB" ++ List.replicate 88 0x41) [] [] (.frame .attachment _ .v1) (by decide +kernel)

-- A big attachment group is parsed, and not written.
theorem big_attachment_refused :
    CesrGroup.parseFor .v1 (asBytes "--VAABAA" ++ List.replicate 16384 0x41) =
        .ok (.frame .attachment (List.replicate 16384 0x41) .v1, []) ∧
      outcome ((CesrGroup.frame .attachment (List.replicate 16384 0x41) .v1).encodeCesr .v1) [] =
        .error (.countExceedsCapacity 4096 4095) := by
  have big : (4096 : Nat) < 2 ^ 32 := by decide
  have fits : (4096 : Nat) < 64 ^ 5 := by decide
  have sized : (List.replicate 16384 (0x41 : UInt8)).length = 4096 * 4 := List.length_replicate
  have spelled : asBytes "--VAABAA" = asBytes "--V" ++ (digits 5 4096).map urlSafe.char := by decide
  apply And.intro
  · apply (parse_for_ok .v1 _ _ _).mpr
    have framed : ∀ start, payloadSized .v1 (.quadlets .attachment, start, ⟨4096, big⟩) (List.replicate 16384 0x41) =
        .ok (CesrGroup.frame .attachment (List.replicate 16384 0x41) .v1, 16384) := by
      intro start
      simp only [payloadSized, bind_ok, pure_ok, take_bytes_ok]
      exact ⟨16384, ⟨Nat.le_of_eq sized.symm, rfl⟩, by rw [List.take_of_length_le (Nat.le_of_eq sized)]⟩
    have read := sized_of_headed .v1 _ "--V" 5 ⟨4096, big⟩ _ (List.replicate 16384 0x41) (heads_as_v1 .bigAttachmentGroup) fits
      spelled
    rw [show shapeV1 .bigAttachmentGroup = .quadlets .attachment from rfl, framed] at read
    refine (parse_of_ok .v1 _ _ _).mpr ⟨_, read, ?_⟩
    have whole : (asBytes "--VAABAA").length + 16384 = (asBytes "--VAABAA" ++ List.replicate 16384 (0x41 : UInt8)).length := by
      rw [List.length_append, List.length_replicate]
    rw [whole, List.drop_length]
  · have counted := frame_quadlet_count_ok (List.replicate 16384 0x41) ⟨4096, big⟩ sized
    rw [CesrGroup.encodeCesr, CesrGroup.encodeCesrV1, outcome, FrameKind.codeV1]
    dsimp only
    rw [exec_bind, exec_check, counted]
    rfl

end Forwarding

end Cesr.Stream
