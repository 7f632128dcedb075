import Cesr.Stream.GroupRun

set_option autoImplicit false

namespace Cesr.Stream

open Checks Calls Resume

section Sized

def payloadSized (version : CesrVersion) (head : GroupShape × Nat × U32) (payload : Bytes) :
    Except ParseError (CesrGroup × Nat) :=
  match head.1 with
  | .elements kind =>
      kind.skipAll version head.2.2.val payload >>= fun size =>
        pure (CesrGroup.group kind (payload.take size) head.2.2 version, size)
  | .quadlets kind =>
      takeBytes payload (head.2.2.val * 4) >>= fun size => pure (CesrGroup.frame kind (payload.take size) version, size)
  | .genusVersion => .error .genusVersionNotAGroup

def CesrGroup.sizedOf (version : CesrVersion) (buf : Bytes) : Except ParseError (CesrGroup × Nat) :=
  readShape version buf >>= fun head =>
    payloadSized version head (buf.drop head.2.1) >>= fun sized => pure (sized.1, head.2.1 + sized.2)

theorem take_bytes_reads (count : Nat) : Reads NeedsBytes id (fun payload => takeBytes payload count) := by
  apply Reads.mk
  · exact take_bytes_steady count
  · intro payload size accepted
    obtain ⟨reach, same⟩ := (take_bytes_ok payload count size).mp accepted
    refine (take_bytes_ok _ count size).mpr ⟨?_, same⟩
    rw [List.length_take, same, id]
    omega
  · intro payload size accepted
    obtain ⟨reach, same⟩ := (take_bytes_ok payload count size).mp accepted
    rw [same]
    exact reach

theorem payload_sized_reads (version : CesrVersion) (head : GroupShape × Nat × U32) :
    Reads NeedsBytes Prod.snd (payloadSized version head) := by
  unfold payloadSized
  cases head.1 with
  | elements kind =>
      exact reads_content (fun payload size => (CesrGroup.group kind payload head.2.2 version, size))
        (skip_all_reads kind version head.2.2.val) (fun _ _ => rfl)
  | quadlets kind =>
      exact reads_content (fun payload size => (CesrGroup.frame kind payload version, size))
        (take_bytes_reads (head.2.2.val * 4)) (fun _ _ => rfl)
  | genusVersion =>
      apply Reads.mk
      · exact steady_const NeedsBytes (.error .genusVersionNotAGroup)
      · exact fun payload sized accepted => accepted
      · intro payload sized accepted
        cases accepted

theorem sized_of_reads (version : CesrVersion) : Reads NeedsBytes Prod.snd (CesrGroup.sizedOf version) :=
  reads_then (fun (head : GroupShape × Nat × U32) (sized : CesrGroup × Nat) => (sized.1, head.2.1 + sized.2))
    (read_shape_reads version) (fun head => payload_sized_reads version head) (fun _ _ => rfl)

theorem parse_of_sized (version : CesrVersion) (buf : Bytes) :
    CesrGroup.parseOf version buf =
      CesrGroup.sizedOf version buf >>= fun sized => pure (sized.1, buf.drop sized.2) := by
  unfold CesrGroup.parseOf CesrGroup.sizedOf
  rw [bind_assoc]
  cases shaped : readShape version buf with
  | error error => rfl
  | ok head =>
      have reach : ¬buf.length < head.2.1 := Nat.not_lt_of_le ((read_shape_reads version).within buf head shaped)
      rw [ok_bind, ok_bind, bind_assoc]
      unfold dispatch payloadSized
      cases head.1 with
      | elements kind =>
          dsimp only
          rw [parseKind, rejectIf, if_neg reach, ok_bind, bind_assoc]
          rfl
      | quadlets kind =>
          dsimp only
          rw [parseQuadlets, rejectIf, if_neg reach, ok_bind, takeBytes, List.length_drop]
          by_cases few : buf.length - head.2.1 < head.2.2.val * 4
          · rw [rejectIf, if_pos few, if_pos few]
            rfl
          · rw [rejectIf, if_neg few, if_neg few]
            rfl
      | genusVersion => rfl

theorem parse_of_ok (version : CesrVersion) (buf rest : Bytes) (group : CesrGroup) :
    CesrGroup.parseOf version buf = .ok (group, rest) ↔
      ∃ size, CesrGroup.sizedOf version buf = .ok (group, size) ∧ rest = buf.drop size := by
  rw [parse_of_sized, bind_ok]
  apply Iff.intro
  · intro found
    obtain ⟨sized, read, same⟩ := found
    cases same
    exact ⟨sized.2, read, rfl⟩
  · intro found
    obtain ⟨size, read, same⟩ := found
    exact ⟨(group, size), read, by rw [same]; rfl⟩

end Sized

section Framing

def CesrGroup.enclosed : CesrGroup → Option Bytes
  | .group _ _ _ _ => none
  | .frame kind payload _ => if kind.enclosing then some payload else none

def CesrGroup.signatures : CesrGroup → Nat
  | .group kind raw count version =>
      count.val * kind.signaturesPerElement + kind.declaredSigsAll version count.val raw
  | .frame _ _ _ => 0

theorem declared_sigs_all_settled (kind : GroupKind) (version : CesrVersion) (count : Nat) (start more : Bytes) (total : Nat)
    (skipped : kind.skipAll version count start = .ok total) :
    kind.declaredSigsAll version count (start ++ more) = kind.declaredSigsAll version count start := by
  induction count generalizing start total with
  | zero => rfl
  | succ count ih =>
      rw [skip_all_eq, skip_times_succ] at skipped
      obtain ⟨size, first, others, later, _⟩ := skipped
      rw [← skip_all_eq] at later
      have reads := group_skip_reads kind version
      have reach : size ≤ start.length := reads.within start size first
      rw [GroupKind.declaredSigsAll, GroupKind.declaredSigsAll, reads.steady.settled start more size first, first,
        declared_sigs_settled kind version start more size first]
      dsimp only
      rw [List.drop_append_of_le_length reach, ih (start.drop size) others later]

theorem new_of_ok (version : CesrVersion) (buf : Bytes) (cursor : GroupFrameCursor) :
    GroupFrameCursor.newOf version buf = .ok cursor ↔
      ∃ head, readShape version buf = .ok head ∧ ∃ frame,
        GroupFrameCursor.ofShape version head.2.1 head.2.2 head.1 = .ok frame ∧
          { frame with attachmentEnvelope := decide (version = .v1 ∧ head.1 = .quadlets .attachment) } = cursor := by
  simp only [GroupFrameCursor.newOf, bind_ok, pure_ok]

theorem new_of_error (version : CesrVersion) (buf : Bytes) (error : ParseError)
    (failed : GroupFrameCursor.newOf version buf = .error error) : CesrGroup.sizedOf version buf = .error error := by
  unfold GroupFrameCursor.newOf at failed
  unfold CesrGroup.sizedOf
  cases shaped : readShape version buf with
  | error other =>
      rw [shaped] at failed
      exact congrArg _ (Except.error.inj failed)
  | ok head =>
      rw [shaped, ok_bind] at failed
      rw [ok_bind]
      unfold payloadSized
      cases shape : head.1 with
      | elements kind =>
          rw [shape] at failed
          cases failed
      | quadlets kind =>
          rw [shape] at failed
          cases failed
      | genusVersion =>
          rw [shape] at failed
          exact congrArg _ (Except.error.inj failed)

variable (maxBytes maxGroupElements maxSignatures : Nat)

def FrameLoose (buf : Bytes) (cursor : GroupFrameCursor) : Prop :=
  GroupLoose maxBytes maxGroupElements maxSignatures buf cursor ∧ cursor.endOffset ≤ maxBytes

structure Framed (buf : Bytes) (cursor : GroupFrameCursor) (sized : CesrGroup × Nat) (total : Nat) (final : GroupFrameCursor) :
    Prop where
  size : total = sized.2
  stop : final.endOffset = total
  declared : final.declared = cursor.declared
  signatures : final.signatureTotal = sized.1.signatures
  payload : final.enclosingPayload buf = .ok sized.1.enclosed

theorem elements_framed (version : CesrVersion) (buf : Bytes) (head : GroupShape × Nat × U32) (kind : GroupKind)
    (shaped : readShape version buf = .ok head) (shape : head.1 = .elements kind) (envelope : Bool) :
    let cursor := { GroupFrameCursor.elements kind head.2.1 head.2.2 version with attachmentEnvelope := envelope }
    Follows NeedsBytes LimitReached (¬FrameLoose maxBytes maxGroupElements maxSignatures buf cursor)
      (CesrGroup.sizedOf version buf) (Framed buf cursor)
      (exec (GroupFrameCursor.advanceLimited maxBytes maxGroupElements maxSignatures buf) cursor) := by
  intro cursor
  have reach : head.2.1 ≤ buf.length := (read_shape_reads version).within buf head shaped
  have sizes : CesrGroup.sizedOf version buf =
      kind.skipAll version head.2.2.val (buf.drop head.2.1) >>= fun size =>
        pure (CesrGroup.group kind ((buf.drop head.2.1).take size) head.2.2 version, head.2.1 + size) := by
    unfold CesrGroup.sizedOf payloadSized
    rw [shaped, ok_bind, shape, bind_assoc]
    rfl
  rw [advance_limited_phases, exec_bind, exec_take_budget]
  cases budget : cursor.checkBudget maxBytes maxSignatures with
  | error error =>
      refine .gave error cursor (fun loose => ?_) rfl (check_budget_error maxBytes maxSignatures cursor error budget)
      have passed := (check_budget_ok maxBytes maxSignatures cursor).mpr
        ⟨Nat.le_trans (Nat.le_add_right _ _) loose.1.signatures, loose.2⟩
      rw [passed] at budget
      cases budget
  | ok done =>
      obtain ⟨signatures, bytes⟩ := (check_budget_ok maxBytes maxSignatures cursor).mp budget
      have within : GroupWithin maxBytes buf cursor := Nat.le_min.mpr ⟨reach, bytes⟩
      have follows := elements_follow kind maxBytes maxGroupElements maxSignatures buf cursor ⟨rfl, rfl⟩ within
      dsimp only
      rw [exec_bind, exec_skip_elements maxBytes maxGroupElements maxSignatures kind buf cursor rfl, sizes]
      cases follows with
      | gave error final bites given reason =>
          rw [given]
          exact .gave error final (fun loose => bites loose.1) rfl reason
      | failed error other final read given same =>
          rw [given]
          refine .failed error other final ?_ rfl same
          rw [show kind.skipAll version head.2.2.val (buf.drop head.2.1) = .error other from read]
          rfl
      | taken size result final read given reached =>
          obtain ⟨framed, within'⟩ := reached
          have read' : kind.skipAll version head.2.2.val (buf.drop head.2.1) = .ok size := read
          have stop : final.endOffset = head.2.1 + size := by
            rw [framed]
            rfl
          have inside : final.endOffset ≤ buf.length := (Nat.le_min.mp within').1
          rw [given]
          dsimp only
          rw [exec_take_end, (complete_ok buf final final.endOffset).mpr ⟨inside, rfl⟩, read']
          refine .taken (CesrGroup.group kind ((buf.drop head.2.1).take size) head.2.2 version, head.2.1 + size)
            final.endOffset final rfl rfl ?_
          apply Framed.mk
          · exact stop
          · rfl
          · rw [framed]
            rfl
          · have settled := declared_sigs_all_settled kind version head.2.2.val ((buf.drop head.2.1).take size)
              ((buf.drop head.2.1).drop size) size ((skip_all_reads kind version head.2.2.val).exact _ size read')
            rw [List.take_append_drop] at settled
            rw [framed, CesrGroup.signatures, ← settled]
            rfl
          · rw [framed]
            rfl

theorem quadlets_framed (version : CesrVersion) (buf : Bytes) (head : GroupShape × Nat × U32) (kind : FrameKind)
    (shaped : readShape version buf = .ok head) (shape : head.1 = .quadlets kind) (envelope : Bool) :
    let cursor := { GroupFrameCursor.quadlets head.2.1 head.2.2 version with
      enclosing := kind.enclosing, attachmentEnvelope := envelope }
    Follows NeedsBytes LimitReached (¬FrameLoose maxBytes maxGroupElements maxSignatures buf cursor)
      (CesrGroup.sizedOf version buf) (Framed buf cursor)
      (exec (GroupFrameCursor.advanceLimited maxBytes maxGroupElements maxSignatures buf) cursor) := by
  intro cursor
  have reach : head.2.1 ≤ buf.length := (read_shape_reads version).within buf head shaped
  have sizes : CesrGroup.sizedOf version buf =
      takeBytes (buf.drop head.2.1) (head.2.2.val * 4) >>= fun size =>
        pure (CesrGroup.frame kind ((buf.drop head.2.1).take size) version, head.2.1 + size) := by
    unfold CesrGroup.sizedOf payloadSized
    rw [shaped, ok_bind, shape, bind_assoc]
    rfl
  have stop : cursor.endOffset = head.2.1 + head.2.2.val * 4 := rfl
  rw [advance_limited_phases, exec_bind, exec_take_budget]
  cases budget : cursor.checkBudget maxBytes maxSignatures with
  | error error =>
      refine .gave error cursor (fun loose => ?_) rfl (check_budget_error maxBytes maxSignatures cursor error budget)
      have passed := (check_budget_ok maxBytes maxSignatures cursor).mpr ⟨Nat.zero_le _, loose.2⟩
      rw [passed] at budget
      cases budget
  | ok done =>
      dsimp only
      rw [exec_bind, exec_skip_quadlets maxBytes maxGroupElements maxSignatures buf cursor rfl]
      dsimp only
      rw [exec_take_end, sizes, takeBytes, List.length_drop]
      by_cases few : buf.length - head.2.1 < head.2.2.val * 4
      · rw [if_pos few, (complete_error buf cursor _).mpr ⟨by omega, rfl⟩]
        exact .failed _ _ cursor rfl rfl (Iff.intro (fun _ => needs_bytes _) (fun _ => needs_bytes _))
      · have whole : cursor.endOffset ≤ buf.length := by omega
        rw [if_neg few, (complete_ok buf cursor cursor.endOffset).mpr ⟨whole, rfl⟩]
        refine .taken (CesrGroup.frame kind ((buf.drop head.2.1).take (head.2.2.val * 4)) version, head.2.1 + head.2.2.val * 4)
          cursor.endOffset cursor rfl rfl ?_
        apply Framed.mk
        · exact stop
        · rfl
        · rfl
        · rfl
        · have spans : head.2.1 ≤ cursor.endOffset ∧ cursor.endOffset ≤ buf.length := ⟨by omega, whole⟩
          have opened : cursor.enclosingPayload buf = if kind.enclosing then
              (if head.2.1 ≤ cursor.endOffset ∧ cursor.endOffset ≤ buf.length then
                .ok (some ((buf.take cursor.endOffset).drop head.2.1)) else .error (.overflow .groupSpan))
            else .ok none := rfl
          rw [opened]
          dsimp only [CesrGroup.enclosed]
          by_cases enclosing : kind.enclosing = true
          · rw [if_pos enclosing, if_pos enclosing, if_pos spans, stop, List.drop_take, Nat.add_sub_cancel_left]
          · rw [if_neg enclosing, if_neg enclosing]

theorem group_framed (version : CesrVersion) (buf : Bytes) (cursor : GroupFrameCursor)
    (fresh : GroupFrameCursor.newOf version buf = .ok cursor) :
    Follows NeedsBytes LimitReached (¬FrameLoose maxBytes maxGroupElements maxSignatures buf cursor)
      (CesrGroup.sizedOf version buf) (Framed buf cursor)
      (exec (GroupFrameCursor.advanceLimited maxBytes maxGroupElements maxSignatures buf) cursor) := by
  obtain ⟨head, shaped, frame, formed, same⟩ := (new_of_ok version buf cursor).mp fresh
  rw [← same]
  cases shape : head.1 with
  | elements kind =>
      rw [shape] at formed
      cases formed
      exact elements_framed maxBytes maxGroupElements maxSignatures version buf head kind shaped shape _
  | quadlets kind =>
      rw [shape] at formed
      cases formed
      exact quadlets_framed maxBytes maxGroupElements maxSignatures version buf head kind shaped shape _
  | genusVersion =>
      rw [shape] at formed
      cases formed

end Framing

section Parsing

-- A group of the tables cannot declare enough to reach the largest limits.
theorem frame_unlimited (version : CesrVersion) (buf : Bytes) (cursor : GroupFrameCursor)
    (fresh : GroupFrameCursor.newOf version buf = .ok cursor) : FrameLoose (noLimit buf) usizeMax usizeMax buf cursor := by
  obtain ⟨head, shaped, frame, formed, same⟩ := (new_of_ok version buf cursor).mp fresh
  have reach : head.2.1 ≤ buf.length := (read_shape_reads version).within buf head shaped
  have small := head.2.2.isLt
  have above : buf.length < noLimit buf := by
    unfold noLimit usizeMax
    omega
  rw [← same]
  cases shape : head.1 with
  | elements kind =>
      rw [shape] at formed
      cases formed
      have once : kind.signaturesPerElement ≤ 1 := by cases kind <;> decide
      have each : head.2.2.val * kind.signaturesPerElement ≤ head.2.2.val * 1 := Nat.mul_le_mul_left _ once
      refine ⟨⟨above, by decide, ?_⟩, Nat.le_trans reach (Nat.le_of_lt above)⟩
      show head.2.2.val * kind.signaturesPerElement + head.2.2.val * 2 ^ 32 ≤ usizeMax
      unfold usizeMax
      omega
  | quadlets kind =>
      rw [shape] at formed
      cases formed
      have none' : 0 + 0 * 2 ^ 32 ≤ usizeMax := by decide
      refine ⟨⟨above, by decide, none'⟩, ?_⟩
      show head.2.1 + head.2.2.val * 4 ≤ noLimit buf
      unfold noLimit usizeMax
      omega
  | genusVersion =>
      rw [shape] at formed
      cases formed

theorem advance_framed (version : CesrVersion) (buf : Bytes) (cursor : GroupFrameCursor) (len : Nat)
    (fresh : GroupFrameCursor.newOf version buf = .ok cursor) :
    outcome (GroupFrameCursor.advance buf) cursor = .ok len ↔ ∃ group, CesrGroup.sizedOf version buf = .ok (group, len) := by
  have follows := group_framed (noLimit buf) usizeMax usizeMax version buf cursor fresh
  unfold outcome GroupFrameCursor.advance
  cases follows with
  | taken sized result final read given reached =>
      rw [given, read]
      apply Iff.intro
      · intro same
        exact ⟨sized.1, by rw [← Except.ok.inj same, reached.size]⟩
      · intro found
        obtain ⟨group, same⟩ := found
        rw [reached.size, Except.ok.inj same]
  | failed error other final read given same =>
      rw [given, read]
      apply Iff.intro
      · intro found
        cases found
      · intro found
        obtain ⟨_, impossible⟩ := found
        cases impossible
  | gave error final bites given reason => exact absurd (frame_unlimited version buf cursor fresh) bites

theorem sized_of_head (version : CesrVersion) (buf : Bytes) (sized : CesrGroup × Nat)
    (read : CesrGroup.sizedOf version buf = .ok sized) : ∃ cursor, GroupFrameCursor.newOf version buf = .ok cursor := by
  cases fresh : GroupFrameCursor.newOf version buf with
  | ok cursor => exact ⟨cursor, rfl⟩
  | error error =>
      rw [new_of_error version buf error fresh] at read
      cases read

theorem parse_of_frame (version : CesrVersion) (buf : Bytes) (group : CesrGroup) (size : Nat)
    (read : CesrGroup.sizedOf version buf = .ok (group, size)) :
    CesrGroup.parseOf version (buf.take size) = .ok (group, []) := by
  refine (parse_of_ok version _ _ group).mpr ⟨size, (sized_of_reads version).exact buf (group, size) read, ?_⟩
  rw [List.drop_of_length_le]
  rw [List.length_take]
  exact Nat.min_le_left _ _

theorem parse_v1_head (input : Bytes) (code : CounterCodeV1) (count : U32) (letters : String) (read : readCounterV1 input = .ok (code, count))
    (taken : input.take 2 = asBytes letters) : (asBytes code.asStr).take 2 = asBytes letters := by
  obtain ⟨rest, same, _⟩ := (read_counter_ok counter_table_v1 input code count).mp read
  have long : 2 ≤ (asBytes code.asStr).length := by
    rw [counter_table_v1.length]
    cases code <;> decide
  rw [← taken, same, List.append_assoc, List.take_append_of_le_length long]

theorem parse_v1_fast (input : Bytes) (cursor : GroupFrameCursor) (group : CesrGroup) (size : Nat) (letters : String)
    (kind : GroupKind) (only : ∀ code : CounterCodeV1, (asBytes code.asStr).take 2 = asBytes letters → shapeV1 code = .elements kind)
    (fresh : GroupFrameCursor.newV1 input = .ok cursor) (read : CesrGroup.sizedOf .v1 input = .ok (group, size))
    (taken : input.take 2 = asBytes letters) :
    group = .group kind ((input.take size).drop cursor.endOffset) cursor.count .v1 := by
  obtain ⟨head, shaped, frame, formed, same⟩ := (new_of_ok .v1 input cursor).mp fresh
  obtain ⟨code, coded, shape⟩ : ∃ read, readCounterV1 input = .ok read ∧ (shapeV1 read.1, read.1.fullSize, read.2) = head := by
    simpa only [readShape, bind_ok, pure_ok] using shaped
  have elements : shapeV1 code.1 = .elements kind := only code.1 (parse_v1_head input code.1 code.2 letters coded taken)
  rw [← shape, elements] at formed
  cases formed
  rw [CesrGroup.sizedOf, shaped, ok_bind, ← shape, elements] at read
  simp only [payloadSized, bind_ok, pure_ok, Prod.mk.injEq] at read
  obtain ⟨sized, ⟨offset, skipped, same'⟩, same'', counted⟩ := read
  have start : cursor.endOffset = code.1.fullSize := by rw [← same]; rfl
  have count : cursor.count = code.2 := by rw [← same]; rfl
  rw [← same'] at counted
  rw [start, count, ← counted, List.drop_take, Nat.add_sub_cancel_left, ← same'', ← same']

theorem parse_v2_ok (input rest : Bytes) (group : CesrGroup) :
    CesrGroup.parseV2 input = .ok (group, rest) ↔ CesrGroup.parseOf .v2 input = .ok (group, rest) := by
  simp only [CesrGroup.parseV2, CesrGroup.frameLenV2, CesrGroup.parseBytesV2, GroupFrameCursor.newV2, bind_ok, pure_ok,
    Prod.mk.injEq, parse_of_ok .v2 input]
  apply Iff.intro
  · intro found
    obtain ⟨len, ⟨cursor, fresh, advanced⟩, parsed, again, same, behind⟩ := found
    obtain ⟨group', read⟩ := (advance_framed .v2 input cursor len fresh).mp advanced
    rw [parse_of_frame .v2 input group' len read] at again
    cases again
    exact ⟨len, by rw [read, ← same], behind.symm⟩
  · intro found
    obtain ⟨size, read, behind⟩ := found
    obtain ⟨cursor, fresh⟩ := sized_of_head .v2 input (group, size) read
    exact ⟨size, ⟨cursor, fresh, (advance_framed .v2 input cursor size fresh).mpr ⟨group, read⟩⟩, (group, []),
      parse_of_frame .v2 input group size read, rfl, behind.symm⟩

theorem parse_ok (input rest : Bytes) (group : CesrGroup) :
    CesrGroup.parse input = .ok (group, rest) ↔ CesrGroup.parseOf .v1 input = .ok (group, rest) := by
  have signers : ∀ code : CounterCodeV1, (asBytes code.asStr).take 2 = asBytes "-A" → shapeV1 code = .elements .controllerIdxSig := by
    intro code
    cases code <;> decide
  have witnesses : ∀ code : CounterCodeV1, (asBytes code.asStr).take 2 = asBytes "-B" → shapeV1 code = .elements .witnessIdxSig := by
    intro code
    cases code <;> decide
  simp only [CesrGroup.parse, CesrGroup.parseBytes, bind_ok, parse_of_ok .v1 input]
  apply Iff.intro
  · intro found
    obtain ⟨cursor, fresh, len, advanced, built⟩ := found
    obtain ⟨group', read⟩ := (advance_framed .v1 input cursor len fresh).mp advanced
    refine ⟨len, ?_⟩
    by_cases first : input.take 2 = asBytes "-A"
    · rw [if_pos first] at built
      cases built
      rw [read, parse_v1_fast input cursor group' len "-A" .controllerIdxSig signers fresh read first]
      exact ⟨rfl, rfl⟩
    · rw [if_neg first] at built
      by_cases second : input.take 2 = asBytes "-B"
      · rw [if_pos second] at built
        cases built
        rw [read, parse_v1_fast input cursor group' len "-B" .witnessIdxSig witnesses fresh read second]
        exact ⟨rfl, rfl⟩
      · rw [if_neg second, parse_of_frame .v1 input group' len read] at built
        cases built
        exact ⟨read, rfl⟩
  · intro found
    obtain ⟨size, read, behind⟩ := found
    obtain ⟨cursor, fresh⟩ := sized_of_head .v1 input (group, size) read
    refine ⟨cursor, fresh, size, (advance_framed .v1 input cursor size fresh).mpr ⟨group, read⟩, ?_⟩
    by_cases first : input.take 2 = asBytes "-A"
    · rw [if_pos first, behind, parse_v1_fast input cursor group size "-A" .controllerIdxSig signers fresh read first]
      rfl
    · rw [if_neg first]
      by_cases second : input.take 2 = asBytes "-B"
      · rw [if_pos second, behind, parse_v1_fast input cursor group size "-B" .witnessIdxSig witnesses fresh read second]
        rfl
      · rw [if_neg second, parse_of_frame .v1 input group size read, behind]
        rfl

theorem parse_for_ok (version : CesrVersion) (input rest : Bytes) (group : CesrGroup) :
    CesrGroup.parseFor version input = .ok (group, rest) ↔ CesrGroup.parseOf version input = .ok (group, rest) := by
  cases version with
  | v1 => exact parse_ok input rest group
  | v2 => exact parse_v2_ok input rest group

def GroupFrameCursor.Frames (cursor : GroupFrameCursor) (span : Bytes) : CesrGroup → Prop
  | .group kind raw count version =>
      cursor.skip = some kind ∧ cursor.count = count ∧ cursor.version = version ∧ raw = span.drop cursor.endOffset
  | .frame kind payload version =>
      cursor.skip = none ∧ cursor.enclosing = kind.enclosing ∧ cursor.version = version ∧
        payload.length = cursor.count.val * 4 ∧ ∃ start, cursor.payloadStart = some start ∧ payload = span.drop start

theorem new_of_frames (version : CesrVersion) (buf : Bytes) (cursor : GroupFrameCursor) (group : CesrGroup) (size : Nat)
    (fresh : GroupFrameCursor.newOf version buf = .ok cursor) (read : CesrGroup.sizedOf version buf = .ok (group, size)) :
    cursor.Frames (buf.take size) group := by
  obtain ⟨head, shaped, frame, formed, same⟩ := (new_of_ok version buf cursor).mp fresh
  rw [CesrGroup.sizedOf, shaped, ok_bind] at read
  rw [← same]
  cases shape : head.1 with
  | elements kind =>
      rw [shape] at formed
      cases formed
      simp only [payloadSized, shape, bind_ok, pure_ok, Prod.mk.injEq] at read
      obtain ⟨sized, ⟨offset, skipped, same'⟩, same'', counted⟩ := read
      rw [← same''] 
      rw [← same'] at counted ⊢
      refine ⟨rfl, rfl, rfl, ?_⟩
      rw [← counted, List.drop_take]
      exact congrArg (List.take · _) (Nat.add_sub_cancel_left ..).symm
  | quadlets kind =>
      rw [shape] at formed
      cases formed
      simp only [payloadSized, shape, bind_ok, pure_ok, Prod.mk.injEq, take_bytes_ok] at read
      obtain ⟨sized, ⟨offset, ⟨reach, whole⟩, same'⟩, same'', counted⟩ := read
      rw [← same'']
      rw [← same'] at counted ⊢
      refine ⟨rfl, rfl, rfl, ?_, head.2.1, rfl, ?_⟩
      · rw [List.length_take, whole]
        exact Nat.min_eq_left reach
      · rw [← counted, List.drop_take, Nat.add_sub_cancel_left]
  | genusVersion =>
      rw [shape] at formed
      cases formed

end Parsing

end Cesr.Stream
