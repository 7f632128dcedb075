import Cesr.Stream.GroupParse

set_option autoImplicit false

namespace Cesr.Stream

open Checks Calls Resume

theorem reads_window {α β ε : Type} {short : ε → Prop} {size : β → Nat} {read : List α → Except ε β}
    (reads : Reads short size read) (stream : List α) (count : Nat) (value : β) :
    read (stream.take count) = .ok value ↔ read stream = .ok value ∧ size value ≤ count := by
  apply Iff.intro
  · intro accepted
    have again := reads.steady.settled _ (stream.drop count) value accepted
    have inside := reads.within _ value accepted
    rw [List.take_append_drop] at again
    rw [List.length_take] at inside
    exact ⟨again, Nat.le_trans inside (Nat.min_le_left _ _)⟩
  · intro found
    obtain ⟨accepted, fits⟩ := found
    have again := reads_again reads stream ((stream.drop (size value)).take (count - size value)) value accepted
    rwa [← List.take_add, Nat.add_sub_cancel' fits] at again

section Elements

variable (kind : GroupKind) (maxBytes maxGroupElements maxSignatures : Nat)

def GroupKind.declaredEach (kind : GroupKind) (version : CesrVersion) : Nat → Bytes → List Nat
  | 0, _ => []
  | count + 1, base =>
      kind.declaredSigs version base ::
        match kind.skip base version with
        | .error _ => []
        | .ok size => kind.declaredEach version count (base.drop size)

theorem declared_each_settled (version : CesrVersion) (count : Nat) (start more : Bytes) (total : Nat)
    (skipped : kind.skipAll version count start = .ok total) :
    kind.declaredEach version count (start ++ more) = kind.declaredEach version count start := by
  induction count generalizing start total with
  | zero => rfl
  | succ count ih =>
      rw [skip_all_eq, skip_times_succ] at skipped
      obtain ⟨size, first, others, later, _⟩ := skipped
      rw [← skip_all_eq] at later
      have reads := group_skip_reads kind version
      have reach : size ≤ start.length := reads.within start size first
      rw [GroupKind.declaredEach, GroupKind.declaredEach, reads.steady.settled start more size first, first,
        declared_sigs_settled kind version start more size first]
      dsimp only
      rw [List.drop_append_of_le_length reach, ih (start.drop size) others later]

theorem skip_element_limited (tail : Bytes) (cursor : GroupFrameCursor) (at' : AtElement kind cursor) (size : Nat) :
    (∃ middle, exec (GroupFrameCursor.skipElement kind tail maxGroupElements maxSignatures) cursor = (.ok size, middle)) ↔
      kind.skip tail cursor.version = .ok size ∧ kind.declaredSigs cursor.version tail ≤ maxGroupElements ∧
        kind.declaredSigs cursor.version tail ≤ maxSignatures - cursor.signatureTotal := by
  cases grammar : kind.nestedSigGrammar with
  | none =>
      have plain : cursor.nested = none := by rw [at'.nested, grammar, Option.map_none]
      have none' : kind.declaredSigs cursor.version tail = 0 := by
        unfold GroupKind.declaredSigs
        simp only [grammar]
      rw [exec_skip_plain kind _ _ _ cursor plain, none']
      simp
  | some grammar' =>
      have inside : cursor.nested = some (NestedSigCursor.new grammar'.1 grammar'.2.1 grammar'.2.2) := by
        rw [at'.nested, grammar, Option.map_some]
      have counts : ∀ matters read, skipMatters grammar'.1 tail = .ok matters →
          (NestedSigCursor.new grammar'.1 grammar'.2.1 grammar'.2.2).readCount cursor.version (tail.drop matters) = .ok read →
          kind.declaredSigs cursor.version tail = read.1.val := by
        intro matters read skipped counted
        unfold GroupKind.declaredSigs
        simp only [grammar]
        rw [skipped]
        dsimp only
        rw [counted]
      have skips : kind.skip tail cursor.version = .ok size ↔ ∃ final, exec (NestedSigCursor.advance cursor.version tail)
          (NestedSigCursor.new grammar'.1 grammar'.2.1 grammar'.2.2) = (.ok size, final) := by
        unfold GroupKind.skip
        simp only [grammar, outcome, Prod.ext_iff]
        exact ⟨fun same => ⟨_, same, rfl⟩, fun found => by obtain ⟨_, same, _⟩ := found; exact same⟩
      rw [exec_skip_nested kind _ _ _ cursor _ inside, exec_on_part, skips]
      simp only [Prod.mk.injEq]
      apply Iff.intro
      · intro found
        obtain ⟨_, ran, _⟩ := found
        obtain ⟨matters, read, signatures, skipped, counted, listed, total, _⟩ :=
          (advance_bounded_ok _ _ _ tail _ _ size rfl rfl).mp (Prod.ext ran rfl)
        obtain ⟨counted', elements, few⟩ := (read_bounded_ok _ _ _ _ _ _).mp counted
        rw [counts matters read skipped counted']
        refine ⟨⟨_, (advance_bounded_ok _ _ _ tail _ _ size rfl rfl).mpr
          ⟨matters, read, signatures, skipped, ?_, listed, total, rfl⟩⟩, elements, few⟩
        rw [read_bounded_unlimited]
        exact counted'
      · intro found
        obtain ⟨⟨final, ran⟩, elements, few⟩ := found
        obtain ⟨matters, read, signatures, skipped, counted, listed, total, _⟩ :=
          (advance_bounded_ok _ _ _ tail _ final size rfl rfl).mp ran
        rw [read_bounded_unlimited] at counted
        rw [counts matters read skipped counted] at elements few
        refine ⟨_, ?_, rfl⟩
        have again := (advance_bounded_ok cursor.version maxGroupElements (maxSignatures - cursor.signatureTotal) tail _ _ size
          rfl rfl).mpr ⟨matters, read, signatures, skipped, (read_bounded_ok _ _ _ _ _ _).mpr ⟨counted, elements, few⟩, listed,
            total, rfl⟩
        rw [again]

theorem turn_limited (input : Bytes) (cursor next : GroupFrameCursor) (at' : AtElement kind cursor)
    (within : GroupWithin maxBytes input cursor) :
    exec (GroupFrameCursor.turn kind maxBytes maxGroupElements maxSignatures input) cursor = (.ok (), next) ↔
      ∃ size, kind.skip (input.drop cursor.endOffset) cursor.version = .ok size ∧ cursor.endOffset + size ≤ maxBytes ∧
        kind.declaredSigs cursor.version (input.drop cursor.endOffset) ≤ maxGroupElements ∧
        kind.declaredSigs cursor.version (input.drop cursor.endOffset) ≤ maxSignatures - cursor.signatureTotal ∧
        next = cursor.past size (kind.declaredSigs cursor.version (input.drop cursor.endOffset)) := by
  have reads := group_skip_reads kind cursor.version
  have rest := group_window_rest maxBytes input cursor within
  have window : groupWindow maxBytes cursor input = (input.drop cursor.endOffset).take (maxBytes - cursor.endOffset) := by
    rw [groupWindow, List.drop_take]
  have bounds : cursor.endOffset ≤ maxBytes := Nat.le_trans within (Nat.min_le_right _ _)
  have narrow : ∀ size, kind.skip (groupWindow maxBytes cursor input) cursor.version = .ok size ↔
      kind.skip (input.drop cursor.endOffset) cursor.version = .ok size ∧ cursor.endOffset + size ≤ maxBytes := by
    intro size
    rw [window, reads_window reads, id]
    exact and_congr_right (fun _ => by omega)
  have declares : ∀ size, kind.skip (groupWindow maxBytes cursor input) cursor.version = .ok size →
      kind.declaredSigs cursor.version (groupWindow maxBytes cursor input) =
        kind.declaredSigs cursor.version (input.drop cursor.endOffset) := by
    intro size read
    have settled := declared_sigs_settled kind cursor.version _ (input.drop maxBytes) size read
    rw [← rest] at settled
    exact settled.symm
  have limited := fun size => skip_element_limited kind maxGroupElements maxSignatures (groupWindow maxBytes cursor input)
    cursor at' size
  apply Iff.intro
  · intro turned
    generalize ran : exec (GroupFrameCursor.skipElement kind (groupWindow maxBytes cursor input) maxGroupElements
      maxSignatures) cursor = answered
    obtain ⟨answer, middle⟩ := answered
    rw [exec_turn kind maxBytes maxGroupElements maxSignatures input cursor middle answer within ran, finish_turn_ok] at turned
    obtain ⟨size, taken, _, _, same⟩ := turned
    rw [map_error_ok] at taken
    rw [taken] at ran
    obtain ⟨skipped, elements, signatures⟩ := (limited size).mp ⟨middle, ran⟩
    rw [declares size skipped] at elements signatures
    have follows := skip_element_follows kind maxGroupElements maxSignatures (groupWindow maxBytes cursor input) cursor at'
    rw [ran] at follows
    cases follows with
    | failed error other final read given _ => cases given
    | gave error final bites given reason => cases given
    | taken size' result final read given reached =>
        cases given
        refine ⟨size, ((narrow size).mp skipped).1, ((narrow size).mp skipped).2, elements, signatures, ?_⟩
        rw [same, pass_next_element, reached.2, declares size skipped]
        rfl
  · intro found
    obtain ⟨size, skipped, fits, elements, signatures, same⟩ := found
    have here := (narrow size).mpr ⟨skipped, fits⟩
    have declared := declares size here
    rw [← declared] at elements signatures
    obtain ⟨middle, ran⟩ := (limited size).mpr ⟨here, elements, signatures⟩
    have follows := skip_element_follows kind maxGroupElements maxSignatures (groupWindow maxBytes cursor input) cursor at'
    rw [ran] at follows
    cases follows with
    | failed error other final read given _ => cases given
    | gave error final bites given reason => cases given
    | taken size' result final read given reached =>
        cases given
        obtain ⟨_, _, _, framed⟩ := skip_element_frame kind maxGroupElements maxSignatures _ cursor middle _ ran
        rw [exec_turn kind maxBytes maxGroupElements maxSignatures input cursor middle _ within ran, finish_turn_ok]
        refine ⟨size, rfl, Nat.ne_of_gt (group_skip_pos kind cursor.version _ size skipped), ?_, ?_⟩
        · rw [framed]
          exact fits
        · rw [same, pass_next_element, reached.2, declared]
          rfl

theorem elements_limited (input : Bytes) (cursor final : GroupFrameCursor) (at' : AtElement kind cursor)
    (within : GroupWithin maxBytes input cursor) (few : cursor.signatureTotal ≤ maxSignatures) :
    exec (whileLeft GroupFrameCursor.remaining (GroupFrameCursor.turn kind maxBytes maxGroupElements maxSignatures input))
        cursor = (.ok (), final) ↔
      ∃ total, kind.skipAll cursor.version cursor.remaining (input.drop cursor.endOffset) = .ok total ∧
        cursor.endOffset + total ≤ maxBytes ∧
        (∀ declared ∈ kind.declaredEach cursor.version cursor.remaining (input.drop cursor.endOffset),
          declared ≤ maxGroupElements) ∧
        cursor.signatureTotal + kind.declaredSigsAll cursor.version cursor.remaining (input.drop cursor.endOffset) ≤
          maxSignatures ∧
        final = { cursor with
          endOffset := cursor.endOffset + total
          remaining := 0
          signatureTotal := cursor.signatureTotal +
            kind.declaredSigsAll cursor.version cursor.remaining (input.drop cursor.endOffset) } := by
  rw [exec_while_left]
  generalize left : cursor.remaining = count
  induction count generalizing cursor with
  | zero =>
      have same : { cursor with endOffset := cursor.endOffset, remaining := 0, signatureTotal := cursor.signatureTotal } =
          cursor := by
        rw [← left]
      have bounds : cursor.endOffset ≤ maxBytes := Nat.le_trans within (Nat.min_le_right _ _)
      simp only [repeatTurns, exec_pure, Prod.mk.injEq, true_and, GroupKind.skipAll, GroupKind.declaredEach,
        GroupKind.declaredSigsAll, Except.ok.injEq, exists_eq_left', List.not_mem_nil, false_implies, implies_true,
        Nat.add_zero, few, bounds]
      rw [same]
      exact eq_comm
  | succ count ih =>
      have reads := group_skip_reads kind cursor.version
      simp only [exec_repeat_ok, turn_limited kind maxBytes maxGroupElements maxSignatures input cursor _ at' within]
      apply Iff.intro
      · intro found
        obtain ⟨next, ⟨size, skipped, fits, elements, signatures, moved⟩, later⟩ := found
        have inside := reads.within _ size skipped
        rw [List.length_drop, id] at inside
        have place : next.endOffset = cursor.endOffset + size := by rw [moved]; rfl
        have counted : next.signatureTotal = cursor.signatureTotal +
            kind.declaredSigs cursor.version (input.drop cursor.endOffset) := by rw [moved]; rfl
        have table : next.version = cursor.version := by rw [moved]; rfl
        have within' : GroupWithin maxBytes input next := by
          unfold GroupWithin at within ⊢
          omega
        obtain ⟨total, rest, fits', elements', signatures', same⟩ := (ih next (by rw [moved]; exact ⟨at'.nested, at'.fresh⟩)
          within' (by omega) (by rw [moved]; show cursor.remaining - 1 = count; omega)).mp later
        rw [place, table, ← List.drop_drop] at rest elements' signatures' same
        have all : kind.declaredSigsAll cursor.version (count + 1) (input.drop cursor.endOffset) =
            kind.declaredSigs cursor.version (input.drop cursor.endOffset) +
              kind.declaredSigsAll cursor.version count ((input.drop cursor.endOffset).drop size) := by
          rw [GroupKind.declaredSigsAll, skipped]
        refine ⟨size + total, ?_, by omega, ?_, by omega, ?_⟩
        · simp only [GroupKind.skipAll, skipped, rest, ok_bind]
          rfl
        · rw [GroupKind.declaredEach, skipped, List.forall_mem_cons]
          exact ⟨elements, elements'⟩
        · rw [same, all, counted, moved]
          simp only [GroupFrameCursor.past, Nat.add_assoc]
      · intro found
        obtain ⟨total, rest, fits, elements, signatures, same⟩ := found
        simp only [GroupKind.skipAll, bind_ok, pure_ok] at rest
        obtain ⟨size, skipped, others, rest, sum⟩ := rest
        have all : kind.declaredSigsAll cursor.version (count + 1) (input.drop cursor.endOffset) =
            kind.declaredSigs cursor.version (input.drop cursor.endOffset) +
              kind.declaredSigsAll cursor.version count ((input.drop cursor.endOffset).drop size) := by
          rw [GroupKind.declaredSigsAll, skipped]
        rw [GroupKind.declaredEach, skipped, List.forall_mem_cons] at elements
        have inside := reads.within _ size skipped
        rw [List.length_drop, id] at inside
        refine ⟨_, ⟨size, skipped, by omega, elements.1, by omega, rfl⟩, ?_⟩
        have within' : GroupWithin maxBytes input
            (cursor.past size (kind.declaredSigs cursor.version (input.drop cursor.endOffset))) := by
          unfold GroupWithin at within ⊢
          show cursor.endOffset + size ≤ _
          omega
        refine (ih (cursor.past size (kind.declaredSigs cursor.version (input.drop cursor.endOffset)))
          ⟨at'.nested, at'.fresh⟩ within' ?_ ?_).mpr ⟨others, ?_, ?_, ?_, ?_, ?_⟩
        · show cursor.signatureTotal + kind.declaredSigs cursor.version (input.drop cursor.endOffset) ≤ maxSignatures
          omega
        · show cursor.remaining - 1 = count
          omega
        · show kind.skipAll cursor.version count (input.drop (cursor.endOffset + size)) = .ok others
          rw [← List.drop_drop]
          exact rest
        · show cursor.endOffset + size + others ≤ maxBytes
          omega
        · show ∀ declared ∈ kind.declaredEach cursor.version count (input.drop (cursor.endOffset + size)), declared ≤ _
          rw [← List.drop_drop]
          exact elements.2
        · show cursor.signatureTotal + kind.declaredSigs cursor.version (input.drop cursor.endOffset) +
            kind.declaredSigsAll cursor.version count (input.drop (cursor.endOffset + size)) ≤ maxSignatures
          rw [← List.drop_drop]
          omega
        · rw [same, all]
          simp only [GroupFrameCursor.past, ← sum, ← List.drop_drop, Nat.add_assoc]

end Elements

section Groups

variable (maxBytes maxGroupElements maxSignatures : Nat)

def CesrGroup.declaredEach : CesrGroup → List Nat
  | .group kind raw count version => kind.declaredEach version count.val raw
  | .frame _ _ _ => []

structure CesrGroup.Holds (group : CesrGroup) : Prop where
  nested : ∀ declared ∈ group.declaredEach, declared ≤ maxGroupElements
  signatures : group.signatures ≤ maxSignatures

theorem elements_group_limited (version : CesrVersion) (buf : Bytes) (head : GroupShape × Nat × U32) (kind : GroupKind)
    (shaped : readShape version buf = .ok head) (shape : head.1 = .elements kind) (envelope : Bool) (len : Nat) :
    (∃ final, exec (GroupFrameCursor.advanceLimited maxBytes maxGroupElements maxSignatures buf)
        { GroupFrameCursor.elements kind head.2.1 head.2.2 version with attachmentEnvelope := envelope } = (.ok len, final)) ↔
      ∃ group, CesrGroup.sizedOf version buf = .ok (group, len) ∧ len ≤ maxBytes ∧
        group.Holds maxGroupElements maxSignatures := by
  have reach : head.2.1 ≤ buf.length := (read_shape_reads version).within buf head shaped
  generalize fresh : { GroupFrameCursor.elements kind head.2.1 head.2.2 version with attachmentEnvelope := envelope } = cursor
  have at' : AtElement kind cursor := by
    rw [← fresh]
    exact ⟨rfl, rfl⟩
  have elements : cursor.skip = some kind := by rw [← fresh]; rfl
  have place : cursor.endOffset = head.2.1 := by rw [← fresh]; rfl
  have counted : cursor.remaining = head.2.2.val := by rw [← fresh]; rfl
  have total : cursor.signatureTotal = head.2.2.val * kind.signaturesPerElement := by rw [← fresh]; rfl
  have table : cursor.version = version := by rw [← fresh]; rfl
  have sizes : ∀ group, CesrGroup.sizedOf version buf = .ok (group, len) ↔
      ∃ size, kind.skipAll version head.2.2.val (buf.drop head.2.1) = .ok size ∧
        group = .group kind ((buf.drop head.2.1).take size) head.2.2 version ∧ len = head.2.1 + size := by
    intro group
    unfold CesrGroup.sizedOf payloadSized
    rw [shaped, ok_bind, shape, bind_assoc]
    simp only [bind_ok, pure_ok, Prod.mk.injEq]
    apply Iff.intro
    · intro found
      obtain ⟨size, skipped, framed, sized, same, long⟩ := found
      rw [← sized] at same long
      exact ⟨size, skipped, same.symm, long.symm⟩
    · intro found
      obtain ⟨size, skipped, same, long⟩ := found
      exact ⟨size, skipped, _, rfl, same.symm, long.symm⟩
  have held : ∀ size, kind.skipAll version head.2.2.val (buf.drop head.2.1) = .ok size →
      ((CesrGroup.group kind ((buf.drop head.2.1).take size) head.2.2 version).Holds maxGroupElements maxSignatures ↔
        (∀ declared ∈ kind.declaredEach version head.2.2.val (buf.drop head.2.1), declared ≤ maxGroupElements) ∧
          head.2.2.val * kind.signaturesPerElement + kind.declaredSigsAll version head.2.2.val (buf.drop head.2.1) ≤
            maxSignatures) := by
    intro size skipped
    have alone := (skip_all_reads kind version head.2.2.val).exact _ size skipped
    have each := declared_each_settled kind version head.2.2.val _ ((buf.drop head.2.1).drop size) size alone
    have all := declared_sigs_all_settled kind version head.2.2.val _ ((buf.drop head.2.1).drop size) size alone
    rw [id, List.take_append_drop] at each all
    rw [each, all]
    exact ⟨fun holds => ⟨holds.nested, holds.signatures⟩, fun holds => ⟨holds.1, holds.2⟩⟩
  simp only [sizes]
  rw [advance_limited_phases]
  simp only [exec_bind_ok, exec_take_budget, Prod.mk.injEq, exec_take_end, complete_ok]
  apply Iff.intro
  · intro found
    obtain ⟨final, _, _, ⟨budget, same⟩, _, skipped, ran, ⟨_, long⟩, _⟩ := found
    obtain ⟨few, bytes⟩ := (check_budget_ok maxBytes maxSignatures cursor).mp budget
    rw [← same, exec_skip_elements maxBytes maxGroupElements maxSignatures kind buf cursor elements] at ran
    have within : GroupWithin maxBytes buf cursor := by
      unfold GroupWithin
      omega
    obtain ⟨size, rest, fits, nested, signatures, framed⟩ :=
      (elements_limited kind maxBytes maxGroupElements maxSignatures buf cursor skipped at' within few).mp ran
    rw [table, counted, place] at rest nested signatures
    have stop : len = head.2.1 + size := by
      rw [← long, framed, ← place]
    refine ⟨_, ⟨size, rest, rfl, stop⟩, by omega, (held size rest).mpr ⟨nested, ?_⟩⟩
    rw [← total]
    exact signatures
  · intro found
    obtain ⟨group, ⟨size, rest, same, long⟩, fits, holds⟩ := found
    rw [same] at holds
    obtain ⟨nested, signatures⟩ := (held size rest).mp holds
    have few : cursor.signatureTotal ≤ maxSignatures := by omega
    have bytes : cursor.endOffset ≤ maxBytes := by omega
    have inside := (skip_all_reads kind version head.2.2.val).within _ size rest
    rw [List.length_drop, id] at inside
    have within : GroupWithin maxBytes buf cursor := by
      unfold GroupWithin
      omega
    have ran := (elements_limited kind maxBytes maxGroupElements maxSignatures buf cursor _ at' within few).mpr
      ⟨size, by rw [table, counted, place]; exact rest, by omega, by rw [table, counted, place]; exact nested,
        by rw [table, counted, place, total]; exact signatures, rfl⟩
    rw [← exec_skip_elements maxBytes maxGroupElements maxSignatures kind buf cursor elements] at ran
    refine ⟨_, (), cursor, ⟨(check_budget_ok maxBytes maxSignatures cursor).mpr ⟨few, bytes⟩, rfl⟩, (), _, ran,
      ⟨?_, ?_⟩, rfl⟩
    · show cursor.endOffset + size ≤ buf.length
      omega
    · show cursor.endOffset + size = len
      omega

theorem quadlets_group_limited (version : CesrVersion) (buf : Bytes) (head : GroupShape × Nat × U32) (kind : FrameKind)
    (shaped : readShape version buf = .ok head) (shape : head.1 = .quadlets kind) (envelope : Bool) (len : Nat) :
    (∃ final, exec (GroupFrameCursor.advanceLimited maxBytes maxGroupElements maxSignatures buf)
        { GroupFrameCursor.quadlets head.2.1 head.2.2 version with
          enclosing := kind.enclosing, attachmentEnvelope := envelope } = (.ok len, final)) ↔
      ∃ group, CesrGroup.sizedOf version buf = .ok (group, len) ∧ len ≤ maxBytes ∧
        group.Holds maxGroupElements maxSignatures := by
  have reach : head.2.1 ≤ buf.length := (read_shape_reads version).within buf head shaped
  generalize fresh : { GroupFrameCursor.quadlets head.2.1 head.2.2 version with
    enclosing := kind.enclosing, attachmentEnvelope := envelope } = cursor
  have place : cursor.endOffset = head.2.1 + head.2.2.val * 4 := by rw [← fresh]; rfl
  have total : cursor.signatureTotal = 0 := by rw [← fresh]; rfl
  have quadlets : cursor.skip = none := by rw [← fresh]; rfl
  have sizes : ∀ group, CesrGroup.sizedOf version buf = .ok (group, len) ↔
      head.2.1 + head.2.2.val * 4 ≤ buf.length ∧
        group = .frame kind ((buf.drop head.2.1).take (head.2.2.val * 4)) version ∧ len = head.2.1 + head.2.2.val * 4 := by
    intro group
    unfold CesrGroup.sizedOf payloadSized
    rw [shaped, ok_bind, shape, bind_assoc]
    simp only [bind_ok, pure_ok, Prod.mk.injEq, take_bytes_ok, List.length_drop]
    apply Iff.intro
    · intro found
      obtain ⟨size, ⟨fits, whole⟩, framed, sized, same, long⟩ := found
      rw [← sized, whole] at same long
      exact ⟨by omega, same.symm, long.symm⟩
    · intro found
      obtain ⟨fits, same, long⟩ := found
      exact ⟨_, ⟨by omega, rfl⟩, _, rfl, same.symm, long.symm⟩
  simp only [sizes]
  rw [advance_limited_phases]
  simp only [exec_bind_ok, exec_take_budget, Prod.mk.injEq, exec_take_end, complete_ok]
  apply Iff.intro
  · intro found
    obtain ⟨final, _, _, ⟨budget, same⟩, _, skipped, ran, ⟨inside, long⟩, _⟩ := found
    obtain ⟨_, bytes⟩ := (check_budget_ok maxBytes maxSignatures cursor).mp budget
    rw [← same, exec_skip_quadlets maxBytes maxGroupElements maxSignatures buf cursor quadlets] at ran
    cases ran
    rw [place] at bytes inside long
    exact ⟨_, ⟨inside, rfl, long.symm⟩, by omega, ⟨fun declared none' => absurd none' List.not_mem_nil, Nat.zero_le _⟩⟩
  · intro found
    obtain ⟨group, ⟨inside, same, long⟩, fits, _⟩ := found
    refine ⟨_, (), cursor, ⟨(check_budget_ok maxBytes maxSignatures cursor).mpr ⟨by omega, by omega⟩, rfl⟩, (), cursor, ?_,
      ⟨by omega, by omega⟩, rfl⟩
    rw [exec_skip_quadlets maxBytes maxGroupElements maxSignatures buf cursor quadlets]

theorem group_limited (version : CesrVersion) (buf : Bytes) (cursor : GroupFrameCursor) (len : Nat)
    (fresh : GroupFrameCursor.newOf version buf = .ok cursor) :
    (∃ final, exec (GroupFrameCursor.advanceLimited maxBytes maxGroupElements maxSignatures buf) cursor = (.ok len, final)) ↔
      ∃ group, CesrGroup.sizedOf version buf = .ok (group, len) ∧ len ≤ maxBytes ∧
        group.Holds maxGroupElements maxSignatures := by
  obtain ⟨head, shaped, frame, formed, same⟩ := (new_of_ok version buf cursor).mp fresh
  rw [← same]
  cases shape : head.1 with
  | elements kind =>
      rw [shape] at formed
      cases formed
      exact elements_group_limited maxBytes maxGroupElements maxSignatures version buf head kind shaped shape _ len
  | quadlets kind =>
      rw [shape] at formed
      cases formed
      exact quadlets_group_limited maxBytes maxGroupElements maxSignatures version buf head kind shaped shape _ len
  | genusVersion =>
      rw [shape] at formed
      cases formed

theorem limited_framed (version : CesrVersion) (buf : Bytes) (cursor final : GroupFrameCursor) (len : Nat)
    (fresh : GroupFrameCursor.newOf version buf = .ok cursor)
    (ran : exec (GroupFrameCursor.advanceLimited maxBytes maxGroupElements maxSignatures buf) cursor = (.ok len, final)) :
    ∃ group, CesrGroup.sizedOf version buf = .ok (group, len) ∧ Framed buf cursor (group, len) len final := by
  have follows := group_framed maxBytes maxGroupElements maxSignatures version buf cursor fresh
  rw [ran] at follows
  cases follows with
  | failed error other final' read given _ => cases given
  | gave error final' bites given reason => cases given
  | taken sized total final' read given reached =>
      cases given
      have same : sized = (sized.1, len) := by rw [reached.size]
      refine ⟨sized.1, by rw [read, ← same], ?_⟩
      rw [← same]
      exact reached

end Groups

end Cesr.Stream
