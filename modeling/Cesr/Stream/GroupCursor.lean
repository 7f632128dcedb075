import Cesr.Stream.Cursors

set_option autoImplicit false

namespace Cesr.Stream

open Checks Calls Resume

section Nested

-- What stays true of a nested cursor from one point of an element on: the list
-- is counted exactly when its counter has been read, and what was declared stays declared.
def NestedSince (before cursor : NestedSigCursor) : Prop :=
  cursor.sigsLeft.isSome = cursor.declaredSigs.isSome ∧ (before.declaredSigs ≠ none → cursor.declaredSigs = before.declaredSigs)

variable (version : CesrVersion) (maxGroupElements maxSignatures : Nat) (input : Bytes)

theorem take_matters_since (before : NestedSigCursor) :
    Keeps (NestedSince before) (whileLeft NestedSigCursor.mattersLeft (NestedSigCursor.takeMatter input)) := by
  apply keeps_while
  apply keeps_read_at
  exact fun size cursor _ _ held => held

theorem take_signatures_since (before : NestedSigCursor) :
    Keeps (NestedSince before) (whileLeft NestedSigCursor.signaturesLeft (NestedSigCursor.takeSignature input)) := by
  apply keeps_while
  apply keeps_read_at
  intro size cursor _ _ held
  refine ⟨?_, held.2⟩
  rw [NestedSigCursor.tookSignature, Option.isSome_map]
  exact held.1

theorem take_counter_since (before : NestedSigCursor) :
    Keeps (NestedSince before) (NestedSigCursor.takeCounter version maxGroupElements maxSignatures input) := by
  intro cursor held
  cases counted : cursor.sigsLeft with
  | some left =>
      rw [take_counter_some _ _ _ _ _ left counted]
      exact held
  | none =>
      rw [take_counter_none _ _ _ _ _ counted]
      have undeclared : cursor.declaredSigs = none := by
        have same := held.1
        rw [counted] at same
        cases declared : cursor.declaredSigs with
        | none => rfl
        | some count =>
            rw [declared] at same
            cases same
      have fresh : before.declaredSigs = none := by
        by_cases declared : before.declaredSigs = none
        · exact declared
        · have same := held.2 declared
          rw [undeclared] at same
          exact same.symm
      apply keeps_read_at (NestedSince before)
      · intro read state _ _ _
        exact ⟨rfl, fun declared => absurd fresh declared⟩
      · exact held

theorem advance_bounded_since (before : NestedSigCursor) :
    Keeps (NestedSince before) (NestedSigCursor.advanceBounded version maxGroupElements maxSignatures input) := by
  unfold NestedSigCursor.advanceBounded
  apply keeps_bind _ _ _ (take_matters_since input before)
  intro _
  apply keeps_bind _ _ _ (take_counter_since version maxGroupElements maxSignatures input before)
  intro _
  apply keeps_bind _ _ _ (take_signatures_since input before)
  intro _
  exact keeps_get_bind _ _ (fun _ held => held)

-- What a nested counter declares, it declares within the budget it was read under.
def DeclaredWithin (before cursor : NestedSigCursor) : Prop :=
  ∀ count, cursor.declaredSigs = some count →
    before.declaredSigs = some count ∨ (count ≤ maxGroupElements ∧ count ≤ maxSignatures)

theorem advance_bounded_declared (before : NestedSigCursor) :
    Keeps (DeclaredWithin maxGroupElements maxSignatures before)
      (NestedSigCursor.advanceBounded version maxGroupElements maxSignatures input) := by
  unfold NestedSigCursor.advanceBounded
  apply keeps_bind
  · apply keeps_while
    apply keeps_read_at
    exact fun size cursor _ _ held => held
  · intro _
    apply keeps_bind
    · intro cursor held
      cases counted : cursor.sigsLeft with
      | some left =>
          rw [take_counter_some _ _ _ _ _ left counted]
          exact held
      | none =>
          rw [take_counter_none _ _ _ _ _ counted]
          apply keeps_read_at (DeclaredWithin maxGroupElements maxSignatures before)
          · intro read state tail accepted _ count declared
            cases declared
            exact .inr ((read_bounded_ok _ _ _ _ _ _).mp accepted).2
          · exact held
    · intro _
      apply keeps_bind
      · apply keeps_while
        apply keeps_read_at
        exact fun size cursor _ _ held => held
      · intro _
        exact keeps_get_bind _ _ (fun _ held => held)

-- Once the nested counter has been read, the budget for it no longer matters.
theorem advance_bounded_counted (other : Nat) (cursor : NestedSigCursor) (counted : cursor.sigsLeft ≠ none) :
    exec (NestedSigCursor.advanceBounded version maxGroupElements maxSignatures input) cursor =
      exec (NestedSigCursor.advanceBounded version maxGroupElements other input) cursor := by
  have kept : Keeps (fun state : NestedSigCursor => state.sigsLeft ≠ none)
      (whileLeft NestedSigCursor.mattersLeft (NestedSigCursor.takeMatter input)) := by
    apply keeps_while
    apply keeps_read_at
    exact fun size state _ _ held => held
  have middle := kept cursor counted
  unfold NestedSigCursor.advanceBounded
  rw [exec_bind, exec_bind _ _ cursor]
  cases first : exec (whileLeft NestedSigCursor.mattersLeft (NestedSigCursor.takeMatter input)) cursor with
  | mk answer next =>
      rw [first] at middle
      cases answer with
      | error error => rfl
      | ok done =>
          dsimp only
          cases left : next.sigsLeft with
          | none => exact absurd left middle
          | some left' =>
              rw [exec_bind, take_counter_some _ _ _ _ _ left' left, exec_bind _ _ next,
                take_counter_some _ _ _ _ _ left' left]

end Nested

section Elements

variable (kind : GroupKind) (maxGroupElements maxSignatures : Nat)

-- The nested cursor of a group lies within the element at hand, and its
-- signatures are counted exactly when they are declared.
def ElementFits (tail : Bytes) (cursor : GroupFrameCursor) : Prop :=
  ∀ nested, cursor.nested = some nested →
    NestedWithin tail nested ∧ nested.sigsLeft.isSome = nested.declaredSigs.isSome ∧
      cursor.nestedCounted = nested.declaredSigs.isSome

theorem exec_skip_nested (tail : Bytes) (cursor : GroupFrameCursor) (nested : NestedSigCursor)
    (inside : cursor.nested = some nested) :
    exec (GroupFrameCursor.skipElement kind tail maxGroupElements maxSignatures) cursor =
      exec (onPart nested GroupFrameCursor.keepNested (NestedSigCursor.advanceBounded cursor.version maxGroupElements
        (maxSignatures - cursor.signatureTotal) tail)) cursor := by
  rw [GroupFrameCursor.skipElement, exec_get_bind]
  simp only [inside]

theorem exec_skip_plain (tail : Bytes) (cursor : GroupFrameCursor) (plain : cursor.nested = none) :
    exec (GroupFrameCursor.skipElement kind tail maxGroupElements maxSignatures) cursor =
      (kind.skip tail cursor.version, cursor) := by
  rw [GroupFrameCursor.skipElement, exec_get_bind]
  simp only [plain]
  rfl

theorem keep_nested_counted (nested : NestedSigCursor) (cursor : GroupFrameCursor) (counted : cursor.nestedCounted = true) :
    GroupFrameCursor.keepNested nested cursor = { cursor with nested := some nested } := by
  unfold GroupFrameCursor.keepNested
  simp only [counted]

theorem keep_nested_open (nested : NestedSigCursor) (cursor : GroupFrameCursor) (undeclared : nested.declaredSigs = none) :
    GroupFrameCursor.keepNested nested cursor = { cursor with nested := some nested } := by
  unfold GroupFrameCursor.keepNested
  cases cursor.nestedCounted <;> simp only [undeclared]

theorem keep_nested_declared (nested : NestedSigCursor) (cursor : GroupFrameCursor) (declared : Nat)
    (fresh : cursor.nestedCounted = false) (found : nested.declaredSigs = some declared) :
    GroupFrameCursor.keepNested nested cursor =
      { cursor with nested := some nested, signatureTotal := cursor.signatureTotal + declared, nestedCounted := true } := by
  unfold GroupFrameCursor.keepNested
  simp only [fresh, found]

theorem keep_nested_nested (nested : NestedSigCursor) (cursor : GroupFrameCursor) :
    (GroupFrameCursor.keepNested nested cursor).nested = some nested := by
  cases counted : cursor.nestedCounted with
  | true => rw [keep_nested_counted nested cursor counted]
  | false =>
      cases declared : nested.declaredSigs with
      | none => rw [keep_nested_open nested cursor declared]
      | some count => rw [keep_nested_declared nested cursor count counted declared]

theorem keep_nested_twice (first second : NestedSigCursor) (cursor : GroupFrameCursor)
    (kept : first.declaredSigs ≠ none → second.declaredSigs = first.declaredSigs) :
    GroupFrameCursor.keepNested second (GroupFrameCursor.keepNested first cursor) =
      GroupFrameCursor.keepNested second cursor := by
  unfold GroupFrameCursor.keepNested
  cases counted : cursor.nestedCounted with
  | true => rfl
  | false =>
      cases declared : first.declaredSigs with
      | none => cases second.declaredSigs <;> rfl
      | some count =>
          have same : second.declaredSigs = some count := by
            rw [kept (by rw [declared]; exact nofun), declared]
          simp only [same]

theorem skip_element_resumable :
    CursorResumable ElementFits NeedsBytes
      (fun tail => GroupFrameCursor.skipElement kind tail maxGroupElements maxSignatures) := by
  apply cursor_resumable
  · intro start more cursor size next fits skipped
    cases inside : cursor.nested with
    | none =>
        rw [exec_skip_plain kind _ _ _ cursor inside] at skipped ⊢
        obtain ⟨accepted, same⟩ := Prod.mk.inj skipped
        rw [(group_skip_reads kind cursor.version).steady.settled start more size accepted, same]
    | some nested =>
        have resumable := advance_bounded_resumable cursor.version maxGroupElements (maxSignatures - cursor.signatureTotal)
        rw [exec_skip_nested kind _ _ _ cursor nested inside, exec_on_part] at skipped ⊢
        obtain ⟨accepted, same⟩ := Prod.mk.inj skipped
        have given := resumable_ok resumable start more nested _ size (fits nested inside).1 (Prod.ext accepted rfl)
        rw [given, same]
  · intro start more cursor error next fits failed long
    cases inside : cursor.nested with
    | none =>
        rw [exec_skip_plain kind _ _ _ cursor inside] at failed ⊢
        obtain ⟨refused, same⟩ := Prod.mk.inj failed
        obtain ⟨other, again, longer⟩ := (group_skip_reads kind cursor.version).steady.refused start more error refused long
        exact ⟨other, cursor, by rw [again], longer⟩
    | some nested =>
        have resumable := advance_bounded_resumable cursor.version maxGroupElements (maxSignatures - cursor.signatureTotal)
        rw [exec_skip_nested kind _ _ _ cursor nested inside, exec_on_part] at failed ⊢
        obtain ⟨refused, same⟩ := Prod.mk.inj failed
        obtain ⟨other, final, again, longer⟩ :=
          resumable_error resumable start more nested _ error (fits nested inside).1 (Prod.ext refused rfl) long
        exact ⟨other, _, by rw [again], longer⟩
  · intro start more cursor error next fits failed wait
    cases inside : cursor.nested with
    | none =>
        rw [exec_skip_plain kind _ _ _ cursor inside] at failed
        obtain ⟨_, same⟩ := Prod.mk.inj failed
        rw [← same]
        refine ⟨rfl, ?_⟩
        intro nested found
        rw [inside] at found
        cases found
    | some nested =>
        have resumable := advance_bounded_resumable cursor.version maxGroupElements (maxSignatures - cursor.signatureTotal)
        obtain ⟨reach, sync, counted⟩ := fits nested inside
        rw [exec_skip_nested kind _ _ _ cursor nested inside, exec_on_part] at failed
        generalize ran : exec (NestedSigCursor.advanceBounded cursor.version maxGroupElements
          (maxSignatures - cursor.signatureTotal) start) nested = answered at failed
        obtain ⟨answer, final⟩ := answered
        obtain ⟨refused, same⟩ := Prod.mk.inj failed
        dsimp only at refused same
        rw [refused] at ran
        obtain ⟨again, reach'⟩ := resumable_short resumable start more nested final error reach ran wait
        have since := advance_bounded_since cursor.version maxGroupElements (maxSignatures - cursor.signatureTotal) start
          nested nested ⟨sync, fun _ => rfl⟩
        rw [ran] at since
        have inside' : next.nested = some final := by rw [← same, keep_nested_nested]
        have version' : next.version = cursor.version := by
          rw [← same]
          unfold GroupFrameCursor.keepNested
          split <;> rfl
        -- The budget has changed only if the nested counter has been read, and then it no longer matters.
        have budget : exec (NestedSigCursor.advanceBounded cursor.version maxGroupElements
            (maxSignatures - next.signatureTotal) (start ++ more)) final =
              exec (NestedSigCursor.advanceBounded cursor.version maxGroupElements
                (maxSignatures - cursor.signatureTotal) (start ++ more)) final := by
          cases declared : final.declaredSigs with
          | none =>
              rw [← same, keep_nested_open final cursor declared]
          | some count =>
              apply advance_bounded_counted
              intro none'
              have sync' := since.1
              rw [none', declared] at sync'
              cases sync'
        refine ⟨?_, ?_⟩
        · rw [exec_skip_nested kind _ _ _ next final inside', exec_skip_nested kind _ _ _ cursor nested inside, exec_on_part,
            exec_on_part, version', budget, again, ← same]
          generalize ran' : exec (NestedSigCursor.advanceBounded cursor.version maxGroupElements
            (maxSignatures - cursor.signatureTotal) (start ++ more)) nested = answered
          have later := advance_bounded_since cursor.version maxGroupElements (maxSignatures - cursor.signatureTotal)
            (start ++ more) final final ⟨since.1, fun _ => rfl⟩
          rw [again, ran'] at later
          rw [keep_nested_twice final answered.2 cursor later.2]
        · intro other found
          rw [inside'] at found
          cases found
          refine ⟨reach', since.1, ?_⟩
          rw [← same]
          cases counted' : cursor.nestedCounted with
          | true =>
              rw [keep_nested_counted final cursor counted']
              have declared : nested.declaredSigs ≠ none := by
                intro none'
                rw [counted', none'] at counted
                cases counted
              show cursor.nestedCounted = _
              rw [since.2 declared, ← counted]
          | false =>
              cases declared : final.declaredSigs with
              | none =>
                  rw [keep_nested_open final cursor declared]
                  exact counted'
              | some count =>
                  rw [keep_nested_declared final cursor count counted' declared]
                  rfl

end Elements

section Turns

variable (kind : GroupKind) (maxBytes maxGroupElements maxSignatures : Nat)

def groupWindow (cursor : GroupFrameCursor) (input : Bytes) : Bytes := (input.take maxBytes).drop cursor.endOffset

def GroupWithin (input : Bytes) (cursor : GroupFrameCursor) : Prop := cursor.endOffset ≤ min input.length maxBytes

def GroupFits (input : Bytes) (cursor : GroupFrameCursor) : Prop :=
  GroupWithin maxBytes input cursor ∧ ElementFits (groupWindow maxBytes cursor input) cursor

theorem group_tail (input : Bytes) (cursor : GroupFrameCursor) (within : GroupWithin maxBytes input cursor) :
    cursor.tail input maxBytes = .ok (groupWindow maxBytes cursor input) := by
  unfold GroupFrameCursor.tail
  rw [rejectIf, if_neg (Nat.not_lt_of_le within)]
  rfl

def finishTurn (result : Except ParseError Nat) : Mutator GroupFrameCursor ParseError Unit := do
  let size ← check result
  check (rejectIf (size = 0) (.overflow .elementSpan))
  modify (GroupFrameCursor.passElement size)
  let cursor ← get
  check (cursor.checkBytes maxBytes)
  modify GroupFrameCursor.nextElement

theorem exec_turn (input : Bytes) (cursor middle : GroupFrameCursor) (answer : Except ParseError Nat)
    (within : GroupWithin maxBytes input cursor)
    (ran : exec (GroupFrameCursor.skipElement kind (groupWindow maxBytes cursor input) maxGroupElements maxSignatures) cursor =
      (answer, middle)) :
    exec (GroupFrameCursor.turn kind maxBytes maxGroupElements maxSignatures input) cursor =
      exec (finishTurn maxBytes (answer.mapError (overBudget maxBytes input))) middle := by
  rw [GroupFrameCursor.turn, exec_get_bind, exec_bind, exec_check, group_tail maxBytes input cursor within]
  dsimp only
  rw [exec_attempt_bind, ran]
  rfl

theorem finish_turn_ok (result : Except ParseError Nat) (middle next : GroupFrameCursor) :
    exec (finishTurn maxBytes result) middle = (.ok (), next) ↔
      ∃ size, result = .ok size ∧ size ≠ 0 ∧ middle.endOffset + size ≤ maxBytes ∧ next = (middle.passElement size).nextElement := by
  unfold finishTurn
  simp only [exec_check_bind_ok, reject_if_ok, exists_done, exec_modify_bind, exec_get_bind, GroupFrameCursor.checkBytes,
    Nat.not_lt, exec_modify, Prod.mk.injEq, true_and]
  apply Iff.intro
  · intro found
    obtain ⟨size, accepted, some, fits, same⟩ := found
    exact ⟨size, accepted, some, fits, same.symm⟩
  · intro found
    obtain ⟨size, accepted, some, fits, same⟩ := found
    exact ⟨size, accepted, some, fits, same.symm⟩

theorem finish_turn_error (error : ParseError) (middle : GroupFrameCursor) :
    exec (finishTurn maxBytes (.error error)) middle = (.error error, middle) := rfl

-- A turn that has sized its element fails for good or not at all.
theorem finish_turn_settled (size : Nat) (middle next : GroupFrameCursor) (error : ParseError)
    (failed : exec (finishTurn maxBytes (.ok size)) middle = (.error error, next)) : ¬NeedsBytes error := by
  unfold finishTurn at failed
  rw [exec_bind, exec_check] at failed
  dsimp only at failed
  by_cases empty : size = 0
  · rw [exec_bind, exec_check, rejectIf, if_pos empty] at failed
    cases failed
    intro found
    obtain ⟨_, impossible⟩ := found
    cases impossible
  · rw [exec_bind, exec_check, rejectIf, if_neg empty] at failed
    dsimp only at failed
    rw [exec_modify_bind, exec_get_bind, exec_bind, exec_check, GroupFrameCursor.checkBytes] at failed
    by_cases beyond : maxBytes < (middle.passElement size).endOffset
    · rw [rejectIf, if_pos beyond] at failed
      cases failed
      exact limit_not_short _ _ _
    · rw [rejectIf, if_neg beyond] at failed
      cases failed

theorem over_budget_short (input : Bytes) (error : ParseError) :
    NeedsBytes (overBudget maxBytes input error) ↔ NeedsBytes error ∧ input.length < maxBytes := by
  cases error with
  | needBytes missing =>
      by_cases full : maxBytes ≤ input.length
      · rw [overBudget, if_pos full]
        exact Iff.intro (fun found => absurd found (limit_not_short _ _ _)) (fun found => absurd found.2 (Nat.not_lt_of_le full))
      · rw [overBudget, if_neg full]
        exact Iff.intro (fun found => ⟨found, Nat.lt_of_not_le full⟩) And.left
  | _ => simp [overBudget, NeedsBytes]

theorem group_window_longer (cursor : GroupFrameCursor) (input more : Bytes) (within : GroupWithin maxBytes input cursor) :
    groupWindow maxBytes cursor (input ++ more) =
      groupWindow maxBytes cursor input ++ more.take (maxBytes - input.length) := by
  unfold groupWindow GroupWithin at *
  rw [List.take_append, List.drop_append_of_le_length]
  rw [List.length_take]
  omega

theorem group_within_longer (cursor : GroupFrameCursor) (input more : Bytes) (within : GroupWithin maxBytes input cursor) :
    GroupWithin maxBytes (input ++ more) cursor := by
  unfold GroupWithin at *
  rw [List.length_append]
  omega

theorem skip_element_frame (tail : Bytes) (cursor middle : GroupFrameCursor) (answer : Except ParseError Nat)
    (ran : exec (GroupFrameCursor.skipElement kind tail maxGroupElements maxSignatures) cursor = (answer, middle)) :
    ∃ nested counted total,
      middle = { cursor with nested := nested, nestedCounted := counted, signatureTotal := total } := by
  cases inside : cursor.nested with
  | none =>
      rw [exec_skip_plain kind _ _ _ cursor inside] at ran
      exact ⟨cursor.nested, cursor.nestedCounted, cursor.signatureTotal, (Prod.mk.inj ran).2.symm⟩
  | some nested =>
      rw [exec_skip_nested kind _ _ _ cursor nested inside, exec_on_part] at ran
      rw [← (Prod.mk.inj ran).2]
      unfold GroupFrameCursor.keepNested
      split <;> exact ⟨_, _, _, rfl⟩

theorem turn_resumable :
    CursorResumable (fun input cursor => GroupFits maxBytes input cursor) NeedsBytes
      (GroupFrameCursor.turn kind maxBytes maxGroupElements maxSignatures) := by
  have element := skip_element_resumable kind maxGroupElements maxSignatures
  apply cursor_resumable
  · intro start more cursor done next fits given
    generalize ran : exec (GroupFrameCursor.skipElement kind (groupWindow maxBytes cursor start) maxGroupElements maxSignatures)
      cursor = answered at *
    obtain ⟨answer, middle⟩ := answered
    rw [exec_turn kind maxBytes maxGroupElements maxSignatures start cursor middle answer fits.1 ran] at given
    obtain ⟨size, accepted, rest⟩ := (finish_turn_ok maxBytes _ middle next).mp given
    rw [(map_error_ok _ _ _).mp accepted] at ran
    have again := resumable_ok element _ (more.take (maxBytes - start.length)) cursor middle size fits.2 ran
    rw [← group_window_longer maxBytes cursor start more fits.1] at again
    rw [exec_turn kind maxBytes maxGroupElements maxSignatures (start ++ more) cursor middle (.ok size)
      (group_within_longer maxBytes cursor start more fits.1) again]
    exact (finish_turn_ok maxBytes _ middle next).mpr ⟨size, rfl, rest⟩
  · intro start more cursor error next fits given long
    generalize ran : exec (GroupFrameCursor.skipElement kind (groupWindow maxBytes cursor start) maxGroupElements maxSignatures)
      cursor = answered at *
    obtain ⟨answer, middle⟩ := answered
    rw [exec_turn kind maxBytes maxGroupElements maxSignatures start cursor middle answer fits.1 ran] at given
    have within' := group_within_longer maxBytes cursor start more fits.1
    cases answer with
    | ok size =>
        have again := resumable_ok element _ (more.take (maxBytes - start.length)) cursor middle size fits.2 ran
        rw [← group_window_longer maxBytes cursor start more fits.1] at again
        refine ⟨error, next, ?_, long⟩
        rw [exec_turn kind maxBytes maxGroupElements maxSignatures (start ++ more) cursor middle (.ok size) within' again]
        exact given
    | error first =>
        rw [Except.mapError, finish_turn_error] at given
        obtain ⟨same, same'⟩ := Prod.mk.inj given
        have named : overBudget maxBytes start first = error := Except.error.inj same
        rw [← named, over_budget_short] at long
        by_cases wait : NeedsBytes first
        · -- The budget is spent, so the window is the same.
          have full : maxBytes ≤ start.length := Nat.le_of_not_lt (fun room => long ⟨wait, room⟩)
          have window : groupWindow maxBytes cursor (start ++ more) = groupWindow maxBytes cursor start := by
            rw [group_window_longer maxBytes cursor start more fits.1, Nat.sub_eq_zero_of_le full, List.take_zero,
              List.append_nil]
          refine ⟨overBudget maxBytes (start ++ more) first, middle, ?_, ?_⟩
          · rw [exec_turn kind maxBytes maxGroupElements maxSignatures (start ++ more) cursor middle (.error first) within'
              (by rw [window]; exact ran)]
            rfl
          · rw [over_budget_short, List.length_append]
            intro found
            omega
        · obtain ⟨other, final, again, longer⟩ :=
            resumable_error element _ (more.take (maxBytes - start.length)) cursor middle first fits.2 ran wait
          rw [← group_window_longer maxBytes cursor start more fits.1] at again
          refine ⟨overBudget maxBytes (start ++ more) other, final, ?_, ?_⟩
          · rw [exec_turn kind maxBytes maxGroupElements maxSignatures (start ++ more) cursor final (.error other) within' again]
            rfl
          · rw [over_budget_short]
            exact fun found => longer found.1
  · intro start more cursor error next fits given wait
    generalize ran : exec (GroupFrameCursor.skipElement kind (groupWindow maxBytes cursor start) maxGroupElements maxSignatures)
      cursor = answered at *
    obtain ⟨answer, middle⟩ := answered
    rw [exec_turn kind maxBytes maxGroupElements maxSignatures start cursor middle answer fits.1 ran] at given
    have within' := group_within_longer maxBytes cursor start more fits.1
    cases answer with
    | ok size => exact absurd wait (finish_turn_settled maxBytes size middle next error given)
    | error first =>
        rw [Except.mapError, finish_turn_error] at given
        obtain ⟨same, same'⟩ := Prod.mk.inj given
        have named : overBudget maxBytes start first = error := Except.error.inj same
        rw [← named, over_budget_short] at wait
        rw [same'] at ran
        obtain ⟨again, fits'⟩ :=
          resumable_short element _ (more.take (maxBytes - start.length)) cursor next first fits.2 ran wait.1
        obtain ⟨nested, counted, total, framed⟩ :=
          skip_element_frame kind maxGroupElements maxSignatures _ cursor next _ ran
        have window : ∀ input, groupWindow maxBytes next input = groupWindow maxBytes cursor input := by
          intro input
          rw [groupWindow, groupWindow, framed]
        have here : GroupWithin maxBytes (start ++ more) next := by
          unfold GroupWithin at within' ⊢
          rw [framed]
          exact within'
        rw [← group_window_longer maxBytes cursor start more fits.1] at again fits'
        refine ⟨?_, here, by rw [window]; exact fits'⟩
        generalize result : exec (GroupFrameCursor.skipElement kind (groupWindow maxBytes cursor (start ++ more))
          maxGroupElements maxSignatures) cursor = answered
        obtain ⟨answer, final⟩ := answered
        rw [result] at again
        rw [exec_turn kind maxBytes maxGroupElements maxSignatures (start ++ more) cursor final answer within' result,
          exec_turn kind maxBytes maxGroupElements maxSignatures (start ++ more) next final answer here
            (by rw [window]; exact again)]

theorem next_element_end (cursor : GroupFrameCursor) : cursor.nextElement.endOffset = cursor.endOffset := by
  unfold GroupFrameCursor.nextElement
  cases cursor.nested <;> rfl

theorem next_element_remaining (cursor : GroupFrameCursor) : cursor.nextElement.remaining = cursor.remaining - 1 := by
  unfold GroupFrameCursor.nextElement
  cases cursor.nested <;> rfl

theorem next_element_fits (cursor : GroupFrameCursor) (tail : Bytes) : ElementFits tail cursor.nextElement := by
  intro nested inside
  unfold GroupFrameCursor.nextElement at inside ⊢
  cases before : cursor.nested with
  | none =>
      rw [before] at inside
      cases inside
  | some first =>
      rw [before] at inside
      cases inside
      exact ⟨Nat.zero_le _, rfl, rfl⟩

theorem turn_counts (input : Bytes) (cursor next : GroupFrameCursor) (fits : GroupFits maxBytes input cursor)
    (some : 0 < cursor.remaining)
    (given : exec (GroupFrameCursor.turn kind maxBytes maxGroupElements maxSignatures input) cursor = (.ok (), next)) :
    GroupFits maxBytes input next ∧ cursor.remaining = next.remaining + 1 := by
  generalize ran : exec (GroupFrameCursor.skipElement kind (groupWindow maxBytes cursor input) maxGroupElements maxSignatures)
    cursor = answered at *
  obtain ⟨answer, middle⟩ := answered
  rw [exec_turn kind maxBytes maxGroupElements maxSignatures input cursor middle answer fits.1 ran] at given
  obtain ⟨size, accepted, _, room, moved⟩ := (finish_turn_ok maxBytes _ middle next).mp given
  rw [(map_error_ok _ _ _).mp accepted] at ran
  obtain ⟨nested, counted, total, framed⟩ := skip_element_frame kind maxGroupElements maxSignatures _ cursor middle _ ran
  have reach : size ≤ (groupWindow maxBytes cursor input).length := by
    cases inside : cursor.nested with
    | none =>
        rw [exec_skip_plain kind _ _ _ cursor inside] at ran
        exact (group_skip_reads kind cursor.version).within _ size (Prod.mk.inj ran).1
    | some before =>
        rw [exec_skip_nested kind _ _ _ cursor before inside, exec_on_part] at ran
        exact advance_bounded_within cursor.version maxGroupElements _ _ before _ size (fits.2 before inside).1
          (Prod.ext (Prod.mk.inj ran).1 rfl)
  have within := fits.1
  unfold GroupWithin at within
  rw [groupWindow, List.length_drop, List.length_take] at reach
  refine ⟨⟨?_, ?_⟩, ?_⟩
  · rw [GroupWithin, moved, next_element_end, framed]
    show cursor.endOffset + size ≤ min input.length maxBytes
    omega
  · rw [moved]
    exact next_element_fits _ _
  · rw [moved, next_element_remaining, framed]
    show cursor.remaining = cursor.remaining - 1 + 1
    omega

theorem turn_waits (input : Bytes) (cursor next : GroupFrameCursor) (error : ParseError) (fits : GroupFits maxBytes input cursor)
    (given : exec (GroupFrameCursor.turn kind maxBytes maxGroupElements maxSignatures input) cursor = (.error error, next))
    (wait : NeedsBytes error) : next.remaining = cursor.remaining := by
  generalize ran : exec (GroupFrameCursor.skipElement kind (groupWindow maxBytes cursor input) maxGroupElements maxSignatures)
    cursor = answered at *
  obtain ⟨answer, middle⟩ := answered
  rw [exec_turn kind maxBytes maxGroupElements maxSignatures input cursor middle answer fits.1 ran] at given
  cases answer with
  | ok size => exact absurd wait (finish_turn_settled maxBytes size middle next error given)
  | error first =>
      obtain ⟨nested, counted, total, framed⟩ := skip_element_frame kind maxGroupElements maxSignatures _ cursor middle _ ran
      rw [Except.mapError, finish_turn_error] at given
      rw [← (Prod.mk.inj given).2, framed]

theorem elements_resumable :
    CursorResumable (GroupFits maxBytes) NeedsBytes
      (fun input => whileLeft GroupFrameCursor.remaining
        (GroupFrameCursor.turn kind maxBytes maxGroupElements maxSignatures input)) := by
  apply resumable_while GroupFrameCursor.remaining (GroupFrameCursor.turn kind maxBytes maxGroupElements maxSignatures)
  · have one := turn_resumable kind maxBytes maxGroupElements maxSignatures
    apply cursor_resumable
    · exact fun start more cursor done next fits given => resumable_ok one start more cursor next done fits.1 given
    · exact fun start more cursor error next fits given long => resumable_error one start more cursor next error fits.1 given long
    · intro start more cursor error next fits given wait
      obtain ⟨again, fits'⟩ := resumable_short one start more cursor next error fits.1 given wait
      refine ⟨again, fits', ?_⟩
      rw [turn_waits kind maxBytes maxGroupElements maxSignatures start cursor next error fits.1 given wait]
      exact fits.2
  · exact fun input cursor next fits some given => turn_counts kind maxBytes maxGroupElements maxSignatures input cursor next fits some given
  · exact fun input cursor error next fits _ given wait =>
      turn_waits kind maxBytes maxGroupElements maxSignatures input cursor next error fits given wait

-- The signatures of a group are within the budget, and those of a nested group
-- are counted exactly when they are declared.
structure GroupSync (cursor : GroupFrameCursor) : Prop where
  budget : cursor.signatureTotal ≤ maxSignatures
  nested : ∀ nested, cursor.nested = some nested →
    nested.sigsLeft.isSome = nested.declaredSigs.isSome ∧ cursor.nestedCounted = nested.declaredSigs.isSome

theorem keep_nested_sync (before after : NestedSigCursor) (cursor : GroupFrameCursor) (inside : cursor.nested = some before)
    (sync : GroupSync maxSignatures cursor) (since : NestedSince before after)
    (declared : DeclaredWithin maxGroupElements (maxSignatures - cursor.signatureTotal) before after) :
    GroupSync maxSignatures (GroupFrameCursor.keepNested after cursor) := by
  obtain ⟨synced, counted⟩ := sync.nested before inside
  have budget := sync.budget
  apply GroupSync.mk
  · cases counts : cursor.nestedCounted with
    | true =>
        rw [keep_nested_counted after cursor counts]
        exact budget
    | false =>
        cases found : after.declaredSigs with
        | none =>
            rw [keep_nested_open after cursor found]
            exact budget
        | some count =>
            rw [keep_nested_declared after cursor count counts found]
            rcases declared count found with old | new
            · rw [counts, old] at counted
              cases counted
            · show cursor.signatureTotal + count ≤ maxSignatures
              omega
  · intro nested found
    rw [keep_nested_nested] at found
    cases found
    refine ⟨since.1, ?_⟩
    cases counts : cursor.nestedCounted with
    | true =>
        rw [keep_nested_counted after cursor counts]
        have fresh : before.declaredSigs ≠ none := by
          intro none'
          rw [counts, none'] at counted
          cases counted
        show cursor.nestedCounted = _
        rw [since.2 fresh, ← counted]
    | false =>
        cases found : after.declaredSigs with
        | none =>
            rw [keep_nested_open after cursor found]
            exact counts
        | some count =>
            rw [keep_nested_declared after cursor count counts found]
            rfl

theorem skip_element_sync (tail : Bytes) :
    Keeps (GroupSync maxSignatures) (GroupFrameCursor.skipElement kind tail maxGroupElements maxSignatures) := by
  intro cursor sync
  cases inside : cursor.nested with
  | none =>
      rw [exec_skip_plain kind _ _ _ cursor inside]
      exact sync
  | some before =>
      rw [exec_skip_nested kind _ _ _ cursor before inside, exec_on_part]
      apply keep_nested_sync maxGroupElements maxSignatures before _ cursor inside sync
      · exact advance_bounded_since _ _ _ _ before before ⟨(sync.nested before inside).1, fun _ => rfl⟩
      · exact advance_bounded_declared _ _ _ _ before before (fun _ declared => .inl declared)

theorem turn_sync (input : Bytes) :
    Keeps (GroupSync maxSignatures) (GroupFrameCursor.turn kind maxBytes maxGroupElements maxSignatures input) := by
  unfold GroupFrameCursor.turn
  apply keeps_get_bind
  intro start sync
  refine keeps_bind _ _ _ (keeps_check _ _) (fun tail => ?_) start sync
  refine keeps_bind _ _ _ (keeps_attempt _ _ (skip_element_sync kind maxGroupElements maxSignatures tail)) (fun result => ?_)
  refine keeps_bind _ _ _ (keeps_check _ _) (fun size => ?_)
  refine keeps_bind _ _ _ (keeps_check _ _) (fun _ => ?_)
  refine keeps_bind _ _ _ (keeps_modify _ _ (fun cursor held => ⟨held.budget, held.nested⟩)) (fun _ => ?_)
  apply keeps_get_bind
  intro passed held
  refine keeps_bind _ _ _ (keeps_check _ _) (fun _ => ?_) passed held
  apply keeps_modify
  intro cursor held
  apply GroupSync.mk
  · unfold GroupFrameCursor.nextElement
    cases cursor.nested <;> exact held.budget
  · intro nested inside
    obtain ⟨_, synced⟩ := next_element_fits cursor [] nested inside
    exact synced

-- What a group is told by its counter does not change on the way.
def GroupFrameCursor.declared (cursor : GroupFrameCursor) : U32 × Option GroupKind × CesrVersion × Bool × Bool × Option Nat :=
  (cursor.count, cursor.skip, cursor.version, cursor.attachmentEnvelope, cursor.enclosing, cursor.payloadStart)

theorem next_element_declared (cursor : GroupFrameCursor) : cursor.nextElement.declared = cursor.declared := by
  unfold GroupFrameCursor.nextElement
  cases cursor.nested <;> rfl

theorem turn_keeps_declared (input : Bytes) (before : GroupFrameCursor) :
    Keeps (fun cursor : GroupFrameCursor => cursor.declared = before.declared)
      (GroupFrameCursor.turn kind maxBytes maxGroupElements maxSignatures input) := by
  have checks : ∀ {α : Type} (result : Except ParseError α),
      Keeps (fun cursor : GroupFrameCursor => cursor.declared = before.declared) (check result) :=
    fun result => keeps_check _ result
  unfold GroupFrameCursor.turn
  apply keeps_get_bind
  intro start same
  refine keeps_bind _ _ _ (checks _) (fun tail => ?_) start same
  refine keeps_bind _ _ _ (keeps_attempt _ _ ?_) (fun result => ?_)
  · intro cursor held
    generalize ran : exec (GroupFrameCursor.skipElement kind tail maxGroupElements maxSignatures) cursor = answered
    obtain ⟨answer, middle⟩ := answered
    obtain ⟨_, _, _, framed⟩ := skip_element_frame kind maxGroupElements maxSignatures tail cursor middle answer ran
    rw [framed]
    exact held
  refine keeps_bind _ _ _ (keeps_check _ _) (fun size => ?_)
  refine keeps_bind _ _ _ (keeps_check _ _) (fun _ => ?_)
  refine keeps_bind _ _ _ (keeps_modify _ _ (fun cursor held => held)) (fun _ => ?_)
  apply keeps_get_bind
  intro passed held
  refine keeps_bind _ _ _ (checks _) (fun _ => ?_) passed held
  apply keeps_modify
  intro cursor held
  rw [next_element_declared]
  exact held

end Turns

end Cesr.Stream
