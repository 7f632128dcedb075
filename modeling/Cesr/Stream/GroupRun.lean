import Cesr.Stream.GroupCursor

set_option autoImplicit false

namespace Cesr.Stream

open Checks Calls Resume

def LimitReached (error : ParseError) : Prop := ∃ kind limit actual, error = .limitExceeded kind limit actual

section Limited

variable (maxBytes maxGroupElements maxSignatures : Nat)

-- The phases of an advance: the budget is checked, the elements are skipped,
-- and the group has to be there as a whole.
def GroupBegun (input : Bytes) (cursor : GroupFrameCursor) : Prop :=
  (cursor.skip ≠ none → cursor.endOffset ≤ input.length) ∧ ElementFits (groupWindow maxBytes cursor input) cursor

def GroupBudgeted (input : Bytes) (cursor : GroupFrameCursor) : Prop :=
  GroupBegun maxBytes input cursor ∧ cursor.endOffset ≤ maxBytes ∧ cursor.signatureTotal ≤ maxSignatures

def GroupSkipped (input : Bytes) (cursor : GroupFrameCursor) : Prop :=
  GroupBudgeted maxBytes maxSignatures input cursor ∧ (cursor.skip ≠ none → cursor.remaining = 0)

theorem group_begun_longer (input more : Bytes) (cursor : GroupFrameCursor) (begun : GroupBegun maxBytes input cursor) :
    GroupBegun maxBytes (input ++ more) cursor := by
  refine ⟨?_, ?_⟩
  · intro elements
    have reach := begun.1 elements
    rw [List.length_append]
    omega
  · intro nested inside
    obtain ⟨within, synced⟩ := begun.2 nested inside
    refine ⟨?_, synced⟩
    unfold NestedWithin groupWindow at within ⊢
    rw [List.length_drop, List.length_take] at within ⊢
    rw [List.length_append]
    omega

def takeBudget : Mutator GroupFrameCursor ParseError Unit := do
  let cursor ← get
  check (cursor.checkBudget maxBytes maxSignatures)

def takeEnd (input : Bytes) : Mutator GroupFrameCursor ParseError Nat := do
  let cursor ← get
  check (cursor.complete input)

theorem exec_take_budget (cursor : GroupFrameCursor) :
    exec (takeBudget maxBytes maxSignatures) cursor = (cursor.checkBudget maxBytes maxSignatures, cursor) := by
  rw [takeBudget, exec_get_bind, exec_check]

theorem exec_take_end (input : Bytes) (cursor : GroupFrameCursor) : exec (takeEnd input) cursor = (cursor.complete input, cursor) := by
  rw [takeEnd, exec_get_bind, exec_check]

theorem check_budget_ok (cursor : GroupFrameCursor) :
    cursor.checkBudget maxBytes maxSignatures = .ok () ↔
      cursor.signatureTotal ≤ maxSignatures ∧ cursor.endOffset ≤ maxBytes := by
  simp only [GroupFrameCursor.checkBudget, GroupFrameCursor.checkBytes, bind_ok, reject_if_ok, exists_done, Nat.not_lt]

theorem check_budget_error (cursor : GroupFrameCursor) (error : ParseError)
    (failed : cursor.checkBudget maxBytes maxSignatures = .error error) : LimitReached error := by
  simp only [GroupFrameCursor.checkBudget, GroupFrameCursor.checkBytes, bind_error, reject_if_error] at failed
  rcases failed with ⟨_, same⟩ | ⟨_, _, _, same⟩ <;> exact ⟨_, _, _, same.symm⟩

theorem advance_limited_phases (input : Bytes) :
    GroupFrameCursor.advanceLimited maxBytes maxGroupElements maxSignatures input =
      takeBudget maxBytes maxSignatures >>= fun _ =>
        GroupFrameCursor.skipElements maxBytes maxGroupElements maxSignatures input >>= fun _ => takeEnd input := by
  rw [GroupFrameCursor.advanceLimited, takeBudget, takeEnd, bind_assoc]

theorem exec_skip_elements (kind : GroupKind) (input : Bytes) (cursor : GroupFrameCursor) (elements : cursor.skip = some kind) :
    exec (GroupFrameCursor.skipElements maxBytes maxGroupElements maxSignatures input) cursor =
      exec (whileLeft GroupFrameCursor.remaining (GroupFrameCursor.turn kind maxBytes maxGroupElements maxSignatures input))
        cursor := by
  rw [GroupFrameCursor.skipElements, exec_get_bind]
  simp only [elements]

theorem exec_skip_quadlets (input : Bytes) (cursor : GroupFrameCursor) (quadlets : cursor.skip = none) :
    exec (GroupFrameCursor.skipElements maxBytes maxGroupElements maxSignatures input) cursor = (.ok (), cursor) := by
  rw [GroupFrameCursor.skipElements, exec_get_bind]
  simp only [quadlets]
  rfl

theorem take_budget_resumable :
    CursorResumable (GroupBegun maxBytes) NeedsBytes (fun _ : Bytes => takeBudget maxBytes maxSignatures) := by
  apply cursor_resumable
  · exact fun start more cursor done next begun given => given
  · exact fun start more cursor error next begun given long => ⟨error, next, given, long⟩
  · intro start more cursor error next begun given wait
    rw [exec_take_budget] at given
    obtain ⟨kind, limit, actual, same⟩ := check_budget_error maxBytes maxSignatures cursor error (Prod.mk.inj given).1
    rw [same] at wait
    exact absurd wait (limit_not_short kind limit actual)

theorem group_budgeted_sync (input : Bytes) (cursor : GroupFrameCursor)
    (budgeted : GroupBudgeted maxBytes maxSignatures input cursor) : GroupSync maxSignatures cursor := by
  apply GroupSync.mk
  · exact budgeted.2.2
  · exact fun nested inside => (budgeted.1.2 nested inside).2

theorem group_budgeted_fits (kind : GroupKind) (input : Bytes) (cursor : GroupFrameCursor) (elements : cursor.skip = some kind)
    (budgeted : GroupBudgeted maxBytes maxSignatures input cursor) : GroupFits maxBytes input cursor := by
  refine ⟨?_, budgeted.1.2⟩
  have reach := budgeted.1.1 (by rw [elements]; exact nofun)
  have room := budgeted.2.1
  unfold GroupWithin
  omega

theorem skip_elements_budgeted (kind : GroupKind) (input longer : Bytes) (cursor next : GroupFrameCursor)
    (answer : Except ParseError Unit) (elements : cursor.skip = some kind)
    (budgeted : GroupBudgeted maxBytes maxSignatures input cursor)
    (ran : exec (whileLeft GroupFrameCursor.remaining
      (GroupFrameCursor.turn kind maxBytes maxGroupElements maxSignatures input)) cursor = (answer, next))
    (fits : GroupFits maxBytes longer next) :
    next.skip = some kind ∧ GroupBudgeted maxBytes maxSignatures longer next := by
  have declared := keeps_while _ GroupFrameCursor.remaining _
    (turn_keeps_declared kind maxBytes maxGroupElements maxSignatures input cursor) cursor rfl
  have sync := keeps_while _ GroupFrameCursor.remaining _ (turn_sync kind maxBytes maxGroupElements maxSignatures input) cursor
    (group_budgeted_sync maxBytes maxSignatures input cursor budgeted)
  rw [ran] at declared sync
  have within := fits.1
  unfold GroupWithin at within
  have kept : next.skip = cursor.skip := congrArg (fun fields => fields.2.1) declared
  refine ⟨by rw [kept, elements], ⟨fun _ => ?_, fits.2⟩, ?_, sync.budget⟩
  · omega
  · omega

theorem skip_elements_resumable :
    CursorResumable (GroupBudgeted maxBytes maxSignatures) NeedsBytes
      (GroupFrameCursor.skipElements maxBytes maxGroupElements maxSignatures) := by
  apply cursor_resumable
  · intro start more cursor done next budgeted given
    cases elements : cursor.skip with
    | none =>
        rw [exec_skip_quadlets _ _ _ _ cursor elements] at given ⊢
        exact given
    | some kind =>
        rw [exec_skip_elements _ _ _ kind _ cursor elements] at given ⊢
        exact resumable_ok (elements_resumable kind maxBytes maxGroupElements maxSignatures) start more cursor next done
          (group_budgeted_fits maxBytes maxSignatures kind start cursor elements budgeted) given
  · intro start more cursor error next budgeted given long
    cases elements : cursor.skip with
    | none =>
        rw [exec_skip_quadlets _ _ _ _ cursor elements] at given
        cases given
    | some kind =>
        rw [exec_skip_elements _ _ _ kind _ cursor elements] at given ⊢
        exact resumable_error (elements_resumable kind maxBytes maxGroupElements maxSignatures) start more cursor next error
          (group_budgeted_fits maxBytes maxSignatures kind start cursor elements budgeted) given long
  · intro start more cursor error next budgeted given wait
    cases elements : cursor.skip with
    | none =>
        rw [exec_skip_quadlets _ _ _ _ cursor elements] at given
        cases given
    | some kind =>
        rw [exec_skip_elements _ _ _ kind _ cursor elements] at given ⊢
        obtain ⟨again, fits⟩ := resumable_short (elements_resumable kind maxBytes maxGroupElements maxSignatures) start more
          cursor next error (group_budgeted_fits maxBytes maxSignatures kind start cursor elements budgeted) given wait
        obtain ⟨kept, budgeted'⟩ := skip_elements_budgeted maxBytes maxGroupElements maxSignatures kind start (start ++ more)
          cursor next _ elements budgeted given fits
        rw [exec_skip_elements _ _ _ kind _ next kept]
        exact ⟨again, budgeted'⟩

theorem skip_elements_reaches (input : Bytes) (cursor next : GroupFrameCursor)
    (budgeted : GroupBudgeted maxBytes maxSignatures input cursor)
    (given : exec (GroupFrameCursor.skipElements maxBytes maxGroupElements maxSignatures input) cursor = (.ok (), next)) :
    GroupSkipped maxBytes maxSignatures input next := by
  cases elements : cursor.skip with
  | none =>
      rw [exec_skip_quadlets _ _ _ _ cursor elements] at given
      cases given
      exact ⟨budgeted, fun some => absurd elements some⟩
  | some kind =>
      have fits := group_budgeted_fits maxBytes maxSignatures kind input cursor elements budgeted
      rw [exec_skip_elements _ _ _ kind _ cursor elements] at given
      have ran := given
      rw [exec_while_left] at ran
      have finished := repeat_ok_invariant _
        (fun count state => GroupFits maxBytes input state ∧ state.remaining = count)
        (by
          intro count state after held first
          obtain ⟨fits', fewer⟩ := turn_counts kind maxBytes maxGroupElements maxSignatures input state after held.1
            (by rw [held.2]; exact Nat.succ_pos count) first
          have counted := held.2
          exact ⟨fits', by omega⟩)
        cursor.remaining cursor next ⟨fits, rfl⟩ ran
      obtain ⟨_, budgeted'⟩ := skip_elements_budgeted maxBytes maxGroupElements maxSignatures kind input input cursor next _
        elements budgeted given finished.1
      exact ⟨budgeted', fun _ => finished.2⟩

theorem skip_elements_idle (input : Bytes) (cursor : GroupFrameCursor) (skipped : GroupSkipped maxBytes maxSignatures input cursor) :
    exec (GroupFrameCursor.skipElements maxBytes maxGroupElements maxSignatures input) cursor = (.ok (), cursor) := by
  cases elements : cursor.skip with
  | none => exact exec_skip_quadlets _ _ _ _ cursor elements
  | some kind =>
      rw [exec_skip_elements _ _ _ kind _ cursor elements, exec_while_left, skipped.2 (by rw [elements]; exact nofun)]
      rfl

theorem complete_ok (input : Bytes) (cursor : GroupFrameCursor) (size : Nat) :
    cursor.complete input = .ok size ↔ cursor.endOffset ≤ input.length ∧ cursor.endOffset = size := by
  simp only [GroupFrameCursor.complete, bind_ok, reject_if_ok, exists_done, pure_ok, Nat.not_lt]

theorem complete_error (input : Bytes) (cursor : GroupFrameCursor) (error : ParseError) :
    cursor.complete input = .error error ↔
      input.length < cursor.endOffset ∧ .needBytes (cursor.endOffset - input.length) = error := by
  simp only [GroupFrameCursor.complete, bind_error, reject_if_error, pure_error, and_false, exists_false, or_false]

theorem take_end_resumable : CursorResumable (GroupSkipped maxBytes maxSignatures) NeedsBytes takeEnd := by
  apply cursor_resumable
  · intro start more cursor size next skipped given
    rw [exec_take_end] at given ⊢
    obtain ⟨accepted, same⟩ := Prod.mk.inj given
    obtain ⟨reach, sized⟩ := (complete_ok start cursor size).mp accepted
    rw [same, ← same, (complete_ok (start ++ more) cursor size).mpr ⟨by rw [List.length_append]; omega, sized⟩]
  · intro start more cursor error next skipped given long
    rw [exec_take_end] at given
    obtain ⟨_, same⟩ := (complete_error start cursor error).mp (Prod.mk.inj given).1
    rw [← same] at long
    exact absurd (needs_bytes _) long
  · intro start more cursor error next skipped given wait
    rw [exec_take_end] at given
    rw [← (Prod.mk.inj given).2]
    exact ⟨rfl, ⟨group_begun_longer maxBytes start more cursor skipped.1.1, skipped.1.2⟩, skipped.2⟩

theorem advance_limited_resumable :
    CursorResumable (GroupBegun maxBytes) NeedsBytes
      (GroupFrameCursor.advanceLimited maxBytes maxGroupElements maxSignatures) := by
  rw [funext (advance_limited_phases maxBytes maxGroupElements maxSignatures)]
  apply @resumable_bind _ _ _ _ _ (GroupBudgeted maxBytes maxSignatures)
  · exact take_budget_resumable maxBytes maxSignatures
  · apply @resumable_bind _ _ _ _ _ (GroupSkipped maxBytes maxSignatures)
    · exact skip_elements_resumable maxBytes maxGroupElements maxSignatures
    · exact take_end_resumable maxBytes maxSignatures
    · exact fun input cursor next budgeted given =>
        skip_elements_reaches maxBytes maxGroupElements maxSignatures input cursor next budgeted given
    · exact fun input cursor skipped =>
        ⟨skipped.1, skip_elements_idle maxBytes maxGroupElements maxSignatures input cursor skipped⟩
  · intro input cursor next begun given
    rw [exec_take_budget] at given
    obtain ⟨passed, same⟩ := Prod.mk.inj given
    obtain ⟨signatures, bytes⟩ := (check_budget_ok maxBytes maxSignatures cursor).mp passed
    rw [← same]
    exact ⟨begun, bytes, signatures⟩
  · intro input cursor budgeted
    refine ⟨budgeted.1, ?_⟩
    rw [exec_take_budget, (check_budget_ok maxBytes maxSignatures cursor).mpr ⟨budgeted.2.2, budgeted.2.1⟩]

end Limited

section Nested

variable (version : CesrVersion) (maxGroupElements maxSignatures : Nat)

-- No nested counter can declare more than these limits allow.
def NestedLoose : Prop := 2 ^ 32 ≤ maxGroupElements ∧ 2 ^ 32 ≤ maxSignatures

theorem read_bounded_follows (cursor : NestedSigCursor) (tail : Bytes) :
    NestedSigCursor.readBounded version maxGroupElements maxSignatures cursor tail = cursor.readCount version tail ∨
      ¬NestedLoose maxGroupElements maxSignatures ∧
        ∃ error, NestedSigCursor.readBounded version maxGroupElements maxSignatures cursor tail = .error error ∧
          LimitReached error := by
  unfold NestedSigCursor.readBounded
  cases counted : cursor.readCount version tail with
  | error error => exact .inl rfl
  | ok read =>
      have small := read.1.isLt
      rw [ok_bind]
      by_cases elements : maxGroupElements < read.1.val
      · refine .inr ⟨fun loose => ?_, .limitExceeded .groupElements maxGroupElements read.1.val, ?_, _, _, _, rfl⟩
        · have large := loose.1
          omega
        · rw [rejectIf, if_pos elements]
          rfl
      · rw [rejectIf, if_neg elements, ok_bind]
        by_cases signatures : maxSignatures < read.1.val
        · refine .inr ⟨fun loose => ?_, .limitExceeded .signatures maxSignatures read.1.val, ?_, _, _, _, rfl⟩
          · have large := loose.2
            omega
          · rw [rejectIf, if_pos signatures]
            rfl
        · rw [rejectIf, if_neg signatures]
          exact .inl rfl

theorem read_bounded_unlimited (cursor : NestedSigCursor) (tail : Bytes) :
    NestedSigCursor.readBounded version usizeMax usizeMax cursor tail = cursor.readCount version tail := by
  rcases read_bounded_follows version usizeMax usizeMax cursor tail with same | ⟨tight, _⟩
  · exact same
  · exact absurd ⟨by decide, by decide⟩ tight

theorem take_counter_follows (input : Bytes) (cursor : NestedSigCursor) :
    exec (NestedSigCursor.takeCounter version maxGroupElements maxSignatures input) cursor =
        exec (NestedSigCursor.takeCounter version usizeMax usizeMax input) cursor ∨
      ¬NestedLoose maxGroupElements maxSignatures ∧
        ∃ error, exec (NestedSigCursor.takeCounter version maxGroupElements maxSignatures input) cursor = (.error error, cursor) ∧
          LimitReached error := by
  cases counted : cursor.sigsLeft with
  | some left =>
      rw [take_counter_some _ _ _ _ _ left counted, take_counter_some _ _ _ _ _ left counted]
      exact .inl rfl
  | none =>
      rw [take_counter_none _ _ _ _ _ counted, take_counter_none _ _ _ _ _ counted, readAt, readAt, exec_get_bind, exec_get_bind,
        exec_bind, exec_bind, exec_check]
      by_cases few : input.length < cursor.pos
      · rw [rejectIf, if_pos few]
        exact .inl rfl
      · rw [rejectIf, if_neg few]
        dsimp only
        rw [exec_bind, exec_bind, exec_check, exec_check, read_bounded_unlimited]
        rcases read_bounded_follows version maxGroupElements maxSignatures cursor (input.drop cursor.pos) with same | tight
        · rw [same]
          exact .inl rfl
        · obtain ⟨bites, error, refused, reason⟩ := tight
          rw [refused]
          exact .inr ⟨bites, error, rfl, reason⟩

theorem advance_bounded_follows (input : Bytes) (cursor : NestedSigCursor) :
    exec (NestedSigCursor.advanceBounded version maxGroupElements maxSignatures input) cursor =
        exec (NestedSigCursor.advance version input) cursor ∨
      ¬NestedLoose maxGroupElements maxSignatures ∧
        ∃ error final, exec (NestedSigCursor.advanceBounded version maxGroupElements maxSignatures input) cursor =
          (.error error, final) ∧ LimitReached error := by
  rw [NestedSigCursor.advance, NestedSigCursor.advanceBounded, NestedSigCursor.advanceBounded, exec_bind, exec_bind]
  cases exec (whileLeft NestedSigCursor.mattersLeft (NestedSigCursor.takeMatter input)) cursor with
  | mk answer middle =>
      cases answer with
      | error error => exact .inl rfl
      | ok done =>
          dsimp only
          rw [exec_bind, exec_bind]
          rcases take_counter_follows version maxGroupElements maxSignatures input middle with same | tight
          · rw [same]
            exact .inl rfl
          · obtain ⟨bites, error, refused, reason⟩ := tight
            rw [refused]
            exact .inr ⟨bites, error, middle, rfl, reason⟩

end Nested

section Elements

variable (kind : GroupKind) (maxBytes maxGroupElements maxSignatures : Nat)

def GroupKind.declaredSigs (kind : GroupKind) (version : CesrVersion) (input : Bytes) : Nat :=
  match kind.nestedSigGrammar with
  | none => 0
  | some grammar =>
      match skipMatters grammar.1 input with
      | .error _ => 0
      | .ok matters =>
          match (NestedSigCursor.new grammar.1 grammar.2.1 grammar.2.2).readCount version (input.drop matters) with
          | .error _ => 0
          | .ok read => read.1.val

def GroupKind.declaredSigsAll (kind : GroupKind) (version : CesrVersion) : Nat → Bytes → Nat
  | 0, _ => 0
  | count + 1, base =>
      kind.declaredSigs version base +
        match kind.skip base version with
        | .error _ => 0
        | .ok size => kind.declaredSigsAll version count (base.drop size)

theorem declared_small (version : CesrVersion) (input : Bytes) : kind.declaredSigs version input < 2 ^ 32 := by
  unfold GroupKind.declaredSigs
  cases kind.nestedSigGrammar with
  | none => exact Nat.two_pow_pos 32
  | some grammar =>
      dsimp only
      cases skipMatters grammar.1 input with
      | error error => exact Nat.two_pow_pos 32
      | ok matters =>
          dsimp only
          cases (NestedSigCursor.new grammar.1 grammar.2.1 grammar.2.2).readCount version (input.drop matters) with
          | error error => exact Nat.two_pow_pos 32
          | ok read => exact read.1.isLt

structure AtElement (cursor : GroupFrameCursor) : Prop where
  nested : cursor.nested = kind.nestedSigGrammar.map fun grammar => NestedSigCursor.new grammar.1 grammar.2.1 grammar.2.2
  fresh : cursor.nestedCounted = false

theorem skip_element_follows (tail : Bytes) (cursor : GroupFrameCursor) (at' : AtElement kind cursor) :
    Follows NeedsBytes LimitReached
      (kind.nestedSigGrammar ≠ none ∧ ¬NestedLoose maxGroupElements (maxSignatures - cursor.signatureTotal))
      (kind.skip tail cursor.version)
      (fun size result next => size = result ∧
        next.nextElement = { cursor with
          remaining := cursor.remaining - 1, signatureTotal := cursor.signatureTotal + kind.declaredSigs cursor.version tail })
      (exec (GroupFrameCursor.skipElement kind tail maxGroupElements maxSignatures) cursor) := by
  cases grammar : kind.nestedSigGrammar with
  | none =>
      have plain : cursor.nested = none := by rw [at'.nested, grammar, Option.map_none]
      rw [exec_skip_plain kind _ _ _ cursor plain]
      cases skipped : kind.skip tail cursor.version with
      | error error => exact .failed error error cursor rfl rfl Iff.rfl
      | ok size =>
          refine .taken size size cursor rfl rfl ⟨rfl, ?_⟩
          unfold GroupFrameCursor.nextElement GroupKind.declaredSigs
          simp only [plain, grammar, Nat.add_zero]
  | some grammar' =>
      have inside : cursor.nested = some (NestedSigCursor.new grammar'.1 grammar'.2.1 grammar'.2.2) := by
        rw [at'.nested, grammar, Option.map_some]
      have skips : kind.skip tail cursor.version = outcome (NestedSigCursor.advance cursor.version tail)
          (NestedSigCursor.new grammar'.1 grammar'.2.1 grammar'.2.2) := by
        unfold GroupKind.skip
        simp only [grammar]
      rw [exec_skip_nested kind _ _ _ cursor _ inside, exec_on_part, skips, outcome]
      rcases advance_bounded_follows cursor.version maxGroupElements (maxSignatures - cursor.signatureTotal) tail
        (NestedSigCursor.new grammar'.1 grammar'.2.1 grammar'.2.2) with same | tight
      · rw [same]
        cases ran : exec (NestedSigCursor.advance cursor.version tail)
          (NestedSigCursor.new grammar'.1 grammar'.2.1 grammar'.2.2) with
        | mk answer final =>
            cases answer with
            | error error => exact .failed error error _ rfl rfl Iff.rfl
            | ok size =>
                refine .taken size size _ rfl rfl ⟨rfl, ?_⟩
                obtain ⟨matters, read, signatures, skipped, counted, _, _, ended⟩ :=
                  (advance_bounded_ok cursor.version usizeMax usizeMax tail _ final size rfl rfl).mp ran
                rw [read_bounded_unlimited] at counted
                have count : kind.declaredSigs cursor.version tail = read.1.val := by
                  unfold GroupKind.declaredSigs
                  simp only [grammar]
                  rw [show skipMatters grammar'.1 tail = .ok matters from skipped]
                  dsimp only
                  rw [counted]
                rw [keep_nested_declared final cursor read.1.val at'.fresh (by rw [ended]; rfl), count]
                unfold GroupFrameCursor.nextElement
                dsimp only
                rw [inside, at'.fresh, ended]
                rfl
      · obtain ⟨bites, error, final, refused, reason⟩ := tight
        rw [refused]
        refine .gave error _ ⟨?_, bites⟩ rfl reason
        intro ended
        cases ended

theorem declared_sigs_settled (version : CesrVersion) (start more : Bytes) (size : Nat)
    (skipped : kind.skip start version = .ok size) :
    kind.declaredSigs version (start ++ more) = kind.declaredSigs version start := by
  unfold GroupKind.declaredSigs
  unfold GroupKind.skip at skipped
  cases grammar : kind.nestedSigGrammar with
  | none => rfl
  | some grammar' =>
      simp only [grammar] at skipped
      obtain ⟨head, read, signatures, matters, counted, _, _⟩ := (advance_new_ok _ _ _ _ _ _).mp skipped
      have reach : head ≤ start.length := (skip_matters_reads grammar'.1).within start head matters
      dsimp only
      rw [matters, (skip_matters_reads grammar'.1).steady.settled start more head matters]
      dsimp only
      rw [counted, List.drop_append_of_le_length reach, (read_count_reads _ version).steady.settled _ more read counted]

structure GroupLoose (input : Bytes) (cursor : GroupFrameCursor) : Prop where
  bytes : input.length < maxBytes
  elements : 2 ^ 32 ≤ maxGroupElements
  signatures : cursor.signatureTotal + cursor.remaining * 2 ^ 32 ≤ maxSignatures

def GroupFrameCursor.past (size declared : Nat) (cursor : GroupFrameCursor) : GroupFrameCursor :=
  { cursor with
    endOffset := cursor.endOffset + size
    remaining := cursor.remaining - 1
    signatureTotal := cursor.signatureTotal + declared }

theorem group_window_rest (input : Bytes) (cursor : GroupFrameCursor) (within : GroupWithin maxBytes input cursor) :
    input.drop cursor.endOffset = groupWindow maxBytes cursor input ++ input.drop maxBytes := by
  have reach : cursor.endOffset ≤ (input.take maxBytes).length := by
    unfold GroupWithin at within
    rw [List.length_take]
    omega
  rw [groupWindow, ← List.drop_append_of_le_length reach, List.take_append_drop]

theorem pass_next_element (size : Nat) (cursor : GroupFrameCursor) :
    (cursor.passElement size).nextElement = cursor.nextElement.passElement size := by
  unfold GroupFrameCursor.nextElement GroupFrameCursor.passElement
  dsimp only
  cases cursor.nested <;> rfl

theorem turn_follows (input : Bytes) (cursor : GroupFrameCursor) (at' : AtElement kind cursor)
    (within : GroupWithin maxBytes input cursor) (some : 0 < cursor.remaining) :
    Follows NeedsBytes LimitReached (¬GroupLoose maxBytes maxGroupElements maxSignatures input cursor)
      (kind.skip (input.drop cursor.endOffset) cursor.version)
      (fun size _ next => next = cursor.past size (kind.declaredSigs cursor.version (input.drop cursor.endOffset)) ∧
        GroupWithin maxBytes input next)
      (exec (GroupFrameCursor.turn kind maxBytes maxGroupElements maxSignatures input) cursor) := by
  have rest := group_window_rest maxBytes input cursor within
  have reads := group_skip_reads kind cursor.version
  generalize ran : exec (GroupFrameCursor.skipElement kind (groupWindow maxBytes cursor input) maxGroupElements maxSignatures)
    cursor = answered
  obtain ⟨answer, middle⟩ := answered
  have follows := skip_element_follows kind maxGroupElements maxSignatures (groupWindow maxBytes cursor input) cursor at'
  rw [ran] at follows
  rw [exec_turn kind maxBytes maxGroupElements maxSignatures input cursor middle answer within ran]
  cases follows with
  | gave error final bites given reason =>
      obtain ⟨refused, _⟩ := Prod.mk.inj given
      rw [refused, Except.mapError, finish_turn_error]
      refine .gave _ middle (fun loose => bites.2 ⟨loose.elements, ?_⟩) rfl ?_
      · have room := loose.signatures
        have large : 1 * 2 ^ 32 ≤ cursor.remaining * 2 ^ 32 := Nat.mul_le_mul_right _ some
        omega
      · obtain ⟨kind', limit, actual, same⟩ := reason
        rw [same]
        exact ⟨kind', limit, actual, rfl⟩
  | failed error other final read given same =>
      obtain ⟨refused, _⟩ := Prod.mk.inj given
      rw [refused, Except.mapError, finish_turn_error]
      by_cases wait : NeedsBytes error
      · by_cases full : maxBytes ≤ input.length
        · obtain ⟨missing, short⟩ := wait
          rw [short, overBudget, if_pos full]
          exact .gave _ middle (fun loose => absurd loose.bytes (Nat.not_lt_of_le full)) rfl ⟨_, _, _, rfl⟩
        · have whole : input.drop cursor.endOffset = groupWindow maxBytes cursor input := by
            rw [rest, List.drop_of_length_le (by omega), List.append_nil]
          refine .failed _ other middle (by rw [whole]; exact read) rfl ?_
          rw [over_budget_short, same]
          exact and_iff_left (Nat.lt_of_not_le full)
      · obtain ⟨again, read', long⟩ := reads.steady.refused _ (input.drop maxBytes) other read (fun short => wait (same.mpr short))
        rw [← rest] at read'
        refine .failed _ again middle read' rfl ?_
        rw [over_budget_short]
        exact Iff.intro (fun found => absurd found.1 wait) (fun found => absurd found long)
  | taken size result final read given reached =>
      obtain ⟨accepted, _⟩ := Prod.mk.inj given
      have inside := reads.within _ size read
      have positive := group_skip_pos kind cursor.version _ size read
      have settled := reads.steady.settled _ (input.drop maxBytes) size read
      have declared := declared_sigs_settled kind cursor.version _ (input.drop maxBytes) size read
      rw [← rest] at settled declared
      obtain ⟨sized, moved⟩ := reached
      have bounds := within
      unfold GroupWithin at bounds
      rw [groupWindow, List.length_drop, List.length_take, id] at inside
      obtain ⟨nested, counted, total, framed⟩ := skip_element_frame kind maxGroupElements maxSignatures _ cursor middle answer ran
      have same : (middle.passElement size).nextElement =
          cursor.past size (kind.declaredSigs cursor.version (input.drop cursor.endOffset)) := by
        rw [pass_next_element, (Prod.mk.inj given).2, moved, declared]
        rfl
      rw [accepted, ← sized]
      refine .taken size () (cursor.past size (kind.declaredSigs cursor.version (input.drop cursor.endOffset))) settled ?_ ⟨rfl, ?_⟩
      · refine (finish_turn_ok maxBytes _ middle _).mpr ⟨size, rfl, by omega, ?_, same.symm⟩
        rw [framed]
        show cursor.endOffset + size ≤ maxBytes
        omega
      · unfold GroupWithin GroupFrameCursor.past
        dsimp only
        omega

theorem past_loose (input : Bytes) (size declared : Nat) (cursor : GroupFrameCursor) (some : 0 < cursor.remaining)
    (small : declared < 2 ^ 32) (loose : GroupLoose maxBytes maxGroupElements maxSignatures input cursor) :
    GroupLoose maxBytes maxGroupElements maxSignatures input (cursor.past size declared) := by
  apply GroupLoose.mk
  · exact loose.bytes
  · exact loose.elements
  · have room := loose.signatures
    have fewer : cursor.remaining = cursor.remaining - 1 + 1 := by omega
    rw [fewer, Nat.add_mul] at room
    show cursor.signatureTotal + declared + (cursor.remaining - 1) * 2 ^ 32 ≤ maxSignatures
    omega

-- The elements of a group follow the elements of the grammar, and the signatures
-- declared on the way are those of the elements that were passed.
theorem elements_follow (input : Bytes) (cursor : GroupFrameCursor) (at' : AtElement kind cursor)
    (within : GroupWithin maxBytes input cursor) :
    Follows NeedsBytes LimitReached (¬GroupLoose maxBytes maxGroupElements maxSignatures input cursor)
      (kind.skipAll cursor.version cursor.remaining (input.drop cursor.endOffset))
      (fun total _ final => final = { cursor with
          endOffset := cursor.endOffset + total
          remaining := 0
          signatureTotal := cursor.signatureTotal +
            kind.declaredSigsAll cursor.version cursor.remaining (input.drop cursor.endOffset) } ∧
        GroupWithin maxBytes input final)
      (exec (whileLeft GroupFrameCursor.remaining (GroupFrameCursor.turn kind maxBytes maxGroupElements maxSignatures input))
        cursor) := by
  -- What is behind the cursor and what is before it declare the same in every turn.
  let ready (count : Nat) (state : GroupFrameCursor) : Prop := ∃ total declared,
    state = { cursor with
      endOffset := cursor.endOffset + total, remaining := count, signatureTotal := cursor.signatureTotal + declared } ∧
    GroupWithin maxBytes input state ∧
    declared + kind.declaredSigsAll cursor.version count (input.drop (cursor.endOffset + total)) =
      kind.declaredSigsAll cursor.version cursor.remaining (input.drop cursor.endOffset)
  have one : ∀ count state, ready (count + 1) state →
      Follows NeedsBytes LimitReached (¬GroupLoose maxBytes maxGroupElements maxSignatures input state)
        (kind.skip (input.drop state.endOffset) cursor.version)
        (fun size _ next => ready count next ∧ next.endOffset = state.endOffset + size ∧
          (¬GroupLoose maxBytes maxGroupElements maxSignatures input next →
            ¬GroupLoose maxBytes maxGroupElements maxSignatures input state))
        (exec (GroupFrameCursor.turn kind maxBytes maxGroupElements maxSignatures input) state) := by
    intro count state held
    obtain ⟨total, declared, framed, within', tally⟩ := held
    have left : 0 < state.remaining := by
      rw [framed]
      exact Nat.succ_pos count
    have here : AtElement kind state := by
      rw [framed]
      exact ⟨at'.nested, at'.fresh⟩
    have version : state.version = cursor.version := by rw [framed]
    have turn := turn_follows kind maxBytes maxGroupElements maxSignatures input state here within' left
    rw [version] at turn
    refine follows_weaken turn id ?_
    intro size done next read reached
    obtain ⟨moved, inside⟩ := reached
    have place : state.endOffset = cursor.endOffset + total := by rw [framed]
    refine ⟨⟨total + size, declared + kind.declaredSigs cursor.version (input.drop state.endOffset), ?_, inside, ?_⟩, ?_, ?_⟩
    · rw [moved, framed]
      simp only [GroupFrameCursor.past, Nat.add_assoc, Nat.add_sub_cancel]
    · rw [← tally, GroupKind.declaredSigsAll, ← place, read]
      dsimp only
      rw [List.drop_drop, place, Nat.add_assoc, Nat.add_assoc]
    · rw [moved]
      rfl
    · intro tight loose
      apply tight
      rw [moved]
      exact past_loose maxBytes maxGroupElements maxSignatures input size _ state left (declared_small kind _ _) loose
  rw [exec_while_left, skip_all_eq]
  have start : ready cursor.remaining cursor := ⟨0, 0, rfl, within, Nat.zero_add _⟩
  refine follows_weaken (follows_repeat _ _ input GroupFrameCursor.endOffset ready
    (fun state => ¬GroupLoose maxBytes maxGroupElements maxSignatures input state) one cursor.remaining cursor start) id ?_
  intro total done final read reached
  obtain ⟨⟨total', declared, framed, within', tally⟩, moved⟩ := reached
  rw [framed] at moved
  have same : total' = total := Nat.add_left_cancel moved
  refine ⟨?_, within'⟩
  rw [framed, ← tally, same]
  rfl

end Elements

end Cesr.Stream
