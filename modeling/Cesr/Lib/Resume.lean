import Mathlib.Data.List.Chain
import Cesr.Lib.Calls
import Cesr.Lib.Checks

set_option autoImplicit false

namespace Resume

open Calls Checks

section Readers

variable {α ε ε' β γ : Type}

-- A reader of the head of a stream. It may be short of bytes; any other answer
-- is not taken back when more bytes arrive.
structure Steady (short : ε → Prop) (read : List α → Except ε β) : Prop where
  settled : ∀ start more value, read start = .ok value → read (start ++ more) = .ok value
  refused : ∀ start more error, read start = .error error → ¬short error →
    ∃ other, read (start ++ more) = .error other ∧ ¬short other

-- What a reader accepts, it accepts without the bytes behind the given size.
def Exact (size : β → Nat) (read : List α → Except ε β) : Prop :=
  ∀ stream value, read stream = .ok value → read (stream.take (size value)) = .ok value

def Within (size : β → Nat) (read : List α → Except ε β) : Prop :=
  ∀ stream value, read stream = .ok value → size value ≤ stream.length

theorem steady_same (short : ε → Prop) (read : List α → Except ε β)
    (same : ∀ start more, (∀ error, read start = .error error → ¬short error) → read (start ++ more) = read start) :
    Steady short read := by
  apply Steady.mk
  · intro start more value accepted
    rw [same start more, accepted]
    intro error failed
    rw [accepted] at failed
    cases failed
  · intro start more error failed long
    refine ⟨error, ?_, long⟩
    rw [same start more, failed]
    intro given found
    rw [failed] at found
    rwa [← Except.error.inj found]

theorem steady_const (short : ε → Prop) (result : Except ε β) : Steady short (fun _ : List α => result) :=
  steady_same short _ (fun _ _ _ => rfl)

theorem steady_enough (short : ε → Prop) (count : Nat) (missing : List α → ε) (read : List α → Except ε β)
    (waits : ∀ stream, short (missing stream)) :
    Steady short (fun stream => rejectIf (stream.length < count) (missing stream) >>= fun _ => read (stream.take count)) := by
  apply steady_same
  intro start more long
  by_cases few : start.length < count
  · simp only [rejectIf, if_pos few] at long
    exact absurd (waits start) (long _ rfl)
  · have enough : count ≤ start.length := Nat.le_of_not_lt few
    have more' : ¬(start ++ more).length < count := by
      rw [List.length_append]
      omega
    simp only [rejectIf, if_neg few, if_neg more', List.take_append_of_le_length enough]

theorem steady_bind (short : ε → Prop) (first : List α → Except ε β) (second : β → List α → Except ε γ)
    (steady : Steady short first) (later : ∀ value, Steady short (second value)) :
    Steady short (fun stream => first stream >>= fun value => second value stream) := by
  apply Steady.mk
  · intro start more value accepted
    obtain ⟨middle, head, tail⟩ := (bind_ok _ _ _).mp accepted
    rw [steady.settled start more middle head, ok_bind]
    exact (later middle).settled start more value tail
  · intro start more error failed long
    rcases (bind_error _ _ _).mp failed with head | ⟨middle, head, tail⟩
    · obtain ⟨other, again, longer⟩ := steady.refused start more error head long
      exact ⟨other, (bind_error _ _ _).mpr (.inl again), longer⟩
    · obtain ⟨other, again, longer⟩ := (later middle).refused start more error tail long
      refine ⟨other, ?_, longer⟩
      rw [steady.settled start more middle head, ok_bind, again]

theorem steady_map_error (short : ε → Prop) (short' : ε' → Prop) (wrap : ε → ε') (read : List α → Except ε β)
    (keeps : ∀ error, short' (wrap error) ↔ short error) (steady : Steady short read) :
    Steady short' (fun stream => (read stream).mapError wrap) := by
  apply Steady.mk
  · intro start more value accepted
    rw [map_error_ok] at accepted ⊢
    exact steady.settled start more value accepted
  · intro start more error failed long
    cases answer : read start with
    | ok value =>
        rw [answer] at failed
        cases failed
    | error given =>
        rw [answer] at failed
        have wrapped : wrap given = error := Except.error.inj failed
        rw [← wrapped, keeps] at long
        obtain ⟨other, again, longer⟩ := steady.refused start more given answer long
        refine ⟨wrap other, ?_, ?_⟩
        · rw [again]
          rfl
        · rwa [keeps]

-- A reader that is short of bytes now and accepts later needed bytes that were not there.
theorem short_before (short : ε → Prop) (size : β → Nat) (read : List α → Except ε β) (steady : Steady short read)
    (alone : Exact size read) (start more : List α) (error : ε) (value : β) (waits : read start = .error error)
    (accepted : read (start ++ more) = .ok value) : start.length < size value := by
  by_cases enough : size value ≤ start.length
  · have taken := alone _ _ accepted
    rw [List.take_append_of_le_length enough] at taken
    have settled := steady.settled _ (start.drop (size value)) _ taken
    rw [List.take_append_drop, waits] at settled
    cases settled
  · exact Nat.lt_of_not_le enough

-- A reader that is right about how much of the stream it takes.
structure Reads (short : ε → Prop) (size : β → Nat) (read : List α → Except ε β) : Prop where
  steady : Steady short read
  exact : Exact size read
  within : Within size read

-- The bytes it took, it takes again whatever follows them.
theorem reads_again {short : ε → Prop} {size : β → Nat} {read : List α → Except ε β} (reads : Reads short size read)
    (stream rest : List α) (value : β) (accepted : read stream = .ok value) :
    read (stream.take (size value) ++ rest) = .ok value :=
  reads.steady.settled _ rest _ (reads.exact stream value accepted)

theorem reads_after {short : ε → Prop} {size : β → Nat} {total : γ → Nat} {read : List α → Except ε β}
    (after : β → Except ε γ) (one : Reads short size read)
    (same : ∀ value result, after value = .ok result → total result = size value) :
    Reads short total (fun stream => read stream >>= after) := by
  apply Reads.mk
  · exact steady_bind short read (fun value _ => after value) one.steady (fun value => steady_const short (after value))
  · intro stream result accepted
    obtain ⟨value, head, tail⟩ := (bind_ok _ _ _).mp accepted
    rw [same value result tail]
    exact (bind_ok _ _ _).mpr ⟨value, one.exact stream value head, tail⟩
  · intro stream result accepted
    obtain ⟨value, head, tail⟩ := (bind_ok _ _ _).mp accepted
    rw [same value result tail]
    exact one.within stream value head

theorem steady_then {short : ε → Prop} {size : β → Nat} (first : List α → Except ε β) (second : β → List α → Except ε γ)
    (one : Reads short size first) (two : ∀ value, Steady short (second value)) :
    Steady short (fun stream => first stream >>= fun value => second value (stream.drop (size value))) := by
  apply Steady.mk
  · intro start more value accepted
    obtain ⟨middle, head, tail⟩ := (bind_ok _ _ _).mp accepted
    have reach : size middle ≤ start.length := one.within start middle head
    rw [one.steady.settled start more middle head, ok_bind, List.drop_append_of_le_length reach]
    exact (two middle).settled _ more value tail
  · intro start more error failed long
    rcases (bind_error _ _ _).mp failed with head | ⟨middle, head, tail⟩
    · obtain ⟨other, again, longer⟩ := one.steady.refused start more error head long
      exact ⟨other, (bind_error _ _ _).mpr (.inl again), longer⟩
    · have reach : size middle ≤ start.length := one.within start middle head
      obtain ⟨other, again, longer⟩ := (two middle).refused _ more error tail long
      refine ⟨other, ?_, longer⟩
      rw [one.steady.settled start more middle head, ok_bind, List.drop_append_of_le_length reach]
      exact again

theorem reads_then {short : ε → Prop} {size : β → Nat} {others : β → γ → Nat} {δ : Type} {total : δ → Nat}
    {first : List α → Except ε β} {second : β → List α → Except ε γ} (join : β → γ → δ) (one : Reads short size first)
    (two : ∀ value, Reads short (others value) (second value))
    (adds : ∀ value other, total (join value other) = size value + others value other) :
    Reads short total
      (fun stream => first stream >>= fun value =>
        second value (stream.drop (size value)) >>= fun other => pure (join value other)) := by
  have inner : ∀ value, Steady short (fun stream => second value stream >>= fun other => pure (join value other)) := by
    intro value
    exact steady_bind short (second value) (fun other _ => pure (join value other)) (two value).steady
      (fun other => steady_const short (.ok (join value other)))
  apply Reads.mk
  · exact steady_then first (fun value stream => second value stream >>= fun other => pure (join value other)) one inner
  · intro stream joined accepted
    simp only [bind_ok, pure_ok] at accepted ⊢
    obtain ⟨value, head, other, tail, same⟩ := accepted
    have sized : total joined = size value + others value other := by rw [← same, adds]
    have reach : size value ≤ stream.length := one.within stream value head
    refine ⟨value, ?_, other, ?_, same⟩
    · have again := reads_again one stream ((stream.drop (size value)).take (others value other)) value head
      rwa [← List.take_add, ← sized] at again
    · rw [List.drop_take, sized, Nat.add_sub_cancel_left]
      exact (two value).exact _ other tail
  · intro stream joined accepted
    simp only [bind_ok, pure_ok] at accepted
    obtain ⟨value, head, other, tail, same⟩ := accepted
    have first' := one.within stream value head
    have second' := (two value).within _ other tail
    rw [List.length_drop] at second'
    rw [← same, adds]
    omega

theorem reads_content {short : ε → Prop} {size : β → Nat} {total : γ → Nat} {read : List α → Except ε β} (keep : List α → β → γ)
    (one : Reads short size read) (same : ∀ bytes value, total (keep bytes value) = size value) :
    Reads short total (fun stream => read stream >>= fun value => pure (keep (stream.take (size value)) value)) := by
  apply Reads.mk
  · apply Steady.mk
    · intro start more result accepted
      simp only [bind_ok, pure_ok] at accepted ⊢
      obtain ⟨value, head, kept⟩ := accepted
      have reach := one.within start value head
      exact ⟨value, one.steady.settled start more value head, by rw [List.take_append_of_le_length reach, kept]⟩
    · intro start more error failed long
      simp only [bind_error, pure_error, and_false, exists_false, or_false] at failed
      obtain ⟨other, again, longer⟩ := one.steady.refused start more error failed long
      exact ⟨other, (bind_error _ _ _).mpr (.inl again), longer⟩
  · intro stream result accepted
    simp only [bind_ok, pure_ok] at accepted ⊢
    obtain ⟨value, head, kept⟩ := accepted
    have sized : total result = size value := by rw [← kept, same]
    refine ⟨value, by rw [sized]; exact one.exact stream value head, ?_⟩
    rw [sized, List.take_take, Nat.min_self, kept]
  · intro stream result accepted
    simp only [bind_ok, pure_ok] at accepted
    obtain ⟨value, head, kept⟩ := accepted
    rw [← kept, same]
    exact one.within stream value head

def skipTimes (skip : List α → Except ε Nat) : Nat → List α → Except ε Nat
  | 0, _ => .ok 0
  | count + 1, stream => do
      let first ← skip stream
      let others ← skipTimes skip count (stream.drop first)
      pure (first + others)

theorem skip_times_succ (skip : List α → Except ε Nat) (count : Nat) (stream : List α) (total : Nat) :
    skipTimes skip (count + 1) stream = .ok total ↔
      ∃ first, skip stream = .ok first ∧ ∃ others, skipTimes skip count (stream.drop first) = .ok others ∧
        first + others = total := by
  simp only [skipTimes, bind_ok, pure_ok]

theorem reads_nothing (short : ε → Prop) : Reads short id (fun _ : List α => (.ok 0 : Except ε Nat)) := by
  apply Reads.mk
  · exact steady_const short (.ok 0)
  · intro stream value accepted
    exact accepted
  · intro stream value accepted
    cases accepted
    exact Nat.zero_le _

theorem skip_times_reads {short : ε → Prop} {skip : List α → Except ε Nat} (one : Reads short id skip) (count : Nat) :
    Reads short id (skipTimes skip count) := by
  induction count with
  | zero => exact reads_nothing short
  | succ count ih => exact reads_then (fun first others => first + others) one (fun _ => ih) (fun _ _ => rfl)

end Readers

section Resumption

variable {α σ ε β ρ : Type}

-- A call of a cursor that keeps its state between calls and is given the same
-- stream again with more bytes behind it. Called again after it had to wait, it
-- answers what it would have answered to the longer stream at once.
structure Resumable (fits : List α → σ → Prop) (pending refused : ρ → Prop) (call : List α → σ → ρ × σ) : Prop where
  settled : ∀ start more state answer next, fits start state → call start state = (answer, next) →
    ¬pending answer → ¬refused answer → call (start ++ more) state = (answer, next)
  refused : ∀ start more state answer next, fits start state → call start state = (answer, next) → refused answer →
    ∃ other final, call (start ++ more) state = (other, final) ∧ refused other
  resumed : ∀ start more state answer next, fits start state → call start state = (answer, next) → pending answer →
    call (start ++ more) next = call (start ++ more) state ∧ fits (start ++ more) next

def Waits (short : ε → Prop) (answer : Except ε β) : Prop := ∃ error, answer = .error error ∧ short error

def Fails (short : ε → Prop) (answer : Except ε β) : Prop := ∃ error, answer = .error error ∧ ¬short error

theorem waits_ok (short : ε → Prop) (value : β) : ¬Waits short (.ok value) := by
  intro found
  obtain ⟨_, impossible, _⟩ := found
  cases impossible

theorem fails_ok (short : ε → Prop) (value : β) : ¬Fails short (.ok value) := by
  intro found
  obtain ⟨_, impossible, _⟩ := found
  cases impossible

def CursorResumable (fits : List α → σ → Prop) (short : ε → Prop) (call : List α → Mutator σ ε β) : Prop :=
  Resumable fits (Waits short) (Fails short) (fun stream => exec (call stream))

section Cursors

variable {fits within : List α → σ → Prop} {short : ε → Prop}

theorem cursor_resumable (call : List α → Mutator σ ε β)
    (settled : ∀ start more state value next, fits start state → exec (call start) state = (.ok value, next) →
      exec (call (start ++ more)) state = (.ok value, next))
    (refused : ∀ start more state error next, fits start state → exec (call start) state = (.error error, next) →
      ¬short error → ∃ other final, exec (call (start ++ more)) state = (.error other, final) ∧ ¬short other)
    (resumed : ∀ start more state error next, fits start state → exec (call start) state = (.error error, next) →
      short error → exec (call (start ++ more)) next = exec (call (start ++ more)) state ∧ fits (start ++ more) next) :
    CursorResumable fits short call := by
  apply Resumable.mk
  · intro start more state answer next fit given waits fails
    cases answer with
    | ok value => exact settled start more state value next fit given
    | error error =>
        by_cases wait : short error
        · exact absurd ⟨error, rfl, wait⟩ waits
        · exact absurd ⟨error, rfl, wait⟩ fails
  · intro start more state answer next fit given fails
    obtain ⟨error, same, long⟩ := fails
    rw [same] at given
    obtain ⟨other, final, again, longer⟩ := refused start more state error next fit given long
    exact ⟨.error other, final, again, other, rfl, longer⟩
  · intro start more state answer next fit given waits
    obtain ⟨error, same, wait⟩ := waits
    rw [same] at given
    exact resumed start more state error next fit given wait

section Uses

variable {call : List α → Mutator σ ε β} (resumable : CursorResumable fits short call)

include resumable

theorem resumable_ok (start more : List α) (state next : σ) (value : β) (fit : fits start state)
    (given : exec (call start) state = (.ok value, next)) : exec (call (start ++ more)) state = (.ok value, next) :=
  resumable.settled start more state _ next fit given (waits_ok short value) (fails_ok short value)

theorem resumable_error (start more : List α) (state next : σ) (error : ε) (fit : fits start state)
    (given : exec (call start) state = (.error error, next)) (long : ¬short error) :
    ∃ other final, exec (call (start ++ more)) state = (.error other, final) ∧ ¬short other := by
  obtain ⟨answer, final, again, other, same, longer⟩ :=
    resumable.refused start more state _ next fit given ⟨error, rfl, long⟩
  exact ⟨other, final, by rw [again, same], longer⟩

theorem resumable_short (start more : List α) (state next : σ) (error : ε) (fit : fits start state)
    (given : exec (call start) state = (.error error, next)) (wait : short error) :
    exec (call (start ++ more)) next = exec (call (start ++ more)) state ∧ fits (start ++ more) next :=
  resumable.resumed start more state _ next fit given ⟨error, rfl, wait⟩

end Uses

-- Two phases in a row: the first has nothing to do in a state the second has left.
theorem resumable_bind (first : List α → Mutator σ ε Unit) (second : List α → Mutator σ ε β)
    (one : CursorResumable fits short first) (two : CursorResumable within short second)
    (reaches : ∀ stream state next, fits stream state → exec (first stream) state = (.ok (), next) → within stream next)
    (idle : ∀ stream state, within stream state → fits stream state ∧ exec (first stream) state = (.ok (), state)) :
    CursorResumable fits short (fun stream => first stream >>= fun _ => second stream) := by
  apply cursor_resumable
  · intro start more state value next fit given
    obtain ⟨done, middle, head, tail⟩ := (exec_bind_ok _ _ _ _ _).mp given
    rw [exec_bind, resumable_ok one start more state middle done fit head]
    exact resumable_ok two start more middle next value (reaches start state middle fit head) tail
  · intro start more state error next fit given long
    rw [exec_bind] at given
    cases head : exec (first start) state with
    | mk answer middle =>
        cases answer with
        | error other =>
            rw [head] at given
            cases given
            obtain ⟨again, final, found, longer⟩ := resumable_error one start more state next error fit head long
            exact ⟨again, final, by rw [exec_bind, found], longer⟩
        | ok done =>
            rw [head] at given
            obtain ⟨again, final, found, longer⟩ :=
              resumable_error two start more middle next error (reaches start state middle fit head) given long
            refine ⟨again, final, ?_, longer⟩
            rw [exec_bind, resumable_ok one start more state middle done fit head]
            exact found
  · intro start more state error next fit given wait
    rw [exec_bind] at given
    cases head : exec (first start) state with
    | mk answer middle =>
        cases answer with
        | error other =>
            rw [head] at given
            cases given
            obtain ⟨same, fit'⟩ := resumable_short one start more state next error fit head wait
            exact ⟨by rw [exec_bind, exec_bind, same], fit'⟩
        | ok done =>
            rw [head] at given
            obtain ⟨same, fit'⟩ :=
              resumable_short two start more middle next error (reaches start state middle fit head) given wait
            obtain ⟨fit'', rests⟩ := idle _ _ fit'
            refine ⟨?_, fit''⟩
            rw [exec_bind, exec_bind, rests, resumable_ok one start more state middle done fit head]
            exact same

end Cursors

section Positions

-- A read at the position of a cursor, which then moves on.
def readAt (position : σ → Nat) (missing : Nat → ε) (read : σ → List α → Except ε β) (move : β → σ → σ)
    (stream : List α) : Mutator σ ε Unit := do
  let state ← get
  check (rejectIf (stream.length < position state) (missing (position state - stream.length)))
  let value ← check (read state (stream.drop (position state)))
  modify (move value)

theorem exec_read_at (position : σ → Nat) (missing : Nat → ε) (read : σ → List α → Except ε β) (move : β → σ → σ)
    (stream : List α) (state : σ) (within : position state ≤ stream.length) :
    exec (readAt position missing read move stream) state =
      match read state (stream.drop (position state)) with
      | .ok value => (.ok (), move value state)
      | .error error => (.error error, state) := by
  have enough : ¬stream.length < position state := Nat.not_lt_of_le within
  rw [readAt, exec_get_bind, exec_bind, exec_check, rejectIf, if_neg enough]
  dsimp only
  rw [exec_bind, exec_check]
  cases read state (stream.drop (position state)) with
  | error error => rfl
  | ok value => rfl

theorem read_at_ok (position : σ → Nat) (missing : Nat → ε) (read : σ → List α → Except ε β) (move : β → σ → σ)
    (stream : List α) (state next : σ) (within : position state ≤ stream.length) :
    exec (readAt position missing read move stream) state = (.ok (), next) ↔
      ∃ value, read state (stream.drop (position state)) = .ok value ∧ next = move value state := by
  rw [exec_read_at position missing read move stream state within]
  cases read state (stream.drop (position state)) with
  | error error => simp
  | ok value => simp [eq_comm]

theorem read_at_error (position : σ → Nat) (missing : Nat → ε) (read : σ → List α → Except ε β) (move : β → σ → σ)
    (stream : List α) (state next : σ) (error : ε) (within : position state ≤ stream.length) :
    exec (readAt position missing read move stream) state = (.error error, next) ↔
      read state (stream.drop (position state)) = .error error ∧ next = state := by
  rw [exec_read_at position missing read move stream state within]
  cases read state (stream.drop (position state)) with
  | error other => simp [eq_comm]
  | ok value => simp

theorem keeps_read_at (holds : σ → Prop) (position : σ → Nat) (missing : Nat → ε) (read : σ → List α → Except ε β)
    (move : β → σ → σ)
    (kept : ∀ value state tail, read state tail = .ok value → holds state → holds (move value state)) (stream : List α) :
    Keeps holds (readAt position missing read move stream) := by
  intro state held
  rw [readAt, exec_get_bind, exec_bind, exec_check]
  by_cases few : stream.length < position state
  · rw [rejectIf, if_pos few]
    exact held
  · rw [rejectIf, if_neg few]
    dsimp only
    rw [exec_bind, exec_check]
    cases found : read state (stream.drop (position state)) with
    | error error => exact held
    | ok value => exact kept value state _ found held

theorem read_at_resumable {short : ε → Prop} (fits : List α → σ → Prop) (position : σ → Nat) (missing : Nat → ε)
    (read : σ → List α → Except ε β) (move : β → σ → σ)
    (within : ∀ stream state, fits stream state → position state ≤ stream.length)
    (longer : ∀ stream more state, fits stream state → fits (stream ++ more) state)
    (steady : ∀ state, Steady short (read state)) :
    CursorResumable fits short (readAt position missing read move) := by
  have stretches : ∀ (start more : List α) state, fits start state →
      (start ++ more).drop (position state) = start.drop (position state) ++ more := by
    intro start more state fit
    exact List.drop_append_of_le_length (within start state fit)
  apply cursor_resumable
  · intro start more state value next fit given
    obtain ⟨found, accepted, moved⟩ := (read_at_ok _ _ _ _ _ _ _ (within start state fit)).mp given
    refine (read_at_ok _ _ _ _ _ _ _ (within _ state (longer start more state fit))).mpr ⟨found, ?_, moved⟩
    rw [stretches start more state fit]
    exact (steady state).settled _ more found accepted
  · intro start more state error next fit given long
    obtain ⟨failed, _⟩ := (read_at_error _ _ _ _ _ _ _ _ (within start state fit)).mp given
    obtain ⟨other, again, longer'⟩ := (steady state).refused _ more error failed long
    refine ⟨other, state, ?_, longer'⟩
    refine (read_at_error _ _ _ _ _ _ _ _ (within _ state (longer start more state fit))).mpr ⟨?_, rfl⟩
    rw [stretches start more state fit]
    exact again
  · intro start more state error next fit given wait
    obtain ⟨_, same⟩ := (read_at_error _ _ _ _ _ _ _ _ (within start state fit)).mp given
    rw [same]
    exact ⟨rfl, longer start more state fit⟩

end Positions

section Turns

def repeatTurns (turn : Mutator σ ε Unit) : Nat → Mutator σ ε Unit
  | 0 => pure ()
  | count + 1 => turn >>= fun _ => repeatTurns turn count

def whileLeft (left : σ → Nat) (turn : Mutator σ ε Unit) : Mutator σ ε Unit :=
  get >>= fun state => repeatTurns turn (left state)

theorem exec_while_left (left : σ → Nat) (turn : Mutator σ ε Unit) (state : σ) :
    exec (whileLeft left turn) state = exec (repeatTurns turn (left state)) state :=
  exec_get_bind _ state

theorem exec_repeat_ok (turn : Mutator σ ε Unit) (count : Nat) (state final : σ) :
    exec (repeatTurns turn (count + 1)) state = (.ok (), final) ↔
      ∃ next, exec turn state = (.ok (), next) ∧ exec (repeatTurns turn count) next = (.ok (), final) := by
  rw [repeatTurns, exec_bind_ok]
  apply Iff.intro
  · intro found
    obtain ⟨_, next, first, later⟩ := found
    exact ⟨next, first, later⟩
  · intro found
    obtain ⟨next, first, later⟩ := found
    exact ⟨(), next, first, later⟩

theorem keeps_repeat (holds : σ → Prop) (turn : Mutator σ ε Unit) (kept : Keeps holds turn) (count : Nat) :
    Keeps holds (repeatTurns turn count) := by
  induction count with
  | zero => exact keeps_pure holds ()
  | succ count ih => exact keeps_bind holds turn _ kept (fun _ => ih)

theorem keeps_while (holds : σ → Prop) (left : σ → Nat) (turn : Mutator σ ε Unit) (kept : Keeps holds turn) :
    Keeps holds (whileLeft left turn) := by
  intro state held
  rw [exec_while_left]
  exact keeps_repeat holds turn kept (left state) state held

theorem repeat_ok_invariant (turn : Mutator σ ε Unit) (holds : Nat → σ → Prop)
    (kept : ∀ count state next, holds (count + 1) state → exec turn state = (.ok (), next) → holds count next)
    (count : Nat) (state final : σ) (start : holds count state)
    (given : exec (repeatTurns turn count) state = (.ok (), final)) : holds 0 final := by
  induction count generalizing state with
  | zero =>
      cases given
      exact start
  | succ count ih =>
      obtain ⟨next, first, later⟩ := (exec_repeat_ok _ _ _ _).mp given
      exact ih next (kept count state next start first) later

section SkipLoops

variable {position : σ → Nat} {missing : Nat → ε} {skip : List α → Except ε Nat} {move : Nat → σ → σ}
  (moved : Nat → Nat → σ → σ) (moves : ∀ size state, position (move size state) = position state + size)
  (rests : ∀ state, moved 0 0 state = state)
  (joins : ∀ count first others state, moved count others (move first state) = moved (count + 1) (first + others) state)
  (within : Within id skip)

include moves within

include rests joins

theorem repeat_read_at_ok (stream : List α) (count : Nat) (state next : σ) (reach : position state ≤ stream.length) :
    exec (repeatTurns (readAt position missing (fun _ => skip) move stream) count) state = (.ok (), next) ↔
      ∃ total, skipTimes skip count (stream.drop (position state)) = .ok total ∧ next = moved count total state := by
  induction count generalizing state with
  | zero =>
      simp only [repeatTurns, exec_pure, skipTimes, Prod.mk.injEq, true_and, Except.ok.injEq, exists_eq_left']
      rw [rests]
      exact eq_comm
  | succ count ih =>
      simp only [exec_repeat_ok, read_at_ok position missing _ move stream state _ reach, skip_times_succ]
      apply Iff.intro
      · intro found
        obtain ⟨middle, ⟨first, skipped, same⟩, later⟩ := found
        have reach' : position middle ≤ stream.length := by
          have inside := within _ first skipped
          rw [List.length_drop, id] at inside
          rw [same, moves]
          omega
        obtain ⟨others, tail, final⟩ := (ih middle reach').mp later
        rw [same, moves, ← List.drop_drop] at tail
        exact ⟨first + others, ⟨first, skipped, others, tail, rfl⟩, by rw [final, same, joins]⟩
      · intro found
        obtain ⟨total, ⟨first, skipped, others, tail, counted⟩, final⟩ := found
        have reach' : position (move first state) ≤ stream.length := by
          have inside := within _ first skipped
          rw [List.length_drop, id] at inside
          rw [moves]
          omega
        refine ⟨move first state, ⟨first, skipped, rfl⟩, (ih _ reach').mpr ⟨others, ?_, ?_⟩⟩
        · rw [moves, ← List.drop_drop]
          exact tail
        · rw [final, joins, counted]

end SkipLoops

variable {fits : List α → σ → Prop} {short : ε → Prop}

theorem resumable_while (left : σ → Nat) (turn : List α → Mutator σ ε Unit)
    (one : CursorResumable (fun stream state => fits stream state ∧ 0 < left state) short turn)
    (counted : ∀ stream state next, fits stream state → 0 < left state → exec (turn stream) state = (.ok (), next) →
      fits stream next ∧ left state = left next + 1)
    (waits : ∀ stream state error next, fits stream state → 0 < left state → exec (turn stream) state = (.error error, next) →
      short error → left next = left state) :
    CursorResumable fits short (fun stream => whileLeft left (turn stream)) := by
  apply cursor_resumable
  · intro start more state value next fit given
    rw [exec_while_left] at given ⊢
    generalize sized : left state = count at given ⊢
    induction count generalizing state with
    | zero => exact given
    | succ count ih =>
        have some : 0 < left state := by omega
        obtain ⟨middle, first, later⟩ := (exec_repeat_ok _ _ _ _).mp given
        obtain ⟨fit', fewer⟩ := counted start state middle fit some first
        refine (exec_repeat_ok _ _ _ _).mpr ⟨middle, resumable_ok one start more state middle () ⟨fit, some⟩ first, ?_⟩
        exact ih middle fit' (by omega) later
  · intro start more state error next fit given long
    rw [exec_while_left] at given
    simp only [exec_while_left]
    generalize sized : left state = count at given ⊢
    induction count generalizing state with
    | zero => cases given
    | succ count ih =>
        have some : 0 < left state := by omega
        rw [repeatTurns, exec_bind] at given
        cases first : exec (turn start) state with
        | mk answer middle =>
            cases answer with
            | error other =>
                rw [first] at given
                cases given
                obtain ⟨again, final, found, longer⟩ := resumable_error one start more state next error ⟨fit, some⟩ first long
                exact ⟨again, final, by rw [repeatTurns, exec_bind, found], longer⟩
            | ok done =>
                rw [first] at given
                obtain ⟨fit', fewer⟩ := counted start state middle fit some first
                obtain ⟨again, final, found, longer⟩ := ih middle fit' (by omega) given
                refine ⟨again, final, ?_, longer⟩
                rw [repeatTurns, exec_bind, resumable_ok one start more state middle done ⟨fit, some⟩ first]
                exact found
  · intro start more state error next fit given wait
    simp only [exec_while_left] at given ⊢
    generalize sized : left state = count at given ⊢
    induction count generalizing state with
    | zero => cases given
    | succ count ih =>
        have some : 0 < left state := by omega
        rw [repeatTurns, exec_bind] at given
        cases first : exec (turn start) state with
        | mk answer middle =>
            cases answer with
            | error other =>
                rw [first] at given
                cases given
                obtain ⟨same, fit', _⟩ := resumable_short one start more state next error ⟨fit, some⟩ first wait
                have again := waits start state error next fit some first wait
                exact ⟨by rw [again, sized, repeatTurns, exec_bind, exec_bind, same], fit'⟩
            | ok done =>
                rw [first] at given
                obtain ⟨fit', fewer⟩ := counted start state middle fit some first
                obtain ⟨same, fit''⟩ := ih middle fit' (by omega) given
                refine ⟨?_, fit''⟩
                rw [repeatTurns, exec_bind, resumable_ok one start more state middle done ⟨fit, some⟩ first]
                exact same

end Turns

section Following

variable {α σ ε β γ : Type} {short limited : ε → Prop}

-- A call follows a reading of the same stream: it takes what is read, fails when
-- nothing is read, and is short of bytes exactly when the reading is. Where its
-- limits are tight it may also give up for one of them.
inductive Follows (short limited : ε → Prop) (tight : Prop) (reading : Except ε γ) (reaches : γ → β → σ → Prop)
    (answer : Except ε β × σ) : Prop where
  | taken (value : γ) (result : β) (final : σ) (read : reading = .ok value) (given : answer = (.ok result, final))
      (reached : reaches value result final)
  | failed (error other : ε) (final : σ) (read : reading = .error other) (given : answer = (.error error, final))
      (same : short error ↔ short other)
  | gave (error : ε) (final : σ) (bites : tight) (given : answer = (.error error, final)) (reason : limited error)

theorem follows_weaken {tight tight' : Prop} {reading : Except ε γ} {reaches reaches' : γ → β → σ → Prop}
    {answer : Except ε β × σ} (follows : Follows short limited tight reading reaches answer) (looser : tight → tight')
    (farther : ∀ value result final, reading = .ok value → reaches value result final → reaches' value result final) :
    Follows short limited tight' reading reaches' answer := by
  cases follows with
  | taken value result final read given reached => exact .taken value result final read given (farther value result final read reached)
  | failed error other final read given same => exact .failed error other final read given same
  | gave error final bites given reason => exact .gave error final (looser bites) given reason

theorem follows_bind {δ β' : Type} {tight : Prop} {reading : Except ε γ} {next : γ → Except ε δ} {reaches : γ → β → σ → Prop}
    {reaches' : δ → β' → σ → Prop} (call : Mutator σ ε β) (later : β → Mutator σ ε β') (state : σ)
    (first : Follows short limited tight reading reaches (exec call state))
    (second : ∀ value result middle, reading = .ok value → reaches value result middle →
      Follows short limited tight (next value) reaches' (exec (later result) middle)) :
    Follows short limited tight (reading >>= next) reaches' (exec (call >>= later) state) := by
  cases first with
  | taken value result middle read given reached =>
      rw [exec_bind, given, read]
      exact second value result middle read reached
  | failed error other final read given same =>
      rw [exec_bind, given, read]
      exact .failed error other final rfl rfl same
  | gave error final bites given reason =>
      rw [exec_bind, given]
      exact .gave error final bites rfl reason

theorem follows_repeat (turn : Mutator σ ε Unit) (skip : List α → Except ε Nat) (stream : List α) (position : σ → Nat)
    (ready : Nat → σ → Prop) (tight : σ → Prop)
    (one : ∀ count state, ready (count + 1) state →
      Follows short limited (tight state) (skip (stream.drop (position state)))
        (fun size _ next => ready count next ∧ position next = position state + size ∧ (tight next → tight state))
        (exec turn state))
    (count : Nat) (state : σ) (start : ready count state) :
    Follows short limited (tight state) (skipTimes skip count (stream.drop (position state)))
      (fun total _ final => ready 0 final ∧ position final = position state + total)
      (exec (repeatTurns turn count) state) := by
  induction count generalizing state with
  | zero => exact .taken 0 () state rfl rfl ⟨start, rfl⟩
  | succ count ih =>
      apply follows_bind turn (fun _ => repeatTurns turn count) state (one count state start)
      intro size done middle read reached
      obtain ⟨ready', moved, looser⟩ := reached
      have rest := ih middle ready'
      rw [moved, ← List.drop_drop] at rest
      cases rest with
      | taken others result final read' given reached' =>
          refine .taken (size + others) result final ?_ given ⟨reached'.1, ?_⟩
          · rw [read', ok_bind]
            rfl
          · rw [reached'.2, Nat.add_assoc]
      | failed error other final read' given same =>
          refine .failed error other final ?_ given same
          rw [read']
          rfl
      | gave error final bites given reason => exact .gave error final (looser bites) given reason

end Following

section Feeding

variable {pending refused : ρ → Prop} [DecidablePred pending]

-- The calls on a growing stream, until one of them does not have to wait.
def feed (pending : ρ → Prop) [DecidablePred pending] (call : List α → σ → ρ × σ) (state : σ) :
    List α → List (List α) → ρ × σ
  | start, [] => call start state
  | start, next :: later =>
      if pending (call start state).1 then feed pending call (call start state).2 next later else call start state

theorem chain_prefix (start : List α) (later : List (List α)) (stream : List α)
    (grows : (start :: later).IsChain (· <+: ·)) (last : (start :: later).getLast? = some stream) : start <+: stream := by
  induction later generalizing start with
  | nil =>
      simp only [List.getLast?_singleton, Option.some.injEq] at last
      subst last
      exact List.prefix_rfl
  | cons next later ih =>
      rw [List.isChain_cons_cons] at grows
      rw [List.getLast?_cons_cons] at last
      exact List.IsPrefix.trans grows.1 (ih next grows.2 last)

-- The answer to a stream given at once is the one to the stream given in pieces.
theorem feed_agrees {fits : List α → σ → Prop} {call : List α → σ → ρ × σ} (resumable : Resumable fits pending refused call)
    (state : σ) (start : List α) (later : List (List α)) (stream : List α) (fit : fits start state)
    (grows : (start :: later).IsChain (· <+: ·)) (last : (start :: later).getLast? = some stream) :
    let answer := (feed pending call state start later).1
    (¬pending answer → ¬refused answer → (call stream state).1 = answer) ∧
      (refused answer → refused (call stream state).1) ∧ (pending answer → pending (call stream state).1) := by
  induction later generalizing state start with
  | nil =>
      simp only [List.getLast?_singleton, Option.some.injEq] at last
      rw [last]
      exact ⟨fun _ _ => rfl, id, id⟩
  | cons next later ih =>
      have reaches := chain_prefix start (next :: later) stream grows last
      rw [List.isChain_cons_cons] at grows
      obtain ⟨⟨piece, same⟩, grows⟩ := grows
      rw [List.getLast?_cons_cons] at last
      obtain ⟨more, whole⟩ := reaches
      by_cases wait : pending (call start state).1
      · have fit' := (resumable.resumed start piece state _ _ fit rfl wait).2
        rw [same] at fit'
        have agrees := ih (call start state).2 next fit' grows last
        rw [← whole, (resumable.resumed start more state _ _ fit rfl wait).1, whole] at agrees
        simpa only [feed, if_pos wait] using agrees
      · simp only [feed, if_neg wait]
        rw [← whole]
        refine ⟨?_, ?_, fun waits => absurd waits wait⟩
        · intro _ long
          rw [resumable.settled start more state _ _ fit rfl wait long]
        · intro fails
          obtain ⟨other, final, again, fails'⟩ := resumable.refused start more state _ _ fit rfl fails
          rw [again]
          exact fails'

end Feeding

end Resumption

end Resume
