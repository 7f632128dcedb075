import Cesr.Lib.Resume

set_option autoImplicit false

namespace Faults

open Calls Checks Resume

variable {α β γ σ ε ε' : Type} (fault : ε → Prop)

-- The errors a check may end in, and those a call may end in whatever its state.
def FailsOnly (result : Except ε β) : Prop := ∀ error, result = .error error → fault error

def CallFailsOnly (call : Mutator σ ε β) : Prop := ∀ state, FailsOnly fault (outcome call state)

theorem fails_only_ok (value : β) : FailsOnly fault (.ok value : Except ε β) := by
  intro error failed
  cases failed

theorem fails_only_error (error : ε) (holds : fault error) : FailsOnly fault (.error error : Except ε β) := by
  intro given failed
  rw [← Except.error.inj failed]
  exact holds

theorem fails_only_reject (broken : Prop) [Decidable broken] (error : ε) (holds : fault error) :
    FailsOnly fault (rejectIf broken error) := by
  intro given failed
  rw [← ((reject_if_error broken error given).mp failed).2]
  exact holds

theorem fails_only_bind (first : Except ε β) (next : β → Except ε γ) (head : FailsOnly fault first)
    (tail : ∀ value, FailsOnly fault (next value)) : FailsOnly fault (first >>= next) := by
  intro error failed
  rcases (bind_error first next error).mp failed with refused | ⟨value, _, refused⟩
  · exact head error refused
  · exact tail value error refused

theorem fails_only_map_error (wrap : ε' → ε) (result : Except ε' β) (holds : ∀ error, fault (wrap error)) :
    FailsOnly fault (result.mapError wrap) := by
  intro error failed
  cases result with
  | ok value => cases failed
  | error given =>
      rw [← Except.error.inj failed]
      exact holds given

theorem fails_only_times (skip : List α → Except ε Nat) (one : ∀ stream, FailsOnly fault (skip stream)) (count : Nat) :
    ∀ stream, FailsOnly fault (skipTimes skip count stream) := by
  induction count with
  | zero => exact fun _ => fails_only_ok fault 0
  | succ count ih =>
      intro stream
      refine fails_only_bind fault _ _ (one stream) (fun first => ?_)
      exact fails_only_bind fault _ _ (ih (stream.drop first)) (fun others => fails_only_ok fault (first + others))

section Shortage

variable (short : ε → Prop)

end Shortage

section Calls

theorem call_fails_bind (call : Mutator σ ε β) (next : β → Mutator σ ε γ) (head : CallFailsOnly fault call)
    (tail : ∀ value, CallFailsOnly fault (next value)) : CallFailsOnly fault (call >>= next) := by
  intro state error failed
  rw [outcome, exec_bind] at failed
  cases ran : exec call state with
  | mk result middle =>
      rw [ran] at failed
      cases result with
      | error given =>
          refine head state error ?_
          rw [outcome, ran]
          exact congrArg Except.error (Except.error.inj failed)
      | ok value => exact tail value middle error failed

theorem call_fails_pure (value : β) : CallFailsOnly fault (pure value : Mutator σ ε β) :=
  fun _ => fails_only_ok fault value

theorem call_fails_check (result : Except ε β) (only : FailsOnly fault result) :
    CallFailsOnly fault (check result : Mutator σ ε β) :=
  fun _ => only

theorem call_fails_get (next : σ → Mutator σ ε β) (tail : ∀ state, CallFailsOnly fault (next state)) :
    CallFailsOnly fault (get >>= next) := by
  intro state
  rw [outcome, exec_get_bind]
  exact tail state state

theorem call_fails_modify (update : σ → σ) : CallFailsOnly fault (modify update : Mutator σ ε Unit) :=
  fun _ => fails_only_ok fault ()

theorem call_fails_read_at (position : σ → Nat) (missing : Nat → ε) (read : σ → List α → Except ε β) (move : β → σ → σ)
    (stream : List α) (short : ∀ count, fault (missing count)) (only : ∀ state tail, FailsOnly fault (read state tail)) :
    CallFailsOnly fault (readAt position missing read move stream) := by
  refine call_fails_get fault _ (fun state => ?_)
  refine call_fails_bind fault _ _ (call_fails_check fault _ (fails_only_reject fault _ _ (short _))) (fun _ => ?_)
  exact call_fails_bind fault _ _ (call_fails_check fault _ (only state _)) (fun _ => call_fails_modify fault _)

theorem call_fails_while (left : σ → Nat) (turn : Mutator σ ε Unit) (only : CallFailsOnly fault turn) :
    CallFailsOnly fault (whileLeft left turn) := by
  refine call_fails_get fault _ (fun state => ?_)
  induction left state with
  | zero => exact call_fails_pure fault ()
  | succ count ih => exact call_fails_bind fault _ _ only (fun _ => ih)

end Calls

end Faults
