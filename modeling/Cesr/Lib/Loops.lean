import Mathlib.Logic.Relation
import Cesr.Lib.Resume

set_option autoImplicit false

namespace Loops

open Calls Resume

section Loop

variable {σ ε β : Type}

-- A loop whose turns go on, or answer.
def untilSome (turn : Mutator σ ε (Option β)) : Nat → Mutator σ ε (Option β)
  | 0 => pure none
  | fuel + 1 => do
      let answer ← turn
      match answer with
      | some value => pure (some value)
      | none => untilSome turn fuel

def loopLeft (left : σ → Nat) (turn : Mutator σ ε (Option β)) : Mutator σ ε (Option β) :=
  get >>= fun state => untilSome turn (left state + 1)

def Decreases (left : σ → Nat) (turn : Mutator σ ε (Option β)) : Prop :=
  ∀ state next, exec turn state = (.ok none, next) → left next < left state

variable {left : σ → Nat} {turn : Mutator σ ε (Option β)}

theorem until_again (fuel : Nat) (state next : σ) (goes : exec turn state = (.ok none, next)) :
    exec (untilSome turn (fuel + 1)) state = exec (untilSome turn fuel) next := by
  rw [untilSome, exec_bind, goes]

theorem until_done (fuel : Nat) (state : σ) (stops : ∀ next, exec turn state ≠ (.ok none, next)) :
    exec (untilSome turn (fuel + 1)) state = exec turn state := by
  rw [untilSome, exec_bind]
  cases turned : exec turn state with
  | mk answer next =>
      cases answer with
      | error error => rfl
      | ok value =>
          cases value with
          | none => exact absurd turned (stops next)
          | some value => rfl

theorem until_enough (decreases : Decreases left turn) (fuel : Nat) (state : σ) (enough : left state < fuel) :
    exec (untilSome turn fuel) state = exec (loopLeft left turn) state := by
  rw [loopLeft, exec_get_bind]
  induction fuel using Nat.strong_induction_on generalizing state with
  | h fuel ih =>
      obtain ⟨spare, same⟩ : ∃ spare, fuel = spare + 1 := ⟨fuel - 1, by omega⟩
      rw [same]
      by_cases goes : ∃ next, exec turn state = (.ok none, next)
      · obtain ⟨next, goes⟩ := goes
        have fewer := decreases state next goes
        rw [until_again spare state next goes, until_again (left state) state next goes]
        rw [ih spare (by omega) next (by omega)]
        by_cases last : left state < fuel - 1
        · rw [ih (left state) (by omega) next fewer]
        · have exact' : left state = spare := by omega
          rw [exact', ih spare (by omega) next (by omega)]
      · have stops : ∀ next, exec turn state ≠ (.ok none, next) := fun next found => goes ⟨next, found⟩
        rw [until_done spare state stops, until_done (left state) state stops]

theorem loop_again (decreases : Decreases left turn) (state next : σ) (goes : exec turn state = (.ok none, next)) :
    exec (loopLeft left turn) state = exec (loopLeft left turn) next := by
  have fewer := decreases state next goes
  rw [← until_enough decreases (left state) next fewer, loopLeft, exec_get_bind]
  exact until_again (left state) state next goes

theorem loop_done (state : σ) (stops : ∀ next, exec turn state ≠ (.ok none, next)) :
    exec (loopLeft left turn) state = exec turn state := by
  rw [loopLeft, exec_get_bind]
  exact until_done (left state) state stops

theorem loop_rule (decreases : Decreases left turn) (holds : σ → Except ε (Option β) × σ → Prop)
    (last : ∀ state, (∀ next, exec turn state ≠ (.ok none, next)) → holds state (exec turn state))
    (again : ∀ state next result, exec turn state = (.ok none, next) → holds next result → holds state result)
    (state : σ) : holds state (exec (loopLeft left turn) state) := by
  generalize bound : left state = fuel
  induction fuel using Nat.strong_induction_on generalizing state with
  | h fuel ih =>
      by_cases goes : ∃ next, exec turn state = (.ok none, next)
      · obtain ⟨next, goes⟩ := goes
        have fewer := decreases state next goes
        rw [loop_again decreases state next goes]
        exact again state next _ goes (ih (left next) (by omega) next rfl)
      · have stops : ∀ next, exec turn state ≠ (.ok none, next) := fun next found => goes ⟨next, found⟩
        rw [loop_done state stops]
        exact last state stops

theorem loop_answers (decreases : Decreases left turn) (state : σ) :
    outcome (loopLeft left turn) state ≠ .ok none := by
  apply loop_rule decreases (fun _ result => result.1 ≠ .ok none)
  · intro state stops same
    exact stops (exec turn state).2 (Prod.ext same rfl)
  · exact fun _ _ _ _ held => held

def Goes (turn : Mutator σ ε (Option β)) (state next : σ) : Prop := exec turn state = (.ok none, next)

theorem loop_ok (decreases : Decreases left turn) (holds : σ → Prop)
    (kept : ∀ state next, holds state → exec turn state = (.ok none, next) → holds next)
    (state final : σ) (answer : Except ε (Option β)) (start : holds state)
    (ran : exec (loopLeft left turn) state = (answer, final)) :
    ∃ last, holds last ∧ exec turn last = (answer, final) := by
  have found := loop_rule decreases
    (fun state result => holds state → ∃ last, holds last ∧ exec turn last = result)
    (fun state _ held => ⟨state, held, rfl⟩)
    (fun state next result goes later held => later (kept state next held goes)) state start
  rwa [ran] at found

end Loop

section Resumption

variable {α σ ε β : Type}

def Pends (pending : β → Prop) (answer : Except ε (Option β)) : Prop := ∃ value, answer = .ok (some value) ∧ pending value

def Breaks (answer : Except ε β) : Prop := ∃ error, answer = .error error

theorem breaks_ok (value : β) : ¬Breaks (.ok value : Except ε β) := by
  intro found
  obtain ⟨_, impossible⟩ := found
  cases impossible

-- The turns of a loop over a stream that may still grow. A turn that fails may
-- go on over the longer stream, as long as the loop fails then.
structure TurnResumable (fits : List α → σ → Prop) (pending : β → Prop) (left : σ → Nat)
    (turn : List α → Mutator σ ε (Option β)) : Prop where
  decreases : ∀ stream, Decreases left (turn stream)
  keeps : ∀ stream state next, fits stream state → exec (turn stream) state = (.ok none, next) → fits stream next
  settled : ∀ start more state answer next, fits start state → exec (turn start) state = (answer, next) →
    ¬Pends pending answer → ¬Breaks answer → exec (turn (start ++ more)) state = (answer, next)
  refused : ∀ start more state answer next, fits start state → exec (turn start) state = (answer, next) → Breaks answer →
    ∃ other final, exec (loopLeft left (turn (start ++ more))) state = (other, final) ∧ Breaks other
  resumed : ∀ start more state answer next, fits start state → exec (turn start) state = (answer, next) → Pends pending answer →
    exec (turn (start ++ more)) next = exec (turn (start ++ more)) state ∧ fits (start ++ more) next

variable {fits : List α → σ → Prop} {pending : β → Prop} {left : σ → Nat} {turn : List α → Mutator σ ε (Option β)}

theorem loop_same (resumable : TurnResumable fits pending left turn) (stream : List α) (state state' : σ)
    (same : exec (turn stream) state = exec (turn stream) state') :
    exec (loopLeft left (turn stream)) state = exec (loopLeft left (turn stream)) state' := by
  by_cases goes : ∃ next, exec (turn stream) state = (.ok none, next)
  · obtain ⟨next, goes⟩ := goes
    rw [loop_again (resumable.decreases stream) state next goes]
    rw [same] at goes
    rw [loop_again (resumable.decreases stream) state' next goes]
  · have stops : ∀ next, exec (turn stream) state ≠ (.ok none, next) := fun next found => goes ⟨next, found⟩
    rw [loop_done state stops, same]
    rw [same] at stops
    rw [loop_done state' stops]

theorem loop_resumable (resumable : TurnResumable fits pending left turn) :
    Resumable fits (Pends pending) Breaks (fun stream => exec (loopLeft left (turn stream))) := by
  apply Resumable.mk
  · intro start more state answer next fit given waits breaks
    rw [← given]
    have rule := loop_rule (resumable.decreases start)
      (fun state result => fits start state → ¬Pends pending result.1 → ¬Breaks result.1 →
        exec (loopLeft left (turn (start ++ more))) state = result)
    refine rule ?_ ?_ state fit (by rw [given]; exact waits) (by rw [given]; exact breaks)
    · intro state stops fit waits breaks
      have again := resumable.settled start more state _ _ fit rfl waits breaks
      have stops' : ∀ next, exec (turn (start ++ more)) state ≠ (.ok none, next) := by
        rw [again]
        exact stops
      rw [loop_done state stops', again]
      rfl
    · intro state next result goes later fit waits breaks
      have again := resumable.settled start more state _ next fit goes (by simp [Pends]) (breaks_ok _)
      rw [loop_again (resumable.decreases _) state next again]
      exact later (resumable.keeps start state next fit goes) waits breaks
  · intro start more state answer next fit given breaks
    have rule := loop_rule (resumable.decreases start)
      (fun state result => fits start state → Breaks result.1 →
        ∃ other final, exec (loopLeft left (turn (start ++ more))) state = (other, final) ∧ Breaks other)
    refine rule ?_ ?_ state fit (by rw [given]; exact breaks)
    · intro state stops fit breaks
      exact resumable.refused start more state _ _ fit rfl breaks
    · intro state next result goes later fit breaks
      have again := resumable.settled start more state _ next fit goes (by simp [Pends]) (breaks_ok _)
      rw [loop_again (resumable.decreases _) state next again]
      exact later (resumable.keeps start state next fit goes) breaks
  · intro start more state answer next fit given waits
    have rule := loop_rule (resumable.decreases start)
      (fun state result => fits start state → Pends pending result.1 →
        exec (loopLeft left (turn (start ++ more))) result.2 = exec (loopLeft left (turn (start ++ more))) state ∧
          fits (start ++ more) result.2)
    have found := rule ?_ ?_ state fit (by rw [given]; exact waits)
    · rwa [given] at found
    · intro state stops fit waits
      obtain ⟨same, fit'⟩ := resumable.resumed start more state _ _ fit rfl waits
      exact ⟨loop_same resumable (start ++ more) _ state same, fit'⟩
    · intro state next result goes later fit waits
      have again := resumable.settled start more state _ next fit goes (by simp [Pends]) (breaks_ok _)
      rw [loop_again (resumable.decreases _) state next again]
      exact later (resumable.keeps start state next fit goes) waits

end Resumption

end Loops
