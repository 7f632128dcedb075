import Mathlib.Init

set_option autoImplicit false

namespace Calls

variable {σ ε α β : Type}

-- A fallible call on a mutable state. A call that fails may in principle have
-- written before it failed; whether it did is a property to be proved.
abbrev Mutator (σ ε α : Type) := ExceptT ε (StateM σ) α

-- A check that only reads: its value or its error, and no write.
def check (result : Except ε α) : Mutator σ ε α := liftM result

def exec (call : Mutator σ ε α) (state : σ) : Except ε α × σ := StateT.run (ExceptT.run call) state

def outcome (call : Mutator σ ε α) (state : σ) : Except ε α := (exec call state).1

def after (call : Mutator σ ε α) (state : σ) : σ := (exec call state).2

@[simp] theorem exec_pure (value : α) (state : σ) :
    exec (pure value : Mutator σ ε α) state = (.ok value, state) := rfl

@[simp] theorem exec_throw (error : ε) (state : σ) :
    exec (throw error : Mutator σ ε α) state = (.error error, state) := rfl

@[simp] theorem exec_check (result : Except ε α) (state : σ) :
    exec (check result : Mutator σ ε α) state = (result, state) := rfl

@[simp] theorem exec_get (state : σ) : exec (get : Mutator σ ε σ) state = (.ok state, state) := rfl

@[simp] theorem exec_modify (update : σ → σ) (state : σ) :
    exec (modify update : Mutator σ ε Unit) state = (.ok (), update state) := rfl

theorem exec_bind (call : Mutator σ ε α) (next : α → Mutator σ ε β) (state : σ) :
    exec (call >>= next) state =
      match exec call state with
      | (.ok value, middle) => exec (next value) middle
      | (.error error, middle) => (.error error, middle) := by
  unfold exec
  rw [ExceptT.run_bind, StateT.run_bind]
  cases StateT.run (ExceptT.run call) state with
  | mk result middle =>
      cases result with
      | ok value => rfl
      | error error => rfl

-- A call made on an owned state: the state is returned only on success.
def consume (call : Mutator σ ε Unit) (state : σ) : Except ε σ :=
  match exec call state with
  | (.ok _, next) => .ok next
  | (.error error, _) => .error error

def Accepts (call : Mutator σ ε Unit) (state : σ) : Prop := outcome call state = .ok ()

def Rejects (call : Mutator σ ε Unit) (state : σ) (error : ε) : Prop := outcome call state = .error error

instance (call : Mutator σ ε Unit) (state : σ) : Decidable (Accepts call state) :=
  match result : outcome call state with
  | .ok () => isTrue result
  | .error error => isFalse (by simp [Accepts, result])

-- A rejected call leaves every field of the state as it was.
def Atomic (call : Mutator σ ε Unit) : Prop := ∀ state, ¬ Accepts call state → after call state = state

theorem accepts_iff_consume (call : Mutator σ ε Unit) (state : σ) :
    Accepts call state ↔ ∃ next, consume call state = .ok next := by
  unfold Accepts outcome consume
  cases exec call state with
  | mk result next => cases result <;> simp

theorem consume_ok (call : Mutator σ ε Unit) (state next : σ) :
    consume call state = .ok next ↔ Accepts call state ∧ after call state = next := by
  unfold Accepts outcome after consume
  cases exec call state with
  | mk result final => cases result <;> simp

theorem consume_accepted (call : Mutator σ ε Unit) (state : σ) (taken : Accepts call state) :
    consume call state = .ok (after call state) :=
  (consume_ok call state _).mpr ⟨taken, rfl⟩

theorem consume_error (call : Mutator σ ε Unit) (state : σ) (error : ε) :
    consume call state = .error error ↔ Rejects call state error := by
  unfold Rejects outcome consume
  cases exec call state with
  | mk result final => cases result <;> simp

-- The rules below read a call's outcome off its parts, in program order.
@[simp] theorem consume_get_bind (next : σ → Mutator σ ε Unit) (state : σ) :
    consume (get >>= next) state = consume (next state) state := by
  unfold consume
  rw [exec_bind]
  rfl

theorem consume_check_bind (result : Except ε α) (next : α → Mutator σ ε Unit) (state final : σ) :
    consume (check result >>= next) state = .ok final ↔
      ∃ value, result = .ok value ∧ consume (next value) state = .ok final := by
  unfold consume
  rw [exec_bind, exec_check]
  cases result <;> simp

@[simp] theorem consume_throw (error : ε) (state final : σ) :
    consume (throw error : Mutator σ ε Unit) state = .ok final ↔ False := by
  simp [consume]

@[simp] theorem consume_modify (update : σ → σ) (state final : σ) :
    consume (modify update : Mutator σ ε Unit) state = .ok final ↔ update state = final := by
  simp [consume]

@[simp] theorem rejects_get_bind (next : σ → Mutator σ ε Unit) (state : σ) (error : ε) :
    Rejects (get >>= next) state error ↔ Rejects (next state) state error := by
  unfold Rejects outcome
  rw [exec_bind]
  rfl

theorem rejects_check_bind (result : Except ε α) (next : α → Mutator σ ε Unit) (state : σ) (error : ε) :
    Rejects (check result >>= next) state error ↔
      result = .error error ∨ ∃ value, result = .ok value ∧ Rejects (next value) state error := by
  unfold Rejects outcome
  rw [exec_bind, exec_check]
  cases result <;> simp

@[simp] theorem rejects_modify (update : σ → σ) (state : σ) (error : ε) :
    Rejects (modify update : Mutator σ ε Unit) state error ↔ False := by
  simp [Rejects, outcome]

-- A call that checks before it writes is atomic: its checks are read-only, and
-- what follows the last of them cannot fail.
def ReadOnly (call : Mutator σ ε α) : Prop := ∀ state, after call state = state

theorem read_only_get : ReadOnly (get : Mutator σ ε σ) := fun _ => rfl

theorem read_only_check (result : Except ε α) : ReadOnly (check result : Mutator σ ε α) := fun _ => rfl

theorem atomic_throw (error : ε) : Atomic (throw error : Mutator σ ε Unit) := fun _ _ => rfl

theorem atomic_modify (update : σ → σ) : Atomic (modify update : Mutator σ ε Unit) :=
  fun _ refused => absurd rfl refused

theorem atomic_bind (call : Mutator σ ε α) (next : α → Mutator σ ε Unit) (readOnly : ReadOnly call)
    (later : ∀ value, Atomic (next value)) : Atomic (call >>= next) := by
  intro state refused
  have kept : (exec call state).2 = state := readOnly state
  unfold Accepts outcome at refused
  unfold after
  rw [exec_bind] at refused ⊢
  cases executed : exec call state with
  | mk result middle =>
      rw [executed] at refused kept
      cases result with
      | error error => exact kept
      | ok value =>
          subst kept
          exact later value middle refused

def run (step : α → Mutator σ ε Unit) (state : σ) : List α → σ
  | [] => state
  | call :: rest => run step (after (step call) state) rest

def accepted (step : α → Mutator σ ε Unit) (state : σ) : List α → List α
  | [] => []
  | call :: rest =>
      if Accepts (step call) state then call :: accepted step (after (step call) state) rest
      else accepted step (after (step call) state) rest

theorem run_append (step : α → Mutator σ ε Unit) (state : σ) (calls more : List α) :
    run step state (calls ++ more) = run step (run step state calls) more := by
  induction calls generalizing state with
  | nil => rfl
  | cons call rest ih => exact ih (after (step call) state)

theorem accepted_append (step : α → Mutator σ ε Unit) (state : σ) (calls more : List α) :
    accepted step state (calls ++ more) =
      accepted step state calls ++ accepted step (run step state calls) more := by
  induction calls generalizing state with
  | nil => rfl
  | cons call rest ih =>
      by_cases taken : Accepts (step call) state <;> simp [accepted, taken, run, ih]

-- The one induction over runs. The property may speak of the calls accepted
-- so far; atomicity takes care of the rejected ones.
theorem run_history (step : α → Mutator σ ε Unit) (atomic : ∀ call, Atomic (step call))
    (Good : σ → List α → Prop)
    (grow : ∀ state log call, Good state log → Accepts (step call) state →
      Good (after (step call) state) (log ++ [call]))
    (state : σ) (log : List α) (start : Good state log) (calls : List α) :
    Good (run step state calls) (log ++ accepted step state calls) := by
  induction calls generalizing state log with
  | nil => simpa [run, accepted] using start
  | cons call rest ih =>
      by_cases taken : Accepts (step call) state
      · have next := ih (after (step call) state) (log ++ [call]) (grow state log call start taken)
        simpa [run, accepted, taken] using next
      · have same := atomic call state taken
        simpa [run, accepted, taken, same] using ih state log start

theorem exec_get_bind (next : σ → Mutator σ ε β) (state : σ) : exec (get >>= next) state = exec (next state) state := by
  rw [exec_bind]
  rfl

theorem exec_modify_bind (update : σ → σ) (next : Unit → Mutator σ ε β) (state : σ) :
    exec (modify update >>= next) state = exec (next ()) (update state) := by
  rw [exec_bind]
  rfl

theorem exec_check_bind_ok (result : Except ε α) (next : α → Mutator σ ε β) (state final : σ) (value : β) :
    exec (check result >>= next) state = (.ok value, final) ↔
      ∃ middle, result = .ok middle ∧ exec (next middle) state = (.ok value, final) := by
  rw [exec_bind, exec_check]
  cases result <;> simp

-- A call whose failure is kept for later; what it wrote stays.
def attempt (call : Mutator σ ε α) : Mutator σ ε (Except ε α) := ExceptT.mk (fun state => pure (.ok (exec call state).1, (exec call state).2))

@[simp] theorem exec_attempt (call : Mutator σ ε α) (state : σ) :
    exec (attempt call) state = (.ok (exec call state).1, (exec call state).2) := rfl

theorem exec_bind_ok (call : Mutator σ ε α) (next : α → Mutator σ ε β) (state final : σ) (value : β) :
    exec (call >>= next) state = (.ok value, final) ↔
      ∃ given middle, exec call state = (.ok given, middle) ∧ exec (next given) middle = (.ok value, final) := by
  rw [exec_bind]
  cases exec call state with
  | mk result middle =>
      cases result with
      | error error => simp
      | ok given =>
          apply Iff.intro
          · intro later
            exact ⟨given, middle, rfl, later⟩
          · intro found
            obtain ⟨_, _, same, later⟩ := found
            cases same
            exact later

theorem exec_attempt_bind (call : Mutator σ ε α) (next : Except ε α → Mutator σ ε β) (state : σ) :
    exec (attempt call >>= next) state = exec (next (exec call state).1) (exec call state).2 := by
  rw [exec_bind, exec_attempt]

-- A call on a part of the state. What it wrote there is put back, also when it failed.
def onPart {τ : Type} (part : τ) (put : τ → σ → σ) (call : Mutator τ ε α) : Mutator σ ε α :=
  ExceptT.mk (fun state => pure ((exec call part).1, put (exec call part).2 state))

@[simp] theorem exec_on_part {τ : Type} (part : τ) (put : τ → σ → σ) (call : Mutator τ ε α) (state : σ) :
    exec (onPart part put call) state = ((exec call part).1, put (exec call part).2 state) := rfl

-- A failed call leaves the state as it was.
def Restores (call : Mutator σ ε α) : Prop := ∀ state error final, exec call state = (.error error, final) → final = state

theorem restores_pure (value : α) : Restores (pure value : Mutator σ ε α) := by
  intro state error final failed
  cases failed

theorem restores_modify_pure (update : σ → σ) (value : β) : Restores (modify update >>= fun _ => pure value : Mutator σ ε β) := by
  intro state error final failed
  rw [exec_modify_bind] at failed
  cases failed

theorem restores_get_bind (next : σ → Mutator σ ε β) (later : ∀ state, Restores (next state)) : Restores (get >>= next) := by
  intro state error final failed
  rw [exec_get_bind] at failed
  exact later state state error final failed

theorem restores_check_bind (result : Except ε α) (next : α → Mutator σ ε β) (later : ∀ value, Restores (next value)) :
    Restores (check result >>= next) := by
  intro state error final failed
  rw [exec_bind, exec_check] at failed
  cases result with
  | error given => exact (Prod.mk.inj failed).2.symm
  | ok value => exact later value state error final failed

def Keeps (holds : σ → Prop) (call : Mutator σ ε α) : Prop := ∀ state, holds state → holds (exec call state).2

theorem keeps_pure (holds : σ → Prop) (value : α) : Keeps holds (pure value : Mutator σ ε α) := fun _ held => held

theorem keeps_check (holds : σ → Prop) (result : Except ε α) : Keeps holds (check result : Mutator σ ε α) := fun _ held => held

theorem keeps_bind (holds : σ → Prop) (call : Mutator σ ε α) (next : α → Mutator σ ε β) (first : Keeps holds call)
    (later : ∀ value, Keeps holds (next value)) : Keeps holds (call >>= next) := by
  intro state held
  have middle := first state held
  rw [exec_bind]
  cases executed : exec call state with
  | mk result final =>
      rw [executed] at middle
      cases result with
      | ok value => exact later value final middle
      | error error => exact middle

theorem keeps_modify (holds : σ → Prop) (update : σ → σ) (kept : ∀ state, holds state → holds (update state)) :
    Keeps holds (modify update : Mutator σ ε Unit) := kept

theorem keeps_attempt (holds : σ → Prop) (call : Mutator σ ε α) (kept : Keeps holds call) : Keeps holds (attempt call) := kept

theorem keeps_get_bind (holds : σ → Prop) (next : σ → Mutator σ ε β) (later : ∀ state, holds state → holds (exec (next state) state).2) :
    Keeps holds (get >>= next) := by
  intro state held
  rw [exec_get_bind]
  exact later state held

def transcript (step : α → Mutator σ ε β) (state : σ) : List α → σ × List (Except ε β)
  | [] => (state, [])
  | call :: rest =>
      let answered := exec (step call) state
      let later := transcript step answered.2 rest
      (later.1, answered.1 :: later.2)

theorem transcript_history (step : α → Mutator σ ε β) (Good : σ → List (Except ε β) → Prop)
    (grow : ∀ state log call, Good state log → Good (exec (step call) state).2 (log ++ [(exec (step call) state).1]))
    (state : σ) (log : List (Except ε β)) (start : Good state log) (calls : List α) :
    Good (transcript step state calls).1 (log ++ (transcript step state calls).2) := by
  induction calls generalizing state log with
  | nil => simpa [transcript] using start
  | cons call rest ih =>
      have next := ih (exec (step call) state).2 (log ++ [(exec (step call) state).1]) (grow state log call start)
      simpa [transcript] using next

theorem transcript_last (step : α → Mutator σ ε β) (state : σ) (calls : List α) (call : α) :
    (transcript step state (calls ++ [call])).1 = (exec (step call) (transcript step state calls).1).2 := by
  induction calls generalizing state with
  | nil => rfl
  | cons first rest ih => exact ih (exec (step first) state).2

end Calls
