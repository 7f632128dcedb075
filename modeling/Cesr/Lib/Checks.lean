import Mathlib.Data.List.Forall2

set_option autoImplicit false

namespace Checks

variable {ε ε' α β : Type}

-- An early return with an error, the unit of a sequence of checks.
def rejectIf (fault : Prop) [Decidable fault] (error : ε) : Except ε Unit :=
  if fault then .error error else .ok ()

@[simp] theorem reject_if_ok (fault : Prop) [Decidable fault] (error : ε) (done : Unit) :
    rejectIf fault error = .ok done ↔ ¬ fault := by
  by_cases found : fault <;> simp [rejectIf, found]

@[simp] theorem reject_if_error (fault : Prop) [Decidable fault] (error given : ε) :
    rejectIf fault error = .error given ↔ fault ∧ error = given := by
  by_cases found : fault <;> simp [rejectIf, found]

@[simp] theorem pure_ok (given value : α) : (pure given : Except ε α) = .ok value ↔ given = value := by
  simp [pure, Except.pure]

@[simp] theorem pure_error (given : α) (error : ε) : (pure given : Except ε α) = .error error ↔ False := by
  simp [pure, Except.pure]

@[simp] theorem bind_ok (check : Except ε α) (next : α → Except ε β) (value : β) :
    (check >>= next) = .ok value ↔ ∃ middle, check = .ok middle ∧ next middle = .ok value := by
  cases check <;> simp [bind, Except.bind]

-- A check without a value leaves nothing behind but the fact that it passed.
@[simp] theorem exists_done (shows : Unit → Prop) : (∃ done, shows done) ↔ shows () :=
  ⟨fun ⟨_, shown⟩ => shown, fun shown => ⟨(), shown⟩⟩

@[simp] theorem ok_bind (value : α) (next : α → Except ε β) : ((.ok value : Except ε α) >>= next) = next value := rfl

theorem bind_error (check : Except ε α) (next : α → Except ε β) (error : ε) :
    (check >>= next) = .error error ↔
      check = .error error ∨ ∃ middle, check = .ok middle ∧ next middle = .error error := by
  cases check <;> simp [bind, Except.bind]

@[simp] theorem map_error_ok (check : Except ε α) (wrap : ε → ε') (value : α) :
    check.mapError wrap = .ok value ↔ check = .ok value := by
  cases check with
  | error error => exact ⟨nofun, nofun⟩
  | ok given =>
      apply Iff.intro
      · intro same
        exact congrArg Except.ok (Except.ok.inj same)
      · intro same
        exact congrArg Except.ok (Except.ok.inj same)

theorem not_ok_iff (check : Except ε α) : (∀ value, check ≠ .ok value) ↔ ∃ error, check = .error error := by
  cases check <;> simp

-- A fallible fold that succeeds has succeeded on every prefix, and a total fold
-- that matches it on each accepted step matches it on the whole.
theorem fold_prefix {σ : Type} (step : σ → α → Except ε σ) (items : List α) (start final : σ)
    (folded : items.foldlM step start = .ok final) (length : Nat) :
    ∃ middle, (items.take length).foldlM step start = .ok middle := by
  rw [← List.take_append_drop length items, List.foldlM_append, bind_ok] at folded
  exact folded.imp fun middle both => both.1

theorem fold_simulates {σ τ : Type} (step : σ → α → Except ε σ) (shadow : τ → α → τ) (view : σ → τ)
    (items : List α)
    (agrees : ∀ item ∈ items, ∀ state next, step state item = .ok next → shadow (view state) item = view next)
    (start final : σ) (folded : items.foldlM step start = .ok final) :
    items.foldl shadow (view start) = view final := by
  induction items generalizing start with
  | nil => exact congrArg view (pure_ok start final |>.mp folded)
  | cons item rest ih =>
      rw [List.foldlM_cons, bind_ok] at folded
      obtain ⟨middle, first, later⟩ := folded
      rw [List.foldl_cons, agrees item List.mem_cons_self start middle first]
      exact ih (fun other inside => agrees other (List.mem_cons_of_mem item inside)) middle later

theorem map_m_ok (visit : α → Except ε β) (items : List α) (values : List β) :
    items.mapM visit = .ok values ↔ List.Forall₂ (fun item value => visit item = .ok value) items values := by
  induction items generalizing values with
  | nil =>
      rw [List.mapM_nil, pure_ok, List.forall₂_nil_left_iff]
      exact eq_comm
  | cons item rest ih =>
      rw [List.mapM_cons, List.forall₂_cons_left_iff]
      simp only [bind_ok, pure_ok, ih]
      apply Iff.intro
      · intro found
        obtain ⟨first, visited, others, later, same⟩ := found
        exact ⟨first, others, visited, later, same.symm⟩
      · intro found
        obtain ⟨first, others, visited, later, same⟩ := found
        exact ⟨first, visited, others, later, same.symm⟩

theorem map_m_exists (visit : α → Except ε β) (items : List α) :
    (∃ values, items.mapM visit = .ok values) ↔ ∀ item ∈ items, ∃ value, visit item = .ok value := by
  simp only [map_m_ok]
  induction items with
  | nil => simp
  | cons item rest ih =>
      simp only [List.forall₂_cons_left_iff, List.forall_mem_cons, ← ih]
      apply Iff.intro
      · intro found
        obtain ⟨_, first, others, visited, later, _⟩ := found
        exact ⟨⟨first, visited⟩, others, later⟩
      · intro found
        obtain ⟨⟨first, visited⟩, others, later⟩ := found
        exact ⟨_, first, others, visited, later, rfl⟩

theorem for_m_ok (visit : α → Except ε Unit) (items : List α) : items.forM visit = .ok () ↔ ∀ item ∈ items, visit item = .ok () := by
  induction items with
  | nil => simp [pure, Except.pure]
  | cons item rest ih =>
      show (visit item >>= fun _ => rest.forM visit) = .ok () ↔ _
      rw [bind_ok, List.forall_mem_cons]
      apply Iff.intro
      · intro found
        obtain ⟨_, first, later⟩ := found
        exact ⟨first, ih.mp later⟩
      · intro both
        exact ⟨(), both.1, ih.mpr both.2⟩

end Checks
