import Cesr.Lib.Calls
import Cesr.Lib.Checks
import Mathlib.Data.List.Forall2

set_option autoImplicit false

namespace Appends

open Calls Checks

variable {β ε α γ : Type}

def push (text : List β) : Mutator (List β) ε Unit := modify fun buf => buf ++ text

def place : Mutator (List β) ε Nat := do
  let buf ← get
  pure buf.length

-- A call that appends this text; what it answers may depend on where it began.
def Adds (call : Mutator (List β) ε α) (made : Nat → α) (text : List β) : Prop :=
  ∀ buf, exec call buf = (.ok (made buf.length), buf ++ text)

theorem adds_push (text : List β) : Adds (push text : Mutator (List β) ε Unit) (fun _ => ()) text := fun _ => rfl

theorem adds_pure (value : α) : Adds (pure value : Mutator (List β) ε α) (fun _ => value) [] := by
  intro buf
  rw [List.append_nil]
  rfl

theorem adds_bind (first : Mutator (List β) ε α) (next : α → Mutator (List β) ε γ) (made : Nat → α) (made' : Nat → Nat → γ)
    (text more : List β) (left : Adds first made text) (right : ∀ start, Adds (next (made start)) (made' start) more) :
    Adds (first >>= next) (fun start => made' start (start + text.length)) (text ++ more) := by
  intro buf
  rw [exec_bind, left buf]
  simp only
  rw [right buf.length (buf ++ text), List.length_append, List.append_assoc]

theorem adds_then (first : Mutator (List β) ε Unit) (next : Mutator (List β) ε α) (made : Nat → α) (text more : List β)
    (left : Adds first (fun _ => ()) text) (right : Adds next made more) :
    Adds (first >>= fun _ => next) (fun start => made (start + text.length)) (text ++ more) :=
  adds_bind first (fun _ => next) (fun _ => ()) (fun _ => made) text more left fun _ => right

theorem adds_both (first next : Mutator (List β) ε Unit) (text more : List β) (left : Adds first (fun _ => ()) text)
    (right : Adds next (fun _ => ()) more) : Adds (first >>= fun _ => next) (fun _ => ()) (text ++ more) :=
  adds_then first next (fun _ => ()) text more left right

theorem adds_for (step : α → Mutator (List β) ε Unit) (items : List α) (texts : List (List β))
    (each : List.Forall₂ (fun item text => Adds (step item) (fun _ => ()) text) items texts) :
    Adds (items.forM step) (fun _ => ()) texts.flatten := by
  induction each with
  | nil => exact adds_pure ()
  | @cons item text items texts head tail ih => exact adds_both (step item) (items.forM step) text texts.flatten head ih

theorem fold_gathers {σ : Type} (step : σ → α → Except ε σ) (gives : α → γ → Prop) (join : σ → γ → σ)
    (each : ∀ state item next, step state item = .ok next ↔ ∃ part, gives item part ∧ next = join state part)
    (items : List α) (start final : σ) :
    items.foldlM step start = .ok final ↔ ∃ parts, List.Forall₂ gives items parts ∧ final = parts.foldl join start := by
  induction items generalizing start with
  | nil =>
      simp only [List.foldlM_nil, pure_ok, List.forall₂_nil_left_iff, exists_eq_left, List.foldl_nil]
      exact eq_comm
  | cons item items ih =>
      simp only [List.foldlM_cons, bind_ok, each, ih, List.forall₂_cons_left_iff]
      apply Iff.intro
      · intro found
        obtain ⟨_, ⟨part, here, same⟩, parts, later, same'⟩ := found
        refine ⟨part :: parts, ⟨part, parts, here, later, rfl⟩, ?_⟩
        rw [same', same, List.foldl_cons]
      · intro found
        obtain ⟨_, ⟨part, parts, here, later, same⟩, same'⟩ := found
        refine ⟨join start part, ⟨part, here, rfl⟩, parts, later, ?_⟩
        rw [same', same, List.foldl_cons]

end Appends
