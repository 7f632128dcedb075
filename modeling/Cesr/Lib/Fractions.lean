import Mathlib.Algebra.Order.Field.Basic
import Mathlib.Algebra.Order.Field.Rat
import Mathlib.Tactic.Positivity
import Mathlib.Tactic.Ring

set_option autoImplicit false

namespace Fractions

abbrev Fraction := Nat × Nat

def value (fraction : Fraction) : ℚ := fraction.1 / fraction.2

-- Addition over the product of the denominators: nothing is ever reduced.
def add (acc fraction : Fraction) : Fraction := (acc.1 * fraction.2 + fraction.1 * acc.2, acc.2 * fraction.2)

def total (acc : Fraction) (fractions : List Fraction) : Fraction := fractions.foldl add acc

-- No sum on the way leaves the range, and so no product does.
def Fits (bound : Nat) (acc : Fraction) : List Fraction → Prop
  | [] => True
  | fraction :: rest =>
      (add acc fraction).1 < bound ∧ (add acc fraction).2 < bound ∧ Fits bound (add acc fraction) rest

def share (fractions : List Fraction) : ℚ := (fractions.map value).sum

theorem value_nonneg (fraction : Fraction) : 0 ≤ value fraction := by
  unfold value
  positivity

theorem value_add (acc fraction : Fraction) (some : acc.2 ≠ 0) (some' : fraction.2 ≠ 0) :
    value (add acc fraction) = value acc + value fraction := by
  have first : (acc.2 : ℚ) ≠ 0 := Nat.cast_ne_zero.mpr some
  have second : (fraction.2 : ℚ) ≠ 0 := Nat.cast_ne_zero.mpr some'
  simp only [value, add, Nat.cast_add, Nat.cast_mul]
  rw [div_add_div _ _ first second]
  congr 1
  ring

theorem total_value (acc : Fraction) (fractions : List Fraction) (some : acc.2 ≠ 0) (solid : ∀ fraction ∈ fractions, fraction.2 ≠ 0) :
    (total acc fractions).2 ≠ 0 ∧ value (total acc fractions) = value acc + share fractions := by
  induction fractions generalizing acc with
  | nil => exact ⟨some, (add_zero _).symm⟩
  | cons fraction rest ih =>
      have here := solid fraction List.mem_cons_self
      have next : (add acc fraction).2 ≠ 0 := Nat.mul_ne_zero some here
      obtain ⟨kept, same⟩ := ih (add acc fraction) next (fun later inside => solid later (List.mem_cons_of_mem _ inside))
      refine ⟨kept, ?_⟩
      have split : share (fraction :: rest) = value fraction + share rest := List.sum_cons
      have step : total acc (fraction :: rest) = total (add acc fraction) rest := rfl
      rw [step, same, value_add acc fraction some here, split, add_assoc]

theorem one_le_value (fraction : Fraction) (some : fraction.2 ≠ 0) : 1 ≤ value fraction ↔ fraction.2 ≤ fraction.1 := by
  have positive : (0 : ℚ) < fraction.2 := Nat.cast_pos.mpr (Nat.pos_of_ne_zero some)
  rw [value, le_div_iff₀ positive, one_mul, Nat.cast_le]

theorem share_sublist (fewer more : List Fraction) (inside : fewer.Sublist more) : share fewer ≤ share more := by
  apply (inside.map value).sum_le_sum
  intro part member
  obtain ⟨fraction, _, same⟩ := List.mem_map.mp member
  rw [← same]
  exact value_nonneg fraction

end Fractions
