import Mathlib.Tactic.ByContra
import Mathlib.Data.Fintype.Basic

set_option autoImplicit false

namespace Digits

variable {base : Nat}

theorem digit_char_injective (left right : Nat) (small : left < 16) (small' : right < 16)
    (same : Nat.digitChar left = Nat.digitChar right) : left = right := by
  have all : ∀ left right : Fin 16, Nat.digitChar left.val = Nat.digitChar right.val → left = right := by decide
  exact congrArg Fin.val (all ⟨left, small⟩ ⟨right, small'⟩ same)

theorem length_digits_mono (large : 1 < base) (left right : Nat) (ordered : left ≤ right) :
    (Nat.toDigits base left).length ≤ (Nat.toDigits base right).length := by
  have bound := (Nat.length_toDigits_le_iff (n := right) large Nat.length_toDigits_pos).mp (Nat.le_refl _)
  exact (Nat.length_toDigits_le_iff large Nat.length_toDigits_pos).mpr (Nat.lt_of_le_of_lt ordered bound)

theorem digits_injective (large : 1 < base) (small : base ≤ 16) (left right : Nat)
    (same : Nat.toDigits base left = Nat.toDigits base right) : left = right := by
  induction left using Nat.strong_induction_on generalizing right with
  | h left ih =>
      have lengths := congrArg List.length same
      by_cases low : left < base
      · have short : (Nat.toDigits base right).length ≤ 1 := by
          rw [← lengths, Nat.toDigits_of_lt_base low]
          rfl
        have low' : right < base := by
          rw [Nat.length_toDigits_le_iff large Nat.one_pos, Nat.pow_one] at short
          exact short
        rw [Nat.toDigits_of_lt_base low, Nat.toDigits_of_lt_base low'] at same
        exact digit_char_injective left right (by omega) (by omega) (List.cons.inj same).1
      · have high : base ≤ right := by
          by_contra low'
          rw [Nat.toDigits_of_lt_base (Nat.lt_of_not_le low')] at lengths
          have short := (Nat.length_toDigits_le_iff large Nat.one_pos).mp (Nat.le_of_eq lengths)
          rw [Nat.pow_one] at short
          exact low short
        rw [Nat.toDigits_of_base_le large (Nat.le_of_not_lt low), Nat.toDigits_of_base_le large high] at same
        obtain ⟨front, last⟩ := List.append_inj' same rfl
        have quotient := ih (left / base) (Nat.div_lt_self (by omega) large) (right / base) front
        have remainder := digit_char_injective _ _ (Nat.lt_of_lt_of_le (Nat.mod_lt _ (by omega)) small)
          (Nat.lt_of_lt_of_le (Nat.mod_lt _ (by omega)) small) (List.cons.inj last).1
        rw [← Nat.div_add_mod left base, ← Nat.div_add_mod right base, quotient, remainder]

theorem digits_pair (large : 1 < base) (small : base ≤ 16) (first second first' second' : Nat) (ordered : first ≤ first')
    (ordered' : second ≤ second')
    (same : Nat.toDigits base first ++ Nat.toDigits base second = Nat.toDigits base first' ++ Nat.toDigits base second') :
    first = first' ∧ second = second' := by
  have total := congrArg List.length same
  rw [List.length_append, List.length_append] at total
  have front := length_digits_mono large first first' ordered
  have back := length_digits_mono large second second' ordered'
  obtain ⟨left, right⟩ := List.append_inj same (by omega)
  exact ⟨digits_injective large small _ _ left, digits_injective large small _ _ right⟩

theorem digits_spell (large : 1 < base) (value : Nat) :
    ∃ digits : List Nat, Nat.toDigits base value = digits.map Nat.digitChar ∧ (∀ digit ∈ digits, digit < base) ∧
      digits.foldl (fun value digit => value * base + digit) 0 = value ∧
      ∃ first rest, digits = first :: rest ∧ (first = 0 → rest = []) := by
  induction value using Nat.strong_induction_on with
  | h value ih =>
      by_cases low : value < base
      · refine ⟨[value], Nat.toDigits_of_lt_base low, by simpa using low, by simp, value, [], rfl, fun _ => rfl⟩
      · obtain ⟨digits, spelled, small, whole, first, rest, split, leading⟩ := ih (value / base) (Nat.div_lt_self (by omega) large)
        have positive : 0 < value / base := Nat.div_pos (Nat.le_of_not_lt low) (by omega)
        refine ⟨digits ++ [value % base], ?_, ?_, ?_, first, rest ++ [value % base], by rw [split]; rfl, ?_⟩
        · rw [Nat.toDigits_of_base_le large (Nat.le_of_not_lt low), spelled, List.map_append]
          rfl
        · intro digit inside
          rcases List.mem_append.mp inside with early | last
          · exact small digit early
          · rw [List.mem_singleton.mp last]
            exact Nat.mod_lt _ (by omega)
        · rw [List.foldl_append, whole]
          exact Nat.div_add_mod' value base
        · -- A quotient that begins with a zero would be zero.
          intro zero
          rw [split, leading zero, zero] at whole
          simp only [List.foldl_cons, List.foldl_nil, Nat.zero_mul, Nat.zero_add] at whole
          omega

end Digits
