import Mathlib.Tactic.IntervalCases

set_option autoImplicit false

namespace Calendar

def Leap (year : Nat) : Prop := year % 4 = 0 ∧ (year % 100 ≠ 0 ∨ year % 400 = 0)

instance decidableLeap (year : Nat) : Decidable (Leap year) := inferInstanceAs (Decidable (_ ∧ _))

def leapDay (year : Nat) : Nat := if Leap year then 1 else 0

def monthLength (year month : Nat) : Nat :=
  match month with
  | 2 => 28 + leapDay year
  | 4 | 6 | 9 | 11 => 30
  | _ => 31

def daysBeforeYear : Nat → Nat
  | 0 => 0
  | year + 1 => daysBeforeYear year + (365 + leapDay year)

def daysBeforeMonth (year : Nat) : Nat → Nat
  | 0 => 0
  | 1 => 0
  | month + 2 => daysBeforeMonth year (month + 1) + monthLength year (month + 1)

structure Date where
  year : Nat
  month : Nat
  day : Nat
  inYear : 1 ≤ month ∧ month ≤ 12
  inMonth : 1 ≤ day ∧ day ≤ monthLength year month

def Date.ordinal (date : Date) : Nat := daysBeforeYear date.year + daysBeforeMonth date.year date.month + (date.day - 1)

def epoch : Date where
  year := 1970
  month := 1
  day := 1
  inYear := by decide
  inMonth := by decide

theorem leap_day_cases (year : Nat) :
    (year % 4 = 0 ∧ (year % 100 ≠ 0 ∨ year % 400 = 0) ∧ leapDay year = 1) ∨
      (¬ (year % 4 = 0 ∧ (year % 100 ≠ 0 ∨ year % 400 = 0)) ∧ leapDay year = 0) := by
  unfold leapDay
  by_cases leap : Leap year
  · rw [if_pos leap]
    exact .inl ⟨leap.1, leap.2, rfl⟩
  · rw [if_neg leap]
    exact .inr ⟨leap, rfl⟩

theorem leap_day_counted (year : Nat) :
    leapDay year + (if year % 100 = 0 then 1 else 0) = (if year % 4 = 0 then 1 else 0) + (if year % 400 = 0 then 1 else 0) := by
  rcases leap_day_cases year with ⟨four, other, one⟩ | ⟨never, none'⟩
  · rw [one]
    split_ifs <;> omega
  · rw [none']
    split_ifs <;> omega

theorem days_before_year (year : Nat) :
    daysBeforeYear year + (year + 99) / 100 = 365 * year + (year + 3) / 4 + (year + 399) / 400 := by
  induction year with
  | zero => rfl
  | succ year ih =>
      have centuries : (year + 1 + 99) / 100 = (year + 99) / 100 + (if year % 100 = 0 then 1 else 0) := by
        split_ifs <;> omega
      have fours : (year + 1 + 3) / 4 = (year + 3) / 4 + (if year % 4 = 0 then 1 else 0) := by
        split_ifs <;> omega
      have eras : (year + 1 + 399) / 400 = (year + 399) / 400 + (if year % 400 = 0 then 1 else 0) := by
        split_ifs <;> omega
      have leap := leap_day_counted year
      rw [daysBeforeYear, centuries, fours, eras]
      generalize (year + 99) / 100 = passed at ih ⊢
      generalize (year + 3) / 4 = quarters at ih ⊢
      generalize (year + 399) / 400 = cycles at ih ⊢
      omega

theorem days_before_late_month (year month : Nat) (late : 3 ≤ month) (inYear : month ≤ 12) :
    daysBeforeMonth year month = 59 + leapDay year + (153 * (month - 3) + 2) / 5 := by
  interval_cases month <;> simp only [daysBeforeMonth, monthLength] <;> omega

theorem days_before_early_month (year month : Nat) (inYear : 1 ≤ month) (early : month ≤ 2) :
    daysBeforeMonth year month = 31 * (month - 1) := by
  interval_cases month <;> simp only [daysBeforeMonth, monthLength]

end Calendar
