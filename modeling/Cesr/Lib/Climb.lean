import Mathlib.Data.List.Basic

set_option autoImplicit false

namespace Climb

-- A contest is climbed level by level: a level that favours the challenger
-- gives it the win, a settled level ends the climb, any other is a tie.
variable {Level : Type} (favours settled : Level → Bool)

def wins : List Level → Bool
  | [] => false
  | level :: rest => if favours level then true else if settled level then false else wins rest

-- The levels a climb can look at, whoever is climbing.
def reach : List Level → List Level
  | [] => []
  | level :: rest => if settled level then [level] else level :: reach rest

theorem wins_iff (levels : List Level) :
    wins favours settled levels = true ↔ ∃ level ∈ reach settled levels, favours level = true := by
  induction levels with
  | nil => simp [wins, reach]
  | cons level rest ih =>
      by_cases favoured : favours level = true
      · by_cases ended : settled level = true <;> simp [wins, reach, favoured, ended]
      · by_cases ended : settled level = true
        · simp [wins, reach, favoured, ended]
        · simp [wins, reach, favoured, ended, ih]

theorem reach_map (mirror : Level → Level) (symmetric : ∀ level, settled (mirror level) = settled level)
    (levels : List Level) : reach settled (levels.map mirror) = (reach settled levels).map mirror := by
  induction levels with
  | nil => rfl
  | cons level rest ih =>
      by_cases ended : settled level = true
      · simp [reach, symmetric, ended]
      · simp [reach, symmetric, ended, ih]

-- A level may favour one side, and another level the other.
def Contradictory (mirror : Level → Level) (levels : List Level) : Prop :=
  (∃ level ∈ reach settled levels, favours level = true) ∧
    ∃ level ∈ reach settled levels, favours (mirror level) = true

theorem both_win_iff (mirror : Level → Level) (symmetric : ∀ level, settled (mirror level) = settled level)
    (levels : List Level) :
    (wins favours settled levels = true ∧ wins favours settled (levels.map mirror) = true) ↔
      Contradictory favours settled mirror levels := by
  rw [wins_iff, wins_iff, reach_map settled mirror symmetric]
  simp only [Contradictory, List.mem_map, exists_exists_and_eq_and]

end Climb
