import Mathlib.Data.List.Basic

set_option autoImplicit false

namespace Descent

-- What a level holds next: nothing, a fault, an item of its own, or a level
-- inside it with the siblings behind that level.
inductive Turn (Level Item Fault : Type) where
  | stop
  | fail (fault : Fault)
  | give (item : Item) (next : Level)
  | enter (inner rest : Level)

-- A walk through nested levels. Every turn leaves less to walk through.
structure Walk (Level Item Fault : Type) where
  turn : Level → Turn Level Item Fault
  size : Level → Nat
  gives : ∀ level item next, turn level = .give item next → size next < size level
  enters : ∀ level inner rest, turn level = .enter inner rest → size inner + size rest < size level
  filled : ∀ level, 0 < size level

variable {Level Item Fault : Type} (walk : Walk Level Item Fault)

def join (first later : List Item × Option Fault) : List Item × Option Fault :=
  match first.2 with
  | some _ => first
  | none => (first.1 ++ later.1, later.2)

def Walk.descend (level : Level) : List Item × Option Fault :=
  match _turned : walk.turn level with
  | .stop => ([], none)
  | .fail fault => ([], some fault)
  | .give item next => join ([item], none) (Walk.descend next)
  | .enter inner rest => join (Walk.descend inner) (Walk.descend rest)
termination_by walk.size level
decreasing_by
  · exact walk.gives level item next _turned
  · have smaller := walk.enters level inner rest _turned
    omega
  · have smaller := walk.enters level inner rest _turned
    omega

def items (stretch : List Item × Option Fault) : List (Except Fault Item) :=
  stretch.1.map .ok ++ (stretch.2.map .error).toList

def Walk.descendAll : List Level → List Item × Option Fault
  | [] => ([], none)
  | level :: below => join (walk.descend level) (Walk.descendAll below)

-- The next item, found with a stack of suspended levels in place of the
-- recursion. A level of which nothing is kept is not put on the stack.
def Walk.pull (kept : Level → Bool) : Nat → List Level → Option (Except Fault Item) × List Level
  | 0, levels => (none, levels)
  | _ + 1, [] => (none, [])
  | turns + 1, level :: below =>
      match walk.turn level with
      | .stop => Walk.pull kept turns below
      | .fail fault => (some (.error fault), [])
      | .give item next => (some (.ok item), next :: below)
      | .enter inner rest => Walk.pull kept turns (inner :: if kept rest then rest :: below else below)

def Walk.left : List Level → Nat
  | [] => 0
  | level :: below => walk.size level + Walk.left below

section Join

theorem join_ends (stretch : List Item × Option Fault) : join stretch ([], none) = stretch := by
  obtain ⟨found, fault⟩ := stretch
  cases fault with
  | none => rw [join, List.append_nil]
  | some fault => rfl

theorem join_assoc (first second third : List Item × Option Fault) :
    join (join first second) third = join first (join second third) := by
  obtain ⟨found, fault⟩ := first
  obtain ⟨found', fault'⟩ := second
  cases fault with
  | some fault => rfl
  | none =>
      cases fault' with
      | some fault' => rfl
      | none => simp only [join, List.append_assoc]

theorem items_of_item (item : Item) (later : List Item × Option Fault) :
    items (join ([item], none) later) = .ok item :: items later := rfl

end Join

section Turns

theorem descend_eq (level : Level) :
    walk.descend level =
      match walk.turn level with
      | .stop => ([], none)
      | .fail fault => ([], some fault)
      | .give item next => join ([item], none) (walk.descend next)
      | .enter inner rest => join (walk.descend inner) (walk.descend rest) := by
  rw [Walk.descend]
  split <;> rename_i turned <;> simp only [turned]

theorem descend_stop (level : Level) (turned : walk.turn level = .stop) : walk.descend level = ([], none) := by
  rw [descend_eq, turned]

theorem descend_fail (level : Level) (fault : Fault) (turned : walk.turn level = .fail fault) :
    walk.descend level = ([], some fault) := by
  rw [descend_eq, turned]

theorem descend_give (level next : Level) (item : Item) (turned : walk.turn level = .give item next) :
    walk.descend level = join ([item], none) (walk.descend next) := by
  rw [descend_eq, turned]

theorem descend_enter (level inner rest : Level) (turned : walk.turn level = .enter inner rest) :
    walk.descend level = join (walk.descend inner) (walk.descend rest) := by
  rw [descend_eq, turned]

end Turns

section Stack

variable (kept : Level → Bool)

theorem descend_all_kept (drops : ∀ level, kept level = false → walk.turn level = .stop) (rest : Level) (below : List Level) :
    walk.descendAll (if kept rest then rest :: below else below) = join (walk.descend rest) (walk.descendAll below) := by
  cases keep : kept rest with
  | true => rfl
  | false =>
      rw [descend_stop walk rest (drops rest keep)]
      rfl

theorem left_kept (rest : Level) (below : List Level) :
    walk.left (if kept rest then rest :: below else below) ≤ walk.size rest + walk.left below := by
  cases kept rest with
  | true => exact Nat.le_of_eq rfl
  | false => exact Nat.le_add_left _ _

theorem pull_descends (drops : ∀ level, kept level = false → walk.turn level = .stop) (turns : Nat) (levels : List Level) (enough : walk.left levels ≤ turns) :
    (walk.pull kept turns levels).1 = (items (walk.descendAll levels))[0]? ∧
      items (walk.descendAll (walk.pull kept turns levels).2) = (items (walk.descendAll levels)).tail := by
  induction turns generalizing levels with
  | zero =>
      cases levels with
      | nil => exact ⟨rfl, rfl⟩
      | cons level below =>
          have filled := walk.filled level
          rw [Walk.left] at enough
          omega
  | succ turns ih =>
      cases levels with
      | nil => exact ⟨rfl, rfl⟩
      | cons level below =>
          have filled := walk.filled level
          have split : walk.left (level :: below) = walk.size level + walk.left below := rfl
          rw [Walk.pull, Walk.descendAll]
          cases turned : walk.turn level with
          | stop =>
              rw [descend_stop walk level turned]
              exact ih below (by omega)
          | fail fault =>
              rw [descend_fail walk level fault turned]
              exact ⟨rfl, rfl⟩
          | give item next =>
              rw [descend_give walk level next item turned, join_assoc, items_of_item]
              exact ⟨rfl, rfl⟩
          | enter inner rest =>
              rw [descend_enter walk level inner rest turned, join_assoc, ← descend_all_kept walk kept drops rest below]
              have smaller := walk.enters level inner rest turned
              have fewer := left_kept walk kept rest below
              refine ih (inner :: if kept rest then rest :: below else below) ?_
              have inside : walk.left (inner :: if kept rest then rest :: below else below) =
                  walk.size inner + walk.left (if kept rest then rest :: below else below) := rfl
              omega

end Stack

end Descent
