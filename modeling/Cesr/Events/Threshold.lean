import Cesr.Core.Primitives
import Cesr.Lib.SortedSet
import Mathlib.Data.Fintype.Basic
import Mathlib.Data.Set.Card

set_option autoImplicit false

namespace Cesr

open SortedSet

inductive SigningThresholdError where
  | belowMinimum
  | exceedsKeyCount (required keyCount : Nat)
  | emptyClause
  | emptyClauseList
  | tooManyWeights (count : Nat)
deriving DecidableEq, Repr

abbrev Weight := U64 × U64

-- Cumulative clause ends never step back and the last one is the weight count.
def EndsCover (start total : Nat) : List U32 → Prop
  | [] => start = total
  | stop :: rest => start ≤ stop.val ∧ EndsCover stop.val total rest

-- The fields are private in the source and only the nested constructor builds
-- them, so the representation carries its own law.
structure WeightedThreshold where
  weights : List Weight
  clauseEnds : List U32
  covered : EndsCover 0 weights.length clauseEnds
deriving DecidableEq

inductive SigningThreshold where
  | simple (threshold : U64)
  | weighted (threshold : WeightedThreshold)
deriving DecidableEq

def flattenClauses (weights : List Weight) (clauseEnds : List U32) :
    List (List Weight) → Except SigningThresholdError (List Weight × List U32)
  | [] => .ok (weights, clauseEnds)
  | clause :: rest =>
      let extended := weights ++ clause
      match u32TryFrom extended.length with
      | none => .error (.tooManyWeights extended.length)
      | some stop => flattenClauses extended (clauseEnds ++ [stop]) rest

theorem ends_cover_append (start middle : Nat) (ends : List U32) (stop : U32)
    (covered : EndsCover start middle ends) (later : middle ≤ stop.val) :
    EndsCover start stop.val (ends ++ [stop]) := by
  induction ends generalizing start with
  | nil =>
      have here : start = middle := covered
      exact ⟨by omega, rfl⟩
  | cons head tail ih => exact ⟨covered.1, ih head.val covered.2⟩

theorem flatten_clauses_cover (clauses : List (List Weight)) (weights flat : List Weight) (ends flatEnds : List U32)
    (covered : EndsCover 0 weights.length ends)
    (built : flattenClauses weights ends clauses = .ok (flat, flatEnds)) :
    EndsCover 0 flat.length flatEnds := by
  induction clauses generalizing weights ends with
  | nil =>
      have same : (weights, ends) = (flat, flatEnds) := Except.ok.inj built
      cases same
      exact covered
  | cons clause rest ih =>
      simp only [flattenClauses] at built
      split at built
      · cases built
      · rename_i stop fits
        have exactly := (u32_try_from_some _ _).mp fits
        refine ih (weights ++ clause) (ends ++ [stop]) ?_ built
        rw [← exactly]
        exact ends_cover_append 0 weights.length ends stop covered (by rw [exactly, List.length_append]; omega)

def WeightedThreshold.fromNested (clauses : List (List Weight)) :
    Except SigningThresholdError WeightedThreshold :=
  match built : flattenClauses [] [] clauses with
  | .ok (weights, clauseEnds) => .ok ⟨weights, clauseEnds, flatten_clauses_cover clauses [] _ [] _ rfl built⟩
  | .error error => .error error

def sliceGet (items : List Weight) (start stop : Nat) : Option (List Weight) :=
  if start ≤ stop ∧ stop ≤ items.length then some ((items.drop start).take (stop - start)) else none

-- A boundary that cannot be sliced is skipped and does not move the start.
def clausesFrom (weights : List Weight) (start : Nat) : List U32 → List (List Weight)
  | [] => []
  | boundary :: rest =>
      match (usizeTryFrom boundary.val).bind fun stop => (sliceGet weights start stop).map fun clause => (stop, clause) with
      | none => clausesFrom weights start rest
      | some (stop, clause) => clause :: clausesFrom weights stop rest

def WeightedThreshold.clauses (threshold : WeightedThreshold) : List (List Weight) :=
  clausesFrom threshold.weights 0 threshold.clauseEnds

def reachesOneFrom (signed : List Bool) (position : Nat) (accNum accDen : U64) : List Weight → Option Bool
  | [] => some (accDen.val ≤ accNum.val)
  | (num, den) :: rest =>
      if den.val = 0 then none
      else if signed[position]? = some true then do
        let lhs ← checkedMul accNum den
        let rhs ← checkedMul num accDen
        let accNum ← checkedAdd lhs rhs
        let accDen ← checkedMul accDen den
        reachesOneFrom signed (position + 1) accNum accDen rest
      else reachesOneFrom signed (position + 1) accNum accDen rest

def clauseReachesOne (clause : List Weight) (signed : List Bool) : Option Bool :=
  reachesOneFrom signed 0 0 1 clause

def markSigned (base stop : U32) (signed : List Bool) : List U32 → List Bool
  | [] => signed
  | index :: rest =>
      if base.val ≤ index.val ∧ index.val < stop.val then
        markSigned base stop (signed.set (index.val - base.val) true) rest
      else markSigned base stop signed rest

def clausesSatisfied (distinct : List U32) (base : U32) : List (List Weight) → Bool
  | [] => true
  | clause :: rest =>
      match (u32TryFrom clause.length).bind (checkedAdd base) with
      | none => false
      | some stop =>
          let signed := markSigned base stop (List.replicate clause.length false) distinct
          if clauseReachesOne clause signed = some true then clausesSatisfied distinct stop rest else false

def ascending : List U32 → Bool
  | first :: second :: rest => decide (first < second) && ascending (second :: rest)
  | _ => true

def SigningThreshold.satisfiedBySortedUnique (threshold : SigningThreshold) (distinct : List U32) : Bool :=
  if ascending distinct then
    match threshold with
    | .simple required =>
        match usizeTryFrom required.val with
        | none => false
        | some required => decide (required ≤ distinct.length)
    | .weighted flat =>
        if flat.clauseEnds.isEmpty then false else clausesSatisfied distinct 0 flat.clauses
  else false

def SigningThreshold.satisfiedBy (threshold : SigningThreshold) (indices : List U32) : Bool :=
  threshold.satisfiedBySortedUnique (sortDedup indices)

def SigningThreshold.checkWellFormed (threshold : SigningThreshold) (keyCount : Nat) :
    Except SigningThresholdError Unit :=
  match threshold with
  | .simple required =>
      match usizeTryFrom required.val with
      | none => .error (.exceedsKeyCount (2 ^ 64 - 1) keyCount)
      | some required =>
          if required < 1 then .error .belowMinimum
          else if required > keyCount then .error (.exceedsKeyCount required keyCount)
          else .ok ()
  | .weighted flat =>
      if flat.clauseEnds.isEmpty then .error .emptyClauseList
      else if flat.clauses.any List.isEmpty then .error .emptyClause
      else if flat.weights.length > keyCount then .error (.exceedsKeyCount flat.weights.length keyCount)
      else .ok ()

-- The rule the check stands for, without the order of its failures.
def SigningThreshold.WellFormed (threshold : SigningThreshold) (keyCount : Nat) : Prop :=
  match threshold with
  | .simple required => 1 ≤ required.val ∧ required.val ≤ keyCount
  | .weighted flat =>
      flat.clauseEnds ≠ [] ∧ (∀ clause ∈ flat.clauses, clause ≠ []) ∧ flat.weights.length ≤ keyCount

theorem check_well_formed_iff (threshold : SigningThreshold) (keyCount : Nat) :
    threshold.checkWellFormed keyCount = .ok () ↔ threshold.WellFormed keyCount := by
  cases threshold with
  | simple required =>
      simp only [SigningThreshold.checkWellFormed, SigningThreshold.WellFormed, usize_try_from_u64]
      split
      · constructor
        · intro impossible
          cases impossible
        · omega
      · split
        · constructor
          · intro impossible
            cases impossible
          · omega
        · constructor
          · omega
          · intro _
            rfl
  | weighted flat =>
      simp only [SigningThreshold.checkWellFormed, SigningThreshold.WellFormed]
      by_cases empty : flat.clauseEnds = []
      · simp [empty]
      · by_cases hollow : [] ∈ flat.clauses
        · have found : flat.clauses.any List.isEmpty = true := List.any_eq_true.mpr ⟨[], hollow, rfl⟩
          have broken : ¬ ∀ clause ∈ flat.clauses, clause ≠ [] := fun solid => solid [] hollow rfl
          simp [empty, found, broken]
        · have solid : ∀ clause ∈ flat.clauses, clause ≠ [] := fun clause member same => hollow (same ▸ member)
          have missed : flat.clauses.any List.isEmpty = false := by
            simpa only [List.any_eq_false, List.isEmpty_iff] using solid
          by_cases large : flat.weights.length > keyCount
          · simp [empty, missed, large]
          · have small : flat.weights.length ≤ keyCount := Nat.le_of_not_lt large
            simpa [empty, missed, large] using (⟨solid, small⟩ : _ ∧ _)

instance (threshold : SigningThreshold) (keyCount : Nat) : Decidable (threshold.WellFormed keyCount) :=
  decidable_of_iff _ (check_well_formed_iff threshold keyCount)

theorem ends_cover_le (start total : Nat) (ends : List U32) (covered : EndsCover start total ends) :
    start ≤ total := by
  induction ends generalizing start with
  | nil => exact Nat.le_of_eq covered
  | cons stop rest ih => exact Nat.le_trans covered.1 (ih stop.val covered.2)

theorem well_formed_positive (threshold : SigningThreshold) (keyCount : Nat)
    (wellFormed : threshold.WellFormed keyCount) : 0 < keyCount := by
  cases threshold with
  | simple required => exact Nat.lt_of_lt_of_le wellFormed.1 wellFormed.2
  | weighted flat =>
      obtain ⟨some, solid, small⟩ := wellFormed
      obtain ⟨weights, ends, covered⟩ := flat
      cases ends with
      | nil => exact absurd rfl some
      | cons stop rest =>
          cases weights with
          | cons weight others =>
              have counted : others.length + 1 ≤ keyCount := small
              omega
          | nil =>
              have final : stop.val = 0 := Nat.le_zero.mp (ends_cover_le stop.val 0 rest covered.2)
              refine absurd rfl (solid [] ?_)
              simp [WeightedThreshold.clauses, clausesFrom, sliceGet, usizeTryFrom, final]

theorem ascending_iff (distinct : List U32) : ascending distinct = true ↔ distinct.Pairwise (· < ·) := by
  induction distinct with
  | nil => simp [ascending]
  | cons first rest ih =>
      cases rest with
      | nil => simp [ascending]
      | cons second rest =>
          simp only [ascending, Bool.and_eq_true, decide_eq_true_eq, ih, List.pairwise_cons, List.mem_cons]
          apply Iff.intro
          · intro passed
            obtain ⟨less, least, sorted⟩ := passed
            refine ⟨?_, least, sorted⟩
            rintro later (rfl | member)
            · exact less
            · exact lt_trans less (least later member)
          · intro met
            obtain ⟨least, sorted⟩ := met
            exact ⟨least second (Or.inl rfl), sorted⟩

-- Satisfaction by a set of signers, free of any listing of it.
def SigningThreshold.Holds (threshold : SigningThreshold) (signers : Finset U32) : Prop :=
  threshold.satisfiedBySortedUnique (signers.sort (· ≤ ·)) = true

instance (threshold : SigningThreshold) (signers : Finset U32) : Decidable (threshold.Holds signers) :=
  inferInstanceAs (Decidable (_ = true))

theorem satisfied_by_sort_dedup (threshold : SigningThreshold) (indices : List U32) :
    threshold.satisfiedBySortedUnique (sortDedup indices) = true ↔ threshold.Holds indices.toFinset := by
  rw [sort_dedup_eq_sort]
  rfl

theorem simple_holds (required : U64) (signers : Finset U32) :
    (SigningThreshold.simple required).Holds signers ↔ required.val ≤ signers.card := by
  have sorted : ascending (signers.sort (· ≤ ·)) = true :=
    (ascending_iff _).mpr (Finset.sortedLT_sort signers).pairwise
  simp [SigningThreshold.Holds, SigningThreshold.satisfiedBySortedUnique, sorted]

end Cesr
