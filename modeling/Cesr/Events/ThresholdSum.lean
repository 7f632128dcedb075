import Cesr.Events.Threshold
import Cesr.Lib.Fractions

set_option autoImplicit false

namespace Cesr

open SortedSet Fractions

def Weight.exact (weight : Weight) : Fraction := (weight.1.val, weight.2.val)

def SignedAt (signers : Finset U32) (position : Nat) : Prop := ∃ index ∈ signers, index.val = position

instance (signers : Finset U32) (position : Nat) : Decidable (SignedAt signers position) :=
  inferInstanceAs (Decidable (∃ index ∈ signers, index.val = position))

def signedWeights (signers : Finset U32) (base : Nat) : List Weight → List Fraction
  | [] => []
  | weight :: rest =>
      if SignedAt signers base then weight.exact :: signedWeights signers (base + 1) rest else signedWeights signers (base + 1) rest

def SolidClause (clause : List Weight) : Prop := ∀ weight ∈ clause, weight.2.val ≠ 0

def ClauseFits (signers : Finset U32) (base : Nat) (clause : List Weight) : Prop :=
  Fits (2 ^ 64) (0, 1) (signedWeights signers base clause)

def ClauseMet (signers : Finset U32) (base : Nat) (clause : List Weight) : Prop :=
  SolidClause clause ∧ ClauseFits signers base clause ∧ 1 ≤ share (signedWeights signers base clause)

theorem checked_mul_some {width : Nat} (left right product : Fin (2 ^ width)) :
    checkedMul left right = some product ↔ product.val = left.val * right.val := by
  have bound := product.isLt
  unfold checkedMul
  by_cases fits : left.val * right.val < 2 ^ width
  · rw [dif_pos fits, Option.some.injEq, Fin.ext_iff]
    exact eq_comm
  · rw [dif_neg fits]
    apply Iff.intro
    · intro none
      cases none
    · intro same
      omega

theorem checked_step (accNum accDen : U64) (weight : Weight) (num den : U64) :
    ((∃ lhs, checkedMul accNum weight.2 = some lhs ∧ ∃ rhs, checkedMul weight.1 accDen = some rhs ∧
        checkedAdd lhs rhs = some num) ∧ checkedMul accDen weight.2 = some den) ↔
      (num.val, den.val) = add (accNum.val, accDen.val) weight.exact := by
  simp only [checked_mul_some, checked_add_some, add, Weight.exact, Prod.mk.injEq]
  apply Iff.intro
  · intro made
    obtain ⟨⟨lhs, first, rhs, second, sum⟩, product⟩ := made
    exact ⟨by rw [sum, first, second], product⟩
  · intro made
    have bound := num.isLt
    have sum := made.1
    exact ⟨⟨⟨accNum.val * weight.2.val, by omega⟩, rfl, ⟨weight.1.val * accDen.val, by omega⟩, rfl, sum⟩, made.2⟩

theorem reaches_one_iff (signers : Finset U32) (base : Nat) (signed : List Bool) (position : Nat) (accNum accDen : U64)
    (clause : List Weight)
    (flags : ∀ place < clause.length, signed[position + place]? = some true ↔ SignedAt signers (base + place)) :
    reachesOneFrom signed position accNum accDen clause = some true ↔
      SolidClause clause ∧ Fits (2 ^ 64) (accNum.val, accDen.val) (signedWeights signers base clause) ∧
        (total (accNum.val, accDen.val) (signedWeights signers base clause)).2 ≤
          (total (accNum.val, accDen.val) (signedWeights signers base clause)).1 := by
  induction clause generalizing base position accNum accDen with
  | nil => simp [reachesOneFrom, SolidClause, signedWeights, Fits, total]
  | cons weight rest ih =>
      have later : ∀ place < rest.length, signed[position + 1 + place]? = some true ↔ SignedAt signers (base + 1 + place) := by
        intro place inside
        rw [Nat.add_assoc, Nat.add_assoc, Nat.add_comm 1 place]
        exact flags (place + 1) (Nat.succ_lt_succ inside)
      have solid : SolidClause (weight :: rest) ↔ weight.2.val ≠ 0 ∧ SolidClause rest := List.forall_mem_cons
      have here := flags 0 (Nat.succ_pos _)
      rw [Nat.add_zero, Nat.add_zero] at here
      rw [solid]
      unfold reachesOneFrom
      by_cases hollow : weight.2.val = 0
      · rw [if_pos hollow]
        simp [hollow]
      · rw [if_neg hollow]
        by_cases marked : SignedAt signers base
        · rw [if_pos (here.mpr marked)]
          simp only [signedWeights, if_pos marked, Option.bind_eq_bind, Option.bind_eq_some_iff]
          have total_cons : total (accNum.val, accDen.val) (weight.exact :: signedWeights signers (base + 1) rest) =
              total (add (accNum.val, accDen.val) weight.exact) (signedWeights signers (base + 1) rest) := rfl
          rw [total_cons, Fits]
          apply Iff.intro
          · intro stepped
            obtain ⟨lhs, first, rhs, second, num, sum, den, product, rest'⟩ := stepped
            have made := (checked_step accNum accDen weight num den).mp ⟨⟨lhs, first, rhs, second, sum⟩, product⟩
            obtain ⟨sound, fits, reached⟩ := (ih (base + 1) (position + 1) num den later).mp rest'
            rw [← made]
            exact ⟨⟨hollow, sound⟩, ⟨num.isLt, den.isLt, fits⟩, reached⟩
          · intro met
            obtain ⟨⟨_, sound⟩, ⟨small, small', fits⟩, reached⟩ := met
            have made := (checked_step accNum accDen weight ⟨_, small⟩ ⟨_, small'⟩).mpr rfl
            obtain ⟨⟨lhs, first, rhs, second, sum⟩, product⟩ := made
            exact ⟨lhs, first, rhs, second, _, sum, _, product,
              (ih (base + 1) (position + 1) _ _ later).mpr ⟨sound, fits, reached⟩⟩
        · rw [if_neg (mt here.mp marked), ih (base + 1) (position + 1) accNum accDen later]
          simp only [signedWeights, if_neg marked]
          simp [hollow]

theorem signed_weights_solid (signers : Finset U32) (base : Nat) (clause : List Weight) (solid : SolidClause clause) :
    ∀ fraction ∈ signedWeights signers base clause, fraction.2 ≠ 0 := by
  induction clause generalizing base with
  | nil => simp [signedWeights]
  | cons weight rest ih =>
      obtain ⟨here, later⟩ := List.forall_mem_cons.mp solid
      have tail := ih (base + 1) later
      unfold signedWeights
      by_cases marked : SignedAt signers base
      · rw [if_pos marked]
        exact List.forall_mem_cons.mpr ⟨here, tail⟩
      · rw [if_neg marked]
        exact tail

theorem clause_reaches_one_iff (signers : Finset U32) (base : Nat) (signed : List Bool) (clause : List Weight)
    (flags : ∀ place < clause.length, signed[place]? = some true ↔ SignedAt signers (base + place)) :
    clauseReachesOne clause signed = some true ↔ ClauseMet signers base clause := by
  have run := reaches_one_iff signers base signed 0 0 1 clause (fun place inside => by rw [Nat.zero_add]; exact flags place inside)
  rw [clauseReachesOne, run]
  apply and_congr_right
  intro solid
  apply and_congr_right
  intro _
  obtain ⟨some', sum⟩ := total_value (0, 1) (signedWeights signers base clause) Nat.one_ne_zero (signed_weights_solid signers base clause solid)
  have zero : value (0, 1) = 0 := by simp [value]
  rw [zero, zero_add] at sum
  rw [← sum]
  exact (one_le_value _ some').symm

theorem mark_signed_spec (base stop : U32) (signed : List Bool) (distinct : List U32) (place : Nat)
    (inside : place < signed.length) (run : base.val + signed.length = stop.val) :
    (markSigned base stop signed distinct)[place]? = some true ↔
      signed[place]? = some true ∨ ∃ index ∈ distinct, index.val = base.val + place := by
  induction distinct generalizing signed with
  | nil => simp [markSigned]
  | cons index rest ih =>
      unfold markSigned
      by_cases owned : base.val ≤ index.val ∧ index.val < stop.val
      · rw [if_pos owned, ih _ (by rw [List.length_set]; exact inside) (by rw [List.length_set]; exact run),
          List.getElem?_set]
        by_cases here : index.val - base.val = place
        · have same : index.val = base.val + place := by omega
          simp [inside, same]
        · have apart : index.val ≠ base.val + place := by omega
          simp [here, apart]
      · rw [if_neg owned, ih signed inside run]
        have apart : index.val ≠ base.val + place := by omega
        simp [apart]

def ClausesMet (signers : Finset U32) (base : Nat) : List (List Weight) → Prop
  | [] => True
  | clause :: rest => ClauseMet signers base clause ∧ ClausesMet signers (base + clause.length) rest

theorem clauses_satisfied_iff (distinct : List U32) (base : U32) (clauses : List (List Weight))
    (small : base.val + clauses.flatten.length < 2 ^ 32) :
    clausesSatisfied distinct base clauses = true ↔ ClausesMet distinct.toFinset base.val clauses := by
  induction clauses generalizing base with
  | nil => simp [clausesSatisfied, ClausesMet]
  | cons clause rest ih =>
      rw [List.flatten_cons, List.length_append] at small
      have width : u32TryFrom clause.length = some ⟨clause.length, by omega⟩ := (u32_try_from_some _ _).mpr rfl
      have stop : checkedAdd base ⟨clause.length, by omega⟩ = some ⟨base.val + clause.length, by omega⟩ :=
        (checked_add_some _ _ _).mpr rfl
      have met : clauseReachesOne clause
          (markSigned base ⟨base.val + clause.length, by omega⟩ (List.replicate clause.length false) distinct) = some true ↔
            ClauseMet distinct.toFinset base.val clause := by
        apply clause_reaches_one_iff
        intro place inside
        rw [mark_signed_spec _ _ _ _ place (by rw [List.length_replicate]; exact inside) (by rw [List.length_replicate])]
        simp [List.getElem?_replicate, SignedAt]
      rw [clausesSatisfied, width, Option.bind_some, stop]
      simp only [ClausesMet]
      by_cases reached : ClauseMet distinct.toFinset base.val clause
      · rw [if_pos (met.mpr reached), ih ⟨base.val + clause.length, by omega⟩ (by simp only; omega)]
        exact (and_iff_right reached).symm
      · rw [if_neg (mt met.mp reached)]
        simp [reached]

theorem clauses_met_iff (signers : Finset U32) (base : Nat) (clauses : List (List Weight)) :
    ClausesMet signers base clauses ↔
      ∀ before clause after, clauses = before ++ clause :: after → ClauseMet signers (base + before.flatten.length) clause := by
  induction clauses generalizing base with
  | nil => simp [ClausesMet]
  | cons first rest ih =>
      rw [ClausesMet, ih]
      apply Iff.intro
      · intro met before clause after split
        cases before with
        | nil =>
            obtain ⟨same, _⟩ := List.cons.inj split
            rw [← same]
            exact met.1
        | cons head before =>
            obtain ⟨same, others⟩ := List.cons.inj split
            rw [← same, List.flatten_cons, List.length_append, ← Nat.add_assoc]
            exact met.2 before clause after others
      · intro met
        refine ⟨met [] first rest rfl, ?_⟩
        intro before clause after split
        have here := met (first :: before) clause after (by rw [split]; rfl)
        rw [List.flatten_cons, List.length_append, ← Nat.add_assoc] at here
        exact here

theorem clauses_from_cover (weights : List Weight) (start : Nat) (ends : List U32) (covered : EndsCover start weights.length ends) :
    (clausesFrom weights start ends).flatten = weights.drop start ∧ (clausesFrom weights start ends).length = ends.length := by
  induction ends generalizing start with
  | nil =>
      have same : start = weights.length := covered
      rw [same, List.drop_length]
      exact ⟨rfl, rfl⟩
  | cons stop rest ih =>
      obtain ⟨ordered, later⟩ := covered
      have inside := ends_cover_le stop.val weights.length rest later
      obtain ⟨flat, counted⟩ := ih stop.val later
      simp only [clausesFrom, usize_try_from_u32, Option.bind_some, sliceGet, if_pos (And.intro ordered inside), Option.map_some]
      apply And.intro
      · rw [List.flatten_cons, flat]
        have split := List.take_append_drop (stop.val - start) (weights.drop start)
        rw [List.drop_drop, Nat.add_sub_cancel' ordered] at split
        exact split
      · rw [List.length_cons, List.length_cons, counted]

theorem ends_cover_small (start total : Nat) (ends : List U32) (covered : EndsCover start total ends) (small : start < 2 ^ 32) :
    total < 2 ^ 32 := by
  induction ends generalizing start with
  | nil =>
      have same : start = total := covered
      omega
  | cons stop rest ih => exact ih stop.val covered.2 stop.isLt

theorem weighted_clauses (flat : WeightedThreshold) :
    flat.clauses.flatten = flat.weights ∧ flat.clauses.length = flat.clauseEnds.length ∧ flat.weights.length < 2 ^ 32 := by
  have cover := clauses_from_cover flat.weights 0 flat.clauseEnds flat.covered
  exact ⟨cover.1, cover.2, ends_cover_small 0 _ _ flat.covered (Nat.two_pow_pos 32)⟩

theorem weighted_holds (flat : WeightedThreshold) (signers : Finset U32) :
    (SigningThreshold.weighted flat).Holds signers ↔ flat.clauses ≠ [] ∧ ClausesMet signers 0 flat.clauses := by
  have sorted : ascending (signers.sort (· ≤ ·)) = true :=
    (ascending_iff _).mpr (Finset.sortedLT_sort signers).pairwise
  obtain ⟨flattened, counted, small⟩ := weighted_clauses flat
  have empty : flat.clauseEnds.isEmpty = true ↔ flat.clauses = [] := by
    rw [List.isEmpty_iff, ← List.length_eq_zero_iff, ← counted, List.length_eq_zero_iff]
  have satisfied := clauses_satisfied_iff (signers.sort (· ≤ ·)) 0 flat.clauses
    (by rw [flattened]; exact (Nat.zero_add _).trans_lt small)
  rw [Finset.sort_toFinset] at satisfied
  simp only [SigningThreshold.Holds, SigningThreshold.satisfiedBySortedUnique, sorted, if_true]
  by_cases none' : flat.clauses = []
  · rw [if_pos (empty.mpr none')]
    simp [none']
  · rw [if_neg (mt empty.mp none'), satisfied]
    exact (and_iff_right none').symm

end Cesr
