import Cesr.Events.ThresholdSum

set_option autoImplicit false

namespace Cesr

open SortedSet Fractions

def runShare (indices : Finset U32) (base : Nat) (clause : List Weight) : ℚ :=
  ∑ index ∈ indices.filter (fun index => base ≤ index.val ∧ index.val < base + clause.length),
    (clause[index.val - base]?.map fun weight => value weight.exact).getD 0

theorem sum_at_base (indices : Finset U32) (base : Nat) (share : ℚ) :
    (∑ index ∈ indices, if index.val = base then share else 0) = if SignedAt indices base then share else 0 := by
  by_cases marked : SignedAt indices base
  · rw [if_pos marked]
    obtain ⟨index, inside, here⟩ := marked
    have same : ∀ other ∈ indices, (if other.val = base then share else 0) = if other = index then share else 0 := by
      intro other _
      simp only [← here, Fin.ext_iff]
    rw [Finset.sum_congr rfl same, Finset.sum_ite_eq' indices index, if_pos inside]
  · rw [if_neg marked]
    apply Finset.sum_eq_zero
    intro index inside
    exact if_neg (fun here => marked ⟨index, inside, here⟩)

theorem run_share_cons (indices : Finset U32) (base : Nat) (weight : Weight) (rest : List Weight) :
    runShare indices base (weight :: rest) =
      (if SignedAt indices base then value weight.exact else 0) + runShare indices (base + 1) rest := by
  rw [runShare, runShare, Finset.sum_filter, Finset.sum_filter, ← sum_at_base, ← Finset.sum_add_distrib]
  apply Finset.sum_congr rfl
  intro index _
  rcases Nat.lt_trichotomy index.val base with before | here | after
  · rw [if_neg (by omega), if_neg (by omega), if_neg (by omega), add_zero]
  · rw [if_pos (by rw [List.length_cons]; omega), if_pos here, if_neg (by omega), add_zero, here, Nat.sub_self]
    rfl
  · have place : index.val - base = index.val - (base + 1) + 1 := by omega
    have apart : ¬ index.val = base := by omega
    rw [if_neg apart, zero_add, place, List.getElem?_cons_succ, List.length_cons]
    by_cases inside : index.val < base + 1 + rest.length
    · rw [if_pos (by omega), if_pos (by omega)]
    · rw [if_neg (by omega), if_neg (by omega)]

theorem share_signed_weights (indices : Finset U32) (base : Nat) (clause : List Weight) :
    share (signedWeights indices base clause) = runShare indices base clause := by
  induction clause generalizing base with
  | nil =>
      rw [runShare, Finset.sum_eq_zero]
      · rfl
      · intro index inside
        rfl
  | cons weight rest ih =>
      rw [run_share_cons, ← ih, signedWeights]
      by_cases marked : SignedAt indices base
      · rw [if_pos marked, if_pos marked]
        exact List.sum_cons
      · rw [if_neg marked, if_neg marked, zero_add]

theorem signed_weights_congr (signers others : Finset U32) (base : Nat) (clause : List Weight)
    (same : ∀ place < clause.length, SignedAt signers (base + place) ↔ SignedAt others (base + place)) :
    signedWeights signers base clause = signedWeights others base clause := by
  induction clause generalizing base with
  | nil => rfl
  | cons weight rest ih =>
      have later : signedWeights signers (base + 1) rest = signedWeights others (base + 1) rest := by
        apply ih
        intro place inside
        rw [Nat.add_assoc, Nat.add_comm 1 place]
        exact same (place + 1) (Nat.succ_lt_succ inside)
      have here := same 0 (Nat.succ_pos _)
      rw [Nat.add_zero] at here
      rw [signedWeights, signedWeights, later]
      by_cases marked : SignedAt signers base
      · rw [if_pos marked, if_pos (here.mp marked)]
      · rw [if_neg marked, if_neg (mt here.mpr marked)]

theorem signed_weights_sublist (fewer more : Finset U32) (inside : fewer ⊆ more) (base : Nat) (clause : List Weight) :
    (signedWeights fewer base clause).Sublist (signedWeights more base clause) := by
  induction clause generalizing base with
  | nil => exact List.Sublist.refl _
  | cons weight rest ih =>
      unfold signedWeights
      by_cases marked : SignedAt fewer base
      · have still : SignedAt more base := by
          obtain ⟨index, member, here⟩ := marked
          exact ⟨index, inside member, here⟩
        rw [if_pos marked, if_pos still]
        exact (ih (base + 1)).cons_cons _
      · rw [if_neg marked]
        by_cases added : SignedAt more base
        · rw [if_pos added]
          exact (ih (base + 1)).cons _
        · rw [if_neg added]
          exact ih (base + 1)

theorem signed_weights_all (signers : Finset U32) (base : Nat) (clause : List Weight)
    (everyone : ∀ place < clause.length, SignedAt signers (base + place)) : signedWeights signers base clause = clause.map Weight.exact := by
  induction clause generalizing base with
  | nil => rfl
  | cons weight rest ih =>
      have here := everyone 0 (Nat.succ_pos _)
      rw [Nat.add_zero] at here
      have later : signedWeights signers (base + 1) rest = rest.map Weight.exact := by
        apply ih
        intro place inside
        rw [Nat.add_assoc, Nat.add_comm 1 place]
        exact everyone (place + 1) (Nat.succ_lt_succ inside)
      rw [signedWeights, if_pos here, later, List.map_cons]

theorem signed_weights_sublist_all (signers : Finset U32) (base : Nat) (clause : List Weight) :
    (signedWeights signers base clause).Sublist (clause.map Weight.exact) := by
  induction clause generalizing base with
  | nil => exact List.Sublist.refl _
  | cons weight rest ih =>
      unfold signedWeights
      by_cases marked : SignedAt signers base
      · rw [if_pos marked]
        exact (ih (base + 1)).cons_cons _
      · rw [if_neg marked]
        exact (ih (base + 1)).cons _

-- Every sum that the threshold makes over these signers stays in a machine word.
def SigningThreshold.Representable (threshold : SigningThreshold) (signers : Finset U32) : Prop :=
  match threshold with
  | .simple _ => True
  | .weighted flat =>
      ∀ before clause after, flat.clauses = before ++ clause :: after → ClauseFits signers before.flatten.length clause

theorem weighted_holds_at (flat : WeightedThreshold) (signers : Finset U32) :
    (SigningThreshold.weighted flat).Holds signers ↔
      flat.clauses ≠ [] ∧ ∀ before clause after, flat.clauses = before ++ clause :: after →
        ClauseMet signers before.flatten.length clause := by
  rw [weighted_holds, clauses_met_iff]
  simp only [Nat.zero_add]

theorem holds_mono (threshold : SigningThreshold) (fewer more : Finset U32) (inside : fewer ⊆ more)
    (held : threshold.Holds fewer) : threshold.Holds more ↔ threshold.Representable more := by
  cases threshold with
  | simple required =>
      rw [simple_holds] at held ⊢
      exact iff_of_true (Nat.le_trans held (Finset.card_le_card inside)) trivial
  | weighted flat =>
      rw [weighted_holds_at] at held ⊢
      apply Iff.intro
      · intro met before clause after split
        exact (met.2 before clause after split).2.1
      · intro fits
        refine ⟨held.1, ?_⟩
        intro before clause after split
        obtain ⟨solid, _, enough⟩ := held.2 before clause after split
        have grown := share_sublist _ _ (signed_weights_sublist fewer more inside before.flatten.length clause)
        exact ⟨solid, fits before clause after split, le_trans enough grown⟩

theorem satisfied_by_holds (threshold : SigningThreshold) (indices : List U32) :
    threshold.satisfiedBy indices = true ↔ threshold.Holds indices.toFinset :=
  satisfied_by_sort_dedup threshold indices

theorem flatten_clauses_rest (clauses : List (List Weight)) (weights flat : List Weight) (ends flatEnds : List U32)
    (built : flattenClauses weights ends clauses = .ok (flat, flatEnds)) :
    ∃ later, flatEnds = ends ++ later ∧ flat = weights ++ clauses.flatten ∧
      clausesFrom flat weights.length later = clauses := by
  induction clauses generalizing weights ends with
  | nil =>
      have same := Except.ok.inj built
      obtain ⟨same, same'⟩ := Prod.mk.inj same
      exact ⟨[], by rw [List.append_nil]; exact same'.symm, by rw [List.flatten_nil, List.append_nil]; exact same.symm, rfl⟩
  | cons clause rest ih =>
      unfold flattenClauses at built
      cases fits : u32TryFrom (weights ++ clause).length with
      | none =>
          simp only [fits] at built
          cases built
      | some stop =>
          simp only [fits] at built
          have exactly := (u32_try_from_some _ _).mp fits
          obtain ⟨later, endings, flattened, cut⟩ := ih (weights ++ clause) (ends ++ [stop]) built
          rw [List.append_assoc] at endings flattened
          refine ⟨stop :: later, endings, flattened, ?_⟩
          rw [← exactly] at cut
          have long : stop.val = weights.length + clause.length := by rw [exactly, List.length_append]
          have inside : weights.length ≤ stop.val ∧ stop.val ≤ flat.length := by
            rw [flattened, List.length_append, List.length_append]
            omega
          simp only [clausesFrom, usize_try_from_u32, Option.bind_some, sliceGet, if_pos inside, Option.map_some, cut]
          have front : (flat.drop weights.length).take (stop.val - weights.length) = clause := by
            rw [flattened, List.drop_left, long, Nat.add_sub_cancel_left, List.take_left]
          rw [front]

theorem from_nested_clauses (clauses : List (List Weight)) (flat : WeightedThreshold)
    (built : WeightedThreshold.fromNested clauses = .ok flat) : flat.clauses = clauses := by
  unfold WeightedThreshold.fromNested at built
  split at built
  · rename_i weights ends made
    obtain ⟨later, endings, _, cut⟩ := flatten_clauses_rest clauses [] weights [] ends made
    rw [← Except.ok.inj built, WeightedThreshold.clauses]
    change clausesFrom weights 0 ends = clauses
    rw [endings]
    exact cut
  · cases built

theorem sorted_unique_same (indices distinct : List U32) (sorted : distinct.Pairwise (· < ·))
    (same : ∀ index, index ∈ distinct ↔ index ∈ indices) : sortDedup indices = distinct := by
  have members : indices.toFinset = distinct.toFinset := by
    ext index
    rw [List.mem_toFinset, List.mem_toFinset, same]
  have unique : distinct.Nodup := sorted.imp (fun less => ne_of_lt less)
  rw [sort_dedup_eq_sort, members]
  exact (List.toFinset_sort (· ≤ ·) unique).mpr (sorted.imp (fun less => le_of_lt less))

theorem weighted_satisfied_by (clauses : List (List Weight)) (flat : WeightedThreshold)
    (built : WeightedThreshold.fromNested clauses = .ok flat) (indices : List U32) :
    (SigningThreshold.weighted flat).satisfiedBy indices = true ↔
      clauses ≠ [] ∧ ∀ before clause after, clauses = before ++ clause :: after →
        ClauseMet indices.toFinset before.flatten.length clause := by
  rw [satisfied_by_holds, weighted_holds_at, from_nested_clauses clauses flat built]

theorem run_met_congr (clauses : List (List Weight)) (signers others : Finset U32)
    (same : ∀ position < clauses.flatten.length, SignedAt signers position ↔ SignedAt others position)
    (before : List (List Weight)) (clause : List Weight) (after : List (List Weight)) (split : clauses = before ++ clause :: after) :
    ClauseMet signers before.flatten.length clause ↔ ClauseMet others before.flatten.length clause := by
  have runs : signedWeights signers before.flatten.length clause = signedWeights others before.flatten.length clause := by
    apply signed_weights_congr
    intro place inside
    apply same
    rw [split, List.flatten_append, List.flatten_cons, List.length_append, List.length_append]
    omega
  rw [ClauseMet, ClauseMet, ClauseFits, ClauseFits, runs]

theorem weighted_threshold_exact (clauses : List (List Weight)) (flat : WeightedThreshold)
    (built : WeightedThreshold.fromNested clauses = .ok flat) :
    (∀ indices : List U32, (SigningThreshold.weighted flat).satisfiedBy indices = true →
      clauses ≠ [] ∧ ∀ before clause after, clauses = before ++ clause :: after →
        (∀ weight ∈ clause, weight.2.val ≠ 0) ∧ 1 ≤ runShare indices.toFinset before.flatten.length clause) ∧
    (∀ indices : List U32, (∀ clause ∈ clauses, ∀ weight ∈ clause, weight.2.val ≠ 0) →
      (∀ before clause after, clauses = before ++ clause :: after →
        Fits (2 ^ 64) (0, 1) (signedWeights indices.toFinset before.flatten.length clause)) →
      clauses ≠ [] → (∀ before clause after, clauses = before ++ clause :: after →
        1 ≤ runShare indices.toFinset before.flatten.length clause) →
      (SigningThreshold.weighted flat).satisfiedBy indices = true) ∧
    (∀ indices others : List U32, (∀ position < clauses.flatten.length,
        (∃ index ∈ indices, index.val = position) ↔ ∃ index ∈ others, index.val = position) →
      (SigningThreshold.weighted flat).satisfiedBy indices = (SigningThreshold.weighted flat).satisfiedBy others) ∧
    ∀ indices distinct : List U32, distinct.Pairwise (· < ·) → (∀ index, index ∈ distinct ↔ index ∈ indices) →
      (SigningThreshold.weighted flat).satisfiedBy indices = (SigningThreshold.weighted flat).satisfiedBySortedUnique distinct := by
  refine ⟨?_, ?_, ?_, ?_⟩
  · intro indices satisfied
    obtain ⟨some', met⟩ := (weighted_satisfied_by clauses flat built indices).mp satisfied
    refine ⟨some', ?_⟩
    intro before clause after split
    obtain ⟨solid, _, enough⟩ := met before clause after split
    rw [share_signed_weights] at enough
    exact ⟨solid, enough⟩
  · intro indices solid fits some' enough
    rw [weighted_satisfied_by clauses flat built]
    refine ⟨some', ?_⟩
    intro before clause after split
    have member : clause ∈ clauses := by
      rw [split]
      exact List.mem_append_right before List.mem_cons_self
    rw [ClauseMet, share_signed_weights]
    exact ⟨solid clause member, fits before clause after split, enough before clause after split⟩
  · intro indices others same
    rw [Bool.eq_iff_iff, weighted_satisfied_by clauses flat built, weighted_satisfied_by clauses flat built]
    apply and_congr_right
    intro _
    have signed : ∀ position < clauses.flatten.length, SignedAt indices.toFinset position ↔ SignedAt others.toFinset position := by
      simp only [SignedAt, List.mem_toFinset]
      exact same
    apply forall_congr'
    intro before
    apply forall_congr'
    intro clause
    apply forall_congr'
    intro after
    exact imp_congr_right (run_met_congr clauses _ _ signed before clause after)
  · intro indices distinct sorted same
    rw [SigningThreshold.satisfiedBy, sorted_unique_same indices distinct sorted same]

namespace Sample

def halves : WeightedThreshold where
  weights := [(1, 2), (1, 2), (1, 1)]
  clauseEnds := [2, 3]
  covered := ⟨by decide, by decide, rfl⟩

end Sample

theorem weighted_threshold_exact_halves :
    (SigningThreshold.weighted Sample.halves).satisfiedBy [7, 2, 0, 1, 0] =
      (SigningThreshold.weighted Sample.halves).satisfiedBySortedUnique [0, 1, 2, 7] :=
  (weighted_threshold_exact [[(1, 2), (1, 2)], [(1, 1)]] Sample.halves rfl).2.2.2 [7, 2, 0, 1, 0] [0, 1, 2, 7] (by decide)
    (by
      intro index
      simp only [List.mem_cons, List.not_mem_nil, or_false]
      grind)

end Cesr
