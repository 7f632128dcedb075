import Mathlib.Data.Nat.Bitwise
import Mathlib.Data.List.Basic

set_option autoImplicit false

namespace BitRuns

-- The bit at a place of a run of words of one width, the highest bit of a word first.
def bitAt (width : Nat) (values : List Nat) (place : Nat) : Bool :=
  (values.getD (place / width) 0).testBit (width - 1 - place % width)

-- A bit shifted into the word that its place is in.
def shiftIn (width : Nat) (values : List Nat) (place : Nat) (bit : Bool) : List Nat :=
  values.modify (place / width) (Nat.bit bit)

def raise (width : Nat) (values : List Nat) (place : Nat) (bit : Bool) : List Nat :=
  if bit then values.modify (place / width) fun value => value ||| 2 ^ (width - 1 - place % width) else values

def gather (width count : Nat) (source : Nat → Bool) (places : Nat) : List Nat :=
  (List.range places).foldl (fun values place => shiftIn width values place (source place)) (List.replicate count 0)

def spread (width count : Nat) (source : Nat → Bool) (places : Nat) : List Nat :=
  (List.range places).foldl (fun values place => raise width values place (source place)) (List.replicate count 0)

theorem gather_succ (width count : Nat) (source : Nat → Bool) (places : Nat) :
    gather width count source (places + 1) = shiftIn width (gather width count source places) places (source places) := by
  rw [gather, List.range_succ, List.foldl_append]
  rfl

theorem spread_succ (width count : Nat) (source : Nat → Bool) (places : Nat) :
    spread width count source (places + 1) = raise width (spread width count source places) places (source places) := by
  rw [spread, List.range_succ, List.foldl_append]
  rfl

theorem gather_length (width count : Nat) (source : Nat → Bool) (places : Nat) :
    (gather width count source places).length = count := by
  induction places with
  | zero => exact List.length_replicate
  | succ places ih => rw [gather_succ, shiftIn, List.length_modify, ih]

theorem spread_length (width count : Nat) (source : Nat → Bool) (places : Nat) :
    (spread width count source places).length = count := by
  induction places with
  | zero => exact List.length_replicate
  | succ places ih =>
      rw [spread_succ, raise]
      by_cases bit : source places = true
      · rw [if_pos bit, List.length_modify, ih]
      · rw [if_neg bit, ih]

theorem modified (values : List Nat) (here there : Nat) (change : Nat → Nat) (inside : here < values.length) :
    (values.modify here change).getD there 0 = if here = there then change (values.getD here 0) else values.getD there 0 := by
  by_cases same : here = there
  · rw [if_pos same, ← same, List.getD_eq_getElem?_getD, List.getElem?_modify_eq, List.getD_eq_getElem?_getD,
      List.getElem?_eq_getElem inside]
    rfl
  · rw [if_neg same, List.getD_eq_getElem?_getD, List.getElem?_modify_ne _ _ same, List.getD_eq_getElem?_getD]

theorem place_split (width place : Nat) : width * (place / width) + place % width = place := Nat.div_add_mod place width

theorem place_inside (width count place : Nat) (inside : place < count * width) : place / width < count :=
  Nat.div_lt_of_lt_mul (by rw [Nat.mul_comm]; exact inside)

section Gather

def packed (source : Nat → Bool) (start : Nat) : Nat → Nat
  | 0 => 0
  | length + 1 => Nat.bit (source (start + length)) (packed source start length)

theorem packed_bit (source : Nat → Bool) (start length low : Nat) :
    (packed source start length).testBit low = (decide (low < length) && source (start + (length - 1 - low))) := by
  induction length generalizing low with
  | zero => simp [packed]
  | succ length ih =>
      cases low with
      | zero => simp [packed]
      | succ low =>
          rw [packed, Nat.testBit_bit_succ, ih]
          have same : length + 1 - 1 - (low + 1) = length - 1 - low := by omega
          rw [same]
          simp

theorem gather_word (width count : Nat) (source : Nat → Bool) (places word : Nat) (positive : 0 < width)
    (inside : places ≤ count * width) (known : word < count) :
    (gather width count source places).getD word 0 = packed source (word * width) (min width (places - word * width)) := by
  induction places with
  | zero =>
      rw [Nat.zero_sub, Nat.min_zero]
      simp [gather, packed, known]
  | succ places ih =>
      have within : places / width < (gather width count source places).length := by
        rw [gather_length]
        exact place_inside width count places (by omega)
      have split := place_split width places
      have rest := Nat.mod_lt places positive
      have before := ih (by omega)
      rw [gather_succ, shiftIn, modified _ _ _ _ within]
      by_cases same : places / width = word
      · -- The word that is being filled takes the bit that comes next.
        rw [same, Nat.mul_comm] at split
        have filled : min width (places - word * width) = places % width := by omega
        have next : min width (places + 1 - word * width) = places % width + 1 := by omega
        rw [if_pos same, same, before, filled, next, packed, split]
      · have still : min width (places + 1 - word * width) = min width (places - word * width) := by
          rcases Nat.lt_or_gt_of_ne same with less | more
          · have later : (places / width + 1) * width ≤ word * width := Nat.mul_le_mul_right width less
            have ends : places < (places / width + 1) * width := by
              rw [Nat.add_mul, Nat.one_mul, Nat.mul_comm]
              omega
            omega
          · have earlier : (word + 1) * width ≤ places / width * width := Nat.mul_le_mul_right width more
            rw [Nat.add_mul, Nat.one_mul, Nat.mul_comm (places / width)] at earlier
            omega
        rw [if_neg same, before, still]

theorem gather_bit (width count : Nat) (source : Nat → Bool) (place : Nat) (positive : 0 < width)
    (inside : place < count * width) : bitAt width (gather width count source (count * width)) place = source place := by
  have known := place_inside width count place inside
  have split := place_split width place
  have rest := Nat.mod_lt place positive
  have whole : (place / width + 1) * width ≤ count * width := Nat.mul_le_mul_right width known
  rw [Nat.add_mul, Nat.one_mul] at whole
  rw [bitAt, gather_word width count source _ _ positive (Nat.le_refl _) known]
  have full : min width (count * width - place / width * width) = width := by omega
  have back : place / width * width + (width - 1 - (width - 1 - place % width)) = place := by
    rw [Nat.mul_comm]
    omega
  rw [full, packed_bit, back, decide_eq_true (by omega), Bool.true_and]

theorem gather_small (width count : Nat) (source : Nat → Bool) (word : Nat) (positive : 0 < width) (known : word < count) :
    (gather width count source (count * width)).getD word 0 < 2 ^ width := by
  rw [gather_word width count source _ _ positive (Nat.le_refl _) known]
  apply Nat.lt_pow_two_of_testBit
  intro low high
  have short : min width (count * width - word * width) ≤ width := Nat.min_le_left _ _
  rw [packed_bit, decide_eq_false (by omega), Bool.false_and]

end Gather

section Spread

theorem raise_bit (width : Nat) (values : List Nat) (here there : Nat) (bit : Bool) (positive : 0 < width)
    (inside : here / width < values.length) :
    bitAt width (raise width values here bit) there = (bitAt width values there || (decide (here = there) && bit)) := by
  cases bit with
  | false => simp [raise]
  | true =>
      rw [raise, if_pos rfl, bitAt, modified _ _ _ _ inside]
      by_cases word : here / width = there / width
      · rw [if_pos word, Nat.testBit_or, Nat.testBit_two_pow, word, Bool.and_true]
        have same : width - 1 - here % width = width - 1 - there % width ↔ here = there := by
          have split := place_split width here
          have split' := place_split width there
          have rest := Nat.mod_lt here positive
          have rest' := Nat.mod_lt there positive
          rw [word] at split
          omega
        rw [decide_eq_decide.mpr same]
        rfl
      · have apart : here ≠ there := by
          intro same
          rw [same] at word
          exact word rfl
        rw [if_neg word, decide_eq_false apart]
        simp [bitAt]

theorem spread_bit (width count : Nat) (source : Nat → Bool) (places place : Nat) (positive : 0 < width)
    (inside : places ≤ count * width) :
    bitAt width (spread width count source places) place = (decide (place < places) && source place) := by
  induction places with
  | zero =>
      have zero : (List.replicate count 0).getD (place / width) 0 = 0 := by
        rw [List.getD_eq_getElem?_getD, List.getElem?_replicate]
        by_cases known : place / width < count
        · rw [if_pos known]
          rfl
        · rw [if_neg known]
          rfl
      rw [bitAt]
      show ((List.replicate count 0).getD (place / width) 0).testBit _ = _
      rw [zero]
      simp
  | succ places ih =>
      have within : places / width < (spread width count source places).length := by
        rw [spread_length]
        exact place_inside width count places (by omega)
      rw [spread_succ, raise_bit width _ _ _ _ positive within, ih (by omega)]
      by_cases same : places = place
      · rw [same]
        simp
      · have still : decide (place < places + 1) = decide (place < places) := decide_eq_decide.mpr (by omega)
        rw [decide_eq_false same, still]
        simp

theorem spread_small (width count : Nat) (source : Nat → Bool) (places : Nat) (positive : 0 < width)
    (inside : places ≤ count * width) : ∀ value ∈ spread width count source places, value < 2 ^ width := by
  induction places with
  | zero =>
      intro value member
      rw [List.eq_of_mem_replicate member]
      exact Nat.two_pow_pos width
  | succ places ih =>
      have before := ih (by omega)
      rw [spread_succ, raise]
      by_cases bit : source places = true
      · rw [if_pos bit]
        intro value member
        obtain ⟨place, known, same⟩ := List.mem_iff_getElem.mp member
        rw [List.getElem_modify] at same
        rw [List.length_modify] at known
        have old := before _ (List.getElem_mem known)
        by_cases here : places / width = place
        · rw [if_pos here] at same
          rw [← same]
          exact Nat.or_lt_two_pow old (Nat.pow_lt_pow_right (by omega) (by omega))
        · rw [if_neg here] at same
          rw [← same]
          exact old
      · rw [if_neg bit]
        exact before

end Spread

theorem bits_ext (width : Nat) (left right : List Nat) (positive : 0 < width) (long : left.length = right.length)
    (small : ∀ value ∈ left, value < 2 ^ width) (small' : ∀ value ∈ right, value < 2 ^ width)
    (same : ∀ place < left.length * width, bitAt width left place = bitAt width right place) : left = right := by
  apply List.ext_getElem long
  intro word known known'
  apply Nat.eq_of_testBit_eq
  intro low
  by_cases inside : low < width
  · have place := same (word * width + (width - 1 - low)) (by
      have whole : (word + 1) * width ≤ left.length * width := Nat.mul_le_mul_right width known
      rw [Nat.add_mul, Nat.one_mul] at whole
      omega)
    have here : (word * width + (width - 1 - low)) / width = word := by
      rw [Nat.mul_comm, Nat.mul_add_div positive, Nat.div_eq_of_lt (by omega), Nat.add_zero]
    have bit : width - 1 - (word * width + (width - 1 - low)) % width = low := by
      rw [Nat.mul_comm, Nat.mul_add_mod, Nat.mod_eq_of_lt (by omega)]
      omega
    rw [bitAt, bitAt, here, bit, List.getD_eq_getElem _ _ known, List.getD_eq_getElem _ _ known'] at place
    exact place
  · have high : ∀ value, value < 2 ^ width → value.testBit low = false := by
      intro value less
      exact Nat.testBit_lt_two_pow (Nat.lt_of_lt_of_le less (Nat.pow_le_pow_right (by omega) (by omega)))
    rw [high _ (small _ (List.getElem_mem known)), high _ (small' _ (List.getElem_mem known'))]

end BitRuns
