import Mathlib.Data.List.Sort
import Mathlib.Data.List.Destutter
import Mathlib.Data.Finset.Sort

set_option autoImplicit false

namespace SortedSet

variable {α : Type} [LinearOrder α]

-- The usual in-place idiom on a vector: sort, then drop adjacent repeats.
-- Insertion sort is used because it evaluates by structural recursion; over a
-- total order every sort returns the same list.
def sortDedup (items : List α) : List α :=
  (items.insertionSort (· ≤ ·)).destutter (· ≠ ·)

theorem sort_dedup_eq_dedup (items : List α) :
    sortDedup items = (items.insertionSort (· ≤ ·)).dedup :=
  List.Pairwise.destutter_eq_dedup (List.pairwise_insertionSort (· ≤ ·) items)

theorem mem_sort_dedup (items : List α) (item : α) : item ∈ sortDedup items ↔ item ∈ items := by
  rw [sort_dedup_eq_dedup, List.mem_dedup, List.mem_insertionSort]

theorem sort_dedup_nodup (items : List α) : (sortDedup items).Nodup := by
  rw [sort_dedup_eq_dedup]
  exact List.nodup_dedup _

theorem sort_dedup_sorted (items : List α) : (sortDedup items).Pairwise (· ≤ ·) :=
  (List.pairwise_insertionSort (· ≤ ·) items).sublist (List.destutter_sublist _ _)

theorem sort_dedup_to_finset (items : List α) : (sortDedup items).toFinset = items.toFinset := by
  ext item
  simp only [List.mem_toFinset, mem_sort_dedup]

theorem length_sort_dedup (items : List α) : (sortDedup items).length = items.toFinset.card := by
  rw [← sort_dedup_to_finset, List.toFinset_card_of_nodup (sort_dedup_nodup items)]

theorem sort_dedup_eq_sort (items : List α) : sortDedup items = items.toFinset.sort (· ≤ ·) := by
  have sorted := (List.toFinset_sort (· ≤ ·) (sort_dedup_nodup items)).mpr (sort_dedup_sorted items)
  rw [← sorted, sort_dedup_to_finset]

end SortedSet
