import Mathlib.Data.Finset.Card
import Mathlib.Data.Finset.Option
import Mathlib.Data.List.Nodup

set_option autoImplicit false

namespace Positions

variable {α : Type} [DecidableEq α] {bound : Nat}

def chosen (members : List α) (positions : Finset (Fin bound)) : Finset α :=
  Finset.eraseNone (positions.image fun position => members[position.val]?)

theorem mem_chosen (members : List α) (positions : Finset (Fin bound)) (member : α) :
    member ∈ chosen members positions ↔ ∃ position ∈ positions, members[position.val]? = some member := by
  simp only [chosen, Finset.mem_eraseNone, Finset.mem_image]

theorem card_chosen (members : List α) (positions : Finset (Fin bound)) (distinct : members.Nodup)
    (inRange : ∀ position ∈ positions, position.val < members.length) :
    (chosen members positions).card = positions.card := by
  have present : none ∉ positions.image fun position => members[position.val]? := by
    rw [Finset.mem_image]
    rintro ⟨position, inside, absent⟩
    exact absurd (inRange position inside) (not_lt_of_ge (List.getElem?_eq_none_iff.mp absent))
  have injective : Set.InjOn (fun position : Fin bound => members[position.val]?) positions := by
    intro left inLeft right _ same
    exact Fin.ext ((List.getElem?_inj (inRange left inLeft) distinct).mp same)
  rw [chosen, Finset.card_eraseNone_of_not_mem present, Finset.card_image_of_injOn injective]

end Positions
