import Mathlib.Data.List.Nodup
import Mathlib.Data.List.Basic

set_option autoImplicit false

namespace Delta

variable {α : Type} [DecidableEq α]

-- An ordered set is a list without repeats. A delta cuts some of its members
-- and appends new ones, each side keeping its order.
structure Legal (current cuts additions : List α) : Prop where
  cutsDistinct : cuts.Nodup
  additionsDistinct : additions.Nodup
  separate : ∀ member ∈ cuts, member ∉ additions
  cutsCurrent : ∀ member ∈ cuts, member ∈ current
  additionsNew : ∀ member ∈ additions, member ∉ current

def resolve (current cuts additions : List α) : List α :=
  current.filter (fun member => member ∉ cuts) ++ additions

theorem mem_resolve (current cuts additions : List α) (member : α) :
    member ∈ resolve current cuts additions ↔ (member ∈ current ∧ member ∉ cuts) ∨ member ∈ additions := by
  simp [resolve]

theorem resolve_nodup (current cuts additions : List α) (legal : Legal current cuts additions)
    (distinct : current.Nodup) : (resolve current cuts additions).Nodup := by
  refine List.Nodup.append (distinct.filter _) legal.additionsDistinct ?_
  intro member kept added
  exact legal.additionsNew member added (List.mem_of_mem_filter kept)

-- The usual loop over the additions keeps one only if it is neither kept from
-- the current set nor repeated from earlier additions.
theorem filter_fresh (kept additions : List α) (distinct : additions.Nodup)
    (new : ∀ member ∈ additions, member ∉ kept) :
    (additions.zipIdx.filter fun entry =>
      entry.1 ∉ kept ∧ entry.1 ∉ additions.take entry.2).map Prod.fst = additions := by
  have whole : (additions.zipIdx.filter fun entry => entry.1 ∉ kept ∧ entry.1 ∉ additions.take entry.2) =
      additions.zipIdx := by
    rw [List.filter_eq_self]
    rintro ⟨member, position⟩ inside
    have found : additions[position]? = some member := List.mem_zipIdx_iff_getElem?.mp inside
    have unseen : member ∉ additions.take position := by
      intro early
      obtain ⟨earlier, bound, same⟩ := List.mem_take_iff_getElem.mp early
      obtain ⟨inRange, here⟩ := List.getElem?_eq_some_iff.mp found
      have equal : earlier = position := (distinct.getElem_inj_iff).mp (same.trans here.symm)
      omega
    simpa using ⟨new member (List.mem_of_getElem? found), unseen⟩
  rw [whole, List.zipIdx_map_fst]

end Delta
