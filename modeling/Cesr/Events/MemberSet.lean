import Cesr.Events.Primitive
import Cesr.Lib.Checks

set_option autoImplicit false

namespace Cesr

open Checks

inductive MemberSetError where
  | duplicate (set : String)
  | transferableWitness (set : String)
  | cutAddOverlap (cuts additions : String)
deriving DecidableEq, Repr

namespace MemberSet

def checkMembersFrom (earlier : List BasicPrefix) (set : String) : List BasicPrefix → Except MemberSetError Unit
  | [] => .ok ()
  | member :: rest =>
      if member ∈ earlier then .error (.duplicate set) else checkMembersFrom (earlier ++ [member]) set rest

def checkMembers (members : List BasicPrefix) (set : String) : Except MemberSetError Unit :=
  checkMembersFrom [] set members

def checkWitnesses (witnesses : List BasicPrefix) (set : String) : Except MemberSetError Unit := do
  checkMembers witnesses set
  rejectIf (witnesses.any fun witness => witness.matter.code.isTransferable) (.transferableWitness set)

def checkDeltas (cuts additions : List BasicPrefix) (cutLabel additionLabel : String) :
    Except MemberSetError Unit := do
  checkMembers cuts cutLabel
  checkMembers additions additionLabel
  rejectIf (cuts.any fun cut => additions.contains cut) (.cutAddOverlap cutLabel additionLabel)

def checkWitnessDeltas (cuts additions : List BasicPrefix) (cutLabel additionLabel : String) :
    Except MemberSetError Unit := do
  checkDeltas cuts additions cutLabel additionLabel
  checkWitnesses cuts cutLabel
  checkWitnesses additions additionLabel

def NonTransferable (members : List BasicPrefix) : Prop :=
  ∀ member ∈ members, member.matter.code.isTransferable = false

theorem check_members_from_ok (earlier members : List BasicPrefix) (set : String) :
    checkMembersFrom earlier set members = .ok () ↔ members.Nodup ∧ ∀ member ∈ members, member ∉ earlier := by
  induction members generalizing earlier with
  | nil => simp [checkMembersFrom]
  | cons member rest ih =>
      by_cases repeated : member ∈ earlier
      · simp [checkMembersFrom, repeated]
      · rw [checkMembersFrom, if_neg repeated, ih]
        simp only [List.nodup_cons, List.mem_cons, List.mem_append, List.not_mem_nil, or_false]
        apply Iff.intro
        · intro passed
          obtain ⟨distinct, fresh⟩ := passed
          refine ⟨⟨fun inside => (fresh member inside) (Or.inr rfl), distinct⟩, ?_⟩
          rintro other (same | inside)
          · exact same ▸ repeated
          · exact fun old => fresh other inside (Or.inl old)
        · intro met
          obtain ⟨⟨first, distinct⟩, fresh⟩ := met
          refine ⟨distinct, ?_⟩
          rintro other inside (old | same)
          · exact fresh other (Or.inr inside) old
          · exact first (same ▸ inside)

theorem check_members_ok (members : List BasicPrefix) (set : String) :
    checkMembers members set = .ok () ↔ members.Nodup := by
  simp [checkMembers, check_members_from_ok]

theorem check_witnesses_ok (witnesses : List BasicPrefix) (set : String) :
    checkWitnesses witnesses set = .ok () ↔ witnesses.Nodup ∧ NonTransferable witnesses := by
  simp [checkWitnesses, check_members_ok, NonTransferable]

theorem check_deltas_ok (cuts additions : List BasicPrefix) (cutLabel additionLabel : String) :
    checkDeltas cuts additions cutLabel additionLabel = .ok () ↔
      cuts.Nodup ∧ additions.Nodup ∧ ∀ cut ∈ cuts, cut ∉ additions := by
  simp [checkDeltas, check_members_ok]

theorem check_witness_deltas_ok (cuts additions : List BasicPrefix) (cutLabel additionLabel : String) :
    checkWitnessDeltas cuts additions cutLabel additionLabel = .ok () ↔
      (cuts.Nodup ∧ additions.Nodup ∧ ∀ cut ∈ cuts, cut ∉ additions) ∧
        NonTransferable cuts ∧ NonTransferable additions := by
  simp only [checkWitnessDeltas, bind_ok, exists_done, check_deltas_ok, check_witnesses_ok]
  tauto

end MemberSet

end Cesr
