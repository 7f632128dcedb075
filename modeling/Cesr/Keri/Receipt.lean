import Cesr.Keri.Run
import Cesr.Lib.Positions

set_option autoImplicit false

namespace Cesr.Keri

open Checks SortedSet Positions

variable (crypto : Crypto)

inductive ReceiptError where
  | stale (namedSn acceptedSn : U128)
  | signature (error : IndexedVerifyError)
  | evidenceRequired
  | establishmentMismatch
  | noAuthorityKeys
  | endorsementIndexOutOfRange (index : U32) (count : Nat)
  | noVerifiedSignatures
  | insufficientReceipts (valid : Nat) (required : U32)
deriving DecidableEq, Repr

structure WitnessIndex where
  value : U32
deriving DecidableEq, Repr

namespace Witnessing

def receipt (witnessing : Witnessing) (bytes : Bytes) (wig : Siger) : Except ReceiptError WitnessIndex :=
  match (usizeTryFrom wig.index.val).bind fun i => witnessing.witnesses[i]? with
  | none => .error (.signature (.indexOutOfRange wig.index witnessing.witnesses.length))
  | some witness => do
      (verify crypto witness.matter bytes wig).mapError fun error => .signature (.verification error)
      pure ⟨wig.index⟩

-- A position past the u32 range promotes to nothing.
def witnessIndex (witnessing : Witnessing) (pfx : BasicPrefix) : Option WitnessIndex :=
  ((witnessing.witnesses.findIdx? fun witness => witness = pfx).bind u32TryFrom).map WitnessIndex.mk

def accountedBy (witnessing : Witnessing) (indices : List WitnessIndex) : Except ReceiptError Unit :=
  let required := witnessing.toad.value
  if required.val = 0 then .ok ()
  else
    let positions := sortDedup ((indices.map WitnessIndex.value).filter fun position =>
      (usizeTryFrom position.val).any fun i => decide (i < witnessing.witnesses.length))
    if (usizeTryFrom required.val).any (fun needed => decide (needed ≤ positions.length)) then .ok ()
    else .error (.insufficientReceipts positions.length required)

def positions (witnessing : Witnessing) (indices : List WitnessIndex) : Finset U32 :=
  ((indices.map WitnessIndex.value).filter fun position => position.val < witnessing.witnesses.length).toFinset

end Witnessing

theorem receipt_ok (witnessing : Witnessing) (bytes : Bytes) (wig : Siger) (index : WitnessIndex) :
    witnessing.receipt crypto bytes wig = .ok index ↔
      Signs crypto witnessing.witnesses bytes wig ∧ index = ⟨wig.index⟩ := by
  cases found : witnessing.witnesses[wig.index.val]? with
  | none => simp [Witnessing.receipt, Signs, found]
  | some witness =>
      simp only [Witnessing.receipt, Signs, found, usize_try_from_u32, Option.bind_some, bind_ok, map_error_ok,
        exists_done, pure_ok, Option.some.injEq, exists_eq_left', Verifies, VerifierKey.asVerfer]
      cases verify crypto witness.matter bytes wig <;> simp [Except.isOk, Except.toBool, eq_comm]

theorem accounted_by_ok (witnessing : Witnessing) (indices : List WitnessIndex) :
    witnessing.accountedBy indices = .ok () ↔
      witnessing.toad.value.val ≤ (witnessing.positions indices).card := by
  rw [Witnessing.positions, ← length_sort_dedup]
  simp only [Witnessing.accountedBy, usize_try_from_u32, Option.any_some, decide_eq_true_eq]
  split
  · rename_i free
    simp [free]
  · split <;> rename_i met <;> simp [met]

theorem accounted_by_error (witnessing : Witnessing) (indices : List WitnessIndex) (error : ReceiptError) :
    witnessing.accountedBy indices = .error error ↔
      (witnessing.positions indices).card < witnessing.toad.value.val ∧
        error = .insufficientReceipts (witnessing.positions indices).card witnessing.toad.value := by
  rw [Witnessing.positions, ← length_sort_dedup]
  simp only [Witnessing.accountedBy, usize_try_from_u32, Option.any_some, decide_eq_true_eq]
  split
  · rename_i free
    simp [free]
  · split <;> rename_i met
    · simp [Nat.not_lt.mpr met]
    · simp [Nat.lt_of_not_le met, eq_comm]

def receiptIndices (witnessing : Witnessing) (bytes : Bytes) (wigs : List Siger) : List WitnessIndex :=
  wigs.filterMap fun wig => (witnessing.receipt crypto bytes wig).toOption

theorem mem_receipt_indices (witnessing : Witnessing) (bytes : Bytes) (wigs : List Siger) (index : WitnessIndex) :
    index ∈ receiptIndices crypto witnessing bytes wigs ↔
      ∃ wig ∈ wigs, Signs crypto witnessing.witnesses bytes wig ∧ index = ⟨wig.index⟩ := by
  have judged : ∀ wig, (witnessing.receipt crypto bytes wig).toOption = some index ↔
      witnessing.receipt crypto bytes wig = .ok index := by
    intro wig
    cases witnessing.receipt crypto bytes wig <;> simp [Except.toOption]
  simp only [receiptIndices, List.mem_filterMap, judged, receipt_ok]

theorem positions_of_receipts (witnessing : Witnessing) (bytes : Bytes) (wigs : List Siger) :
    witnessing.positions (receiptIndices crypto witnessing bytes wigs) =
      signers crypto witnessing.witnesses bytes wigs := by
  ext position
  simp only [Witnessing.positions, List.mem_toFinset, List.mem_filter, List.mem_map, mem_receipt_indices, mem_signers,
    decide_eq_true_eq]
  apply Iff.intro
  · rintro ⟨⟨_, ⟨wig, inside, signed, rfl⟩, rfl⟩, -⟩
    exact ⟨wig, inside, signed, rfl⟩
  · rintro ⟨wig, inside, signed, rfl⟩
    have inRange : wig.index.val < witnessing.witnesses.length := by
      obtain ⟨witness, selected, -⟩ := signed
      exact (List.getElem?_eq_some_iff.mp selected).1
    exact ⟨⟨_, ⟨wig, inside, signed, rfl⟩, rfl⟩, inRange⟩

theorem receipts_agree (witnessing : Witnessing) (bytes : Bytes) (wigs : List Siger) :
    witnessing.receiptedBy crypto bytes wigs = .ok () ↔
      witnessing.accountedBy (receiptIndices crypto witnessing bytes wigs) = .ok () := by
  rw [receipted_by_ok, accounted_by_ok, positions_of_receipts]

theorem shortfalls_agree (witnessing : Witnessing) (bytes : Bytes) (wigs : List Siger) (valid : Nat)
    (required : U32) :
    witnessing.receiptedBy crypto bytes wigs = .error (.insufficientWitnessReceipts valid required) ↔
      witnessing.accountedBy (receiptIndices crypto witnessing bytes wigs) =
        .error (.insufficientReceipts valid required) := by
  rw [receipted_by_error, accounted_by_error, positions_of_receipts, Rejection.insufficientWitnessReceipts.injEq,
    ReceiptError.insufficientReceipts.injEq]

-- What a host may count: an indexed receipt, or a couple of a prefix that has
-- been verified and is promoted by lookup.
inductive Contribution where
  | wig (sig : Siger)
  | couple (pfx : BasicPrefix)
deriving DecidableEq

def Contribution.index (witnessing : Witnessing) (bytes : Bytes) : Contribution → Option WitnessIndex
  | .wig sig => (witnessing.receipt crypto bytes sig).toOption
  | .couple pfx => witnessing.witnessIndex pfx

-- The witness a contribution speaks for: the one whose key verified the
-- receipt, or the endorser itself where it is a witness that an index can name.
def Contribution.witness (witnessing : Witnessing) (bytes : Bytes) : Contribution → Option BasicPrefix
  | .wig sig => if Signs crypto witnessing.witnesses bytes sig then witnessing.witnesses[sig.index.val]? else none
  | .couple pfx => if pfx ∈ witnessing.witnesses.take (2 ^ 32) then some pfx else none

theorem witness_index_some (witnessing : Witnessing) (pfx : BasicPrefix) (index : WitnessIndex)
    (promoted : witnessing.witnessIndex pfx = some index) :
    witnessing.witnesses[index.value.val]? = some pfx := by
  simp only [Witnessing.witnessIndex, Option.map_eq_some_iff, Option.bind_eq_some_iff] at promoted
  obtain ⟨position, ⟨found, located, fits⟩, rfl⟩ := promoted
  rw [(u32_try_from_some found position).mp fits]
  obtain ⟨inRange, same, -⟩ := List.findIdx?_eq_some_iff_getElem.mp located
  rw [List.getElem?_eq_getElem inRange]
  exact congrArg some (of_decide_eq_true same)

theorem witness_index_found (witnessing : Witnessing) (pfx : BasicPrefix) :
    (∃ index, witnessing.witnessIndex pfx = some index) ↔ pfx ∈ witnessing.witnesses.take (2 ^ 32) := by
  rw [List.mem_take_iff_getElem]
  apply Iff.intro
  · rintro ⟨index, promoted⟩
    obtain ⟨inside, same⟩ := List.getElem?_eq_some_iff.mp (witness_index_some witnessing pfx index promoted)
    exact ⟨index.value.val, Nat.lt_min.mpr ⟨index.value.isLt, inside⟩, same⟩
  · rintro ⟨position, inside, same⟩
    obtain ⟨small, within⟩ := Nat.lt_min.mp inside
    have located := List.findIdx?_eq_some_of_exists (p := fun witness => decide (witness = pfx))
      ⟨pfx, same ▸ List.getElem_mem within, decide_eq_true rfl⟩
    have first : witnessing.witnesses.findIdx (fun witness => decide (witness = pfx)) ≤ position := by
      by_contra later
      have other := List.not_of_lt_findIdx (Nat.lt_of_not_le later)
      rw [same, decide_eq_false_iff_not] at other
      exact other rfl
    have fits := (u32_try_from_some _ ⟨_, Nat.lt_of_le_of_lt first small⟩).mpr rfl
    exact ⟨_, by rw [Witnessing.witnessIndex, located, Option.bind_some, fits, Option.map_some]⟩

theorem contribution_witness (witnessing : Witnessing) (bytes : Bytes) (item : Contribution) :
    item.witness crypto witnessing bytes =
      (item.index crypto witnessing bytes).bind fun index => witnessing.witnesses[index.value.val]? := by
  cases item with
  | wig sig =>
      by_cases signed : Signs crypto witnessing.witnesses bytes sig
      · have judged := (receipt_ok crypto witnessing bytes sig ⟨sig.index⟩).mpr ⟨signed, rfl⟩
        simp [Contribution.witness, Contribution.index, signed, judged, Except.toOption]
      · have refused : (witnessing.receipt crypto bytes sig).toOption = none := by
          cases judged : witnessing.receipt crypto bytes sig with
          | error error => rfl
          | ok index => exact absurd ((receipt_ok crypto witnessing bytes sig index).mp judged).1 signed
        simp [Contribution.witness, Contribution.index, signed, refused]
  | couple pfx =>
      have found := witness_index_found witnessing pfx
      cases promoted : witnessing.witnessIndex pfx with
      | none =>
          have absent : pfx ∉ witnessing.witnesses.take (2 ^ 32) := by
            rw [← found, promoted]
            rintro ⟨_, same⟩
            cases same
          simp only [Contribution.witness, Contribution.index, promoted, if_neg absent, Option.bind_none]
      | some index =>
          have inside := found.mp ⟨index, promoted⟩
          simp only [Contribution.witness, Contribution.index, promoted, if_pos inside, Option.bind_some,
            witness_index_some witnessing pfx index promoted]

theorem chosen_positions (witnessing : Witnessing) (indices : List WitnessIndex) :
    chosen witnessing.witnesses (witnessing.positions indices) =
      (indices.filterMap fun index => witnessing.witnesses[index.value.val]?).toFinset := by
  ext witness
  simp only [mem_chosen, Witnessing.positions, List.mem_toFinset, List.mem_filter, List.mem_map, List.mem_filterMap,
    decide_eq_true_eq]
  apply Iff.intro
  · rintro ⟨_, ⟨⟨index, inside, rfl⟩, -⟩, selected⟩
    exact ⟨index, inside, selected⟩
  · rintro ⟨index, inside, selected⟩
    exact ⟨index.value, ⟨⟨index, inside, rfl⟩, (List.getElem?_eq_some_iff.mp selected).1⟩, selected⟩

theorem card_positions (witnessing : Witnessing) (distinct : witnessing.witnesses.Nodup)
    (indices : List WitnessIndex) :
    (witnessing.positions indices).card =
      (indices.filterMap fun index => witnessing.witnesses[index.value.val]?).toFinset.card := by
  rw [← chosen_positions, card_chosen _ _ distinct]
  intro position inside
  simp only [Witnessing.positions, List.mem_toFinset, List.mem_filter, decide_eq_true_eq] at inside
  exact inside.2

theorem accounted_by_distinct (witnessing : Witnessing) (distinct : witnessing.witnesses.Nodup) (bytes : Bytes)
    (items : List Contribution) :
    witnessing.accountedBy (items.filterMap (Contribution.index crypto witnessing bytes)) = .ok () ↔
      witnessing.toad.value.val ≤
        (items.filterMap (Contribution.witness crypto witnessing bytes)).toFinset.card := by
  have composed : items.filterMap (Contribution.witness crypto witnessing bytes) =
      (items.filterMap (Contribution.index crypto witnessing bytes)).filterMap
        fun index => witnessing.witnesses[index.value.val]? := by
    rw [List.filterMap_filterMap]
    exact List.filterMap_congr fun item _ => contribution_witness crypto witnessing bytes item
  rw [accounted_by_ok, card_positions witnessing distinct, composed]

theorem witness_accounting_agrees (witnessing : Witnessing) (bytes : Bytes) :
    (∀ wigs, (witnessing.receiptedBy crypto bytes wigs = .ok () ↔
        witnessing.accountedBy (receiptIndices crypto witnessing bytes wigs) = .ok ()) ∧
      ∀ valid required,
        witnessing.receiptedBy crypto bytes wigs = .error (.insufficientWitnessReceipts valid required) ↔
          witnessing.accountedBy (receiptIndices crypto witnessing bytes wigs) =
            .error (.insufficientReceipts valid required)) ∧
      (witnessing.witnesses.Nodup → ∀ items : List Contribution,
        (witnessing.accountedBy (items.filterMap (Contribution.index crypto witnessing bytes)) = .ok () ↔
          witnessing.toad.value.val ≤
            (items.filterMap (Contribution.witness crypto witnessing bytes)).toFinset.card)) := by
  refine ⟨fun wigs => ⟨receipts_agree crypto witnessing bytes wigs, ?_⟩, ?_⟩
  · exact shortfalls_agree crypto witnessing bytes wigs
  · exact fun distinct items => accounted_by_distinct crypto witnessing distinct bytes items

namespace Sample

def witnessKey (seed : UInt8) : BasicPrefix := ⟨.ed25519N, List.replicate 32 seed, ""⟩

def witnessing : Witnessing := ⟨[witnessKey 7, witnessKey 8], ⟨2⟩⟩

end Sample

theorem witness_accounting_agrees_sample :
    Sample.witnessing.accountedBy ([Contribution.wig (Sample.sign 7 [10]), .couple (Sample.witnessKey 8)].filterMap
        (Contribution.index Sample.scheme Sample.witnessing [10])) = .ok () ↔
      Sample.witnessing.toad.value.val ≤
        ([Contribution.wig (Sample.sign 7 [10]), .couple (Sample.witnessKey 8)].filterMap
          (Contribution.witness Sample.scheme Sample.witnessing [10])).toFinset.card :=
  (witness_accounting_agrees Sample.scheme Sample.witnessing [10]).2 (by decide) _

end Cesr.Keri
