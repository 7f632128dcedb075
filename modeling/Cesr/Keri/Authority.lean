import Cesr.Core.Verify
import Cesr.Keri.Rejection
import Cesr.Lib.Positions

set_option autoImplicit false

namespace Cesr.Keri

open Checks SortedSet Positions

variable (crypto : Crypto)

-- A verifier attached locally to a signature is not part of what was sent.
abbrev WireSignature := String × U32 × Option U32 × Bytes

def wireSignature (sig : Siger) : WireSignature := (sig.code.asStr, sig.index, sig.ondex, sig.raw)

-- The set is opened only when a second distinct value arrives.
structure SeenWireSignatures where
  first : Option WireSignature
  rest : List WireSignature
  opened : first = none → rest = []

def SeenWireSignatures.empty : SeenWireSignatures := ⟨none, [], fun _ => rfl⟩

def SeenWireSignatures.insert (seen : SeenWireSignatures) (sig : Siger) : Bool × SeenWireSignatures :=
  let wire := wireSignature sig
  if seen.first = some wire then (false, seen)
  else
    match held : seen.first with
    | none => (true, ⟨some wire, seen.rest, fun impossible => nomatch impossible⟩)
    | some _ =>
        if wire ∈ seen.rest then (false, seen)
        else (true, ⟨seen.first, wire :: seen.rest, fun impossible => nomatch held.symm.trans impossible⟩)

def SeenWireSignatures.Holds (seen : SeenWireSignatures) (wire : WireSignature) : Prop :=
  seen.first = some wire ∨ wire ∈ seen.rest

instance (seen : SeenWireSignatures) (wire : WireSignature) : Decidable (seen.Holds wire) :=
  inferInstanceAs (Decidable (_ ∨ _))

class VerifierKey (K : Type) where
  asVerfer : K → Matter VerKeyCode

instance : VerifierKey VerifyingKey := ⟨VerifyingKey.matter⟩

instance : VerifierKey BasicPrefix := ⟨BasicPrefix.matter⟩

variable {K : Type} [VerifierKey K]

-- The filtering loop: a repeated wire value, an index without a key and a
-- signature that does not verify are each passed over.
def verifiedFrom (keys : List K) (bytes : Bytes) (seen : SeenWireSignatures) : List Siger → List Siger
  | [] => []
  | sig :: rest =>
      let (fresh, seen) := seen.insert sig
      if fresh then
        match (usizeTryFrom sig.index.val).bind fun position => keys[position]? with
        | none => verifiedFrom keys bytes seen rest
        | some key =>
            if (verify crypto (VerifierKey.asVerfer key) bytes sig).isOk then
              sig :: verifiedFrom keys bytes seen rest
            else verifiedFrom keys bytes seen rest
      else verifiedFrom keys bytes seen rest

def Verifier.withKeys (keys : List K) (threshold : SigningThreshold) (bytes : Bytes) (sigs : List Siger) :
    Except Rejection (List Siger) :=
  let valid := verifiedFrom crypto keys bytes .empty sigs
  let indices := sortDedup (valid.map Siger.index)
  if threshold.satisfiedBySortedUnique indices then .ok valid else .error (.missingSignatures indices.length)

structure Authority where
  keys : List VerifyingKey
  threshold : SigningThreshold

structure Verified where
  sigs : List Siger

def Authority.wellFormed (authority : Authority) : Except SigningThresholdError Unit :=
  authority.threshold.checkWellFormed authority.keys.length

def Authority.verify (authority : Authority) (bytes : Bytes) (sigs : List Siger) : Except Rejection Verified := do
  let sigs ← Verifier.withKeys crypto authority.keys authority.threshold bytes sigs
  pure ⟨sigs⟩

structure Commitment where
  nextDigests : List Digest
  nextThreshold : SigningThreshold

-- The second index selects a committed digest, the first one the revealed key
-- that must hash to it.
def Commitment.exposed (commitment : Commitment) (revealed : Authority) (sig : Siger) : Option U32 := do
  let ondex ← sig.ondex
  let digest ← (usizeTryFrom ondex.val).bind fun position => commitment.nextDigests[position]?
  let key ← (usizeTryFrom sig.index.val).bind fun position => revealed.keys[position]?
  if crypto.commits digest.matter key.matter then some ondex else none

def Commitment.openedBy (commitment : Commitment) (revealed : Authority) (verified : Verified) :
    Except Rejection Unit :=
  let exposed := sortDedup (verified.sigs.filterMap (commitment.exposed crypto revealed))
  if commitment.nextThreshold.satisfiedBySortedUnique exposed then .ok ()
  else .error (.priorNextThresholdUnsatisfied exposed.length)

def Commitment.verifyOpening (commitment : Commitment) (revealed : Authority) (bytes : Bytes)
    (sigs : List Siger) : Except Rejection Unit := do
  let verified ← revealed.verify crypto bytes sigs
  commitment.openedBy crypto revealed verified

structure Witnessing where
  witnesses : List BasicPrefix
  toad : Toad

def Witnessing.receiptedBy (witnessing : Witnessing) (bytes : Bytes) (wigs : List Siger) :
    Except Rejection Unit :=
  let required := witnessing.toad.value
  if required.val = 0 then .ok ()
  else
    let receipted := sortDedup ((verifiedFrom crypto witnessing.witnesses bytes .empty wigs).map Siger.index)
    if (usizeTryFrom required.val).any (fun needed => decide (needed ≤ receipted.length)) then .ok ()
    else .error (.insufficientWitnessReceipts receipted.length required)

class Establishment (E : Type) where
  authority : E → Authority

instance : Establishment InceptionEvent := ⟨fun event => ⟨event.keys, event.threshold⟩⟩

instance : Establishment RotationEvent := ⟨fun event => ⟨event.keys, event.threshold⟩⟩

-- What the loops compute, as sets. A signature signs for a key list when the
-- key its index selects verifies it.
def Signs (keys : List K) (bytes : Bytes) (sig : Siger) : Prop :=
  ∃ key, keys[sig.index.val]? = some key ∧ Verifies crypto (VerifierKey.asVerfer key) bytes sig

instance (keys : List K) (bytes : Bytes) (sig : Siger) : Decidable (Signs crypto keys bytes sig) :=
  match found : keys[sig.index.val]? with
  | none => isFalse (by simp [Signs, found])
  | some key => decidable_of_iff (Verifies crypto (VerifierKey.asVerfer key) bytes sig) (by simp [Signs, found])

def signers (keys : List K) (bytes : Bytes) (sigs : List Siger) : Finset U32 :=
  ((sigs.filter fun sig => Signs crypto keys bytes sig).map Siger.index).toFinset

theorem mem_signers (keys : List K) (bytes : Bytes) (sigs : List Siger) (index : U32) :
    index ∈ signers crypto keys bytes sigs ↔ ∃ sig ∈ sigs, Signs crypto keys bytes sig ∧ sig.index = index := by
  simp [signers, and_assoc]

theorem signers_in_range (keys : List K) (bytes : Bytes) (sigs : List Siger) :
    ∀ index ∈ signers crypto keys bytes sigs, index.val < keys.length := by
  intro index inside
  obtain ⟨sig, -, ⟨key, selected, -⟩, rfl⟩ := (mem_signers crypto keys bytes sigs index).mp inside
  exact (List.getElem?_eq_some_iff.mp selected).1

-- The keys that signed, rather than their positions.
def signatories [DecidableEq K] (keys : List K) (bytes : Bytes) (sigs : List Siger) : Finset K :=
  chosen keys (signers crypto keys bytes sigs)

theorem card_signatories [DecidableEq K] (keys : List K) (bytes : Bytes) (sigs : List Siger) (distinct : keys.Nodup) :
    (signatories crypto keys bytes sigs).card = (signers crypto keys bytes sigs).card :=
  card_chosen keys _ distinct (signers_in_range crypto keys bytes sigs)

theorem wire_signature_congr (left right : Siger) (same : wireSignature left = wireSignature right) :
    left.code = right.code ∧ left.index = right.index ∧ left.ondex = right.ondex ∧ left.raw = right.raw := by
  obtain ⟨code, index, ondex, raw⟩ : left.code.asStr = right.code.asStr ∧ left.index = right.index ∧
      left.ondex = right.ondex ∧ left.raw = right.raw := by
    simpa [wireSignature] using same
  exact ⟨as_str_injective _ _ code, index, ondex, raw⟩

theorem signs_congr (keys : List K) (bytes : Bytes) (left right : Siger)
    (same : wireSignature left = wireSignature right) (signed : Signs crypto keys bytes left) :
    Signs crypto keys bytes right := by
  obtain ⟨code, index, ondex, raw⟩ := wire_signature_congr left right same
  obtain ⟨key, selected, verified⟩ := signed
  refine ⟨key, index ▸ selected, ?_⟩
  rw [Verifies, verify_congr crypto _ bytes right left code.symm raw.symm]
  exact verified

theorem insert_fresh (seen : SeenWireSignatures) (sig : Siger) :
    (seen.insert sig).1 = true ↔ ¬ seen.Holds (wireSignature sig) := by
  obtain ⟨first, rest, opened⟩ := seen
  cases first with
  | none =>
      have empty : rest = [] := opened rfl
      simp [SeenWireSignatures.insert, SeenWireSignatures.Holds, empty]
  | some head =>
      by_cases same : head = wireSignature sig
      · simp [SeenWireSignatures.insert, SeenWireSignatures.Holds, same]
      · by_cases inside : wireSignature sig ∈ rest <;>
          simp [SeenWireSignatures.insert, SeenWireSignatures.Holds, same, inside]

theorem insert_holds (seen : SeenWireSignatures) (sig : Siger) (wire : WireSignature) :
    (seen.insert sig).2.Holds wire ↔ seen.Holds wire ∨ wire = wireSignature sig := by
  obtain ⟨first, rest, opened⟩ := seen
  cases first with
  | none =>
      have empty : rest = [] := opened rfl
      simp [SeenWireSignatures.insert, SeenWireSignatures.Holds, empty, eq_comm]
  | some head =>
      by_cases same : head = wireSignature sig
      · simp only [SeenWireSignatures.insert, SeenWireSignatures.Holds, same, if_true, Option.some.injEq]
        tauto
      · by_cases inside : wireSignature sig ∈ rest
        · simp only [SeenWireSignatures.insert, SeenWireSignatures.Holds, Option.some.injEq, same, if_false, inside,
            if_true]
          grind
        · simp only [SeenWireSignatures.insert, SeenWireSignatures.Holds, Option.some.injEq, same, if_false, inside,
            List.mem_cons]
          tauto

theorem verified_from_cons (keys : List K) (bytes : Bytes) (seen : SeenWireSignatures) (sig : Siger)
    (rest : List Siger) :
    verifiedFrom crypto keys bytes seen (sig :: rest) =
      if ¬ seen.Holds (wireSignature sig) ∧ Signs crypto keys bytes sig then
        sig :: verifiedFrom crypto keys bytes (seen.insert sig).2 rest
      else verifiedFrom crypto keys bytes (seen.insert sig).2 rest := by
  simp only [← insert_fresh]
  by_cases fresh : (seen.insert sig).1 = true
  · cases found : keys[sig.index.val]? with
    | none => simp [verifiedFrom, fresh, found, Signs]
    | some key => simp [verifiedFrom, fresh, found, Signs, Verifies]
  · simp [verifiedFrom, fresh]

theorem verified_from_sound (keys : List K) (bytes : Bytes) (seen : SeenWireSignatures) (sigs : List Siger)
    (sig : Siger) (kept : sig ∈ verifiedFrom crypto keys bytes seen sigs) :
    sig ∈ sigs ∧ Signs crypto keys bytes sig := by
  induction sigs generalizing seen with
  | nil => cases kept
  | cons head rest ih =>
      rw [verified_from_cons] at kept
      split at kept
      · rename_i taken
        rcases List.mem_cons.mp kept with same | later
        · subst same
          exact ⟨List.mem_cons_self, taken.2⟩
        · exact (ih _ later).imp (List.mem_cons_of_mem head) id
      · exact (ih _ kept).imp (List.mem_cons_of_mem head) id

theorem verified_from_complete (keys : List K) (bytes : Bytes) (seen : SeenWireSignatures) (sigs : List Siger)
    (sig : Siger) (inside : sig ∈ sigs) (signed : Signs crypto keys bytes sig)
    (fresh : ¬ seen.Holds (wireSignature sig)) :
    ∃ twin ∈ verifiedFrom crypto keys bytes seen sigs, wireSignature twin = wireSignature sig := by
  induction sigs generalizing seen with
  | nil => cases inside
  | cons head rest ih =>
      rw [verified_from_cons]
      by_cases same : wireSignature sig = wireSignature head
      · have signedHead := signs_congr crypto keys bytes sig head same signed
        rw [if_pos ⟨same ▸ fresh, signedHead⟩]
        exact ⟨head, List.mem_cons_self, same.symm⟩
      · have later : sig ∈ rest := by
          rcases List.mem_cons.mp inside with equal | later
          · exact absurd (congrArg wireSignature equal) same
          · exact later
        have unseen : ¬ (seen.insert head).2.Holds (wireSignature sig) := by
          rw [insert_holds]
          exact fun held => held.elim fresh same
        obtain ⟨twin, kept, equal⟩ := ih _ later unseen
        refine ⟨twin, ?_, equal⟩
        split
        · exact List.mem_cons_of_mem head kept
        · exact kept

theorem exists_verified (keys : List K) (bytes : Bytes) (sigs : List Siger) (shows : Siger → Prop)
    (respects : ∀ left right, wireSignature left = wireSignature right → shows left → shows right) :
    (∃ sig ∈ verifiedFrom crypto keys bytes .empty sigs, shows sig) ↔
      ∃ sig ∈ sigs, Signs crypto keys bytes sig ∧ shows sig := by
  apply Iff.intro
  · rintro ⟨sig, kept, shown⟩
    obtain ⟨inside, signed⟩ := verified_from_sound crypto keys bytes .empty sigs sig kept
    exact ⟨sig, inside, signed, shown⟩
  · rintro ⟨sig, inside, signed, shown⟩
    have fresh : ¬ SeenWireSignatures.empty.Holds (wireSignature sig) := by
      simp [SeenWireSignatures.Holds, SeenWireSignatures.empty]
    obtain ⟨twin, kept, same⟩ := verified_from_complete crypto keys bytes .empty sigs sig inside signed fresh
    exact ⟨twin, kept, respects sig twin same.symm shown⟩

theorem verified_indices (keys : List K) (bytes : Bytes) (sigs : List Siger) :
    ((verifiedFrom crypto keys bytes .empty sigs).map Siger.index).toFinset = signers crypto keys bytes sigs := by
  ext index
  rw [List.mem_toFinset, List.mem_map, mem_signers]
  refine exists_verified crypto keys bytes sigs (fun sig => sig.index = index) ?_
  intro left right same shown
  exact (wire_signature_congr left right same).2.1 ▸ shown

theorem with_keys_ok (keys : List K) (threshold : SigningThreshold) (bytes : Bytes) (sigs valid : List Siger) :
    Verifier.withKeys crypto keys threshold bytes sigs = .ok valid ↔
      threshold.Holds (signers crypto keys bytes sigs) ∧ verifiedFrom crypto keys bytes .empty sigs = valid := by
  rw [← verified_indices, ← satisfied_by_sort_dedup]
  dsimp only [Verifier.withKeys]
  split <;> rename_i met <;> simp [met]

theorem with_keys_error (keys : List K) (threshold : SigningThreshold) (bytes : Bytes) (sigs : List Siger)
    (error : Rejection) :
    Verifier.withKeys crypto keys threshold bytes sigs = .error error ↔
      ¬ threshold.Holds (signers crypto keys bytes sigs) ∧
        error = .missingSignatures (signers crypto keys bytes sigs).card := by
  rw [← verified_indices, ← satisfied_by_sort_dedup, ← length_sort_dedup]
  dsimp only [Verifier.withKeys]
  split <;> rename_i met <;> simp [met, eq_comm]

theorem authority_verify_ok (authority : Authority) (bytes : Bytes) (sigs : List Siger) (verified : Verified) :
    authority.verify crypto bytes sigs = .ok verified ↔
      authority.threshold.Holds (signers crypto authority.keys bytes sigs) ∧
        (⟨verifiedFrom crypto authority.keys bytes .empty sigs⟩ : Verified) = verified := by
  simp only [Authority.verify, bind_ok, with_keys_ok, pure_ok]
  grind

theorem authority_verify_error (authority : Authority) (bytes : Bytes) (sigs : List Siger) (error : Rejection) :
    authority.verify crypto bytes sigs = .error error ↔
      ¬ authority.threshold.Holds (signers crypto authority.keys bytes sigs) ∧
        error = .missingSignatures (signers crypto authority.keys bytes sigs).card := by
  simp only [Authority.verify, bind_error, with_keys_error, pure_error, and_false, exists_false, or_false]

theorem exposed_some (commitment : Commitment) (revealed : Authority) (sig : Siger) (ondex : U32) :
    commitment.exposed crypto revealed sig = some ondex ↔
      sig.ondex = some ondex ∧ ∃ digest key, commitment.nextDigests[ondex.val]? = some digest ∧
        revealed.keys[sig.index.val]? = some key ∧ crypto.commits digest.matter key.matter = true := by
  simp only [Commitment.exposed, usize_try_from_u32, Option.bind_some, Option.bind_eq_bind, Option.bind_eq_some_iff,
    Option.ite_none_right_eq_some, Option.some.injEq]
  grind

theorem exposed_congr (commitment : Commitment) (revealed : Authority) (left right : Siger)
    (same : wireSignature left = wireSignature right) :
    commitment.exposed crypto revealed left = commitment.exposed crypto revealed right := by
  obtain ⟨-, index, ondex, -⟩ := wire_signature_congr left right same
  simp only [Commitment.exposed, index, ondex]

def exposures (commitment : Commitment) (revealed : Authority) (bytes : Bytes) (sigs : List Siger) :
    Finset U32 :=
  ((sigs.filter fun sig => Signs crypto revealed.keys bytes sig).filterMap
    (commitment.exposed crypto revealed)).toFinset

theorem mem_exposures (commitment : Commitment) (revealed : Authority) (bytes : Bytes) (sigs : List Siger)
    (ondex : U32) :
    ondex ∈ exposures crypto commitment revealed bytes sigs ↔
      ∃ sig ∈ sigs, Signs crypto revealed.keys bytes sig ∧ sig.ondex = some ondex ∧
        ∃ digest key, commitment.nextDigests[ondex.val]? = some digest ∧
          revealed.keys[sig.index.val]? = some key ∧ crypto.commits digest.matter key.matter = true := by
  simp only [exposures, List.mem_toFinset, List.mem_filterMap, List.mem_filter, decide_eq_true_eq, exposed_some,
    and_assoc]

theorem verified_exposures (commitment : Commitment) (revealed : Authority) (bytes : Bytes) (sigs : List Siger) :
    ((verifiedFrom crypto revealed.keys bytes .empty sigs).filterMap (commitment.exposed crypto revealed)).toFinset =
      exposures crypto commitment revealed bytes sigs := by
  ext ondex
  simp only [exposures, List.mem_toFinset, List.mem_filterMap, List.mem_filter, decide_eq_true_eq, and_assoc]
  refine exists_verified crypto revealed.keys bytes sigs _ ?_
  intro left right same shown
  rwa [← exposed_congr crypto commitment revealed left right same]

theorem opened_by_ok (commitment : Commitment) (revealed : Authority) (bytes : Bytes) (sigs : List Siger) :
    commitment.openedBy crypto revealed ⟨verifiedFrom crypto revealed.keys bytes .empty sigs⟩ = .ok () ↔
      commitment.nextThreshold.Holds (exposures crypto commitment revealed bytes sigs) := by
  rw [← verified_exposures, ← satisfied_by_sort_dedup]
  dsimp only [Commitment.openedBy]
  split <;> rename_i met <;> simp [met]

theorem opened_by_error (commitment : Commitment) (revealed : Authority) (verified : Verified) (error : Rejection)
    (failed : commitment.openedBy crypto revealed verified = .error error) :
    ∃ exposed, error = .priorNextThresholdUnsatisfied exposed := by
  dsimp only [Commitment.openedBy] at failed
  split at failed
  · cases failed
  · exact ⟨_, (Except.error.inj failed).symm⟩

theorem verify_opening_ok (commitment : Commitment) (revealed : Authority) (bytes : Bytes) (sigs : List Siger) :
    commitment.verifyOpening crypto revealed bytes sigs = .ok () ↔
      revealed.threshold.Holds (signers crypto revealed.keys bytes sigs) ∧
        commitment.nextThreshold.Holds (exposures crypto commitment revealed bytes sigs) := by
  simp only [Commitment.verifyOpening, bind_ok, authority_verify_ok, ← opened_by_ok crypto commitment]
  grind

theorem receipted_by_ok (witnessing : Witnessing) (bytes : Bytes) (wigs : List Siger) :
    witnessing.receiptedBy crypto bytes wigs = .ok () ↔
      witnessing.toad.value.val ≤ (signers crypto witnessing.witnesses bytes wigs).card := by
  rw [← verified_indices, ← length_sort_dedup]
  dsimp only [Witnessing.receiptedBy]
  split
  · rename_i free
    simp [free]
  · simp only [usize_try_from_u32, Option.any_some, decide_eq_true_eq]
    split <;> rename_i met <;> simp [met]

theorem receipted_by_error (witnessing : Witnessing) (bytes : Bytes) (wigs : List Siger) (error : Rejection) :
    witnessing.receiptedBy crypto bytes wigs = .error error ↔
      (signers crypto witnessing.witnesses bytes wigs).card < witnessing.toad.value.val ∧
        error = .insufficientWitnessReceipts (signers crypto witnessing.witnesses bytes wigs).card
          witnessing.toad.value := by
  rw [← verified_indices, ← length_sort_dedup]
  dsimp only [Witnessing.receiptedBy]
  split
  · rename_i free
    simp [free]
  · simp only [usize_try_from_u32, Option.any_some, decide_eq_true_eq]
    split <;> rename_i met
    · simp [Nat.not_lt.mpr met]
    · simp [Nat.lt_of_not_le met, eq_comm]

end Cesr.Keri
