import Cesr.Keri.Run

set_option autoImplicit false

namespace Cesr.Keri

open Checks Calls

variable (crypto : Crypto)

-- The rejections that speak of the signatures and receipts supplied.
def Rejection.Evidential : Rejection → Prop
  | .missingSignatures _ | .priorNextThresholdUnsatisfied _ | .insufficientWitnessReceipts _ _ => True
  | _ => False

theorem evidential_terminal (rejection : Rejection) (evidential : rejection.Evidential)
    (terminal : rejection.disposition = .terminal) : rejection = .missingSignatures 0 := by
  cases rejection with
  | missingSignatures verified =>
      cases verified with
      | zero => rfl
      | succ more => cases terminal
  | priorNextThresholdUnsatisfied exposed => cases terminal
  | insufficientWitnessReceipts valid required => cases terminal
  | _ => cases evidential

theorem authority_verify_evidential (authority : Authority) (bytes : Bytes) (sigs : List Siger) (error : Rejection)
    (failed : authority.verify crypto bytes sigs = .error error) : error.Evidential := by
  rw [((authority_verify_error crypto authority bytes sigs error).mp failed).2]
  trivial

theorem verify_opening_evidential (commitment : Commitment) (revealed : Authority) (bytes : Bytes)
    (sigs : List Siger) (error : Rejection)
    (failed : commitment.verifyOpening crypto revealed bytes sigs = .error error) : error.Evidential := by
  rcases (bind_error _ _ error).mp failed with unsigned | ⟨verified, -, unopened⟩
  · exact authority_verify_evidential crypto revealed bytes sigs error unsigned
  · obtain ⟨exposed, rfl⟩ := opened_by_error crypto commitment revealed verified error unopened
    trivial

theorem receipted_by_evidential (witnessing : Witnessing) (bytes : Bytes) (wigs : List Siger) (error : Rejection)
    (failed : witnessing.receiptedBy crypto bytes wigs = .error error) : error.Evidential := by
  rw [((receipted_by_error crypto witnessing bytes wigs error).mp failed).2]
  trivial

-- Once the rules hold for some evidence, every check of the content passes, and
-- only a check of the evidence itself can refuse the same event.
theorem inception_evidential (icp : InceptionEvent) (signed other : Signed) (rules : InceptionRules crypto icp other)
    (error : Rejection) (failed : KeyState.validateInception crypto icp signed = .error error) :
    error.Evidential := by
  have first : rejectIf (icp.sn.value ≠ 0) (Rejection.structural (.nonZeroGenesisSn icp.sn.value)) = .ok () :=
    (reject_if_ok _ _ _).mpr (not_not.mpr rules.first)
  have members := (MemberSet.check_witnesses_ok icp.witnesses "witnesses").mpr ⟨rules.distinct, rules.fixed⟩
  have threshold : (Establishment.authority icp).wellFormed = .ok () :=
    (check_well_formed_iff icp.threshold icp.keys.length).mpr rules.threshold
  have next := (check_next_threshold_ok icp.nextThreshold icp.nextKeys.length).mpr rules.nextThreshold
  have decided := (decide_transferability_ok icp _).mpr ⟨rules.commits, rfl⟩
  have toad := (check_witness_threshold_ok icp.witnesses.length icp.witnessThreshold).mpr rules.toad
  simp only [KeyState.validateInception, first, rules.identity, members, threshold, next, decided, toad,
    Except.mapError, ok_bind, bind_error, pure_error, and_false, exists_false, or_false] at failed
  rcases failed with unsigned | ⟨_, -, unreceipted⟩
  · exact authority_verify_evidential crypto _ _ _ error unsigned
  · exact receipted_by_evidential crypto _ _ _ error unreceipted

theorem rotation_evidential (state : KeyState) (rot : RotationEvent) (signed other : Signed)
    (rules : RotationRules crypto state rot other) (error : Rejection)
    (failed : state.validateRotation crypto rot signed = .error error) : error.Evidential := by
  have chains := (check_chains_onto_ok state rot.pfx rot.sn.value rot.priorEventSaid).mpr rules.chains
  have threshold : (Establishment.authority rot).wellFormed = .ok () :=
    (check_well_formed_iff rot.threshold rot.keys.length).mpr rules.threshold
  have next := (check_next_threshold_ok rot.nextThreshold rot.nextKeys.length).mpr rules.nextThreshold
  have resolved := (resolve_witnesses_ok state rot _).mpr
    ⟨rules.deltas, rules.fixedRemovals, rules.fixedAdditions, (updated_members_eq _ _ _ rules.deltas).symm⟩
  have toad := (check_witness_threshold_ok (state.resolvedWitnesses rot).length rot.witnessThreshold).mpr rules.toad
  simp only [KeyState.resolvedWitnesses] at toad
  simp only [KeyState.validateRotation, chains, threshold, next, resolved, toad, Except.mapError, ok_bind, bind_error,
    pure_error, and_false, exists_false, or_false] at failed
  rcases failed with unopened | ⟨_, -, unreceipted⟩
  · exact verify_opening_evidential crypto _ _ _ _ error unopened
  · exact receipted_by_evidential crypto _ _ _ error unreceipted

theorem interaction_evidential (state : KeyState) (ixn : InteractionEvent) (signed other : Signed)
    (rules : InteractionRules crypto state ixn other) (error : Rejection)
    (failed : Rejects (KeyState.interactMut crypto ixn signed) state error) : error.Evidential := by
  have interactive : state.rejectEstablishmentOnly = .ok () :=
    (reject_if_ok _ _ _).mpr (by simp [rules.interactive])
  have chains := (check_chains_onto_ok state ixn.pfx ixn.sn.value ixn.priorEventSaid).mpr rules.chains
  simp only [KeyState.interactMut, rejects_get_bind, rejects_check_bind, interactive, chains, rejects_modify,
    reduceCtorEq, false_or, exists_done, true_and, and_false, exists_false, or_false] at failed
  rcases failed with unsigned | ⟨_, -, unreceipted⟩
  · exact authority_verify_evidential crypto _ _ _ error unsigned
  · exact receipted_by_evidential crypto _ _ _ error unreceipted

theorem rotate_evidential (state : KeyState) (rot : RotationEvent) (signed other : Signed)
    (rules : RotationRules crypto state rot other) (error : Rejection)
    (failed : Rejects (KeyState.rotateMut crypto rot signed) state error) : error.Evidential := by
  simp only [KeyState.rotateMut, rejects_get_bind, rejects_check_bind, rejects_modify, and_false, exists_false,
    or_false] at failed
  exact rotation_evidential crypto state rot signed other rules error failed

theorem ingest_evidential (state next : KeyState) (signed other : Signed) (same : signed.event = other.event)
    (accepted : Advance crypto state (.plain other) next) (error : Rejection)
    (failed : Rejects (KeyState.ingestMut crypto signed) state error) : error.Evidential := by
  cases accepted with
  | rotation _ rot transferable event independent rules =>
      simp only [KeyState.ingestMut, rejects_get_bind, rejects_check_bind, reject_if_error, transferable, not_true,
        false_and, false_or, exists_done, same, event, independent, ne_eq, if_false] at failed
      exact rotate_evidential crypto state rot signed other rules error failed.2
  | interaction _ ixn transferable event rules =>
      simp only [KeyState.ingestMut, rejects_get_bind, rejects_check_bind, reject_if_error, transferable, not_true,
        false_and, false_or, exists_done, same, event] at failed
      exact interaction_evidential crypto state ixn signed other rules error failed.2

theorem incept_evidential (start : KeyState) (signed other : Signed) (same : signed.event = other.event)
    (accepted : KeyState.incept crypto other = .ok start) (error : Rejection)
    (failed : KeyState.incept crypto signed = .error error) : error.Evidential := by
  have seeded := (seeded_iff crypto (.plain other) start).mp accepted
  cases seeded with
  | plain _ icp event rules =>
      simp only [KeyState.incept, same, event, bind_error, pure_error, and_false, exists_false, or_false] at failed
      exact inception_evidential crypto icp signed other rules error failed

-- An event offered to a held state, or to nothing at all.
def offer (held : Option KeyState) (signed : Signed) : Except Rejection KeyState :=
  match held with
  | none => KeyState.incept crypto signed
  | some state => state.ingest crypto signed

theorem offer_evidential (held : Option KeyState) (next : KeyState) (signed other : Signed)
    (same : signed.event = other.event) (accepted : offer crypto held other = .ok next) (error : Rejection)
    (failed : offer crypto held signed = .error error) : error.Evidential := by
  cases held with
  | none => exact incept_evidential crypto next signed other same accepted error failed
  | some state =>
      exact ingest_evidential crypto state next signed other same
        ((ingest_mut_ok crypto other state next).mp accepted) error ((consume_error _ _ _).mp failed)

-- The verdict holds for whatever signatures and receipts come with the event
-- later, so in particular for more of them.
theorem terminal_is_final (held : Option KeyState) (signed : Signed) (rejection : Rejection)
    (refused : offer crypto held signed = .error rejection) (terminal : rejection.disposition = .terminal)
    (silent : rejection ≠ .missingSignatures 0) (sigs wigs : List Siger) :
    ∃ later, offer crypto held { signed with sigs := sigs, wigs := wigs } = .error later := by
  refine (not_ok_iff _).mp fun next accepted => ?_
  have evidential := offer_evidential crypto held next signed { signed with sigs := sigs, wigs := wigs } rfl accepted
    rejection refused
  exact silent (evidential_terminal rejection evidential terminal)

theorem terminal_is_final_sample :
    ∃ later, offer Sample.scheme (some Sample.start)
      { (⟨.rotation { Sample.rotation with priorEventSaid := ⟨Sample.digest 9⟩ }, [11], [], []⟩ : Signed) with
        sigs := [Sample.sign 2 [11]], wigs := [Sample.sign 3 [11]] } = .error later :=
  terminal_is_final Sample.scheme (some Sample.start)
    ⟨.rotation { Sample.rotation with priorEventSaid := ⟨Sample.digest 9⟩ }, [11], [], []⟩ .priorDigestMismatch
    (by decide) rfl (by decide) [Sample.sign 2 [11]] [Sample.sign 3 [11]]

end Cesr.Keri
