import Cesr.Keri.Custody
import Cesr.Keri.Run

set_option autoImplicit false

namespace Cesr.Keri

open Checks Calls

variable (library : KeyLibrary)

inductive CustodyCall where
  | incept (spec : KeySpec)
  | rotate (spec : KeySpec)
  | sign (ser : Bytes) (indices : Option (List U32))
  | persist
deriving DecidableEq, Repr

inductive CustodyAnswer where
  | committed (commitment : KeyCommitment)
  | signed (sigers : List Siger)
  | resumed
deriving DecidableEq, Repr

-- To persist is to store the parameters and to resume from them under the same salt.
def custodyStep (call : CustodyCall) : Mutator SaltyCustodian (Failure CustodyError) CustodyAnswer :=
  match call with
  | .incept spec => do
      let commitment ← incept library spec
      pure (.committed commitment)
  | .rotate spec => do
      let commitment ← rotate library spec
      pure (.committed commitment)
  | .sign ser indices => do
      let self ← get
      let sigers ← check (sign library self ser indices)
      pure (.signed sigers)
  | .persist => do
      modify fun self => SaltyCustodian.resume self.salt self.params
      pure .resumed

abbrev CustodyLog := List (Except (Failure CustodyError) CustodyAnswer)

def lastCommitment (log : CustodyLog) : Option KeyCommitment :=
  log.foldl
    (fun last answer =>
      match answer with
      | .ok (.committed commitment) => some commitment
      | _ => last) none

theorem last_commitment_append (log : CustodyLog) (answer : Except (Failure CustodyError) CustodyAnswer) :
    lastCommitment (log ++ [answer]) =
      match answer with
      | .ok (.committed commitment) => some commitment
      | _ => lastCommitment log := by
  simp only [lastCommitment, List.foldl_append, List.foldl_cons, List.foldl_nil]

theorem restores_incept (spec : KeySpec) : Restores (incept library spec) := by
  unfold incept
  apply restores_get_bind
  intro self
  iterate 7
    apply restores_check_bind
    intro _
  exact restores_modify_pure _ _

theorem restores_rotate (spec : KeySpec) : Restores (rotate library spec) := by
  unfold rotate
  apply restores_get_bind
  intro self
  iterate 8
    apply restores_check_bind
    intro _
  exact restores_modify_pure _ _

theorem restores_bind_pure {α β : Type} (call : Mutator SaltyCustodian (Failure CustodyError) α) (wrap : α → β)
    (restores : Restores call) : Restores (call >>= fun value => pure (wrap value)) := by
  intro state error final failed
  rw [exec_bind] at failed
  cases executed : exec call state with
  | mk result middle =>
      rw [executed] at failed
      cases result with
      | ok value => cases failed
      | error given =>
          have same := (Prod.mk.inj failed).2
          rw [← same]
          exact restores state given middle executed

theorem restores_step (call : CustodyCall) : Restores (custodyStep library call) := by
  cases call with
  | incept spec => exact restores_bind_pure _ _ (restores_incept library spec)
  | rotate spec => exact restores_bind_pure _ _ (restores_rotate library spec)
  | sign ser indices =>
      apply restores_get_bind
      intro self
      exact restores_check_bind _ _ fun sigers => restores_pure _
  | persist => exact restores_modify_pure _ _

def currentCode (self : SaltyCustodian) : VerKeyCode := if self.transferable then .ed25519 else .ed25519N

-- The counters address the current keys, and one rung up the keys committed to.
structure Addresses (custodian : SaltyCustodian) (commitment : KeyCommitment) : Prop where
  incepted : custodian.incepted = true
  current : deriveSet library custodian custodian.ridx custodian.kidx custodian.count (currentCode custodian) = .ok commitment.verkeys
  next : ∃ upcoming verkeys, rungUp custodian.ridx custodian.kidx custodian.count = .ok upcoming ∧
    deriveSet library custodian upcoming.1 upcoming.2 custodian.ncount .ed25519 = .ok verkeys ∧
    commitSet library verkeys = .ok commitment.nextDigests

theorem incept_ok (spec : KeySpec) (self final : SaltyCustodian) (commitment : KeyCommitment)
    (done : exec (incept library spec) self = (.ok commitment, final)) :
    self.incepted = false ∧ Addresses library final commitment := by
  simp only [incept, exec_get_bind, exec_check_bind_ok, exec_modify_bind, exec_pure, reject_if_ok, exists_done] at done
  obtain ⟨fresh, _, _, verkeys, derived, upcoming, rung, next, others, digests, committed, same⟩ := done
  have answer := (Prod.mk.inj same).1
  have state := (Prod.mk.inj same).2
  rw [← state, ← Except.ok.inj answer]
  exact ⟨by simpa using fresh, rfl, derived, upcoming, next, rung, others, committed⟩

theorem rotate_ok (spec : KeySpec) (self final : SaltyCustodian) (previous commitment : KeyCommitment)
    (addressed : Addresses library self previous) (done : exec (rotate library spec) self = (.ok commitment, final)) :
    commitSet library commitment.verkeys = .ok previous.nextDigests ∧ Addresses library final commitment := by
  simp only [rotate, exec_get_bind, exec_check_bind_ok, exec_modify_bind, exec_pure, reject_if_ok, exists_done] at done
  obtain ⟨started, rotatable, counted, current, rung, verkeys, derived, upcoming, above, next, others, digests, committed, same⟩ := done
  have answer := (Prod.mk.inj same).1
  have state := (Prod.mk.inj same).2
  obtain ⟨reached, held, up, kept, promised⟩ := addressed.next
  have transferable : self.transferable = true := by
    by_contra fixed
    exact rotatable (.inl (by simpa using fixed))
  have place := Except.ok.inj (rung.symm.trans up)
  rw [ne_eq, not_not] at counted
  rw [counted, place] at derived
  have exposed := Except.ok.inj (derived.symm.trans kept)
  rw [← state, ← Except.ok.inj answer]
  refine ⟨by rw [exposed]; exact promised, by simpa using started, ?_, upcoming, next, above, others, committed⟩
  simp only [currentCode, transferable, if_true]
  rw [counted, place]
  exact derived

theorem pair_at_ok (self : SaltyCustodian) (ridx kidx : U64) (position : Nat) (pair : KeyPair)
    (paired : pairAt library self ridx kidx position = .ok pair) : ∃ seed, pair = KeyPair.fromSeedBytes library seed := by
  simp only [pairAt, bind_ok, map_error_ok, Salt.keyPair, pure_ok] at paired
  obtain ⟨_, _, _, _, seed, _, same⟩ := paired
  exact ⟨seed, same.symm⟩

theorem current_code_simple (self : SaltyCustodian) : currentCode self = .ed25519 ∨ currentCode self = .ed25519N := by
  unfold currentCode
  cases self.transferable
  · exact .inr rfl
  · exact .inl rfl

theorem custody_index_ok (position : Nat) (index : U32) : custodyIndex position = .ok index ↔ index.val = position := by
  rw [← u32_try_from_some]
  unfold custodyIndex
  cases u32TryFrom position with
  | none => simp
  | some found => simp

theorem addressed_pair (self : SaltyCustodian) (commitment : KeyCommitment) (addressed : Addresses library self commitment)
    (position : Nat) (inside : position < self.count) :
    ∃ seed, pairAt library self self.ridx self.kidx position = .ok (KeyPair.fromSeedBytes library seed) ∧
      commitment.verkeys[position]? = some ⟨currentCode self, (library.verifyingKey seed).val, ""⟩ := by
  have derived := (map_m_ok _ _ _).mp addressed.current
  obtain ⟨length, each⟩ := List.forall₂_iff_get.mp derived
  rw [List.length_range] at length
  have here := each position (by rwa [List.length_range]) (by omega)
  rw [List.get_eq_getElem, List.get_eq_getElem, List.getElem_range] at here
  simp only [bind_ok, map_error_ok] at here
  obtain ⟨pair, paired, given⟩ := here
  obtain ⟨seed, same⟩ := pair_at_ok library self _ _ position pair paired
  rw [verfer_ed25519 pair _ (current_code_simple self)] at given
  refine ⟨seed, by rw [paired, same], ?_⟩
  rw [List.getElem?_eq_getElem (by omega), ← Except.ok.inj given, same]
  rfl

theorem addressed_count (self : SaltyCustodian) (commitment : KeyCommitment) (addressed : Addresses library self commitment) :
    commitment.verkeys.length = self.count := by
  have derived := ((map_m_ok _ _ _).mp addressed.current).length_eq
  rw [List.length_range] at derived
  exact derived.symm

-- The widest index field of an Ed25519 code holds 4096 positions.
theorem sign_every_key_iff (self : SaltyCustodian) (commitment : KeyCommitment) (addressed : Addresses library self commitment)
    (ser : Bytes) : (∃ sigers, sign library self ser none = .ok sigers) ↔ commitment.verkeys.length ≤ 4096 := by
  have count := addressed_count library self commitment addressed
  have incepted := addressed.incepted
  simp only [sign, checkIndices, bind_ok, reject_if_ok, exists_done, incepted, Bool.true_eq_false, not_false_eq_true, true_and,
    map_m_exists, List.mem_range, map_error_ok, signerIndex, custody_index_ok, sign_indexed_ok, count]
  apply Iff.intro
  · intro signed
    by_contra many
    obtain ⟨_, _, _, index, same, few, _⟩ := signed 4096 (by omega)
    omega
  · intro few position inside
    obtain ⟨seed, paired, _⟩ := addressed_pair library self commitment addressed position inside
    exact ⟨_, _, paired, ⟨position, by omega⟩, rfl, by simp only; omega, rfl⟩

theorem signed_by_current (crypto : Crypto) (signs : SignsFor library crypto) (self : SaltyCustodian)
    (commitment : KeyCommitment) (addressed : Addresses library self commitment) (ser : Bytes) (sigers : List Siger)
    (signed : sign library self ser none = .ok sigers) :
    sigers.length = commitment.verkeys.length ∧
      ∀ position siger, sigers[position]? = some siger → siger.index.val = position ∧
        ∃ verkey, commitment.verkeys[position]? = some verkey ∧ Verifies crypto verkey ser siger := by
  have count := addressed_count library self commitment addressed
  simp only [sign, checkIndices, bind_ok, exists_done, map_m_ok] at signed
  obtain ⟨_, _, each⟩ := signed
  obtain ⟨length, visits⟩ := List.forall₂_iff_get.mp each
  rw [List.length_range] at length
  refine ⟨by omega, ?_⟩
  intro position siger here
  obtain ⟨inside, same⟩ := List.getElem?_eq_some_iff.mp here
  have visit := visits position (by rw [List.length_range]; omega) inside
  rw [List.get_eq_getElem, List.get_eq_getElem, List.getElem_range, same] at visit
  simp only [map_error_ok, signerIndex, custody_index_ok] at visit
  obtain ⟨pair, paired, index, placed, made⟩ := visit
  obtain ⟨seed, found, given⟩ := addressed_pair library self commitment addressed position (by omega)
  rw [paired] at found
  rw [Except.ok.inj found] at made
  obtain ⟨kept, verifies⟩ := signed_verifies library crypto signs seed _ (current_code_simple self) ser index siger made
  exact ⟨by rw [kept, placed], _, given, verifies⟩

def DigestsTo (verkey : Matter VerKeyCode) (digest : Matter DigestCode) : Prop :=
  ∃ qb64, verkey.toQb64b = some qb64 ∧ Diger.digest library .blake3_256 qb64 = .ok digest

theorem commit_key_ok (verkey : Matter VerKeyCode) (digest : Matter DigestCode) :
    commitKey library verkey = .ok digest ↔ DigestsTo library verkey digest := by
  unfold commitKey DigestsTo
  cases verkey.toQb64b with
  | none => simp
  | some qb64 => simp

def Answered (state : SaltyCustodian) (log : CustodyLog) : Prop :=
  match lastCommitment log with
  | none => state.incepted = false
  | some commitment => Addresses library state commitment

theorem rotate_started (spec : KeySpec) (self final : SaltyCustodian) (commitment : KeyCommitment)
    (done : exec (rotate library spec) self = (.ok commitment, final)) : self.incepted = true := by
  simp only [rotate, exec_get_bind, exec_check_bind_ok, reject_if_ok, exists_done, Bool.not_eq_false] at done
  exact done.1

theorem answered_rotate (state final : SaltyCustodian) (log : CustodyLog) (answered : Answered library state log)
    (spec : KeySpec) (commitment : KeyCommitment) (done : exec (rotate library spec) state = (.ok commitment, final)) :
    ∃ previous, lastCommitment log = some previous ∧ Addresses library state previous := by
  have started := rotate_started library spec state final commitment done
  unfold Answered at answered
  cases last : lastCommitment log with
  | none =>
      rw [last] at answered
      rw [answered] at started
      cases started
  | some previous =>
      rw [last] at answered
      exact ⟨previous, rfl, answered⟩

theorem answered_step (state : SaltyCustodian) (log : CustodyLog) (call : CustodyCall) (answered : Answered library state log) :
    Answered library (exec (custodyStep library call) state).2 (log ++ [(exec (custodyStep library call) state).1]) := by
  cases done : exec (custodyStep library call) state with
  | mk result final =>
      cases result with
      | error error =>
          have same := restores_step library call state error final done
          rw [same]
          simpa only [Answered, last_commitment_append] using answered
      | ok answer =>
          cases call with
          | incept spec =>
              simp only [custodyStep, exec_bind] at done
              cases made : exec (incept library spec) state with
              | mk outcome after =>
                  rw [made] at done
                  cases outcome with
                  | error error => cases done
                  | ok commitment =>
                      cases done
                      simp only [Answered, last_commitment_append]
                      exact (incept_ok library spec state _ commitment made).2
          | rotate spec =>
              simp only [custodyStep, exec_bind] at done
              cases made : exec (rotate library spec) state with
              | mk outcome after =>
                  rw [made] at done
                  cases outcome with
                  | error error => cases done
                  | ok commitment =>
                      cases done
                      simp only [Answered, last_commitment_append]
                      obtain ⟨previous, _, addressed⟩ := answered_rotate library state _ log answered spec commitment made
                      exact (rotate_ok library spec state _ previous commitment addressed made).2
          | sign ser indices =>
              simp only [custodyStep, exec_get_bind, exec_check_bind_ok, exec_pure] at done
              obtain ⟨sigers, _, same⟩ := done
              cases same
              simpa only [Answered, last_commitment_append] using answered
          | persist =>
              cases done
              simpa only [Answered, last_commitment_append, resume_params] using answered

theorem answered_run (salt : Array8 16) (tier : Tier) (convention : PathConvention) (calls : List CustodyCall) :
    Answered library (transcript (custodyStep library) (SaltyCustodian.new salt tier convention) calls).1
      (transcript (custodyStep library) (SaltyCustodian.new salt tier convention) calls).2 := by
  have start : Answered library (SaltyCustodian.new salt tier convention) [] := rfl
  exact transcript_history (custodyStep library) (Answered library) (answered_step library) _ [] start calls

-- A rotation gives out the keys that the last success committed to, a failed call
-- changes nothing, and up to 4096 current keys all sign.
theorem custody_prerotation_chain (crypto : Crypto) (signs : SignsFor library crypto) (salt : Array8 16) (tier : Tier)
    (convention : PathConvention) (calls : List CustodyCall) (state : SaltyCustodian) (log : CustodyLog)
    (ran : transcript (custodyStep library) (SaltyCustodian.new salt tier convention) calls = (state, log)) :
    (∀ spec commitment final, exec (rotate library spec) state = (.ok commitment, final) →
      ∃ previous, lastCommitment log = some previous ∧
        List.Forall₂ (DigestsTo library) commitment.verkeys previous.nextDigests) ∧
    (∀ call error final, exec (custodyStep library call) state = (.error error, final) → final = state) ∧
    ∀ commitment ser, lastCommitment log = some commitment →
      ((∃ sigers, sign library state ser none = .ok sigers) ↔ commitment.verkeys.length ≤ 4096) ∧
      ∀ sigers, sign library state ser none = .ok sigers → sigers.length = commitment.verkeys.length ∧
        ∀ position siger, sigers[position]? = some siger → siger.index.val = position ∧
          ∃ verkey, commitment.verkeys[position]? = some verkey ∧ Verifies crypto verkey ser siger := by
  have answered := answered_run library salt tier convention calls
  rw [ran] at answered
  refine ⟨?_, fun call error final failed => restores_step library call state error final failed, ?_⟩
  · intro spec commitment final done
    obtain ⟨previous, last, addressed⟩ := answered_rotate library state final log answered spec commitment done
    have committed := (rotate_ok library spec state final previous commitment addressed done).1
    simp only [commitSet, map_m_ok, commit_key_ok] at committed
    exact ⟨previous, last, committed⟩
  · intro commitment ser last
    simp only [Answered, last] at answered
    exact ⟨sign_every_key_iff library state commitment answered ser, signed_by_current library crypto signs state commitment answered ser⟩

namespace Sample

def fill (length : Nat) (data : Bytes) : Array8 length :=
  ⟨(data ++ List.replicate length 0).take length, by simp⟩

-- A key of the repository's custody vectors: its path, the Argon2id seed, the
-- Ed25519 key and its signature of one newline, and the BLAKE3 digest of the key's text.
structure Stretched where
  path : String
  qb64 : String
  seed : Bytes
  key : Bytes
  signature : Bytes
  digest : Bytes

def stretched : List Stretched :=
  [{ path := "000"
     qb64 := "DMZy6qbgnKzvCE594tQ4SPs6pIECXTYQBH7BkC4hNY3E"
     seed :=
       [243, 9, 123, 73, 112, 58, 156, 39, 95, 211, 228, 189, 125, 102, 135, 110, 175, 151, 49, 152, 151, 164, 86, 129, 97,
         156, 149, 207, 2, 1, 2, 125]
     key :=
       [198, 114, 234, 166, 224, 156, 172, 239, 8, 78, 125, 226, 212, 56, 72, 251, 58, 164, 129, 2, 93, 54, 16, 4, 126, 193,
         144, 46, 33, 53, 141, 196]
     signature :=
       [207, 86, 0, 148, 120, 254, 160, 80, 222, 205, 45, 250, 23, 23, 76, 78, 242, 39, 101, 118, 74, 108, 188, 177, 172,
         122, 92, 178, 19, 240, 72, 40, 110, 56, 205, 184, 255, 227, 84, 29, 38, 141, 79, 129, 82, 6, 101, 98, 185, 36, 240,
         162, 130, 186, 210, 225, 64, 162, 121, 71, 31, 12, 124, 2]
     digest :=
       [225, 55, 20, 165, 126, 241, 83, 7, 223, 168, 170, 6, 114, 206, 29, 170, 127, 128, 71, 29, 121, 145, 224, 84, 21, 237,
         48, 57, 120, 253, 97, 166] },
    { path := "011"
      qb64 := "DGRN1msRIcldiTLTCWCx3mHymdGt_ySmaT8amuoegy_J"
      seed :=
        [40, 174, 85, 187, 101, 23, 197, 250, 169, 116, 117, 109, 74, 16, 177, 182, 104, 107, 44, 209, 229, 209, 139, 239,
          239, 184, 56, 115, 38, 210, 143, 244]
      key :=
        [100, 77, 214, 107, 17, 33, 201, 93, 137, 50, 211, 9, 96, 177, 222, 97, 242, 153, 209, 173, 255, 36, 166, 105, 63, 26,
          154, 234, 30, 131, 47, 201]
      signature :=
        [142, 16, 95, 109, 217, 212, 241, 17, 134, 222, 170, 185, 156, 32, 58, 35, 173, 182, 21, 22, 237, 34, 215, 218, 86,
          86, 129, 81, 19, 153, 193, 169, 148, 176, 227, 177, 214, 69, 250, 34, 187, 107, 229, 38, 30, 227, 203, 205, 180, 49,
          16, 240, 12, 174, 75, 252, 205, 124, 79, 227, 81, 33, 135, 10]
      digest :=
        [188, 252, 224, 129, 2, 46, 14, 211, 163, 213, 10, 180, 92, 92, 151, 76, 71, 65, 77, 243, 47, 238, 58, 205, 55, 67,
          195, 112, 131, 149, 86, 25] },
    { path := "022"
      qb64 := "DAoQ1WxT29XtCFtOpJZyuO2q38BD8KTefktf7X0WN4YW"
      seed :=
        [128, 62, 90, 45, 245, 136, 74, 233, 217, 136, 151, 168, 119, 246, 69, 54, 141, 80, 199, 230, 191, 106, 196, 73, 35,
          234, 70, 219, 164, 116, 169, 176]
      key :=
        [10, 16, 213, 108, 83, 219, 213, 237, 8, 91, 78, 164, 150, 114, 184, 237, 170, 223, 192, 67, 240, 164, 222, 126, 75,
          95, 237, 125, 22, 55, 134, 22]
      signature :=
        [132, 235, 168, 59, 42, 192, 212, 72, 19, 171, 131, 195, 176, 146, 26, 50, 192, 93, 59, 202, 50, 99, 246, 20, 56, 159,
          87, 21, 62, 132, 1, 48, 129, 175, 17, 207, 236, 136, 134, 130, 13, 220, 131, 48, 113, 178, 66, 76, 110, 113, 188, 209,
          57, 96, 204, 107, 75, 18, 197, 34, 69, 97, 5, 1]
      digest :=
        [151, 51, 87, 193, 230, 156, 69, 153, 136, 65, 240, 218, 85, 110, 73, 171, 107, 191, 48, 166, 36, 230, 119, 206, 150,
          187, 36, 87, 235, 158, 54, 174] },
    { path := "023"
      qb64 := "DC3PI1DYGuy-b6O6RLK1TZP4IJol1-fEt2ePkcC7vjfN"
      seed :=
        [87, 215, 96, 14, 48, 112, 234, 114, 123, 53, 31, 46, 147, 108, 120, 56, 25, 5, 164, 159, 100, 0, 59, 214, 2, 248,
          229, 2, 38, 159, 210, 230]
      key :=
        [45, 207, 35, 80, 216, 26, 236, 190, 111, 163, 186, 68, 178, 181, 77, 147, 248, 32, 154, 37, 215, 231, 196, 183, 103,
          143, 145, 192, 187, 190, 55, 205]
      signature :=
        [214, 17, 158, 220, 255, 54, 234, 24, 93, 181, 181, 85, 147, 12, 254, 146, 192, 123, 22, 181, 135, 117, 7, 222, 31,
          248, 36, 123, 238, 114, 172, 108, 231, 13, 84, 126, 39, 24, 154, 210, 104, 15, 252, 242, 204, 144, 98, 22, 155, 77,
          203, 137, 27, 25, 219, 241, 29, 248, 136, 70, 150, 226, 36, 3]
      digest :=
        [96, 22, 6, 92, 93, 118, 242, 106, 9, 147, 59, 144, 46, 141, 78, 233, 63, 214, 154, 146, 147, 209, 30, 116, 48, 14,
          63, 175, 111, 177, 117, 121] },
    { path := "034"
      qb64 := "DEno2XkegOs34bAmrU0baA82RSAqzyy0CKVP6_On37NO"
      seed :=
        [86, 57, 53, 170, 136, 15, 187, 185, 3, 236, 220, 156, 14, 195, 1, 67, 246, 239, 205, 250, 21, 140, 14, 85, 26, 208,
          17, 123, 108, 253, 159, 231]
      key :=
        [73, 232, 217, 121, 30, 128, 235, 55, 225, 176, 38, 173, 77, 27, 104, 15, 54, 69, 32, 42, 207, 44, 180, 8, 165, 79,
          235, 243, 167, 223, 179, 78]
      signature :=
        [173, 47, 245, 12, 31, 133, 119, 227, 209, 174, 81, 228, 34, 245, 143, 178, 203, 107, 81, 50, 15, 234, 158, 58, 32,
          168, 28, 133, 175, 163, 114, 68, 242, 37, 14, 18, 227, 50, 110, 36, 127, 57, 218, 19, 154, 197, 1, 168, 230, 181, 52,
          231, 152, 245, 75, 9, 124, 181, 32, 138, 153, 129, 71, 8]
      digest :=
        [72, 141, 119, 212, 102, 116, 77, 132, 58, 13, 78, 138, 227, 90, 192, 69, 57, 227, 155, 26, 77, 145, 97, 224, 196, 2,
          30, 104, 251, 9, 52, 76] }]

def signatureOf (key data : Bytes) : Array8 64 :=
  match stretched.find? fun entry => entry.key = key with
  | some entry => fill 64 (if data = [10] then entry.signature else key ++ pad data)
  | none => fill 64 (key ++ pad data)

-- Off the vectors a seed is its path and its own key.
def keyLibrary : KeyLibrary where
  argon2id _ path _ _ := some (fill 32 (((stretched.find? fun entry => asBytes entry.path = path).map Stretched.seed).getD path))
  verifyingKey seed := fill 32 (((stretched.find? fun entry => entry.seed = seed.val).map Stretched.key).getD seed.val)
  signBytes seed data :=
    signatureOf (fill 32 (((stretched.find? fun entry => entry.seed = seed.val).map Stretched.key).getD seed.val)).val data
  hash _ data := (fill 32 (((stretched.find? fun entry => asBytes entry.qb64 = data).map Stretched.digest).getD data)).val

def custodyScheme : Crypto :=
  { scheme with verifyBytes := fun _ key data sig => if sig = (signatureOf key data).val then .ok () else .error .invalid }

theorem key_library_signs : SignsFor keyLibrary custodyScheme := by
  intro seed data
  exact if_pos rfl

def salt : Array8 16 := fill 16 (asBytes "0123456789abcdef")

def custodian : SaltyCustodian := SaltyCustodian.new salt .low .keripy

-- The rotation of the vectors: the key committed to first, and two more committed to.
def rotated : KeyCommitment where
  verkeys := (stretched.filter fun entry => entry.path = "011").map fun entry => ⟨.ed25519, entry.key, ""⟩
  nextDigests :=
    (stretched.filter fun entry => entry.path = "022" ∨ entry.path = "023").map fun entry => ⟨.blake3_256, entry.digest, ""⟩

end Sample

theorem too_many_keys_unsigned :
    ∃ commitment final, exec (incept Sample.keyLibrary ⟨4097, 0, true⟩) Sample.custodian = (.ok commitment, final) ∧
      ∀ ser sigers, sign Sample.keyLibrary final ser none ≠ .ok sigers := by
  have derives : ∃ verkeys, deriveSet Sample.keyLibrary Sample.custodian 0 0 4097 .ed25519 = .ok verkeys := by
    simp only [deriveSet, map_m_exists, List.mem_range, bind_ok, map_error_ok]
    intro position inside
    have offset : u64TryFrom position = .ok ⟨position, by omega⟩ := dif_pos (by omega)
    have sum : checkedIndexAdd 0 ⟨position, by omega⟩ = .ok ⟨position, by omega⟩ := by
      have added := (checked_add_some (0 : U64) ⟨position, by omega⟩ ⟨position, by omega⟩).mpr (Nat.zero_add position).symm
      unfold checkedIndexAdd
      rw [added]
    obtain ⟨pair, paired⟩ : ∃ pair, pairAt Sample.keyLibrary Sample.custodian 0 0 position = .ok pair := by
      simp only [pairAt, offset, sum, ok_bind, map_error_ok]
      exact ⟨_, rfl⟩
    exact ⟨_, pair, paired, verfer_ed25519 pair .ed25519 (.inl rfl)⟩
  obtain ⟨verkeys, derived⟩ := derives
  have incepted : exec (incept Sample.keyLibrary ⟨4097, 0, true⟩) Sample.custodian =
      (.ok ⟨verkeys, []⟩, { Sample.custodian with count := 4097, ncount := 0, transferable := true, incepted := true }) := by
    simp only [incept, exec_get_bind, exec_check_bind_ok, exec_modify_bind, exec_pure, reject_if_ok, exists_done]
    exact ⟨by decide, by omega, by simp, verkeys, derived, (1, 4097), by decide, [], by rfl, [], by rfl, rfl⟩
  refine ⟨_, _, incepted, ?_⟩
  intro ser sigers signed
  have addressed := (incept_ok Sample.keyLibrary _ _ _ _ incepted).2
  have count := addressed_count Sample.keyLibrary _ _ addressed
  have few := (sign_every_key_iff Sample.keyLibrary _ _ addressed ser).mp ⟨sigers, signed⟩
  rw [count] at few
  exact absurd few (by decide)

theorem custody_chain_sample :
    let ran := transcript (custodyStep Sample.keyLibrary) Sample.custodian [.incept ⟨1, 1, true⟩, .persist, .rotate ⟨1, 2, true⟩]
    lastCommitment ran.2 = some Sample.rotated ∧
    (∀ spec commitment final, exec (rotate Sample.keyLibrary spec) ran.1 = (.ok commitment, final) →
      List.Forall₂ (DigestsTo Sample.keyLibrary) commitment.verkeys Sample.rotated.nextDigests) ∧
    (∀ call error final, exec (custodyStep Sample.keyLibrary call) ran.1 = (.error error, final) → final = ran.1) ∧
    ∀ ser sigers, sign Sample.keyLibrary ran.1 ser none = .ok sigers → sigers.length = Sample.rotated.verkeys.length ∧
      ∀ position siger, sigers[position]? = some siger → siger.index.val = position ∧
        ∃ verkey, Sample.rotated.verkeys[position]? = some verkey ∧ Verifies Sample.custodyScheme verkey ser siger := by
  intro ran
  have last : lastCommitment ran.2 = some Sample.rotated := by decide +kernel
  obtain ⟨chain, atomic, signs⟩ := custody_prerotation_chain Sample.keyLibrary Sample.custodyScheme Sample.key_library_signs
    Sample.salt .low .keripy [.incept ⟨1, 1, true⟩, .persist, .rotate ⟨1, 2, true⟩] ran.1 ran.2 rfl
  refine ⟨last, ?_, atomic, fun ser => (signs Sample.rotated ser last).2⟩
  intro spec commitment final done
  obtain ⟨previous, given, digests⟩ := chain spec commitment final done
  rw [last] at given
  rw [Option.some.inj given]
  exact digests

end Cesr.Keri
