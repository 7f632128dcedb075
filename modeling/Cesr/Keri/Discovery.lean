import Cesr.Core.MatterCode
import Cesr.Keri.ReplyTime
import Cesr.Keri.Run

set_option autoImplicit false

namespace Cesr.Keri

open Checks

variable (crypto : Crypto)

abbrev Cigar := Matter SignatureCode

def Algorithm.signatureCode : Algorithm → SignatureCode
  | .ed25519 => .ed25519Sig
  | .secp256k1 => .ecdsa256k1Sig
  | .secp256r1 => .ecdsa256r1Sig

inductive CigarError where
  | signature (error : SignatureError)
  | incompatibleCodes (verkey : VerKeyCode) (signature : SignatureCode)
  | unsupportedAlgorithm (verkey : VerKeyCode)
deriving DecidableEq, Repr

def verifyCigarAs (algorithm : Algorithm) (verfer : Matter VerKeyCode) (data : Bytes) (sig : Cigar) : Except CigarError Unit :=
  if sig.code = Algorithm.signatureCode algorithm then
    (crypto.verifyBytes algorithm verfer.raw data sig.raw).mapError .signature
  else .error (.incompatibleCodes verfer.code sig.code)

-- The generic check of a signature, at a signature without an index.
def verifyCigar (verfer : Matter VerKeyCode) (data : Bytes) (sig : Cigar) : Except CigarError Unit :=
  match verfer.code with
  | .ed25519 | .ed25519N => verifyCigarAs crypto .ed25519 verfer data sig
  | .ecdsa256k1 | .ecdsa256k1N => verifyCigarAs crypto .secp256k1 verfer data sig
  | .ecdsa256r1 | .ecdsa256r1N => verifyCigarAs crypto .secp256r1 verfer data sig
  | .ed448 | .ed448N => .error (.unsupportedAlgorithm verfer.code)

inductive DiscoverySigner where
  | nontransferable (pfx : BasicPrefix) (signature : Cigar)
  | transferable (identifier : Identifier) (sn : Number) (said : Said) (signatures : List Siger)

structure DiscoveryReply where
  owner : Identifier
  body : Bytes
  datetime : String
  signer : DiscoverySigner

structure ReplyVersion where
  establishmentSn : U128
  utcNanos : Int
deriving DecidableEq, Repr

def DiscoverySigner.establishmentSn : DiscoverySigner → U128
  | .nontransferable _ _ => 0
  | .transferable _ sn _ _ => sn.value

def DiscoveryReply.authenticate (self : DiscoveryReply) (historical : Option KeyState) : Except DiscoveryError U128 :=
  match self.signer with
  | .nontransferable pfx signature => do
      rejectIf (self.owner ≠ .basic pfx) .wrongSigner
      (verifyCigar crypto pfx.matter self.body signature).mapError fun _ => .badSignature
      pure 0
  | .transferable identifier sn said signatures => do
      rejectIf (identifier ≠ self.owner) .wrongSigner
      match historical with
      | none => .error .missingSignerState
      | some state => do
          rejectIf (state.pfx ≠ identifier ∨ state.sn ≠ sn ∨ state.lastEst.sn ≠ sn ∨ state.lastEst.said ≠ said)
            .signerStateMismatch
          let _ ← (Authority.verify crypto ⟨state.keys, state.threshold⟩ self.body signatures).mapError fun _ => .badSignature
          pure sn.value

def ReplyVersion.Stale (old : ReplyVersion) (establishmentSn : U128) (utcNanos : Int) : Prop :=
  establishmentSn < old.establishmentSn ∨ (establishmentSn = old.establishmentSn ∧ utcNanos ≤ old.utcNanos)

instance (old : ReplyVersion) (establishmentSn : U128) (utcNanos : Int) : Decidable (old.Stale establishmentSn utcNanos) :=
  inferInstanceAs (Decidable (_ ∨ _))

def DiscoveryReply.judge (self : DiscoveryReply) (historical : Option KeyState) (previous : Option ReplyVersion) :
    Except DiscoveryError ReplyVersion := do
  let utcNanos ← parseReplyTime self.datetime
  let establishmentSn ← self.authenticate crypto historical
  rejectIf (∃ old ∈ previous, old.Stale establishmentSn utcNanos) .stale
  pure ⟨establishmentSn, utcNanos⟩

-- The order of versions: by the establishment, then by the instant.
def ReplyVersion.Before (old version : ReplyVersion) : Prop :=
  old.establishmentSn < version.establishmentSn ∨
    (old.establishmentSn = version.establishmentSn ∧ old.utcNanos < version.utcNanos)

theorem before_trans (first second third : ReplyVersion) (earlier : first.Before second) (later : second.Before third) :
    first.Before third := by
  unfold ReplyVersion.Before at *
  rcases earlier with less | same
  · rcases later with less' | same'
    · exact .inl (lt_trans less less')
    · exact .inl (same'.1 ▸ less)
  · rcases later with less' | same'
    · exact .inl (same.1.symm ▸ less')
    · exact .inr ⟨same.1.trans same'.1, lt_trans same.2 same'.2⟩

theorem not_stale (old version : ReplyVersion) : ¬ old.Stale version.establishmentSn version.utcNanos ↔ old.Before version := by
  unfold ReplyVersion.Stale ReplyVersion.Before
  rw [not_or, not_and, not_lt, not_le, le_iff_lt_or_eq]
  apply Iff.intro
  · intro passed
    obtain ⟨less | same, newer⟩ := passed
    · exact .inl less
    · exact .inr ⟨same, newer same.symm⟩
  · intro before
    rcases before with less | same
    · exact ⟨.inl less, fun other => absurd other (ne_of_gt less)⟩
    · exact ⟨.inr same.1, fun _ => same.2⟩

theorem authenticate_sn (self : DiscoveryReply) (historical : Option KeyState) (establishmentSn : U128)
    (passed : self.authenticate crypto historical = .ok establishmentSn) : establishmentSn = self.signer.establishmentSn := by
  unfold DiscoveryReply.authenticate at passed
  cases signer : self.signer with
  | nontransferable pfx signature =>
      simp only [signer, bind_ok, pure_ok] at passed
      obtain ⟨_, _, _, _, same⟩ := passed
      exact same.symm
  | transferable identifier sn said signatures =>
      cases historical with
      | none =>
          simp only [signer, bind_ok] at passed
          obtain ⟨_, _, impossible⟩ := passed
          cases impossible
      | some state =>
          simp only [signer, bind_ok, pure_ok] at passed
          obtain ⟨_, _, _, _, _, _, same⟩ := passed
          exact same.symm

theorem judge_ok (self : DiscoveryReply) (historical : Option KeyState) (previous : Option ReplyVersion) (version : ReplyVersion) :
    self.judge crypto historical previous = .ok version ↔
      parseReplyTime self.datetime = .ok version.utcNanos ∧ self.authenticate crypto historical = .ok version.establishmentSn ∧
        ∀ old ∈ previous, old.Before version := by
  simp only [DiscoveryReply.judge, bind_ok, exists_done, reject_if_ok, pure_ok, not_exists, not_and]
  apply Iff.intro
  · intro passed
    obtain ⟨utcNanos, parsed, establishmentSn, authentic, fresh, same⟩ := passed
    rw [← same]
    exact ⟨parsed, authentic, fun old member => (not_stale old ⟨establishmentSn, utcNanos⟩).mp (fresh old member)⟩
  · intro met
    obtain ⟨parsed, authentic, fresh⟩ := met
    exact ⟨_, parsed, _, authentic, fun old member => (not_stale old version).mpr (fresh old member), rfl⟩

-- The replies that a host accepts when it keeps the version of each as the next previous one.
def acceptedReplies (previous : Option ReplyVersion) :
    List (DiscoveryReply × Option KeyState) → List (DiscoveryReply × ReplyVersion)
  | [] => []
  | (reply, historical) :: rest =>
      match reply.judge crypto historical previous with
      | .ok version => (reply, version) :: acceptedReplies (some version) rest
      | .error _ => acceptedReplies previous rest

theorem accepted_replies_newer (previous : Option ReplyVersion) (offers : List (DiscoveryReply × Option KeyState)) :
    (∀ reply ∈ acceptedReplies crypto previous offers, ∀ old ∈ previous, old.Before reply.2) ∧
      (acceptedReplies crypto previous offers).Pairwise fun earlier later => earlier.2.Before later.2 := by
  induction offers generalizing previous with
  | nil => exact ⟨fun _ inside => absurd inside List.not_mem_nil, List.Pairwise.nil⟩
  | cons offer rest ih =>
      obtain ⟨reply, historical⟩ := offer
      unfold acceptedReplies
      cases judged : reply.judge crypto historical previous with
      | error error => exact ih previous
      | ok version =>
          have fresh := ((judge_ok crypto reply historical previous version).mp judged).2.2
          obtain ⟨beyond, ordered⟩ := ih (some version)
          have newer : ∀ later ∈ acceptedReplies crypto (some version) rest, version.Before later.2 :=
            fun later inside => beyond later inside version rfl
          refine ⟨?_, List.Pairwise.cons newer ordered⟩
          intro later inside old member
          rcases List.mem_cons.mp inside with here | there
          · rw [here]
            exact fresh old member
          · exact before_trans old version later.2 (fresh old member) (newer later there)

theorem accepted_replies_versions (previous : Option ReplyVersion) (offers : List (DiscoveryReply × Option KeyState)) :
    ∀ reply ∈ acceptedReplies crypto previous offers,
      reply.2.establishmentSn = reply.1.signer.establishmentSn ∧ parseReplyTime reply.1.datetime = .ok reply.2.utcNanos := by
  induction offers generalizing previous with
  | nil => exact fun _ inside => absurd inside List.not_mem_nil
  | cons offer rest ih =>
      obtain ⟨reply, historical⟩ := offer
      unfold acceptedReplies
      cases judged : reply.judge crypto historical previous with
      | error error => exact ih previous
      | ok version =>
          obtain ⟨parsed, authentic, _⟩ := (judge_ok crypto reply historical previous version).mp judged
          exact List.forall_mem_cons.mpr ⟨⟨authenticate_sn crypto reply historical _ authentic, parsed⟩, ih (some version)⟩

def Denotes (datetime : String) (stamp : Timestamp) : Prop := stamp.text = asBytes datetime

theorem reply_time_and_replay :
    (∀ (value : String) (nanos : Int),
      parseReplyTime value = .ok nanos ↔ ∃ stamp : Timestamp, Denotes value stamp ∧ stamp.nanos = nanos) ∧
    ∀ (previous : Option ReplyVersion) (offers : List (DiscoveryReply × Option KeyState)),
      (∀ reply ∈ acceptedReplies crypto previous offers,
        reply.2.establishmentSn = reply.1.signer.establishmentSn ∧
          (∃ stamp : Timestamp, Denotes reply.1.datetime stamp ∧ stamp.nanos = reply.2.utcNanos) ∧
          ∀ old ∈ previous, old.Before reply.2) ∧
      ((acceptedReplies crypto previous offers).Pairwise fun earlier later => earlier.2.Before later.2) ∧
      (acceptedReplies crypto previous offers).Pairwise fun earlier later =>
        earlier.1.signer.establishmentSn = later.1.signer.establishmentSn →
          ∀ stamp stamp' : Timestamp, Denotes earlier.1.datetime stamp → Denotes later.1.datetime stamp' →
            stamp.nanos ≠ stamp'.nanos := by
  refine ⟨parse_reply_time_ok, ?_⟩
  intro previous offers
  have versions := accepted_replies_versions crypto previous offers
  obtain ⟨newer, ordered⟩ := accepted_replies_newer crypto previous offers
  refine ⟨?_, ordered, ?_⟩
  · intro reply inside
    obtain ⟨establishment, parsed⟩ := versions reply inside
    exact ⟨establishment, (parse_reply_time_ok _ _).mp parsed, newer reply inside⟩
  · refine ordered.imp_of_mem ?_
    intro earlier later first second before sameSn stamp stamp' denotes denotes' sameInstant
    obtain ⟨establishment, parsed⟩ := versions earlier first
    obtain ⟨establishment', parsed'⟩ := versions later second
    have at' := (parse_reply_time_ok _ _).mpr ⟨stamp, denotes, rfl⟩
    have at'' := (parse_reply_time_ok _ _).mpr ⟨stamp', denotes', rfl⟩
    have instant : earlier.2.utcNanos = later.2.utcNanos := by
      rw [← Except.ok.inj (at'.symm.trans parsed), ← Except.ok.inj (at''.symm.trans parsed'), sameInstant]
    have level : earlier.2.establishmentSn = later.2.establishmentSn := by
      rw [establishment, establishment', sameSn]
    rcases before with less | same
    · exact absurd level (ne_of_lt less)
    · exact absurd instant (ne_of_lt same.2)

end Cesr.Keri
