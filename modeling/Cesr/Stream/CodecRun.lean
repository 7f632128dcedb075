import Cesr.Stream.Codec
import Cesr.Stream.GroupParse

set_option autoImplicit false

namespace Cesr.Stream

open Checks Calls Resume

section Decoding

variable (version : CesrVersion) (limits : FrameLimits)

theorem new_of_steady : Steady NeedsBytes (GroupFrameCursor.newOf version) := by
  unfold GroupFrameCursor.newOf
  apply steady_bind
  · exact (read_shape_reads version).steady
  · exact fun head => steady_const NeedsBytes _

theorem new_of_begun (maxBytes : Nat) (buf : Bytes) (cursor : GroupFrameCursor)
    (fresh : GroupFrameCursor.newOf version buf = .ok cursor) : GroupBegun maxBytes buf cursor := by
  obtain ⟨head, shaped, frame, formed, same⟩ := (new_of_ok version buf cursor).mp fresh
  have reach : head.2.1 ≤ buf.length := (read_shape_reads version).within buf head shaped
  rw [← same]
  cases shape : head.1 with
  | elements kind =>
      rw [shape] at formed
      cases formed
      refine ⟨fun _ => reach, ?_⟩
      intro nested inside
      cases grammar : kind.nestedSigGrammar with
      | none =>
          rw [GroupFrameCursor.elements, grammar] at inside
          cases inside
      | some grammar' =>
          rw [GroupFrameCursor.elements, grammar] at inside
          cases inside
          exact ⟨Nat.zero_le _, rfl, rfl⟩
  | quadlets kind =>
      rw [shape] at formed
      cases formed
      refine ⟨fun some => absurd rfl some, ?_⟩
      intro nested inside
      cases inside
  | genusVersion =>
      rw [shape] at formed
      cases formed

def CesrCodec.frame (cursor : GroupFrameCursor) (buf : Bytes) : Except ParseError Nat × GroupFrameCursor :=
  exec (GroupFrameCursor.advanceLimited limits.maxAttachmentBytes limits.maxGroupElements limits.maxSignatures buf) cursor

-- A kept cursor stands for the group at the head of the buffer.
structure Begun (fresh cursor : GroupFrameCursor) (buf : Bytes) : Prop where
  read : GroupFrameCursor.newOf version buf = .ok fresh
  allowed : limits.checkElements fresh = .ok ()
  begun : GroupBegun limits.maxAttachmentBytes buf cursor
  same : ∀ more, CesrCodec.frame limits cursor (buf ++ more) = CesrCodec.frame limits fresh (buf ++ more)

def CodecReady (codec : CesrCodec) : Prop :=
  ∀ cursor, codec.cursor = some cursor → ∃ fresh, Begun version limits fresh cursor codec.buf

theorem begun_fresh (fresh : GroupFrameCursor) (buf : Bytes) (read : GroupFrameCursor.newOf version buf = .ok fresh)
    (allowed : limits.checkElements fresh = .ok ()) : Begun version limits fresh fresh buf :=
  ⟨read, allowed, new_of_begun version limits.maxAttachmentBytes buf fresh read, fun _ => rfl⟩

theorem begun_longer (fresh cursor : GroupFrameCursor) (buf more : Bytes) (begun : Begun version limits fresh cursor buf) :
    Begun version limits fresh cursor (buf ++ more) := by
  apply Begun.mk
  · exact (new_of_steady version).settled buf more fresh begun.read
  · exact begun.allowed
  · exact group_begun_longer limits.maxAttachmentBytes buf more cursor begun.begun
  · intro later
    rw [List.append_assoc]
    exact begun.same (more ++ later)

theorem begun_waits (fresh cursor next : GroupFrameCursor) (buf : Bytes) (error : ParseError)
    (begun : Begun version limits fresh cursor buf) (given : CesrCodec.frame limits cursor buf = (.error error, next))
    (wait : NeedsBytes error) : Begun version limits fresh next buf := by
  have resumable := advance_limited_resumable limits.maxAttachmentBytes limits.maxGroupElements limits.maxSignatures
  apply Begun.mk
  · exact begun.read
  · exact begun.allowed
  · have fits := (resumable_short resumable buf [] cursor next error begun.begun given wait).2
    rwa [List.append_nil] at fits
  · intro more
    have again := (resumable_short resumable buf more cursor next error begun.begun given wait).1
    exact Eq.trans again (begun.same more)

-- Why a codec gives up on the group at the head of its buffer.
inductive Refused (buf : Bytes) (error : ParseError) : Prop where
  | limit (reason : LimitReached error)
  | malformed (other : ParseError) (read : CesrGroup.sizedOf version buf = .error other) (final : ¬NeedsBytes other)
  | enclosure (sized : CesrGroup × Nat) (payload : Bytes) (read : CesrGroup.sizedOf version buf = .ok sized)
      (enclosed : sized.1.enclosed = some payload)
      (scanned : limits.scanEnclosure payload sized.1.signatures version = .error error)

inductive Decoded (buf : Bytes) (answer : Except ParseError (Option CesrGroup) × CesrCodec) : Prop where
  | emitted (sized : CesrGroup × Nat) (read : CesrGroup.sizedOf version buf = .ok sized)
      (given : answer = (.ok (some sized.1), ⟨none, buf.drop sized.2⟩))
  | pending (final : CesrCodec) (given : answer = (.ok none, final)) (same : final.buf = buf)
      (ready : CodecReady version limits final)
      (short : buf = [] ∨ ∃ error, CesrGroup.sizedOf version buf = .error error ∧ NeedsBytes error)
  | refused (error : ParseError) (final : CesrCodec) (given : answer = (.error error, final))
      (reason : Refused version limits buf error)

theorem check_elements_error (fresh : GroupFrameCursor) (error : ParseError)
    (failed : limits.checkElements fresh = .error error) : LimitReached error := by
  unfold FrameLimits.checkElements at failed
  cases counted : fresh.elementCount with
  | none =>
      rw [counted] at failed
      cases failed
  | some declared =>
      rw [counted] at failed
      exact ⟨_, _, _, ((reject_if_error _ _ _).mp failed).2.symm⟩

-- What a codec does before it advances: it has a cursor for the group, it has to wait, or it gives up.
inductive CodecBegun (codec : CesrCodec) : Except ParseError (Option GroupFrameCursor) → Prop where
  | group (fresh cursor : GroupFrameCursor) (begun : Begun version limits fresh cursor codec.buf) :
      CodecBegun codec (.ok (some cursor))
  | waiting (error : ParseError) (read : CesrGroup.sizedOf version codec.buf = .error error) (short : NeedsBytes error) :
      CodecBegun codec (.ok none)
  | refused (error : ParseError) (reason : Refused version limits codec.buf error) : CodecBegun codec (.error error)

theorem codec_begin (codec : CesrCodec) (ready : CodecReady version limits codec) :
    CodecBegun version limits codec (codec.begin version limits) := by
  unfold CesrCodec.begin
  cases kept : codec.cursor with
  | some cursor =>
      obtain ⟨fresh, begun⟩ := ready cursor kept
      exact .group fresh cursor begun
  | none =>
      dsimp only
      cases read : GroupFrameCursor.newOf version codec.buf with
      | ok fresh =>
          dsimp only
          cases allowed : limits.checkElements fresh with
          | ok done => exact .group fresh fresh (begun_fresh version limits fresh codec.buf read allowed)
          | error error => exact .refused error (.limit (check_elements_error limits fresh error allowed))
      | error error =>
          have parsed := new_of_error version codec.buf error read
          cases short : error with
          | needBytes missing =>
              dsimp only
              rw [short] at parsed
              cases pending : limits.checkPendingAttachment 0 codec.buf.length missing with
              | ok done => exact .waiting _ parsed (needs_bytes missing)
              | error other =>
                  have reason := ((reject_if_error _ _ _).mp pending).2
                  exact .refused other (.limit ⟨_, _, _, reason.symm⟩)
          | _ =>
              refine .refused _ (.malformed error parsed ?_)
              rw [short]
              intro impossible
              obtain ⟨_, same⟩ := impossible
              cases same

theorem exec_finish (codec : CesrCodec) (cursor : GroupFrameCursor) (sized : CesrGroup × Nat)
    (read : CesrGroup.sizedOf version codec.buf = .ok sized) (payload : cursor.enclosingPayload codec.buf = .ok sized.1.enclosed)
    (signatures : cursor.signatureTotal = sized.1.signatures) :
    Decoded version limits codec.buf (exec (CesrCodec.finish version limits cursor sized.2) codec) := by
  unfold CesrCodec.finish
  rw [exec_get_bind, exec_bind, exec_check, payload]
  dsimp only
  have rest : ∀ state : CesrCodec, exec (modify (fun codec : CesrCodec => ⟨none, codec.buf.drop sized.2⟩) >>= fun _ =>
      check (CesrGroup.parseOf version (codec.buf.take sized.2)) >>= fun parsed =>
        (pure (some parsed.1) : Mutator CesrCodec ParseError (Option CesrGroup))) state =
      (.ok (some sized.1), ⟨none, state.buf.drop sized.2⟩) := by
    intro state
    rw [exec_modify_bind, exec_bind, exec_check, parse_of_frame version codec.buf sized.1 sized.2 read]
    rfl
  cases enclosed : sized.1.enclosed with
  | none => exact .emitted sized read (rest codec)
  | some payload =>
      dsimp only
      cases scanned : limits.scanEnclosure payload cursor.signatureTotal version with
      | ok signatures =>
          rw [exec_bind, exec_check]
          exact .emitted sized read (rest codec)
      | error error =>
          rw [signatures] at scanned
          rw [exec_bind, exec_check]
          exact .refused error codec rfl (.enclosure sized payload read enclosed scanned)

theorem decoded (codec : CesrCodec) (ready : CodecReady version limits codec) :
    Decoded version limits codec.buf (exec (CesrCodec.decode version limits) codec) := by
  unfold CesrCodec.decode
  rw [exec_get_bind]
  by_cases empty : codec.buf = []
  · rw [if_pos empty]
    exact .pending codec rfl rfl ready (.inl empty)
  · rw [if_neg empty, exec_bind, exec_check]
    have begins := codec_begin version limits codec ready
    cases begun : codec.begin version limits with
    | error error =>
        rw [begun] at begins
        cases begins with
        | refused _ reason => exact .refused error codec rfl reason
    | ok cursor =>
        rw [begun] at begins
        dsimp only
        rw [exec_modify_bind]
        cases begins with
        | waiting error read short =>
            refine .pending ⟨none, codec.buf⟩ rfl rfl ?_ (.inr ⟨error, read, short⟩)
            intro cursor kept
            cases kept
        | group fresh cursor begun' =>
            dsimp only
            rw [exec_modify_bind]
            have same := begun'.same []
            rw [List.append_nil] at same
            have framed := group_framed limits.maxAttachmentBytes limits.maxGroupElements limits.maxSignatures version codec.buf
              fresh begun'.read
            have waits := begun_waits version limits fresh cursor
            unfold CesrCodec.frame at same waits
            rw [← same] at framed
            generalize ran : exec (GroupFrameCursor.advanceLimited limits.maxAttachmentBytes limits.maxGroupElements
              limits.maxSignatures codec.buf) cursor = answered at framed ⊢
            cases framed with
            | taken sized total final read given reached =>
                rw [given, reached.size]
                exact exec_finish version limits ⟨some final, codec.buf⟩ final sized read reached.payload reached.signatures
            | gave error final bites given reason =>
                obtain ⟨kind, limit, actual, named⟩ := reason
                rw [given, named]
                exact .refused _ _ rfl (.limit ⟨kind, limit, actual, rfl⟩)
            | failed error other final read given shortage =>
                rw [given] at ran ⊢
                cases error with
                | needBytes missing =>
                    have short := needs_bytes missing
                    refine .pending ⟨some final, codec.buf⟩ rfl rfl ?_ (.inr ⟨other, read, shortage.mp short⟩)
                    intro kept same'
                    cases same'
                    exact ⟨fresh, waits final codec.buf _ begun' ran short⟩
                | _ =>
                    refine .refused _ _ rfl (.malformed other read ?_)
                    intro short
                    obtain ⟨_, impossible⟩ := shortage.mpr short
                    cases impossible

end Decoding

section Runs

-- The bytes arrive in pieces, and the codec is asked for a group at any time.
inductive CodecCall where
  | receive (piece : Bytes)
  | decode
deriving DecidableEq, Repr

structure CodecRun where
  codec : CesrCodec
  received : Bytes
  groups : List CesrGroup
deriving DecidableEq, Repr

def CodecRun.start : CodecRun := ⟨CesrCodec.new, [], []⟩

-- A run ends with its first error.
def CodecRun.step (version : CesrVersion) (limits : FrameLimits) (run : CodecRun) : CodecCall → Except ParseError CodecRun
  | .receive piece => .ok ⟨run.codec.receive piece, run.received ++ piece, run.groups⟩
  | .decode => do
      let found ← outcome (CesrCodec.decode version limits) run.codec
      pure ⟨after (CesrCodec.decode version limits) run.codec, run.received, run.groups ++ found.toList⟩

def Groups.items (version : CesrVersion) : Nat → Groups → List (Except ParseError CesrGroup) × Groups
  | 0, groups => ([], groups)
  | count + 1, groups =>
      match groups.next version with
      | (none, final) => ([], final)
      | (some item, next) =>
          let later := Groups.items version count next
          (item :: later.1, later.2)

variable (version : CesrVersion)

theorem sized_of_pos (buf : Bytes) (sized : CesrGroup × Nat) (read : CesrGroup.sizedOf version buf = .ok sized) : 0 < buf.length := by
  cases buf with
  | cons first rest => exact Nat.succ_pos _
  | nil =>
      cases version with
      | v1 => cases read
      | v2 => cases read

inductive GroupsAt (version : CesrVersion) : Bytes → List CesrGroup → Bytes → Prop where
  | nil (buf : Bytes) : GroupsAt version buf [] buf
  | cons (buf rest : Bytes) (group : CesrGroup) (size : Nat) (groups : List CesrGroup)
      (read : CesrGroup.sizedOf version buf = .ok (group, size)) (later : GroupsAt version (buf.drop size) groups rest) :
      GroupsAt version buf (group :: groups) rest

theorem groups_at_longer (buf rest more : Bytes) (groups : List CesrGroup) (parsed : GroupsAt version buf groups rest) :
    GroupsAt version (buf ++ more) groups (rest ++ more) := by
  induction parsed with
  | nil buf => exact .nil (buf ++ more)
  | cons buf rest group size groups read later ih =>
      have reads := sized_of_reads version
      refine .cons _ _ group size groups (reads.steady.settled buf more _ read) ?_
      rw [List.drop_append_of_le_length (reads.within buf _ read)]
      exact ih

theorem groups_at_snoc (buf rest : Bytes) (groups : List CesrGroup) (group : CesrGroup) (size : Nat)
    (parsed : GroupsAt version buf groups rest) (read : CesrGroup.sizedOf version rest = .ok (group, size)) :
    GroupsAt version buf (groups ++ [group]) (rest.drop size) := by
  induction parsed with
  | nil buf => exact .cons buf _ group size [] read (.nil _)
  | cons buf rest first size' groups read' later ih => exact .cons buf _ first size' _ read' (ih read)

def codecLimits : FrameLimits where
  maxBodyBytes := 65536
  maxAttachmentBytes := 65536
  maxAttachmentGroups := 64
  maxGroupElements := 64
  maxSignatures := 64
  maxNestedGroups := 64
  maxNestingDepth := 8

end Runs

end Cesr.Stream
