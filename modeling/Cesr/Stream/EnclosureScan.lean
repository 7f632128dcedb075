import Cesr.Stream.Unwrap
import Cesr.Stream.BodyHead
import Cesr.Stream.CodecRun

set_option autoImplicit false

namespace Cesr.Stream

open Base64 Checks Calls Resume Faults

section Atoms

variable (limits : FrameLimits)

def atomSize (tail : Bytes) (cold : ColdCode) : Except ParseError Nat :=
  if cold = .cesrBase64 then skipMatter tail else JsonVersionHead.eventSize tail cold

-- An atom of which the last bytes are missing.
def AtomCut (tail : Bytes) : Prop :=
  ∃ first cold, tail.head? = some first ∧ ColdCode.detect first = .ok cold ∧ cold ≠ .cesrBinary ∧
    Waits NeedsBytes (atomSize tail cold)

theorem skip_body (first : UInt8) (rest : Bytes) (cold : ColdCode) (detected : ColdCode.detect first = .ok cold)
    (body : cold ≠ .cesrBase64 ∧ cold ≠ .cesrBinary) :
    limits.skipEnclosedAtom (first :: rest) =
      JsonVersionHead.eventSize (first :: rest) cold >>= fun size =>
        rejectIf (limits.maxBodyBytes < size) (.limitExceeded .bodyBytes limits.maxBodyBytes size) >>= fun _ =>
          rejectIf ((first :: rest).length < size) (.truncated (size - (first :: rest).length)) >>= fun _ => pure (size, 0) := by
  unfold FrameLimits.skipEnclosedAtom
  simp only [List.head?_cons, detected, ok_bind]
  cases cold with
  | cesrBase64 => exact absurd rfl body.1
  | cesrBinary => exact absurd rfl body.2
  | _ => rfl

theorem skip_primitive (first : UInt8) (rest : Bytes) (detected : ColdCode.detect first = .ok .cesrBase64) :
    limits.skipEnclosedAtom (first :: rest) =
      (MatterCode.fromBase64Stream (first :: rest)).mapError ParsingError.toParse >>= fun code =>
        skipMatter (first :: rest) >>= fun size => pure (size, if (SignatureCode.tryFrom code).isOk then 1 else 0) := by
  unfold FrameLimits.skipEnclosedAtom
  simp only [List.head?_cons, detected, ok_bind]

theorem skip_atom_ok (tail : Bytes) (atom : Nat × Nat) (skipped : limits.skipEnclosedAtom tail = .ok atom) :
    0 < atom.1 ∧ atom.1 ≤ tail.length := by
  cases tail with
  | nil => cases skipped
  | cons first rest =>
      cases detected : ColdCode.detect first with
      | error error =>
          simp only [FrameLimits.skipEnclosedAtom, List.head?_cons, detected] at skipped
          cases skipped
      | ok cold =>
          by_cases base64 : cold = .cesrBase64
          · rw [base64] at detected
            rw [skip_primitive limits first rest detected] at skipped
            simp only [bind_ok, pure_ok] at skipped
            obtain ⟨code, _, size, taken, same⟩ := skipped
            rw [← same]
            obtain ⟨sized, reach⟩ := (skip_matter_ok _ size).mp taken
            exact ⟨frame_size_pos _ size sized, reach⟩
          · by_cases binary : cold = .cesrBinary
            · simp only [FrameLimits.skipEnclosedAtom, List.head?_cons, detected, binary, ok_bind] at skipped
              cases skipped
            · rw [skip_body limits first rest cold detected ⟨base64, binary⟩] at skipped
              simp only [bind_ok, reject_if_ok, exists_done, pure_ok, Nat.not_lt] at skipped
              obtain ⟨size, declared, _, reach, same⟩ := skipped
              rw [← same]
              exact ⟨event_size_pos cold _ size (List.cons_ne_nil _ _) declared, reach⟩

end Atoms

section Turns

variable (limits : FrameLimits)

def EnclosureLevel.Cut (level : EnclosureLevel) : Prop :=
  level.cursor < level.bytes.length ∧ (level.bytes.drop level.cursor).head? ≠ some 0x2D ∧
    AtomCut (level.bytes.drop level.cursor)

def EnclosureLevel.left (level : EnclosureLevel) : Nat := level.bytes.length - level.cursor + 1

theorem scan_left_push (level : EnclosureLevel) (stack : List EnclosureLevel) (groups signatures : Nat) :
    (⟨level :: stack, groups, signatures⟩ : EnclosureScan).left =
      level.left + (⟨stack, groups, signatures⟩ : EnclosureScan).left := by
  simp only [EnclosureScan.left, EnclosureLevel.left, List.map_cons, List.sum_cons]

theorem enclosed_shorter (version : CesrVersion) (buf payload : Bytes) (sized : CesrGroup × Nat)
    (read : CesrGroup.sizedOf version buf = .ok sized) (encloses : sized.1.enclosed = some payload) :
    payload.length + 2 ≤ sized.2 := by
  simp only [CesrGroup.sizedOf, bind_ok, pure_ok] at read
  obtain ⟨head, shaped, framed, taken, same⟩ := read
  have large := read_shape_size version buf head shaped
  rw [← same] at encloses ⊢
  unfold payloadSized at taken
  cases shape : head.1 with
  | elements kind =>
      simp only [shape, bind_ok, pure_ok] at taken
      obtain ⟨offset, _, same'⟩ := taken
      rw [← same'] at encloses
      cases encloses
  | quadlets kind =>
      simp only [shape, bind_ok, pure_ok] at taken
      obtain ⟨offset, _, same'⟩ := taken
      rw [← same'] at encloses ⊢
      dsimp only [CesrGroup.enclosed] at encloses
      split_ifs at encloses
      have content := Option.some.inj encloses
      rw [← content, List.length_take]
      dsimp only
      omega
  | genusVersion =>
      simp only [shape] at taken
      cases taken

theorem sized_of_size (version : CesrVersion) (buf : Bytes) (sized : CesrGroup × Nat)
    (read : CesrGroup.sizedOf version buf = .ok sized) : 2 ≤ sized.2 := by
  simp only [CesrGroup.sizedOf, bind_ok, pure_ok] at read
  obtain ⟨head, shaped, framed, _, same⟩ := read
  have large := read_shape_size version buf head shaped
  rw [← same]
  show 2 ≤ head.2.1 + framed.2
  omega

theorem scan_turn_decreases (level : EnclosureLevel) (scan next : EnclosureScan)
    (turned : limits.scanTurn level scan = .ok next) : next.left < level.left + scan.left := by
  unfold FrameLimits.scanTurn at turned
  by_cases ended : level.cursor = level.bytes.length
  · rw [if_pos ended, Except.ok.injEq] at turned
    rw [← turned, EnclosureLevel.left]
    omega
  · rw [if_neg ended, bind_ok] at turned
    obtain ⟨_, within, turned⟩ := turned
    have inside : level.cursor < level.bytes.length := by
      have reach := (reject_if_ok _ _ _).mp within
      omega
    dsimp only at turned
    by_cases counter : (level.bytes.drop level.cursor).head? = some 0x2D
    · rw [if_neg (not_not_intro counter)] at turned
      simp only [FrameLimits.scanGroup, bind_ok, map_error_ok] at turned
      obtain ⟨nestedGroups, _, fresh, read, _, _, stop, ran, inner, enclosing, turned⟩ := turned
      have framed := group_framed (noLimit (level.bytes.drop level.cursor)) limits.maxGroupElements
        (limits.maxSignatures - scan.signatures) level.version (level.bytes.drop level.cursor) fresh read
      generalize exec (GroupFrameCursor.advanceLimited (noLimit (level.bytes.drop level.cursor)) limits.maxGroupElements
        (limits.maxSignatures - scan.signatures) (level.bytes.drop level.cursor)) fresh = answered at framed ran enclosing turned
      cases framed with
      | failed error other final read' given same =>
          rw [given] at ran
          cases ran
      | gave error final bites given reason =>
          rw [given] at ran
          cases ran
      | taken sized total final read' given reached =>
          rw [given] at ran enclosing turned
          have within' : sized.2 ≤ (level.bytes.drop level.cursor).length := (sized_of_reads level.version).within _ sized read'
          have large := sized_of_size level.version _ sized read'
          have stopped : stop = sized.2 := by
            rw [← Except.ok.inj ran, reached.size]
          have inner' : inner = sized.1.enclosed := by
            rw [reached.payload] at enclosing
            exact (Except.ok.inj enclosing).symm
          rw [List.length_drop] at within'
          cases encloses : sized.1.enclosed with
          | none =>
              rw [inner', encloses] at turned
              have same := Except.ok.inj turned
              rw [← same, scan_left_push, EnclosureLevel.left, EnclosureLevel.left]
              show _ + scan.left < _
              dsimp only
              omega
          | some payload =>
              have shorter := enclosed_shorter level.version _ payload sized read' encloses
              rw [inner', encloses] at turned
              simp only [FrameLimits.scanInner, bind_ok, pure_ok] at turned
              obtain ⟨_, _, selected, _, same⟩ := turned
              rw [← same, scan_left_push, scan_left_push, EnclosureLevel.left, EnclosureLevel.left, EnclosureLevel.left]
              show _ + (_ + scan.left) < _
              dsimp only
              omega
    · rw [if_pos counter] at turned
      simp only [FrameLimits.scanAtom, bind_ok, pure_ok] at turned
      obtain ⟨atom, skipped, _, _, same⟩ := turned
      obtain ⟨some', reach⟩ := skip_atom_ok limits _ atom skipped
      rw [List.length_drop] at reach
      rw [← same, scan_left_push, EnclosureLevel.left, EnclosureLevel.left]
      have rest : (⟨scan.stack, scan.nestedGroups, scan.signatures + atom.2⟩ : EnclosureScan).left = scan.left := rfl
      dsimp only
      omega

theorem scan_turns_nil (turns : Nat) (scan : EnclosureScan) (empty : scan.stack = []) : limits.scanTurns turns scan = .ok scan := by
  cases turns with
  | zero => rfl
  | succ turns => rw [FrameLimits.scanTurns, empty]

theorem scan_turns_cons (turns : Nat) (scan : EnclosureScan) (level : EnclosureLevel) (below : List EnclosureLevel)
    (top : scan.stack = level :: below) :
    limits.scanTurns (turns + 1) scan =
      limits.scanTurn level { scan with stack := below } >>= fun next => limits.scanTurns turns next := by
  rw [FrameLimits.scanTurns, top]

def enclosureStart (payload : Bytes) (selected : CesrVersion × Nat) (prior : Nat) : EnclosureScan :=
  ⟨[⟨payload, selected.2, 1, selected.1⟩], 0, prior⟩

def FrameLimits.CutInside (limits : FrameLimits) (payload : Bytes) (prior : Nat) (version : CesrVersion) : Prop :=
  limits.maxNestingDepth ≠ 0 ∧ ∃ selected, FrameLimits.enclosedVersion payload version = .ok selected ∧
    ∃ turns reached level below, limits.scanTurns turns (enclosureStart payload selected prior) = .ok reached ∧
      reached.stack = level :: below ∧ level.Cut

end Turns

end Cesr.Stream
