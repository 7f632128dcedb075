import Cesr.Stream.Framer
import Cesr.Stream.BodyHead
import Cesr.Stream.CodecRun

set_option autoImplicit false

namespace Cesr.Stream

open Checks Calls Resume Loops

section Answers

variable (limits : FrameLimits) (endOfInput : Bool)

def EventProgress.allowance (progress : EventProgress) : FrameLimits :=
  { limits with
    maxAttachmentBytes := limits.maxAttachmentBytes - (progress.cursor - progress.bodyLen)
    maxSignatures := limits.maxSignatures - progress.signatures }

def EventProgress.tally (progress : EventProgress) (group : GroupFrameCursor) (tail : Bytes) : Except ParseError Nat := do
  let nested ← limits.scanPayload group tail (saturatingAdd progress.signatures group.signatureTotal)
  let signatures := progress.signatures + group.signatureTotal + nested
  rejectIf (usizeMax < signatures) (.limitExceeded .signatures limits.maxSignatures usizeMax)
  pure signatures

def EventProgress.passing (progress : EventProgress) (group : GroupFrameCursor) (stop : Nat) :
    Except ParseError Nat → Except ParseError (Option (Option FrameSpan)) × EventProgress
  | .error error => (.error error, progress.keepGroup group)
  | .ok signatures =>
      let passed := progress.passGroup stop signatures
      (.ok (if group.attachmentEnvelope then some (some passed.span) else none), passed)

def EventProgress.stopped : ParseError → Except ParseError (Option (Option FrameSpan))
  | .needBytes missing => if endOfInput then .error (.truncated missing) else .ok (some none)
  | other => .error other

def EventProgress.framed (progress : EventProgress) (tail : Bytes) :
    Except ParseError Nat × GroupFrameCursor → Except ParseError (Option (Option FrameSpan)) × EventProgress
  | (.ok stop, group) => progress.passing group stop (progress.tally limits group tail)
  | (.error error, group) =>
      (EventProgress.stopped endOfInput (messageError limits.maxSignatures progress.signatures error), progress.keepGroup group)

def EventProgress.beginning (progress : EventProgress) (input : Bytes) : Except ParseError (Option GroupFrameCursor) := do
  rejectIf (limits.maxAttachmentGroups ≤ progress.groups)
    (.limitExceeded .attachmentGroups limits.maxAttachmentGroups (progress.groups + 1))
  rejectIf (input.length < progress.cursor) (.truncated (progress.cursor - input.length))
  limits.startGroup (progress.cursor - progress.bodyLen) (input.drop progress.cursor) endOfInput

def EventProgress.begun (progress : EventProgress) :
    Except ParseError (Option GroupFrameCursor) → Except ParseError (Option (Option FrameSpan)) × EventProgress
  | .error error => (.error error, progress)
  | .ok none => (.ok (some none), progress)
  | .ok (some group) => (.ok none, progress.keepGroup group)

def EventProgress.between (progress : EventProgress) (input : Bytes) :
    Except ParseError ColdCode → Except ParseError (Option (Option FrameSpan)) × EventProgress
  | .error error => (.error error, progress)
  | .ok .cesrBase64 => progress.begun (progress.beginning limits endOfInput input)
  | .ok .cesrBinary => (.error (.unsupportedColdStart .cesrBinary), progress)
  | .ok _ => (.ok (some (some progress.span)), progress)

def EventProgress.idle (progress : EventProgress) (input : Bytes) :
    Option UInt8 → Except ParseError (Option (Option FrameSpan)) × EventProgress
  | none => (.ok (some (if endOfInput then some progress.span else none)), progress)
  | some next => progress.between limits endOfInput input (ColdCode.detect next)

def EventProgress.finished (progress : EventProgress) (group : GroupFrameCursor) (stop : Nat) :
    Except ParseError Nat → Except ParseError (Option Bool) × EventProgress
  | .error error => (.error error, progress.keepGroup group)
  | .ok signatures => (.ok (some group.attachmentEnvelope), progress.passGroup stop signatures)

@[simp] theorem keep_group_cursor (progress : EventProgress) (group : GroupFrameCursor) :
    (progress.keepGroup group).cursor = progress.cursor := rfl

@[simp] theorem keep_group_signatures (progress : EventProgress) (group : GroupFrameCursor) :
    (progress.keepGroup group).signatures = progress.signatures := rfl

theorem exec_finish_group (input : Bytes) (progress : EventProgress) (group : GroupFrameCursor) (stop : Nat) :
    exec (EventProgress.finishGroup limits input group stop) (progress.keepGroup group) =
      progress.finished group stop (progress.tally limits group (input.drop progress.cursor)) := by
  unfold EventProgress.finishGroup EventProgress.tally
  rw [exec_get_bind, exec_bind, exec_check, keep_group_cursor, keep_group_signatures]
  cases limits.scanPayload group (input.drop progress.cursor) (saturatingAdd progress.signatures group.signatureTotal) with
  | error error => rfl
  | ok nested =>
      dsimp only
      rw [ok_bind, exec_bind, exec_check]
      by_cases large : usizeMax < progress.signatures + group.signatureTotal + nested
      · rw [rejectIf, if_pos large]
        rfl
      · rw [rejectIf, if_neg large]
        rfl

theorem exec_turn_group (input : Bytes) (progress : EventProgress) (group : GroupFrameCursor)
    (inside : progress.group = some group) :
    exec (EventProgress.turn limits endOfInput input) progress =
      if limits.maxAttachmentBytes < progress.cursor - progress.bodyLen then
        (.error (.limitExceeded .attachmentBytes limits.maxAttachmentBytes (progress.cursor - progress.bodyLen)), progress)
      else
        progress.framed limits endOfInput (input.drop progress.cursor)
          (CesrCodec.frame (progress.allowance limits) group (input.drop progress.cursor)) := by
  have some' : progress.group.isSome = true := by rw [inside]; rfl
  unfold EventProgress.turn EventProgress.advanceGroup
  rw [exec_get_bind, if_pos some', exec_bind, exec_get_bind]
  simp only [inside]
  rw [exec_bind, exec_check]
  by_cases spent : limits.maxAttachmentBytes < progress.cursor - progress.bodyLen
  · rw [rejectIf, if_pos spent, if_pos spent]
  · rw [rejectIf, if_neg spent, if_neg spent]
    dsimp only
    rw [exec_modify_bind]
    unfold CesrCodec.frame EventProgress.allowance
    dsimp only
    generalize exec (GroupFrameCursor.advanceLimited (limits.maxAttachmentBytes - (progress.cursor - progress.bodyLen))
      limits.maxGroupElements (limits.maxSignatures - progress.signatures) (input.drop progress.cursor)) group = ran
    obtain ⟨answer, final⟩ := ran
    cases answer with
    | ok stop =>
        dsimp only [EventProgress.framed]
        rw [exec_finish_group]
        cases progress.tally limits final (input.drop progress.cursor) with
        | error error => rfl
        | ok signatures =>
            dsimp only [EventProgress.passing, EventProgress.finished]
            rw [exec_get_bind]
            cases final.attachmentEnvelope <;> rfl
    | error error =>
        dsimp only [EventProgress.framed]
        rw [exec_check]
        cases messageError limits.maxSignatures progress.signatures error with
        | needBytes missing => cases endOfInput <;> rfl
        | _ => rfl

theorem exec_begin_group (input : Bytes) (progress : EventProgress) :
    exec (EventProgress.beginGroup limits input endOfInput >>= fun begun =>
        (pure (if begun then none else some none) : Mutator EventProgress ParseError (Option (Option FrameSpan)))) progress =
      progress.begun (progress.beginning limits endOfInput input) := by
  unfold EventProgress.beginGroup EventProgress.beginning
  rw [exec_bind, exec_get_bind, exec_bind, exec_check]
  by_cases many : limits.maxAttachmentGroups ≤ progress.groups
  · rw [rejectIf, if_pos many]
    rfl
  · rw [rejectIf, if_neg many, ok_bind]
    dsimp only
    rw [exec_bind, exec_check]
    by_cases few : input.length < progress.cursor
    · rw [rejectIf, if_pos few]
      rfl
    · rw [rejectIf, if_neg few, ok_bind]
      dsimp only
      rw [exec_bind, exec_check]
      cases limits.startGroup (progress.cursor - progress.bodyLen) (input.drop progress.cursor) endOfInput with
      | error error => rfl
      | ok started => cases started <;> rfl

theorem exec_turn_idle (input : Bytes) (progress : EventProgress) (between : progress.group = none) :
    exec (EventProgress.turn limits endOfInput input) progress =
      progress.idle limits endOfInput input input[progress.cursor]? := by
  have none' : ¬progress.group.isSome = true := by
    rw [between]
    exact Bool.false_ne_true
  unfold EventProgress.turn
  rw [exec_get_bind, if_neg none']
  cases input[progress.cursor]? with
  | none => rfl
  | some next =>
      dsimp only [EventProgress.idle]
      rw [exec_bind, exec_check]
      cases ColdCode.detect next with
      | error error => rfl
      | ok cold =>
          cases cold with
          | cesrBase64 => exact exec_begin_group limits endOfInput input progress
          | _ => rfl

-- What a turn has done when the loop goes on.
inductive GoesOn (input : Bytes) (progress next : EventProgress) : Prop where
  | passed (group final : GroupFrameCursor) (stop signatures : Nat) (inside : progress.group = some group)
      (room : progress.cursor - progress.bodyLen ≤ limits.maxAttachmentBytes)
      (framed : CesrCodec.frame (progress.allowance limits) group (input.drop progress.cursor) = (.ok stop, final))
      (tallied : progress.tally limits final (input.drop progress.cursor) = .ok signatures)
      (open' : final.attachmentEnvelope = false) (moved : next = progress.passGroup stop signatures)
  | begun (byte : UInt8) (group : GroupFrameCursor) (between : progress.group = none)
      (here : input[progress.cursor]? = some byte) (cold : ColdCode.detect byte = .ok .cesrBase64)
      (started : progress.beginning limits endOfInput input = .ok (some group)) (moved : next = progress.keepGroup group)

theorem turn_goes_on (input : Bytes) (progress next : EventProgress)
    (goes : exec (EventProgress.turn limits endOfInput input) progress = (.ok none, next)) :
    GoesOn limits endOfInput input progress next := by
  cases inside : progress.group with
  | some group =>
      rw [exec_turn_group limits endOfInput input progress group inside] at goes
      by_cases spent : limits.maxAttachmentBytes < progress.cursor - progress.bodyLen
      · rw [if_pos spent] at goes
        cases goes
      · rw [if_neg spent] at goes
        generalize framed : CesrCodec.frame (progress.allowance limits) group (input.drop progress.cursor) = ran at goes
        obtain ⟨answer, final⟩ := ran
        cases answer with
        | error error =>
            dsimp only [EventProgress.framed] at goes
            cases stopped : messageError limits.maxSignatures progress.signatures error with
            | needBytes missing =>
                rw [stopped] at goes
                cases endOfInput <;> cases goes
            | _ =>
                rw [stopped] at goes
                cases goes
        | ok stop =>
            dsimp only [EventProgress.framed] at goes
            cases tallied : progress.tally limits final (input.drop progress.cursor) with
            | error error =>
                rw [tallied] at goes
                cases goes
            | ok signatures =>
                rw [tallied] at goes
                dsimp only [EventProgress.passing] at goes
                cases envelope : final.attachmentEnvelope with
                | true =>
                    rw [envelope] at goes
                    cases goes
                | false =>
                    rw [envelope] at goes
                    exact .passed group final stop signatures inside (Nat.le_of_not_lt spent) framed tallied envelope
                      (Prod.mk.inj goes).2.symm
  | none =>
      rw [exec_turn_idle limits endOfInput input progress inside] at goes
      cases here : input[progress.cursor]? with
      | none =>
          rw [here] at goes
          cases goes
      | some byte =>
          rw [here] at goes
          dsimp only [EventProgress.idle] at goes
          cases cold : ColdCode.detect byte with
          | error error =>
              rw [cold] at goes
              cases goes
          | ok code =>
              rw [cold] at goes
              cases code with
              | cesrBase64 =>
                  dsimp only [EventProgress.between] at goes
                  cases started : progress.beginning limits endOfInput input with
                  | error error =>
                      rw [started] at goes
                      cases goes
                  | ok begun =>
                      rw [started] at goes
                      cases begun with
                      | none => cases goes
                      | some group => exact .begun byte group inside here cold started (Prod.mk.inj goes).2.symm
              | _ => cases goes

theorem start_group_some (used : Nat) (tail : Bytes) (group : GroupFrameCursor) :
    limits.startGroup used tail endOfInput = .ok (some group) ↔
      GroupFrameCursor.newV1 tail = .ok group ∧ limits.checkElements group = .ok () := by
  unfold FrameLimits.startGroup
  cases read : GroupFrameCursor.newV1 tail with
  | ok fresh =>
      dsimp only
      rw [Except.ok.injEq, bind_ok, exists_done, pure_ok, Option.some.injEq]
      apply Iff.intro
      · intro found
        rw [← found.2]
        exact ⟨rfl, found.1⟩
      · intro found
        rw [found.1]
        exact ⟨found.2, rfl⟩
  | error error =>
      cases error with
      | needBytes missing => cases endOfInput <;> simp [pendingAt]
      | _ => simp

theorem beginning_some (input : Bytes) (progress : EventProgress) (group : GroupFrameCursor) :
    progress.beginning limits endOfInput input = .ok (some group) ↔
      progress.groups < limits.maxAttachmentGroups ∧ progress.cursor ≤ input.length ∧
        GroupFrameCursor.newV1 (input.drop progress.cursor) = .ok group ∧ limits.checkElements group = .ok () := by
  simp only [EventProgress.beginning, bind_ok, reject_if_ok, exists_done, start_group_some, Nat.not_le, Nat.not_lt]

theorem turn_decreases (input : Bytes) :
    Decreases (EventProgress.turnsLeft limits) (EventProgress.turn limits endOfInput input) := by
  intro progress next goes
  cases turn_goes_on limits endOfInput input progress next goes with
  | passed group final stop signatures inside room framed tallied open' moved =>
      have some' : progress.group.isSome = true := by rw [inside]; rfl
      rw [moved, EventProgress.turnsLeft, EventProgress.turnsLeft, if_pos some']
      exact Nat.lt_succ_self _
  | begun byte group between here cold started moved =>
      have none' : ¬progress.group.isSome = true := by
        rw [between]
        exact Bool.false_ne_true
      have fewer := ((beginning_some limits endOfInput input progress group).mp started).1
      rw [moved, EventProgress.turnsLeft, EventProgress.turnsLeft, if_neg none', EventProgress.keepGroup]
      dsimp only [Option.isSome]
      rw [if_pos rfl]
      omega

end Answers

section Walk

def CesrGroup.Closes (group : CesrGroup) : Prop := ∃ payload, group = .frame .attachment payload .v1

theorem attachment_envelope (buf : Bytes) (fresh : GroupFrameCursor) (sized : CesrGroup × Nat)
    (read : GroupFrameCursor.newV1 buf = .ok fresh) (parsed : CesrGroup.sizedOf .v1 buf = .ok sized) :
    fresh.attachmentEnvelope = true ↔ sized.1.Closes := by
  obtain ⟨head, shaped, frame, formed, same⟩ := (new_of_ok .v1 buf fresh).mp read
  rw [CesrGroup.sizedOf, shaped, ok_bind] at parsed
  rw [← same]
  cases shape : head.1 with
  | elements kind =>
      simp only [payloadSized, shape, bind_ok, pure_ok] at parsed
      obtain ⟨_, ⟨_, _, same'⟩, same''⟩ := parsed
      rw [← same'', ← same']
      simp [CesrGroup.Closes]
  | quadlets kind =>
      simp only [payloadSized, shape, bind_ok, pure_ok] at parsed
      obtain ⟨_, ⟨_, _, same'⟩, same''⟩ := parsed
      rw [← same'', ← same']
      simp [CesrGroup.Closes]
  | genusVersion =>
      rw [shape] at formed
      cases formed

-- The bytes between the body and the cursor are the groups that were passed,
-- none of which ends the message.
structure EventWalk (limits : FrameLimits) (input : Bytes) (progress : EventProgress) : Prop where
  body : progress.bodyLen ≤ progress.cursor
  within : progress.cursor ≤ input.length
  passed : ∃ groups, GroupsAt .v1 (input.drop progress.bodyLen) groups (input.drop progress.cursor) ∧
    ∀ group ∈ groups, ¬group.Closes
  begun : ∀ group, progress.group = some group →
    ∃ fresh, Begun .v1 (progress.allowance limits) fresh group (input.drop progress.cursor)

variable (limits : FrameLimits)

theorem framed_group (progress : EventProgress) (input : Bytes) (group final : GroupFrameCursor) (stop : Nat)
    (walk : EventWalk limits input progress) (inside : progress.group = some group)
    (framed : CesrCodec.frame (progress.allowance limits) group (input.drop progress.cursor) = (.ok stop, final)) :
    ∃ sized, CesrGroup.sizedOf .v1 (input.drop progress.cursor) = .ok sized ∧ stop = sized.2 ∧
      stop ≤ (input.drop progress.cursor).length ∧ final.endOffset = stop ∧ final.signatureTotal = sized.1.signatures ∧
      final.enclosingPayload (input.drop progress.cursor) = .ok sized.1.enclosed ∧
      (final.attachmentEnvelope = true ↔ sized.1.Closes) := by
  obtain ⟨fresh, begun⟩ := walk.begun group inside
  have same := begun.same []
  rw [List.append_nil, framed] at same
  have follows := group_framed (progress.allowance limits).maxAttachmentBytes (progress.allowance limits).maxGroupElements
    (progress.allowance limits).maxSignatures .v1 (input.drop progress.cursor) fresh begun.read
  unfold CesrCodec.frame at same
  rw [← same] at follows
  cases follows with
  | taken sized result final' read given reached =>
      cases given
      have envelope := attachment_envelope _ fresh sized begun.read read
      have kept : final.attachmentEnvelope = fresh.attachmentEnvelope := congrArg (fun fields => fields.2.2.2.1) reached.declared
      refine ⟨sized, read, reached.size, ?_, reached.stop, reached.signatures, reached.payload, by rw [kept]; exact envelope⟩
      rw [reached.size]
      exact (sized_of_reads .v1).within _ sized read
  | failed error other final' read given same' => cases given
  | gave error final' bites given reason => cases given

theorem event_walk_body (input : Bytes) (bodyLen : Nat) (arrived : bodyLen ≤ input.length) :
    EventWalk limits input (EventProgress.ofBody bodyLen) := by
  apply EventWalk.mk
  · exact Nat.le_refl _
  · exact arrived
  · exact ⟨[], .nil _, by simp⟩
  · intro group inside
    cases inside

theorem event_walk_longer (input more : Bytes) (progress : EventProgress) (walk : EventWalk limits input progress) :
    EventWalk limits (input ++ more) progress := by
  have body : (input ++ more).drop progress.bodyLen = input.drop progress.bodyLen ++ more :=
    List.drop_append_of_le_length (Nat.le_trans walk.body walk.within)
  have cursor : (input ++ more).drop progress.cursor = input.drop progress.cursor ++ more :=
    List.drop_append_of_le_length walk.within
  apply EventWalk.mk
  · exact walk.body
  · rw [List.length_append]
    exact Nat.le_trans walk.within (Nat.le_add_right _ _)
  · obtain ⟨groups, parsed, none'⟩ := walk.passed
    rw [body, cursor]
    exact ⟨groups, groups_at_longer .v1 _ _ more groups parsed, none'⟩
  · intro group inside
    obtain ⟨fresh, begun⟩ := walk.begun group inside
    rw [cursor]
    exact ⟨fresh, begun_longer .v1 _ fresh group _ more begun⟩

theorem event_walk_turn (endOfInput : Bool) (input : Bytes) (progress next : EventProgress)
    (walk : EventWalk limits input progress)
    (goes : exec (EventProgress.turn limits endOfInput input) progress = (.ok none, next)) : EventWalk limits input next := by
  cases turn_goes_on limits endOfInput input progress next goes with
  | passed group final stop signatures inside room framed tallied open' moved =>
      obtain ⟨sized, read, same, reach, _, _, _, closes⟩ := framed_group limits progress input group final stop walk inside framed
      have within := walk.within
      rw [List.length_drop] at reach
      rw [moved]
      apply EventWalk.mk
      · exact Nat.le_trans walk.body (Nat.le_add_right _ _)
      · show progress.cursor + stop ≤ input.length
        omega
      · obtain ⟨groups, parsed, none'⟩ := walk.passed
        refine ⟨groups ++ [sized.1], ?_, ?_⟩
        · have longer := groups_at_snoc .v1 _ _ groups sized.1 sized.2 parsed read
          rw [List.drop_drop, ← same] at longer
          exact longer
        · intro other member
          rw [List.mem_append, List.mem_singleton] at member
          rcases member with earlier | last
          · exact none' other earlier
          · rw [last, ← closes, open']
            exact Bool.false_ne_true
      · intro other inside'
        cases inside'
  | begun byte group between here cold started moved =>
      obtain ⟨_, within, read, allowed⟩ := (beginning_some limits endOfInput input progress group).mp started
      rw [moved]
      apply EventWalk.mk
      · exact walk.body
      · exact within
      · exact walk.passed
      · intro other inside
        cases inside
        exact ⟨group, begun_fresh .v1 _ group _ read allowed⟩

end Walk

end Cesr.Stream
