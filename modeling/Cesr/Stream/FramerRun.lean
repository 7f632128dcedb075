import Cesr.Stream.FramerTurn

set_option autoImplicit false

namespace Cesr.Stream

open Checks Calls Resume Loops

section Groups

variable (limits : FrameLimits)

theorem new_of_large (buf : Bytes) (fresh : GroupFrameCursor) (read : GroupFrameCursor.newV1 buf = .ok fresh) :
    ∃ head, readShape .v1 buf = .ok head ∧ head.2.1 ≤ fresh.endOffset := by
  obtain ⟨head, shaped, frame, formed, same⟩ := (new_of_ok .v1 buf fresh).mp read
  refine ⟨head, shaped, ?_⟩
  rw [← same]
  cases shape : head.1 with
  | elements kind =>
      rw [shape] at formed
      cases formed
      exact Nat.le_refl _
  | quadlets kind =>
      rw [shape] at formed
      cases formed
      exact Nat.le_add_right _ _
  | genusVersion =>
      rw [shape] at formed
      cases formed

theorem new_of_short (start more : Bytes) (error : ParseError) (fresh : GroupFrameCursor)
    (waits : GroupFrameCursor.newV1 start = .error error) (read : GroupFrameCursor.newV1 (start ++ more) = .ok fresh) :
    start.length < fresh.endOffset := by
  obtain ⟨head, shaped, large⟩ := new_of_large _ fresh read
  have reads := read_shape_reads .v1
  cases before : readShape .v1 start with
  | error other =>
      have few := short_before NeedsBytes _ _ reads.steady reads.exact start more other head before shaped
      omega
  | ok early =>
      have again := reads.steady.settled start more early before
      obtain ⟨head', shaped', frame, formed, same⟩ := (new_of_ok .v1 _ fresh).mp read
      have same' : head' = early := Except.ok.inj (shaped'.symm.trans again)
      rw [same'] at formed same
      have begun := (new_of_ok .v1 start fresh).mpr ⟨early, before, frame, formed, same⟩
      rw [GroupFrameCursor.newV1] at waits
      rw [waits] at begun
      cases begun

theorem start_group_settled (used : Nat) (tail more : Bytes) (group : GroupFrameCursor)
    (started : limits.startGroup used tail false = .ok (some group)) :
    limits.startGroup used (tail ++ more) false = .ok (some group) := by
  rw [start_group_some] at started ⊢
  exact ⟨(new_of_steady .v1).settled tail more group started.1, started.2⟩

theorem start_group_refused (used : Nat) (tail more : Bytes) (error : ParseError)
    (failed : limits.startGroup used tail false = .error error) :
    (∃ other, limits.startGroup used (tail ++ more) false = .error other) ∨
      ∃ group, limits.startGroup used (tail ++ more) false = .ok (some group) ∧
        limits.maxAttachmentBytes < used + group.endOffset := by
  unfold FrameLimits.startGroup at failed
  cases read : GroupFrameCursor.newV1 tail with
  | ok fresh =>
      rw [read] at failed
      have again := (new_of_steady .v1).settled tail more fresh read
      refine .inl ⟨error, ?_⟩
      rw [FrameLimits.startGroup, show GroupFrameCursor.newV1 (tail ++ more) = .ok fresh from again]
      exact failed
  | error given =>
      rw [read] at failed
      by_cases short : NeedsBytes given
      · obtain ⟨missing, same⟩ := short
        rw [same] at failed
        simp only [bind_error, pendingAt, Bool.false_eq_true, if_false, reduceCtorEq, and_false, exists_false, or_false] at failed
        obtain ⟨full, _⟩ := (reject_if_error _ _ _).mp failed
        have full' : limits.maxAttachmentBytes ≤ saturatingAdd used (tail ++ more).length := by
          rw [List.length_append]
          unfold saturatingAdd at full ⊢
          omega
        cases later : GroupFrameCursor.newV1 (tail ++ more) with
        | ok fresh =>
            have few := new_of_short tail more given fresh read later
            have large : limits.maxAttachmentBytes < used + fresh.endOffset := by
              unfold saturatingAdd at full
              omega
            cases allowed : limits.checkElements fresh with
            | error other =>
                refine .inl ⟨other, ?_⟩
                rw [FrameLimits.startGroup, later]
                dsimp only
                rw [allowed]
                rfl
            | ok done => exact .inr ⟨fresh, (start_group_some limits false used _ fresh).mpr ⟨later, allowed⟩, large⟩
        | error other =>
            by_cases wait : NeedsBytes other
            · obtain ⟨missing', same'⟩ := wait
              refine .inl ⟨.limitExceeded .attachmentBytes limits.maxAttachmentBytes
                (saturatingAdd (saturatingAdd used (tail ++ more).length) missing'), ?_⟩
              rw [FrameLimits.startGroup, later, same']
              dsimp only
              rw [FrameLimits.checkPendingAttachment, rejectIf, if_pos full']
              rfl
            · refine .inl ⟨other, ?_⟩
              rw [FrameLimits.startGroup, later]
              cases other with
              | needBytes missing' => exact absurd (needs_bytes missing') wait
              | _ => rfl
      · obtain ⟨other, again, long⟩ := (new_of_steady .v1).refused tail more given read short
        refine .inl ⟨other, ?_⟩
        rw [FrameLimits.startGroup, show GroupFrameCursor.newV1 (tail ++ more) = .error other from again]
        cases other with
        | needBytes missing' => exact absurd (needs_bytes missing') long
        | _ => rfl

theorem frame_large (group : GroupFrameCursor) (tail : Bytes) (large : limits.maxAttachmentBytes < group.endOffset) :
    ∃ error, CesrCodec.frame limits group tail = (.error error, group) ∧ LimitReached error := by
  unfold CesrCodec.frame
  rw [advance_limited_phases, exec_bind, exec_take_budget]
  cases budget : group.checkBudget limits.maxAttachmentBytes limits.maxSignatures with
  | error error => exact ⟨error, rfl, check_budget_error _ _ group error budget⟩
  | ok done =>
      have passed := (check_budget_ok _ _ group).mp budget
      omega

theorem enclosing_payload_longer (group : GroupFrameCursor) (tail more : Bytes) (inside : group.endOffset ≤ tail.length) :
    group.enclosingPayload (tail ++ more) = group.enclosingPayload tail := by
  have inside' : group.endOffset ≤ (tail ++ more).length := by
    rw [List.length_append]
    omega
  unfold GroupFrameCursor.enclosingPayload
  cases group.payloadStart with
  | none => rfl
  | some start => simp only [inside, inside', and_true, List.take_append_of_le_length inside]

theorem scan_payload_longer (group : GroupFrameCursor) (tail more : Bytes) (prior : Nat) (inside : group.endOffset ≤ tail.length) :
    limits.scanPayload group (tail ++ more) prior = limits.scanPayload group tail prior := by
  rw [FrameLimits.scanPayload, FrameLimits.scanPayload, enclosing_payload_longer group tail more inside]

end Groups

section Turns

variable (limits : FrameLimits)

theorem loop_breaks {left : EventProgress → Nat} {turn : Mutator EventProgress ParseError (Option (Option FrameSpan))}
    (progress next : EventProgress) (error : ParseError) (failed : exec turn progress = (.error error, next)) :
    ∃ other final, exec (loopLeft left turn) progress = (other, final) ∧ Breaks other := by
  refine ⟨.error error, next, ?_, error, rfl⟩
  rw [loop_done progress, failed]
  intro other goes
  rw [failed] at goes
  cases goes

theorem message_error_short (signatures : Nat) (error : ParseError) :
    NeedsBytes (messageError limits.maxSignatures signatures error) ↔ NeedsBytes error := by
  unfold messageError
  split
  · exact Iff.intro (fun found => absurd found (limit_not_short _ _ _)) (fun found => absurd found (limit_not_short _ _ _))
  · exact Iff.rfl

theorem stopped_open (error : ParseError) :
    NeedsBytes error ∧ EventProgress.stopped false error = .ok (some none) ∨
      ¬NeedsBytes error ∧ EventProgress.stopped false error = .error error := by
  cases error with
  | needBytes missing => exact .inl ⟨needs_bytes missing, rfl⟩
  | _ =>
      refine .inr ⟨?_, rfl⟩
      intro short
      obtain ⟨_, impossible⟩ := short
      cases impossible

theorem walk_tail (input more : Bytes) (progress : EventProgress) (walk : EventWalk limits input progress) :
    (input ++ more).drop progress.cursor = input.drop progress.cursor ++ more :=
  List.drop_append_of_le_length walk.within

theorem tally_longer (progress : EventProgress) (group : GroupFrameCursor) (tail more : Bytes)
    (inside : group.endOffset ≤ tail.length) :
    progress.tally limits group (tail ++ more) = progress.tally limits group tail := by
  rw [EventProgress.tally, EventProgress.tally, scan_payload_longer limits group tail more _ inside]

theorem framed_settled (progress : EventProgress) (input more : Bytes) (group final : GroupFrameCursor) (stop : Nat)
    (walk : EventWalk limits input progress) (inside : progress.group = some group)
    (framed : CesrCodec.frame (progress.allowance limits) group (input.drop progress.cursor) = (.ok stop, final)) :
    progress.framed limits false (input.drop progress.cursor ++ more)
        (CesrCodec.frame (progress.allowance limits) group (input.drop progress.cursor ++ more)) =
      progress.framed limits false (input.drop progress.cursor)
        (CesrCodec.frame (progress.allowance limits) group (input.drop progress.cursor)) := by
  obtain ⟨fresh, begun⟩ := walk.begun group inside
  obtain ⟨sized, _, _, reach, ends, _⟩ := framed_group limits progress input group final stop walk inside framed
  have again := resumable_ok (advance_limited_resumable (progress.allowance limits).maxAttachmentBytes
    (progress.allowance limits).maxGroupElements (progress.allowance limits).maxSignatures) _ more group final stop begun.begun framed
  rw [framed, show CesrCodec.frame (progress.allowance limits) group (input.drop progress.cursor ++ more) = (.ok stop, final)
    from again]
  dsimp only [EventProgress.framed]
  rw [tally_longer limits progress final _ more (by rw [ends]; exact reach)]

-- What a turn in the middle of a group comes to.
inductive GroupTurn (input : Bytes) (progress : EventProgress) (group : GroupFrameCursor)
    (answer : Except ParseError (Option (Option FrameSpan)) × EventProgress) : Prop where
  | spent (more' : limits.maxAttachmentBytes < progress.cursor - progress.bodyLen) (breaks : Breaks answer.1)
  | complete (room : progress.cursor - progress.bodyLen ≤ limits.maxAttachmentBytes) (stop : Nat) (final : GroupFrameCursor)
      (framed : CesrCodec.frame (progress.allowance limits) group (input.drop progress.cursor) = (.ok stop, final))
      (ends : ¬Pends (· = none) answer.1)
  | waits (room : progress.cursor - progress.bodyLen ≤ limits.maxAttachmentBytes) (error : ParseError) (final : GroupFrameCursor)
      (framed : CesrCodec.frame (progress.allowance limits) group (input.drop progress.cursor) = (.error error, final))
      (short : NeedsBytes error) (given : answer = (.ok (some none), progress.keepGroup final))
  | refused (room : progress.cursor - progress.bodyLen ≤ limits.maxAttachmentBytes) (error : ParseError) (final : GroupFrameCursor)
      (framed : CesrCodec.frame (progress.allowance limits) group (input.drop progress.cursor) = (.error error, final))
      (long : ¬NeedsBytes error) (breaks : Breaks answer.1)

theorem group_turn (input : Bytes) (progress : EventProgress) (group : GroupFrameCursor) (inside : progress.group = some group) :
    GroupTurn limits input progress group (exec (EventProgress.turn limits false input) progress) := by
  rw [exec_turn_group limits false input progress group inside]
  by_cases spent : limits.maxAttachmentBytes < progress.cursor - progress.bodyLen
  · rw [if_pos spent]
    exact .spent spent ⟨_, rfl⟩
  · have room := Nat.le_of_not_lt spent
    rw [if_neg spent]
    cases framed : CesrCodec.frame (progress.allowance limits) group (input.drop progress.cursor) with
    | mk answer final =>
        cases answer with
        | ok stop =>
            refine .complete room stop final framed ?_
            dsimp only [EventProgress.framed]
            intro found
            obtain ⟨value, same, none'⟩ := found
            cases tallied : progress.tally limits final (input.drop progress.cursor) with
            | error error =>
                rw [tallied] at same
                cases same
            | ok signatures =>
                rw [tallied, none'] at same
                dsimp only [EventProgress.passing] at same
                cases envelope : final.attachmentEnvelope with
                | true =>
                    rw [envelope] at same
                    cases same
                | false =>
                    rw [envelope] at same
                    cases same
        | error error =>
            have shortage := message_error_short limits progress.signatures error
            dsimp only [EventProgress.framed]
            rcases stopped_open (messageError limits.maxSignatures progress.signatures error) with ⟨short, same⟩ | ⟨long, same⟩
            · rw [same]
              exact .waits room error final framed (shortage.mp short) rfl
            · rw [same]
              exact .refused room error final framed (fun short => long (shortage.mpr short)) ⟨_, rfl⟩

theorem framed_keep (endOfInput : Bool) (progress : EventProgress) (tail : Bytes) (group : GroupFrameCursor)
    (ran : Except ParseError Nat × GroupFrameCursor) :
    (progress.keepGroup group).framed limits endOfInput tail ran = progress.framed limits endOfInput tail ran := by
  obtain ⟨answer, final⟩ := ran
  cases answer with
  | error error => rfl
  | ok stop =>
      dsimp only [EventProgress.framed]
      rw [show (progress.keepGroup group).tally limits final tail = progress.tally limits final tail from rfl]
      cases progress.tally limits final tail <;> rfl

theorem event_walk_waits (input : Bytes) (progress : EventProgress) (group final : GroupFrameCursor) (error : ParseError)
    (walk : EventWalk limits input progress) (inside : progress.group = some group)
    (framed : CesrCodec.frame (progress.allowance limits) group (input.drop progress.cursor) = (.error error, final))
    (short : NeedsBytes error) : EventWalk limits input (progress.keepGroup final) := by
  obtain ⟨fresh, begun⟩ := walk.begun group inside
  apply EventWalk.mk
  · exact walk.body
  · exact walk.within
  · exact walk.passed
  · intro other inside'
    cases inside'
    exact ⟨fresh, begun_waits .v1 (progress.allowance limits) fresh group final _ error begun framed short⟩

theorem beginning_settled (start more : Bytes) (progress : EventProgress) (group : GroupFrameCursor)
    (walk : EventWalk limits start progress) (started : progress.beginning limits false start = .ok (some group)) :
    progress.beginning limits false (start ++ more) = .ok (some group) := by
  obtain ⟨fewer, within, read, allowed⟩ := (beginning_some limits false start progress group).mp started
  refine (beginning_some limits false _ progress group).mpr ⟨fewer, by rw [List.length_append]; omega, ?_, allowed⟩
  rw [walk_tail limits start more progress walk]
  exact (new_of_steady .v1).settled _ more group read

theorem idle_settled (start more : Bytes) (progress next : EventProgress)
    (answer : Except ParseError (Option (Option FrameSpan))) (walk : EventWalk limits start progress)
    (given : progress.idle limits false start start[progress.cursor]? = (answer, next)) (waits : ¬Pends (· = none) answer)
    (breaks : ¬Breaks answer) :
    progress.idle limits false (start ++ more) (start ++ more)[progress.cursor]? = (answer, next) := by
  cases here : start[progress.cursor]? with
  | none =>
      rw [here] at given
      cases given
      exact absurd ⟨none, rfl, rfl⟩ waits
  | some byte =>
      have inside : progress.cursor < start.length := (List.getElem?_eq_some_iff.mp here).1
      rw [here] at given
      rw [List.getElem?_append_left inside, here]
      dsimp only [EventProgress.idle] at given ⊢
      cases cold : ColdCode.detect byte with
      | error error =>
          rw [cold] at given
          exact given
      | ok code =>
          rw [cold] at given
          cases code with
          | cesrBase64 =>
              dsimp only [EventProgress.between] at given ⊢
              cases started : progress.beginning limits false start with
              | error error =>
                  rw [started] at given
                  cases given
                  exact absurd ⟨error, rfl⟩ breaks
              | ok begun =>
                  rw [started] at given
                  cases begun with
                  | none =>
                      cases given
                      exact absurd ⟨none, rfl, rfl⟩ waits
                  | some group =>
                      rw [beginning_settled limits start more progress group walk started]
                      exact given
          | _ => exact given

-- A group that is given up when it begins is given up when more bytes arrive, at the latest in the turn after.
theorem beginning_refused (start more : Bytes) (progress : EventProgress) (error : ParseError) (byte : UInt8)
    (walk : EventWalk limits start progress) (between : progress.group = none) (here : start[progress.cursor]? = some byte)
    (cold : ColdCode.detect byte = .ok .cesrBase64) (failed : progress.beginning limits false start = .error error) :
    ∃ other final, exec (loopLeft (EventProgress.turnsLeft limits) (EventProgress.turn limits false (start ++ more))) progress =
      (other, final) ∧ Breaks other := by
  have inside : progress.cursor < start.length := (List.getElem?_eq_some_iff.mp here).1
  have within := walk.within
  have turned : exec (EventProgress.turn limits false (start ++ more)) progress =
      progress.begun (progress.beginning limits false (start ++ more)) := by
    rw [exec_turn_idle limits false _ progress between, List.getElem?_append_left inside, here]
    dsimp only [EventProgress.idle]
    rw [cold]
    rfl
  have longer : ¬(start ++ more).length < progress.cursor := by
    rw [List.length_append]
    omega
  unfold EventProgress.beginning at failed turned
  by_cases many : limits.maxAttachmentGroups ≤ progress.groups
  · rw [rejectIf, if_pos many] at turned
    exact loop_breaks progress progress _ turned
  · simp only [rejectIf, if_neg many, if_neg longer, if_neg (Nat.not_lt_of_le within), ok_bind] at failed turned
    rw [walk_tail limits start more progress walk] at turned
    rcases start_group_refused limits _ _ more error failed with ⟨other, again⟩ | ⟨group, again, large⟩
    · rw [again] at turned
      exact loop_breaks progress progress other turned
    · rw [again] at turned
      rw [loop_again (turn_decreases limits false (start ++ more)) progress _ turned]
      have turned' := exec_turn_group limits false (start ++ more) (progress.keepGroup group) group rfl
      by_cases spent : limits.maxAttachmentBytes < progress.cursor - progress.bodyLen
      · rw [if_pos (show limits.maxAttachmentBytes < (progress.keepGroup group).cursor - (progress.keepGroup group).bodyLen
          from spent)] at turned'
        exact loop_breaks _ _ _ turned'
      · rw [if_neg (show ¬limits.maxAttachmentBytes < (progress.keepGroup group).cursor - (progress.keepGroup group).bodyLen
          from spent)] at turned'
        have small : ((progress.keepGroup group).allowance limits).maxAttachmentBytes < group.endOffset := by
          show limits.maxAttachmentBytes - (progress.cursor - progress.bodyLen) < group.endOffset
          omega
        obtain ⟨given, framed, reason⟩ := frame_large _ group ((start ++ more).drop (progress.keepGroup group).cursor) small
        rw [framed] at turned'
        dsimp only [EventProgress.framed] at turned'
        have long : ¬NeedsBytes (messageError limits.maxSignatures (progress.keepGroup group).signatures given) := by
          rw [message_error_short]
          obtain ⟨kind, limit, actual, same⟩ := reason
          rw [same]
          exact limit_not_short kind limit actual
        rcases stopped_open (messageError limits.maxSignatures (progress.keepGroup group).signatures given) with
          ⟨short, _⟩ | ⟨_, same⟩
        · exact absurd short long
        · rw [same] at turned'
          exact loop_breaks _ _ _ turned'

theorem event_turn_resumable :
    TurnResumable (EventWalk limits) (· = none) (EventProgress.turnsLeft limits) (EventProgress.turn limits false) := by
  have tails := walk_tail limits
  apply TurnResumable.mk
  · exact turn_decreases limits false
  · exact event_walk_turn limits false
  · intro start more progress answer next walk given waits breaks
    cases inside : progress.group with
    | none =>
        rw [exec_turn_idle limits false _ progress inside] at given ⊢
        exact idle_settled limits start more progress next answer walk given waits breaks
    | some group =>
        have turn := group_turn limits start progress group inside
        rw [given] at turn
        cases turn with
        | spent more' breaks' => exact absurd breaks' breaks
        | complete room stop final framed ends =>
            have spent := Nat.not_lt_of_le room
            rw [exec_turn_group limits false _ progress group inside, if_neg spent] at given ⊢
            rw [tails start more progress walk, framed_settled limits progress start more group final stop walk inside framed]
            exact given
        | waits room error final framed short given' =>
            cases given'
            exact absurd ⟨none, rfl, rfl⟩ waits
        | refused room error final framed long breaks' => exact absurd breaks' breaks
  · intro start more progress answer next walk given breaks
    cases inside : progress.group with
    | none =>
        rw [exec_turn_idle limits false _ progress inside] at given
        cases here : start[progress.cursor]? with
        | none =>
            rw [here] at given
            cases given
            exact absurd breaks (breaks_ok _)
        | some byte =>
            have at' : progress.cursor < start.length := (List.getElem?_eq_some_iff.mp here).1
            have turned := exec_turn_idle limits false (start ++ more) progress inside
            rw [List.getElem?_append_left at', here] at turned
            rw [here] at given
            dsimp only [EventProgress.idle] at given turned
            cases cold : ColdCode.detect byte with
            | error error =>
                rw [cold] at turned
                exact loop_breaks progress progress error turned
            | ok code =>
                rw [cold] at given turned
                cases code with
                | cesrBase64 =>
                    dsimp only [EventProgress.between] at given
                    cases started : progress.beginning limits false start with
                    | error error => exact beginning_refused limits start more progress error byte walk inside here cold started
                    | ok begun =>
                        rw [started] at given
                        cases begun with
                        | none =>
                            cases given
                            exact absurd breaks (breaks_ok _)
                        | some group =>
                            cases given
                            exact absurd breaks (breaks_ok _)
                | cesrBinary => exact loop_breaks progress progress _ turned
                | _ =>
                    cases given
                    exact absurd breaks (breaks_ok _)
    | some group =>
        have turn := group_turn limits start progress group inside
        have turned := exec_turn_group limits false (start ++ more) progress group inside
        rw [given] at turn
        cases turn with
        | spent more' breaks' =>
            rw [if_pos more'] at turned
            exact loop_breaks progress progress _ turned
        | complete room stop final framed ends =>
            have spent := Nat.not_lt_of_le room
            rw [exec_turn_group limits false _ progress group inside, if_neg spent] at given
            rw [if_neg spent, tails start more progress walk,
              framed_settled limits progress start more group final stop walk inside framed, given] at turned
            obtain ⟨error, same⟩ := breaks
            rw [same] at turned
            exact loop_breaks progress next error turned
        | waits room error final framed short given' =>
            cases given'
            exact absurd breaks (breaks_ok _)
        | refused room error final framed long breaks' =>
            obtain ⟨fresh, begun⟩ := walk.begun group inside
            obtain ⟨other, final', again, longer⟩ := resumable_error (advance_limited_resumable
              (progress.allowance limits).maxAttachmentBytes (progress.allowance limits).maxGroupElements
              (progress.allowance limits).maxSignatures) _ more group final error begun.begun framed long
            rw [if_neg (Nat.not_lt_of_le room), tails start more progress walk,
              show CesrCodec.frame (progress.allowance limits) group (start.drop progress.cursor ++ more) =
                (.error other, final') from again] at turned
            dsimp only [EventProgress.framed] at turned
            rcases stopped_open (messageError limits.maxSignatures progress.signatures other) with ⟨short, _⟩ | ⟨_, same⟩
            · exact absurd ((message_error_short limits _ other).mp short) longer
            · rw [same] at turned
              exact loop_breaks progress _ _ turned
  · intro start more progress answer next walk given waits
    cases inside : progress.group with
    | none =>
        have kept : next = progress := by
          rw [exec_turn_idle limits false _ progress inside] at given
          cases here : start[progress.cursor]? with
          | none =>
              rw [here] at given
              cases given
              rfl
          | some byte =>
              rw [here] at given
              dsimp only [EventProgress.idle] at given
              cases cold : ColdCode.detect byte with
              | error error =>
                  rw [cold] at given
                  cases given
                  rfl
              | ok code =>
                  rw [cold] at given
                  cases code with
                  | cesrBase64 =>
                      dsimp only [EventProgress.between] at given
                      cases started : progress.beginning limits false start with
                      | error error =>
                          rw [started] at given
                          cases given
                          rfl
                      | ok begun =>
                          rw [started] at given
                          cases begun with
                          | none =>
                              cases given
                              rfl
                          | some group =>
                              cases given
                              obtain ⟨_, same, _⟩ := waits
                              cases same
                  | _ =>
                      cases given
                      rfl
        rw [kept]
        exact ⟨rfl, event_walk_longer limits start more progress walk⟩
    | some group =>
        have turn := group_turn limits start progress group inside
        rw [given] at turn
        cases turn with
        | spent more' breaks' =>
            obtain ⟨value, same, _⟩ := waits
            obtain ⟨error, same'⟩ := breaks'
            rw [same] at same'
            cases same'
        | complete room stop final framed ends => exact absurd waits ends
        | refused room error final framed long breaks' =>
            obtain ⟨value, same, _⟩ := waits
            obtain ⟨other, same'⟩ := breaks'
            rw [same] at same'
            cases same'
        | waits room error final framed short given' =>
            cases given'
            obtain ⟨fresh, begun⟩ := walk.begun group inside
            have again := (resumable_short (advance_limited_resumable (progress.allowance limits).maxAttachmentBytes
              (progress.allowance limits).maxGroupElements (progress.allowance limits).maxSignatures) _ more group final error
              begun.begun framed short).1
            refine ⟨?_, ?_⟩
            · rw [exec_turn_group limits false _ progress group inside,
                exec_turn_group limits false _ (progress.keepGroup final) final rfl, framed_keep]
              rw [show (progress.keepGroup final).allowance limits = progress.allowance limits from rfl, keep_group_cursor,
                tails start more progress walk]
              unfold CesrCodec.frame
              rw [again, if_neg (Nat.not_lt_of_le room)]
              exact if_neg (Nat.not_lt_of_le room)
            · exact event_walk_longer limits start more _
                (event_walk_waits limits start progress group final error walk inside framed short)

end Turns

section Messages

variable (limits : FrameLimits)

-- A call that answers with a span, with nothing yet, or not at all.
def SpanResumable {σ : Type} (fits : Bytes → σ → Prop) (call : Bytes → Mutator σ ParseError (Option FrameSpan)) : Prop :=
  Resumable fits (· = .ok none) Breaks (fun input => exec (call input))

def EventFits (input : Bytes) (progress : EventProgress) : Prop :=
  input.length < progress.bodyLen ∧ progress = EventProgress.ofBody progress.bodyLen ∨ EventWalk limits input progress

def joined (result : Except ParseError (Option (Option FrameSpan)) × EventProgress) :
    Except ParseError (Option FrameSpan) × EventProgress := (result.1.map Option.join, result.2)

theorem exec_event_waits (endOfInput : Bool) (input : Bytes) (progress : EventProgress) (few : input.length < progress.bodyLen) :
    exec (EventProgress.advance limits endOfInput input) progress =
      (pendingAt endOfInput (progress.bodyLen - input.length), progress) := by
  rw [EventProgress.advance, exec_get_bind, if_pos few, exec_check]

theorem exec_event_loop (endOfInput : Bool) (input : Bytes) (progress : EventProgress) (arrived : progress.bodyLen ≤ input.length)
    (within : progress.cursor ≤ input.length) :
    exec (EventProgress.advance limits endOfInput input) progress =
      joined (exec (loopLeft (EventProgress.turnsLeft limits) (EventProgress.turn limits endOfInput input)) progress) := by
  rw [EventProgress.advance, exec_get_bind, if_neg (Nat.not_lt_of_le arrived), exec_bind, exec_check, rejectIf,
    if_neg (Nat.not_lt_of_le within)]
  dsimp only
  rw [exec_bind]
  generalize exec (loopLeft (EventProgress.turnsLeft limits) (EventProgress.turn limits endOfInput input)) progress = result
  obtain ⟨answer, final⟩ := result
  cases answer <;> rfl

theorem joined_some (result : Except ParseError (Option (Option FrameSpan)) × EventProgress) (span : FrameSpan)
    (final : EventProgress) : joined result = (.ok (some span), final) ↔ result = (.ok (some (some span)), final) := by
  obtain ⟨answer, state⟩ := result
  cases answer with
  | error error => simp [joined, Except.map]
  | ok value => simp [joined, Except.map, Option.join_eq_some_iff]

theorem joined_error (result : Except ParseError (Option (Option FrameSpan)) × EventProgress) (error : ParseError)
    (final : EventProgress) : joined result = (.error error, final) ↔ result = (.error error, final) := by
  obtain ⟨answer, state⟩ := result
  cases answer with
  | error error => simp [joined, Except.map]
  | ok value => simp [joined, Except.map]

theorem event_fits_longer (start more : Bytes) (progress : EventProgress) (fits : EventFits limits start progress) :
    EventFits limits (start ++ more) progress := by
  rcases fits with ⟨few, same⟩ | walk
  · by_cases arrived : (start ++ more).length < progress.bodyLen
    · exact .inl ⟨arrived, same⟩
    · rw [same]
      exact .inr (event_walk_body limits (start ++ more) progress.bodyLen (Nat.le_of_not_lt arrived))
  · exact .inr (event_walk_longer limits start more progress walk)

theorem event_advance_resumable : SpanResumable (EventFits limits) (EventProgress.advance limits false) := by
  have loops := loop_resumable (event_turn_resumable limits)
  have decreases := turn_decreases limits false
  have exec_walk : ∀ input progress, EventWalk limits input progress →
      exec (EventProgress.advance limits false input) progress =
        joined (exec (loopLeft (EventProgress.turnsLeft limits) (EventProgress.turn limits false input)) progress) :=
    fun input progress walk => exec_event_loop limits false input progress (Nat.le_trans walk.body walk.within) walk.within
  apply Resumable.mk
  · intro start more progress answer next fits given waits breaks
    rcases fits with ⟨few, same⟩ | walk
    · rw [exec_event_waits limits false start progress few] at given
      cases given
      exact absurd rfl waits
    · cases answer with
      | error error => exact absurd ⟨error, rfl⟩ breaks
      | ok value =>
          cases value with
          | none => exact absurd rfl waits
          | some span =>
              rw [exec_walk start progress walk, joined_some] at given
              rw [exec_walk _ progress (event_walk_longer limits start more progress walk), joined_some]
              exact loops.settled start more progress _ next walk given (by simp [Pends]) (breaks_ok _)
  · intro start more progress answer next fits given breaks
    obtain ⟨error, same⟩ := breaks
    rw [same] at given
    rcases fits with ⟨few, same⟩ | walk
    · rw [exec_event_waits limits false start progress few] at given
      cases given
    · rw [exec_walk start progress walk, joined_error] at given
      obtain ⟨other, final, again, error', same'⟩ := loops.refused start more progress _ next walk given ⟨error, rfl⟩
      refine ⟨.error error', final, ?_, error', rfl⟩
      rw [exec_walk _ progress (event_walk_longer limits start more progress walk), joined_error, again, same']
  · intro start more progress answer next fits given waits
    rw [waits] at given
    rcases fits with ⟨few, same⟩ | walk
    · rw [exec_event_waits limits false start progress few] at given
      cases given
      exact ⟨rfl, event_fits_longer limits start more progress (.inl ⟨few, same⟩)⟩
    · rw [exec_walk start progress walk] at given
      generalize ran : exec (loopLeft (EventProgress.turnsLeft limits) (EventProgress.turn limits false start)) progress = result
        at given
      obtain ⟨answer', final⟩ := result
      have never : answer' ≠ .ok none := by
        have answers := loop_answers (decreases start) progress
        rwa [outcome, ran] at answers
      have pending : answer' = .ok (some none) := by
        cases answer' with
        | error error => cases given
        | ok value =>
            cases value with
            | none => exact absurd rfl never
            | some value =>
                cases value with
                | none => rfl
                | some span => cases given
      rw [pending] at ran given
      cases given
      obtain ⟨again, walk'⟩ := loops.resumed start more progress _ final walk ran ⟨none, rfl, rfl⟩
      refine ⟨?_, .inr walk'⟩
      rw [exec_walk _ final walk', exec_walk _ progress (event_walk_longer limits start more progress walk)]
      exact congrArg joined again

end Messages

end Cesr.Stream
