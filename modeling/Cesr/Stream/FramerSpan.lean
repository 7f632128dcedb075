import Cesr.Stream.FramerChunks

set_option autoImplicit false

namespace Cesr.Stream

open Base64 Checks Calls Resume Loops

section Groups

variable (version : CesrVersion)

theorem groups_at_take (buf rest : Bytes) (groups : List CesrGroup) (parsed : GroupsAt version buf groups rest) :
    ∃ count ≤ buf.length, rest = buf.drop count ∧ GroupsAt version (buf.take count) groups [] := by
  induction parsed with
  | nil buf => exact ⟨0, Nat.zero_le _, rfl, .nil []⟩
  | cons buf rest group size groups read later ih =>
      obtain ⟨count, within, behind, alone⟩ := ih
      have reads := sized_of_reads version
      have reach : size ≤ buf.length := reads.within buf _ read
      rw [List.length_drop] at within
      rw [List.drop_drop] at behind
      refine ⟨size + count, by omega, behind, .cons _ [] group size groups ?_ ?_⟩
      · have again := reads_again reads buf ((buf.drop size).take count) (group, size) read
        rwa [← List.take_add] at again
      · rw [List.drop_take, Nat.add_sub_cancel_left]
        exact alone

theorem groups_at_split (buf rest : Bytes) (passed groups : List CesrGroup) (first : GroupsAt version buf passed rest)
    (whole : GroupsAt version buf groups []) : ∃ others, groups = passed ++ others ∧ GroupsAt version rest others [] := by
  induction first generalizing groups with
  | nil buf => exact ⟨groups, rfl, whole⟩
  | cons buf rest group size passed read later ih =>
      cases whole with
      | nil =>
          have some' := sized_of_pos version [] (group, size) read
          exact absurd some' (Nat.lt_irrefl 0)
      | cons _ _ group' size' others read' later' =>
          rw [read] at read'
          cases read'
          obtain ⟨tail, same, rest'⟩ := ih others later'
          exact ⟨tail, by rw [same]; rfl, rest'⟩

end Groups

section Spans

variable (limits : FrameLimits) (endOfInput : Bool)

inductive Ends (input : Bytes) (progress : EventProgress) (span : FrameSpan) : Prop where
  | closed (group final : GroupFrameCursor) (stop signatures : Nat) (inside : progress.group = some group)
      (framed : CesrCodec.frame (progress.allowance limits) group (input.drop progress.cursor) = (.ok stop, final))
      (tallied : progress.tally limits final (input.drop progress.cursor) = .ok signatures)
      (envelope : final.attachmentEnvelope = true) (given : span = (progress.passGroup stop signatures).span)
  | next (byte : UInt8) (cold : ColdCode) (here : input[progress.cursor]? = some byte) (detected : ColdCode.detect byte = .ok cold)
      (body : cold ≠ .cesrBase64 ∧ cold ≠ .cesrBinary) (given : span = progress.span)
  | finished (closed' : endOfInput = true) (here : input[progress.cursor]? = none) (given : span = progress.span)

theorem turn_ends (input : Bytes) (progress final : EventProgress) (span : FrameSpan)
    (ends : exec (EventProgress.turn limits endOfInput input) progress = (.ok (some (some span)), final)) :
    Ends limits endOfInput input progress span := by
  cases inside : progress.group with
  | some group =>
      rw [exec_turn_group limits endOfInput input progress group inside] at ends
      by_cases spent : limits.maxAttachmentBytes < progress.cursor - progress.bodyLen
      · rw [if_pos spent] at ends
        cases ends
      · rw [if_neg spent] at ends
        generalize framed : CesrCodec.frame (progress.allowance limits) group (input.drop progress.cursor) = ran at ends
        obtain ⟨answer, final'⟩ := ran
        cases answer with
        | error error =>
            dsimp only [EventProgress.framed] at ends
            cases stopped : messageError limits.maxSignatures progress.signatures error with
            | needBytes missing =>
                rw [stopped] at ends
                cases endOfInput <;> cases ends
            | _ =>
                rw [stopped] at ends
                cases ends
        | ok stop =>
            dsimp only [EventProgress.framed] at ends
            cases tallied : progress.tally limits final' (input.drop progress.cursor) with
            | error error =>
                rw [tallied] at ends
                cases ends
            | ok signatures =>
                rw [tallied] at ends
                dsimp only [EventProgress.passing] at ends
                cases envelope : final'.attachmentEnvelope with
                | true =>
                    rw [envelope] at ends
                    cases ends
                    exact .closed group final' stop signatures inside framed tallied envelope rfl
                | false =>
                    rw [envelope] at ends
                    cases ends
  | none =>
      rw [exec_turn_idle limits endOfInput input progress inside] at ends
      cases here : input[progress.cursor]? with
      | none =>
          rw [here] at ends
          cases endOfInput with
          | true =>
              cases ends
              exact .finished rfl here rfl
          | false => cases ends
      | some byte =>
          rw [here] at ends
          dsimp only [EventProgress.idle] at ends
          cases detected : ColdCode.detect byte with
          | error error =>
              rw [detected] at ends
              cases ends
          | ok cold =>
              rw [detected] at ends
              cases cold with
              | cesrBase64 =>
                  dsimp only [EventProgress.between] at ends
                  cases started : progress.beginning limits endOfInput input with
                  | error error =>
                      rw [started] at ends
                      cases ends
                  | ok begun =>
                      rw [started] at ends
                      cases begun <;> cases ends
              | cesrBinary => cases ends
              | json =>
                  cases ends
                  exact .next byte .json here detected ⟨nofun, nofun⟩ rfl
              | cbor =>
                  cases ends
                  exact .next byte .cbor here detected ⟨nofun, nofun⟩ rfl
              | messagePack =>
                  cases ends
                  exact .next byte .messagePack here detected ⟨nofun, nofun⟩ rfl

-- The groups behind a body, up to an attachment envelope that ends the message.
def ClosedByEnvelope (input : Bytes) (bodyLen totalLen : Nat) : Prop :=
  ∃ groups payload, GroupsAt .v1 (input.drop bodyLen) (groups ++ [.frame .attachment payload .v1]) (input.drop totalLen)

-- What ends a message with a body.
inductive MessageEnds (input : Bytes) (bodyLen totalLen : Nat) : Prop where
  | envelope (closed : ClosedByEnvelope input bodyLen totalLen)
  | body (byte : UInt8) (cold : ColdCode) (here : input[totalLen]? = some byte) (detected : ColdCode.detect byte = .ok cold)
      (body : cold ≠ .cesrBase64 ∧ cold ≠ .cesrBinary)
  | input (closed' : endOfInput = true) (finished : totalLen = input.length)

theorem walk_ends (input : Bytes) (progress : EventProgress) (span : FrameSpan) (walk : EventWalk limits input progress)
    (ends : Ends limits endOfInput input progress span) :
    span.bodyLen = some progress.bodyLen ∧ progress.bodyLen ≤ span.totalLen ∧ span.totalLen ≤ input.length ∧
      MessageEnds endOfInput input progress.bodyLen span.totalLen := by
  cases ends with
  | closed group final stop signatures inside framed tallied envelope given =>
      obtain ⟨sized, read, same, reach, _, _, _, closes⟩ := framed_group limits progress input group final stop walk inside framed
      obtain ⟨groups, parsed, _⟩ := walk.passed
      obtain ⟨payload, last⟩ := closes.mp envelope
      have within := walk.within
      have longer := groups_at_snoc .v1 _ _ groups sized.1 sized.2 parsed read
      rw [List.length_drop] at reach
      rw [List.drop_drop, ← same, last] at longer
      rw [given]
      refine ⟨rfl, Nat.le_trans walk.body (Nat.le_add_right _ _), ?_, .envelope ⟨groups, payload, longer⟩⟩
      show progress.cursor + stop ≤ input.length
      omega
  | next byte cold here detected body given =>
      rw [given]
      exact ⟨rfl, walk.body, walk.within, .body byte cold here detected body⟩
  | finished closed' here given =>
      have all : input.length ≤ progress.cursor := List.getElem?_eq_none_iff.mp here
      rw [given]
      exact ⟨rfl, walk.body, walk.within, .input closed' (Nat.le_antisymm walk.within all)⟩

theorem goes_on_body (input : Bytes) (progress next : EventProgress)
    (goes : exec (EventProgress.turn limits endOfInput input) progress = (.ok none, next)) :
    next.bodyLen = progress.bodyLen := by
  cases turn_goes_on limits endOfInput input progress next goes with
  | passed group final stop signatures inside room framed tallied open' moved =>
      rw [moved]
      rfl
  | begun byte group between here cold started moved =>
      rw [moved]
      rfl

theorem event_last_turn (input : Bytes) (progress final : EventProgress) (answer : Except ParseError (Option (Option FrameSpan)))
    (walk : EventWalk limits input progress)
    (ran : exec (loopLeft (EventProgress.turnsLeft limits) (EventProgress.turn limits endOfInput input)) progress = (answer, final)) :
    ∃ last, EventWalk limits input last ∧ last.bodyLen = progress.bodyLen ∧
      exec (EventProgress.turn limits endOfInput input) last = (answer, final) := by
  obtain ⟨last, ⟨walk', same⟩, turned⟩ := loop_ok (turn_decreases limits endOfInput input)
    (fun state => EventWalk limits input state ∧ state.bodyLen = progress.bodyLen)
    (by
      intro state next held goes
      exact ⟨event_walk_turn limits endOfInput input state next held.1 goes,
        Eq.trans (goes_on_body limits endOfInput input state next goes) held.2⟩)
    progress final answer ⟨walk, rfl⟩ ran
  exact ⟨last, walk', same, turned⟩

theorem event_emits (input : Bytes) (progress final : EventProgress) (span : FrameSpan) (walk : EventWalk limits input progress)
    (emits : exec (EventProgress.advance limits endOfInput input) progress = (.ok (some span), final)) :
    span.bodyLen = some progress.bodyLen ∧ progress.bodyLen ≤ span.totalLen ∧ span.totalLen ≤ input.length ∧
      MessageEnds endOfInput input progress.bodyLen span.totalLen := by
  rw [exec_event_loop limits endOfInput input progress (Nat.le_trans walk.body walk.within) walk.within, joined_some] at emits
  obtain ⟨last, walk', same, turned⟩ := event_last_turn limits endOfInput input progress final _ walk emits
  have ends := walk_ends limits endOfInput input last span walk' (turn_ends limits endOfInput input last final span turned)
  rwa [same] at ends

end Spans

section Emissions

variable (limits : FrameLimits)

theorem bare_emits (endOfInput : Bool) (input : Bytes) (group final : GroupFrameCursor) (span : FrameSpan)
    (fits : BareFits limits input group) (emits : exec (limits.advanceBare endOfInput input) group = (.ok (some span), final)) :
    span.bodyLen = none ∧ ∃ sized, CesrGroup.sizedOf .v1 input = .ok sized ∧ span.totalLen = sized.2 := by
  obtain ⟨fresh, begun⟩ := fits
  have same := begun.same []
  have follows := group_framed limits.maxAttachmentBytes limits.maxGroupElements limits.maxSignatures .v1 input fresh begun.read
  rw [List.append_nil] at same
  rw [exec_advance_bare] at emits
  unfold CesrCodec.frame at emits same
  rw [← same] at follows
  cases follows with
  | taken sized result final' read given reached =>
      rw [given] at emits
      dsimp only [FrameLimits.bareFramed] at emits
      cases scanned : limits.scanPayload final' input final'.signatureTotal with
      | error error =>
          rw [scanned] at emits
          cases emits
      | ok signatures =>
          rw [scanned] at emits
          cases emits
          exact ⟨rfl, sized, read, reached.size⟩
  | failed error other final' read given same' =>
      rw [given] at emits
      cases error with
      | needBytes missing => cases endOfInput <;> cases emits
      | _ => cases emits
  | gave error final' bites given reason =>
      rw [given] at emits
      obtain ⟨kind, limit, actual, same'⟩ := reason
      rw [same'] at emits
      cases emits

-- What a fresh framer has framed when it emits a span.
inductive FramerEmits (endOfInput : Bool) (input : Bytes) (span : FrameSpan) : Prop where
  | bare (group : GroupFrameCursor) (sized : CesrGroup × Nat) (started : limits.startOf endOfInput input = .ok (some (.bare group)))
      (alone : span.bodyLen = none) (read : CesrGroup.sizedOf .v1 input = .ok sized) (total : span.totalLen = sized.2)
  | message (bodyLen : Nat) (started : limits.startOf endOfInput input = .ok (some (.event (EventProgress.ofBody bodyLen))))
      (body : span.bodyLen = some bodyLen) (behind : bodyLen ≤ span.totalLen) (within : span.totalLen ≤ input.length)
      (ends : MessageEnds endOfInput input bodyLen span.totalLen)

theorem emitted_some {σ : Type} (put : σ → MessageFramer) (result : Except ParseError (Option FrameSpan) × σ) (span : FrameSpan)
    (final : MessageFramer) (given : emitted limits put result = (.ok (some span), final)) : result.1 = .ok (some span) := by
  obtain ⟨answer, part⟩ := result
  cases answer with
  | error error => cases given
  | ok value =>
      cases value with
      | none => cases given
      | some span' =>
          cases given
          rfl

theorem start_of_fits (endOfInput : Bool) (input : Bytes) (state : FramerState)
    (started : limits.startOf endOfInput input = .ok (some state)) :
    (∃ bodyLen, state = .event (EventProgress.ofBody bodyLen)) ∨
      ∃ group, state = .bare group ∧ GroupFrameCursor.newV1 input = .ok group ∧ BareFits limits input group := by
  cases input with
  | nil => cases started
  | cons first rest =>
      cases starts_with first with
      | body cold detected body =>
          rw [start_body_cold limits endOfInput first rest cold detected body] at started
          obtain ⟨bodyLen, _, _, same⟩ := start_body_some limits _ endOfInput _ state started
          exact .inl ⟨bodyLen, same⟩
      | group detected =>
          simp only [FrameLimits.startOf, detected, ok_bind, bind_ok, pure_ok] at started
          obtain ⟨begun, read, same⟩ := started
          cases begun with
          | none => cases same
          | some group =>
              cases same
              obtain ⟨fresh, allowed⟩ := (start_group_some limits endOfInput 0 _ group).mp read
              exact .inr ⟨group, rfl, fresh, group, begun_fresh .v1 limits group _ fresh allowed⟩
      | neither error refused =>
          rw [(refused limits endOfInput JsonVersionHead.new rest).2] at started
          cases started

theorem framer_emits (endOfInput : Bool) (input : Bytes) (span : FrameSpan)
    (emits : outcome (MessageFramer.advance endOfInput input) (MessageFramer.new limits) = .ok (some span)) :
    FramerEmits limits endOfInput input span := by
  obtain ⟨answer, head, final⟩ := exec_start limits endOfInput input JsonVersionHead.new (head_fits_new input)
  have ran : exec (MessageFramer.start input endOfInput) ⟨limits, none, JsonVersionHead.new⟩ =
      (limits.startOf endOfInput input, ⟨limits, none, head⟩) := Prod.ext answer final
  have begins : exec (MessageFramer.advance endOfInput input) (MessageFramer.new limits) =
      MessageFramer.started endOfInput input (limits.startOf endOfInput input, ⟨limits, none, head⟩) := by
    rw [← ran]
    exact exec_advance_start limits endOfInput input JsonVersionHead.new
  rw [outcome, begins] at emits
  cases started : limits.startOf endOfInput input with
  | error error =>
      rw [started] at emits
      cases emits
  | ok begun =>
      rw [started] at emits
      cases begun with
      | none => cases emits
      | some state =>
          dsimp only [MessageFramer.started] at emits
          rcases start_of_fits limits endOfInput input state started with ⟨bodyLen, same⟩ | ⟨group, same, read, fits⟩
          · rw [same] at emits started
            rw [exec_advance_event] at emits
            have given := emitted_some limits _ _ span _ (Prod.ext emits rfl)
            by_cases few : input.length < bodyLen
            · rw [exec_event_waits limits endOfInput input (EventProgress.ofBody bodyLen) few] at given
              cases endOfInput <;> cases given
            · obtain ⟨body, behind, within, ends⟩ := event_emits limits endOfInput input (EventProgress.ofBody bodyLen) _ span
                (event_walk_body limits input bodyLen (Nat.le_of_not_lt few)) (Prod.ext given rfl)
              exact .message bodyLen started body behind within ends
          · rw [same] at emits started
            rw [exec_advance_group] at emits
            have given := emitted_some limits _ _ span _ (Prod.ext emits rfl)
            obtain ⟨alone, sized, parsed, total⟩ := bare_emits limits endOfInput input group _ span fits (Prod.ext given rfl)
            exact .bare group sized started alone parsed total

theorem walk_waits_short (input : Bytes) (progress final : EventProgress) (walk : EventWalk limits input progress)
    (waits : exec (EventProgress.turn limits false input) progress = (.ok (some none), final)) (sized : CesrGroup × Nat) :
    CesrGroup.sizedOf .v1 (input.drop progress.cursor) ≠ .ok sized := by
  intro read
  cases inside : progress.group with
  | some group =>
      have turn := group_turn limits input progress group inside
      rw [waits] at turn
      cases turn with
      | spent more' breaks => exact absurd breaks (breaks_ok _)
      | complete room stop final' framed ends => exact ends ⟨none, rfl, rfl⟩
      | refused room error final' framed long breaks => exact absurd breaks (breaks_ok _)
      | waits room error final' framed short given =>
          obtain ⟨fresh, begun⟩ := walk.begun group inside
          have same := begun.same []
          have follows := group_framed (progress.allowance limits).maxAttachmentBytes (progress.allowance limits).maxGroupElements
            (progress.allowance limits).maxSignatures .v1 (input.drop progress.cursor) fresh begun.read
          rw [List.append_nil, framed] at same
          unfold CesrCodec.frame at same
          rw [← same] at follows
          cases follows with
          | taken sized' result final'' read' given' reached => cases given'
          | failed error' other final'' read' given' same' =>
              rw [read] at read'
              cases read'
          | gave error' final'' bites given' reason =>
              cases given'
              obtain ⟨kind, limit, actual, same'⟩ := reason
              rw [same'] at short
              exact limit_not_short kind limit actual short
  | none =>
      rw [exec_turn_idle limits false input progress inside] at waits
      cases here : input[progress.cursor]? with
      | none =>
          have some' := sized_of_pos .v1 _ sized read
          have all : input.length ≤ progress.cursor := List.getElem?_eq_none_iff.mp here
          rw [List.length_drop] at some'
          omega
      | some byte =>
          rw [here] at waits
          dsimp only [EventProgress.idle] at waits
          cases detected : ColdCode.detect byte with
          | error error =>
              rw [detected] at waits
              cases waits
          | ok cold =>
              rw [detected] at waits
              cases cold with
              | cesrBase64 =>
                  dsimp only [EventProgress.between] at waits
                  have started : progress.beginning limits false input = .ok none := by
                    cases started : progress.beginning limits false input with
                    | error error =>
                        rw [started] at waits
                        cases waits
                    | ok begun =>
                        rw [started] at waits
                        cases begun with
                        | none => rfl
                        | some group => cases waits
                  simp only [EventProgress.beginning, bind_ok, reject_if_ok, exists_done] at started
                  obtain ⟨fresh, begun⟩ := sized_of_head .v1 _ sized read
                  have none' := started.2.2
                  rw [FrameLimits.startGroup, show GroupFrameCursor.newV1 (input.drop progress.cursor) = .ok fresh from begun]
                    at none'
                  simp only [bind_ok, pure_ok, reduceCtorEq, and_false, exists_false] at none'
              | _ => cases waits

theorem closed_not_waiting (input : Bytes) (bodyLen : Nat) (arrived : bodyLen ≤ input.length) (final : EventProgress)
    (groups : List CesrGroup) (payload : Bytes)
    (closed : GroupsAt .v1 (input.drop bodyLen) (groups ++ [.frame .attachment payload .v1]) []) :
    exec (EventProgress.advance limits false input) (EventProgress.ofBody bodyLen) ≠ (.ok none, final) := by
  intro waits
  have walk := event_walk_body limits input bodyLen arrived
  rw [exec_event_loop limits false input _ (Nat.le_trans walk.body walk.within) walk.within] at waits
  generalize ran : exec (loopLeft (EventProgress.turnsLeft limits) (EventProgress.turn limits false input))
    (EventProgress.ofBody bodyLen) = result at waits
  obtain ⟨answer, final'⟩ := result
  have never : answer ≠ .ok none := by
    have answers := loop_answers (turn_decreases limits false input) (EventProgress.ofBody bodyLen)
    rwa [outcome, ran] at answers
  cases answer with
  | error error => cases waits
  | ok value =>
      cases value with
      | none => exact never rfl
      | some value =>
          cases value with
          | some span => cases waits
          | none =>
              obtain ⟨last, walk', same, turned⟩ := event_last_turn limits false input _ final' _ walk ran
              obtain ⟨passed, parsed, open'⟩ := walk'.passed
              have short := walk_waits_short limits input last final' walk' turned
              rw [same] at parsed
              obtain ⟨others, all, rest⟩ := groups_at_split .v1 _ _ passed _ parsed closed
              generalize input.drop last.cursor = left at rest short
              cases rest with
              | nil =>
                  rw [List.append_nil] at all
                  have member : CesrGroup.frame .attachment payload .v1 ∈ passed := by
                    rw [← all]
                    exact List.mem_append_right _ (List.mem_singleton_self _)
                  exact open' _ member ⟨payload, rfl⟩
              | cons _ _ group size others read later => exact short _ read

-- A bare group, and a message closed by an envelope, say themselves where they end.
inductive FrameSpan.Delimits (span : FrameSpan) (input : Bytes) : Prop where
  | bare (alone : span.bodyLen = none)
  | envelope (bodyLen : Nat) (body : span.bodyLen = some bodyLen) (closed : ClosedByEnvelope input bodyLen span.totalLen)

theorem start_of_settled (start more : Bytes) (state : FramerState) (started : limits.startOf false start = .ok (some state)) :
    limits.startOf false (start ++ more) = .ok (some state) := by
  have fits := head_fits_new start
  have same := start_settled limits start more JsonVersionHead.new fits state started
  have answer := (exec_start limits false start JsonVersionHead.new fits).1
  have longer := (exec_start limits false (start ++ more) JsonVersionHead.new (head_fits_longer start more _ fits)).1
  rw [same, answer, started] at longer
  exact longer.symm

theorem sized_of_take (input : Bytes) (count : Nat) (sized : CesrGroup × Nat) (read : CesrGroup.sizedOf .v1 input = .ok sized)
    (enough : sized.2 ≤ count) : CesrGroup.sizedOf .v1 (input.take count) = .ok sized := by
  have again := reads_again (sized_of_reads .v1) input ((input.take count).drop sized.2) sized read
  have joined : input.take sized.2 ++ (input.take count).drop sized.2 = input.take count := by
    rw [show input.take sized.2 = (input.take count).take sized.2 by rw [List.take_take, Nat.min_eq_left enough],
      List.take_append_drop]
  rwa [joined] at again

theorem start_of_body_alone (input : Bytes) (count bodyLen : Nat)
    (started : limits.startOf false input = .ok (some (.event (EventProgress.ofBody bodyLen)))) (enough : bodyLen ≤ count) :
    limits.startOf false (input.take count) ≠ .ok none := by
  intro waits
  cases input with
  | nil => cases started
  | cons first rest =>
      have some' : first :: rest ≠ [] := List.cons_ne_nil _ _
      cases starts_with first with
      | body cold detected body =>
          rw [start_body_cold limits false first rest cold detected body] at started
          obtain ⟨size, declared, small, same⟩ := start_body_some limits _ false _ _ started
          cases same
          have positive := event_size_pos cold _ bodyLen some' declared
          have alone := event_size_exact cold (first :: rest) count bodyLen some' declared enough
          obtain ⟨spare, counted⟩ : ∃ spare, count = spare + 1 := ⟨count - 1, by omega⟩
          rw [counted, List.take_succ_cons] at waits alone
          rw [start_body_cold limits false first _ cold detected body, alone] at waits
          obtain ⟨error, same, _⟩ := start_body_waits limits _ _ waits
          cases same
      | group detected =>
          simp only [FrameLimits.startOf, detected, ok_bind, bind_ok, pure_ok] at started
          obtain ⟨begun, _, same⟩ := started
          cases begun <;> cases same
      | neither error refused =>
          rw [(refused limits false JsonVersionHead.new rest).2] at started
          cases started

theorem start_of_group_alone (input : Bytes) (count : Nat) (group : GroupFrameCursor) (sized : CesrGroup × Nat)
    (started : limits.startOf false input = .ok (some (.bare group))) (read : CesrGroup.sizedOf .v1 input = .ok sized)
    (enough : sized.2 ≤ count) : limits.startOf false (input.take count) ≠ .ok none := by
  intro waits
  have alone := sized_of_take input count sized read enough
  have some'' := sized_of_pos .v1 _ sized alone
  obtain ⟨fresh, begun⟩ := sized_of_head .v1 _ sized alone
  cases input with
  | nil => cases started
  | cons first rest =>
      cases count with
      | zero => exact Nat.lt_irrefl 0 some''
      | succ spare =>
          rw [List.take_succ_cons] at begun waits
          cases starts_with first with
          | body cold detected body =>
              rw [start_body_cold limits false first rest cold detected body] at started
              obtain ⟨size, _, _, same⟩ := start_body_some limits _ false _ _ started
              cases same
          | group detected =>
              simp only [FrameLimits.startOf, detected, ok_bind, bind_ok, pure_ok, FrameLimits.startGroup,
                show GroupFrameCursor.newV1 (first :: rest.take spare) = .ok fresh from begun] at waits
              obtain ⟨begun', ⟨_, _, same⟩, none'⟩ := waits
              rw [← same] at none'
              cases none'
          | neither error refused =>
              rw [(refused limits false JsonVersionHead.new rest).2] at started
              cases started

theorem emitted_none {σ : Type} (put : σ → MessageFramer) (result : Except ParseError (Option FrameSpan) × σ)
    (final : MessageFramer) (given : emitted limits put result = (.ok none, final)) : result.1 = .ok none := by
  obtain ⟨answer, part⟩ := result
  cases answer with
  | error error => cases given
  | ok value =>
      cases value with
      | none => rfl
      | some span => cases given

theorem bare_waits_short (input : Bytes) (group : GroupFrameCursor) (fits : BareFits limits input group)
    (waits : outcome (limits.advanceBare false input) group = .ok none) (sized : CesrGroup × Nat) :
    CesrGroup.sizedOf .v1 input ≠ .ok sized := by
  intro read
  obtain ⟨fresh, begun⟩ := fits
  have same := begun.same []
  have follows := group_framed limits.maxAttachmentBytes limits.maxGroupElements limits.maxSignatures .v1 input fresh begun.read
  rw [List.append_nil] at same
  rw [outcome, exec_advance_bare] at waits
  unfold CesrCodec.frame at waits same
  rw [← same] at follows
  cases follows with
  | taken sized' result final read' given reached =>
      rw [given] at waits
      dsimp only [FrameLimits.bareFramed] at waits
      cases scanned : limits.scanPayload final input final.signatureTotal with
      | error error =>
          rw [scanned] at waits
          cases waits
      | ok signatures =>
          rw [scanned] at waits
          cases waits
  | failed error other final read' given same' =>
      rw [read] at read'
      cases read'
  | gave error final bites given reason =>
      obtain ⟨kind, limit, actual, same'⟩ := reason
      rw [given, same'] at waits
      cases waits

theorem closed_alone (input : Bytes) (bodyLen totalLen : Nat) (behind : bodyLen ≤ totalLen) (within : totalLen ≤ input.length)
    (closed : ClosedByEnvelope input bodyLen totalLen) :
    ∃ groups payload, GroupsAt .v1 ((input.take totalLen).drop bodyLen) (groups ++ [.frame .attachment payload .v1]) [] := by
  obtain ⟨groups, payload, parsed⟩ := closed
  obtain ⟨count, reach, rest, alone⟩ := groups_at_take .v1 _ _ _ parsed
  have lengths := congrArg List.length rest
  rw [List.length_drop, List.length_drop, List.length_drop] at lengths
  rw [List.length_drop] at reach
  have counted : count = totalLen - bodyLen := by omega
  refine ⟨groups, payload, ?_⟩
  rw [List.drop_take, ← counted]
  exact alone

theorem delimited_not_waiting (input : Bytes) (span : FrameSpan) (delimits : span.Delimits input)
    (emission : FramerEmits limits false input span) (next : MessageFramer) :
    exec (MessageFramer.advance false (input.take span.totalLen)) (MessageFramer.new limits) ≠ (.ok none, next) := by
  intro ran
  have whole := List.take_append_drop span.totalLen input
  have fits := head_fits_new (input.take span.totalLen)
  cases begun : limits.startOf false (input.take span.totalLen) with
  | error error =>
      have broken := advance_start_refused limits (input.take span.totalLen) [] JsonVersionHead.new error fits begun
      rw [List.append_nil] at broken
      rw [MessageFramer.new] at ran
      rw [ran] at broken
      exact breaks_ok _ broken
  | ok started =>
      cases started with
      | none =>
          cases emission with
          | bare group sized started alone read total =>
              exact start_of_group_alone limits input span.totalLen group sized started read (Nat.le_of_eq total.symm) begun
          | message bodyLen started body behind within ends =>
              exact start_of_body_alone limits input span.totalLen bodyLen started behind begun
      | some state =>
          have longer := start_of_settled limits (input.take span.totalLen) (input.drop span.totalLen) state begun
          obtain ⟨head, framer, same⟩ := advance_started limits (input.take span.totalLen) JsonVersionHead.new state fits begun
          have here := same []
          rw [List.append_nil] at here
          rw [MessageFramer.new, here] at ran
          rw [whole] at longer
          cases emission with
          | bare group sized started alone read total =>
              rw [longer] at started
              cases started
              rw [exec_advance_group] at ran
              have waits := emitted_none limits _ _ next ran
              rcases start_of_fits limits false _ (.bare group) begun with ⟨bodyLen, impossible⟩ | ⟨group', same', _, fits'⟩
              · cases impossible
              · cases same'
                exact bare_waits_short limits _ group fits' waits sized
                  (sized_of_take input span.totalLen sized read (Nat.le_of_eq total.symm))
          | message bodyLen started body behind within ends =>
              rw [longer] at started
              cases started
              rw [exec_advance_event] at ran
              have waits := emitted_none limits _ _ next ran
              have arrived : bodyLen ≤ (input.take span.totalLen).length := by
                rw [List.length_take]
                omega
              cases delimits with
              | bare alone =>
                  rw [alone] at body
                  cases body
              | envelope bodyLen' body' closed =>
                  rw [body] at body'
                  cases body'
                  obtain ⟨groups, payload, parsed⟩ := closed_alone input bodyLen span.totalLen behind within closed
                  exact closed_not_waiting limits _ bodyLen arrived _ groups payload parsed (Prod.ext waits rfl)

theorem span_alone (input : Bytes) (span : FrameSpan)
    (emits : outcome (MessageFramer.advance false input) (MessageFramer.new limits) = .ok (some span))
    (delimits : span.Delimits input) :
    outcome (MessageFramer.advance false (input.take span.totalLen)) (MessageFramer.new limits) = .ok (some span) := by
  have resumable := framer_resumable limits
  have whole := List.take_append_drop span.totalLen input
  have emission := framer_emits limits false input span emits
  generalize ran : exec (MessageFramer.advance false (input.take span.totalLen)) (MessageFramer.new limits) = result
  obtain ⟨answer, next⟩ := result
  have fits := framer_fits_new limits (input.take span.totalLen)
  rw [outcome, ran]
  by_cases broken : Breaks answer
  · obtain ⟨other, final, again, error, same⟩ := resumable.refused _ (input.drop span.totalLen) _ answer next fits ran broken
    rw [whole] at again
    rw [outcome, again, same] at emits
    cases emits
  · by_cases waits : answer = .ok none
    · exfalso
      rw [waits] at ran
      exact delimited_not_waiting limits input span delimits emission next ran
    · have again := resumable.settled _ (input.drop span.totalLen) _ answer next fits ran waits broken
      rw [whole] at again
      rwa [outcome, again] at emits

-- The pieces a stream arrives in do not show: what a framer emits over the
-- prefixes of a stream, it emits over the whole of it, and a message that says
-- itself where it ends is framed alike whatever follows it.
theorem framing_in_pieces (start : Bytes) (later : List Bytes) (stream : Bytes) (grows : (start :: later).IsChain (· <+: ·))
    (last : (start :: later).getLast? = some stream) :
    let answer := (feed (· = .ok none) (fun input => exec (MessageFramer.advance false input)) (MessageFramer.new limits)
      start later).1
    let whole := outcome (MessageFramer.advance false stream) (MessageFramer.new limits)
    (∀ span, answer = .ok (some span) → whole = .ok (some span)) ∧
      ((∃ error, answer = .error error) → ∃ error, whole = .error error) ∧ (answer = .ok none → whole = .ok none) ∧
      ∀ span, whole = .ok (some span) → span.Delimits stream → ∀ rest,
        outcome (MessageFramer.advance false (stream.take span.totalLen ++ rest)) (MessageFramer.new limits) = .ok (some span) := by
  intro answer whole
  have resumable := framer_resumable limits
  have agrees := feed_agrees resumable (MessageFramer.new limits) start later stream (framer_fits_new limits start) grows last
  refine ⟨?_, agrees.2.1, agrees.2.2, ?_⟩
  · intro span emits
    have settled : ¬answer = .ok none ∧ ¬Breaks answer := by
      rw [emits]
      exact ⟨nofun, breaks_ok _⟩
    exact Eq.trans (agrees.1 settled.1 settled.2) emits
  · intro span emits delimits rest
    have alone := span_alone limits stream span emits delimits
    rw [outcome] at alone ⊢
    generalize ran : exec (MessageFramer.advance false (stream.take span.totalLen)) (MessageFramer.new limits) = result at alone
    obtain ⟨emitted', next⟩ := result
    have same : emitted' = .ok (some span) := alone
    rw [same] at ran
    rw [resumable.settled _ rest _ _ next (framer_fits_new limits _) ran nofun (breaks_ok _)]

-- A message and its envelope, arriving in three pieces.
theorem framing_in_pieces_envelope :
    let pieces := ["\x7b\"v\":\"KERI10", "\x7b\"v\":\"KERI10JSON00001f_\",\"a\":1\x7d-V",
      "\x7b\"v\":\"KERI10JSON00001f_\",\"a\":1\x7d-VAA-VAA"].map asBytes
    let answer := (feed (· = .ok none) (fun input => exec (MessageFramer.advance false input)) (MessageFramer.new codecLimits)
      (pieces.headD []) pieces.tail).1
    let whole := outcome (MessageFramer.advance false (pieces.getLastD [])) (MessageFramer.new codecLimits)
    (∀ span, answer = .ok (some span) → whole = .ok (some span)) ∧
      ((∃ error, answer = .error error) → ∃ error, whole = .error error) ∧ (answer = .ok none → whole = .ok none) ∧
      ∀ span, whole = .ok (some span) → span.Delimits (pieces.getLastD []) → ∀ rest,
        outcome (MessageFramer.advance false ((pieces.getLastD []).take span.totalLen ++ rest)) (MessageFramer.new codecLimits) =
          .ok (some span) :=
  framing_in_pieces codecLimits _ _ _ (by decide) (by decide)

end Emissions

end Cesr.Stream
