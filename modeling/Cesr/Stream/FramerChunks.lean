import Cesr.Stream.FramerRun

set_option autoImplicit false

namespace Cesr.Stream

open Base64 Checks Calls Resume Loops

section Bare

variable (limits : FrameLimits)

def BareFits (input : Bytes) (group : GroupFrameCursor) : Prop := ∃ fresh, Begun .v1 limits fresh group input

def FrameLimits.emitBare (total : Nat) (group : GroupFrameCursor) :
    Except ParseError Nat → Except ParseError (Option FrameSpan) × GroupFrameCursor
  | .ok _ => (.ok (some ⟨none, total⟩), group)
  | .error error => (.error error, group)

def FrameLimits.bareFramed (endOfInput : Bool) (input : Bytes) :
    Except ParseError Nat × GroupFrameCursor → Except ParseError (Option FrameSpan) × GroupFrameCursor
  | (.ok total, group) => FrameLimits.emitBare total group (limits.scanPayload group input group.signatureTotal)
  | (.error error, group) => (waitAtEnd endOfInput error, group)

theorem exec_advance_bare (endOfInput : Bool) (input : Bytes) (group : GroupFrameCursor) :
    exec (limits.advanceBare endOfInput input) group =
      limits.bareFramed endOfInput input (CesrCodec.frame limits group input) := by
  unfold FrameLimits.advanceBare CesrCodec.frame
  rw [exec_attempt_bind]
  generalize exec (GroupFrameCursor.advanceLimited limits.maxAttachmentBytes limits.maxGroupElements limits.maxSignatures input)
    group = ran
  obtain ⟨answer, final⟩ := ran
  cases answer with
  | error error => rfl
  | ok total =>
      dsimp only [FrameLimits.bareFramed]
      rw [exec_get_bind, exec_bind, exec_check]
      cases limits.scanPayload final input final.signatureTotal <;> rfl

theorem wait_open (error : ParseError) :
    NeedsBytes error ∧ (waitAtEnd false error : Except ParseError (Option FrameSpan)) = .ok none ∨
      ¬NeedsBytes error ∧ (waitAtEnd false error : Except ParseError (Option FrameSpan)) = .error error := by
  cases error with
  | needBytes missing => exact .inl ⟨needs_bytes missing, rfl⟩
  | _ =>
      refine .inr ⟨?_, rfl⟩
      intro short
      obtain ⟨_, impossible⟩ := short
      cases impossible

theorem begun_ends (input : Bytes) (group final : GroupFrameCursor) (total : Nat) (fits : BareFits limits input group)
    (framed : CesrCodec.frame limits group input = (.ok total, final)) : final.endOffset ≤ input.length := by
  obtain ⟨fresh, begun⟩ := fits
  have same := begun.same []
  rw [List.append_nil, framed] at same
  have follows := group_framed limits.maxAttachmentBytes limits.maxGroupElements limits.maxSignatures .v1 input fresh begun.read
  unfold CesrCodec.frame at same
  rw [← same] at follows
  cases follows with
  | taken sized result final' read given reached =>
      cases given
      rw [reached.stop, reached.size]
      exact (sized_of_reads .v1).within _ sized read
  | failed error other final' read given same' => cases given
  | gave error final' bites given reason => cases given

theorem bare_resumable : SpanResumable (BareFits limits) (limits.advanceBare false) := by
  have framing := advance_limited_resumable limits.maxAttachmentBytes limits.maxGroupElements limits.maxSignatures
  have same : ∀ start more group total final, BareFits limits start group →
      CesrCodec.frame limits group start = (.ok total, final) →
        exec (limits.advanceBare false (start ++ more)) group = exec (limits.advanceBare false start) group := by
    intro start more group total final fits framed
    obtain ⟨fresh, begun⟩ := fits
    have again := resumable_ok framing start more group final total begun.begun framed
    have ends := begun_ends limits start group final total ⟨fresh, begun⟩ framed
    rw [exec_advance_bare, exec_advance_bare, framed,
      show CesrCodec.frame limits group (start ++ more) = (.ok total, final) from again]
    dsimp only [FrameLimits.bareFramed]
    rw [scan_payload_longer limits final start more _ ends]
  apply Resumable.mk
  · intro start more group answer next fits given waits breaks
    cases framed : CesrCodec.frame limits group start with
    | mk framed' final =>
        cases framed' with
        | ok total => rw [same start more group total final fits framed, given]
        | error error =>
            rw [exec_advance_bare, framed] at given
            dsimp only [FrameLimits.bareFramed] at given
            rcases wait_open error with ⟨_, open'⟩ | ⟨_, open'⟩
            · rw [open'] at given
              cases given
              exact absurd rfl waits
            · rw [open'] at given
              cases given
              exact absurd ⟨error, rfl⟩ breaks
  · intro start more group answer next fits given breaks
    cases framed : CesrCodec.frame limits group start with
    | mk framed' final =>
        cases framed' with
        | ok total => exact ⟨answer, next, by rw [same start more group total final fits framed, given], breaks⟩
        | error error =>
            rw [exec_advance_bare, framed] at given
            dsimp only [FrameLimits.bareFramed] at given
            rcases wait_open error with ⟨_, open'⟩ | ⟨long, _⟩
            · rw [open'] at given
              cases given
              exact absurd breaks (breaks_ok _)
            · obtain ⟨fresh, begun⟩ := fits
              obtain ⟨other, final', again, longer⟩ := resumable_error framing start more group final error begun.begun framed long
              refine ⟨.error other, final', ?_, other, rfl⟩
              rw [exec_advance_bare, show CesrCodec.frame limits group (start ++ more) = (.error other, final') from again]
              dsimp only [FrameLimits.bareFramed]
              rcases wait_open other with ⟨short, _⟩ | ⟨_, ended⟩
              · exact absurd short longer
              · rw [ended]
  · intro start more group answer next fits given waits
    rw [waits] at given
    rw [exec_advance_bare] at given
    cases framed : CesrCodec.frame limits group start with
    | mk framed' final =>
        rw [framed] at given
        cases framed' with
        | ok total =>
            dsimp only [FrameLimits.bareFramed] at given
            cases scanned : limits.scanPayload final start final.signatureTotal with
            | ok signatures =>
                rw [scanned] at given
                cases given
            | error error =>
                rw [scanned] at given
                cases given
        | error error =>
            dsimp only [FrameLimits.bareFramed] at given
            rcases wait_open error with ⟨short, _⟩ | ⟨_, ended⟩
            · obtain ⟨fresh, begun⟩ := fits
              have kept : final = next := (Prod.mk.inj given).2
              have again := (resumable_short framing start more group final error begun.begun framed short).1
              rw [← kept]
              refine ⟨?_, fresh, begun_longer .v1 limits fresh final start more
                (begun_waits .v1 limits fresh group final start error begun framed short)⟩
              rw [exec_advance_bare, exec_advance_bare]
              exact congrArg _ again
            · rw [ended] at given
              cases given

end Bare

section Heads

structure HeadFits (input : Bytes) (head : JsonVersionHead) : Prop where
  within : head.offset ≤ max 1 input.length
  same : ∀ more, input ++ more ≠ [] →
    exec (JsonVersionHead.advance (input ++ more)) head = exec (JsonVersionHead.advance (input ++ more)) JsonVersionHead.new

theorem head_fits_new (input : Bytes) : HeadFits input JsonVersionHead.new := by
  apply HeadFits.mk
  · exact Nat.le_max_left 1 _
  · exact fun _ _ => rfl

theorem head_fits_longer (input more : Bytes) (head : JsonVersionHead) (fits : HeadFits input head) :
    HeadFits (input ++ more) head := by
  apply HeadFits.mk
  · have within := fits.within
    rw [List.length_append]
    omega
  · intro later some'
    rw [List.append_assoc] at some' ⊢
    exact fits.same (more ++ later) some'

theorem exec_advance_new (input : Bytes) (some' : input ≠ []) :
    exec (JsonVersionHead.advance input) JsonVersionHead.new = JsonVersionHead.scan (input.drop 1) JsonVersionHead.new :=
  exec_head_advance input JsonVersionHead.new (List.length_pos_iff.mpr some')

theorem advance_new_settled (input more : Bytes) (some' : input ≠ []) (answer : Except ParseError Nat) (next : JsonVersionHead)
    (given : exec (JsonVersionHead.advance input) JsonVersionHead.new = (answer, next)) (ends : ¬Waits NeedsBytes answer) :
    exec (JsonVersionHead.advance (input ++ more)) JsonVersionHead.new = (answer, next) := by
  rw [exec_advance_new input some'] at given
  rw [exec_advance_new _ (by simp [some']), List.drop_append_of_le_length (List.length_pos_iff.mpr some')]
  exact scan_ends JsonVersionHead.new next _ more answer given ends

theorem head_fits_next (input : Bytes) (some' : input ≠ []) (answer : Except ParseError Nat) (next : JsonVersionHead)
    (given : exec (JsonVersionHead.advance input) JsonVersionHead.new = (answer, next)) (going : ¬Fails NeedsBytes answer) :
    HeadFits input next := by
  have positive : 1 ≤ input.length := List.length_pos_iff.mpr some'
  have scanned := given
  rw [exec_advance_new input some'] at scanned
  have length : (input.drop 1).length = input.length - 1 := List.length_drop
  cases answer with
  | ok offset =>
      obtain ⟨complete, size, reach, moved, _⟩ := scan_ok JsonVersionHead.new next _ offset scanned
      have within : offset ≤ input.length := by
        rw [moved, JsonVersionHead.new]
        dsimp only
        omega
      apply HeadFits.mk
      · rw [complete]
        exact Nat.le_trans within (Nat.le_max_right _ _)
      · intro more more'
        rw [advance_new_settled input more some' _ next given (waits_ok NeedsBytes offset), complete, exec_head_advance]
        · cases (input ++ more).drop offset <;> rw [JsonVersionHead.scan, if_pos rfl]
        · rw [List.length_append]
          exact Nat.le_trans within (Nat.le_add_right _ _)
  | error error =>
      have wait : NeedsBytes error := by
        by_cases wait : NeedsBytes error
        · exact wait
        · exact absurd ⟨error, rfl, wait⟩ going
      have arrived : next.offset = input.length := by
        have moved := (scan_waits JsonVersionHead.new next _ [] error scanned wait).1
        rw [moved, length, JsonVersionHead.new]
        exact Nat.add_sub_cancel' positive
      apply HeadFits.mk
      · rw [arrived]
        exact Nat.le_max_right _ _
      · intro more more'
        rw [exec_advance_new _ more', List.drop_append_of_le_length positive,
          (scan_waits JsonVersionHead.new next _ more error scanned wait).2.2, exec_head_advance, arrived, List.drop_left]
        rw [arrived, List.length_append]
        exact Nat.le_add_right _ _

theorem exec_declared_json (input : Bytes) (head : JsonVersionHead) :
    exec (JsonVersionHead.declared input .json) head =
      ((exec (JsonVersionHead.advance input) head).1 >>= fun offset => JsonVersionHead.eventSizeAt input offset .json,
        (exec (JsonVersionHead.advance input) head).2) := by
  rw [JsonVersionHead.declared, if_pos rfl, exec_bind]
  cases exec (JsonVersionHead.advance input) head with
  | mk answer next => cases answer <;> rfl

theorem exec_declared_binary (input : Bytes) (cold : ColdCode) (binary : cold ≠ .json) (head : JsonVersionHead) :
    exec (JsonVersionHead.declared input cold) head = (JsonVersionHead.eventSize input cold, head) := by
  rw [JsonVersionHead.declared, if_neg binary, exec_check]

theorem declared_fits (input : Bytes) (cold : ColdCode) (head : JsonVersionHead) (some' : input ≠ [])
    (fits : HeadFits input head) :
    (exec (JsonVersionHead.declared input cold) head).1 = JsonVersionHead.eventSize input cold := by
  have same := fits.same [] (by rwa [List.append_nil])
  rw [List.append_nil] at same
  by_cases json : cold = .json
  · rw [json, exec_declared_json, same, JsonVersionHead.eventSize, if_pos rfl]
    rfl
  · rw [exec_declared_binary input cold json head]

theorem declared_waits (input : Bytes) (cold : ColdCode) (head : JsonVersionHead) (some' : input ≠ [])
    (fits : HeadFits input head) (going : ¬Fails NeedsBytes (JsonVersionHead.eventSize input cold)) :
    HeadFits input (exec (JsonVersionHead.declared input cold) head).2 := by
  have same := fits.same [] (by rwa [List.append_nil])
  rw [List.append_nil] at same
  by_cases json : cold = .json
  · rw [json, exec_declared_json, same]
    rw [json, JsonVersionHead.eventSize, if_pos rfl, outcome] at going
    generalize advanced : exec (JsonVersionHead.advance input) JsonVersionHead.new = result at going ⊢
    obtain ⟨answer, next⟩ := result
    refine head_fits_next input some' answer next advanced ?_
    intro found
    obtain ⟨error, failed, long⟩ := found
    apply going
    rw [failed]
    exact ⟨error, rfl, long⟩
  · rw [exec_declared_binary input cold json head]
    exact fits

theorem declared_settled (input more : Bytes) (cold : ColdCode) (head : JsonVersionHead) (some' : input ≠ [])
    (fits : HeadFits input head) (size : Nat) (declared : JsonVersionHead.eventSize input cold = .ok size) :
    exec (JsonVersionHead.declared (input ++ more) cold) head = exec (JsonVersionHead.declared input cold) head := by
  have some'' : input ++ more ≠ [] := by simp [some']
  have longer := (event_size_steady cold input more some').1 size declared
  apply Prod.ext
  · rw [declared_fits _ cold head some'' (head_fits_longer input more head fits), declared_fits _ cold head some' fits, longer,
      declared]
  · have same := fits.same [] (by rwa [List.append_nil])
    rw [List.append_nil] at same
    by_cases json : cold = .json
    · rw [json, exec_declared_json, exec_declared_json, fits.same more some'', same]
      dsimp only
      rw [json, JsonVersionHead.eventSize, if_pos rfl] at declared
      obtain ⟨offset, found, _⟩ := (bind_ok _ _ _).mp declared
      rw [advance_new_settled input more some' (.ok offset) _ (Prod.ext found rfl) (waits_ok NeedsBytes offset)]
    · rw [exec_declared_binary _ cold json head, exec_declared_binary _ cold json head]

end Heads

section Starts

variable (limits : FrameLimits)

def FrameLimits.startOf (limits : FrameLimits) (endOfInput : Bool) : Bytes → Except ParseError (Option FramerState)
  | [] => .ok none
  | first :: rest =>
      ColdCode.detect first >>= fun cold =>
        match cold with
        | .cesrBase64 => limits.startGroup 0 (first :: rest) endOfInput >>= fun begun => pure (begun.map FramerState.bare)
        | .cesrBinary => .error (.unsupportedColdStart .cesrBinary)
        | cold => limits.startBody (first :: rest).length endOfInput (JsonVersionHead.eventSize (first :: rest) cold)

theorem start_body_cold (endOfInput : Bool) (first : UInt8) (rest : Bytes) (cold : ColdCode)
    (detected : ColdCode.detect first = .ok cold) (body : cold ≠ .cesrBase64 ∧ cold ≠ .cesrBinary) :
    limits.startOf endOfInput (first :: rest) =
      limits.startBody (first :: rest).length endOfInput (JsonVersionHead.eventSize (first :: rest) cold) := by
  rw [FrameLimits.startOf, detected, ok_bind]
  cases cold with
  | cesrBase64 => exact absurd rfl body.1
  | cesrBinary => exact absurd rfl body.2
  | _ => rfl

theorem exec_start_body (endOfInput : Bool) (first : UInt8) (rest : Bytes) (cold : ColdCode) (head : JsonVersionHead)
    (detected : ColdCode.detect first = .ok cold) (body : cold ≠ .cesrBase64 ∧ cold ≠ .cesrBinary) :
    exec (MessageFramer.start (first :: rest) endOfInput) ⟨limits, none, head⟩ =
      (limits.startBody (first :: rest).length endOfInput (exec (JsonVersionHead.declared (first :: rest) cold) head).1,
        ⟨limits, none, (exec (JsonVersionHead.declared (first :: rest) cold) head).2⟩) := by
  unfold MessageFramer.start
  rw [exec_get_bind]
  dsimp only
  rw [exec_bind, exec_check, detected]
  cases cold with
  | cesrBase64 => exact absurd rfl body.1
  | cesrBinary => exact absurd rfl body.2
  | _ => rfl

theorem exec_start_base64 (endOfInput : Bool) (first : UInt8) (rest : Bytes) (head : JsonVersionHead)
    (detected : ColdCode.detect first = .ok .cesrBase64) :
    exec (MessageFramer.start (first :: rest) endOfInput) ⟨limits, none, head⟩ =
      (limits.startOf endOfInput (first :: rest), ⟨limits, none, head⟩) := by
  unfold MessageFramer.start
  rw [exec_get_bind, FrameLimits.startOf]
  dsimp only
  rw [exec_bind, exec_check, detected, ok_bind]
  dsimp only
  rw [exec_bind, exec_check]
  cases limits.startGroup 0 (first :: rest) endOfInput <;> rfl

-- The first byte leads to a body, to a group, or nowhere.
inductive StartsWith (first : UInt8) : Prop where
  | body (cold : ColdCode) (detected : ColdCode.detect first = .ok cold) (body : cold ≠ .cesrBase64 ∧ cold ≠ .cesrBinary)
  | group (detected : ColdCode.detect first = .ok .cesrBase64)
  | neither (error : ParseError) (refused : ∀ limits endOfInput head rest,
      exec (MessageFramer.start (first :: rest) endOfInput) ⟨limits, none, head⟩ = (.error error, ⟨limits, none, head⟩) ∧
        FrameLimits.startOf limits endOfInput (first :: rest) = .error error)

theorem starts_with (first : UInt8) : StartsWith first := by
  cases detected : ColdCode.detect first with
  | error error =>
      refine .neither error ?_
      intro limits endOfInput head rest
      unfold MessageFramer.start FrameLimits.startOf
      rw [exec_get_bind]
      dsimp only
      rw [exec_bind, exec_check, detected]
      exact ⟨rfl, rfl⟩
  | ok cold =>
      cases cold with
      | cesrBase64 => exact .group detected
      | cesrBinary =>
          refine .neither (.unsupportedColdStart .cesrBinary) ?_
          intro limits endOfInput head rest
          unfold MessageFramer.start FrameLimits.startOf
          rw [exec_get_bind]
          dsimp only
          rw [exec_bind, exec_check, detected]
          exact ⟨rfl, rfl⟩
      | json => exact .body .json detected ⟨nofun, nofun⟩
      | cbor => exact .body .cbor detected ⟨nofun, nofun⟩
      | messagePack => exact .body .messagePack detected ⟨nofun, nofun⟩

theorem exec_start (endOfInput : Bool) (input : Bytes) (head : JsonVersionHead) (fits : HeadFits input head) :
    (exec (MessageFramer.start input endOfInput) ⟨limits, none, head⟩).1 = limits.startOf endOfInput input ∧
      ∃ next, (exec (MessageFramer.start input endOfInput) ⟨limits, none, head⟩).2 = ⟨limits, none, next⟩ := by
  cases input with
  | nil => exact ⟨rfl, head, rfl⟩
  | cons first rest =>
      cases starts_with first with
      | body cold detected body =>
          rw [exec_start_body limits endOfInput first rest cold head detected body,
            start_body_cold limits endOfInput first rest cold detected body,
            ← declared_fits (first :: rest) cold head (List.cons_ne_nil _ _) fits]
          exact ⟨rfl, _, rfl⟩
      | group detected =>
          rw [exec_start_base64 limits endOfInput first rest head detected]
          exact ⟨rfl, head, rfl⟩
      | neither error refused =>
          obtain ⟨ran, same⟩ := refused limits endOfInput head rest
          rw [ran, same]
          exact ⟨rfl, head, rfl⟩

theorem start_body_waits (available : Nat) (declared : Except ParseError Nat)
    (waits : limits.startBody available false declared = .ok none) : ∃ error, declared = .error error ∧ NeedsBytes error := by
  cases declared with
  | ok bodyLen =>
      simp only [FrameLimits.startBody, bind_ok, pure_ok, reduceCtorEq, and_false, exists_false] at waits
  | error error =>
      cases error with
      | needBytes missing => exact ⟨_, rfl, needs_bytes missing⟩
      | _ => cases waits

theorem start_body_some (available : Nat) (endOfInput : Bool) (declared : Except ParseError Nat) (state : FramerState)
    (started : limits.startBody available endOfInput declared = .ok (some state)) :
    ∃ bodyLen, declared = .ok bodyLen ∧ bodyLen ≤ limits.maxBodyBytes ∧ state = .event (EventProgress.ofBody bodyLen) := by
  cases declared with
  | ok bodyLen =>
      simp only [FrameLimits.startBody, bind_ok, reject_if_ok, exists_done, pure_ok, Option.some.injEq, Nat.not_lt] at started
      exact ⟨bodyLen, rfl, started.1, started.2.symm⟩
  | error error =>
      cases error with
      | needBytes missing =>
          simp only [FrameLimits.startBody, bind_ok] at started
          obtain ⟨_, _, pending⟩ := started
          cases endOfInput <;> cases pending
      | _ => cases started

theorem start_waits (input : Bytes) (head : JsonVersionHead) (fits : HeadFits input head)
    (waits : limits.startOf false input = .ok none) :
    ∃ next, exec (MessageFramer.start input false) ⟨limits, none, head⟩ = (.ok none, ⟨limits, none, next⟩) ∧
      HeadFits input next ∧ ∀ more, exec (MessageFramer.start (input ++ more) false) ⟨limits, none, next⟩ =
        exec (MessageFramer.start (input ++ more) false) ⟨limits, none, head⟩ := by
  cases input with
  | nil => exact ⟨head, rfl, fits, fun _ => rfl⟩
  | cons first rest =>
      cases starts_with first with
      | body cold detected body =>
          have some' : first :: rest ≠ [] := List.cons_ne_nil _ _
          rw [start_body_cold limits false first rest cold detected body] at waits
          obtain ⟨error, failed, short⟩ := start_body_waits limits _ _ waits
          have declared := declared_fits (first :: rest) cold head some' fits
          have fits' := declared_waits (first :: rest) cold head some' fits (by
            intro found
            obtain ⟨other, same, long⟩ := found
            rw [failed] at same
            cases same
            exact long short)
          generalize ran : exec (JsonVersionHead.declared (first :: rest) cold) head = result at declared fits'
          obtain ⟨answer, next⟩ := result
          refine ⟨next, ?_, fits', ?_⟩
          · rw [exec_start_body limits false first rest cold head detected body, ran, declared, waits]
          · intro more
            have longer : first :: rest ++ more ≠ [] := by simp
            have again : exec (JsonVersionHead.declared (first :: rest ++ more) cold) next =
                exec (JsonVersionHead.declared (first :: rest ++ more) cold) head := by
              by_cases json : cold = .json
              · rw [json, exec_declared_json, exec_declared_json _ head, fits'.same more longer, fits.same more longer]
              · rw [exec_declared_binary (first :: rest) cold json head] at ran
                rw [(Prod.mk.inj ran).2]
            rw [List.cons_append] at again ⊢
            rw [exec_start_body limits false first _ cold _ detected body, exec_start_body limits false first _ cold head detected body,
              again]
      | group detected =>
          refine ⟨head, ?_, fits, fun _ => rfl⟩
          rw [exec_start_base64 limits false first rest head detected, waits]
      | neither error refused =>
          rw [(refused limits false head rest).2] at waits
          cases waits

theorem start_settled (input more : Bytes) (head : JsonVersionHead) (fits : HeadFits input head) (state : FramerState)
    (started : limits.startOf false input = .ok (some state)) :
    exec (MessageFramer.start (input ++ more) false) ⟨limits, none, head⟩ =
      exec (MessageFramer.start input false) ⟨limits, none, head⟩ := by
  cases input with
  | nil => cases started
  | cons first rest =>
      cases starts_with first with
      | body cold detected body =>
          rw [start_body_cold limits false first rest cold detected body] at started
          obtain ⟨bodyLen, declared, small, same⟩ := start_body_some limits _ false _ state started
          have some' : first :: rest ≠ [] := List.cons_ne_nil _ _
          have again := declared_settled (first :: rest) more cold head some' fits bodyLen declared
          rw [List.cons_append] at again
          rw [List.cons_append, exec_start_body limits false first _ cold head detected body,
            exec_start_body limits false first rest cold head detected body, again, declared_fits _ cold head some' fits, declared]
          rfl
      | group detected =>
          simp only [FrameLimits.startOf, detected, ok_bind, bind_ok, pure_ok] at started
          obtain ⟨begun, read, same⟩ := started
          cases begun with
          | none => cases same
          | some group =>
              have again := start_group_settled limits 0 (first :: rest) more group read
              rw [List.cons_append] at again
              rw [List.cons_append, exec_start_base64 limits false first _ head detected,
                exec_start_base64 limits false first rest head detected]
              simp only [FrameLimits.startOf, detected, ok_bind, read, again]
      | neither error refused =>
          rw [(refused limits false head rest).2] at started
          cases started

-- What is given up at the start is given up when more bytes arrive, at the
-- latest when the group that then begins is checked against the budget.
theorem start_refused (input more : Bytes) (error : ParseError) (failed : limits.startOf false input = .error error) :
    (∃ other, limits.startOf false (input ++ more) = .error other) ∨
      ∃ group, limits.startOf false (input ++ more) = .ok (some (.bare group)) ∧ limits.maxAttachmentBytes < group.endOffset := by
  cases input with
  | nil => cases failed
  | cons first rest =>
      cases starts_with first with
      | body cold detected body =>
          have some' : first :: rest ≠ [] := List.cons_ne_nil _ _
          have steady := event_size_steady cold (first :: rest) more some'
          rw [start_body_cold limits false first rest cold detected body] at failed
          rw [List.cons_append, start_body_cold limits false first _ cold detected body, ← List.cons_append]
          refine .inl ?_
          cases declared : JsonVersionHead.eventSize (first :: rest) cold with
          | ok bodyLen =>
              rw [declared] at failed
              rw [steady.1 bodyLen declared]
              exact ⟨error, failed⟩
          | error given =>
              rw [declared] at failed
              by_cases short : NeedsBytes given
              · obtain ⟨missing, same⟩ := short
                rw [same] at failed
                simp only [FrameLimits.startBody, bind_error, reject_if_error, pendingAt, Bool.false_eq_true, if_false,
                  reduceCtorEq, and_false, exists_false, or_false] at failed
                have full : limits.maxBodyBytes ≤ (first :: rest ++ more).length := by
                  rw [List.length_append]
                  exact Nat.le_trans failed.1 (Nat.le_add_right _ _)
                cases later : JsonVersionHead.eventSize (first :: rest ++ more) cold with
                | ok size =>
                    have large := event_size_short cold (first :: rest) more given size some' declared later
                    have over' : limits.maxBodyBytes < size := Nat.lt_of_le_of_lt failed.1 large
                    refine ⟨.limitExceeded .bodyBytes limits.maxBodyBytes size, ?_⟩
                    rw [FrameLimits.startBody, rejectIf, if_pos over']
                    rfl
                | error other =>
                    cases other with
                    | needBytes missing' =>
                        refine ⟨.limitExceeded .bodyBytes limits.maxBodyBytes
                          (saturatingAdd (first :: rest ++ more).length missing'), ?_⟩
                        rw [FrameLimits.startBody, rejectIf, if_pos full]
                        rfl
                    | _ => exact ⟨_, rfl⟩
              · obtain ⟨other, again, long⟩ := steady.2 given declared short
                rw [again]
                cases other with
                | needBytes missing' => exact absurd (needs_bytes missing') long
                | _ => exact ⟨_, rfl⟩
      | group detected =>
          simp only [FrameLimits.startOf, detected, ok_bind, bind_error, pure_error, and_false, exists_false, or_false] at failed
          simp only [List.cons_append, FrameLimits.startOf, detected, ok_bind, bind_error, bind_ok, pure_ok, pure_error, and_false,
            exists_false, or_false]
          rcases start_group_refused limits 0 (first :: rest) more error failed with ⟨other, again⟩ | ⟨group, again, large⟩
          · exact .inl ⟨other, again⟩
          · rw [Nat.zero_add] at large
            exact .inr ⟨group, ⟨some group, again, rfl⟩, large⟩
      | neither given refused =>
          refine .inl ⟨given, ?_⟩
          exact (refused limits false JsonVersionHead.new (rest ++ more)).2

end Starts

section Framers

variable (limits : FrameLimits)

inductive FramerFits (input : Bytes) : MessageFramer → Prop where
  | starting (head : JsonVersionHead) (fits : HeadFits input head) : FramerFits input ⟨limits, none, head⟩
  | event (progress : EventProgress) (head : JsonVersionHead) (fits : EventFits limits input progress) :
      FramerFits input ⟨limits, some (.event progress), head⟩
  | bare (group : GroupFrameCursor) (head : JsonVersionHead) (fits : BareFits limits input group) :
      FramerFits input ⟨limits, some (.bare group), head⟩

theorem framer_fits_new (input : Bytes) : FramerFits limits input (MessageFramer.new limits) :=
  .starting JsonVersionHead.new (head_fits_new input)

-- An emitted span leaves a framer for the next message behind.
def emitted {σ : Type} (limits : FrameLimits) (put : σ → MessageFramer) :
    Except ParseError (Option FrameSpan) × σ → Except ParseError (Option FrameSpan) × MessageFramer
  | (.ok (some span), _) => (.ok (some span), MessageFramer.new limits)
  | (answer, part) => (answer, put part)

theorem exec_advance_event (endOfInput : Bool) (input : Bytes) (progress : EventProgress) (head : JsonVersionHead) :
    exec (MessageFramer.advance endOfInput input) ⟨limits, some (.event progress), head⟩ =
      emitted limits (fun progress => ⟨limits, some (.event progress), head⟩)
        (exec (EventProgress.advance limits endOfInput input) progress) := by
  unfold MessageFramer.advance MessageFramer.begin MessageFramer.advanceState
  rw [exec_bind, exec_get_bind]
  dsimp only [Option.isNone]
  rw [if_neg Bool.false_ne_true, exec_pure]
  dsimp only
  rw [exec_bind, exec_get_bind]
  dsimp only
  rw [exec_on_part]
  generalize exec (EventProgress.advance limits endOfInput input) progress = result
  obtain ⟨answer, final⟩ := result
  cases answer with
  | error error => rfl
  | ok value => cases value <;> rfl

theorem exec_advance_group (endOfInput : Bool) (input : Bytes) (group : GroupFrameCursor) (head : JsonVersionHead) :
    exec (MessageFramer.advance endOfInput input) ⟨limits, some (.bare group), head⟩ =
      emitted limits (fun group => ⟨limits, some (.bare group), head⟩) (exec (limits.advanceBare endOfInput input) group) := by
  unfold MessageFramer.advance MessageFramer.begin MessageFramer.advanceState
  rw [exec_bind, exec_get_bind]
  dsimp only [Option.isNone]
  rw [if_neg Bool.false_ne_true, exec_pure]
  dsimp only
  rw [exec_bind, exec_get_bind]
  dsimp only
  rw [exec_on_part]
  generalize exec (limits.advanceBare endOfInput input) group = result
  obtain ⟨answer, final⟩ := result
  cases answer with
  | error error => rfl
  | ok value => cases value <;> rfl

def MessageFramer.started (endOfInput : Bool) (input : Bytes) :
    Except ParseError (Option FramerState) × MessageFramer → Except ParseError (Option FrameSpan) × MessageFramer
  | (.error error, framer) => (.error error, framer)
  | (.ok none, framer) => (.ok none, { framer with state := none })
  | (.ok (some state), framer) => exec (MessageFramer.advance endOfInput input) { framer with state := some state }

theorem exec_advance_start (endOfInput : Bool) (input : Bytes) (head : JsonVersionHead) :
    exec (MessageFramer.advance endOfInput input) ⟨limits, none, head⟩ =
      MessageFramer.started endOfInput input (exec (MessageFramer.start input endOfInput) ⟨limits, none, head⟩) := by
  generalize ran : exec (MessageFramer.start input endOfInput) ⟨limits, none, head⟩ = result
  have begins : exec (MessageFramer.begin input endOfInput) ⟨limits, none, head⟩ =
      exec (MessageFramer.start input endOfInput >>= fun state => modify (MessageFramer.keepState state)) ⟨limits, none, head⟩ := rfl
  unfold MessageFramer.advance
  rw [exec_bind, begins, exec_bind, ran]
  obtain ⟨answer, framer⟩ := result
  cases answer with
  | error error => rfl
  | ok begun =>
      cases begun with
      | none => rfl
      | some state => rfl

theorem fits_started (input : Bytes) (state : FramerState) (head : JsonVersionHead)
    (started : limits.startOf false input = .ok (some state)) : FramerFits limits input ⟨limits, some state, head⟩ := by
  cases input with
  | nil => cases started
  | cons first rest =>
      cases starts_with first with
      | body cold detected body =>
          rw [start_body_cold limits false first rest cold detected body] at started
          obtain ⟨bodyLen, _, _, same⟩ := start_body_some limits _ false _ state started
          rw [same]
          apply FramerFits.event
          by_cases few : (first :: rest).length < bodyLen
          · exact .inl ⟨few, rfl⟩
          · exact .inr (event_walk_body limits _ bodyLen (Nat.le_of_not_lt few))
      | group detected =>
          simp only [FrameLimits.startOf, detected, ok_bind, bind_ok, pure_ok] at started
          obtain ⟨begun, read, same⟩ := started
          cases begun with
          | none => cases same
          | some group =>
              cases same
              obtain ⟨fresh, allowed⟩ := (start_group_some limits false 0 _ group).mp read
              exact .bare group head ⟨group, begun_fresh .v1 limits group _ fresh allowed⟩
      | neither error refused =>
          rw [(refused limits false head rest).2] at started
          cases started

section Parts

variable {σ : Type} {fits : Bytes → σ → Prop} {call : Bytes → Mutator σ ParseError (Option FrameSpan)}
  (resumable : SpanResumable fits call) (put : σ → MessageFramer)

include resumable

theorem emitted_settled (start more : Bytes) (part : σ) (answer : Except ParseError (Option FrameSpan)) (next : MessageFramer)
    (fit : fits start part) (given : emitted limits put (exec (call start) part) = (answer, next)) (waits : answer ≠ .ok none)
    (breaks : ¬Breaks answer) : emitted limits put (exec (call (start ++ more)) part) = (answer, next) := by
  cases ran : exec (call start) part with
  | mk answer' final =>
      have same : answer' = answer := by
        rw [ran] at given
        cases answer' with
        | error error => exact (Prod.mk.inj given).1
        | ok value => cases value <;> exact (Prod.mk.inj given).1
      have again := resumable.settled start more part answer' final fit ran (by rw [same]; exact waits) (by rw [same]; exact breaks)
      rw [show exec (call (start ++ more)) part = (answer', final) from again, ← ran, given]

theorem emitted_refused (start more : Bytes) (part : σ) (answer : Except ParseError (Option FrameSpan)) (next : MessageFramer)
    (fit : fits start part) (given : emitted limits put (exec (call start) part) = (answer, next)) (breaks : Breaks answer) :
    Breaks (emitted limits put (exec (call (start ++ more)) part)).1 := by
  obtain ⟨error, same⟩ := breaks
  rw [same] at given
  cases ran : exec (call start) part with
  | mk answer' final =>
      rw [ran] at given
      have broken : Breaks answer' := by
        cases answer' with
        | error other => exact ⟨other, rfl⟩
        | ok value => cases value <;> cases given
      obtain ⟨other, final', again, error', same'⟩ := resumable.refused start more part answer' final fit ran broken
      rw [show exec (call (start ++ more)) part = (other, final') from again, same']
      exact ⟨error', rfl⟩

theorem emitted_waits (start more : Bytes) (part : σ) (next : MessageFramer) (fit : fits start part)
    (given : emitted limits put (exec (call start) part) = (.ok none, next)) :
    ∃ part', next = put part' ∧ fits (start ++ more) part' ∧ exec (call (start ++ more)) part' = exec (call (start ++ more)) part := by
  cases ran : exec (call start) part with
  | mk answer' final =>
      rw [ran] at given
      cases answer' with
      | error error => cases given
      | ok value =>
          cases value with
          | some span => cases given
          | none =>
              cases given
              obtain ⟨again, fit'⟩ := resumable.resumed start more part _ final fit ran rfl
              exact ⟨final, rfl, fit', again⟩

end Parts

theorem going_resumable : SpanResumable (fun input framer => FramerFits limits input framer ∧ framer.state ≠ none)
    (MessageFramer.advance false) := by
  have events := event_advance_resumable limits
  have bares := bare_resumable limits
  apply Resumable.mk
  · intro start more framer answer next fits given waits breaks
    obtain ⟨fits, going⟩ := fits
    cases fits with
    | starting head fits => exact absurd rfl going
    | event progress head fits =>
        rw [exec_advance_event] at given ⊢
        exact emitted_settled limits events _ start more progress answer next fits given waits breaks
    | bare group head fits =>
        rw [exec_advance_group] at given ⊢
        exact emitted_settled limits bares _ start more group answer next fits given waits breaks
  · intro start more framer answer next fits given breaks
    obtain ⟨fits, going⟩ := fits
    have broken : Breaks (exec (MessageFramer.advance false (start ++ more)) framer).1 := by
      cases fits with
      | starting head fits => exact absurd rfl going
      | event progress head fits =>
          rw [exec_advance_event] at given ⊢
          exact emitted_refused limits events _ start more progress answer next fits given breaks
      | bare group head fits =>
          rw [exec_advance_group] at given ⊢
          exact emitted_refused limits bares _ start more group answer next fits given breaks
    exact ⟨_, _, rfl, broken⟩
  · intro start more framer answer next fits given waits
    obtain ⟨fits, going⟩ := fits
    rw [waits] at given
    cases fits with
    | starting head fits => exact absurd rfl going
    | event progress head fits =>
        rw [exec_advance_event] at given
        obtain ⟨part, same, fits', again⟩ := emitted_waits limits events _ start more progress next fits given
        rw [same, exec_advance_event, exec_advance_event, again]
        exact ⟨rfl, .event part head fits', nofun⟩
    | bare group head fits =>
        rw [exec_advance_group] at given
        obtain ⟨part, same, fits', again⟩ := emitted_waits limits bares _ start more group next fits given
        rw [same, exec_advance_group, exec_advance_group, again]
        exact ⟨rfl, .bare part head fits', nofun⟩

theorem exec_start_of (input : Bytes) (head : JsonVersionHead) (fits : HeadFits input head) :
    ∃ next, exec (MessageFramer.start input false) ⟨limits, none, head⟩ = (limits.startOf false input, ⟨limits, none, next⟩) := by
  obtain ⟨answer, next, final⟩ := exec_start limits false input head fits
  exact ⟨next, Prod.ext answer final⟩

theorem advance_started (start : Bytes) (head : JsonVersionHead) (state : FramerState) (fits : HeadFits start head)
    (begun : limits.startOf false start = .ok (some state)) :
    ∃ next, FramerFits limits start ⟨limits, some state, next⟩ ∧ ∀ more,
      exec (MessageFramer.advance false (start ++ more)) ⟨limits, none, head⟩ =
        exec (MessageFramer.advance false (start ++ more)) ⟨limits, some state, next⟩ := by
  obtain ⟨next, ran⟩ := exec_start_of limits start head fits
  rw [begun] at ran
  refine ⟨next, fits_started limits start state next begun, ?_⟩
  intro more
  rw [exec_advance_start, start_settled limits start more head fits state begun, ran]
  rfl

theorem advance_start_refused (start more : Bytes) (head : JsonVersionHead) (error : ParseError) (fits : HeadFits start head)
    (failed : limits.startOf false start = .error error) :
    Breaks (exec (MessageFramer.advance false (start ++ more)) ⟨limits, none, head⟩).1 := by
  obtain ⟨next, ran⟩ := exec_start_of limits (start ++ more) head (head_fits_longer start more head fits)
  rw [exec_advance_start, ran]
  rcases start_refused limits start more error failed with ⟨other, again⟩ | ⟨group, again, large⟩
  · rw [again]
    exact ⟨other, rfl⟩
  · obtain ⟨given, framed, reason⟩ := frame_large limits group (start ++ more) large
    rw [again]
    dsimp only [MessageFramer.started]
    rw [exec_advance_group, exec_advance_bare, framed]
    obtain ⟨kind, limit, actual, same⟩ := reason
    rw [same]
    exact ⟨_, rfl⟩

theorem framer_resumable : SpanResumable (FramerFits limits) (MessageFramer.advance false) := by
  have going := going_resumable limits
  have whole : ∀ start : Bytes, start ++ [] = start := List.append_nil
  apply Resumable.mk
  · intro start more framer answer next fits given waits breaks
    by_cases idle : framer.state = none
    · cases fits with
      | event progress head fits => cases idle
      | bare group head fits => cases idle
      | starting head fits =>
          cases begun : limits.startOf false start with
          | error error =>
              have broken := advance_start_refused limits start [] head error fits begun
              rw [whole, given] at broken
              exact absurd broken breaks
          | ok started =>
              cases started with
              | none =>
                  obtain ⟨next', ran, _⟩ := start_waits limits start head fits begun
                  rw [exec_advance_start, ran] at given
                  exact absurd (Prod.mk.inj given).1.symm waits
              | some state =>
                  obtain ⟨next', fits', same⟩ := advance_started limits start head state fits begun
                  have here := same []
                  rw [whole, given] at here
                  rw [same more]
                  exact going.settled start more _ answer next ⟨fits', nofun⟩ here.symm waits breaks
    · exact going.settled start more framer answer next ⟨fits, idle⟩ given waits breaks
  · intro start more framer answer next fits given breaks
    by_cases idle : framer.state = none
    · cases fits with
      | event progress head fits => cases idle
      | bare group head fits => cases idle
      | starting head fits =>
          cases begun : limits.startOf false start with
          | error error => exact ⟨_, _, rfl, advance_start_refused limits start more head error fits begun⟩
          | ok started =>
              cases started with
              | none =>
                  obtain ⟨next', ran, _⟩ := start_waits limits start head fits begun
                  rw [exec_advance_start, ran] at given
                  rw [← (Prod.mk.inj given).1] at breaks
                  exact absurd breaks (breaks_ok _)
              | some state =>
                  obtain ⟨next', fits', same⟩ := advance_started limits start head state fits begun
                  have here := same []
                  rw [whole, given] at here
                  rw [same more]
                  exact going.refused start more _ answer next ⟨fits', nofun⟩ here.symm breaks
    · exact going.refused start more framer answer next ⟨fits, idle⟩ given breaks
  · intro start more framer answer next fits given waits
    by_cases idle : framer.state = none
    · cases fits with
      | event progress head fits => cases idle
      | bare group head fits => cases idle
      | starting head fits =>
          cases begun : limits.startOf false start with
          | error error =>
              have broken := advance_start_refused limits start [] head error fits begun
              rw [whole, given, waits] at broken
              exact absurd broken (breaks_ok _)
          | ok started =>
              cases started with
              | none =>
                  obtain ⟨next', ran, fits', again⟩ := start_waits limits start head fits begun
                  rw [exec_advance_start, ran] at given
                  rw [← (Prod.mk.inj given).2]
                  refine ⟨?_, .starting next' (head_fits_longer start more next' fits')⟩
                  rw [exec_advance_start, exec_advance_start, again more]
              | some state =>
                  obtain ⟨next', fits', same⟩ := advance_started limits start head state fits begun
                  have here := same []
                  rw [whole, given] at here
                  rw [same more]
                  obtain ⟨again, fits'', _⟩ := going.resumed start more _ answer next ⟨fits', nofun⟩ here.symm waits
                  exact ⟨again, fits''⟩
    · obtain ⟨again, fits', _⟩ := going.resumed start more framer answer next ⟨fits, idle⟩ given waits
      exact ⟨again, fits'⟩

end Framers

end Cesr.Stream
