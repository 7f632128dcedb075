import Cesr.Stream.EnclosureContents
import Cesr.Stream.FramerSpan

set_option autoImplicit false

namespace Cesr.Stream

open Base64 Checks Calls Resume Loops

section Attached

structure Attached where
  group : CesrGroup
  items : List EnclosedItem
deriving DecidableEq, Repr

def Attached.signatures (attached : Attached) : Nat := attached.group.signatures + itemSignatures attached.items

def attachedSignatures (groups : List Attached) : Nat := (groups.map Attached.signatures).sum

inductive Attached.Encloses (attached : Attached) : Prop where
  | plain (closed : attached.group.enclosed = none) (empty : attached.items = [])
  | enclosure (payload : Bytes) (encloses : attached.group.enclosed = some payload)
      (holds : EnclosureHolds .v1 payload attached.items)

structure Attached.Fits (limits : FrameLimits) (attached : Attached) : Prop where
  group : (EnclosedItem.group 0 attached.group).Fits limits
  each : ∀ item ∈ attached.items, item.Fits limits
  groups : itemGroups attached.items ≤ limits.maxNestedGroups

-- The groups behind a body from left to right, and the bytes they take. The
-- message ends with an attachment envelope, before the next body, or where the
-- closed input does.
inductive Attachments (endOfInput : Bool) : Bytes → List Attached → Nat → Prop where
  | finished (closed : endOfInput = true) : Attachments endOfInput [] [] 0
  | body (bytes : Bytes) (first : UInt8) (cold : ColdCode) (headed : bytes.head? = some first)
      (detected : ColdCode.detect first = .ok cold) (kept : cold ≠ .cesrBase64 ∧ cold ≠ .cesrBinary) :
      Attachments endOfInput bytes [] 0
  | envelope (bytes : Bytes) (attached : Attached) (size : Nat)
      (read : CesrGroup.sizedOf .v1 bytes = .ok (attached.group, size)) (encloses : attached.Encloses)
      (closes : attached.group.Closes) : Attachments endOfInput bytes [attached] size
  | group (bytes : Bytes) (attached : Attached) (size : Nat) (groups : List Attached) (total : Nat)
      (read : CesrGroup.sizedOf .v1 bytes = .ok (attached.group, size)) (encloses : attached.Encloses)
      (open' : ¬attached.group.Closes) (later : Attachments endOfInput (bytes.drop size) groups total) :
      Attachments endOfInput bytes (attached :: groups) (size + total)

-- What the limits leave to a message that has used so much of them.
structure AttachedAllowed (limits : FrameLimits) (used count signatures : Nat) (groups : List Attached) (total : Nat) : Prop where
  each : ∀ attached ∈ groups, attached.Fits limits
  bytes : used + total ≤ limits.maxAttachmentBytes
  count : count + groups.length ≤ limits.maxAttachmentGroups
  signatures : signatures + attachedSignatures groups ≤ limits.maxSignatures

theorem attached_signatures_cons (attached : Attached) (groups : List Attached) :
    attachedSignatures (attached :: groups) = attached.signatures + attachedSignatures groups := by
  rw [attachedSignatures, attachedSignatures, List.map_cons, List.sum_cons]

theorem attached_allowed_cons (limits : FrameLimits) (used count signatures size total : Nat) (attached : Attached)
    (groups : List Attached) :
    AttachedAllowed limits used count signatures (attached :: groups) (size + total) ↔
      attached.Fits limits ∧
        AttachedAllowed limits (used + size) (count + 1) (signatures + attached.signatures) groups total := by
  apply Iff.intro
  · intro allowed
    obtain ⟨fits, each⟩ := List.forall_mem_cons.mp allowed.each
    have count := allowed.count
    have some' := allowed.signatures
    rw [List.length_cons] at count
    rw [attached_signatures_cons] at some'
    have bytes := allowed.bytes
    exact ⟨fits, each, by omega, by omega, by omega⟩
  · intro found
    obtain ⟨fits, allowed⟩ := found
    have bytes := allowed.bytes
    have count := allowed.count
    have signatures := allowed.signatures
    refine ⟨List.forall_mem_cons.mpr ⟨fits, allowed.each⟩, by omega, ?_, ?_⟩
    · rw [List.length_cons]
      omega
    · rw [attached_signatures_cons]
      omega

theorem sized_of_dash (bytes : Bytes) (sized : CesrGroup × Nat) (read : CesrGroup.sizedOf .v1 bytes = .ok sized) :
    bytes.head? = some 0x2D := by
  obtain ⟨head, shaped, _⟩ := (bind_ok _ _ _).mp read
  obtain ⟨⟨code, count⟩, counted, _⟩ := (bind_ok _ _ _).mp (show (readCounterV1 bytes >>= _) = Except.ok head from shaped)
  obtain ⟨rest, same, _⟩ := (read_counter_ok counter_table_v1 bytes code count).mp counted
  have dashed : (asBytes code.asStr).head? = some 0x2D := by cases code <;> decide
  rw [same, List.append_assoc, List.head?_append, dashed]
  rfl

theorem dash_detected : ColdCode.detect 0x2D = .ok .cesrBase64 := by decide

end Attached

section Groups

variable (limits : FrameLimits)

theorem scan_payload_ok (cursor : GroupFrameCursor) (tail : Bytes) (group : CesrGroup) (prior nested : Nat)
    (payload : cursor.enclosingPayload tail = .ok group.enclosed) (few : prior ≤ limits.maxSignatures) :
    limits.scanPayload cursor tail prior = .ok nested ↔
      ∃ items, (Attached.mk group items).Encloses ∧ (group.enclosed ≠ none → 1 ≤ limits.maxNestingDepth) ∧
        Allowed limits 0 prior items ∧ nested = itemSignatures items := by
  unfold FrameLimits.scanPayload
  rw [payload, ok_bind]
  cases encloses : group.enclosed with
  | none =>
      dsimp only
      rw [pure_ok]
      apply Iff.intro
      · intro same
        refine ⟨[], .plain encloses rfl, fun some' => absurd rfl some', ⟨fun item none' => absurd none' List.not_mem_nil,
          Nat.zero_le _, few⟩, same.symm⟩
      · intro found
        obtain ⟨items, holds, _, _, same⟩ := found
        cases holds with
        | plain closed empty =>
            rw [same, show items = [] from empty]
            rfl
        | enclosure payload' encloses' _ =>
            rw [encloses] at encloses'
            cases encloses'
  | some payload' =>
      dsimp only
      rw [scan_enclosure_ok limits payload' prior .v1 nested few]
      apply Iff.intro
      · intro found
        obtain ⟨depth, items, holds, allowed, same⟩ := found
        exact ⟨items, .enclosure payload' encloses holds, fun _ => depth, allowed, same⟩
      · intro found
        obtain ⟨items, holds, depth, allowed, same⟩ := found
        refine ⟨depth (Option.some_ne_none payload'), items, ?_, allowed, same⟩
        cases holds with
        | plain closed _ =>
            rw [encloses] at closed
            cases closed
        | enclosure other encloses' holds =>
            rw [encloses] at encloses'
            cases encloses'
            exact holds

theorem saturating_small (first second : Nat) (small : first + second ≤ usizeMax) : saturatingAdd first second = first + second :=
  Nat.min_eq_left small

theorem group_whole (tail : Bytes) (fresh : GroupFrameCursor) (room used : Nat) (allowance : FrameLimits) (signatures stop : Nat)
    (after : Nat) (read : GroupFrameCursor.newV1 tail = .ok fresh) (small : limits.maxSignatures ≤ usizeMax)
    (few : signatures ≤ limits.maxSignatures) (spare : used + room = limits.maxAttachmentBytes)
    (bytes : allowance.maxAttachmentBytes = room) (elements : allowance.maxGroupElements = limits.maxGroupElements)
    (left : allowance.maxSignatures = limits.maxSignatures - signatures) :
    (limits.checkElements fresh = .ok () ∧ ∃ final nested, CesrCodec.frame allowance fresh tail = (.ok stop, final) ∧
      limits.scanPayload final tail (saturatingAdd signatures final.signatureTotal) = .ok nested ∧
        after = signatures + final.signatureTotal + nested) ↔
      ∃ attached : Attached, CesrGroup.sizedOf .v1 tail = .ok (attached.group, stop) ∧ attached.Encloses ∧ attached.Fits limits ∧
        used + stop ≤ limits.maxAttachmentBytes ∧ signatures + attached.signatures ≤ limits.maxSignatures ∧
        after = signatures + attached.signatures := by
  have limited := group_limited allowance.maxAttachmentBytes allowance.maxGroupElements allowance.maxSignatures .v1 tail fresh stop
    read
  rw [bytes, elements, left] at limited
  have frames : CesrCodec.frame allowance fresh tail = exec (GroupFrameCursor.advanceLimited room limits.maxGroupElements
      (limits.maxSignatures - signatures) tail) fresh := by
    unfold CesrCodec.frame
    rw [bytes, elements, left]
  rw [frames]
  apply Iff.intro
  · intro found
    obtain ⟨counted, final, nested, framed, scanned, total⟩ := found
    obtain ⟨group, sized, small', holds⟩ := limited.mp ⟨final, framed⟩
    obtain ⟨other, sized', reached⟩ := limited_framed _ _ _ .v1 tail fresh final stop read framed
    rw [sized] at sized'
    cases sized'
    have direct := holds.signatures
    rw [reached.signatures] at scanned total
    rw [saturating_small _ _ (by show signatures + group.signatures ≤ _; omega)] at scanned
    obtain ⟨items, encloses, depth, allowed, same⟩ := (scan_payload_ok limits final tail group _ nested reached.payload
      (by show signatures + group.signatures ≤ _; omega)).mp scanned
    have signed := allowed.signatures
    have groups := allowed.groups
    dsimp only at signed total
    refine ⟨⟨group, items⟩, sized, encloses, ⟨⟨?_, depth⟩, allowed.each, ?_⟩, by omega, ?_, ?_⟩
    · exact (check_elements_counted limits .v1 tail fresh group stop read sized).mp ⟨counted, holds.nested⟩
    · show itemGroups items ≤ _
      omega
    · show signatures + (group.signatures + itemSignatures items) ≤ _
      omega
    · show after = signatures + (group.signatures + itemSignatures items)
      omega
  · intro found
    obtain ⟨⟨group, items⟩, sized, encloses, fits, room', signed, total⟩ := found
    rw [Attached.signatures] at signed total
    dsimp only at sized signed total
    have grouped : itemGroups items ≤ limits.maxNestedGroups := fits.groups
    obtain ⟨counted, each⟩ := (check_elements_counted limits .v1 tail fresh group stop read sized).mpr fits.group.1
    obtain ⟨final, framed⟩ := limited.mpr ⟨group, sized, by omega, each, by omega⟩
    obtain ⟨other, sized', reached⟩ := limited_framed _ _ _ .v1 tail fresh final stop read framed
    rw [sized] at sized'
    cases sized'
    refine ⟨counted, final, itemSignatures items, framed, ?_, ?_⟩
    · rw [reached.signatures, saturating_small _ _ (by show signatures + group.signatures ≤ _; omega)]
      refine (scan_payload_ok limits final tail group _ _ reached.payload (by show signatures + group.signatures ≤ _; omega)).mpr
        ⟨items, encloses, fits.group.2, ⟨fits.each, by omega, ?_⟩, rfl⟩
      show signatures + group.signatures + itemSignatures items ≤ _
      omega
    · rw [reached.signatures]
      show after = signatures + group.signatures + itemSignatures items
      omega

end Groups

section Runs

variable (limits : FrameLimits) (endOfInput : Bool) (input : Bytes)

structure Underway (progress : EventProgress) : Prop where
  body : progress.bodyLen ≤ progress.cursor
  within : progress.cursor ≤ input.length
  bytes : progress.cursor - progress.bodyLen ≤ limits.maxAttachmentBytes
  count : progress.groups ≤ limits.maxAttachmentGroups
  signatures : progress.signatures ≤ limits.maxSignatures
  begun : ∀ group, progress.group = some group → GroupFrameCursor.newV1 (input.drop progress.cursor) = .ok group ∧
    limits.checkElements group = .ok () ∧ progress.groups < limits.maxAttachmentGroups

structure Attached.Taken (progress : EventProgress) (attached : Attached) (stop : Nat) : Prop where
  read : CesrGroup.sizedOf .v1 (input.drop progress.cursor) = .ok (attached.group, stop)
  encloses : attached.Encloses
  fits : attached.Fits limits
  bytes : progress.cursor - progress.bodyLen + stop ≤ limits.maxAttachmentBytes
  signatures : progress.signatures + attached.signatures ≤ limits.maxSignatures

theorem underway_body (bodyLen : Nat) (arrived : bodyLen ≤ input.length) :
    Underway limits input (EventProgress.ofBody bodyLen) := by
  apply Underway.mk
  · exact Nat.le_refl _
  · exact arrived
  · exact Nat.le_trans (Nat.le_of_eq (Nat.sub_self bodyLen)) (Nat.zero_le _)
  · exact Nat.zero_le _
  · exact Nat.zero_le _
  · intro group inside
    cases inside

theorem underway_begun (progress : EventProgress) (fresh : GroupFrameCursor) (underway : Underway limits input progress)
    (read : GroupFrameCursor.newV1 (input.drop progress.cursor) = .ok fresh) (counted : limits.checkElements fresh = .ok ())
    (spare : progress.groups < limits.maxAttachmentGroups) : Underway limits input (progress.keepGroup fresh) := by
  refine ⟨underway.body, underway.within, underway.bytes, underway.count, underway.signatures, ?_⟩
  intro group inside
  cases inside
  exact ⟨read, counted, spare⟩

theorem underway_passed (progress : EventProgress) (attached : Attached) (stop : Nat) (underway : Underway limits input progress)
    (taken : attached.Taken limits input progress stop) (spare : progress.groups < limits.maxAttachmentGroups) :
    Underway limits input (progress.passGroup stop (progress.signatures + attached.signatures)) := by
  have reach := (sized_of_reads .v1).within _ _ taken.read
  have body := underway.body
  have bytes := taken.bytes
  have within := underway.within
  rw [List.length_drop] at reach
  apply Underway.mk
  · exact Nat.le_trans body (Nat.le_add_right _ _)
  · show progress.cursor + stop ≤ input.length
    dsimp only at reach
    omega
  · show progress.cursor + stop - progress.bodyLen ≤ limits.maxAttachmentBytes
    omega
  · exact spare
  · exact taken.signatures
  · intro group inside
    cases inside

theorem attached_allowed_passed (progress : EventProgress) (attached : Attached) (stop total : Nat) (groups : List Attached)
    (body : progress.bodyLen ≤ progress.cursor) :
    AttachedAllowed limits (progress.cursor - progress.bodyLen) progress.groups progress.signatures (attached :: groups)
        (stop + total) ↔
      attached.Fits limits ∧ AttachedAllowed limits (progress.cursor + stop - progress.bodyLen) (progress.groups + 1)
        (progress.signatures + attached.signatures) groups total := by
  rw [attached_allowed_cons, Nat.sub_add_comm body]

theorem framed_whole (progress : EventProgress) (fresh : GroupFrameCursor) (stop after : Nat)
    (underway : Underway limits input progress) (inside : progress.group = some fresh) (small : limits.maxSignatures ≤ usizeMax) :
    (∃ final, CesrCodec.frame (progress.allowance limits) fresh (input.drop progress.cursor) = (.ok stop, final) ∧
        progress.tally limits final (input.drop progress.cursor) = .ok after) ↔
      ∃ attached : Attached, attached.Taken limits input progress stop ∧ after = progress.signatures + attached.signatures := by
  obtain ⟨read, counted, _⟩ := underway.begun fresh inside
  have whole := group_whole limits (input.drop progress.cursor) fresh (limits.maxAttachmentBytes - (progress.cursor - progress.bodyLen))
    (progress.cursor - progress.bodyLen) (progress.allowance limits) progress.signatures stop after read small underway.signatures
    (Nat.add_sub_cancel' underway.bytes) rfl rfl rfl
  apply Iff.intro
  · intro found
    obtain ⟨final, framed, tallied⟩ := found
    simp only [EventProgress.tally, bind_ok, reject_if_ok, exists_done, pure_ok] at tallied
    obtain ⟨nested, scanned, _, same⟩ := tallied
    obtain ⟨attached, read', encloses, fits, bytes, signatures, total⟩ :=
      whole.mp ⟨counted, final, nested, framed, scanned, same.symm⟩
    exact ⟨attached, ⟨read', encloses, fits, bytes, signatures⟩, total⟩
  · intro found
    obtain ⟨attached, taken, total⟩ := found
    obtain ⟨_, final, nested, framed, scanned, same⟩ := whole.mpr
      ⟨attached, taken.read, taken.encloses, taken.fits, taken.bytes, taken.signatures, total⟩
    refine ⟨final, framed, ?_⟩
    have signed := taken.signatures
    simp only [EventProgress.tally, bind_ok, reject_if_ok, exists_done, pure_ok]
    exact ⟨nested, scanned, by omega, same.symm⟩

theorem taken_closes (progress : EventProgress) (fresh final : GroupFrameCursor) (attached : Attached) (stop : Nat)
    (underway : Underway limits input progress) (inside : progress.group = some fresh)
    (framed : CesrCodec.frame (progress.allowance limits) fresh (input.drop progress.cursor) = (.ok stop, final))
    (taken : attached.Taken limits input progress stop) : final.attachmentEnvelope = true ↔ attached.group.Closes := by
  have read := (underway.begun fresh inside).1
  obtain ⟨group, sized, reached⟩ := limited_framed _ _ _ .v1 _ fresh final stop read framed
  have kept : final.attachmentEnvelope = fresh.attachmentEnvelope := congrArg (fun fields => fields.2.2.2.1) reached.declared
  rw [kept]
  exact attachment_envelope _ fresh _ read taken.read

theorem attached_sound (small : limits.maxSignatures ≤ usizeMax) (progress : EventProgress) (underway : Underway limits input progress)
    (span : FrameSpan)
    (ran : (exec (loopLeft (EventProgress.turnsLeft limits) (EventProgress.turn limits endOfInput input)) progress).1 =
      .ok (some (some span))) :
    ∃ groups total, Attachments endOfInput (input.drop progress.cursor) groups total ∧
      AttachedAllowed limits (progress.cursor - progress.bodyLen) progress.groups progress.signatures groups total ∧
      span = ⟨some progress.bodyLen, progress.cursor + total⟩ := by
  revert underway span
  have nothing : ∀ state, Underway limits input state →
      AttachedAllowed limits (state.cursor - state.bodyLen) state.groups state.signatures [] 0 :=
    fun state underway => ⟨fun attached none' => absurd none' List.not_mem_nil, underway.bytes, underway.count, underway.signatures⟩
  apply loop_rule (turn_decreases limits endOfInput input) (fun state result => Underway limits input state → ∀ span,
    result.1 = .ok (some (some span)) → ∃ groups total, Attachments endOfInput (input.drop state.cursor) groups total ∧
      AttachedAllowed limits (state.cursor - state.bodyLen) state.groups state.signatures groups total ∧
      span = ⟨some state.bodyLen, state.cursor + total⟩)
  · intro state stops underway span emits
    cases turn_ends limits endOfInput input state _ span (Prod.ext emits rfl) with
    | closed group final stop signatures inside framed tallied envelope given =>
        obtain ⟨attached, taken, _⟩ := (framed_whole limits input state group stop signatures underway inside small).mp
          ⟨final, framed, tallied⟩
        have closes := (taken_closes limits input state group final attached stop underway inside framed taken).mp envelope
        have spare := (underway.begun group inside).2.2
        have later := nothing _ (underway_passed limits input state attached stop underway taken spare)
        refine ⟨[attached], stop + 0, .envelope _ attached stop taken.read taken.encloses closes, ?_, given⟩
        exact (attached_allowed_passed limits state attached stop 0 [] underway.body).mpr ⟨taken.fits, later⟩
    | next byte cold here detected body given =>
        refine ⟨[], 0, .body _ byte cold ?_ detected body, nothing state underway, given⟩
        rw [List.head?_drop]
        exact here
    | finished closed here given =>
        refine ⟨[], 0, ?_, nothing state underway, given⟩
        rw [List.drop_eq_nil_of_le (List.getElem?_eq_none_iff.mp here)]
        exact .finished closed
  · intro state next result goes later underway span emits
    cases turn_goes_on limits endOfInput input state next goes with
    | passed group final stop signatures inside room framed tallied open' moved =>
        obtain ⟨attached, taken, total'⟩ := (framed_whole limits input state group stop signatures underway inside small).mp
          ⟨final, framed, tallied⟩
        have closes := taken_closes limits input state group final attached stop underway inside framed taken
        have spare := (underway.begun group inside).2.2
        rw [total'] at moved
        rw [moved] at later
        obtain ⟨groups, total, behind, allowed, same⟩ :=
          later (underway_passed limits input state attached stop underway taken spare) span emits
        refine ⟨attached :: groups, stop + total, .group _ attached stop groups total taken.read taken.encloses ?_ ?_, ?_, ?_⟩
        · rw [← closes, open']
          exact Bool.false_ne_true
        · rw [List.drop_drop]
          exact behind
        · exact (attached_allowed_passed limits state attached stop total groups underway.body).mpr ⟨taken.fits, allowed⟩
        · rw [same, ← Nat.add_assoc]
          rfl
    | begun byte group between here cold started moved =>
        obtain ⟨spare, _, read, counted⟩ := (beginning_some limits endOfInput input state group).mp started
        rw [moved] at later
        exact later (underway_begun limits input state group underway read counted spare) span emits

theorem turns_take (small : limits.maxSignatures ≤ usizeMax) (progress : EventProgress) (attached : Attached) (stop : Nat)
    (underway : Underway limits input progress) (between : progress.group = none) (taken : attached.Taken limits input progress stop)
    (spare : progress.groups < limits.maxAttachmentGroups) :
    ∃ fresh final, exec (EventProgress.turn limits endOfInput input) progress = (.ok none, progress.keepGroup fresh) ∧
      exec (EventProgress.turn limits endOfInput input) (progress.keepGroup fresh) =
        (progress.keepGroup fresh).passing final stop (.ok (progress.signatures + attached.signatures)) ∧
      (final.attachmentEnvelope = true ↔ attached.group.Closes) := by
  obtain ⟨fresh, read⟩ := sized_of_head .v1 _ _ taken.read
  have counted := ((check_elements_counted limits .v1 _ fresh attached.group stop read taken.read).mpr taken.fits.group.1).1
  have dashed := sized_of_dash _ _ taken.read
  rw [List.head?_drop] at dashed
  have underway' := underway_begun limits input progress fresh underway read counted spare
  obtain ⟨final, framed, tallied⟩ := (framed_whole limits input (progress.keepGroup fresh) fresh stop _ underway' rfl small).mpr
    ⟨attached, ⟨taken.read, taken.encloses, taken.fits, taken.bytes, taken.signatures⟩, rfl⟩
  refine ⟨fresh, final, ?_, ?_, ?_⟩
  · rw [exec_turn_idle limits endOfInput input progress between, dashed]
    dsimp only [EventProgress.idle]
    rw [dash_detected]
    dsimp only [EventProgress.between]
    rw [(beginning_some limits endOfInput input progress fresh).mpr ⟨spare, underway.within, read, counted⟩]
    rfl
  · rw [exec_turn_group limits endOfInput input (progress.keepGroup fresh) fresh rfl, if_neg (Nat.not_lt_of_le underway'.bytes), framed]
    dsimp only [EventProgress.framed]
    rw [tallied]
    rfl
  · exact taken_closes limits input (progress.keepGroup fresh) fresh final attached stop underway' rfl framed
      ⟨taken.read, taken.encloses, taken.fits, taken.bytes, taken.signatures⟩

theorem attached_complete (small : limits.maxSignatures ≤ usizeMax) (bytes : Bytes) (groups : List Attached) (total : Nat)
    (attachments : Attachments endOfInput bytes groups total) (progress : EventProgress) (underway : Underway limits input progress)
    (between : progress.group = none) (place : input.drop progress.cursor = bytes)
    (allowed : AttachedAllowed limits (progress.cursor - progress.bodyLen) progress.groups progress.signatures groups total) :
    (exec (loopLeft (EventProgress.turnsLeft limits) (EventProgress.turn limits endOfInput input)) progress).1 =
      .ok (some (some ⟨some progress.bodyLen, progress.cursor + total⟩)) := by
  have decreases := turn_decreases limits endOfInput input
  have stops : ∀ state answer final, exec (EventProgress.turn limits endOfInput input) state = (.ok (some answer), final) →
      (exec (loopLeft (EventProgress.turnsLeft limits) (EventProgress.turn limits endOfInput input)) state).1 = .ok (some answer) := by
    intro state answer final turned
    rw [loop_done state (by rw [turned]; rintro next ⟨⟩), turned]
  induction attachments generalizing progress with
  | finished closed =>
      have here : input[progress.cursor]? = none := by
        rw [← List.head?_drop, place]
        rfl
      apply stops progress _ progress
      rw [exec_turn_idle limits endOfInput input progress between, here]
      dsimp only [EventProgress.idle]
      rw [if_pos closed]
      rfl
  | body bytes first cold headed detected kept =>
      have here : input[progress.cursor]? = some first := by rw [← List.head?_drop, place, headed]
      apply stops progress _ progress
      rw [exec_turn_idle limits endOfInput input progress between, here]
      dsimp only [EventProgress.idle]
      rw [detected]
      cases cold with
      | cesrBase64 => exact absurd rfl kept.1
      | cesrBinary => exact absurd rfl kept.2
      | _ => rfl
  | envelope bytes attached size read encloses closes =>
      have whole := (attached_allowed_passed limits progress attached size 0 [] underway.body).mp allowed
      have count := allowed.count
      have signed := allowed.signatures
      rw [attached_signatures_cons] at signed
      obtain ⟨fresh, final, begins, passes, envelope⟩ := turns_take limits endOfInput input small progress attached size underway between
        ⟨by rw [place]; exact read, encloses, whole.1, allowed.bytes, Nat.le_trans (by omega) signed⟩ (by
          rw [List.length_singleton] at count
          exact count)
      rw [loop_again decreases progress _ begins]
      apply stops
      rw [passes]
      dsimp only [EventProgress.passing]
      rw [if_pos (envelope.mpr closes)]
      rfl
  | group bytes attached size groups total read encloses open' later ih =>
      have whole := (attached_allowed_passed limits progress attached size total groups underway.body).mp allowed
      have count := allowed.count
      have signed := allowed.signatures
      have bytes' := allowed.bytes
      rw [attached_signatures_cons] at signed
      rw [List.length_cons] at count
      have taken : attached.Taken limits input progress size :=
        ⟨by rw [place]; exact read, encloses, whole.1, by omega, by omega⟩
      have spare : progress.groups < limits.maxAttachmentGroups := by omega
      obtain ⟨fresh, final, begins, passes, envelope⟩ :=
        turns_take limits endOfInput input small progress attached size underway between taken spare
      have underway' := underway_passed limits input progress attached size underway taken spare
      have passed : exec (EventProgress.turn limits endOfInput input) (progress.keepGroup fresh) =
          (.ok none, progress.passGroup size (progress.signatures + attached.signatures)) := by
        rw [passes]
        dsimp only [EventProgress.passing]
        rw [if_neg (fun closed => open' (envelope.mp closed))]
        rfl
      rw [loop_again decreases progress _ begins, loop_again decreases _ _ passed, ← Nat.add_assoc]
      exact ih _ underway' rfl (by rw [← place, List.drop_drop]; rfl) whole.2

end Runs

section Emissions

variable (limits : FrameLimits) (endOfInput : Bool) (input : Bytes)

inductive SpanFits : FrameSpan → Prop where
  | bare (attached : Attached) (size : Nat) (read : CesrGroup.sizedOf .v1 input = .ok (attached.group, size))
      (encloses : attached.Encloses) (fits : attached.Fits limits) (bytes : size ≤ limits.maxAttachmentBytes)
      (signatures : attached.signatures ≤ limits.maxSignatures) : SpanFits ⟨none, size⟩
  | message (first : UInt8) (cold : ColdCode) (bodyLen : Nat) (groups : List Attached) (total : Nat)
      (headed : input.head? = some first) (detected : ColdCode.detect first = .ok cold)
      (kept : cold ≠ .cesrBase64 ∧ cold ≠ .cesrBinary) (declared : JsonVersionHead.eventSize input cold = .ok bodyLen)
      (body : bodyLen ≤ limits.maxBodyBytes) (arrived : bodyLen ≤ input.length)
      (attachments : Attachments endOfInput (input.drop bodyLen) groups total)
      (allowed : AttachedAllowed limits 0 0 0 groups total) : SpanFits ⟨some bodyLen, bodyLen + total⟩

theorem event_fits_limits (small : limits.maxSignatures ≤ usizeMax) (bodyLen : Nat) (span : FrameSpan) :
    (exec (EventProgress.advance limits endOfInput input) (EventProgress.ofBody bodyLen)).1 = .ok (some span) ↔
      bodyLen ≤ input.length ∧ ∃ groups total, Attachments endOfInput (input.drop bodyLen) groups total ∧
        AttachedAllowed limits 0 0 0 groups total ∧ span = ⟨some bodyLen, bodyLen + total⟩ := by
  by_cases few : input.length < bodyLen
  · refine iff_of_false ?_ (fun found => absurd found.1 (Nat.not_le_of_lt few))
    rw [exec_event_waits limits endOfInput input (EventProgress.ofBody bodyLen) few]
    cases endOfInput <;> rintro ⟨⟩
  · have arrived := Nat.le_of_not_lt few
    have underway := underway_body limits input bodyLen arrived
    have none' : bodyLen - bodyLen = 0 := Nat.sub_self bodyLen
    rw [exec_event_loop limits endOfInput input (EventProgress.ofBody bodyLen) arrived arrived]
    generalize ran : exec (loopLeft (EventProgress.turnsLeft limits) (EventProgress.turn limits endOfInput input))
      (EventProgress.ofBody bodyLen) = result
    apply Iff.intro
    · intro emits
      have looped := (joined_some result span result.2).mp (Prod.ext emits rfl)
      obtain ⟨groups, total, attachments, allowed, same⟩ := attached_sound limits endOfInput input small
        (EventProgress.ofBody bodyLen) underway span (by rw [ran, looped])
      rw [show (EventProgress.ofBody bodyLen).cursor - (EventProgress.ofBody bodyLen).bodyLen = 0 from none'] at allowed
      exact ⟨arrived, groups, total, attachments, allowed, same⟩
    · intro found
      obtain ⟨_, groups, total, attachments, allowed, same⟩ := found
      have emits := attached_complete limits endOfInput input small _ groups total attachments (EventProgress.ofBody bodyLen)
        underway rfl rfl (by
          rw [show (EventProgress.ofBody bodyLen).cursor - (EventProgress.ofBody bodyLen).bodyLen = 0 from none']
          exact allowed)
      rw [ran] at emits
      exact congrArg Prod.fst ((joined_some result span result.2).mpr (Prod.ext (by rw [emits, same]; rfl) rfl))

theorem bare_fits_limits (small : limits.maxSignatures ≤ usizeMax) (fresh : GroupFrameCursor) (span : FrameSpan)
    (read : GroupFrameCursor.newV1 input = .ok fresh) :
    (limits.checkElements fresh = .ok () ∧ (exec (limits.advanceBare endOfInput input) fresh).1 = .ok (some span)) ↔
      ∃ attached : Attached, ∃ size, CesrGroup.sizedOf .v1 input = .ok (attached.group, size) ∧ attached.Encloses ∧
        attached.Fits limits ∧ size ≤ limits.maxAttachmentBytes ∧ attached.signatures ≤ limits.maxSignatures ∧ span = ⟨none, size⟩ := by
  have whole := fun stop after => group_whole limits input fresh limits.maxAttachmentBytes 0 limits 0 stop after read small
    (Nat.zero_le _) (Nat.zero_add _) rfl rfl rfl
  have plain : ∀ count, count ≤ usizeMax → saturatingAdd 0 count = count := by
    intro count few
    rw [saturating_small 0 count (by omega), Nat.zero_add]
  rw [exec_advance_bare]
  generalize framed : CesrCodec.frame limits fresh input = result
  obtain ⟨answer, final⟩ := result
  have direct : ∀ stop, answer = .ok stop → final.signatureTotal ≤ usizeMax := by
    intro stop same
    rw [same] at framed
    obtain ⟨group, sized, reached⟩ := limited_framed _ _ _ .v1 input fresh final stop read framed
    obtain ⟨group', sized', _, holds⟩ := (group_limited _ _ _ .v1 input fresh stop read).mp ⟨final, framed⟩
    rw [sized] at sized'
    cases sized'
    rw [reached.signatures]
    exact Nat.le_trans holds.signatures small
  apply Iff.intro
  · intro found
    obtain ⟨counted, emits⟩ := found
    cases answer with
    | error error =>
        dsimp only [FrameLimits.bareFramed] at emits
        cases error with
        | needBytes missing => cases endOfInput <;> cases emits
        | _ => cases emits
    | ok stop =>
        dsimp only [FrameLimits.bareFramed] at emits
        cases scanned : limits.scanPayload final input final.signatureTotal with
        | error error =>
            rw [scanned] at emits
            cases emits
        | ok nested =>
            rw [scanned] at emits
            cases emits
            obtain ⟨attached, sized, encloses, fits, bytes, signatures, _⟩ := (whole stop _).mp
              ⟨counted, final, nested, framed, by rw [plain _ (direct stop rfl)]; exact scanned, rfl⟩
            exact ⟨attached, stop, sized, encloses, fits, by omega, by omega, rfl⟩
  · intro found
    obtain ⟨attached, size, sized, encloses, fits, bytes, signatures, same⟩ := found
    obtain ⟨counted, final', nested, framed', scanned, _⟩ := (whole size _).mpr
      ⟨attached, sized, encloses, fits, by omega, by omega, rfl⟩
    rw [framed] at framed'
    cases framed'
    rw [plain _ (direct size rfl)] at scanned
    refine ⟨counted, ?_⟩
    dsimp only [FrameLimits.bareFramed]
    rw [scanned, same]
    rfl

theorem fresh_framer_emits (small : limits.maxSignatures ≤ usizeMax) (span : FrameSpan) :
    outcome (MessageFramer.advance endOfInput input) (MessageFramer.new limits) = .ok (some span) ↔
      SpanFits limits endOfInput input span := by
  obtain ⟨answer, head, final⟩ := exec_start limits endOfInput input JsonVersionHead.new (head_fits_new input)
  have ran : exec (MessageFramer.start input endOfInput) ⟨limits, none, JsonVersionHead.new⟩ =
      (limits.startOf endOfInput input, ⟨limits, none, head⟩) := Prod.ext answer final
  have begins : exec (MessageFramer.advance endOfInput input) (MessageFramer.new limits) =
      MessageFramer.started endOfInput input (limits.startOf endOfInput input, ⟨limits, none, head⟩) := by
    rw [← ran]
    exact exec_advance_start limits endOfInput input JsonVersionHead.new
  rw [outcome, begins]
  apply Iff.intro
  · intro emits
    cases started : limits.startOf endOfInput input with
    | error error =>
        rw [started] at emits
        cases emits
    | ok begun =>
        rw [started] at emits
        cases begun with
        | none => cases emits
        | some state =>
            dsimp only [MessageFramer.started] at emits
            cases input with
            | nil => cases started
            | cons first rest =>
                cases starts_with first with
                | body cold detected body =>
                    rw [start_body_cold limits endOfInput first rest cold detected body] at started
                    obtain ⟨bodyLen, declared, few, same⟩ := start_body_some limits _ endOfInput _ state started
                    rw [same, exec_advance_event] at emits
                    have given := emitted_some limits _ _ span _ (Prod.ext emits rfl)
                    obtain ⟨arrived, groups, total, attachments, allowed, same'⟩ :=
                      (event_fits_limits limits endOfInput (first :: rest) small bodyLen span).mp given
                    rw [same']
                    exact .message first cold bodyLen groups total rfl detected body declared few arrived attachments allowed
                | group detected =>
                    simp only [FrameLimits.startOf, detected, ok_bind, bind_ok, pure_ok] at started
                    obtain ⟨begun, fresh, same⟩ := started
                    cases begun with
                    | none => cases same
                    | some group =>
                        cases same
                        obtain ⟨read, counted⟩ := (start_group_some limits endOfInput 0 _ group).mp fresh
                        rw [exec_advance_group] at emits
                        have given := emitted_some limits _ _ span _ (Prod.ext emits rfl)
                        obtain ⟨attached, size, sized, encloses, fits, bytes, signatures, same⟩ :=
                          (bare_fits_limits limits endOfInput (first :: rest) small group span read).mp ⟨counted, given⟩
                        rw [same]
                        exact .bare attached size sized encloses fits bytes signatures
                | neither error refused =>
                    rw [(refused limits endOfInput JsonVersionHead.new rest).2] at started
                    cases started
  · intro fits
    have emits : ∀ {σ : Type} (put : σ → MessageFramer) (result : Except ParseError (Option FrameSpan) × σ),
        result.1 = .ok (some span) → (emitted limits put result).1 = .ok (some span) := by
      intro σ put result given
      obtain ⟨answer', part⟩ := result
      have same : answer' = .ok (some span) := given
      rw [same]
      rfl
    cases fits with
    | bare attached size read encloses fits bytes signatures =>
        have dashed := sized_of_dash _ _ read
        obtain ⟨fresh, begun⟩ := sized_of_head .v1 _ _ read
        obtain ⟨counted, given⟩ := (bare_fits_limits limits endOfInput input small fresh ⟨none, size⟩ begun).mpr
          ⟨attached, size, read, encloses, fits, bytes, signatures, rfl⟩
        have started : limits.startOf endOfInput input = .ok (some (.bare fresh)) := by
          cases input with
          | nil => cases dashed
          | cons first rest =>
              have first' : first = 0x2D := Option.some.inj dashed
              simp only [FrameLimits.startOf, first', dash_detected, ok_bind, bind_ok, pure_ok]
              rw [← first']
              exact ⟨some fresh, (start_group_some limits endOfInput 0 _ fresh).mpr ⟨begun, counted⟩, rfl⟩
        rw [started]
        dsimp only [MessageFramer.started]
        rw [exec_advance_group]
        exact emits _ _ given
    | message first cold bodyLen groups total headed detected kept declared body arrived attachments allowed =>
        have given := (event_fits_limits limits endOfInput input small bodyLen _).mpr
          ⟨arrived, groups, total, attachments, allowed, rfl⟩
        have started : limits.startOf endOfInput input = .ok (some (.event (EventProgress.ofBody bodyLen))) := by
          cases input with
          | nil => cases headed
          | cons first' rest =>
              cases headed
              rw [start_body_cold limits endOfInput first rest cold detected kept, declared]
              simp only [FrameLimits.startBody, bind_ok, reject_if_ok, exists_done, pure_ok, Nat.not_lt, body, true_and]
        rw [started]
        dsimp only [MessageFramer.started]
        rw [exec_advance_event]
        exact emits _ _ given

end Emissions

section Pieces

variable (limits : FrameLimits)

-- A framer emits exactly the messages and the standalone groups that fit all of
-- its limits, and each with the bytes it takes: in whichever pieces an open
-- stream arrives, and at the end of one that is closed.
theorem framer_emits_fitting (small : limits.maxSignatures ≤ usizeMax) (start : Bytes) (later : List Bytes) (stream : Bytes)
    (grows : (start :: later).IsChain (· <+: ·)) (last : (start :: later).getLast? = some stream) (span : FrameSpan) :
    ((feed (· = .ok none) (fun piece => exec (MessageFramer.advance false piece)) (MessageFramer.new limits) start later).1 =
        .ok (some span) ↔ SpanFits limits false stream span) ∧
      (outcome (MessageFramer.advance true stream) (MessageFramer.new limits) = .ok (some span) ↔ SpanFits limits true stream span) := by
  refine ⟨?_, fresh_framer_emits limits true stream small span⟩
  rw [← fresh_framer_emits limits false stream small span]
  have agrees := feed_agrees (framer_resumable limits) (MessageFramer.new limits) start later stream (framer_fits_new limits start)
    grows last
  apply Iff.intro
  · intro emits
    rw [outcome, agrees.1 (by rw [emits]; rintro ⟨⟩) (by rw [emits]; exact breaks_ok _), emits]
  · intro emits
    have whole : (exec (MessageFramer.advance false stream) (MessageFramer.new limits)).1 = .ok (some span) := emits
    by_cases broken : Breaks (feed (· = .ok none) (fun piece => exec (MessageFramer.advance false piece)) (MessageFramer.new limits)
      start later).1
    · obtain ⟨error, same⟩ := agrees.2.1 broken
      rw [whole] at same
      cases same
    · by_cases waits : (feed (· = .ok none) (fun piece => exec (MessageFramer.advance false piece)) (MessageFramer.new limits)
        start later).1 = .ok none
      · have same := agrees.2.2 waits
        rw [whole] at same
        cases same
      · rw [← agrees.1 waits broken, whole]

-- A message that its envelope ends fits the limits of the codec, and arrives in three pieces.
theorem framer_emits_fitting_envelope :
    let pieces := ["\x7b\"v\":\"KERI10", "\x7b\"v\":\"KERI10JSON00001f_\",\"a\":1\x7d-V",
      "\x7b\"v\":\"KERI10JSON00001f_\",\"a\":1\x7d-VAA-VAA"].map asBytes
    ((feed (· = .ok none) (fun piece => exec (MessageFramer.advance false piece)) (MessageFramer.new codecLimits)
        (pieces.headD []) pieces.tail).1 = .ok (some ⟨some 31, 35⟩) ↔
        SpanFits codecLimits false (pieces.getLastD []) ⟨some 31, 35⟩) ∧
      (outcome (MessageFramer.advance true (pieces.getLastD [])) (MessageFramer.new codecLimits) = .ok (some ⟨some 31, 35⟩) ↔
        SpanFits codecLimits true (pieces.getLastD []) ⟨some 31, 35⟩) :=
  framer_emits_fitting codecLimits (by decide) _ _ _ (by decide) (by decide) ⟨some 31, 35⟩

end Pieces

end Cesr.Stream
