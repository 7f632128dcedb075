import Cesr.Codec.Message
import Cesr.Codec.RoutedWriter

set_option autoImplicit false

namespace Cesr

inductive MessageKind where
  | event
  | receipt
  | tel
  | exn
  | routed
deriving DecidableEq, Repr

def MessageType.kind : MessageType → MessageKind
  | .icp | .rot | .ixn | .dip | .drt => .event
  | .rct => .receipt
  | .vcp | .vrt | .iss | .rev | .bis | .brv => .tel
  | .exn => .exn
  | .qry | .rpy => .routed

namespace Codec

open Base64 Checks Calls Resume WriterJson JsonTally JsonBudget Scanner Cesr.Stream

section Heads

theorem peek_of_head (raw : Bytes) (limits : JsonLimits) (tag : Spanned) (done : Scanner) (known : MessageType)
    (read : ParsedEvent.head (withBudget raw (.ofLimits limits)) = .ok (tag, done)) (coded : known.code = tag.value) :
    ParsedEvent.peekMessageType raw limits = .ok known := by
  have scanned' := (scanned_ok ParsedEvent.head raw (.ofLimits limits) tag).mpr ⟨done, read⟩
  rw [ParsedEvent.peekMessageType, scanned', ok_bind, (from_code_iff tag.value known).mpr coded]

theorem peeked_body {α : Type} (body : Spanned → Scan α) (known : Spanned → MessageType → Prop)
    (tagged : ∀ tag sc value done, body tag sc = .ok (value, done) → ∃ messageType, messageType.code = tag.value ∧ known tag messageType)
    (raw : Bytes) (limits : JsonLimits) (value : α)
    (read : scanned (ParsedEvent.head >>= body) raw (.ofLimits limits) = .ok value) :
    ∃ tag messageType, ParsedEvent.peekMessageType raw limits = .ok messageType ∧ known tag messageType := by
  obtain ⟨done, read⟩ := (scanned_ok _ _ _ _).mp read
  obtain ⟨tag, sc, headed, read⟩ := (scan_bind_ok _ _ _ _ _).mp read
  obtain ⟨messageType, coded, known'⟩ := tagged tag sc value done read
  exact ⟨tag, messageType, peek_of_head raw limits tag sc messageType headed coded, known'⟩

theorem event_body_kind (tag : Spanned) (sc done : Scanner) (parsed : ParsedEvent)
    (read : ParsedEvent.body tag sc = .ok (parsed, done)) : ∃ known : MessageType, known.code = tag.value ∧ known.kind = .event := by
  unfold ParsedEvent.body at read
  split_ifs at read with icp rot ixn dip drt rct
  · exact ⟨.icp, icp.symm, rfl⟩
  · exact ⟨.rot, rot.symm, rfl⟩
  · exact ⟨.ixn, ixn.symm, rfl⟩
  · exact ⟨.dip, dip.symm, rfl⟩
  · exact ⟨.drt, drt.symm, rfl⟩
  · exact absurd ((reject_ok _ _ _ _).mp read) not_false
  · exact absurd ((reject_ok _ _ _ _).mp read) not_false

theorem tel_body_kind (tag : Spanned) (sc done : Scanner) (parsed : ParsedTel)
    (read : ParsedTel.body tag sc = .ok (parsed, done)) : ∃ known : MessageType, known.code = tag.value ∧ known.kind = .tel := by
  unfold ParsedTel.body at read
  split_ifs at read with vcp vrt iss rev bis brv
  · exact ⟨.vcp, vcp.symm, rfl⟩
  · exact ⟨.vrt, vrt.symm, rfl⟩
  · exact ⟨.iss, iss.symm, rfl⟩
  · exact ⟨.rev, rev.symm, rfl⟩
  · exact ⟨.bis, bis.symm, rfl⟩
  · exact ⟨.brv, brv.symm, rfl⟩
  · exact absurd ((reject_ok _ _ _ _).mp read) not_false

end Heads

section Exchange

variable (library : KeyLibrary)

-- The exchange reader leaves the declared size to the check of the said, which
-- knows the version string for the first member of the body.
theorem exn_head_declares (raw behind : Bytes) (version : Bytes) (members : List Member) (codes : SadCodes)
    (listed : Listed codes [] members) (whole : raw = objectText members) (plain : quote ∉ version)
    (headed : raw = asBytes "\x7b\"v\":" ++ quoted version ++ behind) : (asBytes versionLabel, quoted version) ∈ members := by
  have opens : asBytes "\x7b\"v\":" = 0x7B :: (quoted (asBytes versionLabel) ++ [0x3A]) := rfl
  rw [headed, opens, objectText] at whole
  have texts := (List.cons.inj whole).2
  simp only [List.append_eq, List.append_assoc, List.cons_append, List.nil_append] at texts
  have labelled : Content Utf8 (asBytes versionLabel) := plain_content _ (by decide +kernel)
  have first : ∀ (member : Member) rest, member ∈ members →
      quoted (asBytes versionLabel) ++ 0x3A :: (quoted version ++ behind) = memberText member ++ rest →
        (asBytes versionLabel, quoted version) ∈ members := by
    intro member rest inside same
    rw [memberText, List.append_assoc] at same
    obtain ⟨key, values⟩ := quoted_once _ _ _ _ labelled (listed.keys member inside) same
    obtain ⟨text, value, unescaped⟩ := (listed.fitting member inside).unescaped (.inl key.symm)
    have values' : quoted version ++ behind = quoted (asBytes text) ++ rest := by
      have found := (List.cons.inj values).2
      rw [List.append_eq, value] at found
      exact found
    obtain ⟨spelled, _⟩ := quoted_unquoted _ _ _ _ plain (fun inside' => (unescaped quote inside').2.1 rfl) values'
    rw [key, spelled, ← value]
    exact inside
  cases members with
  | nil =>
      have mark := (List.cons.inj texts).1
      exact absurd mark (by decide)
  | cons member rest =>
      cases rest with
      | nil =>
          exact first member [0x7D] List.mem_cons_self texts
      | cons next later =>
          refine first member (0x2C :: membersText (next :: later) ++ [0x7D]) List.mem_cons_self (texts.trans ?_)
          rw [membersText, List.append_assoc]

theorem exn_metered : Metered (deserializeExn library) := by
  refine enclosed_metered _ (liftExn library) exn_scan_priced exn_scan_encloses fun raw parsed value lifted => ?_
  simp only [liftExn, bind_ok] at lifted
  obtain ⟨code, _, codes, built, sad, verified, _⟩ := lifted
  exact verified_object library _ "d" code codes raw sad built verified

theorem exn_head_text (raw : Bytes) (done : Scanner) (read : ParsedExn.head (withBudget raw .unlimited) = .ok ((), done)) :
    ∃ version size behind, VersionText version ⟨.keri, 1, 0, .json, size⟩ ∧
      raw = asBytes "\x7b\"v\":" ++ quoted version ++ (asBytes ",\"t\":" ++ quoted (asBytes "exn")) ++ behind := by
  obtain ⟨_, at1, opening, read⟩ := (scan_bind_ok _ _ _ _ _).mp read
  obtain ⟨vs, at2, versioned, closing⟩ := (scan_bind_ok _ _ _ _ _).mp read
  rw [version_string_run] at versioned
  cases passed : versionChecks .keri at1 with
  | error error =>
      rw [passed] at versioned
      cases versioned
  | ok found =>
      rw [passed] at versioned
      obtain ⟨long, shape⟩ := version_checks_text .keri at1 found passed
      have took := (took_moved at1 _ _ (List.take_append_drop versionStringLen at1.left).symm).1
      rw [long, (Prod.mk.inj (Except.ok.inj versioned)).2] at took
      have whole := (took_append _ _ _ _ _ (took_append _ _ _ _ _ (expect_took _ _ _ _ opening) took)
        (expect_took _ _ _ _ closing)).left
      have known : found = ⟨.keri, 1, 0, .json, found.size⟩ := by
        rw [versionChecks] at passed
        by_cases short : at1.left.length < versionStringLen
        · rw [if_pos short] at passed
          cases passed
        · rw [if_neg short] at passed
          simp only [bind_ok, map_error_ok, reject_if_ok, exists_done, pure_ok, not_not] at passed
          obtain ⟨given, _, proto, ⟨major, minor⟩, kind, same⟩ := passed
          rw [← same]
          obtain ⟨_, _, _, _, _⟩ := given
          dsimp only at proto major minor kind
          rw [proto, major, minor, kind]
      rw [known] at shape
      refine ⟨at1.left.take versionStringLen, found.size, asBytes ",\"d\":" ++ done.left, shape, ?_⟩
      have opens : asBytes "\x7b\"v\":\"" = asBytes "\x7b\"v\":" ++ [quote] := rfl
      have closes : asBytes "\",\"t\":\"exn\",\"d\":" =
          quote :: (asBytes ",\"t\":" ++ (quoted (asBytes "exn") ++ asBytes ",\"d\":")) := rfl
      rw [opens, closes] at whole
      simp only [quoted, List.append_assoc, List.cons_append, List.nil_append] at whole ⊢
      exact whole

theorem head_within (raw : Bytes) (limits : JsonLimits) (tag : Spanned) (done : Scanner)
    (read : ParsedEvent.head (withBudget raw .unlimited) = .ok (tag, done)) (fields : members raw ≤ limits.maxFields)
    (depth : deepest raw ≤ limits.maxDepth) : ∃ done', ParsedEvent.head (withBudget raw (.ofLimits limits)) = .ok (tag, done') := by
  have met := event_head_priced (withBudget raw (.ofLimits limits))
  have free : (withBudget raw (.ofLimits limits)).opened = withBudget raw .unlimited := rfl
  rw [free, read] at met
  generalize bounded : ParsedEvent.head (withBudget raw (.ofLimits limits)) = found at met ⊢
  cases met with
  | pays value done' text took ended bill => exact ⟨done', rfl⟩
  | refused value done' error _ unpaid =>
      have paid := (covered_iff raw limits).mpr ⟨fields, depth⟩
      have unpaid' : pay (marks .outside raw) (.ofLimits limits) = none := unpaid
      rw [unpaid'] at paid
      cases paid

theorem exn_kind (raw : Bytes) (limits : JsonLimits) (exn : ExnRead) (read : deserializeExn library raw (.ofLimits limits) = .ok exn) :
    ParsedEvent.peekMessageType raw limits = .ok .exn := by
  obtain ⟨free, fields, depth⟩ := (exn_metered library raw limits exn).mp read
  simp only [deserializeExn, ParsedExn.parse, liftExn, bind_ok, exists_done, scanned_ok] at free
  obtain ⟨_, parsed, ⟨done, scanned'⟩, code, _, codes, built, sad, verified, _⟩ := free
  obtain ⟨_, at1, headed, _⟩ := (scan_bind_ok _ _ _ _ _).mp scanned'
  obtain ⟨version, size, behind, shape, whole⟩ := exn_head_text raw at1 headed
  have distinct : (codes.slots.map Prod.fst).Nodup := by
    rw [staticCodes, map_error_ok, SadCodes.fromPairs] at built
    split_ifs at built
    cases built
    exact List.nodup_singleton "d"
  simp only [SadCodes.verify, bind_ok, exists_done] at verified
  obtain ⟨scan, scanned'', _, sized, _⟩ := verified
  obtain ⟨members', same, listed, noted'⟩ := (scan_sad_ok codes distinct raw scan).mp scanned''
  have plain := version_plain version _ shape
  have inside := exn_head_declares raw _ version members' codes listed same (fun inside => (plain quote inside).2.1 rfl)
    (by rw [whole, List.append_assoc])
  rw [noted', same] at sized
  obtain ⟨text, vs, spelled, shape', declared⟩ := (check_size_ok codes members' listed).mp sized _ inside
  have texts := congrArg unquoted spelled
  rw [unquoted_quoted, unquoted_quoted] at texts
  rw [← texts] at shape'
  have once := version_text_once version _ vs shape shape'
  have size' : size = raw.length := by
    rw [same, ← declared, ← once]
  rw [size'] at shape
  obtain ⟨tag, done', peeked, tagged, _⟩ := head_reads version behind "exn" (withBudget raw .unlimited) (by decide +kernel)
    (fits_new raw) ⟨shape.1, shape.2.1⟩ rfl whole
  obtain ⟨done'', within⟩ := head_within raw limits tag done' peeked fields depth
  exact peek_of_head raw limits tag done'' .exn within tagged.symm

end Exchange

section Kinds

variable (library : KeyLibrary)

theorem event_kind (raw : Bytes) (limits : JsonLimits) (event : EventRead)
    (read : deserializeEvent library raw (.ofLimits limits) = .ok event) :
    ∃ known, ParsedEvent.peekMessageType raw limits = .ok known ∧ known.kind = .event := by
  simp only [deserializeEvent, bind_ok] at read
  obtain ⟨_, _, parsed, scanned', _⟩ := read
  obtain ⟨_, known, peeked, kind⟩ := peeked_body ParsedEvent.body (fun _ known => known.kind = .event)
    (fun tag sc value done => event_body_kind tag sc done value) raw limits parsed scanned'
  exact ⟨known, peeked, kind⟩

theorem tel_kind (raw : Bytes) (limits : JsonLimits) (event : TelRead)
    (read : deserializeTel library raw (.ofLimits limits) = .ok event) :
    ∃ known, ParsedEvent.peekMessageType raw limits = .ok known ∧ known.kind = .tel := by
  simp only [deserializeTel, bind_ok] at read
  obtain ⟨_, _, parsed, scanned', _⟩ := read
  obtain ⟨_, known, peeked, kind⟩ := peeked_body ParsedTel.body (fun _ known => known.kind = .tel)
    (fun tag sc value done => tel_body_kind tag sc done value) raw limits parsed scanned'
  exact ⟨known, peeked, kind⟩

theorem receipt_kind (raw : Bytes) (limits : JsonLimits) (receipt : Receipt)
    (read : deserializeReceipt raw (.ofLimits limits) = .ok receipt) :
    ∃ known, ParsedEvent.peekMessageType raw limits = .ok known ∧ known.kind = .receipt := by
  simp only [deserializeReceipt, bind_ok] at read
  obtain ⟨_, _, parsed, scanned', _⟩ := read
  obtain ⟨_, known, peeked, kind⟩ := peeked_body (fun tag => requireMessageType tag "rct" >>= fun _ => ParsedRct.body)
    (fun _ known => known.kind = .receipt) (fun tag sc value done read => by
      obtain ⟨_, at', required, _⟩ := (scan_bind_ok _ _ _ _ _).mp read
      rw [requireMessageType, scan_get_run] at required
      split_ifs at required with same
      · exact ⟨.rct, same.symm, rfl⟩
      · exact absurd ((reject_ok _ _ _ _).mp required) not_false) raw limits parsed scanned'
  exact ⟨known, peeked, kind⟩

theorem routed_kind (raw : Bytes) (limits : JsonLimits) (routed : RoutedBody)
    (read : RoutedBody.parse library raw (.ofLimits limits) = .ok routed) :
    ∃ known, ParsedEvent.peekMessageType raw limits = .ok known ∧ known.kind = .routed := by
  simp only [RoutedBody.parse, bind_ok] at read
  obtain ⟨_, _, parsed, scanned', _⟩ := read
  obtain ⟨done, scanned'⟩ := (scanned_ok _ _ _ _).mp scanned'
  obtain ⟨tag, at1, headed, later⟩ := (scan_bind_ok _ _ _ _ _).mp scanned'
  obtain ⟨kind, at2, kinded, _⟩ := (scan_bind_ok _ _ _ _ _).mp later
  obtain ⟨_, coded, known⟩ := routed_kind_ok tag at1 at2 kind kinded
  refine ⟨kind, peek_of_head raw limits tag at1 kind headed coded, ?_⟩
  rcases known with same | same <;> rw [same] <;> rfl

end Kinds

section Dispatch

variable (library : KeyLibrary) (limits : MessageLimits)

theorem parse_framed_ok {ε μ : Type} (frame : ParseError → ε) (bare : ε) (fromParts : Bytes → Bytes → Except (Failure ε) μ)
    (input : Bytes) (message : μ) (rest : Bytes) :
    parseFramed frame bare fromParts input limits = .ok (message, rest) ↔
      ∃ payload attachments, frameOne input limits.frame = .ok ⟨some payload, attachments, rest⟩ ∧
        fromParts payload attachments = .ok message := by
  simp only [parseFramed, bind_ok, map_error_ok]
  apply Iff.intro
  · intro found
    obtain ⟨⟨body, attachments, rest'⟩, framed, read⟩ := found
    cases body with
    | none => cases read
    | some payload =>
        simp only [bind_ok, pure_ok, Prod.mk.injEq] at read
        obtain ⟨message', parts, same, same'⟩ := read
        rw [same'] at framed
        rw [same] at parts
        exact ⟨payload, attachments, framed, parts⟩
  · intro found
    obtain ⟨payload, attachments, framed, parts⟩ := found
    refine ⟨_, framed, ?_⟩
    simp only [bind_ok, pure_ok, Prod.mk.injEq]
    exact ⟨message, parts, rfl, trivial⟩

inductive ReadsAs (input : Bytes) : Message → Bytes → Prop where
  | event (message : EventMessage) (rest : Bytes) (read : EventMessage.parse library input limits = .ok (message, rest)) :
      ReadsAs input (.event message) rest
  | receipt (message : ReceiptMessage) (rest : Bytes) (read : ReceiptMessage.parse input limits = .ok (message, rest)) :
      ReadsAs input (.receipt message) rest
  | tel (message : TelMessage) (rest : Bytes) (read : TelMessage.parse library input limits = .ok (message, rest)) :
      ReadsAs input (.tel message) rest
  | exn (message : ExnMessageRead) (rest : Bytes) (read : ExnMessageRead.parse library input limits = .ok (message, rest)) :
      ReadsAs input (.exn message) rest
  | routed (message : RoutedMessage) (rest : Bytes) (read : RoutedMessage.parse library input limits = .ok (message, rest)) :
      ReadsAs input (.routed message) rest

theorem wrapped_parts {ε ε' μ : Type} (result : Except (Failure ε) μ) (wrap : Failure ε → Failure ε') (make : μ → Message)
    (message : Message) (parts : Message → Prop) (builds : ∀ made, result = .ok made → parts (make made))
    (built : parts message → ∃ made, result = .ok made ∧ message = make made) :
    (result.map make).mapError wrap = .ok message ↔ parts message := by
  rw [map_error_ok]
  apply Iff.intro
  · intro mapped
    cases result with
    | error error => cases mapped
    | ok made =>
        cases mapped
        exact builds made rfl
  · intro found
    obtain ⟨made, read, same⟩ := built found
    rw [read, same]
    rfl

inductive PartsAs (payload attachments : Bytes) : MessageKind → Message → Prop where
  | event (message : EventMessage) (read : EventMessage.fromParts library limits.json payload attachments = .ok message) :
      PartsAs payload attachments .event (.event message)
  | receipt (message : ReceiptMessage) (read : ReceiptMessage.fromParts limits.json payload attachments = .ok message) :
      PartsAs payload attachments .receipt (.receipt message)
  | tel (message : TelMessage) (read : TelMessage.fromParts library limits.json payload attachments = .ok message) :
      PartsAs payload attachments .tel (.tel message)
  | exn (message : ExnMessageRead) (read : ExnMessageRead.fromParts library limits payload attachments = .ok message) :
      PartsAs payload attachments .exn (.exn message)
  | routed (message : RoutedMessage) (read : RoutedMessage.fromParts library limits.json payload attachments = .ok message) :
      PartsAs payload attachments .routed (.routed message)

theorem from_parts_kind (payload attachments : Bytes) (messageType : MessageType) (message : Message) :
    Message.fromParts library limits payload attachments messageType = .ok message ↔
      PartsAs library limits payload attachments messageType.kind message := by
  have event : ((EventMessage.fromParts library limits.json payload attachments).map Message.event).mapError
      (Failure.wrap MessageError.event) = .ok message ↔ PartsAs library limits payload attachments .event message := by
    refine wrapped_parts _ _ _ message _ (fun made read => .event made read) fun parts => ?_
    cases parts with
    | event made read => exact ⟨made, read, rfl⟩
  have tel : ((TelMessage.fromParts library limits.json payload attachments).map Message.tel).mapError
      (Failure.wrap MessageError.tel) = .ok message ↔ PartsAs library limits payload attachments .tel message := by
    refine wrapped_parts _ _ _ message _ (fun made read => .tel made read) fun parts => ?_
    cases parts with
    | tel made read => exact ⟨made, read, rfl⟩
  have routed : ((RoutedMessage.fromParts library limits.json payload attachments).map Message.routed).mapError
      (Failure.wrap MessageError.routed) = .ok message ↔ PartsAs library limits payload attachments .routed message := by
    refine wrapped_parts _ _ _ message _ (fun made read => .routed made read) fun parts => ?_
    cases parts with
    | routed made read => exact ⟨made, read, rfl⟩
  cases messageType with
  | icp => exact event
  | rot => exact event
  | ixn => exact event
  | dip => exact event
  | drt => exact event
  | vcp => exact tel
  | vrt => exact tel
  | iss => exact tel
  | rev => exact tel
  | bis => exact tel
  | brv => exact tel
  | qry => exact routed
  | rpy => exact routed
  | rct =>
      refine wrapped_parts _ _ _ message _ (fun made read => .receipt made read) fun parts => ?_
      cases parts with
      | receipt made read => exact ⟨made, read, rfl⟩
  | exn =>
      refine wrapped_parts _ _ _ message _ (fun made read => .exn made read) fun parts => ?_
      cases parts with
      | exn made read => exact ⟨made, read, rfl⟩

theorem parts_peek (payload attachments : Bytes) (kind : MessageKind) (message : Message)
    (parts : PartsAs library limits payload attachments kind message) :
    ∃ known, ParsedEvent.peekMessageType payload limits.json = .ok known ∧ known.kind = kind := by
  cases parts with
  | event made read =>
      simp only [EventMessage.fromParts, bind_ok, map_error_ok] at read
      obtain ⟨event, read, _⟩ := read
      exact event_kind library payload limits.json event read
  | receipt made read =>
      simp only [ReceiptMessage.fromParts, bind_ok, map_error_ok] at read
      obtain ⟨receipt, read, _⟩ := read
      exact receipt_kind payload limits.json receipt read
  | tel made read =>
      simp only [TelMessage.fromParts, bind_ok, map_error_ok] at read
      obtain ⟨event, read, _⟩ := read
      exact tel_kind library payload limits.json event read
  | exn made read =>
      simp only [ExnMessageRead.fromParts, bind_ok, map_error_ok] at read
      obtain ⟨exn, read, _⟩ := read
      exact ⟨.exn, exn_kind library payload limits.json exn read, rfl⟩
  | routed made read =>
      simp only [RoutedMessage.fromParts, bind_ok, map_error_ok] at read
      obtain ⟨routed, read, _⟩ := read
      exact routed_kind library payload limits.json routed read

theorem reads_as_parts (input : Bytes) (message : Message) (rest : Bytes) :
    ReadsAs library limits input message rest ↔ ∃ payload attachments kind,
      frameOne input limits.frame = .ok ⟨some payload, attachments, rest⟩ ∧ PartsAs library limits payload attachments kind message := by
  apply Iff.intro
  · intro reads
    cases reads with
    | event made _ read =>
        obtain ⟨payload, attachments, framed, parts⟩ := (parse_framed_ok limits _ _ _ input made rest).mp read
        exact ⟨payload, attachments, .event, framed, .event made parts⟩
    | receipt made _ read =>
        obtain ⟨payload, attachments, framed, parts⟩ := (parse_framed_ok limits _ _ _ input made rest).mp read
        exact ⟨payload, attachments, .receipt, framed, .receipt made parts⟩
    | tel made _ read =>
        obtain ⟨payload, attachments, framed, parts⟩ := (parse_framed_ok limits _ _ _ input made rest).mp read
        exact ⟨payload, attachments, .tel, framed, .tel made parts⟩
    | exn made _ read =>
        obtain ⟨payload, attachments, framed, parts⟩ := (parse_framed_ok limits _ _ _ input made rest).mp read
        exact ⟨payload, attachments, .exn, framed, .exn made parts⟩
    | routed made _ read =>
        obtain ⟨payload, attachments, framed, parts⟩ := (parse_framed_ok limits _ _ _ input made rest).mp read
        exact ⟨payload, attachments, .routed, framed, .routed made parts⟩
  · intro found
    obtain ⟨payload, attachments, kind, framed, parts⟩ := found
    cases parts with
    | event made read => exact .event made rest ((parse_framed_ok limits _ _ _ input made rest).mpr ⟨payload, attachments, framed, read⟩)
    | receipt made read => exact .receipt made rest ((parse_framed_ok limits _ _ _ input made rest).mpr ⟨payload, attachments, framed, read⟩)
    | tel made read => exact .tel made rest ((parse_framed_ok limits _ _ _ input made rest).mpr ⟨payload, attachments, framed, read⟩)
    | exn made read => exact .exn made rest ((parse_framed_ok limits _ _ _ input made rest).mpr ⟨payload, attachments, framed, read⟩)
    | routed made read => exact .routed made rest ((parse_framed_ok limits _ _ _ input made rest).mpr ⟨payload, attachments, framed, read⟩)

theorem message_parts (input : Bytes) (message : Message) (rest : Bytes) :
    Message.parse library input limits = .ok (message, rest) ↔ ReadsAs library limits input message rest := by
  rw [Message.parse, parse_framed_ok, reads_as_parts]
  simp only [bind_ok, map_error_ok, from_parts_kind]
  apply Iff.intro
  · intro found
    obtain ⟨payload, attachments, framed, known, _, parts⟩ := found
    exact ⟨payload, attachments, known.kind, framed, parts⟩
  · intro found
    obtain ⟨payload, attachments, kind, framed, parts⟩ := found
    obtain ⟨known, peeked, same⟩ := parts_peek library limits payload attachments kind message parts
    rw [← same] at parts
    exact ⟨payload, attachments, framed, known, peeked, parts⟩

-- The dispatcher reads what the parser of the message's own kind reads, and no
-- input is a message of two kinds.
theorem dispatcher_agrees (input : Bytes) :
    (∀ message rest, Message.parse library input limits = .ok (message, rest) ↔ ReadsAs library limits input message rest) ∧
      ∀ first second rest rest', ReadsAs library limits input first rest → ReadsAs library limits input second rest' →
        first = second ∧ rest = rest' := by
  refine ⟨message_parts library limits input, ?_⟩
  intro first second rest rest' left right
  have parsed := (message_parts library limits input first rest).mpr left
  rw [(message_parts library limits input second rest').mpr right, Except.ok.injEq, Prod.mk.injEq] at parsed
  exact ⟨parsed.1.symm, parsed.2.symm⟩

end Dispatch

end Codec

end Cesr
