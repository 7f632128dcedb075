import Cesr.Codec.MessageKinds
import Cesr.Codec.MessageContents
import Cesr.Codec.EventRoundTrip

set_option autoImplicit false

namespace Cesr.Codec

open Base64 Checks Resume Appends Cesr.Stream

section Contents

-- The groups behind a body hand over these parts, with every attachment frame opened.
def HandsOver {γ : Type} (gives : CesrGroup → γ → Prop) (groups : List Attached) (parts : List γ) : Prop :=
  ∃ inners, List.Forall₂ (fun (attached : Attached) inner => Unfolds attached.group inner) groups inners ∧
    List.Forall₂ gives inners.flatten parts

theorem consumed_ok {σ ε γ : Type} (frame : ParseError → ε) (route : CesrGroup → σ → Except (Failure ε) σ)
    (gives : CesrGroup → γ → Prop) (join : σ → γ → σ)
    (each : ∀ group found next, route group found = .ok next ↔ ∃ part, gives group part ∧ next = join found part)
    (limits : FrameLimits) (input payload attachments rest : Bytes) (groups : List Attached)
    (message : MessageAt limits input payload attachments rest groups) (start final : σ) (left : Bytes) :
    consumeGroups frame route attachments.length attachments start = .ok (final, left) ↔
      left = [] ∧ ∃ parts, HandsOver gives groups parts ∧ final = parts.foldl join start := by
  have regions := fun routed => region_attachments true (attachments ++ rest) groups attachments.length message.attached routed left
  simp only [List.take_left] at regions
  have gathered := fun routed : List CesrGroup =>
    fold_gathers (fun found group => route group found) gives join (fun found group next => each group found next) routed start final
  rw [consume_groups_ok frame route attachments.length attachments left (Nat.le_refl _) start final]
  simp only [regions, routeAll, gathered]
  apply Iff.intro
  · intro found
    obtain ⟨routed, ⟨ended, inners, unfolds, same⟩, parts, given, final'⟩ := found
    rw [same] at given
    exact ⟨ended, parts, ⟨inners, unfolds, given⟩, final'⟩
  · intro found
    obtain ⟨ended, parts, ⟨inners, unfolds, given⟩, final'⟩ := found
    exact ⟨inners.flatten, ⟨ended, inners, unfolds, rfl⟩, parts, given, final'⟩

end Contents

section Kinds

variable (library : KeyLibrary) (limits : MessageLimits)

structure EventAt (input rest : Bytes) (message : EventMessage) (attachments : Bytes) (groups : List Attached)
    (parts : List EventAttachments) : Prop where
  framed : MessageAt limits.frame input message.body attachments rest groups
  event : deserializeEvent library message.body (.ofLimits limits.json) = .ok message.event
  carried : HandsOver SignatureGives groups parts
  sigs : message.sigs = parts.flatMap EventAttachments.sigs
  wigs : message.wigs = parts.flatMap EventAttachments.wigs

structure ReceiptAt (input rest : Bytes) (message : ReceiptMessage) (attachments : Bytes) (groups : List Attached)
    (parts : List ReceiptAttachments) : Prop where
  framed : MessageAt limits.frame input message.body attachments rest groups
  receipt : deserializeReceipt message.body (.ofLimits limits.json) = .ok message.receipt
  carried : HandsOver ReceiptGives groups parts
  couples : message.couples = parts.flatMap ReceiptAttachments.couples
  wigs : message.wigs = parts.flatMap ReceiptAttachments.wigs
  transReceipts : message.transReceipts = parts.flatMap ReceiptAttachments.transReceipts
  endorsed : ¬(message.couples = [] ∧ message.wigs = [] ∧ message.transReceipts = [])

-- The source of a registry event is the last couple of the last group of couples.
structure TelAt (input rest : Bytes) (message : TelMessage) (attachments : Bytes) (groups : List Attached)
    (parts : List TelAttachments) : Prop where
  framed : MessageAt limits.frame input message.body attachments rest groups
  event : deserializeTel library message.body (.ofLimits limits.json) = .ok message.event
  carried : HandsOver TelGives groups parts
  sigs : message.sigs = parts.flatMap TelAttachments.sigs
  source : message.source = parts.reverse.findSome? TelAttachments.source
  backerSigs : message.backerSigs = parts.flatMap TelAttachments.backerSigs

structure RoutedAt (input rest : Bytes) (message : RoutedMessage) (attachments : Bytes) (groups : List Attached)
    (parts : List ReceiptAttachments) : Prop where
  framed : MessageAt limits.frame input message.body attachments rest groups
  routed : RoutedBody.parse library message.body (.ofLimits limits.json) = .ok message.routed
  carried : HandsOver ReceiptGives groups parts
  unwitnessed : parts.flatMap ReceiptAttachments.wigs = []
  nontransferable : message.nontransferable = parts.flatMap ReceiptAttachments.couples
  transferable : message.transferable = parts.flatMap ReceiptAttachments.transReceipts

theorem event_parts_ok (input payload attachments rest : Bytes) (groups : List Attached)
    (framed : MessageAt limits.frame input payload attachments rest groups) (message : EventMessage) :
    EventMessage.fromParts library limits.json payload attachments = .ok message ↔
      message.body = payload ∧ ∃ parts, EventAt library limits input rest message attachments groups parts := by
  have read := consumed_ok EventMessageError.frame routeSignatureGroup SignatureGives EventAttachments.join route_signature_ok
    limits.frame input payload attachments rest groups framed ⟨[], []⟩
  simp only [EventMessage.fromParts, consumeAttachments, bind_ok, map_error_ok, reject_if_ok, not_not, exists_done, pure_ok]
  apply Iff.intro
  · intro found
    obtain ⟨event, read', ⟨consumed, left⟩, walked, empty, same⟩ := found
    obtain ⟨_, parts, given, final⟩ := (read consumed left).mp walked
    rw [joined_signatures] at final
    rw [← same, final]
    exact ⟨rfl, parts, framed, read', given, rfl, rfl⟩
  · intro found
    obtain ⟨same, parts, there⟩ := found
    have event := there.event
    rw [same] at event
    refine ⟨message.event, event, (_, []), (read _ []).mpr ⟨rfl, parts, there.carried, rfl⟩, rfl, ?_⟩
    rw [joined_signatures, ← same]
    simp only [List.nil_append, ← there.sigs, ← there.wigs]

theorem receipt_parts_ok (input payload attachments rest : Bytes) (groups : List Attached)
    (framed : MessageAt limits.frame input payload attachments rest groups) (message : ReceiptMessage) :
    ReceiptMessage.fromParts limits.json payload attachments = .ok message ↔
      message.body = payload ∧ ∃ parts, ReceiptAt limits input rest message attachments groups parts := by
  have read := consumed_ok ReceiptMessageError.frame routeReceiptGroup ReceiptGives ReceiptAttachments.join route_receipt_ok
    limits.frame input payload attachments rest groups framed ⟨[], [], []⟩
  simp only [ReceiptMessage.fromParts, consumeReceiptAttachments, bind_ok, map_error_ok, reject_if_ok, not_not, exists_done, pure_ok]
  apply Iff.intro
  · intro found
    obtain ⟨receipt, read', ⟨consumed, left⟩, walked, empty, endorsed, same⟩ := found
    obtain ⟨_, parts, given, final⟩ := (read consumed left).mp walked
    rw [joined_receipts] at final
    rw [final] at endorsed same
    rw [← same]
    exact ⟨rfl, parts, framed, read', given, rfl, rfl, rfl, endorsed⟩
  · intro found
    obtain ⟨same, parts, there⟩ := found
    have receipt := there.receipt
    have endorsed := there.endorsed
    rw [same] at receipt
    rw [there.couples, there.wigs, there.transReceipts] at endorsed
    refine ⟨message.receipt, receipt, (_, []), (read _ []).mpr ⟨rfl, parts, there.carried, rfl⟩, rfl, ?_⟩
    rw [joined_receipts, ← same]
    refine ⟨endorsed, ?_⟩
    simp only [List.nil_append, ← there.couples, ← there.wigs, ← there.transReceipts]

theorem tel_parts_ok (input payload attachments rest : Bytes) (groups : List Attached)
    (framed : MessageAt limits.frame input payload attachments rest groups) (message : TelMessage) :
    TelMessage.fromParts library limits.json payload attachments = .ok message ↔
      message.body = payload ∧ ∃ parts, TelAt library limits input rest message attachments groups parts := by
  have read := consumed_ok EventMessageError.frame routeTelGroup TelGives TelAttachments.join route_tel_ok
    limits.frame input payload attachments rest groups framed ⟨[], none, []⟩
  have sourceless : ∀ source : Option TelSource, (source <|> none) = source := by
    intro source
    cases source <;> rfl
  simp only [TelMessage.fromParts, consumeTelAttachments, bind_ok, map_error_ok, reject_if_ok, not_not, exists_done, pure_ok]
  apply Iff.intro
  · intro found
    obtain ⟨event, read', ⟨consumed, left⟩, walked, empty, same⟩ := found
    obtain ⟨_, parts, given, final⟩ := (read consumed left).mp walked
    rw [joined_tel, sourceless] at final
    rw [← same, final]
    exact ⟨rfl, parts, framed, read', given, rfl, rfl, rfl⟩
  · intro found
    obtain ⟨same, parts, there⟩ := found
    have event := there.event
    rw [same] at event
    refine ⟨message.event, event, (_, []), (read _ []).mpr ⟨rfl, parts, there.carried, rfl⟩, rfl, ?_⟩
    rw [joined_tel, sourceless, ← same]
    simp only [List.nil_append, ← there.sigs, ← there.source, ← there.backerSigs]

theorem routed_parts_ok (input payload attachments rest : Bytes) (groups : List Attached)
    (framed : MessageAt limits.frame input payload attachments rest groups) (message : RoutedMessage) :
    RoutedMessage.fromParts library limits.json payload attachments = .ok message ↔
      message.body = payload ∧ ∃ parts, RoutedAt library limits input rest message attachments groups parts := by
  have read := consumed_ok ReceiptMessageError.frame routeReceiptGroup ReceiptGives ReceiptAttachments.join route_receipt_ok
    limits.frame input payload attachments rest groups framed ⟨[], [], []⟩
  simp only [RoutedMessage.fromParts, consumeReceiptAttachments, bind_ok, map_error_ok, reject_if_ok, not_not, exists_done, pure_ok]
  apply Iff.intro
  · intro found
    obtain ⟨routed, read', ⟨consumed, left⟩, walked, unwitnessed, empty, same⟩ := found
    obtain ⟨_, parts, given, final⟩ := (read consumed left).mp walked
    rw [joined_receipts] at final
    rw [final] at unwitnessed same
    rw [← same]
    exact ⟨rfl, parts, framed, read', given, unwitnessed, rfl, rfl⟩
  · intro found
    obtain ⟨same, parts, there⟩ := found
    have routed := there.routed
    rw [same] at routed
    refine ⟨message.routed, routed, (_, []), (read _ []).mpr ⟨rfl, parts, there.carried, rfl⟩, ?_⟩
    rw [joined_receipts, ← same]
    refine ⟨there.unwitnessed, rfl, ?_⟩
    simp only [List.nil_append, ← there.nontransferable, ← there.transferable]

theorem parsed_exactly {ε μ : Type} (small : limits.frame.maxSignatures ≤ usizeMax) (frame : ParseError → ε) (bare : ε)
    (fromParts : Bytes → Bytes → Except (Failure ε) μ) (body : μ → Bytes) (input rest : Bytes) (message : μ)
    (reads : Bytes → List Attached → Prop)
    (framed : ∀ attachments groups, reads attachments groups → MessageAt limits.frame input (body message) attachments rest groups)
    (each : ∀ payload attachments groups, MessageAt limits.frame input payload attachments rest groups →
      (fromParts payload attachments = .ok message ↔ body message = payload ∧ reads attachments groups)) :
    parseFramed frame bare fromParts input limits = .ok (message, rest) ↔ ∃ attachments groups, reads attachments groups := by
  rw [parse_framed_ok]
  simp only [frame_one_ok limits.frame small]
  apply Iff.intro
  · intro found
    obtain ⟨payload, attachments, ⟨groups, there⟩, read⟩ := found
    exact ⟨attachments, groups, ((each payload attachments groups there).mp read).2⟩
  · intro found
    obtain ⟨attachments, groups, there⟩ := found
    have framed' := framed attachments groups there
    exact ⟨body message, attachments, ⟨groups, framed'⟩, (each _ attachments groups framed').mpr ⟨rfl, there⟩⟩

-- Each parser reads its message off the head of the input exactly when the input
-- begins with such a message: the body reads, and the groups behind it that the
-- framer counts within its limits are the ones handed over, in order and none left.
theorem messages_read_exactly (small : limits.frame.maxSignatures ≤ usizeMax) (input rest : Bytes) :
    (∀ message, EventMessage.parse library input limits = .ok (message, rest) ↔
      ∃ attachments groups parts, EventAt library limits input rest message attachments groups parts) ∧
    (∀ message, ReceiptMessage.parse input limits = .ok (message, rest) ↔
      ∃ attachments groups parts, ReceiptAt limits input rest message attachments groups parts) ∧
    (∀ message, TelMessage.parse library input limits = .ok (message, rest) ↔
      ∃ attachments groups parts, TelAt library limits input rest message attachments groups parts) ∧
    ∀ message, RoutedMessage.parse library input limits = .ok (message, rest) ↔
      ∃ attachments groups parts, RoutedAt library limits input rest message attachments groups parts := by
  refine ⟨fun message => ?_, fun message => ?_, fun message => ?_, fun message => ?_⟩
  · exact parsed_exactly limits small _ _ _ EventMessage.body input rest message _
      (fun attachments groups found => found.choose_spec.framed)
      (fun payload attachments groups there => event_parts_ok library limits input payload attachments rest groups there message)
  · exact parsed_exactly limits small _ _ _ ReceiptMessage.body input rest message _
      (fun attachments groups found => found.choose_spec.framed)
      (fun payload attachments groups there => receipt_parts_ok limits input payload attachments rest groups there message)
  · exact parsed_exactly limits small _ _ _ TelMessage.body input rest message _
      (fun attachments groups found => found.choose_spec.framed)
      (fun payload attachments groups there => tel_parts_ok library limits input payload attachments rest groups there message)
  · exact parsed_exactly limits small _ _ _ RoutedMessage.body input rest message _
      (fun attachments groups found => found.choose_spec.framed)
      (fun payload attachments groups there => routed_parts_ok library limits input payload attachments rest groups there message)

end Kinds

namespace ReceiptSample

def limits : MessageLimits := ⟨codecLimits, ⟨16, 4⟩⟩

def input : Bytes :=
  let zeros := "AAAAAAAAAAAAAAAAAAAAAAAAAAAAAAAAAAAAAAAAAAA"
  asBytes ("\x7b\"v\":\"KERI10JSON000091_\",\"t\":\"rct\",\"d\":\"E" ++ zeros ++ "\",\"i\":\"E" ++ zeros ++ "\",\"s\":\"0\"\x7d" ++
    "-CABB" ++ zeros ++ "0B" ++ zeros ++ zeros)

end ReceiptSample

theorem messages_read_exactly_receipt :
    ∃ message attachments groups parts, ReceiptAt ReceiptSample.limits ReceiptSample.input [] message attachments groups parts := by
  have read : (ReceiptMessage.parse ReceiptSample.input ReceiptSample.limits).toOption.map Prod.snd = some [] := by decide +kernel
  cases parsed : ReceiptMessage.parse ReceiptSample.input ReceiptSample.limits with
  | error error =>
      rw [parsed] at read
      cases read
  | ok found =>
      rw [parsed] at read
      have whole : found = (found.1, []) := Prod.ext rfl (Option.some.inj read)
      rw [whole] at parsed
      exact ⟨found.1, ((messages_read_exactly EventSample.keyLibrary ReceiptSample.limits (by decide) ReceiptSample.input
        []).2.1 found.1).mp parsed⟩

end Cesr.Codec
