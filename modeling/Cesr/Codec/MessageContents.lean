import Cesr.Codec.Message

set_option autoImplicit false

namespace Cesr.Codec

open Base64 Checks Calls Resume Appends Cesr.Stream

section Framed

theorem attachments_within (endOfInput : Bool) (bytes : Bytes) (groups : List Attached) (total : Nat)
    (attached : Attachments endOfInput bytes groups total) : total ≤ bytes.length := by
  induction attached with
  | finished closed => exact Nat.le_refl 0
  | body bytes first cold headed detected kept => exact Nat.zero_le _
  | envelope bytes attached size read encloses closes => exact (sized_of_reads .v1).within bytes _ read
  | group bytes attached size groups total read encloses open' later ih =>
      have reach : size ≤ bytes.length := (sized_of_reads .v1).within bytes _ read
      rw [List.length_drop] at ih
      omega

theorem region_head (bytes : Bytes) (group : CesrGroup) (size : Nat) (routed : List CesrGroup) (rest : Bytes)
    (read : CesrGroup.sizedOf .v1 bytes = .ok (group, size)) :
    Region bytes routed rest ↔ ∃ inner later, Unfolds group inner ∧ Region (bytes.drop size) later rest ∧ routed = inner ++ later := by
  apply Iff.intro
  · intro region
    cases region with
    | finished => exact absurd (sized_of_pos .v1 [] (group, size) read) (Nat.lt_irrefl 0)
    | body first tail kept =>
        have dashed : first = 0x2D := Option.some.inj (sized_of_dash _ _ read)
        rw [dashed] at kept
        exact absurd kept (by decide)
    | group _ group' size' inner later _ read' unfolds region =>
        rw [read] at read'
        cases read'
        exact ⟨inner, later, unfolds, region, rfl⟩
  · intro found
    obtain ⟨inner, later, unfolds, region, same⟩ := found
    rw [same]
    exact .group bytes group size inner later rest read unfolds region

theorem region_nil (routed : List CesrGroup) (rest : Bytes) : Region [] routed rest ↔ routed = [] ∧ rest = [] := by
  apply Iff.intro
  · intro region
    generalize none' : ([] : Bytes) = bytes at region
    cases region with
    | finished => exact ⟨rfl, rfl⟩
    | body first tail kept => cases none'
    | group _ group size inner later _ read _ _ =>
        rw [← none'] at read
        exact absurd (sized_of_pos .v1 [] (group, size) read) (Nat.lt_irrefl 0)
  · intro found
    rw [found.1, found.2]
    exact .finished

-- The walk through the bytes of a span routes the groups that the framer counted, and all of them.
theorem region_attachments (endOfInput : Bool) (bytes : Bytes) (groups : List Attached) (total : Nat)
    (attached : Attachments endOfInput bytes groups total) (routed : List CesrGroup) (rest : Bytes) :
    Region (bytes.take total) routed rest ↔
      rest = [] ∧ ∃ inners, List.Forall₂ (fun (attached : Attached) inner => Unfolds attached.group inner) groups inners ∧
        routed = inners.flatten := by
  have none' : (Region [] routed rest ↔ rest = [] ∧
      ∃ inners, List.Forall₂ (fun (attached : Attached) inner => Unfolds attached.group inner) [] inners ∧ routed = inners.flatten) := by
    rw [region_nil]
    simp only [List.forall₂_nil_left_iff, exists_eq_left, List.flatten_nil]
    exact and_comm
  have reads := sized_of_reads .v1
  induction attached generalizing routed with
  | finished closed => exact none'
  | body bytes first cold headed detected kept => exact none'
  | envelope bytes attached size read encloses closes =>
      have alone := reads.exact bytes (attached.group, size) read
      dsimp only at alone
      rw [region_head _ attached.group size routed rest alone, List.drop_of_length_le (List.length_take_le size bytes)]
      simp only [region_nil, List.forall₂_cons_left_iff, List.forall₂_nil_left_iff]
      apply Iff.intro
      · intro found
        obtain ⟨inner, later, unfolds, ⟨empty, ended⟩, same⟩ := found
        refine ⟨ended, [inner], ⟨inner, [], unfolds, rfl, rfl⟩, ?_⟩
        rw [same, empty, List.flatten_cons, List.flatten_nil]
      · intro found
        obtain ⟨ended, _, ⟨inner, others, unfolds, empty, same⟩, same'⟩ := found
        refine ⟨inner, [], unfolds, ⟨rfl, ended⟩, ?_⟩
        rw [same', same, empty, List.flatten_cons, List.flatten_nil]
  | group bytes attached size groups total read encloses open' later ih =>
      have within := attachments_within endOfInput _ groups total later
      have reach : size ≤ bytes.length := reads.within bytes _ read
      have again := reads_again reads bytes ((bytes.drop size).take total) (attached.group, size) read
      dsimp only at again
      rw [← List.take_add] at again
      rw [region_head _ attached.group size routed rest again, List.drop_take, Nat.add_sub_cancel_left]
      have rests := fun other => ih other (by
        rw [region_nil]
        simp only [List.forall₂_nil_left_iff, exists_eq_left, List.flatten_nil]
        exact and_comm)
      simp only [rests, List.forall₂_cons_left_iff]
      apply Iff.intro
      · intro found
        obtain ⟨inner, _, unfolds, ⟨ended, inners, each, same⟩, same'⟩ := found
        refine ⟨ended, inner :: inners, ⟨inner, inners, unfolds, each, rfl⟩, ?_⟩
        rw [same', same, List.flatten_cons]
      · intro found
        obtain ⟨ended, _, ⟨inner, inners, unfolds, each, same⟩, same'⟩ := found
        refine ⟨inner, inners.flatten, unfolds, ⟨ended, inners, each, rfl⟩, ?_⟩
        rw [same', same, List.flatten_cons]

variable (limits : FrameLimits)

structure MessageAt (input payload attachments rest : Bytes) (groups : List Attached) : Prop where
  split : input = payload ++ (attachments ++ rest)
  json : input.head?.map ColdCode.detect = some (.ok .json)
  declared : JsonVersionHead.eventSize input .json = .ok payload.length
  body : payload.length ≤ limits.maxBodyBytes
  attached : Attachments true (attachments ++ rest) groups attachments.length
  allowed : AttachedAllowed limits 0 0 0 groups attachments.length

theorem split_at_ok (bytes : Bytes) (len : Nat) (parts : Bytes × Bytes) :
    splitAt bytes len = .ok parts ↔ len ≤ bytes.length ∧ parts = (bytes.take len, bytes.drop len) := by
  simp only [splitAt, bind_ok, reject_if_ok, exists_done, pure_ok, Nat.not_lt]
  exact and_congr_right fun _ => eq_comm

theorem frame_one_ok (small : limits.maxSignatures ≤ usizeMax) (input payload attachments rest : Bytes) :
    frameOne input limits = .ok ⟨some payload, attachments, rest⟩ ↔ ∃ groups, MessageAt limits input payload attachments rest groups := by
  apply Iff.intro
  · intro framed
    simp only [frameOne, bind_ok, exists_done] at framed
    obtain ⟨starts, emitted, given, framed⟩ := framed
    cases emitted with
    | none => cases framed
    | some span =>
        have fits := (fresh_framer_emits limits true input small span).mp given
        simp only [bind_ok, split_at_ok] at framed
        obtain ⟨frame, ⟨reach, same⟩, framed⟩ := framed
        cases fits with
        | bare _ _ _ _ _ _ _ => cases framed
        | message first cold bodyLen groups total headed detected kept declared body arrived attached allowed =>
            simp only [bind_ok, split_at_ok, pure_ok, BodyFrame.mk.injEq, Option.some.injEq] at framed
            obtain ⟨parts, ⟨reach', same'⟩, payload', attachments', rest'⟩ := framed
            have cold' : cold = .json := by
              cases input with
              | nil => cases headed
              | cons first' tail =>
                  cases headed
                  simp only [checkBodyStart, detected, ok_bind, reject_if_ok] at starts
                  cases cold with
                  | json => rfl
                  | cbor => exact absurd (.inl rfl) starts
                  | messagePack => exact absurd (.inr rfl) starts
                  | cesrBase64 => exact absurd rfl kept.1
                  | cesrBinary => exact absurd rfl kept.2
            rw [cold'] at detected declared
            have within := attachments_within true _ groups total attached
            have payload'' : payload = input.take bodyLen := by
              rw [← payload', same', same, List.take_take, Nat.min_eq_left (Nat.le_add_right _ _)]
            have attachments'' : attachments = (input.drop bodyLen).take total := by
              rw [← attachments', same', same, List.drop_take, Nat.add_sub_cancel_left]
            have rest'' : rest = (input.drop bodyLen).drop total := by
              rw [← rest', same, List.drop_drop]
            have size : attachments.length = total := by
              rw [attachments'', List.length_take, Nat.min_eq_left within]
            have bodySize : payload.length = bodyLen := by
              rw [payload'', List.length_take, Nat.min_eq_left arrived]
            refine ⟨groups, ?_, ?_, by rw [bodySize]; exact declared, by rw [bodySize]; exact body, ?_, by rw [size]; exact allowed⟩
            · rw [payload'', attachments'', rest'', List.take_append_drop, List.take_append_drop]
            · rw [headed, Option.map_some, detected]
            · rw [size, attachments'', rest'', List.take_append_drop]
              exact attached
  · intro found
    obtain ⟨groups, message⟩ := found
    obtain ⟨first, headed, detected⟩ : ∃ first, input.head? = some first ∧ ColdCode.detect first = .ok .json := by
      have json := message.json
      rw [Option.map_eq_some_iff] at json
      exact json
    have behind : input.drop payload.length = attachments ++ rest := by rw [message.split, List.drop_left]
    have arrived : payload.length ≤ input.length := by
      rw [message.split, List.length_append]
      exact Nat.le_add_right _ _
    have fits : SpanFits limits true input ⟨some payload.length, payload.length + attachments.length⟩ :=
      .message first .json payload.length groups attachments.length headed detected (by decide) message.declared message.body arrived
        (by rw [behind]; exact message.attached) message.allowed
    have given := (fresh_framer_emits limits true input small _).mpr fits
    have starts : checkBodyStart input = .ok () := by
      cases input with
      | nil => cases headed
      | cons first' tail =>
          cases headed
          simp only [checkBodyStart, detected, ok_bind, reject_if_ok]
          decide
    have whole : input = (payload ++ attachments) ++ rest := by rw [message.split, List.append_assoc]
    have size : (payload ++ attachments).length = payload.length + attachments.length := List.length_append
    simp only [frameOne, starts, given, ok_bind, bind_ok, split_at_ok, pure_ok, BodyFrame.mk.injEq, Option.some.injEq]
    refine ⟨(payload ++ attachments, rest), ⟨?_, ?_⟩, (payload, attachments), ⟨?_, ?_⟩, rfl, rfl, rfl⟩
    · rw [whole, List.length_append, size]
      exact Nat.le_add_right _ _
    · rw [whole, ← size, List.take_left, List.drop_left]
    · rw [size]
      exact Nat.le_add_right _ _
    · rw [List.take_left, List.drop_left]

end Framed

section Routed

theorem refused_gives {ε σ γ : Type} (gives : CesrGroup → γ → Prop) (join : σ → γ → σ) (error : ε) (group : CesrGroup)
    (found next : σ) (nothing : ∀ part, ¬gives group part) :
    (Except.error error : Except ε σ) = .ok next ↔ ∃ part, gives group part ∧ next = join found part := by
  apply Iff.intro
  · rintro ⟨⟩
  · intro exists'
    obtain ⟨part, given, _⟩ := exists'
    exact absurd given (nothing part)

def EventAttachments.join (found part : EventAttachments) : EventAttachments := ⟨found.sigs ++ part.sigs, found.wigs ++ part.wigs⟩

inductive SignatureGives : CesrGroup → EventAttachments → Prop where
  | controller (raw : Bytes) (count : U32) (version : CesrVersion) (sigs : List Siger)
      (typed : Typed sigerElement .controllerIdxSig version count raw sigs) :
      SignatureGives (.group .controllerIdxSig raw count version) ⟨sigs, []⟩
  | witness (raw : Bytes) (count : U32) (version : CesrVersion) (wigs : List Siger)
      (typed : Typed sigerElement .witnessIdxSig version count raw wigs) :
      SignatureGives (.group .witnessIdxSig raw count version) ⟨[], wigs⟩

theorem sigers_of_ok (kind : GroupKind) (signed : kind.fields = [.siger]) (version : CesrVersion) (count : U32) (raw : Bytes)
    (sigs : List Siger) : sigersOf kind version count raw = .ok sigs ↔ Typed sigerElement kind version count raw sigs := by
  rw [sigersOf, map_error_ok]
  exact into_vec_ok sigerElement kind version (fun input read => siger_element_full kind version signed input read) count raw sigs

theorem route_signature_ok (group : CesrGroup) (found next : EventAttachments) :
    routeSignatureGroup group found = .ok next ↔ ∃ part, SignatureGives group part ∧ next = found.join part := by
  cases group with
  | frame kind payload version => exact refused_gives SignatureGives _ _ _ found next (by rintro _ ⟨⟩)
  | group kind raw count version =>
      cases kind with
      | controllerIdxSig =>
          simp only [routeSignatureGroup, bind_ok, pure_ok, sigers_of_ok .controllerIdxSig rfl]
          apply Iff.intro
          · intro exists'
            obtain ⟨sigs, typed, same⟩ := exists'
            refine ⟨⟨sigs, []⟩, .controller raw count version sigs typed, ?_⟩
            rw [← same, EventAttachments.join, List.append_nil]
          · intro exists'
            obtain ⟨part, gives, same⟩ := exists'
            cases gives with
            | controller _ _ _ sigs typed =>
                refine ⟨sigs, typed, ?_⟩
                rw [same, EventAttachments.join, List.append_nil]
      | witnessIdxSig =>
          simp only [routeSignatureGroup, bind_ok, pure_ok, sigers_of_ok .witnessIdxSig rfl]
          apply Iff.intro
          · intro exists'
            obtain ⟨wigs, typed, same⟩ := exists'
            refine ⟨⟨[], wigs⟩, .witness raw count version wigs typed, ?_⟩
            rw [← same, EventAttachments.join, List.append_nil]
          · intro exists'
            obtain ⟨part, gives, same⟩ := exists'
            cases gives with
            | witness _ _ _ wigs typed =>
                refine ⟨wigs, typed, ?_⟩
                rw [same, EventAttachments.join, List.append_nil]
      | _ => exact refused_gives SignatureGives _ _ _ found next (by rintro _ ⟨⟩)

theorem joined_signatures (parts : List EventAttachments) (found : EventAttachments) :
    parts.foldl EventAttachments.join found =
      ⟨found.sigs ++ parts.flatMap EventAttachments.sigs, found.wigs ++ parts.flatMap EventAttachments.wigs⟩ := by
  induction parts generalizing found with
  | nil => simp only [List.foldl_nil, List.flatMap_nil, List.append_nil]
  | cons part parts ih =>
      rw [List.foldl_cons, ih, List.flatMap_cons, List.flatMap_cons]
      simp only [EventAttachments.join, List.append_assoc]

def TelAttachments.join (found part : TelAttachments) : TelAttachments :=
  ⟨found.sigs ++ part.sigs, part.source <|> found.source, found.backerSigs ++ part.backerSigs⟩

def TelSource.ofCouple (couple : Matter MatterCode × Matter DigestCode) : TelSource :=
  ⟨Number.new (numberValue couple.1.raw), ⟨couple.2⟩⟩

-- What a group of a registry event message hands over: of its source couples the last one counts.
inductive TelGives : CesrGroup → TelAttachments → Prop where
  | controller (raw : Bytes) (count : U32) (version : CesrVersion) (sigs : List Siger)
      (typed : Typed sigerElement .controllerIdxSig version count raw sigs) :
      TelGives (.group .controllerIdxSig raw count version) ⟨sigs, none, []⟩
  | source (raw : Bytes) (count : U32) (version : CesrVersion) (couples : List (Matter MatterCode × Matter DigestCode))
      (typed : Typed sealSourceCouple .sealSourceCouple version count raw couples)
      (ordinals : ∀ couple ∈ couples, couple.1.raw.length ≤ 16) :
      TelGives (.group .sealSourceCouple raw count version) ⟨[], couples.getLast?.map TelSource.ofCouple, []⟩
  | backer (raw : Bytes) (count : U32) (version : CesrVersion) (wigs : List Siger)
      (typed : Typed sigerElement .witnessIdxSig version count raw wigs) :
      TelGives (.group .witnessIdxSig raw count version) ⟨[], none, wigs⟩

theorem take_tel_source_ok (found next : TelAttachments) (couple : Matter MatterCode × Matter DigestCode) :
    takeTelSource found couple = .ok next ↔
      couple.1.raw.length ≤ 16 ∧ next = { found with source := some (TelSource.ofCouple couple) } := by
  rw [takeTelSource]
  by_cases long : 16 < couple.1.raw.length
  · rw [if_pos long]
    refine iff_of_false ?_ (fun found => absurd found.1 (Nat.not_le_of_lt long))
    rw [bind_ok]
    rintro ⟨_, _, ⟨⟩⟩
  · rw [if_neg long, Except.ok.injEq]
    exact Iff.intro (fun same => ⟨Nat.le_of_not_lt long, same.symm⟩) (fun found => found.2.symm)

theorem take_tel_sources_ok (couples : List (Matter MatterCode × Matter DigestCode)) (found next : TelAttachments) :
    couples.foldlM takeTelSource found = .ok next ↔
      (∀ couple ∈ couples, couple.1.raw.length ≤ 16) ∧
        next = { found with source := couples.getLast?.map TelSource.ofCouple <|> found.source } := by
  induction couples generalizing found with
  | nil =>
      rw [List.foldlM_nil, pure_ok]
      exact Iff.intro (fun same => ⟨fun couple none' => absurd none' List.not_mem_nil, same.symm⟩) (fun both => both.2.symm)
  | cons couple couples ih =>
      simp only [List.foldlM_cons, bind_ok, take_tel_source_ok, ih, List.forall_mem_cons]
      have last : (couple :: couples).getLast?.map TelSource.ofCouple =
          (couples.getLast?.map TelSource.ofCouple <|> some (TelSource.ofCouple couple)) := by
        cases couples with
        | nil => rfl
        | cons next later =>
            rw [List.getLast?_cons_cons]
            cases last' : (next :: later).getLast? with
            | none => exact absurd (List.getLast?_eq_none_iff.mp last') (List.cons_ne_nil _ _)
            | some value => rfl
      rw [last]
      apply Iff.intro
      · intro exists'
        obtain ⟨_, ⟨short, same⟩, shorts, same'⟩ := exists'
        refine ⟨⟨short, shorts⟩, ?_⟩
        rw [same', same]
        cases couples.getLast? <;> rfl
      · intro exists'
        obtain ⟨⟨short, shorts⟩, same⟩ := exists'
        refine ⟨_, ⟨short, rfl⟩, shorts, ?_⟩
        rw [same]
        cases couples.getLast? <;> rfl

theorem seal_source_typed (version : CesrVersion) (count : U32) (raw : Bytes) (couples : List (Matter MatterCode × Matter DigestCode)) :
    (intoVec sealSourceCouple .sealSourceCouple version count raw).mapError (fun error => Failure.error (EventMessageError.frame error)) =
        .ok couples ↔ Typed sealSourceCouple .sealSourceCouple version count raw couples := by
  rw [map_error_ok]
  exact into_vec_ok sealSourceCouple .sealSourceCouple version (seal_source_full version) count raw couples

theorem route_tel_ok (group : CesrGroup) (found next : TelAttachments) :
    routeTelGroup group found = .ok next ↔ ∃ part, TelGives group part ∧ next = found.join part := by
  cases group with
  | frame kind payload version => exact refused_gives TelGives _ _ _ found next (by rintro _ ⟨⟩)
  | group kind raw count version =>
      cases kind with
      | controllerIdxSig =>
          simp only [routeTelGroup, bind_ok, pure_ok, sigers_of_ok .controllerIdxSig rfl]
          apply Iff.intro
          · intro exists'
            obtain ⟨sigs, typed, same⟩ := exists'
            refine ⟨⟨sigs, none, []⟩, .controller raw count version sigs typed, ?_⟩
            rw [← same, TelAttachments.join, List.append_nil]
            rfl
          · intro exists'
            obtain ⟨part, gives, same⟩ := exists'
            cases gives with
            | controller _ _ _ sigs typed =>
                refine ⟨sigs, typed, ?_⟩
                rw [same, TelAttachments.join, List.append_nil]
                rfl
      | sealSourceCouple =>
          simp only [routeTelGroup, bind_ok, seal_source_typed, take_tel_sources_ok]
          apply Iff.intro
          · intro exists'
            obtain ⟨couples, typed, ordinals, same⟩ := exists'
            refine ⟨_, .source raw count version couples typed ordinals, ?_⟩
            rw [same, TelAttachments.join, List.append_nil, List.append_nil]
          · intro exists'
            obtain ⟨part, gives, same⟩ := exists'
            cases gives with
            | source _ _ _ couples typed ordinals =>
                refine ⟨couples, typed, ordinals, ?_⟩
                rw [same, TelAttachments.join, List.append_nil, List.append_nil]
      | witnessIdxSig =>
          simp only [routeTelGroup, bind_ok, pure_ok, sigers_of_ok .witnessIdxSig rfl]
          apply Iff.intro
          · intro exists'
            obtain ⟨wigs, typed, same⟩ := exists'
            refine ⟨⟨[], none, wigs⟩, .backer raw count version wigs typed, ?_⟩
            rw [← same, TelAttachments.join, List.append_nil]
            rfl
          · intro exists'
            obtain ⟨part, gives, same⟩ := exists'
            cases gives with
            | backer _ _ _ wigs typed =>
                refine ⟨wigs, typed, ?_⟩
                rw [same, TelAttachments.join, List.append_nil]
                rfl
      | _ => exact refused_gives TelGives _ _ _ found next (by rintro _ ⟨⟩)

theorem joined_tel (parts : List TelAttachments) (found : TelAttachments) :
    parts.foldl TelAttachments.join found =
      ⟨found.sigs ++ parts.flatMap TelAttachments.sigs, (parts.reverse.findSome? TelAttachments.source) <|> found.source,
        found.backerSigs ++ parts.flatMap TelAttachments.backerSigs⟩ := by
  induction parts generalizing found with
  | nil => simp only [List.foldl_nil, List.flatMap_nil, List.append_nil]; rfl
  | cons part parts ih =>
      rw [List.foldl_cons, ih, List.flatMap_cons, List.flatMap_cons, List.reverse_cons, List.findSome?_append]
      simp only [TelAttachments.join, List.append_assoc, TelAttachments.mk.injEq, true_and, and_true]
      cases parts.reverse.findSome? TelAttachments.source with
      | some source => rfl
      | none => cases source : part.source <;> simp [source]

def ReceiptAttachments.join (found part : ReceiptAttachments) : ReceiptAttachments :=
  ⟨found.couples ++ part.couples, found.wigs ++ part.wigs, found.transReceipts ++ part.transReceipts⟩

structure Endorses (version : CesrVersion) (element : TransIdxSigElement) (receipt : TransferableReceipt) : Prop where
  receiptor : endorserIdentifier element.prefixer = .ok receipt.receiptor
  ordinal : element.seqner.raw.length ≤ 16
  sn : receipt.sn = Number.new (numberValue element.seqner.raw)
  said : receipt.said = ⟨element.saider⟩
  signatures : Typed sigerElement .controllerIdxSig version element.count element.raw receipt.signatures

def ReceiptCouple.ofPair (pair : Matter VerKeyCode × Matter SignatureCode) : ReceiptCouple := ⟨⟨pair.1⟩, pair.2⟩

inductive ReceiptGives : CesrGroup → ReceiptAttachments → Prop where
  | couples (raw : Bytes) (count : U32) (version : CesrVersion) (pairs : List (Matter VerKeyCode × Matter SignatureCode))
      (typed : Typed nonTransReceiptCouple .nonTransReceiptCouple version count raw pairs)
      (lasting : ∀ pair ∈ pairs, pair.1.code.isTransferable = false) :
      ReceiptGives (.group .nonTransReceiptCouple raw count version) ⟨pairs.map ReceiptCouple.ofPair, [], []⟩
  | witness (raw : Bytes) (count : U32) (version : CesrVersion) (wigs : List Siger)
      (typed : Typed sigerElement .witnessIdxSig version count raw wigs) :
      ReceiptGives (.group .witnessIdxSig raw count version) ⟨[], wigs, []⟩
  | transferable (raw : Bytes) (count : U32) (version : CesrVersion) (elements : List TransIdxSigElement)
      (receipts : List TransferableReceipt) (typed : Typed transIdxSigGroup .transIdxSigGroup version count raw elements)
      (endorses : List.Forall₂ (Endorses version) elements receipts) :
      ReceiptGives (.group .transIdxSigGroup raw count version) ⟨[], [], receipts⟩

theorem take_couples_ok (pairs : List (Matter VerKeyCode × Matter SignatureCode)) (found next : ReceiptAttachments) :
    pairs.foldlM takeCouple found = .ok next ↔ (∀ pair ∈ pairs, pair.1.code.isTransferable = false) ∧
      next = { found with couples := found.couples ++ pairs.map ReceiptCouple.ofPair } := by
  induction pairs generalizing found with
  | nil =>
      rw [List.foldlM_nil, pure_ok, List.map_nil, List.append_nil]
      exact Iff.intro (fun same => ⟨fun pair none' => absurd none' List.not_mem_nil, same.symm⟩) (fun both => both.2.symm)
  | cons pair pairs ih =>
      rw [List.foldlM_cons, bind_ok, List.forall_mem_cons, List.map_cons]
      by_cases transferable : pair.1.code.isTransferable = true
      · refine iff_of_false ?_ (fun both => ?_)
        · rintro ⟨_, taken, _⟩
          rw [takeCouple, if_pos transferable, bind_ok] at taken
          obtain ⟨_, _, ⟨⟩⟩ := taken
        · rw [transferable] at both
          cases both.1.1
      · have plain : takeCouple found pair = .ok { found with couples := found.couples ++ [ReceiptCouple.ofPair pair] } :=
          if_neg transferable
        simp only [plain, Except.ok.injEq, exists_eq_left', ih, List.append_assoc, List.cons_append, List.nil_append]
        exact Iff.intro (fun both => ⟨⟨Bool.not_eq_true _ ▸ transferable, both.1⟩, both.2⟩) (fun both => ⟨both.1.2, both.2⟩)

theorem seqner_number_ok (seqner : Matter MatterCode) (sn : Number) :
    seqnerNumber seqner = .ok sn ↔ seqner.raw.length ≤ 16 ∧ sn = Number.new (numberValue seqner.raw) := by
  rw [seqnerNumber]
  by_cases long : 16 < seqner.raw.length
  · rw [if_pos long]
    refine iff_of_false ?_ (fun found => absurd found.1 (Nat.not_le_of_lt long))
    rw [bind_ok]
    rintro ⟨_, _, ⟨⟩⟩
  · rw [if_neg long, Except.ok.injEq]
    exact Iff.intro (fun same => ⟨Nat.le_of_not_lt long, same.symm⟩) (fun found => found.2.symm)

theorem receipt_sigers_ok (kind : GroupKind) (signed : kind.fields = [.siger]) (version : CesrVersion) (count : U32) (raw : Bytes)
    (sigs : List Siger) :
    (intoVec sigerElement kind version count raw).mapError (fun error => Failure.error (ReceiptMessageError.frame error)) = .ok sigs ↔
      Typed sigerElement kind version count raw sigs := by
  rw [map_error_ok]
  exact into_vec_ok sigerElement kind version (fun input read => siger_element_full kind version signed input read) count raw sigs

theorem take_transferable_ok (version : CesrVersion) (found next : ReceiptAttachments) (element : TransIdxSigElement) :
    takeTransferable version found element = .ok next ↔
      ∃ receipt, Endorses version element receipt ∧ next = { found with transReceipts := found.transReceipts ++ [receipt] } := by
  simp only [takeTransferable, bind_ok, pure_ok, seqner_number_ok, receipt_sigers_ok .controllerIdxSig rfl]
  apply Iff.intro
  · intro exists'
    obtain ⟨receiptor, identified, sn, ⟨short, ordinal⟩, sigs, typed, same⟩ := exists'
    exact ⟨⟨receiptor, sn, ⟨element.saider⟩, sigs⟩, ⟨identified, short, ordinal, rfl, typed⟩, same.symm⟩
  · intro exists'
    obtain ⟨receipt, endorses, same⟩ := exists'
    refine ⟨receipt.receiptor, endorses.receiptor, receipt.sn, ⟨endorses.ordinal, endorses.sn⟩, receipt.signatures, endorses.signatures, ?_⟩
    rw [same, ← endorses.said]

theorem take_transferables_ok (version : CesrVersion) (elements : List TransIdxSigElement) (found next : ReceiptAttachments) :
    elements.foldlM (takeTransferable version) found = .ok next ↔
      ∃ receipts, List.Forall₂ (Endorses version) elements receipts ∧
        next = { found with transReceipts := found.transReceipts ++ receipts } := by
  rw [fold_gathers (takeTransferable version) (Endorses version)
    (fun found receipt => { found with transReceipts := found.transReceipts ++ [receipt] })
    (fun found element next => take_transferable_ok version found next element)]
  have joined : ∀ (receipts : List TransferableReceipt) (found : ReceiptAttachments),
      receipts.foldl (fun found receipt => { found with transReceipts := found.transReceipts ++ [receipt] }) found =
        { found with transReceipts := found.transReceipts ++ receipts } := by
    intro receipts
    induction receipts with
    | nil => exact fun found => by rw [List.append_nil]; rfl
    | cons receipt receipts ih => exact fun found => by rw [List.foldl_cons, ih, List.append_assoc]; rfl
  simp only [joined]

theorem route_receipt_ok (group : CesrGroup) (found next : ReceiptAttachments) :
    routeReceiptGroup group found = .ok next ↔ ∃ part, ReceiptGives group part ∧ next = found.join part := by
  cases group with
  | frame kind payload version => exact refused_gives ReceiptGives _ _ _ found next (by rintro _ ⟨⟩)
  | group kind raw count version =>
      cases kind with
      | nonTransReceiptCouple =>
          have typed' := into_vec_ok nonTransReceiptCouple .nonTransReceiptCouple version (non_trans_receipt_full version) count raw
          simp only [routeReceiptGroup, bind_ok, map_error_ok, typed', take_couples_ok]
          apply Iff.intro
          · intro exists'
            obtain ⟨pairs, typed, lasting, same⟩ := exists'
            refine ⟨_, .couples raw count version pairs typed lasting, ?_⟩
            rw [same, ReceiptAttachments.join, List.append_nil, List.append_nil]
          · intro exists'
            obtain ⟨part, gives, same⟩ := exists'
            cases gives with
            | couples _ _ _ pairs typed lasting =>
                refine ⟨pairs, typed, lasting, ?_⟩
                rw [same, ReceiptAttachments.join, List.append_nil, List.append_nil]
      | witnessIdxSig =>
          simp only [routeReceiptGroup, bind_ok, pure_ok, receipt_sigers_ok .witnessIdxSig rfl]
          apply Iff.intro
          · intro exists'
            obtain ⟨wigs, typed, same⟩ := exists'
            refine ⟨_, .witness raw count version wigs typed, ?_⟩
            rw [← same, ReceiptAttachments.join, List.append_nil, List.append_nil]
          · intro exists'
            obtain ⟨part, gives, same⟩ := exists'
            cases gives with
            | witness _ _ _ wigs typed =>
                refine ⟨wigs, typed, ?_⟩
                rw [same, ReceiptAttachments.join, List.append_nil, List.append_nil]
      | transIdxSigGroup =>
          have typed' := into_vec_ok transIdxSigGroup .transIdxSigGroup version (trans_idx_sig_full version) count raw
          simp only [routeReceiptGroup, bind_ok, map_error_ok, typed', take_transferables_ok]
          apply Iff.intro
          · intro exists'
            obtain ⟨elements, typed, receipts, endorses, same⟩ := exists'
            refine ⟨_, .transferable raw count version elements receipts typed endorses, ?_⟩
            rw [same, ReceiptAttachments.join, List.append_nil, List.append_nil]
          · intro exists'
            obtain ⟨part, gives, same⟩ := exists'
            cases gives with
            | transferable _ _ _ elements receipts typed endorses =>
                refine ⟨elements, typed, receipts, endorses, ?_⟩
                rw [same, ReceiptAttachments.join, List.append_nil, List.append_nil]
      | _ => exact refused_gives ReceiptGives _ _ _ found next (by rintro _ ⟨⟩)

theorem joined_receipts (parts : List ReceiptAttachments) (found : ReceiptAttachments) :
    parts.foldl ReceiptAttachments.join found =
      ⟨found.couples ++ parts.flatMap ReceiptAttachments.couples, found.wigs ++ parts.flatMap ReceiptAttachments.wigs,
        found.transReceipts ++ parts.flatMap ReceiptAttachments.transReceipts⟩ := by
  induction parts generalizing found with
  | nil => simp only [List.foldl_nil, List.flatMap_nil, List.append_nil]
  | cons part parts ih =>
      rw [List.foldl_cons, ih, List.flatMap_cons, List.flatMap_cons, List.flatMap_cons]
      simp only [ReceiptAttachments.join, List.append_assoc]

end Routed

end Cesr.Codec
