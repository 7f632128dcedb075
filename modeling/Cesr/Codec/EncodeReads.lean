import Cesr.Codec.Encode
import Cesr.Codec.OpenReads
import Cesr.Events.ThresholdExact

set_option autoImplicit false

namespace Cesr

def Matter.Made {Code : Type} [CesrCode Code] (matter : Matter Code) : Prop := ∃ fixed, Built matter.widen fixed

namespace Codec

open Checks Calls WriterJson Scanner Appends

section Carries

variable {α ω : Type}

-- The encoder of a value appends the text of this wire value, the reader reads the
-- wire value off the text, and what it is lifted to is the value.
structure Carries (encode : Write Unit) (spelled : ω → Bytes) (read : Scan ω) (lift : ω → Except DeserializeError α) (value : α) (wire : ω) :
    Prop where
  adds : Adds encode (fun _ => ()) (spelled wire)
  gives : ∀ depth, Gives read wire (spelled wire) depth depth
  lifts : lift wire = .ok value
  starts : ∃ byte rest, spelled wire = byte :: rest ∧ byte ≠ 0x5D

def stringText (text : String) : Bytes := quoted (asBytes text)

theorem carries_string (encode : Write Unit) (lift : String → Except DeserializeError α) (value : α) (wire : String)
    (adds : Adds encode (fun _ => ()) (stringText wire)) (plain : ∀ byte ∈ asBytes wire, Plain byte) (lifts : lift wire = .ok value) :
    Carries encode stringText stringValue lift value wire :=
  ⟨adds, fun depth => gives_string_value wire depth plain, lifts, quote, _, rfl, by decide⟩

theorem write_str_adds (text : String) (plain : ∀ byte ∈ asBytes text, Plain byte) : Adds (writeStr text) (fun _ => ()) (stringText text) := by
  intro buf
  rw [writeStr, exec_modify, JsonWriter.write_str, escape_plain _ plain]
  rfl

variable (encode : α → Write Unit) (spelled : ω → Bytes) (read : Scan ω) (lift : String → ω → Except DeserializeError α) (field : String)
  (made : α → α)

theorem items_adds (items : List α) (texts : List Bytes) (start : Nat)
    (each : List.Forall₂ (fun item text => Adds (encode item) (fun _ => ()) text) items texts) :
    Adds ((items.zipIdx start).forM (encodeItem encode)) (fun _ => ()) (if 0 < start then laterText texts else itemsText texts) := by
  induction each generalizing start with
  | nil =>
      have nothing : (if 0 < start then laterText [] else itemsText []) = [] := by
        split
        · rfl
        · rfl
      rw [nothing]
      exact adds_pure ()
  | cons head tail ih =>
      rename_i item text items texts
      have later := ih (start + 1)
      rw [if_pos (Nat.succ_pos start)] at later
      show Adds (encodeItem encode (item, start) >>= fun _ => (items.zipIdx (start + 1)).forM (encodeItem encode)) (fun _ => ()) _
      by_cases behind : 0 < start
      · have first := adds_both (push (asBytes ",")) (encode item) _ _ (adds_push (asBytes ",")) head
        rw [if_pos behind, encodeItem, if_pos behind]
        exact adds_both _ _ _ _ first later
      · rw [if_neg behind, encodeItem, if_neg behind, items_text_cons]
        exact adds_both _ _ _ _ head later

theorem each_adds (items : List α) (texts : List Bytes)
    (each : List.Forall₂ (fun item text => Adds (encode item) (fun _ => ()) text) items texts) :
    Adds (encodeEach encode items) (fun _ => ()) (arrayText texts) := by
  have inner := items_adds encode items texts 0 each
  rw [if_neg (Nat.lt_irrefl 0)] at inner
  exact adds_both _ _ _ _ (adds_push (asBytes "[")) (adds_both _ _ _ _ inner (adds_push (asBytes "]")))

theorem carried_wires (items : List α)
    (each : ∀ item ∈ items, ∃ wire, Carries (encode item) spelled read (lift field) (made item) wire) :
    ∃ wires, List.Forall₂ (fun item wire => Carries (encode item) spelled read (lift field) (made item) wire) items wires := by
  induction items with
  | nil => exact ⟨[], .nil⟩
  | cons item rest ih =>
      obtain ⟨first, later⟩ := List.forall_mem_cons.mp each
      obtain ⟨wire, carried⟩ := first
      obtain ⟨wires, others⟩ := ih later
      exact ⟨wire :: wires, .cons carried others⟩

theorem carries_list (items : List α) (wires : List ω)
    (both : List.Forall₂ (fun item wire => Carries (encode item) spelled read (lift field) (made item) wire) items wires) :
    Carries (encodeEach encode items) (fun wires => arrayText (wires.map spelled)) (delimitedList read) (eachFromWire lift field)
      (items.map made) wires := by
  have inside : ∀ wire ∈ wires, ∃ item, Carries (encode item) spelled read (lift field) (made item) wire := by
    intro wire listed
    obtain ⟨place, low, rfl⟩ := List.mem_iff_getElem.mp listed
    exact ⟨_, both.get (by rw [both.length_eq]; exact low) low⟩
  refine ⟨?_, ?_, ?_, 0x5B, _, rfl, by decide⟩
  · apply each_adds
    rw [List.forall₂_map_right_iff]
    exact both.imp fun item wire carried => carried.adds
  · intro depth
    apply gives_delimited_list
    · intro wire listed
      obtain ⟨item, carried⟩ := inside wire listed
      exact carried.gives (depth + 1)
    · intro wire listed
      obtain ⟨item, carried⟩ := inside wire listed
      exact carried.starts
  · rw [eachFromWire, map_m_ok, List.forall₂_map_right_iff]
    exact (both.imp fun item wire carried => carried.lifts).flip

theorem carries_each (items : List α)
    (each : ∀ item ∈ items, ∃ wire, Carries (encode item) spelled read (lift field) (made item) wire) :
    ∃ wires, Carries (encodeEach encode items) (fun wires => arrayText (wires.map spelled)) (delimitedList read) (eachFromWire lift field)
      (items.map made) wires := by
  obtain ⟨wires, both⟩ := carried_wires encode spelled read lift field made items each
  exact ⟨wires, carries_list encode spelled read lift field made items wires both⟩

end Carries

section Primitives

variable {Code : Type} [CesrCode Code]

theorem made_text (matter : Matter Code) (made : matter.Made) :
    ∃ text : String, matter.toQb64b = some (asBytes text) ∧ (∀ byte ∈ asBytes text, Plain byte) ∧
      fromQualifiedBase64 (asBytes text) = .ok matter.widen := by
  obtain ⟨fixed, built⟩ := made
  obtain ⟨text, sextets, encoded, _, spelled, reads⟩ := built_text matter.widen fixed built
  have read := (reads []).1
  rw [widen_to_qb64b] at encoded
  rw [List.append_nil] at read
  have ascii : asBytes (asciiText text) = text := by
    apply as_bytes_ascii_text
    rw [spelled]
    intro char inside
    obtain ⟨sextet, _, rfl⟩ := List.mem_map.mp inside
    exact url_safe_ascii sextet
  refine ⟨asciiText text, by rw [ascii]; exact encoded, ?_, by rw [ascii]; exact read⟩
  rw [ascii, spelled]
  intro byte inside
  obtain ⟨sextet, _, rfl⟩ := List.mem_map.mp inside
  exact url_safe_plain sextet

theorem matter_adds (matter : Matter Code) (text : String) (encoded : matter.toQb64b = some (asBytes text)) :
    Adds (encodeMatter matter) (fun _ => ()) (stringText text) := by
  rw [encodeMatter, encoded]
  exact adds_both _ _ _ _ (adds_push [quote]) (adds_both _ _ _ _ (adds_push (asBytes text)) (adds_push [quote]))

def Known (tryFrom : MatterCode → Except ValidationError Code) : Prop := ∀ code, tryFrom (CesrCode.toMatterCode code) = .ok code

theorem matter_lifts (tryFrom : MatterCode → Except ValidationError Code) (known : Known tryFrom) (matter : Matter Code) (text field : String)
    (read : fromQualifiedBase64 (asBytes text) = .ok matter.widen) : matterFromWire tryFrom field text = .ok matter := by
  have coded : tryFrom matter.widen.code = .ok matter.code := known matter.code
  rw [matterFromWire, read]
  show ((tryFrom matter.widen.code).mapError _ >>= _ : Except DeserializeError (Matter Code)) = _
  rw [coded]
  rfl

theorem ver_key_known : Known VerKeyCode.tryFrom := by
  intro code
  cases code with
  | _ => rfl

theorem digest_known : Known DigestCode.tryFrom := by
  intro code
  cases code with
  | _ => rfl

theorem verser_known : Known VerserCode.tryFrom := by
  intro code
  cases code with
  | _ => rfl

theorem carries_matter {α : Type} (tryFrom : MatterCode → Except ValidationError Code) (known : Known tryFrom) (matter : Matter Code)
    (made : matter.Made) (wrap : Matter Code → α) (field : String) :
    ∃ wire, Carries (encodeMatter matter) stringText stringValue (fun text => (matterFromWire tryFrom field text).map wrap) (wrap matter) wire := by
  obtain ⟨text, encoded, plain, read⟩ := made_text matter made
  refine ⟨text, carries_string _ _ _ text (matter_adds matter text encoded) plain ?_⟩
  rw [matter_lifts tryFrom known matter text field read]
  rfl

end Primitives

end Codec

def Identifier.Made : Identifier → Prop
  | .basic pfx => pfx.matter.Made
  | .selfAddressing said => said.matter.Made

-- A number is read back under the code that its value has.
def Number.reread (sn : Number) : Number := Number.new sn.value

namespace Seal

-- The anchors that are written as what they are.
def Writable : Seal → Prop
  | .digest d => d.matter.Made
  | .root rd => rd.matter.Made
  | .source _ d => d.matter.Made
  | .event i _ d => i.Made ∧ d.matter.Made
  | .last i => i.Made
  | .back bi d => bi.matter.Made ∧ d.matter.Made
  | .kind t d => t.Made ∧ d.matter.Made
  | .opaqueSeal raw => Codec.Untyped raw

def reread : Seal → Seal
  | .source s d => .source s.reread d
  | .event i s d => .event i s.reread d
  | other => other

end Seal

namespace Codec

open Checks Calls WriterJson Scanner Appends

section Fields

theorem carries_said (said : Said) (made : said.matter.Made) (field : String) :
    ∃ wire, Carries (encodeSaid said) stringText stringValue (saidFromWire field) said wire :=
  carries_matter DigestCode.tryFrom digest_known said.matter made Said.mk field

theorem carries_digest (digest : Digest) (made : digest.matter.Made) (field : String) :
    ∃ wire, Carries (encodeDigest digest) stringText stringValue (digestFromWire field) digest wire :=
  carries_matter DigestCode.tryFrom digest_known digest.matter made Digest.mk field

theorem carries_verifying_key (key : VerifyingKey) (made : key.matter.Made) (field : String) :
    ∃ wire, Carries (encodeVerifyingKey key) stringText stringValue (verifyingKeyFromWire field) key wire :=
  carries_matter VerKeyCode.tryFrom ver_key_known key.matter made VerifyingKey.mk field

theorem carries_basic_prefix (pfx : BasicPrefix) (made : pfx.matter.Made) (field : String) :
    ∃ wire, Carries (encodeBasicPrefix pfx) stringText stringValue (basicPrefixFromWire field) pfx wire :=
  carries_matter VerKeyCode.tryFrom ver_key_known pfx.matter made BasicPrefix.mk field

theorem carries_verser (kind : Matter VerserCode) (made : kind.Made) (field : String) :
    ∃ wire, Carries (encodeMatter kind) stringText stringValue (verserFromWire field) kind wire := by
  obtain ⟨wire, carried⟩ := carries_matter VerserCode.tryFrom verser_known kind made id field
  refine ⟨wire, carried.adds, carried.gives, ?_, carried.starts⟩
  have lifted := carried.lifts
  cases read : matterFromWire VerserCode.tryFrom field wire with
  | error error =>
      rw [read] at lifted
      cases lifted
  | ok given =>
      rw [read] at lifted
      rw [verserFromWire, read]
      exact lifted

theorem digest_no_key (code : DigestCode) : ∃ error, VerKeyCode.tryFrom code.toMatterCode = .error error := by
  cases code with
  | _ => exact ⟨_, rfl⟩

theorem said_identifier (said : Said) (text field : String) (read : fromQualifiedBase64 (asBytes text) = .ok said.matter.widen) :
    identifierFromWire field text = .ok (.selfAddressing said) := by
  obtain ⟨error, refused⟩ := digest_no_key said.matter.code
  have keyless : basicPrefixFromWire field text = .error (.invalidPrimitive field error) := by
    rw [basicPrefixFromWire, matterFromWire, read]
    show (((VerKeyCode.tryFrom said.matter.code.toMatterCode).mapError _ >>= _ : Except DeserializeError _).map _) = _
    rw [refused]
    rfl
  rw [identifierFromWire, keyless]
  simp only
  rw [saidFromWire, matter_lifts DigestCode.tryFrom digest_known said.matter text field read]
  rfl

theorem carries_identifier (pfx : Identifier) (made : pfx.Made) (field : String) :
    ∃ wire, Carries (encodeIdentifier pfx) stringText stringValue (identifierFromWire field) pfx wire := by
  cases pfx with
  | basic pfx =>
      obtain ⟨wire, carried⟩ := carries_basic_prefix pfx made field
      refine ⟨wire, carried.adds, carried.gives, ?_, carried.starts⟩
      rw [identifierFromWire, carried.lifts]
  | selfAddressing said =>
      obtain ⟨text, encoded, plain, read⟩ := made_text said.matter made
      exact ⟨text, carries_string _ _ _ text (matter_adds said.matter text encoded) plain (said_identifier said text field read)⟩

theorem carries_number (sn : Number) (field : String) :
    ∃ wire, Carries (encodeNumh sn) stringText stringValue (numberFromWire field) sn.reread wire := by
  have plain : ∀ byte ∈ asBytes (toStrRadix 16 sn.value.val), Plain byte := fun byte inside => (radix_plain (by decide) (by decide) _ byte inside).1
  refine ⟨_, carries_string _ _ _ _ (write_str_adds _ plain) plain ?_⟩
  rw [numberFromWire, radix_read (by decide) (by decide) 128 sn.value.val sn.value.isLt]
  rfl

theorem config_trait_coded (config : ConfigTrait) :
    ConfigTrait.fromCode config.code = some config ∧ ∀ byte ∈ asBytes config.code, Plain byte := by
  cases config with
  | _ => decide +kernel

theorem carries_config_trait (config : ConfigTrait) (field : String) :
    ∃ wire, Carries (encodeConfigTrait config) stringText stringValue (configTraitFromWire field) config wire := by
  obtain ⟨known, plain⟩ := config_trait_coded config
  refine ⟨_, carries_string _ _ _ _ (write_str_adds _ plain) plain ?_⟩
  rw [configTraitFromWire, known]

end Fields

section Seals

def sealText : ParsedSeal → Bytes
  | .opaqueSeal raw => asBytes raw
  | parsed => parsed.text

theorem carries_typed (encode : Write Unit) (lift : ParsedSeal → Except DeserializeError Seal) (value : Seal) (parsed : ParsedSeal)
    (typed : parsed.keys ∈ sealShapes) (adds : Adds encode (fun _ => ()) parsed.text) (plain : Unescaped parsed)
    (lifts : lift parsed = .ok value) : Carries encode sealText ParsedSeal.decode lift value parsed := by
  have same : sealText parsed = parsed.text := by
    cases parsed with
    | opaqueSeal raw => simp [ParsedSeal.keys, sealShapes] at typed
    | _ => rfl
  exact ⟨by rw [same]; exact adds, fun depth => by rw [same]; exact gives_typed parsed typed plain depth, lifts,
    0x7B, _, by rw [same]; rfl, by decide⟩

theorem carries_plain {α : Type} (encode : Write Unit) (lift : String → Except DeserializeError α) (value : α) (wire : String)
    (carried : Carries encode stringText stringValue lift value wire) : ∀ byte ∈ asBytes wire, Plain byte := by
  have found : (Scanner.new (stringText wire)).left = stringText wire ++ [] := (List.append_nil _).symm
  obtain ⟨sc', read, _⟩ := carried.gives 0 _ [] (fits_new _) found rfl
  exact (string_value_took _ _ _ read).2

theorem field_adds (lit : String) (encode rest : Write Unit) (text more : Bytes) (value : Adds encode (fun _ => ()) text)
    (behind : Adds rest (fun _ => ()) more) :
    Adds (do push (asBytes lit); encode; rest) (fun _ => ()) (asBytes lit ++ (text ++ more)) :=
  adds_both _ _ _ _ (adds_push (asBytes lit)) (adds_both _ _ _ _ value behind)

def Opens (lit key : String) : Prop := asBytes lit = 0x7B :: (quoted (asBytes key) ++ [0x3A])

def Continues (lit key : String) : Prop := asBytes lit = 0x2C :: (quoted (asBytes key) ++ [0x3A])

theorem written_one (lit key value : String) (opens : Opens lit key) :
    asBytes lit ++ (stringText value ++ asBytes "\x7d") = objectText (stringMembers [key] [value]) := by
  rw [text_one, opens, show asBytes "\x7d" = [0x7D] from rfl]
  simp [stringText]

theorem written_two (lit lit' key key' value value' : String) (opens : Opens lit key) (continues : Continues lit' key') :
    asBytes lit ++ (stringText value ++ (asBytes lit' ++ (stringText value' ++ asBytes "\x7d"))) =
      objectText (stringMembers [key, key'] [value, value']) := by
  rw [text_two, opens, continues, show asBytes "\x7d" = [0x7D] from rfl]
  simp [stringText]

theorem written_three (lit lit' lit'' key key' key'' value value' value'' : String) (opens : Opens lit key) (continues : Continues lit' key')
    (continues' : Continues lit'' key'') :
    asBytes lit ++ (stringText value ++ (asBytes lit' ++ (stringText value' ++ (asBytes lit'' ++ (stringText value'' ++ asBytes "\x7d"))))) =
      objectText (stringMembers [key, key', key''] [value, value', value'']) := by
  rw [text_three, opens, continues, continues', show asBytes "\x7d" = [0x7D] from rfl]
  simp [stringText]

theorem seal_literals :
    (Opens "\x7b\"d\":" "d" ∧ Opens "\x7b\"rd\":" "rd" ∧ Opens "\x7b\"s\":" "s" ∧ Opens "\x7b\"i\":" "i" ∧ Opens "\x7b\"bi\":" "bi" ∧
      Opens "\x7b\"t\":" "t") ∧ Continues ",\"s\":" "s" ∧ Continues ",\"d\":" "d" := by
  unfold Opens Continues
  decide

theorem carries_seal (given : Seal) (writable : given.Writable) (field : String) :
    ∃ wire, Carries (encodeSeal given) sealText ParsedSeal.decode (sealFromWire field) given.reread wire := by
  obtain ⟨⟨opens, opens_rd, opens_s, opens_i, opens_bi, opens_t⟩, s', d'⟩ := seal_literals
  have ended : Adds (push (asBytes "\x7d") : Write Unit) (fun _ => ()) (asBytes "\x7d") := adds_push _
  have one : ∀ wire : String, (∀ byte ∈ asBytes wire, Plain byte) → ∀ value ∈ [wire], ∀ byte ∈ asBytes value, Plain byte :=
    fun wire plain => List.forall_mem_singleton.mpr plain
  cases given with
  | digest said =>
      obtain ⟨wire, carried⟩ := carries_said said writable "d"
      refine ⟨.digest wire, carries_typed _ _ _ _ (by simp [ParsedSeal.keys, sealShapes]) ?_ (one wire (carries_plain _ _ _ wire carried)) ?_⟩
      · rw [ParsedSeal.text, ParsedSeal.keys, ParsedSeal.values, ← written_one _ _ _ opens]
        exact field_adds _ _ _ _ _ carried.adds ended
      · rw [sealFromWire, carried.lifts]
        rfl
  | root said =>
      obtain ⟨wire, carried⟩ := carries_said said writable "rd"
      refine ⟨.root wire, carries_typed _ _ _ _ (by simp [ParsedSeal.keys, sealShapes]) ?_ (one wire (carries_plain _ _ _ wire carried)) ?_⟩
      · rw [ParsedSeal.text, ParsedSeal.keys, ParsedSeal.values, ← written_one _ _ _ opens_rd]
        exact field_adds _ _ _ _ _ carried.adds ended
      · rw [sealFromWire, carried.lifts]
        rfl
  | source sn said =>
      obtain ⟨count, number⟩ := carries_number sn "s"
      obtain ⟨wire, carried⟩ := carries_said said writable "d"
      refine ⟨.source count wire, carries_typed _ _ _ _ (by simp [ParsedSeal.keys, sealShapes]) ?_ ?_ ?_⟩
      · rw [ParsedSeal.text, ParsedSeal.keys, ParsedSeal.values, ← written_two _ _ _ _ _ _ opens_s d']
        exact field_adds _ _ _ _ _ number.adds (field_adds _ _ _ _ _ carried.adds ended)
      · exact List.forall_mem_cons.mpr ⟨carries_plain _ _ _ _ number, one wire (carries_plain _ _ _ wire carried)⟩
      · rw [sealFromWire, number.lifts, carried.lifts]
        rfl
  | event pfx sn said =>
      obtain ⟨name, named⟩ := carries_identifier pfx writable.1 "i"
      obtain ⟨count, number⟩ := carries_number sn "s"
      obtain ⟨wire, carried⟩ := carries_said said writable.2 "d"
      refine ⟨.event name count wire, carries_typed _ _ _ _ (by simp [ParsedSeal.keys, sealShapes]) ?_ ?_ ?_⟩
      · rw [ParsedSeal.text, ParsedSeal.keys, ParsedSeal.values, ← written_three _ _ _ _ _ _ _ _ _ opens_i s' d']
        exact field_adds _ _ _ _ _ named.adds (field_adds _ _ _ _ _ number.adds (field_adds _ _ _ _ _ carried.adds ended))
      · exact List.forall_mem_cons.mpr ⟨carries_plain _ _ _ _ named, List.forall_mem_cons.mpr ⟨carries_plain _ _ _ _ number,
          one wire (carries_plain _ _ _ wire carried)⟩⟩
      · rw [sealFromWire, named.lifts, number.lifts, carried.lifts]
        rfl
  | last pfx =>
      obtain ⟨name, named⟩ := carries_identifier pfx writable "i"
      refine ⟨.last name, carries_typed _ _ _ _ (by simp [ParsedSeal.keys, sealShapes]) ?_ (one name (carries_plain _ _ _ name named)) ?_⟩
      · rw [ParsedSeal.text, ParsedSeal.keys, ParsedSeal.values, ← written_one _ _ _ opens_i]
        exact field_adds _ _ _ _ _ named.adds ended
      · rw [sealFromWire, named.lifts]
        rfl
  | back pfx said =>
      obtain ⟨name, named⟩ := carries_basic_prefix pfx writable.1 "bi"
      obtain ⟨wire, carried⟩ := carries_said said writable.2 "d"
      refine ⟨.back name wire, carries_typed _ _ _ _ (by simp [ParsedSeal.keys, sealShapes]) ?_ ?_ ?_⟩
      · rw [ParsedSeal.text, ParsedSeal.keys, ParsedSeal.values, ← written_two _ _ _ _ _ _ opens_bi d']
        exact field_adds _ _ _ _ _ named.adds (field_adds _ _ _ _ _ carried.adds ended)
      · exact List.forall_mem_cons.mpr ⟨carries_plain _ _ _ _ named, one wire (carries_plain _ _ _ wire carried)⟩
      · rw [sealFromWire, named.lifts, carried.lifts]
        rfl
  | kind tag said =>
      obtain ⟨name, named⟩ := carries_verser tag writable.1 "t"
      obtain ⟨wire, carried⟩ := carries_said said writable.2 "d"
      refine ⟨.kind name wire, carries_typed _ _ _ _ (by simp [ParsedSeal.keys, sealShapes]) ?_ ?_ ?_⟩
      · rw [ParsedSeal.text, ParsedSeal.keys, ParsedSeal.values, ← written_two _ _ _ _ _ _ opens_t d']
        exact field_adds _ _ _ _ _ named.adds (field_adds _ _ _ _ _ carried.adds ended)
      · exact List.forall_mem_cons.mpr ⟨carries_plain _ _ _ _ named, one wire (carries_plain _ _ _ wire carried)⟩
      · rw [sealFromWire, named.lifts, carried.lifts]
        rfl
  | opaqueSeal raw =>
      obtain ⟨byte, rest, same⟩ : ∃ byte rest, asBytes raw = byte :: rest ∧ byte = 0x7B := by
        have brace := writable.brace
        cases spelled : asBytes raw with
        | nil =>
            rw [spelled] at brace
            cases brace
        | cons byte rest =>
            rw [spelled] at brace
            exact ⟨byte, rest, rfl, Option.some.inj brace⟩
      refine ⟨.opaqueSeal raw, adds_push (asBytes raw), fun depth => gives_untyped raw writable depth, rfl, byte, rest, same.1, ?_⟩
      rw [same.2]
      decide

end Seals

end Codec

end Cesr
