import Cesr.Codec.Blocks
import Cesr.Codec.Exn

set_option autoImplicit false

namespace Cesr.Codec

open Checks WriterJson Scanner

def Labelled (key : Bytes) : Prop := key = asBytes "d" ∨ key = asBytes "$id"

-- A member whose value is a string in the code of a digest.
def CarriesDigest (member : Member) (code : DigestCode) : Prop :=
  Labelled member.1 ∧ ∃ text : String, member.2 = quoted (asBytes text) ∧ (∀ byte ∈ asBytes text, Plain byte) ∧
    inferDigestCode text = .ok code

structure FirstDigest (members before : List Member) (key text : Bytes) (code : DigestCode) (after : List Member) : Prop where
  split : members = before ++ (key, quoted text) :: after
  carries : CarriesDigest (key, quoted text) code
  first : ∀ member ∈ before, ∀ other, ¬CarriesDigest member other

-- The text is the digest of the object that it stands in, itself overwritten.
def Rightful (library : KeyLibrary) (before : List Member) (key text : Bytes) (code : DigestCode) (after : List Member) : Prop :=
  text = saidBytes library code (objectText (before ++ (key, quoted (List.replicate text.length dummyByte)) :: after))

def Block (block : String) (members : List Member) : Prop := asBytes block = objectText members ∧ Object Utf8 members

section Search

theorem nested_key_reads (key : String) (sc : Scanner) (rest : Bytes) (fits : Fits sc)
    (found : sc.left = quoted (asBytes key) ++ 0x3A :: rest) (allowed : Content Utf8 (asBytes key)) :
    ∃ sc', nestedKey sc = .ok (key, sc') ∧ Arrives sc (quoted (asBytes key) ++ [0x3A]) sc.budget.depth sc' := by
  have keyed := json_string_reads key sc _ found allowed
  have arrives := arrives_moved sc _ _ fits found
  have found' := (took_moved sc _ _ found).2
  obtain ⟨sc', _, taken, arrives'⟩ := expect_arrives ":" _ rest sc.budget.depth arrives.fits found' rfl
  refine ⟨sc', ?_, arrives_append _ _ _ _ _ _ _ arrives arrives'⟩
  rw [nestedKey, scan_bind_run _ _ _ _ _ keyed, scan_bind_run _ _ _ _ _ taken]
  rfl

theorem nested_members_find (before after : List Member) (label text : String) (code : DigestCode) (fuel : Nat) (sc : Scanner)
    (rest : Bytes) (fits : Fits sc)
    (found : sc.left = membersText (before ++ (asBytes label, quoted (asBytes text)) :: after) ++ 0x7D :: rest)
    (object : Object Utf8 (before ++ (asBytes label, quoted (asBytes text)) :: after)) (labelled : Labelled (asBytes label))
    (plain : ∀ byte ∈ asBytes text, Plain byte) (inferred : inferDigestCode text = .ok code)
    (free : ∀ member ∈ before, ¬Labelled member.1) (enough : before.length < fuel) :
    ∃ sc', nestedSlotMembers fuel sc = .ok (some (label, code), sc') := by
  induction before generalizing fuel sc with
  | nil =>
      obtain ⟨more, split⟩ : ∃ more, sc.left = quoted (asBytes label) ++ 0x3A :: (quoted (asBytes text) ++ more) := by
        cases after with
        | nil => exact ⟨0x7D :: rest, by rw [found]; simp [membersText, memberText]⟩
        | cons next others =>
            exact ⟨0x2C :: (membersText (next :: others) ++ 0x7D :: rest), by rw [found]; simp [membersText, memberText]⟩
      obtain ⟨at', keyed, arrives⟩ := nested_key_reads label sc _ fits split (object.keys _ (List.mem_append_right _ List.mem_cons_self))
      have behind : at'.left = quoted (asBytes text) ++ more := by
        apply took_left _ _ _ _ arrives.took
        rw [split]
        simp
      have known : label = "d" ∨ label = "$id" := by
        rcases labelled with same | same
        · exact .inl (as_bytes_injective same)
        · exact .inr (as_bytes_injective same)
      have valued := string_reads text at' more behind plain
      obtain ⟨fuel, rfl⟩ : ∃ less, fuel = less + 1 := ⟨fuel - 1, by omega⟩
      refine ⟨at'.moved (at'.pos + (quoted (asBytes text)).length), ?_⟩
      rw [nestedSlotMembers, scan_bind_run _ _ _ _ _ keyed, if_pos known, nestedSlotValue, scan_bind_run _ _ _ _ _ valued,
        inferred]
      rfl
  | cons member others ih =>
      obtain ⟨next, later, tail⟩ : ∃ next later, others ++ (asBytes label, quoted (asBytes text)) :: after = next :: later := by
        cases others with
        | nil => exact ⟨_, _, rfl⟩
        | cons first more => exact ⟨_, _, rfl⟩
      have inside : member ∈ member :: others ++ (asBytes label, quoted (asBytes text)) :: after := List.mem_cons_self
      obtain ⟨⟨key, spelled⟩, allowed⟩ := object.keys member inside
      have split : sc.left = quoted (asBytes key) ++ 0x3A :: (member.2 ++ (0x2C :: (membersText (next :: later) ++ 0x7D :: rest))) := by
        rw [found, List.cons_append, tail, spelled]
        simp [membersText, memberText]
      obtain ⟨at1, keyed, arrives1⟩ := nested_key_reads key sc _ fits split ⟨⟨key, rfl⟩, by rw [spelled]; exact allowed⟩
      have found1 : at1.left = member.2 ++ (0x2C :: (membersText (next :: later) ++ 0x7D :: rest)) := by
        apply took_left _ _ _ _ arrives1.took
        rw [split]
        simp
      obtain ⟨at2, read, arrives2⟩ := canonical_value_reads at1 member.2 _ (stops_first 0x2C _ (.inl rfl)) (object.values member inside)
        found1 arrives1.fits
      have found2 := took_left _ _ _ _ arrives2.took found1
      obtain ⟨at3, taken, _, arrives3⟩ := expect_arrives "," at2 _ at2.budget.depth arrives2.fits found2 rfl
      have found3 := took_left _ _ _ _ arrives3.took found2
      have other : ¬(key = "d" ∨ key = "$id") := by
        intro same
        apply free member List.mem_cons_self
        rcases same with same | same
        · exact .inl (by rw [← spelled, same])
        · exact .inr (by rw [← spelled, same])
      obtain ⟨fuel, rfl⟩ : ∃ less, fuel = less + 1 := ⟨fuel - 1, by omega⟩
      have shorter : Object Utf8 (others ++ (asBytes label, quoted (asBytes text)) :: after) :=
        ⟨(List.forall_mem_cons.mp object.keys).2, (List.nodup_cons.mp object.distinct).2, (List.forall_mem_cons.mp object.values).2⟩
      obtain ⟨sc', search⟩ := ih fuel at3 arrives3.fits (by rw [found3, tail]; rfl) shorter
        (fun member inside => free member (List.mem_cons_of_mem _ inside)) (Nat.lt_of_succ_lt_succ enough)
      refine ⟨sc', ?_⟩
      rw [nestedSlotMembers, scan_bind_run _ _ _ _ _ keyed, if_neg other, scan_bind_run _ _ _ _ _ read,
        scan_bind_run _ _ _ _ _ taken]
      exact search

theorem nested_slot_found (before after : List Member) (label text : String) (code : DigestCode)
    (object : Object Utf8 (before ++ (asBytes label, quoted (asBytes text)) :: after)) (labelled : Labelled (asBytes label))
    (plain : ∀ byte ∈ asBytes text, Plain byte) (inferred : inferDigestCode text = .ok code)
    (free : ∀ member ∈ before, ¬Labelled member.1) :
    nestedSaidSlot (objectText (before ++ (asBytes label, quoted (asBytes text)) :: after)) = some (label, code) := by
  generalize whole : before ++ (asBytes label, quoted (asBytes text)) :: after = members at object
  have found : (Scanner.new (objectText members)).left = asBytes "\x7b" ++ (membersText members ++ 0x7D :: []) := rfl
  obtain ⟨at1, _, taken, arrives⟩ := expect_arrives "\x7b" _ _ 1 (fits_new (objectText members)) found rfl
  have behind := took_left _ _ _ _ arrives.took found
  have some' : members ≠ [] := by
    rw [← whole]
    exact List.append_ne_nil_of_right_ne_nil _ (List.cons_ne_nil _ _)
  have absent : ¬asBytes "\x7d" <+: at1.left := by
    obtain ⟨member, others, split⟩ := List.exists_cons_of_ne_nil some'
    obtain ⟨rest, same, _⟩ := members_tail member others
    rw [show asBytes "\x7d" = [0x7D] from rfl, singleton_prefix, behind, split, same]
    exact fun other => absurd (Option.some.inj other) (by decide)
  have size := members_count members
  have counted : before.length < at1.left.length + 1 := by
    have parts := congrArg List.length whole
    rw [List.length_append, List.length_cons] at parts
    rw [behind, List.length_append]
    omega
  obtain ⟨sc', search⟩ := nested_members_find before after label text code (at1.left.length + 1) at1 [] arrives.fits
    (by rw [whole, behind]) (by rw [whole]; exact object) labelled plain inferred free counted
  have run : nestedSlotScan (Scanner.new (objectText members)) = .ok (some (label, code), sc') := by
    rw [nestedSlotScan, scan_bind_run _ _ _ _ _ taken, scan_bind_run _ _ _ _ _ (take_lit_absent _ at1 absent)]
    simp only [Bool.false_eq_true, if_false]
    rw [scan_get_run]
    exact search
  rw [nestedSaidSlot, scanned, show withBudget (objectText members) .unlimited = Scanner.new (objectText members) from rfl, run]
  rfl

end Search

section Verify

variable (library : KeyLibrary)

theorem dummied_single (codes : SadCodes) (label : String) (code : DigestCode) (slots : codes.slots = [(label, code)])
    (before after : List Member) (text : Bytes) (distinct : ((before ++ (asBytes label, quoted text) :: after).map Prod.fst).Nodup) :
    dummied codes (before ++ (asBytes label, quoted text) :: after) =
      before ++ (asBytes label, quoted (List.replicate text.length dummyByte)) :: after := by
  rw [List.map_append, List.map_cons, List.nodup_append] at distinct
  obtain ⟨_, others, apart⟩ := distinct
  have kept : ∀ member : Member, member.1 ≠ asBytes label →
      rewrite (slotChange codes fun _ old => List.replicate old.length dummyByte) member = member := by
    intro member other
    rw [rewrite, slotChange, slotCode, slots, List.find?_cons_of_neg (by simpa using fun same => other same.symm)]
    rfl
  have same : ∀ list : List Member, (∀ member ∈ list, member.1 ≠ asBytes label) →
      list.map (rewrite (slotChange codes fun _ old => List.replicate old.length dummyByte)) = list := by
    intro list other
    conv_rhs => rw [← List.map_id list]
    exact List.map_congr_left fun member inside => kept member (other member inside)
  rw [dummied, List.map_append, List.map_cons, same before, same after]
  · rw [rewrite, slotChange, slotCode, slots, List.find?_cons_of_pos (by simp)]
    show before ++ (asBytes label, quoted (List.replicate (unquoted (quoted text)).length dummyByte)) :: after = _
    rw [unquoted_quoted]
  · intro member inside found
    exact (List.nodup_cons.mp others).1 (List.mem_map.mpr ⟨member, inside, found⟩)
  · intro member inside
    exact apart _ (List.mem_map_of_mem inside) _ List.mem_cons_self

theorem nested_block_rightful (fixed : FixedLength library) (members before after : List Member) (key text : Bytes)
    (code : DigestCode) (object : Object Utf8 members) (found : FirstDigest members before key text code after)
    (led : ∀ member ∈ before, ¬Labelled member.1) (passed : verifyNestedBlock library (objectText members) = .ok ()) :
    Rightful library before key text code after := by
  obtain ⟨labelled, known, same, plain, inferred⟩ := found.carries
  have text' : text = asBytes known := by
    have inner := congrArg unquoted same
    rw [unquoted_quoted, unquoted_quoted] at inner
    exact inner
  obtain ⟨label, named, allowed⟩ : ∃ label, key = asBytes label ∧ label ≠ versionLabel := by
    rcases labelled with same | same
    · exact ⟨"d", same, by decide⟩
    · exact ⟨"$id", same, by decide⟩
  have split := found.split
  rw [text', named] at split
  rw [named] at labelled
  have slot := nested_slot_found before after label known code (by rw [← split]; exact object) labelled plain inferred led
  rw [← split] at slot
  obtain ⟨codes, slots, built⟩ : ∃ codes : SadCodes, codes.slots = [(label, code)] ∧
      staticCodes "nested block SAID configuration rejected" [(label, code)] = .ok codes := by
    have unreserved : ∀ pair ∈ [(label, code)], pair.1 ≠ versionLabel := by
      intro pair inside
      rw [List.mem_singleton.mp inside]
      exact allowed
    have small : [(label, code)].length ≤ sadCodesMax := (by decide : 1 ≤ 4)
    refine ⟨⟨_, small, unreserved⟩, rfl, ?_⟩
    rw [staticCodes, SadCodes.fromPairs, dif_pos small, dif_pos unreserved]
    rfl
  rw [verifyNestedBlock, slot] at passed
  simp only [built, ok_bind, bind_ok, pure_ok] at passed
  obtain ⟨sad, verified, _⟩ := passed
  obtain ⟨members', whole, carried, _⟩ := (verify_ok library codes fixed (by rw [slots]; exact List.nodup_singleton _) _ _).mp verified
  rw [← object_once members members' object carried.object whole] at carried
  have holds := carried.saids (label, code) (by rw [slots]; exact List.mem_singleton_self _)
  have here : Holds members label (asBytes known) := by
    rw [split]
    exact List.mem_append_right _ List.mem_cons_self
  rw [Rightful, named, text', ← dummied_single codes label code slots before after (asBytes known) (by
    rw [← split]; exact object.distinct), ← split]
  exact holds_once members object.distinct label _ _ here holds

def Sound (block : String) : Prop :=
  ∀ members before key text code after, Block block members → FirstDigest members before key text code after →
    Rightful library before key text code after

-- Where a labelled member without a digest stands before the first digest, the
-- digest has not been looked at.
def SoundBehind (block : String) : Prop :=
  ∀ members before key text code after, Block block members → FirstDigest members before key text code after →
    (∃ member ∈ before, Labelled member.1) → Rightful library before key text code after

theorem sound_iff (fixed : FixedLength library) (block : String) (passed : verifyNestedBlock library (asBytes block) = .ok ()) :
    Sound library block ↔ SoundBehind library block := by
  apply Iff.intro
  · intro sound members before key text code after spelled found _
    exact sound members before key text code after spelled found
  · intro behind members before key text code after spelled found
    by_cases shadowed : ∃ member ∈ before, Labelled member.1
    · exact behind members before key text code after spelled found shadowed
    · have led : ∀ member ∈ before, ¬Labelled member.1 := fun member inside labelled => shadowed ⟨member, inside, labelled⟩
      rw [spelled.1] at passed
      exact nested_block_rightful library fixed members before after key text code spelled.2 found led passed

end Verify

section Accepted

variable (library : KeyLibrary)

def blockText : AcdcField → Option String
  | .said _ => none
  | .block payload => some payload

def acdcBlocks (acdc : Acdc) : List String :=
  [acdc.registry, some acdc.schema, acdc.attributes, acdc.edges, acdc.rules].filterMap fun found => found.bind blockText

def exnBlocks : ExnEmbeds → List String
  | .map _ entries => entries.map Prod.snd
  | _ => []

theorem lifted_block (label : String) (span : AcdcFieldSpan) (payload : String)
    (lifted : liftBlockOrSaid label span = .ok (.block payload)) : span = .block (asBytes payload) := by
  cases span with
  | said text =>
      rw [liftBlockOrSaid] at lifted
      cases read : decode (saidFromWire label text) with
      | error error =>
          rw [read] at lifted
          cases lifted
      | ok said =>
          rw [read] at lifted
          cases lifted
  | block bytes =>
      rw [liftBlockOrSaid] at lifted
      cases read : fromUtf8 bytes with
      | none =>
          rw [read] at lifted
          cases lifted
      | some text =>
          rw [read] at lifted
          cases lifted
          rw [(from_utf8_some _ _).mp read]

theorem transposed_block (label : String) (span : Option AcdcFieldSpan) (lifted : Option AcdcField) (payload : String)
    (built : transposed (liftBlockOrSaid label) span = .ok lifted) (shown : lifted.bind blockText = some payload) :
    span = some (.block (asBytes payload)) := by
  cases span with
  | none =>
      cases built
      cases shown
  | some wire =>
      rw [transposed] at built
      cases read : liftBlockOrSaid label wire with
      | error error =>
          rw [read] at built
          cases built
      | ok value =>
          rw [read] at built
          cases built
          cases value with
          | said said => cases shown
          | block text =>
              cases shown
              rw [lifted_block label wire payload read]

theorem returns_then {α β : Type} (part : Scan α) (next : α → Scan β) (pre : α → Prop) (post : β → Prop) (first : Returns part pre)
    (later : ∀ value, pre value → Returns (next value) post) : Returns (part >>= next) post := by
  intro sc value sc' read
  obtain ⟨middle, at', taken, read⟩ := (scan_bind_ok _ _ _ _ _).mp read
  exact later middle (first sc middle at' taken) at' value sc' read

def Objects (text : Bytes) : Prop := ∃ members, text = objectText members ∧ Object Utf8 members

theorem object_span_returns : Returns objectValueSpan Objects := by
  intro sc span sc' read
  rw [objectValueSpan, scan_get_run] at read
  by_cases brace : sc.peek = some 0x7B
  · rw [if_pos brace, valueSpan, scan_get_run, scan_bind_ok] at read
    obtain ⟨_, at', walked, read⟩ := read
    obtain ⟨text, took, spelled⟩ := canonical_value_took _ _ _ walked
    rw [scan_get_run] at read
    obtain ⟨same, _⟩ := (scan_pure_ok _ _ _ _).mp read
    have sliced : at'.slice sc.pos at'.pos = text := by
      rw [slice, took.input]
      exact slice_took _ _ _ took
    rw [← same, sliced]
    apply spelled_object _ _ spelled
    rw [peek_left, took.left] at brace
    cases text with
    | nil =>
        obtain ⟨first, rest, same', _⟩ := value_head [] spelled
        cases same'
    | cons first rest => exact brace
  · rw [if_neg brace] at read
    cases read

theorem object_str_returns : Returns objectStr fun text => Objects (asBytes text) := by
  refine returns_then _ _ Objects _ object_span_returns fun span spelled => ?_
  intro sc text sc' read
  obtain ⟨shown, _⟩ := (check_ok _ _ _ _).mp read
  rw [spanStr] at shown
  cases decoded : fromUtf8 span with
  | none =>
      rw [decoded] at shown
      cases shown
  | some given =>
      rw [decoded] at shown
      cases shown
      rw [(from_utf8_some _ _).mp decoded]
      exact spelled

def SpanObjects (span : AcdcFieldSpan) : Prop := ∀ payload, span = .block payload → Objects payload

theorem field_span_returns : Returns fieldSpan SpanObjects := by
  refine returns_bind _ _ _ fun sc => returns_ite _ _ _ _ ?_ (returns_ite _ _ _ _ ?_ (returns_reject _ _))
  · refine returns_bind _ _ _ fun text => returns_pure _ _ fun payload same => ?_
    cases same
  · refine returns_then _ _ Objects _ object_span_returns fun payload spelled => returns_pure _ _ fun other same => ?_
    cases same
    exact spelled

theorem optional_returns {α : Type} (lit : String) (value : Scan α) (post : α → Prop) (holds : Returns value post) :
    Returns (optional lit value) fun found => ∀ given, found = some given → post given := by
  refine returns_bind _ _ _ fun taken => returns_ite _ _ _ _ ?_ (returns_pure _ _ fun given same => by cases same)
  refine returns_then _ _ post _ holds fun given shown => returns_pure _ _ fun other same => ?_
  cases same
  exact shown

theorem schema_field_returns : Returns ParsedAcdc.schemaField SpanObjects := by
  refine returns_bind _ _ _ fun sc => returns_then _ _ _ _ (optional_returns _ _ _ field_span_returns) fun found shown => ?_
  cases found with
  | none => exact returns_reject _ _
  | some span => exact returns_pure _ _ (shown span rfl)

theorem acdc_scan_returns : Returns ParsedAcdc.scan fun parsed => ∀ span ∈ parsed.spans, ∀ given, span = some given → SpanObjects given := by
  have several := optional_returns ",\"ri\":" _ _ field_span_returns
  refine returns_bind _ _ _ fun _ => returns_bind _ _ _ fun said => returns_bind _ _ _ fun nonce => returns_bind _ _ _ fun issuer => ?_
  refine returns_then _ _ _ _ several fun registry first => returns_then _ _ _ _ schema_field_returns fun schema second => ?_
  refine returns_then _ _ _ _ (optional_returns _ _ _ field_span_returns) fun attributes third => returns_bind _ _ _ fun aggregate => ?_
  refine returns_then _ _ _ _ (optional_returns _ _ _ field_span_returns) fun edges fourth => ?_
  refine returns_then _ _ _ _ (optional_returns _ _ _ field_span_returns) fun rules fifth => ?_
  refine returns_bind _ _ _ fun _ => returns_pure _ _ ?_
  intro span inside given same
  simp only [ParsedAcdc.spans, List.mem_cons, List.not_mem_nil, or_false] at inside
  rcases inside with rfl | rfl | rfl | rfl | rfl
  · exact first given same
  · exact Option.some.inj same ▸ second
  · exact third given same
  · exact fourth given same
  · exact fifth given same

def EmbedObjects : ExnEmbedsSpan → Prop
  | .map _ _ entries => ∀ entry ∈ entries, Objects (asBytes entry.2)
  | _ => True

theorem embeds_entries_returns (map : String) (fuel : Nat) (entries : List (String × String))
    (known : ∀ entry ∈ entries, Objects (asBytes entry.2)) : Returns (ParsedExn.embedsEntries map fuel entries) EmbedObjects := by
  induction fuel generalizing entries with
  | zero => exact returns_bind _ _ _ fun _ => returns_reject _ _
  | succ fuel ih =>
      refine returns_bind _ _ _ fun key => returns_bind _ _ _ fun _ => returns_ite _ _ _ _ ?_ ?_
      · exact returns_bind _ _ _ fun said => returns_bind _ _ _ fun _ => returns_pure _ _ known
      · refine returns_then _ _ _ _ object_str_returns fun value spelled => returns_bind _ _ _ fun more => returns_ite _ _ _ _ ?_ ?_
        · refine ih _ fun entry inside => ?_
          rcases List.mem_append.mp inside with earlier | here
          · exact known entry earlier
          · rw [List.mem_singleton.mp here]
            exact spelled
        · exact returns_bind _ _ _ fun _ => returns_reject _ _

theorem embeds_field_returns : Returns ParsedExn.embedsField EmbedObjects := by
  refine returns_bind _ _ _ fun taken => returns_ite _ _ _ _ ?_ (returns_pure _ _ trivial)
  refine returns_bind _ _ _ fun map => returns_ite _ _ _ _ (returns_pure _ _ trivial) ?_
  intro sc span sc' read
  obtain ⟨shown, _⟩ := (check_ok _ _ _ _).mp read
  rw [scanned] at shown
  cases run : ParsedExn.embedsMap map (withBudget (asBytes map) .unlimited) with
  | error error =>
      rw [run] at shown
      cases shown
  | ok both =>
      rw [run] at shown
      cases shown
      exact returns_bind _ _ _ (fun _ => embeds_entries_returns map _ [] (List.forall_mem_nil _)) _ _ _ run

theorem exn_scan_returns : Returns ParsedExn.scan fun parsed => EmbedObjects parsed.embeds := by
  refine returns_bind _ _ _ fun _ => returns_bind _ _ _ fun said => returns_bind _ _ _ fun issuer => returns_bind _ _ _ fun reply => ?_
  refine returns_bind _ _ _ fun prior => returns_bind _ _ _ fun datetime => returns_bind _ _ _ fun route => ?_
  refine returns_bind _ _ _ fun modifiers => returns_bind _ _ _ fun attributes => ?_
  exact returns_then _ _ _ _ embeds_field_returns fun embeds shown => returns_bind _ _ _ fun _ => returns_pure _ _ shown

theorem scanned_returns {α : Type} (scan : Scan α) (post : α → Prop) (holds : Returns scan post) (raw : Bytes) (budget : JsonBudget)
    (value : α) (read : scanned scan raw budget = .ok value) : post value := by
  rw [scanned] at read
  cases run : scan (withBudget raw budget) with
  | error error =>
      rw [run] at read
      cases read
  | ok both =>
      rw [run] at read
      cases read
      exact holds _ _ _ run

theorem acdc_blocks_verified (raw : Bytes) (budget : JsonBudget) (acdc : Acdc)
    (accepted : deserializeAcdc library raw budget = .ok acdc) :
    ∀ block ∈ acdcBlocks acdc, verifyNestedBlock library (asBytes block) = .ok () ∧ Objects (asBytes block) := by
  simp only [deserializeAcdc, liftAcdc, bind_ok, exists_done] at accepted
  obtain ⟨_, parsed, read, _, _, _, _, _, _, verified, built⟩ := accepted
  have objects := scanned_returns _ _ acdc_scan_returns raw budget parsed read
  simp only [buildAcdc, bind_ok, pure_ok] at built
  obtain ⟨_, _, _, _, _, _, registry, first, schema, second, attributes, third, _, _, edges, fourth, rules, fifth, same⟩ := built
  rw [ParsedAcdc.verifyNestedBlocks, for_m_ok] at verified
  have found : ∀ payload : String, some (AcdcFieldSpan.block (asBytes payload)) ∈ parsed.spans →
      verifyNestedBlock library (asBytes payload) = .ok () ∧ Objects (asBytes payload) :=
    fun payload inside => ⟨verified _ inside, objects _ inside _ rfl _ rfl⟩
  intro block inside
  rw [acdcBlocks, List.mem_filterMap] at inside
  obtain ⟨lifted, listed, shown⟩ := inside
  rw [← same] at listed
  apply found
  simp only [List.mem_cons, List.not_mem_nil, or_false] at listed
  rcases listed with rfl | rfl | rfl | rfl | rfl
  · rw [← transposed_block _ _ _ _ first shown]
    exact List.mem_cons_self
  · cases schema with
    | said said => cases shown
    | block text =>
        cases shown
        rw [← lifted_block _ _ _ second]
        exact List.mem_cons_of_mem _ List.mem_cons_self
  · rw [← transposed_block _ _ _ _ third shown]
    exact List.mem_cons_of_mem _ (List.mem_cons_of_mem _ List.mem_cons_self)
  · rw [← transposed_block _ _ _ _ fourth shown]
    exact List.mem_cons_of_mem _ (List.mem_cons_of_mem _ (List.mem_cons_of_mem _ List.mem_cons_self))
  · rw [← transposed_block _ _ _ _ fifth shown]
    exact List.mem_cons_of_mem _ (List.mem_cons_of_mem _ (List.mem_cons_of_mem _ (List.mem_cons_of_mem _ List.mem_cons_self)))

theorem exn_blocks_verified (raw : Bytes) (budget : JsonBudget) (read : ExnRead)
    (accepted : deserializeExn library raw budget = .ok read) :
    ∀ block ∈ exnBlocks read.exn.embeds, verifyNestedBlock library (asBytes block) = .ok () ∧ Objects (asBytes block) := by
  simp only [deserializeExn, liftExn, bind_ok, exists_done] at accepted
  obtain ⟨_, parsed, scanned', _, _, _, _, _, _, verified, built⟩ := accepted
  have objects := scanned_returns _ _ exn_scan_returns raw budget parsed scanned'
  simp only [ParsedExn.build, bind_ok, pure_ok] at built
  obtain ⟨_, _, _, _, _, _, _, _, _, _, embeds, lifted, same⟩ := built
  rw [← same]
  cases span : parsed.embeds with
  | absent =>
      rw [span] at lifted
      cases lifted
      exact List.forall_mem_nil _
  | empty =>
      rw [span] at lifted
      cases lifted
      exact List.forall_mem_nil _
  | map map said entries =>
      rw [span, liftEmbeds] at lifted
      rw [ParsedExn.verifyEmbeds, span] at verified
      simp only [bind_ok] at verified
      obtain ⟨_, _, _, _, _, _, every⟩ := verified
      rw [for_m_ok] at every
      cases decoded : decode (saidFromWire "d" said) with
      | error error =>
          rw [decoded] at lifted
          cases lifted
      | ok known =>
          rw [decoded] at lifted
          cases lifted
          intro block inside
          obtain ⟨entry, listed, shown⟩ := List.mem_map.mp inside
          rw [← shown]
          rw [span] at objects
          exact ⟨every entry listed, objects entry listed⟩

end Accepted

-- Every block of an accepted credential and every embedded message of an
-- accepted exchange is an object; each carries its own digest exactly when those
-- do whose first digest stands behind a labelled member that carries none.
theorem nested_saids_sound (library : KeyLibrary) (fixed : FixedLength library) (raw : Bytes) (limits : JsonLimits) :
    (∀ acdc, deserializeAcdc library raw (.ofLimits limits) = .ok acdc →
      (∀ block ∈ acdcBlocks acdc, ∃ members, Block block members) ∧
        ((∀ block ∈ acdcBlocks acdc, Sound library block) ↔ ∀ block ∈ acdcBlocks acdc, SoundBehind library block)) ∧
      ∀ read, deserializeExn library raw (.ofLimits limits) = .ok read →
        (∀ block ∈ exnBlocks read.exn.embeds, ∃ members, Block block members) ∧
          ((∀ block ∈ exnBlocks read.exn.embeds, Sound library block) ↔
            ∀ block ∈ exnBlocks read.exn.embeds, SoundBehind library block) := by
  have every : ∀ blocks : List String, (∀ block ∈ blocks, verifyNestedBlock library (asBytes block) = .ok () ∧ Objects (asBytes block)) →
      (∀ block ∈ blocks, ∃ members, Block block members) ∧
        ((∀ block ∈ blocks, Sound library block) ↔ ∀ block ∈ blocks, SoundBehind library block) := by
    intro blocks passed
    refine ⟨fun block inside => (passed block inside).2, forall_congr' fun block => forall_congr' fun inside => ?_⟩
    exact sound_iff library fixed block (passed block inside).1
  refine ⟨?_, ?_⟩
  · intro acdc accepted
    exact every _ (acdc_blocks_verified library raw _ acdc accepted)
  · intro read accepted
    exact every _ (exn_blocks_verified library raw _ read accepted)

namespace NestedSample

-- The SHA-256 digest of the credential whose own said is overwritten, and that
-- of its block.
def outer : Bytes :=
  [234, 86, 64, 232, 33, 173, 26, 77, 109, 183, 225, 229, 0, 200, 243, 146, 52, 5, 164, 86, 247, 174, 48, 104, 54, 98, 221, 26, 167,
    36, 205, 58]

def inner : Bytes :=
  [12, 139, 29, 23, 163, 47, 83, 162, 7, 56, 169, 173, 190, 3, 133, 26, 252, 93, 181, 127, 124, 83, 234, 161, 135, 29, 252, 134, 90,
    156, 250, 132]

def keyLibrary : KeyLibrary :=
  { Sample.keyLibrary with
    hash := fun code data => ((if data.length = 62 then inner else outer) ++ List.replicate 32 0).take (digestLength code) }

theorem key_library_fixed : FixedLength keyLibrary := by
  intro code data
  rw [keyLibrary]
  by_cases short : data.length = 62
  · simp only [if_pos short]
    cases code with
    | _ => rfl
  · simp only [if_neg short]
    cases code with
    | _ => rfl

-- The digest stands behind a name that is none, and is not the block's.
def block : String := "\x7b\"$id\":\"x\",\"d\":\"IAAAAAAAAAAAAAAAAAAAAAAAAAAAAAAAAAAAAAAAAAAA\"\x7d"

def raw : Bytes :=
  asBytes ("\x7b\"v\":\"ACDC10JSON0000f5_\",\"d\":\"IOpWQOghrRpNbbfh5QDI85I0BaRW964waDZi3RqnJM06\"," ++
    "\"i\":\"BAAAAAAAAAAAAAAAAAAAAAAAAAAAAAAAAAAAAAAAAAAA\",\"s\":\"EAAAAAAAAAAAAAAAAAAAAAAAAAAAAAAAAAAAAAAAAAAA\",\"a\":" ++ block ++
      "\x7d")

def limits : JsonLimits := ⟨16, 4⟩

def digest : String := "IAAAAAAAAAAAAAAAAAAAAAAAAAAAAAAAAAAAAAAAAAAA"

def reference : Member := (asBytes "$id", quoted (asBytes "x"))

theorem plain_texts : ∀ text ∈ ["$id", "x", "d", digest], ∀ byte ∈ asBytes text, Plain byte :=
  plain_labels _ (by decide +kernel)

theorem block_object : Block block [reference, (asBytes "d", quoted (asBytes digest))] := by
  refine ⟨by decide +kernel, ?_, by decide +kernel, ?_⟩
  · intro member inside
    simp only [List.mem_cons, List.not_mem_nil, or_false] at inside
    rcases inside with rfl | rfl
    · exact plain_content "$id" (plain_texts _ (by simp))
    · exact plain_content "d" (plain_texts _ (by simp))
  · intro member inside
    simp only [List.mem_cons, List.not_mem_nil, or_false] at inside
    rcases inside with rfl | rfl
    · exact plain_value "x" (plain_texts _ (by simp))
    · exact plain_value digest (plain_texts _ (by simp))

theorem block_digest :
    FirstDigest [reference, (asBytes "d", quoted (asBytes digest))] [reference] (asBytes "d") (asBytes digest) .sha2_256 [] := by
  refine ⟨rfl, ⟨.inl rfl, digest, rfl, plain_texts _ (by simp), by decide +kernel⟩, ?_⟩
  intro member inside other carried
  rw [List.mem_singleton.mp inside] at carried
  obtain ⟨_, text, same, _, inferred⟩ := carried
  have inner := congrArg unquoted same
  rw [unquoted_quoted, reference, unquoted_quoted] at inner
  rw [← as_bytes_injective inner] at inferred
  have unknown : (inferDigestCode "x").isOk = false := by decide +kernel
  rw [inferred] at unknown
  cases unknown

theorem block_unsound : ¬Sound keyLibrary block := by
  intro sound
  have same := sound _ _ _ _ _ _ block_object block_digest
  have other : asBytes digest ≠ saidBytes keyLibrary .sha2_256 (objectText
      ([reference] ++ (asBytes "d", quoted (List.replicate (asBytes digest).length dummyByte)) :: [])) := by decide +kernel
  exact other same

structure Taken where
  parsed : ParsedAcdc
  body : checkJsonBody raw = .ok ()
  scanned : ParsedAcdc.parse raw (.ofLimits limits) = .ok parsed
  lifted : (liftAcdc keyLibrary raw parsed).toOption.map acdcBlocks = some [block]

def taken : Taken where
  parsed :=
    ⟨"IOpWQOghrRpNbbfh5QDI85I0BaRW964waDZi3RqnJM06", none, "BAAAAAAAAAAAAAAAAAAAAAAAAAAAAAAAAAAAAAAAAAAA", none,
      .said "EAAAAAAAAAAAAAAAAAAAAAAAAAAAAAAAAAAAAAAAAAAA", some (.block (asBytes block)), none, none, none⟩
  body := by decide +kernel
  scanned := by decide +kernel
  lifted := by decide +kernel

theorem accepted : ∃ acdc, deserializeAcdc keyLibrary raw (.ofLimits limits) = .ok acdc ∧ acdcBlocks acdc = [block] := by
  have blocks := taken.lifted
  cases lifted : liftAcdc keyLibrary raw taken.parsed with
  | error error =>
      rw [lifted] at blocks
      cases blocks
  | ok acdc =>
      rw [lifted] at blocks
      refine ⟨acdc, ?_, Option.some.inj blocks⟩
      simp only [deserializeAcdc, bind_ok, exists_done]
      exact ⟨taken.body, taken.parsed, taken.scanned, lifted⟩

end NestedSample

-- A credential is accepted with a digest in it that has not been checked and is wrong.
theorem nested_said_unchecked :
    FixedLength NestedSample.keyLibrary ∧
      ∃ acdc, deserializeAcdc NestedSample.keyLibrary NestedSample.raw (.ofLimits NestedSample.limits) = .ok acdc ∧
        ¬∀ block ∈ acdcBlocks acdc, Sound NestedSample.keyLibrary block := by
  obtain ⟨acdc, accepted, blocks⟩ := NestedSample.accepted
  refine ⟨NestedSample.key_library_fixed, acdc, accepted, fun every => ?_⟩
  rw [blocks] at every
  exact NestedSample.block_unsound (every _ (List.mem_singleton_self _))

theorem nested_saids_sound_sample :
    ∃ acdc, deserializeAcdc NestedSample.keyLibrary NestedSample.raw (.ofLimits NestedSample.limits) = .ok acdc ∧
      ((∀ block ∈ acdcBlocks acdc, Sound NestedSample.keyLibrary block) ↔
        ∀ block ∈ acdcBlocks acdc, SoundBehind NestedSample.keyLibrary block) := by
  obtain ⟨acdc, accepted, _⟩ := NestedSample.accepted
  have sound := nested_saids_sound NestedSample.keyLibrary NestedSample.key_library_fixed NestedSample.raw NestedSample.limits
  exact ⟨acdc, accepted, (sound.1 acdc accepted).2⟩

end Cesr.Codec
