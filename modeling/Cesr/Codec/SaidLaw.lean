import Cesr.Codec.SaidText

set_option autoImplicit false

namespace Cesr.Codec

open Checks Calls WriterJson Scanner Slots

def Holds (members : List Member) (label : String) (text : Bytes) : Prop := (asBytes label, quoted text) ∈ members

def Plainly (text : Bytes) : Prop := ∃ plain : String, text = asBytes plain ∧ ∀ byte ∈ text, Plain byte

def rewrite (change : Bytes → Option (Bytes → Bytes)) (member : Member) : Member :=
  match change member.1 with
  | some edit => (member.1, quoted (edit (unquoted member.2)))
  | none => member

section Form

variable (library : KeyLibrary) (codes : SadCodes)

def slotCode (key : Bytes) : Option DigestCode := (codes.slots.find? fun slot => asBytes slot.1 = key).map Prod.snd

def slotChange (change : DigestCode → Bytes → Bytes) (key : Bytes) : Option (Bytes → Bytes) := (slotCode codes key).map change

def sizeChange (size : Nat) (key : Bytes) : Option (Bytes → Bytes) :=
  if key = asBytes versionLabel then some fun old => old.take 10 ++ hexSize size ++ old.drop 16 else none

def dummied (members : List Member) : List Member :=
  members.map (rewrite (slotChange codes fun _ old => List.replicate old.length dummyByte))

-- The object with its own size in its version string, and then with the digest
-- of its overwritten text in every slot.
def sized (members : List Member) : List Member := members.map (rewrite (sizeChange (objectText members).length))

def saidified (members : List Member) : List Member :=
  (sized members).map
    (rewrite (slotChange codes fun code _ => saidBytes library code (objectText (dummied codes (sized members)))))

structure Verified (members : List Member) : Prop where
  object : Object Utf8 members
  saids : ∀ slot ∈ codes.slots, Holds members slot.1 (saidBytes library slot.2 (objectText (dummied codes members)))
  version : ∀ value, (asBytes versionLabel, value) ∈ members → ∃ (text : String) (version : VersionString),
    value = quoted (asBytes text) ∧ VersionText (asBytes text) version ∧ version.size = (objectText members).length

-- An object that can be given its saids: each slot a string without escapes of
-- the width of its code, and a size that the version string can declare.
structure Ready (members : List Member) : Prop where
  object : Object Utf8 members
  slots : ∀ slot ∈ codes.slots, ∃ text, Holds members slot.1 text ∧ Plainly text ∧ text.length = saidWidth slot.2
  version : ∀ value, (asBytes versionLabel, value) ∈ members →
    (∃ (text : String) (version : VersionString), value = quoted (asBytes text) ∧ VersionText (asBytes text) version) ∧
      (objectText members).length ≤ versionSizeMax

end Form

section Pieces

variable (codes : SadCodes)

theorem slot_code_named (key : Bytes) (code : DigestCode) (found : slotCode codes key = some code) :
    ∃ slot ∈ codes.slots, asBytes slot.1 = key ∧ slot.2 = code := by
  obtain ⟨slot, here, same⟩ := Option.map_eq_some_iff.mp found
  have matched := List.find?_some here
  exact ⟨slot, List.mem_of_find?_eq_some here, of_decide_eq_true matched, same⟩

theorem slot_found (distinct : (codes.slots.map Prod.fst).Nodup) (slot : String × DigestCode) (inside : slot ∈ codes.slots) :
    codes.slots.find? (fun other => asBytes other.1 = asBytes slot.1) = some slot := by
  cases found : codes.slots.find? (fun other => asBytes other.1 = asBytes slot.1) with
  | none => exact absurd (decide_eq_true rfl) (List.find?_eq_none.mp found slot inside)
  | some other =>
      have matched := List.find?_some found
      rw [List.inj_on_of_nodup_map distinct (List.mem_of_find?_eq_some found) inside (as_bytes_injective (of_decide_eq_true matched))]

theorem slot_code_of (distinct : (codes.slots.map Prod.fst).Nodup) (slot : String × DigestCode) (inside : slot ∈ codes.slots) :
    slotCode codes (asBytes slot.1) = some slot.2 := by
  rw [slotCode, slot_found codes distinct slot inside]
  rfl

theorem slot_code_version : slotCode codes (asBytes versionLabel) = none := by
  cases found : slotCode codes (asBytes versionLabel) with
  | none => rfl
  | some code =>
      obtain ⟨slot, inside, same, _⟩ := slot_code_named codes _ code found
      exact absurd same (slot_not_version codes slot inside)

def slotEdit (change : Bytes → Option (Bytes → Bytes)) (key old : Bytes) : Bytes := (change key).elim old fun edit => edit old

def Touches (change : Bytes → Option (Bytes → Bytes)) : Prop := ∀ key, change key ≠ none → Named codes key

theorem slot_touches (change : DigestCode → Bytes → Bytes) : Touches codes (slotChange codes change) := by
  intro key changed
  cases found : slotCode codes key with
  | none =>
      rw [slotChange, found] at changed
      exact absurd rfl changed
  | some code =>
      obtain ⟨slot, inside, same, _⟩ := slot_code_named codes key code found
      exact .inr ⟨slot, inside, same⟩

theorem size_touches (size : Nat) : Touches codes (sizeChange size) := by
  intro key changed
  by_cases version : key = asBytes versionLabel
  · exact .inl version
  · rw [sizeChange, if_neg version] at changed
    exact absurd rfl changed

theorem edit_member (change : Bytes → Option (Bytes → Bytes)) (touches : Touches codes change) (member : Member) :
    edit (slotEdit change) (memberPieces codes member) = memberPieces codes (rewrite change member) := by
  by_cases named : Named codes member.1
  · cases found : change member.1 with
    | none =>
        rw [rewrite, found, memberPieces, if_pos named]
        simp only [edit, slotEdit, List.map_cons, List.map_nil, Option.elim, found]
    | some given =>
        rw [rewrite, found, memberPieces, if_pos named, memberPieces, if_pos named, unquoted_quoted]
        simp only [edit, slotEdit, List.map_cons, List.map_nil, Option.elim, found]
  · have untouched : change member.1 = none := by
      by_contra changed
      exact named (touches member.1 changed)
    rw [rewrite, untouched, memberPieces, if_neg named]
    rfl

theorem edit_members (change : Bytes → Option (Bytes → Bytes)) (touches : Touches codes change) (members : List Member) :
    edit (slotEdit change) (membersPieces codes members) = membersPieces codes (members.map (rewrite change)) := by
  induction members with
  | nil => rfl
  | cons member rest ih =>
      have first := edit_member codes change touches member
      cases rest with
      | nil => exact first
      | cons next rest =>
          rw [membersPieces, edit_append, edit_cons, first, ih]
          rfl

theorem edit_sad (change : Bytes → Option (Bytes → Bytes)) (touches : Touches codes change) (members : List Member) :
    edit (slotEdit change) (sadPieces codes members) = sadPieces codes (members.map (rewrite change)) := by
  rw [sadPieces, edit_cons, edit_append, edit_members codes change touches]
  rfl

theorem mem_member_pieces (member : Member) (name text : Bytes) :
    (some name, text) ∈ memberPieces codes member ↔ Named codes name ∧ member.1 = name ∧ unquoted member.2 = text := by
  unfold memberPieces
  by_cases named : Named codes member.1
  · rw [if_pos named]
    simp only [List.mem_cons, List.not_mem_nil, Prod.mk.injEq, reduceCtorEq, false_and, false_or, or_false, Option.some.injEq]
    apply Iff.intro
    · intro same
      exact ⟨by rw [same.1]; exact named, same.1.symm, same.2.symm⟩
    · intro same
      exact ⟨same.2.1.symm, same.2.2.symm⟩
  · rw [if_neg named]
    simp only [List.mem_cons, List.not_mem_nil, Prod.mk.injEq, reduceCtorEq, false_and, or_false, false_iff]
    intro same
    rw [same.2.1] at named
    exact named same.1

theorem mem_members_pieces (members : List Member) (name text : Bytes) :
    (some name, text) ∈ membersPieces codes members ↔
      ∃ member ∈ members, Named codes name ∧ member.1 = name ∧ unquoted member.2 = text := by
  induction members with
  | nil => simp [membersPieces]
  | cons member rest ih =>
      have first := mem_member_pieces codes member name text
      cases rest with
      | nil =>
          rw [membersPieces, first]
          simp
      | cons next rest =>
          rw [membersPieces, List.mem_append, List.mem_cons, first, ih]
          simp

theorem held_sad (members : List Member) (name text : Bytes) (named : Named codes name) (distinct : (members.map Prod.fst).Nodup)
    (stringy : ∀ member ∈ members, Stringy codes member) :
    held name (sadPieces codes members) = some text ↔ (name, quoted text) ∈ members := by
  rw [held_piece name _ text (names_once codes members distinct), sadPieces, List.mem_cons, List.mem_append, mem_members_pieces]
  apply Iff.intro
  · intro found
    rcases found with opening | inside | closing
    · cases opening
    · obtain ⟨member, listed, _, same, content⟩ := inside
      obtain ⟨content', quoted'⟩ := stringy member listed (by rw [same]; exact named)
      rw [quoted', unquoted_quoted] at content
      rw [← same, ← content, ← quoted']
      exact listed
    · simp at closing
  · intro listed
    exact .inr (.inl ⟨_, listed, named, rfl, unquoted_quoted text⟩)

end Pieces

section Scanned

variable (codes : SadCodes)

theorem listed_iff (members : List Member) :
    Listed codes [] members ↔ Object Utf8 members ∧ ∀ member ∈ members, Fitting codes member := by
  apply Iff.intro
  · intro listed
    exact ⟨⟨listed.keys, listed.distinct, listed.values⟩, listed.fitting⟩
  · intro found
    exact ⟨found.1.keys, found.1.distinct, fun _ _ => List.not_mem_nil, found.1.values, found.2⟩

theorem scan_sad_ok (distinct : (codes.slots.map Prod.fst).Nodup) (raw : Bytes) (scan : SadScan) :
    scanSad codes raw = .ok scan ↔
      ∃ members, raw = objectText members ∧ Listed codes [] members ∧ scan = noted codes (sadPieces codes members) := by
  apply Iff.intro
  · intro scanned
    exact scan_sad_took codes raw scan distinct scanned
  · intro found
    obtain ⟨members, same, listed, noted'⟩ := found
    rw [same, noted']
    exact scan_sad_reads codes members distinct listed

def Configured (members : List Member) : Prop := ∀ slot ∈ codes.slots, asBytes slot.1 ∈ members.map Prod.fst

theorem zip_noted (pieces : List (Piece Bytes UInt8)) :
    codes.slots.zip (noted codes pieces).spans = codes.slots.map fun slot => (slot, spanOf (asBytes slot.1) pieces) := by
  show codes.slots.zip (codes.slots.map fun slot => spanOf (asBytes slot.1) pieces) = _
  generalize codes.slots = slots
  induction slots with
  | nil => rfl
  | cons slot rest ih =>
      rw [List.map_cons, List.zip_cons_cons, ih]
      rfl

theorem span_sad (members : List Member) (name : Bytes) (named : Named codes name) :
    name ∈ members.map Prod.fst ↔ ∃ span, spanOf name (sadPieces codes members) = some span := by
  rw [spanOf, ← span_names, names_sad, List.mem_filter]
  exact (and_iff_left (decide_eq_true named)).symm

theorem require_all_ok (members : List Member) :
    requireAllConfigured codes (noted codes (sadPieces codes members)) = .ok () ↔ Configured codes members := by
  rw [requireAllConfigured, zip_noted, for_m_ok]
  simp only [List.forall_mem_map, reject_if_ok]
  apply Iff.intro
  · intro found slot inside
    rw [span_sad codes members _ (slot_named codes slot inside)]
    exact Option.ne_none_iff_exists'.mp (found slot inside)
  · intro configured slot inside
    exact Option.ne_none_iff_exists'.mpr
      ((span_sad codes members _ (slot_named codes slot inside)).mp (configured slot inside))

def slotSpan (pieces : List (Piece Bytes UInt8)) (label : String) : Span := (spanOf (asBytes label) pieces).getD (0, 0)

theorem slot_span (members : List Member) (configured : Configured codes members) (slot : String × DigestCode)
    (inside : slot ∈ codes.slots) :
    spanOf (asBytes slot.1) (sadPieces codes members) = some (slotSpan (sadPieces codes members) slot.1) := by
  obtain ⟨span, found⟩ := (span_sad codes members _ (slot_named codes slot inside)).mp (configured slot inside)
  rw [slotSpan, found]
  rfl

theorem scan_fields_noted (members : List Member) (configured : Configured codes members) :
    scanFields codes (noted codes (sadPieces codes members)) =
      codes.slots.map fun slot => (slotSpan (sadPieces codes members) slot.1, slot.2) := by
  rw [scanFields, zip_noted, List.filterMap_map, ← List.filterMap_eq_map]
  apply List.filterMap_congr
  intro slot inside
  show (spanOf (asBytes slot.1) (sadPieces codes members)).map _ = _
  rw [slot_span codes members configured slot inside]
  rfl

theorem scan_labels_noted (members : List Member) (configured : Configured codes members) :
    scanFieldsLabeled codes (noted codes (sadPieces codes members)) =
      codes.slots.map fun slot => (slot.1, slotSpan (sadPieces codes members) slot.1) := by
  rw [scanFieldsLabeled, zip_noted, List.filterMap_map, ← List.filterMap_eq_map]
  apply List.filterMap_congr
  intro slot inside
  show (spanOf (asBytes slot.1) (sadPieces codes members)).map _ = _
  rw [slot_span codes members configured slot inside]
  rfl

theorem slot_slice (members : List Member) (listed : Listed codes [] members) (configured : Configured codes members)
    (slot : String × DigestCode) (inside : slot ∈ codes.slots) :
    ∃ text, Holds members slot.1 text ∧ Plainly text ∧
      held (asBytes slot.1) (sadPieces codes members) = some text ∧
      ((objectText members).take (slotSpan (sadPieces codes members) slot.1).2).drop
        (slotSpan (sadPieces codes members) slot.1).1 = text ∧
      (slotSpan (sadPieces codes members) slot.1).1 ≤ (slotSpan (sadPieces codes members) slot.1).2 ∧
      (slotSpan (sadPieces codes members) slot.1).2 ≤ (objectText members).length ∧
      (slotSpan (sadPieces codes members) slot.1).2 - (slotSpan (sadPieces codes members) slot.1).1 = text.length := by
  have named := slot_named codes slot inside
  have stringy : ∀ member ∈ members, Stringy codes member :=
    fun member listed' => fitting_stringy codes member (listed.fitting member listed')
  have rendered := render_sad codes members stringy
  obtain ⟨holds, low, high⟩ := slice_slot (asBytes slot.1) _ _ (slot_span codes members configured slot inside)
  rw [rendered] at holds high
  have member := (held_sad codes members _ _ named listed.distinct stringy).mp holds
  obtain ⟨plain, same, every⟩ := (listed.fitting _ member).unescaped named
  have content := congrArg unquoted same
  rw [unquoted_quoted, unquoted_quoted] at content
  refine ⟨_, member, ⟨plain, content, ?_⟩, holds, rfl, low, high, ?_⟩
  · rw [content]
    exact every
  · rw [List.length_drop, List.length_take, Nat.min_eq_left high]

theorem require_widths_ok (members : List Member) (listed : Listed codes [] members) (configured : Configured codes members) :
    requireSlotWidths (objectText members) codes (noted codes (sadPieces codes members)) = .ok () ↔
      ∀ slot ∈ codes.slots, ∃ text, Holds members slot.1 text ∧ Plainly text ∧ text.length = saidWidth slot.2 := by
  rw [requireSlotWidths, zip_noted, for_m_ok]
  simp only [List.forall_mem_map]
  apply forall_congr'
  intro slot
  apply forall_congr'
  intro inside
  obtain ⟨text, holds, plain, _, _, low, high, width⟩ := slot_slice codes members listed configured slot inside
  rw [slot_span codes members configured slot inside]
  simp only [requireSlotWidth, placeholder_ok, Except.mapError, ok_bind, bind_ok, reject_if_ok, exists_done, not_not,
    List.length_replicate]
  rw [width]
  apply Iff.intro
  · intro found
    exact ⟨text, holds, plain, found.2⟩
  · intro found
    obtain ⟨other, holds', _, sized'⟩ := found
    have twin := List.inj_on_of_nodup_map listed.distinct holds holds' rfl
    have same := congrArg unquoted (Prod.mk.inj twin).2
    rw [unquoted_quoted, unquoted_quoted] at same
    exact ⟨⟨low, high⟩, by rw [same, sized']⟩

end Scanned

section Writes

theorem exec_overwrites {α : Type} (items : List α) (step : α → Write Unit) (span : α → Span) (new : α → Bytes) (size : Nat)
    (writes : ∀ item ∈ items, ∀ buf : Bytes, buf.length = size →
      exec (step item) buf = (.ok (), overwrite buf (span item) (new item)))
    (inside : ∀ item ∈ items, (span item).1 ≤ (span item).2 ∧ (span item).2 ≤ size ∧
      (new item).length = (span item).2 - (span item).1) (buf : Bytes) (long : buf.length = size) :
    exec (items.forM step) buf = (.ok (), items.foldl (fun text item => overwrite text (span item) (new item)) buf) := by
  induction items generalizing buf with
  | nil => rfl
  | cons item rest ih =>
      obtain ⟨low, high, width⟩ := inside item List.mem_cons_self
      have kept : (overwrite buf (span item) (new item)).length = size := by
        rw [overwrite, List.length_append, List.length_append, List.length_take, List.length_drop, width]
        omega
      show exec (step item >>= fun _ => rest.forM step) buf = _
      rw [exec_bind, writes item List.mem_cons_self buf long, List.foldl_cons]
      exact ih (fun other later => writes other (List.mem_cons_of_mem item later))
        (fun other later => inside other (List.mem_cons_of_mem item later)) _ kept

theorem exec_fill_span (span : Span) (buf : Bytes) (low : span.1 ≤ span.2) (high : span.2 ≤ buf.length) :
    exec (fillSpan span) buf = (.ok (), overwrite buf span (List.replicate (span.2 - span.1) dummyByte)) := by
  rw [fillSpan, exec_get_bind, if_pos ⟨low, high⟩]
  rfl

theorem exec_patch_slot (span : Span) (given buf : Bytes) (low : span.1 ≤ span.2) (high : span.2 ≤ buf.length)
    (width : span.2 - span.1 = given.length) : exec (patchSlot span given) buf = (.ok (), overwrite buf span given) := by
  rw [patchSlot, exec_get_bind, if_neg (not_not.mpr ⟨low, high⟩), if_neg (not_not.mpr width)]
  rfl

variable (codes : SadCodes)

theorem exec_slots (members : List Member) (listed : Listed codes [] members) (configured : Configured codes members)
    (distinct : (codes.slots.map Prod.fst).Nodup) (step : String × DigestCode → Write Unit)
    (change : DigestCode → Bytes → Bytes) (new : String × DigestCode → Bytes)
    (writes : ∀ slot ∈ codes.slots, ∀ buf : Bytes, buf.length = (objectText members).length →
      exec (step slot) buf = (.ok (), overwrite buf (slotSpan (sadPieces codes members) slot.1) (new slot)))
    (given : ∀ slot ∈ codes.slots, ∀ text, Holds members slot.1 text →
      new slot = change slot.2 text ∧ (new slot).length = text.length) :
    exec (codes.slots.forM step) (objectText members) =
      (.ok (), objectText (members.map (rewrite (slotChange codes change)))) := by
  have stringy : ∀ member ∈ members, Stringy codes member :=
    fun member listed' => fitting_stringy codes member (listed.fitting member listed')
  have spans : ∀ slot ∈ codes.slots, (slotSpan (sadPieces codes members) slot.1).1 ≤ (slotSpan (sadPieces codes members) slot.1).2 ∧
      (slotSpan (sadPieces codes members) slot.1).2 ≤ (objectText members).length ∧
      (new slot).length = (slotSpan (sadPieces codes members) slot.1).2 - (slotSpan (sadPieces codes members) slot.1).1 := by
    intro slot inside
    obtain ⟨text, holds, _, _, _, low, high, width⟩ := slot_slice codes members listed configured slot inside
    exact ⟨low, high, by rw [width, (given slot inside text holds).2]⟩
  rw [exec_overwrites codes.slots step _ new _ writes spans _ rfl]
  congr 1
  -- The writes in the order of the slots, as writes by name.
  let code := fun key => ((codes.slots.find? fun slot => asBytes slot.1 = key).map new).getD []
  have known : ∀ slot ∈ codes.slots, code (asBytes slot.1) = new slot := by
    intro slot inside
    have found := slot_found codes distinct slot inside
    simp only [code, found, Option.map_some, Option.getD_some]
  have folded : codes.slots.foldl (fun text slot => overwrite text (slotSpan (sadPieces codes members) slot.1) (new slot))
      (objectText members) =
      (codes.slots.map fun slot => asBytes slot.1).foldl
        (fun text name => overwrite text ((spanOf name (sadPieces codes members)).getD (0, 0)) (code name))
        (render (sadPieces codes members)) := by
    rw [List.foldl_map, render_sad codes members stringy]
    apply List.foldl_ext
    intro text slot inside
    rw [known slot inside]
    rfl
  rw [folded, overwrite_slots _ _ _ code (names_once codes members listed.distinct)]
  · rw [← render_sad codes _ (fun member inside => ?_), ← edit_sad codes _ (slot_touches codes change)]
    · congr 1
      apply edit_congr
      intro piece inside key named
      have found : (some key, piece.2) ∈ sadPieces codes members := by
        rw [← named]
        exact inside
      by_cases slotted : key ∈ codes.slots.map fun slot => asBytes slot.1
      · obtain ⟨slot, listed', same⟩ := List.mem_map.mp slotted
        have holds := (held_piece key _ piece.2 (names_once codes members listed.distinct)).mpr found
        rw [← same, held_sad codes members _ _ (slot_named codes slot listed') listed.distinct stringy] at holds
        rw [if_pos slotted, ← same, known slot listed', slotEdit, slotChange, slot_code_of codes distinct slot listed',
          Option.map_some, Option.elim_some]
        exact (given slot listed' piece.2 holds).1
      · have absent : slotCode codes key = none := by
          cases coded : slotCode codes key with
          | none => rfl
          | some other =>
              obtain ⟨slot, listed', same, _⟩ := slot_code_named codes key other coded
              exact absurd (List.mem_map.mpr ⟨slot, listed', same⟩) slotted
        rw [if_neg slotted, slotEdit, slotChange, absent]
        rfl
    · obtain ⟨member', inside', same⟩ := List.mem_map.mp inside
      intro named
      rw [← same, rewrite] at named ⊢
      cases changed : slotChange codes change member'.1 with
      | none =>
          simp only [changed] at named ⊢
          exact stringy member' inside' named
      | some edit' => exact ⟨_, rfl⟩
  · intro name inside
    obtain ⟨slot, listed', same⟩ := List.mem_map.mp inside
    rw [← same]
    exact slot_span codes members configured slot listed'
  · intro name inside
    obtain ⟨slot, listed', same⟩ := List.mem_map.mp inside
    rw [← same, known slot listed']
    exact (spans slot listed').2.2

end Writes

section Rewritten

variable (codes : SadCodes)

theorem rewrite_key (change : Bytes → Option (Bytes → Bytes)) (member : Member) : (rewrite change member).1 = member.1 := by
  unfold rewrite
  cases change member.1 with
  | none => rfl
  | some edit => rfl

theorem rewrite_keys (change : Bytes → Option (Bytes → Bytes)) (members : List Member) :
    (members.map (rewrite change)).map Prod.fst = members.map Prod.fst := by
  rw [List.map_map]
  apply List.map_congr_left
  intro member _
  exact rewrite_key change member

theorem rewrite_string (change : Bytes → Option (Bytes → Bytes)) (key text : Bytes) :
    rewrite change (key, quoted text) = (key, quoted (slotEdit change key text)) := by
  unfold rewrite slotEdit
  cases change key with
  | none => rfl
  | some edit =>
      simp only [unquoted_quoted]
      rfl

theorem rewrite_holds (change : Bytes → Option (Bytes → Bytes)) (members : List Member) (label : String) (text : Bytes)
    (holds : Holds members label text) : Holds (members.map (rewrite change)) label (slotEdit change (asBytes label) text) :=
  List.mem_map.mpr ⟨_, holds, rewrite_string change (asBytes label) text⟩

theorem holds_once (members : List Member) (distinct : (members.map Prod.fst).Nodup) (label : String) (first second : Bytes)
    (left : Holds members label first) (right : Holds members label second) : first = second := by
  have twin := List.inj_on_of_nodup_map distinct left right rfl
  have same := congrArg unquoted (Prod.mk.inj twin).2
  rwa [unquoted_quoted, unquoted_quoted] at same

theorem listed_rewrite (change : Bytes → Option (Bytes → Bytes)) (touches : Touches codes change) (members : List Member)
    (listed : Listed codes [] members)
    (plain : ∀ member ∈ members, ∀ text, member.2 = quoted text → change member.1 ≠ none →
      Plainly (slotEdit change member.1 text) ∧
        (member.1 = asBytes versionLabel → ∃ version, VersionText (slotEdit change member.1 text) version)) :
    Listed codes [] (members.map (rewrite change)) := by
  have spells : ∀ member ∈ members, Spells Utf8 .value (rewrite change member).2 ∧ Fitting codes (rewrite change member) := by
    intro member inside
    by_cases changed : change member.1 = none
    · have same : rewrite change member = member := by rw [rewrite, changed]
      rw [same]
      exact ⟨listed.values member inside, listed.fitting member inside⟩
    · obtain ⟨content, same⟩ := fitting_stringy codes member (listed.fitting member inside) (touches member.1 changed)
      obtain ⟨⟨text, spelled, every⟩, version⟩ := plain member inside content same changed
      have whole : rewrite change member = (member.1, quoted (asBytes text)) := by
        rw [← spelled, ← rewrite_string, ← same]
      rw [spelled] at every version
      rw [whole]
      refine ⟨plain_value text every, ⟨fun _ => ⟨text, rfl, every⟩, ?_⟩⟩
      intro versioned
      rw [unquoted_quoted]
      exact version versioned
  rw [listed_iff]
  refine ⟨⟨?_, ?_, ?_⟩, ?_⟩
  · intro other inside
    obtain ⟨member, inside', same⟩ := List.mem_map.mp inside
    rw [← same, rewrite_key]
    exact listed.keys member inside'
  · rw [rewrite_keys]
    exact listed.distinct
  · intro other inside
    obtain ⟨member, inside', same⟩ := List.mem_map.mp inside
    rw [← same]
    exact (spells member inside').1
  · intro other inside
    obtain ⟨member, inside', same⟩ := List.mem_map.mp inside
    rw [← same]
    exact (spells member inside').2

theorem rewrite_length (change : Bytes → Option (Bytes → Bytes)) (touches : Touches codes change) (members : List Member)
    (listed : Listed codes [] members) (listed' : Listed codes [] (members.map (rewrite change)))
    (kept : ∀ label text, Holds members label text → (slotEdit change (asBytes label) text).length = text.length) :
    (objectText (members.map (rewrite change))).length = (objectText members).length := by
  have stringy : ∀ member ∈ members, Stringy codes member :=
    fun member inside => fitting_stringy codes member (listed.fitting member inside)
  have stringy' : ∀ member ∈ members.map (rewrite change), Stringy codes member :=
    fun member inside => fitting_stringy codes member (listed'.fitting member inside)
  rw [← render_sad codes _ stringy', ← edit_sad codes change touches, ← render_sad codes _ stringy]
  apply length_edit
  intro piece inside key named
  have found : (some key, piece.2) ∈ sadPieces codes members := by
    rw [← named]
    exact inside
  have holds := (held_piece key _ piece.2 (names_once codes members listed.distinct)).mpr found
  have named' : Named codes key := by
    have listed'' := name_inside piece _ key inside named
    rw [names_sad, List.mem_filter] at listed''
    exact of_decide_eq_true listed''.2
  rw [held_sad codes members key piece.2 named' listed.distinct stringy] at holds
  obtain ⟨⟨label, spelled⟩, _⟩ := listed.keys _ holds
  simp only at spelled
  rw [← spelled] at holds ⊢
  exact kept label piece.2 holds

end Rewritten

section Versions

theorem hex_digit_lt (byte : UInt8) (value : Nat) (read : decodeHexDigit byte = some value) : value < 16 := by
  have all : ∀ byte : UInt8, ((decodeHexDigit byte).getD 0) < 16 := every_byte _ (by decide +kernel)
  have small := all byte
  rw [read] at small
  exact small

theorem hex_size_lt (bytes whole : Bytes) (start size : Nat)
    (read : bytes.foldlM (fun size byte =>
      match decodeHexDigit byte with
      | some digit => (.ok (size * 16 + digit) : Except VersionError Nat)
      | none => .error (.invalidSizeHex whole)) start = .ok size) : size < (start + 1) * 16 ^ bytes.length := by
  induction bytes generalizing start with
  | nil =>
      cases read
      rw [List.length_nil, pow_zero, Nat.mul_one]
      exact Nat.lt_succ_self _
  | cons byte rest ih =>
      rw [List.foldlM_cons, bind_ok] at read
      obtain ⟨middle, first, later⟩ := read
      cases digit : decodeHexDigit byte with
      | none =>
          rw [digit] at first
          cases first
      | some value =>
          rw [digit] at first
          have bound := ih middle later
          have small := hex_digit_lt byte value digit
          have grown : middle + 1 ≤ (start + 1) * 16 := by
            rw [← Except.ok.inj first]
            omega
          calc size < (middle + 1) * 16 ^ rest.length := bound
            _ ≤ (start + 1) * 16 * 16 ^ rest.length := Nat.mul_le_mul_right _ grown
            _ = (start + 1) * 16 ^ (byte :: rest).length := by rw [List.length_cons, pow_succ, Nat.mul_assoc, Nat.mul_comm 16]

theorem version_text_size (text : Bytes) (version : VersionString) (shape : VersionText text version) :
    version.size ≤ versionSizeMax := by
  obtain ⟨front, size, last, split, long, six, one⟩ := version_parts text version shape
  have parsed := shape.1
  rw [split, parse_parts front size last long six one] at parsed
  have bound := hex_size_lt size size 0 version.size parsed.2.2.2.2.1
  rw [six] at bound
  exact Nat.le_of_lt_succ bound

theorem version_text_once (text : Bytes) (first second : VersionString) (left : VersionText text first)
    (right : VersionText text second) : first = second := by
  have same := left.1.symm.trans right.1
  exact Except.ok.inj same

variable (codes : SadCodes)

theorem noted_unversioned (members : List Member) (absent : ∀ value, (asBytes versionLabel, value) ∉ members) :
    (noted codes (sadPieces codes members)).version = none := by
  have none' : spanOf (asBytes versionLabel) (sadPieces codes members) = none := by
    cases found : spanOf (asBytes versionLabel) (sadPieces codes members) with
    | none => rfl
    | some span =>
        obtain ⟨member, inside, same⟩ := List.mem_map.mp ((span_sad codes members _ (.inl rfl)).mpr ⟨span, found⟩)
        have whole : member = (asBytes versionLabel, member.2) := by rw [← same]
        rw [whole] at inside
        exact absurd inside (absent member.2)
  show (spanOf (asBytes versionLabel) (sadPieces codes members)).bind _ = none
  rw [none']
  rfl

theorem noted_versioned (members : List Member) (listed : Listed codes [] members) (value : Bytes)
    (inside : (asBytes versionLabel, value) ∈ members) :
    ∃ (text : String) (version : VersionString) (span : Span), value = quoted (asBytes text) ∧ VersionText (asBytes text) version ∧
      spanOf (asBytes versionLabel) (sadPieces codes members) = some span ∧
      held (asBytes versionLabel) (sadPieces codes members) = some (asBytes text) ∧
      (noted codes (sadPieces codes members)).version = some (span, version) := by
  have stringy : ∀ member ∈ members, Stringy codes member :=
    fun member listed' => fitting_stringy codes member (listed.fitting member listed')
  obtain ⟨text, same, _⟩ := (listed.fitting _ inside).unescaped (.inl rfl)
  obtain ⟨version, shape⟩ := (listed.fitting _ inside).version rfl
  simp only at same shape
  rw [same, unquoted_quoted] at shape
  rw [same] at inside
  have holds := (held_sad codes members _ (asBytes text) (.inl rfl) listed.distinct stringy).mpr inside
  obtain ⟨span, found⟩ := (span_sad codes members _ (.inl rfl)).mp (List.mem_map.mpr ⟨_, inside, rfl⟩)
  refine ⟨text, version, span, same, shape, found, holds, ?_⟩
  show (spanOf (asBytes versionLabel) (sadPieces codes members)).bind _ = _
  rw [found, holds, Option.bind_some, Option.bind_some, shape.1]
  rfl

theorem check_size_ok (members : List Member) (listed : Listed codes [] members) :
    checkSize (objectText members) (noted codes (sadPieces codes members)).version = .ok () ↔
      ∀ value, (asBytes versionLabel, value) ∈ members → ∃ (text : String) (version : VersionString),
        value = quoted (asBytes text) ∧ VersionText (asBytes text) version ∧ version.size = (objectText members).length := by
  by_cases present : ∃ value, (asBytes versionLabel, value) ∈ members
  · obtain ⟨value, inside⟩ := present
    obtain ⟨text, version, span, same, shape, _, _, noted'⟩ := noted_versioned codes members listed value inside
    have small := version_text_size _ version shape
    rw [noted', checkSize, reject_if_ok, not_not]
    apply Iff.intro
    · intro declared other inside'
      have twin := List.inj_on_of_nodup_map listed.distinct inside inside' rfl
      refine ⟨text, version, ?_, shape, declared.2⟩
      rw [← (Prod.mk.inj twin).2, same]
    · intro declared
      obtain ⟨text', version', same', shape', size⟩ := declared value inside
      have texts := congrArg unquoted (same.symm.trans same')
      rw [unquoted_quoted, unquoted_quoted] at texts
      rw [← texts] at shape'
      have known := version_text_once _ version version' shape shape'
      unfold versionSizeMax at small
      rw [← known] at size
      exact ⟨by omega, size⟩
  · have absent : ∀ value, (asBytes versionLabel, value) ∉ members := fun value inside => present ⟨value, inside⟩
    rw [noted_unversioned codes members absent]
    apply iff_of_true rfl
    intro value inside
    exact absurd inside (absent value)

theorem patch_size_runs (members : List Member) (listed : Listed codes [] members)
    (small : ∀ value, (asBytes versionLabel, value) ∈ members → (objectText members).length ≤ versionSizeMax) :
    exec (patchSize (noted codes (sadPieces codes members))) (objectText members) = (.ok (), objectText (sized members)) := by
  have stringy : ∀ member ∈ members, Stringy codes member :=
    fun member listed' => fitting_stringy codes member (listed.fitting member listed')
  by_cases present : ∃ value, (asBytes versionLabel, value) ∈ members
  · obtain ⟨value, inside⟩ := present
    obtain ⟨text, version, span, same, shape, found, holds, noted'⟩ := noted_versioned codes members listed value inside
    obtain ⟨before, held', after, split, holds', place, edits⟩ := span_splits _ 0 span _ found
    rw [holds, Option.some.injEq] at holds'
    have long : held'.length = 17 := by
      rw [← holds']
      exact shape.2.1
    rw [render_sad codes members stringy] at split
    have counted := congrArg List.length split
    rw [List.length_append, List.length_append] at counted
    rw [Nat.zero_add] at place
    rw [patchSize, exec_get_bind, noted']
    simp only
    rw [if_pos (small value inside), place, exec_patch_slot _ _ _ (by omega) (by omega) (by rw [hex_size_length]; omega)]
    congr 1
    have patched := edits (names_once codes members listed.distinct)
      (held'.take 10 ++ hexSize (objectText members).length ++ held'.drop 16)
    have rewritten : edit (slotEdit (sizeChange (objectText members).length)) (sadPieces codes members) =
        edit (fun other old => if other = asBytes versionLabel then
          held'.take 10 ++ hexSize (objectText members).length ++ held'.drop 16 else old) (sadPieces codes members) := by
      apply edit_congr
      intro piece inside' key named
      by_cases versioned : key = asBytes versionLabel
      · have content : piece.2 = held' := by
          have here : (some key, piece.2) ∈ sadPieces codes members := by
            rw [← named]
            exact inside'
          have holds'' := (held_piece key _ piece.2 (names_once codes members listed.distinct)).mpr here
          rw [versioned, holds, holds', Option.some.injEq] at holds''
          exact holds''.symm
        rw [slotEdit, sizeChange, if_pos versioned, if_pos versioned, Option.elim_some, content]
      · rw [slotEdit, sizeChange, if_neg versioned, if_neg versioned]
        rfl
    have stringy' : ∀ member ∈ sized members, Stringy codes member := by
      intro member inside' named
      obtain ⟨member', listed', same'⟩ := List.mem_map.mp inside'
      rw [← same', rewrite] at named ⊢
      cases changed : sizeChange (objectText members).length member'.1 with
      | none =>
          simp only [changed] at named ⊢
          exact stringy member' listed' named
      | some edit' => exact ⟨_, rfl⟩
    have target : objectText (sized members) = before ++ (held'.take 10 ++ hexSize (objectText members).length ++ held'.drop 16) ++ after := by
      rw [← render_sad codes _ stringy', sized, ← edit_sad codes _ (size_touches codes _), rewritten, patched]
    rw [target, overwrite, split]
    have front : (before ++ held' ++ after).take (before.length + 10) = before ++ held'.take 10 := by
      rw [List.append_assoc, List.take_append, List.take_of_length_le (by omega), Nat.add_sub_cancel_left,
        List.take_append_of_le_length (by omega)]
    have behind : (before ++ held' ++ after).drop (before.length + 16) = held'.drop 16 ++ after := by
      rw [List.append_assoc, ← List.drop_drop, List.drop_left, List.drop_append_of_le_length (by omega)]
    rw [front, behind]
    simp only [List.append_assoc]
  · have absent : ∀ value, (asBytes versionLabel, value) ∉ members := fun value inside => present ⟨value, inside⟩
    have kept : sized members = members := by
      rw [sized]
      conv_rhs => rw [← List.map_id members]
      apply List.map_congr_left
      intro member inside
      have other : member.1 ≠ asBytes versionLabel := by
        intro same
        have whole : member = (asBytes versionLabel, member.2) := by rw [← same]
        rw [whole] at inside
        exact absent member.2 inside
      rw [rewrite, sizeChange, if_neg other]
      rfl
    rw [patchSize, exec_get_bind, noted_unversioned codes members absent, kept]
    rfl

end Versions

section Verify

variable (library : KeyLibrary) (codes : SadCodes)

theorem listed_of (members : List Member) (object : Object Utf8 members)
    (slots : ∀ slot ∈ codes.slots, ∃ text, Holds members slot.1 text ∧ Plainly text)
    (version : ∀ value, (asBytes versionLabel, value) ∈ members → ∃ (text : String) (version : VersionString),
      value = quoted (asBytes text) ∧ VersionText (asBytes text) version) :
    Listed codes [] members ∧ Configured codes members := by
  rw [listed_iff]
  refine ⟨⟨object, ?_⟩, ?_⟩
  · intro member inside
    have versioned : member.1 = asBytes versionLabel → ∃ (text : String) (version : VersionString),
        member.2 = quoted (asBytes text) ∧ VersionText (asBytes text) version := by
      intro same
      exact version member.2 (by rw [← same]; exact inside)
    apply Fitting.mk
    · intro named
      rcases named with same | slotted
      · obtain ⟨text, known, spelled, shape⟩ := versioned same
        exact ⟨text, spelled, version_plain _ known shape⟩
      · obtain ⟨slot, listed, same⟩ := slotted
        obtain ⟨content, holds, text, spelled, every⟩ := slots slot listed
        have twin := List.inj_on_of_nodup_map object.distinct holds inside same
        refine ⟨text, ?_, by rw [← spelled]; exact every⟩
        rw [← twin, spelled]
    · intro same
      obtain ⟨text, known, spelled, shape⟩ := versioned same
      refine ⟨known, ?_⟩
      rw [spelled, unquoted_quoted]
      exact shape
  · intro slot inside
    obtain ⟨content, holds, _⟩ := slots slot inside
    exact List.mem_map.mpr ⟨_, holds, rfl⟩

theorem fill_spans_run (members : List Member) (listed : Listed codes [] members) (configured : Configured codes members)
    (distinct : (codes.slots.map Prod.fst).Nodup) :
    exec (fillSpans (codes.slots.map fun slot => (slotSpan (sadPieces codes members) slot.1, slot.2))) (objectText members) =
      (.ok (), objectText (dummied codes members)) := by
  have named : fillSpans (codes.slots.map fun slot => (slotSpan (sadPieces codes members) slot.1, slot.2)) =
      codes.slots.forM fun slot => fillSpan (slotSpan (sadPieces codes members) slot.1) := List.forM_map
  rw [named]
  apply exec_slots codes members listed configured distinct _ _
    (fun slot => List.replicate ((slotSpan (sadPieces codes members) slot.1).2 - (slotSpan (sadPieces codes members) slot.1).1) dummyByte)
  · intro slot inside buf long
    obtain ⟨_, _, _, _, _, low, high, _⟩ := slot_slice codes members listed configured slot inside
    exact exec_fill_span _ buf low (by rw [long]; exact high)
  · intro slot inside text holds
    obtain ⟨other, holds', _, _, _, _, _, width⟩ := slot_slice codes members listed configured slot inside
    rw [holds_once members listed.distinct slot.1 other text holds' holds] at width
    rw [width, List.length_replicate]
    exact ⟨rfl, rfl⟩

theorem compute_said_fields_ok (fixed : FixedLength library) (render : Bytes) (span : String → Span) :
    computeSaidFields library render (codes.slots.map fun slot => (span slot.1, slot.2)) =
      .ok (codes.slots.map fun slot => digestOf library slot.2 render) := by
  rw [computeSaidFields, map_m_ok, List.forall₂_map_left_iff, List.forall₂_map_right_iff, List.forall₂_same]
  intro slot _
  rw [digest_ok library fixed]
  rfl

theorem said_bytes (fixed : FixedLength library) (code : DigestCode) (data : Bytes) :
    Plainly (saidBytes library code data) ∧ (saidBytes library code data).length = saidWidth code ∧
      ∃ text, saidText (digestOf library code data) = .ok text ∧ asBytes text = saidBytes library code data := by
  obtain ⟨text, written, same, width, every⟩ := said_text library fixed code data
  have bytes : saidBytes library code data = asBytes text := by
    rw [saidBytes, same]
    rfl
  rw [bytes]
  exact ⟨⟨text, rfl, every⟩, width, text, written, rfl⟩

theorem check_said_ok (fixed : FixedLength library) (raw : Bytes) (span : Span) (code : DigestCode) (data : Bytes)
    (low : span.1 ≤ span.2) (high : span.2 ≤ raw.length) (plain : Plainly ((raw.take span.2).drop span.1)) :
    checkSaid raw span (digestOf library code data) = .ok () ↔ (raw.take span.2).drop span.1 = saidBytes library code data := by
  obtain ⟨_, _, text, written, same⟩ := said_bytes library fixed code data
  obtain ⟨claimed, spelled, _⟩ := plain
  have read : fromUtf8 ((raw.take span.2).drop span.1) = some claimed := (from_utf8_some _ _).mpr spelled.symm
  simp only [checkSaid, read, written, ok_bind, bind_ok, reject_if_ok, exists_done, not_not]
  rw [← same, spelled]
  apply Iff.intro
  · intro found
    rw [found.2]
  · intro found
    exact ⟨⟨low, high⟩, as_bytes_injective found⟩

def parsedSad (members : List Member) (spans : List Member) : ParsedSad where
  raw := objectText members
  fields := codes.slots.map fun slot => (slot.1, slotSpan (sadPieces codes spans) slot.1)

theorem verify_ok (fixed : FixedLength library) (distinct : (codes.slots.map Prod.fst).Nodup) (raw : Bytes) (sad : ParsedSad) :
    codes.verify library raw = .ok sad ↔
      ∃ members, raw = objectText members ∧ Verified library codes members ∧ sad = parsedSad codes members members := by
  have checks : ∀ members, Listed codes [] members → Configured codes members →
      (codes.verify library (objectText members) = .ok sad ↔
        checkSize (objectText members) (noted codes (sadPieces codes members)).version = .ok () ∧
          (∀ slot ∈ codes.slots, Holds members slot.1 (saidBytes library slot.2 (objectText (dummied codes members)))) ∧
            sad = parsedSad codes members members) := by
    intro members listed configured
    have scanned := (scan_sad_ok codes distinct (objectText members) _).mpr ⟨members, rfl, listed, rfl⟩
    have filled : consume (fillSpans (codes.slots.map fun slot => (slotSpan (sadPieces codes members) slot.1, slot.2)))
        (objectText members) = .ok (objectText (dummied codes members)) := by
      rw [consume, fill_spans_run codes members listed configured distinct]
    rw [SadCodes.verify, scanned, ok_bind, (require_all_ok codes members).mpr configured, ok_bind,
      scan_fields_noted codes members configured]
    simp only [filled, ok_bind, bind_ok, exists_done, compute_said_fields_ok library codes fixed, List.zip_map', for_m_ok,
      List.forall_mem_map, pure_ok, scan_labels_noted codes members configured]
    have held' : (∀ slot ∈ codes.slots, checkSaid (objectText members) (slotSpan (sadPieces codes members) slot.1)
        (digestOf library slot.2 (objectText (dummied codes members))) = .ok ()) ↔
        ∀ slot ∈ codes.slots, Holds members slot.1 (saidBytes library slot.2 (objectText (dummied codes members))) := by
      apply forall_congr'
      intro slot
      apply forall_congr'
      intro inside
      obtain ⟨text, holds, plain, _, slice, low, high, _⟩ := slot_slice codes members listed configured slot inside
      rw [check_said_ok library fixed _ _ _ _ low high (by rw [slice]; exact plain), slice]
      apply Iff.intro
      · intro same
        rw [← same]
        exact holds
      · intro holds'
        exact holds_once members listed.distinct slot.1 _ _ holds holds'
    rw [held', eq_comm (b := sad)]
    rfl
  apply Iff.intro
  · intro verified
    have scanned := verified
    simp only [SadCodes.verify, bind_ok, exists_done] at scanned
    obtain ⟨scan, read, all, _⟩ := scanned
    obtain ⟨members, same, listed, noted'⟩ := (scan_sad_ok codes distinct raw scan).mp read
    rw [noted', require_all_ok] at all
    rw [same, checks members listed all] at verified
    obtain ⟨size, saids, result⟩ := verified
    refine ⟨members, same, ⟨((listed_iff codes members).mp listed).1, saids, ?_⟩, result⟩
    exact (check_size_ok codes members listed).mp size
  · intro found
    obtain ⟨members, same, verified, result⟩ := found
    obtain ⟨listed, configured⟩ := listed_of codes members verified.object
      (fun slot inside => ⟨_, verified.saids slot inside, (said_bytes library fixed slot.2 _).1⟩) (fun value inside => by
        obtain ⟨text, version, spelled, shape, _⟩ := verified.version value inside
        exact ⟨text, version, spelled, shape⟩)
    rw [same, checks members listed configured]
    exact ⟨(check_size_ok codes members listed).mpr verified.version, verified.saids, result⟩

end Verify

section Saidify

variable (library : KeyLibrary) (codes : SadCodes)

theorem slot_span_rewrite (change : Bytes → Option (Bytes → Bytes)) (touches : Touches codes change) (members : List Member)
    (listed : Listed codes [] members)
    (kept : ∀ label text, Holds members label text → (slotEdit change (asBytes label) text).length = text.length) (label : String) :
    slotSpan (sadPieces codes (members.map (rewrite change))) label = slotSpan (sadPieces codes members) label := by
  have stringy : ∀ member ∈ members, Stringy codes member :=
    fun member inside => fitting_stringy codes member (listed.fitting member inside)
  have same : spanOf (asBytes label) (sadPieces codes (members.map (rewrite change))) = spanOf (asBytes label) (sadPieces codes members) := by
    rw [← edit_sad codes change touches]
    apply span_edit
    intro piece inside key named
    have found : (some key, piece.2) ∈ sadPieces codes members := by
      rw [← named]
      exact inside
    have holds := (held_piece key _ piece.2 (names_once codes members listed.distinct)).mpr found
    have named' : Named codes key := by
      have listed' := name_inside piece _ key inside named
      rw [names_sad, List.mem_filter] at listed'
      exact of_decide_eq_true listed'.2
    rw [held_sad codes members key piece.2 named' listed.distinct stringy] at holds
    obtain ⟨⟨other, spelled⟩, _⟩ := listed.keys _ holds
    simp only at spelled
    rw [← spelled] at holds ⊢
    exact kept other piece.2 holds
  rw [slotSpan, slotSpan, same]

theorem configured_rewrite (change : Bytes → Option (Bytes → Bytes)) (members : List Member) :
    Configured codes (members.map (rewrite change)) ↔ Configured codes members := by
  unfold Configured
  rw [rewrite_keys]

theorem rewrite_twice (first : DigestCode → Bytes → Bytes) (second : DigestCode → Bytes) (members : List Member) :
    (members.map (rewrite (slotChange codes first))).map (rewrite (slotChange codes fun code _ => second code)) =
      members.map (rewrite (slotChange codes fun code _ => second code)) := by
  rw [List.map_map]
  apply List.map_congr_left
  intro member _
  show rewrite _ (rewrite _ member) = _
  unfold rewrite
  cases coded : slotCode codes member.1 with
  | none => simp only [slotChange, coded, Option.map_none]
  | some code => simp only [slotChange, coded, Option.map_some]

-- An overwritten object looks the same whatever of the right width stood in its slots.
theorem dummied_backfilled (second : DigestCode → Bytes) (members : List Member)
    (width : ∀ member ∈ members, ∀ code, slotCode codes member.1 = some code → (second code).length = (unquoted member.2).length) :
    dummied codes (members.map (rewrite (slotChange codes fun code _ => second code))) = dummied codes members := by
  rw [dummied, dummied, List.map_map]
  apply List.map_congr_left
  intro member inside
  show rewrite _ (rewrite _ member) = _
  unfold rewrite
  cases coded : slotCode codes member.1 with
  | none => simp only [slotChange, coded, Option.map_none]
  | some code =>
      simp only [slotChange, coded, Option.map_some, unquoted_quoted]
      rw [width member inside code coded]

theorem ready_listed (members : List Member) (ready : Ready codes members) :
    Listed codes [] members ∧ Configured codes members := by
  apply listed_of codes members ready.object
  · intro slot inside
    obtain ⟨text, holds, plain, _⟩ := ready.slots slot inside
    exact ⟨text, holds, plain⟩
  · intro value inside
    exact (ready.version value inside).1

theorem sized_text (text : Bytes) (size : Nat) (long : text.length = 17) :
    (text.take 10 ++ hexSize size ++ text.drop 16).length = text.length := by
  rw [List.length_append, List.length_append, List.length_take, List.length_drop, hex_size_length]
  omega

theorem size_edit_version (size : Nat) (text : Bytes) :
    slotEdit (sizeChange size) (asBytes versionLabel) text = text.take 10 ++ hexSize size ++ text.drop 16 := by
  rw [slotEdit, sizeChange, if_pos rfl]
  rfl

theorem size_edit_other (size : Nat) (key text : Bytes) (other : key ≠ asBytes versionLabel) :
    slotEdit (sizeChange size) key text = text := by
  rw [slotEdit, sizeChange, if_neg other]
  rfl

theorem sized_ready (members : List Member) (ready : Ready codes members) :
    Ready codes (sized members) ∧ (objectText (sized members)).length = (objectText members).length ∧
      ∀ label, slotSpan (sadPieces codes (sized members)) label = slotSpan (sadPieces codes members) label := by
  obtain ⟨listed, configured⟩ := ready_listed codes members ready
  have touches := size_touches codes (objectText members).length
  have kept : ∀ label text, Holds members label text →
      (slotEdit (sizeChange (objectText members).length) (asBytes label) text).length = text.length := by
    intro label text holds
    by_cases versioned : asBytes label = asBytes versionLabel
    · unfold Holds at holds
      rw [versioned] at holds ⊢
      obtain ⟨⟨text', version, spelled, shape⟩, _⟩ := ready.version _ holds
      have same := congrArg unquoted spelled
      rw [unquoted_quoted, unquoted_quoted] at same
      rw [size_edit_version, sized_text]
      rw [same]
      exact shape.2.1
    · rw [size_edit_other _ _ _ versioned]
  have listed' : Listed codes [] (sized members) := by
    apply listed_rewrite codes _ touches members listed
    intro member inside text same changed
    have versioned : member.1 = asBytes versionLabel := by
      by_contra other
      rw [sizeChange, if_neg other] at changed
      exact changed rfl
    have whole : member = (asBytes versionLabel, quoted text) := by rw [← versioned, ← same]
    rw [whole] at inside
    obtain ⟨⟨text', version, spelled, shape⟩, small⟩ := ready.version _ inside
    have known := congrArg unquoted spelled
    rw [unquoted_quoted, unquoted_quoted] at known
    have patched := version_sized (asBytes text') version (objectText members).length shape small
    rw [versioned, size_edit_version, known]
    have every := version_ascii _ _ patched
    refine ⟨⟨asciiText ((asBytes text').take 10 ++ hexSize (objectText members).length ++ (asBytes text').drop 16), ?_,
      fun byte inside => (every byte inside).1⟩, fun _ => ⟨_, patched⟩⟩
    exact (as_bytes_ascii_text _ fun byte inside => (every byte inside).2).symm
  have length : (objectText (sized members)).length = (objectText members).length :=
    rewrite_length codes _ touches members listed listed' kept
  refine ⟨⟨((listed_iff codes _).mp listed').1, ?_, ?_⟩, length, slot_span_rewrite codes _ touches members listed kept⟩
  · intro slot inside
    obtain ⟨text, holds, plain, width⟩ := ready.slots slot inside
    have moved := rewrite_holds (sizeChange (objectText members).length) members slot.1 text holds
    rw [size_edit_other _ _ _ (slot_not_version codes slot inside)] at moved
    exact ⟨text, moved, plain, width⟩
  · intro value inside
    obtain ⟨text, version, _, spelled, shape, _⟩ := noted_versioned codes (sized members) listed' value inside
    obtain ⟨member, inside', same⟩ := List.mem_map.mp inside
    have versioned : member.1 = asBytes versionLabel := by rw [← rewrite_key, same]
    have whole : member = (asBytes versionLabel, member.2) := by rw [← versioned]
    rw [whole] at inside'
    rw [length]
    exact ⟨⟨text, version, spelled, shape⟩, (ready.version _ inside').2⟩

theorem backfilled_ready (fixed : FixedLength library) (distinct : (codes.slots.map Prod.fst).Nodup) (data : Bytes)
    (members : List Member) (ready : Ready codes members) :
    Ready codes (members.map (rewrite (slotChange codes fun code _ => saidBytes library code data))) ∧
      (objectText (members.map (rewrite (slotChange codes fun code _ => saidBytes library code data)))).length =
        (objectText members).length ∧
      (∀ label, slotSpan (sadPieces codes (members.map (rewrite (slotChange codes fun code _ => saidBytes library code data)))) label =
        slotSpan (sadPieces codes members) label) ∧
      (∀ slot ∈ codes.slots, Holds (members.map (rewrite (slotChange codes fun code _ => saidBytes library code data))) slot.1
        (saidBytes library slot.2 data)) ∧
      dummied codes (members.map (rewrite (slotChange codes fun code _ => saidBytes library code data))) = dummied codes members := by
  obtain ⟨listed, configured⟩ := ready_listed codes members ready
  have touches := slot_touches codes fun code _ => saidBytes library code data
  have edits : ∀ slot ∈ codes.slots, ∀ text,
      slotEdit (slotChange codes fun code _ => saidBytes library code data) (asBytes slot.1) text = saidBytes library slot.2 data := by
    intro slot inside text
    rw [slotEdit, slotChange, slot_code_of codes distinct slot inside]
    rfl
  have others : ∀ key text, slotCode codes key = none →
      slotEdit (slotChange codes fun code _ => saidBytes library code data) key text = text := by
    intro key text absent
    rw [slotEdit, slotChange, absent]
    rfl
  have kept : ∀ label text, Holds members label text →
      (slotEdit (slotChange codes fun code _ => saidBytes library code data) (asBytes label) text).length = text.length := by
    intro label text holds
    cases coded : slotCode codes (asBytes label) with
    | none => rw [others _ _ coded]
    | some code =>
        obtain ⟨slot, inside, same, _⟩ := slot_code_named codes _ code coded
        obtain ⟨text', holds', _, width⟩ := ready.slots slot inside
        rw [← as_bytes_injective same] at holds ⊢
        rw [edits slot inside, (said_bytes library fixed slot.2 data).2.1, ← width,
          holds_once members listed.distinct slot.1 _ _ holds' holds]
  have listed' : Listed codes [] (members.map (rewrite (slotChange codes fun code _ => saidBytes library code data))) := by
    apply listed_rewrite codes _ touches members listed
    intro member inside text same changed
    cases coded : slotCode codes member.1 with
    | none =>
        rw [slotChange, coded] at changed
        exact absurd rfl changed
    | some code =>
        obtain ⟨slot, listed'', named, _⟩ := slot_code_named codes _ code coded
        rw [← named, edits slot listed'']
        exact ⟨(said_bytes library fixed slot.2 data).1, fun versioned => absurd versioned (slot_not_version codes slot listed'')⟩
  have length := rewrite_length codes _ touches members listed listed' kept
  have saids : ∀ slot ∈ codes.slots, Holds (members.map (rewrite (slotChange codes fun code _ => saidBytes library code data))) slot.1
      (saidBytes library slot.2 data) := by
    intro slot inside
    obtain ⟨text, holds, _⟩ := ready.slots slot inside
    have moved := rewrite_holds (slotChange codes fun code _ => saidBytes library code data) members slot.1 text holds
    rw [edits slot inside] at moved
    exact moved
  refine ⟨⟨((listed_iff codes _).mp listed').1, ?_, ?_⟩, length, slot_span_rewrite codes _ touches members listed kept, saids, ?_⟩
  · intro slot inside
    obtain ⟨plain, width, _⟩ := said_bytes library fixed slot.2 data
    exact ⟨_, saids slot inside, plain, width⟩
  · intro value inside
    obtain ⟨text, version, _, spelled, shape, _⟩ := noted_versioned codes _ listed' value inside
    obtain ⟨member, inside', same⟩ := List.mem_map.mp inside
    have versioned : member.1 = asBytes versionLabel := by rw [← rewrite_key, same]
    have whole : member = (asBytes versionLabel, member.2) := by rw [← versioned]
    rw [whole] at inside'
    rw [length]
    exact ⟨⟨text, version, spelled, shape⟩, (ready.version _ inside').2⟩
  · apply dummied_backfilled
    intro member inside code coded
    obtain ⟨slot, listed'', named, code'⟩ := slot_code_named codes _ code coded
    obtain ⟨text, holds, _, width⟩ := ready.slots slot listed''
    have twin := List.inj_on_of_nodup_map listed.distinct holds inside named
    rw [← twin, unquoted_quoted, width, ← code']
    exact (said_bytes library fixed slot.2 data).2.1

theorem dummied_listed (members : List Member) (listed : Listed codes [] members) (configured : Configured codes members) :
    Listed codes [] (dummied codes members) ∧ Configured codes (dummied codes members) ∧
      ∀ label, slotSpan (sadPieces codes (dummied codes members)) label = slotSpan (sadPieces codes members) label := by
  have touches := slot_touches codes fun _ old => List.replicate old.length dummyByte
  refine ⟨listed_rewrite codes _ touches members listed ?_, (configured_rewrite codes _ members).mpr configured,
    slot_span_rewrite codes _ touches members listed ?_⟩
  · intro member inside text same changed
    have marks : ∀ byte ∈ List.replicate text.length dummyByte, AsciiPlain byte := by
      intro byte inside
      rw [List.eq_of_mem_replicate inside]
      decide
    cases coded : slotCode codes member.1 with
    | none =>
        rw [slotChange, coded] at changed
        exact absurd rfl changed
    | some code =>
        obtain ⟨slot, listed'', named, _⟩ := slot_code_named codes _ code coded
        rw [slotEdit, slotChange, coded]
        refine ⟨⟨asciiText (List.replicate text.length dummyByte), ?_, fun byte inside => (marks byte inside).1⟩, ?_⟩
        · exact (as_bytes_ascii_text _ fun byte inside => (marks byte inside).2).symm
        · intro versioned
          exact absurd (named.trans versioned) (slot_not_version codes slot listed'')
  · intro label text _
    cases coded : slotCode codes (asBytes label) with
    | none => rw [slotEdit, slotChange, coded]; rfl
    | some code => rw [slotEdit, slotChange, coded]; exact List.length_replicate

theorem exec_runs {σ ε α β : Type} (call : Mutator σ ε α) (next : α → Mutator σ ε β) (state middle : σ) (value : α)
    (runs : exec call state = (.ok value, middle)) : exec (call >>= next) state = exec (next value) middle := by
  rw [exec_bind, runs]

theorem exec_stops {σ ε α β : Type} (call : Mutator σ ε α) (next : α → Mutator σ ε β) (state final : σ) (error : ε)
    (stops : exec call state = (.error error, final)) : exec (call >>= next) state = (.error error, final) := by
  rw [exec_bind, stops]

theorem saidify_runs (fixed : FixedLength library) (distinct : (codes.slots.map Prod.fst).Nodup) (members : List Member)
    (ready : Ready codes members) :
    exec (codes.saidify library) (objectText members) =
      (.ok (parsedSad codes (saidified library codes members) members), objectText (saidified library codes members)) := by
  obtain ⟨listed, configured⟩ := ready_listed codes members ready
  obtain ⟨ready', _, places⟩ := sized_ready codes members ready
  obtain ⟨listed', configured'⟩ := ready_listed codes (sized members) ready'
  obtain ⟨listed'', configured'', places'⟩ := dummied_listed codes (sized members) listed' configured'
  have scanned := (scan_sad_ok codes distinct (objectText members) _).mpr ⟨members, rfl, listed, rfl⟩
  have widths := (require_widths_ok codes members listed configured).mpr ready.slots
  have patched := patch_size_runs codes members listed fun value inside => (ready.version value inside).2
  have spans : (codes.slots.map fun slot => (slotSpan (sadPieces codes members) slot.1, slot.2)) =
      codes.slots.map fun slot => (slotSpan (sadPieces codes (sized members)) slot.1, slot.2) := by
    apply List.map_congr_left
    intro slot _
    rw [places]
  have wide : ∀ slot ∈ codes.slots, ∀ text, Holds (dummied codes (sized members)) slot.1 text → text.length = saidWidth slot.2 := by
    intro slot inside text holds
    obtain ⟨text', holds', _, width⟩ := ready'.slots slot inside
    have marked := rewrite_holds (slotChange codes fun _ old => List.replicate old.length dummyByte) _ slot.1 text' holds'
    rw [slotEdit, slotChange, slot_code_of codes distinct slot inside] at marked
    rw [holds_once _ listed''.distinct slot.1 _ _ holds marked, ← width]
    exact List.length_replicate
  generalize rendered : objectText (dummied codes (sized members)) = data
  have spliced : exec (((codes.slots.map fun slot => (slotSpan (sadPieces codes members) slot.1, slot.2)).zip
      (codes.slots.map fun slot => digestOf library slot.2 data)).forM fun both => spliceSaid both.1.1 both.2) data =
        (.ok (), objectText (saidified library codes members)) := by
    have named : ((codes.slots.map fun slot => (slotSpan (sadPieces codes members) slot.1, slot.2)).zip
        (codes.slots.map fun slot => digestOf library slot.2 data)).forM (fun both => spliceSaid both.1.1 both.2) =
          codes.slots.forM fun slot => spliceSaid (slotSpan (sadPieces codes members) slot.1) (digestOf library slot.2 data) := by
      rw [List.zip_map']
      exact List.forM_map
    rw [named, ← rendered, exec_slots codes _ listed'' configured'' distinct _ (fun code _ => saidBytes library code data)
      (fun slot => saidBytes library slot.2 data), saidified, rendered]
    · congr 2
      exact rewrite_twice codes _ (fun code => saidBytes library code data) (sized members)
    · intro slot inside buf long
      obtain ⟨_, width, text, written, same⟩ := said_bytes library fixed slot.2 data
      obtain ⟨other, holds, _, _, _, low, high, span⟩ := slot_slice codes _ listed'' configured'' slot inside
      rw [wide slot inside other holds] at span
      rw [spliceSaid, exec_runs _ _ _ _ text (by rw [exec_check, rendered, written]), ← places, ← places', same]
      exact exec_patch_slot _ _ buf low (by rw [long]; exact high) (by rw [span, width])
    · intro slot inside text holds
      obtain ⟨_, width, _⟩ := said_bytes library fixed slot.2 data
      rw [wide slot inside text holds, width]
      exact ⟨rfl, rfl⟩
  rw [SadCodes.saidify, exec_get_bind, exec_runs _ _ _ _ _ (by rw [exec_check, scanned])]
  rw [exec_runs _ _ _ _ () (by rw [exec_check, (require_all_ok codes members).mpr configured])]
  rw [exec_runs _ _ _ _ () (by rw [exec_check, widths])]
  rw [exec_runs _ _ _ _ () patched, scan_fields_noted codes members configured]
  simp only []
  rw [exec_runs _ _ _ (objectText (dummied codes (sized members))) () (by
    rw [spans]
    exact fill_spans_run codes (sized members) listed' configured' distinct)]
  rw [rendered, exec_get_bind, exec_runs _ _ _ _ _ (by
    rw [exec_check, compute_said_fields_ok library codes fixed data (slotSpan (sadPieces codes members))])]
  rw [exec_runs _ _ _ _ () spliced, exec_get_bind, exec_pure, scan_labels_noted codes members configured]
  rfl

theorem saidify_refuses (distinct : (codes.slots.map Prod.fst).Nodup) (raw : Bytes) :
    (∃ members, raw = objectText members ∧ Ready codes members) ∨
      ∃ error, exec (codes.saidify library) raw = (.error error, raw) := by
  cases scanned : scanSad codes raw with
  | error error =>
      refine .inr ⟨error, ?_⟩
      rw [SadCodes.saidify, exec_get_bind]
      exact exec_stops _ _ _ _ _ (by rw [exec_check, scanned])
  | ok scan =>
      obtain ⟨members, same, listed, noted'⟩ := (scan_sad_ok codes distinct raw scan).mp scanned
      cases all : requireAllConfigured codes scan with
      | error error =>
          refine .inr ⟨error, ?_⟩
          rw [SadCodes.saidify, exec_get_bind, exec_runs _ _ _ _ scan (by rw [exec_check, scanned])]
          exact exec_stops _ _ _ _ _ (by rw [exec_check, all])
      | ok done =>
          have configured := all
          rw [noted', require_all_ok] at configured
          cases widths : requireSlotWidths raw codes scan with
          | error error =>
              refine .inr ⟨error, ?_⟩
              rw [SadCodes.saidify, exec_get_bind, exec_runs _ _ _ _ scan (by rw [exec_check, scanned]),
                exec_runs _ _ _ _ () (by rw [exec_check, all])]
              exact exec_stops _ _ _ _ _ (by rw [exec_check, widths])
          | ok done =>
              have fitting := widths
              rw [same, noted', require_widths_ok codes members listed configured] at fitting
              by_cases small : ∀ value, (asBytes versionLabel, value) ∈ members → (objectText members).length ≤ versionSizeMax
              · refine .inl ⟨members, same, ((listed_iff codes members).mp listed).1, fitting, ?_⟩
                intro value inside
                obtain ⟨text, version, _, spelled, shape, _⟩ := noted_versioned codes members listed value inside
                exact ⟨⟨text, version, spelled, shape⟩, small value inside⟩
              · -- Only the declared size can still stand in the way.
                rw [not_forall] at small
                obtain ⟨value, found⟩ := small
                rw [Classical.not_imp] at found
                obtain ⟨_, version, span, _, _, _, _, versioned⟩ := noted_versioned codes members listed value found.1
                refine .inr ⟨.version (.version (.fieldOverflow "size" versionSizeMax)), ?_⟩
                rw [SadCodes.saidify, exec_get_bind, exec_runs _ _ _ _ scan (by rw [exec_check, scanned]),
                  exec_runs _ _ _ _ () (by rw [exec_check, all]), exec_runs _ _ _ _ () (by rw [exec_check, widths])]
                apply exec_stops
                rw [patchSize, exec_get_bind, noted', versioned]
                simp only
                rw [same, if_neg found.2]
                rfl

theorem saidified_ready (fixed : FixedLength library) (distinct : (codes.slots.map Prod.fst).Nodup) (members : List Member)
    (ready : Ready codes members) :
    Ready codes (saidified library codes members) ∧ Verified library codes (saidified library codes members) ∧
      saidified library codes (saidified library codes members) = saidified library codes members ∧
      (objectText (saidified library codes members)).length = (objectText members).length ∧
      ∀ label, slotSpan (sadPieces codes (saidified library codes members)) label = slotSpan (sadPieces codes members) label := by
  obtain ⟨ready', long, places⟩ := sized_ready codes members ready
  generalize rendered : objectText (dummied codes (sized members)) = data
  have shape : saidified library codes members =
      (sized members).map (rewrite (slotChange codes fun code _ => saidBytes library code data)) := by
    rw [saidified, rendered]
  obtain ⟨final, long', places', saids, overwritten⟩ := backfilled_ready library codes fixed distinct data (sized members) ready'
  rw [← shape] at final long' places' saids overwritten
  -- The version string of what is written declares the size that it has.
  have versions : ∀ value, (asBytes versionLabel, value) ∈ saidified library codes members →
      ∃ (text : String) (version : VersionString), value = quoted (asBytes text) ∧ VersionText (asBytes text) version ∧
        version.size = (objectText (saidified library codes members)).length ∧
          (asBytes text).take 10 ++ hexSize (objectText (saidified library codes members)).length ++ (asBytes text).drop 16 =
            asBytes text := by
    intro value inside
    obtain ⟨⟨text, version, spelled, shape'⟩, small⟩ := final.version value inside
    rw [shape] at inside
    obtain ⟨middle, inside', same⟩ := List.mem_map.mp inside
    obtain ⟨member, listed, same'⟩ := List.mem_map.mp inside'
    have versioned : member.1 = asBytes versionLabel := by rw [← rewrite_key, same', ← rewrite_key, same]
    have whole : member = (asBytes versionLabel, member.2) := by rw [← versioned]
    rw [whole] at listed same'
    obtain ⟨⟨text', version', spelled', shape''⟩, small'⟩ := ready.version _ listed
    rw [spelled', rewrite_string, size_edit_version] at same'
    rw [← same', rewrite_string, slotEdit, slotChange, slot_code_version] at same
    have texts := congrArg unquoted ((Prod.mk.inj same).2.trans spelled)
    rw [unquoted_quoted, unquoted_quoted] at texts
    simp only [Option.map_none, Option.elim_none] at texts
    have patched := version_sized (asBytes text') version' (objectText members).length shape'' small'
    rw [texts] at patched
    refine ⟨text, version, spelled, shape', ?_, ?_⟩
    · rw [version_text_once _ version _ shape' patched, long', long]
    · have front : (asBytes text').length = 17 := shape''.2.1
      rw [long', long, ← texts]
      have ten : ((asBytes text').take 10).length = 10 := by
        rw [List.length_take]
        omega
      have front10 : ∀ rest, (((asBytes text').take 10 ++ hexSize (objectText members).length) ++ rest).take 10 =
          (asBytes text').take 10 := by
        intro rest
        rw [List.append_assoc, List.take_left' ten]
      have behind : ∀ rest, (((asBytes text').take 10 ++ hexSize (objectText members).length) ++ rest).drop 16 = rest := by
        intro rest
        rw [List.drop_left' (by rw [List.length_append, ten, hex_size_length])]
      rw [front10, behind]
  have again : sized (saidified library codes members) = saidified library codes members := by
    rw [sized]
    conv_rhs => rw [← List.map_id (saidified library codes members)]
    apply List.map_congr_left
    intro member inside
    by_cases versioned : member.1 = asBytes versionLabel
    · have whole : member = (asBytes versionLabel, member.2) := by rw [← versioned]
      rw [whole] at inside
      obtain ⟨text, _, spelled, _, _, kept⟩ := versions _ inside
      rw [whole, spelled, rewrite_string, size_edit_version, kept]
      rfl
    · rw [rewrite, sizeChange, if_neg versioned]
      rfl
  refine ⟨final, ⟨final.object, ?_, ?_⟩, ?_, ?_, ?_⟩
  · intro slot inside
    rw [overwritten, rendered]
    exact saids slot inside
  · intro value inside
    obtain ⟨text, version, spelled, shape', size, _⟩ := versions value inside
    exact ⟨text, version, spelled, shape', size⟩
  · rw [saidified, again, overwritten, rendered, shape]
    exact rewrite_twice codes _ (fun code => saidBytes library code data) (sized members)
  · exact long'.trans long
  · intro label
    rw [places', places]

end Saidify

-- The law of the generic saids: verify accepts the objects that carry their
-- saids; saidify takes every object that has room for them to one that does,
-- changing nothing but the slots and the declared size, and leaves any other
-- buffer as it is.
theorem generic_said_law (library : KeyLibrary) (fixed : FixedLength library) (codes : SadCodes)
    (distinct : (codes.slots.map Prod.fst).Nodup) (raw : Bytes) :
    ((∃ sad, codes.verify library raw = .ok sad) ↔ ∃ members, raw = objectText members ∧ Verified library codes members) ∧
      ((∃ sad final, exec (codes.saidify library) raw = (.ok sad, final)) ↔
        ∃ members, raw = objectText members ∧ Ready codes members) ∧
      (∀ sad final, exec (codes.saidify library) raw = (.ok sad, final) →
        (∃ members, raw = objectText members ∧ final = objectText (saidified library codes members) ∧ final.length = raw.length) ∧
          sad.raw = final ∧ codes.verify library final = .ok sad ∧ exec (codes.saidify library) final = (.ok sad, final)) ∧
      ∀ error final, exec (codes.saidify library) raw = (.error error, final) → final = raw := by
  have runs := saidify_runs library codes fixed distinct
  refine ⟨?_, ?_, ?_, ?_⟩
  · apply Iff.intro
    · intro found
      obtain ⟨sad, verified⟩ := found
      obtain ⟨members, same, carried, _⟩ := (verify_ok library codes fixed distinct raw sad).mp verified
      exact ⟨members, same, carried⟩
    · intro found
      obtain ⟨members, same, carried⟩ := found
      exact ⟨_, (verify_ok library codes fixed distinct raw _).mpr ⟨members, same, carried, rfl⟩⟩
  · apply Iff.intro
    · intro found
      obtain ⟨sad, final, done⟩ := found
      rcases saidify_refuses library codes distinct raw with ready | ⟨error, refused⟩
      · exact ready
      · rw [refused] at done
        cases done
    · intro found
      obtain ⟨members, same, ready⟩ := found
      rw [same]
      exact ⟨_, _, runs members ready⟩
  · intro sad final done
    rcases saidify_refuses library codes distinct raw with ⟨members, same, ready⟩ | ⟨error, refused⟩
    · rw [same, runs members ready] at done
      obtain ⟨ready', carried, again, long, places⟩ := saidified_ready library codes fixed distinct members ready
      obtain ⟨result, written⟩ := Prod.mk.inj done
      have parsed : parsedSad codes (saidified library codes members) (saidified library codes members) = sad := by
        rw [← Except.ok.inj result, parsedSad, parsedSad]
        congr 1
        apply List.map_congr_left
        intro slot _
        rw [places]
      refine ⟨⟨members, same, written.symm, ?_⟩, ?_, ?_, ?_⟩
      · rw [← written, same]
        exact long
      · rw [← parsed, ← written]
        rfl
      · rw [← written, ← parsed]
        exact (verify_ok library codes fixed distinct _ _).mpr ⟨_, rfl, carried, rfl⟩
      · have repeated := runs _ ready'
        rw [again, parsed] at repeated
        rw [← written]
        exact repeated
    · rw [refused] at done
      cases done
  · intro error final failed
    rcases saidify_refuses library codes distinct raw with ⟨members, same, ready⟩ | ⟨other, refused⟩
    · rw [same, runs members ready] at failed
      cases failed
    · rw [refused] at failed
      exact (Prod.mk.inj failed).2.symm

namespace Sample

-- The SHA-256 and the SHA-512 digest of the versioned object whose two slots are
-- overwritten.
def sha256 : Bytes :=
  [136, 174, 244, 107, 150, 122, 197, 5, 54, 32, 32, 37, 202, 71, 151, 246, 86, 85, 99, 22, 89, 86, 175, 187, 147, 9, 234, 206, 44,
    241, 149, 220]

def sha512 : Bytes :=
  [181, 54, 197, 166, 68, 238, 28, 22, 62, 61, 8, 202, 99, 87, 106, 36, 255, 74, 95, 82, 232, 234, 80, 141, 118, 106, 217, 19, 27,
    171, 104, 212, 170, 240, 180, 236, 122, 76, 242, 236, 97, 3, 203, 253, 24, 199, 102, 217, 181, 145, 30, 60, 211, 18, 134, 36,
    104, 242, 136, 106, 8, 31, 203, 46]

def keyLibrary : KeyLibrary where
  argon2id _ _ _ _ := none
  verifyingKey seed := seed
  signBytes seed _ := ⟨seed.val ++ List.replicate 32 0, by simp [seed.property]⟩
  hash code _ := ((if digestLength code = 32 then sha256 else sha512) ++ List.replicate 64 0).take (digestLength code)

theorem key_library_fixed : FixedLength keyLibrary := by
  intro code data
  cases code with
  | _ => rfl

def twoCodes : SadCodes := ⟨[("d", .sha2_256), ("i", .sha2_512)], by decide, by decide⟩

def strings (fields : List (String × String)) : List Member := fields.map fun field => (asBytes field.1, quoted (asBytes field.2))

def PlainText (text : String) : Prop := ∀ byte ∈ asBytes text, Plain byte

theorem strings_object (fields : List (String × String)) (plain : ∀ field ∈ fields, PlainText field.1 ∧ PlainText field.2)
    (distinct : (fields.map fun field => asBytes field.1).Nodup) : Object Utf8 (strings fields) := by
  apply Object.mk
  · intro member inside
    obtain ⟨field, listed, rfl⟩ := List.mem_map.mp inside
    exact plain_content field.1 (plain field listed).1
  · rw [strings, List.map_map]
    exact distinct
  · intro member inside
    obtain ⟨field, listed, rfl⟩ := List.mem_map.mp inside
    exact plain_value field.2 (plain field listed).2

def blankSha256 : String := "############################################"

def blankSha512 : String := "########################################################################################"

-- The version string declares no size yet.
def blank : List (String × String) := [("v", "KERI10JSON000000_"), ("d", blankSha256), ("i", blankSha512)]

def saidified : List (String × String) :=
  [("v", "KERI10JSON0000ab_"), ("d", "IIiu9GuWesUFNiAgJcpHl_ZWVWMWWVavu5MJ6s4s8ZXc"),
    ("i", "0GC1NsWmRO4cFj49CMpjV2ok_0pfUujqUI12atkTG6to1KrwtOx6TPLsYQPL_RjHZtm1kR480xKGJGjyiGoIH8su")]

theorem plain_fields (fields : List (String × String))
    (checked : (fields.all fun field => (asBytes field.1 ++ asBytes field.2).all fun byte => decide (Plain byte)) = true) :
    ∀ field ∈ fields, PlainText field.1 ∧ PlainText field.2 := by
  intro field listed
  have plain := plain_checked _ (List.all_eq_true.mp checked field listed)
  exact ⟨fun byte inside => plain byte (List.mem_append_left _ inside), fun byte inside => plain byte (List.mem_append_right _ inside)⟩

def written : {text : Bytes // (exec (twoCodes.saidify keyLibrary) (objectText (strings blank))).2 = text} :=
  ⟨objectText (strings saidified), by decide +kernel⟩

theorem blank_ready : Ready twoCodes (strings blank) := by
  have plain := plain_fields blank (by decide +kernel)
  have plain256 : PlainText blankSha256 := (plain ("d", blankSha256) (by simp [blank])).2
  have plain512 : PlainText blankSha512 := (plain ("i", blankSha512) (by simp [blank])).2
  refine ⟨strings_object blank plain (by decide +kernel), ?_, ?_⟩
  · intro slot inside
    simp only [twoCodes, List.mem_cons, List.not_mem_nil, or_false] at inside
    rcases inside with rfl | rfl
    · exact ⟨asBytes blankSha256, by simp [Holds, strings, blank], ⟨_, rfl, plain256⟩, by decide +kernel⟩
    · exact ⟨asBytes blankSha512, by simp [Holds, strings, blank], ⟨_, rfl, plain512⟩, by decide +kernel⟩
  · intro value inside
    have distinct : asBytes versionLabel ≠ asBytes "d" ∧ asBytes versionLabel ≠ asBytes "i" := by decide +kernel
    simp only [strings, blank, List.map_cons, List.map_nil, List.mem_cons, Prod.mk.injEq, distinct.1, distinct.2, false_and,
      List.not_mem_nil, or_false] at inside
    have parsed : VersionString.parse (asBytes "KERI10JSON000000_") = .ok ⟨.keri, 1, 0, .json, 0⟩ := by decide +kernel
    exact ⟨⟨"KERI10JSON000000_", ⟨.keri, 1, 0, .json, 0⟩, inside.2, parsed, by decide +kernel, rfl⟩, by decide +kernel⟩

def codes : SadCodes := ⟨[("d", .sha2_256)], by decide, by decide⟩

def holding (text : Bytes) : List Member := [(asBytes "d", quoted text)]

-- As wide as the slot, with a newline in it.
def escaped : Bytes := backslash :: 0x6E :: List.replicate 42 dummyByte

theorem holding_object (text content : Bytes) (utf8 : Utf8 content) (spelled : content = escape text) :
    Object Utf8 (holding content) := by
  apply Object.mk
  · intro member inside
    rw [List.mem_singleton.mp inside]
    exact plain_content "d" (by decide +kernel)
  · exact List.nodup_singleton _
  · intro member inside
    rw [List.mem_singleton.mp inside]
    exact .string content ⟨utf8, text, spelled⟩

end Sample

-- The size and the two slots are filled in, and verify accepts what is written.
theorem generic_said_law_blank :
    ∃ sad, exec (Sample.twoCodes.saidify Sample.keyLibrary) (objectText (Sample.strings Sample.blank)) =
        (.ok sad, objectText (Sample.strings Sample.saidified)) ∧
      Sample.twoCodes.verify Sample.keyLibrary (objectText (Sample.strings Sample.saidified)) = .ok sad := by
  obtain ⟨_, takes, writes, _⟩ := generic_said_law Sample.keyLibrary Sample.key_library_fixed Sample.twoCodes (by decide)
    (objectText (Sample.strings Sample.blank))
  obtain ⟨sad, final, done⟩ := takes.mpr ⟨_, rfl, Sample.blank_ready⟩
  have written : (exec (Sample.twoCodes.saidify Sample.keyLibrary) (objectText (Sample.strings Sample.blank))).2 =
      objectText (Sample.strings Sample.saidified) := Sample.written.property
  rw [done] at written
  have accepted := (writes sad final done).2.2.1
  rw [show final = _ from written] at done accepted
  exact ⟨sad, done, accepted⟩

-- A slot of the right width in an object of the writer is refused when its
-- string has an escape in it.
theorem escaped_slot_refused :
    FixedLength Sample.keyLibrary ∧ Object Utf8 (Sample.holding Sample.escaped) ∧
      Holds (Sample.holding Sample.escaped) "d" Sample.escaped ∧ Sample.escaped.length = saidWidth .sha2_256 ∧
        ∃ error, exec (Sample.codes.saidify Sample.keyLibrary) (objectText (Sample.holding Sample.escaped)) =
          (.error error, objectText (Sample.holding Sample.escaped)) := by
  have content : Sample.escaped = escape (0x0A :: List.replicate 42 dummyByte) := by decide
  have utf8 : Utf8 Sample.escaped := by
    refine ⟨asciiText Sample.escaped, as_bytes_ascii_text _ ?_⟩
    decide +kernel
  refine ⟨Sample.key_library_fixed, Sample.holding_object _ _ utf8 content, List.mem_singleton_self _, rfl, ?_⟩
  cases scanned : scanSad Sample.codes (objectText (Sample.holding Sample.escaped)) with
  | error error =>
      refine ⟨error, ?_⟩
      rw [SadCodes.saidify, exec_get_bind]
      exact exec_stops _ _ _ _ _ (by rw [exec_check, scanned])
  | ok scan =>
      have none : (scanSad Sample.codes (objectText (Sample.holding Sample.escaped))).toOption.isNone = true := by decide +kernel
      rw [scanned] at none
      cases none

end Cesr.Codec
