import Cesr.Codec.Said

set_option autoImplicit false

namespace Cesr.Codec

open Checks Calls WriterJson Scanner Slots

def unquoted (value : Bytes) : Bytes := (value.drop 1).dropLast

theorem unquoted_quoted (content : Bytes) : unquoted (quoted content) = content := by
  rw [unquoted, quoted, List.drop_succ_cons, List.drop_zero, List.dropLast_concat]

def VersionText (text : Bytes) (version : VersionString) : Prop :=
  VersionString.parse text = .ok version ∧ text.length = versionStringLen ∧ version.kind = .json

section Pieces

variable (codes : SadCodes)

def Named (key : Bytes) : Prop := key = asBytes versionLabel ∨ ∃ slot ∈ codes.slots, asBytes slot.1 = key

instance namedDecidable (key : Bytes) : Decidable (Named codes key) := inferInstanceAs (Decidable (_ ∨ _))

structure Fitting (member : Member) : Prop where
  unescaped : Named codes member.1 → ∃ text : String, member.2 = quoted (asBytes text) ∧ ∀ byte ∈ asBytes text, Plain byte
  version : member.1 = asBytes versionLabel → ∃ version, VersionText (unquoted member.2) version

def memberPieces (member : Member) : List (Piece Bytes UInt8) :=
  if Named codes member.1 then
    [(none, quoted member.1 ++ [0x3A, quote]), (some member.1, unquoted member.2), (none, [quote])]
  else [(none, memberText member)]

def membersPieces : List Member → List (Piece Bytes UInt8)
  | [] => []
  | [member] => memberPieces codes member
  | member :: next :: rest => memberPieces codes member ++ (none, [0x2C]) :: membersPieces (next :: rest)

def sadPieces (members : List Member) : List (Piece Bytes UInt8) :=
  (none, [0x7B]) :: (membersPieces codes members ++ [(none, [0x7D])])

def Stringy (member : Member) : Prop := Named codes member.1 → ∃ content, member.2 = quoted content

theorem fitting_stringy (member : Member) (fitting : Fitting codes member) : Stringy codes member := by
  intro named
  obtain ⟨text, same, _⟩ := fitting.unescaped named
  exact ⟨asBytes text, same⟩

theorem render_member (member : Member) (stringy : Stringy codes member) :
    render (memberPieces codes member) = memberText member := by
  unfold memberPieces
  by_cases named : Named codes member.1
  · obtain ⟨text, same⟩ := stringy named
    rw [if_pos named, memberText, same, unquoted_quoted]
    simp [render, quoted]
  · rw [if_neg named]
    simp [render]

theorem render_members (members : List Member) (stringy : ∀ member ∈ members, Stringy codes member) :
    render (membersPieces codes members) = membersText members := by
  induction members with
  | nil => rfl
  | cons member rest ih =>
      have first := render_member codes member (stringy member List.mem_cons_self)
      cases rest with
      | nil => exact first
      | cons next rest =>
          rw [membersPieces, render_append, render_cons, first, membersText,
            ih fun other inside => stringy other (List.mem_cons_of_mem member inside)]
          rfl

theorem render_sad (members : List Member) (stringy : ∀ member ∈ members, Stringy codes member) :
    render (sadPieces codes members) = objectText members := by
  rw [sadPieces, render_cons, render_append, render_members codes members stringy]
  rfl

theorem names_member (member : Member) :
    names (memberPieces codes member) = if Named codes member.1 then [member.1] else [] := by
  unfold memberPieces
  by_cases named : Named codes member.1
  · rw [if_pos named, if_pos named]
    rfl
  · rw [if_neg named, if_neg named]
    rfl

theorem names_members (members : List Member) :
    names (membersPieces codes members) = (members.map Prod.fst).filter fun key => Named codes key := by
  induction members with
  | nil => rfl
  | cons member rest ih =>
      have first : names (memberPieces codes member) = [member.1].filter fun key => Named codes key := by
        rw [names_member]
        by_cases named : Named codes member.1
        · rw [if_pos named, List.filter_cons_of_pos (by simpa using named), List.filter_nil]
        · rw [if_neg named, List.filter_cons_of_neg (by simpa using named), List.filter_nil]
      cases rest with
      | nil => exact first
      | cons next rest =>
          have later : names ((none, [0x2C]) :: membersPieces codes (next :: rest)) = _ := ih
          rw [membersPieces, names_append, first, later, ← List.filter_append]
          rfl

theorem names_sad (members : List Member) :
    names (sadPieces codes members) = (members.map Prod.fst).filter fun key => Named codes key := by
  rw [sadPieces, ← names_members]
  show names (membersPieces codes members ++ [(none, [0x7D])]) = _
  rw [names_append]
  exact List.append_nil _

theorem names_once (members : List Member) (distinct : (members.map Prod.fst).Nodup) :
    (names (sadPieces codes members)).Nodup := by
  rw [names_sad]
  exact distinct.filter _

def noted (pieces : List (Piece Bytes UInt8)) : SadScan where
  spans := codes.slots.map fun slot => spanOf (asBytes slot.1) pieces
  version :=
    (spanOf (asBytes versionLabel) pieces).bind fun span =>
      (held (asBytes versionLabel) pieces).bind fun text =>
        (VersionString.parse text).toOption.map fun version => (span, version)

theorem noted_text (before : List (Piece Bytes UInt8)) (text : Bytes) : noted codes (before ++ [(none, text)]) = noted codes before := by
  have spans : ∀ name, spanOf name (before ++ [(none, text)]) = spanOf name before := by
    intro name
    rw [spanOf, span_append]
    exact Option.or_none
  have holds : ∀ name, held name (before ++ [(none, text)]) = held name before := by
    intro name
    rw [held_append]
    exact Option.or_none
  simp only [noted, spans, holds]

theorem noted_unnamed (before : List (Piece Bytes UInt8)) (member : Member) (unnamed : ¬Named codes member.1) :
    noted codes (before ++ memberPieces codes member) = noted codes before := by
  rw [memberPieces, if_neg unnamed, noted_text]

def valueStart (before : List (Piece Bytes UInt8)) (key : Bytes) : Nat := (render before).length + (quoted key).length + 2

theorem span_named (before : List (Piece Bytes UInt8)) (key text name : Bytes) (named : Named codes key) (fresh : key ∉ names before) :
    spanOf name (before ++ memberPieces codes (key, quoted text)) =
      if name = key then some (valueStart before key, valueStart before key + text.length) else spanOf name before := by
  rw [memberPieces, if_pos named, spanOf, span_append]
  have start : 0 + (render before).length + (quoted key ++ [0x3A, quote]).length = valueStart before key := by
    rw [valueStart, List.length_append, Nat.zero_add, Nat.add_assoc]
    rfl
  by_cases same : name = key
  · have absent : spanFrom name 0 before = none := by
      cases found : spanFrom name 0 before with
      | none => rfl
      | some span =>
          obtain ⟨_, inside, _, _, holds, _⟩ := span_splits name 0 span before found
          rw [← same] at fresh
          exact absurd (held_names name before _ holds) fresh
    rw [if_pos same, absent, Option.none_or, spanFrom, spanFrom, same, if_neg (by simp), if_pos rfl, start, unquoted_quoted]
  · have other : spanFrom name (0 + (render before).length)
        [(none, quoted key ++ [0x3A, quote]), (some key, unquoted (quoted text)), (none, [quote])] = none := by
      rw [spanFrom, spanFrom, spanFrom, if_neg (by simp), if_neg (by simpa using Ne.symm same), if_neg (by simp)]
      rfl
    rw [if_neg same, other, Option.or_none]
    rfl

theorem held_named (before : List (Piece Bytes UInt8)) (key text name : Bytes) (named : Named codes key) (fresh : key ∉ names before) :
    held name (before ++ memberPieces codes (key, quoted text)) = if name = key then some text else held name before := by
  rw [memberPieces, if_pos named, held_append]
  by_cases same : name = key
  · have absent : held name before = none := by
      cases found : held name before with
      | none => rfl
      | some other =>
          rw [← same] at fresh
          exact absurd (held_names name before _ found) fresh
    rw [if_pos same, absent, Option.none_or, held, held, same, if_neg (by simp), if_pos rfl, unquoted_quoted]
  · rw [if_neg same, held, held, held, if_neg (by simp), if_neg (by simpa using Ne.symm same), if_neg (by simp)]
    exact Option.or_none

theorem slot_named (slot : String × DigestCode) (inside : slot ∈ codes.slots) : Named codes (asBytes slot.1) := .inr ⟨slot, inside, rfl⟩

theorem slot_not_version (slot : String × DigestCode) (inside : slot ∈ codes.slots) : asBytes slot.1 ≠ asBytes versionLabel :=
  fun same => codes.unreserved slot inside (as_bytes_injective same)

theorem noted_version (before : List (Piece Bytes UInt8)) (text : Bytes) (version : VersionString)
    (fresh : asBytes versionLabel ∉ names before) (parsed : VersionString.parse text = .ok version) :
    noted codes (before ++ memberPieces codes (asBytes versionLabel, quoted text)) =
      { noted codes before with
        version := some ((valueStart before (asBytes versionLabel), valueStart before (asBytes versionLabel) + text.length), version) } := by
  have named : Named codes (asBytes versionLabel) := .inl rfl
  unfold noted
  simp only [span_named codes before _ text _ named fresh, held_named codes before _ text _ named fresh, if_pos, parsed,
    Except.toOption, Option.bind_some, Option.map_some]
  congr 1
  apply List.map_congr_left
  intro slot inside
  rw [if_neg (slot_not_version codes slot inside)]

theorem noted_slot (before : List (Piece Bytes UInt8)) (label : String) (index : Nat) (text : Bytes)
    (distinct : (codes.slots.map Prod.fst).Nodup) (found : codes.indexOf label = some index) (fresh : asBytes label ∉ names before) :
    noted codes (before ++ memberPieces codes (asBytes label, quoted text)) =
      { noted codes before with
        spans := (noted codes before).spans.set index
          (some (valueStart before (asBytes label), valueStart before (asBytes label) + text.length)) } := by
  obtain ⟨inside, here, _⟩ := List.findIdx?_eq_some_iff_getElem.mp found
  have same : (codes.slots[index]).1 = label := of_decide_eq_true here
  have slot := slot_named codes _ (List.getElem_mem inside)
  rw [same] at slot
  have other : asBytes versionLabel ≠ asBytes label := by
    rw [← same]
    exact fun equal => slot_not_version codes _ (List.getElem_mem inside) equal.symm
  unfold noted
  simp only [span_named codes before _ text _ slot fresh, held_named codes before _ text _ slot fresh, if_neg other]
  congr 1
  apply List.ext_getElem
  · rw [List.length_set, List.length_map, List.length_map]
  · intro place low high
    rw [List.getElem_map, List.getElem_set]
    by_cases equal : index = place
    · subst equal
      rw [if_pos rfl, same, if_pos rfl]
    · rw [if_neg equal, List.getElem_map]
      rw [List.length_map] at low
      have differ : (codes.slots[place]).1 ≠ label := by
        intro twice
        apply equal
        have here : index < (codes.slots.map Prod.fst).length := by rw [List.length_map]; exact inside
        have there : place < (codes.slots.map Prod.fst).length := by rw [List.length_map]; exact low
        have twins : (codes.slots.map Prod.fst)[index] = (codes.slots.map Prod.fst)[place] := by
          rw [List.getElem_map, List.getElem_map, same, twice]
        exact (List.Nodup.getElem_inj_iff distinct).mp twins
      rw [if_neg (fun equal => differ (as_bytes_injective equal))]

end Pieces

section Sound

variable (codes : SadCodes)

theorem index_none (label : String) (absent : codes.indexOf label = none) (other : label ≠ versionLabel) : ¬Named codes (asBytes label) := by
  intro named
  rcases named with same | found
  · exact other (as_bytes_injective same)
  · obtain ⟨slot, inside, same⟩ := found
    have differ := List.findIdx?_eq_none_iff.mp absent slot inside
    simp [as_bytes_injective same] at differ

theorem version_member_took (sc sc' : Scanner) (found : Span × VersionString) (read : versionMember sc = .ok (found, sc')) :
    ∃ text : String, Took sc (quoted (asBytes text)) sc' ∧ (∀ byte ∈ asBytes text, Plain byte) ∧
      found.1 = (sc.pos + 1, sc.pos + 1 + (asBytes text).length) ∧ VersionText (asBytes text) found.2 := by
  simp only [versionMember, scan_bind_ok, check_ok, map_error_ok, reject_if_ok, not_not] at read
  obtain ⟨value, at', first, version, _, ⟨parsed, same⟩, _, _, ⟨whole, same'⟩, _, _, ⟨kind, same''⟩, last⟩ := read
  obtain ⟨same1, same2⟩ := (scan_pure_ok _ _ _ _).mp last
  obtain ⟨took, plain, start, stop⟩ := string_took _ _ _ first
  rw [← same2, ← same'', ← same', ← same, ← same1]
  refine ⟨value.value, took, plain, ?_, parsed, whole, kind⟩
  rw [stop, start]

theorem slot_member_took (sc sc' : Scanner) (span : Span) (read : slotMember sc = .ok (span, sc')) :
    ∃ text : String, Took sc (quoted (asBytes text)) sc' ∧ (∀ byte ∈ asBytes text, Plain byte) ∧
      span = (sc.pos + 1, sc.pos + 1 + (asBytes text).length) := by
  rw [slotMember, scan_bind_ok] at read
  obtain ⟨value, at', first, last⟩ := read
  obtain ⟨same1, same2⟩ := (scan_pure_ok _ _ _ _).mp last
  obtain ⟨took, plain, start, stop⟩ := string_took _ _ _ first
  rw [← same2, ← same1]
  refine ⟨value.value, took, plain, ?_⟩
  rw [stop, start]

theorem plain_value (text : String) (plain : ∀ byte ∈ asBytes text, Plain byte) : Spells Utf8 .value (quoted (asBytes text)) :=
  .string _ (plain_content text plain)

theorem sad_value_took (label : String) (before : List (Piece Bytes UInt8)) (scan' : SadScan) (sc sc' : Scanner)
    (distinct : (codes.slots.map Prod.fst).Nodup) (start : sc.pos + 1 = valueStart before (asBytes label))
    (fresh : asBytes label ∉ names before) (read : sadValue codes label (noted codes before) sc = .ok (scan', sc')) :
    ∃ value, Took sc value sc' ∧ Spells Utf8 .value value ∧ Fitting codes (asBytes label, value) ∧
      scan' = noted codes (before ++ memberPieces codes (asBytes label, value)) := by
  unfold sadValue at read
  by_cases version : label = versionLabel
  · rw [if_pos version, scan_bind_ok] at read
    obtain ⟨found, at', first, last⟩ := read
    obtain ⟨same1, same2⟩ := (scan_pure_ok _ _ _ _).mp last
    obtain ⟨text, took, plain, span, shape⟩ := version_member_took _ _ _ first
    rw [version] at fresh start ⊢
    refine ⟨_, by rw [← same2]; exact took, plain_value text plain, ⟨fun _ => ⟨text, rfl, plain⟩, fun _ => ⟨found.2, ?_⟩⟩, ?_⟩
    · rw [unquoted_quoted]
      exact shape
    · rw [noted_version codes before _ found.2 fresh shape.1, ← same1, ← start, ← span]
  · rw [if_neg version] at read
    have other : asBytes label ≠ asBytes versionLabel := fun same => version (as_bytes_injective same)
    cases found : codes.indexOf label with
    | some index =>
        simp only [found] at read
        obtain ⟨span, at', first, last⟩ := (scan_bind_ok _ _ _ _ _).mp read
        obtain ⟨same1, same2⟩ := (scan_pure_ok _ _ _ _).mp last
        obtain ⟨text, took, plain, shape⟩ := slot_member_took _ _ _ first
        refine ⟨_, by rw [← same2]; exact took, plain_value text plain, ⟨fun _ => ⟨text, rfl, plain⟩, fun same => absurd same other⟩, ?_⟩
        rw [noted_slot codes before label index _ distinct found fresh, ← same1, ← start, ← shape]
    | none =>
        simp only [found] at read
        obtain ⟨_, at', first, last⟩ := (scan_bind_ok _ _ _ _ _).mp read
        obtain ⟨same1, same2⟩ := (scan_pure_ok _ _ _ _).mp last
        obtain ⟨text, took, spelled⟩ := canonical_value_took _ _ _ first
        have unnamed := index_none codes label found version
        refine ⟨text, by rw [← same2]; exact took, spelled, ⟨fun named => absurd named unnamed, fun same => absurd same other⟩, ?_⟩
        rw [noted_unnamed codes before _ unnamed, same1]

theorem sad_member_took (seen : List String) (before : List (Piece Bytes UInt8)) (next : List String × SadScan) (sc sc' : Scanner)
    (distinct : (codes.slots.map Prod.fst).Nodup) (start : sc.pos = (render before).length)
    (known : ∀ name ∈ names before, name ∈ seen.map asBytes)
    (read : sadMember codes seen (noted codes before) sc = .ok (next, sc')) :
    ∃ key value, Took sc (memberText (asBytes key, value)) sc' ∧ key ∉ seen ∧ Content Utf8 (asBytes key) ∧
      Spells Utf8 .value value ∧ Fitting codes (asBytes key, value) ∧
      next = (key :: seen, noted codes (before ++ memberPieces codes (asBytes key, value))) := by
  rw [sadMember, scan_bind_ok] at read
  obtain ⟨key, at1, first, read⟩ := read
  rw [scan_get_run] at read
  by_cases twice : key.value ∈ seen
  · rw [if_pos twice] at read
    simp at read
  · rw [if_neg twice] at read
    obtain ⟨_, at2, second, read⟩ := (scan_bind_ok _ _ _ _ _).mp read
    obtain ⟨scan', at3, third, last⟩ := (scan_bind_ok _ _ _ _ _).mp read
    obtain ⟨same1, same2⟩ := (scan_pure_ok _ _ _ _).mp last
    obtain ⟨took1, allowed, _⟩ := json_string_took _ _ _ first
    have took2 := expect_took _ _ _ _ second
    have fresh : asBytes key.value ∉ names before := by
      intro inside
      obtain ⟨other, listed, same⟩ := List.mem_map.mp (known _ inside)
      rw [as_bytes_injective same] at listed
      exact twice listed
    have start' : at2.pos + 1 = valueStart before (asBytes key.value) := by
      rw [took2.pos, took1.pos, start]
      rfl
    obtain ⟨value, took3, spelled, fitting, same3⟩ := sad_value_took codes key.value before scan' at2 at3 distinct start' fresh third
    refine ⟨key.value, value, ?_, twice, allowed, spelled, fitting, by rw [← same1, same3]⟩
    rw [← same2]
    have took := took_append _ _ _ _ _ (took_append _ _ _ _ _ took1 took2) took3
    rw [List.append_assoc] at took
    exact took

structure Listed (seen : List String) (members : List Member) : Prop where
  keys : ∀ member ∈ members, Content Utf8 member.1
  distinct : (members.map Prod.fst).Nodup
  fresh : ∀ member ∈ members, member.1 ∉ seen.map asBytes
  values : ∀ member ∈ members, Spells Utf8 .value member.2
  fitting : ∀ member ∈ members, Fitting codes member

theorem listed_cons (seen : List String) (key : String) (value : Bytes) (rest : List Member) :
    Listed codes seen ((asBytes key, value) :: rest) ↔
      Content Utf8 (asBytes key) ∧ key ∉ seen ∧ Spells Utf8 .value value ∧ Fitting codes (asBytes key, value) ∧
        Listed codes (key :: seen) rest := by
  have fresh : asBytes key ∉ seen.map asBytes ↔ key ∉ seen := by
    rw [List.mem_map_of_injective as_bytes_injective]
  apply Iff.intro
  · intro listed
    have keys := List.forall_mem_cons.mp listed.keys
    have distinct := List.nodup_cons.mp listed.distinct
    have others := List.forall_mem_cons.mp listed.fresh
    have values := List.forall_mem_cons.mp listed.values
    have fitting := List.forall_mem_cons.mp listed.fitting
    refine ⟨keys.1, fresh.mp others.1, values.1, fitting.1, keys.2, distinct.2, fun member inside seen' => ?_, values.2, fitting.2⟩
    rw [List.map_cons, List.mem_cons] at seen'
    rcases seen' with same | earlier
    · exact distinct.1 (List.mem_map.mpr ⟨member, inside, same⟩)
    · exact others.2 member inside earlier
  · intro parts
    obtain ⟨content, unseen, spelled, fits, rest'⟩ := parts
    have apart : ∀ member ∈ rest, member.1 ≠ asBytes key ∧ member.1 ∉ seen.map asBytes := by
      intro member inside
      have absent := rest'.fresh member inside
      rw [List.map_cons, List.mem_cons, not_or] at absent
      exact absent
    refine ⟨List.forall_mem_cons.mpr ⟨content, rest'.keys⟩, List.nodup_cons.mpr ⟨?_, rest'.distinct⟩,
      List.forall_mem_cons.mpr ⟨fresh.mpr unseen, fun member inside => (apart member inside).2⟩,
      List.forall_mem_cons.mpr ⟨spelled, rest'.values⟩, List.forall_mem_cons.mpr ⟨fits, rest'.fitting⟩⟩
    intro inside
    obtain ⟨member, listed, same⟩ := List.mem_map.mp inside
    exact (apart member listed).1 same

theorem names_known (seen : List String) (before : List (Piece Bytes UInt8)) (key : String) (value : Bytes)
    (known : ∀ name ∈ names before, name ∈ seen.map asBytes) :
    ∀ name ∈ names (before ++ memberPieces codes (asBytes key, value)), name ∈ (key :: seen).map asBytes := by
  intro name inside
  rw [names_append, names_member, List.mem_append] at inside
  rcases inside with earlier | here
  · exact List.mem_cons_of_mem _ (known name earlier)
  · by_cases named : Named codes (asBytes key)
    · rw [if_pos named, List.mem_singleton] at here
      rw [here]
      exact List.mem_cons_self
    · rw [if_neg named] at here
      cases here

theorem sad_members_took (fuel : Nat) (seen : List String) (before : List (Piece Bytes UInt8)) (scan' : SadScan) (sc sc' : Scanner)
    (distinct : (codes.slots.map Prod.fst).Nodup) (start : sc.pos = (render before).length)
    (known : ∀ name ∈ names before, name ∈ seen.map asBytes)
    (read : sadMembers codes fuel seen (noted codes before) sc = .ok (scan', sc')) :
    ∃ members, members ≠ [] ∧ Took sc (membersText members) sc' ∧ Listed codes seen members ∧
      scan' = noted codes (before ++ membersPieces codes members) := by
  induction fuel generalizing seen before sc with
  | zero =>
      rw [sadMembers, scan_get_run] at read
      simp at read
  | succ fuel ih =>
      rw [sadMembers, scan_bind_ok] at read
      obtain ⟨next, at1, first, read⟩ := read
      obtain ⟨more, at2, second, last⟩ := (scan_bind_ok _ _ _ _ _).mp read
      obtain ⟨key, value, took, fresh, allowed, spelled, fitting, same⟩ :=
        sad_member_took codes seen before next sc at1 distinct start known first
      have known' := names_known codes seen before key value known
      rcases take_lit_cases _ _ _ _ second with found | found
      · rw [found.1, if_pos rfl, same] at last
        have size : at2.pos = (render (before ++ memberPieces codes (asBytes key, value) ++ [(none, [0x2C])])).length := by
          rw [found.2.pos, took.pos, start, render_append, render_append, render_member codes _ (fitting_stringy codes _ fitting), List.length_append,
            List.length_append]
          rfl
        rw [← noted_text codes (before ++ memberPieces codes (asBytes key, value)) [0x2C]] at last
        obtain ⟨members, some', took', listed, same'⟩ := ih _ _ at2 size (by
          rw [names_append]
          intro name inside
          rcases List.mem_append.mp inside with earlier | here
          · exact known' name earlier
          · cases here) last
        obtain ⟨head, rest, split⟩ := List.exists_cons_of_ne_nil some'
        refine ⟨(asBytes key, value) :: members, List.cons_ne_nil _ _, ?_,
          (listed_cons codes seen key value members).mpr ⟨allowed, fresh, spelled, fitting, listed⟩, ?_⟩
        · have all := took_append _ _ _ _ _ (took_append _ _ _ _ _ took found.2) took'
          rw [split] at all ⊢
          rw [membersText]
          rw [List.append_assoc] at all
          exact all
        · rw [same', split, membersPieces]
          simp only [List.append_assoc, List.cons_append, List.nil_append]
      · rw [found.1] at last
        obtain ⟨same1, same2⟩ := (scan_pure_ok _ _ _ _).mp last
        refine ⟨[(asBytes key, value)], List.cons_ne_nil _ _, ?_,
          (listed_cons codes seen key value []).mpr ⟨allowed, fresh, spelled, fitting, ?_⟩, ?_⟩
        · have all := took_append _ _ _ _ _ took found.2
          rw [same2, List.append_nil] at all
          exact all
        · exact ⟨fun _ inside => absurd inside List.not_mem_nil, List.nodup_nil, fun _ inside => absurd inside List.not_mem_nil,
            fun _ inside => absurd inside List.not_mem_nil, fun _ inside => absurd inside List.not_mem_nil⟩
        · rw [← same1, same]
          rfl

theorem noted_start : noted codes [(none, [0x7B])] = ⟨List.replicate codes.slots.length none, none⟩ := by
  have none' : ∀ name : Bytes, spanOf name [((none, [0x7B]) : Piece Bytes UInt8)] = none := fun _ => rfl
  simp only [noted, none', List.map_const', Option.bind_none]

theorem listed_nil (seen : List String) : Listed codes seen [] :=
  ⟨fun _ inside => absurd inside List.not_mem_nil, List.nodup_nil, fun _ inside => absurd inside List.not_mem_nil,
    fun _ inside => absurd inside List.not_mem_nil, fun _ inside => absurd inside List.not_mem_nil⟩

theorem noted_sad (members : List Member) :
    noted codes (sadPieces codes members) = noted codes ([(none, [0x7B])] ++ membersPieces codes members) := by
  rw [← noted_text codes ([(none, [0x7B])] ++ membersPieces codes members) [0x7D]]
  rfl

theorem scan_sad_took (raw : Bytes) (scan : SadScan) (distinct : (codes.slots.map Prod.fst).Nodup)
    (scanned : scanSad codes raw = .ok scan) :
    ∃ members, raw = objectText members ∧ Listed codes [] members ∧ scan = noted codes (sadPieces codes members) := by
  unfold scanSad at scanned
  cases done : sadObject codes (Scanner.new raw) with
  | error error =>
      rw [done] at scanned
      cases scanned
  | ok both =>
      cases both with
      | mk found sc' =>
          rw [done] at scanned
          have same : found = scan := Except.ok.inj scanned
          rw [same, sadObject, scan_bind_ok] at done
          obtain ⟨_, at1, first, read⟩ := done
          obtain ⟨scan1, at2, second, read⟩ := (scan_bind_ok _ _ _ _ _).mp read
          obtain ⟨_, at3, third, last⟩ := (scan_bind_ok _ _ _ _ _).mp read
          obtain ⟨same1, _⟩ := (scan_pure_ok _ _ _ _).mp last
          have took := expect_took _ _ _ _ first
          have ends := finish_left _ _ _ third
          have whole : (Scanner.new raw).left = raw := rfl
          rw [sadBody, scan_bind_ok] at second
          obtain ⟨empty, at4, closing, second⟩ := second
          rcases take_lit_cases _ _ _ _ closing with found | found
          · rw [found.1, if_pos rfl] at second
            obtain ⟨same2, same3⟩ := (scan_pure_ok _ _ _ _).mp second
            have all := took_append _ _ _ _ _ took found.2
            rw [same3] at all
            refine ⟨[], ?_, listed_nil codes [], ?_⟩
            · have split := all.left
              rw [ends, List.append_nil, whole] at split
              exact split
            · rw [← same1, ← same2, noted_sad]
              exact (noted_start codes).symm
          · rw [found.1] at second
            simp only [Bool.false_eq_true, if_false] at second
            rw [scan_get_run] at second
            obtain ⟨scan2, at5, middle, second⟩ := (scan_bind_ok _ _ _ _ _).mp second
            obtain ⟨_, at6, closer, second⟩ := (scan_bind_ok _ _ _ _ _).mp second
            obtain ⟨same2, same3⟩ := (scan_pure_ok _ _ _ _).mp second
            rw [← noted_start] at middle
            have start : at4.pos = (render [((none, [0x7B]) : Piece Bytes UInt8)]).length := by
              rw [found.2.pos, took.pos]
              rfl
            obtain ⟨members, _, took', listed, same4⟩ :=
              sad_members_took codes _ [] _ scan2 at4 at5 distinct start (fun _ inside => by cases inside) middle
            have all := took_append _ _ _ _ _ (took_append _ _ _ _ _ (took_append _ _ _ _ _ took found.2) took')
              (expect_took _ _ _ _ closer)
            rw [same3] at all
            refine ⟨members, ?_, listed, ?_⟩
            · have split := all.left
              rw [ends, List.append_nil, whole, List.append_nil, List.append_assoc] at split
              exact split
            · rw [← same1, ← same2, same4, noted_sad]

end Sound

section Complete

variable (codes : SadCodes)

theorem string_arrives (text : String) (sc : Scanner) (rest : Bytes) (fits : Fits sc) (found : sc.left = quoted (asBytes text) ++ rest)
    (plain : ∀ byte ∈ asBytes text, Plain byte) :
    ∃ sc', string sc = .ok (⟨text, sc.pos + 1, sc.pos + 1 + (asBytes text).length⟩, sc') ∧
      Arrives sc (quoted (asBytes text)) sc.budget.depth sc' :=
  ⟨_, string_reads text sc rest found plain, arrives_moved sc _ rest fits found⟩

theorem arrives_text (sc sc' : Scanner) (text other : Bytes) (depth : Nat) (arrives : Arrives sc text depth sc')
    (took : Took sc other sc') : text = other := by
  rw [← slice_took sc sc' text arrives.took, slice_took sc sc' other took]

theorem sad_value_reads (label : String) (value rest : Bytes) (scan : SadScan) (sc : Scanner) (fits : Fits sc)
    (found : sc.left = value ++ rest) (stops : Stops rest) (spelled : Spells Utf8 .value value)
    (fitting : Fitting codes (asBytes label, value)) :
    ∃ scan' sc', sadValue codes label scan sc = .ok (scan', sc') ∧ Arrives sc value sc.budget.depth sc' := by
  unfold sadValue
  by_cases version : label = versionLabel
  · rw [if_pos version]
    obtain ⟨text, same, plain⟩ := fitting.unescaped (.inl (by rw [version]))
    obtain ⟨known, parsed, whole, kind⟩ := fitting.version (by rw [version])
    simp only at same
    rw [same] at found parsed whole ⊢
    rw [unquoted_quoted] at parsed whole
    obtain ⟨sc', read, arrives⟩ := string_arrives text sc rest fits found plain
    have noted : versionMember sc = .ok (((sc.pos + 1, sc.pos + 1 + (asBytes text).length), known), sc') := by
      simp only [versionMember, scan_bind_ok, check_ok, map_error_ok, reject_if_ok, not_not]
      exact ⟨_, sc', read, known, sc', ⟨parsed, rfl⟩, (), sc', ⟨whole, rfl⟩, (), sc', ⟨kind, rfl⟩, rfl⟩
    refine ⟨{ scan with version := some ((sc.pos + 1, sc.pos + 1 + (asBytes text).length), known) }, sc', ?_, arrives⟩
    rw [scan_bind_run _ _ _ _ _ noted]
    rfl
  · rw [if_neg version]
    cases index : codes.indexOf label with
    | some index' =>
        obtain ⟨inside, here, _⟩ := List.findIdx?_eq_some_iff_getElem.mp index
        have same : (codes.slots[index']).1 = label := of_decide_eq_true here
        obtain ⟨text, same', plain⟩ := fitting.unescaped (.inr ⟨_, List.getElem_mem inside, by rw [same]⟩)
        simp only at same'
        rw [same'] at found ⊢
        obtain ⟨sc', read, arrives⟩ := string_arrives text sc rest fits found plain
        have noted : slotMember sc = .ok ((sc.pos + 1, sc.pos + 1 + (asBytes text).length), sc') := by
          rw [slotMember, scan_bind_run _ _ _ _ _ read]
          rfl
        refine ⟨{ scan with spans := scan.spans.set index' (some (sc.pos + 1, sc.pos + 1 + (asBytes text).length)) }, sc', ?_, arrives⟩
        simp only
        rw [scan_bind_run _ _ _ _ _ noted]
        rfl
    | none =>
        obtain ⟨sc', read, arrives⟩ := canonical_value_reads sc value rest stops spelled found fits
        refine ⟨scan, sc', ?_, arrives⟩
        simp only
        rw [scan_bind_run _ _ _ _ _ read]
        rfl

theorem sad_member_reads (seen : List String) (before : List (Piece Bytes UInt8)) (key : String) (value rest : Bytes) (sc : Scanner)
    (distinct : (codes.slots.map Prod.fst).Nodup) (start : sc.pos = (render before).length)
    (known : ∀ name ∈ names before, name ∈ seen.map asBytes) (fits : Fits sc)
    (found : sc.left = memberText (asBytes key, value) ++ rest) (stops : Stops rest) (fresh : key ∉ seen)
    (allowed : Content Utf8 (asBytes key)) (spelled : Spells Utf8 .value value) (fitting : Fitting codes (asBytes key, value)) :
    ∃ sc', sadMember codes seen (noted codes before) sc =
        .ok ((key :: seen, noted codes (before ++ memberPieces codes (asBytes key, value))), sc') ∧
      Arrives sc (memberText (asBytes key, value)) sc.budget.depth sc' := by
  have colon : asBytes ":" = [0x3A] := rfl
  have found1 : sc.left = quoted (asBytes key) ++ (asBytes ":" ++ (value ++ rest)) := by
    rw [found, memberText, List.append_assoc, colon]
    rfl
  have keyed := json_string_reads key sc _ found1 allowed
  have arrives1 := arrives_moved sc _ _ fits found1
  have found2 := (took_moved sc _ _ found1).2
  obtain ⟨sc2, _, taken, arrives2⟩ := expect_arrives ":" _ _ sc.budget.depth arrives1.fits found2 (by rw [colon]; rfl)
  have found3 := took_left _ _ _ _ arrives2.took found2
  obtain ⟨scan', sc3, read, arrives3⟩ := sad_value_reads codes key value rest (noted codes before) sc2 arrives2.fits found3 stops spelled
    fitting
  have fresh' : asBytes key ∉ names before := by
    intro inside
    obtain ⟨other, listed, same⟩ := List.mem_map.mp (known _ inside)
    rw [as_bytes_injective same] at listed
    exact fresh listed
  have start' : sc2.pos + 1 = valueStart before (asBytes key) := by
    rw [arrives2.took.pos, arrives1.took.pos, start, colon]
    rfl
  obtain ⟨other, took, _, _, same⟩ := sad_value_took codes key before scan' sc2 sc3 distinct start' fresh' read
  rw [← arrives_text _ _ _ _ _ arrives3 took] at same
  refine ⟨sc3, ?_, ?_⟩
  · rw [sadMember, scan_bind_run _ _ _ _ _ keyed, scan_get_run, if_neg fresh, scan_bind_run _ _ _ _ _ taken,
      scan_bind_run _ _ _ _ _ read, same]
    rfl
  · have all := arrives_append _ _ _ _ _ _ _ (arrives_append _ _ _ _ _ _ _ arrives1 arrives2) arrives3
    rw [List.append_assoc, arrives2.depth] at all
    exact all

theorem stops_first (byte : UInt8) (rest : Bytes) (mark : byte = 0x2C ∨ byte = 0x7D) : Stops (byte :: rest) := by
  intro other head
  have same : byte = other := Option.some.inj head
  rw [← same]
  rcases mark with known | known
  · rw [known]
    decide
  · rw [known]
    decide

theorem members_count (members : List Member) : members.length ≤ (membersText members).length := by
  induction members with
  | nil => exact Nat.le_refl 0
  | cons member rest ih =>
      have long : 1 ≤ (memberText member).length := by
        rw [memberText, List.length_append, quoted, List.length_cons]
        omega
      cases rest with
      | nil => exact long
      | cons next rest =>
          rw [membersText, List.length_append, List.length_cons, List.length_cons (a := 0x2C)]
          omega

theorem sad_members_reads (fuel : Nat) (seen : List String) (before : List (Piece Bytes UInt8)) (members : List Member) (rest : Bytes)
    (sc : Scanner) (distinct : (codes.slots.map Prod.fst).Nodup) (start : sc.pos = (render before).length)
    (known : ∀ name ∈ names before, name ∈ seen.map asBytes) (fits : Fits sc) (some' : members ≠ [])
    (found : sc.left = membersText members ++ 0x7D :: rest) (listed : Listed codes seen members) (enough : members.length ≤ fuel) :
    ∃ sc', sadMembers codes fuel seen (noted codes before) sc = .ok (noted codes (before ++ membersPieces codes members), sc') ∧
      Arrives sc (membersText members) sc.budget.depth sc' := by
  induction fuel generalizing seen before sc members with
  | zero => exact absurd (List.length_eq_zero_iff.mp (Nat.le_zero.mp enough)) some'
  | succ fuel ih =>
      obtain ⟨member, others, split⟩ := List.exists_cons_of_ne_nil some'
      obtain ⟨key, same⟩ := (listed.keys member (by rw [split]; exact List.mem_cons_self)).1
      have whole : member = (asBytes key, member.2) := by rw [same]
      rw [whole] at split
      rw [split] at listed found enough ⊢
      obtain ⟨allowed, fresh, spelled, fitting, later⟩ := (listed_cons codes seen key member.2 others).mp listed
      have comma : asBytes "," = [0x2C] := rfl
      cases others with
      | nil =>
          obtain ⟨sc1, read, arrives⟩ := sad_member_reads codes seen before key member.2 (0x7D :: rest) sc distinct start known fits found
            (stops_first _ _ (.inr rfl)) fresh allowed spelled fitting
          have behind := took_left _ _ _ _ arrives.took found
          have absent : ¬asBytes "," <+: sc1.left := by
            rw [comma, singleton_prefix, behind]
            simp
          refine ⟨sc1, ?_, arrives⟩
          rw [sadMembers, scan_bind_run _ _ _ _ _ read, scan_bind_run _ _ _ _ _ (take_lit_absent "," sc1 absent)]
          rfl
      | cons next others =>
          have found' : sc.left = memberText (asBytes key, member.2) ++ (asBytes "," ++ (membersText (next :: others) ++ 0x7D :: rest)) := by
            rw [found, membersText, List.append_assoc]
            rfl
          obtain ⟨sc1, read, arrives⟩ := sad_member_reads codes seen before key member.2 _ sc distinct start known fits found'
            (stops_first 0x2C _ (.inl rfl)) fresh allowed spelled fitting
          have behind := took_left _ _ _ _ arrives.took found'
          obtain ⟨sc2, taken, _, arrives2⟩ := expect_arrives "," sc1 _ sc1.budget.depth arrives.fits behind (by rw [comma]; rfl)
          have behind2 := took_left _ _ _ _ arrives2.took behind
          have start' : sc2.pos = (render (before ++ memberPieces codes (asBytes key, member.2) ++ [(none, [0x2C])])).length := by
            rw [arrives2.took.pos, arrives.took.pos, start, render_append, render_append, render_member codes _ (fitting_stringy codes _ fitting),
              List.length_append, List.length_append]
            rfl
          have known' := names_known codes seen before key member.2 known
          obtain ⟨sc3, read', arrives3⟩ := ih (key :: seen) _ (next :: others) sc2 start' (by
            rw [names_append]
            intro name inside
            rcases List.mem_append.mp inside with earlier | here
            · exact known' name earlier
            · cases here) arrives2.fits (List.cons_ne_nil _ _) behind2 later (Nat.le_of_succ_le_succ enough)
          refine ⟨sc3, ?_, ?_⟩
          · rw [sadMembers, scan_bind_run _ _ _ _ _ read, scan_bind_run _ _ _ _ _ taken]
            simp only [if_true]
            rw [← noted_text codes (before ++ memberPieces codes (asBytes key, member.2)) [0x2C], read', membersPieces]
            simp only [List.append_assoc, List.cons_append, List.nil_append]
          · have all := arrives_append _ _ _ _ _ _ _ (arrives_append _ _ _ _ _ _ _ arrives arrives2) arrives3
            rw [arrives2.depth, arrives.depth, List.append_assoc] at all
            exact all

theorem scan_sad_reads (members : List Member) (distinct : (codes.slots.map Prod.fst).Nodup) (listed : Listed codes [] members) :
    scanSad codes (objectText members) = .ok (noted codes (sadPieces codes members)) := by
  have open' : asBytes "\x7b" = [0x7B] := rfl
  have close : asBytes "\x7d" = [0x7D] := rfl
  have found : (Scanner.new (objectText members)).left = asBytes "\x7b" ++ (membersText members ++ [0x7D]) := rfl
  obtain ⟨sc1, _, taken, arrives⟩ := expect_arrives "\x7b" _ _ 1 (fits_new (objectText members)) found (by rw [open']; rfl)
  have behind := took_left _ _ _ _ arrives.took found
  have body : ∃ sc2, sadBody codes sc1 = .ok (noted codes (sadPieces codes members), sc2) ∧ Took sc1 (membersText members ++ [0x7D]) sc2 := by
    by_cases empty : members = []
    · rw [empty] at behind ⊢
      obtain ⟨sc2, taken', _, arrives'⟩ := expect_arrives "\x7d" sc1 [] 0 arrives.fits behind (by rw [close, arrives.depth]; rfl)
      refine ⟨sc2, ?_, arrives'.took⟩
      rw [sadBody, scan_bind_run _ _ _ _ _ taken', noted_sad]
      simp only [if_true]
      rw [membersPieces, List.append_nil, noted_start]
      rfl
    · obtain ⟨member, others, split⟩ := List.exists_cons_of_ne_nil empty
      have absent : ¬asBytes "\x7d" <+: sc1.left := by
        rw [close, singleton_prefix, behind, split]
        cases others with
        | nil => simp [membersText, memberText, quoted, quote]
        | cons next others => simp [membersText, memberText, quoted, quote]
      have enough : members.length ≤ sc1.left.length + 1 := by
        have counted := members_count members
        rw [behind, List.length_append]
        omega
      have start : sc1.pos = (render [((none, [0x7B]) : Piece Bytes UInt8)]).length := by
        rw [arrives.took.pos]
        rfl
      obtain ⟨sc2, read, arrives2⟩ := sad_members_reads codes _ [] _ members [] sc1 distinct start (fun _ inside => by cases inside)
        arrives.fits empty behind listed enough
      have behind2 := took_left _ _ _ _ arrives2.took behind
      obtain ⟨sc3, _, taken', arrives3⟩ := expect_arrives "\x7d" sc2 [] 0 arrives2.fits behind2 (by
        rw [close, arrives2.depth, arrives.depth]; rfl)
      refine ⟨sc3, ?_, took_append _ _ _ _ _ arrives2.took arrives3.took⟩
      rw [sadBody, scan_bind_run _ _ _ _ _ (take_lit_absent "\x7d" sc1 absent)]
      simp only [Bool.false_eq_true, if_false]
      rw [scan_get_run, ← noted_start, scan_bind_run _ _ _ _ _ read, scan_bind_run _ _ _ _ _ taken', noted_sad]
      rfl
  obtain ⟨sc2, read, took⟩ := body
  have all := took_append _ _ _ _ _ arrives.took took
  have whole : sc2.pos = sc2.input.length := by
    rw [all.pos, all.input]
    exact Nat.zero_add _
  have finished : finish sc2 = .ok ((), sc2) := (finish_ok sc2 sc2 ()).mpr ⟨rfl, whole⟩
  rw [scanSad, sadObject, scan_bind_run _ _ _ _ _ taken, scan_bind_run _ _ _ _ _ read, scan_bind_run _ _ _ _ _ finished]
  rfl

end Complete

end Cesr.Codec
