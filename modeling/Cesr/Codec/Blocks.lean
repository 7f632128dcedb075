import Cesr.Codec.SaidLaw

set_option autoImplicit false

namespace Cesr.Codec

open Checks WriterJson Scanner

section Grammar

variable (encoded : Bytes → Prop)

theorem spelled_members (part : Part) (text : Bytes) (spelled : Spells encoded part text) (seen : List Bytes)
    (members : part = .members seen) :
    ∃ list, list ≠ [] ∧ text = membersText list ∧ (∀ member ∈ list, Content encoded member.1) ∧ (list.map Prod.fst).Nodup ∧
      (∀ member ∈ list, member.1 ∉ seen) ∧ ∀ member ∈ list, Spells encoded .value member.2 := by
  induction spelled generalizing seen with
  | lastMember seen' key item allowed fresh value _ =>
      cases members
      refine ⟨[(key, item)], List.cons_ne_nil _ _, rfl, ?_, List.nodup_singleton _, ?_, ?_⟩
      all_goals
        intro member inside
        rw [List.mem_singleton.mp inside]
        assumption
  | moreMembers seen' key item rest allowed fresh value _ _ ih =>
      cases members
      obtain ⟨list, some', same, keys, distinct, unseen, values⟩ := ih (key :: seen') rfl
      obtain ⟨first, others, rfl⟩ := List.exists_cons_of_ne_nil some'
      refine ⟨(key, item) :: first :: others, List.cons_ne_nil _ _, ?_, List.forall_mem_cons.mpr ⟨allowed, keys⟩,
        List.nodup_cons.mpr ⟨?_, distinct⟩, List.forall_mem_cons.mpr ⟨fresh, ?_⟩, List.forall_mem_cons.mpr ⟨value, values⟩⟩
      · rw [same, membersText, memberText, List.append_assoc]
        rfl
      · intro inside
        obtain ⟨member, listed, same'⟩ := List.mem_map.mp inside
        exact unseen member listed (by rw [same']; exact List.mem_cons_self)
      · intro member inside earlier
        exact unseen member inside (List.mem_cons_of_mem _ earlier)
  | _ => cases members

theorem spelled_object (text : Bytes) (spelled : Spells encoded .value text) (brace : text.head? = some 0x7B) :
    ∃ members, text = objectText members ∧ Object encoded members := by
  generalize whole : Part.value = part at spelled
  cases spelled with
  | emptyObject => exact ⟨[], rfl, List.forall_mem_nil _, List.nodup_nil, List.forall_mem_nil _⟩
  | object body spelled =>
      obtain ⟨list, _, same, keys, distinct, _, values⟩ := spelled_members encoded _ body spelled [] rfl
      exact ⟨list, by rw [same]; rfl, keys, distinct, values⟩
  | word _ known =>
      simp only [words, List.mem_cons, List.not_mem_nil, or_false] at known
      rcases known with same | same | same
      all_goals
        rw [same] at brace
        cases brace
  | number _ numeral =>
      obtain ⟨byte, rest, same, which⟩ := CompactJson.numeral_head _ numeral
      rw [same] at brace
      rw [Option.some.inj brace] at which
      exact absurd which (by decide)
  | string content _ => exact absurd (Option.some.inj brace) (by decide)
  | emptyArray => exact absurd (Option.some.inj brace) (by decide)
  | array items _ => exact absurd (Option.some.inj brace) (by decide)
  | _ => cases whole

theorem members_spelled (seen : List Bytes) (member : Member) (others : List Member)
    (keys : ∀ given ∈ member :: others, Content encoded given.1) (distinct : ((member :: others).map Prod.fst).Nodup)
    (fresh : ∀ given ∈ member :: others, given.1 ∉ seen) (values : ∀ given ∈ member :: others, Spells encoded .value given.2) :
    Spells encoded (.members seen) (membersText (member :: others)) := by
  induction others generalizing seen member with
  | nil =>
      exact .lastMember seen member.1 member.2 (keys _ List.mem_cons_self) (fresh _ List.mem_cons_self) (values _ List.mem_cons_self)
  | cons next more ih =>
      obtain ⟨key, keys⟩ := List.forall_mem_cons.mp keys
      obtain ⟨new, fresh⟩ := List.forall_mem_cons.mp fresh
      obtain ⟨value, values⟩ := List.forall_mem_cons.mp values
      obtain ⟨apart, distinct⟩ := List.nodup_cons.mp distinct
      have unseen : ∀ given ∈ next :: more, given.1 ∉ member.1 :: seen := by
        intro given inside earlier
        rcases List.mem_cons.mp earlier with same | before
        · exact apart (by rw [← same]; exact List.mem_map_of_mem inside)
        · exact fresh given inside before
      have later := ih (member.1 :: seen) next keys distinct unseen values
      rw [membersText, memberText, List.append_assoc]
      exact .moreMembers seen member.1 member.2 _ key new value later

theorem object_spells (members : List Member) (object : Object encoded members) : Spells encoded .value (objectText members) := by
  cases members with
  | nil => exact .emptyObject
  | cons member others =>
      exact .object _ (members_spelled encoded [] member others object.keys object.distinct (fun _ _ => List.not_mem_nil) object.values)

end Grammar

section Once

theorem quoted_once (first second rest rest' : Bytes) (left : Content Utf8 first) (right : Content Utf8 second)
    (same : quoted first ++ rest = quoted second ++ rest') : first = second ∧ rest = rest' := by
  obtain ⟨⟨text, rfl⟩, allowed⟩ := left
  obtain ⟨⟨text', rfl⟩, allowed'⟩ := right
  have read := json_string_reads text (Scanner.new (quoted (asBytes text) ++ rest)) rest rfl ⟨⟨text, rfl⟩, allowed⟩
  have read' := json_string_reads text' (Scanner.new (quoted (asBytes text) ++ rest)) rest' same ⟨⟨text', rfl⟩, allowed'⟩
  rw [read] at read'
  have value := congrArg Spanned.value (Prod.mk.inj (Except.ok.inj read')).1
  have bytes : asBytes text = asBytes text' := congrArg asBytes value
  rw [bytes] at same
  exact ⟨bytes, List.append_cancel_left same⟩

theorem value_once (first second rest rest' : Bytes) (left : Spells Utf8 .value first) (right : Spells Utf8 .value second)
    (stops : Stops rest) (stops' : Stops rest') (same : first ++ rest = second ++ rest') : first = second ∧ rest = rest' := by
  have fits := fits_new (first ++ rest)
  obtain ⟨sc, read, arrives⟩ := canonical_value_reads (Scanner.new (first ++ rest)) first rest stops left rfl fits
  obtain ⟨sc', read', arrives'⟩ := canonical_value_reads (Scanner.new (first ++ rest)) second rest' stops' right same fits
  rw [read] at read'
  have here : sc = sc' := (Prod.mk.inj (Except.ok.inj read')).2
  have text : first = second := arrives_text _ _ _ _ _ arrives (here ▸ arrives'.took)
  rw [text] at same
  exact ⟨text, List.append_cancel_left same⟩

theorem members_tail (member : Member) (others : List Member) :
    ∃ rest, membersText (member :: others) ++ [0x7D] = quoted member.1 ++ 0x3A :: (member.2 ++ rest) ∧ Stops rest ∧
      ((others = [] ∧ rest = [0x7D]) ∨ ∃ next more, others = next :: more ∧ rest = 0x2C :: (membersText others ++ [0x7D])) := by
  cases others with
  | nil => exact ⟨[0x7D], by simp [membersText, memberText], stops_first _ _ (.inr rfl), .inl ⟨rfl, rfl⟩⟩
  | cons next more =>
      exact ⟨0x2C :: (membersText (next :: more) ++ [0x7D]), by simp [membersText, memberText], stops_first _ _ (.inl rfl),
        .inr ⟨next, more, rfl, rfl⟩⟩

theorem members_once (first second : List Member) (some' : first ≠ []) (some'' : second ≠ []) (left : Object Utf8 first)
    (right : Object Utf8 second) (same : membersText first ++ [0x7D] = membersText second ++ [0x7D]) : first = second := by
  induction first generalizing second with
  | nil => exact absurd rfl some'
  | cons member others ih =>
      obtain ⟨member', others', rfl⟩ := List.exists_cons_of_ne_nil some''
      obtain ⟨rest, whole, stops, ends⟩ := members_tail member others
      obtain ⟨rest', whole', stops', ends'⟩ := members_tail member' others'
      rw [whole, whole'] at same
      obtain ⟨key, behind⟩ := quoted_once _ _ _ _ (left.keys _ List.mem_cons_self) (right.keys _ List.mem_cons_self) same
      obtain ⟨value, later⟩ := value_once _ _ _ _ (left.values _ List.mem_cons_self) (right.values _ List.mem_cons_self) stops stops'
        (List.cons.inj behind).2
      have head : member = member' := Prod.ext key value
      have shorter : ∀ members : List Member, ∀ first, Object Utf8 (first :: members) → Object Utf8 members := by
        intro members first object
        exact ⟨(List.forall_mem_cons.mp object.keys).2, (List.nodup_cons.mp object.distinct).2, (List.forall_mem_cons.mp object.values).2⟩
      rcases ends with ⟨none', last⟩ | ⟨next, more, split, longer⟩
      · rcases ends' with ⟨none'', _⟩ | ⟨_, _, _, longer'⟩
        · rw [head, none', none'']
        · rw [later, longer'] at last
          exact absurd (List.cons.inj last).1 (by decide)
      · rcases ends' with ⟨_, last'⟩ | ⟨next', more', split', longer'⟩
        · rw [later, last'] at longer
          exact absurd (List.cons.inj longer).1 (by decide)
        · rw [later, longer'] at longer
          rw [head, ih others' (by rw [split]; exact List.cons_ne_nil _ _) (by rw [split']; exact List.cons_ne_nil _ _)
            (shorter _ _ left) (shorter _ _ right) (List.cons.inj longer).2.symm]

theorem object_once (first second : List Member) (left : Object Utf8 first) (right : Object Utf8 second)
    (same : objectText first = objectText second) : first = second := by
  have inner : membersText first ++ [0x7D] = membersText second ++ [0x7D] := (List.cons.inj same).2
  have closes : ∀ member others, ¬ membersText (member :: others) ++ [0x7D] = [0x7D] := by
    intro member others found
    obtain ⟨rest, whole, _⟩ := members_tail member others
    rw [whole] at found
    exact absurd (List.cons.inj found).1 (by decide)
  cases first with
  | nil =>
      cases second with
      | nil => rfl
      | cons member others => exact absurd inner.symm (closes member others)
  | cons member others =>
      cases second with
      | nil => exact absurd inner (closes member others)
      | cons member' others' => exact members_once _ _ (List.cons_ne_nil _ _) (List.cons_ne_nil _ _) left right inner

end Once

end Cesr.Codec
