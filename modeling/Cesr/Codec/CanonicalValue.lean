import Cesr.Codec.Budget
import Cesr.Lib.CompactJson

set_option autoImplicit false

namespace Cesr.Codec

open Checks WriterJson Scanner

def Closing : Container → Bytes → Prop
  | (true, seen), text =>
      text = [0x7D] ∨ ∃ members, Spells Utf8 (.members (seen.map asBytes)) members ∧ text = 0x2C :: (members ++ [0x7D])
  | (false, _), text => text = [0x5D] ∨ ∃ items, Spells Utf8 .items items ∧ text = 0x2C :: (items ++ [0x5D])

def Closes : List Container → Bytes → Prop
  | [], text => text = []
  | container :: outer, text => ∃ closing rest, Closing container closing ∧ Closes outer rest ∧ text = closing ++ rest

def Opened : ValueScanState → Container → Bytes → Prop
  | .firstMember, (_, seen), text =>
      text = [0x7D] ∨ ∃ members, Spells Utf8 (.members (seen.map asBytes)) members ∧ text = members ++ [0x7D]
  | .nextMember, (_, seen), text => ∃ members, Spells Utf8 (.members (seen.map asBytes)) members ∧ text = members ++ [0x7D]
  | .firstItem, _, text => text = [0x5D] ∨ ∃ items, Spells Utf8 .items items ∧ text = items ++ [0x5D]
  | _, _, _ => False

-- What the walk has to find in each state.
def Demand : ValueScanState → List Container → Bytes → Prop
  | .afterValue, containers, text => Closes containers text
  | .value, containers, text => ∃ item rest, Spells Utf8 .value item ∧ Closes containers rest ∧ text = item ++ rest
  | state, container :: outer, text => ∃ body rest, Opened state container body ∧ Closes outer rest ∧ text = body ++ rest
  | _, [], _ => False

def Proper : ValueScanState → List Container → Prop
  | .firstMember, containers => ∃ seen outer, containers = (true, seen) :: outer
  | .nextMember, containers => ∃ seen outer, containers = (true, seen) :: outer
  | .firstItem, containers => ∃ seen outer, containers = (false, seen) :: outer
  | _, _ => True

def Kept : Walked → Prop
  | none => True
  | some (state, containers) => Proper state containers

def Later : Walked → Bytes → Prop
  | none, text => text = []
  | some (state, containers), text => Demand state containers text

theorem pop_later (container : Container) (outer : List Container) (text : Bytes) :
    Later (popContainer (container :: outer)) text ↔ Closes outer text := by
  cases outer with
  | nil => exact Iff.rfl
  | cons next rest => exact Iff.rfl

theorem pop_kept (container : Container) (outer : List Container) : Kept (popContainer (container :: outer)) := by
  cases outer with
  | nil => trivial
  | cons next rest => trivial

theorem value_demand (containers : List Container) (item later : Bytes) (spelled : Spells Utf8 .value item)
    (closes : Closes containers later) : Demand .value containers (item ++ later) :=
  ⟨item, later, spelled, closes, rfl⟩

theorem words_spelled (lit : String) (known : lit ∈ ["true", "false", "null"]) : asBytes lit ∈ words := by
  simp only [List.mem_cons, List.not_mem_nil, or_false] at known
  rcases known with same | same | same
  · rw [same]
    exact List.mem_cons_self
  · rw [same]
    exact List.mem_cons_of_mem _ List.mem_cons_self
  · rw [same]
    exact List.mem_cons_of_mem _ (List.mem_cons_of_mem _ List.mem_cons_self)

theorem items_demand (items : Bytes) (outer : List Container) (seen : List String) (others : Bytes)
    (spelled : Spells Utf8 .items items) (closes : Closes outer others) :
    Demand .value ((false, seen) :: outer) (items ++ [0x5D] ++ others) := by
  cases spelled with
  | lastItem _ spelled =>
      refine ⟨items, [0x5D] ++ others, spelled, ⟨[0x5D], others, .inl rfl, closes, rfl⟩, ?_⟩
      rw [List.append_assoc]
  | moreItems item more spelled others' =>
      refine ⟨item, 0x2C :: (more ++ [0x5D]) ++ others, spelled, ⟨_, others, .inr ⟨more, others', rfl⟩, closes, rfl⟩, ?_⟩
      simp only [List.append_assoc, List.cons_append, List.nil_append]

section Sound

variable (sc sc' : Scanner) (containers : List Container) (next : Walked)

theorem start_demand (read : canonicalValueStart containers sc = .ok (next, sc')) :
    ∃ text, Took sc text sc' ∧ Kept next ∧ ∀ later, Later next later → Demand .value containers (text ++ later) := by
  rw [canonicalValueStart, scan_get_run] at read
  by_cases string : sc.peek = some quote
  · rw [if_pos string, scan_bind_ok] at read
    obtain ⟨value, at', first, last⟩ := read
    obtain ⟨same, same'⟩ := (scan_pure_ok _ _ _ _).mp last
    obtain ⟨took, allowed, _⟩ := json_string_took _ _ _ first
    rw [← same, ← same']
    exact ⟨_, took, trivial, fun later closes => value_demand containers _ later (.string _ allowed) closes⟩
  · rw [if_neg string] at read
    by_cases number : sc.peek = some 0x2D ∨ sc.atDigit = true
    · rw [if_pos number, scan_bind_ok] at read
      obtain ⟨value, at', first, last⟩ := read
      obtain ⟨same, same'⟩ := (scan_pure_ok _ _ _ _).mp last
      obtain ⟨took, numeral⟩ := json_number_took _ _ _ first
      rw [← same, ← same']
      exact ⟨_, took, trivial, fun later closes => value_demand containers _ later (.number _ numeral) closes⟩
    · rw [if_neg number] at read
      by_cases object : sc.peek = some 0x7B
      · rw [if_pos object, scan_bind_ok] at read
        obtain ⟨_, at', first, last⟩ := read
        obtain ⟨same, same'⟩ := (scan_pure_ok _ _ _ _).mp last
        rw [← same, ← same']
        refine ⟨_, expect_took _ _ _ _ first, ⟨[], containers, rfl⟩, fun later follows => ?_⟩
        obtain ⟨body, rest, opened, closes, split⟩ := follows
        rw [split, ← List.append_assoc]
        refine ⟨_, rest, ?_, closes, rfl⟩
        rcases opened with empty | filled
        · rw [empty]
          exact .emptyObject
        · obtain ⟨members, spelled, whole⟩ := filled
          rw [whole]
          exact .object members spelled
      · rw [if_neg object] at read
        by_cases array : sc.peek = some 0x5B
        · rw [if_pos array, scan_bind_ok] at read
          obtain ⟨_, at', first, last⟩ := read
          obtain ⟨same, same'⟩ := (scan_pure_ok _ _ _ _).mp last
          rw [← same, ← same']
          refine ⟨_, expect_took _ _ _ _ first, ⟨[], containers, rfl⟩, fun later follows => ?_⟩
          obtain ⟨body, rest, opened, closes, split⟩ := follows
          rw [split, ← List.append_assoc]
          refine ⟨_, rest, ?_, closes, rfl⟩
          rcases opened with empty | filled
          · rw [empty]
            exact .emptyArray
          · obtain ⟨items, spelled, whole⟩ := filled
            rw [whole]
            exact .array items spelled
        · rw [if_neg array, scan_bind_ok] at read
          obtain ⟨word, at', first, last⟩ := read
          rcases take_any_took _ _ _ _ first with found | found
          · obtain ⟨taken, lit, known, took⟩ := found
            rw [if_pos taken] at last
            obtain ⟨same, same'⟩ := (scan_pure_ok _ _ _ _).mp last
            rw [← same, ← same']
            exact ⟨_, took, trivial, fun later closes => value_demand containers _ later (.word _ (words_spelled lit known)) closes⟩
          · rw [found.1] at last
            simp at last

theorem pop_demand (container : Container) (outer : List Container) (lit : String) (closing : Bytes)
    (spelled : asBytes lit = closing) (read : (expect lit >>= fun _ => pure (popContainer (container :: outer))) sc =
      .ok (next, sc')) :
    Took sc closing sc' ∧ Kept next ∧ ∀ later, Later next later → Closes outer later := by
  obtain ⟨_, at', first, last⟩ := (scan_bind_ok _ _ _ _ _).mp read
  obtain ⟨same, same'⟩ := (scan_pure_ok _ _ _ _).mp last
  rw [← same, ← same', ← spelled]
  exact ⟨expect_took _ _ _ _ first, pop_kept container outer, fun later follows => (pop_later container outer later).mp follows⟩

theorem member_demand (seen : List String) (outer : List Container)
    (read : member ((true, seen) :: outer) sc = .ok (next, sc')) :
    ∃ text, Took sc text sc' ∧ Kept next ∧ ∀ later, Later next later → Demand .nextMember ((true, seen) :: outer) (text ++ later) := by
  rw [member, scan_bind_ok] at read
  obtain ⟨named, at1, first, read⟩ := read
  obtain ⟨_, at2, second, last⟩ := (scan_bind_ok _ _ _ _ _).mp read
  obtain ⟨same, same'⟩ := (scan_pure_ok _ _ _ _).mp last
  rw [← same, ← same']
  rw [jsonKey, scan_get_run] at first
  cases charged : sc.budget.field with
  | error limit => simp [charged] at first
  | ok budget =>
      simp only [charged] at first
      obtain ⟨_, at3, placed, first⟩ := (scan_bind_ok _ _ _ _ _).mp first
      obtain ⟨key, at4, keyed, first⟩ := (scan_bind_ok _ _ _ _ _).mp first
      rw [set_ok] at placed
      split at first
      · simp at first
      · rename_i fresh
        obtain ⟨same1, same2⟩ := (scan_pure_ok _ _ _ _).mp first
        obtain ⟨took, allowed, _⟩ := json_string_took _ _ _ keyed
        rw [← placed] at took
        have took' : Took sc (quoted (asBytes key.value)) at4 := ⟨took.input, took.left, took.pos⟩
        rw [same2] at took'
        refine ⟨_, took_append _ _ _ _ _ took' (expect_took _ _ _ _ second), trivial, fun later follows => ?_⟩
        rw [← same1] at follows
        obtain ⟨item, rest, spelled, closes, split⟩ := follows
        obtain ⟨closing, rest', closed, others, split'⟩ := closes
        have unseen : asBytes key.value ∉ seen.map asBytes := by
          intro inside
          obtain ⟨other, known, same⟩ := List.mem_map.mp inside
          rw [as_bytes_injective same] at known
          exact fresh known
        have colon : asBytes ":" = [0x3A] := rfl
        rcases closed with ended | longer
        · refine ⟨quoted (asBytes key.value) ++ 0x3A :: item ++ [0x7D], rest', ⟨_, .lastMember _ _ _ allowed unseen spelled, rfl⟩,
            others, ?_⟩
          rw [split, split', ended, colon]
          simp only [List.append_assoc, List.cons_append, List.nil_append]
        · obtain ⟨members, spelled', ended⟩ := longer
          refine ⟨quoted (asBytes key.value) ++ 0x3A :: (item ++ 0x2C :: members) ++ [0x7D], rest',
            ⟨_, .moreMembers _ _ _ _ allowed unseen spelled spelled', rfl⟩, others, ?_⟩
          rw [split, split', ended, colon]
          simp only [List.append_assoc, List.cons_append, List.nil_append]

theorem after_value_demand (read : afterValueTurn containers sc = .ok (next, sc')) :
    ∃ text, Took sc text sc' ∧ Kept next ∧ ∀ later, Later next later → Demand .afterValue containers (text ++ later) := by
  rw [afterValueTurn, scan_get_run] at read
  cases containers with
  | nil =>
      obtain ⟨same, same'⟩ := (scan_pure_ok _ _ _ _).mp read
      rw [← same, ← same']
      exact ⟨[], took_nil sc, trivial, fun later follows => follows⟩
  | cons container outer =>
      cases container with
      | mk isObject seen =>
          simp only at read
          by_cases comma : sc.peek = some 0x2C
          · rw [if_pos comma, scan_bind_ok] at read
            obtain ⟨_, at', first, last⟩ := read
            obtain ⟨same, same'⟩ := (scan_pure_ok _ _ _ _).mp last
            rw [← same, ← same']
            have mark : asBytes "," = [0x2C] := rfl
            cases isObject with
            | true =>
                refine ⟨_, expect_took _ _ _ _ first, ⟨seen, outer, rfl⟩, fun later follows => ?_⟩
                obtain ⟨body, rest, ⟨members, spelled, whole⟩, closes, split⟩ := follows
                refine ⟨0x2C :: (members ++ [0x7D]), rest, .inr ⟨members, spelled, rfl⟩, closes, ?_⟩
                rw [split, whole, mark]
                rfl
            | false =>
                refine ⟨_, expect_took _ _ _ _ first, trivial, fun later follows => ?_⟩
                obtain ⟨item, rest, spelled, ⟨closing, rest', closed, closes, split'⟩, split⟩ := follows
                rcases closed with ended | longer
                · refine ⟨0x2C :: (item ++ [0x5D]), rest', .inr ⟨item, .lastItem item spelled, rfl⟩, closes, ?_⟩
                  rw [split, split', ended, mark]
                  simp only [List.append_assoc, List.cons_append, List.nil_append]
                · obtain ⟨items, spelled', ended⟩ := longer
                  refine ⟨0x2C :: (item ++ 0x2C :: items ++ [0x5D]), rest',
                    .inr ⟨_, .moreItems item items spelled spelled', rfl⟩, closes, ?_⟩
                  rw [split, split', ended, mark]
                  simp only [List.append_assoc, List.cons_append, List.nil_append]
          · rw [if_neg comma] at read
            by_cases brace : sc.peek = some 0x7D ∧ isObject = true
            · rw [if_pos brace] at read
              obtain ⟨took, kept, follows⟩ := pop_demand sc sc' next _ outer "\x7d" [0x7D] rfl read
              rw [brace.2]
              exact ⟨_, took, kept, fun later closes => ⟨_, later, .inl rfl, follows later closes, rfl⟩⟩
            · rw [if_neg brace] at read
              by_cases bracket : sc.peek = some 0x5D ∧ ¬isObject = true
              · rw [if_pos bracket] at read
                obtain ⟨took, kept, follows⟩ := pop_demand sc sc' next _ outer "]" [0x5D] rfl read
                have array : isObject = false := Bool.eq_false_iff.mpr bracket.2
                rw [array]
                exact ⟨_, took, kept, fun later closes => ⟨_, later, .inl rfl, follows later closes, rfl⟩⟩
              · rw [if_neg bracket] at read
                simp at read

theorem turn_demand (state : ValueScanState) (proper : Proper state containers)
    (read : canonicalTurn state containers sc = .ok (next, sc')) :
    ∃ text, Took sc text sc' ∧ Kept next ∧ ∀ later, Later next later → Demand state containers (text ++ later) := by
  rw [canonicalTurn, scan_get_run] at read
  cases state with
  | value => exact start_demand sc sc' containers next read
  | afterValue => exact after_value_demand sc sc' containers next read
  | firstMember =>
      obtain ⟨seen, outer, same⟩ := proper
      subst same
      simp only at read
      by_cases brace : sc.peek = some 0x7D
      · rw [if_pos brace] at read
        obtain ⟨took, kept, follows⟩ := pop_demand sc sc' next _ outer "\x7d" [0x7D] rfl read
        exact ⟨_, took, kept, fun later closes => ⟨_, later, .inl rfl, follows later closes, rfl⟩⟩
      · rw [if_neg brace] at read
        by_cases string : sc.peek = some quote
        · rw [if_pos string] at read
          obtain ⟨text, took, kept, follows⟩ := member_demand sc sc' next seen outer read
          refine ⟨text, took, kept, fun later closes => ?_⟩
          obtain ⟨body, rest, opened, others, split⟩ := follows later closes
          exact ⟨body, rest, .inr opened, others, split⟩
        · rw [if_neg string] at read
          simp at read
  | nextMember =>
      obtain ⟨seen, outer, same⟩ := proper
      subst same
      simp only at read
      by_cases string : sc.peek = some quote
      · rw [if_pos string] at read
        exact member_demand sc sc' next seen outer read
      · rw [if_neg string] at read
        simp at read
  | firstItem =>
      obtain ⟨seen, outer, same⟩ := proper
      subst same
      simp only at read
      by_cases bracket : sc.peek = some 0x5D
      · rw [if_pos bracket] at read
        obtain ⟨took, kept, follows⟩ := pop_demand sc sc' next _ outer "]" [0x5D] rfl read
        exact ⟨_, took, kept, fun later closes => ⟨_, later, .inl rfl, follows later closes, rfl⟩⟩
      · rw [if_neg bracket] at read
        obtain ⟨same, same'⟩ := (scan_pure_ok _ _ _ _).mp read
        rw [← same, ← same']
        refine ⟨[], took_nil sc, trivial, fun later follows => ?_⟩
        obtain ⟨item, rest, spelled, ⟨closing, rest', closed, closes, split'⟩, split⟩ := follows
        rcases closed with ended | longer
        · refine ⟨item ++ [0x5D], rest', .inr ⟨item, .lastItem item spelled, rfl⟩, closes, ?_⟩
          rw [split, split', ended]
          simp only [List.append_assoc, List.cons_append, List.nil_append]
        · obtain ⟨items, spelled', ended⟩ := longer
          refine ⟨item ++ 0x2C :: items ++ [0x5D], rest', .inr ⟨_, .moreItems item items spelled spelled', rfl⟩, closes, ?_⟩
          rw [split, split', ended]
          simp only [List.append_assoc, List.cons_append, List.nil_append]

theorem turns_demand (fuel : Nat) (sc sc' : Scanner) (state : ValueScanState) (containers : List Container) (done : Unit)
    (proper : Proper state containers) (read : canonicalTurns fuel state containers sc = .ok (done, sc')) :
    ∃ text, Took sc text sc' ∧ Demand state containers text := by
  induction fuel generalizing sc state containers with
  | zero => cases read
  | succ fuel ih =>
      rw [canonicalTurns, scan_bind_ok] at read
      obtain ⟨next, at', first, later⟩ := read
      obtain ⟨text, took, kept, demands⟩ := turn_demand sc at' containers next state proper first
      cases next with
      | none =>
          obtain ⟨_, same⟩ := (scan_pure_ok _ _ _ _).mp later
          rw [← same]
          refine ⟨text, took, ?_⟩
          rw [← List.append_nil text]
          exact demands [] rfl
      | some both =>
          obtain ⟨more, took', demand⟩ := ih at' both.1 both.2 kept later
          exact ⟨text ++ more, took_append _ _ _ _ _ took took', demands more demand⟩

theorem canonical_value_took (sc sc' : Scanner) (done : Unit) (read : canonicalValue sc = .ok (done, sc')) :
    ∃ text, Took sc text sc' ∧ Spells Utf8 .value text := by
  rw [canonicalValue, scan_get_run] at read
  obtain ⟨text, took, demand⟩ := turns_demand _ sc sc' .value [] done trivial read
  obtain ⟨item, rest, spelled, closes, split⟩ := demand
  rw [show rest = [] from closes, List.append_nil] at split
  rw [split] at took
  exact ⟨item, took, spelled⟩

end Sound

section Complete

def need : ValueScanState → Bytes → Nat
  | .firstItem, text => 2 * text.length + 2
  | _, text => 2 * text.length + 1

def needed : Walked → Bytes → Nat
  | none, _ => 0
  | some (state, _), text => need state text

theorem need_le (state : ValueScanState) (text : Bytes) : need state text ≤ 2 * text.length + 2 := by
  cases state with
  | firstItem => exact Nat.le_refl _
  | _ => exact Nat.le_succ _

theorem le_need (state : ValueScanState) (text : Bytes) : 2 * text.length + 1 ≤ need state text := by
  cases state with
  | firstItem => exact Nat.le_succ _
  | _ => exact Nat.le_refl _

theorem needed_lt (next : Walked) (state : ValueScanState) (part later : Bytes) (some' : part ≠ []) :
    needed next later < need state (part ++ later) := by
  have long : 0 < part.length := List.length_pos_iff.mpr some'
  have most : needed next later ≤ 2 * later.length + 2 := by
    cases next with
    | none => exact Nat.zero_le _
    | some both => exact need_le both.1 later
  have least := le_need state (part ++ later)
  rw [List.length_append] at least
  omega

def walkDepth (base : Nat) : Walked → Nat
  | none => base
  | some (_, containers) => base + containers.length

def Advances (base : Nat) (state : ValueScanState) (sc : Scanner) (text : Bytes) (read : Except CodecError (Walked × Scanner)) :
    Prop :=
  ∃ next sc' part later, read = .ok (next, sc') ∧ text = part ++ later ∧ Arrives sc part (walkDepth base next) sc' ∧
    Kept next ∧ Later next later ∧ needed next later < need state text

theorem peek_first (sc : Scanner) (byte : UInt8) (rest : Bytes) (found : sc.left = byte :: rest) : sc.peek = some byte := by
  rw [peek_left, found]
  rfl

theorem at_digit_first (sc : Scanner) (byte : UInt8) (rest : Bytes) (found : sc.left = byte :: rest) :
    sc.atDigit = isDigit byte := by
  rw [at_digit_left, found]
  rfl

theorem closes_stops (containers : List Container) (behind rest : Bytes) (closes : Closes containers behind)
    (stops : containers = [] → Stops rest) : Stops (behind ++ rest) := by
  cases containers with
  | nil =>
      rw [show behind = [] from closes]
      exact stops rfl
  | cons container outer =>
      obtain ⟨closing, others, closed, _, split⟩ := closes
      have first : ∃ byte more, closing = byte :: more ∧ (byte = 0x7D ∨ byte = 0x5D ∨ byte = 0x2C) := by
        cases container with
        | mk isObject seen =>
            cases isObject with
            | true =>
                rcases closed with ended | longer
                · exact ⟨0x7D, [], ended, .inl rfl⟩
                · obtain ⟨members, _, ended⟩ := longer
                  exact ⟨0x2C, _, ended, .inr (.inr rfl)⟩
            | false =>
                rcases closed with ended | longer
                · exact ⟨0x5D, [], ended, .inr (.inl rfl)⟩
                · obtain ⟨items, _, ended⟩ := longer
                  exact ⟨0x2C, _, ended, .inr (.inr rfl)⟩
      obtain ⟨byte, more, start, which⟩ := first
      intro other head
      rw [split, start] at head
      have same : byte = other := Option.some.inj head
      rw [← same]
      rcases which with known | known | known
      · rw [known]
        decide
      · rw [known]
        decide
      · rw [known]
        decide

theorem whole_ascii (text : Bytes) (all : ∀ byte ∈ text, isDigit byte = true) : ∀ byte ∈ text, byte.toNat < 128 := by
  have digit : ∀ byte : UInt8, isDigit byte = true → byte.toNat < 128 := every_byte _ (by decide +kernel)
  exact fun byte inside => digit byte (all byte inside)

theorem numeral_ascii (text : Bytes) (numeral : Numeral text) : ∀ byte ∈ text, byte.toNat < 128 := by
  obtain ⟨sign, whole, fraction, exponent, known, digits, part, power, spelled⟩ := numeral
  have wholes : ∀ byte ∈ whole, byte.toNat < 128 := by
    apply whole_ascii
    rcases digits with zero | longer
    · rw [zero]
      exact List.forall_mem_singleton.mpr rfl
    · obtain ⟨first, rest, spelled, digit, _, others⟩ := longer
      rw [spelled]
      exact List.forall_mem_cons.mpr ⟨digit, others⟩
  have fractions : ∀ byte ∈ fraction, byte.toNat < 128 := by
    rcases part with empty | longer
    · rw [empty]
      simp
    · obtain ⟨digits, all, spelled⟩ := longer
      rw [spelled]
      exact List.forall_mem_cons.mpr ⟨by simp, whole_ascii digits all.2⟩
  have exponents : ∀ byte ∈ exponent, byte.toNat < 128 := by
    rcases power with empty | longer
    · rw [empty]
      simp
    · obtain ⟨mark, sign', digits, which, known, all, spelled⟩ := longer
      rw [spelled]
      have marked : mark.toNat < 128 := by
        rcases which with same | same
        · rw [same]
          simp
        · rw [same]
          simp
      have signed : ∀ byte ∈ sign', byte.toNat < 128 := by
        rcases known with same | same | same
        · rw [same]
          simp
        · rw [same]
          simp
        · rw [same]
          simp
      exact List.forall_mem_cons.mpr ⟨marked, List.forall_mem_append.mpr ⟨signed, whole_ascii digits all.2⟩⟩
  have signs : ∀ byte ∈ sign, byte.toNat < 128 := by
    rcases known with same | same
    · rw [same]
      simp
    · rw [same]
      simp
  rw [spelled]
  exact List.forall_mem_append.mpr ⟨List.forall_mem_append.mpr ⟨List.forall_mem_append.mpr ⟨signs, wholes⟩, fractions⟩, exponents⟩

theorem value_head (item : Bytes) (spelled : Spells Utf8 .value item) : ∃ first rest, item = first :: rest ∧ first ≠ 0x5D := by
  cases spelled with
  | word _ known =>
      simp only [words, List.mem_cons, List.not_mem_nil, or_false] at known
      rcases known with same | same | same
      · exact ⟨_, _, same, by decide⟩
      · exact ⟨_, _, same, by decide⟩
      · exact ⟨_, _, same, by decide⟩
  | number _ numeral =>
      obtain ⟨sign, whole, fraction, exponent, known, digits, _, _, spelled⟩ := numeral
      obtain ⟨first, rest, start, digit⟩ := whole_head whole digits
      rcases known with same | same
      · refine ⟨first, rest ++ fraction ++ exponent, by rw [spelled, same, start]; rfl, fun other => ?_⟩
        rw [other] at digit
        cases digit
      · exact ⟨0x2D, whole ++ fraction ++ exponent, by rw [spelled, same]; rfl, by decide⟩
  | string content _ => exact ⟨quote, _, rfl, by decide⟩
  | emptyArray => exact ⟨0x5B, _, rfl, by decide⟩
  | array items _ => exact ⟨0x5B, _, rfl, by decide⟩
  | emptyObject => exact ⟨0x7B, _, rfl, by decide⟩
  | object members _ => exact ⟨0x7B, _, rfl, by decide⟩

variable (base : Nat) (state : ValueScanState) (containers : List Container) (sc : Scanner) (text rest : Bytes)

theorem expect_advances (lit : String) (next : Walked) (later : Bytes) (split : text = asBytes lit ++ later)
    (some' : asBytes lit ≠ []) (found : sc.left = text ++ rest) (fits : Fits sc)
    (balanced : nesting (asBytes lit) sc.budget.depth = some (walkDepth base next)) (kept : Kept next)
    (follows : Later next later) :
    Advances base state sc text ((expect lit >>= fun _ => pure next) sc) := by
  rw [split, List.append_assoc] at found
  obtain ⟨sc', _, taken, arrives⟩ := expect_arrives lit sc (later ++ rest) _ fits found balanced
  refine ⟨next, sc', asBytes lit, later, ?_, split, arrives, kept, follows, ?_⟩
  · rw [scan_bind_run _ _ _ _ _ taken]
    rfl
  · rw [split]
    exact needed_lt next state _ later some'

theorem pop_advances (lit : String) (container : Container) (outer : List Container) (byte : UInt8) (later : Bytes)
    (spelled : asBytes lit = [byte]) (closer : byte = 0x7D ∨ byte = 0x5D) (split : text = byte :: later)
    (closes : Closes outer later) (found : sc.left = text ++ rest) (fits : Fits sc)
    (deep : sc.budget.depth = base + (container :: outer).length) :
    Advances base state sc text ((expect lit >>= fun _ => pure (popContainer (container :: outer))) sc) := by
  have depth : walkDepth base (popContainer (container :: outer)) = base + outer.length := by
    cases outer with
    | nil => rfl
    | cons next others => rfl
  have balanced : nesting (asBytes lit) sc.budget.depth = some (walkDepth base (popContainer (container :: outer))) := by
    rw [spelled, deep, depth, List.length_cons, ← Nat.add_assoc]
    rcases closer with same | same
    · rw [same]
      rfl
    · rw [same]
      rfl
  refine expect_advances base state sc text rest lit _ later ?_ ?_ found fits balanced (pop_kept container outer)
    ((pop_later container outer later).mpr closes)
  · rw [spelled, split]
    rfl
  · rw [spelled]
    exact List.cons_ne_nil _ _

theorem scalar_advances (read : Except CodecError (Walked × Scanner)) (item behind : Bytes) (split : text = item ++ behind)
    (some' : item ≠ []) (found : sc.left = text ++ rest) (fits : Fits sc) (deep : sc.budget.depth = base + containers.length)
    (closes : Closes containers behind)
    (taken : read = .ok (some (.afterValue, containers), sc.moved (sc.pos + item.length))) :
    Advances base .value sc text read := by
  rw [split, List.append_assoc] at found
  have arrives := arrives_moved sc item (behind ++ rest) fits found
  rw [deep] at arrives
  refine ⟨_, _, item, behind, taken, split, arrives, trivial, closes, ?_⟩
  rw [split]
  exact needed_lt _ .value item behind some'

theorem word_advances (item behind : Bytes) (known : item ∈ words) (split : text = item ++ behind)
    (found : sc.left = text ++ rest) (fits : Fits sc) (deep : sc.budget.depth = base + containers.length)
    (closes : Closes containers behind) :
    Advances base .value sc text (canonicalValueStart containers sc) := by
  have alone : ∀ lit other : String, lit ∈ ["true", "false", "null"] → other ∈ ["true", "false", "null"] →
      (asBytes other).head? = (asBytes lit).head? → other = lit := by
    intro lit other inside inside'
    simp only [List.mem_cons, List.not_mem_nil, or_false] at inside inside'
    have yes : (asBytes "true").head? = some 0x74 := rfl
    have no : (asBytes "false").head? = some 0x66 := rfl
    have null : (asBytes "null").head? = some 0x6E := rfl
    rcases inside with same | same | same <;> rcases inside' with same' | same' | same' <;> rw [same, same'] <;> simp [yes, no, null]
  have spelled : ∃ lit ∈ ["true", "false", "null"], item = asBytes lit ∧ free (asBytes lit) = true ∧
      ∃ first more, asBytes lit = first :: more ∧ first ≠ quote ∧ first ≠ 0x2D ∧ isDigit first = false ∧ first ≠ 0x7B ∧
        first ≠ 0x5B := by
    simp only [words, List.mem_cons, List.not_mem_nil, or_false] at known
    rcases known with same | same | same
    · exact ⟨"true", List.mem_cons_self, same, rfl, 0x74, [0x72, 0x75, 0x65], rfl, by decide⟩
    · exact ⟨"false", List.mem_cons_of_mem _ List.mem_cons_self, same, rfl, 0x66, [0x61, 0x6C, 0x73, 0x65], rfl, by decide⟩
    · exact ⟨"null", List.mem_cons_of_mem _ (List.mem_cons_of_mem _ List.mem_cons_self), same, rfl, 0x6E, [0x75, 0x6C, 0x6C], rfl,
        by decide⟩
  obtain ⟨lit, inside, same, uncharged, first, more, start, raw, minus, digit, brace, bracket⟩ := spelled
  have found' : sc.left = asBytes lit ++ (behind ++ rest) := by rw [found, split, same, List.append_assoc]
  have start' : sc.left = first :: (more ++ (behind ++ rest)) := by rw [found', start]; rfl
  have here := peek_first sc first _ start'
  have number : ¬(sc.peek = some 0x2D ∨ sc.atDigit = true) := by
    rw [here, at_digit_first sc first _ start', digit]
    simp [minus]
  have taken := take_any_reads ["true", "false", "null"] lit sc _ inside uncharged (fun other inside' there => by
    apply alone lit other inside inside'
    obtain ⟨after, split'⟩ := there
    have some' : asBytes other ≠ [] := by
      simp only [List.mem_cons, List.not_mem_nil, or_false] at inside'
      rcases inside' with same' | same' | same' <;> rw [same'] <;> exact List.cons_ne_nil _ _
    rw [start, ← List.head?_append_of_ne_nil _ some', split', start']
    rfl) found'
  refine scalar_advances base containers sc text rest _ item behind split (by rw [same, start]; exact List.cons_ne_nil _ _) found
    fits deep closes ?_
  rw [canonicalValueStart, scan_get_run, if_neg (by rw [here]; simp [raw]), if_neg number, if_neg (by rw [here]; simp [brace]),
    if_neg (by rw [here]; simp [bracket]), scan_bind_run _ _ _ _ _ taken, same]
  rfl

theorem start_advances (stops : containers = [] → Stops rest) (demand : Demand .value containers text) (found : sc.left = text ++ rest) (fits : Fits sc)
    (deep : sc.budget.depth = base + containers.length) : Advances base .value sc text (canonicalValueStart containers sc) := by
  obtain ⟨item, behind, spelled, closes, split⟩ := demand
  have found' : sc.left = item ++ (behind ++ rest) := by rw [found, split, List.append_assoc]
  have opens : ∀ byte, asBytes "[" = [0x5B] ∧ asBytes "\x7b" = [0x7B] ∧ (byte = 0x5B ∨ byte = 0x7B → nesting [byte] sc.budget.depth =
      some (base + (containers.length + 1))) := by
    intro byte
    refine ⟨rfl, rfl, fun which => ?_⟩
    rw [deep]
    rcases which with same | same
    · rw [same]
      rfl
    · rw [same]
      rfl
  cases spelled with
  | word _ known => exact word_advances base containers sc text rest item behind known split found fits deep closes
  | number _ numeral =>
      obtain ⟨value, same⟩ : Utf8 item := ⟨_, as_bytes_ascii_text item (numeral_ascii item numeral)⟩
      rw [← same] at found' numeral split
      have read := json_number_reads value sc (behind ++ rest) found' numeral (closes_stops containers behind rest closes stops)
      have first : ∃ byte more, asBytes value = byte :: more ∧ byte ≠ quote ∧ (byte = 0x2D ∨ isDigit byte = true) := by
        obtain ⟨sign, whole, fraction, exponent, known, digits, _, _, spelled⟩ := numeral
        obtain ⟨first, others, start, digit⟩ := whole_head whole digits
        rcases known with same | same
        · refine ⟨first, others ++ fraction ++ exponent, by rw [spelled, same, start]; rfl, fun other => ?_, .inr digit⟩
          rw [other] at digit
          cases digit
        · exact ⟨0x2D, whole ++ fraction ++ exponent, by rw [spelled, same]; rfl, by decide, .inl rfl⟩
      obtain ⟨byte, more, start, raw, which⟩ := first
      have start' : sc.left = byte :: (more ++ (behind ++ rest)) := by rw [found', start]; rfl
      have here := peek_first sc byte _ start'
      have number : sc.peek = some 0x2D ∨ sc.atDigit = true := by
        rw [here, at_digit_first sc byte _ start', Option.some.injEq]
        exact which
      refine scalar_advances base containers sc text rest _ _ behind split (by rw [start]; exact List.cons_ne_nil _ _) found fits deep
        closes ?_
      rw [canonicalValueStart, scan_get_run, if_neg (by rw [here]; simp [raw]), if_pos number, scan_bind_run _ _ _ _ _ read]
      rfl
  | string content allowed =>
      obtain ⟨value, same⟩ := allowed.1
      rw [← same] at found' allowed split
      have read := json_string_reads value sc (behind ++ rest) found' allowed
      refine scalar_advances base containers sc text rest _ _ behind split (List.cons_ne_nil _ _) found fits deep closes ?_
      rw [canonicalValueStart, scan_get_run, if_pos (peek_first sc quote _ found'), scan_bind_run _ _ _ _ _ read]
      rfl
  | emptyArray =>
      have here := peek_first sc 0x5B _ found'
      rw [canonicalValueStart, scan_get_run, if_neg (by rw [here]; decide), if_neg (by
        rw [here, at_digit_first sc 0x5B _ found']; decide), if_neg (by rw [here]; decide), if_pos here]
      refine expect_advances base .value sc text rest "[" _ (0x5D :: behind) (by rw [split, (opens 0).1]; rfl)
        (List.cons_ne_nil _ _) found fits ((opens 0x5B).2.2 (.inl rfl)) ⟨[], containers, rfl⟩ ?_
      exact ⟨[0x5D], behind, .inl rfl, closes, rfl⟩
  | array items spelled =>
      have here := peek_first sc 0x5B _ found'
      rw [canonicalValueStart, scan_get_run, if_neg (by rw [here]; decide), if_neg (by
        rw [here, at_digit_first sc 0x5B _ found']; decide), if_neg (by rw [here]; decide), if_pos here]
      refine expect_advances base .value sc text rest "[" _ (items ++ [0x5D] ++ behind) (by rw [split, (opens 0).1]; rfl)
        (List.cons_ne_nil _ _) found fits ((opens 0x5B).2.2 (.inl rfl)) ⟨[], containers, rfl⟩ ?_
      exact ⟨items ++ [0x5D], behind, .inr ⟨items, spelled, rfl⟩, closes, rfl⟩
  | emptyObject =>
      have here := peek_first sc 0x7B _ found'
      rw [canonicalValueStart, scan_get_run, if_neg (by rw [here]; decide), if_neg (by
        rw [here, at_digit_first sc 0x7B _ found']; decide), if_pos here]
      refine expect_advances base .value sc text rest "\x7b" _ (0x7D :: behind) (by rw [split, (opens 0).2.1]; rfl)
        (List.cons_ne_nil _ _) found fits ((opens 0x7B).2.2 (.inr rfl)) ⟨[], containers, rfl⟩ ?_
      exact ⟨[0x7D], behind, .inl rfl, closes, rfl⟩
  | object members spelled =>
      have here := peek_first sc 0x7B _ found'
      rw [canonicalValueStart, scan_get_run, if_neg (by rw [here]; decide), if_neg (by
        rw [here, at_digit_first sc 0x7B _ found']; decide), if_pos here]
      refine expect_advances base .value sc text rest "\x7b" _ (members ++ [0x7D] ++ behind) (by rw [split, (opens 0).2.1]; rfl)
        (List.cons_ne_nil _ _) found fits ((opens 0x7B).2.2 (.inr rfl)) ⟨[], containers, rfl⟩ ?_
      exact ⟨members ++ [0x7D], behind, .inr ⟨members, spelled, rfl⟩, closes, rfl⟩

theorem member_advances (seen : List String) (outer : List Container) (state : ValueScanState)
    (demand : Demand .nextMember ((true, seen) :: outer) text) (found : sc.left = text ++ rest) (fits : Fits sc)
    (deep : sc.budget.depth = base + ((true, seen) :: outer).length) :
    Advances base state sc text (member ((true, seen) :: outer) sc) := by
  obtain ⟨body, others, opened, closes, split⟩ := demand
  obtain ⟨members, spelled, whole⟩ := opened
  have first : ∃ key item behind, text = quoted (asBytes key) ++ 0x3A :: (item ++ behind) ∧ Content Utf8 (asBytes key) ∧ key ∉ seen ∧
      Spells Utf8 .value item ∧ Closes ((true, key :: seen) :: outer) behind := by
    cases spelled with
    | lastMember _ content item allowed fresh spelled =>
        obtain ⟨key, same⟩ := allowed.1
        rw [← same] at allowed fresh whole
        refine ⟨key, item, [0x7D] ++ others, ?_, allowed, fun inside => fresh (List.mem_map_of_mem inside), spelled, ?_⟩
        · rw [split, whole]
          simp only [List.append_assoc, List.cons_append, List.nil_append]
        · exact ⟨[0x7D], others, .inl rfl, closes, rfl⟩
    | moreMembers _ content item more allowed fresh spelled spelled' =>
        obtain ⟨key, same⟩ := allowed.1
        rw [← same] at allowed fresh whole spelled'
        refine ⟨key, item, 0x2C :: (more ++ [0x7D]) ++ others, ?_, allowed, fun inside => fresh (List.mem_map_of_mem inside), spelled,
          ?_⟩
        · rw [split, whole]
          simp only [List.append_assoc, List.cons_append, List.nil_append]
        · exact ⟨_, others, .inr ⟨more, spelled', rfl⟩, closes, rfl⟩
  obtain ⟨key, item, behind, split', allowed, fresh, spelled', closes'⟩ := first
  have colon : asBytes ":" = [0x3A] := rfl
  have found1 : sc.left = quoted (asBytes key) ++ (0x3A :: (item ++ behind) ++ rest) := by
    rw [found, split', List.append_assoc]
  have size := congrArg List.length found1
  rw [left_length, List.length_append] at size
  have long : 0 < (quoted (asBytes key)).length := List.length_pos_iff.mpr (List.cons_ne_nil _ _)
  obtain ⟨charged, paid, deep', within⟩ := field_within sc.budget sc.input.length sc.pos fits (by omega)
  have read := json_string_reads key { sc with budget := charged } _ found1 allowed
  have took := (took_moved { sc with budget := charged } _ _ found1)
  have keyed : jsonKey ((true, seen) :: outer) sc =
      .ok ((true, key :: seen) :: outer, { sc with pos := sc.pos + (quoted (asBytes key)).length, budget := charged }) := by
    rw [jsonKey, scan_get_run]
    simp only [paid]
    rw [scan_bind_run _ _ _ { sc with budget := charged } () rfl, scan_bind_run _ _ _ _ _ read]
    simp only
    rw [if_neg fresh]
    rfl
  have found2 : ({ sc with pos := sc.pos + (quoted (asBytes key)).length, budget := charged } : Scanner).left =
      asBytes ":" ++ (item ++ behind ++ rest) := took.2
  have fits2 : Fits { sc with pos := sc.pos + (quoted (asBytes key)).length, budget := charged } :=
    within_later charged _ _ _ within (Nat.add_le_add_left long sc.pos)
  obtain ⟨sc', _, taken, arrives⟩ := expect_arrives ":" _ _ charged.depth fits2 found2 (by rw [colon]; rfl)
  refine ⟨some (.value, (true, key :: seen) :: outer), sc', quoted (asBytes key) ++ [0x3A], item ++ behind, ?_, ?_, ?_, trivial,
    ⟨item, behind, spelled', closes', rfl⟩, ?_⟩
  · rw [member, scan_bind_run _ _ _ _ _ keyed, scan_bind_run _ _ _ _ _ taken]
    rfl
  · rw [split', List.append_assoc]
    rfl
  · have took' : Took sc (quoted (asBytes key)) { sc with pos := sc.pos + (quoted (asBytes key)).length, budget := charged } :=
      ⟨rfl, took.1.left, rfl⟩
    refine ⟨took_append _ _ _ _ _ took' arrives.took, arrives.fits, ?_⟩
    rw [arrives.depth, deep', deep]
    rfl
  · have split'' : text = (quoted (asBytes key) ++ [0x3A]) ++ (item ++ behind) := by
      rw [split', List.append_assoc]
      rfl
    rw [split'']
    exact needed_lt _ _ _ _ (List.append_ne_nil_of_left_ne_nil (List.cons_ne_nil _ _) _)

theorem after_value_advances (demand : Demand .afterValue containers text) (found : sc.left = text ++ rest) (fits : Fits sc)
    (deep : sc.budget.depth = base + containers.length) : Advances base .afterValue sc text (afterValueTurn containers sc) := by
  rw [afterValueTurn, scan_get_run]
  cases containers with
  | nil =>
      have none' : text = [] := demand
      refine ⟨none, sc, [], [], rfl, none', ⟨took_nil sc, fits, deep⟩, trivial, rfl, ?_⟩
      exact Nat.zero_lt_of_lt (le_need .afterValue text)
  | cons container outer =>
      obtain ⟨closing, others, closed, closes, split⟩ := demand
      have comma : asBytes "," = [0x2C] := rfl
      have balanced : nesting (asBytes ",") sc.budget.depth = some (base + (container :: outer).length) := by
        rw [comma, deep]
        rfl
      cases container with
      | mk isObject seen =>
          simp only
          cases isObject with
          | true =>
              rcases closed with ended | longer
              · rw [ended] at split
                have here := peek_first sc 0x7D _ (by rw [found, split]; rfl)
                rw [if_neg (by rw [here]; decide), if_pos ⟨here, rfl⟩]
                exact pop_advances base _ sc text rest "\x7d" _ outer 0x7D others rfl (.inl rfl) split closes found fits deep
              · obtain ⟨members, spelled, ended⟩ := longer
                rw [ended] at split
                rw [if_pos (peek_first sc 0x2C _ (by rw [found, split]; rfl))]
                exact expect_advances base _ sc text rest "," _ _ split (List.cons_ne_nil _ _) found fits balanced
                  ⟨seen, outer, rfl⟩ ⟨_, others, ⟨members, spelled, rfl⟩, closes, rfl⟩
          | false =>
              rcases closed with ended | longer
              · rw [ended] at split
                have here := peek_first sc 0x5D _ (by rw [found, split]; rfl)
                rw [if_neg (by rw [here]; decide), if_neg (by rw [here]; decide), if_pos ⟨here, Bool.false_ne_true⟩]
                exact pop_advances base _ sc text rest "]" _ outer 0x5D others rfl (.inr rfl) split closes found fits deep
              · obtain ⟨items, spelled, ended⟩ := longer
                rw [ended] at split
                rw [if_pos (peek_first sc 0x2C _ (by rw [found, split]; rfl))]
                refine expect_advances base _ sc text rest "," _ _ split (List.cons_ne_nil _ _) found fits balanced trivial ?_
                exact items_demand items outer seen others spelled closes

theorem turn_advances (stops : containers = [] → Stops rest) (proper : Proper state containers) (demand : Demand state containers text)
    (found : sc.left = text ++ rest) (fits : Fits sc) (deep : sc.budget.depth = base + containers.length) :
    Advances base state sc text (canonicalTurn state containers sc) := by
  rw [canonicalTurn, scan_get_run]
  cases state with
  | value => exact start_advances base containers sc text rest stops demand found fits deep
  | afterValue => exact after_value_advances base containers sc text rest demand found fits deep
  | firstMember =>
      obtain ⟨seen, outer, same⟩ := proper
      subst same
      obtain ⟨body, others, opened, closes, split⟩ := demand
      rcases opened with empty | filled
      · rw [empty] at split
        simp only
        rw [if_pos (peek_first sc 0x7D _ (by rw [found, split]; rfl))]
        exact pop_advances base _ sc text rest "\x7d" _ outer 0x7D others rfl (.inl rfl) split closes found fits deep
      · obtain ⟨members, spelled, whole⟩ := filled
        obtain ⟨more, start⟩ : ∃ more, members = quote :: more := by
          cases spelled with
          | lastMember _ key item => exact ⟨_, rfl⟩
          | moreMembers _ key item more => exact ⟨_, rfl⟩
        have here := peek_first sc quote _ (by rw [found, split, whole, start]; rfl)
        simp only
        rw [if_neg (by rw [here]; decide), if_pos here]
        exact member_advances base sc text rest seen outer .firstMember ⟨body, others, ⟨members, spelled, whole⟩, closes, split⟩
          found fits deep
  | nextMember =>
      obtain ⟨seen, outer, same⟩ := proper
      subst same
      obtain ⟨body, others, ⟨members, spelled, whole⟩, closes, split⟩ := demand
      obtain ⟨more, start⟩ : ∃ more, members = quote :: more := by
        cases spelled with
        | lastMember _ key item => exact ⟨_, rfl⟩
        | moreMembers _ key item more => exact ⟨_, rfl⟩
      have here := peek_first sc quote _ (by rw [found, split, whole, start]; rfl)
      simp only
      rw [if_pos here]
      exact member_advances base sc text rest seen outer .nextMember ⟨body, others, ⟨members, spelled, whole⟩, closes, split⟩
        found fits deep
  | firstItem =>
      obtain ⟨seen, outer, same⟩ := proper
      subst same
      obtain ⟨body, others, opened, closes, split⟩ := demand
      rcases opened with empty | filled
      · rw [empty] at split
        simp only
        rw [if_pos (peek_first sc 0x5D _ (by rw [found, split]; rfl))]
        exact pop_advances base _ sc text rest "]" _ outer 0x5D others rfl (.inr rfl) split closes found fits deep
      · obtain ⟨items, spelled, whole⟩ := filled
        have follows := items_demand items outer seen others spelled closes
        rw [← whole, ← split] at follows
        obtain ⟨item, behind, spelled', _, split'⟩ := id follows
        obtain ⟨first, more, start, open'⟩ := value_head item spelled'
        have here := peek_first sc first _ (by rw [found, split', start]; rfl)
        simp only
        rw [if_neg (by rw [here]; exact fun same => open' (Option.some.inj same))]
        refine ⟨some (.value, (false, seen) :: outer), sc, [], text, rfl, rfl, ⟨took_nil sc, fits, deep⟩, trivial, follows, ?_⟩
        exact Nat.lt_succ_self _

def Returns {α : Type} (part : Scan α) (post : α → Prop) : Prop := ∀ sc value sc', part sc = .ok (value, sc') → post value

theorem returns_pure {α : Type} (value : α) (post : α → Prop) (holds : post value) : Returns (pure value) post := by
  intro sc value' sc' read
  obtain ⟨same, _⟩ := (scan_pure_ok _ _ _ _).mp read
  exact same ▸ holds

theorem returns_bind {α β : Type} (part : Scan α) (next : α → Scan β) (post : β → Prop) (later : ∀ value, Returns (next value) post) :
    Returns (part >>= next) post := by
  intro sc value sc' read
  obtain ⟨first, at', _, read⟩ := (scan_bind_ok _ _ _ _ _).mp read
  exact later first at' value sc' read

theorem returns_reject {α : Type} (error : DeserializeError) (post : α → Prop) : Returns (reject error) post := by
  intro sc value sc' read
  cases read

theorem returns_ite {α : Type} (condition : Prop) [Decidable condition] (part other : Scan α) (post : α → Prop)
    (yes : Returns part post) (no : Returns other post) : Returns (if condition then part else other) post := by
  by_cases holds : condition
  · rw [if_pos holds]
    exact yes
  · rw [if_neg holds]
    exact no

-- Only the last container is closed without another turn.
def Stays (next : Walked) : Prop := ∀ both, next = some both → both.2 ≠ []

theorem stays_open (state : ValueScanState) (container : Container) (outer : List Container) : Stays (some (state, container :: outer)) := by
  intro both same
  cases same
  exact List.cons_ne_nil container outer

theorem stays_pop (containers : List Container) : Stays (popContainer containers) := by
  intro both same
  rw [popContainer] at same
  cases outer : containers.tail with
  | nil =>
      rw [outer] at same
      cases same
  | cons container rest =>
      rw [outer] at same
      cases same
      exact List.cons_ne_nil container rest

theorem member_stays (containers : List Container) : Returns (member containers) Stays := by
  intro sc next sc' read
  rw [member, scan_bind_ok] at read
  obtain ⟨named, at1, first, read⟩ := read
  have some' : named ≠ [] := by
    rw [jsonKey] at first
    refine returns_bind _ _ (fun named => named ≠ []) (fun at' => ?_) sc named at1 first
    cases at'.budget.field with
    | error limit => exact returns_reject _ _
    | ok budget =>
        refine returns_bind _ _ _ fun _ => returns_bind _ _ _ fun key => ?_
        cases containers with
        | nil =>
            intro sc value sc' read
            cases read
        | cons container outer => exact returns_ite _ _ _ _ (returns_reject _ _) (returns_pure _ _ (List.cons_ne_nil _ _))
  obtain ⟨container, outer, rfl⟩ := List.exists_cons_of_ne_nil some'
  exact returns_bind _ _ Stays (fun _ => returns_pure _ _ (stays_open _ container outer)) at1 next sc' read

theorem turn_stays (state : ValueScanState) (containers : List Container) (some' : containers ≠ []) :
    Returns (canonicalTurn state containers) Stays := by
  obtain ⟨container, outer, rfl⟩ := List.exists_cons_of_ne_nil some'
  have go : ∀ {α : Type} (part : Scan α) (state : ValueScanState) (container : Container) (outer : List Container),
      Returns (part >>= fun _ => pure (some (state, container :: outer))) Stays := fun part state container outer =>
    returns_bind _ _ _ fun _ => returns_pure _ _ (stays_open state container outer)
  have pop : Returns (expect "\x7d" >>= fun _ => pure (popContainer (container :: outer))) Stays ∧
      Returns (expect "]" >>= fun _ => pure (popContainer (container :: outer))) Stays :=
    ⟨returns_bind _ _ _ fun _ => returns_pure _ _ (stays_pop _), returns_bind _ _ _ fun _ => returns_pure _ _ (stays_pop _)⟩
  refine returns_bind _ _ _ fun sc => ?_
  cases state with
  | value =>
      refine returns_bind _ _ _ fun sc => returns_ite _ _ _ _ (go _ _ _ _) (returns_ite _ _ _ _ (go _ _ _ _)
        (returns_ite _ _ _ _ (go _ _ _ _) (returns_ite _ _ _ _ (go _ _ _ _) (returns_bind _ _ _ fun word => ?_))))
      exact returns_ite _ _ _ _ (returns_pure _ _ (stays_open _ _ _)) (returns_reject _ _)
  | firstMember => exact returns_ite _ _ _ _ pop.1 (returns_ite _ _ _ _ (member_stays _) (returns_reject _ _))
  | nextMember => exact returns_ite _ _ _ _ (member_stays _) (returns_reject _ _)
  | firstItem => exact returns_ite _ _ _ _ pop.2 (returns_pure _ _ (stays_open _ _ _))
  | afterValue =>
      refine returns_bind _ _ _ fun sc => ?_
      exact returns_ite _ _ _ _ (go _ _ _ _) (returns_ite _ _ _ _ pop.1 (returns_ite _ _ _ _ pop.2 (returns_reject _ _)))

theorem turns_reads (fuel : Nat) (stops : containers = [] → Stops rest) (proper : Proper state containers) (demand : Demand state containers text)
    (found : sc.left = text ++ rest) (fits : Fits sc) (deep : sc.budget.depth = base + containers.length)
    (enough : need state text ≤ fuel) :
    ∃ sc', canonicalTurns fuel state containers sc = .ok ((), sc') ∧ Arrives sc text base sc' := by
  induction fuel generalizing sc state containers text with
  | zero =>
      have least := le_need state text
      omega
  | succ fuel ih =>
      obtain ⟨next, at', part, later, read, split, arrives, kept, follows, smaller⟩ :=
        turn_advances base state containers sc text rest stops proper demand found fits deep
      cases next with
      | none =>
          rw [show later = [] from follows, List.append_nil] at split
          refine ⟨at', ?_, ?_⟩
          · rw [canonicalTurns, scan_bind_run _ _ _ _ _ read]
            rfl
          · rw [split]
            exact arrives
      | some both =>
          have found' : at'.left = later ++ rest := by
            apply took_left sc at' part _ arrives.took
            rw [found, split, List.append_assoc]
          have stops' : both.2 = [] → Stops rest := by
            intro empty
            by_cases none' : containers = []
            · exact stops none'
            · exact absurd empty (turn_stays state containers none' sc (some both) at' read both rfl)
          have enough' : need both.1 later ≤ fuel := Nat.le_of_lt_succ (Nat.lt_of_lt_of_le smaller enough)
          obtain ⟨sc', read', arrives'⟩ := ih both.1 both.2 at' later stops' kept follows found' arrives.fits arrives.depth enough'
          refine ⟨sc', ?_, ?_⟩
          · rw [canonicalTurns, scan_bind_run _ _ _ _ _ read]
            exact read'
          · rw [split]
            exact arrives_append _ _ _ _ _ _ _ arrives arrives'

-- A value in the writer's form is read where no number goes on behind it.
theorem canonical_value_reads (stops : Stops rest) (spelled : Spells Utf8 .value text) (found : sc.left = text ++ rest)
    (fits : Fits sc) : ∃ sc', canonicalValue sc = .ok ((), sc') ∧ Arrives sc text sc.budget.depth sc' := by
  rw [canonicalValue, scan_get_run]
  refine turns_reads sc.budget.depth .value [] sc text rest _ (fun _ => stops) trivial ⟨text, [], spelled, rfl, (List.append_nil text).symm⟩ found
    fits rfl ?_
  rw [found, List.length_append]
  show 2 * text.length + 1 ≤ _
  omega

theorem object_value_reads (spelled : Spells Utf8 .value text) (brace : text.head? = some 0x7B) (found : sc.left = text ++ rest)
    (fits : Fits sc) : ∃ sc', canonicalValue sc = .ok ((), sc') ∧ Arrives sc text sc.budget.depth sc' := by
  obtain ⟨behind, start⟩ : ∃ behind, text = 0x7B :: behind := by
    cases text with
    | nil => cases brace
    | cons first behind => exact ⟨behind, by rw [Option.some.inj brace]⟩
  have opened : ∃ body, Opened .firstMember (true, []) body ∧ behind = body := by
    rw [start] at spelled
    generalize whole : (0x7B : UInt8) :: behind = object at spelled
    cases spelled with
    | word _ known =>
        rw [← whole] at known
        simp [words] at known
    | number _ numeral =>
        obtain ⟨byte, rest, same, which⟩ := CompactJson.numeral_head _ numeral
        rw [← whole] at same
        rw [← (List.cons.inj same).1] at which
        exact absurd which (by decide)
    | string content _ => exact absurd (List.cons.inj whole).1 (by decide)
    | emptyObject => exact ⟨behind, .inl (List.cons.inj whole).2, rfl⟩
    | object members spelled => exact ⟨behind, .inr ⟨members, spelled, (List.cons.inj whole).2⟩, rfl⟩
    | emptyArray => exact absurd (List.cons.inj whole).1 (by decide)
    | array items _ => exact absurd (List.cons.inj whole).1 (by decide)
  obtain ⟨body, opened, same⟩ := opened
  have here := peek_first sc 0x7B _ (by rw [found, start]; rfl)
  have found' : sc.left = asBytes "\x7b" ++ (behind ++ rest) := by rw [found, start]; rfl
  obtain ⟨at', _, taken, arrives⟩ := expect_arrives "\x7b" sc (behind ++ rest) (sc.budget.depth + 1) fits found' rfl
  have left := took_left sc at' _ _ arrives.took found'
  have size : sc.left.length = behind.length + rest.length + 1 := by
    rw [found, start, List.length_append, List.length_cons]
    omega
  obtain ⟨sc', read, arrives'⟩ := turns_reads sc.budget.depth .firstMember [(true, [])] at' behind rest (2 * sc.left.length + 1)
    (fun none' => absurd none' (List.cons_ne_nil _ _)) ⟨[], [], rfl⟩ ⟨body, [], opened, rfl, by rw [same, List.append_nil]⟩ left
    arrives.fits arrives.depth (by
      show 2 * behind.length + 1 ≤ _
      omega)
  refine ⟨sc', ?_, ?_⟩
  · have turned : canonicalTurn .value [] sc = .ok (some (.firstMember, [(true, [])]), at') := by
      rw [canonicalTurn, scan_get_run]
      simp only
      rw [canonicalValueStart, scan_get_run, if_neg (by rw [here]; decide), if_neg (by
        rw [here, at_digit_first sc 0x7B (behind ++ rest) found']; decide), if_pos here, scan_bind_run _ _ _ _ _ taken]
      rfl
    rw [canonicalValue, scan_get_run, canonicalTurns, scan_bind_run _ _ _ _ _ turned]
    exact read
  · rw [start]
    exact arrives_append _ _ _ _ _ _ _ arrives arrives'

end Complete

end Cesr.Codec
