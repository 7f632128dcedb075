import Cesr.Codec.CanonicalValue
import Cesr.Codec.OpaqueNumber

set_option autoImplicit false

namespace Cesr.Codec.OpaqueScan

open Checks WriterJson JsonString

def Spoken (content name : Bytes) : Prop := Denotes content name ∧ Utf8 content

def placed : ScanState → CompactJson.Place
  | .firstKey => .firstMember
  | .nextKey => .nextMember
  | .value => .value
  | .firstValue => .firstItem
  | .afterValue => .afterValue

def named (container : Scanner.Container) : CompactJson.Container := (container.1, container.2.map asBytes)

def reached : Option (ScanState × List Scanner.Container) → CompactJson.Next
  | none => none
  | some both => some (placed both.1, both.2.map named)

theorem reached_closed (outer : List Scanner.Container) (c : Cursor) (budget : JsonBudget) :
    reached (closed outer c budget).next = CompactJson.popped (outer.map named) := by
  cases outer with
  | nil => rfl
  | cons container rest => rfl

theorem closed_cursor (outer : List Scanner.Container) (c : Cursor) (budget : JsonBudget) :
    (closed outer c budget).cursor = c.bump := by
  cases outer with
  | nil => rfl
  | cons container rest => rfl

theorem named_split (containers : List Scanner.Container) (isObject : Bool) (names : List Bytes) (outer : List CompactJson.Container)
    (same : containers.map named = (isObject, names) :: outer) :
    ∃ seen rest, containers = (isObject, seen) :: rest ∧ names = seen.map asBytes ∧ outer = rest.map named := by
  cases containers with
  | nil => cases same
  | cons container rest =>
      obtain ⟨first, others⟩ := List.cons.inj same
      obtain ⟨kind, names'⟩ := Prod.mk.inj first
      exact ⟨container.2, rest, by rw [← kind], names'.symm, others.symm⟩

theorem name_seen (key : String) (seen : List String) : asBytes key ∈ seen.map asBytes ↔ key ∈ seen :=
  List.mem_map_of_injective fun _ _ same => as_bytes_injective same

section Sound

variable (c : Cursor) (containers : List Scanner.Container) (budget : JsonBudget) (turned : Turned)

theorem member_key_sound (isObject : Bool) (seen : List String) (outer : List Scanner.Container) (rest : Bytes)
    (found : c.left = quote :: rest) (read : scanMemberKey c ((isObject, seen) :: outer) budget = .ok turned) :
    ∃ key name, Spoken key (asBytes name) ∧ name ∉ seen ∧ turned.next = some (.value, (isObject, name :: seen) :: outer) ∧
      Passes c (quoted key ++ [0x3A]) turned.cursor := by
  rw [scanMemberKey] at read
  cases charged : budget.field with
  | error limit =>
      rw [charged] at read
      cases read
  | ok charge =>
      rw [charged] at read
      simp only [bind_ok] at read
      obtain ⟨afterKey, scanned, name, decoded, read⟩ := read
      obtain ⟨content, text, denotes, utf8, passes⟩ := (scan_string_ok c afterKey rest found).mp scanned
      obtain ⟨key, again, same⟩ := decode_key c afterKey content text denotes utf8 passes
      rw [decoded] at again
      cases again
      by_cases old : name ∈ seen
      · rw [if_pos old] at read
        cases read
      · rw [if_neg old] at read
        by_cases colon : afterKey.left.head? = some 0x3A
        · rw [if_neg (fun other => other colon)] at read
          cases read
          rw [← same] at denotes
          exact ⟨content, name, ⟨denotes, utf8⟩, old, rfl, passes_append _ _ _ _ _ passes (bump_head afterKey 0x3A colon)⟩
        · rw [if_pos colon] at read
          cases read

theorem scan_scalar_sound (after : Cursor) (byte : UInt8) (rest : Bytes) (left : c.left = byte :: rest)
    (scanned : scanScalar byte c = .ok after) : ∃ text, CompactJson.Scalar Spoken text ∧ Passes c text after := by
  rw [scanScalar] at scanned
  by_cases string : byte = quote
  · rw [if_pos string] at scanned
    rw [string] at left
    obtain ⟨content, text, denotes, utf8, passes⟩ := (scan_string_ok c after rest left).mp scanned
    exact ⟨_, .inr (.inr ⟨content, text, ⟨denotes, utf8⟩, rfl⟩), passes⟩
  · rw [if_neg string] at scanned
    by_cases number : byte = 0x2D ∨ isDigit byte = true
    · rw [if_pos number] at scanned
      obtain ⟨text, numeral, passes⟩ := scan_number_sound _ _ scanned
      exact ⟨_, .inr (.inl numeral), passes⟩
    · rw [if_neg number] at scanned
      have word : ∀ lit : String, lit ∈ ["true", "false", "null"] → scanLit c lit = .ok after →
          ∃ text, CompactJson.Scalar Spoken text ∧ Passes c text after := fun lit known scanned =>
        ⟨_, .inl (words_spelled lit known), (scan_lit_ok _ _ _).mp scanned⟩
      by_cases yes : byte = 0x74
      · rw [if_pos yes] at scanned
        exact word "true" (by simp) scanned
      · rw [if_neg yes] at scanned
        by_cases no : byte = 0x66
        · rw [if_pos no] at scanned
          exact word "false" (by simp) scanned
        · rw [if_neg no] at scanned
          by_cases null : byte = 0x6E
          · rw [if_pos null] at scanned
            exact word "null" (by simp) scanned
          · rw [if_neg null] at scanned
            cases scanned

theorem value_start_sound (read : scanValueStart c containers budget = .ok turned) :
    ∃ part, CompactJson.Step Spoken .value (containers.map named) part (reached turned.next) ∧ Passes c part turned.cursor := by
  cases left : c.left with
  | nil =>
      rw [scanValueStart, left] at read
      cases read
  | cons byte rest =>
      have first := bump_passes c byte rest left
      rw [scanValueStart, left] at read
      simp only at read
      by_cases brace : byte = 0x7B
      · rw [if_pos brace] at read
        rw [brace] at first
        cases entered : budget.enter with
        | error limit =>
            rw [entered] at read
            cases read
        | ok charge =>
            rw [entered] at read
            cases read
            exact ⟨[0x7B], .openObject _, first⟩
      · rw [if_neg brace] at read
        by_cases bracket : byte = 0x5B
        · rw [if_pos bracket] at read
          rw [bracket] at first
          cases entered : budget.enter with
          | error limit =>
              rw [entered] at read
              cases read
          | ok charge =>
              rw [entered] at read
              cases read
              exact ⟨[0x5B], .openArray _, first⟩
        · rw [if_neg bracket, bind_ok] at read
          obtain ⟨after, scanned, read⟩ := read
          cases read
          obtain ⟨text, plain, passes⟩ := scan_scalar_sound c after byte rest left scanned
          exact ⟨text, .scalar _ text plain, passes⟩

theorem turn_sound (state : ScanState) (proper : CompactJson.Proper (placed state) (containers.map named))
    (read : turn state containers c budget = .ok turned) :
    ∃ part, CompactJson.Step Spoken (placed state) (containers.map named) part (reached turned.next) ∧
      Passes c part turned.cursor := by
  cases left : c.left with
  | nil =>
      rw [turn, left] at read
      cases read
  | cons byte rest =>
      have first := bump_passes c byte rest left
      rw [turn, left] at read
      simp only at read
      cases state with
      | value => exact value_start_sound c containers budget turned read
      | firstKey =>
          obtain ⟨names, outer, same⟩ := proper
          obtain ⟨seen, outer, rfl, _⟩ := named_split containers _ _ _ same
          simp only at read
          by_cases brace : byte = 0x7D
          · rw [if_pos brace] at read
            cases read
            rw [reached_closed, closed_cursor]
            exact ⟨[0x7D], .noMembers _ _, brace ▸ first⟩
          · rw [if_neg brace] at read
            by_cases string : byte = quote
            · rw [if_pos string] at read
              obtain ⟨key, name, spoken, fresh, next, passes⟩ := member_key_sound c budget turned true seen outer rest (by rw [left, string]) read
              rw [next]
              exact ⟨_, .firstKey _ _ key (asBytes name) spoken (fun old => fresh ((name_seen name seen).mp old)), passes⟩
            · rw [if_neg string] at read
              cases read
      | nextKey =>
          obtain ⟨names, outer, same⟩ := proper
          obtain ⟨seen, outer, rfl, _⟩ := named_split containers _ _ _ same
          simp only at read
          by_cases string : byte = quote
          · rw [if_pos string] at read
            obtain ⟨key, name, spoken, fresh, next, passes⟩ := member_key_sound c budget turned true seen outer rest (by rw [left, string]) read
            rw [next]
            exact ⟨_, .nextKey _ _ key (asBytes name) spoken (fun old => fresh ((name_seen name seen).mp old)), passes⟩
          · rw [if_neg string] at read
            cases read
      | firstValue =>
          obtain ⟨names, outer, same⟩ := proper
          obtain ⟨seen, outer, rfl, _⟩ := named_split containers _ _ _ same
          simp only at read
          by_cases bracket : byte = 0x5D
          · rw [if_pos bracket] at read
            cases read
            rw [reached_closed, closed_cursor]
            exact ⟨[0x5D], .noItems _ _, bracket ▸ first⟩
          · rw [if_neg bracket] at read
            cases read
            exact ⟨[], .item _ _, passes_nil c⟩
      | afterValue =>
          cases containers with
          | nil => cases read
          | cons container outer =>
              obtain ⟨isObject, seen⟩ := container
              simp only at read
              by_cases comma : byte = 0x2C
              · rw [if_pos comma] at read
                cases read
                rw [comma] at first
                cases isObject with
                | true => exact ⟨[0x2C], .moreMembers _ _, first⟩
                | false => exact ⟨[0x2C], .moreItems _ _, first⟩
              · rw [if_neg comma] at read
                by_cases closer : (byte = 0x7D ∧ isObject = true) ∨ (byte = 0x5D ∧ ¬isObject = true)
                · rw [if_pos closer] at read
                  cases read
                  rw [reached_closed, closed_cursor]
                  rcases closer with ⟨brace, object⟩ | ⟨bracket, array⟩
                  · rw [object]
                    exact ⟨[0x7D], .closeObject _ _, brace ▸ first⟩
                  · rw [Bool.eq_false_iff.mpr array]
                    exact ⟨[0x5D], .closeArray _ _, bracket ▸ first⟩
                · rw [if_neg closer] at read
                  cases read

end Sound

section Complete

def Free (budget : JsonBudget) : Prop := budget.maxFields = none ∧ budget.maxDepth = none

theorem free_field (budget : JsonBudget) (free : Free budget) : ∃ charged, budget.field = .ok charged ∧ Free charged := by
  refine ⟨{ budget with fields := budget.fields + 1 }, ?_, free⟩
  rw [JsonBudget.field, free.1]

theorem free_enter (budget : JsonBudget) (free : Free budget) : ∃ entered, budget.enter = .ok entered ∧ Free entered := by
  refine ⟨{ budget with depth := budget.depth + 1 }, ?_, free⟩
  rw [JsonBudget.enter, free.2]

theorem closed_free (outer : List Scanner.Container) (c : Cursor) (budget : JsonBudget) (free : Free budget) :
    Free (closed outer c budget).budget := by
  cases outer with
  | nil => exact free
  | cons container rest => exact free

theorem scan_scalar_reads (pos : Nat) (text rest : Bytes) (plain : CompactJson.Scalar Spoken text) (stops : Stops rest) :
    ∃ byte more, text = byte :: more ∧ byte ≠ 0x7B ∧ byte ≠ 0x5B ∧
      scanScalar byte ⟨pos, text ++ rest⟩ = .ok ⟨pos + text.length, rest⟩ := by
  have lit : ∀ lit : String, text = asBytes lit → scanLit ⟨pos, text ++ rest⟩ lit = .ok ⟨pos + text.length, rest⟩ := by
    intro lit same
    rw [same]
    exact (scan_lit_ok _ _ lit).mpr ⟨rfl, rfl⟩
  rcases plain with known | numeral | ⟨content, name, ⟨denotes, utf8⟩, same⟩
  · simp only [words, List.mem_cons, List.not_mem_nil, or_false] at known
    rcases known with same | same | same
    · refine ⟨0x74, _, same, by decide, by decide, ?_⟩
      rw [scanScalar, if_neg (by decide), if_neg (by decide), if_pos rfl]
      exact lit "true" same
    · refine ⟨0x66, _, same, by decide, by decide, ?_⟩
      rw [scanScalar, if_neg (by decide), if_neg (by decide), if_neg (by decide), if_pos rfl]
      exact lit "false" same
    · refine ⟨0x6E, _, same, by decide, by decide, ?_⟩
      rw [scanScalar, if_neg (by decide), if_neg (by decide), if_neg (by decide), if_neg (by decide), if_pos rfl]
      exact lit "null" same
  · obtain ⟨byte, more, same, which⟩ := CompactJson.numeral_head text numeral
    have other : ∀ byte : UInt8, (byte = 0x2D ∨ isDigit byte = true) → byte ≠ 0x7B ∧ byte ≠ 0x5B ∧ byte ≠ quote :=
      every_byte _ (by decide +kernel)
    obtain ⟨brace, bracket, string⟩ := other byte which
    refine ⟨byte, more, same, brace, bracket, ?_⟩
    rw [scanScalar, if_neg string, if_pos which]
    exact scan_number_reads pos text rest numeral stops
  · refine ⟨quote, content ++ [quote], same, by decide, by decide, ?_⟩
    rw [scanScalar, if_pos rfl, same]
    exact (scan_string_ok _ _ (content ++ [quote] ++ rest) rfl).mpr ⟨content, name, denotes, utf8, rfl, rfl⟩

theorem member_key_reads (pos : Nat) (key name rest : Bytes) (isObject : Bool) (seen : List String) (outer : List Scanner.Container)
    (budget : JsonBudget) (free : Free budget) (spoken : Spoken key name) (fresh : name ∉ seen.map asBytes) :
    ∃ turned, scanMemberKey ⟨pos, quoted key ++ [0x3A] ++ rest⟩ ((isObject, seen) :: outer) budget = .ok turned ∧
      reached turned.next = some (.value, (isObject, name :: seen.map asBytes) :: outer.map named) ∧
      turned.cursor = ⟨pos + (quoted key ++ [0x3A]).length, rest⟩ ∧ Free turned.budget := by
  obtain ⟨charged, paid, free'⟩ := free_field budget free
  have passes : Passes ⟨pos, quoted key ++ [0x3A] ++ rest⟩ (quoted key) ⟨pos + (quoted key).length, 0x3A :: rest⟩ := by
    refine ⟨?_, rfl⟩
    show quoted key ++ [0x3A] ++ rest = quoted key ++ 0x3A :: rest
    rw [List.append_assoc]
    rfl
  have scanned := (scan_string_ok ⟨pos, quoted key ++ [0x3A] ++ rest⟩ _ (key ++ [quote] ++ [0x3A] ++ rest) rfl).mpr
    ⟨key, name, spoken.1, spoken.2, passes⟩
  obtain ⟨value, decoded, same⟩ := decode_key _ _ key name spoken.1 spoken.2 passes
  have fresh' : value ∉ seen := by
    intro old
    rw [← same] at fresh
    exact fresh ((name_seen value seen).mpr old)
  refine ⟨⟨some (.value, (isObject, value :: seen) :: outer), ⟨pos + (quoted key).length + 1, rest⟩, charged⟩, ?_, ?_, ?_, free'⟩
  · rw [scanMemberKey, paid]
    simp only
    rw [scanned, ok_bind, decoded, ok_bind, if_neg fresh', if_neg (fun other => other rfl)]
    rfl
  · rw [← same]
    rfl
  · rw [List.length_append]
    rfl

theorem turn_complete (state : ScanState) (containers : List Scanner.Container) (pos : Nat) (part later suffix : Bytes)
    (next : CompactJson.Next) (budget : JsonBudget) (free : Free budget)
    (step : CompactJson.Step Spoken (placed state) (containers.map named) part next)
    (ahead : ∀ place stack, next = some (place, stack) → CompactJson.Runs Spoken place stack later) :
    ∃ turned, turn state containers ⟨pos, part ++ (later ++ suffix)⟩ budget = .ok turned ∧ reached turned.next = next ∧
      turned.cursor = ⟨pos + part.length, later ++ suffix⟩ ∧ Free turned.budget := by
  have closing : ∀ (byte : UInt8) (outer : List Scanner.Container),
      reached (closed outer ⟨pos, byte :: (later ++ suffix)⟩ budget).next = CompactJson.popped (outer.map named) ∧
        (closed outer ⟨pos, byte :: (later ++ suffix)⟩ budget).cursor = ⟨pos + 1, later ++ suffix⟩ ∧
        Free (closed outer ⟨pos, byte :: (later ++ suffix)⟩ budget).budget := fun byte outer =>
    ⟨reached_closed _ _ _, closed_cursor _ _ _, closed_free _ _ _ free⟩
  generalize names : containers.map named = stack at step
  cases state with
  | value =>
      have step' : CompactJson.Step Spoken .value stack part next := step
      cases step' with
      | scalar _ _ plain =>
          obtain ⟨first, behind, head, which⟩ := CompactJson.after_value_head Spoken stack later (ahead _ _ rfl)
          have stops : Stops (later ++ suffix) := by
            intro byte found
            rw [head] at found
            have same : first = byte := Option.some.inj found
            rw [← same]
            rcases which with known | known | known
            all_goals
              rw [known]
              decide
          obtain ⟨byte, more, shape, brace, bracket, read⟩ := scan_scalar_reads pos part (later ++ suffix) plain stops
          refine ⟨⟨some (.afterValue, containers), ⟨pos + part.length, later ++ suffix⟩, budget⟩, ?_, by rw [← names]; rfl, rfl, free⟩
          rw [shape] at read ⊢
          rw [turn]
          simp only [List.cons_append]
          rw [scanValueStart]
          simp only
          rw [if_neg brace, if_neg bracket, ← List.cons_append, read, ok_bind]
      | openObject =>
          obtain ⟨entered, paid, free'⟩ := free_enter budget free
          refine ⟨⟨some (.firstKey, (true, []) :: containers), ⟨pos + 1, later ++ suffix⟩, entered⟩, ?_, by rw [← names]; rfl, rfl, free'⟩
          rw [turn, List.singleton_append]
          simp only
          rw [scanValueStart]
          simp only
          rw [if_true, paid]
          rfl
      | openArray =>
          obtain ⟨entered, paid, free'⟩ := free_enter budget free
          refine ⟨⟨some (.firstValue, (false, []) :: containers), ⟨pos + 1, later ++ suffix⟩, entered⟩, ?_, by rw [← names]; rfl, rfl,
            free'⟩
          rw [turn, List.singleton_append]
          simp only
          rw [scanValueStart]
          simp only
          rw [if_neg (by decide), if_true, paid]
          rfl
  | firstKey =>
      have step' : CompactJson.Step Spoken .firstMember stack part next := step
      cases step' with
      | firstKey _ _ key name spoken fresh =>
          obtain ⟨seen, outer, rfl, same, same'⟩ := named_split containers _ _ _ names
          rw [same] at fresh ⊢
          rw [same']
          obtain ⟨turned, read, others⟩ := member_key_reads pos key name (later ++ suffix) true seen outer budget free spoken fresh
          refine ⟨turned, ?_, others⟩
          rw [turn]
          exact read
      | noMembers =>
          obtain ⟨seen, outer, rfl, same, same'⟩ := named_split containers _ _ _ names
          rw [same']
          exact ⟨_, by rw [turn]; rfl, closing 0x7D outer⟩
  | nextKey =>
      have step' : CompactJson.Step Spoken .nextMember stack part next := step
      cases step' with
      | nextKey _ _ key name spoken fresh =>
          obtain ⟨seen, outer, rfl, same, same'⟩ := named_split containers _ _ _ names
          rw [same] at fresh ⊢
          rw [same']
          obtain ⟨turned, read, others⟩ := member_key_reads pos key name (later ++ suffix) true seen outer budget free spoken fresh
          refine ⟨turned, ?_, others⟩
          rw [turn]
          exact read
  | firstValue =>
      have step' : CompactJson.Step Spoken .firstItem stack part next := step
      cases step' with
      | noItems =>
          obtain ⟨seen, outer, rfl, same, same'⟩ := named_split containers _ _ _ names
          rw [same']
          exact ⟨_, by rw [turn]; rfl, closing 0x5D outer⟩
      | item =>
          obtain ⟨first, behind, head, other⟩ := CompactJson.value_run_head Spoken _ later (ahead _ _ rfl)
          refine ⟨⟨some (.value, containers), ⟨pos, later ++ suffix⟩, budget⟩, ?_, by rw [← names]; rfl, rfl, free⟩
          rw [turn, head]
          simp only [List.nil_append, List.cons_append]
          rw [if_neg other]
  | afterValue =>
      have step' : CompactJson.Step Spoken .afterValue stack part next := step
      cases step' with
      | moreMembers =>
          obtain ⟨seen, outer, rfl, same, same'⟩ := named_split containers _ _ _ names
          exact ⟨⟨some (.nextKey, (true, seen) :: outer), ⟨pos + 1, later ++ suffix⟩, budget⟩, rfl, by rw [same, same']; rfl, rfl, free⟩
      | moreItems =>
          obtain ⟨seen, outer, rfl, same, same'⟩ := named_split containers _ _ _ names
          exact ⟨⟨some (.value, (false, seen) :: outer), ⟨pos + 1, later ++ suffix⟩, budget⟩, rfl, by rw [same, same']; rfl, rfl, free⟩
      | closeObject =>
          obtain ⟨seen, outer, rfl, same, same'⟩ := named_split containers _ _ _ names
          rw [same']
          exact ⟨_, by rw [turn]; rfl, closing 0x7D outer⟩
      | closeArray =>
          obtain ⟨seen, outer, rfl, same, same'⟩ := named_split containers _ _ _ names
          rw [same']
          exact ⟨_, by rw [turn]; rfl, closing 0x5D outer⟩

end Complete

section Runs

theorem turns_sound (fuel : Nat) (state : ScanState) (containers : List Scanner.Container) (c : Cursor) (budget : JsonBudget)
    (stop : Nat) (spent : JsonBudget) (proper : CompactJson.Proper (placed state) (containers.map named))
    (read : turns fuel state containers c budget = .ok (stop, spent)) :
    ∃ text rest, CompactJson.Runs Spoken (placed state) (containers.map named) text ∧ Passes c text ⟨stop, rest⟩ := by
  induction fuel generalizing state containers c budget with
  | zero =>
      rw [turns] at read
      cases read
  | succ fuel ih =>
      rw [turns, bind_ok] at read
      obtain ⟨turned, taken, read⟩ := read
      obtain ⟨part, step, passes⟩ := turn_sound c containers budget turned state proper taken
      have kept := CompactJson.step_kept Spoken _ _ _ _ step proper
      cases next : turned.next with
      | none =>
          rw [next] at read step
          cases read
          exact ⟨part, turned.cursor.left, .stop _ _ part step, passes⟩
      | some both =>
          rw [next] at read step kept
          obtain ⟨text, rest, runs, passes'⟩ := ih both.1 both.2 turned.cursor turned.budget kept read
          exact ⟨part ++ text, rest, .go _ _ _ _ part text step runs, passes_append _ _ _ _ _ passes passes'⟩

theorem turns_complete (place : CompactJson.Place) (stack : List CompactJson.Container) (text : Bytes)
    (runs : CompactJson.Runs Spoken place stack text) (fuel : Nat) (state : ScanState) (containers : List Scanner.Container) (pos : Nat)
    (suffix : Bytes) (budget : JsonBudget) (free : Free budget) (place' : placed state = place) (stack' : containers.map named = stack)
    (enough : CompactJson.need place text ≤ fuel) :
    ∃ spent, turns fuel state containers ⟨pos, text ++ suffix⟩ budget = .ok (pos + text.length, spent) := by
  induction runs generalizing fuel state containers pos budget with
  | stop place stack text last =>
      rw [← place', ← stack'] at last
      obtain ⟨turned, taken, next, cursor, _⟩ := turn_complete state containers pos text [] suffix none budget free last
        (fun _ _ other => by cases other)
      have some' := CompactJson.le_need place text
      obtain ⟨fuel, rfl⟩ : ∃ less, fuel = less + 1 := ⟨fuel - 1, by omega⟩
      refine ⟨turned.budget, ?_⟩
      have done : turned.next = none := by
        cases found : turned.next with
        | none => rfl
        | some both =>
            rw [found] at next
            cases next
      rw [turns, ← List.nil_append suffix, taken, ok_bind, done, cursor]
  | go place place1 stack stack1 part later step others ih =>
      have shorter := CompactJson.step_need Spoken place place1 stack stack1 part later step
      rw [← place', ← stack'] at step
      obtain ⟨turned, taken, next, cursor, free'⟩ := turn_complete state containers pos part later suffix _ budget free step
        (fun _ _ same => by cases same; exact others)
      obtain ⟨fuel, rfl⟩ : ∃ less, fuel = less + 1 := ⟨fuel - 1, by omega⟩
      cases found : turned.next with
      | none =>
          rw [found] at next
          cases next
      | some both =>
          rw [found] at next
          obtain ⟨place2, stack2⟩ := Prod.mk.inj (Option.some.inj next)
          obtain ⟨spent, read⟩ := ih fuel both.1 both.2 (pos + part.length) turned.budget free' place2 stack2 (by omega)
          refine ⟨spent, ?_⟩
          rw [turns, List.append_assoc, taken, ok_bind, found, cursor, List.length_append, ← Nat.add_assoc]
          exact read

theorem object_len_ok (input : Bytes) (stop : Nat) :
    (∃ spent, objectLen input .unlimited = .ok (stop, spent)) ↔
      ∃ text rest, input = text ++ rest ∧ stop = text.length ∧ CompactJson.Spells Spoken .value text ∧ text.head? = some 0x7B := by
  apply Iff.intro
  · intro found
    obtain ⟨spent, read⟩ := found
    rw [objectLen] at read
    by_cases brace : input.head? = some 0x7B
    · rw [if_neg (fun other => other brace)] at read
      obtain ⟨behind, whole⟩ := head_cons ⟨0, input⟩ 0x7B brace
      have whole' : input = 0x7B :: behind := whole
      rw [whole'] at read
      obtain ⟨text, rest, runs, passes⟩ := turns_sound _ .firstKey [(true, [])] _ _ stop spent ⟨[], [], rfl⟩ read
      refine ⟨0x7B :: text, rest, by rw [whole']; exact congrArg _ passes.1, ?_, (CompactJson.object_runs Spoken text).mp runs, rfl⟩
      have size : stop = 1 + text.length := passes.2
      rw [size, List.length_cons, Nat.add_comm]
    · rw [if_pos brace] at read
      cases read
  · intro found
    obtain ⟨text, rest, whole, size, spelled, brace⟩ := found
    obtain ⟨body, same⟩ := head_cons ⟨0, text⟩ 0x7B brace
    have same' : text = 0x7B :: body := same
    rw [same'] at spelled
    have runs := (CompactJson.object_runs Spoken body).mpr spelled
    have most := CompactJson.need_le .firstMember body
    obtain ⟨spent, read⟩ := turns_complete _ _ body runs (2 * input.length + 2) .firstKey [(true, [])] 1 rest ⟨none, none, 0, 1⟩
      ⟨rfl, rfl⟩ rfl rfl (by
        rw [whole, same', List.length_append, List.length_cons]
        omega)
    refine ⟨spent, ?_⟩
    have head : input.head? = some 0x7B := by rw [whole, same']; rfl
    have stop' : stop = 1 + body.length := by rw [size, same', List.length_cons, Nat.add_comm]
    have behind : input.tail = body ++ rest := by rw [whole, same']; rfl
    rw [objectLen, if_neg (fun other => other head), stop', behind]
    exact read

end Runs

end Cesr.Codec.OpaqueScan
