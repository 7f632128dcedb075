import Cesr.Codec.MeterWalk

set_option autoImplicit false

namespace Cesr.Codec

open Checks WriterJson JsonTally JsonBudget

section Opaque

open OpaqueScan hiding marks

theorem spoken_silent (content name : Bytes) (spoken : Spoken content name) : Silent .inside .inside content :=
  silent_denotes content name spoken.1

def keyTurn (c : Cursor) (containers : List Scanner.Container) :
    Except OpaqueScanError (Option (ScanState × List Scanner.Container) × Cursor) := do
  let afterKey ← scanString c
  let key ← decodeKey c afterKey
  match containers with
  | [] => .error .truncated
  | (kind, seen) :: outer =>
      if key ∈ seen then .error (.duplicateKey c.pos)
      else if afterKey.left.head? ≠ some 0x3A then .error (.unexpectedByte afterKey.pos)
      else .ok (some (.value, (kind, key :: seen) :: outer), afterKey.bump)

theorem member_key_run (c : Cursor) (containers : List Scanner.Container) (budget charged : JsonBudget)
    (counted : budget.field = .ok charged) :
    scanMemberKey c containers budget = (keyTurn c containers).map fun both => ⟨both.1, both.2, charged⟩ := by
  rw [scanMemberKey, counted, keyTurn]
  cases scanString c with
  | error error => rfl
  | ok afterKey =>
      simp only [ok_bind]
      cases decodeKey c afterKey with
      | error error => rfl
      | ok key =>
          cases containers with
          | nil => rfl
          | cons container outer =>
              simp only [ok_bind]
              by_cases old : key ∈ container.2
              · rw [if_pos old, if_pos old]
                rfl
              · rw [if_neg old, if_neg old]
                by_cases colon : afterKey.left.head? ≠ some 0x3A
                · rw [if_pos colon, if_pos colon]
                  rfl
                · rw [if_neg colon, if_neg colon]
                  rfl

-- A turn without limits beside the turn with them.
inductive TurnMeets (c : Cursor) (budget : JsonBudget) : Except OpaqueScanError Turned → Except OpaqueScanError Turned → Prop
  | fails (error error' : OpaqueScanError) : TurnMeets c budget (.error error) (.error error')
  | pays (next : Option (ScanState × List Scanner.Container)) (cursor : Cursor) (paid : JsonBudget) (text : Bytes)
      (passes : Passes c text cursor) (ended : ends .outside text = .outside) (bill : pay (marks .outside text) budget = some paid) :
      TurnMeets c budget (.ok ⟨next, cursor, paid.opened⟩) (.ok ⟨next, cursor, paid⟩)
  | refused (next : Option (ScanState × List Scanner.Container)) (cursor : Cursor) (paid : JsonBudget) (error : OpaqueScanError)
      (unpaid : pay (marks .outside c.left) budget = none) : TurnMeets c budget (.ok ⟨next, cursor, paid.opened⟩) (.error error)

variable (c : Cursor) (containers : List Scanner.Container) (budget : JsonBudget)

theorem unpaid_text (text rest : Bytes) (found : c.left = text ++ rest) (unpaid : pay (marks .outside text) budget = none) :
    pay (marks .outside c.left) budget = none := by
  rw [found, marks_append, pay_append, unpaid]
  rfl

theorem silent_meets (next : Option (ScanState × List Scanner.Container)) (cursor : Cursor) (text : Bytes) (passes : Passes c text cursor)
    (silent : Silent .outside .outside text) : TurnMeets c budget (.ok ⟨next, cursor, budget.opened⟩) (.ok ⟨next, cursor, budget⟩) :=
  .pays next cursor budget text passes silent.ends (by rw [silent.marks]; rfl)

theorem member_key_meets (byte : UInt8) (rest : Bytes) (left : c.left = byte :: rest) (string : byte = quote) :
    TurnMeets c budget (scanMemberKey c containers budget.opened) (scanMemberKey c containers budget) := by
  have free := member_key_run c containers budget.opened ⟨none, none, budget.fields + 1, budget.depth⟩ rfl
  rw [string] at left
  have spelled : ∀ turned, scanMemberKey c containers budget.opened = .ok turned → ∃ key, Passes c (quoted key ++ [0x3A]) turned.cursor ∧
      ends .outside (quoted key ++ [0x3A]) = .outside ∧ marks .outside (quoted key ++ [0x3A]) = [.member] := by
    intro turned read
    cases containers with
    | nil =>
        rw [free, keyTurn] at read
        cases scanned : scanString c with
        | error error =>
            rw [scanned] at read
            cases read
        | ok afterKey =>
            rw [scanned, ok_bind] at read
            cases decoded : decodeKey c afterKey with
            | error error =>
                rw [decoded] at read
                cases read
            | ok key =>
                rw [decoded] at read
                cases read
    | cons container outer =>
        obtain ⟨key, name, spoken, _, _, passes⟩ := member_key_sound c budget.opened turned container.1 container.2 outer rest left read
        have silent := silent_quoted key (spoken_silent key _ spoken)
        refine ⟨key, passes, ?_, ?_⟩
        · rw [ends_append, silent.ends]
          rfl
        · rw [marks_append, silent.ends, silent.marks]
          rfl
  cases counted : budget.field with
  | error limit =>
      have held : scanMemberKey c containers budget = .error (.fieldLimit c.pos limit) := by
        rw [scanMemberKey, counted]
      rw [held]
      cases read : scanMemberKey c containers budget.opened with
      | error error => exact .fails error _
      | ok turned =>
          obtain ⟨key, passes, _, marked⟩ := spelled turned read
          have same : turned.budget = turned.budget.opened := by
            rw [free] at read
            cases found : keyTurn c containers with
            | error error =>
                rw [found] at read
                cases read
            | ok both =>
                rw [found] at read
                cases read
                rfl
          have whole : turned = ⟨turned.next, turned.cursor, turned.budget.opened⟩ := by rw [← same]
          rw [whole]
          refine .refused _ _ _ _ (unpaid_text c budget _ _ passes.1 ?_)
          rw [marked]
          simp [pay, payMark, counted, Except.toOption]
  | ok paid =>
      have same : paid.opened = ⟨none, none, budget.fields + 1, budget.depth⟩ := (Except.ok.inj (field_opened _ _ counted)).symm
      rw [← same] at free
      have held := member_key_run c containers budget paid counted
      cases found : keyTurn c containers with
      | error error =>
          rw [free, held, found]
          exact .fails error error
      | ok both =>
          rw [found] at free held
          obtain ⟨key, passes, ended, marked⟩ := spelled _ free
          rw [free, held]
          refine .pays both.1 both.2 paid _ passes ended ?_
          rw [marked]
          simp [pay, payMark, counted, Except.toOption]

theorem enter_meets (byte : UInt8) (rest : Bytes) (left : c.left = byte :: rest) (opens : marks .outside [byte] = [.opening])
    (stays : ends .outside [byte] = .outside) (next : Option (ScanState × List Scanner.Container)) (read : JsonBudget → Except OpaqueScanError Turned)
    (refuses : ∀ budget limit, budget.enter = .error limit → read budget = .error (.depthLimit c.pos limit))
    (enters : ∀ budget entered, budget.enter = .ok entered → read budget = .ok ⟨next, c.bump, entered⟩) :
    TurnMeets c budget (read budget.opened) (read budget) := by
  have passes := bump_passes c byte rest left
  rw [enters budget.opened ⟨none, none, budget.fields, budget.depth + 1⟩ rfl]
  cases entered : budget.enter with
  | error limit =>
      rw [refuses budget limit entered]
      refine .refused next c.bump ⟨none, none, budget.fields, budget.depth + 1⟩ _ (unpaid_text c budget _ _ passes.1 ?_)
      rw [opens]
      simp [pay, payMark, entered, Except.toOption]
  | ok paid =>
      have same : paid.opened = ⟨none, none, budget.fields, budget.depth + 1⟩ := (Except.ok.inj (enter_opened _ _ entered)).symm
      rw [enters budget paid entered, ← same]
      refine .pays next c.bump paid [byte] passes stays ?_
      rw [opens]
      simp [pay, payMark, entered, Except.toOption]

theorem value_start_meets : TurnMeets c budget (scanValueStart c containers budget.opened) (scanValueStart c containers budget) := by
  cases left : c.left with
  | nil =>
      rw [scanValueStart, scanValueStart, left]
      exact .fails _ _
  | cons byte rest =>
      by_cases brace : byte = 0x7B
      · refine enter_meets c budget byte rest left (by rw [brace]; rfl) (by rw [brace]; rfl) (some (.firstKey, (true, []) :: containers))
          (scanValueStart c containers) ?_ ?_
        · intro given limit entered
          rw [scanValueStart, left]
          simp only
          rw [if_pos brace, entered]
        · intro given paid entered
          rw [scanValueStart, left]
          simp only
          rw [if_pos brace, entered]
      · by_cases bracket : byte = 0x5B
        · refine enter_meets c budget byte rest left (by rw [bracket]; rfl) (by rw [bracket]; rfl) (some (.firstValue, (false, []) :: containers))
            (scanValueStart c containers) ?_ ?_
          · intro given limit entered
            rw [scanValueStart, left]
            simp only
            rw [if_neg brace, if_pos bracket, entered]
          · intro given paid entered
            rw [scanValueStart, left]
            simp only
            rw [if_neg brace, if_pos bracket, entered]
        · have run : ∀ given : JsonBudget, scanValueStart c containers given =
              (scanScalar byte c).map fun after => ⟨some (.afterValue, containers), after, given⟩ := by
            intro given
            rw [scanValueStart, left]
            simp only
            rw [if_neg brace, if_neg bracket]
            cases scanScalar byte c with
            | error error => rfl
            | ok after => rfl
          rw [run, run]
          cases scanned : scanScalar byte c with
          | error error => exact .fails error error
          | ok after =>
              obtain ⟨text, plain, passes⟩ := scan_scalar_sound c after byte rest left scanned
              exact silent_meets c budget _ _ text passes (silent_scalar Spoken spoken_silent text plain)

theorem closed_meets (outer : List Scanner.Container) (byte : UInt8) (rest : Bytes) (left : c.left = byte :: rest)
    (closes : byte = 0x7D ∨ byte = 0x5D) : TurnMeets c budget (.ok (closed outer c budget.opened)) (.ok (closed outer c budget)) := by
  have passes := bump_passes c byte rest left
  have marked : ends .outside [byte] = .outside ∧ marks .outside [byte] = [.closing] := by
    rcases closes with brace | bracket
    · rw [brace]
      exact ⟨rfl, rfl⟩
    · rw [bracket]
      exact ⟨rfl, rfl⟩
  have bill : pay (marks .outside [byte]) budget = some budget.leave := by
    rw [marked.2]
    rfl
  cases outer with
  | nil => exact .pays _ _ budget.leave [byte] passes marked.1 bill
  | cons container others => exact .pays _ _ budget.leave [byte] passes marked.1 bill

theorem turn_meets (state : ScanState) : TurnMeets c budget (turn state containers c budget.opened) (turn state containers c budget) := by
  cases left : c.left with
  | nil =>
      rw [turn, turn, left]
      exact .fails _ _
  | cons byte rest =>
      rw [turn, turn, left]
      cases state with
      | firstKey =>
          simp only
          by_cases closer : byte = 0x7D
          · rw [if_pos closer, if_pos closer]
            exact closed_meets c budget containers.tail byte rest left (.inl closer)
          · rw [if_neg closer, if_neg closer]
            by_cases string : byte = quote
            · rw [if_pos string, if_pos string]
              exact member_key_meets c containers budget byte rest left string
            · rw [if_neg string, if_neg string]
              exact .fails _ _
      | nextKey =>
          simp only
          by_cases string : byte = quote
          · rw [if_pos string, if_pos string]
            exact member_key_meets c containers budget byte rest left string
          · rw [if_neg string, if_neg string]
            exact .fails _ _
      | value => exact value_start_meets c containers budget
      | firstValue =>
          simp only
          by_cases closer : byte = 0x5D
          · rw [if_pos closer, if_pos closer]
            exact closed_meets c budget containers.tail byte rest left (.inr closer)
          · rw [if_neg closer, if_neg closer]
            exact silent_meets c budget _ c [] (passes_nil c) (silent_nil _)
      | afterValue =>
          cases containers with
          | nil => exact .fails _ _
          | cons container outer =>
              simp only
              by_cases comma : byte = 0x2C
              · rw [if_pos comma, if_pos comma]
                exact silent_meets c budget _ _ [byte] (bump_passes c byte rest left) (by rw [comma]; exact ⟨rfl, rfl⟩)
              · rw [if_neg comma, if_neg comma]
                by_cases closer : (byte = 0x7D ∧ container.1 = true) ∨ (byte = 0x5D ∧ ¬container.1 = true)
                · rw [if_pos closer, if_pos closer]
                  exact closed_meets c budget outer byte rest left (closer.imp And.left And.left)
                · rw [if_neg closer, if_neg closer]
                  exact .fails _ _

-- A scan without limits beside the scan with them.
inductive ScanMeets (c : Cursor) (budget : JsonBudget) :
    Except OpaqueScanError (Nat × JsonBudget) → Except OpaqueScanError (Nat × JsonBudget) → Prop
  | fails (error error' : OpaqueScanError) : ScanMeets c budget (.error error) (.error error')
  | pays (stop : Nat) (paid : JsonBudget) (text rest : Bytes) (passes : Passes c text ⟨stop, rest⟩) (ended : ends .outside text = .outside)
      (bill : pay (marks .outside text) budget = some paid) : ScanMeets c budget (.ok (stop, paid.opened)) (.ok (stop, paid))
  | refused (stop : Nat) (paid : JsonBudget) (error : OpaqueScanError) (unpaid : pay (marks .outside c.left) budget = none) :
      ScanMeets c budget (.ok (stop, paid.opened)) (.error error)

theorem turns_meets (fuel : Nat) (state : ScanState) :
    ScanMeets c budget (turns fuel state containers c budget.opened) (turns fuel state containers c budget) := by
  induction fuel generalizing state containers c budget with
  | zero => exact .fails _ _
  | succ fuel ih =>
      rw [turns, turns]
      have first := turn_meets c containers budget state
      generalize turn state containers c budget.opened = free at first
      generalize turn state containers c budget = held at first
      cases first with
      | fails error error' => exact .fails error error'
      | pays next cursor paid text passes ended bill =>
          rw [ok_bind, ok_bind]
          cases next with
          | none => exact .pays cursor.pos paid text cursor.left passes ended bill
          | some both =>
              have later := ih cursor both.2 paid both.1
              simp only
              generalize turns fuel both.1 both.2 cursor paid.opened = free at later
              generalize turns fuel both.1 both.2 cursor paid = held at later
              cases later with
              | fails error error' => exact .fails error error'
              | pays stop last more rest passes' ended' bill' =>
                  refine .pays stop last (text ++ more) rest (passes_append _ _ _ _ _ passes passes') ?_ ?_
                  · rw [ends_append, ended, ended']
                  · rw [marks_append, pay_append, bill, ended]
                    exact bill'
              | refused stop last error unpaid =>
                  refine .refused stop last error ?_
                  rw [passes.1, marks_append, pay_append, bill, ended]
                  exact unpaid
      | refused next cursor paid error unpaid =>
          rw [ok_bind]
          show ScanMeets c budget _ (.error error)
          cases next with
          | none => exact .refused cursor.pos paid error unpaid
          | some both =>
              have later := ih cursor both.2 paid both.1
              simp only
              generalize turns fuel both.1 both.2 cursor paid.opened = free at later
              generalize turns fuel both.1 both.2 cursor paid = held at later
              cases later with
              | fails error' _ => exact .fails error' error
              | pays stop last _ _ _ _ _ => exact .refused stop last error unpaid
              | refused stop last _ _ => exact .refused stop last error unpaid

theorem object_len_meets (input : Bytes) : ScanMeets ⟨0, input⟩ budget (objectLen input budget.opened) (objectLen input budget) := by
  by_cases brace : input.head? = some 0x7B
  · obtain ⟨rest, split⟩ := head_cons ⟨0, input⟩ 0x7B brace
    have whole : input = 0x7B :: rest := split
    have refuses : ∀ (given : JsonBudget) limit, given.enter = .error limit → objectLen input given = .error (.depthLimit 0 limit) := by
      intro given limit entered
      rw [objectLen, if_neg (fun other => other brace), entered]
    have enters : ∀ given paid : JsonBudget, given.enter = .ok paid →
        objectLen input given = turns (2 * input.length + 2) .firstKey [(true, [])] ⟨1, rest⟩ paid := by
      intro given paid entered
      have stripped : input.tail = rest := congrArg List.tail whole
      rw [objectLen, if_neg (fun other => other brace), entered, ← stripped]
    have first : Passes ⟨0, input⟩ [0x7B] ⟨1, rest⟩ := ⟨whole, rfl⟩
    rw [enters budget.opened ⟨none, none, budget.fields, budget.depth + 1⟩ rfl]
    cases entered : budget.enter with
    | error limit =>
        rw [refuses budget limit entered]
        have unpaid : pay (marks .outside input) budget = none := by
          rw [whole, show marks .outside (0x7B :: rest) = .opening :: marks .outside rest from rfl]
          simp [pay, payMark, entered, Except.toOption]
        have later := turns_meets ⟨1, rest⟩ [(true, [])] ⟨none, none, budget.fields, budget.depth + 1⟩ (2 * input.length + 2) .firstKey
        have same : (JsonBudget.mk none none budget.fields (budget.depth + 1)).opened = ⟨none, none, budget.fields, budget.depth + 1⟩ := rfl
        rw [← same]
        generalize turns (2 * input.length + 2) .firstKey [(true, [])] ⟨1, rest⟩
          (JsonBudget.mk none none budget.fields (budget.depth + 1)).opened = free at later
        generalize turns (2 * input.length + 2) .firstKey [(true, [])] ⟨1, rest⟩ ⟨none, none, budget.fields, budget.depth + 1⟩ = held at later
        cases later with
        | fails error' _ => exact .fails error' _
        | pays stop last _ _ _ _ _ => exact .refused stop last _ unpaid
        | refused stop last _ _ => exact .refused stop last _ unpaid
    | ok paid =>
        have same : paid.opened = ⟨none, none, budget.fields, budget.depth + 1⟩ := (Except.ok.inj (enter_opened _ _ entered)).symm
        have bill : pay (marks .outside [0x7B]) budget = some paid := by
          rw [show marks .outside [0x7B] = [.opening] from rfl]
          simp [pay, payMark, entered, Except.toOption]
        rw [enters budget paid entered, ← same]
        have later := turns_meets ⟨1, rest⟩ [(true, [])] paid (2 * input.length + 2) .firstKey
        generalize turns (2 * input.length + 2) .firstKey [(true, [])] ⟨1, rest⟩ paid.opened = free at later
        generalize turns (2 * input.length + 2) .firstKey [(true, [])] ⟨1, rest⟩ paid = held at later
        cases later with
        | fails error error' => exact .fails error error'
        | pays stop last more rest' passes' ended' bill' =>
            refine .pays stop last ([0x7B] ++ more) rest' (passes_append _ _ _ _ _ first passes') ended' ?_
            rw [marks_append, pay_append, bill]
            exact bill'
        | refused stop last error unpaid =>
            refine .refused stop last error ?_
            rw [whole, show (0x7B : UInt8) :: rest = [0x7B] ++ rest from rfl, marks_append, pay_append, bill]
            exact unpaid
  · rw [objectLen, objectLen, if_pos brace, if_pos brace]
    exact .fails _ _

end Opaque

section Seal

open Scanner

theorem dispatch_priced {α : Type} {strict : Prop} (missing : String) (readers : List (String × Scan α))
    (each : ∀ both ∈ readers, Fair .outside .outside both.1 ∧ Priced strict .outside .outside both.2) :
    Priced strict .outside .outside (dispatch missing readers) := by
  induction readers with
  | nil => exact priced_get _ (fun _ => rfl) fun sc => priced_reject _ rfl sc
  | cons both others ih =>
      obtain ⟨first, later⟩ := List.forall_mem_cons.mp each
      exact priced_lit both.1 _ first.1 first.2 (ih later)

theorem codex_priced : Priced True .outside .outside ParsedSeal.codex := by
  have closing : ∀ parsed : ParsedSeal, Priced True .outside .outside (do expect "\x7d"; pure parsed) := fun parsed =>
    priced_bind _ _ (priced_expect "\x7d" ⟨rfl, rfl⟩) fun _ => priced_pure parsed
  have digest : Priced True .outside .outside (field ",\"d\":" stringValue) := field_priced _ _ ⟨rfl, rfl⟩ string_value_priced
  have sequence : Priced True .outside .outside (field ",\"s\":" stringValue) := field_priced _ _ ⟨rfl, rfl⟩ string_value_priced
  refine priced_bind _ _ (priced_expect "\x7b" ⟨rfl, rfl⟩) fun _ => dispatch_priced _ _ ?_
  intro both inside
  simp only [ParsedSeal.codexKeys, List.mem_cons, List.not_mem_nil, or_false] at inside
  rcases inside with rfl | rfl | rfl | rfl | rfl | rfl
  · exact ⟨⟨rfl, rfl⟩, priced_bind _ _ string_value_priced fun d => closing _⟩
  · exact ⟨⟨rfl, rfl⟩, priced_bind _ _ string_value_priced fun rd => closing _⟩
  · exact ⟨⟨rfl, rfl⟩, priced_bind _ _ string_value_priced fun s => priced_bind _ _ digest fun d => closing _⟩
  · refine ⟨⟨rfl, rfl⟩, priced_bind _ _ string_value_priced fun i => priced_lit "\x7d" _ ⟨rfl, rfl⟩ (priced_pure _) ?_⟩
    exact priced_bind _ _ sequence fun s => priced_bind _ _ digest fun d => closing _
  · exact ⟨⟨rfl, rfl⟩, priced_bind _ _ string_value_priced fun bi => priced_bind _ _ digest fun d => closing _⟩
  · exact ⟨⟨rfl, rfl⟩, priced_bind _ _ string_value_priced fun t => priced_bind _ _ digest fun d => closing _⟩

theorem opaque_body_priced : Priced False .outside .outside ParsedSeal.opaqueBody := by
  intro sc
  have run : ∀ given : Scanner, ParsedSeal.opaqueBody given =
      (((OpaqueScan.objectLen given.left given.budget).mapError fun source => CodecError.deserialize (.invalidAnchor given.pos source)) >>=
        fun found => ParsedSeal.opaqueText given found.1 >>= fun raw =>
          .ok (ParsedSeal.opaqueSeal raw, ⟨given.input, given.pos + found.1, found.2⟩)) := fun _ => rfl
  have same : OpaqueScan.objectLen sc.opened.left sc.opened.budget = OpaqueScan.objectLen sc.left sc.budget.opened := rfl
  rw [run, run, same]
  have scanned := object_len_meets sc.budget sc.left
  generalize OpaqueScan.objectLen sc.left sc.budget.opened = free at scanned
  generalize OpaqueScan.objectLen sc.left sc.budget = held at scanned
  cases scanned with
  | fails error error' => exact .fails _ _ False.elim False.elim
  | pays stop paid text rest passes ended bill =>
      have size : stop = text.length := passes.2.trans (Nat.zero_add _)
      have took := took_moved sc text rest passes.1
      show Meets _ _ _ _ (ParsedSeal.opaqueText sc stop >>= _) (ParsedSeal.opaqueText sc stop >>= _)
      cases ParsedSeal.opaqueText sc stop with
      | error error => exact .fails error error False.elim False.elim
      | ok raw =>
          refine .pays (ParsedSeal.opaqueSeal raw) ⟨sc.input, sc.pos + stop, paid⟩ text ?_ ended bill
          rw [size]
          exact ⟨rfl, took.1.left, rfl⟩
  | refused stop paid error unpaid =>
      show Meets _ _ _ _ (ParsedSeal.opaqueText sc stop >>= _) (.error _)
      cases ParsedSeal.opaqueText sc stop with
      | error error => exact .fails error _ False.elim False.elim
      | ok raw => exact .refused (ParsedSeal.opaqueSeal raw) ⟨sc.input, sc.pos + stop, paid⟩ _ False.elim unpaid

-- The typed reader costs nothing when the other one starts over.
theorem seal_priced : Priced False .outside .outside ParsedSeal.decode := by
  intro sc
  unfold ParsedSeal.decode
  have typed := codex_priced sc
  have other := opaque_body_priced sc
  generalize ParsedSeal.codex sc.opened = free at typed
  generalize ParsedSeal.codex sc = held at typed
  cases typed with
  | fails error error' plain unpaid =>
      simp only
      rw [plain trivial]
      by_cases limit : error'.isLimit = true
      · rw [if_pos limit]
        have spent := unpaid trivial limit
        generalize ParsedSeal.opaqueBody sc.opened = free at other
        generalize ParsedSeal.opaqueBody sc = held at other
        cases other with
        | fails error _ _ _ => exact .fails _ _ False.elim False.elim
        | pays value done _ _ _ _ => exact .refused value done _ False.elim spent
        | refused value done _ _ _ => exact .refused value done _ False.elim spent
      · rw [if_neg limit]
        exact other
  | pays value done text took ended bill => exact .pays value done text took ended bill
  | refused value done error limit unpaid =>
      simp only
      rw [if_pos (limit trivial)]
      exact .refused value done error False.elim unpaid

end Seal

end Cesr.Codec
