import Cesr.Codec.Meter

set_option autoImplicit false

namespace Cesr.Codec

open Checks WriterJson Scanner JsonTally JsonBudget

section Numbers

theorem take_any_priced (lits : List String) (fair : ∀ lit ∈ lits, Fair .outside .outside lit) :
    Priced False .outside .outside (takeAny lits) := by
  induction lits with
  | nil => exact priced_pure false
  | cons lit others ih =>
      obtain ⟨first, later⟩ := List.forall_mem_cons.mp fair
      exact priced_lit lit _ first (priced_pure true) (ih later)

theorem digits_silent (digits : Bytes) (all : ∀ byte ∈ digits, isDigit byte = true) : Silent .outside .outside digits :=
  silent_calm digits fun byte inside => digit_calm byte (all byte inside)

theorem moved_meets {strict : Prop} {start stop : Mode} (sc : Scanner) (text rest : Bytes) (found : sc.left = text ++ rest)
    (silent : Silent start stop text) (read : Except CodecError (Unit × Scanner)) (free : Except CodecError (Unit × Scanner))
    (held : read = .ok ((), sc.moved (sc.pos + text.length)))
    (opened' : free = .ok ((), (sc.moved (sc.pos + text.length)).opened)) : Meets strict start stop sc free read := by
  rw [held, opened']
  exact .pays () _ text (took_moved sc text rest found).1 silent.ends (by rw [silent.marks]; rfl)

theorem skip_digits_meets (sc : Scanner) : Meets False .outside .outside sc (skipDigits sc.opened) (skipDigits sc) := by
  have split := (List.takeWhile_append_dropWhile (p := isDigit) (l := sc.left)).symm
  exact moved_meets sc _ _ split (digits_silent _ fun byte inside => List.mem_takeWhile_imp inside) _ _ rfl rfl

theorem some_digits_priced (expected : String) : Priced False .outside .outside (someDigits expected) :=
  priced_get _ (fun _ => rfl) fun sc => meets_ite _ _ _ sc (fun _ => skip_digits_meets sc) fun _ => priced_reject _ rfl sc

theorem advance_meets (sc : Scanner) (zero : sc.peek = some 0x30) : Meets False .outside .outside sc (advance sc.opened) (advance sc) := by
  obtain ⟨rest, split⟩ : ∃ rest, sc.left = [0x30] ++ rest := by
    rw [peek_left] at zero
    cases found : sc.left with
    | nil =>
        rw [found] at zero
        cases zero
    | cons byte rest =>
        rw [found] at zero
        exact ⟨rest, by rw [Option.some.inj zero]; rfl⟩
  exact moved_meets sc [0x30] rest split (digits_silent [0x30] (List.forall_mem_singleton.mpr rfl)) _ _ rfl rfl

theorem whole_digits_priced (zeros expected : String) : Priced False .outside .outside (wholeDigits zeros expected) := by
  refine priced_get _ (fun _ => rfl) fun sc => meets_ite _ _ _ sc (fun zero => ?_) fun _ => meets_ite _ _ _ sc (fun _ => ?_) fun _ => ?_
  · refine meets_bind _ _ sc (advance_meets sc zero) fun _ _ _ => priced_get _ (fun _ => rfl) fun at' => meets_ite _ _ _ at' ?_ ?_
    · exact fun _ => priced_reject _ rfl at'
    · exact fun _ => priced_pure () at'
  · exact skip_digits_meets sc
  · exact priced_reject _ rfl sc

theorem text_from_priced (start : Nat) (expected : String) : Priced False .outside .outside (textFrom start expected) :=
  priced_get _ (fun _ => rfl) fun sc => priced_check _ False.elim sc

theorem number_sign_priced : Priced False .outside .outside numberSign := by
  refine priced_lit "-" _ ⟨rfl, rfl⟩ ?_ ?_
  all_goals
    exact priced_get _ (fun _ => rfl) fun sc => meets_ite _ _ _ sc (fun _ => priced_reject _ rfl sc) fun _ => priced_pure () sc

theorem number_fraction_priced : Priced False .outside .outside numberFraction :=
  priced_lit "." _ ⟨rfl, rfl⟩ (some_digits_priced _) (priced_pure ())

theorem number_exponent_priced : Priced False .outside .outside numberExponent := by
  have signs : Priced False .outside .outside (takeAny ["+", "-"]) := by
    apply take_any_priced
    exact List.forall_mem_cons.mpr ⟨⟨rfl, rfl⟩, List.forall_mem_singleton.mpr ⟨rfl, rfl⟩⟩
  have marks : Priced False .outside .outside (takeAny ["e", "E"]) := by
    apply take_any_priced
    exact List.forall_mem_cons.mpr ⟨⟨rfl, rfl⟩, List.forall_mem_singleton.mpr ⟨rfl, rfl⟩⟩
  refine priced_bind _ _ marks fun exponent => priced_ite _ _ _ ?_ (priced_pure ())
  exact priced_bind _ _ signs fun _ => some_digits_priced _

theorem json_number_priced : Priced False .outside .outside jsonNumber := by
  refine priced_get _ (fun _ => rfl) fun sc => meets_bind _ _ sc (number_sign_priced sc) fun _ _ _ => ?_
  refine priced_bind _ _ (whole_digits_priced _ _) fun _ => priced_bind _ _ number_fraction_priced fun _ => ?_
  exact priced_bind _ _ number_exponent_priced fun _ => text_from_priced _ _

theorem integer_priced : Priced False .outside .outside integer :=
  priced_get _ (fun _ => rfl) fun sc => meets_bind _ _ sc (whole_digits_priced _ _ sc) fun _ _ _ => text_from_priced _ _

end Numbers

section Members

def keyBody (containers : List Container) : Scan (List Container) := do
  let sc ← get
  let key ← jsonString
  match containers with
  | [] => throw (.internal (.eventLayout "JSON object key without container"))
  | (kind, seen) :: outer =>
      if key.value ∈ seen then reject (sc.errAt key.start "unique JSON key") else pure ((kind, key.value :: seen) :: outer)

def memberBody (containers : List Container) : Scan Walked := do
  let named ← keyBody containers
  expect ":"
  pure (some (.value, named))

theorem member_run (containers : List Container) (sc : Scanner) :
    (∀ limit, sc.budget.field = .error limit → member containers sc = refuse (.jsonFieldLimit sc.pos limit)) ∧
      ∀ budget, sc.budget.field = .ok budget → member containers sc = memberBody containers ⟨sc.input, sc.pos, budget⟩ := by
  apply And.intro
  · intro limit counted
    have keyed : jsonKey containers sc = refuse (.jsonFieldLimit sc.pos limit) := by
      rw [jsonKey, scan_get_run, counted]
      rfl
    show (jsonKey containers sc >>= _) = _
    rw [keyed]
    rfl
  · intro budget counted
    have keyed : jsonKey containers sc = keyBody containers ⟨sc.input, sc.pos, budget⟩ := by
      rw [jsonKey, scan_get_run, counted]
      rfl
    show (jsonKey containers sc >>= _) = _
    rw [keyed]
    rfl

theorem member_body_ok (containers : List Container) (sc sc' : Scanner) (next : Walked) :
    memberBody containers sc = .ok (next, sc') ↔
      ∃ key kind seen outer rest, containers = (kind, seen) :: outer ∧ key ∉ seen ∧ Content Utf8 (asBytes key) ∧
        sc.left = quoted (asBytes key) ++ [0x3A] ++ rest ∧ next = some (.value, (kind, key :: seen) :: outer) ∧
        sc' = sc.moved (sc.pos + (quoted (asBytes key) ++ [0x3A]).length) := by
  have colon : asBytes ":" = [0x3A] := rfl
  have placed : ∀ key : Bytes, (sc.moved (sc.pos + (quoted key).length)).moved (sc.pos + (quoted key).length + (asBytes ":").length) =
      sc.moved (sc.pos + (quoted key ++ [0x3A]).length) := by
    intro key
    rw [List.length_append, ← Nat.add_assoc]
    rfl
  apply Iff.intro
  · intro read
    rw [memberBody, scan_bind_ok] at read
    obtain ⟨named, at', keyed, read⟩ := read
    rw [scan_bind_ok] at read
    obtain ⟨_, at'', taken, read⟩ := read
    obtain ⟨same, same'⟩ := (scan_pure_ok _ _ _ _).mp read
    rw [keyBody, scan_get_run, scan_bind_ok] at keyed
    obtain ⟨key, at1, spoken, keyed⟩ := keyed
    obtain ⟨took, allowed, _, _⟩ := json_string_took _ _ _ spoken
    rw [json_string_reads key.value sc _ took.left allowed] at spoken
    obtain ⟨_, reached⟩ := Prod.mk.inj (Except.ok.inj spoken)
    cases containers with
    | nil => cases keyed
    | cons container outer =>
        obtain ⟨kind, seen⟩ := container
        simp only at keyed
        by_cases old : key.value ∈ seen
        · rw [if_pos old] at keyed
          cases keyed
        · rw [if_neg old] at keyed
          obtain ⟨shown, stays⟩ := (scan_pure_ok _ _ _ _).mp keyed
          have behind := (expect_took _ _ _ _ taken).left
          rw [expect_free ":" at' _ rfl behind] at taken
          obtain ⟨_, moved'⟩ := Prod.mk.inj (Except.ok.inj taken)
          refine ⟨key.value, kind, seen, outer, at''.left, rfl, old, allowed, ?_, by rw [← same, shown], ?_⟩
          · rw [took.left, stays, behind, colon, List.append_assoc]
          · rw [← same', ← moved', ← stays, ← reached]
            exact placed _
  · intro found
    obtain ⟨key, kind, seen, outer, rest, rfl, fresh, allowed, split, rfl, rfl⟩ := found
    rw [List.append_assoc] at split
    have behind := (took_moved sc _ _ split).2
    have keyed : keyBody ((kind, seen) :: outer) sc = .ok ((kind, key :: seen) :: outer, sc.moved (sc.pos + (quoted (asBytes key)).length)) := by
      rw [keyBody, scan_get_run, scan_bind_run _ _ _ _ _ (json_string_reads key sc _ split allowed)]
      simp only
      rw [if_neg fresh]
      rfl
    rw [memberBody, scan_bind_run _ _ _ _ _ keyed, scan_bind_run _ _ _ _ _ (expect_free ":" _ rest rfl behind)]
    exact congrArg (fun at' => Except.ok (some (ValueScanState.value, (kind, key :: seen) :: outer), at')) (placed _)

theorem key_marks (key : Bytes) (allowed : Content Utf8 key) :
    ends .outside (quoted key ++ [0x3A]) = .outside ∧ marks .outside (quoted key ++ [0x3A]) = [.member] := by
  have silent := silent_quoted key (content_silent key allowed.2)
  rw [ends_append, marks_append, silent.ends, silent.marks]
  exact ⟨rfl, rfl⟩

theorem member_priced (containers : List Container) : Priced False .outside .outside (member containers) := by
  intro sc
  have free : member containers sc.opened = memberBody containers ⟨sc.input, sc.pos, ⟨none, none, sc.budget.fields + 1, sc.budget.depth⟩⟩ :=
    (member_run containers sc.opened).2 _ rfl
  cases counted : sc.budget.field with
  | error limit =>
      rw [free, (member_run containers sc).1 limit counted]
      cases read : memberBody containers ⟨sc.input, sc.pos, ⟨none, none, sc.budget.fields + 1, sc.budget.depth⟩⟩ with
      | error error => exact .fails error _ False.elim False.elim
      | ok done =>
          obtain ⟨key, kind, seen, outer, rest, _, _, allowed, split, _, at'⟩ := (member_body_ok _ _ done.2 done.1).mp read
          have same : done = (done.1, done.2.opened) := by
            rw [at']
            exact Prod.ext rfl at'
          rw [same]
          refine .refused done.1 done.2 _ False.elim ?_
          rw [Overspent, show sc.left = quoted (asBytes key) ++ [0x3A] ++ rest from split, marks_append, (key_marks _ allowed).2, pay_append]
          simp [pay, payMark, counted, Except.toOption]
  | ok paid =>
      have same : paid.opened = ⟨none, none, sc.budget.fields + 1, sc.budget.depth⟩ := (Except.ok.inj (field_opened _ _ counted)).symm
      rw [free, (member_run containers sc).2 paid counted, ← same]
      cases held : memberBody containers ⟨sc.input, sc.pos, paid⟩ with
      | error error =>
          cases read : memberBody containers ⟨sc.input, sc.pos, paid.opened⟩ with
          | error error' => exact .fails error' error False.elim False.elim
          | ok done =>
              obtain ⟨key, kind, seen, outer, rest, shape, fresh, allowed, split, _, _⟩ := (member_body_ok _ _ done.2 done.1).mp read
              have held' := (member_body_ok containers ⟨sc.input, sc.pos, paid⟩ _ _).mpr
                ⟨key, kind, seen, outer, rest, shape, fresh, allowed, split, rfl, rfl⟩
              rw [held] at held'
              cases held'
      | ok done =>
          obtain ⟨key, kind, seen, outer, rest, shape, fresh, allowed, split, next, at'⟩ := (member_body_ok _ _ done.2 done.1).mp held
          have read := (member_body_ok containers ⟨sc.input, sc.pos, paid.opened⟩ _ _).mpr
            ⟨key, kind, seen, outer, rest, shape, fresh, allowed, split, rfl, rfl⟩
          have whole : done = (done.1, done.2) := rfl
          rw [read, whole, next, at']
          refine .pays _ ((Scanner.mk sc.input sc.pos paid).moved _) (quoted (asBytes key) ++ [0x3A]) ?_ (key_marks _ allowed).1 ?_
          · exact ⟨rfl, (took_moved sc _ rest split).1.left, rfl⟩
          · rw [(key_marks _ allowed).2]
            simp [pay, payMark, counted, Except.toOption, Scanner.moved]

end Members

section Walk

theorem canonical_value_start_priced (containers : List Container) : Priced False .outside .outside (canonicalValueStart containers) := by
  have words : Priced False .outside .outside (takeAny ["true", "false", "null"]) := by
    apply take_any_priced
    exact List.forall_mem_cons.mpr ⟨⟨rfl, rfl⟩, List.forall_mem_cons.mpr ⟨⟨rfl, rfl⟩, List.forall_mem_singleton.mpr ⟨rfl, rfl⟩⟩⟩
  refine priced_get _ (fun _ => rfl) fun sc => meets_ite _ _ _ sc (fun _ => ?_) fun _ => meets_ite _ _ _ sc (fun _ => ?_) fun _ => ?_
  · exact meets_bind _ _ sc (json_string_priced sc) fun _ _ _ => priced_pure _
  · exact meets_bind _ _ sc (json_number_priced sc) fun _ _ _ => priced_pure _
  · refine meets_ite _ _ _ sc (fun _ => ?_) fun _ => meets_ite _ _ _ sc (fun _ => ?_) fun _ => ?_
    · exact meets_bind _ _ sc (priced_expect "\x7b" ⟨rfl, rfl⟩ sc) fun _ _ _ => priced_pure _
    · exact meets_bind _ _ sc (priced_expect "[" ⟨rfl, rfl⟩ sc) fun _ _ _ => priced_pure _
    · exact meets_bind _ _ sc (words sc) fun word _ _ =>
        priced_ite _ _ _ (priced_pure _) fun at' => priced_reject _ rfl at'

theorem after_value_turn_priced (containers : List Container) : Priced False .outside .outside (afterValueTurn containers) := by
  cases containers with
  | nil => exact priced_get _ (fun _ => rfl) fun sc => priced_pure _ sc
  | cons container outer =>
      refine priced_get _ (fun _ => rfl) fun sc => meets_ite _ _ _ sc (fun _ => ?_) fun _ => meets_ite _ _ _ sc (fun _ => ?_) fun _ => ?_
      · exact meets_bind _ _ sc (priced_expect "," ⟨rfl, rfl⟩ sc) fun _ _ _ => priced_pure _
      · exact meets_bind _ _ sc (priced_expect "\x7d" ⟨rfl, rfl⟩ sc) fun _ _ _ => priced_pure _
      · refine meets_ite _ _ _ sc (fun _ => ?_) fun _ => priced_reject _ rfl sc
        exact meets_bind _ _ sc (priced_expect "]" ⟨rfl, rfl⟩ sc) fun _ _ _ => priced_pure _

theorem canonical_turn_priced (state : ValueScanState) (containers : List Container) :
    Priced False .outside .outside (canonicalTurn state containers) := by
  cases state with
  | value => exact priced_get _ (fun _ => rfl) fun sc => canonical_value_start_priced containers sc
  | firstMember =>
      refine priced_get _ (fun _ => rfl) fun sc => meets_ite _ _ _ sc (fun _ => ?_) fun _ => meets_ite _ _ _ sc (fun _ => ?_) fun _ => ?_
      · exact meets_bind _ _ sc (priced_expect "\x7d" ⟨rfl, rfl⟩ sc) fun _ _ _ => priced_pure _
      · exact member_priced containers sc
      · exact priced_reject _ rfl sc
  | nextMember =>
      exact priced_get _ (fun _ => rfl) fun sc => meets_ite _ _ _ sc (fun _ => member_priced containers sc) fun _ => priced_reject _ rfl sc
  | firstItem =>
      refine priced_get _ (fun _ => rfl) fun sc => meets_ite _ _ _ sc (fun _ => ?_) fun _ => priced_pure _ sc
      exact meets_bind _ _ sc (priced_expect "]" ⟨rfl, rfl⟩ sc) fun _ _ _ => priced_pure _
  | afterValue => exact priced_get _ (fun _ => rfl) fun sc => after_value_turn_priced containers sc

theorem canonical_turns_priced (fuel : Nat) (state : ValueScanState) (containers : List Container) :
    Priced False .outside .outside (canonicalTurns fuel state containers) := by
  induction fuel generalizing state containers with
  | zero => exact fun sc => meets_error sc _ rfl
  | succ fuel ih =>
      refine priced_bind _ _ (canonical_turn_priced state containers) fun next => ?_
      cases next with
      | none => exact priced_pure ()
      | some both => exact ih both.1 both.2

theorem canonical_value_priced : Priced False .outside .outside canonicalValue :=
  priced_get _ (fun _ => rfl) fun sc => canonical_turns_priced _ _ _ sc

theorem object_value_span_priced : Priced False .outside .outside objectValueSpan := by
  refine priced_get _ (fun _ => rfl) fun sc => meets_ite _ _ _ sc (fun _ => ?_) fun _ => priced_reject _ rfl sc
  refine priced_get _ (fun _ => rfl) (fun sc => ?_) sc
  refine meets_bind _ _ sc (canonical_value_priced sc) fun _ _ _ => ?_
  exact priced_get _ (fun _ => rfl) fun at' => priced_pure _ at'

variable {α : Type} (item : Scan α)

theorem more_items_priced (each : Priced False .outside .outside item) (fuel : Nat) : Priced False .outside .outside (moreItems item fuel) := by
  induction fuel with
  | zero => exact priced_get _ (fun _ => rfl) fun sc => priced_reject _ rfl sc
  | succ fuel ih =>
      refine priced_lit "]" _ ⟨rfl, rfl⟩ (priced_pure []) ?_
      refine priced_bind _ _ (priced_expect "," ⟨rfl, rfl⟩) fun _ => priced_bind _ _ each fun value => ?_
      exact priced_bind _ _ ih fun rest => priced_pure _

theorem tail_list_priced (each : Priced False .outside .outside item) : Priced False .outside .outside (tailList item) := by
  refine priced_bind _ _ each fun first => priced_get _ (fun _ => rfl) fun sc => ?_
  exact meets_bind _ _ sc (more_items_priced item each _ sc) fun _ _ _ => priced_pure _

theorem delimited_list_priced (each : Priced False .outside .outside item) : Priced False .outside .outside (delimitedList item) := by
  refine priced_bind _ _ (priced_expect "[" ⟨rfl, rfl⟩) fun _ => ?_
  exact priced_lit "]" _ ⟨rfl, rfl⟩ (priced_pure []) (tail_list_priced item each)

theorem string_value_priced {strict : Prop} : Priced strict .outside .outside stringValue :=
  priced_bind _ _ string_priced fun _ => priced_pure _

theorem string_array_priced : Priced False .outside .outside stringArray := delimited_list_priced _ string_value_priced

theorem field_priced {strict : Prop} {start middle stop : Mode} (lit : String) (fair : Fair start middle lit)
    (value : Priced strict middle stop item) : Priced strict start stop (field lit item) :=
  priced_bind _ _ (priced_expect lit fair) fun _ => value

end Walk

end Cesr.Codec
