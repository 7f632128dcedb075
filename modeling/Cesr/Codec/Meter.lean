import Cesr.Codec.Recognizers
import Cesr.Codec.Seal
import Cesr.Lib.JsonTally

set_option autoImplicit false

namespace Cesr.Codec

open Checks WriterJson Scanner JsonTally

namespace JsonBudget

def opened (budget : JsonBudget) : JsonBudget := ⟨none, none, budget.fields, budget.depth⟩

def payMark (budget : JsonBudget) : Mark → Option JsonBudget
  | .member => budget.field.toOption
  | .opening => budget.enter.toOption
  | .closing => some budget.leave

-- What is left when each mark is paid for, if the limits allow all of them.
def pay : List Mark → JsonBudget → Option JsonBudget
  | [], budget => some budget
  | mark :: rest, budget => (budget.payMark mark).bind (pay rest)

theorem pay_append (first later : List Mark) (budget : JsonBudget) :
    pay (first ++ later) budget = (pay first budget).bind (pay later) := by
  induction first generalizing budget with
  | nil => rfl
  | cons mark rest ih =>
      rw [List.cons_append, pay, pay]
      cases budget.payMark mark with
      | none => rfl
      | some paid => exact ih paid

theorem field_opened (budget paid : JsonBudget) (counted : budget.field = .ok paid) : budget.opened.field = .ok paid.opened := by
  rw [field] at counted
  cases limit : budget.maxFields with
  | none =>
      rw [limit] at counted
      cases counted
      rfl
  | some most =>
      rw [limit] at counted
      simp only at counted
      by_cases full : most ≤ budget.fields
      · rw [if_pos full] at counted
        cases counted
      · rw [if_neg full] at counted
        cases counted
        rfl

theorem enter_opened (budget paid : JsonBudget) (entered : budget.enter = .ok paid) : budget.opened.enter = .ok paid.opened := by
  rw [enter] at entered
  cases limit : budget.maxDepth with
  | none =>
      rw [limit] at entered
      cases entered
      rfl
  | some most =>
      rw [limit] at entered
      simp only at entered
      by_cases full : most ≤ budget.depth
      · rw [if_pos full] at entered
        cases entered
      · rw [if_neg full] at entered
        cases entered
        rfl

theorem field_limited (fields depth spent level : Nat) (room : spent ≤ fields) :
    (JsonBudget.mk (some fields) (some depth) spent level).field.toOption =
      if spent + 1 ≤ fields then some ⟨some fields, some depth, spent + 1, level⟩ else none := by
  have run : field ⟨some fields, some depth, spent, level⟩ =
      if fields ≤ spent then .error fields else .ok ⟨some fields, some depth, spent + 1, level⟩ := rfl
  rw [run]
  by_cases full : fields ≤ spent
  · rw [if_pos full, if_neg (by omega)]
    rfl
  · rw [if_neg full, if_pos (by omega)]
    rfl

theorem enter_limited (fields depth spent level : Nat) (room : level ≤ depth) :
    (JsonBudget.mk (some fields) (some depth) spent level).enter.toOption =
      if level + 1 ≤ depth then some ⟨some fields, some depth, spent, level + 1⟩ else none := by
  have run : enter ⟨some fields, some depth, spent, level⟩ =
      if depth ≤ level then .error depth else .ok ⟨some fields, some depth, spent, level + 1⟩ := rfl
  rw [run]
  by_cases full : depth ≤ level
  · rw [if_pos full, if_neg (by omega)]
    rfl
  · rw [if_neg full, if_pos (by omega)]
    rfl

theorem pay_limited (list : List Mark) (fields depth spent level : Nat) (room : spent ≤ fields) (room' : level ≤ depth) :
    (pay list ⟨some fields, some depth, spent, level⟩).isSome = true ↔
      spent + list.count .member ≤ fields ∧ peak level list ≤ depth := by
  induction list generalizing spent level with
  | nil => simp [pay, peak, room, room']
  | cons mark rest ih =>
      cases mark with
      | member =>
          have counted : (Mark.member :: rest).count .member = rest.count .member + 1 := List.count_cons_self
          rw [pay, payMark, field_limited _ _ _ _ room, counted, peak]
          by_cases more : spent + 1 ≤ fields
          · rw [if_pos more, Option.bind_some, ih _ _ more room']
            omega
          · rw [if_neg more]
            simp only [Option.bind_none, Option.isSome_none, Bool.false_eq_true, false_iff, not_and]
            intro enough
            omega
      | opening =>
          have counted : (Mark.opening :: rest).count .member = rest.count .member := List.count_cons_of_ne (by decide)
          rw [pay, payMark, enter_limited _ _ _ _ room', counted, peak]
          by_cases more : level + 1 ≤ depth
          · rw [if_pos more, Option.bind_some, ih _ _ room more]
          · rw [if_neg more]
            simp only [Option.bind_none, Option.isSome_none, Bool.false_eq_true, false_iff, not_and]
            intro _ low
            have high := le_peak (level + 1) rest
            omega
      | closing =>
          have counted : (Mark.closing :: rest).count .member = rest.count .member := List.count_cons_of_ne (by decide)
          have lower : level - 1 ≤ depth := (Nat.sub_le _ _).trans room'
          rw [pay, payMark, Option.bind_some, leave, ih _ _ room lower, counted, peak, Nat.max_le]
          exact and_congr_right fun _ => (and_iff_right room').symm

end JsonBudget

open JsonBudget

def Scanner.opened (sc : Scanner) : Scanner := ⟨sc.input, sc.pos, sc.budget.opened⟩

section Literals

def literalMark (byte : UInt8) (next : Option UInt8) : List Mark :=
  if byte = 0x7B ∨ byte = 0x5B then [.opening]
  else if byte = 0x7D ∨ byte = 0x5D then [.closing]
  else if byte = quote ∧ next = some 0x3A then [.member]
  else []

def literalMarks : Bytes → List Mark
  | [] => []
  | byte :: rest => literalMark byte rest.head? ++ literalMarks rest

-- A literal whose charge is that of the marks that it stands for where it stands.
def Fair (start stop : Mode) (lit : String) : Prop :=
  ends start (asBytes lit) = stop ∧ marks start (asBytes lit) = literalMarks (asBytes lit)

-- A charge without the limits beside the charge with them.
inductive Charged (list : List Mark) (budget : JsonBudget) :
    Except DeserializeError JsonBudget → Except DeserializeError JsonBudget → Prop
  | fails (error error' : DeserializeError) (free : CodecError.isLimit (.deserialize error) = false)
      (unpaid : CodecError.isLimit (.deserialize error') = true → pay list budget = none) : Charged list budget (.error error) (.error error')
  | pays (paid : JsonBudget) (bill : pay list budget = some paid) : Charged list budget (.ok paid.opened) (.ok paid)
  | refused (paid : JsonBudget) (error : DeserializeError) (limit : CodecError.isLimit (.deserialize error) = true)
      (unpaid : pay list budget = none) : Charged list budget (.ok paid.opened) (.error error)

theorem charge_byte (sc : Scanner) (offset : Nat) (byte : UInt8) (next : Option UInt8) (budget : JsonBudget) :
    Charged (literalMark byte next) budget (sc.opened.chargeByte offset byte next budget.opened) (sc.chargeByte offset byte next budget) := by
  rw [chargeByte, chargeByte, literalMark]
  by_cases opens : byte = 0x7B ∨ byte = 0x5B
  · rw [if_pos opens, if_pos opens, if_pos opens]
    cases entered : budget.enter with
    | error limit =>
        exact .refused ⟨none, none, budget.fields, budget.depth + 1⟩ _ rfl (by simp [pay, payMark, entered, Except.toOption])
    | ok paid =>
        rw [enter_opened budget paid entered]
        exact .pays paid (by simp [pay, payMark, entered, Except.toOption])
  · rw [if_neg opens, if_neg opens, if_neg opens]
    by_cases closes : byte = 0x7D ∨ byte = 0x5D
    · rw [if_pos closes, if_pos closes, if_pos closes]
      have same : budget.opened.depth = budget.depth := rfl
      rw [same]
      by_cases flat : budget.depth = 0
      · rw [if_pos flat, if_pos flat]
        exact .fails _ _ rfl (fun other => by cases other)
      · rw [if_neg flat, if_neg flat]
        exact .pays budget.leave rfl
    · rw [if_neg closes, if_neg closes, if_neg closes]
      by_cases named : byte = quote ∧ next = some 0x3A
      · rw [if_pos named, if_pos named, if_pos named]
        cases counted : budget.field with
        | error limit =>
            exact .refused ⟨none, none, budget.fields + 1, budget.depth⟩ _ rfl (by simp [pay, payMark, counted, Except.toOption])
        | ok paid =>
            rw [field_opened budget paid counted]
            exact .pays paid (by simp [pay, payMark, counted, Except.toOption])
      · rw [if_neg named, if_neg named, if_neg named]
        exact .pays budget rfl

theorem charge_literal (sc : Scanner) (offset : Nat) (text : Bytes) (budget : JsonBudget) :
    Charged (literalMarks text) budget (sc.opened.chargeLiteral offset text budget.opened) (sc.chargeLiteral offset text budget) := by
  induction text generalizing offset budget with
  | nil => exact .pays budget rfl
  | cons byte rest ih =>
      rw [chargeLiteral, chargeLiteral, literalMarks]
      have first := charge_byte sc offset byte rest.head? budget
      generalize sc.opened.chargeByte offset byte rest.head? budget.opened = free at first
      generalize sc.chargeByte offset byte rest.head? budget = held at first
      cases first with
      | fails error error' plain unpaid => exact .fails error error' plain fun limit => by rw [pay_append, unpaid limit]; rfl
      | pays paid bill =>
          have later := ih (offset + 1) paid
          rw [ok_bind, ok_bind]
          generalize sc.opened.chargeLiteral (offset + 1) rest paid.opened = free at later
          generalize sc.chargeLiteral (offset + 1) rest paid = held at later
          cases later with
          | fails error error' plain unpaid => exact .fails error error' plain fun limit => by rw [pay_append, bill]; exact unpaid limit
          | pays last bill' => exact .pays last (by rw [pay_append, bill]; exact bill')
          | refused last error limit unpaid => exact .refused last error limit (by rw [pay_append, bill]; exact unpaid)
      | refused paid error limit unpaid =>
          have none' : pay (literalMark byte rest.head? ++ literalMarks rest) budget = none := by rw [pay_append, unpaid]; rfl
          have later := ih (offset + 1) paid
          rw [ok_bind]
          show Charged _ _ _ (.error error)
          generalize sc.opened.chargeLiteral (offset + 1) rest paid.opened = free at later
          generalize sc.chargeLiteral (offset + 1) rest paid = held at later
          cases later with
          | fails error' _ plain _ => exact .fails error' error plain fun _ => none'
          | pays last _ => exact .refused last error limit none'
          | refused last _ _ _ => exact .refused last error limit none'

end Literals

def Overspent (start : Mode) (sc : Scanner) : Prop := pay (marks start sc.left) sc.budget = none

section Runs

variable {α β : Type}

-- A run without limits beside the run with them: the second does what the first
-- does as long as the marks of the text are paid for, and fails otherwise. A
-- strict part fails for want of budget with the error that says so, and with that
-- error for no other reason.
inductive Meets (strict : Prop) (start stop : Mode) (sc : Scanner) :
    Except CodecError (α × Scanner) → Except CodecError (α × Scanner) → Prop
  | fails (error error' : CodecError) (free : strict → error.isLimit = false)
      (unpaid : strict → error'.isLimit = true → Overspent start sc) : Meets strict start stop sc (.error error) (.error error')
  | pays (value : α) (done : Scanner) (text : Bytes) (took : Took sc text done) (ended : ends start text = stop)
      (bill : pay (marks start text) sc.budget = some done.budget) : Meets strict start stop sc (.ok (value, done.opened)) (.ok (value, done))
  | refused (value : α) (done : Scanner) (error : CodecError) (limit : strict → error.isLimit = true)
      (unpaid : Overspent start sc) : Meets strict start stop sc (.ok (value, done.opened)) (.error error)

def Priced (strict : Prop) (start stop : Mode) (part : Scan α) : Prop :=
  ∀ sc, Meets strict start stop sc (part sc.opened) (part sc)

variable {strict : Prop} {start middle stop : Mode}

theorem overspent_later (sc sc' : Scanner) (text : Bytes) (took : Took sc text sc') (ended : ends start text = middle)
    (bill : pay (marks start text) sc.budget = some sc'.budget) (unpaid : Overspent middle sc') : Overspent start sc := by
  rw [Overspent, took.left, marks_append, pay_append, bill, ended]
  exact unpaid

theorem meets_bind (first : Scan α) (next : α → Scan β) (sc : Scanner)
    (left : Meets strict start middle sc (first sc.opened) (first sc))
    (right : ∀ value done, first sc.opened = .ok (value, done) → Priced strict middle stop (next value)) :
    Meets strict start stop sc ((first >>= next) sc.opened) ((first >>= next) sc) := by
  show Meets strict start stop sc (first sc.opened >>= fun both => next both.1 both.2) (first sc >>= fun both => next both.1 both.2)
  generalize read : first sc.opened = free at left right
  generalize first sc = held at left
  cases left with
  | fails error error' plain unpaid => exact .fails error error' plain unpaid
  | pays value done text took ended bill =>
      have later := right value done.opened rfl done
      rw [ok_bind, ok_bind]
      generalize next value done.opened = free at later
      generalize next value done = held at later
      cases later with
      | fails error error' plain unpaid =>
          exact .fails error error' plain fun given limit => overspent_later sc done text took ended bill (unpaid given limit)
      | pays value' last more took' ended' bill' =>
          refine .pays value' last (text ++ more) (took_append _ _ _ _ _ took took') ?_ ?_
          · rw [ends_append, ended, ended']
          · rw [marks_append, pay_append, bill, ended]
            exact bill'
      | refused value' last error limit unpaid =>
          exact .refused value' last error limit (overspent_later sc done text took ended bill unpaid)
  | refused value done error limit unpaid =>
      have later := right value done.opened rfl done
      rw [ok_bind]
      show Meets strict start stop sc _ (.error error)
      generalize next value done.opened = free at later
      generalize next value done = held at later
      cases later with
      | fails error' _ plain _ => exact .fails error' error plain fun _ _ => unpaid
      | pays value' last _ _ _ _ => exact .refused value' last error limit unpaid
      | refused value' last _ _ _ => exact .refused value' last error limit unpaid

theorem priced_bind (first : Scan α) (next : α → Scan β) (left : Priced strict start middle first)
    (right : ∀ value, Priced strict middle stop (next value)) : Priced strict start stop (first >>= next) :=
  fun sc => meets_bind first next sc (left sc) fun value _ _ => right value

theorem priced_pure (value : α) : Priced strict start start (pure value : Scan α) :=
  fun sc => .pays value sc [] (took_nil sc) rfl rfl

theorem meets_error (sc : Scanner) (error : CodecError) (plain : error.isLimit = false) :
    Meets (α := α) strict start stop sc (.error error) (.error error) := by
  refine .fails error error (fun _ => plain) fun _ limit => ?_
  rw [plain] at limit
  cases limit

theorem priced_reject (error : DeserializeError) (plain : CodecError.isLimit (.deserialize error) = false) :
    Priced strict start stop (reject error : Scan α) :=
  fun sc => meets_error sc (.deserialize error) plain

theorem priced_get (next : Scanner → Scan β) (same : ∀ sc : Scanner, next sc.opened = next sc)
    (each : ∀ sc, Meets strict start stop sc (next sc sc.opened) (next sc sc)) : Priced strict start stop (get >>= next) := by
  intro sc
  rw [scan_get_run, scan_get_run, same]
  exact each sc

theorem priced_check (result : Except CodecError α) (plain : strict → ∀ error, result = .error error → error.isLimit = false) :
    Priced strict start start (check result) := by
  intro sc
  cases found : result with
  | error error =>
      refine .fails error error (fun given => plain given error found) fun given limit => ?_
      rw [plain given error found] at limit
      cases limit
  | ok value => exact .pays value sc [] (took_nil sc) rfl rfl

theorem meets_ite (fault : Prop) [Decidable fault] (first second : Scan α) (sc : Scanner)
    (left : fault → Meets strict start stop sc (first sc.opened) (first sc))
    (right : ¬fault → Meets strict start stop sc (second sc.opened) (second sc)) :
    Meets strict start stop sc ((if fault then first else second) sc.opened) ((if fault then first else second) sc) := by
  by_cases found : fault
  · rw [if_pos found]
    exact left found
  · rw [if_neg found]
    exact right found

theorem priced_ite (fault : Prop) [Decidable fault] (first second : Scan α) (left : Priced strict start stop first)
    (right : Priced strict start stop second) : Priced strict start stop (if fault then first else second) :=
  fun sc => meets_ite fault first second sc (fun _ => left sc) fun _ => right sc

theorem take_lit_meets (lit : String) (fair : Fair start stop lit) (sc : Scanner) (there : asBytes lit <+: sc.left) :
    Meets strict start stop sc (takeLit lit sc.opened) (takeLit lit sc) := by
  obtain ⟨rest, split⟩ := there
  have run : ∀ given : Scanner, given.left = asBytes lit ++ rest → takeLit lit given =
      ((given.chargeLiteral given.pos (asBytes lit) given.budget).mapError CodecError.deserialize >>= fun budget =>
        .ok (true, ⟨given.input, given.pos + (asBytes lit).length, budget⟩)) := by
    intro given found
    rw [takeLit, if_pos ⟨rest, found.symm⟩]
    rfl
  rw [run sc split.symm, run sc.opened split.symm]
  have charged := charge_literal sc sc.pos (asBytes lit) sc.budget
  have same : sc.opened.chargeLiteral sc.opened.pos (asBytes lit) sc.opened.budget =
      sc.opened.chargeLiteral sc.pos (asBytes lit) sc.budget.opened := rfl
  rw [same]
  generalize sc.opened.chargeLiteral sc.pos (asBytes lit) sc.budget.opened = free at charged
  generalize sc.chargeLiteral sc.pos (asBytes lit) sc.budget = held at charged
  have took := (took_moved sc _ _ split.symm).1
  have beyond : pay (literalMarks (asBytes lit)) sc.budget = none → Overspent start sc := by
    intro unpaid
    rw [Overspent, ← split, marks_append, pay_append, fair.2, unpaid]
    rfl
  cases charged with
  | fails error error' plain unpaid =>
      exact .fails (.deserialize error) (.deserialize error') (fun _ => plain) fun _ limit => beyond (unpaid limit)
  | pays paid bill =>
      exact .pays true ⟨sc.input, sc.pos + (asBytes lit).length, paid⟩ (asBytes lit) ⟨rfl, took.left, rfl⟩ fair.1 (by rw [fair.2]; exact bill)
  | refused paid error limit unpaid =>
      exact .refused true ⟨sc.input, sc.pos + (asBytes lit).length, paid⟩ (.deserialize error) (fun _ => limit) (beyond unpaid)

theorem priced_lit (lit : String) (next : Bool → Scan β) (fair : Fair start middle lit) (hit : Priced strict middle stop (next true))
    (miss : Priced strict start stop (next false)) : Priced strict start stop (takeLit lit >>= next) := by
  intro sc
  by_cases there : asBytes lit <+: sc.left
  · apply meets_bind (takeLit lit) next sc (take_lit_meets lit fair sc there)
    intro value done read
    cases value with
    | true => exact hit
    | false => exact absurd there (take_lit_false lit _ _ read).2
  · rw [scan_bind_run _ _ _ _ _ (take_lit_absent lit sc there), scan_bind_run _ _ _ _ _ (take_lit_absent lit sc.opened there)]
    exact miss sc

theorem priced_expect (lit : String) (fair : Fair start stop lit) : Priced strict start stop (expect lit) := by
  refine priced_lit lit _ fair ?_ ?_
  · exact priced_get _ (fun _ => rfl) fun sc => priced_pure () sc
  · exact priced_get _ (fun _ => rfl) fun sc => priced_reject _ rfl sc

end Runs

section Strings

theorem priced_string {strict : Prop} (findEnd : Scanner → Nat → Bytes → Except CodecError Nat) (encoded : Bytes → Prop)
    (expected : String)
    (took : ∀ sc sc' text, between findEnd expected sc = .ok (text, sc') → Took sc (quoted (asBytes text.value)) sc' ∧ encoded (asBytes text.value))
    (reads : ∀ (value : String) sc rest, sc.left = quoted (asBytes value) ++ rest → encoded (asBytes value) → between findEnd expected sc =
      .ok (⟨value, sc.pos + 1, sc.pos + 1 + (asBytes value).length⟩, sc.moved (sc.pos + (quoted (asBytes value)).length)))
    (keeps : ∀ content, encoded content → Silent .inside .inside content)
    (plain : strict → ∀ sc error, between findEnd expected sc = .error error → error.isLimit = false) :
    Priced strict .outside .outside (between findEnd expected) := by
  intro sc
  have both : ∀ given other : Scanner, given.left = other.left → ∀ text done, between findEnd expected given = .ok (text, done) →
      ∃ rest, other.left = quoted (asBytes text.value) ++ rest ∧ encoded (asBytes text.value) := by
    intro given other same text done read
    obtain ⟨taken, allowed⟩ := took given done text read
    exact ⟨done.left, by rw [← same, taken.left], allowed⟩
  cases free : between findEnd expected sc.opened with
  | error error =>
      cases held : between findEnd expected sc with
      | error error' =>
          refine .fails error error' (fun given => plain given _ _ free) fun given limit => ?_
          rw [plain given _ _ held] at limit
          cases limit
      | ok done =>
          obtain ⟨rest, split, allowed⟩ := both sc sc.opened rfl done.1 done.2 held
          rw [reads _ _ _ split allowed] at free
          cases free
  | ok done =>
      obtain ⟨rest, split, allowed⟩ := both sc.opened sc rfl done.1 done.2 free
      have silent := silent_quoted _ (keeps _ allowed)
      have split' : sc.opened.left = quoted (asBytes done.1.value) ++ rest := split
      rw [reads _ _ _ split' allowed] at free
      rw [← free, reads _ _ _ split allowed]
      exact .pays _ (sc.moved (sc.pos + (quoted (asBytes done.1.value)).length)) _ (took_moved sc _ _ split).1 silent.ends
        (by rw [silent.marks]; rfl)

def Limitless {α : Type} (part : Scan α) : Prop := ∀ sc error, part sc = .error error → error.isLimit = false

theorem limitless_bind {α β : Type} (first : Scan α) (next : α → Scan β) (left : Limitless first)
    (right : ∀ value, Limitless (next value)) : Limitless (first >>= next) := by
  intro sc error read
  cases taken : first sc with
  | error error' =>
      have run : (first >>= next) sc = .error error' := by
        show (first sc >>= fun both => next both.1 both.2) = _
        rw [taken]
        rfl
      rw [run] at read
      cases read
      exact left sc error taken
  | ok done =>
      rw [scan_bind_run first next sc done.2 done.1 taken] at read
      exact right done.1 done.2 error read

theorem limitless_check {α : Type} (result : Except CodecError α) (plain : ∀ error, result = .error error → error.isLimit = false) :
    Limitless (check result) := by
  intro sc error read
  cases found : result with
  | error error' =>
      rw [found] at read
      cases read
      exact plain error found
  | ok value =>
      rw [found] at read
      cases read

theorem limitless_expect (lit : String) (uncharged : free (asBytes lit) = true) : Limitless (expect lit) := by
  intro sc error read
  by_cases there : asBytes lit <+: sc.left
  · obtain ⟨rest, split⟩ := there
    rw [expect_free lit sc rest uncharged split.symm] at read
    cases read
  · rw [expect, scan_bind_run _ _ _ _ _ (take_lit_absent lit sc there)] at read
    cases read
    rfl

theorem string_end_limitless (sc : Scanner) (bytes : Bytes) (pos : Nat) (error : CodecError) (read : sc.stringEnd pos bytes = .error error) :
    error.isLimit = false := by
  induction bytes generalizing pos with
  | nil =>
      cases read
      rfl
  | cons byte rest ih =>
      rw [stringEnd] at read
      by_cases closing : byte = quote
      · rw [if_pos closing] at read
        cases read
      · rw [if_neg closing] at read
        by_cases escaped : byte = backslash
        · rw [if_pos escaped] at read
          cases read
          rfl
        · rw [if_neg escaped] at read
          by_cases control : byte < 0x20
          · rw [if_pos control] at read
            cases read
            rfl
          · rw [if_neg control] at read
            exact ih (pos + 1) read

theorem string_limitless : Limitless string := by
  refine limitless_bind _ _ (limitless_expect "\"" rfl) fun _ => limitless_bind get _ (fun _ _ read => by cases read) fun sc => ?_
  refine limitless_bind _ _ (limitless_check _ fun error => string_end_limitless sc sc.left sc.pos error) fun last => ?_
  refine limitless_bind _ _ (limitless_check _ fun error read => ?_) fun value => ?_
  · rw [readUtf8] at read
    split at read
    · cases read
    · cases read
      rfl
  · exact limitless_bind _ _ (fun _ _ read => by cases read) fun _ =>
      limitless_bind _ _ (limitless_expect "\"" rfl) fun _ _ _ read => by cases read

variable {strict : Prop}

theorem string_priced : Priced strict .outside .outside string := by
  refine priced_string stringEnd (fun content => ∀ byte ∈ content, Plain byte) _ ?_ ?_ ?_ fun _ => string_limitless
  · intro sc sc' text read
    have took := string_took sc sc' text read
    exact ⟨took.1, took.2.1⟩
  · exact fun value sc rest found plain => string_reads value sc rest found plain
  · intro content plain
    rw [← List.append_nil content]
    exact silent_text content [] (fun byte inside => (plain byte inside).2) (silent_nil _)

theorem content_silent (content : Bytes) (allowed : ∃ text, content = escape text) : Silent .inside .inside content := by
  obtain ⟨text, same⟩ := allowed
  rw [same]
  exact silent_denotes _ text (escaped_denotes text)

theorem json_string_priced : Priced False .outside .outside jsonString := by
  refine priced_string jsonStringEnd (fun content => Utf8 content ∧ ∃ text, content = escape text) _ ?_ ?_ ?_ False.elim
  · intro sc sc' text read
    have took := json_string_took sc sc' text read
    exact ⟨took.1, ⟨_, rfl⟩, took.2.1.2⟩
  · exact fun value sc rest found plain => json_string_reads value sc rest found plain
  · exact fun content allowed => content_silent content allowed.2

end Strings

end Cesr.Codec
