import Cesr.Core.Base64
import Cesr.Lib.Calendar
import Cesr.Lib.Decimal
import Mathlib.Tactic.Ring

set_option autoImplicit false

namespace Cesr.Keri

open Checks Calendar Decimal

inductive DiscoveryError where
  | malformedRoute
  | unsupportedRoute
  | missingSigner
  | ambiguousSigner
  | wrongSigner
  | missingSignerState
  | signerStateMismatch
  | badSignature
  | invalidTimestamp
  | stale
  | missingSubjectState
  | subjectStateMismatch
deriving DecidableEq, Repr

def replyDigit (bytes : Bytes) (start len : Nat) : Except DiscoveryError Nat :=
  if start + len ≤ bytes.length then
    let slice := (bytes.drop start).take len
    if slice.all isDigit then .ok (read slice) else .error .invalidTimestamp
  else .error .invalidTimestamp

def replyLiteral (bytes : Bytes) (index : Nat) (expected : UInt8) : Except DiscoveryError Unit :=
  if bytes[index]? = some expected then .ok () else .error .invalidTimestamp

def replyMonth (year month : Nat) : Except DiscoveryError Nat :=
  let leap := year % 4 = 0 ∧ (year % 100 ≠ 0 ∨ year % 400 = 0)
  match month with
  | 1 | 3 | 5 | 7 | 8 | 10 | 12 => .ok 31
  | 4 | 6 | 9 | 11 => .ok 30
  | 2 => if leap then .ok 29 else .ok 28
  | _ => .error .invalidTimestamp

def replyFraction (bytes : Bytes) (pos : Nat) : Except DiscoveryError (Nat × Nat) :=
  if bytes[pos]? = some 0x2E then do
    let start := pos + 1
    let precision := ((bytes.drop start).takeWhile isDigit).length
    rejectIf (precision = 0 ∨ 9 < precision) .invalidTimestamp
    let value ← replyDigit bytes start precision
    pure (value * 10 ^ (9 - precision), start + precision)
  else .ok (0, pos)

def replyOffset (bytes : Bytes) (pos : Nat) : Except DiscoveryError Int :=
  match bytes[pos]? with
  | none => .error .invalidTimestamp
  | some sign =>
      if sign = 0x5A ∧ pos + 1 = bytes.length then .ok 0
      else if (sign = 0x2B ∨ sign = 0x2D) ∧ pos + 6 = bytes.length then do
        let hours ← replyDigit bytes (pos + 1) 2
        replyLiteral bytes (pos + 3) 0x3A
        let minutes ← replyDigit bytes (pos + 4) 2
        rejectIf (23 < hours ∨ 59 < minutes) .invalidTimestamp
        let magnitude : Int := (hours * 60 + minutes) * 60
        pure (if sign = 0x2B then magnitude else -magnitude)
      else .error .invalidTimestamp

-- The civil-date ordinal, counted from the first of March and moved to the epoch.
def civilDays (year month day : Int) : Int :=
  let adjustedYear := year - (if month ≤ 2 then 1 else 0)
  let era := adjustedYear / 400
  let yearOfEra := adjustedYear - era * 400
  let shiftedMonth := month + (if 2 < month then -3 else 9)
  let dayOfYear := (153 * shiftedMonth + 2) / 5 + day - 1
  let yearDay := yearOfEra * 365 + yearOfEra / 4 - yearOfEra / 100 + dayOfYear
  era * 146097 + yearDay - 719468

def parseReplyTime (value : String) : Except DiscoveryError Int := do
  let bytes := asBytes value
  let year ← replyDigit bytes 0 4
  replyLiteral bytes 4 0x2D
  let month ← replyDigit bytes 5 2
  replyLiteral bytes 7 0x2D
  let day ← replyDigit bytes 8 2
  replyLiteral bytes 10 0x54
  let hour ← replyDigit bytes 11 2
  replyLiteral bytes 13 0x3A
  let minute ← replyDigit bytes 14 2
  replyLiteral bytes 16 0x3A
  let second ← replyDigit bytes 17 2
  let daysInMonth ← replyMonth year month
  rejectIf (day < 1 ∨ daysInMonth < day ∨ 23 < hour ∨ 59 < minute ∨ 59 < second) .invalidTimestamp
  let fraction ← replyFraction bytes 19
  let offsetSeconds ← replyOffset bytes fraction.2
  let days := civilDays year month day
  pure ((days * 86400 + hour * 3600 + minute * 60 + second - offsetSeconds) * 1000000000 + fraction.1)

inductive Offset where
  | utc
  | shifted (ahead : Bool) (hours minutes : Nat)

def Offset.Valid : Offset → Prop
  | .utc => True
  | .shifted _ hours minutes => hours ≤ 23 ∧ minutes ≤ 59

def Offset.text : Offset → Bytes
  | .utc => [0x5A]
  | .shifted ahead hours minutes => [if ahead then 0x2B else 0x2D] ++ (field 2 hours ++ ([0x3A] ++ field 2 minutes))

def Offset.seconds : Offset → Int
  | .utc => 0
  | .shifted ahead hours minutes =>
      if ahead then (hours * 60 + minutes) * 60 else -((hours * 60 + minutes) * 60 : Int)

inductive Fraction where
  | whole
  | digits (precision value : Nat)

def Fraction.Valid : Fraction → Prop
  | .whole => True
  | .digits precision value => 1 ≤ precision ∧ precision ≤ 9 ∧ value < 10 ^ precision

def Fraction.text : Fraction → Bytes
  | .whole => []
  | .digits precision value => 0x2E :: field precision value

def Fraction.nanos : Fraction → Nat
  | .whole => 0
  | .digits precision value => value * 10 ^ (9 - precision)

structure Timestamp where
  date : Date
  hour : Nat
  minute : Nat
  second : Nat
  fraction : Fraction
  offset : Offset
  fourDigits : date.year < 10000
  inDay : hour ≤ 23 ∧ minute ≤ 59 ∧ second ≤ 59
  inSecond : fraction.Valid
  nearby : offset.Valid

def civilText (year month day hour minute second : Nat) : Bytes :=
  field 4 year ++ ([0x2D] ++ (field 2 month ++ ([0x2D] ++ (field 2 day ++ ([0x54] ++ (field 2 hour ++ ([0x3A] ++
    (field 2 minute ++ ([0x3A] ++ field 2 second)))))))))

def Timestamp.text (stamp : Timestamp) : Bytes :=
  civilText stamp.date.year stamp.date.month stamp.date.day stamp.hour stamp.minute stamp.second ++
    (stamp.fraction.text ++ stamp.offset.text)

def Timestamp.nanos (stamp : Timestamp) : Int :=
  (((stamp.date.ordinal : Int) - epoch.ordinal) * 86400 + stamp.hour * 3600 + stamp.minute * 60 + stamp.second -
    stamp.offset.seconds) * 1000000000 + stamp.fraction.nanos

theorem reply_digit_ok (bytes : Bytes) (start len value : Nat) (some' : 0 < len) :
    replyDigit bytes start len = .ok value ↔ value < 10 ^ len ∧ field len value <+: bytes.drop start := by
  unfold replyDigit
  by_cases inside : start + len ≤ bytes.length
  · rw [if_pos inside]
    have long : ((bytes.drop start).take len).length = len := by
      rw [List.length_take, List.length_drop]
      omega
    rw [List.prefix_iff_eq_take, length_field]
    by_cases digits : ((bytes.drop start).take len).all isDigit = true
    · rw [if_pos digits, Except.ok.injEq]
      obtain ⟨small, same⟩ := field_read _ digits
      rw [long] at small same
      apply Iff.intro
      · intro found
        rw [← found]
        exact ⟨small, same⟩
      · intro met
        rw [← met.2]
        exact (read_field len value met.1).2
    · rw [if_neg digits]
      apply Iff.intro
      · intro found
        cases found
      · intro met
        rw [← met.2] at digits
        exact absurd (read_field len value met.1).1 digits
  · rw [if_neg inside]
    apply Iff.intro
    · intro found
      cases found
    · intro met
      have short := met.2.length_le
      rw [length_field, List.length_drop] at short
      omega

theorem reply_literal_ok (bytes : Bytes) (index : Nat) (expected : UInt8) :
    replyLiteral bytes index expected = .ok () ↔ [expected] <+: bytes.drop index := by
  have head : bytes[index]? = (bytes.drop index).head? := by rw [List.head?_drop]
  unfold replyLiteral
  rw [head]
  cases bytes.drop index with
  | nil => simp
  | cons byte rest =>
      by_cases same : byte = expected
      · simp [same]
      · simp [same, Ne.symm same]

theorem reply_month_ok (year month days : Nat) :
    replyMonth year month = .ok days ↔ (1 ≤ month ∧ month ≤ 12) ∧ days = monthLength year month := by
  by_cases inYear : 1 ≤ month ∧ month ≤ 12
  · have known : replyMonth year month = .ok (monthLength year month) := by
      obtain ⟨low, high⟩ := inYear
      interval_cases month
      case «2» =>
        have february : replyMonth year 2 = if Leap year then .ok 29 else .ok 28 := rfl
        have length : monthLength year 2 = 28 + if Leap year then 1 else 0 := rfl
        rw [february, length]
        by_cases leap : Leap year
        · rw [if_pos leap, if_pos leap]
        · rw [if_neg leap, if_neg leap]
      all_goals rfl
    rw [known, Except.ok.injEq]
    exact ⟨fun same => ⟨inYear, same.symm⟩, fun met => met.2.symm⟩
  · have unknown : replyMonth year month = .error .invalidTimestamp := by
      rcases Nat.eq_zero_or_pos month with none' | some'
      · rw [none']
        rfl
      · obtain ⟨beyond, same⟩ := Nat.exists_eq_add_of_le (show 13 ≤ month by omega)
        rw [same, Nat.add_comm]
        rfl
    rw [unknown]
    simp [inYear]

theorem civil_text_ok (bytes : Bytes) (year month day hour minute second : Nat) :
    (field 4 year <+: bytes.drop 0 ∧ [0x2D] <+: bytes.drop 4 ∧ field 2 month <+: bytes.drop 5 ∧ [0x2D] <+: bytes.drop 7 ∧
      field 2 day <+: bytes.drop 8 ∧ [0x54] <+: bytes.drop 10 ∧ field 2 hour <+: bytes.drop 11 ∧ [0x3A] <+: bytes.drop 13 ∧
      field 2 minute <+: bytes.drop 14 ∧ [0x3A] <+: bytes.drop 16 ∧ field 2 second <+: bytes.drop 17) ↔
      civilText year month day hour minute second <+: bytes.drop 0 := by
  simp only [civilText, prefix_append_iff, length_field, List.length_singleton]

theorem era_days (year : Int) :
    year / 400 * 146097 + ((year - year / 400 * 400) * 365 + (year - year / 400 * 400) / 4 - (year - year / 400 * 400) / 100) =
      365 * year + year / 4 - year / 100 + year / 400 := by
  omega

theorem civil_days_split (year month day : Int) :
    civilDays year month day =
      (365 * (year - (if month ≤ 2 then 1 else 0)) + (year - (if month ≤ 2 then 1 else 0)) / 4 -
        (year - (if month ≤ 2 then 1 else 0)) / 100 + (year - (if month ≤ 2 then 1 else 0)) / 400) +
      ((153 * (month + (if 2 < month then -3 else 9)) + 2) / 5 + day - 1) - 719468 := by
  rw [← era_days]
  unfold civilDays
  ring

theorem epoch_ordinal : epoch.ordinal = 719528 := by
  have years := days_before_year 1970
  have months : daysBeforeMonth 1970 1 = 0 := rfl
  simp only [Date.ordinal, epoch, months]
  omega

-- The two halves of the year differ in which March their days are counted from.
theorem civil_days_ordinal (date : Date) :
    civilDays date.year date.month date.day = (date.ordinal : Int) - epoch.ordinal := by
  obtain ⟨year, month, day, inYear, inMonth⟩ := date
  rw [epoch_ordinal, civil_days_split]
  simp only [Date.ordinal]
  by_cases early : month ≤ 2
  · have years := days_before_year year
    rw [if_pos (by omega), if_neg (by omega), days_before_early_month year month inYear.1 early]
    have shifted : ((153 * ((month : Int) + 9) + 2) / 5) = 31 * ((month - 1 : Nat) : Int) + 306 := by
      omega
    have centuries : ((year : Int) - 1) / 100 = ((year + 99) / 100 : Nat) - 1 := by omega
    have fours : ((year : Int) - 1) / 4 = ((year + 3) / 4 : Nat) - 1 := by omega
    have eras : ((year : Int) - 1) / 400 = ((year + 399) / 400 : Nat) - 1 := by omega
    rw [shifted, centuries, fours, eras]
    generalize (year + 99) / 100 = passed at years ⊢
    generalize (year + 3) / 4 = quarters at years ⊢
    generalize (year + 399) / 400 = cycles at years ⊢
    omega
  · have years := days_before_year (year + 1)
    rw [if_neg (by omega), if_pos (by omega), days_before_late_month year month (by omega) inYear.2]
    have shifted : ((153 * ((month : Int) + -3) + 2) / 5) = ((153 * (month - 3) + 2) / 5 : Nat) := by
      omega
    have centuries : (year + 1 + 99) / 100 = year / 100 + 1 := by omega
    have fours : (year + 1 + 3) / 4 = year / 4 + 1 := by omega
    have eras : (year + 1 + 399) / 400 = year / 400 + 1 := by omega
    rw [daysBeforeYear, centuries, fours, eras] at years
    have centuries' : (year : Int) / 100 = (year / 100 : Nat) := by omega
    have fours' : (year : Int) / 4 = (year / 4 : Nat) := by omega
    have eras' : (year : Int) / 400 = (year / 400 : Nat) := by omega
    rw [shifted, Int.sub_zero, centuries', fours', eras']
    generalize year / 100 = passed at years ⊢
    generalize year / 4 = quarters at years ⊢
    generalize year / 400 = cycles at years ⊢
    generalize (153 * (month - 3) + 2) / 5 = before at ⊢
    omega

-- What may stand behind a fraction: no further digit, and no point where there was none.
def Fraction.Stops (rest : Bytes) : Fraction → Prop
  | .whole => rest.head? ≠ some 0x2E
  | .digits _ _ => ∀ byte, rest.head? = some byte → isDigit byte = false

theorem take_while_digits (digits rest : Bytes) (all : digits.all isDigit = true)
    (stops : ∀ byte, rest.head? = some byte → isDigit byte = false) : (digits ++ rest).takeWhile isDigit = digits := by
  rw [List.takeWhile_append_of_pos (fun byte inside => List.all_eq_true.mp all byte inside)]
  have none' : rest.takeWhile isDigit = [] := by
    cases rest with
    | nil => rfl
    | cons byte _ => rw [List.takeWhile_cons, stops byte rfl, if_neg (by decide)]
  rw [none', List.append_nil]

theorem reply_fraction_ok (bytes : Bytes) (pos nanos stop : Nat) :
    replyFraction bytes pos = .ok (nanos, stop) ↔
      ∃ fraction rest, Fraction.Valid fraction ∧ bytes.drop pos = fraction.text ++ rest ∧ Fraction.Stops rest fraction ∧
        nanos = fraction.nanos ∧ stop = pos + fraction.text.length := by
  have head : bytes[pos]? = (bytes.drop pos).head? := by rw [List.head?_drop]
  unfold replyFraction
  by_cases point : bytes[pos]? = some 0x2E
  · rw [if_pos point]
    rw [head] at point
    obtain ⟨after', split⟩ := List.head?_eq_some_iff.mp point
    have behind : bytes.drop (pos + 1) = after' := by
      rw [← List.drop_drop, split]
      rfl
    simp only [bind_ok, exists_done, reject_if_ok, pure_ok, Prod.mk.injEq, behind, not_or, not_lt]
    apply Iff.intro
    · intro passed
      obtain ⟨⟨some', few⟩, value, found, same, last⟩ := passed
      obtain ⟨small, text⟩ := (reply_digit_ok bytes _ _ value (Nat.pos_of_ne_zero some')).mp found
      rw [behind] at text
      obtain ⟨rest, cut⟩ := text
      refine ⟨.digits (after'.takeWhile isDigit).length value, rest, ⟨Nat.pos_of_ne_zero some', few, small⟩, ?_, ?_, same.symm, ?_⟩
      · rw [split, Fraction.text, ← cut, List.cons_append]
        simp only [cut]
      · have whole := List.takeWhile_append_dropWhile (p := isDigit) (l := after')
        have digits : field (after'.takeWhile isDigit).length value = after'.takeWhile isDigit := by
          have both := cut.trans whole.symm
          exact (List.append_inj both (length_field _ _)).1
        have dropped : rest = after'.dropWhile isDigit := by
          rw [digits] at cut
          exact List.append_cancel_left (cut.trans whole.symm)
        intro byte first
        rw [dropped] at first
        have stop := List.head?_dropWhile_not isDigit after'
        rw [first] at stop
        exact stop
      · rw [← last, Fraction.text, List.length_cons, length_field]
        omega
    · intro met
      obtain ⟨fraction, rest, valid, text, stops, same, last⟩ := met
      cases fraction with
      | whole =>
          rw [Fraction.text, List.nil_append] at text
          rw [Fraction.Stops, ← text] at stops
          exact absurd point stops
      | digits precision value =>
          obtain ⟨some', few, small⟩ := valid
          rw [split] at text
          have cut : after' = field precision value ++ rest := (List.cons.inj text).2
          have run : (after'.takeWhile isDigit).length = precision := by
            rw [cut, take_while_digits _ rest (read_field precision value small).1 stops, length_field]
          rw [run]
          refine ⟨⟨Nat.ne_of_gt some', few⟩, value, ?_, same.symm, ?_⟩
          · rw [reply_digit_ok bytes _ _ value some', behind, cut]
            exact ⟨small, List.prefix_append _ _⟩
          · rw [last, Fraction.text, List.length_cons, length_field]
            omega
  · rw [if_neg point]
    rw [head] at point
    apply Iff.intro
    · intro found
      obtain ⟨same, last⟩ := Prod.mk.inj (Except.ok.inj found)
      exact ⟨.whole, bytes.drop pos, trivial, rfl, point, same.symm, last.symm⟩
    · intro met
      obtain ⟨fraction, rest, valid, text, stops, same, last⟩ := met
      cases fraction with
      | whole =>
          rw [same, last]
          rfl
      | digits precision value =>
          rw [text] at point
          exact absurd rfl point

theorem reply_offset_ok (bytes : Bytes) (pos : Nat) (seconds : Int) :
    replyOffset bytes pos = .ok seconds ↔
      ∃ offset, Offset.Valid offset ∧ bytes.drop pos = offset.text ∧ seconds = offset.seconds := by
  have head : bytes[pos]? = (bytes.drop pos).head? := by rw [List.head?_drop]
  unfold replyOffset
  rw [head]
  cases split : bytes.drop pos with
  | nil =>
      apply Iff.intro
      · intro found
        cases found
      · intro met
        obtain ⟨offset, _, text, _⟩ := met
        cases offset <;> cases text
  | cons sign after' =>
      have long : bytes.length = pos + (after'.length + 1) := by
        have counted := congrArg List.length split
        rw [List.length_drop, List.length_cons] at counted
        omega
      have behind : bytes.drop (pos + 1) = after' := by
        rw [← List.drop_drop, split]
        rfl
      simp only [List.head?_cons]
      by_cases utc : sign = 0x5A ∧ pos + 1 = bytes.length
      · rw [if_pos utc]
        have empty : after' = [] := List.length_eq_zero_iff.mp (by omega)
        rw [utc.1, empty, Except.ok.injEq]
        apply Iff.intro
        · intro same
          exact ⟨.utc, trivial, rfl, same.symm⟩
        · intro met
          obtain ⟨offset, _, text, same⟩ := met
          cases offset with
          | utc => exact same.symm
          | shifted ahead hours minutes => cases ahead <;> cases text
      · rw [if_neg utc]
        by_cases signed : (sign = 0x2B ∨ sign = 0x2D) ∧ pos + 6 = bytes.length
        · rw [if_pos signed]
          have five : after'.length = 5 := by omega
          have fields : ∀ hours minutes : Nat,
              (field 2 hours <+: bytes.drop (pos + 1) ∧ [0x3A] <+: bytes.drop (pos + 3) ∧ field 2 minutes <+: bytes.drop (pos + 4)) ↔
                after' = field 2 hours ++ ([0x3A] ++ field 2 minutes) := by
            intro hours minutes
            have whole := prefix_append_iff (field 2 hours) ([0x3A] ++ field 2 minutes) bytes (pos + 1)
            rw [prefix_append_iff [0x3A] (field 2 minutes) bytes, length_field, List.length_singleton] at whole
            rw [← whole, behind]
            apply Iff.intro
            · intro front
              exact (front.eq_of_length (by rw [five, List.length_append, List.length_append, length_field, length_field]; rfl)).symm
            · intro same
              rw [same]
          simp only [bind_ok, exists_done, reject_if_ok, pure_ok, reply_literal_ok, reply_digit_ok bytes _ 2 _ (by decide), not_or,
            not_lt]
          apply Iff.intro
          · intro passed
            obtain ⟨hours, ⟨_, first⟩, colon, minutes, ⟨_, second⟩, valid, same⟩ := passed
            have text := (fields hours minutes).mp ⟨first, colon, second⟩
            rcases signed.1 with plus | minus
            · refine ⟨.shifted true hours minutes, valid, ?_, ?_⟩
              · rw [plus, text]
                rfl
              · rw [← same, if_pos plus]
                rfl
            · refine ⟨.shifted false hours minutes, valid, ?_, ?_⟩
              · rw [minus, text]
                rfl
              · rw [← same, minus, if_neg (by decide)]
                rfl
          · intro met
            obtain ⟨offset, valid, text, same⟩ := met
            cases offset with
            | utc =>
                rw [(List.cons.inj text).2] at five
                cases five
            | shifted ahead hours minutes =>
                obtain ⟨mark, rest⟩ := List.cons.inj text
                obtain ⟨first, colon, second⟩ := (fields hours minutes).mpr rest
                refine ⟨hours, ⟨by have := valid.1; omega, first⟩, colon, minutes, ⟨by have := valid.2; omega, second⟩, valid, ?_⟩
                rw [same, mark]
                cases ahead with
                | true => rfl
                | false => rfl
        · rw [if_neg signed]
          apply Iff.intro
          · intro found
            cases found
          · intro met
            obtain ⟨offset, _, text, _⟩ := met
            cases offset with
            | utc =>
                obtain ⟨mark, rest⟩ := List.cons.inj text
                refine absurd ⟨mark, ?_⟩ utc
                rw [long, rest]
                rfl
            | shifted ahead hours minutes =>
                have mark := (List.cons.inj text).1
                have rest : after' = field 2 hours ++ ([0x3A] ++ field 2 minutes) := (List.cons.inj text).2
                refine absurd ⟨?_, ?_⟩ signed
                · rw [mark]
                  cases ahead with
                  | true => exact .inl rfl
                  | false => exact .inr rfl
                · rw [long, rest, List.length_append, List.length_append, length_field, length_field]
                  rfl

theorem offset_stops (fraction : Fraction) (offset : Offset) : fraction.Stops offset.text := by
  have marks : ∀ byte, offset.text.head? = some byte → byte = 0x5A ∨ byte = 0x2B ∨ byte = 0x2D := by
    intro byte first
    cases offset with
    | utc => exact .inl (Option.some.inj first).symm
    | shifted ahead hours minutes =>
        cases ahead with
        | true => exact .inr (.inl (Option.some.inj first).symm)
        | false => exact .inr (.inr (Option.some.inj first).symm)
  cases fraction with
  | whole =>
      intro point
      rcases marks _ point with utc | plus | minus
      · cases utc
      · cases plus
      · cases minus
  | digits precision value =>
      intro byte first
      rcases marks byte first with utc | plus | minus
      · rw [utc]
        rfl
      · rw [plus]
        rfl
      · rw [minus]
        rfl

theorem parse_reply_time_ok (value : String) (nanos : Int) :
    parseReplyTime value = .ok nanos ↔ ∃ stamp : Timestamp, stamp.text = asBytes value ∧ stamp.nanos = nanos := by
  have civil := civil_text_ok (asBytes value)
  simp only [parseReplyTime, bind_ok, exists_done, reject_if_ok, pure_ok, reply_literal_ok, reply_month_ok, Prod.exists]
  apply Iff.intro
  · intro passed
    obtain ⟨year, y, dash, month, m, dash', day, d, mark, hour, h, colon, minute, mi, colon', second, s, days, ⟨inYear, length⟩,
      valid, fractionNanos, stop, fraction', seconds, offset', same⟩ := passed
    rw [reply_digit_ok _ _ _ _ (by decide)] at y m d h mi s
    have front := (civil year month day hour minute second).mp ⟨y.2, dash, m.2, dash', d.2, mark, h.2, colon, mi.2, colon', s.2⟩
    obtain ⟨rest, split⟩ := front
    rw [List.drop_zero] at split
    have behind : (asBytes value).drop 19 = rest := by
      rw [← split, List.drop_left' (by simp [civilText, length_field])]
    obtain ⟨fraction, rest', inSecond, text, _, fractional, last⟩ := (reply_fraction_ok _ _ _ _).mp fraction'
    obtain ⟨offset, nearby, text', shifted⟩ := (reply_offset_ok _ _ _).mp offset'
    have remains : rest' = offset.text := by
      rw [← text', last, ← List.drop_drop, text, List.drop_left]
    have whole : civilText year month day hour minute second ++ (fraction.text ++ offset.text) = asBytes value := by
      rw [← remains, ← text, behind, split]
    refine ⟨⟨⟨year, month, day, inYear, by omega⟩, hour, minute, second, fraction, offset, y.1, by omega, inSecond, nearby⟩, whole, ?_⟩
    · rw [← same, Timestamp.nanos, ← civil_days_ordinal, fractional, shifted]
  · intro met
    obtain ⟨stamp, text, same⟩ := met
    obtain ⟨date, hour, minute, second, fraction, offset, fourDigits, inDay, inSecond, nearby⟩ := stamp
    obtain ⟨year, month, day, inYear, inMonth⟩ := date
    have month' : monthLength year month ≤ 31 := by
      unfold monthLength leapDay
      split
      · split <;> omega
      all_goals omega
    have front : civilText year month day hour minute second <+: (asBytes value).drop 0 := by
      rw [← text, List.drop_zero]
      exact List.prefix_append _ _
    obtain ⟨y, dash, m, dash', d, mark, h, colon, mi, colon', s⟩ := (civil year month day hour minute second).mpr front
    have behind : (asBytes value).drop 19 = fraction.text ++ offset.text := by
      rw [← text, Timestamp.text, List.drop_left' (by simp [civilText, length_field])]
    have ended : (asBytes value).drop (19 + fraction.text.length) = offset.text := by
      rw [← List.drop_drop, behind, List.drop_left]
    simp only [reply_digit_ok _ _ 4 _ (show 0 < 4 by decide), reply_digit_ok _ _ 2 _ (show 0 < 2 by decide)]
    simp only at inDay fourDigits
    refine ⟨year, ⟨fourDigits, y⟩, dash, month, ⟨by omega, m⟩, dash', day, ⟨by omega, d⟩, mark, hour, ⟨by omega, h⟩, colon, minute,
      ⟨by omega, mi⟩, colon', second, ⟨by omega, s⟩, _, ⟨inYear, rfl⟩, by omega, fraction.nanos, _,
      (reply_fraction_ok _ _ _ _).mpr ⟨fraction, _, inSecond, behind, offset_stops fraction offset, rfl, rfl⟩, offset.seconds,
      (reply_offset_ok _ _ _).mpr ⟨offset, nearby, ended, rfl⟩, ?_⟩
    rw [← same, Timestamp.nanos, ← civil_days_ordinal]

-- An offset that crosses the end of a month.
example : parseReplyTime "2026-09-30T20:00:00-04:00" = parseReplyTime "2026-10-01T00:00:00.000000+00:00" := by decide +kernel

end Cesr.Keri
