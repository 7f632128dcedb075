import Cesr.Codec.Scanner

set_option autoImplicit false

namespace Cesr.Codec

open Checks WriterJson

section Steps

variable {α β : Type}

@[simp] theorem scan_bind_ok (first : Scan α) (next : α → Scan β) (sc sc' : Scanner) (value : β) :
    (first >>= next) sc = .ok (value, sc') ↔
      ∃ middle at', first sc = .ok (middle, at') ∧ next middle at' = .ok (value, sc') := by
  show (first sc >>= fun both => next both.1 both.2) = .ok (value, sc') ↔ _
  rw [bind_ok]
  exact Prod.exists

@[simp] theorem scan_pure_ok (given value : α) (sc sc' : Scanner) :
    (pure given : Scan α) sc = .ok (value, sc') ↔ given = value ∧ sc = sc' := by
  show (Except.ok (given, sc) : Except CodecError (α × Scanner)) = .ok (value, sc') ↔ _
  rw [Except.ok.injEq, Prod.mk.injEq]

@[simp] theorem get_ok (sc sc' value : Scanner) : (get : Scan Scanner) sc = .ok (value, sc') ↔ value = sc ∧ sc' = sc := by
  show (Except.ok (sc, sc) : Except CodecError (Scanner × Scanner)) = .ok (value, sc') ↔ _
  rw [Except.ok.injEq, Prod.mk.injEq]
  apply Iff.intro
  · intro both
    exact ⟨both.1.symm, both.2.symm⟩
  · intro both
    exact ⟨both.1.symm, both.2.symm⟩

theorem scan_get_run (next : Scanner → Scan β) (sc : Scanner) : (get >>= next) sc = next sc sc := rfl

theorem scan_bind_run (first : Scan α) (next : α → Scan β) (sc sc' : Scanner) (value : α) (read : first sc = .ok (value, sc')) :
    (first >>= next) sc = next value sc' := by
  show (first sc >>= fun both => next both.1 both.2) = _
  rw [read]
  rfl

@[simp] theorem check_ok (result : Except CodecError α) (sc sc' : Scanner) (value : α) :
    check result sc = .ok (value, sc') ↔ result = .ok value ∧ sc = sc' := by
  unfold check
  cases result with
  | error error =>
      apply Iff.intro
      · intro same
        cases same
      · intro both
        cases both.1
  | ok given =>
      simp only [Except.map, Except.ok.injEq, Prod.mk.injEq]

@[simp] theorem reject_ok (error : DeserializeError) (sc sc' : Scanner) (value : α) :
    (reject error : Scan α) sc = .ok (value, sc') ↔ False := by
  apply Iff.intro
  · intro same
    cases same
  · exact False.elim

@[simp] theorem set_ok (given sc sc' : Scanner) (done : Unit) :
    (set given : Scan Unit) sc = .ok (done, sc') ↔ given = sc' := by
  show (Except.ok ((), given) : Except CodecError (Unit × Scanner)) = .ok (done, sc') ↔ _
  simp only [Except.ok.injEq, Prod.mk.injEq, true_and]

@[simp] theorem modify_ok (update : Scanner → Scanner) (sc sc' : Scanner) (done : Unit) :
    (modify update : Scan Unit) sc = .ok (done, sc') ↔ update sc = sc' := by
  show (Except.ok ((), update sc) : Except CodecError (Unit × Scanner)) = .ok (done, sc') ↔ _
  simp only [Except.ok.injEq, Prod.mk.injEq, true_and]

end Steps

-- A part of the scan has taken this text off the front of the input.
structure Took (sc : Scanner) (text : Bytes) (sc' : Scanner) : Prop where
  input : sc'.input = sc.input
  left : sc.left = text ++ sc'.left
  pos : sc'.pos = sc.pos + text.length

theorem took_nil (sc : Scanner) : Took sc [] sc := ⟨rfl, rfl, rfl⟩

theorem took_append (sc sc' sc'' : Scanner) (text more : Bytes) (first : Took sc text sc') (second : Took sc' more sc'') :
    Took sc (text ++ more) sc'' := by
  refine ⟨second.input.trans first.input, ?_, ?_⟩
  · rw [first.left, second.left, List.append_assoc]
  · rw [second.pos, first.pos, List.length_append, Nat.add_assoc]

theorem took_moved (sc : Scanner) (text rest : Bytes) (found : sc.left = text ++ rest) :
    Took sc text (sc.moved (sc.pos + text.length)) ∧ (sc.moved (sc.pos + text.length)).left = rest := by
  have behind : (sc.moved (sc.pos + text.length)).left = rest := by
    show sc.input.drop (sc.pos + text.length) = rest
    rw [← List.drop_drop, show sc.input.drop sc.pos = text ++ rest from found, List.drop_left]
  exact ⟨⟨rfl, by rw [behind, found], rfl⟩, behind⟩

theorem peek_left (sc : Scanner) : sc.peek = sc.left.head? := by
  unfold Scanner.peek Scanner.left
  rw [List.head?_drop]

theorem slice_took (sc sc' : Scanner) (text : Bytes) (took : Took sc text sc') : sc.slice sc.pos sc'.pos = text := by
  unfold Scanner.slice
  rw [took.pos, List.drop_take, Nat.add_sub_cancel_left, show sc.input.drop sc.pos = text ++ sc'.left from took.left,
    List.take_left]

theorem took_left (sc sc' : Scanner) (text rest : Bytes) (took : Took sc text sc') (found : sc.left = text ++ rest) :
    sc'.left = rest := List.append_cancel_left (took.left.symm.trans found)

section Literals

def free : Bytes → Bool
  | [] => true
  | byte :: rest =>
      !(byte == 0x7B || byte == 0x5B || byte == 0x7D || byte == 0x5D) && !(byte == quote && rest.head? == some 0x3A) && free rest

theorem charge_free (sc : Scanner) (offset : Nat) (text : Bytes) (budget : JsonBudget) (uncharged : free text = true) :
    sc.chargeLiteral offset text budget = .ok budget := by
  induction text generalizing offset with
  | nil => rfl
  | cons byte rest ih =>
      simp only [free, Bool.and_eq_true, Bool.not_eq_true', Bool.or_eq_false_iff, beq_eq_false_iff_ne, Bool.and_eq_false_iff,
        ne_eq] at uncharged
      obtain ⟨⟨plain, named⟩, others⟩ := uncharged
      have charged : sc.chargeByte offset byte rest.head? budget = .ok budget := by
        unfold Scanner.chargeByte
        rw [if_neg (by tauto), if_neg (by tauto), if_neg (by tauto)]
      rw [Scanner.chargeLiteral, charged, ok_bind]
      exact ih (offset + 1) others

theorem take_lit_free (lit : String) (sc : Scanner) (rest : Bytes) (uncharged : free (asBytes lit) = true)
    (found : sc.left = asBytes lit ++ rest) :
    Scanner.takeLit lit sc = .ok (true, sc.moved (sc.pos + (asBytes lit).length)) := by
  have there : asBytes lit <+: sc.left := ⟨rest, found.symm⟩
  unfold Scanner.takeLit
  rw [if_pos there, charge_free sc sc.pos (asBytes lit) sc.budget uncharged]
  rfl

theorem expect_free (lit : String) (sc : Scanner) (rest : Bytes) (uncharged : free (asBytes lit) = true)
    (found : sc.left = asBytes lit ++ rest) :
    Scanner.expect lit sc = .ok ((), sc.moved (sc.pos + (asBytes lit).length)) := by
  simp [Scanner.expect, take_lit_free lit sc rest uncharged found]

theorem take_lit_true (lit : String) (sc sc' : Scanner) (taken : Scanner.takeLit lit sc = .ok (true, sc')) :
    Took sc (asBytes lit) sc' := by
  unfold Scanner.takeLit at taken
  by_cases found : asBytes lit <+: sc.left
  · simp only [if_pos found, bind_ok, map_error_ok, pure_ok, Prod.mk.injEq, true_and] at taken
    obtain ⟨budget, _, same⟩ := taken
    obtain ⟨rest, split⟩ := found
    rw [← same]
    have moved := took_moved sc (asBytes lit) rest split.symm
    exact ⟨rfl, moved.1.left, rfl⟩
  · simp only [if_neg found, pure_ok, Prod.mk.injEq] at taken
    cases taken.1

theorem take_lit_false (lit : String) (sc sc' : Scanner) (passed : Scanner.takeLit lit sc = .ok (false, sc')) :
    sc' = sc ∧ ¬asBytes lit <+: sc.left := by
  unfold Scanner.takeLit at passed
  by_cases found : asBytes lit <+: sc.left
  · simp only [if_pos found, bind_ok, pure_ok, Prod.mk.injEq] at passed
    obtain ⟨_, _, same, _⟩ := passed
    cases same
  · simp only [if_neg found, pure_ok, Prod.mk.injEq, true_and] at passed
    exact ⟨passed.symm, found⟩

theorem take_lit_absent (lit : String) (sc : Scanner) (absent : ¬asBytes lit <+: sc.left) :
    Scanner.takeLit lit sc = .ok (false, sc) := by
  unfold Scanner.takeLit
  rw [if_neg absent]
  rfl

theorem expect_took (lit : String) (sc sc' : Scanner) (done : Unit) (taken : Scanner.expect lit sc = .ok (done, sc')) :
    Took sc (asBytes lit) sc' := by
  simp only [Scanner.expect, scan_bind_ok] at taken
  obtain ⟨found, at', first, later⟩ := taken
  cases found with
  | true =>
      have same : sc' = at' := by simpa using later
      rw [same]
      exact take_lit_true lit sc at' first
  | false => simp at later

theorem finish_ok (sc sc' : Scanner) (done : Unit) : Scanner.finish sc = .ok (done, sc') ↔ sc' = sc ∧ sc.pos = sc.input.length := by
  by_cases whole : sc.pos = sc.input.length
  · have same : sc = sc' ↔ sc' = sc := eq_comm
    simp [Scanner.finish, whole, same]
  · simp [Scanner.finish, whole]

theorem finish_left (sc sc' : Scanner) (done : Unit) (finished : Scanner.finish sc = .ok (done, sc')) : sc.left = [] := by
  obtain ⟨_, whole⟩ := (finish_ok sc sc' done).mp finished
  unfold Scanner.left
  rw [whole, List.drop_length]

end Literals

section Strings

theorem string_end_ok (sc : Scanner) (pos stop : Nat) (bytes : Bytes) :
    sc.stringEnd pos bytes = .ok stop ↔
      ∃ content rest, bytes = content ++ quote :: rest ∧ (∀ byte ∈ content, Plain byte) ∧ stop = pos + content.length := by
  induction bytes generalizing pos with
  | nil => simp [Scanner.stringEnd, refuse]
  | cons byte bytes ih =>
      by_cases closing : byte = quote
      · have ended : sc.stringEnd pos (byte :: bytes) = .ok pos := by simp [Scanner.stringEnd, closing]
        rw [ended, Except.ok.injEq]
        apply Iff.intro
        · intro same
          exact ⟨[], bytes, by rw [closing]; rfl, by simp, same.symm⟩
        · intro found
          obtain ⟨content, rest, split, plain, same⟩ := found
          cases content with
          | nil => exact same.symm
          | cons first content =>
              have first' := (List.cons.inj split).1
              exact absurd (first'.symm.trans closing) (plain first List.mem_cons_self).2.1
      · by_cases plain : Plain byte
        · have walked : sc.stringEnd pos (byte :: bytes) = sc.stringEnd (pos + 1) bytes := by
            have high : ¬byte < 0x20 := UInt8.not_lt.mpr plain.1
            simp [Scanner.stringEnd, closing, plain.2.2, high]
          rw [walked, ih]
          apply Iff.intro
          · intro found
            obtain ⟨content, rest, split, others, same⟩ := found
            refine ⟨byte :: content, rest, by rw [split]; rfl, List.forall_mem_cons.mpr ⟨plain, others⟩, ?_⟩
            rw [same, List.length_cons]
            omega
          · intro found
            obtain ⟨content, rest, split, others, same⟩ := found
            cases content with
            | nil => exact absurd (List.cons.inj split).1 closing
            | cons first content =>
                refine ⟨content, rest, (List.cons.inj split).2, (List.forall_mem_cons.mp others).2, ?_⟩
                rw [same, List.length_cons]
                omega
        · have failed : ∀ given, sc.stringEnd pos (byte :: bytes) ≠ .ok given := by
            intro given accepted
            unfold Scanner.stringEnd at accepted
            rw [if_neg closing] at accepted
            split at accepted
            · cases accepted
            · rename_i raw
              split at accepted
              · cases accepted
              · rename_i high
                exact plain ⟨UInt8.not_lt.mp high, closing, raw⟩
          apply Iff.intro
          · intro accepted
            exact absurd accepted (failed stop)
          · intro found
            obtain ⟨content, rest, split, others, _⟩ := found
            cases content with
            | nil => exact absurd (List.cons.inj split).1 closing
            | cons first content =>
                rw [(List.cons.inj split).1] at plain
                exact absurd (others first List.mem_cons_self) plain

theorem every_byte (shows : UInt8 → Prop) (all : ∀ value : Fin 256, shows (UInt8.ofFin value)) (byte : UInt8) : shows byte :=
  all byte.toFin

theorem hex_values_checked (byte : UInt8) :
    (Scanner.hexValue byte).all (fun value => decide (value < 16 ∧ byte = hexDigit value)) = true ∧
      (byte < 16 → Scanner.hexValue (hexDigit byte) = some byte) := by
  revert byte
  exact every_byte _ (by decide +kernel)

theorem hex_value_some (byte value : UInt8) (read : Scanner.hexValue byte = some value) :
    value < 16 ∧ byte = hexDigit value := by
  have found := (hex_values_checked byte).1
  rw [read] at found
  exact of_decide_eq_true found

theorem hex_value_digit (value : UInt8) (small : value < 16) : Scanner.hexValue (hexDigit value) = some value :=
  (hex_values_checked value).2 small

theorem halves_whole (byte : UInt8) : byte / 16 < 16 ∧ byte % 16 < 16 ∧ byte / 16 * 16 + byte % 16 = byte := by
  have bound := byte.toNat_lt
  refine ⟨UInt8.lt_iff_toNat_lt.mpr ?_, UInt8.lt_iff_toNat_lt.mpr ?_, UInt8.toNat_inj.mp ?_⟩
  · simp only [UInt8.toNat_div, UInt8.reduceToNat]
    omega
  · simp only [UInt8.toNat_mod, UInt8.reduceToNat]
    omega
  · simp only [UInt8.toNat_add, UInt8.toNat_mul, UInt8.toNat_div, UInt8.toNat_mod, UInt8.reduceToNat]
    omega

theorem whole_halves (high low : UInt8) (small : high < 16) (small' : low < 16) :
    (high * 16 + low) / 16 = high ∧ (high * 16 + low) % 16 = low := by
  have bound : high.toNat < 16 := UInt8.lt_iff_toNat_lt.mp small
  have bound' : low.toNat < 16 := UInt8.lt_iff_toNat_lt.mp small'
  refine ⟨UInt8.toNat_inj.mp ?_, UInt8.toNat_inj.mp ?_⟩
  · simp only [UInt8.toNat_div, UInt8.toNat_add, UInt8.toNat_mul, UInt8.reduceToNat]
    omega
  · simp only [UInt8.toNat_mod, UInt8.toNat_add, UInt8.toNat_mul, UInt8.reduceToNat]
    omega

theorem short_escape (mark : UInt8) (short : mark ∈ Scanner.shortEscapes) : ∃ byte, escapeByte byte = [backslash, mark] := by
  simp only [Scanner.shortEscapes, List.mem_cons, List.not_mem_nil, or_false] at short
  rcases short with same | same | same | same | same | same | same
  · exact ⟨quote, by rw [same]; rfl⟩
  · exact ⟨backslash, by rw [same]; rfl⟩
  · exact ⟨0x08, by rw [same]; rfl⟩
  · exact ⟨0x0C, by rw [same]; rfl⟩
  · exact ⟨0x0A, by rw [same]; rfl⟩
  · exact ⟨0x0D, by rw [same]; rfl⟩
  · exact ⟨0x09, by rw [same]; rfl⟩

theorem long_escape (high low : UInt8) (small : high < 16) (small' : low < 16) (control : high * 16 + low < 0x20)
    (long : high * 16 + low ∉ Scanner.longForms) :
    escapeByte (high * 16 + low) = [backslash, 0x75, 0x30, 0x30, hexDigit high, hexDigit low] := by
  obtain ⟨first, second⟩ := whole_halves high low small small'
  have spelled := escape_byte_control (high * 16 + low) control long
  rwa [first, second] at spelled

theorem hex_digit_at_ok (sc : Scanner) (pos : Nat) (byte : Option UInt8) (value : UInt8) :
    sc.hexDigitAt pos byte = .ok value ↔ byte.bind Scanner.hexValue = some value := by
  unfold Scanner.hexDigitAt
  cases byte.bind Scanner.hexValue with
  | none => simp [refuse]
  | some found => simp

theorem check_control_ok (sc : Scanner) (pos : Nat) (behind : Bytes) (checked : sc.checkControl pos behind = .ok ()) :
    ∃ high low more, behind = 0x30 :: 0x30 :: hexDigit high :: hexDigit low :: more ∧
      escapeByte (high * 16 + low) = [backslash, 0x75, 0x30, 0x30, hexDigit high, hexDigit low] := by
  unfold Scanner.checkControl at checked
  split at checked
  · cases checked
  · rename_i zeros
    obtain ⟨digits, split⟩ := not_not.mp zeros
    simp only [bind_ok, hex_digit_at_ok] at checked
    obtain ⟨high, first, low, second, checked⟩ := checked
    rw [← split] at first second
    split at checked
    · cases checked
    · rename_i allowed
      cases digits with
      | nil => cases first
      | cons one digits =>
          cases digits with
          | nil => cases second
          | cons two more =>
              obtain ⟨small, spelled⟩ := hex_value_some one high first
              obtain ⟨small', spelled'⟩ := hex_value_some two low second
              refine ⟨high, low, more, ?_, ?_⟩
              · rw [← split, spelled, spelled']
                rfl
              · apply long_escape high low small small'
                · exact UInt8.not_le.mp fun wide => allowed (.inl wide)
                · exact fun form => allowed (.inr form)

theorem json_string_end_escape (sc : Scanner) (pos : Nat) (byte : UInt8) (more : Bytes) :
    sc.jsonStringEnd pos (escapeByte byte ++ more) = sc.jsonStringEnd (pos + (escapeByte byte).length) more := by
  rcases escape_byte_cases byte with plain | ⟨mark, known, spelled⟩ | control
  · have high : ¬byte < 0x20 := UInt8.not_lt.mpr plain.1
    rw [escape_byte_plain byte plain, List.singleton_append, Scanner.jsonStringEnd.eq_def]
    simp only [if_neg plain.2.1, if_neg plain.2.2, if_neg high, List.length_singleton]
  · have short : mark ∈ Scanner.shortEscapes := known
    rw [spelled, Scanner.jsonStringEnd.eq_def]
    have marked : backslash ≠ quote := by decide
    simp only [List.cons_append, List.nil_append, List.length_cons, List.length_nil, if_neg marked, if_true, if_pos short]
  · have spelled := escape_byte_control byte control.1 control.2
    have halves := halves_whole byte
    have checked : sc.checkControl (pos + 2) (0x30 :: 0x30 :: hexDigit (byte / 16) :: hexDigit (byte % 16) :: more) = .ok () := by
      have first := hex_value_digit (byte / 16) halves.1
      have second := hex_value_digit (byte % 16) halves.2.1
      have narrow : ¬(0x20 ≤ byte ∨ byte ∈ Scanner.longForms) := by
        intro wide
        rcases wide with high | form
        · exact absurd control.1 (UInt8.not_lt.mpr high)
        · exact control.2 form
      simp only [Scanner.checkControl, Scanner.hexDigitAt, List.getElem?_cons_succ, List.getElem?_cons_zero, Option.bind_some,
        first, second, halves.2.2, if_neg narrow, List.cons_prefix_cons, List.nil_prefix, and_self, not_true_eq_false,
        if_false, ok_bind]
      rfl
    rw [spelled]
    simp only [List.cons_append, List.nil_append, List.length_cons, List.length_nil]
    rw [Scanner.jsonStringEnd, if_neg (by decide), if_pos rfl]
    simp only [show (0x75 : UInt8) ∉ Scanner.shortEscapes by decide, if_false, if_true, checked, ok_bind]

theorem json_string_end_step (sc : Scanner) (pos stop : Nat) (first : UInt8) (rest : Bytes) (open' : first ≠ quote)
    (walked : sc.jsonStringEnd pos (first :: rest) = .ok stop) :
    ∃ byte more, first :: rest = escapeByte byte ++ more := by
  rw [Scanner.jsonStringEnd.eq_def] at walked
  simp only [if_neg open'] at walked
  split at walked
  · rename_i escaped
    split at walked
    · cases walked
    · rename_i mark behind
      split at walked
      · rename_i short
        obtain ⟨byte, spelled⟩ := short_escape mark short
        exact ⟨byte, behind, by rw [spelled, escaped]; rfl⟩
      · split at walked
        · rename_i long
          obtain ⟨_, checked, _⟩ := (bind_ok _ _ _).mp walked
          obtain ⟨high, low, more, split, spelled⟩ := check_control_ok sc _ _ checked
          exact ⟨high * 16 + low, more, by rw [spelled, escaped, long, split]; rfl⟩
        · cases walked
  · rename_i raw
    split at walked
    · cases walked
    · rename_i high
      refine ⟨first, rest, ?_⟩
      rw [escape_byte_plain first ⟨UInt8.not_lt.mp high, open', raw⟩]
      rfl

theorem json_string_end_ok (sc : Scanner) (pos stop : Nat) (bytes : Bytes) :
    sc.jsonStringEnd pos bytes = .ok stop ↔
      ∃ text rest, bytes = escape text ++ quote :: rest ∧ stop = pos + (escape text).length := by
  apply Iff.intro
  · generalize size : bytes.length = count
    induction count using Nat.strongRecOn generalizing bytes pos with
    | ind count ih =>
        intro walked
        cases bytes with
        | nil => cases walked
        | cons first rest =>
            by_cases closing : first = quote
            · rw [Scanner.jsonStringEnd.eq_def] at walked
              simp only [if_pos closing, Except.ok.injEq] at walked
              exact ⟨[], rest, by rw [closing]; rfl, walked.symm⟩
            · obtain ⟨byte, more, split⟩ := json_string_end_step sc pos stop first rest closing walked
              rw [split, json_string_end_escape] at walked
              have positive := List.length_pos_of_ne_nil (escape_byte_filled byte)
              have shorter : more.length < count := by
                rw [← size, split, List.length_append]
                omega
              obtain ⟨text, behind, found, same⟩ := ih more.length shorter _ more rfl walked
              refine ⟨byte :: text, behind, ?_, ?_⟩
              · rw [split, found]
                simp [escape]
              · rw [same]
                simp [escape, Nat.add_assoc]
  · intro found
    obtain ⟨text, rest, split, same⟩ := found
    rw [split, same]
    clear split same
    induction text generalizing pos with
    | nil =>
        rw [Scanner.jsonStringEnd.eq_def]
        simp [escape]
    | cons byte text ih =>
        have unfolded : escape (byte :: text) = escapeByte byte ++ escape text := rfl
        rw [unfolded, List.append_assoc, json_string_end_escape, ih, List.length_append, Nat.add_assoc]

section Between

variable (findEnd : Scanner → Nat → Bytes → Except CodecError Nat) (holds : Bytes → Prop)
  (ends : ∀ sc pos bytes stop, findEnd sc pos bytes = .ok stop ↔
    ∃ content rest, bytes = content ++ quote :: rest ∧ holds content ∧ stop = pos + content.length)

theorem read_utf8_ok (sc : Scanner) (start stop : Nat) (expected text : String) :
    sc.readUtf8 start stop expected = .ok text ↔ sc.slice start stop = asBytes text := by
  unfold Scanner.readUtf8
  rw [eq_comm (a := sc.slice start stop), ← from_utf8_some]
  cases fromUtf8 (sc.slice start stop) with
  | none => simp [refuse]
  | some found => simp

include ends

theorem between_took (expected : String) (sc sc' : Scanner) (text : Spanned)
    (read : Scanner.between findEnd expected sc = .ok (text, sc')) :
    Took sc (quoted (asBytes text.value)) sc' ∧ holds (asBytes text.value) ∧ text.start = sc.pos + 1 ∧
      text.stop = text.start + (asBytes text.value).length := by
  simp only [Scanner.between, scan_bind_ok, get_ok, check_ok, set_ok, scan_pure_ok] at read
  obtain ⟨_, _, first, _, at', ⟨same, same'⟩, stop, _, ⟨found, same''⟩, value, _, ⟨valued, same'''⟩, _, moved,
    jumped, _, closed, last, result, final⟩ := read
  subst same same' same'' same'''
  obtain ⟨content, rest, split, allowed, ending⟩ := (ends _ _ _ _).mp found
  have opening := expect_took _ _ _ _ first
  have passed := took_moved at' content (quote :: rest) split
  rw [← ending, jumped] at passed
  have closing := expect_took _ _ _ _ last
  have spelled : content = asBytes value := by
    rw [← slice_took at' moved content passed.1, ← (read_utf8_ok at' at'.pos stop expected value).mp valued, ← jumped]
    rfl
  have whole := took_append _ _ _ _ _ (took_append _ _ _ _ _ opening passed.1) closing
  have mark : asBytes "\"" = [quote] := rfl
  rw [mark, final, spelled] at whole
  rw [← result]
  rw [spelled] at allowed ending
  refine ⟨whole, allowed, ?_, ending⟩
  rw [opening.pos, mark]
  rfl

theorem between_reads (expected value : String) (sc : Scanner) (rest : Bytes)
    (found : sc.left = quoted (asBytes value) ++ rest) (allowed : holds (asBytes value)) :
    Scanner.between findEnd expected sc =
      .ok (⟨value, sc.pos + 1, sc.pos + 1 + (asBytes value).length⟩, sc.moved (sc.pos + (quoted (asBytes value)).length)) := by
  have mark : asBytes "\"" = [quote] := rfl
  have uncharged : free (asBytes "\"") = true := rfl
  have opened : sc.left = asBytes "\"" ++ (asBytes value ++ quote :: rest) := by
    rw [found, mark]
    simp [quoted]
  have first := expect_free "\"" sc _ uncharged opened
  have behind := (took_moved sc _ _ opened).2
  generalize at' : sc.moved (sc.pos + (asBytes "\"").length) = middle at first behind
  have ending := (ends middle middle.pos middle.left (middle.pos + (asBytes value).length)).mpr
    ⟨asBytes value, rest, behind, allowed, rfl⟩
  have passed := took_moved middle _ _ behind
  have sliced := slice_took _ _ _ passed.1
  have valued := (read_utf8_ok middle middle.pos (middle.pos + (asBytes value).length) expected value).mpr sliced
  have last := expect_free "\"" (middle.moved (middle.pos + (asBytes value).length)) rest uncharged (passed.2.trans (by rw [mark]; rfl))
  have start : middle.pos = sc.pos + 1 := by
    rw [← at', mark]
    rfl
  have size : (quoted (asBytes value)).length = (asBytes value).length + 2 := by simp [quoted]
  unfold Scanner.between
  rw [scan_bind_run _ _ _ _ _ first, scan_get_run]
  have checked : check (findEnd middle middle.pos middle.left) middle = .ok (middle.pos + (asBytes value).length, middle) :=
    (check_ok _ _ _ _).mpr ⟨ending, rfl⟩
  have converted : check (middle.readUtf8 middle.pos (middle.pos + (asBytes value).length) expected) middle =
      .ok (value, middle) := (check_ok _ _ _ _).mpr ⟨valued, rfl⟩
  rw [scan_bind_run _ _ _ _ _ checked, scan_bind_run _ _ _ _ _ converted]
  have placed : (set (middle.moved (middle.pos + (asBytes value).length)) : Scan Unit) middle =
      .ok ((), middle.moved (middle.pos + (asBytes value).length)) := rfl
  rw [scan_bind_run _ _ _ _ _ placed, scan_bind_run _ _ _ _ _ last, scan_pure_ok]
  refine ⟨by rw [start], ?_⟩
  rw [mark, size, ← at', mark]
  simp only [Scanner.moved, List.length_singleton, Scanner.mk.injEq, true_and, and_true]
  omega

end Between

def Utf8 (bytes : Bytes) : Prop := ∃ text, asBytes text = bytes

theorem string_took (sc sc' : Scanner) (text : Spanned) (read : Scanner.string sc = .ok (text, sc')) :
    Took sc (quoted (asBytes text.value)) sc' ∧ (∀ byte ∈ asBytes text.value, Plain byte) ∧ text.start = sc.pos + 1 ∧
      text.stop = text.start + (asBytes text.value).length :=
  between_took Scanner.stringEnd _ (fun sc pos bytes stop => string_end_ok sc pos stop bytes) _ sc sc' text read

theorem string_reads (value : String) (sc : Scanner) (rest : Bytes) (found : sc.left = quoted (asBytes value) ++ rest)
    (plain : ∀ byte ∈ asBytes value, Plain byte) :
    Scanner.string sc =
      .ok (⟨value, sc.pos + 1, sc.pos + 1 + (asBytes value).length⟩, sc.moved (sc.pos + (quoted (asBytes value)).length)) :=
  between_reads Scanner.stringEnd _ (fun sc pos bytes stop => string_end_ok sc pos stop bytes) _ value sc rest found plain

theorem json_ends (sc : Scanner) (pos : Nat) (bytes : Bytes) (stop : Nat) :
    sc.jsonStringEnd pos bytes = .ok stop ↔
      ∃ content rest, bytes = content ++ quote :: rest ∧ (∃ text, content = escape text) ∧ stop = pos + content.length := by
  rw [json_string_end_ok]
  apply Iff.intro
  · intro found
    obtain ⟨text, rest, split, same⟩ := found
    exact ⟨escape text, rest, split, ⟨text, rfl⟩, same⟩
  · intro found
    obtain ⟨content, rest, split, ⟨text, spelled⟩, same⟩ := found
    exact ⟨text, rest, by rw [split, spelled], by rw [same, spelled]⟩

theorem json_string_took (sc sc' : Scanner) (text : Spanned) (read : Scanner.jsonString sc = .ok (text, sc')) :
    Took sc (quoted (asBytes text.value)) sc' ∧ Content Utf8 (asBytes text.value) ∧ text.start = sc.pos + 1 ∧
      text.stop = text.start + (asBytes text.value).length := by
  have taken := between_took Scanner.jsonStringEnd _ json_ends _ sc sc' text read
  exact ⟨taken.1, ⟨⟨text.value, rfl⟩, taken.2.1⟩, taken.2.2⟩

theorem json_string_reads (value : String) (sc : Scanner) (rest : Bytes) (found : sc.left = quoted (asBytes value) ++ rest)
    (allowed : Content Utf8 (asBytes value)) :
    Scanner.jsonString sc =
      .ok (⟨value, sc.pos + 1, sc.pos + 1 + (asBytes value).length⟩, sc.moved (sc.pos + (quoted (asBytes value)).length)) :=
  between_reads Scanner.jsonStringEnd _ json_ends _ value sc rest found allowed.2

theorem escape_plain (text : Bytes) (plain : ∀ byte ∈ text, Plain byte) : escape text = text := by
  induction text with
  | nil => rfl
  | cons byte text ih =>
      obtain ⟨first, others⟩ := List.forall_mem_cons.mp plain
      have unfolded : escape (byte :: text) = escapeByte byte ++ escape text := rfl
      rw [unfolded, escape_byte_plain byte first, ih others]
      rfl

theorem plain_content (text : String) (plain : ∀ byte ∈ asBytes text, Plain byte) : Content Utf8 (asBytes text) :=
  ⟨⟨text, rfl⟩, asBytes text, (escape_plain _ plain).symm⟩

theorem plain_labels (labels : List String)
    (checked : (labels.all fun label => (asBytes label).all fun byte => decide (Plain byte)) = true) :
    ∀ label ∈ labels, ∀ byte ∈ asBytes label, Plain byte :=
  fun label inside => plain_checked _ (List.all_eq_true.mp checked label inside)

end Strings

section Numbers

def NoDigit (rest : Bytes) : Prop := ∀ byte, rest.head? = some byte → isDigit byte = false

theorem at_digit_left (sc : Scanner) : sc.atDigit = sc.left.head?.any isDigit := by
  rw [Scanner.atDigit, peek_left]

theorem stops_no_digit (rest : Bytes) (stops : Stops rest) : NoDigit rest := fun byte found => (stops byte found).1

theorem take_while_digits (digits rest : Bytes) (all : ∀ byte ∈ digits, isDigit byte = true) (ends : NoDigit rest) :
    (digits ++ rest).takeWhile isDigit = digits := by
  rw [List.takeWhile_append_of_pos all]
  cases rest with
  | nil => rw [List.takeWhile_nil, List.append_nil]
  | cons byte rest => rw [List.takeWhile_cons_of_neg (by simp [ends byte rfl]), List.append_nil]

theorem skip_digits_took (sc sc' : Scanner) (done : Unit) (skipped : Scanner.skipDigits sc = .ok (done, sc')) :
    ∃ text, Took sc text sc' ∧ (∀ byte ∈ text, isDigit byte = true) ∧ text = sc.left.takeWhile isDigit := by
  rw [Scanner.skipDigits, modify_ok] at skipped
  rw [← skipped]
  have split := (List.takeWhile_append_dropWhile (p := isDigit) (l := sc.left)).symm
  exact ⟨_, (took_moved sc _ _ split).1, fun byte inside => (List.mem_takeWhile_imp inside), rfl⟩

theorem skip_digits_reads (sc : Scanner) (digits rest : Bytes) (found : sc.left = digits ++ rest)
    (all : ∀ byte ∈ digits, isDigit byte = true) (ends : NoDigit rest) :
    Scanner.skipDigits sc = .ok ((), sc.moved (sc.pos + digits.length)) := by
  rw [Scanner.skipDigits, modify_ok, found, take_while_digits digits rest all ends]

theorem some_digits_took (expected : String) (sc sc' : Scanner) (done : Unit)
    (read : Scanner.someDigits expected sc = .ok (done, sc')) : ∃ text, Took sc text sc' ∧ Digits text := by
  simp only [Scanner.someDigits, scan_bind_ok, get_ok, and_assoc] at read
  obtain ⟨_, at', same, same', read⟩ := read
  subst same same'
  by_cases digit : at'.atDigit
  · rw [if_pos digit] at read
    obtain ⟨text, took, all, spelled⟩ := skip_digits_took _ _ _ read
    refine ⟨text, took, ?_, all⟩
    rw [at_digit_left] at digit
    intro empty
    cases found : at'.left with
    | nil => simp [found] at digit
    | cons byte rest =>
        rw [found] at digit spelled
        rw [List.takeWhile_cons_of_pos (by simpa using digit), empty] at spelled
        cases spelled
  · simp [if_neg digit] at read

theorem some_digits_reads (expected : String) (sc : Scanner) (digits rest : Bytes) (found : sc.left = digits ++ rest)
    (all : Digits digits) (ends : NoDigit rest) :
    Scanner.someDigits expected sc = .ok ((), sc.moved (sc.pos + digits.length)) := by
  have digit : sc.atDigit = true := by
    rw [at_digit_left, found]
    cases digits with
    | nil => exact absurd rfl all.1
    | cons byte digits => simpa using all.2 byte List.mem_cons_self
  rw [Scanner.someDigits, scan_get_run, if_pos digit]
  exact skip_digits_reads sc digits rest found all.2 ends

theorem whole_digits_took (zeros expected : String) (sc sc' : Scanner) (done : Unit)
    (read : Scanner.wholeDigits zeros expected sc = .ok (done, sc')) : ∃ text, Took sc text sc' ∧ Whole text := by
  rw [Scanner.wholeDigits, scan_get_run] at read
  by_cases zero : sc.peek = some 0x30
  · rw [if_pos zero] at read
    simp only [Scanner.advance, scan_bind_ok, modify_ok, get_ok] at read
    obtain ⟨_, at', moved, _, _, ⟨_, same⟩, read⟩ := read
    subst same
    split at read
    · simp at read
    · obtain ⟨_, same⟩ := (scan_pure_ok _ _ _ _).mp read
      rw [← same, ← moved]
      rw [peek_left] at zero
      cases found : sc.left with
      | nil => simp [found] at zero
      | cons byte rest =>
          rw [found] at zero
          have first : byte = 0x30 := by simpa using zero
          exact ⟨[0x30], (took_moved sc [0x30] rest (by rw [found, first]; rfl)).1, .inl rfl⟩
  · rw [if_neg zero] at read
    by_cases digit : sc.atDigit
    · rw [if_pos digit] at read
      obtain ⟨text, took, all, spelled⟩ := skip_digits_took _ _ _ read
      refine ⟨text, took, .inr ?_⟩
      rw [at_digit_left] at digit
      rw [peek_left] at zero
      cases found : sc.left with
      | nil => simp [found] at digit
      | cons byte rest =>
          rw [found] at digit spelled zero
          have first : isDigit byte = true := by simpa using digit
          rw [List.takeWhile_cons_of_pos first] at spelled
          refine ⟨byte, rest.takeWhile isDigit, spelled, first, ?_, fun other inside => List.mem_takeWhile_imp inside⟩
          intro same
          exact zero (by rw [same]; rfl)
    · simp [if_neg digit] at read

theorem whole_digits_reads (zeros expected : String) (sc : Scanner) (text rest : Bytes) (found : sc.left = text ++ rest)
    (whole : Whole text) (ends : NoDigit rest) :
    Scanner.wholeDigits zeros expected sc = .ok ((), sc.moved (sc.pos + text.length)) := by
  rw [Scanner.wholeDigits, scan_get_run]
  rcases whole with zero | longer
  · rw [zero] at found ⊢
    have first : sc.peek = some 0x30 := by rw [peek_left, found]; rfl
    have moved := took_moved sc [0x30] rest found
    have stopped : (sc.moved (sc.pos + 1)).atDigit = false := by
      rw [at_digit_left, show (sc.moved (sc.pos + 1)).left = rest from moved.2]
      cases head : rest.head? with
      | none => rfl
      | some byte => simpa using ends byte head
    have advanced : Scanner.advance sc = .ok ((), sc.moved (sc.pos + 1)) := (modify_ok _ _ _ _).mpr rfl
    rw [if_pos first, scan_bind_run _ _ _ _ _ advanced, scan_get_run, stopped]
    rfl
  · obtain ⟨first, others, spelled, digit, positive, all⟩ := longer
    have head : sc.left.head? = some first := by rw [found, spelled]; rfl
    have nonzero : sc.peek ≠ some 0x30 := by
      rw [peek_left, head]
      intro same
      exact positive (Option.some.inj same)
    have some' : sc.atDigit = true := by
      rw [at_digit_left, head]
      simpa using digit
    rw [if_neg nonzero, if_pos some']
    apply skip_digits_reads sc text rest found _ ends
    rw [spelled]
    exact List.forall_mem_cons.mpr ⟨digit, all⟩

theorem take_lit_cases (lit : String) (sc sc' : Scanner) (taken : Bool) (read : Scanner.takeLit lit sc = .ok (taken, sc')) :
    (taken = true ∧ Took sc (asBytes lit) sc') ∨ (taken = false ∧ Took sc [] sc') := by
  cases taken with
  | true => exact .inl ⟨rfl, take_lit_true lit sc sc' read⟩
  | false =>
      rw [(take_lit_false lit sc sc' read).1]
      exact .inr ⟨rfl, took_nil sc⟩

theorem number_fraction_took (sc sc' : Scanner) (done : Unit) (read : Scanner.numberFraction sc = .ok (done, sc')) :
    ∃ text, Took sc text sc' ∧ Fraction text := by
  simp only [Scanner.numberFraction, scan_bind_ok] at read
  obtain ⟨point, at', first, read⟩ := read
  rcases take_lit_cases _ _ _ _ first with found | found
  · obtain ⟨taken, took⟩ := found
    rw [if_pos taken] at read
    obtain ⟨digits, others, all⟩ := some_digits_took _ _ _ _ read
    exact ⟨_, took_append _ _ _ _ _ took others, .inr ⟨digits, all, by rfl⟩⟩
  · obtain ⟨passed, took⟩ := found
    rw [passed] at read
    obtain ⟨_, same⟩ := (scan_pure_ok _ _ _ _).mp read
    rw [← same]
    exact ⟨[], took, .inl rfl⟩

theorem take_any_took (lits : List String) (sc sc' : Scanner) (taken : Bool) (read : Scanner.takeAny lits sc = .ok (taken, sc')) :
    (taken = true ∧ ∃ lit ∈ lits, Took sc (asBytes lit) sc') ∨ (taken = false ∧ Took sc [] sc') := by
  induction lits with
  | nil =>
      obtain ⟨passed, same⟩ := (scan_pure_ok _ _ _ _).mp read
      rw [← passed, ← same]
      exact .inr ⟨rfl, took_nil sc⟩
  | cons lit others ih =>
      rw [Scanner.takeAny, scan_bind_ok] at read
      obtain ⟨first, at', found, read⟩ := read
      cases first with
      | true =>
          obtain ⟨same, same'⟩ := (scan_pure_ok _ _ _ _).mp read
          rw [← same, ← same']
          exact .inl ⟨rfl, lit, List.mem_cons_self, take_lit_true _ _ _ found⟩
      | false =>
          rw [(take_lit_false _ _ _ found).1] at read
          rcases ih read with later | later
          · obtain ⟨same, other, inside, took⟩ := later
            exact .inl ⟨same, other, List.mem_cons_of_mem lit inside, took⟩
          · exact .inr later

theorem number_exponent_took (sc sc' : Scanner) (done : Unit) (read : Scanner.numberExponent sc = .ok (done, sc')) :
    ∃ text, Took sc text sc' ∧ Exponent text := by
  simp only [Scanner.numberExponent, scan_bind_ok] at read
  obtain ⟨marked, at', first, read⟩ := read
  rcases take_any_took _ _ _ _ first with found | found
  · obtain ⟨taken, mark, known, took⟩ := found
    rw [if_pos taken, scan_bind_ok] at read
    obtain ⟨_, at1, second, digits⟩ := read
    obtain ⟨text, took'', all⟩ := some_digits_took _ _ _ _ digits
    have exponent : ∃ byte, asBytes mark = [byte] ∧ (byte = 0x65 ∨ byte = 0x45) := by
      simp only [List.mem_cons, List.not_mem_nil, or_false] at known
      rcases known with same | same
      · exact ⟨0x65, by rw [same]; rfl, .inl rfl⟩
      · exact ⟨0x45, by rw [same]; rfl, .inr rfl⟩
    obtain ⟨byte, spelled, which⟩ := exponent
    have sign : ∃ sign, (sign = [] ∨ sign = [0x2B] ∨ sign = [0x2D]) ∧ Took at' sign at1 := by
      rcases take_any_took _ _ _ _ second with found | found
      · obtain ⟨_, sign, known, took'⟩ := found
        simp only [List.mem_cons, List.not_mem_nil, or_false] at known
        rcases known with same | same
        · exact ⟨_, .inr (.inl (by rw [same]; rfl)), took'⟩
        · exact ⟨_, .inr (.inr (by rw [same]; rfl)), took'⟩
      · exact ⟨[], .inl rfl, found.2⟩
    obtain ⟨sign, known', took'⟩ := sign
    have whole := took_append _ _ _ _ _ took (took_append _ _ _ _ _ took' took'')
    rw [spelled] at whole
    exact ⟨_, whole, .inr ⟨byte, sign, text, which, known', all, rfl⟩⟩
  · obtain ⟨passed, took⟩ := found
    rw [passed] at read
    obtain ⟨_, same⟩ := (scan_pure_ok _ _ _ _).mp read
    rw [← same]
    exact ⟨[], took, .inl rfl⟩

theorem number_sign_took (sc sc' : Scanner) (done : Unit) (read : Scanner.numberSign sc = .ok (done, sc')) :
    ∃ sign, Took sc sign sc' ∧ (sign = [] ∨ sign = [0x2D]) := by
  simp only [Scanner.numberSign, scan_bind_ok, get_ok] at read
  obtain ⟨negative, at', first, _, _, ⟨same, same'⟩, read⟩ := read
  rw [same, same'] at read
  split at read
  · simp at read
  · obtain ⟨_, same⟩ := (scan_pure_ok _ _ _ _).mp read
    rw [← same]
    rcases take_lit_cases _ _ _ _ first with found | found
    · exact ⟨_, found.2, .inr rfl⟩
    · exact ⟨[], found.2, .inl rfl⟩

theorem text_from_ok (start : Nat) (expected : String) (sc sc' : Scanner) (text : String)
    (read : Scanner.textFrom start expected sc = .ok (text, sc')) : sc' = sc ∧ sc.slice start sc.pos = asBytes text := by
  rw [Scanner.textFrom, scan_get_run, check_ok, read_utf8_ok] at read
  exact ⟨read.2.symm, read.1⟩

theorem text_from_took (expected : String) (sc at' sc' : Scanner) (text : Bytes) (value : String) (took : Took sc text at')
    (read : Scanner.textFrom sc.pos expected at' = .ok (value, sc')) : sc' = at' ∧ text = asBytes value := by
  obtain ⟨same, sliced⟩ := text_from_ok _ _ _ _ _ read
  refine ⟨same, ?_⟩
  rw [← slice_took sc at' text took, ← sliced]
  unfold Scanner.slice
  rw [took.input]

theorem json_number_took (sc sc' : Scanner) (value : String) (read : Scanner.jsonNumber sc = .ok (value, sc')) :
    Took sc (asBytes value) sc' ∧ Numeral (asBytes value) := by
  rw [Scanner.jsonNumber, scan_get_run, scan_bind_ok] at read
  obtain ⟨_, at1, first, read⟩ := read
  obtain ⟨_, at2, second, read⟩ := (scan_bind_ok _ _ _ _ _).mp read
  obtain ⟨_, at3, third, read⟩ := (scan_bind_ok _ _ _ _ _).mp read
  obtain ⟨_, at4, fourth, last⟩ := (scan_bind_ok _ _ _ _ _).mp read
  obtain ⟨sign, took1, known⟩ := number_sign_took _ _ _ first
  obtain ⟨whole, took2, digits⟩ := whole_digits_took _ _ _ _ _ second
  obtain ⟨fraction, took3, part⟩ := number_fraction_took _ _ _ third
  obtain ⟨exponent, took4, power⟩ := number_exponent_took _ _ _ fourth
  have took := took_append _ _ _ _ _ (took_append _ _ _ _ _ (took_append _ _ _ _ _ took1 took2) took3) took4
  obtain ⟨same, spelled⟩ := text_from_took _ _ _ _ _ _ took last
  rw [same, ← spelled]
  exact ⟨took, sign, whole, fraction, exponent, known, digits, part, power, rfl⟩

theorem singleton_prefix (byte : UInt8) (text : Bytes) : [byte] <+: text ↔ text.head? = some byte := by
  cases text with
  | nil => simp
  | cons first rest => simp [eq_comm]

theorem take_any_reads (lits : List String) (lit : String) (sc : Scanner) (rest : Bytes) (known : lit ∈ lits)
    (uncharged : free (asBytes lit) = true) (alone : ∀ other ∈ lits, asBytes other <+: sc.left → other = lit)
    (found : sc.left = asBytes lit ++ rest) :
    Scanner.takeAny lits sc = .ok (true, sc.moved (sc.pos + (asBytes lit).length)) := by
  induction lits with
  | nil => cases known
  | cons first others ih =>
      by_cases there : asBytes first <+: sc.left
      · have same := alone first List.mem_cons_self there
        rw [Scanner.takeAny, same, scan_bind_run _ _ _ _ _ (take_lit_free lit sc rest uncharged found)]
        rfl
      · have later : lit ∈ others := by
          rcases List.mem_cons.mp known with same | inside
          · rw [← same] at there
            exact absurd ⟨rest, found.symm⟩ there
          · exact inside
        rw [Scanner.takeAny, scan_bind_run _ _ _ _ _ (take_lit_absent first sc there)]
        exact ih later (fun other inside => alone other (List.mem_cons_of_mem first inside))

theorem take_any_absent (lits : List String) (sc : Scanner) (absent : ∀ lit ∈ lits, ¬asBytes lit <+: sc.left) :
    Scanner.takeAny lits sc = .ok (false, sc) := by
  induction lits with
  | nil => rfl
  | cons first others ih =>
      rw [Scanner.takeAny, scan_bind_run _ _ _ _ _ (take_lit_absent first sc (absent first List.mem_cons_self))]
      exact ih fun other inside => absent other (List.mem_cons_of_mem first inside)

theorem number_fraction_reads (sc : Scanner) (text rest : Bytes) (found : sc.left = text ++ rest) (fraction : Fraction text)
    (ends : NoDigit rest) (point : rest.head? ≠ some 0x2E) :
    Scanner.numberFraction sc = .ok ((), sc.moved (sc.pos + text.length)) := by
  have mark : asBytes "." = [0x2E] := rfl
  have uncharged : free (asBytes ".") = true := rfl
  rcases fraction with empty | longer
  · rw [empty] at found ⊢
    have absent : ¬asBytes "." <+: sc.left := by
      rw [mark, singleton_prefix, found]
      exact point
    rw [Scanner.numberFraction, scan_bind_run _ _ _ _ _ (take_lit_absent "." sc absent)]
    rfl
  · obtain ⟨digits, all, spelled⟩ := longer
    have split : sc.left = asBytes "." ++ (digits ++ rest) := by rw [found, spelled, mark]; rfl
    have moved := took_moved sc _ _ split
    rw [Scanner.numberFraction, scan_bind_run _ _ _ _ _ (take_lit_free "." sc _ uncharged split)]
    have read := some_digits_reads "fraction digit" _ digits rest moved.2 all ends
    simp only [if_true]
    rw [read, spelled, mark]
    simp only [Scanner.moved, List.length_cons, List.length_nil, Except.ok.injEq, Prod.mk.injEq, Scanner.mk.injEq, true_and,
      and_true]
    omega

theorem number_exponent_reads (sc : Scanner) (text rest : Bytes) (found : sc.left = text ++ rest) (exponent : Exponent text)
    (ends : NoDigit rest) (small : rest.head? ≠ some 0x65) (large : rest.head? ≠ some 0x45) :
    Scanner.numberExponent sc = .ok ((), sc.moved (sc.pos + text.length)) := by
  have markSmall : asBytes "e" = [0x65] := rfl
  have markLarge : asBytes "E" = [0x45] := rfl
  have plus : asBytes "+" = [0x2B] := rfl
  have minus : asBytes "-" = [0x2D] := rfl
  rcases exponent with empty | longer
  · rw [empty] at found ⊢
    have absent : ∀ lit ∈ ["e", "E"], ¬asBytes lit <+: sc.left := by
      simp only [List.forall_mem_cons, List.not_mem_nil, false_imp_iff, implies_true, and_true, markSmall, markLarge,
        singleton_prefix, found]
      exact ⟨small, large⟩
    rw [Scanner.numberExponent, scan_bind_run _ _ _ _ _ (take_any_absent _ sc absent)]
    rfl
  · obtain ⟨mark, sign, digits, which, known, all, spelled⟩ := longer
    have marked : Scanner.takeAny ["e", "E"] sc = .ok (true, sc.moved (sc.pos + 1)) := by
      rcases which with same | same
      · have split : sc.left = asBytes "e" ++ (sign ++ digits ++ rest) := by rw [found, spelled, markSmall, same]; rfl
        have taken := take_any_reads ["e", "E"] "e" sc _ List.mem_cons_self rfl (by
          simp only [List.forall_mem_cons, List.not_mem_nil, false_imp_iff, implies_true, and_true, true_and, markLarge,
            singleton_prefix, split, markSmall]
          intro other
          cases other) split
        rw [taken, markSmall]
        rfl
      · have split : sc.left = asBytes "E" ++ (sign ++ digits ++ rest) := by rw [found, spelled, markLarge, same]; rfl
        have taken := take_any_reads ["e", "E"] "E" sc _ (List.mem_cons_of_mem _ List.mem_cons_self) rfl (by
          simp only [List.forall_mem_cons, List.not_mem_nil, false_imp_iff, implies_true, and_true, markLarge,
            singleton_prefix, split, markSmall]
          intro other
          cases other) split
        rw [taken, markLarge]
        rfl
    have behind : (sc.moved (sc.pos + 1)).left = sign ++ (digits ++ rest) := by
      have moved := took_moved sc [mark] (sign ++ digits ++ rest) (by rw [found, spelled]; rfl)
      rw [← List.append_assoc]
      exact moved.2
    have signed : ∃ taken, Scanner.takeAny ["+", "-"] (sc.moved (sc.pos + 1)) =
        .ok (taken, (sc.moved (sc.pos + 1)).moved (sc.pos + 1 + sign.length)) := by
      rcases known with same | same | same
      · rw [same] at behind ⊢
        have absent : ∀ lit ∈ ["+", "-"], ¬asBytes lit <+: (sc.moved (sc.pos + 1)).left := by
          have digit : ∀ byte, digits.head? = some byte → isDigit byte = true := fun byte first =>
            all.2 byte (List.mem_of_head? first)
          have head : (digits ++ rest).head? = digits.head? := by
            cases digits with
            | nil => exact absurd rfl all.1
            | cons first others => rfl
          simp only [List.forall_mem_cons, List.not_mem_nil, false_imp_iff, implies_true, and_true, plus, minus,
            singleton_prefix, behind, List.nil_append, head]
          refine ⟨fun first => ?_, fun first => ?_⟩
          · exact absurd (digit _ first) (by decide)
          · exact absurd (digit _ first) (by decide)
        exact ⟨false, take_any_absent _ _ absent⟩
      · rw [same, ← plus] at behind
        have taken := take_any_reads ["+", "-"] "+" _ _ List.mem_cons_self rfl (by
          simp only [List.forall_mem_cons, List.not_mem_nil, false_imp_iff, implies_true, and_true, true_and, plus, minus,
            singleton_prefix, behind]
          intro other
          cases other) behind
        rw [same]
        exact ⟨true, taken⟩
      · rw [same, ← minus] at behind
        have taken := take_any_reads ["+", "-"] "-" _ _ (List.mem_cons_of_mem _ List.mem_cons_self) rfl (by
          simp only [List.forall_mem_cons, List.not_mem_nil, false_imp_iff, implies_true, and_true, plus, minus,
            singleton_prefix, behind]
          intro other
          cases other) behind
        rw [same]
        exact ⟨true, taken⟩
    obtain ⟨taken, signed⟩ := signed
    have last := (took_moved (sc.moved (sc.pos + 1)) sign (digits ++ rest) behind).2
    have read := some_digits_reads "exponent digit" _ digits rest last all ends
    rw [Scanner.numberExponent, scan_bind_run _ _ _ _ _ marked]
    simp only [if_true]
    rw [scan_bind_run _ _ _ _ _ signed, show (sc.moved (sc.pos + 1)).moved (sc.pos + 1 + sign.length) =
      (sc.moved (sc.pos + 1)).moved ((sc.moved (sc.pos + 1)).pos + sign.length) from rfl, read, spelled]
    simp only [Scanner.moved, List.length_cons, List.length_append, Except.ok.injEq, Prod.mk.injEq, Scanner.mk.injEq, true_and,
      and_true]
    omega

theorem number_sign_reads (sc : Scanner) (sign rest : Bytes) (found : sc.left = sign ++ rest) (known : sign = [] ∨ sign = [0x2D])
    (more : rest ≠ []) (digit : rest.head? ≠ some 0x2D) :
    Scanner.numberSign sc = .ok ((), sc.moved (sc.pos + sign.length)) := by
  have minus : asBytes "-" = [0x2D] := rfl
  rcases known with same | same
  · rw [same] at found ⊢
    have absent : ¬asBytes "-" <+: sc.left := by
      rw [minus, singleton_prefix, found]
      exact digit
    rw [Scanner.numberSign, scan_bind_run _ _ _ _ _ (take_lit_absent "-" sc absent), scan_get_run, if_neg (by simp)]
    rfl
  · rw [same, ← minus] at found
    have behind := (took_moved sc _ _ found).2
    have there : ¬(true = true ∧ (sc.moved (sc.pos + (asBytes "-").length)).peek = none) := by
      rw [peek_left, behind, List.head?_eq_none_iff]
      exact fun both => more both.2
    rw [Scanner.numberSign, scan_bind_run _ _ _ _ _ (take_lit_free "-" sc rest rfl found), scan_get_run, if_neg there, same]
    rfl

theorem whole_head (whole : Bytes) (digits : Whole whole) : ∃ first rest, whole = first :: rest ∧ isDigit first = true := by
  rcases digits with zero | longer
  · exact ⟨0x30, [], zero, rfl⟩
  · obtain ⟨first, rest, spelled, digit, _⟩ := longer
    exact ⟨first, rest, spelled, digit⟩

theorem text_from_reads (expected value : String) (sc : Scanner) (rest : Bytes) (found : sc.left = asBytes value ++ rest) :
    Scanner.textFrom sc.pos expected (sc.moved (sc.pos + (asBytes value).length)) =
      .ok (value, sc.moved (sc.pos + (asBytes value).length)) := by
  have took := (took_moved sc (asBytes value) rest found).1
  rw [Scanner.textFrom, scan_get_run, check_ok, read_utf8_ok]
  exact ⟨slice_took _ _ _ took, rfl⟩

theorem exponent_head (exponent rest : Bytes) (power : Exponent exponent) (stops : Stops rest) (byte : UInt8)
    (head : (exponent ++ rest).head? = some byte) : isDigit byte = false ∧ byte ≠ 0x2E := by
  rcases power with empty | longer
  · rw [empty] at head
    exact ⟨(stops byte head).1, (stops byte head).2.1⟩
  · obtain ⟨mark, sign', digits', which, _, _, spelled'⟩ := longer
    rw [spelled'] at head
    have same : mark = byte := Option.some.inj head
    rw [← same]
    rcases which with found | found
    · rw [found]
      decide
    · rw [found]
      decide

theorem fraction_head (fraction exponent rest : Bytes) (part : Fraction fraction) (power : Exponent exponent) (stops : Stops rest) :
    NoDigit (fraction ++ (exponent ++ rest)) := by
  intro byte head
  rcases part with empty | longer
  · rw [empty] at head
    exact (exponent_head exponent rest power stops byte head).1
  · obtain ⟨digits', _, spelled'⟩ := longer
    rw [spelled'] at head
    have same : 0x2E = byte := Option.some.inj head
    rw [← same]
    rfl

theorem json_number_reads (value : String) (sc : Scanner) (rest : Bytes) (found : sc.left = asBytes value ++ rest)
    (numeral : Numeral (asBytes value)) (stops : Stops rest) :
    Scanner.jsonNumber sc = .ok (value, sc.moved (sc.pos + (asBytes value).length)) := by
  obtain ⟨sign, whole, fraction, exponent, known, digits, part, power, spelled⟩ := numeral
  obtain ⟨first, others, start, digit⟩ := whole_head whole digits
  have found1 : sc.left = sign ++ (whole ++ (fraction ++ (exponent ++ rest))) := by
    rw [found, spelled]
    simp only [List.append_assoc]
  have step1 := number_sign_reads sc sign _ found1 known (by rw [start]; simp) (by
    rw [start, List.cons_append, List.head?_cons]
    intro same
    rw [Option.some.inj same] at digit
    cases digit)
  have found2 := (took_moved sc _ _ found1).2
  have exponentHead := exponent_head exponent rest power stops
  have fractionHead := fraction_head fraction exponent rest part power stops
  have step2 := whole_digits_reads "no leading zero in JSON number" "JSON number digit" _ whole _ found2 digits fractionHead
  have found3 := (took_moved _ _ _ found2).2
  have step3 := number_fraction_reads _ fraction _ found3 part (fun byte head => (exponentHead byte head).1) (fun head =>
    (exponentHead _ head).2 rfl)
  have found4 := (took_moved _ _ _ found3).2
  have step4 := number_exponent_reads _ exponent rest found4 power (stops_no_digit rest stops) (fun head => (stops _ head).2.2.1 rfl)
    (fun head => (stops _ head).2.2.2 rfl)
  have size : sc.pos + (asBytes value).length =
      sc.pos + sign.length + whole.length + fraction.length + exponent.length := by
    rw [spelled]
    simp only [List.length_append]
    omega
  have step5 := text_from_reads "ASCII JSON number" value sc rest found
  rw [size] at step5 ⊢
  rw [Scanner.jsonNumber, scan_get_run, scan_bind_run _ _ _ _ _ step1, scan_bind_run _ _ _ _ _ step2,
    scan_bind_run _ _ _ _ _ step3, scan_bind_run _ _ _ _ _ step4]
  exact step5

theorem integer_reads (value : String) (sc : Scanner) (rest : Bytes) (found : sc.left = asBytes value ++ rest)
    (whole : Whole (asBytes value)) (ends : NoDigit rest) :
    Scanner.integer sc = .ok (value, sc.moved (sc.pos + (asBytes value).length)) := by
  rw [Scanner.integer, scan_get_run, scan_bind_run _ _ _ _ _ (whole_digits_reads _ _ sc _ rest found whole ends)]
  exact text_from_reads "ASCII integer" value sc rest found

end Numbers

end Cesr.Codec
