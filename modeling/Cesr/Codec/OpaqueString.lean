import Cesr.Codec.JsonText
import Cesr.Codec.OpaqueScan

set_option autoImplicit false

namespace Cesr.Codec

open Checks WriterJson JsonString

def Passes (c : Cursor) (text : Bytes) (c' : Cursor) : Prop := c.left = text ++ c'.left ∧ c'.pos = c.pos + text.length

theorem passes_nil (c : Cursor) : Passes c [] c := ⟨rfl, rfl⟩

theorem passes_append (c c' c'' : Cursor) (text more : Bytes) (first : Passes c text c') (second : Passes c' more c'') :
    Passes c (text ++ more) c'' := by
  refine ⟨?_, ?_⟩
  · rw [first.1, second.1, List.append_assoc]
  · rw [second.2, first.2, List.length_append, Nat.add_assoc]

theorem skip_over (c : Cursor) (text rest : Bytes) (found : c.left = text ++ rest) :
    c.skip text.length = ⟨c.pos + text.length, rest⟩ := by
  rw [Cursor.skip, found, List.drop_left]

theorem skip_passes (c : Cursor) (text rest : Bytes) (found : c.left = text ++ rest) : Passes c text (c.skip text.length) := by
  rw [skip_over c text rest found]
  exact ⟨found, rfl⟩

theorem bump_over (c : Cursor) (byte : UInt8) (rest : Bytes) (found : c.left = byte :: rest) : c.bump = ⟨c.pos + 1, rest⟩ :=
  skip_over c [byte] rest found

theorem bump_passes (c : Cursor) (byte : UInt8) (rest : Bytes) (found : c.left = byte :: rest) : Passes c [byte] c.bump :=
  skip_passes c [byte] rest found

theorem passes_cursor (c c' : Cursor) (text rest : Bytes) (passes : Passes c text c') (found : c.left = text ++ rest) :
    c' = ⟨c.pos + text.length, rest⟩ := by
  have left : c'.left = rest := List.append_cancel_left (passes.1.symm.trans found)
  rw [← left, ← passes.2]

theorem up_to (c c' : Cursor) (text : Bytes) (passes : Passes c text c') : c.upTo c'.pos = text := by
  rw [Cursor.upTo, passes.2, Nat.add_sub_cancel_left, passes.1, List.take_left]

namespace OpaqueScan

section Units

theorem digit_small (byte : UInt8) (digit : Nat) (found : toDigit byte = some digit) : digit < 16 := by
  have all : ∀ byte : UInt8, (toDigit byte).all (fun digit => decide (digit < 16)) = true := every_byte _ (by decide +kernel)
  have here := all byte
  rw [found] at here
  exact of_decide_eq_true here

theorem scan_hex_ok (count : Nat) (c c' : Cursor) (start unit : Nat) :
    scanHex count c start = .ok (c', unit) ↔
      ∃ digits, Passes c digits c' ∧ digits.length = count ∧ hexFrom start digits = some unit := by
  induction count generalizing c start with
  | zero =>
      rw [scanHex, Except.ok.injEq, Prod.mk.injEq]
      apply Iff.intro
      · intro same
        exact ⟨[], same.1 ▸ passes_nil c, rfl, same.2 ▸ rfl⟩
      · intro found
        obtain ⟨digits, passes, none', spelled⟩ := found
        rw [List.length_eq_zero_iff.mp none'] at passes spelled
        exact ⟨(passes_cursor c c' [] c.left passes rfl).symm, Option.some.inj spelled⟩
  | succ count ih =>
      cases left : c.left with
      | nil =>
          rw [scanHex, left]
          apply Iff.intro
          · intro same
            cases same
          · intro found
            obtain ⟨digits, passes, long, _⟩ := found
            have short := congrArg List.length passes.1
            rw [left, List.length_append, long, List.length_nil] at short
            omega
      | cons byte rest =>
          rw [scanHex, left]
          simp only
          have first := bump_passes c byte rest left
          have shown : toDigit byte = hexValue byte := rfl
          cases digit : toDigit byte with
          | none =>
              apply Iff.intro
              · intro same
                cases same
              · intro found
                obtain ⟨digits, passes, long, spelled⟩ := found
                cases digits with
                | nil => cases long
                | cons other digits =>
                    have same := (List.cons.inj (left.symm.trans passes.1)).1
                    rw [hexFrom, ← same, ← shown, digit] at spelled
                    cases spelled
          | some value =>
              have moved : (start <<< 4) ||| value = start * 16 + value := by
                rw [← Nat.shiftLeft_add_eq_or_of_lt (digit_small byte value digit), Nat.shiftLeft_eq]
              simp only
              rw [ih, moved]
              apply Iff.intro
              · intro found
                obtain ⟨digits, passes, long, spelled⟩ := found
                refine ⟨byte :: digits, passes_append _ _ _ _ _ first passes, by rw [List.length_cons, long], ?_⟩
                rw [hexFrom, ← shown, digit]
                exact spelled
              · intro found
                obtain ⟨digits, passes, long, spelled⟩ := found
                cases digits with
                | nil => cases long
                | cons other digits =>
                    obtain ⟨same, behind⟩ := List.cons.inj (left.symm.trans passes.1)
                    rw [hexFrom, ← same, ← shown, digit] at spelled
                    refine ⟨digits, ⟨?_, ?_⟩, by rw [List.length_cons] at long; omega, spelled⟩
                    · rw [bump_over c byte rest left]
                      exact behind
                    · rw [passes.2, bump_over c byte rest left, List.length_cons]
                      show _ = c.pos + 1 + digits.length
                      omega

theorem scan_hex4_ok (c c' : Cursor) (unit : Nat) :
    scanHex4 c = .ok (c', unit) ↔ ∃ digits, Passes c digits c' ∧ Unit' digits unit := scan_hex_ok 4 c c' 0 unit

theorem scan_hex4_reads (c : Cursor) (digits rest : Bytes) (unit : Nat) (found : c.left = digits ++ rest)
    (spelled : Unit' digits unit) : scanHex4 c = .ok (⟨c.pos + digits.length, rest⟩, unit) := by
  rw [scan_hex4_ok]
  exact ⟨digits, ⟨found, rfl⟩, spelled⟩

theorem high_surrogates (unit : Nat) : highSurrogates unit = true ↔ HighSurrogate unit := decide_eq_true_iff

theorem low_surrogates (unit : Nat) : lowSurrogates unit = true ↔ LowSurrogate unit := decide_eq_true_iff

inductive Long : Bytes → Bytes → Prop
  | unit (digits : Bytes) (unit : Nat) (spelled : Unit' digits unit) (alone : ¬HighSurrogate unit ∧ ¬LowSurrogate unit) :
      Long digits (spelling unit)
  | pair (first second : Bytes) (high low : Nat) (spelled : Unit' first high) (spelled' : Unit' second low)
      (leads : HighSurrogate high) (follows : LowSurrogate low) :
      Long (first ++ backslash :: 0x75 :: second) (spelling (paired high low))

theorem long_denotes (digits text rest more : Bytes) (long : Long digits text) (others : Denotes rest more) :
    Denotes (backslash :: 0x75 :: (digits ++ rest)) (text ++ more) := by
  cases long with
  | unit _ unit spelled alone => exact .unit digits rest more unit spelled alone others
  | pair first second high low spelled spelled' leads follows =>
      have whole := Denotes.pair first second rest more high low spelled spelled' leads follows others
      rw [List.append_assoc]
      exact whole

theorem unicode_escape_ok (uAt c' : Cursor) (rest : Bytes) (found : uAt.left = 0x75 :: rest) :
    scanUnicodeEscape uAt = .ok c' ↔ ∃ digits text, Long digits text ∧ Passes uAt (0x75 :: digits) c' := by
  have first := bump_passes uAt 0x75 rest found
  have apart : ∀ unit, HighSurrogate unit → ¬LowSurrogate unit := by
    intro unit high low
    have upper := high.2
    have lower := low.1
    omega
  unfold scanUnicodeEscape
  apply Iff.intro
  · intro read
    rw [bind_ok] at read
    obtain ⟨both, hex, read⟩ := read
    obtain ⟨digits, passes, spelled⟩ := (scan_hex4_ok _ _ _).mp hex
    by_cases low : lowSurrogates both.2 = true
    · rw [if_pos low] at read
      cases read
    · rw [if_neg low] at read
      by_cases high : highSurrogates both.2 = true
      · rw [if_neg (by simp [high])] at read
        by_cases slash : both.1.left.head? = some backslash
        · rw [if_neg (fun other => other slash)] at read
          simp only at read
          obtain ⟨behind, split⟩ : ∃ behind, both.1.left = backslash :: behind := by
            cases left : both.1.left with
            | nil =>
                rw [left] at slash
                cases slash
            | cons byte behind =>
                rw [left] at slash
                exact ⟨behind, by rw [Option.some.inj slash]⟩
          by_cases mark : both.1.bump.left.head? = some 0x75
          · rw [if_neg (fun other => other mark), bind_ok] at read
            obtain ⟨behind', split'⟩ : ∃ behind', both.1.bump.left = 0x75 :: behind' := by
              cases left : both.1.bump.left with
              | nil =>
                  rw [left] at mark
                  cases mark
              | cons byte behind =>
                  rw [left] at mark
                  exact ⟨behind, by rw [Option.some.inj mark]⟩
            obtain ⟨other, hex', read⟩ := read
            obtain ⟨digits', passes', spelled'⟩ := (scan_hex4_ok _ _ _).mp hex'
            by_cases low' : lowSurrogates other.2 = true
            · rw [if_pos low'] at read
              cases read
              refine ⟨digits ++ backslash :: 0x75 :: digits', _, .pair digits digits' both.2 other.2 spelled spelled'
                ((high_surrogates _).mp high) ((low_surrogates _).mp low'), ?_⟩
              have second := bump_passes both.1 backslash behind split
              have third := bump_passes both.1.bump 0x75 behind' split'
              have whole := passes_append _ _ _ _ _ first (passes_append _ _ _ _ _ passes (passes_append _ _ _ _ _ second
                (passes_append _ _ _ _ _ third passes')))
              exact whole
            · rw [if_neg low'] at read
              cases read
          · rw [if_pos mark] at read
            cases read
        · rw [if_pos slash] at read
          cases read
      · rw [if_pos high] at read
        cases read
        refine ⟨digits, _, .unit digits both.2 spelled ⟨?_, ?_⟩, passes_append _ _ _ _ _ first passes⟩
        · exact fun found => high ((high_surrogates _).mpr found)
        · exact fun found => low ((low_surrogates _).mpr found)
  · intro known
    obtain ⟨digits, text, long, passes⟩ := known
    have behind : rest = digits ++ c'.left := (List.cons.inj (found.symm.trans passes.1)).2
    have here : uAt.bump.left = digits ++ c'.left := by
      rw [bump_over uAt 0x75 rest found]
      exact behind
    have at' : uAt.bump.pos = uAt.pos + 1 := by rw [bump_over uAt 0x75 rest found]
    cases long with
    | unit _ unit spelled alone =>
        have hex := scan_hex4_reads _ digits c'.left unit here spelled
        rw [hex, ok_bind, if_neg (fun low => alone.2 ((low_surrogates _).mp low)),
          if_pos (fun high => alone.1 ((high_surrogates _).mp high)), Except.ok.injEq]
        have final := passes.2
        rw [List.length_cons] at final
        rw [at', ← show c'.pos = uAt.pos + 1 + digits.length by omega]
    | pair first' second high low spelled spelled' leads follows =>
        rw [List.append_assoc] at here
        have hex := scan_hex4_reads _ first' _ high here spelled
        rw [hex, ok_bind, if_neg (fun low => apart high leads ((low_surrogates _).mp low)),
          if_neg (fun other => other ((high_surrogates _).mpr leads)), if_neg (fun other => other rfl)]
        simp only
        have next : (Cursor.bump ⟨uAt.bump.pos + first'.length, (backslash :: 0x75 :: second) ++ c'.left⟩).left =
            0x75 :: (second ++ c'.left) := rfl
        rw [if_neg (fun other => other (by rw [next]; rfl))]
        have hex' := scan_hex4_reads (Cursor.bump (Cursor.bump ⟨uAt.bump.pos + first'.length, (backslash :: 0x75 :: second) ++ c'.left⟩))
          second c'.left low rfl spelled'
        rw [hex', ok_bind, if_pos ((low_surrogates _).mpr follows), Except.ok.injEq]
        have final := passes.2
        rw [List.length_cons, List.length_append, List.length_cons, List.length_cons] at final
        show Cursor.mk (uAt.bump.pos + first'.length + 1 + 1 + second.length) c'.left = c'
        rw [at', ← show c'.pos = uAt.pos + 1 + first'.length + 1 + 1 + second.length by omega]

end Units

section Strings

theorem marks_shorts (mark : UInt8) : mark ∈ marks ↔ ∃ byte, (mark, byte) ∈ shorts := by
  have same : marks = shorts.map Prod.fst := rfl
  rw [same, List.mem_map]
  apply Iff.intro
  · intro found
    obtain ⟨both, known, first⟩ := found
    exact ⟨both.2, first ▸ known⟩
  · intro found
    obtain ⟨byte, known⟩ := found
    exact ⟨_, known, rfl⟩

section Read

variable (fuel : Nat) (c : Cursor) (rest : Bytes)

theorem string_end_plain (byte : UInt8) (raw : Plain byte) (found : c.left = byte :: rest) :
    stringEnd (fuel + 1) c = stringEnd fuel c.bump := by
  rw [stringEnd, found]
  simp only
  rw [if_neg raw.2.1, if_neg raw.2.2, if_neg (by exact UInt8.not_lt.mpr raw.1)]

theorem string_end_short (mark byte : UInt8) (known : (mark, byte) ∈ shorts) (found : c.left = backslash :: mark :: rest) :
    stringEnd (fuel + 1) c = stringEnd fuel (c.skip 2) := by
  rw [stringEnd, found]
  simp only
  rw [if_neg (by decide), if_true, if_pos ((marks_shorts mark).mpr ⟨byte, known⟩)]

theorem string_end_long (digits text : Bytes) (long : Long digits text) (found : c.left = backslash :: 0x75 :: (digits ++ rest)) :
    stringEnd (fuel + 1) c = stringEnd fuel ⟨c.pos + 1 + (0x75 :: digits).length, rest⟩ := by
  have behind : c.bump = ⟨c.pos + 1, 0x75 :: (digits ++ rest)⟩ := bump_over c _ _ found
  have escape : scanUnicodeEscape c.bump = .ok ⟨c.pos + 1 + (0x75 :: digits).length, rest⟩ := by
    rw [behind]
    exact (unicode_escape_ok _ _ (digits ++ rest) rfl).mpr ⟨digits, text, long, rfl, rfl⟩
  rw [stringEnd, found]
  simp only
  rw [if_neg (by decide), if_true, if_neg (by decide), if_true, escape, ok_bind]

theorem string_end_quote (found : c.left = quote :: rest) : stringEnd (fuel + 1) c = .ok c := by
  rw [stringEnd, found]
  simp only
  rw [if_true]

end Read

theorem string_end_sound (fuel : Nat) (c c' : Cursor) (read : stringEnd fuel c = .ok c') :
    ∃ content text rest, Denotes content text ∧ Passes c content c' ∧ c'.left = quote :: rest := by
  induction fuel generalizing c with
  | zero =>
      rw [stringEnd] at read
      cases read
  | succ fuel ih =>
      cases left : c.left with
      | nil =>
          rw [stringEnd, left] at read
          cases read
      | cons byte rest =>
          have first := bump_passes c byte rest left
          by_cases closing : byte = quote
          · rw [string_end_quote fuel c rest (by rw [left, closing])] at read
            cases read
            exact ⟨[], [], rest, .nil, passes_nil c', by rw [left, closing]⟩
          · by_cases slash : byte = backslash
            · cases rest with
              | nil =>
                  rw [stringEnd, left] at read
                  simp only at read
                  rw [if_neg closing, if_pos slash] at read
                  cases read
              | cons mark rest =>
                  rw [slash] at left first
                  by_cases known : mark ∈ marks
                  · obtain ⟨short, known⟩ := (marks_shorts mark).mp known
                    rw [string_end_short fuel c rest mark short known left] at read
                    obtain ⟨content, text, rest', denotes, passes, ended⟩ := ih _ read
                    exact ⟨_, _, rest', .short mark short content text known denotes,
                      passes_append _ _ _ _ _ (skip_passes c [backslash, mark] rest left) passes, ended⟩
                  · rw [stringEnd, left] at read
                    simp only at read
                    rw [if_neg (by decide), if_true, if_neg known] at read
                    by_cases long : mark = 0x75
                    · rw [if_pos long, bind_ok] at read
                      obtain ⟨after, escape, read⟩ := read
                      have behind : c.bump.left = 0x75 :: rest := by rw [bump_over c _ _ left, long]
                      obtain ⟨digits, spelled, long, beyond⟩ := (unicode_escape_ok _ _ rest behind).mp escape
                      obtain ⟨content, text, rest', denotes, passes, ended⟩ := ih _ read
                      refine ⟨_, _, rest', long_denotes digits spelled content text long denotes, ?_, ended⟩
                      exact passes_append _ _ _ _ _ first (passes_append _ _ _ _ _ beyond passes)
                    · rw [if_neg long] at read
                      cases read
            · by_cases control : byte < 0x20
              · rw [stringEnd, left] at read
                simp only at read
                rw [if_neg closing, if_neg slash, if_pos control] at read
                cases read
              · have raw : Plain byte := ⟨UInt8.not_lt.mp control, closing, slash⟩
                rw [string_end_plain fuel c rest byte raw left] at read
                obtain ⟨content, text, rest', denotes, passes, ended⟩ := ih _ read
                exact ⟨_, _, rest', .plain byte content text raw denotes, passes_append _ _ _ _ _ first passes, ended⟩

theorem string_end_complete (content text : Bytes) (denotes : Denotes content text) (fuel pos : Nat) (rest : Bytes)
    (enough : content.length < fuel) :
    stringEnd fuel ⟨pos, content ++ quote :: rest⟩ = .ok ⟨pos + content.length, quote :: rest⟩ := by
  have long : ∀ (digits spelled more : Bytes) (fuel pos : Nat), Long digits spelled →
      (backslash :: 0x75 :: (digits ++ more)).length < fuel →
      (∀ fuel pos, more.length < fuel → stringEnd fuel ⟨pos, more ++ quote :: rest⟩ = .ok ⟨pos + more.length, quote :: rest⟩) →
      stringEnd fuel ⟨pos, backslash :: 0x75 :: (digits ++ more) ++ quote :: rest⟩ =
        .ok ⟨pos + (backslash :: 0x75 :: (digits ++ more)).length, quote :: rest⟩ := by
    intro digits spelled more fuel pos long enough later
    cases fuel with
    | zero => cases enough
    | succ fuel =>
        have found : (Cursor.mk pos (backslash :: 0x75 :: (digits ++ more) ++ quote :: rest)).left =
            backslash :: 0x75 :: (digits ++ (more ++ quote :: rest)) := by
          rw [List.cons_append, List.cons_append, List.append_assoc]
        simp only [List.length_cons, List.length_append] at enough
        rw [string_end_long fuel _ _ digits spelled long found, later _ _ (by omega), Except.ok.injEq, Cursor.mk.injEq]
        refine ⟨?_, rfl⟩
        simp only [List.length_cons, List.length_append]
        omega
  induction denotes generalizing fuel pos with
  | nil =>
      cases fuel with
      | zero => cases enough
      | succ fuel => exact string_end_quote fuel _ rest rfl
  | plain byte more text raw others ih =>
      cases fuel with
      | zero => cases enough
      | succ fuel =>
          rw [List.length_cons] at enough
          have next := bump_over (Cursor.mk pos (byte :: (more ++ quote :: rest))) byte _ rfl
          rw [List.cons_append, string_end_plain fuel _ _ byte raw rfl, next, ih _ _ (by omega), Except.ok.injEq, Cursor.mk.injEq]
          refine ⟨?_, rfl⟩
          show pos + 1 + more.length = pos + (more.length + 1)
          omega
  | short mark byte more text known others ih =>
      cases fuel with
      | zero => cases enough
      | succ fuel =>
          rw [List.length_cons, List.length_cons] at enough
          have next := skip_over (Cursor.mk pos (backslash :: mark :: (more ++ quote :: rest))) [backslash, mark] _ rfl
          rw [List.cons_append, List.cons_append, string_end_short fuel _ _ mark byte known rfl]
          refine (congrArg (stringEnd fuel) next).trans ((ih _ _ (by omega)).trans ?_)
          rw [Except.ok.injEq, Cursor.mk.injEq]
          refine ⟨?_, rfl⟩
          simp only [List.length_cons, List.length_nil]
          omega
  | unit digits more text unit spelled alone others ih =>
      exact long digits _ more fuel pos (.unit digits unit spelled alone) enough ih
  | pair first second more text high low spelled spelled' leads follows others ih =>
      have whole := long _ _ more fuel pos (.pair first second high low spelled spelled' leads follows)
      simp only [List.append_assoc, List.cons_append] at whole enough ⊢
      exact whole enough ih

theorem scan_string_ok (start c' : Cursor) (behind : Bytes) (found : start.left = quote :: behind) :
    scanString start = .ok c' ↔ ∃ content text, Denotes content text ∧ Utf8 content ∧ Passes start (quoted content) c' := by
  have first := bump_passes start quote behind found
  rw [scanString, bind_ok]
  apply Iff.intro
  · intro read
    obtain ⟨stop, ended, read⟩ := read
    obtain ⟨content, text, rest, denotes, passes, closing⟩ := string_end_sound _ _ _ ended
    rw [up_to _ _ _ passes] at read
    simp only at read
    cases utf8 : fromUtf8 content with
    | none =>
        rw [utf8] at read
        cases read
    | some value =>
        rw [utf8] at read
        cases read
        exact ⟨content, text, denotes, ⟨value, (from_utf8_some _ _).mp utf8⟩,
          passes_append _ _ _ _ _ first (passes_append _ _ _ _ _ passes (bump_passes stop quote rest closing))⟩
  · intro known
    obtain ⟨content, text, denotes, ⟨value, utf8⟩, passes⟩ := known
    have split : behind = content ++ quote :: c'.left := by
      have whole := passes.1
      rw [found, quoted, List.cons_append, List.append_assoc] at whole
      exact (List.cons.inj whole).2
    have next := bump_over start quote behind found
    have ended := string_end_complete content text denotes (start.left.length + 1) (start.pos + 1) c'.left (by
      rw [found, split, List.length_cons, List.length_append]
      omega)
    refine ⟨_, by rw [next, split]; exact ended, ?_⟩
    have taken := up_to start.bump ⟨start.pos + 1 + content.length, quote :: c'.left⟩ content
      ⟨by rw [next, split], by rw [next]⟩
    simp only [taken, (from_utf8_some _ _).mpr utf8, Except.ok.injEq]
    have last := passes.2
    rw [quoted, List.length_cons, List.length_append, List.length_singleton] at last
    show Cursor.mk (start.pos + 1 + content.length + 1) c'.left = c'
    rw [← show c'.pos = start.pos + 1 + content.length + 1 by omega]

end Strings

section Keys

theorem unit_ascii (digits : Bytes) (unit : Nat) (spelled : Unit' digits unit) : ∀ byte ∈ digits, byte.toNat < 128 := by
  have small : ∀ byte : UInt8, hexValue byte ≠ none → byte.toNat < 128 := every_byte _ (by decide +kernel)
  have all : ∀ (digits : Bytes) (start : Nat), hexFrom start digits ≠ none → ∀ byte ∈ digits, byte.toNat < 128 := by
    intro digits
    induction digits with
    | nil => exact fun _ _ byte inside => absurd inside List.not_mem_nil
    | cons first rest ih =>
        intro start found
        rw [hexFrom] at found
        cases digit : hexValue first with
        | none =>
            rw [digit] at found
            exact absurd rfl found
        | some value =>
            rw [digit] at found
            exact List.forall_mem_cons.mpr ⟨small first (by rw [digit]; simp), ih _ found⟩
  exact all digits 0 (by rw [spelled.2]; simp)

theorem long_ascii (digits text : Bytes) (long : Long digits text) : ∀ byte ∈ digits, byte.toNat < 128 := by
  cases long with
  | unit _ unit spelled alone => exact unit_ascii digits unit spelled
  | pair first second high low spelled spelled' leads follows =>
      intro byte inside
      rcases List.mem_append.mp inside with early | late
      · exact unit_ascii first high spelled byte early
      · simp only [List.mem_cons] at late
        rcases late with slash | mark | late
        · rw [slash]
          decide
        · rw [mark]
          decide
        · exact unit_ascii second low spelled' byte late

theorem as_bytes_char (char : Char) : asBytes (String.singleton char) = String.utf8EncodeChar char := by
  rw [as_bytes_chars, String.toList_singleton, List.flatMap_singleton]

theorem char_from_valid (point : Nat) (valid : Nat.isValidChar point) : charFromU32 point = some (Char.ofNat point) := if_pos valid

theorem decode_unit_long (escAt : Cursor) (digits text rest : Bytes) (long : Long digits text)
    (found : escAt.left = 0x75 :: (digits ++ rest)) :
    ∃ char, decodeUnit escAt = .ok (char, ⟨escAt.pos + 1 + digits.length, rest⟩) ∧ asBytes (String.singleton char) = text := by
  have next := bump_over escAt _ _ found
  cases long with
  | unit _ unit spelled alone =>
      have small := unit_small digits unit spelled
      have valid : Nat.isValidChar unit := by
        have high := alone.1
        have low := alone.2
        unfold HighSurrogate at high
        unfold LowSurrogate at low
        unfold Nat.isValidChar
        omega
      have hex := scan_hex4_reads ⟨escAt.pos + 1, digits ++ rest⟩ digits rest unit rfl spelled
      refine ⟨Char.ofNat unit, ?_, as_bytes_char _⟩
      rw [decodeUnit, next, hex, ok_bind, if_neg (fun high => alone.1 ((high_surrogates _).mp high)), ok_bind]
      simp only [char_from_valid unit valid]
  | pair first second high low spelled spelled' leads follows =>
      have valid : Nat.isValidChar (paired high low) := by
        have upper := leads.2
        have upper' := follows.2
        unfold paired Nat.isValidChar
        omega
      have hex := scan_hex4_reads ⟨escAt.pos + 1, first ++ backslash :: 0x75 :: second ++ rest⟩ first
        (backslash :: 0x75 :: (second ++ rest)) high (by simp) spelled
      have behind := skip_over ⟨escAt.pos + 1 + first.length, backslash :: 0x75 :: (second ++ rest)⟩ [backslash, 0x75] _ rfl
      have hex' := scan_hex4_reads ⟨escAt.pos + 1 + first.length + 2, second ++ rest⟩ second rest low rfl spelled'
      have point : 0x10000 + ((high - 0xD800) <<< 10) + (low - 0xDC00) = paired high low := by
        rw [Nat.shiftLeft_eq]
        rfl
      refine ⟨Char.ofNat (paired high low), ?_, as_bytes_char _⟩
      rw [decodeUnit, next, hex, ok_bind, if_pos ((high_surrogates _).mpr leads)]
      have second' : scanHex4 (Cursor.skip ⟨escAt.pos + 1 + first.length, backslash :: 0x75 :: (second ++ rest)⟩ 2) =
          .ok (⟨escAt.pos + 1 + first.length + 2 + second.length, rest⟩, low) := (congrArg scanHex4 behind).trans hex'
      simp only
      rw [second', ok_bind, if_neg (fun other => other ((low_surrogates _).mpr follows)), ok_bind]
      simp only [point, char_from_valid _ valid]
      rw [Except.ok.injEq, Prod.mk.injEq, Cursor.mk.injEq]
      refine ⟨rfl, ?_, rfl⟩
      rw [List.length_append, List.length_cons, List.length_cons]
      omega

theorem decode_mark_long (escAt : Cursor) (digits text rest : Bytes) (long : Long digits text)
    (found : escAt.left = 0x75 :: (digits ++ rest)) :
    ∃ char, decodeMark escAt = .ok (char, ⟨escAt.pos + 1 + digits.length, rest⟩) ∧ asBytes (String.singleton char) = text := by
  obtain ⟨char, read, spelled⟩ := decode_unit_long escAt digits text rest long found
  refine ⟨char, ?_, spelled⟩
  rw [decodeMark, found]
  exact read

theorem decode_mark_short (escAt : Cursor) (mark byte : UInt8) (rest : Bytes) (known : (mark, byte) ∈ shorts)
    (found : escAt.left = mark :: rest) :
    ∃ char, decodeMark escAt = .ok (char, ⟨escAt.pos + 1, rest⟩) ∧ asBytes (String.singleton char) = [byte] := by
  rw [decodeMark, found, bump_over escAt mark rest found]
  simp only [shorts, List.mem_cons, Prod.mk.injEq, List.not_mem_nil, or_false] at known
  rcases known with both | both | both | both | both | both | both | both
  all_goals
    rw [both.1, both.2]
    exact ⟨_, rfl, rfl⟩

theorem chunk_text (pos : Nat) (front rest : Bytes) (utf8 : Utf8 front) :
    ∃ chunk, chunkText ⟨pos, front ++ rest⟩ (pos + front.length) = .ok chunk ∧ asBytes chunk = front := by
  obtain ⟨chunk, same⟩ := utf8
  refine ⟨chunk, ?_, same⟩
  rw [chunkText, Cursor.upTo, Nat.add_sub_cancel_left, List.take_left, (from_utf8_some _ _).mpr same]

theorem decode_escape (fuel pos : Nat) (front tail escape more spelled text : Bytes) (mark : UInt8) (result : String)
    (utf8 : Utf8 (front ++ backslash :: (mark :: escape ++ more))) (ascii : ∀ byte ∈ mark :: escape, byte.toNat < 128)
    (mean : ∀ at' : Nat, ∃ char, decodeMark ⟨at', mark :: escape ++ (more ++ tail)⟩ =
      .ok (char, ⟨at' + 1 + escape.length, more ++ tail⟩) ∧ asBytes (String.singleton char) = spelled)
    (later : ∀ (pos : Nat) (result : String), Utf8 more →
      ∃ key, decodeChunks (pos + more.length) fuel ⟨pos, more ++ tail⟩ ⟨pos, more ++ tail⟩ result = .ok key ∧
        asBytes key = asBytes result ++ text) :
    ∃ key, decodeChunks (pos + front.length + (backslash :: (mark :: escape ++ more)).length) (fuel + 1)
      ⟨pos, front ++ backslash :: (mark :: escape ++ more) ++ tail⟩
      ⟨pos + front.length, backslash :: (mark :: escape ++ more) ++ tail⟩ result = .ok key ∧
        asBytes key = asBytes result ++ front ++ (spelled ++ text) := by
  obtain ⟨first, behind⟩ := (utf8_split front _ backslash (by decide)).mp utf8
  obtain ⟨chunk, taken, same⟩ := chunk_text pos front (backslash :: (mark :: escape ++ more) ++ tail) first
  obtain ⟨char, read, same'⟩ := mean (pos + front.length + 1)
  obtain ⟨key, rest, same''⟩ := later (pos + front.length + 1 + 1 + escape.length) (result ++ chunk ++ String.singleton char)
    ((utf8_ascii_front _ more ascii).mp behind)
  refine ⟨key, ?_, ?_⟩
  · rw [decodeChunks, if_pos (by rw [List.length_cons]; exact Nat.lt_add_of_pos_right (Nat.succ_pos _)), if_neg (fun other => other rfl),
      List.append_assoc front, taken, ok_bind]
    have next : Cursor.bump ⟨pos + front.length, backslash :: (mark :: escape ++ more) ++ tail⟩ =
        ⟨pos + front.length + 1, mark :: escape ++ (more ++ tail)⟩ := by
      rw [← List.append_assoc]
      exact bump_over _ backslash _ rfl
    rw [next, read, ok_bind]
    rw [show pos + front.length + (backslash :: (mark :: escape ++ more)).length =
      pos + front.length + 1 + 1 + escape.length + more.length by
        rw [List.length_cons, List.length_append, List.length_cons]
        omega]
    exact rest
  · rw [same'', as_bytes_append, as_bytes_append, same, same']
    simp only [List.append_assoc]

theorem decode_chunks (content text : Bytes) (denotes : Denotes content text) (fuel pos : Nat) (front tail : Bytes) (result : String)
    (utf8 : Utf8 (front ++ content)) (enough : content.length < fuel) :
    ∃ key, decodeChunks (pos + front.length + content.length) fuel ⟨pos, front ++ content ++ tail⟩
      ⟨pos + front.length, content ++ tail⟩ result = .ok key ∧ asBytes key = asBytes result ++ front ++ text := by
  have long : ∀ (digits spelled more text : Bytes) (fuel pos : Nat) (front : Bytes) (result : String), Long digits spelled →
      Utf8 (front ++ backslash :: 0x75 :: (digits ++ more)) → (backslash :: 0x75 :: (digits ++ more)).length < fuel →
      (∀ (fuel pos : Nat) (front : Bytes) (result : String), Utf8 (front ++ more) → more.length < fuel →
        ∃ key, decodeChunks (pos + front.length + more.length) fuel ⟨pos, front ++ more ++ tail⟩ ⟨pos + front.length, more ++ tail⟩
          result = .ok key ∧ asBytes key = asBytes result ++ front ++ text) →
      ∃ key, decodeChunks (pos + front.length + (backslash :: 0x75 :: (digits ++ more)).length) fuel
        ⟨pos, front ++ backslash :: 0x75 :: (digits ++ more) ++ tail⟩
        ⟨pos + front.length, backslash :: 0x75 :: (digits ++ more) ++ tail⟩ result = .ok key ∧
          asBytes key = asBytes result ++ front ++ (spelled ++ text) := by
    intro digits spelled more text fuel pos front result long utf8 enough later
    cases fuel with
    | zero => cases enough
    | succ fuel =>
        simp only [List.length_cons, List.length_append] at enough
        refine decode_escape fuel pos front tail digits more spelled text 0x75 result utf8 ?_ ?_ ?_
        · exact List.forall_mem_cons.mpr ⟨by decide, long_ascii digits spelled long⟩
        · intro at'
          exact decode_mark_long _ digits spelled (more ++ tail) long rfl
        · intro pos result utf8
          obtain ⟨key, read, same⟩ := later fuel pos [] result utf8 (by omega)
          exact ⟨key, read, by rw [same, List.append_nil]⟩
  induction denotes generalizing fuel pos front result with
  | nil =>
      cases fuel with
      | zero => cases enough
      | succ fuel =>
          rw [List.append_nil] at utf8 ⊢
          obtain ⟨chunk, taken, same⟩ := chunk_text pos front tail utf8
          refine ⟨result ++ chunk, ?_, by rw [as_bytes_append, same, List.append_nil]⟩
          rw [decodeChunks, if_neg (by simp)]
          exact congrArg (fun found => found >>= fun chunk => .ok (result ++ chunk)) taken
  | plain byte more text raw others ih =>
      cases fuel with
      | zero => cases enough
      | succ fuel =>
          rw [List.length_cons] at enough
          have next := bump_over ⟨pos + front.length, byte :: more ++ tail⟩ byte _ rfl
          have other : ¬(byte :: more ++ tail).head? = some backslash := fun same => raw.2.2 (Option.some.inj same)
          obtain ⟨key, read, same⟩ := ih fuel pos (front ++ [byte]) result (by rw [List.append_assoc]; exact utf8) (by omega)
          refine ⟨key, ?_, ?_⟩
          · rw [decodeChunks, if_pos (by rw [List.length_cons]; exact Nat.lt_add_of_pos_right (Nat.succ_pos _)), if_pos other, next]
            rw [List.length_append, List.length_singleton, List.append_assoc, List.append_assoc] at read
            rw [← show pos + (front.length + 1) + more.length = pos + front.length + (byte :: more).length by
              rw [List.length_cons]; omega, List.append_assoc]
            exact read
          · rw [same, List.append_assoc, List.append_assoc, List.append_assoc]
            rfl
  | short mark byte more text known others ih =>
      cases fuel with
      | zero => cases enough
      | succ fuel =>
          rw [List.length_cons, List.length_cons] at enough
          refine decode_escape fuel pos front tail [] more [byte] text mark result utf8 ?_ ?_ ?_
          · have ascii : ∀ both ∈ shorts, both.1.toNat < 128 := by simp [shorts, quote, backslash]
            exact List.forall_mem_singleton.mpr (ascii _ known)
          · intro at'
            exact decode_mark_short _ mark byte (more ++ tail) known rfl
          · intro pos result utf8
            obtain ⟨key, read, same⟩ := ih fuel pos [] result utf8 (by omega)
            exact ⟨key, read, by rw [same, List.append_nil]⟩
  | unit digits more text unit spelled alone others ih =>
      exact long digits _ more text fuel pos front result (.unit digits unit spelled alone) utf8 enough ih
  | pair first second more text high low spelled spelled' leads follows others ih =>
      have shape : first ++ backslash :: 0x75 :: (second ++ more) = first ++ backslash :: 0x75 :: second ++ more := by
        rw [List.append_assoc]
        rfl
      rw [shape] at utf8 enough ⊢
      exact long _ _ more text fuel pos front result (.pair first second high low spelled spelled' leads follows) utf8 enough ih

theorem decode_key (start after : Cursor) (content text : Bytes) (denotes : Denotes content text) (utf8 : Utf8 content)
    (passes : Passes start (quoted content) after) : ∃ key, decodeKey start after = .ok key ∧ asBytes key = text := by
  have first : start.left = quote :: (content ++ (quote :: after.left)) := by
    rw [passes.1, quoted, List.cons_append, List.append_assoc]
    rfl
  have stop := passes.2
  rw [quoted, List.length_cons, List.length_append, List.length_singleton] at stop
  obtain ⟨key, read, same⟩ := decode_chunks content text denotes (after.pos - start.pos) (start.pos + 1) [] (quote :: after.left) ""
    utf8 (by omega)
  refine ⟨key, ?_, same⟩
  rw [decodeKey, bump_over start _ _ first, show after.pos - 1 = start.pos + 1 + content.length by omega]
  exact read

end Keys

end OpaqueScan

end Cesr.Codec
