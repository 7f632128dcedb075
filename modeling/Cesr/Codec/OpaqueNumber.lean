import Cesr.Codec.OpaqueString

set_option autoImplicit false

namespace Cesr.Codec.OpaqueScan

open Checks WriterJson

theorem head_cons (c : Cursor) (byte : UInt8) (head : c.left.head? = some byte) : ∃ rest, c.left = byte :: rest := by
  cases left : c.left with
  | nil =>
      rw [left] at head
      cases head
  | cons first rest =>
      rw [left] at head
      exact ⟨rest, by rw [Option.some.inj head]⟩

theorem bump_head (c : Cursor) (byte : UInt8) (head : c.left.head? = some byte) : Passes c [byte] c.bump := by
  obtain ⟨rest, found⟩ := head_cons c byte head
  exact bump_passes c byte rest found

theorem some_digits_sound (c c' : Cursor) (read : someDigits c = .ok c') : ∃ text, Digits text ∧ Passes c text c' := by
  rw [someDigits] at read
  by_cases digit : atDigit c = true
  · rw [if_pos digit] at read
    cases read
    refine ⟨c.left.takeWhile isDigit, ⟨?_, fun byte inside => List.mem_takeWhile_imp inside⟩, ?_⟩
    · rw [atDigit] at digit
      intro empty
      cases found : c.left with
      | nil => simp [found] at digit
      | cons byte rest =>
          rw [found] at digit empty
          rw [List.takeWhile_cons_of_pos (by simpa using digit)] at empty
          cases empty
    · exact skip_passes c _ _ (List.takeWhile_append_dropWhile (p := isDigit) (l := c.left)).symm
  · rw [if_neg digit] at read
    cases read

theorem some_digits_reads (pos : Nat) (text rest : Bytes) (all : Digits text) (ends : NoDigit rest) :
    someDigits ⟨pos, text ++ rest⟩ = .ok ⟨pos + text.length, rest⟩ := by
  have digit : atDigit ⟨pos, text ++ rest⟩ = true := by
    cases text with
    | nil => exact absurd rfl all.1
    | cons byte text => simpa [atDigit] using all.2 byte List.mem_cons_self
  rw [someDigits, if_pos digit, digits, take_while_digits text rest all.2 ends, skip_over _ text rest rfl]

theorem number_sign_passes (c : Cursor) : ∃ sign, (sign = [] ∨ sign = [0x2D]) ∧ Passes c sign (numberSign c) := by
  rw [numberSign]
  by_cases minus : c.left.head? = some 0x2D
  · rw [if_pos minus]
    exact ⟨[0x2D], .inr rfl, bump_head c 0x2D minus⟩
  · rw [if_neg minus]
    exact ⟨[], .inl rfl, passes_nil c⟩

theorem number_whole_sound (c c' : Cursor) (read : numberWhole c = .ok c') : ∃ text, Whole text ∧ Passes c text c' := by
  rw [numberWhole] at read
  by_cases zero : c.left.head? = some 0x30
  · rw [if_pos zero] at read
    cases read
    exact ⟨[0x30], .inl rfl, bump_head c 0x30 zero⟩
  · rw [if_neg zero] at read
    obtain ⟨text, all, passes⟩ := some_digits_sound c c' read
    cases text with
    | nil => exact absurd rfl all.1
    | cons first rest =>
        obtain ⟨digit, others⟩ := List.forall_mem_cons.mp all.2
        refine ⟨first :: rest, .inr ⟨first, rest, rfl, digit, ?_, others⟩, passes⟩
        intro same
        rw [passes.1, same] at zero
        exact zero rfl

theorem number_whole_reads (pos : Nat) (text rest : Bytes) (whole : Whole text) (ends : NoDigit rest) :
    numberWhole ⟨pos, text ++ rest⟩ = .ok ⟨pos + text.length, rest⟩ := by
  rcases whole with zero | ⟨first, others, spelled, digit, other, all⟩
  · rw [zero, numberWhole, if_pos (by rfl), bump_over _ 0x30 rest rfl]
    rfl
  · have some' : Digits text := by
      rw [spelled]
      exact ⟨List.cons_ne_nil first others, List.forall_mem_cons.mpr ⟨digit, all⟩⟩
    have head : ¬(text ++ rest).head? = some 0x30 := by
      rw [spelled]
      exact fun same => other (Option.some.inj same)
    rw [numberWhole, if_neg head, some_digits_reads pos text rest some' ends]

theorem number_fraction_sound (c c' : Cursor) (read : numberFraction c = .ok c') : ∃ text, Fraction text ∧ Passes c text c' := by
  rw [numberFraction] at read
  by_cases point : c.left.head? = some 0x2E
  · rw [if_pos point] at read
    obtain ⟨text, all, passes⟩ := some_digits_sound _ _ read
    exact ⟨0x2E :: text, .inr ⟨text, all, rfl⟩, passes_append _ _ _ _ _ (bump_head c 0x2E point) passes⟩
  · rw [if_neg point] at read
    cases read
    exact ⟨[], .inl rfl, passes_nil _⟩

theorem number_fraction_reads (pos : Nat) (text rest : Bytes) (fraction : Fraction text) (ends : NoDigit rest)
    (point : rest.head? ≠ some 0x2E) : numberFraction ⟨pos, text ++ rest⟩ = .ok ⟨pos + text.length, rest⟩ := by
  rcases fraction with empty | ⟨digits, all, spelled⟩
  · rw [empty, numberFraction, if_neg (by exact point)]
    rfl
  · rw [spelled, List.cons_append, numberFraction, if_pos (by rfl), bump_over _ 0x2E _ rfl, some_digits_reads _ digits rest all ends,
      List.length_cons, Nat.add_right_comm]
    rfl

theorem number_exponent_sound (c c' : Cursor) (read : numberExponent c = .ok c') : ∃ text, Exponent text ∧ Passes c text c' := by
  have signed : ∀ sign, c.bump.left.head? = some sign → sign = 0x2B ∨ sign = 0x2D → someDigits c.bump.bump = .ok c' →
      ∃ digits, Digits digits ∧ Passes c.bump (sign :: digits) c' := by
    intro sign head which read
    obtain ⟨digits, all, passes⟩ := some_digits_sound _ _ read
    exact ⟨digits, all, passes_append _ _ _ _ _ (bump_head c.bump sign head) passes⟩
  rw [numberExponent] at read
  by_cases mark : c.left.head? = some 0x65 ∨ c.left.head? = some 0x45
  · obtain ⟨byte, which, head⟩ : ∃ byte, (byte = 0x65 ∨ byte = 0x45) ∧ c.left.head? = some byte := by
      rcases mark with small | large
      · exact ⟨0x65, .inl rfl, small⟩
      · exact ⟨0x45, .inr rfl, large⟩
    have first := bump_head c byte head
    rw [if_pos mark] at read
    by_cases sign : c.bump.left.head? = some 0x2B ∨ c.bump.left.head? = some 0x2D
    · rw [if_pos sign] at read
      rcases sign with plus | minus
      · obtain ⟨digits, all, passes⟩ := signed 0x2B plus (.inl rfl) read
        exact ⟨_, .inr ⟨byte, [0x2B], digits, which, .inr (.inl rfl), all, rfl⟩, passes_append _ _ _ _ _ first passes⟩
      · obtain ⟨digits, all, passes⟩ := signed 0x2D minus (.inr rfl) read
        exact ⟨_, .inr ⟨byte, [0x2D], digits, which, .inr (.inr rfl), all, rfl⟩, passes_append _ _ _ _ _ first passes⟩
    · rw [if_neg sign] at read
      obtain ⟨digits, all, passes⟩ := some_digits_sound _ _ read
      exact ⟨_, .inr ⟨byte, [], digits, which, .inl rfl, all, rfl⟩, passes_append _ _ _ _ _ first passes⟩
  · rw [if_neg mark] at read
    cases read
    exact ⟨[], .inl rfl, passes_nil _⟩

theorem number_exponent_reads (pos : Nat) (text rest : Bytes) (exponent : Exponent text) (stops : Stops rest) :
    numberExponent ⟨pos, text ++ rest⟩ = .ok ⟨pos + text.length, rest⟩ := by
  have ends := stops_no_digit rest stops
  rcases exponent with empty | ⟨mark, sign, digits, which, known, all, spelled⟩
  · have other : ¬(rest.head? = some 0x65 ∨ rest.head? = some 0x45) := by
      intro which
      rcases which with small | large
      · exact (stops _ small).2.2.1 rfl
      · exact (stops _ large).2.2.2 rfl
    rw [empty, numberExponent, if_neg (by exact other)]
    rfl
  · have marked : (mark :: (sign ++ digits ++ rest)).head? = some 0x65 ∨ (mark :: (sign ++ digits ++ rest)).head? = some 0x45 := by
      rcases which with same | same
      · exact .inl (by rw [same]; rfl)
      · exact .inr (by rw [same]; rfl)
    have next : Cursor.bump ⟨pos, mark :: (sign ++ digits ++ rest)⟩ = ⟨pos + 1, sign ++ digits ++ rest⟩ := bump_over _ mark _ rfl
    rw [spelled, List.cons_append, numberExponent, if_pos (by exact marked), next, List.length_cons, List.length_append]
    rcases known with same | same | same
    · have other : ¬((digits ++ rest).head? = some 0x2B ∨ (digits ++ rest).head? = some 0x2D) := by
        cases digits with
        | nil => exact absurd rfl all.1
        | cons first others =>
            have digit := all.2 first List.mem_cons_self
            intro which
            rcases which with found | found
            · rw [Option.some.inj found] at digit
              cases digit
            · rw [Option.some.inj found] at digit
              cases digit
      rw [same, List.nil_append, if_neg (by exact other), some_digits_reads _ digits rest all ends, Except.ok.injEq, Cursor.mk.injEq]
      exact ⟨by simp only [List.length_nil]; omega, rfl⟩
    · rw [same, if_pos (.inl rfl), List.append_assoc, List.singleton_append, bump_over _ 0x2B _ rfl,
        some_digits_reads _ digits rest all ends, Except.ok.injEq, Cursor.mk.injEq]
      exact ⟨by simp only [List.length_singleton]; omega, rfl⟩
    · rw [same, if_pos (.inr rfl), List.append_assoc, List.singleton_append, bump_over _ 0x2D _ rfl,
        some_digits_reads _ digits rest all ends, Except.ok.injEq, Cursor.mk.injEq]
      exact ⟨by simp only [List.length_singleton]; omega, rfl⟩

theorem scan_number_sound (c c' : Cursor) (read : scanNumber c = .ok c') : ∃ text, Numeral text ∧ Passes c text c' := by
  rw [scanNumber, bind_ok] at read
  obtain ⟨c1, first, read⟩ := read
  rw [bind_ok] at read
  obtain ⟨c2, second, third⟩ := read
  obtain ⟨sign, known, passes⟩ := number_sign_passes c
  obtain ⟨whole, digits, passes1⟩ := number_whole_sound _ _ first
  obtain ⟨fraction, part, passes2⟩ := number_fraction_sound _ _ second
  obtain ⟨exponent, power, passes3⟩ := number_exponent_sound _ _ third
  exact ⟨_, ⟨sign, whole, fraction, exponent, known, digits, part, power, rfl⟩, passes_append _ _ _ _ _ (passes_append _ _ _ _ _
    (passes_append _ _ _ _ _ passes passes1) passes2) passes3⟩

theorem scan_number_reads (pos : Nat) (text rest : Bytes) (numeral : Numeral text) (stops : Stops rest) :
    scanNumber ⟨pos, text ++ rest⟩ = .ok ⟨pos + text.length, rest⟩ := by
  obtain ⟨sign, whole, fraction, exponent, known, digits, part, power, spelled⟩ := numeral
  obtain ⟨first, others, start, digit⟩ := whole_head whole digits
  have shape : text ++ rest = sign ++ (whole ++ (fraction ++ (exponent ++ rest))) := by
    rw [spelled]
    simp only [List.append_assoc]
  have signed : numberSign ⟨pos, sign ++ (whole ++ (fraction ++ (exponent ++ rest)))⟩ =
      ⟨pos + sign.length, whole ++ (fraction ++ (exponent ++ rest))⟩ := by
    rcases known with same | same
    · have other : ¬(whole ++ (fraction ++ (exponent ++ rest))).head? = some 0x2D := by
        rw [start]
        intro found
        rw [Option.some.inj found] at digit
        cases digit
      rw [same, List.nil_append, numberSign, if_neg (by exact other)]
      rfl
    · rw [same, numberSign, if_pos (by rfl)]
      exact bump_over _ 0x2D _ rfl
  rw [scanNumber, shape, signed,
    number_whole_reads _ whole _ digits (fraction_head fraction exponent rest part power stops), ok_bind,
    number_fraction_reads _ fraction _ part (fun byte head => (exponent_head exponent rest power stops byte head).1)
      (fun head => (exponent_head exponent rest power stops _ head).2 rfl), ok_bind,
    number_exponent_reads _ exponent rest power stops, Except.ok.injEq, Cursor.mk.injEq]
  refine ⟨?_, rfl⟩
  rw [spelled]
  simp only [List.length_append, Nat.add_assoc]

theorem scan_lit_ok (c c' : Cursor) (lit : String) : scanLit c lit = .ok c' ↔ Passes c (asBytes lit) c' := by
  rw [scanLit]
  apply Iff.intro
  · intro read
    by_cases short : c.left.length < (asBytes lit).length
    · rw [if_pos short] at read
      cases read
    · rw [if_neg short] at read
      by_cases there : asBytes lit <+: c.left
      · rw [if_pos there] at read
        cases read
        obtain ⟨rest, split⟩ := there
        exact skip_passes c _ rest split.symm
      · rw [if_neg there] at read
        cases read
  · intro passes
    have size := congrArg List.length passes.1
    rw [List.length_append] at size
    rw [if_neg (by omega), if_pos ⟨c'.left, passes.1.symm⟩, skip_over c _ _ passes.1, ← passes.2]

end Cesr.Codec.OpaqueScan
