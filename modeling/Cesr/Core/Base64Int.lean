import Cesr.Core.Base64

set_option autoImplicit false

namespace Cesr

open Sextets Base64 Checks

-- A usize has the width of a 64-bit target.
inductive UnsignedInt where
  | u8
  | u16
  | u32
  | u64
  | u128
  | usize
deriving DecidableEq, Repr

namespace UnsignedInt

def bits : UnsignedInt → Nat
  | .u8 => 8
  | .u16 => 16
  | .u32 => 32
  | .u64 => 64
  | .u128 => 128
  | .usize => 64

abbrev Word (ty : UnsignedInt) := BitVec ty.bits

variable {ty : UnsignedInt}

def leadingZeros (word : Word ty) : Nat := word.clz.toNat

-- The checked operations have no result where the value leaves the type.
def fromNat (ty : UnsignedInt) (value : Nat) : Option (Word ty) := if value < 2 ^ ty.bits then some (BitVec.ofNat ty.bits value) else none

def checkedShl (word : Word ty) (places : Nat) : Option (Word ty) := if places < ty.bits then some (word <<< places) else none

def checkedAdd (word other : Word ty) : Option (Word ty) := fromNat ty (word.toNat + other.toNat)

def okOr (result : Option (Word ty)) : Except Base64Error (Word ty) := result.elim (.error .integerOverflow) .ok

-- The value is cast to 64 bits before its digits are counted and written.
def encodeInt (value : Word ty) (minLen : Nat) : Bytes :=
  let val := value.toNat % 2 ^ 64
  let requiredLen := if val = 0 then 1 else Nat.log 64 val + 1
  let finalLength := max requiredLen minLen
  List.replicate (finalLength - requiredLen) (0x41 : UInt8) ++
    (List.range requiredLen).reverse.map fun pos => b64Alphabet.getD ((val >>> (6 * pos)) % 64) 0

def decodeStep (ty : UnsignedInt) (out : Word ty) (byte : UInt8) : Except Base64Error (Word ty) := do
  let b64Val ← b64ByteToIndex byte
  let wideVal ← okOr (fromNat ty b64Val.val)
  rejectIf (leadingZeros out < 6) .integerOverflow
  okOr ((checkedShl out 6).bind fun shifted => checkedAdd shifted wideVal)

def decodeInt (ty : UnsignedInt) (stream : Bytes) : Except Base64Error (Word ty) := stream.foldlM (decodeStep ty) 0

section Words

theorem bits_wide (ty : UnsignedInt) : 8 ≤ ty.bits := by
  cases ty <;> decide

theorem leading_zeros_iff (word : Word ty) : leadingZeros word < 6 ↔ 2 ^ ty.bits ≤ word.toNat * 2 ^ 6 := by
  have wide := bits_wide ty
  have above := BitVec.toNat_lt_two_pow_sub_clz (x := word)
  apply Iff.intro
  · intro few
    have some' : word ≠ BitVec.ofNat ty.bits 0 := by
      intro none
      rw [none, leadingZeros, BitVec.clz_eq_iff_eq_zero.mpr rfl, BitVec.natCast_eq_ofNat, BitVec.toNat_ofNat, Nat.mod_eq_of_lt Nat.lt_two_pow_self] at few
      omega
    have below := BitVec.two_pow_sub_clz_le_toNat_of_ne_zero (by omega) some'
    have room : 2 ^ (ty.bits - 6) ≤ word.toNat := by
      refine le_trans (Nat.pow_le_pow_right (by decide) ?_) below
      rw [leadingZeros] at few
      omega
    calc 2 ^ ty.bits = 2 ^ (ty.bits - 6) * 2 ^ 6 := by rw [← pow_add, Nat.sub_add_cancel (by omega)]
      _ ≤ word.toNat * 2 ^ 6 := Nat.mul_le_mul_right _ room
  · intro full
    by_contra many
    rw [leadingZeros] at many
    have small : word.toNat < 2 ^ (ty.bits - 6) := lt_of_lt_of_le above (Nat.pow_le_pow_right (by decide) (by omega))
    have whole : 2 ^ (ty.bits - 6) * 2 ^ 6 = 2 ^ ty.bits := by rw [← pow_add, Nat.sub_add_cancel (by omega)]
    have less := Nat.mul_lt_mul_of_pos_right small (show 0 < 2 ^ 6 by decide)
    omega

theorem from_nat_some (value : Nat) (word : Word ty) : fromNat ty value = some word ↔ word.toNat = value := by
  rw [fromNat]
  by_cases fits : value < 2 ^ ty.bits
  · rw [if_pos fits, Option.some.injEq]
    apply Iff.intro
    · intro same
      rw [← same, BitVec.toNat_ofNat, Nat.mod_eq_of_lt fits]
    · intro same
      rw [← same, BitVec.ofNat_toNat, BitVec.setWidth_eq]
  · rw [if_neg fits]
    apply Iff.intro
    · intro none
      cases none
    · intro same
      exact absurd (by rw [← same]; exact word.isLt) fits

theorem from_nat_none (value : Nat) : fromNat ty value = none ↔ 2 ^ ty.bits ≤ value := by
  rw [fromNat]
  by_cases fits : value < 2 ^ ty.bits
  · rw [if_pos fits]
    apply Iff.intro
    · intro none
      cases none
    · intro large
      omega
  · rw [if_neg fits]
    apply Iff.intro
    · intro _
      omega
    · intro _
      rfl

end Words

section Decode

theorem decode_step_value (out : Word ty) (byte : UInt8) :
    (decodeStep ty out byte).map BitVec.toNat = decodeIntStep ty.bits out.toNat byte := by
  have wide := bits_wide ty
  rw [decodeStep, decodeIntStep]
  cases b64ByteToIndex byte with
  | error error => rfl
  | ok sextet =>
      have fits : sextet.val < 2 ^ ty.bits := lt_of_lt_of_le sextet.isLt (le_trans (by decide) (Nat.pow_le_pow_right (by decide) wide))
      have lifted : fromNat ty sextet.val = some (BitVec.ofNat ty.bits sextet.val) := if_pos fits
      have value : (BitVec.ofNat ty.bits sextet.val).toNat = sextet.val := (from_nat_some _ _).mp lifted
      rw [ok_bind, ok_bind, lifted, okOr, Option.elim_some, ok_bind]
      by_cases full : 2 ^ ty.bits ≤ out.toNat * 2 ^ 6
      · rw [rejectIf, if_pos ((leading_zeros_iff out).mpr full), rejectIf, if_pos full]
        rfl
      · have room : ¬leadingZeros out < 6 := fun few => full ((leading_zeros_iff out).mp few)
        have shifted : (out <<< 6).toNat = out.toNat * 2 ^ 6 := by
          rw [BitVec.toNat_shiftLeft, Nat.shiftLeft_eq, Nat.mod_eq_of_lt (by omega)]
        have moved : checkedShl out 6 = some (out <<< 6) := if_pos (by omega)
        rw [rejectIf, if_neg room, rejectIf, if_neg full, ok_bind, ok_bind, moved, Option.bind_some, checkedAdd, shifted, value]
        by_cases large : 2 ^ ty.bits ≤ out.toNat * 2 ^ 6 + sextet.val
        · rw [(from_nat_none _).mpr large, rejectIf, if_pos large]
          rfl
        · have sum : fromNat ty (out.toNat * 2 ^ 6 + sextet.val) = some (BitVec.ofNat ty.bits (out.toNat * 2 ^ 6 + sextet.val)) :=
            if_pos (by omega)
          rw [sum, rejectIf, if_neg large]
          exact congrArg Except.ok ((from_nat_some _ _).mp sum)

theorem decode_value (stream : Bytes) : (decodeInt ty stream).map BitVec.toNat = Cesr.decodeInt ty.bits stream := by
  have run : ∀ (out : Word ty), (stream.foldlM (decodeStep ty) out).map BitVec.toNat = stream.foldlM (decodeIntStep ty.bits) out.toNat := by
    induction stream with
    | nil => exact fun _ => rfl
    | cons byte rest ih =>
        intro out
        have step := decode_step_value out byte
        rw [List.foldlM_cons, List.foldlM_cons, ← step]
        cases decodeStep ty out byte with
        | error error => rfl
        | ok next => exact ih next
  exact run 0

def Denotes (stream : Bytes) (value : Nat) : Prop := ∃ sextets, stream = sextets.map urlSafe.char ∧ number sextets = value

theorem denotes_nil (value : Nat) : Denotes [] value ↔ value = 0 := by
  apply Iff.intro
  · intro denotes
    obtain ⟨sextets, empty, same⟩ := denotes
    rw [List.map_eq_nil_iff.mp empty.symm] at same
    exact same.symm
  · intro none
    exact ⟨[], rfl, none.symm⟩

theorem denotes_append (front : Bytes) (last : UInt8) (value : Nat) :
    Denotes (front ++ [last]) value ↔ ∃ before sextet, Denotes front before ∧ b64Reverse last = some sextet ∧ before * 64 + sextet.val = value := by
  apply Iff.intro
  · intro denotes
    obtain ⟨sextets, spelled, same⟩ := denotes
    induction sextets using List.reverseRecOn with
    | nil => simp at spelled
    | append_singleton sextets sextet =>
        rw [List.map_append, List.map_singleton] at spelled
        obtain ⟨left, right⟩ := List.append_inj' spelled rfl
        rw [number_append] at same
        rw [List.singleton_inj.mp right]
        exact ⟨number sextets, sextet, ⟨sextets, left, rfl⟩, urlSafe.value_char sextet, same⟩
  · intro found
    obtain ⟨before, sextet, ⟨sextets, spelled, counted⟩, read, same⟩ := found
    refine ⟨sextets ++ [sextet], ?_, ?_⟩
    · rw [List.map_append, List.map_singleton, ← spelled, urlSafe.char_value last sextet read]
    · rw [number_append, counted, same]

theorem denotes_once (stream : Bytes) (first second : Nat) (left : Denotes stream first) (right : Denotes stream second) : first = second := by
  obtain ⟨sextets, spelled, same⟩ := left
  obtain ⟨sextets', spelled', same'⟩ := right
  rw [← same, ← same', List.map_injective_iff.mpr (char_injective urlSafe) (spelled.symm.trans spelled')]

theorem step_overflow (width out : Nat) (byte : UInt8) :
    decodeIntStep width out byte = .error .integerOverflow ↔ ∃ sextet, b64Reverse byte = some sextet ∧ 2 ^ width ≤ out * 64 + sextet.val := by
  rw [decodeIntStep, b64ByteToIndex]
  cases b64Reverse byte with
  | none =>
      apply Iff.intro
      · intro refused
        cases refused
      · intro found
        obtain ⟨_, none, _⟩ := found
        cases none
  | some sextet =>
      simp only [ok_bind, bind_error, reject_if_error, reject_if_ok, exists_done, pure_error, and_true, and_false, or_false,
        Option.some.injEq, exists_eq_left']
      omega

theorem step_invalid (width out : Nat) (byte char : UInt8) :
    decodeIntStep width out byte = .error (.invalidBase64Char char) ↔ byte = char ∧ b64Reverse byte = none := by
  rw [decodeIntStep, b64ByteToIndex]
  cases b64Reverse byte with
  | none =>
      apply Iff.intro
      · intro refused
        cases refused
        exact ⟨rfl, rfl⟩
      · intro found
        rw [found.1]
        rfl
  | some sextet =>
      simp only [ok_bind, bind_error, reject_if_error, reject_if_ok, exists_done, pure_error, reduceCtorEq, and_false, or_false]

theorem value_ok (width : Nat) (stream : Bytes) (value : Nat) :
    Cesr.decodeInt width stream = .ok value ↔ Denotes stream value ∧ value < 2 ^ width := by
  rw [decode_int_ok]
  apply Iff.intro
  · intro found
    obtain ⟨sextets, spelled, same, fits⟩ := found
    exact ⟨⟨sextets, spelled, same⟩, fits⟩
  · intro found
    obtain ⟨⟨sextets, spelled, same⟩, fits⟩ := found
    exact ⟨sextets, spelled, same, fits⟩

-- Some characters at the front denote a value that the width does not hold.
def Overflows (width : Nat) (stream : Bytes) : Prop :=
  ∃ front rest value, stream = front ++ rest ∧ Denotes front value ∧ 2 ^ width ≤ value

-- The first character that is none stands behind a value that the width holds.
def Strays (width : Nat) (stream : Bytes) (char : UInt8) : Prop :=
  ∃ front rest value, stream = front ++ char :: rest ∧ Denotes front value ∧ value < 2 ^ width ∧ b64Reverse char = none

theorem value_snoc (width : Nat) (front : Bytes) (last : UInt8) :
    Cesr.decodeInt width (front ++ [last]) = Cesr.decodeInt width front >>= fun out => decodeIntStep width out last := by
  rw [Cesr.decodeInt, List.foldlM_append, Cesr.decodeInt]
  congr 1
  funext out
  rw [List.foldlM_cons]
  cases decodeIntStep width out last with
  | error error => rfl
  | ok next => rfl

theorem value_overflow (width : Nat) (stream : Bytes) : Cesr.decodeInt width stream = .error .integerOverflow ↔ Overflows width stream := by
  induction stream using List.reverseRecOn with
  | nil =>
      apply Iff.intro
      · intro refused
        cases refused
      · intro found
        obtain ⟨front, rest, value, split, denotes, large⟩ := found
        rw [(List.append_eq_nil_iff.mp split.symm).1, denotes_nil] at denotes
        rw [denotes] at large
        exact absurd (Nat.two_pow_pos width) (by omega)
  | append_singleton left last ih =>
      rw [value_snoc, bind_error, ih]
      apply Iff.intro
      · intro found
        rcases found with ⟨front, rest, value, split, denotes, large⟩ | ⟨out, read, step⟩
        · exact ⟨front, rest ++ [last], value, by rw [split, List.append_assoc], denotes, large⟩
        · obtain ⟨sextet, known, large⟩ := (step_overflow width out last).mp step
          have before := ((value_ok width left out).mp read).1
          exact ⟨left ++ [last], [], _, (List.append_nil _).symm, (denotes_append left last _).mpr ⟨out, sextet, before, known, rfl⟩, large⟩
      · intro found
        obtain ⟨front, rest, value, split, denotes, large⟩ := found
        induction rest using List.reverseRecOn with
        | nil =>
            -- The whole stream denotes the value; its last digit may be what is too much.
            rw [List.append_nil] at split
            rw [← split, denotes_append] at denotes
            obtain ⟨before, sextet, denotes, known, same⟩ := denotes
            by_cases early : 2 ^ width ≤ before
            · exact .inl ⟨left, [], before, (List.append_nil left).symm, denotes, early⟩
            · refine .inr ⟨before, (value_ok width left before).mpr ⟨denotes, by omega⟩, ?_⟩
              exact (step_overflow width before last).mpr ⟨sextet, known, by omega⟩
        | append_singleton rest final _ =>
            rw [← List.append_assoc] at split
            exact .inl ⟨front, rest, value, (List.append_inj' split rfl).1, denotes, large⟩

theorem value_invalid (width : Nat) (stream : Bytes) (char : UInt8) :
    Cesr.decodeInt width stream = .error (.invalidBase64Char char) ↔ Strays width stream char := by
  induction stream using List.reverseRecOn with
  | nil =>
      apply Iff.intro
      · intro refused
        cases refused
      · intro found
        obtain ⟨front, rest, _, split, _⟩ := found
        cases (List.append_eq_nil_iff.mp split.symm).2
  | append_singleton left last ih =>
      rw [value_snoc, bind_error, ih]
      apply Iff.intro
      · intro found
        rcases found with ⟨front, rest, value, split, strays⟩ | ⟨out, read, step⟩
        · exact ⟨front, rest ++ [last], value, by rw [split, List.append_assoc]; rfl, strays⟩
        · obtain ⟨same, unknown⟩ := (step_invalid width out last char).mp step
          obtain ⟨denotes, fits⟩ := (value_ok width left out).mp read
          exact ⟨left, [], out, by rw [same], denotes, fits, by rw [← same]; exact unknown⟩
      · intro found
        obtain ⟨front, rest, value, split, denotes, fits, unknown⟩ := found
        induction rest using List.reverseRecOn with
        | nil =>
            obtain ⟨same, same'⟩ := List.append_inj' split rfl
            rw [← same] at denotes
            refine .inr ⟨value, (value_ok width left value).mpr ⟨denotes, fits⟩, (step_invalid width value last char).mpr ?_⟩
            rw [List.singleton_inj.mp same']
            exact ⟨rfl, unknown⟩
        | append_singleton rest final _ =>
            rw [← List.cons_append, ← List.append_assoc] at split
            exact .inl ⟨front, rest, value, (List.append_inj' split rfl).1, denotes, fits, unknown⟩

end Decode

section Encode

def digitCount (value : Nat) : Nat := max 1 (Nat.digits 64 value).length

theorem digit_count_log (value : Nat) : digitCount value = if value = 0 then 1 else Nat.log 64 value + 1 := by
  rw [digitCount]
  by_cases none : value = 0
  · rw [if_pos none, none]
    rfl
  · rw [if_neg none, Nat.length_digits 64 value (by decide) none]
    omega

theorem digit_count_fits (value : Nat) : value < 64 ^ digitCount value := by
  rw [digit_count_log]
  by_cases none : value = 0
  · rw [if_pos none, none]
    decide
  · rw [if_neg none]
    exact Nat.lt_pow_succ_log_self (by decide) value

theorem number_zeros (pad : Nat) (sextets : List Sextet) : number (List.replicate pad 0 ++ sextets) = number sextets := by
  induction pad with
  | zero => rfl
  | succ pad ih => exact ih

theorem digits_pad (pad width value : Nat) (fits : value < 64 ^ width) :
    digits (pad + width) value = List.replicate pad 0 ++ digits width value := by
  have same := digits_number (List.replicate pad 0 ++ digits width value)
  rw [number_zeros, number_digits width value fits, List.length_append, List.length_replicate, length_digits] at same
  exact same

theorem encode_digits (value : Word ty) (minLen : Nat) :
    encodeInt value minLen =
      (digits (max (digitCount (value.toNat % 2 ^ 64)) minLen) (value.toNat % 2 ^ 64)).map urlSafe.char := by
  generalize cast : value.toNat % 2 ^ 64 = val
  have counted := digit_count_log val
  have padded : max (digitCount val) minLen - digitCount val + digitCount val = max (digitCount val) minLen := Nat.sub_add_cancel (le_max_left _ _)
  have zero : urlSafe.char 0 = 0x41 := by decide
  rw [← padded, digits_pad _ _ _ (digit_count_fits val), List.map_append, List.map_replicate, zero, encodeInt, cast, ← counted]
  congr 1
  rw [digits, List.map_map]
  apply List.ext_getElem
  · simp
  · intro position left right
    simp only [List.length_map, List.length_reverse, List.length_range] at left
    simp only [List.getElem_map, List.getElem_reverse, List.getElem_range, List.length_range, Function.comp]
    have place : digitCount val - 1 - position = digitCount val - position - 1 := by omega
    have power : 64 ^ (digitCount val - position - 1) = 2 ^ (6 * (digitCount val - position - 1)) := by rw [Nat.pow_mul]
    rw [place, Nat.shiftRight_eq_div_pow, ← power]
    rfl

theorem encode_length (value : Word ty) (minLen : Nat) : (encodeInt value minLen).length = max (digitCount (value.toNat % 2 ^ 64)) minLen := by
  rw [encode_digits, List.length_map, length_digits]

theorem encode_denotes (value : Word ty) (minLen : Nat) : Denotes (encodeInt value minLen) (value.toNat % 2 ^ 64) := by
  refine ⟨_, encode_digits value minLen, number_digits _ _ ?_⟩
  exact lt_of_lt_of_le (digit_count_fits _) (Nat.pow_le_pow_right (by decide) (le_max_left _ _))

end Encode

section Outcomes

theorem decode_ok (stream : Bytes) (value : Word ty) : decodeInt ty stream = .ok value ↔ Denotes stream value.toNat := by
  have same : (decodeInt ty stream).map BitVec.toNat = Cesr.decodeInt ty.bits stream := decode_value stream
  have plain := value_ok ty.bits stream value.toNat
  rw [← same] at plain
  apply Iff.intro
  · intro read
    rw [read] at plain
    exact (plain.mp rfl).1
  · intro denotes
    have mapped := plain.mpr ⟨denotes, value.isLt⟩
    cases read : decodeInt ty stream with
    | error error =>
        rw [read] at mapped
        cases mapped
    | ok found =>
        rw [read] at mapped
        rw [BitVec.eq_of_toNat_eq (Except.ok.inj mapped)]

theorem decode_error (stream : Bytes) (error : Base64Error) :
    decodeInt ty stream = .error error ↔ Cesr.decodeInt ty.bits stream = .error error := by
  rw [← decode_value]
  cases decodeInt ty stream with
  | error given => simp only [Except.map, Except.error.injEq]
  | ok found =>
      apply Iff.intro
      · intro refused
        cases refused
      · intro refused
        cases refused

theorem denotes_front (stream : Bytes) :
    (∃ value, Denotes stream value) ∨
      ∃ front char rest value, stream = front ++ char :: rest ∧ Denotes front value ∧ b64Reverse char = none := by
  induction stream using List.reverseRecOn with
  | nil => exact .inl ⟨0, (denotes_nil 0).mpr rfl⟩
  | append_singleton left last ih =>
      rcases ih with ⟨value, denotes⟩ | ⟨front, char, rest, value, split, found⟩
      · cases known : b64Reverse last with
        | none => exact .inr ⟨left, last, [], value, rfl, denotes, known⟩
        | some sextet => exact .inl ⟨_, (denotes_append left last _).mpr ⟨value, sextet, denotes, known, rfl⟩⟩
      · exact .inr ⟨front, char, rest ++ [last], value, by rw [split, List.append_assoc]; rfl, found⟩

theorem decode_otherwise (stream : Bytes) (fits : ¬Overflows ty.bits stream) (valid : ∀ char, ¬Strays ty.bits stream char) :
    ∃ value : Word ty, decodeInt ty stream = .ok value ∧ Denotes stream value.toNat := by
  rcases denotes_front stream with ⟨value, denotes⟩ | ⟨front, char, rest, value, split, denotes, unknown⟩
  · have small : value < 2 ^ ty.bits := by
      by_contra large
      exact fits ⟨stream, [], value, (List.append_nil stream).symm, denotes, Nat.le_of_not_lt large⟩
    have same : (BitVec.ofNat ty.bits value).toNat = value := by rw [BitVec.toNat_ofNat, Nat.mod_eq_of_lt small]
    rw [← same] at denotes
    exact ⟨_, (decode_ok stream _).mpr denotes, denotes⟩
  · by_cases small : value < 2 ^ ty.bits
    · exact absurd ⟨front, rest, value, split, denotes, small, unknown⟩ (valid char)
    · exact absurd ⟨front, char :: rest, value, split, denotes, Nat.le_of_not_lt small⟩ fits

-- The cast is the only step on the way there and back that loses anything.
def RoundTrips (value : Word ty) (minLen : Nat) : Prop :=
  decodeInt ty (encodeInt value minLen) = .ok value ∧ (encodeInt value minLen).length = max minLen (digitCount value.toNat)

theorem round_trips_iff (value : Word ty) (minLen : Nat) : RoundTrips value minLen ↔ value.toNat < 2 ^ 64 := by
  have denotes := encode_denotes value minLen
  apply Iff.intro
  · intro trips
    rw [denotes_once _ _ _ ((decode_ok _ value).mp trips.1) denotes]
    exact Nat.mod_lt _ (by decide)
  · intro small
    have kept : value.toNat % 2 ^ 64 = value.toNat := Nat.mod_eq_of_lt small
    refine ⟨(decode_ok _ value).mpr (by rw [← kept]; exact denotes), ?_⟩
    rw [encode_length, kept, max_comm]

end Outcomes

end UnsignedInt

end Cesr
