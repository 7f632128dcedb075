import Mathlib

set_option autoImplicit false

namespace Sextets

abbrev Sextet := Fin 64

def sextetOf (value : Nat) : Sextet := Fin.ofNat 64 value

def byteOf (value : Nat) : UInt8 := UInt8.ofNat value

@[simp] theorem sextet_of_val (value : Nat) : (sextetOf value).val = value % 64 := rfl

@[simp] theorem byte_of_to_nat (value : Nat) : (byteOf value).toNat = value % 256 := by
  simp [byteOf]

theorem byte_of_eq (value : Nat) (byte : UInt8) (same : value % 256 = byte.toNat) : byteOf value = byte := by
  apply UInt8.toNat_inj.mp
  rw [byte_of_to_nat, same]

theorem sextet_of_eq (value : Nat) (sextet : Sextet) (same : value % 64 = sextet.val) : sextetOf value = sextet :=
  Fin.ext same

-- Three bytes are four digits; the last digit of a shorter rest ends in zero bits.
def spread : List UInt8 → List Sextet
  | first :: second :: third :: rest =>
      sextetOf (first.toNat / 4) :: sextetOf (first.toNat % 4 * 16 + second.toNat / 16) ::
        sextetOf (second.toNat % 16 * 4 + third.toNat / 64) :: sextetOf third.toNat :: spread rest
  | [first, second] =>
      [sextetOf (first.toNat / 4), sextetOf (first.toNat % 4 * 16 + second.toNat / 16),
        sextetOf (second.toNat % 16 * 4)]
  | [first] => [sextetOf (first.toNat / 4), sextetOf (first.toNat % 4 * 16)]
  | [] => []

def pack : List Sextet → List UInt8
  | first :: second :: third :: fourth :: rest =>
      byteOf (first.val * 4 + second.val / 16) :: byteOf (second.val % 16 * 16 + third.val / 4) ::
        byteOf (third.val % 4 * 64 + fourth.val) :: pack rest
  | [first, second, third] =>
      [byteOf (first.val * 4 + second.val / 16), byteOf (second.val % 16 * 16 + third.val / 4)]
  | [first, second] => [byteOf (first.val * 4 + second.val / 16)]
  | [_] => []
  | [] => []

theorem pack_spread (bytes : List UInt8) : pack (spread bytes) = bytes := by
  induction bytes using spread.induct with
  | case1 first second third rest ih =>
      have firstBound := first.toNat_lt
      have secondBound := second.toNat_lt
      have thirdBound := third.toNat_lt
      simp only [spread, pack, sextet_of_val, ih]
      rw [byte_of_eq _ first (by omega), byte_of_eq _ second (by omega), byte_of_eq _ third (by omega)]
  | case2 first second =>
      have firstBound := first.toNat_lt
      have secondBound := second.toNat_lt
      simp only [spread, pack, sextet_of_val]
      rw [byte_of_eq _ first (by omega), byte_of_eq _ second (by omega)]
  | case3 first =>
      have firstBound := first.toNat_lt
      simp only [spread, pack, sextet_of_val]
      rw [byte_of_eq _ first (by omega)]
  | case4 => rfl

theorem spread_pack (sextets : List Sextet) (aligned : 4 ∣ sextets.length) :
    spread (pack sextets) = sextets := by
  induction sextets using pack.induct with
  | case1 first second third fourth rest ih =>
      have firstBound := first.isLt
      have secondBound := second.isLt
      have thirdBound := third.isLt
      have fourthBound := fourth.isLt
      have restAligned : 4 ∣ rest.length := by
        simp only [List.length_cons] at aligned
        omega
      simp only [spread, pack, byte_of_to_nat, ih restAligned]
      rw [sextet_of_eq _ first (by omega), sextet_of_eq _ second (by omega), sextet_of_eq _ third (by omega),
        sextet_of_eq _ fourth (by omega)]
  | case2 first second third => simp at aligned
  | case3 first second => simp at aligned
  | case4 first => simp at aligned
  | case5 => rfl

theorem length_spread (bytes : List UInt8) : (spread bytes).length = (4 * bytes.length + 2) / 3 := by
  induction bytes using spread.induct with
  | case1 first second third rest ih =>
      simp only [spread, List.length_cons, ih]
      omega
  | case2 | case3 | case4 => simp [spread]

theorem length_pack (sextets : List Sextet) : (pack sextets).length = 3 * sextets.length / 4 := by
  induction sextets using pack.induct with
  | case1 first second third fourth rest ih =>
      simp only [pack, List.length_cons, ih]
      omega
  | case2 | case3 | case4 | case5 => simp [pack]

theorem spread_append (left right : List UInt8) (aligned : 3 ∣ left.length) :
    spread (left ++ right) = spread left ++ spread right := by
  induction left using spread.induct with
  | case1 first second third rest ih =>
      have restAligned : 3 ∣ rest.length := by
        simp only [List.length_cons] at aligned
        omega
      simp only [List.cons_append, spread, ih restAligned]
  | case2 first second => simp at aligned
  | case3 first => simp at aligned
  | case4 => rfl

theorem pack_append (left right : List Sextet) (aligned : 4 ∣ left.length) :
    pack (left ++ right) = pack left ++ pack right := by
  induction left using pack.induct with
  | case1 first second third fourth rest ih =>
      have restAligned : 4 ∣ rest.length := by
        simp only [List.length_cons] at aligned
        omega
      simp only [List.cons_append, pack, ih restAligned]
  | case2 first second third => simp at aligned
  | case3 first second => simp at aligned
  | case4 first => simp at aligned
  | case5 => rfl

theorem spread_take (bytes : List UInt8) (taken digits : Nat) (enough : 3 * digits ≤ 4 * taken) :
    (spread (bytes.take taken)).take digits = (spread bytes).take digits := by
  induction bytes using spread.induct generalizing taken digits with
  | case1 first second third rest ih =>
      by_cases whole : 3 ≤ taken
      · obtain ⟨more, counted⟩ := Nat.exists_eq_add_of_le' whole
        subst counted
        by_cases few : digits < 4
        · interval_cases digits <;> simp [spread]
        · obtain ⟨others, split⟩ := Nat.exists_eq_add_of_le' (Nat.le_of_not_lt few)
          subst split
          simp only [List.take_succ_cons, spread, ih more others (by omega)]
      · interval_cases taken
        · have none : digits = 0 := by omega
          subst none
          rfl
        · have one : digits ≤ 1 := by omega
          interval_cases digits <;> simp [spread]
        · have two : digits ≤ 2 := by omega
          interval_cases digits <;> simp [spread]
  | case2 first second =>
      by_cases whole : 2 ≤ taken
      · rw [List.take_of_length_le (i := taken) (by simpa using whole)]
      · interval_cases taken
        · have none : digits = 0 := by omega
          subst none
          rfl
        · have one : digits ≤ 1 := by omega
          interval_cases digits <;> simp [spread]
  | case3 first =>
      by_cases whole : 1 ≤ taken
      · rw [List.take_of_length_le (i := taken) (by simpa using whole)]
      · have none : digits = 0 := by omega
        subst none
        rfl
  | case4 => simp

-- The bits of a payload's first digit that complete the byte of the last of
-- the digits in front of it.
def spare (lead : Nat) (payload : List Sextet) : Nat :=
  match payload with
  | [] => 0
  | first :: _ => first.val / 4 ^ (3 - lead)

theorem pack_drop_lead (lead other payload : List Sextet) (same : lead.length = other.length) (few : lead.length ≤ 3)
    (aligned : 4 ∣ lead.length + payload.length) :
    (pack (lead ++ payload)).drop lead.length = (pack (other ++ payload)).drop lead.length := by
  match lead, other, same with
  | [], [], _ => rfl
  | [_], [_], _ =>
      match payload with
      | _ :: _ :: _ :: rest => simp [pack]
      | [] | [_] | [_, _] => simp at aligned
  | [_, _], [_, _], _ =>
      match payload with
      | _ :: _ :: rest => simp [pack]
      | [] | [_] => simp at aligned
  | [_, _, _], [_, _, _], _ =>
      match payload with
      | _ :: rest => simp [pack]
      | [] => simp at aligned
  | _ :: _ :: _ :: _ :: _, _, _ =>
      simp only [List.length_cons] at few
      omega

theorem pack_lead_last (lead payload : List Sextet) (some : 1 ≤ lead.length) (few : lead.length ≤ 3)
    (aligned : 4 ∣ lead.length + payload.length) :
    ((pack (lead ++ payload)).getD (lead.length - 1) 0).toNat % 4 ^ lead.length = spare lead.length payload := by
  match lead with
  | [] => simp at some
  | [first] =>
      match payload with
      | next :: _ :: _ :: rest =>
          have firstBound := first.isLt
          have nextBound := next.isLt
          simp [pack, spare]
          omega
      | [] | [_] | [_, _] => simp at aligned
  | [first, second] =>
      match payload with
      | next :: _ :: rest =>
          have secondBound := second.isLt
          have nextBound := next.isLt
          simp [pack, spare]
          omega
      | [] | [_] => simp at aligned
  | [first, second, third] =>
      match payload with
      | next :: rest =>
          have nextBound := next.isLt
          simp [pack, spare]
      | [] => simp at aligned
  | _ :: _ :: _ :: _ :: _ =>
      simp only [List.length_cons] at few
      omega

theorem pack_zero_lead (lead : Nat) (payload : List Sextet) (some : 1 ≤ lead) (few : lead ≤ 3)
    (nonempty : payload ≠ []) :
    (pack (List.replicate lead 0 ++ payload)).take lead =
      List.replicate (lead - 1) 0 ++ [byteOf (spare lead payload)] := by
  interval_cases lead
  · match payload with
    | [next] => simp [pack, spare]
    | [next, _] => simp [pack, spare]
    | next :: _ :: _ :: rest => simp [pack, spare]
    | [] => exact absurd rfl nonempty
  · match payload with
    | [next] => simp [pack, spare, byteOf]
    | next :: _ :: rest => simp [pack, spare, byteOf]
    | [] => exact absurd rfl nonempty
  · match payload with
    | next :: rest => simp [pack, spare, byteOf]
    | [] => exact absurd rfl nonempty

def number (sextets : List Sextet) : Nat := sextets.foldl (fun value sextet => value * 64 + sextet.val) 0

def digits (width value : Nat) : List Sextet :=
  (List.range width).map fun position => sextetOf (value / 64 ^ (width - position - 1))

@[simp] theorem length_digits (width value : Nat) : (digits width value).length = width := by simp [digits]

theorem number_append (left : List Sextet) (last : Sextet) : number (left ++ [last]) = number left * 64 + last.val := by
  simp [number]

theorem number_lt (sextets : List Sextet) : number sextets < 64 ^ sextets.length := by
  induction sextets using List.reverseRecOn with
  | nil => simp [number]
  | append_singleton left last ih =>
      have lastBound := last.isLt
      rw [number_append, List.length_append, List.length_singleton, pow_succ]
      omega

theorem digits_succ (width value : Nat) : digits (width + 1) value = digits width (value / 64) ++ [sextetOf value] := by
  unfold digits
  rw [List.range_succ, List.map_append, List.map_singleton]
  congr 1
  · apply List.map_congr_left
    intro position inside
    rw [List.mem_range] at inside
    have shorter : width + 1 - position - 1 = (width - position - 1) + 1 := by omega
    rw [shorter, pow_succ', Nat.div_div_eq_div_mul]
  · simp

theorem number_digits (width value : Nat) (fits : value < 64 ^ width) : number (digits width value) = value := by
  induction width generalizing value with
  | zero =>
      have none : value = 0 := by simpa using fits
      rw [none]
      rfl
  | succ width ih =>
      rw [pow_succ] at fits
      rw [digits_succ, number_append, ih (value / 64) (by omega), sextet_of_val]
      omega

theorem digits_number (sextets : List Sextet) : digits sextets.length (number sextets) = sextets := by
  induction sextets using List.reverseRecOn with
  | nil => rfl
  | append_singleton left last ih =>
      have lastBound := last.isLt
      rw [List.length_append, List.length_singleton, digits_succ, number_append]
      rw [show (number left * 64 + last.val) / 64 = number left by omega, ih]
      rw [sextet_of_eq _ last (by omega)]

end Sextets
