import Cesr.Lib.Sextets

set_option autoImplicit false

namespace Base64

open Sextets

structure Alphabet where
  char : Sextet → UInt8
  value : UInt8 → Option Sextet
  pad : UInt8
  value_char : ∀ sextet, value (char sextet) = some sextet
  char_value : ∀ byte sextet, value byte = some sextet → char sextet = byte
  value_pad : value pad = none

variable (alphabet : Alphabet)

def Alphabet.Spells (text : List UInt8) : Prop := ∀ byte ∈ text, (alphabet.value byte).isSome = true

instance (text : List UInt8) : Decidable (alphabet.Spells text) :=
  inferInstanceAs (Decidable (∀ byte ∈ text, (alphabet.value byte).isSome = true))

def Alphabet.values : List UInt8 → Option (List Sextet)
  | [] => some []
  | byte :: rest =>
      match alphabet.value byte, Alphabet.values rest with
      | some sextet, some sextets => some (sextet :: sextets)
      | _, _ => none

def Alphabet.encode (bytes : List UInt8) : List UInt8 := (spread bytes).map alphabet.char

-- Without padding: the spare bits of a last partial block must be zero.
def Alphabet.decodeUnpadded (text : List UInt8) : Option (List UInt8) :=
  match alphabet.values text with
  | some sextets => if spread (pack sextets) = sextets then some (pack sextets) else none
  | none => none

def Alphabet.pads (text : List UInt8) : Nat := (text.rtakeWhile (· == alphabet.pad)).length

-- With padding: it completes the last block, and there are at most two pads.
def Alphabet.decodePadded (text : List UInt8) : Option (List UInt8) :=
  if text.length % 4 = 0 ∧ alphabet.pads text ≤ 2 then
    alphabet.decodeUnpadded (text.rdropWhile (· == alphabet.pad))
  else none

theorem values_map_char (sextets : List Sextet) : alphabet.values (sextets.map alphabet.char) = some sextets := by
  induction sextets with
  | nil => rfl
  | cons sextet rest ih => simp only [List.map_cons, Alphabet.values, alphabet.value_char, ih]

theorem values_some (text : List UInt8) (sextets : List Sextet) :
    alphabet.values text = some sextets ↔ text = sextets.map alphabet.char := by
  apply Iff.intro
  · intro read
    induction text generalizing sextets with
    | nil => cases read; rfl
    | cons byte rest ih =>
        simp only [Alphabet.values] at read
        split at read
        · rename_i sextet others first later
          cases read
          rw [List.map_cons, alphabet.char_value byte sextet first, ← ih others later]
        · cases read
  · intro same
    rw [same, values_map_char]

theorem spells_iff (text : List UInt8) :
    alphabet.Spells text ↔ ∃ sextets : List Sextet, text = sextets.map alphabet.char := by
  apply Iff.intro
  · intro spelled
    induction text with
    | nil => exact ⟨[], rfl⟩
    | cons byte rest ih =>
        obtain ⟨sextet, read⟩ := Option.isSome_iff_exists.mp (spelled byte List.mem_cons_self)
        obtain ⟨sextets, same⟩ := ih fun other inside => spelled other (List.mem_cons_of_mem byte inside)
        exact ⟨sextet :: sextets, by rw [List.map_cons, ← same, alphabet.char_value byte sextet read]⟩
  · intro found byte inside
    obtain ⟨sextets, same⟩ := found
    rw [same, List.mem_map] at inside
    obtain ⟨sextet, _, spelled⟩ := inside
    rw [← spelled, alphabet.value_char]
    rfl

theorem char_injective : Function.Injective alphabet.char := by
  intro left right same
  have read := congrArg alphabet.value same
  rw [alphabet.value_char, alphabet.value_char] at read
  exact Option.some.inj read

theorem char_ne_pad (sextet : Sextet) : alphabet.char sextet ≠ alphabet.pad := by
  intro same
  have read := alphabet.value_char sextet
  rw [same, alphabet.value_pad] at read
  cases read

theorem spells_append (left right : List UInt8) :
    alphabet.Spells (left ++ right) ↔ alphabet.Spells left ∧ alphabet.Spells right := by
  simp only [Alphabet.Spells, List.forall_mem_append]

theorem spells_map (sextets : List Sextet) : alphabet.Spells (sextets.map alphabet.char) :=
  (spells_iff alphabet _).mpr ⟨sextets, rfl⟩

theorem length_encode (bytes : List UInt8) : (alphabet.encode bytes).length = (4 * bytes.length + 2) / 3 := by
  rw [Alphabet.encode, List.length_map, length_spread]

theorem decode_unpadded_encode (bytes : List UInt8) : alphabet.decodeUnpadded (alphabet.encode bytes) = some bytes := by
  rw [Alphabet.decodeUnpadded, Alphabet.encode, values_map_char]
  simp only [pack_spread, if_true]

theorem decode_unpadded_some (text bytes : List UInt8) :
    alphabet.decodeUnpadded text = some bytes ↔ text = alphabet.encode bytes := by
  apply Iff.intro
  · intro decoded
    unfold Alphabet.decodeUnpadded at decoded
    split at decoded
    · rename_i sextets read
      split at decoded
      · rename_i canonical
        cases decoded
        rw [Alphabet.encode, canonical]
        exact (values_some alphabet text sextets).mp read
      · cases decoded
    · cases decoded
  · intro same
    rw [same, decode_unpadded_encode]

theorem decode_unpadded_map (sextets : List Sextet) (aligned : 4 ∣ sextets.length) :
    alphabet.decodeUnpadded (sextets.map alphabet.char) = some (pack sextets) := by
  rw [Alphabet.decodeUnpadded, values_map_char]
  simp only [spread_pack sextets aligned, if_true]

theorem pads_split (text : List UInt8) :
    text = text.rdropWhile (· == alphabet.pad) ++ List.replicate (alphabet.pads text) alphabet.pad := by
  have tail : text.rtakeWhile (· == alphabet.pad) = List.replicate (alphabet.pads text) alphabet.pad := by
    refine List.eq_replicate_iff.mpr ⟨rfl, ?_⟩
    intro byte inside
    have pad := List.mem_rtakeWhile_imp inside
    simp only [beq_iff_eq] at pad
    exact pad
  rw [← tail, List.rdropWhile_append_rtakeWhile]

theorem pads_zero_iff (text : List UInt8) : alphabet.pads text = 0 ↔ text.getLast? ≠ some alphabet.pad := by
  unfold Alphabet.pads
  rw [List.length_eq_zero_iff, List.rtakeWhile_eq_nil_iff]
  cases text using List.reverseRecOn with
  | nil => simp
  | append_singleton body last => simp

theorem decode_padded_of_unpadded (text : List UInt8) (last : text.getLast? ≠ some alphabet.pad)
    (aligned : 4 ∣ text.length) : alphabet.decodePadded text = alphabet.decodeUnpadded text := by
  have unpadded := (pads_zero_iff alphabet text).mpr last
  have body := pads_split alphabet text
  rw [unpadded, List.replicate_zero, List.append_nil] at body
  rw [Alphabet.decodePadded, unpadded, if_pos ⟨Nat.mod_eq_zero_of_dvd aligned, Nat.zero_le 2⟩, ← body]

theorem decode_padded_some (text bytes : List UInt8) (decoded : alphabet.decodePadded text = some bytes) :
    4 ∣ text.length ∧ text = alphabet.encode bytes ++ List.replicate (alphabet.pads text) alphabet.pad ∧
      alphabet.pads text = (3 - bytes.length % 3) % 3 := by
  unfold Alphabet.decodePadded at decoded
  split at decoded
  · rename_i shape
    rw [decode_unpadded_some] at decoded
    have split := pads_split alphabet text
    rw [decoded] at split
    have counted := congrArg List.length split
    rw [List.length_append, length_encode, List.length_replicate] at counted
    have rest : bytes.length % 3 = 0 ∨ bytes.length % 3 = 1 ∨ bytes.length % 3 = 2 := by omega
    refine ⟨Nat.dvd_of_mod_eq_zero shape.1, split, ?_⟩
    rcases rest with rest | rest | rest <;> rw [rest] <;> omega
  · cases decoded

theorem decode_padded_injective (left right bytes : List UInt8) (first : alphabet.decodePadded left = some bytes)
    (second : alphabet.decodePadded right = some bytes) : left = right := by
  obtain ⟨_, leftSpelled, leftPads⟩ := decode_padded_some alphabet left bytes first
  obtain ⟨_, rightSpelled, rightPads⟩ := decode_padded_some alphabet right bytes second
  rw [leftSpelled, rightSpelled, leftPads, rightPads]

theorem decode_padded_short (text bytes : List UInt8) (decoded : alphabet.decodePadded text = some bytes) :
    text.getLast? = some alphabet.pad ↔ 4 * bytes.length < 3 * text.length := by
  obtain ⟨aligned, spelled, counted⟩ := decode_padded_some alphabet text bytes decoded
  have length := congrArg List.length spelled
  rw [List.length_append, length_encode, List.length_replicate] at length
  have padded := pads_zero_iff alphabet text
  apply Iff.intro
  · intro last
    have some : alphabet.pads text ≠ 0 := fun none => padded.mp none last
    omega
  · intro short
    by_contra last
    have none := padded.mpr last
    omega

end Base64
