import Cesr.Core.MatterSoft
import Cesr.Core.MnemonicWords
import Cesr.Lib.BitRuns

set_option autoImplicit false

namespace Cesr.Mnemonic

open Checks BitRuns

def saltLen : Nat := 16

def wordCount : Nat := 12

def wordBits : Nat := 11

def totalBits : Nat := wordCount * wordBits

def streamBytes : Nat := saltLen + 1

inductive MnemonicError where
  | wordCount (actual : Nat)
  | unknownWord (index : Nat)
  | checksum
deriving DecidableEq, Repr

def asciiWhitespace (byte : UInt8) : Bool := decide (byte ∈ [0x09, 0x0A, 0x0C, 0x0D, 0x20])

def splitAsciiWhitespace (text : Bytes) : List Bytes := (text.splitOnP asciiWhitespace).filter fun part => part ≠ []

def toAsciiLowercase (byte : UInt8) : UInt8 := if 0x41 ≤ byte ∧ byte ≤ 0x5A then byte + 0x20 else byte

def eqIgnoreAsciiCase (left right : Bytes) : Bool := decide (left.map toAsciiLowercase = right.map toAsciiLowercase)

def shiftBit (stream : Bytes) (indices : List Nat) (pos : Nat) : List Nat :=
  indices.modify (pos / wordBits) fun index =>
    (index <<< 1) ||| ((stream.getD (pos / 8) 0 >>> UInt8.ofNat (7 - pos % 8)) &&& 1).toNat

def raiseBit (indices : List Nat) (stream : Bytes) (pos : Nat) : Bytes :=
  if (indices.getD (pos / wordBits) 0 >>> (wordBits - 1 - pos % wordBits)) &&& 1 = 1 then
    stream.modify (pos / 8) fun byte => byte ||| (1 <<< UInt8.ofNat (7 - pos % 8))
  else stream

def gatherIndices (stream : Bytes) : List Nat := (List.range totalBits).foldl (shiftBit stream) (List.replicate wordCount 0)

def scatterBits (indices : List Nat) : Bytes := (List.range totalBits).foldl (raiseBit indices) (List.replicate streamBytes 0)

def joined : List String → String
  | [] => ""
  | [word] => word
  | word :: next :: rest => word ++ " " ++ joined (next :: rest)

def indexOf (word : Bytes) : Option Nat := words.findIdx? fun candidate => eqIgnoreAsciiCase (asBytes candidate) word

def wordIndices (given : List Bytes) : Except MnemonicError (List Nat) :=
  given.zipIdx.mapM fun item =>
    match indexOf item.1 with
    | some index => .ok index
    | none => .error (.unknownWord item.2)

theorem raise_length (indices : List Nat) (places : List Nat) (stream : Bytes) :
    (places.foldl (raiseBit indices) stream).length = stream.length := by
  induction places generalizing stream with
  | nil => rfl
  | cons place rest ih =>
      rw [List.foldl_cons, ih, raiseBit]
      by_cases bit : (indices.getD (place / wordBits) 0 >>> (wordBits - 1 - place % wordBits)) &&& 1 = 1
      · rw [if_pos bit, List.length_modify]
      · rw [if_neg bit]

theorem scatter_length (indices : List Nat) : (scatterBits indices).length = streamBytes := by
  rw [scatterBits, raise_length, List.length_replicate]

section Salt

-- The hash of the salt that the checksum is cut from.
variable (digest : Array8 16 → Array8 32)

def checksumNibble (entropy : Array8 16) : UInt8 := (digest entropy).val.getD 0 0 >>> 4

def toMnemonic (salt : Array8 16) : String :=
  joined ((gatherIndices (salt.val ++ [checksumNibble digest salt <<< 4])).map fun index => words.getD (index &&& 0x7FF) "")

def saltOf (stream : Bytes) (long : stream.length = streamBytes) : Array8 16 :=
  ⟨stream.take saltLen, by rw [List.length_take, long]; rfl⟩

def fromMnemonic (phrase : String) : Except MnemonicError (Array8 16) := do
  let given := splitAsciiWhitespace (asBytes phrase)
  if given.length ≠ wordCount then .error (.wordCount given.length)
  else
    let indices ← wordIndices given
    let raw := saltOf (scatterBits indices) (scatter_length indices)
    if (scatterBits indices).getD saltLen 0 >>> 4 ≠ checksumNibble digest raw then .error .checksum else .ok raw

end Salt

section Bits

theorem place_shift (place : Nat) : (UInt8.ofNat (7 - place)).toNat % 8 = 7 - place := by
  rw [UInt8.toNat_ofNat']
  omega

theorem stream_bit (byte : UInt8) (place : Nat) :
    ((byte >>> UInt8.ofNat (7 - place)) &&& 1).toNat = (byte.toNat.testBit (7 - place)).toNat := by
  rw [UInt8.toNat_and, UInt8.toNat_shiftRight, place_shift, UInt8.toNat_one, Nat.and_one_is_mod,
    Nat.shiftRight_eq_div_pow, Nat.toNat_testBit]

theorem raised_byte (byte : UInt8) (place : Nat) (inside : place < 8) :
    (byte ||| (1 <<< UInt8.ofNat (7 - place))).toNat = byte.toNat ||| 2 ^ (7 - place) := by
  have fits : 2 ^ (7 - place) < 2 ^ 8 := Nat.pow_lt_pow_right (by decide) (by omega)
  rw [UInt8.toNat_or, UInt8.toNat_shiftLeft, place_shift, UInt8.toNat_one, Nat.one_shiftLeft, Nat.mod_eq_of_lt fits]

theorem shifted_in (index : Nat) (bit : Bool) : (index <<< 1) ||| bit.toNat = Nat.bit bit index := by
  apply Nat.eq_of_testBit_eq
  intro low
  rw [Nat.testBit_or, Nat.testBit_shiftLeft]
  cases low with
  | zero => cases bit <;> simp
  | succ low =>
      have small : bit.toNat.testBit (low + 1) = false := by cases bit <;> simp [Nat.testBit_succ]
      rw [Nat.testBit_bit_succ, small, Bool.or_false, decide_eq_true (by omega), Bool.true_and]
      rfl

theorem tested (value place : Nat) : (value >>> place) &&& 1 = 1 ↔ value.testBit place = true := by
  rw [Nat.testBit]
  simp [Nat.and_comm]

def bytesOf (stream : Bytes) : List Nat := stream.map UInt8.toNat

theorem byte_at (stream : Bytes) (place : Nat) : (bytesOf stream).getD place 0 = (stream.getD place 0).toNat := by
  rw [bytesOf, List.getD_eq_getElem?_getD, List.getElem?_map, List.getD_eq_getElem?_getD]
  cases stream[place]? <;> rfl

theorem byte_bit (stream : Bytes) (pos : Nat) :
    bitAt 8 (bytesOf stream) pos = (stream.getD (pos / 8) 0).toNat.testBit (7 - pos % 8) := by
  rw [bitAt, byte_at]

theorem gather_indices (stream : Bytes) : gatherIndices stream = gather wordBits wordCount (bitAt 8 (bytesOf stream)) totalBits := by
  unfold gatherIndices gather
  congr 1
  funext indices pos
  rw [shiftIn, byte_bit, shiftBit]
  congr 1
  funext index
  rw [stream_bit, shifted_in]

theorem modify_bytes (stream : Bytes) (place low : Nat) (inside : low < 8) :
    bytesOf (stream.modify place fun byte => byte ||| (1 <<< UInt8.ofNat (7 - low))) =
      (bytesOf stream).modify place fun value => value ||| 2 ^ (7 - low) := by
  unfold bytesOf
  apply List.ext_getElem
  · rw [List.length_map, List.length_modify, List.length_modify, List.length_map]
  · intro here known known'
    rw [List.getElem_map, List.getElem_modify, List.getElem_modify, List.getElem_map]
    by_cases same : place = here
    · rw [if_pos same, if_pos same, raised_byte _ _ inside]
    · rw [if_neg same, if_neg same]

theorem raise_bytes (indices : List Nat) (stream : Bytes) (pos : Nat) :
    bytesOf (raiseBit indices stream pos) = raise 8 (bytesOf stream) pos (bitAt wordBits indices pos) := by
  rw [raise, raiseBit]
  by_cases bit : bitAt wordBits indices pos = true
  · rw [if_pos bit, if_pos ((tested _ _).mpr bit), modify_bytes _ _ _ (Nat.mod_lt pos (by decide))]
  · rw [if_neg bit, if_neg fun found => bit ((tested _ _).mp found)]

theorem scatter_bytes (indices : List Nat) :
    bytesOf (scatterBits indices) = spread 8 streamBytes (bitAt wordBits indices) totalBits := by
  have steps : ∀ places, bytesOf ((List.range places).foldl (raiseBit indices) (List.replicate streamBytes 0)) =
      spread 8 streamBytes (bitAt wordBits indices) places := by
    intro places
    induction places with
    | zero => exact List.map_replicate
    | succ places ih =>
        rw [List.range_succ, List.foldl_append, List.foldl_cons, List.foldl_nil, raise_bytes, ih, spread_succ]
  exact steps totalBits

theorem bytes_small (stream : Bytes) : ∀ value ∈ bytesOf stream, value < 2 ^ 8 := by
  intro value inside
  obtain ⟨byte, _, same⟩ := List.mem_map.mp inside
  rw [← same]
  exact byte.toNat_lt

theorem bytes_inj (left right : Bytes) (same : bytesOf left = bytesOf right) : left = right :=
  List.map_injective_iff.mpr (fun _ _ => UInt8.toNat_inj.mp) same

def Aligned (stream : Bytes) : Prop := stream.length = streamBytes ∧ ∀ pos, totalBits ≤ pos → bitAt 8 (bytesOf stream) pos = false

theorem scatter_gathered (stream : Bytes) (aligned : Aligned stream) : scatterBits (gatherIndices stream) = stream := by
  apply bytes_inj
  rw [scatter_bytes, gather_indices]
  apply bits_ext 8 _ _ (by decide)
  · rw [spread_length, bytesOf, List.length_map, aligned.1]
  · exact spread_small 8 streamBytes _ _ (by decide) (by decide)
  · exact bytes_small stream
  · intro pos _
    rw [spread_bit 8 streamBytes _ _ _ (by decide) (by decide)]
    by_cases inside : pos < totalBits
    · rw [decide_eq_true inside, Bool.true_and]
      exact gather_bit wordBits wordCount _ pos (by decide) inside
    · rw [decide_eq_false inside, Bool.false_and, aligned.2 pos (by omega)]

theorem gather_small_words (stream : Bytes) :
    (gatherIndices stream).length = wordCount ∧ ∀ index ∈ gatherIndices stream, index < 2 ^ wordBits := by
  rw [gather_indices]
  refine ⟨gather_length _ _ _ _, ?_⟩
  intro index inside
  obtain ⟨word, known, same⟩ := List.mem_iff_getElem.mp inside
  have small := gather_small wordBits wordCount (bitAt 8 (bytesOf stream)) word (by decide)
    (by rw [gather_length] at known; exact known)
  rw [← same, ← List.getD_eq_getElem _ 0 known]
  exact small

theorem gather_scattered (indices : List Nat) (count : indices.length = wordCount) (small : ∀ index ∈ indices, index < 2 ^ wordBits) :
    gatherIndices (scatterBits indices) = indices := by
  obtain ⟨long, small'⟩ := gather_small_words (scatterBits indices)
  apply bits_ext wordBits _ _ (by decide) (by rw [long, count]) small' small
  intro pos inside
  rw [long] at inside
  rw [gather_indices, show totalBits = wordCount * wordBits from rfl, gather_bit wordBits wordCount _ pos (by decide) inside,
    scatter_bytes, spread_bit 8 streamBytes _ _ _ (by decide) (by decide), decide_eq_true (show pos < totalBits from inside),
    Bool.true_and]

theorem scatter_aligned (indices : List Nat) : Aligned (scatterBits indices) := by
  refine ⟨scatter_length indices, ?_⟩
  intro pos outside
  rw [scatter_bytes, spread_bit 8 streamBytes _ _ _ (by decide) (by decide), decide_eq_false (by omega), Bool.false_and]

end Bits

section Words

theorem lowercase_letter (byte : UInt8) (small : letter byte = true) :
    toAsciiLowercase byte = byte ∧ asciiWhitespace byte = false := by
  have all : ∀ value : Fin 256, letter (UInt8.ofFin value) = true →
      toAsciiLowercase (UInt8.ofFin value) = UInt8.ofFin value ∧ asciiWhitespace (UInt8.ofFin value) = false := by decide +kernel
  exact all byte.toFin small

theorem word_shape (index : Nat) (known : index < words.length) :
    asBytes words[index] ≠ [] ∧ (∀ byte ∈ asBytes words[index], asciiWhitespace byte = false) ∧
      (asBytes words[index]).map toAsciiLowercase = asBytes words[index] := by
  have letters := List.all_eq_true.mp (List.all_eq_true.mp words_letters _ (List.getElem_mem known))
  refine ⟨of_decide_eq_true (List.all_eq_true.mp words_filled _ (List.getElem_mem known)), ?_, ?_⟩
  · intro byte inside
    exact (lowercase_letter byte (letters byte inside)).2
  · conv_rhs => rw [← List.map_id (asBytes words[index])]
    apply List.map_congr_left
    intro byte inside
    exact (lowercase_letter byte (letters byte inside)).1

theorem index_of_some (word : Bytes) (index : Nat) :
    indexOf word = some index ↔ ∃ known : index < words.length, asBytes words[index] = word.map toAsciiLowercase := by
  have matches' : ∀ other (known : other < words.length),
      eqIgnoreAsciiCase (asBytes words[other]) word = true ↔ asBytes words[other] = word.map toAsciiLowercase := by
    intro other known
    rw [eqIgnoreAsciiCase, decide_eq_true_iff, (word_shape other known).2.2]
  rw [indexOf, List.findIdx?_eq_some_iff_getElem]
  apply Iff.intro
  · intro found
    obtain ⟨known, same, _⟩ := found
    exact ⟨known, (matches' index known).mp same⟩
  · intro found
    obtain ⟨known, same⟩ := found
    refine ⟨known, (matches' index known).mpr same, ?_⟩
    intro earlier before found
    have twice := (matches' earlier (by omega)).mp found
    have equal := words_distinct earlier index (by omega) known (by rw [twice, same])
    omega

theorem joined_bytes (given : List String) : asBytes (joined given) = [0x20].intercalate (given.map asBytes) := by
  induction given with
  | nil => rfl
  | cons word rest ih =>
      cases rest with
      | nil => simp [joined]
      | cons next rest =>
          rw [joined, as_bytes_append, as_bytes_append, ih, List.map_cons, List.map_cons, List.map_cons, List.intercalate_cons_cons]
          rfl

theorem split_joined (given : List Bytes) (filled : ∀ word ∈ given, word ≠ [])
    (plain : ∀ word ∈ given, ∀ byte ∈ word, asciiWhitespace byte = false) :
    splitAsciiWhitespace ([0x20].intercalate given) = given := by
  induction given with
  | nil => rfl
  | cons word rest ih =>
      obtain ⟨first, others⟩ := List.forall_mem_cons.mp filled
      obtain ⟨first', others'⟩ := List.forall_mem_cons.mp plain
      cases rest with
      | nil =>
          rw [List.intercalate_singleton, splitAsciiWhitespace, List.splitOnP_eq_singleton first']
          simp [first]
      | cons next rest =>
          have later := ih others others'
          rw [List.intercalate_cons_cons, List.append_assoc, splitAsciiWhitespace, List.singleton_append,
            List.splitOnP_append_cons_of_forall_mem first' _ (by decide), List.filter_cons_of_pos (by simpa using first)]
          rw [splitAsciiWhitespace] at later
          rw [later]

def spelled (indices : List Nat) : List String := indices.map fun index => words.getD (index &&& 0x7FF) ""

theorem spelled_word (index : Nat) (small : index < 2 ^ wordBits) :
    ∃ known : index < words.length, words.getD (index &&& 0x7FF) "" = words[index] := by
  have known : index < words.length := by
    rw [words_length]
    exact small
  have masked : index &&& 0x7FF = index := by
    rw [show (0x7FF : Nat) = 2 ^ 11 - 1 from rfl, Nat.and_two_pow_sub_one_eq_mod]
    exact Nat.mod_eq_of_lt small
  exact ⟨known, by rw [masked, List.getD_eq_getElem _ _ known]⟩

theorem spelled_indices (indices : List Nat) (small : ∀ index ∈ indices, index < 2 ^ wordBits) :
    wordIndices ((spelled indices).map asBytes) = .ok indices := by
  have steps : ∀ start, (((spelled indices).map asBytes).zipIdx start).mapM (fun item =>
      match indexOf item.1 with
      | some index => (.ok index : Except MnemonicError Nat)
      | none => .error (.unknownWord item.2)) = .ok indices := by
    induction indices with
    | nil => exact fun _ => rfl
    | cons index rest ih =>
        intro start
        obtain ⟨first, others⟩ := List.forall_mem_cons.mp small
        obtain ⟨known, same⟩ := spelled_word index first
        have found : indexOf (asBytes (words.getD (index &&& 0x7FF) "")) = some index := by
          rw [same]
          exact (index_of_some _ _).mpr ⟨known, (word_shape index known).2.2.symm⟩
        rw [spelled, List.map_cons, List.map_cons, List.zipIdx_cons, List.mapM_cons]
        simp only [found]
        have later := ih others (start + 1)
        rw [spelled] at later
        rw [later]
        rfl
  exact steps 0

theorem indices_spelled (given : List Bytes) (indices : List Nat) (found : wordIndices given = .ok indices) :
    indices.length = given.length ∧ (∀ index ∈ indices, index < 2 ^ wordBits) ∧
      (spelled indices).map asBytes = given.map fun word => word.map toAsciiLowercase := by
  have steps : ∀ (given : List Bytes) (start : Nat) (indices : List Nat), (given.zipIdx start).mapM (fun item =>
      match indexOf item.1 with
      | some index => (.ok index : Except MnemonicError Nat)
      | none => .error (.unknownWord item.2)) = .ok indices →
      indices.length = given.length ∧ (∀ index ∈ indices, index < 2 ^ wordBits) ∧
        (spelled indices).map asBytes = given.map fun word => word.map toAsciiLowercase := by
    intro given
    induction given with
    | nil =>
        intro start indices found
        cases found
        exact ⟨rfl, fun _ inside => absurd inside List.not_mem_nil, rfl⟩
    | cons word rest ih =>
        intro start indices found
        rw [List.zipIdx_cons, List.mapM_cons, bind_ok] at found
        obtain ⟨index, first, found⟩ := found
        rw [bind_ok] at found
        obtain ⟨others, later, same⟩ := found
        cases same
        cases known : indexOf word with
        | none =>
            simp only [known] at first
            cases first
        | some place =>
            simp only [known] at first
            cases first
            obtain ⟨long, small, texts⟩ := ih (start + 1) others later
            obtain ⟨inside, text⟩ := (index_of_some word index).mp known
            have less : index < 2 ^ wordBits := by
              rw [words_length] at inside
              exact inside
            obtain ⟨_, spelling⟩ := spelled_word index less
            refine ⟨by rw [List.length_cons, List.length_cons, long], List.forall_mem_cons.mpr ⟨less, small⟩, ?_⟩
            rw [spelled] at texts
            rw [spelled, List.map_cons, List.map_cons, List.map_cons, texts, spelling, text]
  exact steps given 0 indices found

end Words

section Faithful

variable (digest : Array8 16 → Array8 32)

theorem nibble_to_nat (byte : UInt8) : ((byte >>> 4) <<< 4).toNat = byte.toNat / 16 * 16 := by
  have bound := byte.toNat_lt
  rw [UInt8.toNat_shiftLeft, UInt8.toNat_shiftRight, Nat.shiftLeft_eq, Nat.shiftRight_eq_div_pow]
  simp only [UInt8.reduceToNat, Nat.reduceMod, Nat.reducePow]
  omega

theorem nibble_byte (byte : UInt8) (low : ∀ place : Fin 8, 4 ≤ place.val → byte.toNat.testBit (7 - place.val) = false) :
    (byte >>> 4) <<< 4 = byte := by
  have fourth : byte.toNat.testBit 3 = false := low 4 (by decide)
  have fifth : byte.toNat.testBit 2 = false := low 5 (by decide)
  have sixth : byte.toNat.testBit 1 = false := low 6 (by decide)
  have last : byte.toNat.testBit 0 = false := low 7 (by decide)
  simp only [Nat.testBit_eq_decide_div_mod_eq, decide_eq_false_iff_not, Nat.reducePow] at fourth fifth sixth last
  apply UInt8.toNat_inj.mp
  rw [nibble_to_nat]
  omega

theorem byte_nibble (byte : UInt8) :
    ((byte >>> 4) <<< 4) >>> 4 = byte >>> 4 ∧
      ∀ place : Fin 8, 4 ≤ place.val → ((byte >>> 4) <<< 4).toNat.testBit (7 - place.val) = false := by
  refine ⟨UInt8.toNat_inj.mp ?_, ?_⟩
  · rw [UInt8.toNat_shiftRight, nibble_to_nat, UInt8.toNat_shiftRight, Nat.shiftRight_eq_div_pow, Nat.shiftRight_eq_div_pow]
    simp only [UInt8.reduceToNat, Nat.reduceMod, Nat.reducePow]
    omega
  · intro place behind
    have multiple : byte.toNat / 16 * 16 = (byte.toNat / 16) <<< 4 := (Nat.shiftLeft_eq _ 4).symm
    rw [nibble_to_nat, multiple, Nat.testBit_shiftLeft, decide_eq_false (by omega), Bool.false_and]

theorem aligned_last (front : Bytes) (last : UInt8) (long : front.length = saltLen) :
    Aligned (front ++ [last]) ↔ ∀ place : Fin 8, 4 ≤ place.val → last.toNat.testBit (7 - place.val) = false := by
  have whole : (front ++ [last]).length = streamBytes := by
    rw [List.length_append, long]
    rfl
  have at' : (front ++ [last]).getD 16 0 = last := by
    rw [List.getD_append_right _ _ _ _ (by rw [long]; decide), long]
    rfl
  apply Iff.intro
  · intro aligned place high
    have zero := aligned.2 (128 + place.val) (by
      show 132 ≤ _
      omega)
    have word : (128 + place.val) / 8 = 16 := by omega
    have bit : (128 + place.val) % 8 = place.val := by omega
    rw [byte_bit, word, bit, at'] at zero
    exact zero
  · intro low
    refine ⟨whole, ?_⟩
    intro pos outside
    have behind : 132 ≤ pos := outside
    rw [byte_bit]
    by_cases inside : pos / 8 = 16
    · have rest := low ⟨pos % 8, Nat.mod_lt pos (by decide)⟩ (by
        show 4 ≤ pos % 8
        omega)
      rw [inside, at']
      exact rest
    · rw [List.getD_eq_default _ _ (by
        rw [whole]
        show 17 ≤ pos / 8
        omega)]
      simp

theorem mnemonic_decoded (salt : Array8 16) : fromMnemonic digest (toMnemonic digest salt) = .ok salt := by
  obtain ⟨entropy, long⟩ := salt
  generalize checksum : checksumNibble digest ⟨entropy, long⟩ = nibble
  have aligned : Aligned (entropy ++ [nibble <<< 4]) := by
    rw [aligned_last entropy _ long, ← checksum]
    exact (byte_nibble _).2
  obtain ⟨count, small⟩ := gather_small_words (entropy ++ [nibble <<< 4])
  have again := scatter_gathered _ aligned
  generalize indexed : gatherIndices (entropy ++ [nibble <<< 4]) = indices at count small again
  have phrase : asBytes (toMnemonic digest ⟨entropy, long⟩) = [0x20].intercalate ((spelled indices).map asBytes) := by
    rw [toMnemonic, joined_bytes, checksum, indexed]
    rfl
  have each : ∀ word ∈ (spelled indices).map asBytes, word ≠ [] ∧ ∀ byte ∈ word, asciiWhitespace byte = false := by
    intro word inside
    obtain ⟨text, inside', same⟩ := List.mem_map.mp inside
    obtain ⟨index, member, same'⟩ := List.mem_map.mp inside'
    obtain ⟨known, spelling⟩ := spelled_word index (small index member)
    rw [← same, ← same', spelling]
    exact ⟨(word_shape index known).1, (word_shape index known).2.1⟩
  have split := split_joined _ (fun word inside => (each word inside).1) fun word inside => (each word inside).2
  have twelve : ((spelled indices).map asBytes).length = wordCount := by
    rw [List.length_map, spelled, List.length_map, count]
  rw [fromMnemonic]
  simp only []
  rw [phrase, split, if_neg (by rw [twelve]; exact fun other => other rfl), spelled_indices indices small]
  show (if _ then _ else _) = _
  have raw : saltOf (scatterBits indices) (scatter_length indices) = ⟨entropy, long⟩ := by
    apply Subtype.ext
    show (scatterBits indices).take saltLen = entropy
    rw [again]
    exact List.take_left' long
  have last : (scatterBits indices).getD saltLen 0 = nibble <<< 4 := by
    rw [again, List.getD_append_right _ _ _ _ (by rw [long]; decide), long]
    rfl
  have kept : (nibble <<< 4) >>> 4 = nibble := by
    rw [← checksum]
    exact (byte_nibble _).1
  rw [raw, last, kept, checksum, if_neg fun other => other rfl]

theorem mnemonic_spelled (phrase : String) (salt : Array8 16) (read : fromMnemonic digest phrase = .ok salt) :
    asBytes (toMnemonic digest salt) =
      [0x20].intercalate ((splitAsciiWhitespace (asBytes phrase)).map fun word => word.map toAsciiLowercase) := by
  rw [fromMnemonic] at read
  simp only [] at read
  generalize splitAsciiWhitespace (asBytes phrase) = given at read ⊢
  by_cases count : given.length = wordCount
  · rw [if_neg fun other => other count, bind_ok] at read
    obtain ⟨indices, found, read⟩ := read
    obtain ⟨long, small, texts⟩ := indices_spelled given indices found
    generalize raw : saltOf (scatterBits indices) (scatter_length indices) = entropy at read
    by_cases agrees : (scatterBits indices).getD saltLen 0 >>> 4 = checksumNibble digest entropy
    · rw [if_neg fun other => other agrees] at read
      cases read
      have aligned := scatter_aligned indices
      have front : (scatterBits indices).take saltLen = salt.val := congrArg Subtype.val raw
      have split : scatterBits indices = salt.val ++ [(scatterBits indices).getD saltLen 0] := by
        conv_lhs => rw [← List.take_append_drop saltLen (scatterBits indices)]
        rw [front]
        congr 1
        have size := scatter_length indices
        have inside : saltLen < (scatterBits indices).length := by
          rw [size]
          decide
        rw [List.drop_eq_getElem_cons inside, List.drop_eq_nil_of_le (by rw [size]; decide), List.getD_eq_getElem _ _ inside]
      have low : (salt.val ++ [checksumNibble digest salt <<< 4]) = scatterBits indices := by
        rw [split] at aligned
        rw [← agrees, nibble_byte _ ((aligned_last _ _ salt.property).mp aligned), ← split]
      rw [toMnemonic, joined_bytes, low, gather_scattered indices (by rw [long, count]) small, ← texts]
      rfl
    · rw [if_pos agrees] at read
      cases read
  · rw [if_pos count] at read
    cases read

end Faithful

-- A mnemonic is read back as the salt it was written for, and a phrase that is
-- read is the mnemonic of its salt, up to the case of its letters and the
-- space between its words.
theorem mnemonic_faithful (digest : Array8 16 → Array8 32) :
    (∀ salt, fromMnemonic digest (toMnemonic digest salt) = .ok salt) ∧
      (∀ phrase salt, fromMnemonic digest phrase = .ok salt →
        asBytes (toMnemonic digest salt) =
          [0x20].intercalate ((splitAsciiWhitespace (asBytes phrase)).map fun word => word.map toAsciiLowercase)) ∧
      Function.Injective (toMnemonic digest) := by
  refine ⟨mnemonic_decoded digest, mnemonic_spelled digest, ?_⟩
  intro first second same
  have read := mnemonic_decoded digest first
  rw [same, mnemonic_decoded digest second] at read
  exact (Except.ok.inj read).symm

end Cesr.Mnemonic
