import Mathlib.Data.List.Basic

set_option autoImplicit false

namespace WriterJson

abbrev Text := List UInt8

def quote : UInt8 := 0x22

def backslash : UInt8 := 0x5C

def isDigit (byte : UInt8) : Bool := decide (0x30 ≤ byte ∧ byte ≤ 0x39)

def hexDigit (value : UInt8) : UInt8 := if value < 10 then 0x30 + value else 0x57 + value

-- The one spelling of a byte inside a string: raw unless it has to be escaped,
-- and the short escape where there is one.
def escapeByte (byte : UInt8) : Text :=
  if byte = quote then [backslash, quote]
  else if byte = backslash then [backslash, backslash]
  else if byte = 0x08 then [backslash, 0x62]
  else if byte = 0x09 then [backslash, 0x74]
  else if byte = 0x0A then [backslash, 0x6E]
  else if byte = 0x0C then [backslash, 0x66]
  else if byte = 0x0D then [backslash, 0x72]
  else if byte < 0x20 then [backslash, 0x75, 0x30, 0x30, hexDigit (byte / 16), hexDigit (byte % 16)]
  else [byte]

def escape (text : Text) : Text := text.flatMap escapeByte

def quoted (content : Text) : Text := quote :: (content ++ [quote])

-- A byte that a string spells as itself.
def Plain (byte : UInt8) : Prop := 0x20 ≤ byte ∧ byte ≠ quote ∧ byte ≠ backslash

instance plainDecidable (byte : UInt8) : Decidable (Plain byte) := inferInstanceAs (Decidable (_ ∧ _))

theorem plain_checked (text : Text) (checked : (text.all fun byte => decide (Plain byte)) = true) : ∀ byte ∈ text, Plain byte :=
  fun byte inside => of_decide_eq_true (List.all_eq_true.mp checked byte inside)

-- The control characters that have a short escape.
def shortControls : Text := [0x08, 0x09, 0x0A, 0x0C, 0x0D]

theorem escape_byte_plain (byte : UInt8) (plain : Plain byte) : escapeByte byte = [byte] := by
  have apart : ∀ control : UInt8, control < 0x20 → byte ≠ control :=
    fun control low same => absurd (same.symm ▸ low) (UInt8.not_lt.mpr plain.1)
  rw [escapeByte, if_neg plain.2.1, if_neg plain.2.2, if_neg (apart _ (by decide)), if_neg (apart _ (by decide)),
    if_neg (apart _ (by decide)), if_neg (apart _ (by decide)), if_neg (apart _ (by decide)),
    if_neg (UInt8.not_lt.mpr plain.1)]

theorem escape_byte_control (byte : UInt8) (low : byte < 0x20) (unnamed : byte ∉ shortControls) :
    escapeByte byte = [backslash, 0x75, 0x30, 0x30, hexDigit (byte / 16), hexDigit (byte % 16)] := by
  have apart : ∀ high : UInt8, 0x20 ≤ high → byte ≠ high :=
    fun high wide same => absurd (same ▸ low) (UInt8.not_lt.mpr wide)
  simp only [shortControls, List.mem_cons, List.not_mem_nil, or_false, not_or] at unnamed
  rw [escapeByte, if_neg (apart _ (by decide)), if_neg (apart _ (by decide)), if_neg unnamed.1, if_neg unnamed.2.1,
    if_neg unnamed.2.2.1, if_neg unnamed.2.2.2.1, if_neg unnamed.2.2.2.2, if_pos low]

-- Every byte stands for itself, has a short escape or is spelled by its digits.
theorem escape_byte_cases (byte : UInt8) :
    Plain byte ∨ (∃ mark ∈ [quote, backslash, 0x62, 0x66, 0x6E, 0x72, 0x74], escapeByte byte = [backslash, mark]) ∨
      (byte < 0x20 ∧ byte ∉ shortControls) := by
  by_cases quotes : byte = quote
  · exact .inr (.inl ⟨quote, by decide, by rw [quotes]; rfl⟩)
  · by_cases slashes : byte = backslash
    · exact .inr (.inl ⟨backslash, by decide, by rw [slashes]; rfl⟩)
    · by_cases short : byte ∈ shortControls
      · refine .inr (.inl ?_)
        simp only [shortControls, List.mem_cons, List.not_mem_nil, or_false] at short
        rcases short with same | same | same | same | same
        · exact ⟨0x62, by decide, by rw [same]; rfl⟩
        · exact ⟨0x74, by decide, by rw [same]; rfl⟩
        · exact ⟨0x6E, by decide, by rw [same]; rfl⟩
        · exact ⟨0x66, by decide, by rw [same]; rfl⟩
        · exact ⟨0x72, by decide, by rw [same]; rfl⟩
      · by_cases low : byte < 0x20
        · exact .inr (.inr ⟨low, short⟩)
        · exact .inl ⟨UInt8.not_lt.mp low, quotes, slashes⟩

theorem escape_byte_filled (byte : UInt8) : escapeByte byte ≠ [] := by
  rcases escape_byte_cases byte with plain | ⟨mark, _, spelled⟩ | ⟨low, unnamed⟩
  · rw [escape_byte_plain byte plain]
    exact List.cons_ne_nil _ _
  · rw [spelled]
    exact List.cons_ne_nil _ _
  · rw [escape_byte_control byte low unnamed]
    exact List.cons_ne_nil _ _

def Digits (text : Text) : Prop := text ≠ [] ∧ ∀ byte ∈ text, isDigit byte = true

def Whole (text : Text) : Prop :=
  text = [0x30] ∨ ∃ first rest, text = first :: rest ∧ isDigit first = true ∧ first ≠ 0x30 ∧ ∀ byte ∈ rest, isDigit byte = true

def Fraction (text : Text) : Prop := text = [] ∨ ∃ digits, Digits digits ∧ text = 0x2E :: digits

def Exponent (text : Text) : Prop :=
  text = [] ∨ ∃ mark sign digits, (mark = 0x65 ∨ mark = 0x45) ∧ (sign = [] ∨ sign = [0x2B] ∨ sign = [0x2D]) ∧
    Digits digits ∧ text = mark :: (sign ++ digits)

def Numeral (text : Text) : Prop :=
  ∃ sign whole fraction exponent, (sign = [] ∨ sign = [0x2D]) ∧ Whole whole ∧ Fraction fraction ∧ Exponent exponent ∧
    text = sign ++ whole ++ fraction ++ exponent

-- No numeral goes on into what follows it.
def Stops (rest : Text) : Prop :=
  ∀ byte, rest.head? = some byte → isDigit byte = false ∧ byte ≠ 0x2E ∧ byte ≠ 0x65 ∧ byte ≠ 0x45

def words : List Text := [[0x74, 0x72, 0x75, 0x65], [0x66, 0x61, 0x6C, 0x73, 0x65], [0x6E, 0x75, 0x6C, 0x6C]]

section Grammar

-- What the encoding of a string has to be, the escapes left as they are.
variable (encoded : Text → Prop)

def Content (content : Text) : Prop := encoded content ∧ ∃ text, content = escape text

inductive Part where
  | value
  | items
  | members (seen : List Text)

-- The compact spelling of a value, of the items of an array and of the members
-- of an object, no key of which is among those seen before it.
inductive Spells : Part → Text → Prop
  | word (text : Text) (known : text ∈ words) : Spells .value text
  | number (text : Text) (wellFormed : Numeral text) : Spells .value text
  | string (content : Text) (allowed : Content encoded content) : Spells .value (quoted content)
  | emptyArray : Spells .value [0x5B, 0x5D]
  | array (items : Text) (spelled : Spells .items items) : Spells .value (0x5B :: (items ++ [0x5D]))
  | emptyObject : Spells .value [0x7B, 0x7D]
  | object (members : Text) (spelled : Spells (.members []) members) : Spells .value (0x7B :: (members ++ [0x7D]))
  | lastItem (item : Text) (spelled : Spells .value item) : Spells .items item
  | moreItems (item rest : Text) (spelled : Spells .value item) (others : Spells .items rest) :
      Spells .items (item ++ 0x2C :: rest)
  | lastMember (seen : List Text) (key item : Text) (allowed : Content encoded key) (fresh : key ∉ seen)
      (spelled : Spells .value item) : Spells (.members seen) (quoted key ++ 0x3A :: item)
  | moreMembers (seen : List Text) (key item rest : Text) (allowed : Content encoded key) (fresh : key ∉ seen)
      (spelled : Spells .value item) (others : Spells (.members (key :: seen)) rest) :
      Spells (.members seen) (quoted key ++ 0x3A :: (item ++ 0x2C :: rest))

abbrev Member := Text × Text

def memberText (member : Member) : Text := quoted member.1 ++ 0x3A :: member.2

def membersText : List Member → Text
  | [] => []
  | [member] => memberText member
  | member :: next :: rest => memberText member ++ 0x2C :: membersText (next :: rest)

def objectText (members : List Member) : Text := 0x7B :: (membersText members ++ [0x7D])

-- An object in the writer's form: distinct keys and well-formed values.
structure Object (members : List Member) : Prop where
  keys : ∀ member ∈ members, Content encoded member.1
  distinct : (members.map Prod.fst).Nodup
  values : ∀ member ∈ members, Spells encoded .value member.2

end Grammar

end WriterJson
