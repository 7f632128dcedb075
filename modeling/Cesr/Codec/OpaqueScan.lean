import Cesr.Codec.Scanner
import Cesr.Lib.CompactJson
import Cesr.Lib.JsonString

set_option autoImplicit false

namespace Cesr.Codec

open Checks WriterJson

structure Cursor where
  pos : Nat
  left : Bytes
deriving DecidableEq, Repr

def Cursor.skip (c : Cursor) (count : Nat) : Cursor := ⟨c.pos + count, c.left.drop count⟩

def Cursor.bump (c : Cursor) : Cursor := c.skip 1

def Cursor.upTo (c : Cursor) (stop : Nat) : Bytes := c.left.take (stop - c.pos)

namespace OpaqueScan

inductive ScanState where
  | firstKey
  | nextKey
  | value
  | firstValue
  | afterValue
deriving DecidableEq, Repr

def toDigit (byte : UInt8) : Option Nat :=
  if 0x30 ≤ byte ∧ byte ≤ 0x39 then some (byte.toNat - 0x30)
  else if 0x61 ≤ byte ∧ byte ≤ 0x66 then some (byte.toNat - 0x61 + 10)
  else if 0x41 ≤ byte ∧ byte ≤ 0x46 then some (byte.toNat - 0x41 + 10)
  else none

def scanHex : Nat → Cursor → Nat → Except OpaqueScanError (Cursor × Nat)
  | 0, c, unit => .ok (c, unit)
  | count + 1, c, unit =>
      match c.left with
      | [] => .error .truncated
      | byte :: _ =>
          match toDigit byte with
          | none => .error (.invalidEscape c.pos)
          | some digit => scanHex count c.bump ((unit <<< 4) ||| digit)

def scanHex4 (start : Cursor) : Except OpaqueScanError (Cursor × Nat) := scanHex 4 start 0

def highSurrogates (unit : Nat) : Bool := decide (0xD800 ≤ unit ∧ unit ≤ 0xDBFF)

def lowSurrogates (unit : Nat) : Bool := decide (0xDC00 ≤ unit ∧ unit ≤ 0xDFFF)

def scanUnicodeEscape (uAt : Cursor) : Except OpaqueScanError Cursor := do
  let first ← scanHex4 uAt.bump
  if lowSurrogates first.2 then .error (.invalidEscape uAt.pos)
  else if ¬ highSurrogates first.2 then .ok first.1
  else if first.1.left.head? ≠ some backslash then .error (.invalidEscape first.1.pos)
  else
    let lowUAt := first.1.bump
    if lowUAt.left.head? ≠ some 0x75 then .error (.invalidEscape lowUAt.pos)
    else
      let second ← scanHex4 lowUAt.bump
      if lowSurrogates second.2 then .ok second.1 else .error (.invalidEscape lowUAt.pos)

def marks : Bytes := [quote, backslash, 0x2F, 0x62, 0x66, 0x6E, 0x72, 0x74]

-- The closing quote; every turn takes a byte, so what is left bounds the turns.
def stringEnd : Nat → Cursor → Except OpaqueScanError Cursor
  | 0, _ => .error .truncated
  | fuel + 1, c =>
      match c.left with
      | [] => .error .truncated
      | byte :: behind =>
          if byte = quote then .ok c
          else if byte = backslash then
            match behind with
            | [] => .error .truncated
            | esc :: _ =>
                if esc ∈ marks then stringEnd fuel (c.skip 2)
                else if esc = 0x75 then do
                  let after ← scanUnicodeEscape c.bump
                  stringEnd fuel after
                else .error (.invalidEscape c.bump.pos)
          else if byte < 0x20 then .error (.controlCharacter c.pos)
          else stringEnd fuel c.bump

def scanString (start : Cursor) : Except OpaqueScanError Cursor := do
  let stop ← stringEnd (start.left.length + 1) start.bump
  let content := start.bump.upTo stop.pos
  match fromUtf8 content with
  | some _ => .ok stop.bump
  | none => .error (.unexpectedByte (start.bump.pos + validUpTo content))

-- A char is a code point that is no surrogate.
def charFromU32 (point : Nat) : Option Char := if Nat.isValidChar point then some (Char.ofNat point) else none

def decodeUnit (escAt : Cursor) : Except OpaqueScanError (Char × Cursor) := do
  let first ← scanHex4 escAt.bump
  let found ←
    if highSurrogates first.2 then do
      let second ← scanHex4 (first.1.skip 2)
      if ¬ lowSurrogates second.2 then .error (.invalidEscape escAt.pos)
      else .ok (0x10000 + ((first.2 - 0xD800) <<< 10) + (second.2 - 0xDC00), second.1)
    else .ok (first.2, first.1)
  match charFromU32 found.1 with
  | some scalar => .ok (scalar, found.2)
  | none => .error (.invalidEscape escAt.pos)

def decodeMark (escAt : Cursor) : Except OpaqueScanError (Char × Cursor) :=
  match escAt.left with
  | [] => .error .truncated
  | esc :: _ =>
      if esc = quote then .ok ('"', escAt.bump)
      else if esc = backslash then .ok ('\\', escAt.bump)
      else if esc = 0x2F then .ok ('/', escAt.bump)
      else if esc = 0x62 then .ok (Char.ofNat 0x08, escAt.bump)
      else if esc = 0x66 then .ok (Char.ofNat 0x0C, escAt.bump)
      else if esc = 0x6E then .ok ('\n', escAt.bump)
      else if esc = 0x72 then .ok ('\r', escAt.bump)
      else if esc = 0x74 then .ok ('\t', escAt.bump)
      else if esc = 0x75 then decodeUnit escAt
      else .error (.invalidEscape escAt.pos)

def chunkText (chunkStart : Cursor) (stop : Nat) : Except OpaqueScanError String :=
  match fromUtf8 (chunkStart.upTo stop) with
  | some text => .ok text
  | none => .error (.unexpectedByte chunkStart.pos)

def decodeChunks (contentEnd : Nat) : Nat → Cursor → Cursor → String → Except OpaqueScanError String
  | 0, _, _, _ => .error .truncated
  | fuel + 1, chunkStart, c, result =>
      if c.pos < contentEnd then
        if c.left.head? ≠ some backslash then decodeChunks contentEnd fuel chunkStart c.bump result
        else do
          let chunk ← chunkText chunkStart c.pos
          let found ← decodeMark c.bump
          decodeChunks contentEnd fuel found.2 found.2 (result ++ chunk ++ String.singleton found.1)
      else do
        let chunk ← chunkText chunkStart contentEnd
        .ok (result ++ chunk)

def decodeKey (start after : Cursor) : Except OpaqueScanError String :=
  decodeChunks (after.pos - 1) (after.pos - start.pos) start.bump start.bump ""

def digits (c : Cursor) : Cursor := c.skip (c.left.takeWhile isDigit).length

def atDigit (c : Cursor) : Bool := c.left.head?.any isDigit

def someDigits (c : Cursor) : Except OpaqueScanError Cursor :=
  if atDigit c then .ok (digits c) else .error (.unexpectedByte c.pos)

def numberSign (c : Cursor) : Cursor := if c.left.head? = some 0x2D then c.bump else c

def numberWhole (c : Cursor) : Except OpaqueScanError Cursor :=
  if c.left.head? = some 0x30 then .ok c.bump else someDigits c

def numberFraction (c : Cursor) : Except OpaqueScanError Cursor :=
  if c.left.head? = some 0x2E then someDigits c.bump else .ok c

def numberExponent (c : Cursor) : Except OpaqueScanError Cursor :=
  if c.left.head? = some 0x65 ∨ c.left.head? = some 0x45 then
    if c.bump.left.head? = some 0x2B ∨ c.bump.left.head? = some 0x2D then someDigits c.bump.bump else someDigits c.bump
  else .ok c

def scanNumber (start : Cursor) : Except OpaqueScanError Cursor := do
  let whole ← numberWhole (numberSign start)
  let fraction ← numberFraction whole
  numberExponent fraction

def scanLit (c : Cursor) (lit : String) : Except OpaqueScanError Cursor :=
  if c.left.length < (asBytes lit).length then .error .truncated
  else if asBytes lit <+: c.left then .ok (c.skip (asBytes lit).length)
  else .error (.unexpectedByte c.pos)

-- A turn of the scan: where it goes on, unless the last container is closed.
structure Turned where
  next : Option (ScanState × List Scanner.Container)
  cursor : Cursor
  budget : JsonBudget

def closed (outer : List Scanner.Container) (c : Cursor) (budget : JsonBudget) : Turned :=
  match outer with
  | [] => ⟨none, c.bump, budget.leave⟩
  | _ => ⟨some (.afterValue, outer), c.bump, budget.leave⟩

def scanMemberKey (c : Cursor) (containers : List Scanner.Container) (budget : JsonBudget) : Except OpaqueScanError Turned :=
  match budget.field with
  | .error limit => .error (.fieldLimit c.pos limit)
  | .ok charged => do
      let afterKey ← scanString c
      let key ← decodeKey c afterKey
      match containers with
      | [] => .error .truncated
      | (kind, seen) :: outer =>
          if key ∈ seen then .error (.duplicateKey c.pos)
          else if afterKey.left.head? ≠ some 0x3A then .error (.unexpectedByte afterKey.pos)
          else .ok ⟨some (.value, (kind, key :: seen) :: outer), afterKey.bump, charged⟩

def scanScalar (byte : UInt8) (c : Cursor) : Except OpaqueScanError Cursor :=
  if byte = quote then scanString c
  else if byte = 0x2D ∨ isDigit byte = true then scanNumber c
  else if byte = 0x74 then scanLit c "true"
  else if byte = 0x66 then scanLit c "false"
  else if byte = 0x6E then scanLit c "null"
  else .error (.unexpectedByte c.pos)

def scanValueStart (c : Cursor) (containers : List Scanner.Container) (budget : JsonBudget) : Except OpaqueScanError Turned :=
  match c.left with
  | [] => .error .truncated
  | byte :: _ =>
      if byte = 0x7B then
        match budget.enter with
        | .error limit => .error (.depthLimit c.pos limit)
        | .ok entered => .ok ⟨some (.firstKey, (true, []) :: containers), c.bump, entered⟩
      else if byte = 0x5B then
        match budget.enter with
        | .error limit => .error (.depthLimit c.pos limit)
        | .ok entered => .ok ⟨some (.firstValue, (false, []) :: containers), c.bump, entered⟩
      else do
        let after ← scanScalar byte c
        .ok ⟨some (.afterValue, containers), after, budget⟩

def turn (state : ScanState) (containers : List Scanner.Container) (c : Cursor) (budget : JsonBudget) : Except OpaqueScanError Turned :=
  match c.left with
  | [] => .error .truncated
  | byte :: _ =>
      match state with
      | .firstKey =>
          if byte = 0x7D then .ok (closed containers.tail c budget)
          else if byte = quote then scanMemberKey c containers budget
          else .error (.unexpectedByte c.pos)
      | .nextKey => if byte = quote then scanMemberKey c containers budget else .error (.unexpectedByte c.pos)
      | .value => scanValueStart c containers budget
      | .firstValue =>
          if byte = 0x5D then .ok (closed containers.tail c budget) else .ok ⟨some (.value, containers), c, budget⟩
      | .afterValue =>
          match containers with
          | [] => .error .truncated
          | (inObject, _) :: outer =>
              if byte = 0x2C then .ok ⟨some (if inObject then .nextKey else .value, containers), c.bump, budget⟩
              else if (byte = 0x7D ∧ inObject) ∨ (byte = 0x5D ∧ ¬ inObject) then .ok (closed outer c budget)
              else .error (.unexpectedByte c.pos)

-- Two turns for a byte are enough, so the scan never runs out of them.
def turns : Nat → ScanState → List Scanner.Container → Cursor → JsonBudget → Except OpaqueScanError (Nat × JsonBudget)
  | 0, _, _, _, _ => .error .truncated
  | fuel + 1, state, containers, c, budget => do
      let turned ← turn state containers c budget
      match turned.next with
      | none => .ok (turned.cursor.pos, turned.budget)
      | some both => turns fuel both.1 both.2 turned.cursor turned.budget

def objectLen (input : Bytes) (budget : JsonBudget) : Except OpaqueScanError (Nat × JsonBudget) :=
  if input.head? ≠ some 0x7B then .error .notAnObject
  else
    match budget.enter with
    | .error limit => .error (.depthLimit 0 limit)
    | .ok entered => turns (2 * input.length + 2) .firstKey [(true, [])] ⟨1, input.tail⟩ entered

end OpaqueScan

example : OpaqueScan.objectLen (asBytes "\x7b\"a\":[1,\x7b\x7d],\"\\u0062\":\"\\ud83d\\ude00\"\x7d,") .unlimited =
    .ok (36, ⟨none, none, 2, 0⟩) := by decide

end Cesr.Codec
