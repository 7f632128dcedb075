import Cesr.Core.Version
import Cesr.Events.Acdc
import Cesr.Events.Event
import Cesr.Lib.WriterJson

set_option autoImplicit false

namespace Cesr.Codec

open Checks WriterJson

inductive OpaqueScanError where
  | fieldLimit (offset limit : Nat)
  | depthLimit (offset limit : Nat)
  | notAnObject
  | unexpectedByte (offset : Nat)
  | truncated
  | controlCharacter (offset : Nat)
  | invalidEscape (offset : Nat)
  | duplicateKey (offset : Nat)
deriving DecidableEq, Repr

inductive DeserializeError where
  | jsonFieldLimit (offset limit : Nat)
  | jsonDepthLimit (offset limit : Nat)
  | memberSet (error : MemberSetError)
  | inceptionIdentity (error : InceptionIdentityError)
  | delegatedPrefixNotDigestive
  | unknownMessageType (found : String)
  | telSequenceDomain (ilk : String) (sn : U128)
  | backerThresholdOutOfRange (field : String) (error : ToadError)
  | registryIdentifierMismatch
  | receiptNotKeyEvent
  | missingField (field : String)
  | invalidPrimitive (field : String) (error : ValidationError)
  | unparseablePrimitive (field : String) (error : ParsingError)
  | invalidAnchor (offset : Nat) (error : OpaqueScanError)
  | nonCanonical (offset : Nat) (expected : String) (found : Option UInt8)
  | thresholdOutOfRange (field : String) (error : SigningThresholdError)
deriving DecidableEq, Repr

inductive VersionGrammarError where
  | version (error : VersionError)
  | invalidVersionString (reason : String)
  | unsupportedSerializationKind (kind : SerializationKind)
  | unsupportedProtocolVersion (protocol : Protocol) (major minor : Nat)
  | unsupportedCesrVersion (version : CesrVersion)
deriving DecidableEq, Repr

inductive SaidError where
  | saidMismatch (expected computed : Option String)
  | digest (error : Failure MatterBuildError)
  | missingDigestiveField (label : String)
  | invalidSlotWidth (label : String) (expected found : Nat)
deriving DecidableEq, Repr

inductive BuilderError where
  | acdcAlternateAttributes
  | memberSet (error : MemberSetError)
  | delegatedPrefixNotDigestive
  | toad (error : ToadError)
  | emptyKeys (field : String)
  | duplicatePrefixes (field : String)
  | cutNotPriorWitness
  | addAlreadyWitness
  | nonEventBackerAnchor
  | witnessCountOverflow
  | snBelowMinimum (ilk : String)
  | signingThresholdOutOfRange (field : String) (error : SigningThresholdError)
  | majorityOverflow (keys : Nat)
  | placeholderPrimitive (error : MatterBuildError)
  | mixedThresholdForms (field : String)
  | integerFormOverflow (value : U64)
deriving DecidableEq, Repr

inductive InternalError where
  | eventLayout (reason : String)
  | placeholderPrimitive (error : ValidationError)
deriving DecidableEq, Repr

inductive CodecError where
  | version (error : VersionGrammarError)
  | said (error : SaidError)
  | deserialize (error : DeserializeError)
  | builder (error : BuilderError)
  | internal (error : InternalError)
deriving DecidableEq, Repr

-- A limit of usize::MAX is no limit.
structure JsonBudget where
  maxFields : Option Nat
  maxDepth : Option Nat
  fields : Nat
  depth : Nat
deriving DecidableEq, Repr

namespace JsonBudget

def unlimited : JsonBudget := ⟨none, none, 0, 0⟩

def ofLimits (limits : JsonLimits) : JsonBudget := ⟨some limits.maxFields, some limits.maxDepth, 0, 0⟩

-- The charges of a member and of a container; what is refused is the limit.
def field (budget : JsonBudget) : Except Nat JsonBudget :=
  match budget.maxFields with
  | some limit => if limit ≤ budget.fields then .error limit else .ok { budget with fields := budget.fields + 1 }
  | none => .ok { budget with fields := budget.fields + 1 }

def enter (budget : JsonBudget) : Except Nat JsonBudget :=
  match budget.maxDepth with
  | some limit => if limit ≤ budget.depth then .error limit else .ok { budget with depth := budget.depth + 1 }
  | none => .ok { budget with depth := budget.depth + 1 }

def leave (budget : JsonBudget) : JsonBudget := { budget with depth := budget.depth - 1 }

end JsonBudget

structure Spanned where
  value : String
  start : Nat
  stop : Nat
deriving DecidableEq, Repr

structure Scanner where
  input : Bytes
  pos : Nat
  budget : JsonBudget
deriving DecidableEq, Repr

-- The text of the first failure is not kept, so a failed scan leaves no state.
abbrev Scan (α : Type) := StateT Scanner (Except CodecError) α

def refuse {α : Type} (error : DeserializeError) : Except CodecError α := .error (.deserialize error)

def check {α : Type} (result : Except CodecError α) : Scan α := fun sc => result.map fun value => (value, sc)

def reject {α : Type} (error : DeserializeError) : Scan α := fun _ => refuse error

-- How far a text is UTF-8: the longest part in front that is one.
def validUpTo (bytes : Bytes) : Nat :=
  ((List.range (bytes.length + 1)).reverse.find? fun count => (fromUtf8 (bytes.take count)).isSome).getD 0

namespace Scanner

def new (input : Bytes) : Scanner := ⟨input, 0, .unlimited⟩

def withBudget (input : Bytes) (budget : JsonBudget) : Scanner := ⟨input, 0, budget⟩

def errAt (sc : Scanner) (offset : Nat) (expected : String) : DeserializeError :=
  .nonCanonical offset expected sc.input[offset]?

def err (sc : Scanner) (expected : String) : DeserializeError := sc.errAt sc.pos expected

def peek (sc : Scanner) : Option UInt8 := sc.input[sc.pos]?

def left (sc : Scanner) : Bytes := sc.input.drop sc.pos

def slice (sc : Scanner) (start stop : Nat) : Bytes := (sc.input.take stop).drop start

def moved (sc : Scanner) (pos : Nat) : Scanner := { sc with pos := pos }

def chargeByte (sc : Scanner) (offset : Nat) (byte : UInt8) (next : Option UInt8) (budget : JsonBudget) :
    Except DeserializeError JsonBudget :=
  if byte = 0x7B ∨ byte = 0x5B then budget.enter.mapError (.jsonDepthLimit offset)
  else if byte = 0x7D ∨ byte = 0x5D then
    if budget.depth = 0 then .error (sc.errAt offset "balanced JSON container") else .ok budget.leave
  else if byte = quote ∧ next = some 0x3A then budget.field.mapError (.jsonFieldLimit offset)
  else .ok budget

def chargeLiteral (sc : Scanner) (offset : Nat) : Bytes → JsonBudget → Except DeserializeError JsonBudget
  | [], budget => .ok budget
  | byte :: rest, budget => do
      let charged ← sc.chargeByte offset byte rest.head? budget
      chargeLiteral sc (offset + 1) rest charged

-- The literals are part of the grammar, and a mismatch charges nothing.
def takeLit (lit : String) : Scan Bool := fun sc =>
  if asBytes lit <+: sc.left then do
    let budget ← (sc.chargeLiteral sc.pos (asBytes lit) sc.budget).mapError .deserialize
    pure (true, { sc with pos := sc.pos + (asBytes lit).length, budget := budget })
  else pure (false, sc)

def expect (lit : String) : Scan Unit := do
  let taken ← takeLit lit
  let sc ← get
  if taken then pure () else reject (sc.err lit)

def finish : Scan Unit := do
  let sc ← get
  if sc.pos = sc.input.length then pure () else reject (sc.err "end of input")

def readUtf8 (sc : Scanner) (start stop : Nat) (expected : String) : Except CodecError String :=
  match fromUtf8 (sc.slice start stop) with
  | some text => .ok text
  | none => refuse (sc.errAt (start + validUpTo (sc.slice start stop)) expected)

-- The position of the closing quote; the rest of the input drives the recursion.
def stringEnd (sc : Scanner) (pos : Nat) : Bytes → Except CodecError Nat
  | [] => refuse (sc.errAt pos "closing '\"'")
  | byte :: rest =>
      if byte = quote then .ok pos
      else if byte = backslash then
        refuse (sc.errAt pos "unescaped string byte (canonical values never require escaping)")
      else if byte < 0x20 then refuse (sc.errAt pos "unescaped string byte (no control characters)")
      else stringEnd sc (pos + 1) rest

-- A string between two quotes, whose end the given walk finds.
def between (findEnd : Scanner → Nat → Bytes → Except CodecError Nat) (expected : String) : Scan Spanned := do
  expect "\""
  let sc ← get
  let stop ← check (findEnd sc sc.pos sc.left)
  let value ← check (sc.readUtf8 sc.pos stop expected)
  set (sc.moved stop)
  expect "\""
  pure ⟨value, sc.pos, stop⟩

def string : Scan Spanned := between stringEnd "UTF-8 string value"

def hexValue (byte : UInt8) : Option UInt8 :=
  if 0x30 ≤ byte ∧ byte ≤ 0x39 then some (byte - 0x30)
  else if 0x61 ≤ byte ∧ byte ≤ 0x66 then some (byte - 0x61 + 10)
  else none

def hexDigitAt (sc : Scanner) (pos : Nat) (byte : Option UInt8) : Except CodecError UInt8 :=
  match byte.bind hexValue with
  | some value => .ok value
  | none => refuse (sc.errAt pos "lowercase JSON hex digit")

def shortEscapes : Bytes := [quote, backslash, 0x62, 0x66, 0x6E, 0x72, 0x74]

def longForms : Bytes := [0x08, 0x09, 0x0A, 0x0C, 0x0D]

-- Behind the mark of a long escape stand two zeros and the two digits of a
-- control character that has no short escape.
def checkControl (sc : Scanner) (pos : Nat) (behind : Bytes) : Except CodecError Unit := do
  if ¬ [0x30, 0x30] <+: behind then refuse (sc.errAt pos "00")
  let high ← sc.hexDigitAt (pos + 2) behind[2]?
  let low ← sc.hexDigitAt (pos + 3) behind[3]?
  let control := high * 16 + low
  if 0x20 ≤ control ∨ control ∈ longForms then refuse (sc.errAt pos "writer-form JSON control escape")

def jsonStringEnd (sc : Scanner) (pos : Nat) : Bytes → Except CodecError Nat
  | [] => refuse (sc.errAt pos "closing '\"'")
  | byte :: rest =>
      if byte = quote then .ok pos
      else if byte = backslash then
        match rest with
        | [] => refuse (sc.errAt (pos + 1) "writer-form JSON escape")
        | mark :: behind =>
            if mark ∈ shortEscapes then jsonStringEnd sc (pos + 2) behind
            else if mark = 0x75 then do
              checkControl sc (pos + 2) behind
              match behind with
              | _ :: _ :: _ :: _ :: more => jsonStringEnd sc (pos + 6) more
              | _ => refuse (sc.errAt (pos + 2) "00")
            else refuse (sc.errAt (pos + 1) "writer-form JSON escape")
      else if byte < 0x20 then refuse (sc.errAt pos "escaped JSON control")
      else jsonStringEnd sc (pos + 1) rest

-- The value is the encoded text between the quotes.
def jsonString : Scan Spanned := between jsonStringEnd "UTF-8 JSON string"

def atDigit (sc : Scanner) : Bool := sc.peek.any isDigit

def advance : Scan Unit := modify fun sc => sc.moved (sc.pos + 1)

def skipDigits : Scan Unit := modify fun sc => sc.moved (sc.pos + (sc.left.takeWhile isDigit).length)

def someDigits (expected : String) : Scan Unit := do
  let sc ← get
  if sc.atDigit then skipDigits else reject (sc.err expected)

def wholeDigits (zeros expected : String) : Scan Unit := do
  let sc ← get
  if sc.peek = some 0x30 then
    advance
    let sc ← get
    if sc.atDigit then reject (sc.err zeros) else pure ()
  else if sc.atDigit then skipDigits
  else reject (sc.err expected)

def textFrom (start : Nat) (expected : String) : Scan String := do
  let sc ← get
  check (sc.readUtf8 start sc.pos expected)

def numberFraction : Scan Unit := do
  let fraction ← takeLit "."
  if fraction then someDigits "fraction digit" else pure ()

def takeAny : List String → Scan Bool
  | [] => pure false
  | lit :: others => do
      let taken ← takeLit lit
      if taken then pure true else takeAny others

def numberExponent : Scan Unit := do
  let exponent ← takeAny ["e", "E"]
  if exponent then
    let _ ← takeAny ["+", "-"]
    someDigits "exponent digit"
  else pure ()

def numberSign : Scan Unit := do
  let negative ← takeLit "-"
  let sc ← get
  if negative ∧ sc.peek = none then reject (sc.err "JSON number digit") else pure ()

def jsonNumber : Scan String := do
  let start := (← get).pos
  numberSign
  wholeDigits "no leading zero in JSON number" "JSON number digit"
  numberFraction
  numberExponent
  textFrom start "ASCII JSON number"

def integer : Scan String := do
  let start := (← get).pos
  wholeDigits "no leading zeros in canonical integer" "digit"
  textFrom start "ASCII integer"

inductive ValueScanState where
  | firstMember
  | nextMember
  | value
  | firstItem
  | afterValue
deriving DecidableEq, Repr

-- An open container: whether it is an object, and the keys seen in it.
abbrev Container := Bool × List String

abbrev Walked := Option (ValueScanState × List Container)

def popContainer (containers : List Container) : Walked :=
  match containers.tail with
  | [] => none
  | outer => some (.afterValue, outer)

def jsonKey (containers : List Container) : Scan (List Container) := do
  let sc ← get
  match sc.budget.field with
  | .error limit => reject (.jsonFieldLimit sc.pos limit)
  | .ok budget =>
      set { sc with budget := budget }
      let key ← jsonString
      match containers with
      | [] => throw (.internal (.eventLayout "JSON object key without container"))
      | (kind, seen) :: outer =>
          if key.value ∈ seen then reject (sc.errAt key.start "unique JSON key")
          else pure ((kind, key.value :: seen) :: outer)

def member (containers : List Container) : Scan Walked := do
  let named ← jsonKey containers
  expect ":"
  pure (some (.value, named))

def canonicalValueStart (containers : List Container) : Scan Walked := do
  let sc ← get
  if sc.peek = some quote then
    let _ ← jsonString
    pure (some (.afterValue, containers))
  else if sc.peek = some 0x2D ∨ sc.atDigit then
    let _ ← jsonNumber
    pure (some (.afterValue, containers))
  else if sc.peek = some 0x7B then
    expect "\x7b"
    pure (some (.firstMember, (true, []) :: containers))
  else if sc.peek = some 0x5B then
    expect "["
    pure (some (.firstItem, (false, []) :: containers))
  else
    let word ← takeAny ["true", "false", "null"]
    if word then pure (some (.afterValue, containers))
    else reject (sc.err "a canonical JSON value")

def afterValueTurn (containers : List Container) : Scan Walked := do
  let sc ← get
  match containers with
  | [] => pure none
  | (isObject, _) :: _ =>
      if sc.peek = some 0x2C then
        expect ","
        pure (some (if isObject then .nextMember else .value, containers))
      else if sc.peek = some 0x7D ∧ isObject then
        expect "\x7d"
        pure (popContainer containers)
      else if sc.peek = some 0x5D ∧ ¬ isObject then
        expect "]"
        pure (popContainer containers)
      else reject (sc.err "',' or the container's closer")

def canonicalTurn (state : ValueScanState) (containers : List Container) : Scan Walked := do
  let sc ← get
  match state with
  | .value => canonicalValueStart containers
  | .firstMember =>
      if sc.peek = some 0x7D then
        expect "\x7d"
        pure (popContainer containers)
      else if sc.peek = some quote then member containers
      else reject (sc.err "key string")
  | .nextMember => if sc.peek = some quote then member containers else reject (sc.err "key string")
  | .firstItem =>
      if sc.peek = some 0x5D then
        expect "]"
        pure (popContainer containers)
      else pure (some (.value, containers))
  | .afterValue => afterValueTurn containers

-- Two turns for a byte are enough, so the walk never runs out of them.
def canonicalTurns : Nat → ValueScanState → List Container → Scan Unit
  | 0, _, _ => throw (.internal (.eventLayout "container stack underflow"))
  | fuel + 1, state, containers => do
      match ← canonicalTurn state containers with
      | none => pure ()
      | some next => canonicalTurns fuel next.1 next.2

-- The scratch stack of the caller is empty at every call.
def canonicalValue : Scan Unit := do
  let sc ← get
  canonicalTurns (2 * sc.left.length + 2) .value []

def valueSpan : Scan Bytes := do
  let start := (← get).pos
  canonicalValue
  let sc ← get
  pure (sc.slice start sc.pos)

def objectValueSpan : Scan Bytes := do
  let sc ← get
  if sc.peek = some 0x7B then valueSpan else reject (sc.err "JSON object")

-- The items behind the first one, as many as the input can hold.
def moreItems {α : Type} (item : Scan α) : Nat → Scan (List α)
  | 0 => do
      let sc ← get
      reject (sc.err ",")
  | fuel + 1 => do
      if ← takeLit "]" then pure []
      else
        expect ","
        let value ← item
        let rest ← moreItems item fuel
        pure (value :: rest)

def tailList {α : Type} (item : Scan α) : Scan (List α) := do
  let first ← item
  let rest ← moreItems item ((← get).left.length + 1)
  pure (first :: rest)

def delimitedList {α : Type} (item : Scan α) : Scan (List α) := do
  expect "["
  if ← takeLit "]" then pure [] else tailList item

def stringArray : Scan (List String) := delimitedList do
  let text ← string
  pure text.value

end Scanner

example : (Scanner.canonicalValue (Scanner.new (asBytes "\x7b\"a\":[1,\x7b\x7d],\"b\":\"x\\u0001\"\x7d,"))).map (fun done => done.2.pos) =
    .ok 26 := by decide +kernel

end Cesr.Codec
