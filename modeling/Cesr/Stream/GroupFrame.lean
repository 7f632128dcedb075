import Cesr.Stream.GroupKind
import Cesr.Lib.Resume

set_option autoImplicit false

namespace Cesr.Stream

open Checks Calls Resume

def saturatingAdd (left right : Nat) : Nat := min (left + right) usizeMax

structure NestedSigCursor where
  pos : Nat
  initialMatters : Nat
  mattersLeft : Nat
  sigsLeft : Option Nat
  declaredSigs : Option Nat
  outerV1 : String
  outerV2 : String
deriving DecidableEq, Repr

def NestedSigCursor.new (matters : Nat) (outerV1 outerV2 : String) : NestedSigCursor where
  pos := 0
  initialMatters := matters
  mattersLeft := matters
  sigsLeft := none
  declaredSigs := none
  outerV1 := outerV1
  outerV2 := outerV2

def NestedSigCursor.reset (cursor : NestedSigCursor) : NestedSigCursor :=
  { cursor with pos := 0, mattersLeft := cursor.initialMatters, sigsLeft := none, declaredSigs := none }

def NestedSigCursor.tookMatter (size : Nat) (cursor : NestedSigCursor) : NestedSigCursor :=
  { cursor with pos := cursor.pos + size, mattersLeft := cursor.mattersLeft - 1 }

def NestedSigCursor.tookCounter (read : U32 × Nat) (cursor : NestedSigCursor) : NestedSigCursor :=
  { cursor with pos := cursor.pos + read.2, sigsLeft := some read.1.val, declaredSigs := some read.1.val }

def NestedSigCursor.tookSignature (size : Nat) (cursor : NestedSigCursor) : NestedSigCursor :=
  { cursor with pos := cursor.pos + size, sigsLeft := cursor.sigsLeft.map (· - 1) }

def NestedSigCursor.readCount (cursor : NestedSigCursor) (version : CesrVersion) (tail : Bytes) :
    Except ParseError (U32 × Nat) :=
  match version with
  | .v1 => do
      let read ← readCounterV1 tail
      rejectIf (read.1 ≠ .controllerIdxSigs) (.nestedCounterMismatch cursor.outerV1 "-A" read.1.asStr)
      pure (read.2, read.1.fullSize)
  | .v2 => do
      let read ← readCounterV2 tail
      rejectIf (read.1 ≠ .controllerIdxSigs) (.nestedCounterMismatch cursor.outerV2 "-K" read.1.asStr)
      pure (read.2, read.1.fullSize)

def NestedSigCursor.readBounded (version : CesrVersion) (maxGroupElements maxSignatures : Nat)
    (cursor : NestedSigCursor) (tail : Bytes) : Except ParseError (U32 × Nat) := do
  let read ← cursor.readCount version tail
  rejectIf (maxGroupElements < read.1.val) (.limitExceeded .groupElements maxGroupElements read.1.val)
  rejectIf (maxSignatures < read.1.val) (.limitExceeded .signatures maxSignatures read.1.val)
  pure read

def NestedSigCursor.takeMatter (input : Bytes) : Mutator NestedSigCursor ParseError Unit :=
  readAt NestedSigCursor.pos .needBytes (fun _ => skipMatter) NestedSigCursor.tookMatter input

def NestedSigCursor.takeCounter (version : CesrVersion) (maxGroupElements maxSignatures : Nat) (input : Bytes) :
    Mutator NestedSigCursor ParseError Unit := do
  let cursor ← get
  if cursor.sigsLeft = none then
    readAt NestedSigCursor.pos .needBytes (NestedSigCursor.readBounded version maxGroupElements maxSignatures)
      NestedSigCursor.tookCounter input
  else pure ()

def NestedSigCursor.takeSignature (input : Bytes) : Mutator NestedSigCursor ParseError Unit :=
  readAt NestedSigCursor.pos .needBytes (fun _ => skipIndexer) NestedSigCursor.tookSignature input

def NestedSigCursor.signaturesLeft (cursor : NestedSigCursor) : Nat := cursor.sigsLeft.getD 0

def NestedSigCursor.advanceBounded (version : CesrVersion) (maxGroupElements maxSignatures : Nat) (input : Bytes) :
    Mutator NestedSigCursor ParseError Nat := do
  whileLeft NestedSigCursor.mattersLeft (NestedSigCursor.takeMatter input)
  NestedSigCursor.takeCounter version maxGroupElements maxSignatures input
  whileLeft NestedSigCursor.signaturesLeft (NestedSigCursor.takeSignature input)
  let cursor ← get
  pure cursor.pos

def NestedSigCursor.advance (version : CesrVersion) (input : Bytes) : Mutator NestedSigCursor ParseError Nat :=
  NestedSigCursor.advanceBounded version usizeMax usizeMax input

def GroupKind.skip (kind : GroupKind) (input : Bytes) (version : CesrVersion) : Except ParseError Nat :=
  match kind.nestedSigGrammar with
  | some grammar =>
      outcome (NestedSigCursor.advance version input) (NestedSigCursor.new grammar.1 grammar.2.1 grammar.2.2)
  | none => do
      let matters ← skipMatters kind.skipped.1 input
      let indexers ← skipIndexers kind.skipped.2 (input.drop matters)
      pure (matters + indexers)

-- The head of a group: what its counter code heads, the size of the counter and the count.
def readShape (version : CesrVersion) (input : Bytes) : Except ParseError (GroupShape × Nat × U32) :=
  match version with
  | .v1 => do
      let read ← readCounterV1 input
      pure (shapeV1 read.1, read.1.fullSize, read.2)
  | .v2 => do
      let read ← readCounterV2 input
      pure (shapeV2 read.1, read.1.fullSize, read.2)

-- The framing groups whose payload is scanned: their payload is a stream of its own.
def FrameKind.enclosing : FrameKind → Bool
  | .generic | .bodyWithAttachment | .attachment => true
  | _ => false

structure GroupFrameCursor where
  endOffset : Nat
  count : U32
  remaining : Nat
  skip : Option GroupKind
  nested : Option NestedSigCursor
  nestedCounted : Bool
  signatureTotal : Nat
  version : CesrVersion
  attachmentEnvelope : Bool
  enclosing : Bool
  payloadStart : Option Nat
deriving DecidableEq, Repr

def GroupFrameCursor.elements (kind : GroupKind) (start : Nat) (count : U32) (version : CesrVersion) :
    GroupFrameCursor where
  endOffset := start
  count := count
  remaining := count.val
  skip := some kind
  nested := kind.nestedSigGrammar.map fun grammar => NestedSigCursor.new grammar.1 grammar.2.1 grammar.2.2
  nestedCounted := false
  signatureTotal := count.val * kind.signaturesPerElement
  version := version
  attachmentEnvelope := false
  enclosing := false
  payloadStart := none

def GroupFrameCursor.quadlets (start : Nat) (count : U32) (version : CesrVersion) : GroupFrameCursor where
  endOffset := start + count.val * 4
  count := count
  remaining := 0
  skip := none
  nested := none
  nestedCounted := false
  signatureTotal := 0
  version := version
  attachmentEnvelope := false
  enclosing := false
  payloadStart := some start

def GroupFrameCursor.ofShape (version : CesrVersion) (start : Nat) (count : U32) :
    GroupShape → Except ParseError GroupFrameCursor
  | .elements kind => .ok (GroupFrameCursor.elements kind start count version)
  | .quadlets kind => .ok { GroupFrameCursor.quadlets start count version with enclosing := kind.enclosing }
  | .genusVersion => .error .genusVersionNotAGroup

-- Only the V1 table marks an attachment group as the end of a message.
def GroupFrameCursor.newOf (version : CesrVersion) (input : Bytes) : Except ParseError GroupFrameCursor := do
  let head ← readShape version input
  let frame ← GroupFrameCursor.ofShape version head.2.1 head.2.2 head.1
  pure { frame with attachmentEnvelope := decide (version = .v1 ∧ head.1 = .quadlets .attachment) }

def GroupFrameCursor.newV1 (input : Bytes) : Except ParseError GroupFrameCursor := GroupFrameCursor.newOf .v1 input

def GroupFrameCursor.newV2 (input : Bytes) : Except ParseError GroupFrameCursor := GroupFrameCursor.newOf .v2 input

def GroupFrameCursor.elementCount (cursor : GroupFrameCursor) : Option U32 := cursor.skip.map fun _ => cursor.count

def GroupFrameCursor.enclosingPayload (cursor : GroupFrameCursor) (input : Bytes) : Except ParseError (Option Bytes) :=
  if cursor.enclosing then
    match cursor.payloadStart with
    | none => .error (.overflow .groupStart)
    | some start =>
        if start ≤ cursor.endOffset ∧ cursor.endOffset ≤ input.length then
          .ok (some ((input.take cursor.endOffset).drop start))
        else .error (.overflow .groupSpan)
  else .ok none

-- The scanner does not look past the budget, however many bytes have arrived.
def GroupFrameCursor.tail (cursor : GroupFrameCursor) (input : Bytes) (maxBytes : Nat) : Except ParseError Bytes := do
  rejectIf (min input.length maxBytes < cursor.endOffset) (.overflow .groupSpan)
  pure ((input.take maxBytes).drop cursor.endOffset)

-- The signatures a nested counter declares are counted once, as soon as they are known.
def GroupFrameCursor.keepNested (nested : NestedSigCursor) (cursor : GroupFrameCursor) : GroupFrameCursor :=
  match cursor.nestedCounted, nested.declaredSigs with
  | false, some declared =>
      { cursor with nested := some nested, signatureTotal := cursor.signatureTotal + declared, nestedCounted := true }
  | _, _ => { cursor with nested := some nested }

def GroupFrameCursor.skipElement (kind : GroupKind) (tail : Bytes) (maxGroupElements maxSignatures : Nat) :
    Mutator GroupFrameCursor ParseError Nat := do
  let cursor ← get
  match cursor.nested with
  | some nested =>
      onPart nested GroupFrameCursor.keepNested
        (NestedSigCursor.advanceBounded cursor.version maxGroupElements (maxSignatures - cursor.signatureTotal) tail)
  | none => check (kind.skip tail cursor.version)

-- A shortage that more bytes cannot cure within the budget.
def overBudget (maxBytes : Nat) (input : Bytes) : ParseError → ParseError
  | .needBytes missing =>
      if maxBytes ≤ input.length then
        .limitExceeded .attachmentBytes maxBytes (saturatingAdd input.length missing)
      else .needBytes missing
  | other => other

def GroupFrameCursor.passElement (size : Nat) (cursor : GroupFrameCursor) : GroupFrameCursor :=
  { cursor with endOffset := cursor.endOffset + size }

def GroupFrameCursor.nextElement (cursor : GroupFrameCursor) : GroupFrameCursor :=
  match cursor.nested with
  | some nested =>
      { cursor with remaining := cursor.remaining - 1, nested := some nested.reset, nestedCounted := false }
  | none => { cursor with remaining := cursor.remaining - 1 }

def GroupFrameCursor.checkBytes (cursor : GroupFrameCursor) (maxBytes : Nat) : Except ParseError Unit :=
  rejectIf (maxBytes < cursor.endOffset) (.limitExceeded .attachmentBytes maxBytes cursor.endOffset)

def GroupFrameCursor.turn (kind : GroupKind) (maxBytes maxGroupElements maxSignatures : Nat) (input : Bytes) :
    Mutator GroupFrameCursor ParseError Unit := do
  let cursor ← get
  let tail ← check (cursor.tail input maxBytes)
  let result ← attempt (GroupFrameCursor.skipElement kind tail maxGroupElements maxSignatures)
  let size ← check (result.mapError (overBudget maxBytes input))
  check (rejectIf (size = 0) (.overflow .elementSpan))
  modify (GroupFrameCursor.passElement size)
  let cursor ← get
  check (cursor.checkBytes maxBytes)
  modify GroupFrameCursor.nextElement

def GroupFrameCursor.skipElements (maxBytes maxGroupElements maxSignatures : Nat) (input : Bytes) :
    Mutator GroupFrameCursor ParseError Unit := do
  let cursor ← get
  match cursor.skip with
  | some kind =>
      whileLeft GroupFrameCursor.remaining (GroupFrameCursor.turn kind maxBytes maxGroupElements maxSignatures input)
  | none => pure ()

def GroupFrameCursor.checkBudget (cursor : GroupFrameCursor) (maxBytes maxSignatures : Nat) : Except ParseError Unit := do
  rejectIf (maxSignatures < cursor.signatureTotal) (.limitExceeded .signatures maxSignatures cursor.signatureTotal)
  cursor.checkBytes maxBytes

def GroupFrameCursor.complete (cursor : GroupFrameCursor) (input : Bytes) : Except ParseError Nat := do
  rejectIf (input.length < cursor.endOffset) (.needBytes (cursor.endOffset - input.length))
  pure cursor.endOffset

def GroupFrameCursor.advanceLimited (maxBytes maxGroupElements maxSignatures : Nat) (input : Bytes) :
    Mutator GroupFrameCursor ParseError Nat := do
  let cursor ← get
  check (cursor.checkBudget maxBytes maxSignatures)
  GroupFrameCursor.skipElements maxBytes maxGroupElements maxSignatures input
  let cursor ← get
  check (cursor.complete input)

-- No length reaches the largest usize, which stands for no limit; here the
-- budget is above the length of the input it is for.
def noLimit (input : Bytes) : Nat := usizeMax + input.length

def GroupFrameCursor.advance (input : Bytes) : Mutator GroupFrameCursor ParseError Nat :=
  GroupFrameCursor.advanceLimited (noLimit input) usizeMax usizeMax input

inductive CesrGroup where
  | group (kind : GroupKind) (raw : Bytes) (count : U32) (version : CesrVersion)
  | frame (kind : FrameKind) (payload : Bytes) (version : CesrVersion)
deriving DecidableEq, Repr

def GroupKind.skipAll (kind : GroupKind) (version : CesrVersion) : Nat → Bytes → Except ParseError Nat
  | 0, _ => .ok 0
  | count + 1, base => do
      let size ← kind.skip base version
      let others ← kind.skipAll version count (base.drop size)
      pure (size + others)

def parseKind (kind : GroupKind) (buf : Bytes) (start : Nat) (count : U32) (version : CesrVersion) :
    Except ParseError (CesrGroup × Bytes) := do
  rejectIf (buf.length < start) (.overflow .groupStart)
  let offset ← kind.skipAll version count.val (buf.drop start)
  pure (.group kind ((buf.drop start).take offset) count version, buf.drop (start + offset))

def parseQuadlets (kind : FrameKind) (buf : Bytes) (start : Nat) (count : U32) (version : CesrVersion) :
    Except ParseError (CesrGroup × Bytes) := do
  let totalBytes := count.val * 4
  rejectIf (buf.length < start) (.overflow .groupStart)
  rejectIf (buf.length - start < totalBytes) (.needBytes (totalBytes - (buf.length - start)))
  pure (.frame kind ((buf.drop start).take totalBytes) version, buf.drop (start + totalBytes))

def dispatch (buf : Bytes) (start : Nat) (count : U32) (version : CesrVersion) :
    GroupShape → Except ParseError (CesrGroup × Bytes)
  | .elements kind => parseKind kind buf start count version
  | .quadlets kind => parseQuadlets kind buf start count version
  | .genusVersion => .error .genusVersionNotAGroup

def CesrGroup.parseOf (version : CesrVersion) (buf : Bytes) : Except ParseError (CesrGroup × Bytes) := do
  let head ← readShape version buf
  dispatch buf head.2.1 head.2.2 version head.1

def CesrGroup.parseBytes (buf : Bytes) : Except ParseError (CesrGroup × Bytes) := CesrGroup.parseOf .v1 buf

def CesrGroup.parseBytesV2 (buf : Bytes) : Except ParseError (CesrGroup × Bytes) := CesrGroup.parseOf .v2 buf

-- The two commonest groups are built from the framed bytes; the others are parsed again.
def CesrGroup.parse (input : Bytes) : Except ParseError (CesrGroup × Bytes) := do
  let cursor ← GroupFrameCursor.newV1 input
  let len ← outcome (GroupFrameCursor.advance input) cursor
  let payload := (input.take len).drop cursor.endOffset
  if input.take 2 = asBytes "-A" then pure (.group .controllerIdxSig payload cursor.count .v1, input.drop len)
  else if input.take 2 = asBytes "-B" then pure (.group .witnessIdxSig payload cursor.count .v1, input.drop len)
  else do
    let parsed ← CesrGroup.parseBytes (input.take len)
    pure (parsed.1, input.drop len)

def CesrGroup.frameLenV2 (input : Bytes) : Except ParseError Nat := do
  let cursor ← GroupFrameCursor.newV2 input
  outcome (GroupFrameCursor.advance input) cursor

def CesrGroup.parseV2 (input : Bytes) : Except ParseError (CesrGroup × Bytes) := do
  let len ← CesrGroup.frameLenV2 input
  let parsed ← CesrGroup.parseBytesV2 (input.take len)
  pure (parsed.1, input.drop len)

def CesrGroup.parseFor : CesrVersion → Bytes → Except ParseError (CesrGroup × Bytes)
  | .v1 => CesrGroup.parse
  | .v2 => CesrGroup.parseV2

structure Groups where
  input : Bytes
  cursor : Nat
deriving DecidableEq, Repr

-- One item of the iterator. After an error there is nothing left to iterate over.
def Groups.next (version : CesrVersion) (groups : Groups) : Option (Except ParseError CesrGroup) × Groups :=
  if groups.input.length ≤ groups.cursor then (none, groups)
  else
    let tail := groups.input.drop groups.cursor
    match CesrGroup.parseFor version tail with
    | .ok parsed => (some (.ok parsed.1), { groups with cursor := groups.cursor + (tail.length - parsed.2.length) })
    | .error error => (some (.error error), { groups with cursor := groups.input.length })

end Cesr.Stream
