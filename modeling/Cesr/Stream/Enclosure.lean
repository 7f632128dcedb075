import Cesr.Stream.MessageHead

set_option autoImplicit false

namespace Cesr.Stream

open Sextets Base64 Checks Calls

structure FrameLimits where
  maxBodyBytes : Nat
  maxAttachmentBytes : Nat
  maxAttachmentGroups : Nat
  maxGroupElements : Nat
  maxSignatures : Nat
  maxNestedGroups : Nat
  maxNestingDepth : Nat
deriving DecidableEq, Repr

def FrameLimits.checkElements (limits : FrameLimits) (group : GroupFrameCursor) : Except ParseError Unit :=
  match group.elementCount with
  | none => .ok ()
  | some declared =>
      rejectIf (limits.maxGroupElements < declared.val) (.limitExceeded .groupElements limits.maxGroupElements declared.val)

def FrameLimits.checkPendingAttachment (limits : FrameLimits) (used available missing : Nat) : Except ParseError Unit :=
  rejectIf (limits.maxAttachmentBytes ≤ saturatingAdd used available)
    (.limitExceeded .attachmentBytes limits.maxAttachmentBytes (saturatingAdd (saturatingAdd used available) missing))

-- Counts of groups and of signatures are below the length of the input, so the
-- saturating sums of the source are plain sums here.
def FrameLimits.enterNestedGroup (limits : FrameLimits) (count : Nat) : Except ParseError Nat := do
  rejectIf (limits.maxNestedGroups < count + 1) (.limitExceeded .nestedGroups limits.maxNestedGroups (count + 1))
  pure (count + 1)

def decodeGenusVersion (soft : Bytes) : Except ParseError CesrVersion := do
  rejectIf (fromUtf8 soft = none) (.invalidUtf8 "genus version")
  let value ← (decodeInt 32 soft).mapError Base64Error.toParse
  let major := value / 2 ^ 12
  if major = 1 then pure .v1
  else if major = 2 then pure .v2
  else .error (.unsupportedGenusVersion major)

def checkGenusVersionOffset (input : Bytes) (default : CesrVersion) : Except ParseError (CesrVersion × Nat) := do
  rejectIf (input.take 2 = asBytes "-_" ∧ input.length < 8) (.needBytes (8 - input.length))
  if input.length < 8 then pure (default, 0)
  else if input.take 2 = asBytes "-_" then
    match readCounterV2 input with
    | .ok (.keriAcdcGenusVersion, _) => do
        let version ← decodeGenusVersion ((input.take 8).drop 5)
        pure (version, CounterCodeV2.keriAcdcGenusVersion.fullSize)
    | _ => pure (default, 0)
  else pure (default, 0)

-- Inside a complete enclosure a shortage is final.
def ParseError.truncate : ParseError → ParseError
  | .needBytes missing => .truncated missing
  | other => other

def FrameLimits.enclosedVersion (payload : Bytes) (version : CesrVersion) : Except ParseError (CesrVersion × Nat) :=
  (checkGenusVersionOffset payload version).mapError ParseError.truncate

-- The size of a standalone primitive or an embedded body, and its signatures.
-- The shortages of the readers are passed on as they are.
def FrameLimits.skipEnclosedAtom (limits : FrameLimits) (input : Bytes) : Except ParseError (Nat × Nat) :=
  match input.head? with
  | none => .error (.needBytes 1)
  | some first => do
      let cold ← ColdCode.detect first
      match cold with
      | .json | .cbor | .messagePack => do
          let size ← JsonVersionHead.eventSize input cold
          rejectIf (limits.maxBodyBytes < size) (.limitExceeded .bodyBytes limits.maxBodyBytes size)
          rejectIf (input.length < size) (.truncated (size - input.length))
          pure (size, 0)
      | .cesrBase64 => do
          let code ← (MatterCode.fromBase64Stream input).mapError ParsingError.toParse
          let size ← skipMatter input
          pure (size, if (SignatureCode.tryFrom code).isOk then 1 else 0)
      | .cesrBinary => .error (.unsupportedColdStart cold)

structure EnclosureLevel where
  bytes : Bytes
  cursor : Nat
  depth : Nat
  version : CesrVersion
deriving DecidableEq, Repr

structure EnclosureScan where
  stack : List EnclosureLevel
  nestedGroups : Nat
  signatures : Nat
deriving DecidableEq, Repr

-- The limit on signatures is reported for the enclosure as a whole.
def enclosedError (maxSignatures signatures : Nat) : ParseError → ParseError
  | .needBytes missing => .truncated missing
  | .limitExceeded .signatures _ actual => .limitExceeded .signatures maxSignatures (saturatingAdd signatures actual)
  | other => other

def FrameLimits.scanAtom (limits : FrameLimits) (level : EnclosureLevel) (tail : Bytes) (scan : EnclosureScan) :
    Except ParseError EnclosureScan := do
  let atom ← limits.skipEnclosedAtom tail
  let signatures := scan.signatures + atom.2
  rejectIf (limits.maxSignatures < signatures) (.limitExceeded .signatures limits.maxSignatures signatures)
  pure { scan with stack := { level with cursor := level.cursor + atom.1 } :: scan.stack, signatures := signatures }

def FrameLimits.scanInner (limits : FrameLimits) (level : EnclosureLevel) (inner : Bytes) (scan : EnclosureScan) :
    Except ParseError EnclosureScan := do
  let nextDepth := level.depth + 1
  rejectIf (limits.maxNestingDepth < nextDepth) (.limitExceeded .nestingDepth limits.maxNestingDepth nextDepth)
  let selected ← FrameLimits.enclosedVersion inner level.version
  pure { scan with stack := ⟨inner, selected.2, nextDepth, selected.1⟩ :: scan.stack }

def FrameLimits.scanGroup (limits : FrameLimits) (level : EnclosureLevel) (tail : Bytes) (scan : EnclosureScan) :
    Except ParseError EnclosureScan := do
  let nestedGroups ← limits.enterNestedGroup scan.nestedGroups
  let fresh ← (GroupFrameCursor.newOf level.version tail).mapError ParseError.truncate
  limits.checkElements fresh
  let ran := exec (GroupFrameCursor.advanceLimited (noLimit tail) limits.maxGroupElements
    (limits.maxSignatures - scan.signatures) tail) fresh
  let stop ← ran.1.mapError (enclosedError limits.maxSignatures scan.signatures)
  let passed : EnclosureScan :=
    ⟨{ level with cursor := level.cursor + stop } :: scan.stack, nestedGroups, scan.signatures + ran.2.signatureTotal⟩
  let inner ← ran.2.enclosingPayload tail
  match inner with
  | none => pure passed
  | some payload => limits.scanInner level payload passed

-- A turn of the walk at the level on top of the stack, which has been taken off it.
def FrameLimits.scanTurn (limits : FrameLimits) (level : EnclosureLevel) (scan : EnclosureScan) :
    Except ParseError EnclosureScan :=
  if level.cursor = level.bytes.length then .ok scan
  else do
    rejectIf (level.bytes.length < level.cursor) (.overflow .groupSpan)
    let tail := level.bytes.drop level.cursor
    if tail.head? ≠ some 0x2D then limits.scanAtom level tail scan else limits.scanGroup level tail scan

def FrameLimits.scanTurns (limits : FrameLimits) : Nat → EnclosureScan → Except ParseError EnclosureScan
  | 0, scan => .ok scan
  | turns + 1, scan =>
      match scan.stack with
      | [] => .ok scan
      | level :: below => do
          let next ← limits.scanTurn level { scan with stack := below }
          limits.scanTurns turns next

-- Every turn takes a level off the stack or bytes off a level.
def EnclosureScan.left (scan : EnclosureScan) : Nat :=
  (scan.stack.map fun level => level.bytes.length - level.cursor + 1).sum

def FrameLimits.scanEnclosure (limits : FrameLimits) (payload : Bytes) (priorSignatures : Nat) (version : CesrVersion) :
    Except ParseError Nat := do
  rejectIf (limits.maxNestingDepth = 0) (.limitExceeded .nestingDepth 0 1)
  let selected ← FrameLimits.enclosedVersion payload version
  let start : EnclosureScan := ⟨[⟨payload, selected.2, 1, selected.1⟩], 0, priorSignatures⟩
  let final ← limits.scanTurns start.left start
  pure (final.signatures - priorSignatures)

end Cesr.Stream
