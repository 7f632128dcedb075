import Cesr.Stream.Enclosure
import Cesr.Lib.Loops

set_option autoImplicit false

namespace Cesr.Stream

open Checks Calls Loops

-- The exact span of a message at the head of the input; a span without a body is a standalone group.
structure FrameSpan where
  bodyLen : Option Nat
  totalLen : Nat
deriving DecidableEq, Repr

structure EventProgress where
  bodyLen : Nat
  cursor : Nat
  groups : Nat
  signatures : Nat
  group : Option GroupFrameCursor
deriving DecidableEq, Repr

def EventProgress.ofBody (bodyLen : Nat) : EventProgress := ⟨bodyLen, bodyLen, 0, 0, none⟩

inductive FramerState where
  | event (progress : EventProgress)
  | bare (group : GroupFrameCursor)
deriving DecidableEq, Repr

structure MessageFramer where
  limits : FrameLimits
  state : Option FramerState
  jsonHead : JsonVersionHead
deriving DecidableEq, Repr

def MessageFramer.new (limits : FrameLimits) : MessageFramer := ⟨limits, none, JsonVersionHead.new⟩

section Shortage

variable {β : Type}

-- An open stream may still bring what is missing.
def pendingAt (endOfInput : Bool) (missing : Nat) : Except ParseError (Option β) :=
  if endOfInput then .error (.truncated missing) else .ok none

def waitAtEnd (endOfInput : Bool) : ParseError → Except ParseError (Option β)
  | .needBytes missing => pendingAt endOfInput missing
  | other => .error other

-- The limit on signatures is reported for the message as a whole.
def messageError (maxSignatures signatures : Nat) : ParseError → ParseError
  | .limitExceeded .signatures _ actual => .limitExceeded .signatures maxSignatures (saturatingAdd signatures actual)
  | other => other

end Shortage

def FrameLimits.scanPayload (limits : FrameLimits) (group : GroupFrameCursor) (input : Bytes) (prior : Nat) :
    Except ParseError Nat := do
  let inner ← group.enclosingPayload input
  match inner with
  | some payload => limits.scanEnclosure payload prior .v1
  | none => pure 0

def FrameLimits.startGroup (limits : FrameLimits) (used : Nat) (tail : Bytes) (endOfInput : Bool) :
    Except ParseError (Option GroupFrameCursor) :=
  match GroupFrameCursor.newV1 tail with
  | .ok group => do
      limits.checkElements group
      pure (some group)
  | .error (.needBytes missing) => do
      limits.checkPendingAttachment used tail.length missing
      pendingAt endOfInput missing
  | .error error => .error error

def EventProgress.span (progress : EventProgress) : FrameSpan := ⟨some progress.bodyLen, progress.cursor⟩

def EventProgress.keepGroup (group : GroupFrameCursor) (progress : EventProgress) : EventProgress :=
  { progress with group := some group }

def EventProgress.passGroup (stop signatures : Nat) (progress : EventProgress) : EventProgress :=
  { progress with cursor := progress.cursor + stop, groups := progress.groups + 1, signatures := signatures, group := none }

def EventProgress.finishGroup (limits : FrameLimits) (input : Bytes) (group : GroupFrameCursor) (stop : Nat) :
    Mutator EventProgress ParseError (Option Bool) := do
  let progress ← get
  let direct := group.signatureTotal
  let nested ← check (limits.scanPayload group (input.drop progress.cursor) (saturatingAdd progress.signatures direct))
  let signatures := progress.signatures + direct + nested
  check (rejectIf (usizeMax < signatures) (.limitExceeded .signatures limits.maxSignatures usizeMax))
  modify (EventProgress.passGroup stop signatures)
  pure (some group.attachmentEnvelope)

-- The answer is whether a completed group is the attachment envelope that ends
-- the message; an incomplete group has no answer.
def EventProgress.advanceGroup (limits : FrameLimits) (input : Bytes) (endOfInput : Bool) :
    Mutator EventProgress ParseError (Option Bool) := do
  let progress ← get
  match progress.group with
  | none => pure none
  | some group => do
      let used := progress.cursor - progress.bodyLen
      check (rejectIf (limits.maxAttachmentBytes < used) (.limitExceeded .attachmentBytes limits.maxAttachmentBytes used))
      let ran := exec (GroupFrameCursor.advanceLimited (limits.maxAttachmentBytes - used) limits.maxGroupElements
        (limits.maxSignatures - progress.signatures) (input.drop progress.cursor)) group
      modify (EventProgress.keepGroup ran.2)
      match ran.1 with
      | .ok stop => EventProgress.finishGroup limits input ran.2 stop
      | .error error => check (waitAtEnd endOfInput (messageError limits.maxSignatures progress.signatures error))

def EventProgress.beginGroup (limits : FrameLimits) (input : Bytes) (endOfInput : Bool) :
    Mutator EventProgress ParseError Bool := do
  let progress ← get
  check (rejectIf (limits.maxAttachmentGroups ≤ progress.groups)
    (.limitExceeded .attachmentGroups limits.maxAttachmentGroups (progress.groups + 1)))
  check (rejectIf (input.length < progress.cursor) (.truncated (progress.cursor - input.length)))
  let begun ← check (limits.startGroup (progress.cursor - progress.bodyLen) (input.drop progress.cursor) endOfInput)
  match begun with
  | none => pure false
  | some group => do
      modify (EventProgress.keepGroup group)
      pure true

-- A turn goes on, or answers with the span of the message, which may still be pending.
def EventProgress.turn (limits : FrameLimits) (endOfInput : Bool) (input : Bytes) :
    Mutator EventProgress ParseError (Option (Option FrameSpan)) := do
  let progress ← get
  if progress.group.isSome then do
    let envelope ← EventProgress.advanceGroup limits input endOfInput
    let progress ← get
    match envelope with
    | none => pure (some none)
    | some true => pure (some (some progress.span))
    | some false => pure none
  else
    match input[progress.cursor]? with
    | none => pure (some (if endOfInput then some progress.span else none))
    | some next => do
        let cold ← check (ColdCode.detect next)
        match cold with
        | .json | .cbor | .messagePack => pure (some (some progress.span))
        | .cesrBase64 => do
            let begun ← EventProgress.beginGroup limits input endOfInput
            pure (if begun then none else some none)
        | .cesrBinary => throw (.unsupportedColdStart cold)

-- Every two turns use up a group of the limit.
def EventProgress.turnsLeft (limits : FrameLimits) (progress : EventProgress) : Nat :=
  if progress.group.isSome then 2 * (limits.maxAttachmentGroups - (progress.groups + 1)) + 1
  else 2 * (limits.maxAttachmentGroups - progress.groups)

def EventProgress.advance (limits : FrameLimits) (endOfInput : Bool) (input : Bytes) :
    Mutator EventProgress ParseError (Option FrameSpan) := do
  let progress ← get
  if input.length < progress.bodyLen then check (pendingAt endOfInput (progress.bodyLen - input.length))
  else do
    check (rejectIf (input.length < progress.cursor) (.truncated (progress.cursor - input.length)))
    let answer ← loopLeft (EventProgress.turnsLeft limits) (EventProgress.turn limits endOfInput input)
    pure answer.join

-- A standalone group is emitted as soon as it has arrived.
def FrameLimits.advanceBare (limits : FrameLimits) (endOfInput : Bool) (input : Bytes) :
    Mutator GroupFrameCursor ParseError (Option FrameSpan) := do
  let advanced ← attempt (GroupFrameCursor.advanceLimited limits.maxAttachmentBytes limits.maxGroupElements limits.maxSignatures input)
  match advanced with
  | .ok totalLen => do
      let group ← get
      let _ ← check (limits.scanPayload group input group.signatureTotal)
      pure (some ⟨none, totalLen⟩)
  | .error error => check (waitAtEnd endOfInput error)

def JsonVersionHead.declared (input : Bytes) (cold : ColdCode) : Mutator JsonVersionHead ParseError Nat :=
  if cold = .json then do
    let offset ← JsonVersionHead.advance input
    check (JsonVersionHead.eventSizeAt input offset cold)
  else check (JsonVersionHead.eventSize input cold)

def FrameLimits.startBody (limits : FrameLimits) (available : Nat) (endOfInput : Bool) :
    Except ParseError Nat → Except ParseError (Option FramerState)
  | .ok bodyLen => do
      rejectIf (limits.maxBodyBytes < bodyLen) (.limitExceeded .bodyBytes limits.maxBodyBytes bodyLen)
      pure (some (.event (EventProgress.ofBody bodyLen)))
  | .error (.needBytes missing) => do
      rejectIf (limits.maxBodyBytes ≤ available)
        (.limitExceeded .bodyBytes limits.maxBodyBytes (saturatingAdd available missing))
      pendingAt endOfInput missing
  | .error error => .error error

def MessageFramer.keepHead (head : JsonVersionHead) (framer : MessageFramer) : MessageFramer := { framer with jsonHead := head }

def MessageFramer.keepState (state : Option FramerState) (framer : MessageFramer) : MessageFramer :=
  { framer with state := state }

def MessageFramer.reset (framer : MessageFramer) : MessageFramer := MessageFramer.new framer.limits

def MessageFramer.start (input : Bytes) (endOfInput : Bool) : Mutator MessageFramer ParseError (Option FramerState) := do
  let framer ← get
  match input with
  | [] => pure none
  | first :: _ => do
      let cold ← check (ColdCode.detect first)
      match cold with
      | .json | .cbor | .messagePack => do
          let declared ← attempt (onPart framer.jsonHead MessageFramer.keepHead (JsonVersionHead.declared input cold))
          check (framer.limits.startBody input.length endOfInput declared)
      | .cesrBase64 => do
          let begun ← check (framer.limits.startGroup 0 input endOfInput)
          pure (begun.map FramerState.bare)
      | .cesrBinary => throw (.unsupportedColdStart cold)

def MessageFramer.advanceState (input : Bytes) (endOfInput : Bool) : Mutator MessageFramer ParseError (Option FrameSpan) := do
  let framer ← get
  match framer.state with
  | none => pure none
  | some (.event progress) =>
      onPart progress (fun progress => MessageFramer.keepState (some (.event progress)))
        (EventProgress.advance framer.limits endOfInput input)
  | some (.bare group) =>
      onPart group (fun group => MessageFramer.keepState (some (.bare group)))
        (framer.limits.advanceBare endOfInput input)

def MessageFramer.begin (input : Bytes) (endOfInput : Bool) : Mutator MessageFramer ParseError Unit := do
  let framer ← get
  if framer.state.isNone then do
    let state ← MessageFramer.start input endOfInput
    modify (MessageFramer.keepState state)
  else pure ()

-- The caller hands in the same stream again with more bytes behind it, until a span is emitted.
def MessageFramer.advance (endOfInput : Bool) (input : Bytes) : Mutator MessageFramer ParseError (Option FrameSpan) := do
  MessageFramer.begin input endOfInput
  let result ← MessageFramer.advanceState input endOfInput
  match result with
  | some span => do
      modify MessageFramer.reset
      pure (some span)
  | none => pure none

end Cesr.Stream
