import Cesr.Stream.EnclosureScan
import Cesr.Stream.GroupRefusal
import Cesr.Stream.FramerChunks

set_option autoImplicit false

namespace Cesr.Stream

open Base64 Checks Calls Resume Faults Refusal Loops

-- A group whose payload is walked encloses a cut atom.
def GroupFrameCursor.EnclosesCut (limits : FrameLimits) (version : CesrVersion) (prior : Nat) (input : Bytes)
    (group : GroupFrameCursor) : Prop :=
  ∃ payload, group.enclosingPayload input = .ok (some payload) ∧ limits.CutInside payload prior version

def GroupFrameCursor.ClosesCut (limits budget : FrameLimits) (version : CesrVersion) (prior : Nat → Nat) (input : Bytes)
    (group : GroupFrameCursor) : Prop :=
  ∃ total final, CesrCodec.frame budget group input = (.ok total, final) ∧
    final.EnclosesCut limits version (prior final.signatureTotal) input

section Groups

variable (limits budget : FrameLimits) (version : CesrVersion) (input : Bytes) (group : GroupFrameCursor)

end Groups

section Events

variable (limits : FrameLimits) (endOfInput : Bool)

def EventProgress.ClosesCut (limits : FrameLimits) (input : Bytes) (progress : EventProgress) : Prop :=
  progress.cursor - progress.bodyLen ≤ limits.maxAttachmentBytes ∧ ∃ group, progress.group = some group ∧
    group.ClosesCut limits (progress.allowance limits) .v1 (saturatingAdd progress.signatures) (input.drop progress.cursor)

-- The turns of a call come to a group that is complete, with a cut atom inside.
def EventProgress.MeetsCut (limits : FrameLimits) (endOfInput : Bool) (input : Bytes) (progress : EventProgress) : Prop :=
  progress.bodyLen ≤ input.length ∧ progress.cursor ≤ input.length ∧
    ∃ last, Relation.ReflTransGen (Goes (EventProgress.turn limits endOfInput input)) progress last ∧ last.ClosesCut limits input

end Events

section Framer

variable (endOfInput : Bool) (input : Bytes)

def MessageFramer.Opens (framer : MessageFramer) (endOfInput : Bool) (input : Bytes) (state : FramerState) : Prop :=
  framer.state = some state ∨ framer.state = none ∧ outcome (MessageFramer.start input endOfInput) framer = .ok (some state)

def FramerState.MeetsCut (limits : FrameLimits) (endOfInput : Bool) (input : Bytes) : FramerState → Prop
  | .event progress => progress.MeetsCut limits endOfInput input
  | .bare group => group.ClosesCut limits limits .v1 id input

-- A call of the framer completes a group in which a walk comes to a cut atom.
def MessageFramer.MeetsCut (endOfInput : Bool) (input : Bytes) (framer : MessageFramer) : Prop :=
  ∃ state, framer.Opens endOfInput input state ∧ state.MeetsCut framer.limits endOfInput input

end Framer

section Endings

variable (limits : FrameLimits) (input : Bytes)

end Endings

end Cesr.Stream
