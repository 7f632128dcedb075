import Cesr.Stream.Shortage

set_option autoImplicit false

namespace Cesr.Stream

open Base64 Checks Calls Resume Faults Refusal

section Groups

variable (maxBytes maxGroupElements maxSignatures : Nat)

end Groups

section Kept

variable (version : CesrVersion) (limits : FrameLimits)

end Kept

section Decoding

variable (version : CesrVersion) (limits : FrameLimits)

def CesrCodec.settled (buf : Bytes) : Except ParseError Nat × GroupFrameCursor → Except ParseError (Option CesrGroup) × CesrCodec
  | (.ok total, final) => exec (CesrCodec.finish version limits final total) ⟨some final, buf⟩
  | (.error (.needBytes _), final) => (.ok none, ⟨some final, buf⟩)
  | (.error error, final) => (.error error, ⟨some final, buf⟩)

-- A call of the codec completes a group in which a walk comes to a cut atom.
def CesrCodec.MeetsCut (version : CesrVersion) (limits : FrameLimits) (codec : CesrCodec) : Prop :=
  codec.buf ≠ [] ∧ ∃ cursor, codec.begin version limits = .ok (some cursor) ∧
    cursor.ClosesCut limits limits version id codec.buf

end Decoding

section Runs

-- A call of the codec: bytes arrive, or it is asked for a group. A codec that has
-- answered with an error may be asked again.
def CesrCodec.answer (version : CesrVersion) (limits : FrameLimits) : CodecCall → Mutator CesrCodec ParseError (Option CesrGroup)
  | .receive piece => modify (CesrCodec.receive piece) >>= fun _ => pure none
  | .decode => CesrCodec.decode version limits

def CodecCall.MeetsCut (version : CesrVersion) (limits : FrameLimits) : CodecCall → CesrCodec → Prop
  | .receive _, _ => False
  | .decode, codec => codec.MeetsCut version limits

structure FramerCall where
  endOfInput : Bool
  input : Bytes
deriving DecidableEq, Repr

def MessageFramer.answer (call : FramerCall) : Mutator MessageFramer ParseError (Option FrameSpan) :=
  MessageFramer.advance call.endOfInput call.input

def FramerCall.MeetsCut (call : FramerCall) (framer : MessageFramer) : Prop := framer.MeetsCut call.endOfInput call.input

variable (version : CesrVersion) (limits : FrameLimits)

end Runs

end Cesr.Stream
