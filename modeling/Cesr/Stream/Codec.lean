import Cesr.Stream.Enclosure

set_option autoImplicit false

namespace Cesr.Stream

open Checks Calls

structure CesrCodec where
  cursor : Option GroupFrameCursor
  buf : Bytes
deriving DecidableEq, Repr

def CesrCodec.new : CesrCodec := ⟨none, []⟩

def CesrCodec.receive (piece : Bytes) (codec : CesrCodec) : CesrCodec := { codec with buf := codec.buf ++ piece }

def CesrCodec.begin (version : CesrVersion) (limits : FrameLimits) (codec : CesrCodec) :
    Except ParseError (Option GroupFrameCursor) :=
  match codec.cursor with
  | some cursor => .ok (some cursor)
  | none =>
      match GroupFrameCursor.newOf version codec.buf with
      | .ok cursor => do
          limits.checkElements cursor
          pure (some cursor)
      | .error (.needBytes missing) => do
          limits.checkPendingAttachment 0 codec.buf.length missing
          pure none
      | .error error => .error error

def CesrCodec.finish (version : CesrVersion) (limits : FrameLimits) (cursor : GroupFrameCursor) (total : Nat) :
    Mutator CesrCodec ParseError (Option CesrGroup) := do
  let codec ← get
  let inner ← check (cursor.enclosingPayload codec.buf)
  match inner with
  | none => pure ()
  | some payload => do
      let _ ← check (limits.scanEnclosure payload cursor.signatureTotal version)
  modify fun codec => ⟨none, codec.buf.drop total⟩
  let parsed ← check (CesrGroup.parseOf version (codec.buf.take total))
  pure (some parsed.1)

def CesrCodec.decode (version : CesrVersion) (limits : FrameLimits) : Mutator CesrCodec ParseError (Option CesrGroup) := do
  let codec ← get
  if codec.buf = [] then pure none
  else do
    let begun ← check (codec.begin version limits)
    modify fun codec => { codec with cursor := begun }
    match begun with
    | none => pure none
    | some cursor => do
        let ran := exec (GroupFrameCursor.advanceLimited limits.maxAttachmentBytes limits.maxGroupElements
          limits.maxSignatures codec.buf) cursor
        modify fun codec => { codec with cursor := some ran.2 }
        match ran.1 with
        | .ok total => CesrCodec.finish version limits ran.2 total
        | .error (.needBytes _) => pure none
        | .error error => throw error

end Cesr.Stream
