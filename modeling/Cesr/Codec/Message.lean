import Cesr.Codec.AttachmentWalk
import Cesr.Codec.Exn
import Cesr.Codec.Routed

set_option autoImplicit false

namespace Cesr.Codec

open Base64 Checks Calls Resume Cesr.Stream

structure MessageLimits where
  frame : FrameLimits
  json : JsonLimits
deriving DecidableEq, Repr

structure BodyFrame where
  body : Option Bytes
  attachments : Bytes
  rest : Bytes
deriving DecidableEq, Repr

def splitAt (bytes : Bytes) (len : Nat) : Except ParseError (Bytes × Bytes) := do
  rejectIf (bytes.length < len) (.truncated 1)
  pure (bytes.take len, bytes.drop len)

def checkBodyStart : Bytes → Except ParseError Unit
  | [] => .ok ()
  | first :: _ => do
      let cold ← ColdCode.detect first
      rejectIf (cold = .cbor ∨ cold = .messagePack) (.unsupportedColdStart cold)

def frameOne (input : Bytes) (limits : FrameLimits) : Except ParseError BodyFrame := do
  checkBodyStart input
  let emitted ← outcome (MessageFramer.advance true input) (MessageFramer.new limits)
  match emitted with
  | none => .error (.truncated 1)
  | some span => do
      let frame ← splitAt input span.totalLen
      match span.bodyLen with
      | none => pure ⟨none, frame.1, frame.2⟩
      | some bodyLen => do
          let body ← splitAt frame.1 bodyLen
          pure ⟨some body.1, body.2, frame.2⟩

-- Every parser of one kind frames the message first and reads its two parts then.
def parseFramed {ε μ : Type} (frame : ParseError → ε) (bare : ε) (fromParts : Bytes → Bytes → Except (Failure ε) μ) (input : Bytes)
    (limits : MessageLimits) : Except (Failure ε) (μ × Bytes) := do
  let framed ← (frameOne input limits.frame).mapError fun error => .error (frame error)
  match framed.body with
  | none => .error (.error bare)
  | some payload => do
      let message ← fromParts payload framed.attachments
      pure (message, framed.rest)

structure EventMessage where
  event : EventRead
  body : Bytes
  sigs : List Siger
  wigs : List Siger
deriving DecidableEq

structure ReceiptMessage where
  receipt : Receipt
  body : Bytes
  couples : List ReceiptCouple
  wigs : List Siger
  transReceipts : List TransferableReceipt
deriving DecidableEq

structure TelMessage where
  event : TelRead
  body : Bytes
  sigs : List Siger
  source : Option TelSource
  backerSigs : List Siger
deriving DecidableEq

-- An exchange message with the fields of its envelope that the envelope type leaves out.
structure ExnMessageRead where
  exn : ExnRead
  body : Bytes
  sigs : List Siger
  pathed : List PathedAttachment
deriving DecidableEq

def ExnMessageRead.message (read : ExnMessageRead) : ExnMessage := ⟨read.exn.exn, read.body, read.sigs, read.pathed⟩

structure RoutedMessage where
  body : Bytes
  routed : RoutedBody
  nontransferable : List ReceiptCouple
  transferable : List TransferableReceipt
deriving DecidableEq

inductive Message where
  | event (message : EventMessage)
  | receipt (message : ReceiptMessage)
  | tel (message : TelMessage)
  | exn (message : ExnMessageRead)
  | routed (message : RoutedMessage)
deriving DecidableEq

inductive MessageError where
  | frame (error : ParseError)
  | body (error : CodecError)
  | bareAttachment
  | event (error : EventMessageError)
  | receipt (error : ReceiptMessageError)
  | tel (error : EventMessageError)
  | exn (error : EventMessageError)
  | routed (error : ReceiptMessageError)
deriving DecidableEq, Repr

def unparsedBytes : String := "unparsed attachment bytes"

section Parts

variable (library : KeyLibrary)

def EventMessage.fromParts (json : JsonLimits) (payload attachments : Bytes) : Except (Failure EventMessageError) EventMessage := do
  let event ← (deserializeEvent library payload (.ofLimits json)).mapError fun error => .error (.body error)
  let consumed ← consumeAttachments attachments
  rejectIf (consumed.2 ≠ []) (.error (.unexpectedGroup unparsedBytes))
  pure ⟨event, payload, consumed.1.sigs, consumed.1.wigs⟩

def ReceiptMessage.fromParts (json : JsonLimits) (payload attachments : Bytes) :
    Except (Failure ReceiptMessageError) ReceiptMessage := do
  let receipt ← (deserializeReceipt payload (.ofLimits json)).mapError fun error => .error (.body error)
  let consumed ← consumeReceiptAttachments attachments
  rejectIf (consumed.2 ≠ []) (.error (.unexpectedGroup unparsedBytes))
  rejectIf (consumed.1.couples = [] ∧ consumed.1.wigs = [] ∧ consumed.1.transReceipts = []) (.error .missingEndorsement)
  pure ⟨receipt, payload, consumed.1.couples, consumed.1.wigs, consumed.1.transReceipts⟩

def TelMessage.fromParts (json : JsonLimits) (payload attachments : Bytes) : Except (Failure EventMessageError) TelMessage := do
  let event ← (deserializeTel library payload (.ofLimits json)).mapError fun error => .error (.body error)
  let consumed ← consumeTelAttachments attachments
  rejectIf (consumed.2 ≠ []) (.error (.unexpectedGroup unparsedBytes))
  pure ⟨event, payload, consumed.1.sigs, consumed.1.source, consumed.1.backerSigs⟩

def ExnMessageRead.fromParts (limits : MessageLimits) (payload attachments : Bytes) :
    Except (Failure EventMessageError) ExnMessageRead := do
  let exn ← (deserializeExn library payload (.ofLimits limits.json)).mapError fun error => .error (.body error)
  let consumed ← consumeExnAttachments limits.frame attachments
  rejectIf (consumed.2 ≠ []) (.error (.unexpectedGroup unparsedBytes))
  pure ⟨exn, payload, consumed.1.sigs, consumed.1.pathed⟩

-- A query or a reply has no witness signatures.
def RoutedMessage.fromParts (json : JsonLimits) (payload attachments : Bytes) :
    Except (Failure ReceiptMessageError) RoutedMessage := do
  let routed ← (RoutedBody.parse library payload (.ofLimits json)).mapError fun error => .error (.body error)
  let consumed ← consumeReceiptAttachments attachments
  rejectIf (consumed.1.wigs ≠ []) (.error (.unexpectedGroup "WitnessIdxSigs"))
  rejectIf (consumed.2 ≠ []) (.error (.unexpectedGroup unparsedBytes))
  pure ⟨payload, routed, consumed.1.couples, consumed.1.transReceipts⟩

end Parts

section Parsers

variable (library : KeyLibrary)

def EventMessage.parse (input : Bytes) (limits : MessageLimits) : Except (Failure EventMessageError) (EventMessage × Bytes) :=
  parseFramed .frame .bareAttachment (EventMessage.fromParts library limits.json) input limits

def ReceiptMessage.parse (input : Bytes) (limits : MessageLimits) : Except (Failure ReceiptMessageError) (ReceiptMessage × Bytes) :=
  parseFramed .frame .bareAttachment (ReceiptMessage.fromParts limits.json) input limits

def TelMessage.parse (input : Bytes) (limits : MessageLimits) : Except (Failure EventMessageError) (TelMessage × Bytes) :=
  parseFramed .frame .bareAttachment (TelMessage.fromParts library limits.json) input limits

def ExnMessageRead.parse (input : Bytes) (limits : MessageLimits) : Except (Failure EventMessageError) (ExnMessageRead × Bytes) :=
  parseFramed .frame .bareAttachment (ExnMessageRead.fromParts library limits) input limits

def RoutedMessage.parse (input : Bytes) (limits : MessageLimits) : Except (Failure ReceiptMessageError) (RoutedMessage × Bytes) :=
  parseFramed .frame .bareAttachment (RoutedMessage.fromParts library limits.json) input limits

def Failure.wrap {ε ε' : Type} (wrap : ε → ε') : Failure ε → Failure ε'
  | .error error => .error (wrap error)
  | .panicked => .panicked

def Message.fromParts (limits : MessageLimits) (payload attachments : Bytes) : MessageType → Except (Failure MessageError) Message
  | .rct => ((ReceiptMessage.fromParts limits.json payload attachments).map Message.receipt).mapError (Failure.wrap .receipt)
  | .icp | .rot | .ixn | .dip | .drt =>
      ((EventMessage.fromParts library limits.json payload attachments).map Message.event).mapError (Failure.wrap .event)
  | .vcp | .vrt | .iss | .rev | .bis | .brv =>
      ((TelMessage.fromParts library limits.json payload attachments).map Message.tel).mapError (Failure.wrap .tel)
  | .exn => ((ExnMessageRead.fromParts library limits payload attachments).map Message.exn).mapError (Failure.wrap .exn)
  | .qry | .rpy =>
      ((RoutedMessage.fromParts library limits.json payload attachments).map Message.routed).mapError (Failure.wrap .routed)

def Message.parse (input : Bytes) (limits : MessageLimits) : Except (Failure MessageError) (Message × Bytes) :=
  parseFramed .frame .bareAttachment (fun payload attachments => do
    let messageType ← (ParsedEvent.peekMessageType payload limits.json).mapError fun error => .error (.body error)
    Message.fromParts library limits payload attachments messageType) input limits

end Parsers

end Cesr.Codec
