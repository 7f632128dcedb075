import Cesr.Codec.EventReads
import Cesr.Codec.RoutedWriter

set_option autoImplicit false

namespace Cesr

namespace Codec

open Checks Calls WriterJson Scanner Appends Slots

section Texts

variable (messageType : MessageType)

def saidFront (version : Bytes) : Bytes :=
  asBytes "\x7b\"v\":\"" ++ (version ++ (asBytes "\",\"t\":" ++ (quoted (asBytes messageType.code) ++ asBytes ",\"d\":\"")))

def prefixText : Option Bytes → Bytes
  | none => []
  | some pfx => asBytes ",\"i\":" ++ quoted pfx

def eventText (version said : Bytes) (pfx : Option Bytes) (tail : Bytes) : Bytes :=
  saidFront messageType version ++ (said ++ (quote :: (prefixText pfx ++ tail)))

theorem overwrite_between {α : Type} (front old new back : List α) :
    overwrite (front ++ (old ++ back)) (front.length, front.length + old.length) new = front ++ (new ++ back) := by
  rw [overwrite]
  simp

def versionZero : Bytes := VersionString.keriJsonV1.toStr

theorem said_front_length (version : Bytes) (long : version.length = versionZero.length) :
    (saidFront messageType version).length = (saidFront messageType versionZero).length := by
  simp only [saidFront, List.length_append, long]

theorem event_text_length (version version' said said' : Bytes) (pfx pfx' : Option Bytes) (tail : Bytes) (long : version.length = version'.length)
    (wide : said.length = said'.length) (wide' : pfx.map List.length = pfx'.map List.length) :
    (eventText messageType version said pfx tail).length = (eventText messageType version' said' pfx' tail).length := by
  have inner : (prefixText pfx).length = (prefixText pfx').length := by
    cases pfx with
    | none =>
        cases pfx' with
        | none => rfl
        | some given => cases wide'
    | some given =>
        cases pfx' with
        | none => cases wide'
        | some given' =>
            have same : given.length = given'.length := Option.some.inj wide'
            simp only [prefixText, quoted, List.length_append, List.length_cons, same]
  simp only [eventText, saidFront, List.length_append, List.length_cons, long, wide, inner]

end Texts

section Layout

def layoutOf (messageType : MessageType) (filled : Bytes) (prefixFilled : Option Bytes) : EventLayout :=
  let start := (saidFront messageType versionZero).length
  let behind := start + filled.length + 1
  ⟨(16, 22), (start, start + filled.length), prefixFilled.map fun pfx => (behind + 6, behind + 6 + pfx.length)⟩

theorem message_code_plain (messageType : MessageType) : ∀ byte ∈ asBytes messageType.code, Plain byte := by
  cases messageType with
  | _ => decide +kernel

theorem head_runs (messageType : MessageType) (filled : Bytes) :
    exec (writeHead messageType filled) [] =
      (.ok ((16, 22), ((saidFront messageType versionZero).length, (saidFront messageType versionZero).length + filled.length)),
        saidFront messageType versionZero ++ (filled ++ [quote])) := by
  have coded := write_str_adds messageType.code (message_code_plain messageType)
  have opening : (asBytes "\x7b\"v\":\"").length = 6 := rfl
  simp only [writeHead, exec_bind, place, push, exec_modify, exec_get, exec_pure, coded _, List.nil_append, opening]
  simp only [saidFront, versionZero, stringText, List.append_assoc, List.length_append, Nat.add_assoc]

theorem prefix_runs (said : Said) (filled buf : Bytes) :
    exec (prefixField (some filled) (.selfAddressing said)) buf =
      (.ok (some (buf.length + 6, buf.length + 6 + filled.length)), buf ++ prefixText (some filled)) := by
  have opening : (asBytes ",\"i\":\"").length = 6 := rfl
  have split : asBytes ",\"i\":\"" ++ (filled ++ [quote]) = prefixText (some filled) := rfl
  simp only [prefixField, exec_bind, place, push, exec_modify, exec_get, exec_pure, List.append_assoc, List.length_append, opening, split,
    Nat.add_assoc]

theorem rot_runs (e : RotationEvent) (form : ThresholdForm) (filled text : Bytes) (messageType : MessageType)
    (adds : Adds (rotationFields e form) (fun _ => ()) text) :
    exec (renderRot e form filled messageType) [] =
      (.ok (layoutOf messageType filled none), eventText messageType versionZero filled none (text ++ asBytes "\x7d")) := by
  simp only [renderRot, exec_bind, head_runs, adds _, push, exec_modify, exec_pure, layoutOf, eventText, prefixText, Option.map_none]
  simp

theorem ixn_runs (e : InteractionEvent) (filled text : Bytes) (adds : Adds (interactionFields e) (fun _ => ()) text) :
    exec (renderIxn e filled) [] = (.ok (layoutOf .ixn filled none), eventText .ixn versionZero filled none (text ++ asBytes "\x7d")) := by
  simp only [renderIxn, exec_bind, head_runs, adds _, push, exec_modify, exec_pure, layoutOf, eventText, prefixText, Option.map_none]
  simp

def inceptionEnd (delegator : Option Identifier) : Write Unit := do
  delegatorField delegator
  push (asBytes "\x7d")

theorem end_adds : Adds (inceptionEnd none) (fun _ => ()) (asBytes "\x7d") :=
  adds_both _ _ _ _ (adds_pure ()) (adds_push (asBytes "\x7d"))

theorem delegated_end_adds (delegator : Identifier) (text : Bytes) (adds : Adds (encodeIdentifier delegator) (fun _ => ()) text) :
    Adds (inceptionEnd (some delegator)) (fun _ => ()) (asBytes ",\"di\":" ++ text ++ asBytes "\x7d") :=
  adds_both _ _ _ _ (adds_both _ _ _ _ (adds_push (asBytes ",\"di\":")) adds) (adds_push (asBytes "\x7d"))

theorem icp_runs (e : InceptionEvent) (form : ThresholdForm) (filled text ending : Bytes) (prefixFilled : Option Bytes) (messageType : MessageType)
    (delegator : Option Identifier) (adds : Adds (inceptionFields e form) (fun _ => ()) text)
    (ends : Adds (inceptionEnd delegator) (fun _ => ()) ending) (own : Bytes)
    (field : exec (prefixField prefixFilled e.pfx) (saidFront messageType versionZero ++ (filled ++ [quote])) =
      (.ok (layoutOf messageType filled prefixFilled).pfx, saidFront messageType versionZero ++ (filled ++ [quote]) ++ own)) :
    exec (renderIcp e form filled prefixFilled messageType delegator) [] =
      (.ok (layoutOf messageType filled prefixFilled),
        saidFront messageType versionZero ++ (filled ++ (quote :: (own ++ (text ++ ending))))) := by
  have closing : ∀ layout : EventLayout, (do delegatorField delegator; push (asBytes "\x7d"); pure layout : Write EventLayout) =
      inceptionEnd delegator >>= fun _ => pure layout := by
    intro layout
    simp only [inceptionEnd, bind_assoc]
  rw [renderIcp, exec_bind, head_runs]
  simp only [closing]
  rw [exec_bind, field]
  simp only []
  rw [exec_bind, adds _]
  simp only []
  rw [exec_bind, ends _]
  simp only [exec_pure, List.append_assoc, List.cons_append, List.nil_append]
  rfl

end Layout

end Codec

end Cesr
