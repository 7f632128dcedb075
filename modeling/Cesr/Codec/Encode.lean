import Cesr.Lib.Appends
import Cesr.Codec.JsonText
import Cesr.Codec.RadixText
import Cesr.Codec.Said
import Cesr.Codec.Seal

set_option autoImplicit false

namespace Cesr

def ConfigTrait.code : ConfigTrait → String
  | .estOnly => "EO"
  | .doNotDelegate => "DND"
  | .noBackers => "NB"
  | .registrarBackers => "RB"
  | .noRegistrarBackers => "NRB"
  | .delegateIsDelegator => "DID"

namespace Codec

open Calls WriterJson Appends

def writeStr (s : String) : Write Unit := modify fun buf => JsonWriter.writeStr buf s

-- A primitive that no constructor makes has no text, and its encoder panics.
def encodeMatter {Code : Type} [CesrCode Code] (matter : Matter Code) : Write Unit := do
  push [quote]
  match matter.toQb64b with
  | some text => push text
  | none => throw (.said (.digest .panicked))
  push [quote]

def encodeVerifyingKey (key : VerifyingKey) : Write Unit := encodeMatter key.matter

def encodeDigest (digest : Digest) : Write Unit := encodeMatter digest.matter

def encodeSaid (said : Said) : Write Unit := encodeMatter said.matter

def encodeBasicPrefix (pfx : BasicPrefix) : Write Unit := encodeMatter pfx.matter

def encodeIdentifier : Identifier → Write Unit
  | .basic pfx => encodeBasicPrefix pfx
  | .selfAddressing said => encodeSaid said

def encodeNumh (sn : Number) : Write Unit := writeStr (toStrRadix 16 sn.value.val)

def encodeConfigTrait (config : ConfigTrait) : Write Unit := writeStr config.code

def encodeItem {α : Type} (encode : α → Write Unit) (item : α × Nat) : Write Unit := do
  if 0 < item.2 then push (asBytes ",")
  encode item.1

def encodeEach {α : Type} (encode : α → Write Unit) (items : List α) : Write Unit := do
  push (asBytes "[")
  items.zipIdx.forM (encodeItem encode)
  push (asBytes "]")

structure ThresholdField where
  threshold : SigningThreshold
  form : ThresholdForm

structure CountField where
  toad : Toad
  form : ThresholdForm

-- A whole weight is written as the number it is.
def weightToString (weight : Weight) : String :=
  if weight.2.val ≠ 0 ∧ (weight.1.val = 0 ∨ weight.1 = weight.2) then toStrRadix 10 (weight.1.val / weight.2.val)
  else toStrRadix 10 weight.1.val ++ "/" ++ toStrRadix 10 weight.2.val

def weightClause (clause : List Weight) : Write Unit := encodeEach (fun weight => writeStr (weightToString weight)) clause

-- One clause is written without the array around it.
def ThresholdField.encode (field : ThresholdField) : Write Unit :=
  match field.threshold with
  | .simple threshold =>
      match field.form with
      | .hexString => writeStr (toStrRadix 16 threshold.val)
      | .integer => push (asBytes (toStrRadix 10 threshold.val))
  | .weighted threshold =>
      match threshold.clauses with
      | [] => push (asBytes "[]")
      | [single] => weightClause single
      | first :: second :: clauses => do
          push (asBytes "[")
          weightClause first
          push (asBytes ",")
          weightClause second
          clauses.forM fun clause => do
            push (asBytes ",")
            weightClause clause
          push (asBytes "]")

def CountField.encode (field : CountField) : Write Unit :=
  match field.form with
  | .hexString => writeStr (toStrRadix 16 field.toad.value.val)
  | .integer => push (asBytes (toStrRadix 10 field.toad.value.val))

def encodeSeal : Seal → Write Unit
  | .digest d => do
      push (asBytes "\x7b\"d\":")
      encodeSaid d
      push (asBytes "\x7d")
  | .root rd => do
      push (asBytes "\x7b\"rd\":")
      encodeSaid rd
      push (asBytes "\x7d")
  | .source s d => do
      push (asBytes "\x7b\"s\":")
      encodeNumh s
      push (asBytes ",\"d\":")
      encodeSaid d
      push (asBytes "\x7d")
  | .event i s d => do
      push (asBytes "\x7b\"i\":")
      encodeIdentifier i
      push (asBytes ",\"s\":")
      encodeNumh s
      push (asBytes ",\"d\":")
      encodeSaid d
      push (asBytes "\x7d")
  | .last i => do
      push (asBytes "\x7b\"i\":")
      encodeIdentifier i
      push (asBytes "\x7d")
  | .back bi d => do
      push (asBytes "\x7b\"bi\":")
      encodeBasicPrefix bi
      push (asBytes ",\"d\":")
      encodeSaid d
      push (asBytes "\x7d")
  | .kind t d => do
      push (asBytes "\x7b\"t\":")
      encodeMatter t
      push (asBytes ",\"d\":")
      encodeSaid d
      push (asBytes "\x7d")
  | .opaqueSeal raw => push (asBytes raw)

end Codec

end Cesr
