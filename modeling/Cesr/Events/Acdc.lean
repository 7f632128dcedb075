import Cesr.Core.MatterBuilder
import Cesr.Events.Primitive

set_option autoImplicit false

namespace Cesr

-- The payload of a block is the text of its JSON.
inductive AcdcField where
  | said (said : Said)
  | block (payload : String)
deriving DecidableEq, Repr

structure Acdc where
  said : Said
  nonce : Option (Matter NoncerCode)
  issuer : Identifier
  registry : Option AcdcField
  schema : AcdcField
  attributes : Option AcdcField
  aggregateAttributes : Option Digest
  edges : Option AcdcField
  rules : Option AcdcField
deriving DecidableEq, Repr

-- A parsed JSON value. A number keeps its text; nothing here reads one.
inductive Json where
  | null
  | boolean (value : Bool)
  | number (text : String)
  | string (text : String)
  | array (items : List Json)
  | object (fields : List (String × Json))
deriving Repr

def Json.asStr : Json → Option String
  | .string text => some text
  | _ => none

def Json.asObject : Json → Option (List (String × Json))
  | .object fields => some fields
  | _ => none

def Json.get (value : Json) (key : String) : Option Json := value.asObject.bind fun fields => fields.lookup key

structure JsonLimits where
  maxFields : Nat
  maxDepth : Nat
deriving DecidableEq, Repr

-- The result is none where the encoder panics.
def Matter.toQb64 {Code : Type} [CesrCode Code] (matter : Matter Code) : Option String := matter.toQb64b.bind fromUtf8

def Said.toQb64 (said : Said) : Option String := said.matter.toQb64

def Identifier.toQb64 : Identifier → Option String
  | .basic pfx => pfx.matter.toQb64
  | .selfAddressing said => said.toQb64

def DigestCode.tryFrom : MatterCode → Except ValidationError DigestCode
  | .blake3_256 => .ok .blake3_256
  | .blake2b_256 => .ok .blake2b_256
  | .blake2s_256 => .ok .blake2s_256
  | .sha3_256 => .ok .sha3_256
  | .sha2_256 => .ok .sha2_256
  | .blake3_512 => .ok .blake3_512
  | .blake2b_512 => .ok .blake2b_512
  | .sha3_512 => .ok .sha3_512
  | .sha2_512 => .ok .sha2_512
  | code => .error (.unknownMatterCode code.asStr)

end Cesr
