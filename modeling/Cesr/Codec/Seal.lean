import Cesr.Codec.Threshold

set_option autoImplicit false

namespace Cesr.Codec

open Checks WriterJson Scanner

inductive ParsedSeal where
  | digest (d : String)
  | root (rd : String)
  | source (s d : String)
  | event (i s d : String)
  | last (i : String)
  | back (bi d : String)
  | kind (t d : String)
  | opaqueSeal (raw : String)
deriving DecidableEq, Repr

def CodecError.isLimit : CodecError → Bool
  | .deserialize (.jsonFieldLimit _ _) => true
  | .deserialize (.jsonDepthLimit _ _) => true
  | _ => false

-- The reader of the first literal that stands here.
def Scanner.dispatch {α : Type} (missing : String) : List (String × Scan α) → Scan α
  | [] => do
      let sc ← get
      reject (sc.err missing)
  | both :: others => do
      if ← takeLit both.1 then both.2 else dispatch missing others

namespace ParsedSeal

def digestBody : Scan ParsedSeal := do
  let d ← stringValue
  expect "\x7d"
  pure (.digest d)

def rootBody : Scan ParsedSeal := do
  let rd ← stringValue
  expect "\x7d"
  pure (.root rd)

def sourceBody : Scan ParsedSeal := do
  let s ← stringValue
  let d ← field ",\"d\":" stringValue
  expect "\x7d"
  pure (.source s d)

def eventBody (i : String) : Scan ParsedSeal := do
  let s ← field ",\"s\":" stringValue
  let d ← field ",\"d\":" stringValue
  expect "\x7d"
  pure (.event i s d)

def identifierBody : Scan ParsedSeal := do
  let i ← stringValue
  if ← takeLit "\x7d" then pure (.last i) else eventBody i

def backBody : Scan ParsedSeal := do
  let bi ← stringValue
  let d ← field ",\"d\":" stringValue
  expect "\x7d"
  pure (.back bi d)

def kindBody : Scan ParsedSeal := do
  let t ← stringValue
  let d ← field ",\"d\":" stringValue
  expect "\x7d"
  pure (.kind t d)

def codexKeys : List (String × Scan ParsedSeal) :=
  [("\"d\":", digestBody), ("\"rd\":", rootBody), ("\"s\":", sourceBody), ("\"i\":", identifierBody), ("\"bi\":", backBody),
    ("\"t\":", kindBody)]

def codex : Scan ParsedSeal := do
  expect "\x7b"
  dispatch "seal object key (\"d\", \"rd\", \"s\", \"i\", \"bi\", or \"t\")" codexKeys

def opaqueText (sc : Scanner) (len : Nat) : Except CodecError String :=
  match fromUtf8 (sc.left.take len) with
  | some raw => .ok raw
  | none => refuse (sc.errAt (sc.pos + validUpTo (sc.left.take len)) "UTF-8 anchor object")

def opaqueBody : Scan ParsedSeal := fun sc => do
  let found ← (OpaqueScan.objectLen sc.left sc.budget).mapError fun source => .deserialize (.invalidAnchor sc.pos source)
  let raw ← opaqueText sc found.1
  pure (.opaqueSeal raw, { sc with pos := sc.pos + found.1, budget := found.2 })

-- The two readers start from the same byte and the same budget.
def decode : Scan ParsedSeal := fun sc =>
  match codex sc with
  | .ok parsed => .ok parsed
  | .error error => if error.isLimit then .error error else opaqueBody sc

end ParsedSeal

def sealFromWire (_ : String) : ParsedSeal → Except DeserializeError Seal
  | .digest d => (saidFromWire "d" d).map Seal.digest
  | .root rd => (saidFromWire "rd" rd).map Seal.root
  | .source s d => do
      let sn ← numberFromWire "s" s
      let said ← saidFromWire "d" d
      pure (.source sn said)
  | .event i s d => do
      let identifier ← identifierFromWire "i" i
      let sn ← numberFromWire "s" s
      let said ← saidFromWire "d" d
      pure (.event identifier sn said)
  | .last i => (identifierFromWire "i" i).map Seal.last
  | .back bi d => do
      let backer ← basicPrefixFromWire "bi" bi
      let said ← saidFromWire "d" d
      pure (.back backer said)
  | .kind t d => do
      let kind ← verserFromWire "t" t
      let said ← saidFromWire "d" d
      pure (.kind kind said)
  | .opaqueSeal raw => .ok (.opaqueSeal raw)

end Cesr.Codec
