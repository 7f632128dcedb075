import Cesr.Core.Base64

set_option autoImplicit false

namespace Cesr

open Sextets Base64 Checks

inductive SizeType where
  | fixed (size : Nat)
  | small
  | large
deriving DecidableEq, Repr

structure Sizage where
  hs : Nat
  ss : Nat
  xs : Nat
  fs : SizeType
  ls : Nat
deriving DecidableEq, Repr

def Sizage.cs (sizage : Sizage) : Nat := sizage.hs + sizage.ss

def Sizage.ps (sizage : Sizage) : Nat := sizage.cs % 4

inductive MatterPart where
  | head
  | soft
  | xtra
  | padBits
  | leadBytes
deriving DecidableEq, Repr

-- What the UTF-8 and Base64 libraries report of a failure is not kept.
inductive ParsingError where
  | emptyStream
  | streamTooShort (part : MatterPart)
  | unknownMatterCode (code : String)
  | malformedCode (part : MatterPart) (found : String)
  | conversion (error : Base64Error)
  | invalidUtf8
  | base64
deriving DecidableEq, Repr

inductive ValidationError where
  | unknownMatterCode (code : String)
  | missingSoft (code : String)
  | incorrectSoftLength (code : String) (expected found : Nat)
  | invalidSoftFormat (code : String)
  | incorrectRawSize (code : String) (expected found : Nat)
  | invalidSizingOperation (code : String)
  | nonCanonicalEncoding (part : MatterPart)
  | structuralIntegrityError
  | sizeOverflow
deriving DecidableEq, Repr

inductive MatterBuildError where
  | parsing (error : ParsingError)
  | validation (error : ValidationError)
deriving DecidableEq, Repr

inductive MatterCode where
  | ed25519Seed
  | ed25519N
  | x25519
  | ed25519
  | blake3_256
  | blake2b_256
  | blake2s_256
  | sha3_256
  | sha2_256
  | ecdsa256k1Seed
  | ed448Seed
  | x448
  | short
  | big
  | x25519Private
  | x25519CipherSeed
  | ecdsa256r1Seed
  | tall
  | large
  | great
  | vast
  | label1
  | label2
  | tag3
  | tag7
  | tag11
  | salt256
  | salt128
  | ed25519Sig
  | ecdsa256k1Sig
  | blake3_512
  | blake2b_512
  | sha3_512
  | sha2_512
  | long
  | ecdsa256r1Sig
  | tag1
  | tag2
  | tag5
  | tag6
  | tag9
  | tag10
  | gramHeadNeck
  | gramHead
  | gramHeadAIDNeck
  | gramHeadAID
  | ecdsa256k1N
  | ecdsa256k1
  | ed448N
  | ed448
  | ed448Sig
  | tag4
  | dateTime
  | x25519CipherSalt
  | ecdsa256r1N
  | ecdsa256r1
  | null
  | no
  | yes
  | tag8
  | escape
  | empty
  | tbd0S
  | tbd0
  | tbd1S
  | tbd1
  | tbd2S
  | tbd2
  | strB64_L0
  | strB64_L1
  | strB64_L2
  | strB64Big_L0
  | strB64Big_L1
  | strB64Big_L2
  | bytes_L0
  | bytes_L1
  | bytes_L2
  | bytesBig_L0
  | bytesBig_L1
  | bytesBig_L2
  | x25519Cipher_L0
  | x25519Cipher_L1
  | x25519Cipher_L2
  | x25519CipherBig_L0
  | x25519CipherBig_L1
  | x25519CipherBig_L2
  | x25519CipherQB64_L0
  | x25519CipherQB64_L1
  | x25519CipherQB64_L2
  | x25519CipherQB64Big_L0
  | x25519CipherQB64Big_L1
  | x25519CipherQB64Big_L2
  | x25519CipherQB2_L0
  | x25519CipherQB2_L1
  | x25519CipherQB2_L2
  | x25519CipherQB2Big_L0
  | x25519CipherQB2Big_L1
  | x25519CipherQB2Big_L2
  | hpkeBaseCipher_L0
  | hpkeBaseCipher_L1
  | hpkeBaseCipher_L2
  | hpkeBaseCipherBig_L0
  | hpkeBaseCipherBig_L1
  | hpkeBaseCipherBig_L2
  | decimal_L0
  | decimal_L1
  | decimal_L2
  | decimalBig_L0
  | decimalBig_L1
  | decimalBig_L2
deriving DecidableEq, Repr

def MatterCode.asStr : MatterCode → String
  | .ed25519Seed => "A"
  | .ed25519N => "B"
  | .x25519 => "C"
  | .ed25519 => "D"
  | .blake3_256 => "E"
  | .blake2b_256 => "F"
  | .blake2s_256 => "G"
  | .sha3_256 => "H"
  | .sha2_256 => "I"
  | .ecdsa256k1Seed => "J"
  | .ed448Seed => "K"
  | .x448 => "L"
  | .short => "M"
  | .big => "N"
  | .x25519Private => "O"
  | .x25519CipherSeed => "P"
  | .ecdsa256r1Seed => "Q"
  | .tall => "R"
  | .large => "S"
  | .great => "T"
  | .vast => "U"
  | .label1 => "V"
  | .label2 => "W"
  | .tag3 => "X"
  | .tag7 => "Y"
  | .tag11 => "Z"
  | .salt256 => "a"
  | .salt128 => "0A"
  | .ed25519Sig => "0B"
  | .ecdsa256k1Sig => "0C"
  | .blake3_512 => "0D"
  | .blake2b_512 => "0E"
  | .sha3_512 => "0F"
  | .sha2_512 => "0G"
  | .long => "0H"
  | .ecdsa256r1Sig => "0I"
  | .tag1 => "0J"
  | .tag2 => "0K"
  | .tag5 => "0L"
  | .tag6 => "0M"
  | .tag9 => "0N"
  | .tag10 => "0O"
  | .gramHeadNeck => "0P"
  | .gramHead => "0Q"
  | .gramHeadAIDNeck => "0R"
  | .gramHeadAID => "0S"
  | .ecdsa256k1N => "1AAA"
  | .ecdsa256k1 => "1AAB"
  | .ed448N => "1AAC"
  | .ed448 => "1AAD"
  | .ed448Sig => "1AAE"
  | .tag4 => "1AAF"
  | .dateTime => "1AAG"
  | .x25519CipherSalt => "1AAH"
  | .ecdsa256r1N => "1AAI"
  | .ecdsa256r1 => "1AAJ"
  | .null => "1AAK"
  | .no => "1AAL"
  | .yes => "1AAM"
  | .tag8 => "1AAN"
  | .escape => "1AAO"
  | .empty => "1AAP"
  | .tbd0S => "1__-"
  | .tbd0 => "1___"
  | .tbd1S => "2__-"
  | .tbd1 => "2___"
  | .tbd2S => "3__-"
  | .tbd2 => "3___"
  | .strB64_L0 => "4A"
  | .strB64_L1 => "5A"
  | .strB64_L2 => "6A"
  | .strB64Big_L0 => "7AAA"
  | .strB64Big_L1 => "8AAA"
  | .strB64Big_L2 => "9AAA"
  | .bytes_L0 => "4B"
  | .bytes_L1 => "5B"
  | .bytes_L2 => "6B"
  | .bytesBig_L0 => "7AAB"
  | .bytesBig_L1 => "8AAB"
  | .bytesBig_L2 => "9AAB"
  | .x25519Cipher_L0 => "4C"
  | .x25519Cipher_L1 => "5C"
  | .x25519Cipher_L2 => "6C"
  | .x25519CipherBig_L0 => "7AAC"
  | .x25519CipherBig_L1 => "8AAC"
  | .x25519CipherBig_L2 => "9AAC"
  | .x25519CipherQB64_L0 => "4D"
  | .x25519CipherQB64_L1 => "5D"
  | .x25519CipherQB64_L2 => "6D"
  | .x25519CipherQB64Big_L0 => "7AAD"
  | .x25519CipherQB64Big_L1 => "8AAD"
  | .x25519CipherQB64Big_L2 => "9AAD"
  | .x25519CipherQB2_L0 => "4E"
  | .x25519CipherQB2_L1 => "5E"
  | .x25519CipherQB2_L2 => "6E"
  | .x25519CipherQB2Big_L0 => "7AAE"
  | .x25519CipherQB2Big_L1 => "8AAE"
  | .x25519CipherQB2Big_L2 => "9AAE"
  | .hpkeBaseCipher_L0 => "4F"
  | .hpkeBaseCipher_L1 => "5F"
  | .hpkeBaseCipher_L2 => "6F"
  | .hpkeBaseCipherBig_L0 => "7AAF"
  | .hpkeBaseCipherBig_L1 => "8AAF"
  | .hpkeBaseCipherBig_L2 => "9AAF"
  | .decimal_L0 => "4H"
  | .decimal_L1 => "5H"
  | .decimal_L2 => "6H"
  | .decimalBig_L0 => "7AAH"
  | .decimalBig_L1 => "8AAH"
  | .decimalBig_L2 => "9AAH"

-- The variants in declaration order, as the derived iteration yields them.
def MatterCode.all : List MatterCode :=
  [.ed25519Seed, .ed25519N, .x25519, .ed25519, .blake3_256, .blake2b_256, .blake2s_256, .sha3_256, .sha2_256,
    .ecdsa256k1Seed, .ed448Seed, .x448, .short, .big, .x25519Private, .x25519CipherSeed, .ecdsa256r1Seed, .tall,
    .large, .great, .vast, .label1, .label2, .tag3, .tag7, .tag11, .salt256, .salt128, .ed25519Sig, .ecdsa256k1Sig,
    .blake3_512, .blake2b_512, .sha3_512, .sha2_512, .long, .ecdsa256r1Sig, .tag1, .tag2, .tag5, .tag6, .tag9,
    .tag10, .gramHeadNeck, .gramHead, .gramHeadAIDNeck, .gramHeadAID, .ecdsa256k1N, .ecdsa256k1, .ed448N, .ed448,
    .ed448Sig, .tag4, .dateTime, .x25519CipherSalt, .ecdsa256r1N, .ecdsa256r1, .null, .no, .yes, .tag8, .escape,
    .empty, .tbd0S, .tbd0, .tbd1S, .tbd1, .tbd2S, .tbd2, .strB64_L0, .strB64_L1, .strB64_L2, .strB64Big_L0,
    .strB64Big_L1, .strB64Big_L2, .bytes_L0, .bytes_L1, .bytes_L2, .bytesBig_L0, .bytesBig_L1, .bytesBig_L2,
    .x25519Cipher_L0, .x25519Cipher_L1, .x25519Cipher_L2, .x25519CipherBig_L0, .x25519CipherBig_L1,
    .x25519CipherBig_L2, .x25519CipherQB64_L0, .x25519CipherQB64_L1, .x25519CipherQB64_L2, .x25519CipherQB64Big_L0,
    .x25519CipherQB64Big_L1, .x25519CipherQB64Big_L2, .x25519CipherQB2_L0, .x25519CipherQB2_L1,
    .x25519CipherQB2_L2, .x25519CipherQB2Big_L0, .x25519CipherQB2Big_L1, .x25519CipherQB2Big_L2,
    .hpkeBaseCipher_L0, .hpkeBaseCipher_L1, .hpkeBaseCipher_L2, .hpkeBaseCipherBig_L0, .hpkeBaseCipherBig_L1,
    .hpkeBaseCipherBig_L2, .decimal_L0, .decimal_L1, .decimal_L2, .decimalBig_L0, .decimalBig_L1, .decimalBig_L2]

def MatterCode.fromStr (text : String) : Option MatterCode := MatterCode.all.find? fun code => code.asStr == text

def MatterCode.getSizage : MatterCode → Sizage
  | .ed25519Seed | .ed25519N | .x25519 | .ed25519 | .blake3_256 | .blake2b_256 | .blake2s_256 | .sha3_256
    | .sha2_256 | .ecdsa256k1Seed | .x25519Private | .ecdsa256r1Seed | .salt256 => ⟨1, 0, 0, .fixed 44, 0⟩
  | .ed448Seed | .x448 => ⟨1, 0, 0, .fixed 76, 0⟩
  | .short | .label2 => ⟨1, 0, 0, .fixed 4, 0⟩
  | .big => ⟨1, 0, 0, .fixed 12, 0⟩
  | .x25519CipherSeed => ⟨1, 0, 0, .fixed 124, 0⟩
  | .tall => ⟨1, 0, 0, .fixed 8, 0⟩
  | .large => ⟨1, 0, 0, .fixed 16, 0⟩
  | .great => ⟨1, 0, 0, .fixed 20, 0⟩
  | .vast => ⟨1, 0, 0, .fixed 24, 0⟩
  | .label1 => ⟨1, 0, 0, .fixed 4, 1⟩
  | .tag3 => ⟨1, 3, 0, .fixed 4, 0⟩
  | .tag7 => ⟨1, 7, 0, .fixed 8, 0⟩
  | .tag11 => ⟨1, 11, 0, .fixed 12, 0⟩
  | .salt128 => ⟨2, 0, 0, .fixed 24, 0⟩
  | .ed25519Sig | .ecdsa256k1Sig | .blake3_512 | .blake2b_512 | .sha3_512 | .sha2_512 | .ecdsa256r1Sig =>
      ⟨2, 0, 0, .fixed 88, 0⟩
  | .long => ⟨2, 0, 0, .fixed 8, 0⟩
  | .tag1 => ⟨2, 2, 1, .fixed 4, 0⟩
  | .tag2 => ⟨2, 2, 0, .fixed 4, 0⟩
  | .tag5 => ⟨2, 6, 1, .fixed 8, 0⟩
  | .tag6 => ⟨2, 6, 0, .fixed 8, 0⟩
  | .tag9 => ⟨2, 10, 1, .fixed 12, 0⟩
  | .tag10 => ⟨2, 10, 0, .fixed 12, 0⟩
  | .gramHeadNeck => ⟨2, 22, 0, .fixed 32, 0⟩
  | .gramHead => ⟨2, 22, 0, .fixed 28, 0⟩
  | .gramHeadAIDNeck => ⟨2, 22, 0, .fixed 76, 0⟩
  | .gramHeadAID => ⟨2, 22, 0, .fixed 72, 0⟩
  | .ecdsa256k1N | .ecdsa256k1 | .ecdsa256r1N | .ecdsa256r1 => ⟨4, 0, 0, .fixed 48, 0⟩
  | .ed448N | .ed448 => ⟨4, 0, 0, .fixed 80, 0⟩
  | .ed448Sig => ⟨4, 0, 0, .fixed 156, 0⟩
  | .tag4 => ⟨4, 4, 0, .fixed 8, 0⟩
  | .dateTime => ⟨4, 0, 0, .fixed 36, 0⟩
  | .x25519CipherSalt => ⟨4, 0, 0, .fixed 100, 0⟩
  | .null | .no | .yes | .escape | .empty => ⟨4, 0, 0, .fixed 4, 0⟩
  | .tag8 => ⟨4, 8, 0, .fixed 12, 0⟩
  | .tbd0S => ⟨4, 2, 0, .fixed 12, 0⟩
  | .tbd0 => ⟨4, 0, 0, .fixed 8, 0⟩
  | .tbd1S => ⟨4, 2, 1, .fixed 12, 1⟩
  | .tbd1 => ⟨4, 0, 0, .fixed 8, 1⟩
  | .tbd2S => ⟨4, 2, 0, .fixed 12, 2⟩
  | .tbd2 => ⟨4, 0, 0, .fixed 8, 2⟩
  | .strB64_L0 | .bytes_L0 | .x25519Cipher_L0 | .x25519CipherQB64_L0 | .x25519CipherQB2_L0 | .hpkeBaseCipher_L0
    | .decimal_L0 => ⟨2, 2, 0, .small, 0⟩
  | .strB64_L1 | .bytes_L1 | .x25519Cipher_L1 | .x25519CipherQB64_L1 | .x25519CipherQB2_L1 | .hpkeBaseCipher_L1
    | .decimal_L1 => ⟨2, 2, 0, .small, 1⟩
  | .strB64_L2 | .bytes_L2 | .x25519Cipher_L2 | .x25519CipherQB64_L2 | .x25519CipherQB2_L2 | .hpkeBaseCipher_L2
    | .decimal_L2 => ⟨2, 2, 0, .small, 2⟩
  | .strB64Big_L0 | .bytesBig_L0 | .x25519CipherBig_L0 | .x25519CipherQB64Big_L0 | .x25519CipherQB2Big_L0
    | .hpkeBaseCipherBig_L0 | .decimalBig_L0 => ⟨4, 4, 0, .large, 0⟩
  | .strB64Big_L1 | .bytesBig_L1 | .x25519CipherBig_L1 | .x25519CipherQB64Big_L1 | .x25519CipherQB2Big_L1
    | .hpkeBaseCipherBig_L1 | .decimalBig_L1 => ⟨4, 4, 0, .large, 1⟩
  | .strB64Big_L2 | .bytesBig_L2 | .x25519CipherBig_L2 | .x25519CipherQB64Big_L2 | .x25519CipherQB2Big_L2
    | .hpkeBaseCipherBig_L2 | .decimalBig_L2 => ⟨4, 4, 0, .large, 2⟩

def MatterCode.rawSize (code : MatterCode) : Except ValidationError Nat :=
  match code.getSizage.fs with
  | .fixed size => .ok ((size - code.getSizage.cs) * 3 / 4 - code.getSizage.ls)
  | .small | .large => .error (.invalidSizingOperation code.asStr)

def getHardSizeFromByte (byte : UInt8) : Option Nat :=
  if (0x41 ≤ byte ∧ byte ≤ 0x5A) ∨ (0x61 ≤ byte ∧ byte ≤ 0x7A) then some 1
  else if byte = 0x30 ∨ byte = 0x34 ∨ byte = 0x35 ∨ byte = 0x36 then some 2
  else if byte = 0x31 ∨ byte = 0x32 ∨ byte = 0x33 ∨ byte = 0x37 ∨ byte = 0x38 ∨ byte = 0x39 then some 4
  else none

def getHardSizeFromSextet (sextet : Nat) : Option Nat :=
  if sextet ≤ 51 then some 1
  else if sextet = 52 ∨ sextet = 56 ∨ sextet = 57 ∨ sextet = 58 then some 2
  else if sextet = 53 ∨ sextet = 54 ∨ sextet = 55 ∨ sextet = 59 ∨ sextet = 60 ∨ sextet = 61 then some 4
  else none

def parseUtf8 (bytes : Bytes) : Except ParsingError String :=
  match fromUtf8 bytes with
  | some text => .ok text
  | none => .error .invalidUtf8

def parseCode (text : String) : Except ParsingError MatterCode :=
  match MatterCode.fromStr text with
  | some code => .ok code
  | none => .error (.unknownMatterCode text)

def MatterCode.fromBase64Stream (stream : Bytes) : Except ParsingError MatterCode :=
  match stream.head? with
  | none => .error .emptyStream
  | some first =>
      match getHardSizeFromByte first with
      | none => .error (.malformedCode .head (toString first.toNat))
      | some hs => do
          rejectIf (stream.length < hs) (.streamTooShort .head)
          let codeStr ← parseUtf8 (stream.take hs)
          parseCode codeStr

def MatterCode.fromStream (stream : Bytes) : Except ParsingError MatterCode :=
  match stream.head? with
  | none => .error .emptyStream
  | some first =>
      match getHardSizeFromSextet (first.toNat / 4) with
      | none => .error (.malformedCode .head (toString (first.toNat / 4)))
      | some hardSize => do
          rejectIf (stream.length < (hardSize * 3 + 3) / 4) (.streamTooShort .head)
          let codeStr ← (encodeBinary stream hardSize).mapError .conversion
          parseCode (asciiText codeStr)

-- A typed family of codes: each reads as the matter code it stands for.
class CesrCode (Code : Type) where
  toMatterCode : Code → MatterCode
  asStr : Code → String
  as_str_to_matter : ∀ code, asStr code = (toMatterCode code).asStr

instance matterCodeCesrCode : CesrCode MatterCode where
  toMatterCode code := code
  asStr := MatterCode.asStr
  as_str_to_matter _ := rfl

def DigestCode.toMatterCode : DigestCode → MatterCode
  | .blake3_256 => .blake3_256
  | .blake2b_256 => .blake2b_256
  | .blake2s_256 => .blake2s_256
  | .sha3_256 => .sha3_256
  | .sha2_256 => .sha2_256
  | .blake3_512 => .blake3_512
  | .blake2b_512 => .blake2b_512
  | .sha3_512 => .sha3_512
  | .sha2_512 => .sha2_512

def DigestCode.asStr : DigestCode → String
  | .blake3_256 => "E"
  | .blake2b_256 => "F"
  | .blake2s_256 => "G"
  | .sha3_256 => "H"
  | .sha2_256 => "I"
  | .blake3_512 => "0D"
  | .blake2b_512 => "0E"
  | .sha3_512 => "0F"
  | .sha2_512 => "0G"

instance digestCodeCesrCode : CesrCode DigestCode where
  toMatterCode := DigestCode.toMatterCode
  asStr := DigestCode.asStr
  as_str_to_matter code := by cases code <;> rfl

def VerKeyCode.toMatterCode : VerKeyCode → MatterCode
  | .ed25519 => .ed25519
  | .ed25519N => .ed25519N
  | .ecdsa256k1 => .ecdsa256k1
  | .ecdsa256k1N => .ecdsa256k1N
  | .ed448 => .ed448
  | .ed448N => .ed448N
  | .ecdsa256r1 => .ecdsa256r1
  | .ecdsa256r1N => .ecdsa256r1N

def VerKeyCode.asStr : VerKeyCode → String
  | .ed25519 => "D"
  | .ed25519N => "B"
  | .ecdsa256k1 => "1AAB"
  | .ecdsa256k1N => "1AAA"
  | .ed448 => "1AAD"
  | .ed448N => "1AAC"
  | .ecdsa256r1 => "1AAJ"
  | .ecdsa256r1N => "1AAI"

instance verKeyCodeCesrCode : CesrCode VerKeyCode where
  toMatterCode := VerKeyCode.toMatterCode
  asStr := VerKeyCode.asStr
  as_str_to_matter code := by cases code <;> rfl

def NumberCode.toMatterCode : NumberCode → MatterCode
  | .short => .short
  | .long => .long
  | .tall => .tall
  | .big => .big
  | .large => .large
  | .great => .great
  | .vast => .vast

def NumberCode.asStr : NumberCode → String
  | .short => "M"
  | .long => "0H"
  | .tall => "R"
  | .big => "N"
  | .large => "S"
  | .great => "T"
  | .vast => "U"

instance numberCodeCesrCode : CesrCode NumberCode where
  toMatterCode := NumberCode.toMatterCode
  asStr := NumberCode.asStr
  as_str_to_matter code := by cases code <;> rfl

def VerserCode.toMatterCode : VerserCode → MatterCode
  | .tag7 => .tag7
  | .tag10 => .tag10

def VerserCode.asStr : VerserCode → String
  | .tag7 => "Y"
  | .tag10 => "0O"

instance verserCodeCesrCode : CesrCode VerserCode where
  toMatterCode := VerserCode.toMatterCode
  asStr := VerserCode.asStr
  as_str_to_matter code := by cases code <;> rfl

inductive SignatureCode where
  | ed25519Sig
  | ecdsa256k1Sig
  | ecdsa256r1Sig
  | ed448Sig
deriving DecidableEq, Repr

def SignatureCode.toMatterCode : SignatureCode → MatterCode
  | .ed25519Sig => .ed25519Sig
  | .ecdsa256k1Sig => .ecdsa256k1Sig
  | .ecdsa256r1Sig => .ecdsa256r1Sig
  | .ed448Sig => .ed448Sig

def SignatureCode.asStr : SignatureCode → String
  | .ed25519Sig => "0B"
  | .ecdsa256k1Sig => "0C"
  | .ecdsa256r1Sig => "0I"
  | .ed448Sig => "1AAE"

instance signatureCodeCesrCode : CesrCode SignatureCode where
  toMatterCode := SignatureCode.toMatterCode
  asStr := SignatureCode.asStr
  as_str_to_matter code := by cases code <;> rfl

inductive NoncerCode where
  | empty
  | salt128
  | salt256
  | blake3_256
  | blake2b_256
  | blake2s_256
  | sha3_256
  | sha2_256
  | blake3_512
  | blake2b_512
  | sha3_512
  | sha2_512
deriving DecidableEq, Repr

def NoncerCode.toMatterCode : NoncerCode → MatterCode
  | .empty => .empty
  | .salt128 => .salt128
  | .salt256 => .salt256
  | .blake3_256 => .blake3_256
  | .blake2b_256 => .blake2b_256
  | .blake2s_256 => .blake2s_256
  | .sha3_256 => .sha3_256
  | .sha2_256 => .sha2_256
  | .blake3_512 => .blake3_512
  | .blake2b_512 => .blake2b_512
  | .sha3_512 => .sha3_512
  | .sha2_512 => .sha2_512

def NoncerCode.asStr : NoncerCode → String
  | .empty => "1AAP"
  | .salt128 => "0A"
  | .salt256 => "a"
  | .blake3_256 => "E"
  | .blake2b_256 => "F"
  | .blake2s_256 => "G"
  | .sha3_256 => "H"
  | .sha2_256 => "I"
  | .blake3_512 => "0D"
  | .blake2b_512 => "0E"
  | .sha3_512 => "0F"
  | .sha2_512 => "0G"

instance noncerCodeCesrCode : CesrCode NoncerCode where
  toMatterCode := NoncerCode.toMatterCode
  asStr := NoncerCode.asStr
  as_str_to_matter code := by cases code <;> rfl

inductive LabelerCode where
  | empty
  | tag1
  | tag2
  | tag3
  | tag4
  | tag5
  | tag6
  | tag7
  | tag8
  | tag9
  | tag10
  | tag11
  | label1
  | label2
  | strB64_L0
  | strB64_L1
  | strB64_L2
  | strB64Big_L0
  | strB64Big_L1
  | strB64Big_L2
  | bytes_L0
  | bytes_L1
  | bytes_L2
  | bytesBig_L0
  | bytesBig_L1
  | bytesBig_L2
deriving DecidableEq, Repr

def LabelerCode.toMatterCode : LabelerCode → MatterCode
  | .empty => .empty
  | .tag1 => .tag1
  | .tag2 => .tag2
  | .tag3 => .tag3
  | .tag4 => .tag4
  | .tag5 => .tag5
  | .tag6 => .tag6
  | .tag7 => .tag7
  | .tag8 => .tag8
  | .tag9 => .tag9
  | .tag10 => .tag10
  | .tag11 => .tag11
  | .label1 => .label1
  | .label2 => .label2
  | .strB64_L0 => .strB64_L0
  | .strB64_L1 => .strB64_L1
  | .strB64_L2 => .strB64_L2
  | .strB64Big_L0 => .strB64Big_L0
  | .strB64Big_L1 => .strB64Big_L1
  | .strB64Big_L2 => .strB64Big_L2
  | .bytes_L0 => .bytes_L0
  | .bytes_L1 => .bytes_L1
  | .bytes_L2 => .bytes_L2
  | .bytesBig_L0 => .bytesBig_L0
  | .bytesBig_L1 => .bytesBig_L1
  | .bytesBig_L2 => .bytesBig_L2

def LabelerCode.asStr : LabelerCode → String
  | .empty => "1AAP"
  | .tag1 => "0J"
  | .tag2 => "0K"
  | .tag3 => "X"
  | .tag4 => "1AAF"
  | .tag5 => "0L"
  | .tag6 => "0M"
  | .tag7 => "Y"
  | .tag8 => "1AAN"
  | .tag9 => "0N"
  | .tag10 => "0O"
  | .tag11 => "Z"
  | .label1 => "V"
  | .label2 => "W"
  | .strB64_L0 => "4A"
  | .strB64_L1 => "5A"
  | .strB64_L2 => "6A"
  | .strB64Big_L0 => "7AAA"
  | .strB64Big_L1 => "8AAA"
  | .strB64Big_L2 => "9AAA"
  | .bytes_L0 => "4B"
  | .bytes_L1 => "5B"
  | .bytes_L2 => "6B"
  | .bytesBig_L0 => "7AAB"
  | .bytesBig_L1 => "8AAB"
  | .bytesBig_L2 => "9AAB"

instance labelerCodeCesrCode : CesrCode LabelerCode where
  toMatterCode := LabelerCode.toMatterCode
  asStr := LabelerCode.asStr
  as_str_to_matter code := by cases code <;> rfl

inductive TexterCode where
  | bytes_L0
  | bytes_L1
  | bytes_L2
  | bytesBig_L0
  | bytesBig_L1
  | bytesBig_L2
deriving DecidableEq, Repr

def TexterCode.toMatterCode : TexterCode → MatterCode
  | .bytes_L0 => .bytes_L0
  | .bytes_L1 => .bytes_L1
  | .bytes_L2 => .bytes_L2
  | .bytesBig_L0 => .bytesBig_L0
  | .bytesBig_L1 => .bytesBig_L1
  | .bytesBig_L2 => .bytesBig_L2

def TexterCode.asStr : TexterCode → String
  | .bytes_L0 => "4B"
  | .bytes_L1 => "5B"
  | .bytes_L2 => "6B"
  | .bytesBig_L0 => "7AAB"
  | .bytesBig_L1 => "8AAB"
  | .bytesBig_L2 => "9AAB"

instance texterCodeCesrCode : CesrCode TexterCode where
  toMatterCode := TexterCode.toMatterCode
  asStr := TexterCode.asStr
  as_str_to_matter code := by cases code <;> rfl

theorem mem_matter_codes (code : MatterCode) : code ∈ MatterCode.all := by
  have place : MatterCode.all[code.ctorIdx]? = some code := by cases code <;> rfl
  exact List.mem_of_getElem? place

-- A decidable fact about the table is checked on the listed codes.
theorem every_matter_code (check : MatterCode → Bool) (passes : MatterCode.all.all check = true) (code : MatterCode) :
    check code = true :=
  List.all_eq_true.mp passes code (mem_matter_codes code)

-- A text read as one number, so that the spellings are told apart by numbers.
def codeNumber (text : String) : Nat := (asBytes text).foldl (fun number byte => number * 256 + byte.toNat) 1

theorem spellings_distinct : (MatterCode.all.map fun code => codeNumber code.asStr).Nodup := by
  have ascending : ((MatterCode.all.map fun code => codeNumber code.asStr).insertionSort (· ≤ ·)).IsChain (· < ·) := by
    decide +kernel
  have sorted := (List.isChain_iff_pairwise.mp ascending).imp Nat.ne_of_lt
  exact (List.perm_insertionSort (· ≤ ·) _).nodup_iff.mp sorted

theorem matter_code_spelled_once (first second : MatterCode) (same : first.asStr = second.asStr) : first = second :=
  List.inj_on_of_nodup_map spellings_distinct (mem_matter_codes first) (mem_matter_codes second)
    (congrArg codeNumber same)

theorem from_str_as_str (code : MatterCode) : MatterCode.fromStr code.asStr = some code := by
  unfold MatterCode.fromStr
  cases found : MatterCode.all.find? fun other => other.asStr == code.asStr with
  | none => exact absurd (List.find?_eq_none.mp found code (mem_matter_codes code)) (by simp)
  | some other =>
      have spelled := List.find?_some found
      rw [beq_iff_eq] at spelled
      rw [matter_code_spelled_once other code spelled]

theorem from_str_some (text : String) (code : MatterCode) :
    MatterCode.fromStr text = some code ↔ code.asStr = text := by
  apply Iff.intro
  · intro found
    unfold MatterCode.fromStr at found
    have spelled := List.find?_some found
    simp only [beq_iff_eq] at spelled
    exact spelled
  · intro same
    rw [← same, from_str_as_str]

end Cesr
