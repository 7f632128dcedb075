import Cesr.Core.Primitives

set_option autoImplicit false

namespace Cesr

inductive Algorithm where
  | ed25519
  | secp256k1
  | secp256r1
deriving DecidableEq, Repr

def Algorithm.ownsIndexed : Algorithm → IndexedSigCode → Bool
  | .ed25519, code =>
      code == .ed25519 || code == .ed25519Crt || code == .ed25519Big || code == .ed25519BigCrt
  | .secp256k1, code =>
      code == .ecdsa256k1 || code == .ecdsa256k1Crt || code == .ecdsa256k1Big || code == .ecdsa256k1BigCrt
  | .secp256r1, code =>
      code == .ecdsa256r1 || code == .ecdsa256r1Crt || code == .ecdsa256r1Big || code == .ecdsa256r1BigCrt

inductive SignatureError where
  | signingFailed (detail : String)
  | invalidSignatureLength (expected actual : Nat)
  | invalid
  | verificationFailed (detail : String)
  | codeMismatch (expected actual : String)
deriving DecidableEq, Repr

-- The two codes of a mismatch are kept as codes; the source renders both.
inductive VerificationError where
  | signature (error : SignatureError)
  | incompatibleCodes (verkey : VerKeyCode) (signature : IndexedSigCode)
  | unsupportedAlgorithm (verkey : VerKeyCode)
deriving DecidableEq, Repr

inductive IndexedVerifyError where
  | indexOutOfRange (index : U32) (keyCount : Nat)
  | verification (error : VerificationError)
deriving DecidableEq, Repr

-- The curve libraries and the hash functions are outside the repository. A
-- signature is judged from the raw key, the message and the raw signature; a
-- committed digest is judged against the qualified text of a key.
structure Crypto where
  verifyBytes : Algorithm → Bytes → Bytes → Bytes → Except SignatureError Unit
  commits : Matter DigestCode → Matter VerKeyCode → Bool

variable (crypto : Crypto)

def verifyAs (algorithm : Algorithm) (verfer : Matter VerKeyCode) (data : Bytes) (sig : Siger) :
    Except VerificationError Unit :=
  if algorithm.ownsIndexed sig.code then
    (crypto.verifyBytes algorithm verfer.raw data sig.raw).mapError .signature
  else .error (.incompatibleCodes verfer.code sig.code)

def verify (verfer : Matter VerKeyCode) (data : Bytes) (sig : Siger) : Except VerificationError Unit :=
  match verfer.code with
  | .ed25519 | .ed25519N => verifyAs crypto .ed25519 verfer data sig
  | .ecdsa256k1 | .ecdsa256k1N => verifyAs crypto .secp256k1 verfer data sig
  | .ecdsa256r1 | .ecdsa256r1N => verifyAs crypto .secp256r1 verfer data sig
  | .ed448 | .ed448N => .error (.unsupportedAlgorithm verfer.code)

def Verifies (verfer : Matter VerKeyCode) (data : Bytes) (sig : Siger) : Prop :=
  (verify crypto verfer data sig).isOk = true

instance (verfer : Matter VerKeyCode) (data : Bytes) (sig : Siger) :
    Decidable (Verifies crypto verfer data sig) :=
  inferInstanceAs (Decidable ((verify crypto verfer data sig).isOk = true))

theorem verify_congr (verfer : Matter VerKeyCode) (data : Bytes) (left right : Siger)
    (code : left.code = right.code) (raw : left.raw = right.raw) :
    verify crypto verfer data left = verify crypto verfer data right := by
  unfold verify verifyAs
  rw [code, raw]

end Cesr
