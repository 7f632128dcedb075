import Cesr.Events.Acdc
import Cesr.Keri.Credential

set_option autoImplicit false

namespace Cesr.Keri

open Checks Calls

inductive CredentialError where
  | missingRegistry
  | missingCredentialState
  | missingIssuerState
  | missingRegistryReference
  | registryMismatch
  | issuerMismatch
  | issuerStateMismatch
  | credentialStateMismatch
  | revoked
deriving DecidableEq, Repr

inductive SchemaError where
  | codec
  | schemaMismatch
  | unsupportedSchemaForm
  | unsupportedDisclosure
  | invalidCredential
  | resourceLimit
deriving DecidableEq, Repr

inductive CredentialVerificationError where
  | missingSchema
  | schema (error : SchemaError)
  | status (error : CredentialError)
  | missingChain (said : String)
  | chainClaimMismatch
  | ambiguousChain
  | unsupportedForm
  | malformedEdge
  | unsupportedOperator
  | wrongIssuee
  | cycle
  | resourceLimit
deriving DecidableEq, Repr

-- The JSON reader is outside the repository; the reader of a credential body is
-- taken as any function of the body and the limits.
structure CredentialCodec where
  fromStr : String → Option Json
  fromSlice : Bytes → Option Json
  deserialize : Bytes → JsonLimits → Option Acdc

-- The compiled validator is outside the repository too.
structure VerifiedSchema where
  said : Said
  validates : Json → Bool

structure CredentialEvidence where
  raw : Bytes
  schema : Option VerifiedSchema
  registry : Option RegistryState
  credentialState : Option CredentialState
  issuerState : Option KeyState

structure ChainCredential where
  said : String
  evidence : CredentialEvidence

structure CredentialVerificationLimits where
  json : JsonLimits
  maxDocumentBytes : Nat
  maxNodes : Nat
  maxChainDepth : Nat
deriving DecidableEq, Repr

def present {ε α : Type} (value : Option α) (error : ε) : Except ε α :=
  match value with
  | some found => .ok found
  | none => .error error

@[simp] theorem present_ok {ε α : Type} (value : Option α) (error : ε) (found : α) :
    present value error = .ok found ↔ value = some found := by
  cases value with
  | none => simp [present]
  | some given => simp [present]

namespace CredentialVerifier

def status (credential : Acdc) (registry : Option RegistryState) (credentialState : Option CredentialState)
    (issuerState : Option KeyState) : Except CredentialError Unit := do
  let reg ← present registry .missingRegistry
  let state ← present credentialState .missingCredentialState
  let issuer ← present issuerState .missingIssuerState
  match credential.registry with
  | some (.said registrySaid) => do
      rejectIf (registrySaid ≠ reg.id) .registryMismatch
      rejectIf (credential.issuer ≠ reg.issuer) .issuerMismatch
      rejectIf (issuer.pfx ≠ credential.issuer) .issuerStateMismatch
      rejectIf (state.registry ≠ reg.id ∨ state.credential ≠ credential.said) .credentialStateMismatch
      rejectIf (state.status = .revoked) .revoked
  | _ => .error .missingRegistryReference

end CredentialVerifier

section Verify

variable (codec : CredentialCodec)

def checkSchemaField (schema : VerifiedSchema) : AcdcField → Except SchemaError Unit
  | .said said => rejectIf (said ≠ schema.said) .schemaMismatch
  | .block _ => .error .unsupportedSchemaForm

def disclosesBlock (credential : Acdc) : Bool :=
  credential.aggregateAttributes.isNone &&
    match credential.attributes with
    | some (.block _) => true
    | _ => false

def VerifiedSchema.validateCredential (schema : VerifiedSchema) (raw : Bytes) (limits : JsonLimits) :
    Except SchemaError Acdc := do
  rejectIf (1048576 < raw.length ∨ 128 < limits.maxDepth) .resourceLimit
  let credential ← present (codec.deserialize raw limits) .codec
  checkSchemaField schema credential.schema
  rejectIf (disclosesBlock credential = false) .unsupportedDisclosure
  let value ← present (codec.fromSlice raw) .invalidCredential
  rejectIf (schema.validates value = false) .invalidCredential
  pure credential

def checkRules (credential : Acdc) : Except CredentialVerificationError Unit :=
  match credential.rules with
  | none => .ok ()
  | some (.said _) => .error .unsupportedForm
  | some (.block payload) => do
      let value ← present (codec.fromStr payload) .unsupportedForm
      rejectIf ((value.asObject.any fun fields => fields.isEmpty) = false) .unsupportedForm

inductive EdgeOperator where
  | i2i
  | ni2i
deriving DecidableEq, Repr

structure Link where
  target : String
  operator : Option EdgeOperator
deriving DecidableEq, Repr

def readOperator (value : Option Json) : Except CredentialVerificationError (Option EdgeOperator) :=
  match value with
  | none => .ok none
  | some (.string operation) =>
      if operation = "I2I" then .ok (some .i2i)
      else if operation = "NI2I" then .ok (some .ni2i)
      else .error .unsupportedOperator
  | some _ => .error .malformedEdge

def checkDigestText (target : String) : Except CredentialVerificationError Unit :=
  match fromQualifiedBase64 (asBytes target) with
  | .error _ => .error .malformedEdge
  | .ok matter => do
      let _ ← (DigestCode.tryFrom matter.code).mapError fun _ => CredentialVerificationError.malformedEdge
      pure ()

def readLink (node : Json) : Except CredentialVerificationError Link := do
  let fields ← present node.asObject .malformedEdge
  rejectIf (2 < fields.length ∨ fields.any (fun field => field.1 ≠ "n" ∧ field.1 ≠ "o")) .malformedEdge
  let target ← present ((node.get "n").bind Json.asStr) .malformedEdge
  checkDigestText target
  let operator ← readOperator (node.get "o")
  pure ⟨target, operator⟩

def attributeIssuee (parsed : Acdc) : Except CredentialVerificationError (Option String) :=
  match parsed.attributes with
  | some (.block payload) => do
      let data ← present (codec.fromStr payload) .wrongIssuee
      pure ((data.get "i").bind Json.asStr)
  | _ => .ok none

def needsI2i (operator : Option EdgeOperator) (issuee : Option String) : Prop :=
  operator = some .i2i ∨ (operator = none ∧ issuee.isSome = true)

instance needsI2iDecidable (operator : Option EdgeOperator) (issuee : Option String) : Decidable (needsI2i operator issuee) :=
  inferInstanceAs (Decidable (_ ∨ _))

abbrev WalkError := Failure CredentialVerificationError

def failing {α : Type} (check : Except CredentialVerificationError α) : Except WalkError α := check.mapError .error

def checkIssuee (credential : Acdc) (operator : Option EdgeOperator) (issuee : Option String) : Except WalkError Unit :=
  if needsI2i operator issuee then do
    let issuer ← present credential.issuer.toQb64 .panicked
    rejectIf (issuee ≠ some issuer) (.error .wrongIssuee)
  else .ok ()

def findNode (chain : List ChainCredential) (target : String) : Except CredentialVerificationError CredentialEvidence :=
  match chain.filter fun candidate => candidate.said = target with
  | [] => .error (.missingChain target)
  | [node] => .ok node.evidence
  | _ => .error .ambiguousChain

structure VerificationWalk where
  path : List String
  visited : Nat
deriving DecidableEq, Repr

abbrev Walking (α : Type) := Mutator VerificationWalk WalkError α

section Edges

variable (chain : List ChainCredential) (visit : CredentialEvidence → Option String → Walking Acdc) (credential : Acdc)

def followEdge (node : Json) : Walking Unit := do
  let link ← check (failing (readLink node))
  let walk ← get
  check (rejectIf (link.target ∈ walk.path) (.error .cycle))
  let evidence ← check (failing (findNode chain link.target))
  let parsed ← visit evidence (some link.target)
  let issuee ← check (failing (attributeIssuee codec parsed))
  check (checkIssuee credential link.operator issuee)

def followEdges : List (String × Json) → Walking Unit
  | [] => pure ()
  | (label, node) :: rest =>
      if label = "d" ∨ label = "o" then followEdges rest
      else do
        followEdge codec chain visit credential node
        followEdges rest

def edgeMap (edges : AcdcField) : Except CredentialVerificationError (List (String × Json)) :=
  match edges with
  | .said _ => .error .unsupportedForm
  | .block payload => do
      let value ← present (codec.fromStr payload) .malformedEdge
      let fields ← present value.asObject .malformedEdge
      rejectIf ((value.get "d").bind Json.asStr ≠ some "" ∨ (value.get "o").isSome = true) .unsupportedForm
      pure fields

def walkEdges : Walking Unit :=
  match credential.edges with
  | none => pure ()
  | some edges => do
      let fields ← check (failing (edgeMap codec edges))
      followEdges codec chain visit credential fields

end Edges

variable (chain : List ChainCredential) (limits : CredentialVerificationLimits)

-- The recursion is on the room left under the depth limit: a node deeper than
-- the limit has none and is refused.
def node : Nat → CredentialEvidence → Option String → Walking Acdc
  | 0, _, _ => throw (.error .resourceLimit)
  | room + 1, evidence, claimedSaid => do
      let walk ← get
      check (rejectIf (limits.maxNodes ≤ walk.visited ∨ limits.maxDocumentBytes < evidence.raw.length) (.error .resourceLimit))
      modify fun walk => { walk with visited := walk.visited + 1 }
      let schema ← check (present evidence.schema (.error .missingSchema))
      let credential ← check ((schema.validateCredential codec evidence.raw limits.json).mapError fun error =>
        .error (.schema error))
      let said ← check (present credential.said.toQb64 .panicked)
      check (rejectIf (claimedSaid.any (· ≠ said) = true) (.error .chainClaimMismatch))
      check (rejectIf (said ∈ walk.path) (.error .cycle))
      check (failing (checkRules codec credential))
      check ((CredentialVerifier.status credential evidence.registry evidence.credentialState evidence.issuerState).mapError
        fun error => .error (.status error))
      modify fun walk => { walk with path := walk.path ++ [said] }
      let outcome ← attempt (walkEdges codec chain (node room) credential)
      modify fun walk => { walk with path := walk.path.dropLast }
      check outcome
      pure credential

def CredentialVerifier.verify (root : CredentialEvidence) : Except WalkError Acdc × VerificationWalk :=
  if 1048576 < limits.maxDocumentBytes ∨ 64 < limits.maxChainDepth ∨ 1024 < limits.maxNodes ∨
      limits.maxNodes ≤ chain.length then (.error (.error .resourceLimit), ⟨[], 0⟩)
  else exec (node codec chain limits (limits.maxChainDepth + 1) root none) ⟨[], 0⟩

end Verify

end Cesr.Keri
