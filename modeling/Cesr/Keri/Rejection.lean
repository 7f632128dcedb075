import Cesr.Events.Event

set_option autoImplicit false

namespace Cesr.Keri

inductive WitnessSetError where
  | membership (error : MemberSetError)
  | removalNotCurrent
  | additionAlreadyPresent
deriving DecidableEq, Repr

inductive DelegationError where
  | plainRotationOnDelegatedState
  | evidenceRequired
  | sealNotFound
  | delegatorMismatch
  | delegatorUnknown
  | denied
deriving DecidableEq, Repr

inductive TransferabilityError where
  | nonTransferableCommitsNextKeys
deriving DecidableEq, Repr

inductive StructuralError where
  | identifierMismatch
  | delegatedPrefixNotDigestive
  | notInception
  | notDelegatedInception
  | notDelegatedRotation
  | nonZeroGenesisSn (sn : U128)
  | duplicateInception
  | interactionOnEstablishmentOnly
  | sequenceNumberOverflow
  | witnessCountOverflow
deriving DecidableEq, Repr

inductive Rejection where
  | inceptionIdentity (error : InceptionIdentityError)
  | outOfOrder (expected actual : U128)
  | priorDigestMismatch
  | missingSignatures (verified : Nat)
  | malformedThreshold (error : SigningThresholdError)
  | priorNextThresholdUnsatisfied (exposed : Nat)
  | witnessSet (error : WitnessSetError)
  | witnessThresholdExceeded (toad : U32) (count : Nat)
  | witnessThresholdZeroWithWitnesses (count : Nat)
  | insufficientWitnessReceipts (valid : Nat) (required : U32)
  | transferability (error : TransferabilityError)
  | delegation (error : DelegationError)
  | nonTransferableState
  | structural (error : StructuralError)
deriving DecidableEq, Repr

inductive EvidenceKind where
  | credentialSchema
  | credentialTelState
  | credentialChain
  | ipexPrior
  | ipexSenderState
  | ipexCredential
  | ipexPathedProof
  | ipexAnchorState
  | discoverySignerState
  | discoverySubjectState
  | registryState
  | issuerState
  | kelAnchor
  | priorEvents (expectedSn : U128)
  | signatures
  | witnessReceipts (valid : Nat) (required : U32)
  | backerReceipts (valid : Nat) (required : U32)
  | delegationEvidence
  | receiptorEstablishment
  | telAnchor (sn : U128)
deriving DecidableEq, Repr

inductive Disposition where
  | terminal
  | contested
  | awaiting (evidence : EvidenceKind)
deriving DecidableEq, Repr

def Rejection.disposition : Rejection → Disposition
  | .structural .duplicateInception => .contested
  | .priorDigestMismatch
  | .inceptionIdentity _
  | .malformedThreshold _
  | .witnessSet _
  | .witnessThresholdExceeded _ _
  | .witnessThresholdZeroWithWitnesses _
  | .transferability _
  | .nonTransferableState
  | .structural _
  | .missingSignatures 0
  | .delegation .denied
  | .delegation .delegatorUnknown
  | .delegation .plainRotationOnDelegatedState => .terminal
  | .priorNextThresholdUnsatisfied _ => .awaiting .signatures
  -- An occupied number has no missing prior, so it goes to the same-sn judge.
  | .outOfOrder expected actual =>
      if expected < actual then .awaiting (.priorEvents expected) else .contested
  | .missingSignatures _ => .awaiting .signatures
  | .delegation .evidenceRequired
  | .delegation .sealNotFound
  | .delegation .delegatorMismatch => .awaiting .delegationEvidence
  | .insufficientWitnessReceipts valid required => .awaiting (.witnessReceipts valid required)

inductive RegistryStructuralError where
  | notRegistryInception
  | notCredentialInception
  | notCredentialTransition
  | notManagementRotation
  | noBackersWithBackers
  | simpleEventOnBackerRegistry
  | backedEventOnBackerlessRegistry
  | rotationOnBackerlessRegistry
  | sequenceNumberOverflow
deriving DecidableEq, Repr

inductive RegistryRejection where
  | inconsistentRegistry
  | inconsistentCredential
  | inconsistentIssuer
  | inconsistentAnchor
  | inconsistentManagement
  | missingBackerReceipts (valid : Nat) (required : U32)
  | duplicateInception
  | missingRegistry
  | missingIssuer
  | missingAnchor
  | outOfOrder (expected actual : U128)
  | priorDigestMismatch
  | unresolvedAnchor (sn : U128)
  | backerSet (error : WitnessSetError)
  | backerThreshold (error : ToadError)
  | signatures (error : Rejection)
  | structural (error : RegistryStructuralError)
deriving DecidableEq, Repr

end Cesr.Keri
