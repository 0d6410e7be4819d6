import Zally.Chain.Submitter
import Zally.Storage.Error

/-! The operator-facing wallet error, the boundary errors it carries and the posture of
each. -/
namespace Zally

inductive SealingError where
  | readFailed (reason : String)
  | writeFailed (reason : String)
  | noSealedSeed
  | ageIdentityFailed (reason : String)
  | decryptionFailed (reason : String)
  | encryptionFailed (reason : String)
  | invalidSeedLength (byteCount : Nat)
  | blockingTaskFailed (reason : String)
  deriving DecidableEq, Repr

def SealingError.isRetryable : SealingError → Bool
  | readFailed _ | writeFailed _ | blockingTaskFailed _ => true
  | noSealedSeed | ageIdentityFailed _ | decryptionFailed _ | encryptionFailed _
  | invalidSeedLength _ => false

inductive KeyDerivationError where
  | derivationFailed (reason : String)
  deriving DecidableEq, Repr

def KeyDerivationError.isRetryable : KeyDerivationError → Bool
  | derivationFailed _ => false

inductive PcztError where
  | parseFailed (reason : String)
  | serializeFailed (reason : String)
  | networkMismatch (pcztNetwork configuredNetwork : Network)
  | noMatchingKeys
  | notFinalized (reason : String)
  | combineConflict (reason : String)
  | upstreamFailed (reason : String) (isRetryable : Bool)
  | proverUnavailable
  deriving DecidableEq, Repr

def PcztError.isRetryable : PcztError → Bool
  | upstreamFailed _ isRetryable => isRetryable
  | parseFailed _ | serializeFailed _ | networkMismatch _ _ | noMatchingKeys | notFinalized _
  | combineConflict _ | proverUnavailable => false

/-- `paymentDisclosureExport` stands for the export error it wraps by its posture. -/
inductive WalletError where
  | sealing (error : SealingError)
  | storage (error : StorageError)
  | keyDerivation (error : KeyDerivationError)
  | noSealedSeed
  | accountAlreadyExists
  | accountNotFound
  | networkMismatch (storage requested : Network)
  | chainSource (error : ChainSourceError)
  | submitter (error : SubmitterError)
  | memoOnTransparentRecipient
  | shieldedInputsOnTexRecipient
  | insufficientBalance (requestedZat spendableZat : Zatoshis)
  | paymentRequestParseFailed (reason : String)
  | proposalRejected (reason : String)
  | submissionRejected (reason : RejectionReason) (detail : String)
  | submittedTransactionIdMismatch (expected returned : TxId)
  | pczt (error : PcztError)
  | paymentDisclosureExport (posture : FailurePosture)
  | paymentDisclosureSourceMissing (transactionId : TxId)
  | circuitBroken (operation : String)
  | targetExpiryStale (target visibleTip : BlockHeight)
  | targetExpiryMismatch (target signed : BlockHeight)
  | treeRootsDiverged (height : BlockHeight)
  | unverifiedScanChunk (scannedTo : BlockHeight) (source : WalletError)
  | syncDriverFailed (reason : String)
  deriving DecidableEq, Repr

namespace WalletError

def posture : WalletError → FailurePosture
  | sealing error => .ofIsRetryable error.isRetryable
  | storage error => error.posture
  | keyDerivation error => .ofIsRetryable error.isRetryable
  | pczt error => .ofIsRetryable error.isRetryable
  | paymentDisclosureExport posture => posture
  | chainSource error => error.posture
  | submitter error => error.posture
  | circuitBroken _ => .retryable
  | unverifiedScanChunk _ source => source.posture
  | networkMismatch _ _ | noSealedSeed | accountNotFound | submittedTransactionIdMismatch _ _
  | targetExpiryMismatch _ _ | syncDriverFailed _ => .requiresOperator
  | accountAlreadyExists | memoOnTransparentRecipient | shieldedInputsOnTexRecipient
  | insufficientBalance _ _ | paymentRequestParseFailed _ | proposalRejected _
  | submissionRejected _ _ | paymentDisclosureSourceMissing _ | targetExpiryStale _ _
  | treeRootsDiverged _ => .notRetryable

/-- The translation of a storage error at the wallet boundary. -/
def ofStorage : StorageError → WalletError
  | .accountNotFound => accountNotFound
  | .accountAlreadyExists => accountAlreadyExists
  | .insufficientFunds requiredZat availableZat => insufficientBalance requiredZat availableZat
  | .proposalBuildFailed reason .notRetryable => proposalRejected reason
  | other => storage other

/-- Only a missing account changes its posture at the wallet boundary. -/
theorem posture_ofStorage (error : StorageError) (found : error ≠ .accountNotFound) :
    (ofStorage error).posture = error.posture := by
  cases error with
  | accountNotFound => exact absurd rfl found
  | proposalBuildFailed reason posture => cases posture <;> rfl
  | _ => rfl

end WalletError
end Zally
