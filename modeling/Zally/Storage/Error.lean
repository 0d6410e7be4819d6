import Zally.Core
import Zally.Outcome

/-! Errors of the wallet storage and the posture of each. -/
namespace Zally

inductive StorageError where
  | notOpened
  | migrationFailed (reason : String)
  | sqliteFailed (reason : String) (posture : FailurePosture)
  | accountNotFound
  | accountAlreadyExists
  | invalidChainTips (visibleTip settledTip : BlockHeight)
  | scanArtifactInvalid (field reason : String)
  | blockingTaskFailed (reason : String)
  | keyDerivationFailed (reason : String)
  | proverUnavailable
  | shieldedPoolUnsupported (pool : ShieldedPool)
  | idempotencyKeyConflict
  | finalizedPcztConflict (txId : TxId)
  | pcztLockOwnerMissing
  | pcztLockOwnerMalformed (byteCount : Nat)
  | chainReorgDetected (atHeight : BlockHeight)
  | commitmentTreeConflict (reason : String)
  | transparentOutputNotRecognized (txId : TxId) (outputIndex : UInt32)
  | transparentOutputValueOutOfRange (valueZat : UInt64)
  | rowValueOutOfRange (column raw : String)
  | insufficientFunds (requiredZat availableZat : Zatoshis)
  | proposalBuildFailed (reason : String) (posture : FailurePosture)
  | holdNotFound
  | holdRequestConflict
  | scanFrontierReceded (minScannedHeight : BlockHeight) (observed : Option BlockHeight)
  deriving DecidableEq, Repr

def StorageError.posture : StorageError → FailurePosture
  | notOpened | accountNotFound | accountAlreadyExists | invalidChainTips _ _
  | scanArtifactInvalid _ _ | keyDerivationFailed _ | idempotencyKeyConflict
  | finalizedPcztConflict _ | pcztLockOwnerMissing | pcztLockOwnerMalformed _
  | commitmentTreeConflict _ | transparentOutputNotRecognized _ _
  | transparentOutputValueOutOfRange _ | insufficientFunds _ _ | holdNotFound
  | holdRequestConflict => .notRetryable
  | migrationFailed _ | proverUnavailable | shieldedPoolUnsupported _
  | rowValueOutOfRange _ _ => .requiresOperator
  | chainReorgDetected _ | blockingTaskFailed _ => .retryable
  | scanFrontierReceded _ _ => .restartable
  | sqliteFailed _ posture | proposalBuildFailed _ posture => posture

/-- The step of a call that fails, with the error the call maps it to. -/
abbrev StepFault (σ : Type) := Option (σ × StorageError)

def failsAt {σ : Type} [DecidableEq σ] (fault : StepFault σ) (step : σ) : Except StorageError Unit :=
  match fault with
  | some (failing, error) => if failing = step then .error error else .ok ()
  | none => .ok ()

def mapSqliteError (reason : String) : StorageError :=
  let lowercase := reason.toLower
  if lowercase.contains "already" || lowercase.contains "collide" ||
      lowercase.contains "conflict" then
    .accountAlreadyExists
  else .sqliteFailed reason
    (if lowercase.contains "locked" || lowercase.contains "busy" then .retryable else .notRetryable)

end Zally
