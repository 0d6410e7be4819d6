import Zally.HashHex
import Zally.Storage.Error

/-! The texts in which the errors of the storage are displayed. -/
namespace Zally

open Wire

def FailurePosture.debug : FailurePosture → String
  | retryable => "Retryable"
  | restartable => "Restartable"
  | requiresOperator => "RequiresOperator"
  | notRetryable => "NotRetryable"

def ShieldedPool.debug : ShieldedPool → String
  | sapling => "Sapling"
  | orchard => "Orchard"
  | ironwood => "Ironwood"

def Zatoshis.debug (zat : Zatoshis) : String := "Zatoshis(" ++ toString zat.raw ++ ")"

def TxId.debug (codec : Hex.Codec) (txId : TxId) : String :=
  "TxId(\"" ++ TxId.rpcHex codec txId ++ "\")"

def StorageError.display (codec : Hex.Codec) : StorageError → String
  | notOpened => "wallet storage was not opened; call open_or_create first"
  | migrationFailed reason => "wallet database migration failed: " ++ reason
  | sqliteFailed reason posture => "sqlite error (" ++ posture.debug ++ "): " ++ reason
  | accountNotFound => "account not found in wallet"
  | accountAlreadyExists => "an account already exists in this wallet; one account per wallet"
  | invalidChainTips visibleTip settledTip => "invalid chain tips: settled tip " ++
      toString settledTip ++ " exceeds visible tip " ++ toString visibleTip
  | scanArtifactInvalid field reason =>
      "wallet scan artifact field " ++ field ++ " is invalid: " ++ reason
  | blockingTaskFailed reason => "blocking task panicked or was cancelled: " ++ reason
  | keyDerivationFailed reason => "key derivation failed: " ++ reason
  | proverUnavailable => "Sapling proving parameters are not available at the configured paths " ++
      "or the platform-default location"
  | shieldedPoolUnsupported pool =>
      "shielded pool " ++ pool.debug ++ " has no subtree-root write path in this release"
  | idempotencyKeyConflict => "idempotency key already bound to a different transaction; " ++
      "prior tx_id was recorded for this key"
  | finalizedPcztConflict txId => "transaction " ++ TxId.rpcHex codec txId ++
      " is already bound to different finalized PCZT bytes"
  | pcztLockOwnerMissing => "PCZT does not carry a Zally input-lock owner"
  | pcztLockOwnerMalformed byteCount => "PCZT input-lock owner has invalid length " ++
      toString byteCount ++ "; expected 32 bytes"
  | chainReorgDetected atHeight => "chain reorg detected at height " ++ toString atHeight ++
      "; wallet must roll back to " ++ toString (atHeight - 1) ++ " and re-sync"
  | commitmentTreeConflict reason => "note commitment tree conflict: " ++ reason
  | transparentOutputNotRecognized txId outputIndex => "transparent output " ++
      TxId.debug codec txId ++ ":" ++ toString outputIndex ++ " has an unsupported script"
  | transparentOutputValueOutOfRange valueZat =>
      "transparent output value " ++ toString valueZat ++ " exceeds the zatoshis range"
  | rowValueOutOfRange column raw =>
      "persisted column '" ++ column ++ "' carried out-of-range raw " ++ raw
  | insufficientFunds requiredZat availableZat => "insufficient spendable balance: required " ++
      requiredZat.debug ++ ", available " ++ availableZat.debug
  | proposalBuildFailed reason posture =>
      "proposal build failed (" ++ posture.debug ++ "): " ++ reason
  | holdNotFound => "dispense reservation not found"
  | holdRequestConflict =>
      "dispense reservation request id is already bound to a prior reservation"
  | scanFrontierReceded minScannedHeight observed => "scan frontier receded below " ++
      toString minScannedHeight ++ "; observed " ++
      (observed.elim "None" fun height => "Some(BlockHeight(" ++ toString height ++ "))") ++
      ", a reorg rewind likely landed mid-write"

end Zally
