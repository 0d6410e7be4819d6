import Zally.Wallet.Retry
import Zally.Wallet.SpendPort

/-! The calls a sync run makes to the chain source, the storage, the event channel and
the shared breaker, each with the type of its answer. -/
namespace Zally

open Async Async.Program

def u32Max : Nat := 2 ^ 32 - 1

def saturatingAddU32 (left right : Nat) : Nat := min (left + right) u32Max

def u64Max : Nat := 2 ^ 64 - 1

def saturatingAddU64 (left right : Nat) : Nat := min (left + right) u64Max

def checkedAddU32 (left right : Nat) : Option Nat :=
  if left + right ≤ u32Max then some (left + right) else none

structure ChainEpoch where
  id : Nat
  visibleTip : BlockHeight
  settledTip : BlockHeight
  deriving DecidableEq, Repr

/-- The decoded note-commitment frontiers after the block at `height`. -/
structure TreeStateArtifact where
  height : BlockHeight
  saplingFinalState : List UInt8
  orchardFinalState : List UInt8
  ironwoodFinalState : List UInt8
  deriving DecidableEq, Repr

structure CompactBlockArtifact where
  height : BlockHeight
  blockTimeSeconds : UInt32
  deriving DecidableEq, Repr

abbrev RootBytes := BitVec 256

structure SubtreeRoot where
  index : Nat
  rootBytes : RootBytes
  completingBlockHeight : BlockHeight
  deriving DecidableEq, Repr

structure CommitmentTreeRoots where
  sapling : Option RootBytes
  orchard : Option RootBytes
  ironwood : Option RootBytes
  deriving DecidableEq, Repr

def CommitmentTreeRoots.get (roots : CommitmentTreeRoots) : ShieldedPool → Option RootBytes
  | .sapling => roots.sapling
  | .orchard => roots.orchard
  | .ironwood => roots.ironwood

inductive ScanPriority where
  | ignored
  | scanned
  | historic
  | openAdjacent
  | foundNote
  | chainTip
  | verify
  deriving DecidableEq, Repr

/-- A suggested range, without its end. -/
structure ScanRange where
  start : BlockHeight
  endExclusive : BlockHeight
  priority : ScanPriority
  deriving DecidableEq, Repr

def ScanRange.isEmpty (range : ScanRange) : Bool := range.endExclusive ≤ range.start

structure ScanRequest where
  blocks : List CompactBlockArtifact
  fromHeight : BlockHeight
  fromState : TreeStateArtifact
  deriving DecidableEq, Repr

structure ScanResult where
  scannedToHeight : BlockHeight
  blockCount : Nat
  deriving DecidableEq, Repr

structure ReceivedShieldedNoteRow where
  accountId : AccountId
  protocol : ShieldedPool
  valueZat : Zatoshis
  txId : TxId
  outputIndex : UInt32
  minedHeight : BlockHeight
  blockTimestampMs : Nat
  isChange : Bool
  spentOurInputs : Bool
  deriving DecidableEq, Repr

inductive WalletEvent where
  | scanProgress (scannedHeight targetHeight : BlockHeight)
  | reorgDetected (rolledBackToHeight newSettledTipHeight : BlockHeight)
  | transactionConfirmed (txId : TxId) (confirmedAtHeight : BlockHeight)
  | shieldedReceiveObserved (note : ReceivedShieldedNoteRow) (blockTimestampMs : Nat)
  | derivedStateReset (accountId : AccountId)
  deriving DecidableEq, Repr

/-- The result a root comparison logs: no pool had two roots, they agreed, or they
did not. -/
inductive RootCheck where
  | skipped
  | matched
  | mismatch
  deriving DecidableEq, Repr

/-- `stalled` is never answered: it ends a loop whose turns a run does not need. -/
inductive SyncCommand where
  | currentEpoch
  | subtreeRoots (epoch : ChainEpoch) (pool : ShieldedPool) (startIndex maxCount : Nat)
  | treeStateAt (epoch : ChainEpoch) (height : BlockHeight)
  | compactBlocks (epoch : ChainEpoch) (startHeight endHeight : BlockHeight)
  | nextCompactBlock
  | updateChainTip (tipHeight : BlockHeight)
  | recordChainTips (visibleTip settledTip : BlockHeight)
  | suggestScanRanges
  | fullyScannedHeight
  | findChainTips
  | putSubtreeRoots (pool : ShieldedPool) (startIndex : Nat)
      (roots : List (BlockHeight × RootBytes))
  | scanBlocks (request : ScanRequest)
  | commitmentTreeRoots
  | treeStateRoots (treeState : TreeStateArtifact)
  | traceRootCheck (height : BlockHeight) (result : RootCheck)
  | walletTxIdsMinedInRange (startHeight endHeight : BlockHeight)
  | receivedShieldedNotesMinedInRange (fromHeight toHeight : BlockHeight)
  | clearPendingBroadcastInputsForMined (txIds : List TxId)
  | clearExpiredPendingBroadcastInputs (beforeAtMs : Nat)
  | truncateToChainState (chainState : TreeStateArtifact)
  | accountBirthday
  | unsealSeed
  | recreateWithAccount (seed : SeedMaterial) (priorChainState : TreeStateArtifact)
  | publishEvents (events : List WalletEvent)
  | currentUnixMs
  | sleep (ms : Nat)
  | allowCall
  | recordSuccess
  | recordFailure
  | stalled

@[reducible] def SyncCommand.Answer : SyncCommand → Type
  | currentEpoch => Except ChainSourceError ChainEpoch
  | subtreeRoots _ _ _ _ => Except ChainSourceError (List SubtreeRoot)
  | treeStateAt _ _ => Except ChainSourceError TreeStateArtifact
  | compactBlocks _ _ _ => Except ChainSourceError Unit
  | nextCompactBlock => Option (Except ChainSourceError CompactBlockArtifact)
  | updateChainTip _ => Except StorageError Unit
  | recordChainTips _ _ => Except StorageError Unit
  | suggestScanRanges => Except StorageError (List ScanRange)
  | fullyScannedHeight => Except StorageError (Option BlockHeight)
  | findChainTips => Except StorageError (Option (BlockHeight × BlockHeight))
  | putSubtreeRoots _ _ _ => Except StorageError Unit
  | scanBlocks _ => Except StorageError ScanResult
  | commitmentTreeRoots => Except StorageError CommitmentTreeRoots
  | treeStateRoots _ => Except StorageError CommitmentTreeRoots
  | traceRootCheck _ _ => Unit
  | walletTxIdsMinedInRange _ _ => Except StorageError (List (TxId × BlockHeight))
  | receivedShieldedNotesMinedInRange _ _ => Except StorageError (List ReceivedShieldedNoteRow)
  | clearPendingBroadcastInputsForMined _ => Except StorageError Nat
  | clearExpiredPendingBroadcastInputs _ => Except StorageError Nat
  | truncateToChainState _ => Except StorageError Unit
  | accountBirthday => Except StorageError BlockHeight
  | unsealSeed => Except SealingError SeedMaterial
  | recreateWithAccount _ _ => Except StorageError AccountId
  | publishEvents _ => Unit
  | currentUnixMs => Nat
  | sleep _ => Unit
  | allowCall => Bool
  | recordSuccess => Unit
  | recordFailure => Unit
  | stalled => Empty

abbrev SyncEvent := Event SyncCommand SyncCommand.Answer
abbrev SyncProgram := Program SyncCommand SyncCommand.Answer
abbrev SyncM := Fallible SyncCommand SyncCommand.Answer WalletError

/-- The wallet's settings that a sync run reads. -/
structure SyncWallet where
  network : Network
  chainNetwork : Network
  retryPolicy : RetryPolicy
  pendingBroadcastWindowMs : Nat

namespace Sync

def ask (command : SyncCommand) : SyncProgram command.Answer := perform command

/-- The end of a loop that a run never needs. -/
def stalled {α : Type} : SyncM α := ExceptT.lift (await .stalled nofun)

def port : RetryPort SyncCommand SyncCommand.Answer where
  sleep ms := ask (.sleep ms)
  allowCall := ask .allowCall
  recordSuccess := ask .recordSuccess
  recordFailure := ask .recordFailure

end Sync
end Zally
