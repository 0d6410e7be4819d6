import Zally.Wallet.ScanPlan

/-! One sync run: pin an epoch, record the tip, scan one chunk, compare the tree roots
and announce what the chunk confirmed. The repairs of the ladder stand at the end. -/
namespace Zally.Sync

open Async Async.Program

structure SyncOutcome where
  scannedFromHeight : BlockHeight
  scannedToHeight : BlockHeight
  blockCount : Nat
  completedAtMs : Nat
  deriving DecidableEq, Repr

structure ScanContext where
  blocks : List CompactBlockArtifact
  scannedFrom : BlockHeight
  targetHeight : BlockHeight
  blockCount : Nat

/-- The persisted heights of a wallet status. -/
structure WalletStatus where
  scannedHeight : Option BlockHeight
  visibleTipHeight : Option BlockHeight
  settledTipHeight : Option BlockHeight
  deriving DecidableEq, Repr

def statusSnapshot : SyncM WalletStatus := do
  let scannedHeight ← Fallible.call .ofStorage (ask .fullyScannedHeight)
  let chainTips ← Fallible.call .ofStorage (ask .findChainTips)
  return ⟨scannedHeight, chainTips.map Prod.fst, chainTips.map Prod.snd⟩

def pinChainEpoch (wallet : SyncWallet) : SyncM ChainEpoch := do
  if wallet.chainNetwork ≠ wallet.network then
    throw (.networkMismatch wallet.network wallet.chainNetwork)
  else Fallible.call .chainSource (ask .currentEpoch)

def emitCaughtUp (targetHeight : BlockHeight) : SyncM SyncOutcome := do
  ask (.publishEvents [.scanProgress targetHeight targetHeight])
  let completedAtMs ← ask .currentUnixMs
  return ⟨targetHeight, targetHeight, 0, completedAtMs⟩

/-- Whether both sides have a root of `pool`, and then whether the roots agree. -/
def rootMatch (walletRoots chainRoots : CommitmentTreeRoots) (pool : ShieldedPool) :
    Option Bool :=
  match walletRoots.get pool, chainRoots.get pool with
  | some walletRoot, some chainRoot => some (walletRoot = chainRoot)
  | _, _ => none

def rootCheck (walletRoots chainRoots : CommitmentTreeRoots) : RootCheck :=
  let saplingMatch := rootMatch walletRoots chainRoots .sapling
  let orchardMatch := rootMatch walletRoots chainRoots .orchard
  let ironwoodMatch := rootMatch walletRoots chainRoots .ironwood
  if saplingMatch = none ∧ orchardMatch = none ∧ ironwoodMatch = none then .skipped
  else if saplingMatch ≠ some false ∧ orchardMatch ≠ some false ∧ ironwoodMatch ≠ some false then
    .matched
  else .mismatch

/-- The height of a proven divergence, or nothing. -/
def verifyTreeRoots (epoch : ChainEpoch) (height : BlockHeight) : SyncM (Option BlockHeight) := do
  let walletRoots ← Fallible.call .ofStorage (ask .commitmentTreeRoots)
  let chainState ← chainStateAt epoch height
  let chainRoots ← Fallible.call .ofStorage (ask (.treeStateRoots chainState))
  let result := rootCheck walletRoots chainRoots
  ask (.traceRootCheck height result)
  return if result = .mismatch then some height else none

def retirePendingBroadcastsForMined (newlyConfirmed : List (TxId × BlockHeight)) : SyncM Unit :=
  if newlyConfirmed = [] then pure ()
  else do
    let _ ← Fallible.call .ofStorage
      (ask (.clearPendingBroadcastInputsForMined (newlyConfirmed.map Prod.fst)))

/-- The time of the block at `height`, zero when the chunk has no such block. -/
def blockTimestampMs (blocks : List CompactBlockArtifact) (height : BlockHeight) : Nat :=
  match blocks.reverse.find? (·.height = height) with
  | some block => block.blockTimeSeconds.toNat * 1000
  | none => 0

def confirmedEvents (newlyConfirmed : List (TxId × BlockHeight)) : List WalletEvent :=
  newlyConfirmed.map fun entry => .transactionConfirmed entry.1 entry.2

def receivedEvents (blocks : List CompactBlockArtifact)
    (receivedNotes : List ReceivedShieldedNoteRow) : List WalletEvent :=
  receivedNotes.map fun note => .shieldedReceiveObserved note
    (if note.blockTimestampMs ≠ 0 then note.blockTimestampMs
      else blockTimestampMs blocks note.minedHeight)

/-- The reads and events that follow a chunk whose roots were compared. -/
def announceScanned (context : ScanContext) (scannedTo : BlockHeight) : SyncM SyncOutcome := do
  let newlyConfirmed ← Fallible.call .ofStorage
    (ask (.walletTxIdsMinedInRange context.scannedFrom scannedTo))
  retirePendingBroadcastsForMined newlyConfirmed
  ask (.publishEvents (confirmedEvents newlyConfirmed))
  let receivedNotes ← Fallible.call .ofStorage
    (ask (.receivedShieldedNotesMinedInRange context.scannedFrom scannedTo))
  ask (.publishEvents (receivedEvents context.blocks receivedNotes ++
    [.scanProgress scannedTo context.targetHeight]))
  let completedAtMs ← ask .currentUnixMs
  return ⟨context.scannedFrom, scannedTo, context.blockCount, completedAtMs⟩

/-- What follows the commit of a chunk: the comparison, then the announcements. -/
def checkAndAnnounce (context : ScanContext) (epoch : ChainEpoch) (scannedTo : BlockHeight) :
    SyncM SyncOutcome := do
  match ← Fallible.call (.unverifiedScanChunk scannedTo) (verifyTreeRoots epoch scannedTo).run with
  | some divergedHeight => throw (.treeRootsDiverged divergedHeight)
  | none => announceScanned context scannedTo

def scanAndEmit (context : ScanContext) (fromState : TreeStateArtifact) (epoch : ChainEpoch) :
    SyncM SyncOutcome := do
  let outcome ← Fallible.call .ofStorage
    (ask (.scanBlocks ⟨context.blocks, context.scannedFrom, fromState⟩))
  checkAndAnnounce context epoch outcome.scannedToHeight

/-- The chunk a run is about to scan, fetched under the pinned epoch. -/
def fetchChunk (epoch : ChainEpoch) (chunk : ScanChunk) :
    SyncM (ScanContext × TreeStateArtifact) := do
  ask (.publishEvents [.scanProgress chunk.start epoch.visibleTip])
  let fromState ← fetchPriorChainState epoch chunk.start
  let blocks ← fetchCompactBlocks epoch chunk.start chunk.endInclusive
  return (⟨blocks, chunk.start, epoch.visibleTip, blocks.length⟩, fromState)

def scanOneRange (turns : Nat) (epoch : ChainEpoch) : SyncM SyncOutcome := do
  match ← planScanRange turns epoch epoch.visibleTip with
  | none => emitCaughtUp epoch.visibleTip
  | some chunk => do
    let (context, fromState) ← fetchChunk epoch chunk
    scanAndEmit context fromState epoch

def recordTip (epoch : ChainEpoch) : SyncM Unit := do
  Fallible.call .ofStorage (ask (.updateChainTip epoch.visibleTip))
  Fallible.call .ofStorage (ask (.recordChainTips epoch.visibleTip epoch.settledTip))

def syncInner (wallet : SyncWallet) (turns : Nat) : SyncM SyncOutcome := do
  let epoch ← pinChainEpoch wallet
  recordTip epoch
  scanOneRange turns epoch

def scanQueuedRangeInner (wallet : SyncWallet) (turns : Nat) : SyncM SyncOutcome := do
  let epoch ← pinChainEpoch wallet
  scanOneRange turns epoch

def retireExpiredPendingBroadcasts (wallet : SyncWallet) : SyncM Unit := do
  let now ← ask .currentUnixMs
  let _ ← Fallible.call .ofStorage
    (ask (.clearExpiredPendingBroadcastInputs (now - wallet.pendingBroadcastWindowMs)))

def runScanAttempt (wallet : SyncWallet) (operationLabel : String)
    (attempt : SyncM SyncOutcome) : SyncM SyncOutcome := do
  let outcome ← withBreakerAndRetry port wallet.retryPolicy operationLabel WalletError.posture
    attempt.run id
  retireExpiredPendingBroadcasts wallet
  return outcome

def sync (wallet : SyncWallet) (turns : Nat) : SyncM SyncOutcome :=
  runScanAttempt wallet "sync.attempt" (syncInner wallet turns)

def scanQueuedRange (wallet : SyncWallet) (turns : Nat) : SyncM SyncOutcome :=
  runScanAttempt wallet "sync.scan_queued_range" (scanQueuedRangeInner wallet turns)

def rewindToHeight (rewindTo : BlockHeight) : SyncM Unit := do
  let epoch ← Fallible.call .chainSource (ask .currentEpoch)
  let chainState ← chainStateAt epoch rewindTo
  Fallible.call .ofStorage (ask (.truncateToChainState chainState))
  ask (.publishEvents [.reorgDetected rewindTo rewindTo])

def liftUnseal : SealingError → WalletError
  | .noSealedSeed => .noSealedSeed
  | error => .sealing error

def resetToBirthday : SyncM Unit := do
  let birthday ← Fallible.call .ofStorage (ask .accountBirthday)
  let seed ← Fallible.call liftUnseal (ask .unsealSeed)
  let epoch ← Fallible.call .chainSource (ask .currentEpoch)
  let priorChainState ← fetchPriorChainState epoch birthday
  let accountId ← Fallible.call .ofStorage (ask (.recreateWithAccount seed priorChainState))
  ask (.publishEvents [.derivedStateReset accountId])

end Zally.Sync
