import Zally.Wallet.SyncPort

/-! What a sync run scans next: the first suggested range with a block at or below the
visible tip, after the subtree roots below the scanned frontier were recorded. -/
namespace Zally.Sync

open Async Async.Program

def maxBlocksPerSync : Nat := 1000

def subtreeRootPage : Nat := 128

def chainStateAt (epoch : ChainEpoch) (height : BlockHeight) : SyncM TreeStateArtifact := do
  let treeState ← Fallible.call .chainSource (ask (.treeStateAt epoch height))
  if treeState.height ≠ height then
    throw (.chainSource (.treeStateAnchorHeightMismatch height treeState.height))
  else return treeState

def fetchPriorChainState (epoch : ChainEpoch) (atHeight : BlockHeight) :
    SyncM TreeStateArtifact :=
  chainStateAt epoch (atHeight - 1)

/-- Completing heights grow with the index, so everything past the first too-new root
waits for a later pass. -/
def subtreeRootsCompletedAtOrBelow (roots : List SubtreeRoot) (scanFloor : Option BlockHeight) :
    List SubtreeRoot :=
  match scanFloor with
  | none => []
  | some floor => roots.takeWhile fun root => root.completingBlockHeight ≤ floor

def malformedPage (pool : ShieldedPool) (reason : String) : WalletError :=
  .chainSource (.malformedSubtreeRootPage pool reason)

def validateSubtreeRootIndices (pool : ShieldedPool) (requestedStart : Nat) :
    Nat → List SubtreeRoot → Except WalletError Unit
  | _, [] => .ok ()
  | offset, root :: roots =>
    let expectedIndex := saturatingAddU32 requestedStart offset
    if root.index ≠ expectedIndex then
      .error (malformedPage pool s!"expected index {expectedIndex}, received {root.index}")
    else validateSubtreeRootIndices pool requestedStart (offset + 1) roots

def validateSubtreeRootPage (pool : ShieldedPool) (requestedStart requestedCount : Nat)
    (roots : List SubtreeRoot) : Except WalletError Unit := do
  if roots.length > requestedCount then
    throw (malformedPage pool
      s!"returned {roots.length} roots for requested count {requestedCount}")
  else do
    validateSubtreeRootIndices pool requestedStart 0 roots
    if (roots.zip roots.tail).any
        (fun pair => pair.1.completingBlockHeight > pair.2.completingBlockHeight) then
      throw (malformedPage pool "completing block heights must be nondecreasing")
    else return ()

/-- Records the kept roots of one page; the answer is the index the next page starts at. -/
def recordSubtreeRoots (pool : ShieldedPool) (nextIndex : Nat) (roots : List SubtreeRoot) :
    SyncM Nat :=
  match roots.head?, roots.getLast? with
  | some first, some last => do
    Fallible.call .ofStorage (ask (.putSubtreeRoots pool first.index
      (roots.map fun root => (root.completingBlockHeight, root.rootBytes))))
    return saturatingAddU32 last.index 1
  | _, _ => return nextIndex

/-- One pool's pages. The source's loop is bounded by nothing but its answers, so it
runs here for at most `turns` pages. -/
def backfillPool (epoch : ChainEpoch) (scanFloor : Option BlockHeight) (pool : ShieldedPool) :
    Nat → Nat → SyncM Unit
  | 0, _ => stalled
  | turns + 1, nextIndex => do
    let page ← Fallible.call .chainSource
      (ask (.subtreeRoots epoch pool nextIndex subtreeRootPage))
    ExceptT.mk (done (validateSubtreeRootPage pool nextIndex subtreeRootPage page))
    let roots := subtreeRootsCompletedAtOrBelow page scanFloor
    let resumeIndex ← recordSubtreeRoots pool nextIndex roots
    if roots.length < page.length || page.length < subtreeRootPage then return ()
    else backfillPool epoch scanFloor pool turns resumeIndex

def backfillSubtreeRoots (turns : Nat) (epoch : ChainEpoch) (scanFloor : Option BlockHeight) :
    SyncM Unit := do
  backfillPool epoch scanFloor .sapling turns 0
  backfillPool epoch scanFloor .orchard turns 0
  backfillPool epoch scanFloor .ironwood turns 0

def scanPriorityLabel : ScanPriority → String
  | .ignored => "ignored"
  | .scanned => "scanned"
  | .historic => "historic"
  | .openAdjacent => "open_adjacent"
  | .foundNote => "found_note"
  | .chainTip => "chain_tip"
  | .verify => "verify"

/-- A chunk to scan, with both ends, and the label of its priority. -/
structure ScanChunk where
  start : BlockHeight
  endInclusive : BlockHeight
  priority : String
  deriving DecidableEq, Repr

/-- The chunk taken from the first suggested range that reaches down to the tip. -/
def firstScanChunk (tip : BlockHeight) : List ScanRange → Option ScanChunk
  | [] => none
  | range :: ranges =>
    if range.isEmpty then firstScanChunk tip ranges
    else if range.start > tip then firstScanChunk tip ranges
    else
      let endInclusive := min (range.endExclusive - 1) tip
      some {
        start := range.start
        endInclusive := min (saturatingAddU32 range.start (maxBlocksPerSync - 1)) endInclusive
        priority := scanPriorityLabel range.priority }

def nextScanRange (visibleTip : BlockHeight) : SyncM (Option ScanChunk) := do
  return firstScanChunk visibleTip (← Fallible.call .ofStorage (ask .suggestScanRanges))

def planScanRange (turns : Nat) (epoch : ChainEpoch) (visibleTip : BlockHeight) :
    SyncM (Option ScanChunk) := do
  match ← nextScanRange visibleTip with
  | some chunk => return some chunk
  | none =>
    let fullyScanned ← Fallible.call .ofStorage (ask .fullyScannedHeight)
    if fullyScanned.all (visibleTip > ·) then do
      backfillSubtreeRoots turns epoch fullyScanned
      nextScanRange visibleTip
    else return none

def compactBlockStreamOrder (expectedHeight : BlockHeight) (actualHeight : Option BlockHeight) :
    WalletError :=
  .chainSource (.compactBlockStreamOrder expectedHeight actualHeight)

def validateCompactBlockHeight (startHeight endHeight : BlockHeight) (receivedCount : Nat)
    (actualHeight : Option BlockHeight) : Except WalletError Unit :=
  let expectedCount := endHeight - startHeight + 1
  let expectedHeight :=
    if receivedCount < expectedCount then checkedAddU32 startHeight (min receivedCount u32Max)
    else none
  if actualHeight ≠ expectedHeight then
    .error (compactBlockStreamOrder (expectedHeight.getD endHeight) actualHeight)
  else .ok ()

def validateCompactBlockCount (startHeight endHeight : BlockHeight) (receivedCount : Nat) :
    Except WalletError Unit :=
  let expectedCount := endHeight - startHeight + 1
  if receivedCount ≠ expectedCount then
    .error (compactBlockStreamOrder
      ((checkedAddU32 startHeight (min receivedCount u32Max)).getD endHeight) none)
  else .ok ()

/-- The stream's items after `blocks`; the height check admits no more than the
requested count, so `turns` above it are never needed. -/
def collectCompactBlocks (startHeight endHeight : BlockHeight) :
    Nat → List CompactBlockArtifact → SyncM (List CompactBlockArtifact)
  | 0, _ => stalled
  | turns + 1, blocks => do
    match ← ExceptT.lift (ask .nextCompactBlock) with
    | none => do
      ExceptT.mk (done (validateCompactBlockCount startHeight endHeight blocks.length))
      return blocks
    | some (.error error) => throw (.chainSource error)
    | some (.ok block) => do
      ExceptT.mk (done (validateCompactBlockHeight startHeight endHeight blocks.length
        (some block.height)))
      collectCompactBlocks startHeight endHeight turns (blocks ++ [block])

def fetchCompactBlocks (epoch : ChainEpoch) (startHeight endHeight : BlockHeight) :
    SyncM (List CompactBlockArtifact) := do
  if startHeight > endHeight then throw (compactBlockStreamOrder startHeight (some endHeight))
  else do
    Fallible.call .chainSource (ask (.compactBlocks epoch startHeight endHeight))
    collectCompactBlocks startHeight endHeight (endHeight - startHeight + 2) []

end Zally.Sync
