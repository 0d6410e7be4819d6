import Zally.Async.OnceCell
import Zally.Chain.ScanArtifact
import Zally.Chain.Submitter

/-! The chain source over the indexer's client: what each of its calls asks for, and what it
makes of the answers. -/
namespace Zally.ZinderSource

open Async Async.Program Async.OnceCell Outcome
open Source (BlockHash BlockHeightRange)

/-! The indexer's types, as far as the source reads them. -/

inductive ZinderNetwork where
  | zcashMainnet
  | zcashTestnet
  | zcashRegtest
  | other
  deriving DecidableEq

structure ZinderChainEpoch where
  id : UInt64
  network : ZinderNetwork
  visibleTipHeight : UInt32
  visibleTipHash : Vector UInt8 32
  settledTipHeight : UInt32
  settledTipHash : Vector UInt8 32

structure ZinderBlockHeightRange where
  start : UInt32
  last : UInt32

structure ZinderEpochRange where
  chainEpoch : ZinderChainEpoch
  blockRange : ZinderBlockHeightRange

inductive ZinderChainEvent where
  | chainCommitted (committed : ZinderEpochRange)
  | chainReorged (reverted committed : ZinderEpochRange)
  | other

structure ZinderChainEventEnvelope where
  cursor : List UInt8
  eventSequence : UInt64
  chainEpoch : ZinderChainEpoch
  settledTipHeight : UInt32
  event : ZinderChainEvent

inductive ZinderTxStatus where
  | mined (blockHeight : UInt32)
  | inMempool
  | notFound
  | other

structure ZinderUnspentOutput where
  transactionId : Vector UInt8 32
  outputIndex : UInt32
  valueZat : UInt64
  blockHeight : UInt32
  scriptPubKey : List UInt8

structure ZinderUnspentChunk where
  epochId : UInt64
  output : ZinderUnspentOutput

structure ZinderSubtreeRoot where
  subtreeIndex : UInt32
  rootHash : Vector UInt8 32
  completingBlockHeight : UInt32

inductive IndexerErrorKind where
  | chainEpochPinUnavailable
  | chainEventCursorExpired (recovery : ChainEventCursorRecovery)
  | other
  deriving DecidableEq

structure ZinderError where
  kind : IndexerErrorKind
  error : IndexerError

structure ServerDescriptor where
  contractRevision : UInt32
  capabilities : List Capability

/-! The source's own types. -/

inductive ChainEventStreamStart where
  | afterCursor (cursor : List UInt8)
  | earliestRetained
  | liveTail
  deriving DecidableEq

structure EpochRange where
  chainEpoch : Source.ChainEpoch
  blockRange : BlockHeightRange
  deriving DecidableEq

inductive ChainEvent where
  | chainCommitted (committed : EpochRange)
  | chainReorged (reverted committed : EpochRange)
  deriving DecidableEq

structure ChainEventEnvelope where
  cursor : List UInt8
  eventSequence : UInt64
  chainEpoch : Source.ChainEpoch
  event : ChainEvent
  deriving DecidableEq

inductive TransactionStatus where
  | confirmed (txId : TxId) (confirmedAtHeight : UInt32)
  | inMempool (txId : TxId)
  | notFound
  deriving DecidableEq

structure TransparentUtxo where
  txId : TxId
  outputIndex : UInt32
  valueZat : Zatoshis
  confirmedAtHeight : UInt32
  scriptPubKeyBytes : List UInt8
  deriving DecidableEq

structure SubtreeRoot where
  index : UInt32
  rootBytes : Vector UInt8 32
  completingBlockHeight : UInt32
  deriving DecidableEq

/-- The calls on the shared cell of capabilities and on the indexer's client. A streamed answer is
the list of the items that polling it yields. -/
inductive IndexerCommand where
  | cachedCapabilities
  | serverInfo
  | cacheCapabilities (capabilities : List Capability)
  | currentEpoch
  | compactBlocksInRange (range : ZinderBlockHeightRange) (epoch : UInt64)
  | treeStateAt (height : UInt32) (epoch : UInt64)
  | subtreeRootsInRange (pool : ShieldedPool) (startIndex maxEntries : UInt32) (epoch : UInt64)
  | transactionById (transactionId : List UInt8)
  | transparentAddressUnspentOutputs (addressScriptHash : List UInt8) (startHeight : UInt32)
      (epoch : UInt64)
  | chainEvents (start : ChainEventStreamStart)

@[reducible] def IndexerCommand.Answer : IndexerCommand → Type
  | cachedCapabilities => Option (List Capability)
  | serverInfo => Except ZinderError ServerDescriptor
  | cacheCapabilities _ => Unit
  | currentEpoch => Except ZinderError ZinderChainEpoch
  | compactBlocksInRange _ _ =>
    Except ZinderError (List (Except ZinderError Scan.Zinder.CompactBlockArtifact))
  | treeStateAt _ _ => Except ZinderError Scan.Zinder.TreeStateArtifact
  | subtreeRootsInRange _ _ _ _ => Except ZinderError (List ZinderSubtreeRoot)
  | transactionById _ => Except ZinderError ZinderTxStatus
  | transparentAddressUnspentOutputs _ _ _ =>
    Except ZinderError (List (Except ZinderError ZinderUnspentChunk))
  | chainEvents _ => Except ZinderError (List (Except ZinderError ZinderChainEventEnvelope))

abbrev IndexerEvent := Event IndexerCommand IndexerCommand.Answer
abbrev SourceM := Fallible IndexerCommand IndexerCommand.Answer ChainSourceError

/-- What comes with the client and the other libraries. -/
structure ZinderLibrary (κ : Type) extends Scan.Library κ where
  minSupportedContractRevision : UInt32
  capabilityName : Capability → String
  addressScriptHash : List UInt8 → List UInt8

structure ZinderChainSource (κ : Type) where
  lib : ZinderLibrary κ
  network : Network

variable {κ : Type}

/-- Capabilities named by their variants. -/
def visibleTipBlock : Capability := .other "VisibleTipBlock"
def settledTipBlock : Capability := .other "SettledTipBlock"
def compactBlockRange : Capability := .other "CompactBlockRange"
def compactBlockIronwood : Capability := .other "CompactBlockIronwood"
def treeState : Capability := .other "TreeState"
def subtreeRootsCapability : Capability := .other "SubtreeRoots"
def subtreeRootsIronwood : Capability := .other "SubtreeRootsIronwood"
def transparentAddressUnspentOutputs : Capability := .other "TransparentAddressUnspentOutputs"
def chainEventsCapability : Capability := .other "ChainEvents"
def transaction : Capability := .other "Transaction"

def requiredSyncCapabilities : List Capability :=
  [.serverInfo, visibleTipBlock, settledTipBlock, compactBlockRange, compactBlockIronwood, treeState,
    subtreeRootsCapability, subtreeRootsIronwood, transparentAddressUnspentOutputs,
    chainEventsCapability]

def defaultSubtreePageSize : UInt32 := 256

def ask (command : IndexerCommand) :
    Program IndexerCommand IndexerCommand.Answer command.Answer := perform command

def mapIndexerError (error : ZinderError) : ChainSourceError :=
  match error.kind with
  | .chainEpochPinUnavailable => .chainEpochPinUnavailable
  | .chainEventCursorExpired .earliestRetained => .chainEventCursorExpired .earliestRetained
  | _ => .indexer error.error

/-- Where no epoch is pinned the client's error is kept as it is. -/
def ofIndexer (error : ZinderError) : ChainSourceError := .indexer error.error

def check (result : Except ChainSourceError α) : SourceM α := ExceptT.mk (done result)

namespace ZinderChainSource

variable (source : ZinderChainSource κ)

/-- The cell is filled from a descriptor whose contract is supported. -/
def connectedCapabilities : SourceM (List Capability) :=
  getOrTryInit .cachedCapabilities id .cacheCapabilities do
    let descriptor ← Fallible.call mapIndexerError (ask .serverInfo)
    if descriptor.contractRevision < source.lib.minSupportedContractRevision then
      throw (.contractRevisionUnsupported source.lib.minSupportedContractRevision
        descriptor.contractRevision)
    else return descriptor.capabilities

def ensureCapabilities (required : List Capability) : SourceM Unit := do
  let capabilities ← source.connectedCapabilities
  let missing := required.filter (· ∉ capabilities)
  if missing = [] then return ()
  else throw (.capabilitiesUnavailable (missing.map source.lib.capabilityName))

def pinnedEpoch (chainEpoch : Source.ChainEpoch) : Except ChainSourceError UInt64 :=
  if chainEpoch.network ≠ source.network then
    .error (.networkMismatch source.network chainEpoch.network)
  else .ok chainEpoch.id.value

/-- The regtest network that no parameters were given for. -/
def defaultRegtest : Network :=
  .regtest ⟨some 1, some 1, some 1, some 1, some 1, some 2, some 2, none, none, none⟩

/-- A regtest answer stands for the parameters the source was given. -/
def actualNetwork (expectedNetwork : Network) : ZinderNetwork → Except ChainSourceError Network
  | .zcashMainnet => .ok .mainnet
  | .zcashTestnet => .ok .testnet
  | .zcashRegtest => match expectedNetwork with
    | .regtest _ => .ok expectedNetwork
    | _ => .ok defaultRegtest
  | .other => .error (.unsupportedResponse "ChainEpoch.network")

def networkToZally (network : ZinderNetwork) (expectedNetwork : Network) :
    Except ChainSourceError Network := do
  let actual ← actualNetwork expectedNetwork network
  if actual ≠ expectedNetwork then throw (.networkMismatch actual expectedNetwork)
  else return actual

def orUnsupported (response : String) (made : Option α) : Except ChainSourceError α :=
  match made with
  | some value => .ok value
  | none => .error (.unsupportedResponse response)

def translateChainEpoch (epoch : ZinderChainEpoch) (expectedNetwork : Network) :
    Except ChainSourceError Source.ChainEpoch := do
  let actualNetwork ← networkToZally epoch.network expectedNetwork
  if actualNetwork ≠ expectedNetwork then
    throw (.networkMismatch actualNetwork expectedNetwork)
  orUnsupported "ChainEpoch(settled_tip_above_visible_tip)"
    (Source.ChainEpoch.new ⟨epoch.id⟩ actualNetwork ⟨epoch.visibleTipHeight, ⟨epoch.visibleTipHash⟩⟩
      ⟨epoch.settledTipHeight, ⟨epoch.settledTipHash⟩⟩)

def rangeToZally (range : ZinderBlockHeightRange) : Except ChainSourceError BlockHeightRange :=
  orUnsupported "reversed Zinder block-height range" (Source.BlockHeightRange.new range.start range.last)

def translateEpochRange (part : ZinderEpochRange) (expectedNetwork : Network) :
    Except ChainSourceError EpochRange := do
  let chainEpoch ← translateChainEpoch part.chainEpoch expectedNetwork
  let blockRange ← rangeToZally part.blockRange
  return ⟨chainEpoch, blockRange⟩

def translateChainEvent (event : ZinderChainEvent) (expectedNetwork : Network) :
    Except ChainSourceError ChainEvent :=
  match event with
  | .chainCommitted committed => do
    let committed ← translateEpochRange committed expectedNetwork
    return .chainCommitted committed
  | .chainReorged reverted committed => do
    let reverted ← translateEpochRange reverted expectedNetwork
    let committed ← translateEpochRange committed expectedNetwork
    return .chainReorged reverted committed
  | .other => throw (.unsupportedResponse "ChainEvent")

end ZinderChainSource

def ChainEvent.committed : ChainEvent → EpochRange
  | chainCommitted committed | chainReorged _ committed => committed

namespace ZinderChainSource

variable (source : ZinderChainSource κ)

def translateChainEventEnvelope (envelope : ZinderChainEventEnvelope) (expectedNetwork : Network) :
    Except ChainSourceError ChainEventEnvelope := do
  let chainEpoch ← translateChainEpoch envelope.chainEpoch expectedNetwork
  if envelope.settledTipHeight ≠ chainEpoch.settledTip.height then
    throw (.unsupportedResponse "chain-event envelope settled tip differs from its epoch")
  else do
    let event ← translateChainEvent envelope.event expectedNetwork
    if event.committed.chainEpoch ≠ chainEpoch then
      throw (.unsupportedResponse "chain-event committed epoch differs from its envelope epoch")
    else return ⟨envelope.cursor, envelope.eventSequence, chainEpoch, event⟩

def currentEpoch : SourceM Source.ChainEpoch := do
  source.ensureCapabilities requiredSyncCapabilities
  let epoch ← Fallible.call ofIndexer (ask .currentEpoch)
  check (translateChainEpoch epoch source.network)

def compactBlocks (chainEpoch : Source.ChainEpoch) (blockRange : BlockHeightRange) :
    SourceM (List (Except ChainSourceError Scan.CompactBlockArtifact)) := do
  source.ensureCapabilities requiredSyncCapabilities
  let epoch ← check (source.pinnedEpoch chainEpoch)
  let stream ← Fallible.call mapIndexerError
    (ask (.compactBlocksInRange ⟨blockRange.startHeight, blockRange.endHeight⟩ epoch))
  return stream.map fun item => item.mapError mapIndexerError >>= Scan.decodeCompactBlock

def treeStateAt (chainEpoch : Source.ChainEpoch) (blockHeight : UInt32) :
    SourceM Scan.TreeStateArtifact := do
  source.ensureCapabilities requiredSyncCapabilities
  let epoch ← check (source.pinnedEpoch chainEpoch)
  let artifact ← Fallible.call mapIndexerError (ask (.treeStateAt blockHeight epoch))
  check (Scan.decodeTreeState source.lib.toLibrary artifact blockHeight source.network)

def subtreeRoots (chainEpoch : Source.ChainEpoch) (pool : ShieldedPool) (startIndex maxCount : UInt32) :
    SourceM (List SubtreeRoot) := do
  source.ensureCapabilities requiredSyncCapabilities
  let epoch ← check (source.pinnedEpoch chainEpoch)
  let bounded := max 1 (min maxCount defaultSubtreePageSize)
  let artifacts ← Fallible.call mapIndexerError
    (ask (.subtreeRootsInRange pool startIndex bounded epoch))
  return artifacts.map fun artifact =>
    ⟨artifact.subtreeIndex, artifact.rootHash, artifact.completingBlockHeight⟩

def translateTxStatus (txId : TxId) : ZinderTxStatus → Except ChainSourceError TransactionStatus
  | .mined blockHeight => .ok (.confirmed txId blockHeight)
  | .inMempool => .ok (.inMempool txId)
  | .notFound => .ok .notFound
  | .other => .error (.unsupportedResponse "TransactionStatus")

def transactionStatus (txId : TxId) : SourceM TransactionStatus := do
  source.ensureCapabilities [transaction]
  let status ← Fallible.call ofIndexer (ask (.transactionById (TxId.asBytes txId)))
  check (translateTxStatus txId status)

def translateUtxo (hex : Wire.Hex.Codec) (output : ZinderUnspentOutput) :
    Except ChainSourceError TransparentUtxo := do
  let txId := TxId.fromBytes output.transactionId.toList
  let valueZat ← (Zatoshis.tryFrom output.valueZat).mapError fun error =>
    ChainSourceError.malformedTransparentUtxoSet ("outpoint " ++ txId.rpcHex hex ++ ":" ++
      toString output.outputIndex ++ " has invalid value_zat " ++ toString output.valueZat ++ ": " ++
      Scan.zatoshisErrorText error)
  return ⟨txId, output.outputIndex, valueZat.val, output.blockHeight, output.scriptPubKey⟩

/-- One item of the stream; a chunk of another epoch ends the read. -/
def readChunk (hex : Wire.Hex.Codec) (epoch : UInt64)
    (item : Except ZinderError ZinderUnspentChunk) :
    Except ChainSourceError TransparentUtxo := do
  let chunk ← item.mapError mapIndexerError
  if chunk.epochId ≠ epoch then throw .chainEpochPinUnavailable
  translateUtxo hex chunk.output

def transparentUtxos (chainEpoch : Source.ChainEpoch) (scriptPubKeyBytes : List UInt8) :
    SourceM (List TransparentUtxo) := do
  source.ensureCapabilities [transparentAddressUnspentOutputs]
  let epoch ← check (source.pinnedEpoch chainEpoch)
  let stream ← Fallible.call mapIndexerError (ask (.transparentAddressUnspentOutputs
    (source.lib.addressScriptHash scriptPubKeyBytes) 0 epoch))
  check (stream.mapM (readChunk source.lib.hex epoch))

def chainEventEnvelopes (start : ChainEventStreamStart) :
    SourceM (List (Except ChainSourceError ChainEventEnvelope)) := do
  source.ensureCapabilities [chainEventsCapability]
  let stream ← Fallible.call mapIndexerError (ask (.chainEvents start))
  return stream.map fun item => item.mapError mapIndexerError >>= fun envelope =>
    translateChainEventEnvelope envelope source.network

end ZinderChainSource

/-! The indexer's words for the source's values. -/

def networkToZinder : Network → ZinderNetwork
  | .mainnet => .zcashMainnet
  | .testnet => .zcashTestnet
  | .regtest _ => .zcashRegtest

def epochSource (epoch : Source.ChainEpoch) : ZinderChainEpoch :=
  ⟨epoch.id.value, networkToZinder epoch.network, epoch.visibleTip.height,
    epoch.visibleTip.hash.asBytes, epoch.settledTip.height, epoch.settledTip.hash.asBytes⟩

def EpochRange.source (part : EpochRange) : ZinderEpochRange :=
  ⟨epochSource part.chainEpoch, part.blockRange.startHeight, part.blockRange.endHeight⟩

def ChainEvent.source : ChainEvent → ZinderChainEvent
  | chainCommitted committed => .chainCommitted committed.source
  | chainReorged reverted committed => .chainReorged reverted.source committed.source

def ChainEventEnvelope.source (envelope : ChainEventEnvelope) : ZinderChainEventEnvelope :=
  ⟨envelope.cursor, envelope.eventSequence, epochSource envelope.chainEpoch,
    envelope.chainEpoch.settledTip.height, envelope.event.source⟩

def TransparentUtxo.source (utxo : TransparentUtxo) : ZinderUnspentOutput :=
  ⟨Scan.txIdBytes utxo.txId, utxo.outputIndex, utxo.valueZat.raw, utxo.confirmedAtHeight,
    utxo.scriptPubKeyBytes⟩

/-- The epoch is of the network, and its tips fit together. -/
def EpochOn (network : Network) (epoch : Source.ChainEpoch) : Prop :=
  epoch.network = network ∧ epoch.Coherent

def EpochRange.On (network : Network) (part : EpochRange) : Prop :=
  EpochOn network part.chainEpoch ∧ part.blockRange.WellFormed

def ChainEvent.On (network : Network) : ChainEvent → Prop
  | chainCommitted committed => committed.On network
  | chainReorged reverted committed => reverted.On network ∧ committed.On network

/-- An event of the network that commits the epoch its envelope names. -/
structure ChainEventEnvelope.On (network : Network) (envelope : ChainEventEnvelope) : Prop where
  event : envelope.event.On network
  committed : envelope.event.committed.chainEpoch = envelope.chainEpoch

section Translate

open ZinderChainSource (networkToZally orUnsupported translateChainEpoch rangeToZally
  translateEpochRange translateChainEvent translateChainEventEnvelope translateUtxo readChunk)

variable {network : Network}

theorem networkToZally_ok_iff {expected : Network} : networkToZally told expected = .ok network ↔
    network = expected ∧ told = networkToZinder expected := by
  rw [networkToZally,bind_ok_iff]
  constructor
  · rintro ⟨actual, named, ran⟩
    split at ran
    · cases ran
    · rename_i same
      obtain rfl := Except.ok.inj ran
      obtain rfl := not_not.mp same
      refine ⟨rfl, ?_⟩
      cases told <;> cases actual <;> first | rfl | cases named
  · rintro ⟨rfl, rfl⟩
    refine ⟨network, ?_, if_neg (not_not.mpr rfl)⟩
    cases network <;> rfl

theorem orUnsupported_ok_iff : orUnsupported response made = .ok value ↔ value ∈ made := by
  cases made <;> simp [orUnsupported]

theorem translateChainEpoch_ok_iff (told : ZinderChainEpoch) (epoch : Source.ChainEpoch) :
    translateChainEpoch told network = .ok epoch ↔
      epochSource epoch = told ∧ EpochOn network epoch := by
  rw [translateChainEpoch,bind_ok_iff]
  constructor
  · rintro ⟨actual, named, ran⟩
    obtain ⟨rfl, same⟩ := networkToZally_ok_iff.mp named
    rw [if_neg (not_not.mpr rfl)] at ran
    obtain ⟨coherent, rfl⟩ := Source.ChainEpoch.mem_new_iff.mp (orUnsupported_ok_iff.mp ran)
    exact ⟨by rw [epochSource,← same], rfl, coherent⟩
  · rintro ⟨rfl, rfl, coherent⟩
    refine ⟨epoch.network, networkToZally_ok_iff.mpr ⟨rfl, rfl⟩, ?_⟩
    rw [if_neg (not_not.mpr rfl)]
    exact orUnsupported_ok_iff.mpr (Source.ChainEpoch.mem_new_iff.mpr ⟨coherent, rfl⟩)

theorem rangeToZally_ok_iff (told : ZinderBlockHeightRange) (range : BlockHeightRange) :
    rangeToZally told = .ok range ↔ ⟨range.startHeight, range.endHeight⟩ = told ∧ range.WellFormed := by
  rw [rangeToZally,orUnsupported_ok_iff,Source.BlockHeightRange.mem_new_iff]
  constructor
  · rintro ⟨formed, rfl⟩
    exact ⟨rfl, formed⟩
  · rintro ⟨rfl, formed⟩
    exact ⟨formed, rfl⟩

theorem translateEpochRange_ok_iff (told : ZinderEpochRange) (part : EpochRange) :
    translateEpochRange told network = .ok part ↔ part.source = told ∧ part.On network := by
  rw [translateEpochRange,bind_ok_iff]
  constructor
  · rintro ⟨epoch, first, ran⟩
    obtain ⟨range, second, returned⟩ := bind_ok_iff.mp ran
    obtain rfl := Except.ok.inj returned
    obtain ⟨sameEpoch, on⟩ := (translateChainEpoch_ok_iff _ _).mp first
    obtain ⟨sameRange, formed⟩ := (rangeToZally_ok_iff _ _).mp second
    exact ⟨by rw [EpochRange.source,sameEpoch,sameRange], on, formed⟩
  · rintro ⟨rfl, on, formed⟩
    refine ⟨part.chainEpoch, (translateChainEpoch_ok_iff _ _).mpr ⟨rfl, on⟩, ?_⟩
    exact bind_ok ((rangeToZally_ok_iff _ _).mpr ⟨rfl, formed⟩) rfl

theorem translateChainEvent_ok_iff (told : ZinderChainEvent) (event : ChainEvent) :
    translateChainEvent told network = .ok event ↔ event.source = told ∧ event.On network := by
  constructor
  · intro translated
    cases told with
    | chainCommitted committed =>
      obtain ⟨part, first, returned⟩ := bind_ok_iff.mp translated
      obtain rfl := Except.ok.inj returned
      obtain ⟨rfl, on⟩ := (translateEpochRange_ok_iff _ _).mp first
      exact ⟨rfl, on⟩
    | chainReorged reverted committed =>
      obtain ⟨before, first, ran⟩ := bind_ok_iff.mp translated
      obtain ⟨part, second, returned⟩ := bind_ok_iff.mp ran
      obtain rfl := Except.ok.inj returned
      obtain ⟨rfl, onBefore⟩ := (translateEpochRange_ok_iff _ _).mp first
      obtain ⟨rfl, on⟩ := (translateEpochRange_ok_iff _ _).mp second
      exact ⟨rfl, onBefore, on⟩
    | other => cases translated
  · rintro ⟨rfl, on⟩
    cases event with
    | chainCommitted committed =>
      exact bind_ok ((translateEpochRange_ok_iff _ _).mpr ⟨rfl, on⟩) rfl
    | chainReorged reverted committed =>
      exact bind_ok ((translateEpochRange_ok_iff _ _).mpr ⟨rfl, on.1⟩)
        (bind_ok ((translateEpochRange_ok_iff _ _).mpr ⟨rfl, on.2⟩) rfl)

/-- An envelope is taken when it is of the network and agrees with its event, and nothing of it
is lost. -/
theorem translateChainEventEnvelope_ok_iff (told : ZinderChainEventEnvelope)
    (envelope : ChainEventEnvelope) : translateChainEventEnvelope told network = .ok envelope ↔
      envelope.source = told ∧ envelope.On network := by
  rw [translateChainEventEnvelope,bind_ok_iff]
  constructor
  · rintro ⟨epoch, first, ran⟩
    obtain ⟨sameEpoch, -⟩ := (translateChainEpoch_ok_iff _ _).mp first
    split at ran
    · cases ran
    · rename_i sameTip
      obtain ⟨event, second, ran⟩ := bind_ok_iff.mp ran
      obtain ⟨sameEvent, on⟩ := (translateChainEvent_ok_iff _ _).mp second
      split at ran
      · cases ran
      · rename_i sameCommitted
        obtain rfl := Except.ok.inj ran
        refine ⟨?_, on, not_not.mp sameCommitted⟩
        rw [ChainEventEnvelope.source,sameEpoch,sameEvent,← not_not.mp sameTip]
  · rintro ⟨rfl, on, committed⟩
    have epochOn : EpochOn network envelope.chainEpoch := by
      rw [← committed]
      cases known : envelope.event with
      | chainCommitted part => exact (known ▸ on : ChainEvent.On network (.chainCommitted part)).1
      | chainReorged before part =>
        exact (known ▸ on : ChainEvent.On network (.chainReorged before part)).2.1
    refine ⟨envelope.chainEpoch, (translateChainEpoch_ok_iff _ _).mpr ⟨rfl, epochOn⟩, ?_⟩
    rw [if_neg (fun other => other rfl)]
    apply bind_ok ((translateChainEvent_ok_iff _ _).mpr ⟨rfl, on⟩)
    rw [if_neg (not_not.mpr committed)]
    rfl

theorem translateUtxo_ok_iff (output : ZinderUnspentOutput) (utxo : TransparentUtxo) :
    translateUtxo hex output = .ok utxo ↔ utxo.source = output ∧ utxo.valueZat.Valid := by
  rw [translateUtxo,bind_ok_iff]
  constructor
  · rintro ⟨amount, converted, returned⟩
    obtain rfl := Except.ok.inj returned
    have same := Zatoshis.tryFrom_ok_iff.mp (mapError_ok_iff.mp converted)
    exact ⟨by rw [TransparentUtxo.source,Scan.txIdBytes_fromBytes,same], amount.property⟩
  · rintro ⟨rfl, valid⟩
    refine ⟨⟨utxo.valueZat, valid⟩, mapError_ok_iff.mpr (Zatoshis.tryFrom_ok_iff.mpr rfl), ?_⟩
    rw [TransparentUtxo.source,Scan.fromBytes_txIdBytes]
    rfl

/-- A chunk is read when it is of the pinned epoch and its amount within the money supply. -/
theorem readChunk_ok_iff (item : Except ZinderError ZinderUnspentChunk) (utxo : TransparentUtxo) :
    readChunk hex epoch item = .ok utxo ↔
      .ok ⟨epoch, utxo.source⟩ = item ∧ utxo.valueZat.Valid := by
  rw [readChunk,bind_ok_iff]
  constructor
  · rintro ⟨chunk, given, ran⟩
    obtain rfl := mapError_ok_iff.mp given
    split at ran
    · cases ran
    · rename_i same
      obtain ⟨sameOutput, valid⟩ := (translateUtxo_ok_iff _ _).mp ran
      exact ⟨by rw [sameOutput,← not_not.mp same], valid⟩
  · rintro ⟨rfl, valid⟩
    refine ⟨⟨epoch, utxo.source⟩, rfl, ?_⟩
    rw [if_neg (not_not.mpr rfl)]
    exact (translateUtxo_ok_iff _ _).mpr ⟨rfl, valid⟩

end Translate

end Zally.ZinderSource
