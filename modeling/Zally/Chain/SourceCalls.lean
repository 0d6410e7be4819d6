import Zally.Chain.ZinderSource

/-! Concurrent calls on clones of one chain source: what they ask of the indexer, and what their
answers are good for. -/
namespace Zally.ZinderSource

open Async Async.Program Async.OnceCell Outcome
open Source (BlockHash BlockHeightRange)

inductive SourceCall where
  | currentEpoch
  | compactBlocks (chainEpoch : Source.ChainEpoch) (blockRange : BlockHeightRange)
  | treeStateAt (chainEpoch : Source.ChainEpoch) (blockHeight : UInt32)
  | subtreeRoots (chainEpoch : Source.ChainEpoch) (pool : ShieldedPool) (startIndex maxCount : UInt32)
  | transactionStatus (txId : TxId)
  | transparentUtxos (chainEpoch : Source.ChainEpoch) (scriptPubKeyBytes : List UInt8)
  | chainEventEnvelopes (start : ChainEventStreamStart)

variable {κ : Type}

namespace SourceCall

@[reducible] def Answer : SourceCall → Type
  | currentEpoch => Source.ChainEpoch
  | compactBlocks _ _ => List (Except ChainSourceError Scan.CompactBlockArtifact)
  | treeStateAt _ _ => Scan.TreeStateArtifact
  | subtreeRoots _ _ _ _ => List SubtreeRoot
  | transactionStatus _ => TransactionStatus
  | transparentUtxos _ _ => List TransparentUtxo
  | chainEventEnvelopes _ => List (Except ChainSourceError ChainEventEnvelope)

def program (source : ZinderChainSource κ) : (call : SourceCall) → SourceM call.Answer
  | currentEpoch => source.currentEpoch
  | compactBlocks chainEpoch blockRange => source.compactBlocks chainEpoch blockRange
  | treeStateAt chainEpoch blockHeight => source.treeStateAt chainEpoch blockHeight
  | subtreeRoots chainEpoch pool startIndex maxCount =>
    source.subtreeRoots chainEpoch pool startIndex maxCount
  | transactionStatus txId => source.transactionStatus txId
  | transparentUtxos chainEpoch scriptPubKeyBytes =>
    source.transparentUtxos chainEpoch scriptPubKeyBytes
  | chainEventEnvelopes start => source.chainEventEnvelopes start

def required : SourceCall → List Capability
  | currentEpoch | compactBlocks _ _ | treeStateAt _ _ | subtreeRoots _ _ _ _ =>
    requiredSyncCapabilities
  | transactionStatus _ => [transaction]
  | transparentUtxos _ _ => [transparentAddressUnspentOutputs]
  | chainEventEnvelopes _ => [chainEventsCapability]

/-- The request the call may make: one that names the caller's epoch, of the source's network, asks
for what the caller asked for, and for no more roots than a page holds. -/
def Requests (source : ZinderChainSource κ) : SourceCall → IndexerCommand → Prop
  | currentEpoch, command => command = .currentEpoch
  | compactBlocks chainEpoch blockRange, command => chainEpoch.network = source.network ∧
    command = .compactBlocksInRange ⟨blockRange.startHeight, blockRange.endHeight⟩
      chainEpoch.id.value
  | treeStateAt chainEpoch blockHeight, command => chainEpoch.network = source.network ∧
    command = .treeStateAt blockHeight chainEpoch.id.value
  | subtreeRoots chainEpoch pool startIndex maxCount, command =>
    chainEpoch.network = source.network ∧ ∃ bounded, 1 ≤ bounded ∧ bounded ≤ 256 ∧
      (maxCount = 0 ∨ bounded ≤ maxCount) ∧
      command = .subtreeRootsInRange pool startIndex bounded chainEpoch.id.value
  | transactionStatus txId, command => command = .transactionById (TxId.asBytes txId)
  | transparentUtxos chainEpoch scriptPubKeyBytes, command => chainEpoch.network = source.network ∧
    command = .transparentAddressUnspentOutputs (source.lib.addressScriptHash scriptPubKeyBytes) 0
      chainEpoch.id.value
  | chainEventEnvelopes start, command => command = .chainEvents start

end SourceCall

/-- What an event is to the cell of capabilities. A descriptor of an older contract is turned
down. -/
def cellStep (source : ZinderChainSource κ) : IndexerEvent → Step (List Capability)
  | ⟨.cachedCapabilities, seen⟩ => .read seen
  | ⟨.serverInfo, .ok descriptor⟩ => .learn
    (if descriptor.contractRevision < source.lib.minSupportedContractRevision then none
    else some descriptor.capabilities)
  | ⟨.serverInfo, .error _⟩ => .learn none
  | ⟨.cacheCapabilities capabilities, _⟩ => .fill capabilities
  | _ => .use

section Requests

variable {source : ZinderChainSource κ}

theorem within_check {commands : IndexerCommand → Prop} {result : Except ChainSourceError α}
    {rest : α → SourceM β} (each : ∀ value, result = .ok value → (rest value).run.Within commands) :
    (check result >>= rest).run.Within commands := by
  cases result with
  | error error => trivial
  | ok value => exact each value rfl

theorem within_request {commands : IndexerCommand → Prop} {command : IndexerCommand}
    {answer : command.Answer → Except ε' α} {lift : ε' → ChainSourceError} {rest : α → SourceM β}
    (allowed : commands command) (each : ∀ value, (rest value).run.Within commands) :
    (Fallible.call lift (await command fun reply => done (answer reply)) >>= rest).run.Within
      commands :=
  Fallible.within_bind (Fallible.within_call ⟨allowed, fun _ => trivial⟩) each

theorem pinnedEpoch_ok_iff : source.pinnedEpoch chainEpoch = .ok epoch ↔
    chainEpoch.network = source.network ∧ epoch = chainEpoch.id.value := by
  rw [ZinderChainSource.pinnedEpoch]
  split
  · rename_i other
    exact iff_of_false nofun fun pinned => other pinned.1
  · rename_i same
    rw [Except.ok.injEq,eq_comm]
    exact (and_iff_right (not_not.mp same)).symm

theorem bounded_max_min (maxCount : UInt32) :
    1 ≤ max 1 (min maxCount defaultSubtreePageSize) ∧
      max 1 (min maxCount defaultSubtreePageSize) ≤ 256 ∧
      (maxCount = 0 ∨ max 1 (min maxCount defaultSubtreePageSize) ≤ maxCount) := by
  simp only [Max.max,Min.min,defaultSubtreePageSize]
  grind

/-- A call makes sure of its capabilities, and then makes its own request. -/
theorem program_eq (source : ZinderChainSource κ) (call : SourceCall) : ∃ rest : SourceM call.Answer,
    call.program source = (source.ensureCapabilities call.required >>= fun _ => rest) ∧
      rest.run.Within (call.Requests source) := by
  cases call with
  | currentEpoch =>
    exact ⟨_, rfl, within_request rfl fun _ => trivial⟩
  | compactBlocks chainEpoch blockRange =>
    refine ⟨_, rfl, within_check fun epoch pinned => within_request ?_ fun _ => trivial⟩
    obtain ⟨same, rfl⟩ := pinnedEpoch_ok_iff.mp pinned
    exact ⟨same, rfl⟩
  | treeStateAt chainEpoch blockHeight =>
    refine ⟨_, rfl, within_check fun epoch pinned => within_request ?_ fun _ => trivial⟩
    obtain ⟨same, rfl⟩ := pinnedEpoch_ok_iff.mp pinned
    exact ⟨same, rfl⟩
  | subtreeRoots chainEpoch pool startIndex maxCount =>
    refine ⟨_, rfl, within_check fun epoch pinned => within_request ?_ fun _ => trivial⟩
    obtain ⟨same, rfl⟩ := pinnedEpoch_ok_iff.mp pinned
    obtain ⟨least, page, asked⟩ := bounded_max_min maxCount
    exact ⟨same, _, least, page, asked, rfl⟩
  | transactionStatus txId =>
    exact ⟨_, rfl, within_request rfl fun _ => trivial⟩
  | transparentUtxos chainEpoch scriptPubKeyBytes =>
    refine ⟨_, rfl, within_check fun epoch pinned => within_request ?_ fun _ => trivial⟩
    obtain ⟨same, rfl⟩ := pinnedEpoch_ok_iff.mp pinned
    exact ⟨same, rfl⟩
  | chainEventEnvelopes start =>
    exact ⟨_, rfl, within_request rfl fun _ => trivial⟩

theorem cellStep_of_requests {call : SourceCall} (command : IndexerCommand)
    (answer : command.Answer) (requests : call.Requests source command) :
    cellStep source ⟨command, answer⟩ = .use := by
  cases call <;> first
    | obtain rfl := requests
      rfl
    | obtain ⟨-, rfl⟩ := requests
      rfl
    | obtain ⟨-, _, -, -, -, rfl⟩ := requests
      rfl

theorem obeys_connectedCapabilities {enough : List Capability → Prop} :
    ObeysFallible (cellStep source) enough (Known (cellStep source)) past
      source.connectedCapabilities := by
  refine obeys_getOrTryInit (fun _ => rfl) (fun _ _ => rfl) (obeys_unlessRefused fun reply => ?_)
  cases reply with
  | error error => exact ⟨none, rfl, fun told same => by cases same⟩
  | ok descriptor =>
    refine ⟨_, rfl, ?_⟩
    rintro _ ⟨⟩ supported
    exact if_neg supported

theorem obeys_ensureCapabilities (required : List Capability) :
    ObeysFallible (cellStep source) (required ⊆ ·)
      (fun past _ => ∃ value, required ⊆ value ∧ Known (cellStep source) past value) past
      (source.ensureCapabilities required) := by
  refine obeys_connectedCapabilities.bind fun later capabilities known => ?_
  simp only []
  split
  · rename_i none
    refine ObeysFallible.pure ⟨capabilities, fun capability member => ?_, known⟩
    have held := List.filter_eq_nil_iff.mp none capability member
    simpa using held
  · exact ObeysFallible.throw _

/-- A call keeps to the rules of the cell. -/
theorem obeys_program (call : SourceCall) : ObeysFallible (cellStep source) (call.required ⊆ ·)
    (fun _ _ => True) [] (call.program source) := by
  obtain ⟨rest, same, within⟩ := program_eq source call
  rw [same]
  refine (obeys_ensureCapabilities call.required).bind fun later _ known => ?_
  obtain ⟨value, holds, known⟩ := known
  exact ObeysFallible.of_within within holds known cellStep_of_requests

end Requests

/-! What an answer is worth: the indexer gave it to this very request, and it is well formed. -/

def SubtreeRoot.source (root : SubtreeRoot) : ZinderSubtreeRoot :=
  ⟨root.index, root.rootBytes, root.completingBlockHeight⟩

def TransactionStatus.source : TransactionStatus → ZinderTxStatus
  | confirmed _ confirmedAtHeight => .mined confirmedAtHeight
  | inMempool _ => .inMempool
  | notFound => .notFound

def TransactionStatus.Names (txId : TxId) : TransactionStatus → Prop
  | confirmed other _ | inMempool other => other = txId
  | notFound => True

/-- A streamed item that is a block is the indexer's, with amounts within the money supply. -/
def BlockOf (item : Except ZinderError Scan.Zinder.CompactBlockArtifact)
    (given : Except ChainSourceError Scan.CompactBlockArtifact) : Prop :=
  ∀ block, given = .ok block ↔ item = .ok block.source ∧ block.Funded

def EnvelopeOf (network : Network) (item : Except ZinderError ZinderChainEventEnvelope)
    (given : Except ChainSourceError ChainEventEnvelope) : Prop :=
  ∀ envelope, given = .ok envelope ↔ item = .ok envelope.source ∧ envelope.On network

def SourceCall.AnsweredBy (source : ZinderChainSource κ) :
    (call : SourceCall) → List IndexerEvent → call.Answer → Prop
  | currentEpoch, trace, epoch =>
    ⟨.currentEpoch, .ok (epochSource epoch)⟩ ∈ trace ∧ EpochOn source.network epoch
  | compactBlocks chainEpoch blockRange, trace, items => ∃ stream,
    ⟨.compactBlocksInRange ⟨blockRange.startHeight, blockRange.endHeight⟩ chainEpoch.id.value,
      .ok stream⟩ ∈ trace ∧ List.Forall₂ BlockOf stream items
  | treeStateAt chainEpoch blockHeight, trace, treeState => ∃ artifact parsed,
    ⟨.treeStateAt blockHeight chainEpoch.id.value, .ok artifact⟩ ∈ trace ∧
      Scan.DecodedTreeState source.lib.toLibrary artifact blockHeight source.network parsed treeState
  | subtreeRoots chainEpoch pool startIndex maxCount, trace, roots =>
    ⟨.subtreeRootsInRange pool startIndex (max 1 (min maxCount defaultSubtreePageSize))
      chainEpoch.id.value, .ok (roots.map SubtreeRoot.source)⟩ ∈ trace
  | transactionStatus txId, trace, status =>
    ⟨.transactionById (TxId.asBytes txId), .ok status.source⟩ ∈ trace ∧ status.Names txId
  | transparentUtxos chainEpoch scriptPubKeyBytes, trace, utxos =>
    ⟨.transparentAddressUnspentOutputs (source.lib.addressScriptHash scriptPubKeyBytes) 0
      chainEpoch.id.value,
      .ok (utxos.map fun utxo => .ok ⟨chainEpoch.id.value, utxo.source⟩)⟩ ∈ trace ∧
      ∀ utxo ∈ utxos, utxo.valueZat.Valid
  | chainEventEnvelopes start, trace, envelopes => ∃ stream,
    ⟨.chainEvents start, .ok stream⟩ ∈ trace ∧
      List.Forall₂ (EnvelopeOf source.network) stream envelopes

section Answers

variable {source : ZinderChainSource κ}

theorem run_check {result : Except ChainSourceError α} {rest : α → SourceM β}
    (run : Runs (check result >>= rest).run trace (some (.ok value))) :
    ∃ checked, result = .ok checked ∧ Runs (rest checked).run trace (some (.ok value)) := by
  cases result with
  | error error => cases (runs_done_some run).2
  | ok checked => exact ⟨checked, rfl, run⟩

theorem run_request {command : IndexerCommand} {answer : command.Answer → Except ε' α}
    {lift : ε' → ChainSourceError} {rest : α → SourceM β}
    (run : Runs (Fallible.call lift (await command fun reply => done (answer reply)) >>= rest).run
      trace (some (.ok value))) :
    ∃ reply told, answer reply = .ok told ∧ ⟨command, reply⟩ ∈ trace ∧
      ∃ last, Runs (rest told).run last (some (.ok value)) := by
  obtain ⟨error, same, -⟩ | ⟨told, first, last, rfl, asked, ran⟩ := Fallible.runs_bind_some run
  · cases same
  · obtain ⟨reply, rfl, answered⟩ := Fallible.runs_call_ok asked
    exact ⟨reply, told, answered, List.mem_cons_self, last, ran⟩

theorem blockOf_decoded (item : Except ZinderError Scan.Zinder.CompactBlockArtifact) :
    BlockOf item (item.mapError mapIndexerError >>= Scan.decodeCompactBlock) := by
  intro block
  rw [bind_ok_iff]
  constructor
  · rintro ⟨artifact, given, decoded⟩
    obtain ⟨rfl, funded⟩ := (Scan.decodeCompactBlock_ok_iff _ _).mp decoded
    exact ⟨mapError_ok_iff.mp given, funded⟩
  · rintro ⟨rfl, funded⟩
    exact ⟨_, rfl, (Scan.decodeCompactBlock_ok_iff _ _).mpr ⟨rfl, funded⟩⟩

theorem envelopeOf_translated (item : Except ZinderError ZinderChainEventEnvelope) :
    EnvelopeOf network item (item.mapError mapIndexerError >>= fun envelope =>
      ZinderChainSource.translateChainEventEnvelope envelope network) := by
  intro envelope
  rw [bind_ok_iff]
  constructor
  · rintro ⟨told, given, translated⟩
    obtain ⟨rfl, on⟩ := (translateChainEventEnvelope_ok_iff _ _).mp translated
    exact ⟨mapError_ok_iff.mp given, on⟩
  · rintro ⟨rfl, on⟩
    exact ⟨_, rfl, (translateChainEventEnvelope_ok_iff _ _).mpr ⟨rfl, on⟩⟩

theorem translateTxStatus_ok_iff : ZinderChainSource.translateTxStatus txId told = .ok status ↔
    status.source = told ∧ status.Names txId := by
  cases told <;> cases status <;>
    simp [ZinderChainSource.translateTxStatus,TransactionStatus.source,TransactionStatus.Names,
      eq_comm,and_comm]

/-- A value that a call returned is what the indexer answered to that call's request. -/
theorem call_answered (call : SourceCall) {answer : call.Answer}
    (run : Runs (call.program source).run trace (some (.ok answer))) :
    call.AnsweredBy source trace answer := by
  have split {rest : SourceM call.Answer} {required : List Capability}
      (run : Runs (source.ensureCapabilities required >>= fun _ => rest).run trace
        (some (.ok answer))) :
      ∃ first last, trace = first ++ last ∧ Runs rest.run last (some (.ok answer)) := by
    obtain ⟨error, same, -⟩ | ⟨_, first, last, rfl, -, ran⟩ := Fallible.runs_bind_some run
    · cases same
    · exact ⟨first, last, rfl, ran⟩
  cases call with
  | currentEpoch =>
    obtain ⟨first, last, rfl, ran⟩ := split run
    obtain ⟨reply, told, rfl, asked, _, ran⟩ := run_request ran
    obtain ⟨same, on⟩ := (translateChainEpoch_ok_iff _ _).mp (runs_done_some ran).2.symm
    exact ⟨same ▸ List.mem_append_right _ asked, on⟩
  | compactBlocks chainEpoch blockRange =>
    obtain ⟨first, last, rfl, ran⟩ := split run
    obtain ⟨epoch, pinned, ran⟩ := run_check ran
    obtain ⟨-, rfl⟩ := pinnedEpoch_ok_iff.mp pinned
    obtain ⟨reply, stream, rfl, asked, _, ran⟩ := run_request ran
    obtain rfl := Except.ok.inj (runs_done_some ran).2
    refine ⟨stream, List.mem_append_right _ asked, ?_⟩
    exact List.forall₂_map_right_iff.mpr (List.forall₂_same.mpr fun item _ => blockOf_decoded item)
  | treeStateAt chainEpoch blockHeight =>
    obtain ⟨first, last, rfl, ran⟩ := split run
    obtain ⟨epoch, pinned, ran⟩ := run_check ran
    obtain ⟨-, rfl⟩ := pinnedEpoch_ok_iff.mp pinned
    obtain ⟨reply, artifact, rfl, asked, _, ran⟩ := run_request ran
    obtain ⟨parsed, decoded⟩ := Scan.decodeTreeState_ok_iff.mp (runs_done_some ran).2.symm
    exact ⟨artifact, parsed, List.mem_append_right _ asked, decoded⟩
  | subtreeRoots chainEpoch pool startIndex maxCount =>
    obtain ⟨first, last, rfl, ran⟩ := split run
    obtain ⟨epoch, pinned, ran⟩ := run_check ran
    obtain ⟨-, rfl⟩ := pinnedEpoch_ok_iff.mp pinned
    obtain ⟨reply, artifacts, rfl, asked, _, ran⟩ := run_request ran
    obtain rfl := Except.ok.inj (runs_done_some ran).2
    refine List.mem_append_right _ ?_
    simpa [SourceCall.AnsweredBy,SubtreeRoot.source,Function.comp_def] using asked
  | transactionStatus txId =>
    obtain ⟨first, last, rfl, ran⟩ := split run
    obtain ⟨reply, told, rfl, asked, _, ran⟩ := run_request ran
    obtain ⟨rfl, names⟩ := translateTxStatus_ok_iff.mp (runs_done_some ran).2.symm
    exact ⟨List.mem_append_right _ asked, names⟩
  | transparentUtxos chainEpoch scriptPubKeyBytes =>
    obtain ⟨first, last, rfl, ran⟩ := split run
    obtain ⟨epoch, pinned, ran⟩ := run_check ran
    obtain ⟨-, rfl⟩ := pinnedEpoch_ok_iff.mp pinned
    obtain ⟨reply, stream, rfl, asked, _, ran⟩ := run_request ran
    obtain ⟨rfl, valid⟩ :=
      (mapM_ok_iff_of_undoes readChunk_ok_iff).mp (runs_done_some ran).2.symm
    exact ⟨List.mem_append_right _ asked, valid⟩
  | chainEventEnvelopes start =>
    obtain ⟨first, last, rfl, ran⟩ := split run
    obtain ⟨reply, stream, rfl, asked, _, ran⟩ := run_request ran
    obtain rfl := Except.ok.inj (runs_done_some ran).2
    refine ⟨stream, List.mem_append_right _ asked, ?_⟩
    exact List.forall₂_map_right_iff.mpr
      (List.forall₂_same.mpr fun item _ => envelopeOf_translated item)

end Answers

section Sample

def sampleLibrary : ZinderLibrary Unit where
  activationHeight _ _ := some 1
  parseJson _ := .ok (.object [])
  hex := Wire.Hex.reference
  networkText _ := "another network"
  toChainState _ _ _ _ _ _ _ := .ok ()
  minSupportedContractRevision := 1
  capabilityName _ := "capability"
  addressScriptHash bytes := bytes.reverse

def sampleSource : ZinderChainSource Unit := ⟨sampleLibrary, .mainnet⟩

def sampleEpoch : Source.ChainEpoch := ⟨⟨5⟩, .mainnet, ⟨12, ⟨.replicate 32 2⟩⟩, ⟨10, ⟨.replicate 32 1⟩⟩⟩

def sampleUtxo : TransparentUtxo := ⟨TxId.fromBytes (List.replicate 32 8), 0, ⟨456⟩, 9, [0x51]⟩

def sampleUtxosTrace : List IndexerEvent := [
  ⟨.cachedCapabilities, some [transparentAddressUnspentOutputs]⟩,
  ⟨.transparentAddressUnspentOutputs [2, 1] 0 5, .ok [.ok ⟨5, sampleUtxo.source⟩]⟩]

theorem sampleUtxos_answered : (SourceCall.transparentUtxos sampleEpoch [1, 2]).AnsweredBy
    sampleSource sampleUtxosTrace [sampleUtxo] :=
  call_answered (.transparentUtxos sampleEpoch [1, 2]) (.await (.await .done))

end Sample

end Zally.ZinderSource
