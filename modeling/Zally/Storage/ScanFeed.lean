import Zally.Chain.ScanArtifact
import Zally.Storage.Error

/-! The storage's side of a scan: the artifacts as the scanner's own records, and the calls its
block source makes with them. -/
namespace Zally.Scan

open Wire Outcome
open Source (BlockHash)

structure UpstreamCompactSaplingSpend where
  nf : List UInt8
  deriving DecidableEq

structure UpstreamCompactSaplingOutput where
  cmu : List UInt8
  ephemeralKey : List UInt8
  ciphertext : List UInt8
  deriving DecidableEq

structure UpstreamCompactShieldedAction where
  nullifier : List UInt8
  cmx : List UInt8
  ephemeralKey : List UInt8
  ciphertext : List UInt8
  deriving DecidableEq

structure UpstreamCompactTransparentInput where
  prevoutTxid : List UInt8
  prevoutIndex : UInt32
  deriving DecidableEq

structure UpstreamCompactTransparentOutput where
  value : UInt64
  scriptPubKey : List UInt8
  deriving DecidableEq

structure UpstreamCompactTransaction where
  index : UInt64
  txid : List UInt8
  fee : UInt32
  spends : List UpstreamCompactSaplingSpend
  outputs : List UpstreamCompactSaplingOutput
  actions : List UpstreamCompactShieldedAction
  ironwoodActions : List UpstreamCompactShieldedAction
  vin : List UpstreamCompactTransparentInput
  vout : List UpstreamCompactTransparentOutput
  deriving DecidableEq

structure UpstreamCompactBlock where
  height : UInt64
  hash : List UInt8
  prevHash : List UInt8
  time : UInt32
  header : List UInt8
  vtx : List UpstreamCompactTransaction
  chainMetadata : Option CompactChainMetadata
  deriving DecidableEq

def validateCiphertext (ciphertextBytes : List UInt8) : Except StorageError Unit :=
  if ciphertextBytes.length ≠ 52 then
    .error (.scanArtifactInvalid "compact_transaction.ciphertext_bytes"
      ("compact note ciphertext must be 52 bytes, got " ++ toString ciphertextBytes.length))
  else .ok ()

def compactActionToUpstream (action : CompactShieldedAction) :
    Except StorageError UpstreamCompactShieldedAction := do
  validateCiphertext action.ciphertextBytes.toList
  pure ⟨action.nullifierBytes.toList, action.commitmentBytes.toList,
    action.ephemeralKeyBytes.toList, action.ciphertextBytes.toList⟩

def compactOutputToUpstream (output : CompactSaplingOutput) :
    Except StorageError UpstreamCompactSaplingOutput := do
  validateCiphertext output.ciphertextBytes.toList
  pure ⟨output.commitmentBytes.toList, output.ephemeralKeyBytes.toList,
    output.ciphertextBytes.toList⟩

/-- A fee the source could not derive is written as none at all. -/
def feeToUpstream : Option Zatoshis → Except StorageError UInt32
  | some feeZat =>
    if feeZat.raw.toNat < 2 ^ 32 then .ok feeZat.raw.toUInt32
    else .error (.scanArtifactInvalid "compact_transaction.fee_zat" "fee exceeds u32::MAX")
  | none => .ok 0

def compactTransactionToUpstream (transaction : CompactTransaction) :
    Except StorageError UpstreamCompactTransaction := do
  let fee ← feeToUpstream transaction.feeZat
  let outputs ← transaction.saplingOutputs.mapM compactOutputToUpstream
  let actions ← transaction.orchardActions.mapM compactActionToUpstream
  let ironwoodActions ← transaction.ironwoodActions.mapM compactActionToUpstream
  pure {
    index := transaction.index
    txid := TxId.asBytes transaction.txId
    fee := fee
    spends := transaction.saplingSpends.map fun spend => ⟨spend.nullifierBytes.toList⟩
    outputs := outputs
    actions := actions
    ironwoodActions := ironwoodActions
    vin := transaction.transparentInputs.map fun input =>
      ⟨TxId.asBytes input.previousTxId, input.previousOutputIndex⟩
    vout := transaction.transparentOutputs.map fun output =>
      ⟨output.valueZat.raw, output.scriptPubKeyBytes⟩ }

/-- Whether two neighbours are out of order. -/
def unordered : List CompactTransaction → Bool
  | first :: second :: rest => first.index ≥ second.index || unordered (second :: rest)
  | _ => false

def compactBlockToUpstream (block : CompactBlockArtifact) : Except StorageError UpstreamCompactBlock := do
  if unordered block.transactions then
    throw (.scanArtifactInvalid "compact_block.transactions.index"
      "transaction indexes must be strictly increasing")
  let vtx ← block.transactions.mapM compactTransactionToUpstream
  pure {
    height := block.height.toUInt64
    hash := block.blockHash.asBytes.toList
    prevHash := block.previousBlockHash.asBytes.toList
    time := block.blockTimeSeconds
    header := []
    vtx := vtx
    chainMetadata := some block.chainMetadata }

variable {κ δ : Type} {lib : Library κ}

def validateActivePoolFrontier (lib : Library κ) (network : Network) (height : UInt32)
    (activation : NetworkUpgrade) (field : String) (frontierBytes : List UInt8) :
    Except StorageError Unit :=
  if lib.ActiveAt network activation height ∧ frontierBytes = [] then
    .error (.scanArtifactInvalid field ("active " ++ activation.name ++
      " frontier is empty at height " ++ toString height))
  else .ok ()

def networkLabel : Network → String
  | .mainnet => "main"
  | .testnet | .regtest _ => "test"

def TreeStateArtifact.toChainState (lib : Library κ) (treeState : TreeStateArtifact) :
    Except String κ :=
  lib.toChainState (networkLabel treeState.network) treeState.height.toUInt64
    (treeState.blockHash.toRpcHex lib.hex) treeState.blockTimeSeconds
    (lib.hex.encode treeState.saplingFinalStateBytes)
    (lib.hex.encode treeState.orchardFinalStateBytes)
    (lib.hex.encode treeState.ironwoodFinalStateBytes)

def treeStateToUpstream (lib : Library κ) (treeState : TreeStateArtifact)
    (expectedNetwork : Network) : Except StorageError κ := do
  if treeState.network ≠ expectedNetwork then
    throw (.scanArtifactInvalid "tree_state.network" ("source network " ++
      lib.networkText treeState.network ++ " differs from storage network " ++
      lib.networkText expectedNetwork))
  validateActivePoolFrontier lib expectedNetwork treeState.height .sapling
    "tree_state.sapling_final_state_bytes" treeState.saplingFinalStateBytes
  validateActivePoolFrontier lib expectedNetwork treeState.height .nu5
    "tree_state.orchard_final_state_bytes" treeState.orchardFinalStateBytes
  validateActivePoolFrontier lib expectedNetwork treeState.height .nu6_3
    "tree_state.ironwood_final_state_bytes" treeState.ironwoodFinalStateBytes
  (treeState.toChainState lib).mapError (.scanArtifactInvalid "tree_state")

/-- What is done with each block; it may stop the rest with an error. -/
abbrev WithBlock (σ ε : Type) := UpstreamCompactBlock → σ → σ × Except ε Unit

structure InMemoryBlockSource where
  blocks : List UpstreamCompactBlock

/-- The heights of the blocks fit 32 bits; larger ones would count as the largest. -/
def heightOf (block : UpstreamCompactBlock) : UInt32 :=
  if block.height.toNat < 2 ^ 32 then block.height.toUInt32 else .ofNat (2 ^ 32 - 1)

def withBlocksLoop (fromHeight : Option UInt32) (cap : Nat) (withBlock : WithBlock σ ε) :
    List UpstreamCompactBlock → (taken : Nat) → σ → σ × Except ε Unit
  | [], _, state => (state, .ok ())
  | block :: blocks, taken, state =>
    if ∃ start ∈ fromHeight, heightOf block < start then
      withBlocksLoop fromHeight cap withBlock blocks taken state
    else if taken ≥ cap then (state, .ok ())
    else
      match withBlock block state with
      | (state, .ok ()) => withBlocksLoop fromHeight cap withBlock blocks (taken + 1) state
      | (state, .error error) => (state, .error error)

def InMemoryBlockSource.withBlocks (source : InMemoryBlockSource) (fromHeight : Option UInt32)
    (limit : Option Nat) (withBlock : WithBlock σ ε) (state : σ) : σ × Except ε Unit :=
  withBlocksLoop fromHeight (limit.getD (2 ^ 64 - 1)) withBlock source.blocks 0 state

/-- How a scanner gets its blocks, whatever it does with each. -/
abbrev BlockFeed := (σ ε : Type) → WithBlock σ ε → σ → σ × Except ε Unit

/-- Every block in turn, until one stops the rest. -/
def feed (blocks : List UpstreamCompactBlock) : BlockFeed := fun _ _ withBlock state =>
  match blocks with
  | [] => (state, .ok ())
  | block :: blocks =>
    match withBlock block state with
    | (state, .ok ()) => feed blocks _ _ withBlock state
    | (state, .error error) => (state, .error error)

/-- Failures of the scan: a break of the chain, a conflict in a commitment tree, or any other. -/
inductive ChainError where
  | continuity (atHeight : BlockHeight)
  | commitmentTreeConflict (reason : String)
  | putBlocksCommitmentTreeConflict (reason : String)
  | other (reason : String)

def mapScanError : ChainError → StorageError
  | .continuity atHeight => .chainReorgDetected atHeight
  | .commitmentTreeConflict reason | .putBlocksCommitmentTreeConflict reason =>
    .commitmentTreeConflict reason
  | .other reason => .sqliteFailed ("scan_cached_blocks failed: " ++ reason) .notRetryable

structure ScanRequest where
  blocks : List CompactBlockArtifact
  fromHeight : UInt32
  fromState : TreeStateArtifact

structure ScanResult where
  scannedToHeight : UInt32
  blockCount : Nat
  deriving DecidableEq

/-- The upstream scan over a wallet database: it reads its source from `fromHeight` on, up to
`limit` blocks, and answers with the end of the scanned range. -/
abbrev Scanner (κ δ : Type) := Network → BlockFeed → (fromHeight : UInt32) → κ → δ →
  δ × Except ChainError UInt32

def scanCachedBlocks (scanner : Scanner κ δ) (network : Network) (source : InMemoryBlockSource)
    (fromHeight : UInt32) (fromState : κ) (limit : Nat) (db : δ) : δ × Except ChainError UInt32 :=
  scanner network (fun _ _ withBlock => source.withBlocks (some fromHeight) (some limit) withBlock)
    fromHeight fromState db

/-- What a request is turned into before the database is touched. -/
def prepareScan (lib : Library κ) (network : Network) (request : ScanRequest) :
    Except StorageError (InMemoryBlockSource × κ) := do
  if request.fromState.height.toNat + 1 ≠ request.fromHeight.toNat then
    throw (.scanArtifactInvalid "scan_request.from_state.height" ("tree-state height " ++
      toString request.fromState.height ++ " must immediately precede scan height " ++
      toString request.fromHeight))
  let blocks ← request.blocks.mapM compactBlockToUpstream
  let fromState ← treeStateToUpstream lib request.fromState network
  pure (⟨blocks⟩, fromState)

def scanAnswer (blockCount : Nat) : δ × Except ChainError UInt32 → δ × Except StorageError ScanResult
  | (db, .ok scannedEnd) => (db, .ok ⟨scannedEnd - min scannedEnd 1, blockCount⟩)
  | (db, .error error) => (db, .error (mapScanError error))

def scanBlocks (lib : Library κ) (scanner : Scanner κ δ) (network : Network) (request : ScanRequest)
    (db : δ) : δ × Except StorageError ScanResult :=
  match prepareScan lib network request with
  | .error error => (db, .error error)
  | .ok (source, fromState) =>
    let limit := max request.blocks.length 1
    scanAnswer request.blocks.length
      (scanCachedBlocks scanner network source request.fromHeight fromState limit db)

/-! What the scanner is to see of a block of the indexer. -/
section Upstream

def Zinder.CompactShieldedAction.upstream (action : Zinder.CompactShieldedAction) :
    UpstreamCompactShieldedAction :=
  ⟨action.nullifier.toList, action.commitment.toList, action.ephemeralKey.toList,
    action.ciphertext.toList⟩

def Zinder.CompactSaplingOutput.upstream (output : Zinder.CompactSaplingOutput) :
    UpstreamCompactSaplingOutput :=
  ⟨output.commitment.toList, output.ephemeralKey.toList, output.ciphertext.toList⟩

def Zinder.CompactTransaction.upstream (transaction : Zinder.CompactTransaction) :
    UpstreamCompactTransaction where
  index := transaction.index
  txid := transaction.transactionId.toList
  fee := (transaction.data.feeZat.getD 0).toUInt32
  spends := transaction.data.saplingSpends.map fun spend => ⟨spend.nullifier.toList⟩
  outputs := transaction.data.saplingOutputs.map Zinder.CompactSaplingOutput.upstream
  actions := transaction.data.orchardActions.map Zinder.CompactShieldedAction.upstream
  ironwoodActions := transaction.data.ironwoodActions.map Zinder.CompactShieldedAction.upstream
  vin := transaction.data.transparentInputs.map fun input =>
    ⟨input.previousTransactionId.toList, input.previousOutputIndex⟩
  vout := transaction.data.transparentOutputs.map fun output => ⟨output.valueZat, output.scriptPubKey⟩

def Zinder.CompactBlockArtifact.upstream (artifact : Zinder.CompactBlockArtifact) :
    UpstreamCompactBlock where
  height := artifact.height.toUInt64
  hash := artifact.blockHash.toList
  prevHash := artifact.previousBlockHash.toList
  time := artifact.time
  header := []
  vtx := artifact.transactions.map Zinder.CompactTransaction.upstream
  chainMetadata := some artifact.chainMetadata

/-- The scanner's record holds a fee of 32 bits. -/
def Zinder.CompactTransaction.FeeFits (transaction : Zinder.CompactTransaction) : Prop :=
  ∀ fee ∈ transaction.data.feeZat, fee.toNat < 2 ^ 32

/-- A block whose transactions stand in order and whose fees fit. -/
structure Zinder.CompactBlockArtifact.Scannable (artifact : Zinder.CompactBlockArtifact) : Prop where
  ordered : (artifact.transactions.map Zinder.CompactTransaction.index).Pairwise (· < ·)
  feesFit : ∀ transaction ∈ artifact.transactions, transaction.FeeFits

theorem validateCiphertext_toList (ciphertext : Vector UInt8 52) :
    validateCiphertext ciphertext.toList = .ok () := by
  rw [validateCiphertext,if_neg (not_not_intro Vector.length_toList)]

theorem compactActionToUpstream_eq (action : CompactShieldedAction) :
    compactActionToUpstream action = .ok action.source.upstream := by
  rw [compactActionToUpstream,validateCiphertext_toList]
  rfl

theorem compactOutputToUpstream_eq (output : CompactSaplingOutput) :
    compactOutputToUpstream output = .ok
      (Zinder.CompactSaplingOutput.mk output.commitmentBytes output.ephemeralKeyBytes
        output.ciphertextBytes).upstream := by
  rw [compactOutputToUpstream,validateCiphertext_toList]
  rfl

theorem feeToUpstream_ok_iff : feeToUpstream feeZat = .ok fee ↔
    (∀ zat ∈ feeZat.map Zatoshis.raw, zat.toNat < 2 ^ 32) ∧
      fee = ((feeZat.map Zatoshis.raw).getD 0).toUInt32 := by
  cases feeZat with
  | none => exact ⟨fun same => ⟨nofun, (Except.ok.inj same).symm⟩, fun both => congrArg _ both.2.symm⟩
  | some zat =>
    rw [feeToUpstream]
    split
    · rename_i small
      constructor
      · intro same
        refine ⟨fun other member => ?_, (Except.ok.inj same).symm⟩
        rwa [← Option.some.inj member]
      · exact fun both => congrArg Except.ok both.2.symm
    · rename_i large
      exact iff_of_false nofun fun both => large (both.1 _ rfl)

theorem compactTransactionToUpstream_ok_iff (transaction : CompactTransaction)
    (upstream : UpstreamCompactTransaction) :
    compactTransactionToUpstream transaction = .ok upstream ↔
      transaction.source.FeeFits ∧ upstream = transaction.source.upstream := by
  rw [compactTransactionToUpstream,bind_ok_iff]
  have outputs := mapM_eq_map fun output (_ : output ∈ transaction.saplingOutputs) =>
    compactOutputToUpstream_eq output
  have actions := mapM_eq_map fun action (_ : action ∈ transaction.orchardActions) =>
    compactActionToUpstream_eq action
  have ironwoodActions := mapM_eq_map fun action (_ : action ∈ transaction.ironwoodActions) =>
    compactActionToUpstream_eq action
  rw [outputs,actions,ironwoodActions]
  constructor
  · rintro ⟨fee, paid, returned⟩
    obtain ⟨fits, rfl⟩ := feeToUpstream_ok_iff.mp paid
    obtain rfl := Except.ok.inj returned
    refine ⟨fits, ?_⟩
    simp [CompactTransaction.source,Zinder.CompactTransaction.upstream,Function.comp_def,
      CompactTransparentOutput.source]
  · rintro ⟨fits, rfl⟩
    refine ⟨_, feeToUpstream_ok_iff.mpr ⟨fits, rfl⟩, congrArg Except.ok ?_⟩
    simp [CompactTransaction.source,Zinder.CompactTransaction.upstream,Function.comp_def,
      CompactTransparentOutput.source]

theorem unordered_eq_false_iff (transactions : List CompactTransaction) :
    unordered transactions = false ↔
      (transactions.map CompactTransaction.index).Pairwise (· < ·) := by
  rw [← List.isChain_iff_pairwise]
  fun_induction unordered transactions with
  | case1 first second rest ih =>
    rw [Bool.or_eq_false_iff,ih,decide_eq_false_iff_not,ge_iff_le,UInt64.not_le]
    exact List.isChain_cons_cons.symm
  | case2 transactions short =>
    refine iff_of_true rfl ?_
    rcases transactions with _ | ⟨first, _ | ⟨second, rest⟩⟩
    · exact .nil
    · exact .singleton _
    · exact absurd rfl (short first second rest)

theorem compactBlockToUpstream_ok_iff (block : CompactBlockArtifact)
    (upstream : UpstreamCompactBlock) : compactBlockToUpstream block = .ok upstream ↔
      block.source.Scannable ∧ upstream = block.source.upstream := by
  have indexes : block.source.transactions.map Zinder.CompactTransaction.index =
      block.transactions.map CompactTransaction.index := by
    rw [CompactBlockArtifact.source,List.map_map]
    rfl
  rw [compactBlockToUpstream]
  by_cases disordered : unordered block.transactions
  · rw [if_pos disordered]
    refine iff_of_false (fun ran => by cases ran) fun both => ?_
    have ordered := both.1.ordered
    rw [indexes,← unordered_eq_false_iff,disordered] at ordered
    cases ordered
  · rw [if_neg disordered]
    change (_ >>= _) = _ ↔ _
    rw [bind_ok_iff]
    have ordered := (unordered_eq_false_iff _).mp (Bool.eq_false_iff.mpr disordered)
    constructor
    · rintro ⟨vtx, mapped, returned⟩
      obtain rfl := Except.ok.inj returned
      obtain ⟨fits, rfl⟩ := (mapM_ok_iff_of_copies compactTransactionToUpstream_ok_iff).mp mapped
      refine ⟨⟨indexes ▸ ordered, fun transaction member => ?_⟩, ?_⟩
      · obtain ⟨own, inside, rfl⟩ := List.mem_map.mp member
        exact fits own inside
      · rw [CompactBlockArtifact.source,Zinder.CompactBlockArtifact.upstream,List.map_map]
        rfl
    · rintro ⟨scannable, rfl⟩
      have fits : ∀ transaction ∈ block.transactions, transaction.source.FeeFits :=
        fun transaction member => scannable.feesFit _ (List.mem_map_of_mem member)
      refine ⟨_, (mapM_ok_iff_of_copies compactTransactionToUpstream_ok_iff).mpr ⟨fits, rfl⟩, ?_⟩
      rw [CompactBlockArtifact.source,Zinder.CompactBlockArtifact.upstream,List.map_map]
      rfl

end Upstream

/-! The scanner's block source. -/
section Source

variable {σ ε : Type}

/-- No limit that leaves room for every block cuts the feed. -/
theorem withBlocksLoop_eq {withBlock : WithBlock σ ε} {fromHeight : UInt32}
    (blocks : List UpstreamCompactBlock) (taken : Nat) (state : σ)
    (room : taken + blocks.length ≤ cap) :
    withBlocksLoop (some fromHeight) cap withBlock blocks taken state =
      feed (blocks.filter fun block => fromHeight ≤ heightOf block) σ ε withBlock state := by
  induction blocks generalizing taken state with
  | nil => rfl
  | cons block blocks ih =>
    rw [List.length_cons] at room
    rw [withBlocksLoop,List.filter_cons]
    by_cases below : heightOf block < fromHeight
    · rw [if_pos ⟨fromHeight, rfl, below⟩,ih taken state (by omega),if_neg]
      rw [decide_eq_true_iff,UInt32.not_le]
      exact below
    · have kept : fromHeight ≤ heightOf block := UInt32.not_lt.mp below
      have started : ¬ ∃ start ∈ some fromHeight, heightOf block < start := by
        rintro ⟨start, member, lower⟩
        exact below (Option.some.inj member ▸ lower)
      rw [if_neg started,if_neg (by omega),if_pos (decide_eq_true kept),feed]
      cases withBlock block state with
      | mk after answer =>
        cases answer with
        | error error => rfl
        | ok done => exact ih (taken + 1) after (by omega)

theorem withBlocks_eq {withBlock : WithBlock σ ε} {fromHeight : UInt32}
    (source : InMemoryBlockSource) (state : σ) (room : source.blocks.length ≤ limit) :
    source.withBlocks (some fromHeight) (some limit) withBlock state =
      feed (source.blocks.filter fun block => fromHeight ≤ heightOf block) σ ε withBlock state :=
  withBlocksLoop_eq source.blocks 0 state (by rw [Nat.zero_add]; exact room)

@[simp] theorem heightOf_upstream (artifact : Zinder.CompactBlockArtifact) :
    heightOf artifact.upstream = artifact.height := by
  have small : artifact.height.toUInt64.toNat < 2 ^ 32 := by
    rw [UInt32.toNat_toUInt64]
    exact artifact.height.toNat_lt
  rw [heightOf,Zinder.CompactBlockArtifact.upstream,if_pos small,UInt32.toUInt32_toUInt64]

end Source

/-- The check that a tree state fails, under the field that its refusal names. -/
inductive TreeStateFault (lib : Library κ) (network : Network) (treeState : TreeStateArtifact) :
    String → Prop where
  | network (other : treeState.network ≠ network) :
    TreeStateFault lib network treeState "tree_state.network"
  | sapling (active : lib.ActiveAt network .sapling treeState.height)
      (missing : treeState.saplingFinalStateBytes = []) :
      TreeStateFault lib network treeState "tree_state.sapling_final_state_bytes"
  | orchard (active : lib.ActiveAt network .nu5 treeState.height)
      (missing : treeState.orchardFinalStateBytes = []) :
      TreeStateFault lib network treeState "tree_state.orchard_final_state_bytes"
  | ironwood (active : lib.ActiveAt network .nu6_3 treeState.height)
      (missing : treeState.ironwoodFinalStateBytes = []) :
      TreeStateFault lib network treeState "tree_state.ironwood_final_state_bytes"
  | chainState (refused : treeState.toChainState lib = .error reason) :
      TreeStateFault lib network treeState "tree_state"

/-- The check that a request fails, under the field that its refusal names. -/
inductive RequestFault (lib : Library κ) (network : Network) (request : ScanRequest)
    (artifacts : List Zinder.CompactBlockArtifact) : String → Prop where
  | fromState (apart : request.fromState.height.toNat + 1 ≠ request.fromHeight.toNat) :
      RequestFault lib network request artifacts "scan_request.from_state.height"
  | index (fetched : artifact ∈ artifacts)
      (disordered : ¬(artifact.transactions.map Zinder.CompactTransaction.index).Pairwise (· < ·)) :
      RequestFault lib network request artifacts "compact_block.transactions.index"
  | fee (fetched : artifact ∈ artifacts) (inside : transaction ∈ artifact.transactions)
      (large : ¬transaction.FeeFits) :
      RequestFault lib network request artifacts "compact_transaction.fee_zat"
  | treeState (fault : TreeStateFault lib network request.fromState field) :
      RequestFault lib network request artifacts field

/-- Every failure names a field that is at fault. -/
def Refuses (faulty : String → Prop) (result : Except StorageError α) : Prop :=
  ∀ error, result = .error error →
    ∃ field reason, faulty field ∧ error = .scanArtifactInvalid field reason

namespace Refuses

variable {faulty : String → Prop}

theorem throws (fault : faulty field) (reason : String) :
    Refuses faulty (.error (.scanArtifactInvalid field reason) : Except StorageError α) :=
  fun _ same => ⟨field, reason, fault, (Except.error.inj same).symm⟩

theorem returns (value : α) : Refuses faulty (.ok value) := fun _ failed => by cases failed

theorem bind {first : Except StorageError α} {rest : α → Except StorageError β}
    (refuses : Refuses faulty first) (later : ∀ value, Refuses faulty (rest value)) :
    Refuses faulty (first >>= rest) := by
  intro error failed
  rcases bind_error_iff.mp failed with failed | ⟨value, -, failed⟩
  · exact refuses error failed
  · exact later value error failed

theorem mapM {f : α → Except StorageError β} {items : List α}
    (each : ∀ item ∈ items, Refuses faulty (f item)) : Refuses faulty (items.mapM f) := by
  intro error failed
  obtain ⟨item, member, failed⟩ := exists_of_mapM_error failed
  exact each item member error failed

end Refuses

open Refuses in
theorem refuses_compactTransactionToUpstream {faulty : String → Prop}
    (transaction : CompactTransaction)
    (fault : ¬transaction.source.FeeFits → faulty "compact_transaction.fee_zat") :
    Refuses faulty (compactTransactionToUpstream transaction) := by
  have fee : Refuses faulty (feeToUpstream transaction.feeZat) := by
    intro error failed
    have large : ¬transaction.source.FeeFits := fun fits => by
      rw [feeToUpstream_ok_iff.mpr ⟨fits, rfl⟩] at failed
      cases failed
    unfold feeToUpstream at failed
    split at failed
    · split at failed
      · cases failed
      · exact throws (fault large) _ error failed
    · cases failed
  refine bind fee fun _ => ?_
  refine bind (mapM fun output _ => ?_) fun _ => ?_
  · rw [compactOutputToUpstream_eq]
    exact returns _
  refine bind (mapM fun action _ => ?_) fun _ => ?_
  · rw [compactActionToUpstream_eq]
    exact returns _
  refine bind (mapM fun action _ => ?_) fun _ => returns _
  rw [compactActionToUpstream_eq]
  exact returns _

open Refuses in
theorem refuses_compactBlockToUpstream {artifacts : List Zinder.CompactBlockArtifact}
    (block : CompactBlockArtifact) (fetched : block.source ∈ artifacts) :
    Refuses (RequestFault lib network request artifacts) (compactBlockToUpstream block) := by
  rw [compactBlockToUpstream]
  split
  · rename_i disordered
    refine throws (.index fetched fun ordered => ?_) _
    have indexes : (block.transactions.map CompactTransaction.index).Pairwise (· < ·) := by
      rwa [CompactBlockArtifact.source,List.map_map] at ordered
    rw [← unordered_eq_false_iff,disordered] at indexes
    cases indexes
  · exact bind (mapM fun transaction inside => refuses_compactTransactionToUpstream transaction
      (.fee fetched (List.mem_map_of_mem inside))) fun _ => returns _

open Refuses in
theorem refuses_treeStateToUpstream (lib : Library κ) (treeState : TreeStateArtifact)
    (network : Network) :
    Refuses (TreeStateFault lib network treeState) (treeStateToUpstream lib treeState network) := by
  have frontier {activation : NetworkUpgrade} {field : String} {bytes : List UInt8}
      (fault : lib.ActiveAt network activation treeState.height → bytes = [] →
        TreeStateFault lib network treeState field) :
      Refuses (TreeStateFault lib network treeState)
        (validateActivePoolFrontier lib network treeState.height activation field bytes) := by
    rw [validateActivePoolFrontier]
    split
    · rename_i missing
      exact throws (fault missing.1 missing.2) _
    · exact returns _
  rw [treeStateToUpstream]
  split
  · rename_i other
    exact throws (.network other) _
  · refine bind (frontier .sapling) fun _ => bind (frontier .orchard) fun _ =>
      bind (frontier .ironwood) fun _ error failed => ?_
    obtain ⟨reason, refused, rfl⟩ := mapError_error_iff.mp failed
    exact ⟨_, _, .chainState refused, rfl⟩

open Refuses in
theorem refuses_prepareScan (lib : Library κ) (network : Network) (request : ScanRequest)
    {artifacts : List Zinder.CompactBlockArtifact}
    (fetched : ∀ block ∈ request.blocks, block.source ∈ artifacts) :
    Refuses (RequestFault lib network request artifacts) (prepareScan lib network request) := by
  rw [prepareScan]
  split
  · rename_i apart
    exact throws (.fromState apart) _
  · refine bind
      (mapM fun block member => refuses_compactBlockToUpstream block (fetched block member))
      fun _ => bind (fun error failed => ?_) fun _ => returns _
    obtain ⟨field, reason, fault, same⟩ :=
      refuses_treeStateToUpstream lib request.fromState network error failed
    exact ⟨field, reason, .treeState fault, same⟩

/-- What a request must be for the scan to begin. -/
structure Prepared (lib : Library κ) (network : Network) (request : ScanRequest)
    (artifacts : List Zinder.CompactBlockArtifact) (fromState : κ) : Prop where
  precedes : request.fromState.height.toNat + 1 = request.fromHeight.toNat
  scannable : ∀ artifact ∈ artifacts, artifact.Scannable
  anchored : treeStateToUpstream lib request.fromState network = .ok fromState

theorem prepareScan_ok_iff {artifacts : List Zinder.CompactBlockArtifact}
    (fetched : artifacts.mapM decodeCompactBlock = .ok request.blocks) :
    prepareScan lib network request = .ok (source, fromState) ↔
      Prepared lib network request artifacts fromState ∧
      source = ⟨artifacts.map Zinder.CompactBlockArtifact.upstream⟩ := by
  have sources := ((mapM_ok_iff_of_undoes decodeCompactBlock_ok_iff).mp fetched).1
  rw [prepareScan]
  split
  · rename_i apart
    exact iff_of_false nofun fun both => apart both.1.precedes
  · rename_i precedes
    have precedes := not_not.mp precedes
    change (_ >>= _) = _ ↔ _
    rw [bind_ok_iff]
    constructor
    · rintro ⟨blocks, mapped, ran⟩
      obtain ⟨state, anchored, returned⟩ := bind_ok_iff.mp ran
      obtain ⟨scannable, rfl⟩ := (mapM_ok_iff_of_copies compactBlockToUpstream_ok_iff).mp mapped
      obtain ⟨rfl, rfl⟩ := Prod.mk.inj (Except.ok.inj returned)
      refine ⟨⟨precedes, fun artifact member => ?_, anchored⟩, ?_⟩
      · rw [← sources] at member
        obtain ⟨block, inside, rfl⟩ := List.mem_map.mp member
        exact scannable block inside
      · rw [← sources,List.map_map]
        rfl
    · rintro ⟨prepared, rfl⟩
      have scannable : ∀ block ∈ request.blocks, block.source.Scannable := fun block member =>
        prepared.scannable _ (sources ▸ List.mem_map_of_mem member)
      refine ⟨_, (mapM_ok_iff_of_copies compactBlockToUpstream_ok_iff).mpr ⟨scannable, rfl⟩, ?_⟩
      apply bind_ok prepared.anchored
      rw [← sources,List.map_map]
      rfl

/-- Whatever blocks were fetched, the scanner sees each of them from the request's first height on,
once, in order and as the indexer wrote it; a request that is refused never reaches the database,
and its error names a field that fails its check. -/
theorem scanBlocks_feeds (scanner : Scanner κ δ) (network : Network) (request : ScanRequest)
    (artifacts : List Zinder.CompactBlockArtifact) (db : δ)
    (fetched : artifacts.mapM decodeCompactBlock = .ok request.blocks) :
    (∃ fromState, Prepared lib network request artifacts fromState ∧
      scanBlocks lib scanner network request db = scanAnswer artifacts.length
        (scanner network
          (feed ((artifacts.filter fun artifact => request.fromHeight ≤ artifact.height).map
            Zinder.CompactBlockArtifact.upstream)) request.fromHeight fromState db)) ∨
    (∀ fromState, ¬ Prepared lib network request artifacts fromState) ∧
      ∃ field reason, RequestFault lib network request artifacts field ∧
        scanBlocks lib scanner network request db = (db, .error (.scanArtifactInvalid field reason)) := by
  have count : request.blocks.length = artifacts.length := (mapM_ok_iff.mp fetched).length_eq.symm
  cases prepared : prepareScan lib network request with
  | error error =>
    refine .inr ⟨fun fromState ready => ?_, ?_⟩
    · rw [(prepareScan_ok_iff fetched).mpr ⟨ready, rfl⟩] at prepared
      cases prepared
    · have sources := ((mapM_ok_iff_of_undoes decodeCompactBlock_ok_iff).mp fetched).1
      obtain ⟨field, reason, fault, rfl⟩ := refuses_prepareScan lib network request
        (fun block member => sources ▸ List.mem_map_of_mem member) error prepared
      exact ⟨field, reason, fault, by rw [scanBlocks,prepared]⟩
  | ok ready =>
    obtain ⟨source, fromState⟩ := ready
    obtain ⟨ready, rfl⟩ := (prepareScan_ok_iff fetched).mp prepared
    refine .inl ⟨fromState, ready, ?_⟩
    -- The limit is the number of blocks, or one when there are none.
    have room : (artifacts.map Zinder.CompactBlockArtifact.upstream).length ≤
        max artifacts.length 1 := by
      rw [List.length_map]
      exact Nat.le_max_left _ _
    have fed : (fun σ ε (withBlock : WithBlock σ ε) =>
        (InMemoryBlockSource.mk (artifacts.map Zinder.CompactBlockArtifact.upstream)).withBlocks
          (some request.fromHeight) (some (max artifacts.length 1)) withBlock) =
        feed ((artifacts.filter fun artifact => request.fromHeight ≤ artifact.height).map
          Zinder.CompactBlockArtifact.upstream) := by
      funext σ ε withBlock state
      rw [withBlocks_eq _ state room,List.filter_map]
      simp only [Function.comp_def,heightOf_upstream]
    rw [scanBlocks,prepared]
    simp only [scanCachedBlocks,count]
    rw [fed]

/-- A pool's text as the payload has it, in lower case. -/
structure KeepsText (lib : Library κ) (parsed : Json) (pool : String) (upgrade : NetworkUpgrade)
    (height : UInt32) (network : Network) (text : String) : Prop where
  lowered : utf8 text = (utf8 (finalStateText pool parsed)).map Hex.lower
  given : lib.ActiveAt network upgrade height → text ≠ ""

section Frontiers

variable (lawful : lib.hex.Lawful)
  (frontier : PoolFrontier lib parsed pool upgrade height network bytes)
include lawful frontier

theorem PoolFrontier.lowered :
    (utf8 (finalStateText pool parsed)).map Hex.lower = utf8 (lib.hex.encode bytes) := by
  rw [lawful.utf8_encode]
  exact (lawful.decode_ok_iff _ _).mp frontier.written

/-- Only an empty text is written in no digits. -/
theorem PoolFrontier.text_eq_empty (none : utf8 (lib.hex.encode bytes) = []) :
    finalStateText pool parsed = "" := by
  have lowered := frontier.lowered lawful
  rw [none] at lowered
  exact utf8_injective (List.map_eq_nil_iff.mp lowered)

theorem PoolFrontier.keepsText :
    KeepsText lib parsed pool upgrade height network (lib.hex.encode bytes) :=
  ⟨(frontier.lowered lawful).symm,
    fun active none => frontier.active active (frontier.text_eq_empty lawful (by rw [none]; rfl))⟩

theorem PoolFrontier.validates (field : String) :
    validateActivePoolFrontier lib network height upgrade field bytes = .ok () := by
  rw [validateActivePoolFrontier,if_neg]
  rintro ⟨active, rfl⟩
  exact frontier.active active (frontier.text_eq_empty lawful (lawful.utf8_encode []))

end Frontiers

/-- A tree state the source hands out for a block is refused by no check of a storage on the same
network: the library reads the block's own height, hash and time and the payload's own texts in
lower case, none of an active pool empty. A storage on another network refuses it. -/
theorem treeState_kept (lib : Library κ) (lawful : lib.hex.Lawful)
    (artifact : Zinder.TreeStateArtifact)
    (requestedHeight : UInt32) (network : Network) (treeState : TreeStateArtifact)
    (decoded : decodeTreeState lib artifact requestedHeight network = .ok treeState) :
    (∃ parsed, lib.parseJson artifact.payloadBytes = .ok parsed ∧ ∃ sapling orchard ironwood,
      KeepsText lib parsed "sapling" .sapling requestedHeight network sapling ∧
      KeepsText lib parsed "orchard" .nu5 requestedHeight network orchard ∧
      KeepsText lib parsed "ironwood" .nu6_3 requestedHeight network ironwood ∧
      treeStateToUpstream lib treeState network =
        (lib.toChainState (networkLabel network) requestedHeight.toUInt64
          ((⟨artifact.blockHash⟩ : BlockHash).toRpcHex lib.hex) artifact.blockTimeSeconds sapling
          orchard ironwood).mapError (.scanArtifactInvalid "tree_state")) ∧
    ∀ other ≠ network, ∃ reason, treeStateToUpstream lib treeState other =
      .error (.scanArtifactInvalid "tree_state.network" reason) := by
  obtain ⟨parsed, tree⟩ := decodeTreeState_ok_iff.mp decoded
  obtain ⟨sameNetwork, sameHeight, sameHash, sameTime⟩ := tree.rest
  constructor
  · refine ⟨parsed, tree.payload, _, _, _, tree.sapling.keepsText lawful,
      tree.orchard.keepsText lawful, tree.ironwood.keepsText lawful, ?_⟩
    rw [treeStateToUpstream,if_neg (not_not_intro sameNetwork),sameHeight,
      tree.sapling.validates lawful,tree.orchard.validates lawful,tree.ironwood.validates lawful]
    simp only [TreeStateArtifact.toChainState,sameNetwork,sameHeight,sameHash,sameTime]
    rfl
  · intro other apart
    rw [treeStateToUpstream,if_pos (by rw [sameNetwork]; exact apart.symm)]
    exact ⟨_, rfl⟩

section Sample

/-- Sapling is active from block 1 on, and every payload is one Sapling frontier. -/
def sampleLibrary : Library Unit where
  activationHeight _ upgrade := if upgrade = .sapling then some 1 else none
  parseJson _ := .ok (.object [("sapling",
    .object [("commitments", .object [("finalState", .string "0aFf")])])])
  hex := Hex.reference
  networkText _ := "another network"
  toChainState _ _ _ _ _ _ _ := .ok ()

/-- Counts the blocks it is given. -/
def countingScanner : Scanner Unit Nat := fun _ source fromHeight _ db =>
  ((source Nat Unit (fun _ count => (count + 1, .ok ())) db).1, .ok fromHeight)

def sampleArtifact (height : UInt32) : Zinder.CompactBlockArtifact where
  height := height
  blockHash := .replicate 32 7
  previousBlockHash := .replicate 32 6
  time := 1_700_000_000
  transactions := [⟨9, .replicate 32 8, ⟨some 123, [], [], [], [], [], [⟨456, [0x51]⟩]⟩⟩]
  chainMetadata := ⟨10, 11, 12⟩

def sampleTreeState : TreeStateArtifact :=
  ⟨.mainnet, 41, ⟨.replicate 32 6⟩, 1_700_000_000, [0x0a, 0xff], [], []⟩

def sampleBlock (height : UInt32) : CompactBlockArtifact where
  height := height
  blockHash := ⟨.replicate 32 7⟩
  previousBlockHash := ⟨.replicate 32 6⟩
  blockTimeSeconds := 1_700_000_000
  transactions := [⟨9, TxId.fromBytes (List.replicate 32 8), some ⟨123⟩, [], [], [], [], [],
    [⟨⟨456⟩, [0x51]⟩]⟩]
  chainMetadata := ⟨10, 11, 12⟩

def sampleScan : ScanRequest := ⟨[sampleBlock 42, sampleBlock 43], 42, sampleTreeState⟩

theorem sampleScan_feeds : ∃ fromState,
    Prepared sampleLibrary .mainnet sampleScan [sampleArtifact 42, sampleArtifact 43] fromState ∧
    scanBlocks sampleLibrary countingScanner .mainnet sampleScan 0 = scanAnswer 2
      (countingScanner .mainnet
        (feed (([sampleArtifact 42, sampleArtifact 43].filter fun artifact =>
          sampleScan.fromHeight ≤ artifact.height).map Zinder.CompactBlockArtifact.upstream))
        42 fromState 0) := by
  refine (scanBlocks_feeds countingScanner .mainnet sampleScan _ 0 rfl).resolve_right ?_
  rintro ⟨unprepared, -⟩
  refine unprepared () ⟨rfl, fun artifact member => ?_, rfl⟩
  rcases List.mem_cons.mp member with rfl | member
  · exact ⟨List.pairwise_singleton _ _, by simp [sampleArtifact,Zinder.CompactTransaction.FeeFits]⟩
  · obtain rfl := List.mem_singleton.mp member
    exact ⟨List.pairwise_singleton _ _, by simp [sampleArtifact,Zinder.CompactTransaction.FeeFits]⟩

def sampleTreeArtifact : Zinder.TreeStateArtifact := ⟨41, .replicate 32 6, 1_700_000_000, []⟩

theorem sampleTreeState_kept : ∃ reason, treeStateToUpstream sampleLibrary sampleTreeState .testnet =
    .error (.scanArtifactInvalid "tree_state.network" reason) :=
  (treeState_kept sampleLibrary Hex.reference_lawful sampleTreeArtifact 41 .mainnet
    sampleTreeState (by decide)).2 .testnet
    (by decide)

end Sample

end Zally.Scan
