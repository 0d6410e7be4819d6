import Zally.Chain.Error
import Zally.HashHex
import Zally.Wire.Json

/-! What a wallet scan is given: compact blocks and commitment-tree frontiers, and their decoding
from the indexer's answers. -/
namespace Zally.Scan

open Wire Outcome
open Source (BlockHash)

structure CompactChainMetadata where
  saplingCommitmentTreeSize : UInt32
  orchardCommitmentTreeSize : UInt32
  ironwoodCommitmentTreeSize : UInt32
  deriving DecidableEq

structure CompactSaplingSpend where
  nullifierBytes : Vector UInt8 32
  deriving DecidableEq

structure CompactSaplingOutput where
  commitmentBytes : Vector UInt8 32
  ephemeralKeyBytes : Vector UInt8 32
  ciphertextBytes : Vector UInt8 52
  deriving DecidableEq

structure CompactShieldedAction where
  nullifierBytes : Vector UInt8 32
  commitmentBytes : Vector UInt8 32
  ephemeralKeyBytes : Vector UInt8 32
  ciphertextBytes : Vector UInt8 52
  deriving DecidableEq

structure CompactTransparentInput where
  previousTxId : TxId
  previousOutputIndex : UInt32
  deriving DecidableEq

structure CompactTransparentOutput where
  valueZat : Zatoshis
  scriptPubKeyBytes : List UInt8
  deriving DecidableEq

structure CompactTransaction where
  index : UInt64
  txId : TxId
  feeZat : Option Zatoshis
  saplingSpends : List CompactSaplingSpend
  saplingOutputs : List CompactSaplingOutput
  orchardActions : List CompactShieldedAction
  ironwoodActions : List CompactShieldedAction
  transparentInputs : List CompactTransparentInput
  transparentOutputs : List CompactTransparentOutput
  deriving DecidableEq

structure CompactBlockArtifact where
  height : UInt32
  blockHash : BlockHash
  previousBlockHash : BlockHash
  blockTimeSeconds : UInt32
  transactions : List CompactTransaction
  chainMetadata : CompactChainMetadata
  deriving DecidableEq

structure TreeStateArtifact where
  network : Network
  height : UInt32
  blockHash : BlockHash
  blockTimeSeconds : UInt32
  saplingFinalStateBytes : List UInt8
  orchardFinalStateBytes : List UInt8
  ironwoodFinalStateBytes : List UInt8
  deriving DecidableEq

/-! The indexer's own types, whose amounts are unchecked. -/
namespace Zinder

structure CompactSaplingSpend where
  nullifier : Vector UInt8 32

structure CompactSaplingOutput where
  commitment : Vector UInt8 32
  ephemeralKey : Vector UInt8 32
  ciphertext : Vector UInt8 52

structure CompactShieldedAction where
  nullifier : Vector UInt8 32
  commitment : Vector UInt8 32
  ephemeralKey : Vector UInt8 32
  ciphertext : Vector UInt8 52

structure CompactTransparentInput where
  previousTransactionId : Vector UInt8 32
  previousOutputIndex : UInt32

structure CompactTransparentOutput where
  valueZat : UInt64
  scriptPubKey : List UInt8

structure CompactTransactionData where
  feeZat : Option UInt64
  saplingSpends : List CompactSaplingSpend
  saplingOutputs : List CompactSaplingOutput
  orchardActions : List CompactShieldedAction
  ironwoodActions : List CompactShieldedAction
  transparentInputs : List CompactTransparentInput
  transparentOutputs : List CompactTransparentOutput

structure CompactTransaction where
  index : UInt64
  transactionId : Vector UInt8 32
  data : CompactTransactionData

structure CompactBlockArtifact where
  height : UInt32
  blockHash : Vector UInt8 32
  previousBlockHash : Vector UInt8 32
  time : UInt32
  transactions : List CompactTransaction
  chainMetadata : CompactChainMetadata

structure TreeStateArtifact where
  height : UInt32
  blockHash : Vector UInt8 32
  blockTimeSeconds : UInt32
  payloadBytes : List UInt8

end Zinder

/-- The upgrade each pool's commitment tree begins with. -/
inductive NetworkUpgrade where
  | sapling
  | nu5
  | nu6_3
  deriving DecidableEq

def NetworkUpgrade.name : NetworkUpgrade → String
  | sapling => "Sapling"
  | nu5 => "Nu5"
  | nu6_3 => "Nu6_3"

/-- Consensus parameters, parsing and error texts that come with the libraries. -/
structure Library (κ : Type) where
  activationHeight : Network → NetworkUpgrade → Option UInt32
  parseJson : List UInt8 → Except String Json
  hex : Hex.Codec
  networkText : Network → String
  toChainState : (network : String) → (height : UInt64) → (hash : String) → (time : UInt32) →
    (saplingTree orchardTree ironwoodTree : String) → Except String κ

variable {κ : Type} {lib : Library κ}

/-- Whether the upgrade is active at the height. -/
def Library.ActiveAt (lib : Library κ) (network : Network) (upgrade : NetworkUpgrade)
    (height : UInt32) : Prop :=
  ∃ activation ∈ lib.activationHeight network upgrade, activation ≤ height

instance (network : Network) (upgrade : NetworkUpgrade) (height : UInt32) :
    Decidable (lib.ActiveAt network upgrade height) :=
  match found : lib.activationHeight network upgrade with
  | none => .isFalse fun ⟨_, member, _⟩ => by rw [found] at member; cases member
  | some activation =>
    if reached : activation ≤ height then .isTrue ⟨activation, found, reached⟩
    else .isFalse fun ⟨_, member, passed⟩ => by
      rw [found] at member
      exact reached (Option.some.inj member ▸ passed)

def zatoshisErrorText : ZatoshisError → String
  | .exceedsMaxMoney attemptedZat => "zatoshi amount " ++ toString attemptedZat ++
      " exceeds MAX_MONEY (2100000000000000 zatoshis)"

/-- An amount of the block at `blockHeight`. -/
def compactAmount (blockHeight : UInt32) (zat : UInt64) : Except ChainSourceError Zatoshis :=
  ((Zatoshis.tryFrom zat).map Subtype.val).mapError fun error =>
    .malformedCompactBlock blockHeight.toNat (zatoshisErrorText error)

def compactShieldedAction (action : Zinder.CompactShieldedAction) : CompactShieldedAction :=
  ⟨action.nullifier, action.commitment, action.ephemeralKey, action.ciphertext⟩

def compactTransparentOutput (blockHeight : UInt32) (output : Zinder.CompactTransparentOutput) :
    Except ChainSourceError CompactTransparentOutput := do
  let valueZat ← compactAmount blockHeight output.valueZat
  pure ⟨valueZat, output.scriptPubKey⟩

def compactFee (blockHeight : UInt32) : Option UInt64 → Except ChainSourceError (Option Zatoshis)
  | some zat => (compactAmount blockHeight zat).map some
  | none => .ok none

def compactTransaction (blockHeight : UInt32) (transaction : Zinder.CompactTransaction) :
    Except ChainSourceError CompactTransaction := do
  let feeZat ← compactFee blockHeight transaction.data.feeZat
  let transparentOutputs ←
    transaction.data.transparentOutputs.mapM (compactTransparentOutput blockHeight)
  pure {
    index := transaction.index
    txId := TxId.fromBytes transaction.transactionId.toList
    feeZat := feeZat
    saplingSpends := transaction.data.saplingSpends.map fun spend => ⟨spend.nullifier⟩
    saplingOutputs := transaction.data.saplingOutputs.map fun output =>
      ⟨output.commitment, output.ephemeralKey, output.ciphertext⟩
    orchardActions := transaction.data.orchardActions.map compactShieldedAction
    ironwoodActions := transaction.data.ironwoodActions.map compactShieldedAction
    transparentInputs := transaction.data.transparentInputs.map fun input =>
      ⟨TxId.fromBytes input.previousTransactionId.toList, input.previousOutputIndex⟩
    transparentOutputs := transparentOutputs }

def decodeCompactBlock (artifact : Zinder.CompactBlockArtifact) :
    Except ChainSourceError CompactBlockArtifact := do
  let transactions ← artifact.transactions.mapM (compactTransaction artifact.height)
  pure {
    height := artifact.height
    blockHash := ⟨artifact.blockHash⟩
    previousBlockHash := ⟨artifact.previousBlockHash⟩
    blockTimeSeconds := artifact.time
    transactions := transactions
    chainMetadata := artifact.chainMetadata }

/-- The text at `/{pool}/commitments/finalState`, empty when there is none. None of these names
is an index into an array. -/
def finalStateText (pool : String) (parsed : Json) : String :=
  let member (name : String) : Json → Option Json
    | .object members => members.lookup name
    | _ => none
  match member pool parsed >>= member "commitments" >>= member "finalState" with
  | some (.string text) => text
  | _ => ""

/-- A missing or empty frontier is only valid where no commitment tree exists yet. -/
def poolFinalState (lib : Library κ) (parsed : Json) (pool : String) (upgrade : NetworkUpgrade)
    (height : UInt32) (network : Network) : Except ChainSourceError (List UInt8) := do
  let finalState := finalStateText pool parsed
  if finalState = "" ∧ lib.ActiveAt network upgrade height then
    throw (.malformedCompactBlock height.toNat ("tree-state JSON missing `" ++ pool ++
      "` finalState with the pool active at this height"))
  (lib.hex.decode finalState).mapError fun error => .malformedCompactBlock height.toNat
    ("tree-state JSON `" ++ pool ++ "` finalState is not hexadecimal: " ++ lib.hex.errorText error)

def decodeTreeState (lib : Library κ) (artifact : Zinder.TreeStateArtifact)
    (requestedHeight : UInt32) (network : Network) : Except ChainSourceError TreeStateArtifact := do
  if artifact.height ≠ requestedHeight then
    throw (.treeStateAnchorHeightMismatch requestedHeight.toNat artifact.height.toNat)
  let parsed ← (lib.parseJson artifact.payloadBytes).mapError fun error =>
    .malformedCompactBlock requestedHeight.toNat
      ("zinder tree-state payload is not JSON: " ++ error)
  let sapling ← poolFinalState lib parsed "sapling" .sapling requestedHeight network
  let orchard ← poolFinalState lib parsed "orchard" .nu5 requestedHeight network
  let ironwood ← poolFinalState lib parsed "ironwood" .nu6_3 requestedHeight network
  pure ⟨network, artifact.height, ⟨artifact.blockHash⟩, artifact.blockTimeSeconds, sapling, orchard,
    ironwood⟩

/-! The indexer's block that a checked one stands for. -/
section Source

def txIdBytes (txId : TxId) : Vector UInt8 32 := ⟨(TxId.asBytes txId).toArray, TxId.length_asBytes txId⟩

def CompactShieldedAction.source (action : CompactShieldedAction) : Zinder.CompactShieldedAction :=
  ⟨action.nullifierBytes, action.commitmentBytes, action.ephemeralKeyBytes, action.ciphertextBytes⟩

def CompactTransparentOutput.source (output : CompactTransparentOutput) :
    Zinder.CompactTransparentOutput :=
  ⟨output.valueZat.raw, output.scriptPubKeyBytes⟩

def CompactTransaction.source (transaction : CompactTransaction) : Zinder.CompactTransaction where
  index := transaction.index
  transactionId := txIdBytes transaction.txId
  data := {
    feeZat := transaction.feeZat.map Zatoshis.raw
    saplingSpends := transaction.saplingSpends.map fun spend => ⟨spend.nullifierBytes⟩
    saplingOutputs := transaction.saplingOutputs.map fun output =>
      ⟨output.commitmentBytes, output.ephemeralKeyBytes, output.ciphertextBytes⟩
    orchardActions := transaction.orchardActions.map CompactShieldedAction.source
    ironwoodActions := transaction.ironwoodActions.map CompactShieldedAction.source
    transparentInputs := transaction.transparentInputs.map fun input =>
      ⟨txIdBytes input.previousTxId, input.previousOutputIndex⟩
    transparentOutputs := transaction.transparentOutputs.map CompactTransparentOutput.source }

def CompactBlockArtifact.source (block : CompactBlockArtifact) : Zinder.CompactBlockArtifact :=
  ⟨block.height, block.blockHash.asBytes, block.previousBlockHash.asBytes, block.blockTimeSeconds,
    block.transactions.map CompactTransaction.source, block.chainMetadata⟩

/-- No fee and no transparent output is above the money supply. -/
def CompactTransaction.Funded (transaction : CompactTransaction) : Prop :=
  (∀ fee ∈ transaction.feeZat, fee.Valid) ∧
  ∀ output ∈ transaction.transparentOutputs, output.valueZat.Valid

def CompactBlockArtifact.Funded (block : CompactBlockArtifact) : Prop :=
  ∀ transaction ∈ block.transactions, transaction.Funded

@[simp] theorem toList_txIdBytes (txId : TxId) : (txIdBytes txId).toList = TxId.asBytes txId := rfl

@[simp] theorem fromBytes_txIdBytes (txId : TxId) : TxId.fromBytes (txIdBytes txId).toList = txId :=
  TxId.fromBytes_asBytes txId

@[simp] theorem txIdBytes_fromBytes (bytes : Vector UInt8 32) :
    txIdBytes (TxId.fromBytes bytes.toList) = bytes :=
  Vector.toList_inj.mp (TxId.asBytes_fromBytes Vector.length_toList)

theorem compactAmount_ok_iff : compactAmount blockHeight zat = .ok amount ↔
    amount.raw = zat ∧ amount.Valid := by
  rw [compactAmount,mapError_ok_iff,map_ok_iff]
  constructor
  · rintro ⟨checked, converted, rfl⟩
    exact ⟨Zatoshis.tryFrom_ok_iff.mp converted, checked.property⟩
  · rintro ⟨same, valid⟩
    exact ⟨⟨amount, valid⟩, Zatoshis.tryFrom_ok_iff.mpr same, rfl⟩

theorem compactFee_ok_iff : compactFee blockHeight feeZat = .ok fee ↔
    fee.map Zatoshis.raw = feeZat ∧ ∀ amount ∈ fee, amount.Valid := by
  cases feeZat with
  | none =>
    constructor
    · intro same
      obtain rfl := Except.ok.inj same
      exact ⟨rfl, nofun⟩
    · rintro ⟨absent, -⟩
      rw [Option.map_eq_none_iff.mp absent]
      rfl
  | some zat =>
    rw [compactFee,map_ok_iff]
    constructor
    · rintro ⟨amount, converted, rfl⟩
      obtain ⟨same, valid⟩ := compactAmount_ok_iff.mp converted
      refine ⟨congrArg some same, fun other member => ?_⟩
      rwa [← Option.some.inj member]
    · rintro ⟨given, valid⟩
      obtain ⟨amount, rfl, same⟩ := Option.map_eq_some_iff.mp given
      exact ⟨amount, compactAmount_ok_iff.mpr ⟨same, valid amount rfl⟩, rfl⟩

theorem compactTransparentOutput_ok_iff (output : Zinder.CompactTransparentOutput)
    (decoded : CompactTransparentOutput) : compactTransparentOutput blockHeight output = .ok decoded ↔
      decoded.source = output ∧ decoded.valueZat.Valid := by
  rw [compactTransparentOutput,bind_ok_iff]
  constructor
  · rintro ⟨amount, converted, returned⟩
    obtain rfl := Except.ok.inj returned
    obtain ⟨same, valid⟩ := compactAmount_ok_iff.mp converted
    exact ⟨by rw [CompactTransparentOutput.source,same], valid⟩
  · rintro ⟨rfl, valid⟩
    exact ⟨decoded.valueZat, compactAmount_ok_iff.mpr ⟨rfl, valid⟩, rfl⟩

theorem compactTransaction_ok_iff (transaction : Zinder.CompactTransaction)
    (decoded : CompactTransaction) : compactTransaction blockHeight transaction = .ok decoded ↔
      decoded.source = transaction ∧ decoded.Funded := by
  rw [compactTransaction,bind_ok_iff]
  constructor
  · rintro ⟨fee, paid, ran⟩
    obtain ⟨outputs, mapped, returned⟩ := bind_ok_iff.mp ran
    obtain rfl := Except.ok.inj returned
    obtain ⟨sameFee, validFee⟩ := compactFee_ok_iff.mp paid
    obtain ⟨sameOutputs, validOutputs⟩ :=
      (mapM_ok_iff_of_undoes compactTransparentOutput_ok_iff).mp mapped
    refine ⟨?_, validFee, validOutputs⟩
    simp [CompactTransaction.source,sameFee,sameOutputs,Function.comp_def,compactShieldedAction,
      CompactShieldedAction.source]
  · rintro ⟨rfl, validFee, validOutputs⟩
    refine ⟨decoded.feeZat, compactFee_ok_iff.mpr ⟨rfl, validFee⟩, ?_⟩
    apply bind_ok ((mapM_ok_iff_of_undoes compactTransparentOutput_ok_iff).mpr ⟨rfl, validOutputs⟩)
    simp [CompactTransaction.source,Function.comp_def,compactShieldedAction,
      CompactShieldedAction.source,pure,Except.pure]

/-- A block is decoded when its amounts are within the money supply, and nothing of it is lost. -/
theorem decodeCompactBlock_ok_iff (artifact : Zinder.CompactBlockArtifact)
    (block : CompactBlockArtifact) :
    decodeCompactBlock artifact = .ok block ↔ block.source = artifact ∧ block.Funded := by
  rw [decodeCompactBlock,bind_ok_iff]
  constructor
  · rintro ⟨transactions, mapped, returned⟩
    obtain rfl := Except.ok.inj returned
    obtain ⟨same, funded⟩ := (mapM_ok_iff_of_undoes compactTransaction_ok_iff).mp mapped
    exact ⟨by rw [CompactBlockArtifact.source,same], funded⟩
  · rintro ⟨rfl, funded⟩
    exact ⟨block.transactions,
      (mapM_ok_iff_of_undoes compactTransaction_ok_iff).mpr ⟨rfl, funded⟩, rfl⟩

end Source

/-- The bytes that a pool's text is read as, and no empty text of an active pool. -/
structure PoolFrontier (lib : Library κ) (parsed : Json) (pool : String) (upgrade : NetworkUpgrade)
    (height : UInt32) (network : Network) (bytes : List UInt8) : Prop where
  written : lib.hex.decode (finalStateText pool parsed) = .ok bytes
  active : lib.ActiveAt network upgrade height → finalStateText pool parsed ≠ ""

theorem poolFinalState_ok_iff : poolFinalState lib parsed pool upgrade height network = .ok bytes ↔
    PoolFrontier lib parsed pool upgrade height network bytes := by
  rw [poolFinalState]
  split
  · rename_i missing
    exact iff_of_false nofun fun frontier => frontier.active missing.2 missing.1
  · rename_i given
    change Except.mapError _ _ = _ ↔ _
    rw [mapError_ok_iff]
    exact ⟨fun written => ⟨written, fun active empty => given ⟨empty, active⟩⟩,
      PoolFrontier.written⟩

/-- The payload's frontiers, for the block that was asked for. -/
structure DecodedTreeState (lib : Library κ) (artifact : Zinder.TreeStateArtifact)
    (requestedHeight : UInt32) (network : Network) (parsed : Json)
    (treeState : TreeStateArtifact) : Prop where
  height : artifact.height = requestedHeight
  payload : lib.parseJson artifact.payloadBytes = .ok parsed
  sapling : PoolFrontier lib parsed "sapling" .sapling requestedHeight network
    treeState.saplingFinalStateBytes
  orchard : PoolFrontier lib parsed "orchard" .nu5 requestedHeight network
    treeState.orchardFinalStateBytes
  ironwood : PoolFrontier lib parsed "ironwood" .nu6_3 requestedHeight network
    treeState.ironwoodFinalStateBytes
  rest : treeState.network = network ∧ treeState.height = requestedHeight ∧
    treeState.blockHash = ⟨artifact.blockHash⟩ ∧
    treeState.blockTimeSeconds = artifact.blockTimeSeconds

theorem decodeTreeState_ok_iff : decodeTreeState lib artifact requestedHeight network = .ok treeState ↔
    ∃ parsed, DecodedTreeState lib artifact requestedHeight network parsed treeState := by
  rw [decodeTreeState]
  split
  · rename_i other
    exact iff_of_false nofun fun ⟨_, decoded⟩ => other decoded.height
  · rename_i same
    have same : artifact.height = requestedHeight := not_not.mp same
    change (_ >>= _) = _ ↔ _
    rw [bind_ok_iff]
    constructor
    · rintro ⟨parsed, payload, ran⟩
      obtain ⟨sapling, first, ran⟩ := bind_ok_iff.mp ran
      obtain ⟨orchard, second, ran⟩ := bind_ok_iff.mp ran
      obtain ⟨ironwood, third, returned⟩ := bind_ok_iff.mp ran
      obtain rfl := Except.ok.inj returned
      exact ⟨parsed, same, mapError_ok_iff.mp payload, poolFinalState_ok_iff.mp first,
        poolFinalState_ok_iff.mp second, poolFinalState_ok_iff.mp third, rfl, same, rfl, rfl⟩
    · rintro ⟨parsed, decoded⟩
      obtain ⟨rfl, sameHeight, sameHash, sameTime⟩ := decoded.rest
      refine ⟨parsed, mapError_ok_iff.mpr decoded.payload, ?_⟩
      apply bind_ok (poolFinalState_ok_iff.mpr decoded.sapling)
      apply bind_ok (poolFinalState_ok_iff.mpr decoded.orchard)
      apply bind_ok (poolFinalState_ok_iff.mpr decoded.ironwood)
      rw [same,← sameHeight,← sameHash,← sameTime]
      rfl

end Zally.Scan
