import Zally.Lease
import Zally.Sql.Rows
import Zally.Storage.ErrorText

/-! Input locks of proposed PCZTs: the locks of the wallet database, the pending rows of the
extension ledger, and the storage calls that change both. -/
namespace Zally

open Lease

structure LockOwner where
  bytes : BitVec 256
  deriving DecidableEq

inductive PcztPool where
  | transparent
  | shielded (pool : ShieldedPool)
  deriving DecidableEq

def pendingPcztPoolCode : PcztPool → Nat
  | .transparent => 0
  | .shielded .sapling => 1
  | .shielded .orchard => 2
  | .shielded .ironwood => 3

structure OutputRef where
  txId : TxId
  pool : PcztPool
  outputIndex : UInt32
  deriving DecidableEq

/-- The bytes that the owner field of a PCZT holds, and what its transaction spends. -/
structure Pczt where
  ownerField : Option (List UInt8)
  inputs : List OutputRef
  txId : TxId
  deriving DecidableEq

def LockOwner.asBytes (owner : LockOwner) : List UInt8 := TxId.asBytes owner.bytes

def LockOwner.new (bytes : List UInt8) : LockOwner := ⟨TxId.fromBytes bytes⟩

def pendingPcztLockOwner (pczt : Pczt) : Except StorageError (Option LockOwner) :=
  match pczt.ownerField with
  | none => .ok none
  | some ownerBytes =>
    if ownerBytes.length = 32 then .ok (some (.new ownerBytes))
    else .error (.pcztLockOwnerMalformed ownerBytes.length)

/-- A row of `ext_zally_pending_pczt_inputs`, all of whose columns are its primary key. -/
structure PendingPcztInput where
  lockOwner : LockOwner
  input : OutputRef
  deriving DecidableEq

structure PendingPcztTable where
  rows : List PendingPcztInput
  primaryKey : Sql.Unique (fun _ => True) id rows

namespace PendingPcztTable

def empty : PendingPcztTable := ⟨[], Sql.unique_nil⟩

def insert (table : PendingPcztTable) (row : PendingPcztInput) : Except StorageError PendingPcztTable :=
  if primaryKey : Sql.Unique (fun _ => True) id (table.rows ++ [row]) then
    .ok ⟨table.rows ++ [row], primaryKey⟩
  else .error (.sqliteFailed "UNIQUE constraint failed: ext_zally_pending_pczt_inputs" .notRetryable)

def delete (table : PendingPcztTable) (owner : LockOwner) : PendingPcztTable where
  rows := table.rows.filter (·.lockOwner ≠ owner)
  primaryKey := table.primaryKey.filter _

end PendingPcztTable

structure PcztState where
  locks : Table OutputRef LockOwner
  pending : PendingPcztTable

inductive CreateStep where
  | resolveAccount
  | propose
  | ensureAnchors
  | build
  | serialize
  | recordInputs
  deriving DecidableEq

/-- The inserts of one transaction: all of them or none. -/
def recordPendingPcztInputs (owner : LockOwner) (inputs : List OutputRef)
    (table : PendingPcztTable) : Except StorageError PendingPcztTable :=
  inputs.foldlM (fun table input => table.insert ⟨owner, input⟩) table

/-- The steps between the proposal and the answer. -/
def buildPczt (fault : StepFault CreateStep) (owner : LockOwner) (inputs : List OutputRef)
    (txId : TxId) (table : PendingPcztTable) : Except StorageError (Pczt × PendingPcztTable) := do
  failsAt fault .ensureAnchors
  failsAt fault .build
  failsAt fault .serialize
  failsAt fault .recordInputs
  let recorded ← recordPendingPcztInputs owner inputs table
  pure (⟨some owner.asBytes, inputs, txId⟩, recorded)

/-- How `unlock_proposal_inputs` ends: with every lock given back, or after some of them. -/
inductive Unlock where
  | released
  | failed (released : List OutputRef) (reason : String)

def unlockProposalInputs (unlock : Unlock) (owner : LockOwner) (inputs : List OutputRef)
    (locks : Table OutputRef LockOwner) : Except String Unit × Table OutputRef LockOwner :=
  match unlock with
  | .released => (.ok (), release locks owner inputs)
  | .failed released reason => (.error reason, release locks owner released)

section Creation

variable (codec : Wire.Hex.Codec)

def releaseFailed (buildError : StorageError) (reason : String) : StorageError :=
  .sqliteFailed ("proposal failed (" ++ buildError.display codec ++
    "); releasing its input locks failed: " ++ reason) .retryable

def releaseProposalInputsAfterFailure (unlock : Unlock) (owner : LockOwner)
    (inputs : List OutputRef) (locks : Table OutputRef LockOwner) :
    Except StorageError α → Except StorageError α × Table OutputRef LockOwner
  | .ok built => (.ok built, locks)
  | .error buildError =>
    match unlockProposalInputs unlock owner inputs locks with
    | (.ok (), locks) => (.error buildError, locks)
    | (.error reason, locks) => (.error (releaseFailed codec buildError reason), locks)

/-- `create_pczt` on the actor: the proposal locks its inputs, and a failure after it gives
them back, unless that fails too. -/
def createPczt (fault : StepFault CreateStep) (unlock : Unlock) (owner : LockOwner)
    (inputs : List OutputRef) (txId : TxId) (state : PcztState) :
    Except StorageError (Pczt × LockOwner) × PcztState :=
  match (do failsAt fault .resolveAccount; failsAt fault .propose) with
  | .error error => (.error error, state)
  | .ok () =>
    let locked := acquire state.locks owner inputs
    match buildPczt fault owner inputs txId state.pending with
    | .ok (pczt, pending) => (.ok (pczt, owner), ⟨locked, pending⟩)
    | .error error =>
      let (answer, locks) :=
        releaseProposalInputsAfterFailure codec unlock owner inputs locked (.error error)
      (answer, ⟨locks, state.pending⟩)

end Creation

inductive ReleaseStep where
  | parse
  | findInputs
  | unlock (index : Nat)
  | deleteInputs
  deriving DecidableEq

/-- `ORDER BY pool_code, tx_id_bytes, output_index`. -/
def OutputRef.listedBefore (first second : OutputRef) : Bool :=
  let codes := compare (pendingPcztPoolCode first.pool) (pendingPcztPoolCode second.pool)
  let txIds := compareOfLessAndEq first.txId.asBytes second.txId.asBytes
  ((codes.then txIds).then (compare first.outputIndex second.outputIndex)).isLE

def findPendingPcztInputs (table : PendingPcztTable) (owner : LockOwner) : List OutputRef :=
  ((table.rows.filter (·.lockOwner = owner)).map (·.input)).mergeSort OutputRef.listedBefore

/-- The loop of `release_pending_pczt_inputs`, from the `index`-th input on. -/
def unlockOutputs (fault : StepFault ReleaseStep) (owner : LockOwner) :
    Nat → List OutputRef → Table OutputRef LockOwner →
      Except StorageError Unit × Table OutputRef LockOwner
  | _, [], locks => (.ok (), locks)
  | index, input :: inputs, locks =>
    match failsAt fault (.unlock index) with
    | .error error => (.error error, locks)
    | .ok () => unlockOutputs fault owner (index + 1) inputs (release locks owner [input])

def releasePendingPcztInputs (fault : StepFault ReleaseStep) (owner : LockOwner)
    (state : PcztState) : Except StorageError Unit × PcztState :=
  match failsAt fault .findInputs with
  | .error error => (.error error, state)
  | .ok () =>
    match unlockOutputs fault owner 0 (findPendingPcztInputs state.pending owner) state.locks with
    | (.error error, locks) => (.error error, ⟨locks, state.pending⟩)
    | (.ok (), locks) =>
      match failsAt fault .deleteInputs with
      | .error error => (.error error, ⟨locks, state.pending⟩)
      | .ok () => (.ok (), ⟨locks, state.pending.delete owner⟩)

def abandonPczt (fault : StepFault ReleaseStep) (pczt : Pczt) (state : PcztState) :
    Except StorageError Unit × PcztState :=
  match (do failsAt fault .parse; pendingPcztLockOwner pczt) with
  | .error error => (.error error, state)
  | .ok none => (.error .pcztLockOwnerMissing, state)
  | .ok (some owner) => releasePendingPcztInputs fault owner state

/-- Whether the caller of `create_pczt` is still there when the actor's answer arrives. -/
inductive PcztCaller where
  | cancelledInQueue
  | gone
  | cancelledBeforeAcknowledging
  | acknowledges
  deriving DecidableEq

/-- The end of the work on the actor: unless the caller acknowledges the PCZT, its inputs are
released, where a failure of `cleanup` is only logged. The answer is what the caller receives, if it
is still there. -/
def answerPcztCreation (caller : PcztCaller) (cleanup : StepFault ReleaseStep) :
    Except StorageError (Pczt × LockOwner) × PcztState → Option (Except StorageError Pczt) × PcztState
  | (.error error, after) => (if caller = .acknowledges then some (.error error) else none, after)
  | (.ok (pczt, owner), after) =>
    if caller = .acknowledges then (some (.ok pczt), after)
    else (none, (releasePendingPcztInputs cleanup owner after).2)

/-- The reply handshake of `create_pczt`. -/
def dispatchPcztCreation (caller : PcztCaller) (cleanup : StepFault ReleaseStep)
    (creation : PcztState → Except StorageError (Pczt × LockOwner) × PcztState)
    (state : PcztState) : Option (Except StorageError Pczt) × PcztState :=
  if caller = .cancelledInQueue then (none, state)
  else answerPcztCreation caller cleanup (creation state)

inductive ExtractStep where
  | parse
  | resolveProver
  | store
  | load
  | serialize
  | recordFinalized
  | deleteInputs
  deriving DecidableEq

/-- Storing the transaction takes its inputs from whoever locked them, before the steps that
may still fail. -/
def extractAndStorePczt (fault : StepFault ExtractStep) (pczt : Pczt) (state : PcztState) :
    Except StorageError TxId × PcztState :=
  match (do
    failsAt fault .parse
    let owner ← pendingPcztLockOwner pczt
    failsAt fault .resolveProver
    failsAt fault .store
    pure owner) with
  | .error error => (.error error, state)
  | .ok owner =>
    let locks := revoke state.locks pczt.inputs
    match (do
      failsAt fault .load
      failsAt fault .serialize
      failsAt fault .recordFinalized) with
    | .error error => (.error error, ⟨locks, state.pending⟩)
    | .ok () =>
      match owner with
      | none => (.ok pczt.txId, ⟨locks, state.pending⟩)
      | some owner =>
        match failsAt fault .deleteInputs with
        | .error error => (.error error, ⟨locks, state.pending⟩)
        | .ok () => (.ok pczt.txId, ⟨locks, state.pending.delete owner⟩)

end Zally
