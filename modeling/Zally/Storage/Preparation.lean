import Zally.Storage.PcztLedger
import Zally.Storage.ProposalAnchors
import Zally.Wallet.SpendPort

/-! The calls that build transactions from a proposal: its inputs are locked, the transactions
stored, and after a failure the locks are given back. -/
namespace Zally

namespace Preparation

open Anchors Async Lease Outcome

structure ShieldedInput where
  txId : TxId
  pool : ShieldedPool
  outputIndex : UInt32

/-- What a step of a proposal selected. -/
structure ProposalStep where
  shieldedInputs : List ShieldedInput
  transparentInputs : List (OutPoint × Zatoshis)
  anchorHeight : Option BlockHeight

structure Proposal where
  steps : List ProposalStep
  policyAnchor : BlockHeight

def proposalInputRefs (proposal : Proposal) : List OutputRef :=
  proposal.steps.flatMap fun step =>
    (step.shieldedInputs.map fun note => ⟨note.txId, .shielded note.pool, note.outputIndex⟩) ++
      step.transparentInputs.map fun (outpoint, _) =>
        ⟨outpoint.txId, .transparent, outpoint.outputIndex⟩

structure StoredTransaction where
  txId : TxId
  rawBytes : RawTransaction
  expiryHeight : BlockHeight
  deriving DecidableEq

/-- The transactions that a proposal is built into, one after the other. -/
structure Built where
  transactions : List StoredTransaction
  distinct : (transactions.map (·.txId)).Nodup

/-- What the calls change; the newest transaction stands first. -/
structure StoreState (Tree : Type) where
  pczt : PcztState
  trees : Trees Tree
  transactions : List StoredTransaction

inductive PrepareStep where
  | decodeRecipient
  | decodeMemo
  | resolveProver
  | resolveAccount
  | deriveSpendingKey
  | transparentReceivers
  | chainHeight
  | propose
  | anchors (step : AnchorStep)
  | create
  | load (index : Nat)
  | serialize (index : Nat)
  deriving DecidableEq

/-- The proposal of a call, the failures it meets and the owner it draws. -/
structure Call where
  proposal : Proposal
  built : Built
  owner : LockOwner
  blockMetadata : BlockHeight → Option BlockMetadata
  fault : StepFault PrepareStep
  unlock : Unlock

variable {Tree : Type}

def StoreState.withLocks (state : StoreState Tree) (locks : Table OutputRef LockOwner) :
    StoreState Tree :=
  { state with pczt := ⟨locks, state.pczt.pending⟩ }

def anchorFault (fault : StepFault PrepareStep) : StepFault AnchorStep :=
  match fault with
  | some (.anchors step, error) => some (step, error)
  | _ => none

/-- Storing the transactions takes the inputs of the proposal from whoever locked them. -/
def storeTransactions (call : Call) (state : StoreState Tree) : StoreState Tree where
  pczt := ⟨revoke state.pczt.locks (proposalInputRefs call.proposal), state.pczt.pending⟩
  trees := state.trees
  transactions := call.built.transactions ++ state.transactions

section Calls

variable (codec : Wire.Hex.Codec)

/-- The loop of `prepared_transactions_with_inputs`, from the `index`-th transaction on. -/
def preparedTransactionsFrom (fault : StepFault PrepareStep) (context : String)
    (stored : List StoredTransaction) (steps : List ProposalStep) :
    Nat → List TxId → Except StorageError (List PreparedTransaction)
  | _, [] => .ok []
  | index, txId :: txIds => do
    failsAt fault (.load index)
    let transaction ← match stored.find? (·.txId = txId) with
      | some transaction => pure transaction
      | none => .error (.sqliteFailed
          (context ++ " tx " ++ TxId.rpcHex codec txId ++ " not present in wallet store")
            .notRetryable)
    failsAt fault (.serialize index)
    let transparentInputs := (steps[index]?.map (·.transparentInputs)).getD []
    let prepared ← preparedTransactionsFrom fault context stored steps (index + 1) txIds
    pure (⟨txId, transaction.rawBytes, transparentInputs, transaction.expiryHeight⟩ :: prepared)

def preparedTransactionsWithInputs (fault : StepFault PrepareStep) (context : String)
    (stored : List StoredTransaction) (proposal : Proposal) (txIds : List TxId) :
    Except StorageError (List PreparedTransaction) :=
  preparedTransactionsFrom codec fault context stored proposal.steps 0 txIds

variable (library : TreeLibrary Tree)

/-- The steps between the proposal and the answer. -/
def buildTransactions (context : String) (call : Call)
    (state : StoreState Tree) : Except StorageError (List PreparedTransaction) × StoreState Tree :=
  match ensureProposalAnchors library (anchorFault call.fault) call.blockMetadata
      call.proposal.policyAnchor (call.proposal.steps.map (·.anchorHeight)) state.trees with
  | (.error error, trees) => (.error error, { state with trees })
  | (.ok (), trees) =>
    match failsAt call.fault .create with
    | .error error => (.error error, { state with trees })
    | .ok () =>
      let stored := storeTransactions call { state with trees }
      (preparedTransactionsWithInputs codec call.fault context stored.transactions call.proposal
        (call.built.transactions.map (·.txId)), stored)

/-- The course of both calls; `before` are the steps until the proposal locks its inputs. -/
def prepare (context : String) (before : List PrepareStep) (call : Call) (state : StoreState Tree) :
    Except StorageError (List PreparedTransaction) × StoreState Tree :=
  match before.forM (failsAt call.fault) with
  | .error error => (.error error, state)
  | .ok () =>
    let (built, left) := buildTransactions codec library context call
      (state.withLocks (acquire state.pczt.locks call.owner (proposalInputRefs call.proposal)))
    let (answer, locks) := releaseProposalInputsAfterFailure codec call.unlock call.owner
      (proposalInputRefs call.proposal) left.pczt.locks built
    (answer, left.withLocks locks)

def preparePayment (call : Call) (state : StoreState Tree) :
    Except StorageError (List PreparedTransaction) × StoreState Tree :=
  prepare codec library "created" [.decodeRecipient, .decodeMemo, .resolveProver, .resolveAccount,
    .deriveSpendingKey, .chainHeight, .propose] call state

/-- The pool of the change is asked for only if the request names none. -/
def shieldTransparentFunds (destinationPool : Option ShieldedPool) (call : Call)
    (state : StoreState Tree) : Except StorageError (List PreparedTransaction) × StoreState Tree :=
  prepare codec library "shielding" ([.resolveProver, .resolveAccount, .deriveSpendingKey,
    .transparentReceivers] ++ (if destinationPool.isNone then [.chainHeight] else []) ++ [.propose])
    call state

end Calls

/-! What one call leaves. -/

section Steps

variable {call : Call} {state : StoreState Tree} {library : TreeLibrary Tree}
  {codec : Wire.Hex.Codec}

/-- The answer for a transaction that was built for the step of its place. -/
def preparedFor (steps : List ProposalStep) (index : Nat) (transaction : StoredTransaction) :
    PreparedTransaction where
  txId := transaction.txId
  rawBytes := transaction.rawBytes
  transparentInputs := (steps[index]?.map (·.transparentInputs)).getD []
  txExpiryHeight := transaction.expiryHeight

/-- The transactions were stored, and reading them back failed. -/
def ReadBackFails (fault : StepFault PrepareStep) (error : StorageError) : Prop :=
  ∃ index, fault = some (.load index, error) ∨ fault = some (.serialize index, error)

theorem find?_built (built : Built) (member : transaction ∈ built.transactions)
    (older : List StoredTransaction) :
    (built.transactions ++ older).find? (·.txId = transaction.txId) = some transaction := by
  obtain ⟨transactions, distinct⟩ := built
  obtain ⟨before, after, rfl⟩ := List.append_of_mem member
  rw [List.map_append,List.map_cons,List.nodup_append] at distinct
  have fresh : before.find? (·.txId = transaction.txId) = none := by
    refine List.find?_eq_none.mpr fun other among => ?_
    rw [decide_eq_true_eq]
    exact distinct.2.2 other.txId (List.mem_map_of_mem among) _ List.mem_cons_self
  simp [List.find?_append,fresh]

/-- Every transaction is read back as it was stored, unless a step of that fails. -/
theorem preparedTransactionsFrom_eq {rest : List StoredTransaction} (codec : Wire.Hex.Codec)
    (fault : StepFault PrepareStep) (context : String) (steps : List ProposalStep) (index : Nat)
    (stored : ∀ transaction ∈ rest, found.find? (·.txId = transaction.txId) = some transaction) :
    preparedTransactionsFrom codec fault context found steps index (rest.map (·.txId)) =
        .ok (rest.mapIdx fun offset => preparedFor steps (index + offset)) ∨
      ∃ error, preparedTransactionsFrom codec fault context found steps index (rest.map (·.txId)) =
        .error error ∧ ReadBackFails fault error := by
  induction rest generalizing index with
  | nil => exact .inl rfl
  | cons transaction rest ih =>
    obtain ⟨present, later⟩ := List.forall_mem_cons.mp stored
    rw [List.map_cons,preparedTransactionsFrom]
    cases loaded : failsAt fault (.load index) with
    | error error => exact .inr ⟨error, rfl, index, .inl (failsAt_error loaded)⟩
    | ok done =>
    cases serialized : failsAt fault (.serialize index) with
    | error error =>
      refine .inr ⟨error, ?_, index, .inr (failsAt_error serialized)⟩
      simp only [bind,Except.bind,present,pure,Except.pure]
    | ok done =>
    obtain read | ⟨error, failed, why⟩ := ih (index + 1) later
    · refine .inl ?_
      simp only [bind,Except.bind,present,pure,Except.pure,read,List.mapIdx_cons,Nat.add_zero,
        Nat.add_assoc,Nat.add_comm 1]
      rfl
    · refine .inr ⟨error, ?_, why⟩
      simp only [bind,Except.bind,present,pure,Except.pure,failed]

/-- A lock that the owner of a call keeps: nothing was stored, and its release failed. -/
structure Stuck (codec : Wire.Hex.Codec) (call : Call) (before after : StoreState Tree)
    (result : Except StorageError (List PreparedTransaction)) (input : OutputRef) : Prop where
  member : input ∈ proposalInputRefs call.proposal
  unstored : after.transactions = before.transactions
  failed : ∃ released reason buildError, call.unlock = .failed released reason ∧
    input ∉ released ∧ result = .error (releaseFailed codec buildError reason)

/-- What an answer says of the transactions that the call built. -/
def Answered (call : Call) (before after : StoreState Tree) :
    Except StorageError (List PreparedTransaction) → Prop
  | .ok prepared => prepared = call.built.transactions.mapIdx (preparedFor call.proposal.steps) ∧
      after.transactions = call.built.transactions ++ before.transactions ∧
      ∀ input ∈ proposalInputRefs call.proposal, after.pczt.locks input = none
  | .error _ => after.transactions = before.transactions ∨
      after.transactions = call.built.transactions ++ before.transactions ∧
        ∃ error, ReadBackFails call.fault error

/-- What a call leaves. -/
structure Leaves (codec : Wire.Hex.Codec) (call : Call) (before after : StoreState Tree)
    (result : Except StorageError (List PreparedTransaction)) : Prop where
  pending : after.pczt.pending = before.pczt.pending
  locks : ∀ input owner, after.pczt.locks input = some owner →
    before.pczt.locks input = some owner ∨ owner = call.owner ∧
      Stuck codec call before after result input
  answer : Answered call before after result

/-- A build fails before it stores, or stores and reads back. -/
theorem buildTransactions_cases (codec : Wire.Hex.Codec) (library : TreeLibrary Tree)
    (context : String) (call : Call) (locked : StoreState Tree) : ∃ trees,
    (∃ error, buildTransactions codec library context call locked =
      (.error error, { locked with trees })) ∨
    buildTransactions codec library context call locked =
      (.ok (call.built.transactions.mapIdx (preparedFor call.proposal.steps)),
        storeTransactions call { locked with trees }) ∨
    ∃ error, ReadBackFails call.fault error ∧ buildTransactions codec library context call locked =
      (.error error, storeTransactions call { locked with trees }) := by
  unfold buildTransactions
  cases ensured : ensureProposalAnchors library (anchorFault call.fault) call.blockMetadata
      call.proposal.policyAnchor (call.proposal.steps.map (·.anchorHeight)) locked.trees with
  | mk result trees =>
  refine ⟨trees, ?_⟩
  cases result with
  | error error => exact .inl ⟨error, rfl⟩
  | ok done =>
  cases created : failsAt call.fault .create with
  | error error => exact .inl ⟨error, rfl⟩
  | ok done =>
    right
    have read := preparedTransactionsFrom_eq codec call.fault context call.proposal.steps 0
      fun transaction member => find?_built call.built member locked.transactions
    simp only [Nat.zero_add] at read
    exact read.imp (congrArg (·, storeTransactions call { locked with trees }))
      fun ⟨error, failed, why⟩ =>
        ⟨error, why, congrArg (·, storeTransactions call { locked with trees }) failed⟩

theorem held_of_stored {locks : Table OutputRef LockOwner}
    (held : revoke (acquire locks owner inputs) inputs input = some other) :
    locks input = some other := by
  obtain ⟨spared, held⟩ := revoke_eq_some_iff.mp held
  obtain ⟨member, -⟩ | ⟨-, held⟩ := acquire_eq_some_iff.mp held
  · exact absurd member spared
  · exact held

theorem prepare_leaves (ran : prepare codec library context before call state = (result, after)) :
    Leaves codec call state after result := by
  unfold prepare at ran
  split at ran
  · obtain ⟨rfl, rfl⟩ := Prod.mk.inj ran
    exact ⟨rfl, fun input owner => .inl, .inl rfl⟩
  let inputs := proposalInputRefs call.proposal
  obtain ⟨trees, ⟨error, built⟩ | built | ⟨error, why, built⟩⟩ := buildTransactions_cases codec
    library context call (state.withLocks (acquire state.pczt.locks call.owner inputs)) <;>
    rw [built] at ran
  · -- nothing was stored
    cases ended : call.unlock with
    | released =>
      simp only [releaseProposalInputsAfterFailure,ended,unlockProposalInputs] at ran
      obtain ⟨rfl, rfl⟩ := Prod.mk.inj ran
      refine ⟨rfl, fun input owner held => .inl ?_, .inl rfl⟩
      have rolledBack : release (acquire state.pczt.locks call.owner inputs) call.owner inputs
          input = some owner := held
      exact PcztState.held_of_rolledBack rolledBack
    | failed released reason =>
      simp only [releaseProposalInputsAfterFailure,ended,unlockProposalInputs] at ran
      obtain ⟨rfl, rfl⟩ := Prod.mk.inj ran
      refine ⟨rfl, fun input owner held => ?_, .inl rfl⟩
      obtain ⟨held, kept⟩ := release_eq_some_iff.mp held
      obtain ⟨member, rfl⟩ | ⟨-, held⟩ := acquire_eq_some_iff.mp held
      · have stuck := fun given => kept ⟨given, rfl⟩
        exact .inr ⟨rfl, member, rfl, released, reason, error, ended, stuck, rfl⟩
      · exact .inl held
  · obtain ⟨rfl, rfl⟩ := Prod.mk.inj ran
    refine ⟨rfl, fun input owner held => .inl (held_of_stored held), rfl, rfl, fun input member => ?_⟩
    exact if_pos member
  · -- the transactions are stored and their inputs are already free
    have stored : ∀ locks, (∀ input owner, locks input = some owner →
          revoke (acquire state.pczt.locks call.owner inputs) inputs input = some owner) →
        ∀ outcome, Leaves codec call state ((storeTransactions call { state.withLocks
          (acquire state.pczt.locks call.owner inputs) with trees }).withLocks locks)
          (.error outcome) := by
      intro locks shrinks outcome
      exact ⟨rfl, fun input owner held => .inl (held_of_stored (shrinks input owner held)),
        .inr ⟨rfl, error, why⟩⟩
    cases ended : call.unlock with
    | released =>
      simp only [releaseProposalInputsAfterFailure,ended,unlockProposalInputs] at ran
      obtain ⟨rfl, rfl⟩ := Prod.mk.inj ran
      exact stored _ (fun input owner held => (release_eq_some_iff.mp held).1) _
    | failed released reason =>
      simp only [releaseProposalInputsAfterFailure,ended,unlockProposalInputs] at ran
      obtain ⟨rfl, rfl⟩ := Prod.mk.inj ran
      exact stored _ (fun input owner held => (release_eq_some_iff.mp held).1) _

end Steps

/-! Runs of preparations among the PCZT calls. -/

inductive Kind where
  | payment
  | shielding (destinationPool : Option ShieldedPool)

section Runs

variable (codec : Wire.Hex.Codec) (library : TreeLibrary Tree)

def Kind.run (call : Call) (state : StoreState Tree) :
    Kind → Except StorageError (List PreparedTransaction) × StoreState Tree
  | payment => preparePayment codec library call state
  | shielding destinationPool => shieldTransparentFunds codec library destinationPool call state

theorem Kind.leaves (kind : Kind) (call : Call) (state : StoreState Tree) :
    Leaves codec call state (kind.run codec library call state).2
      (kind.run codec library call state).1 := by
  cases kind with
  | payment => exact prepare_leaves rfl
  | shielding destinationPool => exact prepare_leaves rfl

inductive StoreOp where
  | pczt (op : PcztOp)
  | prepare (kind : Kind) (call : Call)

/-- The owner a call locks for. -/
def StoreOp.draws : StoreOp → Option LockOwner
  | pczt op => op.creates
  | prepare _ call => some call.owner

def StoreOp.run (state : StoreState Tree) : StoreOp → StoreState Tree
  | pczt op => { state with pczt := op.run codec state.pczt }
  | prepare kind call => (kind.run codec library call state).2

abbrev StorePath :=
  Async.Path fun (before : StoreState Tree) (op : StoreOp) after =>
    op.run codec library before = after

end Runs

section Others

variable {codec : Wire.Hex.Codec} {library : TreeLibrary Tree} {state : StoreState Tree}
  {owner : LockOwner} {op : StoreOp}

/-- Only its own call gives an owner a lock. -/
theorem StoreOp.held_of_run (others : op.draws ≠ some owner)
    (held : (op.run codec library state).pczt.locks input = some owner) :
    state.pczt.locks input = some owner := by
  cases op with
  | prepare kind call =>
    obtain before | ⟨rfl, -⟩ := (kind.leaves codec library call state).locks input owner held
    · exact before
    · exact absurd rfl others
  | pczt op =>
    exact PcztState.held_of_run others held

theorem StoreOp.not_owns_run (others : op.draws ≠ some owner) (free : ¬state.pczt.Owns owner) :
    ¬(op.run codec library state).pczt.Owns owner := by
  cases op with
  | pczt op => exact PcztState.not_owns_run free others
  | prepare kind call =>
    refine PcztState.not_owns_mono free (fun input => StoreOp.held_of_run others) ?_
    rw [StoreOp.run,(kind.leaves codec library call state).pending]
    exact fun _ => id

theorem StoreOp.leases_run (others : op.draws ≠ some owner)
    (spends : ∀ fault pczt, op = .pczt (.extract fault pczt) →
      pendingPcztLockOwner pczt = .ok (some owner) → items ⊆ pczt.inputs)
    (leases : state.pczt.Leases owner items) :
    (op.run codec library state).pczt.Leases owner items := by
  cases op with
  | pczt op =>
    refine leases.run ?_
    cases op with
    | create caller fault unlock cleanup drawn inputs txId =>
      exact fun same => absurd (congrArg some same) others
    | extract fault pczt => exact spends fault pczt rfl
    | abandon fault pczt => trivial
  | prepare kind call =>
    refine leases.mono (fun input => StoreOp.held_of_run others) ?_
    rw [StoreOp.run,(kind.leaves codec library call state).pending]
    exact fun _ => id

end Others

/-- A run whose calls draw owners that nothing else uses, and that extracts under the name of a
creation's owner only transactions that spend what the creation locked. -/
structure StoreRun (codec : Wire.Hex.Codec) (library : TreeLibrary Tree) (start : StoreState Tree)
    (ops : List StoreOp) (state : StoreState Tree) : Prop where
  path : StorePath codec library start ops state
  distinct : (ops.filterMap StoreOp.draws).Nodup
  unused : ∀ owner ∈ ops.filterMap StoreOp.draws, ¬start.pczt.Owns owner
  spends : ∀ caller fault unlock cleanup owner inputs txId fault' pczt,
    .pczt (.create caller fault unlock cleanup owner inputs txId) ∈ ops →
      .pczt (.extract fault' pczt) ∈ ops →
    pendingPcztLockOwner pczt = .ok (some owner) → inputs ⊆ pczt.inputs

section Runs

variable {codec : Wire.Hex.Codec} {library : TreeLibrary Tree} {start state : StoreState Tree}
  {ops : List StoreOp}

/-- Before and after the call of an owner the run does not use it. -/
theorem StoreRun.split (run : StoreRun codec library start ops state)
    (split : ops = before ++ op :: after) (draws : op.draws = some owner) :
    (∀ other ∈ before, other.draws ≠ some owner) ∧ (∀ other ∈ after, other.draws ≠ some owner) ∧
      ∃ middle, StorePath codec library start before middle ∧ ¬middle.pczt.Owns owner ∧
        StorePath codec library (op.run codec library middle) after state := by
  have distinct := run.distinct
  have drawn : owner ∈ ops.filterMap StoreOp.draws := by
    rw [split]
    exact List.mem_filterMap.mpr ⟨op, List.mem_append_right _ List.mem_cons_self, draws⟩
  rw [split,List.Nodup,List.pairwise_filterMap,List.pairwise_append,List.pairwise_cons] at distinct
  obtain ⟨-, ⟨apart, -⟩, across⟩ := distinct
  have earlier : ∀ other ∈ before, other.draws ≠ some owner := fun other member same =>
    across other member op List.mem_cons_self owner same owner draws rfl
  have later : ∀ other ∈ after, other.draws ≠ some owner := fun other member same =>
    apart other member owner draws owner same rfl
  have path := run.path
  rw [split] at path
  obtain ⟨middle, first, rest⟩ := Path.append_iff.mp path
  have free : ¬middle.pczt.Owns owner := first.invariant_mem (fun state => ¬state.pczt.Owns owner)
    (fun other member state next free moves => by
      subst moves
      exact StoreOp.not_owns_run (earlier other member) free) (run.unused owner drawn)
  cases rest with
  | cons moves rest =>
    subst moves
    exact ⟨earlier, later, middle, first, free, rest⟩

/-- A lock that an owner has after its call is one that the call left it. -/
theorem StoreRun.held (run : StoreRun codec library start ops state)
    (split : ops = before ++ .prepare kind call :: after)
    (path : StorePath codec library start before middle)
    (ran : kind.run codec library call middle = (result, next))
    (held : state.pczt.locks input = some call.owner) :
    Stuck codec call middle next result input := by
  obtain ⟨-, later, reached, first, free, rest⟩ := run.split split rfl
  obtain rfl := first.deterministic (by rintro _ _ _ _ rfl rfl; rfl) path
  have kept := rest.invariant_mem
    (fun state => state.pczt.locks input = some call.owner →
      (StoreOp.run codec library reached (.prepare kind call)).pczt.locks input = some call.owner)
    (fun other member state next before moves held => by
      subst moves
      exact before (StoreOp.held_of_run (later other member) held)) id held
  rw [StoreOp.run,ran] at kept
  have leaves := kind.leaves codec library call reached
  rw [ran] at leaves
  obtain already | ⟨-, stuck⟩ := leaves.locks input call.owner kept
  · exact absurd (.inl ⟨input, already⟩) free
  · exact stuck

/-- The locks of a creation stay covered, unless its own rollback failed. -/
theorem StoreRun.covered (run : StoreRun codec library start ops state)
    (member : .pczt (.create caller fault .released cleanup owner inputs txId) ∈ ops) :
    state.pczt.Covered owner := by
  obtain ⟨before, after, split⟩ := List.append_of_mem member
  obtain ⟨-, later, middle, -, free, rest⟩ := run.split split rfl
  have created : (StoreOp.run codec library middle
      (.pczt (.create caller fault .released cleanup owner inputs txId))).pczt.Leases owner
        inputs :=
    (PcztState.Leases.of_not_owns free).run fun _ => ⟨List.Subset.refl inputs, rfl⟩
  refine (rest.invariant_mem (fun reached => PcztState.Leases reached.pczt owner inputs)
    (fun op among reached next leases moves => ?_) created).covered
  subst moves
  refine StoreOp.leases_run (later op among) (fun fault' pczt same => ?_) leases
  subst same
  refine run.spends caller fault .released cleanup owner inputs txId fault' pczt member ?_
  rw [split]
  exact List.mem_append_right _ (List.mem_cons_of_mem _ among)

end Runs

section Sample

/-- A payment of one step that spends a note and a transparent output. -/
def samplePayment : Call where
  proposal := ⟨[⟨[⟨5, .orchard, 0⟩], [(⟨6, 1⟩, ⟨700⟩)], some 2⟩], 1⟩
  built := ⟨[⟨9, [1, 2], 40⟩], by decide⟩
  owner := ⟨3⟩
  blockMetadata := leafMetadata
  fault := none
  unlock := .released

/-- The same payment, where the transaction is not built and the release fails. -/
def failedPayment : Call :=
  { samplePayment with
    owner := ⟨4⟩
    fault := some (.create, .proverUnavailable)
    unlock := .failed [] "database is locked" }

def sampleStore : StoreState LeafTree where
  pczt := samplePcztState
  trees _ := scannedTree
  transactions := []

end Sample

end Preparation
end Zally
