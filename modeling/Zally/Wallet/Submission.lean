import Zally.Wallet.SpendPort

/-! The broadcast of a plan's transactions: each is recorded as pending, submitted under
the breaker with retries, and unrecorded when its submission failed. -/
namespace Zally.Spend

open Async Async.Program

/-- The submitter's connection; its capabilities are fetched once and then cached. -/
def connectedCapabilities (wallet : SpendWallet) :
    Fallible SpendCommand SpendCommand.Answer SubmitterError (List Capability) := do
  match ← ask .cachedCapabilities with
  | some capabilities => return capabilities
  | none =>
    let descriptor ← Fallible.call .indexer (ask .serverInfo)
    if descriptor.contractRevision < wallet.upstream.minSupportedContractRevision then
      throw (.indexer ⟨.operatorActionRequired⟩)
    else do
      let _ ← ask (.cacheCapabilities descriptor.capabilities)
      return descriptor.capabilities

/-- What the submitter reports for the node's answer to `rawTx`. -/
def submitResult (wallet : SpendWallet) (rawTx : RawTransaction) (reply : BroadcastReply) :
    Except SubmitterError SubmitOutcome :=
  match reply.answer with
  | .error error => .error (.indexer error)
  | .ok outcome => translateBroadcastOutcome outcome (wallet.upstream.parseTransactionId rawTx)

def submit (wallet : SpendWallet) (rawTx : RawTransaction) :
    Fallible SpendCommand SpendCommand.Answer SubmitterError SubmitOutcome := do
  let capabilities ← connectedCapabilities wallet
  let missing := [Capability.serverInfo, .broadcast].filter (· ∉ capabilities)
  if missing ≠ [] then
    throw (.capabilitiesUnavailable (missing.map wallet.upstream.capabilityName))
  else do
    let reply ← ask (.broadcastTransaction rawTx)
    ExceptT.mk (done (submitResult wallet rawTx reply))

structure SubmissionContext where
  operation : String
  accountId : AccountId
  visibleTip : Option BlockHeight

def recordBroadcastInputs (accountId : AccountId) (broadcastAtMs : Nat)
    (visibleTip : Option BlockHeight) (transaction : PreparedTransaction) : SpendM Unit :=
  if transaction.transparentInputs = [] then pure ()
  else Fallible.call .ofStorage (ask (.recordPendingBroadcastInputs {
    broadcastTxId := transaction.txId
    accountId := accountId
    broadcastAtMs := broadcastAtMs
    broadcastAtHeight := visibleTip
    inputs := transaction.transparentInputs }))

/-- The storage's answer is dropped. -/
def clearPendingAfterFailedSubmit (broadcastTxId : TxId) : SpendProgram Unit := do
  let _ ← ask (.clearPendingBroadcastInputsForMined [broadcastTxId])

def resolveSendOutcome (outcome : SubmitOutcome) (expectedTxId : TxId) :
    Except WalletError TxId :=
  match outcome with
  | .accepted txId | .duplicate txId | .queued txId =>
    if txId ≠ expectedTxId then .error (.submittedTransactionIdMismatch expectedTxId txId)
    else .ok txId
  | .rejected reason detail => .error (.submissionRejected reason detail)

/-- One turn of the loop over a plan's transactions. -/
def submitPrepared (wallet : SpendWallet) (submission : SubmissionContext) (broadcastAtMs : Nat)
    (transaction : PreparedTransaction) : SpendM TxId := do
  recordBroadcastInputs submission.accountId broadcastAtMs submission.visibleTip transaction
  let outcome ← ExceptT.lift (withBreakerAndRetry port wallet.broadcastRetryPolicy
    submission.operation SubmitterError.posture (submit wallet transaction.rawBytes).run
    .submitter).run
  match outcome with
  | .error error =>
    clearPendingAfterFailedSubmit transaction.txId
    throw error
  | .ok outcome =>
    match resolveSendOutcome outcome transaction.txId with
    | .error error =>
      clearPendingAfterFailedSubmit transaction.txId
      throw error
    | .ok txId => return txId

def submitEach (wallet : SpendWallet) (submission : SubmissionContext) (broadcastAtMs : Nat)
    (firstResult : Option (TxId × BlockHeight)) :
    List PreparedTransaction → SpendM (Option (TxId × BlockHeight))
  | [] => return firstResult
  | transaction :: prepared => do
    let txId ← submitPrepared wallet submission broadcastAtMs transaction
    submitEach wallet submission broadcastAtMs
      (firstResult.or (some (txId, transaction.txExpiryHeight))) prepared

def submitAndRecordPending (wallet : SpendWallet) (submission : SubmissionContext)
    (prepared : List PreparedTransaction) : SpendM (TxId × BlockHeight) := do
  let broadcastAtMs ← ask .currentUnixMs
  match ← submitEach wallet submission broadcastAtMs none prepared with
  | some result => return result
  | none => throw (.proposalRejected "transaction construction returned no transactions")

/-- The calls of the attempts to submit `rawTx`. -/
def Attempts (rawTx : RawTransaction) (command : SpendCommand) : Prop :=
  Quiet command ∨ command = .broadcastTransaction rawTx

theorem within_connectedCapabilities (wallet : SpendWallet) :
    (connectedCapabilities wallet).run.Within Quiet := by
  refine Fallible.within_bind ⟨trivial, fun _ => trivial⟩ fun cached => ?_
  cases cached with
  | some capabilities => trivial
  | none =>
    refine Fallible.within_bind (Fallible.within_call (within_ask trivial)) fun descriptor => ?_
    split
    · trivial
    · exact Fallible.within_bind ⟨trivial, fun _ => trivial⟩ fun _ => trivial

theorem within_submit (wallet : SpendWallet) (rawTx : RawTransaction) :
    (submit wallet rawTx).run.Within (Attempts rawTx) := by
  refine Fallible.within_bind ((within_connectedCapabilities wallet).mono fun _ => .inl)
    fun capabilities => ?_
  simp only []
  split
  · trivial
  · exact Fallible.within_bind ⟨.inr rfl, fun _ => trivial⟩ fun reply => trivial

/-! A submission only makes calls of its own, none of them on the idempotency ledger. -/

theorem broadcastCall_of_attempts (attempts : Attempts rawTx command) : BroadcastCall command := by
  rcases attempts with quiet | rfl
  · exact broadcastCall_of_quiet quiet
  · trivial

theorem within_recordBroadcastInputs :
    (recordBroadcastInputs accountId broadcastAtMs visibleTip transaction).run.Within
      BroadcastCall := by
  unfold recordBroadcastInputs
  split
  · trivial
  · exact Fallible.within_call (within_ask trivial)

theorem within_submitPrepared (wallet : SpendWallet) (submission : SubmissionContext)
    (broadcastAtMs : Nat) (transaction : PreparedTransaction) :
    (submitPrepared wallet submission broadcastAtMs transaction).run.Within BroadcastCall := by
  refine Fallible.within_bind within_recordBroadcastInputs fun _ => ?_
  refine Fallible.within_bind (Fallible.within_lift (within_withBreakerAndRetry port_within
    ((within_submit wallet transaction.rawBytes).mono fun _ => broadcastCall_of_attempts)))
    fun outcome => ?_
  split
  · exact Fallible.within_bind ⟨trivial, fun _ => trivial⟩ fun _ => trivial
  · split
    · exact Fallible.within_bind ⟨trivial, fun _ => trivial⟩ fun _ => trivial
    · trivial

theorem broadcastCall_submitAndRecordPending (wallet : SpendWallet) (submission : SubmissionContext)
    (prepared : List PreparedTransaction) :
    (submitAndRecordPending wallet submission prepared).run.Within BroadcastCall := by
  refine Fallible.within_bind ⟨trivial, fun _ => trivial⟩ fun broadcastAtMs => ?_
  refine Fallible.within_bind ?_ fun first => by cases first <;> trivial
  generalize (none : Option (TxId × BlockHeight)) = firstResult
  induction prepared generalizing firstResult with
  | nil => trivial
  | cons transaction prepared ih =>
    exact Fallible.within_bind (within_submitPrepared wallet submission broadcastAtMs transaction)
      fun _ => ih _

theorem within_submitAndRecordPending (wallet : SpendWallet) (submission : SubmissionContext)
    (prepared : List PreparedTransaction) :
    (submitAndRecordPending wallet submission prepared).run.Within OffLedger :=
  (broadcastCall_submitAndRecordPending wallet submission prepared).mono fun _ => offLedger_of_broadcastCall

/-! A wallet whose transactions are single bytes, and its node's answers. -/

def sampleUpstream : SpendUpstream where
  parseTransactionId
    | [byte] => .ok (.ofNat 256 byte.toNat)
    | _ => .error (.read "a sample transaction is one byte")
  capabilityName _ := "capability"
  minSupportedContractRevision := 1
  memoToWireBytes _ := []

def sampleWallet : SpendWallet where
  upstream := sampleUpstream
  network := .mainnet
  submitterNetwork := .mainnet
  retryPolicy := ⟨3, 100, 2000, 20⟩

def sampleBroadcast (byte : UInt8) (reply : BroadcastReply) : List SpendEvent := [
  ⟨.allowCall, true⟩,
  ⟨.cachedCapabilities, some [.serverInfo, .broadcast]⟩,
  ⟨.broadcastTransaction [byte], reply⟩]

end Zally.Spend
