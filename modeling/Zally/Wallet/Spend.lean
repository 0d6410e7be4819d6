import Zally.Wallet.Submission
import Zally.Wallet.Pczt

/-! The spend flow: guards, ledger lookup, transaction construction, submission and the
ledger write. -/
namespace Zally.Spend

open Async Async.Program

structure SendPaymentPlan where
  accountId : AccountId
  idempotency : IdempotencyKey
  recipient : PaymentRecipient
  amountZat : Zatoshis
  memo : Option Memo
  targetExpiryHeight : Option BlockHeight
  deriving DecidableEq, Repr

structure ShieldTransparentPlan where
  accountId : AccountId
  idempotency : IdempotencyKey
  shieldingThresholdZat : Zatoshis
  destinationPool : Option ShieldedPool
  deriving DecidableEq, Repr

structure SignedPczt where
  txId : TxId
  feeZat : Zatoshis
  txExpiryHeight : BlockHeight
  deriving DecidableEq, Repr

structure BroadcastOutcome where
  txId : TxId
  broadcastAtHeight : BlockHeight
  deriving DecidableEq, Repr

structure SendOutcome where
  signed : SignedPczt
  broadcast : BroadcastOutcome
  deriving DecidableEq, Repr

def validateRecipientNetwork (recipient : PaymentRecipient) (walletNetwork : Network) :
    Except WalletError Unit :=
  if recipient.network = walletNetwork then .ok ()
  else .error (.networkMismatch walletNetwork recipient.network)

def validateMemoAgainstRecipient (memo : Option Memo) (recipient : PaymentRecipient) :
    Except WalletError Unit :=
  match memo with
  | none | some .empty => .ok ()
  | some _ => if recipient.isTransparent then .error .memoOnTransparentRecipient else .ok ()

def validateNonZero (amountZat : Zatoshis) : Except WalletError Unit :=
  if amountZat.raw = 0 then
    .error (.proposalRejected "amount must be greater than zero zatoshis")
  else .ok ()

def validateSubmitterNetwork (wallet : SpendWallet) : Except WalletError Unit :=
  if wallet.submitterNetwork ≠ wallet.network then
    .error (.networkMismatch wallet.network wallet.submitterNetwork)
  else .ok ()

def visibleTipOrZero : SpendM BlockHeight := do
  return (← Fallible.call .ofStorage (ask .findVisibleTip)).getD 0

/-- The outcome both flows report for a key that is already recorded. -/
def priorOutcome (priorTxId : TxId) : SpendM SendOutcome := do
  let broadcastAtHeight ← visibleTipOrZero
  return {
    signed := ⟨priorTxId, ⟨0⟩, 0⟩
    broadcast := ⟨priorTxId, broadcastAtHeight⟩ }

def prepareSendWithTargetExpiry (wallet : SpendWallet) (plan : SendPaymentPlan)
    (target : BlockHeight) : SpendM (List PreparedTransaction) := do
  let visibleTip ← visibleTipOrZero
  if target ≤ visibleTip then throw (.targetExpiryStale target visibleTip)
  else do
    let proposed ← proposePczt wallet
      ⟨plan.accountId, plan.recipient, plan.amountZat, plan.memo, none⟩ (some target)
    let proven ← orAbandon wallet proposed (provePczt wallet proposed)
    let signed ← orAbandon wallet proven (signPczt wallet proven)
    let prepared ← orAbandon wallet signed
      (Fallible.call .ofStorage (ask (.extractAndStorePczt signed.bytes)))
    if prepared.txExpiryHeight ≠ target then
      throw (.targetExpiryMismatch target prepared.txExpiryHeight)
    else return [prepared]

def preparePayment (wallet : SpendWallet) (plan : SendPaymentPlan) :
    SpendM (List PreparedTransaction) :=
  match plan.targetExpiryHeight with
  | some target => prepareSendWithTargetExpiry wallet plan target
  | none => do
    let seed ← unsealSeed
    Fallible.call .ofStorage (ask (.preparePayment {
      accountId := plan.accountId
      recipientEncoded := plan.recipient.encoded
      amountZat := plan.amountZat
      memo := plan.memo.map wallet.upstream.memoToWireBytes
      sourcePool := none } seed))

/-- What both flows do with their prepared transactions. -/
def submitPlan (wallet : SpendWallet) (operation : String) (accountId : AccountId)
    (idempotency : IdempotencyKey) (prepared : List PreparedTransaction) : SpendM SendOutcome := do
  let visibleTip ← Fallible.call .ofStorage (ask .findVisibleTip)
  let (resultTxId, txExpiryHeight) ←
    submitAndRecordPending wallet ⟨operation, accountId, visibleTip⟩ prepared
  Fallible.call .ofStorage (ask (.recordIdempotentSubmission idempotency resultTxId))
  return {
    signed := ⟨resultTxId, ⟨0⟩, txExpiryHeight⟩
    broadcast := ⟨resultTxId, visibleTip.getD 0⟩ }

def sendPayment (wallet : SpendWallet) (plan : SendPaymentPlan) : SpendM SendOutcome := do
  check (validateRecipientNetwork plan.recipient wallet.network)
  check (validateMemoAgainstRecipient plan.memo plan.recipient)
  check (validateNonZero plan.amountZat)
  check (validateSubmitterNetwork wallet)
  match ← Fallible.call .ofStorage (ask (.findIdempotentSubmission plan.idempotency)) with
  | some priorTxId => priorOutcome priorTxId
  | none =>
    let prepared ← preparePayment wallet plan
    submitPlan wallet "send_payment.submit" plan.accountId plan.idempotency prepared

def resolveShieldingRequest (plan : ShieldTransparentPlan) : ShieldTransparentRequest where
  accountId := plan.accountId
  shieldingThresholdZat := plan.shieldingThresholdZat
  destinationPool := plan.destinationPool

def shieldTransparentFunds (wallet : SpendWallet) (plan : ShieldTransparentPlan) :
    SpendM SendOutcome := do
  check (validateNonZero plan.shieldingThresholdZat)
  check (validateSubmitterNetwork wallet)
  match ← Fallible.call .ofStorage (ask (.findIdempotentSubmission plan.idempotency)) with
  | some priorTxId => priorOutcome priorTxId
  | none =>
    let seed ← unsealSeed
    let prepared ← Fallible.call .ofStorage
      (ask (.shieldTransparentFunds (resolveShieldingRequest plan) seed))
    submitPlan wallet "shield_transparent_funds.submit" plan.accountId plan.idempotency prepared

/-- The two calls that take an idempotency key. -/
inductive Request where
  | sendPayment (plan : SendPaymentPlan)
  | shieldTransparentFunds (plan : ShieldTransparentPlan)
  deriving DecidableEq, Repr

namespace Request

def idempotency : Request → IdempotencyKey
  | .sendPayment plan => plan.idempotency
  | .shieldTransparentFunds plan => plan.idempotency

def program (wallet : SpendWallet) : Request → SpendProgram (Except WalletError SendOutcome)
  | .sendPayment plan => (Spend.sendPayment wallet plan).run
  | .shieldTransparentFunds plan => (Spend.shieldTransparentFunds wallet plan).run

end Request

/-- Past its lookup a call only writes the ledger under its own key. -/
def PastLookup (key : IdempotencyKey) : SpendCommand → Prop
  | .findIdempotentSubmission _ => False
  | .recordIdempotentSubmission recorded _ => recorded = key
  | _ => True

theorem pastLookup_of_offLedger (command : SpendCommand) (off : OffLedger command) :
    PastLookup key command := by
  cases command <;> simp_all [OffLedger,SpendCommand.touchesLedger,PastLookup]

theorem within_visibleTipOrZero {commands : SpendCommand → Prop}
    (member : commands .findVisibleTip) : visibleTipOrZero.run.Within commands :=
  Fallible.within_bind (Fallible.within_call (within_ask member)) fun _ => trivial

theorem within_priorOutcome (priorTxId : TxId) :
    (priorOutcome priorTxId).run.Within fun command => command = .findVisibleTip :=
  Fallible.within_bind (within_visibleTipOrZero rfl) fun _ => trivial

theorem within_prepareSendWithTargetExpiry (wallet : SpendWallet) (plan : SendPaymentPlan)
    (target : BlockHeight) :
    (prepareSendWithTargetExpiry wallet plan target).run.Within OffLedger := by
  refine Fallible.within_bind (within_visibleTipOrZero rfl) fun visibleTip => ?_
  split
  · trivial
  refine Fallible.within_bind within_proposePczt fun proposed => ?_
  refine Fallible.within_bind (within_orAbandon within_provePczt) fun proven => ?_
  refine Fallible.within_bind (within_orAbandon within_signPczt) fun signed => ?_
  refine Fallible.within_bind (within_orAbandon (Fallible.within_call (within_ask rfl)))
    fun prepared => ?_
  split <;> trivial

theorem within_preparePayment (wallet : SpendWallet) (plan : SendPaymentPlan) :
    (preparePayment wallet plan).run.Within OffLedger := by
  unfold preparePayment
  split
  · exact within_prepareSendWithTargetExpiry wallet plan _
  · exact Fallible.within_bind within_unsealSeed fun _ => Fallible.within_call (within_ask rfl)

theorem within_submitPlan (wallet : SpendWallet) (operation : String) (accountId : AccountId)
    (key : IdempotencyKey) (prepared : List PreparedTransaction) :
    (submitPlan wallet operation accountId key prepared).run.Within (PastLookup key) := by
  refine Fallible.within_bind (Fallible.within_call (within_ask trivial)) fun visibleTip => ?_
  refine Fallible.within_bind ((within_submitAndRecordPending wallet _ prepared).mono
    pastLookup_of_offLedger) fun _ => ?_
  exact Fallible.within_bind (Fallible.within_call (within_ask rfl)) fun _ => trivial

theorem runs_check_bind {next : Unit → SpendM α}
    (run : Runs (check result >>= next).run trace outcome) :
    trace = [] ∨ Runs (next ()).run trace outcome := by
  cases result with
  | error error =>
    obtain ⟨rfl, -⟩ := runs_done_iff.mp run
    exact .inl rfl
  | ok value => exact .inr run

/-- A lookup followed by the prior outcome or by a payment. -/
def LookupFirst (key : IdempotencyKey) (trace : List SpendEvent) : Prop :=
  trace = [] ∨ ∃ answer rest, trace = ⟨.findIdempotentSubmission key, answer⟩ :: rest ∧
    (∀ event ∈ rest, PastLookup key event.command) ∧
    (answer ≠ .ok none → ∀ event ∈ rest, event.command = .findVisibleTip)

private theorem runs_lookup (payment : SpendM SendOutcome)
    (within : payment.run.Within (PastLookup key))
    (run : Runs (do
      match ← Fallible.call WalletError.ofStorage (ask (.findIdempotentSubmission key)) with
      | some priorTxId => priorOutcome priorTxId
      | none => payment : SpendM SendOutcome).run trace outcome) : LookupFirst key trace := by
  rcases Program.runs_await_iff.mp run with ⟨rfl, -⟩ | ⟨answer, rest, rfl, resumed⟩
  · exact .inl rfl
  refine .inr ⟨answer, rest, rfl, ?_⟩
  cases answer with
  | error error =>
    obtain ⟨rfl, -⟩ := runs_done_iff.mp resumed
    simp
  | ok found =>
    cases found with
    | some priorTxId =>
      have tips := Runs.within resumed (within_priorOutcome priorTxId)
      exact ⟨fun event member => by simp [PastLookup,tips event member], fun _ => tips⟩
    | none => exact ⟨Runs.within resumed within, fun missed => absurd rfl missed⟩

/-- Every call looks its key up before it does anything else, and goes on to build and
submit only when the ledger answered that the key is absent. -/
theorem Request.runs_program {request : Request}
    (run : Runs (request.program wallet) trace outcome) :
    LookupFirst request.idempotency trace := by
  cases request with
  | sendPayment plan =>
    rcases runs_check_bind run with rfl | run
    · exact .inl rfl
    rcases runs_check_bind run with rfl | run
    · exact .inl rfl
    rcases runs_check_bind run with rfl | run
    · exact .inl rfl
    rcases runs_check_bind run with rfl | run
    · exact .inl rfl
    refine runs_lookup (do
      submitPlan wallet "send_payment.submit" plan.accountId plan.idempotency
        (← preparePayment wallet plan)) ?_ run
    exact Fallible.within_bind ((within_preparePayment wallet plan).mono pastLookup_of_offLedger)
      fun prepared => within_submitPlan wallet _ _ _ prepared
  | shieldTransparentFunds plan =>
    rcases runs_check_bind run with rfl | run
    · exact .inl rfl
    rcases runs_check_bind run with rfl | run
    · exact .inl rfl
    refine runs_lookup (do
      let seed ← unsealSeed
      let prepared ← Fallible.call .ofStorage
        (ask (.shieldTransparentFunds (resolveShieldingRequest plan) seed))
      submitPlan wallet "shield_transparent_funds.submit" plan.accountId plan.idempotency
        prepared) ?_ run
    refine Fallible.within_bind (within_unsealSeed.mono pastLookup_of_offLedger) fun seed => ?_
    exact Fallible.within_bind (Fallible.within_call (within_ask trivial))
      fun prepared => within_submitPlan wallet _ _ _ prepared

end Zally.Spend
