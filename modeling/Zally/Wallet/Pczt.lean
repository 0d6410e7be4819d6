import Zally.Wallet.SpendPort

/-! PCZT roles bound to a wallet. -/
namespace Zally.Spend

open Async Async.Program

structure ProposalPlan where
  accountId : AccountId
  recipient : PaymentRecipient
  amountZat : Zatoshis
  memo : Option Memo
  sourcePool : Option ShieldedPool
  deriving DecidableEq, Repr

def check (result : Except WalletError α) : SpendM α := ExceptT.mk (done result)

def unsealSeed : SpendM SeedMaterial := Fallible.call .sealing (ask .unsealSeed)

def storageProposalRequest (wallet : SpendWallet) (plan : ProposalPlan) :
    ProposalPaymentRequest where
  accountId := plan.accountId
  recipientEncoded := plan.recipient.encoded
  amountZat := plan.amountZat
  memo := plan.memo.map wallet.upstream.memoToWireBytes
  sourcePool := plan.sourcePool

def validateProposalPlan (plan : ProposalPlan) (walletNetwork : Network) :
    Except WalletError Unit :=
  if plan.recipient.network ≠ walletNetwork then
    .error (.networkMismatch walletNetwork plan.recipient.network)
  else if plan.memo.any (· ≠ .empty) && plan.recipient.isTransparent then
    .error .memoOnTransparentRecipient
  else if plan.amountZat.raw = 0 then .error (.proposalRejected "amount must be positive")
  else .ok ()

def validatePcztNetwork (pcztNetwork walletNetwork : Network) : Except WalletError Unit :=
  if pcztNetwork = walletNetwork then .ok ()
  else .error (.networkMismatch walletNetwork pcztNetwork)

def proposePczt (wallet : SpendWallet) (plan : ProposalPlan)
    (targetExpiryHeight : Option BlockHeight) : SpendM PcztBytes := do
  check (validateProposalPlan plan wallet.network)
  let raw ← Fallible.call .ofStorage
    (ask (.createPczt (storageProposalRequest wallet plan) targetExpiryHeight))
  return ⟨raw, wallet.network⟩

def signPczt (wallet : SpendWallet) (pczt : PcztBytes) : SpendM PcztBytes := do
  check (validatePcztNetwork pczt.network wallet.network)
  let seed ← unsealSeed
  Fallible.call .pczt (ask (.signWithSeed pczt seed))

def provePczt (wallet : SpendWallet) (pczt : PcztBytes) : SpendM PcztBytes := do
  check (validatePcztNetwork pczt.network wallet.network)
  let seed ← unsealSeed
  Fallible.call .pczt (ask (.proveWithSeed pczt seed))

def abandonPczt (wallet : SpendWallet) (pczt : PcztBytes) : SpendM Unit := do
  check (validatePcztNetwork pczt.network wallet.network)
  Fallible.call .ofStorage (ask (.abandonPczt pczt.bytes))

/-- A cleanup that fails hides the role's error. -/
def abandonPcztAfterError (wallet : SpendWallet) (pczt : PcztBytes) (roleError : WalletError) :
    SpendProgram WalletError := do
  match ← (abandonPczt wallet pczt).run with
  | .ok () => return roleError
  | .error cleanupError => return cleanupError

/-- A role whose failure releases the locks of the PCZT it was given. -/
def orAbandon (wallet : SpendWallet) (pczt : PcztBytes) (role : SpendM α) : SpendM α := do
  match ← ExceptT.lift role.run with
  | .ok value => return value
  | .error error => throw (← abandonPcztAfterError wallet pczt error)

/-! The roles leave the idempotency ledger alone. -/

theorem within_check {commands : SpendCommand → Prop} : (check result).run.Within commands :=
  trivial

theorem within_unsealSeed : unsealSeed.run.Within OffLedger :=
  Fallible.within_call (within_ask rfl)

theorem within_proposePczt : (proposePczt wallet plan target).run.Within OffLedger :=
  Fallible.within_bind within_check fun _ =>
    Fallible.within_bind (Fallible.within_call (within_ask rfl)) fun _ => trivial

theorem within_signPczt : (signPczt wallet pczt).run.Within OffLedger :=
  Fallible.within_bind within_check fun _ =>
    Fallible.within_bind within_unsealSeed fun _ => Fallible.within_call (within_ask rfl)

theorem within_provePczt : (provePczt wallet pczt).run.Within OffLedger :=
  Fallible.within_bind within_check fun _ =>
    Fallible.within_bind within_unsealSeed fun _ => Fallible.within_call (within_ask rfl)

theorem within_abandonPcztAfterError :
    (abandonPcztAfterError wallet pczt roleError).Within OffLedger := by
  refine Within.bind (Fallible.within_bind within_check fun _ =>
    Fallible.within_call (within_ask rfl)) fun result => ?_
  cases result <;> trivial

theorem within_orAbandon {role : SpendM α} (within : role.run.Within OffLedger) :
    (orAbandon wallet pczt role).run.Within OffLedger := by
  refine Fallible.within_bind (Fallible.within_lift within) fun result => ?_
  cases result with
  | ok value => trivial
  | error error =>
    exact Fallible.within_bind (Fallible.within_lift within_abandonPcztAfterError)
      fun _ => trivial

end Zally.Spend
