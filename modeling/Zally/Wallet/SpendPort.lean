import Zally.Wallet.Retry
import Zally.Storage.Idempotency
import Zally.Storage.PendingBroadcast

/-! The calls a spend makes to the storage, the sealed seed, the PCZT roles, the indexer
and the shared breaker, each with the type of its answer. -/
namespace Zally

open Async Async.Program

inductive PaymentRecipient where
  | unifiedAddress (encoded : String) (network : Network)
  | saplingAddress (encoded : String) (network : Network)
  | transparentAddress (encoded : String) (network : Network)
  | texAddress (encoded : String) (network : Network)
  deriving DecidableEq, Repr

namespace PaymentRecipient

def network : PaymentRecipient → Network
  | unifiedAddress _ network | saplingAddress _ network | transparentAddress _ network
  | texAddress _ network => network

def isTransparent : PaymentRecipient → Bool
  | transparentAddress _ _ | texAddress _ _ => true
  | unifiedAddress _ _ | saplingAddress _ _ => false

def encoded : PaymentRecipient → String
  | unifiedAddress encoded _ | saplingAddress encoded _ | transparentAddress encoded _
  | texAddress encoded _ => encoded

end PaymentRecipient

structure PreparedTransaction where
  txId : TxId
  rawBytes : RawTransaction
  transparentInputs : List (OutPoint × Zatoshis)
  txExpiryHeight : BlockHeight
  deriving DecidableEq, Repr

structure ProposalPaymentRequest where
  accountId : AccountId
  recipientEncoded : String
  amountZat : Zatoshis
  memo : Option (List UInt8)
  sourcePool : Option ShieldedPool
  deriving DecidableEq, Repr

structure ShieldTransparentRequest where
  accountId : AccountId
  shieldingThresholdZat : Zatoshis
  destinationPool : Option ShieldedPool
  deriving DecidableEq, Repr

structure PcztBytes where
  bytes : List UInt8
  network : Network
  deriving DecidableEq, Repr

structure ServerInfo where
  contractRevision : Nat
  capabilities : List Capability
  deriving DecidableEq, Repr

inductive SpendCommand where
  | findIdempotentSubmission (key : IdempotencyKey)
  | recordIdempotentSubmission (key : IdempotencyKey) (txId : TxId)
  | findVisibleTip
  | unsealSeed
  | preparePayment (request : ProposalPaymentRequest) (seed : SeedMaterial)
  | shieldTransparentFunds (request : ShieldTransparentRequest) (seed : SeedMaterial)
  | createPczt (request : ProposalPaymentRequest) (targetExpiryHeight : Option BlockHeight)
  | proveWithSeed (pczt : PcztBytes) (seed : SeedMaterial)
  | signWithSeed (pczt : PcztBytes) (seed : SeedMaterial)
  | extractAndStorePczt (pczt : List UInt8)
  | abandonPczt (pczt : List UInt8)
  | recordPendingBroadcastInputs (record : PendingBroadcastRecord)
  | clearPendingBroadcastInputsForMined (txIds : List TxId)
  | currentUnixMs
  | cachedCapabilities
  | serverInfo
  | cacheCapabilities (capabilities : List Capability)
  | broadcastTransaction (rawTx : RawTransaction)
  | sleep (ms : Nat)
  | allowCall
  | recordSuccess
  | recordFailure

@[reducible] def SpendCommand.Answer : SpendCommand → Type
  | findIdempotentSubmission _ => Except StorageError (Option TxId)
  | recordIdempotentSubmission _ _ => Except StorageError Unit
  | findVisibleTip => Except StorageError (Option BlockHeight)
  | unsealSeed => Except SealingError SeedMaterial
  | preparePayment _ _ => Except StorageError (List PreparedTransaction)
  | shieldTransparentFunds _ _ => Except StorageError (List PreparedTransaction)
  | createPczt _ _ => Except StorageError (List UInt8)
  | proveWithSeed _ _ => Except PcztError PcztBytes
  | signWithSeed _ _ => Except PcztError PcztBytes
  | extractAndStorePczt _ => Except StorageError PreparedTransaction
  | abandonPczt _ => Except StorageError Unit
  | recordPendingBroadcastInputs _ => Except StorageError Unit
  | clearPendingBroadcastInputsForMined _ => Except StorageError Nat
  | currentUnixMs => Nat
  | cachedCapabilities => Option (List Capability)
  | serverInfo => Except IndexerError ServerInfo
  | cacheCapabilities _ => Unit
  | broadcastTransaction _ => BroadcastReply
  | sleep _ => Unit
  | allowCall => Bool
  | recordSuccess => Unit
  | recordFailure => Unit

/-- The call reads or writes the idempotency ledger. -/
def SpendCommand.touchesLedger : SpendCommand → Bool
  | findIdempotentSubmission _ | recordIdempotentSubmission _ _ => true
  | _ => false

/-- The call builds a payment or hands one to the node. -/
def SpendCommand.spends : SpendCommand → Bool
  | preparePayment _ _ | shieldTransparentFunds _ _ | createPczt _ _ | proveWithSeed _ _
  | signWithSeed _ _ | extractAndStorePczt _ | broadcastTransaction _ => true
  | _ => false

abbrev SpendEvent := Event SpendCommand SpendCommand.Answer
abbrev SpendProgram := Program SpendCommand SpendCommand.Answer
abbrev SpendM := Fallible SpendCommand SpendCommand.Answer WalletError

/-- Code outside the repository that the spend flow calls without awaiting it. -/
structure SpendUpstream where
  parseTransactionId : RawTransaction → Except TransactionParseError TxId
  capabilityName : Capability → String
  minSupportedContractRevision : Nat
  memoToWireBytes : Memo → List UInt8

/-- The wallet's settings that a spend reads. -/
structure SpendWallet where
  upstream : SpendUpstream
  network : Network
  submitterNetwork : Network
  retryPolicy : RetryPolicy

def SpendWallet.broadcastRetryPolicy (wallet : SpendWallet) : RetryPolicy :=
  { wallet.retryPolicy with initialBackoffMs := 0, maxBackoffMs := 0 }

namespace Spend

def ask (command : SpendCommand) : SpendProgram command.Answer := perform command

def port : RetryPort SpendCommand SpendCommand.Answer where
  sleep ms := ask (.sleep ms)
  allowCall := ask .allowCall
  recordSuccess := ask .recordSuccess
  recordFailure := ask .recordFailure

abbrev OffLedger (command : SpendCommand) : Prop := command.touchesLedger = false

/-- The calls that only the submitter's connection, the timer and the breaker see. -/
def Quiet : SpendCommand → Prop
  | .cachedCapabilities | .serverInfo | .cacheCapabilities _ | .sleep _ | .recordSuccess
  | .recordFailure => True
  | _ => False

/-- The calls of a submission: those, the node's, and the pending rows'. -/
def BroadcastCall : SpendCommand → Prop
  | .recordPendingBroadcastInputs _ | .clearPendingBroadcastInputsForMined _ | .currentUnixMs
  | .broadcastTransaction _ | .allowCall => True
  | command => Quiet command

theorem broadcastCall_of_quiet (quiet : Quiet command) : BroadcastCall command := by
  cases command <;> first | exact trivial | exact quiet

theorem offLedger_of_broadcastCall (call : BroadcastCall command) : OffLedger command := by
  cases command <;> first | rfl | exact call.elim

theorem port_within : port.Within BroadcastCall :=
  ⟨fun _ => ⟨trivial, fun _ => trivial⟩, ⟨trivial, fun _ => trivial⟩, ⟨trivial, fun _ => trivial⟩,
    ⟨trivial, fun _ => trivial⟩⟩

theorem within_ask {commands : SpendCommand → Prop} (member : commands command) :
    (ask command).Within commands := ⟨member, fun _ => trivial⟩

end Spend
end Zally
