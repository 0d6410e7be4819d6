import Zally.Chain.Error

/-! The broadcast plane: what a node answers to a broadcast, and what the Zinder
submitter reports for it. -/
namespace Zally

abbrev RawTransaction := List UInt8

inductive RejectionReason where
  | unknown
  | invalidEncoding
  | invalidSignature
  | badExpiryHeight
  | badConsensusBranch
  | mempoolFull
  deriving DecidableEq, Repr

inductive SubmitOutcome where
  | accepted (txId : TxId)
  | duplicate (txId : TxId)
  | queued (txId : TxId)
  | rejected (reason : RejectionReason) (detail : String)
  deriving DecidableEq, Repr

/-- Rejection kinds of the indexer; `other` stands for the kinds without a translation. -/
inductive BroadcastRejectionReason where
  | invalidSignature
  | badExpiryHeight
  | badConsensusBranch
  | mempoolFull
  | other
  deriving DecidableEq, Repr

def RejectionReason.ofBroadcast : BroadcastRejectionReason → RejectionReason
  | .invalidSignature => .invalidSignature
  | .badExpiryHeight => .badExpiryHeight
  | .badConsensusBranch => .badConsensusBranch
  | .mempoolFull => .mempoolFull
  | .other => .unknown

/-- Answers of the indexer to a broadcast; `unsupported` stands for any later variant. -/
inductive TransactionBroadcastOutcome where
  | accepted (transactionId : TxId)
  | duplicate (message : String)
  | queued (message : String)
  | invalidEncoding (message : String)
  | rejected (kind : BroadcastRejectionReason) (message : String)
  | unknown (message : String)
  | unsupported
  deriving DecidableEq, Repr

/-- The node says that it did not take the transaction. -/
def TransactionBroadcastOutcome.definiteRejection : TransactionBroadcastOutcome → Bool
  | invalidEncoding _ | rejected _ _ => true
  | accepted _ | duplicate _ | queued _ | unknown _ | unsupported => false

/-- The node says that it holds the transaction. -/
def TransactionBroadcastOutcome.admits : TransactionBroadcastOutcome → Bool
  | accepted _ | duplicate _ | queued _ => true
  | invalidEncoding _ | rejected _ _ | unknown _ | unsupported => false

/-- An answered broadcast. `taken` is not visible to the wallet: whether the node holds
the transaction afterwards. A failed call leaves both possible. -/
structure BroadcastReply where
  answer : Except IndexerError TransactionBroadcastOutcome
  taken : Bool
  admitted : ∀ outcome, answer = .ok outcome → outcome.admits = true → taken = true
  refused : ∀ outcome, answer = .ok outcome → outcome.definiteRejection = true → taken = false

namespace BroadcastReply

def definiteRejection (reply : BroadcastReply) : Bool :=
  match reply.answer with
  | .ok outcome => outcome.definiteRejection
  | .error _ => false

theorem not_taken_of_definiteRejection {reply : BroadcastReply}
    (rejected : reply.definiteRejection = true) : reply.taken = false := by
  cases h : reply.answer with
  | ok outcome => exact reply.refused outcome h (by simpa [definiteRejection,h] using rejected)
  | error error => simp [definiteRejection,h] at rejected

/-- A call that failed before or after the node took the transaction. -/
def failed (error : IndexerError) (taken : Bool) : BroadcastReply where
  answer := .error error
  taken := taken
  admitted := by simp
  refused := by simp

def accepted (transactionId : TxId) : BroadcastReply where
  answer := .ok (.accepted transactionId)
  taken := true
  admitted := by simp
  refused := by simp [TransactionBroadcastOutcome.definiteRejection]

end BroadcastReply

inductive TransactionParseError where
  | read (reason : String)
  deriving DecidableEq, Repr

def translateBroadcastOutcome (outcome : TransactionBroadcastOutcome)
    (submittedTxId : Except TransactionParseError TxId) : Except SubmitterError SubmitOutcome :=
  match outcome with
  | .accepted acceptedTxId =>
    match submittedTxId with
    | .error _ => .error (.unsupportedResponse
        "accepted broadcast named a transaction for malformed submitted bytes")
    | .ok txId =>
      if acceptedTxId ≠ txId then
        .error (.unsupportedResponse
          "accepted broadcast transaction id did not match submitted bytes")
      else .ok (.accepted txId)
  | .duplicate _ =>
    match submittedTxId with
    | .error _ => .error (.unsupportedResponse
        "duplicate broadcast omitted the transaction id for malformed submitted bytes")
    | .ok txId => .ok (.duplicate txId)
  | .queued _ =>
    match submittedTxId with
    | .error _ => .error (.unsupportedResponse
        "queued broadcast omitted the transaction id for malformed submitted bytes")
    | .ok txId => .ok (.queued txId)
  | .invalidEncoding message => .ok (.rejected .invalidEncoding message)
  | .rejected kind message => .ok (.rejected (.ofBroadcast kind) message)
  | .unknown message => .ok (.rejected .unknown ("unknown outcome: " ++ message))
  | .unsupported => .error (.unsupportedResponse "TransactionBroadcastOutcome")

inductive Capability where
  | serverInfo
  | broadcast
  | other (name : String)
  deriving DecidableEq, Repr

end Zally
