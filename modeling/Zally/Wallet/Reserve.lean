import Zally.Async.Program
import Zally.Storage.Hold
import Zally.Wallet.Error

/-! Reserving part of the shielded balance for a later dispense. -/
namespace Zally

open Async Async.Program

/-- The columns of a spendable note that a reservation reads. -/
structure UnspentShieldedNoteRow where
  protocol : ShieldedPool
  valueZat : CheckedZatoshis
  txId : TxId
  outputIndex : UInt32
  deriving DecidableEq

inductive ReserveCommand where
  | findHoldByRequestId (requestId : CheckedIdempotencyKey)
  | findVisibleTip
  | listSpendableShieldedNotes (accountId : AccountId) (targetHeight : BlockHeight)
  | sumActiveDispenseReservedZat (accountId : AccountId)
  | newHoldId
  | currentUnixMs
  | createHold (record : HoldRecord)

@[reducible] def ReserveCommand.Answer : ReserveCommand → Type
  | findHoldByRequestId _ => Except StorageError (Option HoldRow)
  | findVisibleTip => Except StorageError (Option BlockHeight)
  | listSpendableShieldedNotes _ _ => Except StorageError (List UnspentShieldedNoteRow)
  | sumActiveDispenseReservedZat _ => Except StorageError CheckedZatoshis
  | newHoldId => HoldId
  | currentUnixMs => UInt64
  | createHold _ => Except StorageError Unit

abbrev ReserveEvent := Event ReserveCommand ReserveCommand.Answer
abbrev ReserveProgram := Program ReserveCommand ReserveCommand.Answer
abbrev ReserveM := Fallible ReserveCommand ReserveCommand.Answer WalletError

structure ReserveForDispensePlan where
  accountId : AccountId
  amountZat : Zatoshis
  requestId : CheckedIdempotencyKey
  idempotencyKey : CheckedIdempotencyKey

structure LockedNotesSummary where
  noteCount : Nat
  totalLockedZat : CheckedZatoshis
  deriving DecidableEq

structure Hold where
  network : Network
  holdId : HoldId
  requestId : CheckedIdempotencyKey
  idempotencyKey : CheckedIdempotencyKey
  amountZat : Zatoshis
  lockedNotesSummary : LockedNotesSummary
  availableAfterReleaseZat : CheckedZatoshis
  deriving DecidableEq

def sumUnspentNoteValue (notes : List UnspentShieldedNoteRow) : Nat :=
  notes.foldl (fun total note => saturatingAdd total note.valueZat.val.raw.toNat) 0

def summarizeLockedNotes (notes : List HeldNote) : LockedNotesSummary where
  noteCount := min notes.length (2 ^ 32 - 1)
  totalLockedZat := Zatoshis.tryFromOrZero
    (notes.foldl (fun total note => saturatingAdd total note.valueZat.val.raw.toNat) 0)

/-- The loop of `select_locked_notes` over the sorted notes. -/
def takeLockedNotes (amountZat : Zatoshis) (running : Nat) :
    List UnspentShieldedNoteRow → List HeldNote
  | [] => []
  | note :: notes =>
    if running ≥ amountZat.raw.toNat then []
    else ⟨note.protocol, note.valueZat, note.txId, note.outputIndex⟩ ::
      takeLockedNotes amountZat (saturatingAdd running note.valueZat.val.raw.toNat) notes

def selectLockedNotes (candidates : List UnspentShieldedNoteRow) (amountZat : Zatoshis) :
    List HeldNote :=
  takeLockedNotes amountZat 0
    (candidates.mergeSort fun first second => second.valueZat.val.raw ≤ first.valueZat.val.raw)

namespace Reserve

def ask (command : ReserveCommand) : ReserveProgram command.Answer := perform command

def storage (program : ReserveProgram (Except StorageError α)) : ReserveM α :=
  Fallible.call .ofStorage program

/-- The height a transaction built now would be mined at, above the storage's visible tip. -/
def nextBlockHeight (visibleTip : Option BlockHeight) : BlockHeight :=
  visibleTip.elim 0 fun tip => min (tip + 1) (2 ^ 32 - 1)

def spendableNotesForNextDispense (accountId : AccountId) :
    ReserveM (List UnspentShieldedNoteRow) := do
  let visibleTip ← storage (ask .findVisibleTip)
  storage (ask (.listSpendableShieldedNotes accountId (nextBlockHeight visibleTip)))

def spendableForNextDispense (accountId : AccountId) : ReserveM CheckedZatoshis := do
  let candidateNotes ← spendableNotesForNextDispense accountId
  let reserved ← storage (ask (.sumActiveDispenseReservedZat accountId))
  return Zatoshis.tryFromOrZero (sumUnspentNoteValue candidateNotes - reserved.val.raw.toNat)

def computeAvailableAfterRelease (accountId : AccountId) (existingAmountZat : CheckedZatoshis) :
    ReserveM CheckedZatoshis := do
  let current ← spendableForNextDispense accountId
  return Zatoshis.tryFromOrZero
    (saturatingAdd current.val.raw.toNat existingAmountZat.val.raw.toNat)

/-- The answer for a request whose hold is still active. -/
def existingHold (network : Network) (plan : ReserveForDispensePlan) (existing : HoldRow) :
    ReserveM Hold := do
  let availableAfterRelease ← computeAvailableAfterRelease plan.accountId existing.amountZat
  return {
    network
    holdId := existing.holdId
    requestId := existing.requestId
    idempotencyKey := existing.idempotencyKey
    amountZat := existing.amountZat.val
    lockedNotesSummary := summarizeLockedNotes existing.lockedNotes
    availableAfterReleaseZat := availableAfterRelease }

/-- The row of a new hold; its spendable amount is the value of the notes, holds included. -/
def holdRecord (plan : ReserveForDispensePlan) (candidateNotes : List UnspentShieldedNoteRow)
    (holdId : HoldId) (reservedAtMs : UInt64) : HoldRecord where
  holdId
  requestId := plan.requestId
  idempotencyKey := plan.idempotencyKey
  accountId := plan.accountId
  amountZat := plan.amountZat
  spendableForCheckZat := Zatoshis.tryFromOrZero (sumUnspentNoteValue candidateNotes)
  lockedNotes := selectLockedNotes candidateNotes plan.amountZat
  reservedAtMs

/-- Record a new hold that the account can afford. -/
def placeHold (network : Network) (plan : ReserveForDispensePlan)
    (candidateNotes : List UnspentShieldedNoteRow) (spendable : CheckedZatoshis) :
    ReserveM Hold := do
  let holdId ← ExceptT.lift (ask .newHoldId)
  let reservedAtMs ← ExceptT.lift (ask .currentUnixMs)
  storage (ask (.createHold (holdRecord plan candidateNotes holdId reservedAtMs)))
  return {
    network
    holdId
    requestId := plan.requestId
    idempotencyKey := plan.idempotencyKey
    amountZat := plan.amountZat
    lockedNotesSummary := summarizeLockedNotes (selectLockedNotes candidateNotes plan.amountZat)
    availableAfterReleaseZat := spendable }

def newHold (network : Network) (plan : ReserveForDispensePlan) : ReserveM Hold := do
  let candidateNotes ← spendableNotesForNextDispense plan.accountId
  let reserved ← storage (ask (.sumActiveDispenseReservedZat plan.accountId))
  let spendable := Zatoshis.tryFromOrZero
    (sumUnspentNoteValue candidateNotes - reserved.val.raw.toNat)
  if plan.amountZat.raw > spendable.val.raw then
    throw (.insufficientBalance plan.amountZat spendable.val)
  else placeHold network plan candidateNotes spendable

def reserveForDispense (network : Network) (plan : ReserveForDispensePlan) : ReserveM Hold :=
  if plan.amountZat.raw = 0 then
    throw (.proposalRejected "reservation amount must be greater than zero zatoshis")
  else do
    let found ← storage (ask (.findHoldByRequestId plan.requestId))
    match found.filter (·.isActive) with
    | some existing => existingHold network plan existing
    | none => newHold network plan

/-- The reads behind the spendable amount. -/
def ReadsSpendable : ReserveCommand → Prop
  | .findVisibleTip | .listSpendableShieldedNotes _ _ | .sumActiveDispenseReservedZat _ => True
  | .findHoldByRequestId _ | .newHoldId | .currentUnixMs | .createHold _ => False

theorem existingHold_within : (existingHold network plan existing).run.Within ReadsSpendable := by
  refine Fallible.within_bind (Fallible.within_bind (Fallible.within_bind
    (Fallible.within_bind ?_ fun _ => ?_) fun notes => ?_) fun _ => trivial) fun _ => trivial
  · exact Fallible.within_call ⟨trivial, fun _ => trivial⟩
  · exact Fallible.within_call ⟨trivial, fun _ => trivial⟩
  · exact Fallible.within_bind (Fallible.within_call ⟨trivial, fun _ => trivial⟩) fun _ => trivial

end Reserve
end Zally
