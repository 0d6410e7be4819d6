import Zally.HashHex
import Zally.Storage.TransparentUtxos
import Zally.Wallet.SyncPort

/-! Refreshing the outputs of every transparent receiver under one pinned epoch. -/
namespace Zally

open Async Async.Program

structure TransparentUtxo where
  txId : TxId
  outputIndex : UInt32
  valueZat : CheckedZatoshis
  confirmedAtHeight : BlockHeight
  scriptPubKeyBytes : List UInt8
  deriving DecidableEq

def TransparentUtxo.outPoint (utxo : TransparentUtxo) : OutPoint := ⟨utxo.txId, utxo.outputIndex⟩

/-- The row that records an output. -/
def TransparentUtxo.row (utxo : TransparentUtxo) : TransparentUtxoRow where
  txId := utxo.txId
  outputIndex := utxo.outputIndex
  valueZat := utxo.valueZat
  minedHeight := utxo.confirmedAtHeight
  scriptPubKeyBytes := utxo.scriptPubKeyBytes

inductive RefreshCommand where
  | currentEpoch
  | fullyScannedHeight
  | listTransparentReceivers
  | transparentUtxos (epoch : ChainEpoch) (scriptPubKeyBytes : List UInt8)
  | recordTransparentUtxos (minScannedHeight : Option BlockHeight) (utxos : List TransparentUtxoRow)
  | currentUnixMs
  | sleep (ms : Nat)
  | allowCall
  | recordSuccess
  | recordFailure

@[reducible] def RefreshCommand.Answer : RefreshCommand → Type
  | currentEpoch => Except ChainSourceError ChainEpoch
  | fullyScannedHeight => Except StorageError (Option BlockHeight)
  | listTransparentReceivers => Except StorageError (List TransparentReceiverRow)
  | transparentUtxos _ _ => Except ChainSourceError (List TransparentUtxo)
  | recordTransparentUtxos _ _ => Except StorageError Nat
  | currentUnixMs => Nat
  | sleep _ => Unit
  | allowCall => Bool
  | recordSuccess => Unit
  | recordFailure => Unit

abbrev RefreshEvent := Event RefreshCommand RefreshCommand.Answer
abbrev RefreshProgram := Program RefreshCommand RefreshCommand.Answer
abbrev RefreshM := Fallible RefreshCommand RefreshCommand.Answer WalletError

/-- The libraries that write the texts of a refresh: hex digits, and the form of an identifier. -/
structure RefreshTexts where
  hex : Wire.Hex.Codec
  uuid : BitVec 128 → String

/-- The wallet's settings that a refresh reads. -/
structure RefreshWallet where
  network : Network
  chainNetwork : Network
  retryPolicy : RetryPolicy
  texts : RefreshTexts

structure TransparentUtxoRefreshOutcome where
  receiversVisited : Nat
  utxoCount : Nat
  completedAtMs : Nat
  deriving DecidableEq, Repr

/-- The identifier under the name of its type. -/
def AccountId.debug (uuidText : BitVec 128 → String) (accountId : AccountId) : String :=
  "AccountId(" ++ uuidText accountId.uuid ++ ")"

namespace Refresh

def ask (command : RefreshCommand) : RefreshProgram command.Answer := perform command

def storage {α : Type} (program : RefreshProgram (Except StorageError α)) : RefreshM α :=
  Fallible.call .ofStorage program

def port : RetryPort RefreshCommand RefreshCommand.Answer where
  sleep ms := ask (.sleep ms)
  allowCall := ask .allowCall
  recordSuccess := ask .recordSuccess
  recordFailure := ask .recordFailure

def pinChainEpoch (wallet : RefreshWallet) : RefreshM ChainEpoch := do
  if wallet.chainNetwork ≠ wallet.network then
    throw (.networkMismatch wallet.network wallet.chainNetwork)
  else Fallible.call .chainSource (ask .currentEpoch)

def malformed (reason : String) : Except WalletError α :=
  .error (.chainSource (.malformedTransparentUtxoSet reason))

section Walk

variable (texts : RefreshTexts)

def validateTransparentUtxo (epoch : ChainEpoch) (receiver : TransparentReceiverRow)
    (seen : List OutPoint) (utxo : TransparentUtxo) : Except WalletError TransparentUtxoRow :=
  let outPoint := s!"outpoint {utxo.txId.rpcHex texts.hex}:{utxo.outputIndex}"
  if utxo.confirmedAtHeight > epoch.visibleTip then
    malformed s!"{outPoint} is confirmed at {utxo.confirmedAtHeight} above pinned visible tip {epoch.visibleTip}"
  else if utxo.outPoint ∈ seen then malformed s!"{outPoint} appears more than once"
  else if utxo.scriptPubKeyBytes ≠ receiver.scriptPubKeyBytes then
    malformed (outPoint ++ " script did not match wallet receiver for account " ++
      receiver.accountId.debug texts.uuid)
  else .ok utxo.row

/-- The rows of a receiver's outputs, and every outpoint seen so far in the walk. -/
def validateTransparentUtxoBatch (epoch : ChainEpoch) (receiver : TransparentReceiverRow) :
    List TransparentUtxo → List OutPoint → Except WalletError (List TransparentUtxoRow × List OutPoint)
  | [], seen => .ok ([], seen)
  | utxo :: utxos, seen => do
    let row ← validateTransparentUtxo texts epoch receiver seen utxo
    let (rows, seen) ← validateTransparentUtxoBatch epoch receiver utxos (utxo.outPoint :: seen)
    return (row :: rows, seen)

/-- The walk: each receiver's outputs are recorded before the next receiver is read. -/
def refreshReceivers (epoch : ChainEpoch) (minScannedHeight : Option BlockHeight) :
    List TransparentReceiverRow → List OutPoint → Nat → RefreshM Nat
  | [], _, utxoCount => pure utxoCount
  | receiver :: receivers, seen, utxoCount => do
    let utxos ← Fallible.call .chainSource
      (ask (.transparentUtxos epoch receiver.scriptPubKeyBytes))
    match validateTransparentUtxoBatch texts epoch receiver utxos seen with
    | .error error => throw error
    | .ok (rows, seen) =>
      let recorded ← storage (ask (.recordTransparentUtxos minScannedHeight rows))
      refreshReceivers epoch minScannedHeight receivers seen (saturatingAddU64 utxoCount recorded)

end Walk

def refreshTransparentUtxosInner (wallet : RefreshWallet) :
    RefreshM TransparentUtxoRefreshOutcome := do
  let epoch ← pinChainEpoch wallet
  let minScannedHeight ← storage (ask .fullyScannedHeight)
  let receivers ← storage (ask .listTransparentReceivers)
  let _startedAtMs ← ask .currentUnixMs
  let utxoCount ← refreshReceivers wallet.texts epoch minScannedHeight receivers [] 0
  let completedAtMs ← ask .currentUnixMs
  return ⟨min receivers.length u64Max, utxoCount, completedAtMs⟩

def refreshTransparentUtxos (wallet : RefreshWallet) : RefreshM TransparentUtxoRefreshOutcome :=
  withBreakerAndRetry port wallet.retryPolicy "sync.transparent_utxo_refresh" WalletError.posture
    (refreshTransparentUtxosInner wallet).run id

/-- What a walk has pinned and read, and the outputs it fetched last. -/
structure Walk where
  pinned : Option ChainEpoch
  frontier : Option BlockHeight
  fetched : List TransparentUtxo

def Walk.after (walk : Walk) : RefreshEvent → Walk
  | ⟨.currentEpoch, .ok epoch⟩ => ⟨some epoch, none, []⟩
  | ⟨.fullyScannedHeight, .ok frontier⟩ => { walk with frontier }
  | ⟨.transparentUtxos _ _, .ok fetched⟩ => { walk with fetched }
  | _ => walk

/-- The walk of a call after its events so far. -/
def Walk.ofEvents (events : List RefreshEvent) : Walk := events.foldl Walk.after ⟨none, none, []⟩

/-- Outputs are fetched under the pinned epoch, and what is recorded is what was fetched last,
behind the frontier that was read after the pin. -/
def Walk.Allows (walk : Walk) : RefreshCommand → Prop
  | .transparentUtxos epoch _ => walk.pinned = some epoch
  | .recordTransparentUtxos minScannedHeight utxos =>
    minScannedHeight = walk.frontier ∧ utxos = walk.fetched.map TransparentUtxo.row
  | _ => True

theorem validateTransparentUtxo_ok
    (valid : validateTransparentUtxo texts epoch receiver seen utxo = .ok row) :
    row = utxo.row := by
  unfold validateTransparentUtxo at valid
  split at valid
  · cases valid
  split at valid
  · cases valid
  split at valid
  · cases valid
  · cases valid
    rfl

theorem validateTransparentUtxoBatch_rows
    (valid : validateTransparentUtxoBatch texts epoch receiver utxos seen = .ok (rows, after)) :
    rows = utxos.map TransparentUtxo.row := by
  induction utxos generalizing seen rows after with
  | nil =>
    cases valid
    rfl
  | cons utxo utxos ih =>
    rw [validateTransparentUtxoBatch] at valid
    cases first : validateTransparentUtxo texts epoch receiver seen utxo with
    | error error =>
      rw [first] at valid
      cases valid
    | ok row =>
      cases rest :
        validateTransparentUtxoBatch texts epoch receiver utxos (utxo.outPoint :: seen) with
      | error error =>
        rw [first,rest] at valid
        cases valid
      | ok batch =>
        rw [first,rest] at valid
        cases valid
        rw [List.map_cons,validateTransparentUtxo_ok first,ih rest]

theorem follows_refreshReceivers {walk : Walk} (pinned : walk.pinned = some epoch)
    (read : minScannedHeight = walk.frontier) :
    (refreshReceivers texts epoch minScannedHeight receivers seen utxoCount).run.Follows Walk.Allows
      Walk.after (fun _ _ => True) walk := by
  induction receivers generalizing walk seen utxoCount with
  | nil => trivial
  | cons receiver receivers ih =>
    simp only [refreshReceivers,Fallible.run_call_bind,ask,perform_bind]
    refine ⟨pinned, fun answer => ?_⟩
    cases answer with
    | error error => trivial
    | ok utxos =>
      cases valid : validateTransparentUtxoBatch texts epoch receiver utxos seen with
      | error error =>
        simp only [valid]
        trivial
      | ok batch =>
        simp only [valid,storage,Fallible.run_call_bind,perform_bind]
        refine ⟨⟨read, validateTransparentUtxoBatch_rows valid⟩, fun recorded => ?_⟩
        cases recorded with
        | error error => trivial
        | ok recorded => exact ih pinned read

/-- A walk follows its discipline whatever was pinned before it. -/
theorem follows_refreshTransparentUtxosInner (wallet : RefreshWallet) (walk : Walk) :
    (refreshTransparentUtxosInner wallet).run.Follows Walk.Allows Walk.after (fun _ _ => True)
      walk := by
  unfold refreshTransparentUtxosInner pinChainEpoch
  split
  · trivial
  simp only [storage,Fallible.run_call_bind,ask,perform_bind]
  refine ⟨trivial, fun pinned => ?_⟩
  cases pinned with
  | error error => trivial
  | ok epoch =>
    refine ⟨trivial, fun frontier => ?_⟩
    cases frontier with
    | error error => trivial
    | ok frontier =>
      refine ⟨trivial, fun listed => ?_⟩
      cases listed with
      | error error => trivial
      | ok receivers =>
        refine ⟨trivial, fun startedAtMs => ?_⟩
        have walked :
          (refreshReceivers wallet.texts epoch frontier receivers [] 0).run.Follows Walk.Allows
            Walk.after (fun _ _ => True) ⟨some epoch, frontier, []⟩ := follows_refreshReceivers rfl rfl
        refine walked.bind fun walk result _ => ?_
        cases result with
        | error error => trivial
        | ok utxoCount => exact ⟨trivial, fun completedAtMs => trivial⟩

/-- The calls of the retries around a walk. -/
def Idle : RefreshCommand → Prop
  | .sleep _ | .allowCall | .recordSuccess | .recordFailure => True
  | _ => False

theorem follows_refreshTransparentUtxos (wallet : RefreshWallet) (walk : Walk) :
    (refreshTransparentUtxos wallet).run.Follows Walk.Allows Walk.after (fun _ _ => True) walk := by
  have waits : port.Within Idle := ⟨fun _ => ⟨trivial, fun _ => trivial⟩,
    ⟨trivial, fun _ => trivial⟩, ⟨trivial, fun _ => trivial⟩, ⟨trivial, fun _ => trivial⟩⟩
  refine follows_withBreakerAndRetry waits (fun walk command idle => ?_)
    (follows_refreshTransparentUtxosInner wallet)
  cases command <;> trivial

end Refresh
end Zally
