import Mathlib.Logic.Function.Basic
import Zally.Storage.Error

/-! Transparent outputs in the wallet database, and the write of a batch behind a floor on the
scanned frontier. -/
namespace Zally

open Outcome

structure TransparentReceiverRow where
  accountId : AccountId
  scriptPubKeyBytes : List UInt8
  deriving DecidableEq

structure TransparentUtxoRow where
  txId : TxId
  outputIndex : UInt32
  valueZat : CheckedZatoshis
  minedHeight : BlockHeight
  scriptPubKeyBytes : List UInt8
  deriving DecidableEq

def TransparentUtxoRow.outPoint (row : TransparentUtxoRow) : OutPoint := ⟨row.txId, row.outputIndex⟩

/-- What the write reads and changes: the scanned height of the wallet summary, and the
recorded output of each outpoint. -/
structure UtxoStore where
  fullyScannedHeight : Option BlockHeight
  recorded : OutPoint → Option TransparentUtxoRow

/-- What the wallet library does for the write: it knows the scripts that pay to an address, and
puts one output. -/
structure UtxoLibrary where
  recognized : List UInt8 → Bool
  putReceivedTransparentUtxo : (OutPoint → Option TransparentUtxoRow) → TransparentUtxoRow →
    OutPoint → Option TransparentUtxoRow

def TransparentUtxoRow.atHeight (row : TransparentUtxoRow) (minedHeight : BlockHeight) :
    TransparentUtxoRow := { row with minedHeight }

/-- What the library documents of putting an output: it is there afterwards as it was given, and the
others stay, but those of its transaction take its mined height where the library keeps that with
the transaction. -/
structure UtxoLibrary.Upserts (library : UtxoLibrary) : Prop where
  self : ∀ recorded row, library.putReceivedTransparentUtxo recorded row row.outPoint = some row
  other : ∀ recorded row outPoint, outPoint ≠ row.outPoint →
    library.putReceivedTransparentUtxo recorded row outPoint = recorded outPoint ∨
      outPoint.txId = row.txId ∧ library.putReceivedTransparentUtxo recorded row outPoint =
        (recorded outPoint).map (·.atHeight row.minedHeight)

inductive RecordStep where
  | request
  | summary
  | transaction
  | put (outPoint : OutPoint)
  | commit
  deriving DecidableEq

/-- The output of a row whose script pays to an address. -/
def transparentUtxoRowToOutput (library : UtxoLibrary) (row : TransparentUtxoRow) :
    Except StorageError TransparentUtxoRow :=
  if library.recognized row.scriptPubKeyBytes then .ok row
  else .error (.transparentOutputNotRecognized row.txId row.outputIndex)

/-- The guard of the write; it holds nothing when the caller knew no frontier. -/
def checkScanFrontier (fault : StepFault RecordStep) (minScannedHeight : Option BlockHeight)
    (fullyScannedHeight : Option BlockHeight) : Except StorageError Unit :=
  match minScannedHeight with
  | none => .ok ()
  | some minScannedHeight => do
    failsAt fault .summary
    if fullyScannedHeight.all (· < minScannedHeight) then
      .error (.scanFrontierReceded minScannedHeight fullyScannedHeight)
    else .ok ()

/-- The loop of the transaction, with the number of rows put so far. -/
def putTransparentUtxos (library : UtxoLibrary) (fault : StepFault RecordStep) :
    Nat → List TransparentUtxoRow → (OutPoint → Option TransparentUtxoRow) →
      Except StorageError (Nat × (OutPoint → Option TransparentUtxoRow))
  | recordedCount, [], recorded => .ok (recordedCount, recorded)
  | recordedCount, row :: rows, recorded => do
    let output ← transparentUtxoRowToOutput library row
    failsAt fault (.put output.outPoint)
    putTransparentUtxos library fault (saturatingAdd recordedCount 1) rows
      (library.putReceivedTransparentUtxo recorded output)

/-- The guard and the transaction; an error rolls the transaction back. -/
def guardedPut (library : UtxoLibrary) (fault : StepFault RecordStep)
    (minScannedHeight : Option BlockHeight) (utxos : List TransparentUtxoRow) (store : UtxoStore) :
    Except StorageError (Nat × (OutPoint → Option TransparentUtxoRow)) := do
  failsAt fault .request
  checkScanFrontier fault minScannedHeight store.fullyScannedHeight
  failsAt fault .transaction
  let written ← putTransparentUtxos library fault 0 utxos store.recorded
  failsAt fault .commit
  pure written

/-- One request of the storage actor. -/
def recordTransparentUtxos (library : UtxoLibrary) (fault : StepFault RecordStep)
    (minScannedHeight : Option BlockHeight) (utxos : List TransparentUtxoRow) (store : UtxoStore) :
    Except StorageError Nat × UtxoStore :=
  match guardedPut library fault minScannedHeight utxos store with
  | .error error => (.error error, store)
  | .ok (recordedCount, recorded) => (.ok recordedCount, { store with recorded })

/-- The scanned frontier is gone, or below a floor that the caller knew. -/
def Receded (minScannedHeight fullyScannedHeight : Option BlockHeight) : Prop :=
  ∃ floor, minScannedHeight = some floor ∧ ∀ height, fullyScannedHeight = some height → height < floor

/-- The steps of a write whose guard passes. -/
def RecordStep.Taken (minScannedHeight : Option BlockHeight) (utxos : List TransparentUtxoRow) :
    RecordStep → Prop
  | request | transaction | commit => True
  | summary => minScannedHeight ≠ none
  | put outPoint => ∃ row ∈ utxos, row.outPoint = outPoint

/-- The write fails for another reason than its guard: an output that no address owns, or a
step of the database. -/
def Hindered (library : UtxoLibrary) (fault : StepFault RecordStep)
    (minScannedHeight : Option BlockHeight) (utxos : List TransparentUtxoRow) : Prop :=
  (∃ row ∈ utxos, library.recognized row.scriptPubKeyBytes = false) ∨
    ∃ step error, fault = some (step, error) ∧ step.Taken minScannedHeight utxos

theorem failsAt_ok_iff {σ : Type} [DecidableEq σ] {fault : StepFault σ} {step : σ} :
    failsAt fault step = .ok () ↔ ∀ error, fault ≠ some (step, error) := by
  rcases fault with _ | ⟨failing, error⟩
  · exact iff_of_true rfl fun error => by simp
  · by_cases same : failing = step <;> simp [failsAt,same]

theorem not_hindered_iff : ¬Hindered library fault floor rows ↔
    (∀ row ∈ rows, library.recognized row.scriptPubKeyBytes = true) ∧
      ∀ step : RecordStep, step.Taken floor rows → failsAt fault step = .ok () := by
  simp only [Hindered,failsAt_ok_iff,not_or]
  refine and_congr (by simp) ?_
  constructor
  · exact fun free step taken error failed => free ⟨step, error, failed, taken⟩
  · rintro free ⟨step, error, failed, taken⟩
    exact free step taken error failed

theorem checkScanFrontier_ok_iff {scanned : Option BlockHeight} :
    checkScanFrontier fault floor scanned = .ok () ↔
      (floor ≠ none → failsAt fault .summary = .ok ()) ∧ ¬Receded floor scanned := by
  cases floor with
  | none => simp [checkScanFrontier,Receded]
  | some floor =>
    have receded : Receded (some floor) scanned ↔ scanned.all (· < floor) = true := by
      cases scanned <;> simp [Receded]
    rw [receded,checkScanFrontier,check_bind_ok_iff]
    by_cases below : scanned.all (· < floor) = true <;> simp [below]

theorem putTransparentUtxos_ok_iff {recorded : OutPoint → Option TransparentUtxoRow} :
    (∃ written, putTransparentUtxos library fault count rows recorded = .ok written) ↔
      ∀ row ∈ rows, library.recognized row.scriptPubKeyBytes = true ∧
        failsAt fault (.put row.outPoint) = .ok () := by
  induction rows generalizing count recorded with
  | nil => simp [putTransparentUtxos]
  | cons row rows ih =>
    rw [List.forall_mem_cons]
    by_cases known : library.recognized row.scriptPubKeyBytes = true
    · have put : ∀ written, putTransparentUtxos library fault count (row :: rows) recorded =
          .ok written ↔ failsAt fault (.put row.outPoint) = .ok () ∧
            putTransparentUtxos library fault (saturatingAdd count 1) rows
              (library.putReceivedTransparentUtxo recorded row) = .ok written := by
        intro written
        rw [← check_bind_ok_iff,putTransparentUtxos,transparentUtxoRowToOutput,if_pos known]
        rfl
      simp only [put,exists_and_left,ih,known,true_and]
    · refine iff_of_false ?_ fun all => known all.1.1
      rintro ⟨written, put⟩
      rw [putTransparentUtxos,transparentUtxoRowToOutput,if_neg known] at put
      cases put

theorem guardedPut_ok_iff :
    (∃ written, guardedPut library fault floor rows store = .ok written) ↔
      ¬Hindered library fault floor rows ∧ ¬Receded floor store.fullyScannedHeight := by
  have steps : ∀ written, guardedPut library fault floor rows store = .ok written ↔
      failsAt fault .request = .ok () ∧
        checkScanFrontier fault floor store.fullyScannedHeight = .ok () ∧
        failsAt fault .transaction = .ok () ∧
        putTransparentUtxos library fault 0 rows store.recorded = .ok written ∧
        failsAt fault .commit = .ok () := by
    intro written
    rw [guardedPut,check_bind_ok_iff,check_bind_ok_iff,check_bind_ok_iff,bind_ok_iff]
    refine and_congr_right fun _ => and_congr_right fun _ => and_congr_right fun _ => ?_
    constructor
    · rintro ⟨put, stored, finished⟩
      obtain ⟨commit, same⟩ := check_bind_ok_iff.mp finished
      cases same
      exact ⟨stored, commit⟩
    · rintro ⟨stored, commit⟩
      exact ⟨written, stored, check_bind_ok_iff.mpr ⟨commit, rfl⟩⟩
  simp only [steps,exists_and_left,exists_and_right,putTransparentUtxos_ok_iff,
    checkScanFrontier_ok_iff,not_hindered_iff]
  constructor
  · rintro ⟨request, ⟨summary, kept⟩, transaction, put, commit⟩
    refine ⟨⟨fun row member => (put row member).1, fun step taken => ?_⟩, kept⟩
    cases step with
    | request => exact request
    | summary => exact summary taken
    | transaction => exact transaction
    | put outPoint =>
      obtain ⟨row, member, rfl⟩ := taken
      exact (put row member).2
    | commit => exact commit
  · rintro ⟨⟨known, free⟩, kept⟩
    exact ⟨free .request trivial, ⟨free .summary, kept⟩, free .transaction trivial,
      fun row member => ⟨known row member, free (.put row.outPoint) ⟨row, member, rfl⟩⟩,
      free .commit trivial⟩

/-- A write goes through exactly when nothing hinders it and the frontier has not receded. -/
theorem recordTransparentUtxos_ok_iff :
    (∃ count, (recordTransparentUtxos library fault floor rows store).1 = .ok count) ↔
      ¬Hindered library fault floor rows ∧ ¬Receded floor store.fullyScannedHeight := by
  rw [← guardedPut_ok_iff,recordTransparentUtxos]
  cases guardedPut library fault floor rows store with
  | error error => simp
  | ok written => exact iff_of_true ⟨_, rfl⟩ ⟨_, rfl⟩

end Zally
