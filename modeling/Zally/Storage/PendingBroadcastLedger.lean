import Zally.Async.Machine
import Zally.Sql.Keyed
import Zally.Storage.HoldLedger
import Zally.Storage.PendingBroadcast

/-! The pending-broadcast table of the wallet database refines a map from broadcasts and outpoints
to their latest recording, over every history of recordings and clearings. -/
namespace Zally

open Async Outcome

/-- `PendingBroadcastRecord` in the widths of its fields. -/
structure BroadcastRecord where
  accountId : AccountId
  broadcastTxId : TxId
  broadcastAtMs : UInt64
  broadcastAtHeight : Option UInt32
  inputs : List (OutPoint × CheckedZatoshis)

/-- The row that a listing returns. -/
structure BroadcastInputRow where
  broadcastTxId : TxId
  outpoint : OutPoint
  valueZat : CheckedZatoshis
  broadcastAtMs : UInt64
  broadcastAtHeight : Option UInt32
  deriving DecidableEq

/-- A row of `ext_zally_pending_broadcast_inputs`. The account column is only compared. -/
structure BroadcastColumns where
  broadcastTxId : List UInt8
  outpointTxId : List UInt8
  outpointIndex : Int64
  valueZat : Int64
  accountId : AccountId
  broadcastAtMs : Int64
  broadcastAtHeight : Option Int64
  deriving DecidableEq

namespace BroadcastColumns

/-- `PRIMARY KEY (broadcast_tx_id, outpoint_tx_id, outpoint_index)`. -/
def key (row : BroadcastColumns) : List UInt8 × List UInt8 × Int64 :=
  (row.broadcastTxId, row.outpointTxId, row.outpointIndex)

/-- `ORDER BY broadcast_at_ms ASC, broadcast_tx_id ASC, outpoint_index ASC`. -/
def listedBefore (first second : BroadcastColumns) : Bool :=
  first.broadcastAtMs < second.broadcastAtMs ∨
    first.broadcastAtMs = second.broadcastAtMs ∧ (first.broadcastTxId < second.broadcastTxId ∨
      first.broadcastTxId = second.broadcastTxId ∧ first.outpointIndex ≤ second.outpointIndex)

end BroadcastColumns

/-- The row that the statement binds for one input. -/
def BroadcastRecord.columns (record : BroadcastRecord) (input : OutPoint × CheckedZatoshis) :
    BroadcastColumns where
  broadcastTxId := record.broadcastTxId.asBytes
  outpointTxId := TxId.asBytes input.1.txId
  outpointIndex := .ofInt input.1.outputIndex.toNat
  valueZat := storedUnsigned input.2.val.raw
  accountId := record.accountId
  broadcastAtMs := storedUnsigned record.broadcastAtMs
  broadcastAtHeight := record.broadcastAtHeight.map fun height => .ofInt height.toNat

/-- The table with its primary key; its rows are numbered from 1 by positive 64-bit integers. -/
structure BroadcastTable where
  rows : List BroadcastColumns
  primaryKey : Sql.Unique (fun _ => True) BroadcastColumns.key rows
  numbered : rows.length ≤ 0x7FFFFFFFFFFFFFFF

namespace BroadcastTable

def empty : BroadcastTable := ⟨[], Sql.unique_nil, Nat.zero_le _⟩

def upsert (table : BroadcastTable) (row : BroadcastColumns) : Except String BroadcastTable :=
  if known : ∃ other ∈ table.rows, other.key = row.key then
    .ok ⟨Sql.upsert BroadcastColumns.key row table.rows, table.primaryKey.upsert row,
      by rw [Sql.length_upsert_of_known known]; exact table.numbered⟩
  else if room : table.rows.length < 0x7FFFFFFFFFFFFFFF then
    .ok ⟨Sql.upsert BroadcastColumns.key row table.rows, table.primaryKey.upsert row,
      Nat.le_trans Sql.length_upsert_le room⟩
  else .error "database or disk is full"

/-- `DELETE`, with the number of the rows it removed. -/
def delete (table : BroadcastTable) (drops : BroadcastColumns → Bool) : Nat × BroadcastTable :=
  ((table.rows.filter drops).length, {
    rows := table.rows.filter fun row => !drops row
    primaryKey := table.primaryKey.filter _
    numbered := Nat.le_trans (List.length_filter_le _ _) table.numbered })

end BroadcastTable

inductive BroadcastStatement where
  | transactionStart
  | insertPrepare
  | insert (index : Nat)
  | commit
  | selectPrepare
  | select
  | row (index : Nat)
  | cleanupMined (chunk : Nat)
  | cleanupExpired
  deriving DecidableEq

/-- What goes wrong in one call, outside the rows. -/
inductive BroadcastFault where
  | dispatch (error : StorageError)
  | statement (failing : BroadcastStatement) (text : String)

def withLedger (fault : Option BroadcastFault) : Except StorageError Unit :=
  match fault with
  | some (.dispatch error) => .error error
  | some (.statement _ _) | none => .ok ()

/-- The answer of one statement, its failures under the caller's message and posture. -/
def runBroadcast (fault : Option BroadcastFault) (statement : BroadcastStatement)
    (message : String) (posture : FailurePosture) (answer : Except String α) :
    Except StorageError α :=
  match fault with
  | some (.statement failing text) =>
    if failing = statement then .error (.sqliteFailed s!"{message}: {text}" posture)
    else answer.mapError fun text => .sqliteFailed s!"{message}: {text}" posture
  | some (.dispatch _) | none =>
    answer.mapError fun text => .sqliteFailed s!"{message}: {text}" posture

/-- The statement that is run once for each input, from the `index`th on. -/
def insertInputs (fault : Option BroadcastFault) (record : BroadcastRecord) :
    Nat → List (OutPoint × CheckedZatoshis) → BroadcastTable → Except StorageError BroadcastTable
  | _, [], table => .ok table
  | index, input :: inputs, table => do
    let written ← runBroadcast fault (.insert index)
      "ext_zally_pending_broadcast_inputs insert failed" .notRetryable
      (table.upsert (record.columns input))
    insertInputs fault record (index + 1) inputs written

def recordTransaction (fault : Option BroadcastFault) (record : BroadcastRecord)
    (table : BroadcastTable) : Except StorageError BroadcastTable := do
  withLedger fault
  runBroadcast fault .transactionStart
    "ext_zally_pending_broadcast_inputs transaction start failed" .retryable (.ok ())
  runBroadcast fault .insertPrepare "ext_zally_pending_broadcast_inputs prepare failed"
    .notRetryable (.ok ())
  let written ← insertInputs fault record 0 record.inputs table
  runBroadcast fault .commit "ext_zally_pending_broadcast_inputs commit failed" .retryable
    (.ok written)

/-- A transaction dropped before its commit is rolled back. -/
def recordPendingBroadcastInputs (fault : Option BroadcastFault) (record : BroadcastRecord)
    (table : BroadcastTable) : Except StorageError Unit × BroadcastTable :=
  match recordTransaction fault record table with
  | .ok written => (.ok (), written)
  | .error error => (.error error, table)

def decodeTxidBytes (bytes : List UInt8) (label : String) : Except StorageError TxId :=
  if bytes.length = 32 then .ok (TxId.fromBytes bytes)
  else .error (.sqliteFailed s!"{label} had wrong byte length: {bytes.length}" .notRetryable)

/-- `try_from` of a stored integer into an unsigned type of `bits` bits. -/
def decodeInteger (column : String) (bits : Nat) (raw : Int64) : Except StorageError Nat :=
  if 0 ≤ raw.toInt ∧ raw.toInt < 2 ^ bits then .ok raw.toInt.toNat
  else .error (.sqliteFailed
    s!"ext_zally_pending_broadcast_inputs.{column} out of u{bits}: {raw.toInt}" .notRetryable)

def decodeBroadcastRow (row : BroadcastColumns) : Except StorageError BroadcastInputRow := do
  let broadcastTxId ← decodeTxidBytes row.broadcastTxId "broadcast_tx_id"
  let outpointTxId ← decodeTxidBytes row.outpointTxId "outpoint_tx_id"
  let outpointIndex ← decodeInteger "outpoint_index" 32 row.outpointIndex
  let valueZatU64 ← decodeInteger "value_zat" 64 row.valueZat
  let valueZat ← (Zatoshis.tryFrom (.ofNat valueZatU64)).mapError fun _ =>
    .rowValueOutOfRange "ext_zally_pending_broadcast_inputs.value_zat" (toString valueZatU64)
  let broadcastAtMs ← decodeInteger "broadcast_at_ms" 64 row.broadcastAtMs
  let broadcastAtHeight ← row.broadcastAtHeight.mapM (decodeInteger "broadcast_at_height" 32)
  pure {
    broadcastTxId
    outpoint := ⟨outpointTxId, .ofNat outpointIndex⟩
    valueZat
    broadcastAtMs := .ofNat broadcastAtMs
    broadcastAtHeight := broadcastAtHeight.map .ofNat }

/-- The order in which SQLite comes across rows; it decides between those that sort equal. -/
abbrev ScanOrder :=
  { scan : List BroadcastColumns → List BroadcastColumns // ∀ rows, (scan rows).Perm rows }

/-- The rows of an account recorded at or after a time. -/
def BroadcastTable.selected (table : BroadcastTable) (order : ScanOrder) (accountId : AccountId)
    (afterAtMs : UInt64) : List BroadcastColumns :=
  (order.val (table.rows.filter fun row => row.accountId = accountId ∧
    storedUnsigned afterAtMs ≤ row.broadcastAtMs)).mergeSort BroadcastColumns.listedBefore

/-- The rows of a query, each read as it is stepped to. -/
def readRows (fault : Option BroadcastFault) : Nat → List BroadcastColumns →
    Except StorageError (List BroadcastInputRow)
  | _, [] => .ok []
  | index, row :: rows => do
    runBroadcast fault (.row index) "pending-broadcast-inputs row decode failed" .notRetryable
      (.ok ())
    let first ← decodeBroadcastRow row
    let rest ← readRows fault (index + 1) rows
    pure (first :: rest)

def listPendingBroadcastInputs (fault : Option BroadcastFault) (order : ScanOrder)
    (accountId : AccountId) (afterAtMs : UInt64) (table : BroadcastTable) :
    Except StorageError (List BroadcastInputRow) := do
  withLedger fault
  runBroadcast fault .selectPrepare "pending-broadcast-inputs prepare failed" .notRetryable (.ok ())
  runBroadcast fault .select "pending-broadcast-inputs query failed" .notRetryable (.ok ())
  readRows fault 0 (table.selected order accountId afterAtMs)

/-- One `DELETE` for each chunk, from the `index`th on; what an earlier one removed stays removed. -/
def clearChunks (fault : Option BroadcastFault) :
    Nat → Nat → List (List (List UInt8)) → BroadcastTable → Except StorageError Nat × BroadcastTable
  | _, removed, [], table => (.ok removed, table)
  | index, removed, chunk :: chunks, table =>
    match runBroadcast fault (.cleanupMined index)
      "ext_zally_pending_broadcast_inputs cleanup-for-mined failed" .notRetryable
      (.ok (table.delete fun row => row.broadcastTxId ∈ chunk)) with
    | .ok (count, rest) => clearChunks fault (index + 1) (saturatingAdd removed count) chunks rest
    | .error error => (.error error, table)

def clearPendingBroadcastInputsForMined (fault : Option BroadcastFault) (txIds : List TxId)
    (table : BroadcastTable) : Except StorageError Nat × BroadcastTable :=
  if txIds.isEmpty then (.ok 0, table)
  else
    match withLedger fault with
    | .ok () => clearChunks fault 0 0 ((txIds.map TxId.asBytes).toChunks 900) table
    | .error error => (.error error, table)

def clearExpiredPendingBroadcastInputs (fault : Option BroadcastFault) (beforeAtMs : UInt64)
    (table : BroadcastTable) : Except StorageError Nat × BroadcastTable :=
  match withLedger fault >>= fun _ => runBroadcast fault .cleanupExpired
    "ext_zally_pending_broadcast_inputs cleanup-expired failed" .notRetryable
    (.ok (table.delete fun row => row.broadcastAtMs < storedUnsigned beforeAtMs)) with
  | .ok (count, rest) => (.ok count, rest)
  | .error error => (.error error, table)

/-- What the ledger keeps for one broadcast and outpoint. -/
structure PendingEntry where
  accountId : AccountId
  valueZat : CheckedZatoshis
  broadcastAtMs : UInt64
  broadcastAtHeight : Option UInt32
  deriving DecidableEq

/-- The entry of one input of a recording. -/
def BroadcastRecord.entry (clock : UInt64 → UInt64) (record : BroadcastRecord)
    (input : OutPoint × CheckedZatoshis) : PendingEntry :=
  ⟨record.accountId, input.2, clock record.broadcastAtMs, record.broadcastAtHeight⟩

/-- The ledger as a map. -/
abbrev PendingEntries := TxId × OutPoint → Option PendingEntry

namespace PendingEntries

def empty : PendingEntries := fun _ => none

/-- The inputs of a recording, the later of two for one outpoint in place of the earlier. -/
def recorded (clock : UInt64 → UInt64) (record : BroadcastRecord) (entries : PendingEntries) :
    PendingEntries :=
  record.inputs.foldl (fun entries input => Function.update entries (record.broadcastTxId, input.1)
    (some (record.entry clock input))) entries

def withoutMined (txIds : List TxId) (entries : PendingEntries) : PendingEntries := fun place =>
  (entries place).filter fun _ => !txIds.contains place.1

def withoutExpired (clock : UInt64 → UInt64) (beforeAtMs : UInt64) (entries : PendingEntries) :
    PendingEntries := fun place =>
  (entries place).filter fun entry => ¬entry.broadcastAtMs < clock beforeAtMs

/-- The places that a clearing empties. -/
def removed (before after : PendingEntries) : Set (TxId × OutPoint) :=
  { place | before place ≠ none ∧ after place = none }

end PendingEntries

/-- A call that changes the ledger, with its answer. -/
inductive LedgerEvent where
  | recording (record : BroadcastRecord) (answer : Except StorageError Unit)
  | clearMined (txIds : List TxId) (answer : Except StorageError Nat)
  | clearExpired (beforeAtMs : UInt64) (answer : Except StorageError Nat)

/-- The call on the table, whatever goes wrong in it. -/
def LedgerEvent.Step (before : BroadcastTable) : LedgerEvent → BroadcastTable → Prop
  | .recording record answer, after =>
    ∃ fault, recordPendingBroadcastInputs fault record before = (answer, after)
  | .clearMined txIds answer, after =>
    ∃ fault, clearPendingBroadcastInputsForMined fault txIds before = (answer, after)
  | .clearExpired beforeAtMs answer, after =>
    ∃ fault, clearExpiredPendingBroadcastInputs fault beforeAtMs before = (answer, after)

/-- The call on the map: what fails changes nothing, but for a clearing of mined transactions,
which has removed those at the front of its list. -/
def LedgerEvent.Next (clock : UInt64 → UInt64) (before : PendingEntries) :
    LedgerEvent → PendingEntries → Prop
  | .recording record (.ok ()), after => after = before.recorded clock record
  | .recording _ (.error _), after => after = before
  | .clearMined txIds (.ok count), after => after = before.withoutMined txIds ∧
      count = (before.removed after).ncard
  | .clearMined txIds (.error _), after => ∃ mined, mined <+: txIds ∧
      after = before.withoutMined mined
  | .clearExpired beforeAtMs (.ok count), after => after = before.withoutExpired clock beforeAtMs ∧
      count = (before.removed after).ncard
  | .clearExpired _ (.error _), after => after = before

/-- A listing returns the entries of its account from its cutoff on, each once. -/
def ListsEntries (clock : UInt64 → UInt64) (table : BroadcastTable) (entries : PendingEntries) :
    Prop :=
  ∀ order accountId afterAtMs, ∃ rows,
    listPendingBroadcastInputs none order accountId afterAtMs table = .ok rows ∧
    (rows.map fun row => (row.broadcastTxId, row.outpoint)).Nodup ∧
    ∀ row, row ∈ rows ↔ clock afterAtMs ≤ row.broadcastAtMs ∧
      entries (row.broadcastTxId, row.outpoint) =
        some ⟨accountId, row.valueZat, row.broadcastAtMs, row.broadcastAtHeight⟩

/-- What the ledger promises after the calls of `events`: its listings and the counts of its
clearings are those of a map, a clearing does not depend on its chunks, and a failed recording
changes nothing. -/
structure LedgerContract (clock : UInt64 → UInt64) (events : List LedgerEvent)
    (table : BroadcastTable) : Prop where
  refines : ∃ entries, Path (LedgerEvent.Next clock) PendingEntries.empty events entries ∧
    ListsEntries clock table entries
  chunks : ∀ txIds (chunks : List (List TxId)), (∀ txId, txId ∈ chunks.flatten ↔ txId ∈ txIds) →
    clearChunks none 0 0 (chunks.map fun chunk => chunk.map TxId.asBytes) table =
      clearPendingBroadcastInputsForMined none txIds table
  failed : ∀ fault record error after,
    recordPendingBroadcastInputs fault record table = (.error error, after) → after = table

/-- The largest time the table holds stands for every later one. -/
def saturatedMs (ms : UInt64) : UInt64 := if ms ≤ 0x7FFFFFFFFFFFFFFF then ms else 0x7FFFFFFFFFFFFFFF

theorem toNat_saturatedMs (ms : UInt64) : (saturatedMs ms).toNat = clampUnsignedToI64 ms.toNat := by
  have most : (0x7FFFFFFFFFFFFFFF : UInt64).toNat = 2 ^ 63 - 1 := rfl
  unfold saturatedMs clampUnsignedToI64
  split
  · rename_i small
    rw [UInt64.le_iff_toNat_le,most] at small
    exact (Nat.min_eq_left small).symm
  · rename_i large
    rw [UInt64.le_iff_toNat_le,most] at large
    rw [most]
    omega

@[simp] theorem saturatedMs_saturatedMs (ms : UInt64) : saturatedMs (saturatedMs ms) = saturatedMs ms := by
  refine UInt64.toNat_inj.mp ?_
  simp only [toNat_saturatedMs,clampUnsignedToI64]
  omega

theorem storedUnsigned_saturatedMs (ms : UInt64) :
    storedUnsigned (saturatedMs ms) = storedUnsigned ms := by
  refine Int64.toInt_inj.mp ?_
  rw [toInt_storedUnsigned,toInt_storedUnsigned,toNat_saturatedMs,clampUnsignedToI64]
  omega

theorem storedUnsigned_le_iff (first second : UInt64) :
    storedUnsigned first ≤ storedUnsigned second ↔ saturatedMs first ≤ saturatedMs second := by
  rw [Int64.le_iff_toInt_le,toInt_storedUnsigned,toInt_storedUnsigned,UInt64.le_iff_toNat_le,
    toNat_saturatedMs,toNat_saturatedMs,clampUnsignedToI64,clampUnsignedToI64]
  omega

theorem storedUnsigned_lt_iff (first second : UInt64) :
    storedUnsigned first < storedUnsigned second ↔ saturatedMs first < saturatedMs second := by
  rw [Int64.lt_iff_toInt_lt,toInt_storedUnsigned,toInt_storedUnsigned,UInt64.lt_iff_toNat_lt,
    toNat_saturatedMs,toNat_saturatedMs,clampUnsignedToI64,clampUnsignedToI64]
  omega

theorem toInt_ofUInt32 (number : UInt32) : (Int64.ofInt number.toNat).toInt = number.toNat := by
  have bound := number.toNat_lt
  exact Int64.toInt_ofInt_of_le (by omega) (by omega)

theorem TxId.asBytes_injective : Function.Injective TxId.asBytes := fun first second same => by
  rw [← TxId.fromBytes_asBytes first,same,TxId.fromBytes_asBytes]

/-- How entries are written. -/
def broadcastLayout : Sql.Layout BroadcastColumns (TxId × OutPoint) PendingEntry
    (List UInt8 × List UInt8 × Int64) where
  row place entry := {
    broadcastTxId := place.1.asBytes
    outpointTxId := TxId.asBytes place.2.txId
    outpointIndex := .ofInt place.2.outputIndex.toNat
    valueZat := storedUnsigned entry.valueZat.val.raw
    accountId := entry.accountId
    broadcastAtMs := storedUnsigned entry.broadcastAtMs
    broadcastAtHeight := entry.broadcastAtHeight.map fun height => .ofInt height.toNat }
  key := BroadcastColumns.key
  name place := (place.1.asBytes, TxId.asBytes place.2.txId, .ofInt place.2.outputIndex.toNat)
  named _ _ := rfl
  injective := by
    rintro ⟨firstTx, firstOut, firstIndex⟩ ⟨secondTx, secondOut, secondIndex⟩ same
    obtain ⟨sameTx, sameRest⟩ := Prod.mk.inj same
    obtain ⟨sameOut, sameIndex⟩ := Prod.mk.inj sameRest
    have index := congrArg Int64.toInt sameIndex
    rw [toInt_ofUInt32,toInt_ofUInt32] at index
    obtain rfl : firstTx = secondTx := TxId.asBytes_injective sameTx
    obtain rfl : firstOut = secondOut := TxId.asBytes_injective sameOut
    obtain rfl : firstIndex = secondIndex := UInt32.toNat_inj.mp (Int.ofNat_inj.mp index)
    rfl

theorem columns_eq_row (record : BroadcastRecord) (input : OutPoint × CheckedZatoshis) :
    record.columns input =
      broadcastLayout.row (record.broadcastTxId, input.1) (record.entry saturatedMs input) := by
  simp only [BroadcastRecord.columns,broadcastLayout,BroadcastRecord.entry,
    storedUnsigned_saturatedMs]

theorem decodeTxidBytes_asBytes (txId : TxId) (label : String) :
    decodeTxidBytes (TxId.asBytes txId) label = .ok txId := by
  rw [decodeTxidBytes,if_pos (TxId.length_asBytes txId),TxId.fromBytes_asBytes]

theorem decodeInteger_ok {raw : Int64} {number : Nat} (written : raw.toInt = number)
    (fits : number < 2 ^ bits) : decodeInteger column bits raw = .ok number := by
  have bounds : (0 : Int) ≤ number ∧ (number : Int) < 2 ^ bits :=
    ⟨Int.natCast_nonneg _, by exact_mod_cast fits⟩
  rw [decodeInteger,written,if_pos bounds,Int.toNat_natCast]

/-- A row reads back as it was written, its time up to saturation. -/
theorem decodeBroadcastRow_row (place : TxId × OutPoint) (entry : PendingEntry) :
    decodeBroadcastRow (broadcastLayout.row place entry) = .ok ⟨place.1, place.2, entry.valueZat,
      saturatedMs entry.broadcastAtMs, entry.broadcastAtHeight⟩ := by
  have index : decodeInteger "outpoint_index" 32 (.ofInt place.2.outputIndex.toNat) =
      .ok place.2.outputIndex.toNat :=
    decodeInteger_ok (toInt_ofUInt32 _) place.2.outputIndex.toNat_lt
  have supply : entry.valueZat.val.raw.toNat ≤ 2_100_000_000_000_000 :=
    UInt64.le_iff_toNat_le.mp entry.valueZat.property
  have value : decodeInteger "value_zat" 64 (storedUnsigned entry.valueZat.val.raw) =
      .ok entry.valueZat.val.raw.toNat := by
    refine decodeInteger_ok ?_ entry.valueZat.val.raw.toNat_lt
    rw [toInt_storedUnsigned]
    omega
  have time : decodeInteger "broadcast_at_ms" 64 (storedUnsigned entry.broadcastAtMs) =
      .ok (saturatedMs entry.broadcastAtMs).toNat := by
    refine decodeInteger_ok ?_ (saturatedMs entry.broadcastAtMs).toNat_lt
    rw [toInt_storedUnsigned,toNat_saturatedMs,clampUnsignedToI64]
  have height : (entry.broadcastAtHeight.map fun height => Int64.ofInt height.toNat).mapM
      (decodeInteger "broadcast_at_height" 32) =
      .ok (entry.broadcastAtHeight.map UInt32.toNat) := by
    cases entry.broadcastAtHeight with
    | none => rfl
    | some height =>
      have decoded : decodeInteger "broadcast_at_height" 32 (Int64.ofInt height.toNat) =
          .ok height.toNat := decodeInteger_ok (toInt_ofUInt32 _) height.toNat_lt
      simp only [Option.map_some,Option.mapM_some,decoded]
      rfl
  have checked : Zatoshis.tryFrom (.ofNat entry.valueZat.val.raw.toNat) = .ok entry.valueZat := by
    rw [UInt64.ofNat_toNat]
    exact Zatoshis.tryFrom_checked _
  refine bind_ok_iff.mpr ⟨_, decodeTxidBytes_asBytes _ _, ?_⟩
  refine bind_ok_iff.mpr ⟨_, decodeTxidBytes_asBytes _ _, ?_⟩
  refine bind_ok_iff.mpr ⟨_, index, bind_ok_iff.mpr ⟨_, value, ?_⟩⟩
  refine bind_ok_iff.mpr ⟨_, mapError_ok_iff.mpr checked, ?_⟩
  refine bind_ok_iff.mpr ⟨_, time, bind_ok_iff.mpr ⟨_, height, ?_⟩⟩
  have same : UInt32.ofNat ∘ UInt32.toNat = id := funext fun _ => UInt32.ofNat_toNat
  rw [UInt32.ofNat_toNat,UInt64.ofNat_toNat,Option.map_map,same,Option.map_id]
  rfl

/-- The rows of the table are the entries, none of which the table could not hold. -/
structure BroadcastTable.Holds (table : BroadcastTable) (entries : PendingEntries) : Prop where
  rows : broadcastLayout.Represents table.rows entries
  timely : ∀ place entry, entries place = some entry →
    saturatedMs entry.broadcastAtMs = entry.broadcastAtMs

theorem runBroadcast_none (statement : BroadcastStatement) (message : String)
    (posture : FailurePosture) (value : α) :
    runBroadcast none statement message posture (.ok value) = .ok value := rfl

theorem runBroadcast_ok (ran : runBroadcast fault statement message posture answer = .ok value) :
    answer = .ok value := by
  unfold runBroadcast at ran
  split at ran
  · split at ran
    · cases ran
    · exact mapError_ok_iff.mp ran
  · exact mapError_ok_iff.mp ran
  · exact mapError_ok_iff.mp ran

theorem readRows_none (index : Nat) (rows : List BroadcastColumns) :
    readRows none index rows = rows.mapM decodeBroadcastRow := by
  induction rows generalizing index with
  | nil => rfl
  | cons row rows ih =>
    rw [readRows,runBroadcast_none,List.mapM_cons,← ih (index + 1)]
    rfl

theorem mem_selected_iff {table : BroadcastTable} {order : ScanOrder} :
    row ∈ table.selected order accountId afterAtMs ↔ row ∈ table.rows ∧
      row.accountId = accountId ∧ storedUnsigned afterAtMs ≤ row.broadcastAtMs := by
  rw [BroadcastTable.selected,(List.mergeSort_perm _ _).mem_iff,(order.property _).mem_iff,
    List.mem_filter,decide_eq_true_iff]

theorem nodup_selected (table : BroadcastTable) (order : ScanOrder) (accountId : AccountId)
    (afterAtMs : UInt64) :
    ((table.selected order accountId afterAtMs).map BroadcastColumns.key).Nodup := by
  have perm := ((List.mergeSort_perm (order.val (table.rows.filter fun row =>
    row.accountId = accountId ∧ storedUnsigned afterAtMs ≤ row.broadcastAtMs))
    BroadcastColumns.listedBefore).trans (order.property _)).map BroadcastColumns.key
  exact perm.nodup_iff.mpr (table.primaryKey.filter _).nodup_map

/-- The row that a stored one reads back as. -/
def PendingEntry.listed (place : TxId × OutPoint) (entry : PendingEntry) : BroadcastInputRow :=
  ⟨place.1, place.2, entry.valueZat, entry.broadcastAtMs, entry.broadcastAtHeight⟩

namespace BroadcastTable.Holds

variable {table : BroadcastTable} {entries : PendingEntries}

theorem decode (holds : table.Holds entries) (found : entries place = some entry) :
    decodeBroadcastRow (broadcastLayout.row place entry) = .ok (entry.listed place) := by
  rw [decodeBroadcastRow_row,holds.timely place entry found]
  rfl

/-- A selected row is a stored entry of the account, broadcast in time. -/
theorem stored (holds : table.Holds entries) (row)
    (member : row ∈ table.selected order accountId afterAtMs) :
    ∃ place entry, entries place = some entry ∧ row = broadcastLayout.row place entry ∧
      entry.accountId = accountId ∧ saturatedMs afterAtMs ≤ entry.broadcastAtMs := by
  obtain ⟨inTable, owned, recent⟩ := mem_selected_iff.mp member
  obtain ⟨place, entry, found, rfl⟩ := (holds.rows row).mp inTable
  refine ⟨place, entry, found, rfl, owned, ?_⟩
  rw [← holds.timely place entry found]
  exact (storedUnsigned_le_iff _ _).mp recent

/-- A stored entry of the account, broadcast in time, is selected. -/
theorem selects (holds : table.Holds entries) (order) (found : entries place = some entry)
    (recent : saturatedMs afterAtMs ≤ entry.broadcastAtMs) :
    broadcastLayout.row place entry ∈ table.selected order entry.accountId afterAtMs := by
  refine mem_selected_iff.mpr ⟨(holds.rows _).mpr ⟨_, _, found, rfl⟩, rfl, ?_⟩
  refine (storedUnsigned_le_iff _ _).mpr ?_
  rwa [holds.timely _ _ found]

/-- The selected rows read back, each at its own place. -/
theorem reads (holds : table.Holds entries) (order accountId afterAtMs) :
    ∃ listed, (table.selected order accountId afterAtMs).mapM decodeBroadcastRow = .ok listed ∧
      (listed.map fun row => (row.broadcastTxId, row.outpoint)).Nodup := by
  have each (row) (member : row ∈ table.selected order accountId afterAtMs) :
      ∃ pair : (TxId × OutPoint) × PendingEntry,
        row = broadcastLayout.row pair.1 pair.2 ∧ entries pair.1 = some pair.2 := by
    obtain ⟨place, entry, found, written, -, -⟩ := holds.stored row member
    exact ⟨(place, entry), written, found⟩
  obtain ⟨pairs, related⟩ := forall₂_of_exists each
  have names : pairs.map (broadcastLayout.name ∘ Prod.fst) =
      (table.selected order accountId afterAtMs).map BroadcastColumns.key := by
    refine map_eq_of_forall₂ related ?_
    rintro row pair ⟨rfl, -⟩
    rfl
  refine ⟨pairs.map fun pair => pair.2.listed pair.1, ?_, ?_⟩
  · refine mapM_ok_iff.mpr (List.forall₂_map_right_iff.mpr (related.imp ?_))
    rintro row pair ⟨rfl, found⟩
    exact holds.decode found
  · have nodup := nodup_selected table order accountId afterAtMs
    rw [← names,← List.map_map] at nodup
    rw [List.map_map]
    exact nodup.of_map _

/-- A listing of the table is one of the entries. -/
theorem lists (holds : table.Holds entries) : ListsEntries saturatedMs table entries := by
  intro order accountId afterAtMs
  obtain ⟨listed, read, nodup⟩ := holds.reads order accountId afterAtMs
  refine ⟨listed, ?_, nodup, fun row => ⟨fun member => ?_, ?_⟩⟩
  · rw [← read,← readRows_none 0]
    rfl
  · obtain ⟨column, inTable, decoded⟩ := mem_of_mapM_ok read member
    obtain ⟨place, entry, found, rfl, owned, recent⟩ := holds.stored column inTable
    obtain rfl := Except.ok.inj ((holds.decode found).symm.trans decoded)
    exact ⟨recent, by rw [← owned]; exact found⟩
  · rintro ⟨recent, found⟩
    have timely : saturatedMs row.broadcastAtMs = row.broadcastAtMs := holds.timely _ _ found
    obtain ⟨other, member, decoded⟩ :=
      exists_of_forall₂ (mapM_ok_iff.mp read) (holds.selects order found recent)
    obtain rfl := Except.ok.inj ((holds.decode found).symm.trans decoded)
    exact member

end BroadcastTable.Holds

theorem BroadcastTable.upsert_ok {table : BroadcastTable} (written : table.upsert row = .ok after) :
    after.rows = Sql.upsert BroadcastColumns.key row table.rows := by
  unfold BroadcastTable.upsert at written
  split at written
  · cases written
    rfl
  · split at written
    · cases written
      rfl
    · cases written

theorem BroadcastTable.ext {first second : BroadcastTable} (same : first.rows = second.rows) :
    first = second := by
  cases first
  cases second
  cases same
  rfl

theorem holds_empty : BroadcastTable.empty.Holds PendingEntries.empty :=
  ⟨Sql.Layout.represents_empty broadcastLayout, fun _ _ found => by cases found⟩

namespace BroadcastTable.Holds

variable {table : BroadcastTable} {entries : PendingEntries}

theorem upsert {written : BroadcastTable} (holds : table.Holds entries) (place : TxId × OutPoint)
    (entry : PendingEntry) (timely : saturatedMs entry.broadcastAtMs = entry.broadcastAtMs)
    (stored : table.upsert (broadcastLayout.row place entry) = .ok written) :
    written.Holds (Function.update entries place (some entry)) := by
  refine ⟨?_, fun other value found => ?_⟩
  · rw [BroadcastTable.upsert_ok stored]
    exact holds.rows.upsert place entry
  · by_cases same : other = place
    · rw [same,Function.update_self] at found
      rw [← Option.some.inj found]
      exact timely
    · rw [Function.update_of_ne same] at found
      exact holds.timely other value found

theorem insertInputs {record : BroadcastRecord} (holds : table.Holds entries)
    (inserted : insertInputs fault record index inputs table = .ok after) :
    after.Holds (inputs.foldl (fun entries input => Function.update entries
      (record.broadcastTxId, input.1) (some (record.entry saturatedMs input))) entries) := by
  induction inputs generalizing index table entries with
  | nil =>
    cases inserted
    exact holds
  | cons input inputs ih =>
    obtain ⟨written, ran, rest⟩ := bind_ok_iff.mp inserted
    have stored := runBroadcast_ok ran
    rw [columns_eq_row] at stored
    exact ih (holds.upsert _ _ (saturatedMs_saturatedMs _) stored) rest

/-- A finished transaction recorded every input. -/
theorem recordTransaction {record : BroadcastRecord} (holds : table.Holds entries)
    (ran : recordTransaction fault record table = .ok after) :
    after.Holds (entries.recorded saturatedMs record) := by
  obtain ⟨_, -, ran⟩ := bind_ok_iff.mp ran
  obtain ⟨_, -, ran⟩ := bind_ok_iff.mp ran
  obtain ⟨_, -, ran⟩ := bind_ok_iff.mp ran
  obtain ⟨written, inserted, committed⟩ := bind_ok_iff.mp ran
  obtain rfl := Except.ok.inj (runBroadcast_ok committed)
  exact holds.insertInputs inserted

/-- A clearing drops the entries of the rows it drops, and counts them. -/
theorem delete (holds : table.Holds entries) {drops : BroadcastColumns → Bool}
    {kept : TxId × OutPoint → PendingEntry → Bool}
    (agree : ∀ place entry, entries place = some entry →
      drops (broadcastLayout.row place entry) = !kept place entry) :
    (table.delete drops).2.Holds (fun place => (entries place).filter (kept place)) ∧
      (table.delete drops).1 =
        (entries.removed fun place => (entries place).filter (kept place)).ncard := by
  refine ⟨⟨?_, fun place entry found => ?_⟩, ?_⟩
  · exact holds.rows.filter fun place entry found => by rw [agree place entry found,Bool.not_not]
  · exact holds.timely place entry (Option.filter_eq_some_iff.mp found).1
  · have counted : (table.rows.filter drops).length =
        { place | ∃ entry, entries place = some entry ∧ kept place entry = false }.ncard :=
      holds.rows.length_filter table.primaryKey fun place entry found => by
        rw [agree place entry found,Bool.not_eq_true']
    refine counted.trans (congrArg Set.ncard (Set.ext fun place => ?_))
    constructor
    · rintro ⟨entry, found, dropped⟩
      exact ⟨by simp [found], by simp [found,dropped]⟩
    · rintro ⟨known, dropped⟩
      obtain ⟨entry, found⟩ := Option.ne_none_iff_exists'.mp known
      exact ⟨entry, found, by simpa [found] using dropped⟩

end BroadcastTable.Holds

/-- The rows that are not of the listed transactions. -/
def BroadcastTable.without (table : BroadcastTable) (txIds : List (List UInt8)) : BroadcastTable :=
  (table.delete fun row => row.broadcastTxId ∈ txIds).2

theorem BroadcastTable.without_nil (table : BroadcastTable) : table.without [] = table :=
  BroadcastTable.ext (List.filter_eq_self.mpr fun _ _ => by simp)

theorem BroadcastTable.without_without (table : BroadcastTable) (first second : List (List UInt8)) :
    (table.without first).without second = table.without (first ++ second) := by
  refine BroadcastTable.ext ?_
  simp only [without,delete,List.filter_filter]
  refine List.filter_congr fun row _ => ?_
  simp [Bool.and_comm]

/-- A row is dropped by the first list that names its transaction. -/
theorem BroadcastTable.count_append (table : BroadcastTable) (first second : List (List UInt8)) :
    (table.delete fun row => row.broadcastTxId ∈ first ++ second).1 =
      (table.delete fun row => row.broadcastTxId ∈ first).1 +
        ((table.without first).delete fun row => row.broadcastTxId ∈ second).1 := by
  simp only [without,delete,List.filter_filter,List.mem_append,Bool.decide_or]
  induction table.rows with
  | nil => rfl
  | cons row rows ih =>
    by_cases here : row.broadcastTxId ∈ first
    · simp [here,ih]
      omega
    · by_cases there : row.broadcastTxId ∈ second
      · simp [here,there,ih]
        omega
      · simp [here,there,ih]

/-- A clearing by chunks removes what the chunks it got to name, and without a fault counts it. -/
theorem clearChunks_cases {table after : BroadcastTable}
    (room : removed + table.rows.length ≤ 0x7FFFFFFFFFFFFFFF)
    (ran : clearChunks fault index removed chunks table = (answer, after)) :
    ∃ gone, gone <+: chunks ∧ after = table.without gone.flatten ∧
      ∀ count, answer = .ok count → gone = chunks ∧
        count = removed + (table.delete fun row => row.broadcastTxId ∈ chunks.flatten).1 := by
  induction chunks generalizing index removed table with
  | nil =>
    obtain ⟨rfl, rfl⟩ := Prod.mk.inj ran
    refine ⟨[], List.nil_prefix, table.without_nil.symm, fun count same => ⟨rfl, ?_⟩⟩
    rw [← Except.ok.inj same]
    simp [BroadcastTable.delete]
  | cons chunk chunks ih =>
    rw [clearChunks] at ran
    split at ran
    · rename_i count rest deleted
      have dropped := Except.ok.inj (runBroadcast_ok deleted)
      obtain rfl := congrArg Prod.fst dropped
      obtain rfl : table.without chunk = rest := congrArg Prod.snd dropped
      have split : table.rows.length =
          (table.delete fun row => row.broadcastTxId ∈ chunk).1 + (table.without chunk).rows.length :=
        List.length_eq_length_filter_add _
      have counted : saturatingAdd removed (table.delete fun row => row.broadcastTxId ∈ chunk).1 =
          removed + (table.delete fun row => row.broadcastTxId ∈ chunk).1 :=
        Nat.min_eq_left (by omega)
      rw [counted] at ran
      obtain ⟨gone, front, rfl, whole⟩ := ih (by omega) ran
      refine ⟨chunk :: gone, List.cons_prefix_cons.mpr ⟨rfl, front⟩, ?_, fun total same => ?_⟩
      · exact table.without_without chunk gone.flatten
      · obtain ⟨rfl, rfl⟩ := whole total same
        refine ⟨rfl, ?_⟩
        rw [List.flatten_cons,table.count_append,Nat.add_assoc]
    · obtain ⟨rfl, rfl⟩ := Prod.mk.inj ran
      exact ⟨[], List.nil_prefix, table.without_nil.symm, fun _ same => by cases same⟩

theorem flatten_toChunks_go (size : Nat) (items : List α) (chunk : Array α)
    (chunks : Array (List α)) : (List.toChunks.go size items chunk chunks).flatten =
      chunks.toList.flatten ++ (chunk.toList ++ items) := by
  induction items generalizing chunk chunks with
  | nil => simp [List.toChunks.go]
  | cons item items ih =>
    rw [List.toChunks.go]
    split
    · simp [ih]
    · simp [ih]

theorem flatten_toChunks (size : Nat) (items : List α) : (items.toChunks size).flatten = items := by
  cases items with
  | nil => cases size <;> rfl
  | cons item items =>
    cases size with
    | zero => simp [List.toChunks]
    | succ size => simp [List.toChunks,flatten_toChunks_go]

theorem mem_asBytes_iff {txIds : List TxId} : TxId.asBytes txId ∈ txIds.map TxId.asBytes ↔ txId ∈ txIds :=
  List.mem_map_of_injective TxId.asBytes_injective

/-- Without a fault every chunk is cleared, and what they name together decides the rest. -/
theorem clearChunks_none (table : BroadcastTable) (chunks : List (List (List UInt8))) :
    clearChunks none 0 0 chunks table =
      (.ok (table.delete fun row => row.broadcastTxId ∈ chunks.flatten).1,
        table.without chunks.flatten) := by
  have finishes (index removed : Nat) (chunks : List (List (List UInt8))) (table : BroadcastTable) :
      ∃ count after, clearChunks none index removed chunks table = (.ok count, after) := by
    induction chunks generalizing index removed table with
    | nil => exact ⟨removed, table, rfl⟩
    | cons chunk chunks ih => exact ih _ _ _
  obtain ⟨count, after, ran⟩ := finishes 0 0 chunks table
  obtain ⟨gone, -, rfl, whole⟩ := clearChunks_cases (by rw [Nat.zero_add]; exact table.numbered) ran
  obtain ⟨rfl, rfl⟩ := whole count rfl
  rw [ran,Nat.zero_add]

/-- The front of a list of encoded transactions encodes a front of the list. -/
theorem exists_front {txIds : List TxId} {front : List (List UInt8)}
    (isFront : front <+: txIds.map TxId.asBytes) :
    ∃ mined, mined <+: txIds ∧ front = mined.map TxId.asBytes := by
  refine ⟨txIds.take front.length, List.take_prefix _ _, ?_⟩
  rw [List.map_take]
  exact List.prefix_iff_eq_take.mp isFront

namespace BroadcastTable.Holds

variable {table : BroadcastTable} {entries : PendingEntries}

theorem withoutMined (holds : table.Holds entries) (txIds : List TxId) :
    (table.without (txIds.map TxId.asBytes)).Holds (entries.withoutMined txIds) ∧
      (table.delete fun row => row.broadcastTxId ∈ txIds.map TxId.asBytes).1 =
        (entries.removed (entries.withoutMined txIds)).ncard := by
  refine holds.delete fun place entry _ => ?_
  rw [Bool.not_not,List.contains_eq_mem]
  exact decide_eq_decide.mpr mem_asBytes_iff

theorem withoutExpired (holds : table.Holds entries) (beforeAtMs : UInt64) :
    (table.delete fun row => row.broadcastAtMs < storedUnsigned beforeAtMs).2.Holds
        (entries.withoutExpired saturatedMs beforeAtMs) ∧
      (table.delete fun row => row.broadcastAtMs < storedUnsigned beforeAtMs).1 =
        (entries.removed (entries.withoutExpired saturatedMs beforeAtMs)).ncard := by
  refine holds.delete fun place entry found => ?_
  rw [decide_not,Bool.not_not]
  refine decide_eq_decide.mpr ((storedUnsigned_lt_iff _ _).trans ?_)
  rw [holds.timely place entry found]

theorem withoutMined_nil (holds : table.Holds entries) : table.Holds (entries.withoutMined []) := by
  have kept := (holds.withoutMined []).1
  rwa [List.map_nil,table.without_nil] at kept

theorem next_recording {record : BroadcastRecord} {answer}
    (holds : table.Holds entries) (step : (LedgerEvent.recording record answer).Step table after) :
    ∃ later, (LedgerEvent.recording record answer).Next saturatedMs entries later ∧
      after.Holds later := by
  obtain ⟨fault, ran⟩ := step
  unfold recordPendingBroadcastInputs at ran
  split at ran
  · rename_i written recorded
    obtain ⟨rfl, rfl⟩ := Prod.mk.inj ran
    exact ⟨_, rfl, holds.recordTransaction recorded⟩
  · obtain ⟨rfl, rfl⟩ := Prod.mk.inj ran
    exact ⟨entries, rfl, holds⟩

/-- A clearing that fails keeps the chunks it deleted, a front of the mined transactions. -/
theorem next_clearMined {txIds : List TxId} {answer}
    (holds : table.Holds entries) (step : (LedgerEvent.clearMined txIds answer).Step table after) :
    ∃ later, (LedgerEvent.clearMined txIds answer).Next saturatedMs entries later ∧
      after.Holds later := by
  obtain ⟨fault, ran⟩ := step
  unfold clearPendingBroadcastInputsForMined at ran
  split at ran
  · rename_i nothing
    obtain rfl := List.isEmpty_iff.mp nothing
    obtain ⟨rfl, rfl⟩ := Prod.mk.inj ran
    refine ⟨_, ⟨rfl, ?_⟩, holds.withoutMined_nil⟩
    rw [← (holds.withoutMined []).2]
    simp [BroadcastTable.delete]
  · split at ran
    · obtain ⟨gone, front, rfl, whole⟩ :=
        clearChunks_cases (by rw [Nat.zero_add]; exact table.numbered) ran
      cases answer with
      | ok count =>
        obtain ⟨rfl, rfl⟩ := whole count rfl
        rw [flatten_toChunks,Nat.zero_add]
        obtain ⟨kept, counted⟩ := holds.withoutMined txIds
        exact ⟨_, ⟨rfl, counted⟩, kept⟩
      | error error =>
        obtain ⟨rest, split⟩ := front
        have isFront : gone.flatten <+: txIds.map TxId.asBytes :=
          ⟨rest.flatten, by rw [← List.flatten_append,split,flatten_toChunks]⟩
        obtain ⟨mined, isFront, named⟩ := exists_front isFront
        rw [named]
        exact ⟨_, ⟨mined, isFront, rfl⟩, (holds.withoutMined mined).1⟩
    · obtain ⟨rfl, rfl⟩ := Prod.mk.inj ran
      exact ⟨_, ⟨[], List.nil_prefix, rfl⟩, holds.withoutMined_nil⟩

theorem next_clearExpired {beforeAtMs : UInt64} {answer} (holds : table.Holds entries)
    (step : (LedgerEvent.clearExpired beforeAtMs answer).Step table after) :
    ∃ later, (LedgerEvent.clearExpired beforeAtMs answer).Next saturatedMs entries later ∧
      after.Holds later := by
  obtain ⟨fault, ran⟩ := step
  unfold clearExpiredPendingBroadcastInputs at ran
  split at ran
  · rename_i count rest deleted
    obtain ⟨_, -, deleted⟩ := bind_ok_iff.mp deleted
    have dropped := Except.ok.inj (runBroadcast_ok deleted)
    obtain ⟨rfl, rfl⟩ := Prod.mk.inj ran
    obtain rfl := congrArg Prod.fst dropped
    obtain rfl := congrArg Prod.snd dropped
    obtain ⟨kept, counted⟩ := holds.withoutExpired beforeAtMs
    exact ⟨_, ⟨rfl, counted⟩, kept⟩
  · obtain ⟨rfl, rfl⟩ := Prod.mk.inj ran
    exact ⟨entries, rfl, holds⟩

/-- A call on the table is one on the map. -/
theorem next {event : LedgerEvent} (holds : table.Holds entries) (step : event.Step table after) :
    ∃ later, event.Next saturatedMs entries later ∧ after.Holds later := by
  cases event with
  | recording record answer => exact holds.next_recording step
  | clearMined txIds answer => exact holds.next_clearMined step
  | clearExpired beforeAtMs answer => exact holds.next_clearExpired step

/-- A history of the table is one of the map. -/
theorem path {events : List LedgerEvent} (holds : table.Holds entries)
    (run : Path LedgerEvent.Step table events after) :
    ∃ later, Path (LedgerEvent.Next saturatedMs) entries events later ∧ after.Holds later := by
  induction run generalizing entries with
  | nil => exact ⟨entries, .nil, holds⟩
  | @cons table event next events after step run ih =>
    obtain ⟨middle, moves, kept⟩ := holds.next step
    obtain ⟨later, rest, held⟩ := ih kept
    exact ⟨later, .cons moves rest, held⟩

end BroadcastTable.Holds

section Rows

/-! The rows that the wallet model keeps are those of the same map. -/

def BroadcastRecord.plain (record : BroadcastRecord) : PendingBroadcastRecord where
  broadcastTxId := record.broadcastTxId
  accountId := record.accountId
  broadcastAtMs := record.broadcastAtMs.toNat
  broadcastAtHeight := record.broadcastAtHeight.map UInt32.toNat
  inputs := record.inputs.map fun input => (input.1, input.2.val)

def inputRowLayout : Sql.Layout PendingBroadcastInputRow (TxId × OutPoint) PendingEntry
    (TxId × OutPoint) where
  row place entry := {
    broadcastTxId := place.1
    outpoint := place.2
    valueZat := entry.valueZat.val.raw.toNat
    accountId := entry.accountId
    broadcastAtMs := entry.broadcastAtMs.toNat
    broadcastAtHeight := entry.broadcastAtHeight.map UInt32.toNat }
  key row := (row.broadcastTxId, row.outpoint)
  name := id
  named _ _ := rfl
  injective := Function.injective_id

/-- A call that succeeded, on the rows. -/
def LedgerEvent.onRows (rows : PendingBroadcastRows) : LedgerEvent → PendingBroadcastRows
  | .recording record _ => rows.recordPendingBroadcastInputs record.plain
  | .clearMined txIds _ => rows.clearPendingBroadcastInputsForMined txIds
  | .clearExpired beforeAtMs _ => rows.clearExpiredPendingBroadcastInputs beforeAtMs.toNat

def LedgerEvent.Succeeds : LedgerEvent → Prop
  | .recording _ answer => answer = .ok ()
  | .clearMined _ answer | .clearExpired _ answer => ∃ count, answer = .ok count

theorem rowOf_plain (record : BroadcastRecord) (input : OutPoint × CheckedZatoshis) :
    PendingBroadcastRows.rowOf record.plain (input.1, input.2.val) =
      inputRowLayout.row (record.broadcastTxId, input.1) (record.entry saturatedMs input) := by
  have supply : input.2.val.raw.toNat ≤ 2_100_000_000_000_000 :=
    UInt64.le_iff_toNat_le.mp input.2.property
  have value : clampUnsignedToI64 input.2.val.raw.toNat = input.2.val.raw.toNat :=
    Nat.min_eq_left (by omega)
  simp only [PendingBroadcastRows.rowOf,BroadcastRecord.plain,inputRowLayout,BroadcastRecord.entry,
    value,toNat_saturatedMs]

theorem mem_rows_upsert_iff {rows : PendingBroadcastRows} :
    other ∈ PendingBroadcastRows.upsert row rows ↔ other = row ∨
      (other ∈ rows ∧ inputRowLayout.key other ≠ (row.broadcastTxId, row.outpoint)) := by
  rw [PendingBroadcastRows.upsert,List.mem_cons,List.mem_filter,decide_eq_true_iff]
  exact or_congr_right (and_congr_right fun _ => not_congr Prod.mk_inj.symm)

theorem represents_record {rows : PendingBroadcastRows} {entries : PendingEntries}
    (represents : inputRowLayout.Represents rows entries) (record : BroadcastRecord) :
    inputRowLayout.Represents (rows.recordPendingBroadcastInputs record.plain)
      (entries.recorded saturatedMs record) := by
  simp only [PendingBroadcastRows.recordPendingBroadcastInputs,PendingEntries.recorded,
    BroadcastRecord.plain,List.foldl_map]
  generalize record.inputs = inputs
  induction inputs generalizing rows entries with
  | nil => exact represents
  | cons input inputs ih =>
    refine ih (represents.put _ _ fun row => ?_)
    rw [← rowOf_plain]
    exact mem_rows_upsert_iff

/-- A call that succeeds does to the rows of the wallet model what it does to the map. -/
theorem represents_next {rows : PendingBroadcastRows} {entries later : PendingEntries}
    {event : LedgerEvent} (represents : inputRowLayout.Represents rows entries)
    (moves : event.Next saturatedMs entries later) (succeeds : event.Succeeds) :
    inputRowLayout.Represents (event.onRows rows) later := by
  cases event with
  | recording record answer =>
    obtain rfl := succeeds
    rw [show later = _ from moves]
    exact represents_record represents record
  | clearMined txIds answer =>
    obtain ⟨count, rfl⟩ := succeeds
    rw [show later = _ from moves.1]
    refine represents.filter fun place entry _ => ?_
    rw [List.contains_eq_mem,← decide_not]
    rfl
  | clearExpired beforeAtMs answer =>
    obtain ⟨count, rfl⟩ := succeeds
    rw [show later = _ from moves.1]
    refine represents.filter fun place entry found => decide_eq_decide.mpr (not_congr ?_)
    rw [UInt64.lt_iff_toNat_lt,toNat_saturatedMs]
    rfl

theorem represents_path {rows : PendingBroadcastRows} {entries later : PendingEntries}
    {events : List LedgerEvent} (represents : inputRowLayout.Represents rows entries)
    (moves : Path (LedgerEvent.Next saturatedMs) entries events later)
    (succeed : ∀ event ∈ events, event.Succeeds) :
    inputRowLayout.Represents (events.foldl LedgerEvent.onRows rows) later := by
  induction moves generalizing rows with
  | nil => exact represents
  | cons first _ ih =>
    obtain ⟨succeeds, succeed⟩ := List.forall_mem_cons.mp succeed
    exact ih (represents_next represents first succeeds) succeed

/-- After calls that succeeded, the table and the rows of the wallet model hold the same map. -/
theorem rows_of_ledger {events : List LedgerEvent} {table : BroadcastTable}
    (run : Path LedgerEvent.Step .empty events table)
    (succeed : ∀ event ∈ events, event.Succeeds) :
    ∃ entries, table.Holds entries ∧
      inputRowLayout.Represents (events.foldl LedgerEvent.onRows []) entries := by
  obtain ⟨entries, moves, holds⟩ := holds_empty.path run
  exact ⟨entries, holds, represents_path (Sql.Layout.represents_empty inputRowLayout) moves succeed⟩

end Rows

theorem clear_of_chunks (table : BroadcastTable) {txIds : List TxId} {chunks : List (List TxId)}
    (names : ∀ txId, txId ∈ chunks.flatten ↔ txId ∈ txIds) :
    clearChunks none 0 0 (chunks.map fun chunk => chunk.map TxId.asBytes) table =
      clearPendingBroadcastInputsForMined none txIds table := by
  have alike (bytes : List UInt8) :
      bytes ∈ (chunks.map fun chunk => chunk.map TxId.asBytes).flatten ↔
        bytes ∈ ((txIds.map TxId.asBytes).toChunks 900).flatten := by
    rw [flatten_toChunks,← List.map_flatten,List.mem_map,List.mem_map]
    exact exists_congr fun txId => and_congr_left' (names txId)
  have whole : clearPendingBroadcastInputsForMined none txIds table =
      clearChunks none 0 0 ((txIds.map TxId.asBytes).toChunks 900) table := by
    unfold clearPendingBroadcastInputsForMined
    split
    · rename_i nothing
      obtain rfl := List.isEmpty_iff.mp nothing
      rfl
    · rfl
  rw [whole,clearChunks_none,clearChunks_none]
  have same : (fun row : BroadcastColumns => decide (row.broadcastTxId ∈
      (chunks.map fun chunk => chunk.map TxId.asBytes).flatten)) = fun row =>
      decide (row.broadcastTxId ∈ ((txIds.map TxId.asBytes).toChunks 900).flatten) :=
    funext fun row => decide_eq_decide.mpr (alike row.broadcastTxId)
  rw [BroadcastTable.without,BroadcastTable.without,same]

theorem unchanged_of_failed {table : BroadcastTable}
    (ran : recordPendingBroadcastInputs fault record table = (.error error, after)) :
    after = table := by
  unfold recordPendingBroadcastInputs at ran
  split at ran
  · cases (Prod.mk.inj ran).1
  · exact (Prod.mk.inj ran).2.symm

/-- Over every history of recordings and clearings, whatever goes wrong in them, the ledger is the
map of the latest recordings, with times that saturate at the largest signed 64-bit value. -/
theorem ledger_refines_map (events : List LedgerEvent) (table : BroadcastTable)
    (run : Path LedgerEvent.Step .empty events table) : LedgerContract saturatedMs events table := by
  obtain ⟨entries, moves, holds⟩ := holds_empty.path run
  exact {
    refines := ⟨entries, moves, holds.lists⟩
    chunks := fun _ _ => clear_of_chunks table
    failed := fun _ _ _ _ => unchanged_of_failed }

/-- A recording at a time that a signed 64-bit integer does not hold. -/
def farRecord : BroadcastRecord where
  accountId := ⟨1⟩
  broadcastTxId := 7
  broadcastAtMs := 0x8000000000000005
  broadcastAtHeight := none
  inputs := [(⟨9, 0⟩, ⟨.zero, Zatoshis.zero_valid⟩)]

def farTable : BroadcastTable := (recordPendingBroadcastInputs none farRecord .empty).2

theorem farTable_path : Path LedgerEvent.Step .empty [.recording farRecord (.ok ())] farTable :=
  .cons ⟨none, Prod.ext rfl rfl⟩ .nil

theorem ledger_refines_map_far :
    LedgerContract saturatedMs [.recording farRecord (.ok ())] farTable :=
  ledger_refines_map _ _ farTable_path

/-- What a listing gives back of that recording. -/
def farRow : BroadcastInputRow :=
  ⟨7, ⟨9, 0⟩, ⟨.zero, Zatoshis.zero_valid⟩, 0x7FFFFFFFFFFFFFFF, none⟩

theorem farTable_lists (order : ScanOrder) (afterAtMs : UInt64) : ∃ rows,
    listPendingBroadcastInputs none order farRecord.accountId afterAtMs farTable = .ok rows ∧
      farRow ∈ rows := by
  obtain ⟨entries, moves, holds⟩ := holds_empty.path farTable_path
  cases moves with
  | cons recorded rest =>
    obtain rfl := recorded
    cases rest
    obtain ⟨rows, listed, -, saturated⟩ := holds.lists order farRecord.accountId afterAtMs
    refine ⟨rows, listed, (saturated farRow).mpr ⟨?_, by decide⟩⟩
    -- the stored time is the largest there is
    rw [saturatedMs]
    split
    · assumption
    · decide

/-- A cutoff later than that recording still lists it, which a ledger of exact times does not. -/
theorem farRecord_listed_before_cutoff :
    Path LedgerEvent.Step .empty [.recording farRecord (.ok ())] farTable ∧
    farRecord.broadcastAtMs < 0x800000000000000A ∧
    (∀ order, ∃ rows, listPendingBroadcastInputs none order farRecord.accountId 0x800000000000000A
      farTable = .ok rows ∧ farRow ∈ rows) ∧
    ¬LedgerContract id [.recording farRecord (.ok ())] farTable := by
  refine ⟨farTable_path, by decide, fun order => farTable_lists order _, fun contract => ?_⟩
  obtain ⟨entries, -, exact⟩ := contract.refines
  obtain ⟨rows, listed, member⟩ := farTable_lists ⟨id, fun _ => .refl _⟩ 0x800000000000000A
  obtain ⟨others, same, -, cut⟩ :=
    exact ⟨id, fun _ => .refl _⟩ farRecord.accountId 0x800000000000000A
  obtain rfl := Except.ok.inj (listed.symm.trans same)
  exact absurd ((cut farRow).mp member).1 (by decide)

end Zally
