import Mathlib.Data.List.Sort
import Zally.Sql.Rows
import Zally.Storage.LockedNotes

/-! The hold ledger of the wallet database: its table and the statements of each call. -/
namespace Zally

structure HoldRecord where
  holdId : HoldId
  requestId : CheckedIdempotencyKey
  idempotencyKey : CheckedIdempotencyKey
  accountId : AccountId
  amountZat : Zatoshis
  spendableForCheckZat : CheckedZatoshis
  lockedNotes : List HeldNote
  reservedAtMs : UInt64

structure HoldRow where
  holdId : HoldId
  requestId : CheckedIdempotencyKey
  idempotencyKey : CheckedIdempotencyKey
  accountId : AccountId
  amountZat : CheckedZatoshis
  lockedNotes : List HeldNote
  reservedAtMs : UInt64
  finalizedTxId : Option TxId
  releasedAtMs : Option UInt64
  deriving DecidableEq

def HoldRow.isActive (row : HoldRow) : Bool := row.finalizedTxId.isNone && row.releasedAtMs.isNone

/-- A row of `ext_zally_holds`. The identifier columns are written from identifiers only,
the others hold what SQLite stores. -/
structure HoldColumns where
  holdId : HoldId
  requestId : String
  idempotencyKey : String
  accountId : AccountId
  amountZat : Int64
  lockedNotes : List UInt8
  reservedAtMs : Int64
  finalizedTxId : Option TxId
  releasedAtMs : Option Int64
  deriving DecidableEq

namespace HoldColumns

/-- `finalized_tx_id IS NULL AND released_at_ms IS NULL`. -/
def Active (row : HoldColumns) : Prop := row.finalizedTxId = none ∧ row.releasedAtMs = none

instance : DecidablePred Active := fun row =>
  inferInstanceAs (Decidable (row.finalizedTxId = none ∧ row.releasedAtMs = none))

/-- The active rows of one account. -/
def ActiveFor (accountId : AccountId) (row : HoldColumns) : Prop :=
  row.accountId = accountId ∧ row.Active

instance (accountId : AccountId) : DecidablePred (ActiveFor accountId) := fun row =>
  inferInstanceAs (Decidable (row.accountId = accountId ∧ row.Active))

end HoldColumns

/-- An unsigned value in an integer column. -/
def storedUnsigned (unsigned : UInt64) : Int64 := .ofInt (clampUnsignedToI64 unsigned.toNat)

/-- The row that `create_hold` inserts. -/
def HoldRecord.columns (record : HoldRecord) : HoldColumns where
  holdId := record.holdId
  requestId := record.requestId.val.text
  idempotencyKey := record.idempotencyKey.val.text
  accountId := record.accountId
  amountZat := storedUnsigned record.amountZat.raw
  lockedNotes := encodeLockedNotes record.lockedNotes
  reservedAtMs := storedUnsigned record.reservedAtMs
  finalizedTxId := none
  releasedAtMs := none

/-- The table with its primary key and the unique partial index over its active rows. -/
structure HoldTable where
  rows : List HoldColumns
  primaryKey : Sql.Unique (fun _ => True) HoldColumns.holdId rows
  activeRequest : Sql.Unique HoldColumns.Active HoldColumns.requestId rows

namespace HoldTable

def empty : HoldTable := ⟨[], Sql.unique_nil, Sql.unique_nil⟩

/-- SQLite's limit on the bytes of one value. -/
def maxValueBytes : Nat := 1_000_000_000

def insert (table : HoldTable) (row : HoldColumns) : Except String HoldTable :=
  if row.lockedNotes.length > maxValueBytes then .error "string or blob too big"
  else if primaryKey : Sql.Unique (fun _ => True) HoldColumns.holdId (table.rows ++ [row]) then
    if activeRequest : Sql.Unique HoldColumns.Active HoldColumns.requestId (table.rows ++ [row]) then
      .ok ⟨table.rows ++ [row], primaryKey, activeRequest⟩
    else .error "UNIQUE constraint failed: ext_zally_holds.request_id"
  else .error "UNIQUE constraint failed: ext_zally_holds.hold_id"

end HoldTable

/-- The nullable column that one of the two terminal calls sets. -/
inductive HoldTerminal where
  | released (atMs : UInt64)
  | finalized (txId : TxId)
  deriving DecidableEq

namespace HoldTerminal

/-- The column the call sets is not NULL. -/
def isSet : HoldTerminal → HoldColumns → Bool
  | .released _, row => row.releasedAtMs.isSome
  | .finalized _, row => row.finalizedTxId.isSome

def set : HoldTerminal → HoldColumns → HoldColumns
  | .released atMs, row => { row with releasedAtMs := some (storedUnsigned atMs) }
  | .finalized txId, row => { row with finalizedTxId := some txId }

/-- `UPDATE .. SET column = .. WHERE hold_id = .. AND column IS NULL` on one row. -/
def update (terminal : HoldTerminal) (holdId : HoldId) (row : HoldColumns) : HoldColumns :=
  if row.holdId = holdId ∧ terminal.isSet row = false then terminal.set row else row

variable (terminal : HoldTerminal) (holdId : HoldId) (row : HoldColumns)

@[simp] theorem update_holdId : (terminal.update holdId row).holdId = row.holdId := by
  cases terminal <;> simp only [update,set] <;> split <;> rfl

@[simp] theorem update_requestId : (terminal.update holdId row).requestId = row.requestId := by
  cases terminal <;> simp only [update,set] <;> split <;> rfl

@[simp] theorem update_accountId : (terminal.update holdId row).accountId = row.accountId := by
  cases terminal <;> simp only [update,set] <;> split <;> rfl

@[simp] theorem update_amountZat : (terminal.update holdId row).amountZat = row.amountZat := by
  cases terminal <;> simp only [update,set] <;> split <;> rfl

theorem active_of_update (active : (terminal.update holdId row).Active) : row.Active := by
  unfold update at active
  split at active
  · cases terminal
    · exact absurd active.2 (by simp [set])
    · exact absurd active.1 (by simp [set])
  · exact active

theorem update_of_ne (other : row.holdId ≠ holdId) : terminal.update holdId row = row :=
  if_neg fun matched => other matched.1

end HoldTerminal

def HoldTable.update (table : HoldTable) (terminal : HoldTerminal) (holdId : HoldId) : HoldTable where
  rows := table.rows.map (terminal.update holdId)
  primaryKey := table.primaryKey.map (terminal.update_holdId holdId) fun _ => id
  activeRequest := table.activeRequest.map (terminal.update_requestId holdId)
    (terminal.active_of_update holdId)

inductive HoldStatement where
  | txStart
  | requestLookup
  | activeSum
  | insert
  | txCommit
  | lookup
  | update
  | prepare
  | query
  | row
  deriving DecidableEq

/-- A failure of the database outside the rows: the statement and SQLite's text. -/
structure SqlFault where
  statement : HoldStatement
  text : String

/-- The answer of one statement, its failures under the caller's message and posture. -/
def runStatement (fault : Option SqlFault) (statement : HoldStatement) (message : String)
    (posture : FailurePosture) (answer : Except String α) : Except StorageError α :=
  match fault.filter (·.statement = statement) with
  | some fault => .error (.sqliteFailed s!"{message}: {fault.text}" posture)
  | none => answer.mapError fun text => .sqliteFailed s!"{message}: {text}" posture

def findActiveReservationIdByRequest (fault : Option SqlFault) (table : HoldTable)
    (requestId : String) : Except StorageError (Option HoldId) :=
  runStatement fault .requestLookup "dispense reservation request-id lookup failed" .notRetryable
    (.ok ((table.rows.find? fun row => row.requestId = requestId ∧ row.Active).map (·.holdId)))

def sumActiveReservations (fault : Option SqlFault) (table : HoldTable) (accountId : AccountId) :
    Except StorageError Nat := do
  let sum ← runStatement fault .activeSum "dispense reservation active-sum query failed"
    .notRetryable
    (Sql.sumColumn ((table.rows.filter (HoldColumns.ActiveFor accountId)).map (·.amountZat.toInt)))
  if 0 ≤ sum then pure sum.toNat
  else throw (.rowValueOutOfRange "ext_zally_holds.amount_zat (sum)" (toString sum))

/-- `Zatoshis::try_from(..).unwrap_or(Zatoshis::zero())`. -/
def Zatoshis.tryFromOrZero (zat : Nat) : CheckedZatoshis :=
  match tryFrom (.ofNat zat) with
  | .ok checked => checked
  | .error _ => ⟨zero, UInt64.zero_le⟩

/-- The statements of `create_hold` inside its transaction. -/
def insertHold (fault : Option SqlFault) (record : HoldRecord) (table : HoldTable) :
    Except StorageError HoldTable := do
  runStatement fault .txStart "dispense reservation tx start failed" .retryable (.ok ())
  let existing ← findActiveReservationIdByRequest fault table record.requestId.val.text
  if existing.isSome then throw .holdRequestConflict
  let activeSum ← sumActiveReservations fault table record.accountId
  let projected := saturatingAdd activeSum record.amountZat.raw.toNat
  if projected > record.spendableForCheckZat.val.raw.toNat then
    let available :=
      Zatoshis.tryFromOrZero (record.spendableForCheckZat.val.raw.toNat - activeSum)
    throw (.insufficientFunds record.amountZat available.val)
  let inserted ← runStatement fault .insert "dispense reservation insert failed" .notRetryable
    (table.insert record.columns)
  runStatement fault .txCommit "dispense reservation tx commit failed" .retryable (.ok inserted)

/-- A transaction dropped before its commit is rolled back. -/
def createHold (fault : Option SqlFault) (record : HoldRecord) (table : HoldTable) :
    Except StorageError Unit × HoldTable :=
  match insertHold fault record table with
  | .ok inserted => (.ok (), inserted)
  | .error error => (.error error, table)

/-- The two terminal calls: look the row up, then set its column unless it is set. `call`
names the call in its messages. -/
def endHold (call : String) (terminal : HoldTerminal) (fault : Option SqlFault) (holdId : HoldId)
    (table : HoldTable) : Except StorageError HoldTable := do
  let found ← runStatement fault .lookup s!"dispense reservation {call} lookup failed" .notRetryable
    (.ok (table.rows.find? fun row => row.holdId = holdId))
  match found with
  | none => throw .holdNotFound
  | some row =>
    if terminal.isSet row then pure table
    else
      runStatement fault .update s!"dispense reservation {call} update failed" .notRetryable
        (.ok (table.update terminal holdId))

def releaseHold (fault : Option SqlFault) (holdId : HoldId) (releasedAtMs : UInt64)
    (table : HoldTable) : Except StorageError HoldTable :=
  endHold "release" (.released releasedAtMs) fault holdId table

def finalizeHold (fault : Option SqlFault) (holdId : HoldId) (txId : TxId) (table : HoldTable) :
    Except StorageError HoldTable :=
  endHold "finalize" (.finalized txId) fault holdId table

/-- The text of a rejected idempotency key. -/
def IdempotencyKeyError.text : IdempotencyKeyError → String
  | .invalidLength byteCount =>
    s!"idempotency key length is {byteCount}; valid range is 1-128 characters"
  | .invalidCharacter byteOffset =>
    s!"idempotency key has a non-printable character at byte offset {byteOffset}; valid range is 0x20-0x7E"

def decodeKeyColumn (column text : String) : Except StorageError CheckedIdempotencyKey :=
  (IdempotencyKey.tryFrom text).mapError fun error =>
    .rowValueOutOfRange column s!"invalid idempotency key: {error.text}"

/-- `u64::try_from` of a stored integer. -/
def decodeUnsigned (column : String) (raw : Int64) : Except StorageError UInt64 :=
  if 0 ≤ raw.toInt then .ok (.ofNat raw.toInt.toNat)
  else .error (.rowValueOutOfRange column (toString raw.toInt))

def decodeHoldRow (row : HoldColumns) : Except StorageError HoldRow := do
  let requestId ← decodeKeyColumn "ext_zally_holds.request_id" row.requestId
  let idempotencyKey ← decodeKeyColumn "ext_zally_holds.idempotency_key" row.idempotencyKey
  let amountU64 ← decodeUnsigned "ext_zally_holds.amount_zat" row.amountZat
  let amountZat ← (Zatoshis.tryFrom amountU64).mapError fun _ =>
    .rowValueOutOfRange "ext_zally_holds.amount_zat" (toString amountU64.toNat)
  let reservedAtMs ← decodeUnsigned "ext_zally_holds.reserved_at_ms" row.reservedAtMs
  let releasedAtMs ← row.releasedAtMs.mapM (decodeUnsigned "ext_zally_holds.released_at_ms")
  let lockedNotes ← decodeLockedNotes row.lockedNotes
  pure {
    holdId := row.holdId
    requestId
    idempotencyKey
    accountId := row.accountId
    amountZat
    lockedNotes
    reservedAtMs
    finalizedTxId := row.finalizedTxId
    releasedAtMs }

/-- The rows a SELECT yields, its failures under the name of the call. -/
def selectRows (fault : Option SqlFault) (call : String) (selected : α) :
    Except StorageError α := do
  runStatement fault .prepare s!"{call} prepare failed" .notRetryable (.ok ())
  runStatement fault .query s!"{call} query failed" .notRetryable (.ok ())
  runStatement fault .row s!"{call} row failed" .notRetryable (.ok selected)

/-- The rows of a request that `ORDER BY reserved_at_ms DESC` puts first; SQLite does not say
which of them it returns. -/
def latestRows (table : HoldTable) (requestId : String) : List HoldColumns :=
  let rows := table.rows.filter fun row => row.requestId = requestId
  rows.filter fun row => ∀ other ∈ rows, other.reservedAtMs ≤ row.reservedAtMs

/-- The row that `LIMIT 1` leaves; `choose` is SQLite's choice among rows that sort equal. -/
def latestRow (choose : List HoldColumns → Nat) (table : HoldTable) (requestId : String) :
    Option HoldColumns :=
  let latest := latestRows table requestId
  latest[choose latest % latest.length]?

def findHoldByRequestId (fault : Option SqlFault) (choose : List HoldColumns → Nat)
    (requestId : CheckedIdempotencyKey) (table : HoldTable) :
    Except StorageError (Option HoldRow) := do
  let found ← selectRows fault "dispense reservation lookup-by-request"
    (latestRow choose table requestId.val.text)
  found.mapM decodeHoldRow

/-- `ORDER BY reserved_at_ms ASC, hold_id ASC`. -/
def HoldColumns.listedBefore (first second : HoldColumns) : Bool :=
  first.reservedAtMs < second.reservedAtMs ∨
    first.reservedAtMs = second.reservedAtMs ∧ first.holdId.uuid ≤ second.holdId.uuid

def listActiveHolds (fault : Option SqlFault) (accountId : AccountId) (table : HoldTable) :
    Except StorageError (List HoldRow) := do
  let rows ← selectRows fault "list active dispense reservations"
    ((table.rows.filter (HoldColumns.ActiveFor accountId)).mergeSort HoldColumns.listedBefore)
  rows.mapM decodeHoldRow

def sumActiveDispenseReservedZat (fault : Option SqlFault) (accountId : AccountId)
    (table : HoldTable) : Except StorageError CheckedZatoshis := do
  let totalU64 ← sumActiveReservations fault table accountId
  (Zatoshis.tryFrom (.ofNat totalU64)).mapError fun _ =>
    .rowValueOutOfRange "ext_zally_holds.amount_zat (sum)" (toString totalU64)

end Zally
