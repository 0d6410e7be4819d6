import Mathlib.Data.List.Lex
import Mathlib.Data.Prod.Lex
import Mathlib.Data.String.Basic
import Zally.Sql.Select
import Zally.Wallet.AccountBalance
import Zally.Wallet.ScanEvents

/-! The queries of a scan's events and of an account's history, over the tables of the wallet
database. -/
namespace Zally.LedgerQueries

open Outcome Sql

structure TransactionColumns where
  idTx : Nat
  txid : List UInt8
  minedHeight : Option Int
  deriving DecidableEq

structure NoteColumns where
  transactionId : Nat
  accountId : Nat
  outputIndex : Int
  value : Int
  isChange : Int
  deriving DecidableEq

structure AccountColumns where
  id : Nat
  uuid : List UInt8
  deriving DecidableEq

structure BlockColumns where
  height : Int
  time : Int
  deriving DecidableEq

inductive SpendTable where
  | sapling
  | orchard
  | ironwood
  | transparent

/-- The tables with their primary and unique keys; `spends` lists the spending transactions. -/
structure WalletTables where
  transactions : List TransactionColumns
  transactionIds : Unique (fun _ => True) TransactionColumns.idTx transactions
  txids : Unique (fun _ => True) TransactionColumns.txid transactions
  notes : ShieldedPool → List NoteColumns
  noteKeys : ∀ pool, Unique (fun _ => True) (fun note : NoteColumns =>
    (note.transactionId, note.outputIndex)) (notes pool)
  accounts : List AccountColumns
  accountIds : Unique (fun _ => True) AccountColumns.id accounts
  blocks : List BlockColumns
  blockHeights : Unique (fun _ => True) BlockColumns.height blocks
  spends : SpendTable → List Nat

/-- A row that the queries of received notes select. -/
structure ReceivedShieldedNoteRowRaw where
  accountUuid : List UInt8
  txid : List UInt8
  outputIndex : Int
  value : Int
  minedHeight : Int
  pool : String
  blockTimestampMs : Option Int
  isChange : Int
  spentOurInputs : Int
  deriving DecidableEq

def poolTag : ShieldedPool → String
  | .sapling => "sapling"
  | .orchard => "orchard"
  | .ironwood => "ironwood"

def spentOurInputs (tables : WalletTables) (idTx : Nat) : Int :=
  if idTx ∈ tables.spends .sapling ∨ idTx ∈ tables.spends .orchard ∨
    idTx ∈ tables.spends .ironwood ∨ idTx ∈ tables.spends .transparent then 1 else 0

/-- The join of a note with its transaction, its account and, if it is known, its block. A
transaction that is not mined meets neither of the conditions. -/
def receivedNote (tables : WalletTables) (pool : ShieldedPool) (note : NoteColumns) :
    Option ReceivedShieldedNoteRowRaw := do
  let transaction ← tables.transactions.find? (·.idTx = note.transactionId)
  let account ← tables.accounts.find? (·.id = note.accountId)
  let minedHeight ← transaction.minedHeight
  let block := tables.blocks.find? (·.height = minedHeight)
  pure {
    accountUuid := account.uuid
    txid := transaction.txid
    outputIndex := note.outputIndex
    value := note.value
    minedHeight := minedHeight
    pool := poolTag pool
    blockTimestampMs := block.map (·.time * 1000)
    isChange := note.isChange
    spentOurInputs := spentOurInputs tables transaction.idTx }

def receivedNotes (tables : WalletTables) : List ReceivedShieldedNoteRowRaw :=
  [.sapling, .orchard, .ironwood].flatMap fun pool =>
    (tables.notes pool).filterMap (receivedNote tables pool)

/-- `mined_height ASC, txid ASC, output_index ASC, pool ASC`. -/
def ReceivedShieldedNoteRowRaw.listedAt (row : ReceivedShieldedNoteRowRaw) :
    Int ×ₗ List Nat ×ₗ Int ×ₗ String :=
  toLex (row.minedHeight, toLex (row.txid.map UInt8.toNat, toLex (row.outputIndex, row.pool)))

def undecodable (reason : String) : StorageError := .sqliteFailed reason .notRetryable

/-- `u32::try_from` of a stored integer. -/
def decodeU32 (what : String) (raw : Int) : Except StorageError Nat :=
  if 0 ≤ raw ∧ raw ≤ u32Max then .ok raw.toNat
  else .error (undecodable (what ++ " out of u32 range: " ++ toString raw))

def decodeTransactionId (bytes : List UInt8) : Except StorageError TxId :=
  if bytes.length = 32 then .ok (TxId.fromBytes bytes)
  else .error (undecodable ("transactions.txid had wrong byte length: " ++ toString bytes.length))

def decodePool (tag : String) : Except StorageError ShieldedPool :=
  if tag = "sapling" then .ok .sapling
  else if tag = "orchard" then .ok .orchard
  else if tag = "ironwood" then .ok .ironwood
  else .error (undecodable ("unknown pool tag: " ++ tag))

-- how a library prints the identifier of an account
variable (uuidText : List UInt8 → String)

/-- A row of the account that the wallet holds. -/
def decodeReceivedNote (accountUuid : List UInt8) (accountId : AccountId)
    (row : ReceivedShieldedNoteRowRaw) : Except StorageError ReceivedShieldedNoteRow := do
  let txId ← decodeTransactionId row.txid
  if row.accountUuid.length ≠ 16 then
    .error (undecodable ("accounts.uuid had wrong byte length: " ++ toString row.accountUuid.length))
  else if row.accountUuid ≠ accountUuid then
    .error (.sqliteFailed ("received note row belongs to unknown account " ++
      uuidText row.accountUuid) .requiresOperator)
  else
    let outputIndex ← decodeU32 "received note output_index" row.outputIndex
    let valueZat ← decodeRowZatoshis row.value "received_shielded_notes.value"
    let minedHeight ← decodeU32 "transactions.mined_height" row.minedHeight
    let protocol ← decodePool row.pool
    pure {
      accountId := accountId
      protocol := protocol
      valueZat := valueZat.val
      txId := txId
      outputIndex := .ofNat outputIndex
      minedHeight := minedHeight
      blockTimestampMs := (row.blockTimestampMs.filter (0 ≤ ·)).elim 0 Int.toNat
      isChange := row.isChange ≠ 0
      spentOurInputs := row.spentOurInputs ≠ 0 }

/-- `resolved` is the wallet's account, or why there is none. -/
def receivedShieldedNotesMinedInRange (tables : WalletTables)
    (resolved : Except StorageError (AccountId × List UInt8)) (fromHeight toHeight : BlockHeight) :
    Except StorageError (List ReceivedShieldedNoteRow) := do
  let (accountId, accountUuid) ← resolved
  selectBetween ReceivedShieldedNoteRowRaw.listedAt (·.minedHeight)
    (decodeReceivedNote uuidText accountUuid accountId) (receivedNotes tables) fromHeight toHeight

def listShieldedReceivesForAccount (tables : WalletTables)
    (resolved : Except StorageError (AccountId × List UInt8)) (requested : AccountId) :
    Except StorageError (List ReceivedShieldedNoteRow) := do
  let (accountId, accountUuid) ← resolved
  if accountId ≠ requested then .error .accountNotFound
  else
    (orderBy ReceivedShieldedNoteRowRaw.listedAt
      ((receivedNotes tables).filter (·.accountUuid = accountUuid))).mapM
        (decodeReceivedNote uuidText accountUuid requested)

/-- A mined transaction, for `mined_height ASC, id_tx ASC`. -/
structure MinedTransaction where
  idTx : Nat
  txid : List UInt8
  minedHeight : Int

def minedTransactions (tables : WalletTables) : List MinedTransaction :=
  tables.transactions.filterMap fun transaction =>
    transaction.minedHeight.map fun height => ⟨transaction.idTx, transaction.txid, height⟩

def MinedTransaction.listedAt (transaction : MinedTransaction) : Int ×ₗ Nat :=
  toLex (transaction.minedHeight, transaction.idTx)

def decodeMinedTransaction (transaction : MinedTransaction) : Except StorageError (TxId × BlockHeight) := do
  let txId ← decodeTransactionId transaction.txid
  let height ← decodeU32 "transactions.mined_height" transaction.minedHeight
  pure (txId, height)

def walletTxIdsMinedInRange (tables : WalletTables) (start finish : BlockHeight) :
    Except StorageError (List (TxId × BlockHeight)) :=
  selectBetween MinedTransaction.listedAt (·.minedHeight) decodeMinedTransaction
    (minedTransactions tables) start finish

section Rows

variable {tables : WalletTables} {row first second : ReceivedShieldedNoteRowRaw}

theorem receivedNote_cases (joined : receivedNote tables pool note = some row) :
    ∃ transaction ∈ tables.transactions, transaction.idTx = note.transactionId ∧
      row.txid = transaction.txid ∧ row.outputIndex = note.outputIndex ∧ row.pool = poolTag pool := by
  simp only [receivedNote,Option.bind_eq_bind,Option.bind_eq_some_iff] at joined
  obtain ⟨transaction, found, account, -, height, -, same⟩ := joined
  obtain rfl := Option.some.inj same
  have own := List.find?_some found
  exact ⟨transaction, List.mem_of_find?_eq_some found, of_decide_eq_true own, rfl, rfl, rfl⟩

theorem poolTag_injective : Function.Injective poolTag := by
  intro pool other
  cases pool <;> cases other <;> decide

theorem ReceivedShieldedNoteRowRaw.listedAt_eq_iff : first.listedAt = second.listedAt ↔
    first.minedHeight = second.minedHeight ∧ first.txid = second.txid ∧
      first.outputIndex = second.outputIndex ∧ first.pool = second.pool := by
  have bytes : Function.Injective (List.map UInt8.toNat) :=
    List.map_injective_iff.mpr fun _ _ => UInt8.toNat_inj.mp
  simp only [listedAt,toLex_inj,Prod.mk.injEq,bytes.eq_iff]

/-- Two rows at one place of the order are one row. -/
theorem receivedNotes_unique (tables : WalletTables) :
    Unique (fun _ => True) ReceivedShieldedNoteRowRaw.listedAt (receivedNotes tables) := by
  refine List.pairwise_flatMap.mpr ⟨fun pool _ => ?_, ?_⟩
  · refine (tables.noteKeys pool).filterMap _ ?_
    intro note other differ first joined second joined' _ _ same
    obtain ⟨-, sameTx, sameIndex, -⟩ := ReceivedShieldedNoteRowRaw.listedAt_eq_iff.mp same
    obtain ⟨transaction, member, own, txid, index, -⟩ := receivedNote_cases joined
    obtain ⟨transaction', member', own', txid', index', -⟩ := receivedNote_cases joined'
    have one : transaction = transaction' := tables.txids.eq_of_key member member' trivial trivial
      (txid.symm.trans (sameTx.trans txid'))
    subst one
    exact differ trivial trivial (Prod.ext (own.symm.trans own')
      (index.symm.trans (sameIndex.trans index')))
  · have pools : [ShieldedPool.sapling, .orchard, .ironwood].Pairwise (· ≠ ·) := by decide
    refine pools.imp fun {pool other} differ first left second right _ _ same => differ ?_
    obtain ⟨note, -, joined⟩ := List.mem_filterMap.mp left
    obtain ⟨note', -, joined'⟩ := List.mem_filterMap.mp right
    obtain ⟨-, -, -, -, -, tag⟩ := receivedNote_cases joined
    obtain ⟨-, -, -, -, -, tag'⟩ := receivedNote_cases joined'
    have tags := (ReceivedShieldedNoteRowRaw.listedAt_eq_iff.mp same).2.2.2
    exact poolTag_injective (tag.symm.trans (tags.trans tag'))

theorem minedTransactions_unique (tables : WalletTables) :
    Unique (fun _ => True) MinedTransaction.listedAt (minedTransactions tables) := by
  refine tables.transactionIds.filterMap _ ?_
  intro transaction other differ first mined second mined' _ _ same
  obtain ⟨height, -, rfl⟩ := Option.map_eq_some_iff.mp mined
  obtain ⟨height', -, rfl⟩ := Option.map_eq_some_iff.mp mined'
  exact differ trivial trivial (Prod.mk.inj (toLex_inj.mp same)).2

end Rows

section Decoding

variable {uuidText} {row : ReceivedShieldedNoteRowRaw} {note : ReceivedShieldedNoteRow}

theorem decodeU32_ok_iff : decodeU32 what raw = .ok value ↔ raw = value ∧ value ≤ u32Max := by
  unfold decodeU32
  split
  · rename_i fits
    rw [Except.ok.injEq]
    omega
  · rename_i unfit
    refine iff_of_false (fun same => by cases same) fun ⟨same, bounded⟩ => unfit ?_
    omega

theorem decodeTransactionId_ok_iff : decodeTransactionId bytes = .ok txId ↔ bytes = txId.asBytes := by
  unfold decodeTransactionId
  split
  · rename_i sized
    rw [Except.ok.injEq]
    constructor
    · rintro rfl
      exact (TxId.asBytes_fromBytes sized).symm
    · rintro rfl
      exact TxId.fromBytes_asBytes txId
  · rename_i unsized
    refine iff_of_false (fun same => by cases same) fun same => unsized ?_
    rw [same,TxId.length_asBytes]

theorem decodePool_ok_iff : decodePool tag = .ok pool ↔ tag = poolTag pool := by
  unfold decodePool
  split
  · cases pool <;> simp_all [poolTag]
  split
  · cases pool <;> simp_all [poolTag]
  split
  · cases pool <;> simp_all [poolTag]
  · cases pool <;> simp_all [poolTag]

/-- What a decoded row says. -/
structure Reads (accountUuid : List UInt8) (row : ReceivedShieldedNoteRowRaw)
    (note : ReceivedShieldedNoteRow) : Prop where
  account : row.accountUuid = accountUuid
  txid : row.txid = note.txId.asBytes
  outputIndex : row.outputIndex = note.outputIndex.toNat
  minedHeight : row.minedHeight = note.minedHeight
  bounded : note.minedHeight ≤ u32Max
  pool : row.pool = poolTag note.protocol

theorem reads_of_decoded
    (decoded : decodeReceivedNote uuidText accountUuid accountId row = .ok note) :
    Reads accountUuid row note := by
  obtain ⟨txId, txid, decoded⟩ := bind_ok_iff.mp decoded
  split at decoded
  · cases decoded
  split at decoded
  · cases decoded
  rename_i own
  obtain ⟨outputIndex, index, decoded⟩ := bind_ok_iff.mp decoded
  obtain ⟨valueZat, -, decoded⟩ := bind_ok_iff.mp decoded
  obtain ⟨minedHeight, mined, decoded⟩ := bind_ok_iff.mp decoded
  obtain ⟨protocol, pool, decoded⟩ := bind_ok_iff.mp decoded
  obtain rfl := Except.ok.inj decoded
  obtain ⟨index, bounded⟩ := decodeU32_ok_iff.mp index
  obtain ⟨mined, height⟩ := decodeU32_ok_iff.mp mined
  refine ⟨not_not.mp own, decodeTransactionId_ok_iff.mp txid, ?_, mined, height,
    decodePool_ok_iff.mp pool⟩
  rw [index,UInt32.toNat_ofNat_of_lt' (Nat.lt_succ_of_le bounded)]

theorem Reads.same_place (first : Reads accountUuid row note) (second : Reads accountUuid other note) :
    row.listedAt = other.listedAt := by
  rw [ReceivedShieldedNoteRowRaw.listedAt_eq_iff]
  exact ⟨first.minedHeight.trans second.minedHeight.symm, first.txid.trans second.txid.symm,
    first.outputIndex.trans second.outputIndex.symm, first.pool.trans second.pool.symm⟩

theorem decodeMinedTransaction_ok_iff : decodeMinedTransaction transaction = .ok (txId, height) ↔
    transaction.txid = txId.asBytes ∧ transaction.minedHeight = height ∧ height ≤ u32Max := by
  constructor
  · intro decoded
    obtain ⟨txId, txid, decoded⟩ := bind_ok_iff.mp decoded
    obtain ⟨height, mined, decoded⟩ := bind_ok_iff.mp decoded
    obtain ⟨rfl, rfl⟩ := Prod.mk.inj (Except.ok.inj decoded)
    exact ⟨decodeTransactionId_ok_iff.mp txid, decodeU32_ok_iff.mp mined⟩
  · rintro ⟨txid, mined⟩
    exact bind_ok (decodeTransactionId_ok_iff.mpr txid) (bind_ok (decodeU32_ok_iff.mpr mined) rfl)

end Decoding

section Queries

variable {uuidText} {tables : WalletTables} {account : AccountId × List UInt8}

/-- The received notes that the account's rows decode to. -/
def heldNotes (uuidText : List UInt8 → String) (tables : WalletTables)
    (account : AccountId × List UInt8) : List ReceivedShieldedNoteRow :=
  decodable (decodeReceivedNote uuidText account.2 account.1) (receivedNotes tables)

def heldTransactions (tables : WalletTables) : List (TxId × BlockHeight) :=
  decodable decodeMinedTransaction (minedTransactions tables)

theorem receives_lists (answered : receivedShieldedNotesMinedInRange uuidText tables (.ok account)
      fromHeight toHeight = .ok notes) :
    Lists (heldNotes uuidText tables account) (·.minedHeight) fromHeight toHeight notes := by
  refine lists_selectBetween (receivedNotes_unique tables) (fun before => ?_)
    (fun _ _ read read' => ?_) (fun read => (reads_of_decoded read).minedHeight) answered
  · exact Prod.Lex.monotone_fst _ _ before
  · exact (reads_of_decoded read).same_place (reads_of_decoded read')

theorem minedTransaction_eq {first second : MinedTransaction}
    (member : first ∈ minedTransactions tables) (member' : second ∈ minedTransactions tables)
    (same : first.txid = second.txid) : first = second := by
  obtain ⟨transaction, among, mined⟩ := List.mem_filterMap.mp member
  obtain ⟨other, among', mined'⟩ := List.mem_filterMap.mp member'
  obtain ⟨height, found, rfl⟩ := Option.map_eq_some_iff.mp mined
  obtain ⟨height', found', rfl⟩ := Option.map_eq_some_iff.mp mined'
  have one : transaction = other := tables.txids.eq_of_key among among' trivial trivial same
  subst one
  obtain rfl := Option.some.inj (found.symm.trans found')
  rfl

theorem transactions_lists (answered : walletTxIdsMinedInRange tables start finish = .ok rows) :
    Lists (heldTransactions tables) Prod.snd start finish rows := by
  refine lists_selectBetween (minedTransactions_unique tables) (fun before => ?_)
    (fun member member' read read' => ?_) (fun read => (decodeMinedTransaction_ok_iff.mp read).2.1)
    answered
  · exact Prod.Lex.monotone_fst _ _ before
  · have same := (decodeMinedTransaction_ok_iff.mp read).1.trans
      (decodeMinedTransaction_ok_iff.mp read').1.symm
    rw [minedTransaction_eq member member' same]

theorem receives_tile (uuidText : List UInt8 → String) (tables : WalletTables)
    (resolved : Except StorageError (AccountId × List UInt8)) {lower middle upper : Nat}
    (below : lower ≤ middle + 1) (above : middle ≤ upper) :
    receivedShieldedNotesMinedInRange uuidText tables resolved lower upper = (do
      let first ← receivedShieldedNotesMinedInRange uuidText tables resolved lower middle
      let second ← receivedShieldedNotesMinedInRange uuidText tables resolved (middle + 1) upper
      pure (first ++ second)) := by
  cases resolved with
  | error error => rfl
  | ok account =>
    exact selectBetween_tile (receivedNotes_unique tables) (fun before => Prod.Lex.monotone_fst _ _ before)
      (by exact_mod_cast below) (by exact_mod_cast above)

theorem transactions_tile (tables : WalletTables) {lower middle upper : Nat}
    (below : lower ≤ middle + 1) (above : middle ≤ upper) :
    walletTxIdsMinedInRange tables lower upper = (do
      let first ← walletTxIdsMinedInRange tables lower middle
      let second ← walletTxIdsMinedInRange tables (middle + 1) upper
      pure (first ++ second)) :=
  selectBetween_tile (minedTransactions_unique tables) (fun before => Prod.Lex.monotone_fst _ _ before)
    (by exact_mod_cast below) (by exact_mod_cast above)

/-- The account's history is the query of every height, where both are answered. -/
theorem history_eq (accountId : AccountId) (accountUuid : List UInt8)
    (answered : receivedShieldedNotesMinedInRange uuidText tables (.ok (accountId, accountUuid)) 0
      u32Max = .ok notes)
    (listed : listShieldedReceivesForAccount uuidText tables (.ok (accountId, accountUuid))
      accountId = .ok history) : history = notes := by
  obtain ⟨_, resolved, listed⟩ := bind_ok_iff.mp listed
  obtain rfl := Except.ok.inj resolved
  simp only [ne_eq,not_true_eq_false,if_false] at listed
  have answered : (orderBy ReceivedShieldedNoteRowRaw.listedAt ((receivedNotes tables).filter fun row =>
      ((0 : Nat) : Int) ≤ row.minedHeight ∧ row.minedHeight ≤ (u32Max : Int))).mapM
        (decodeReceivedNote uuidText accountUuid accountId) = .ok notes := answered
  have same : ((receivedNotes tables).filter fun row => decide (row.accountUuid = accountUuid)) =
      (receivedNotes tables).filter fun row =>
        ((0 : Nat) : Int) ≤ row.minedHeight ∧ row.minedHeight ≤ (u32Max : Int) := by
    refine List.filter_congr fun row member => Bool.eq_iff_iff.mpr ?_
    rw [decide_eq_true_eq,decide_eq_true_eq]
    constructor
    · intro own
      have among : row ∈ orderBy ReceivedShieldedNoteRowRaw.listedAt
          ((receivedNotes tables).filter (·.accountUuid = accountUuid)) := by
        simp [member,own]
      obtain ⟨note, -, read⟩ := exists_of_forall₂ (mapM_ok_iff.mp listed) among
      have reads := reads_of_decoded read
      rw [reads.minedHeight]
      exact ⟨Int.natCast_nonneg _, Int.ofNat_le.mpr reads.bounded⟩
    · intro inside
      have among : row ∈ orderBy ReceivedShieldedNoteRowRaw.listedAt ((receivedNotes tables).filter
          fun row => ((0 : Nat) : Int) ≤ row.minedHeight ∧ row.minedHeight ≤ (u32Max : Int)) := by
        rw [mem_orderBy,List.mem_filter,decide_eq_true_eq]
        exact ⟨member, inside⟩
      obtain ⟨note, -, read⟩ := exists_of_forall₂ (mapM_ok_iff.mp answered) among
      exact (reads_of_decoded read).account
  rw [same,answered] at listed
  exact (Except.ok.inj listed).symm

/-- Over any heights that are queried one range after the other, the answers together are the answer
for the whole, or the first failure among them. An answer lists what the rows of its range decode
to, once each and by height, as whoever announces it relies on; and the account's history is the
answer for every height. -/
theorem ledgerQueries_answer (uuidText : List UInt8 → String) (tables : WalletTables)
    (account : AccountId × List UInt8) (rising : Rising lower (upper :: uppers)) :
    ((∀ resolved, receivedShieldedNotesMinedInRange uuidText tables resolved lower
          ((upper :: uppers).getLast (List.cons_ne_nil _ _)) =
        ((chunks lower (upper :: uppers)).mapM fun range =>
          receivedShieldedNotesMinedInRange uuidText tables resolved range.1 range.2).map
            List.flatten) ∧
      walletTxIdsMinedInRange tables lower ((upper :: uppers).getLast (List.cons_ne_nil _ _)) =
        ((chunks lower (upper :: uppers)).mapM fun range =>
          walletTxIdsMinedInRange tables range.1 range.2).map List.flatten) ∧
    (∀ fromHeight toHeight notes,
      receivedShieldedNotesMinedInRange uuidText tables (.ok account) fromHeight toHeight =
        .ok notes →
        Lists (heldNotes uuidText tables account) (·.minedHeight) fromHeight toHeight notes) ∧
    (∀ start finish rows, walletTxIdsMinedInRange tables start finish = .ok rows →
      Lists (heldTransactions tables) Prod.snd start finish rows) ∧
    (∀ first last,
      Sync.LedgerAnswer (heldTransactions tables) (heldNotes uuidText tables account)
        ⟨.walletTxIdsMinedInRange first last, walletTxIdsMinedInRange tables first last⟩ ∧
      Sync.LedgerAnswer (heldTransactions tables) (heldNotes uuidText tables account)
        ⟨.receivedShieldedNotesMinedInRange first last,
          receivedShieldedNotesMinedInRange uuidText tables (.ok account) first last⟩) ∧
    ∀ notes history, receivedShieldedNotesMinedInRange uuidText tables (.ok account) 0 u32Max =
      .ok notes →
      listShieldedReceivesForAccount uuidText tables (.ok account) account.1 = .ok history →
      history = notes := by
  refine ⟨⟨fun resolved => ?_, ?_⟩, fun _ _ _ => receives_lists, fun _ _ _ => transactions_lists,
    fun first last => ⟨?_, ?_⟩, fun notes history => history_eq account.1 account.2⟩
  · exact tile_chunks (fun below above => receives_tile uuidText tables resolved below above) rising
  · exact tile_chunks (fun below above => transactions_tile tables below above) rising
  · cases answered : walletTxIdsMinedInRange tables first last with
    | error error => trivial
    | ok rows =>
      obtain ⟨once, -, whole⟩ := transactions_lists answered
      exact ⟨once, fun row => (whole row).mp⟩
  · cases answered : receivedShieldedNotesMinedInRange uuidText tables (.ok account) first last with
    | error error => trivial
    | ok notes =>
      obtain ⟨once, -, whole⟩ := receives_lists answered
      exact ⟨once, fun note => (whole note).mp⟩

section Sample

def sampleAccount : AccountId × List UInt8 := (⟨5⟩, List.replicate 16 1)

def sampleText (uuid : List UInt8) : String := toString uuid

/-- A payment at height 1, a change at height 3 and a payment that waits to be mined. -/
def sampleTables : WalletTables where
  transactions := [⟨1, TxId.asBytes 7, some 1⟩, ⟨2, TxId.asBytes 8, some 3⟩, ⟨3, TxId.asBytes 9, none⟩]
  transactionIds := by decide
  txids := by decide
  notes
    | .orchard => [⟨2, 1, 0, 40, 1⟩, ⟨1, 1, 0, 100, 0⟩, ⟨3, 1, 0, 5, 0⟩]
    | _ => []
  noteKeys pool := by cases pool <;> decide
  accounts := [⟨1, sampleAccount.2⟩]
  accountIds := by decide
  blocks := [⟨1, 1000⟩]
  blockHeights := by decide
  spends
    | .orchard => [2]
    | _ => []

def sampleReceive : ReceivedShieldedNoteRow :=
  ⟨⟨5⟩, .orchard, ⟨100⟩, 7, 0, 1, 1000000, false, false⟩

def sampleChange : ReceivedShieldedNoteRow := ⟨⟨5⟩, .orchard, ⟨40⟩, 8, 0, 3, 0, true, true⟩

/-- What two ranges answer one after the other, the two together answer. -/
theorem sampleQueries_answer :
    receivedShieldedNotesMinedInRange sampleText sampleTables (.ok sampleAccount) 0 4 =
      .ok [sampleReceive, sampleChange] := by
  have payment : (receivedNotes sampleTables).filter (fun row =>
      ((0 : Nat) : Int) ≤ row.minedHeight ∧ row.minedHeight ≤ ((2 : Nat) : Int)) =
        [⟨sampleAccount.2, TxId.asBytes 7, 0, 100, 1, "orchard", some 1000000, 0, 0⟩] := by decide
  have change : (receivedNotes sampleTables).filter (fun row =>
      ((3 : Nat) : Int) ≤ row.minedHeight ∧ row.minedHeight ≤ ((4 : Nat) : Int)) =
        [⟨sampleAccount.2, TxId.asBytes 8, 0, 40, 3, "orchard", none, 1, 1⟩] := by decide
  have first : receivedShieldedNotesMinedInRange sampleText sampleTables (.ok sampleAccount) 0 2 =
      .ok [sampleReceive] := by
    change (orderBy _ _).mapM _ = _
    rw [payment,orderBy,List.mergeSort_singleton]
    rfl
  have second : receivedShieldedNotesMinedInRange sampleText sampleTables (.ok sampleAccount) 3 4 =
      .ok [sampleChange] := by
    change (orderBy _ _).mapM _ = _
    rw [change,orderBy,List.mergeSort_singleton]
    rfl
  have rising : Rising 0 [2, 4] := ⟨by decide, by decide, trivial⟩
  refine ((ledgerQueries_answer sampleText sampleTables sampleAccount rising).1.1
    (.ok sampleAccount)).trans ?_
  simp only [chunks,List.mapM_cons,List.mapM_nil,first,second]
  rfl

end Sample

end Queries

end Zally.LedgerQueries
