import Zally.Async.Machine
import Zally.Storage.Hold

/-! Runs of the calls that change the hold ledger: what an account's active holds add up to
and when a hold that ended stays as it ended. -/
namespace Zally

open Async Outcome

/-- One call that changes the hold ledger, with the database failure it meets. -/
inductive HoldCall where
  | create (fault : Option SqlFault) (record : HoldRecord)
  | release (fault : Option SqlFault) (holdId : HoldId) (releasedAtMs : UInt64)
  | finalize (fault : Option SqlFault) (holdId : HoldId) (txId : TxId)

/-- The ledger after a terminal call: a statement that failed wrote nothing. -/
def HoldTable.written (table : HoldTable) : Except StorageError HoldTable → HoldTable
  | .ok updated => updated
  | .error _ => table

/-- The ledger after a call. -/
def HoldCall.run (table : HoldTable) : HoldCall → HoldTable
  | create fault record => (createHold fault record table).2
  | release fault holdId releasedAtMs => table.written (releaseHold fault holdId releasedAtMs table)
  | finalize fault holdId txId => table.written (finalizeHold fault holdId txId table)

/-- A sequence of calls from one ledger to another. -/
abbrev HoldPath := Async.Path fun (before : HoldTable) (call : HoldCall) after => call.run before = after

/-- What the active holds of an account add up to. -/
def HoldTable.activeZat (table : HoldTable) (accountId : AccountId) : Nat :=
  Sql.total (HoldColumns.ActiveFor accountId) (·.amountZat.toInt.toNat) table.rows

theorem runStatement_ok_iff : runStatement fault statement message posture answer = .ok value ↔
    fault.filter (·.statement = statement) = none ∧ answer = .ok value := by
  unfold runStatement
  cases fault.filter (·.statement = statement) with
  | some fault => simp
  | none => cases answer <;> simp [Except.mapError]

theorem toInt_storedUnsigned (unsigned : UInt64) :
    (storedUnsigned unsigned).toInt = (min unsigned.toNat (2 ^ 63 - 1) : Nat) := by
  rw [storedUnsigned,clampUnsignedToI64]
  exact Int64.toInt_ofInt_of_le (by omega) (by omega)

theorem decodeUnsigned_ok_iff : decodeUnsigned column raw = .ok value ↔
    0 ≤ raw.toInt ∧ value.toNat = raw.toInt.toNat := by
  have bound : raw.toInt.toNat < 2 ^ 64 := by
    have := raw.toInt_lt
    omega
  unfold decodeUnsigned
  by_cases positive : 0 ≤ raw.toInt
  · rw [if_pos positive,Except.ok.injEq]
    constructor
    · rintro rfl
      exact ⟨positive, by rw [UInt64.toNat_ofNat',Nat.mod_eq_of_lt bound]⟩
    · rintro ⟨-, same⟩
      refine UInt64.toNat_inj.mp ?_
      rw [UInt64.toNat_ofNat',Nat.mod_eq_of_lt bound,same]
  · simp [positive]

theorem decodeUnsigned_stored (column : String) (unsigned : UInt64) :
    ∃ value, decodeUnsigned column (storedUnsigned unsigned) = .ok value := by
  refine ⟨_, if_pos ?_⟩
  rw [toInt_storedUnsigned]
  omega

theorem Zatoshis.tryFromOrZero_eq {zat : Nat} (fits : zat ≤ max.raw.toNat) :
    (tryFromOrZero zat).val.raw.toNat = zat := by
  have small : zat < 2 ^ 64 := Nat.lt_of_le_of_lt fits (UInt64.toNat_lt _)
  have same : (UInt64.ofNat zat).toNat = zat := by
    rw [UInt64.toNat_ofNat']
    omega
  have within : UInt64.ofNat zat ≤ max.raw := by
    rw [UInt64.le_iff_toNat_le,same]
    exact fits
  have checked : tryFrom (.ofNat zat) = .ok ⟨⟨.ofNat zat⟩, within⟩ := tryFrom_ok_iff.mpr rfl
  rw [tryFromOrZero,checked]
  exact same

theorem Zatoshis.tryFromOrZero_le (zat : Nat) : (tryFromOrZero zat).val.raw.toNat ≤ zat := by
  unfold tryFromOrZero
  split
  · rename_i checked converted
    rw [tryFrom_ok_iff.mp converted,UInt64.toNat_ofNat']
    exact Nat.mod_le _ _
  · exact Nat.zero_le _

theorem IdempotencyKey.text_of_tryFrom (converted : tryFrom written = .ok key) :
    key.val.text = written := by
  unfold tryFrom at converted
  split at converted
  · cases converted
    rfl
  · cases converted

theorem IdempotencyKey.tryFrom_checked (key : CheckedIdempotencyKey) :
    tryFrom key.val.text = .ok key := by
  unfold tryFrom
  split
  · rfl
  · rename_i failed
    rw [show validate key.val.text = .ok () from key.property] at failed
    cases failed

theorem decodeKeyColumn_ok (decoded : decodeKeyColumn column text = .ok key) :
    key.val.text = text := IdempotencyKey.text_of_tryFrom (mapError_ok_iff.mp decoded)

theorem isSome_of_mapM_ok {decode : α → Except StorageError β}
    (mapped : Option.mapM decode stored = .ok decoded) : decoded.isSome = stored.isSome := by
  cases stored with
  | none => cases mapped; rfl
  | some value =>
    obtain ⟨first, -, second⟩ := bind_ok_iff.mp mapped
    cases second
    rfl

/-- A stored row reads back: its keys and its amount are in range. -/
theorem decodeHoldRow_ok (decoded : decodeHoldRow row = .ok hold) :
    0 ≤ row.amountZat.toInt ∧ hold.amountZat.val.raw.toNat = row.amountZat.toInt.toNat ∧
      hold.holdId = row.holdId ∧ hold.requestId.val.text = row.requestId ∧
      hold.accountId = row.accountId ∧ (hold.isActive = true ↔ row.Active) := by
  simp only [decodeHoldRow,bind_ok_iff,mapError_ok_iff] at decoded
  obtain ⟨requestId, keyed, idempotencyKey, -, amount, unsigned, amountZat, checked, reserved, -,
    released, ended, notes, -, returned⟩ := decoded
  cases returned
  obtain ⟨positive, amount⟩ := decodeUnsigned_ok_iff.mp unsigned
  rw [← Zatoshis.tryFrom_ok_iff.mp checked] at amount
  have sameEnd := isSome_of_mapM_ok ended
  refine ⟨positive, amount, rfl, decodeKeyColumn_ok keyed, rfl, ?_⟩
  cases released <;> cases stored : row.releasedAtMs <;>
    simp_all [HoldRow.isActive,HoldColumns.Active]

/-- A new row reads back when its notes fit their count and its amount is in range. -/
theorem decodeHoldRow_columns (record : HoldRecord) (notes : record.lockedNotes.length < 2 ^ 32)
    (valid : record.amountZat.Valid) : ∃ hold, decodeHoldRow record.columns = .ok hold := by
  obtain ⟨reserved, reservedRead⟩ :=
    decodeUnsigned_stored "ext_zally_holds.reserved_at_ms" record.reservedAtMs
  have small : record.amountZat.raw.toNat ≤ 2_100_000_000_000_000 := UInt64.le_iff_toNat_le.mp valid
  have amountRead : decodeUnsigned "ext_zally_holds.amount_zat"
      (storedUnsigned record.amountZat.raw) = .ok record.amountZat.raw := by
    refine decodeUnsigned_ok_iff.mpr ⟨?_, ?_⟩ <;> rw [toInt_storedUnsigned] <;> omega
  refine ⟨⟨record.holdId, record.requestId, record.idempotencyKey, record.accountId,
    ⟨record.amountZat, valid⟩, record.lockedNotes, reserved, none, none⟩, ?_⟩
  have checked : Zatoshis.tryFrom record.amountZat.raw = .ok ⟨record.amountZat, valid⟩ :=
    Zatoshis.tryFrom_ok_iff.mpr rfl
  simp only [decodeHoldRow,HoldRecord.columns,bind_ok_iff,mapError_ok_iff]
  exact ⟨_, mapError_ok_iff.mpr (IdempotencyKey.tryFrom_checked _), _,
    mapError_ok_iff.mpr (IdempotencyKey.tryFrom_checked _), _, amountRead, _, checked, _,
    reservedRead, _, rfl, _, decodeLockedNotes_encode notes, rfl⟩

theorem HoldTable.insert_ok (inserted : HoldTable.insert table row = .ok after) :
    after.rows = table.rows ++ [row] ∧ row.lockedNotes.length ≤ maxValueBytes := by
  unfold HoldTable.insert at inserted
  split at inserted
  · cases inserted
  · split at inserted
    · split at inserted
      · cases inserted
        exact ⟨rfl, by omega⟩
      · cases inserted
    · cases inserted

theorem length_encodeLockedNotes (notes : List HeldNote) :
    (encodeLockedNotes notes).length = 4 + notes.length * lockedNoteRecordBytes := by
  rw [encodeLockedNotes,List.length_append,Wire.length_beBytes,length_noteBytes]

/-- An insert adds the record's row after the check of the sum that it read. -/
theorem insertHold_ok (inserted : insertHold fault record table = .ok after) :
    ∃ activeSum, sumActiveReservations fault table record.accountId = .ok activeSum ∧
      saturatingAdd activeSum record.amountZat.raw.toNat ≤
        record.spendableForCheckZat.val.raw.toNat ∧
      after.rows = table.rows ++ [record.columns] ∧ record.lockedNotes.length < 2 ^ 32 := by
  simp only [insertHold,bind_ok_iff] at inserted
  obtain ⟨-, -, existing, -, inserted⟩ := inserted
  split at inserted
  · obtain ⟨_, conflict, -⟩ := bind_ok_iff.mp inserted
    cases conflict
  obtain ⟨activeSum, summed, inserted⟩ := bind_ok_iff.mp inserted
  split at inserted
  · obtain ⟨_, refused, -⟩ := bind_ok_iff.mp inserted
    cases refused
  rename_i within
  obtain ⟨written, stored, committed⟩ := bind_ok_iff.mp inserted
  obtain ⟨-, stored⟩ := runStatement_ok_iff.mp stored
  obtain ⟨-, same⟩ := runStatement_ok_iff.mp committed
  cases same
  obtain ⟨rows, size⟩ := HoldTable.insert_ok stored
  have bytes : (encodeLockedNotes record.lockedNotes).length ≤ 1_000_000_000 := size
  rw [length_encodeLockedNotes,lockedNoteRecordBytes] at bytes
  exact ⟨activeSum, summed, Nat.le_of_not_lt within, rows, by omega⟩

/-- What every call keeps: the rows read back, and no account holds more than the money
supply. -/
structure HoldTable.Sound (table : HoldTable) : Prop where
  decodes : ∀ row ∈ table.rows, ∃ hold, decodeHoldRow row = .ok hold
  bounded : ∀ accountId, table.activeZat accountId ≤ Zatoshis.max.raw.toNat

namespace HoldTable.Sound

theorem empty : Sound .empty := ⟨by simp [HoldTable.empty], fun _ => Nat.zero_le _⟩

theorem sumActiveReservations_ok_iff (sound : Sound table) :
    sumActiveReservations fault table accountId = .ok sum ↔
      fault.filter (·.statement = .activeSum) = none ∧ sum = table.activeZat accountId := by
  have nonneg : ∀ row ∈ table.rows, 0 ≤ row.amountZat.toInt := fun row member =>
    let ⟨_, decoded⟩ := sound.decodes row member
    (decodeHoldRow_ok decoded).1
  have fits : table.activeZat accountId < 2 ^ 63 := by
    have supply : Zatoshis.max.raw.toNat = 2_100_000_000_000_000 := rfl
    have := sound.bounded accountId
    omega
  have summed := Sql.sumColumn_total (HoldColumns.ActiveFor accountId) nonneg fits
  simp only [sumActiveReservations,bind_ok_iff,runStatement_ok_iff,summed,Except.ok.injEq]
  constructor
  · rintro ⟨total, ⟨answered, rfl⟩, returned⟩
    rw [if_pos (Int.natCast_nonneg _)] at returned
    cases returned
    exact ⟨answered, rfl⟩
  · rintro ⟨answered, rfl⟩
    exact ⟨_, ⟨answered, rfl⟩, if_pos (Int.natCast_nonneg _)⟩

/-- An insert keeps the account's holds within the spendable amount of the record. -/
theorem within_of_insert (sound : Sound table) (inserted : insertHold fault record table = .ok after) :
    table.activeZat record.accountId + record.amountZat.raw.toNat ≤
      record.spendableForCheckZat.val.raw.toNat := by
  obtain ⟨activeSum, summed, within, -⟩ := insertHold_ok inserted
  obtain ⟨-, rfl⟩ := sound.sumActiveReservations_ok_iff.mp summed
  have checked : record.spendableForCheckZat.val.raw.toNat ≤ 2_100_000_000_000_000 :=
    UInt64.le_iff_toNat_le.mp record.spendableForCheckZat.property
  rw [saturatingAdd] at within
  omega

/-- What an insert adds to the active sum of each account. -/
theorem activeZat_insert (sound : Sound table)
    (inserted : insertHold fault record table = .ok after) (accountId : AccountId) :
    after.activeZat accountId = table.activeZat accountId +
      if record.accountId = accountId then record.amountZat.raw.toNat else 0 := by
  obtain ⟨-, -, -, rows, -⟩ := insertHold_ok inserted
  have within := sound.within_of_insert inserted
  have checked : record.spendableForCheckZat.val.raw.toNat ≤ 2_100_000_000_000_000 :=
    UInt64.le_iff_toNat_le.mp record.spendableForCheckZat.property
  rw [activeZat,rows,Sql.total_append]
  by_cases same : record.accountId = accountId
  · have selected : HoldColumns.ActiveFor accountId record.columns := ⟨same, rfl, rfl⟩
    rw [Sql.total_singleton_of_selects selected,if_pos same]
    have amount := toInt_storedUnsigned record.amountZat.raw
    have column : record.columns.amountZat = storedUnsigned record.amountZat.raw := rfl
    rw [column,amount,activeZat]
    omega
  · rw [Sql.total_singleton_of_not fun selected => same selected.1,if_neg same,activeZat]

theorem insert (sound : Sound table) (inserted : insertHold fault record table = .ok after) :
    Sound after := by
  obtain ⟨-, -, -, rows, notes⟩ := insertHold_ok inserted
  have within := sound.within_of_insert inserted
  have checked := UInt64.le_iff_toNat_le.mp record.spendableForCheckZat.property
  refine ⟨fun row member => ?_, fun accountId => ?_⟩
  · rw [rows] at member
    rcases List.mem_append.mp member with old | new
    · exact sound.decodes row old
    · rw [List.mem_singleton.mp new]
      exact decodeHoldRow_columns record notes (UInt64.le_iff_toNat_le.mpr (by omega))
  · rw [sound.activeZat_insert inserted]
    split
    · rename_i same
      subst same
      omega
    · exact sound.bounded accountId

theorem activeZat_update (table : HoldTable) (terminal : HoldTerminal) (holdId : HoldId)
    (accountId : AccountId) :
    (table.update terminal holdId).activeZat accountId ≤ table.activeZat accountId := by
  refine Sql.total_map_le (fun row => by rw [terminal.update_amountZat]) (fun row selected => ?_) _
  exact ⟨by simpa using selected.1, terminal.active_of_update holdId row selected.2⟩

end HoldTable.Sound

/-- What a terminal call that succeeds does: nothing to a row whose column is set, else the
update. -/
theorem endHold_ok_iff : endHold call terminal fault holdId table = .ok after ↔
    fault.filter (·.statement = .lookup) = none ∧
      ∃ row, table.rows.find? (fun row => row.holdId = holdId) = some row ∧
        (terminal.isSet row = true ∧ after = table ∨
          terminal.isSet row = false ∧ fault.filter (·.statement = .update) = none ∧
            after = table.update terminal holdId) := by
  simp only [endHold,bind_ok_iff,runStatement_ok_iff,Except.ok.injEq]
  constructor
  · rintro ⟨found, ⟨answered, rfl⟩, ended⟩
    refine ⟨answered, ?_⟩
    split at ended
    · cases ended
    · rename_i row found
      refine ⟨row, found, ?_⟩
      cases set : terminal.isSet row with
      | true =>
        rw [if_pos set] at ended
        cases ended
        exact .inl ⟨rfl, rfl⟩
      | false =>
        rw [if_neg (by simp [set]),runStatement_ok_iff] at ended
        obtain ⟨updated, same⟩ := ended
        cases same
        exact .inr ⟨rfl, updated, rfl⟩
  · rintro ⟨answered, row, found, ended⟩
    refine ⟨some row, ⟨answered, found⟩, ?_⟩
    rcases ended with ⟨set, rfl⟩ | ⟨unset, updated, rfl⟩
    · exact if_pos set
    · simp only [unset]
      exact runStatement_ok_iff.mpr ⟨updated, rfl⟩

theorem createHold_ok_iff : createHold fault record table = (.ok (), after) ↔
    insertHold fault record table = .ok after := by
  unfold createHold
  cases insertHold fault record table <;> simp

theorem createHold_error (failed : createHold fault record table = (.error error, after)) :
    after = table := by
  unfold createHold at failed
  cases inserted : insertHold fault record table with
  | ok written => simp [inserted] at failed
  | error other =>
    simp only [inserted,Prod.mk.injEq] at failed
    exact failed.2.symm

theorem written_endHold {table : HoldTable} :
    table.written (endHold call terminal fault holdId table) = table ∨
    table.written (endHold call terminal fault holdId table) = table.update terminal holdId := by
  cases ended : endHold call terminal fault holdId table with
  | error error => exact .inl rfl
  | ok updated =>
    obtain ⟨-, row, -, ⟨-, rfl⟩ | ⟨-, -, rfl⟩⟩ := endHold_ok_iff.mp ended
    · exact .inl rfl
    · exact .inr rfl

/-- A call leaves the ledger alone, inserts a row or updates one. -/
theorem HoldCall.run_cases (table : HoldTable) (call : HoldCall) :
    call.run table = table ∨
      (∃ fault record, insertHold fault record table = .ok (call.run table)) ∨
      ∃ terminal holdId, call.run table = table.update terminal holdId := by
  cases call with
  | create fault record =>
    cases inserted : insertHold fault record table with
    | ok after => exact .inr (.inl ⟨fault, record, by simp [run,createHold,inserted]⟩)
    | error error => exact .inl (by simp [run,createHold,inserted])
  | release fault holdId releasedAtMs =>
    exact written_endHold.imp id fun updated => .inr ⟨_, holdId, updated⟩
  | finalize fault holdId txId =>
    exact written_endHold.imp id fun updated => .inr ⟨_, holdId, updated⟩

theorem HoldTerminal.decodes_set (terminal : HoldTerminal) (decoded : decodeHoldRow row = .ok hold) :
    ∃ ended, decodeHoldRow (terminal.set row) = .ok ended := by
  simp only [decodeHoldRow,bind_ok_iff] at decoded
  obtain ⟨requestId, keyed, idempotencyKey, paid, amount, unsigned, amountZat, checked, reserved,
    started, released, ended, notes, locked, -⟩ := decoded
  cases terminal with
  | released atMs =>
    obtain ⟨value, read⟩ := decodeUnsigned_stored "ext_zally_holds.released_at_ms" atMs
    simp only [decodeHoldRow,set,bind_ok_iff]
    exact ⟨_, _, keyed, _, paid, _, unsigned, _, checked, _, started, some value,
      bind_ok_iff.mpr ⟨value, read, rfl⟩, _, locked, rfl⟩
  | finalized txId =>
    simp only [decodeHoldRow,set,bind_ok_iff]
    exact ⟨_, _, keyed, _, paid, _, unsigned, _, checked, _, started, _, ended, _, locked, rfl⟩

namespace HoldTable.Sound

theorem update (sound : Sound table) (terminal : HoldTerminal) (holdId : HoldId) :
    Sound (table.update terminal holdId) where
  decodes := by
    intro row member
    obtain ⟨old, stored, rfl⟩ := List.mem_map.mp member
    obtain ⟨hold, decoded⟩ := sound.decodes old stored
    unfold HoldTerminal.update
    split
    · exact terminal.decodes_set decoded
    · exact ⟨hold, decoded⟩
  bounded accountId := (activeZat_update table terminal holdId accountId).trans
    (sound.bounded accountId)

theorem run (sound : Sound table) (call : HoldCall) : Sound (call.run table) := by
  rcases call.run_cases table with same | ⟨fault, record, inserted⟩ | ⟨terminal, holdId, updated⟩
  · rwa [same]
  · exact sound.insert inserted
  · rw [updated]
    exact sound.update terminal holdId

end HoldTable.Sound

/-- Every ledger that calls lead to from the empty one is sound. -/
theorem HoldPath.sound (path : HoldPath .empty calls table) : table.Sound := by
  refine Path.invariant HoldTable.Sound (fun before call after sound moves => ?_) path .empty
  subst moves
  exact sound.run call

theorem selectRows_ok_iff : selectRows fault call selected = .ok value ↔
    fault.filter (·.statement = .prepare) = none ∧ fault.filter (·.statement = .query) = none ∧
      fault.filter (·.statement = .row) = none ∧ selected = value := by
  simp [selectRows,bind_ok_iff,runStatement_ok_iff]

/-- The listing of an account's active holds is complete, and the reported sum is the sum
of their amounts. -/
theorem HoldTable.Sound.reported (sound : HoldTable.Sound table) (accountId : AccountId) :
    ∃ holds total, listActiveHolds none accountId table = .ok holds ∧
      sumActiveDispenseReservedZat none accountId table = .ok total ∧
      (holds.map (·.holdId)).Perm
        ((table.rows.filter (HoldColumns.ActiveFor accountId)).map (·.holdId)) ∧
      (∀ hold ∈ holds, hold.isActive = true ∧ hold.accountId = accountId) ∧
      total.val.raw.toNat = (holds.map (·.amountZat.val.raw.toNat)).sum ∧
      total.val.raw.toNat = table.activeZat accountId := by
  let active := table.rows.filter (HoldColumns.ActiveFor accountId)
  let listed := active.mergeSort HoldColumns.listedBefore
  have perm : listed.Perm active := List.mergeSort_perm _ _
  have selected : ∀ row ∈ listed, row ∈ table.rows ∧ row.ActiveFor accountId := fun row member => by
    simpa [active] using perm.mem_iff.mp member
  obtain ⟨holds, mapped⟩ := exists_mapM_ok fun row member =>
    sound.decodes row (selected row member).1
  have bound := sound.bounded accountId
  have supply : Zatoshis.max.raw.toNat = 2_100_000_000_000_000 := rfl
  have exact64 : (UInt64.ofNat (table.activeZat accountId)).toNat = table.activeZat accountId := by
    rw [UInt64.toNat_ofNat',Nat.mod_eq_of_lt (by omega)]
  have valid : Zatoshis.Valid ⟨.ofNat (table.activeZat accountId)⟩ :=
    UInt64.le_iff_toNat_le.mpr (by rw [exact64]; exact bound)
  have amounts : (holds.map (·.amountZat.val.raw.toNat)).sum = table.activeZat accountId := by
    rw [map_eq_of_forall₂ (mapM_ok_iff.mp mapped) fun row hold decoded => (decodeHoldRow_ok decoded).2.1]
    exact (perm.map _).sum_eq
  refine ⟨holds, ⟨_, valid⟩, ?_, ?_, ?_, ?_, exact64.trans amounts.symm, exact64⟩
  · exact bind_ok_iff.mpr ⟨_, selectRows_ok_iff.mpr ⟨rfl, rfl, rfl, rfl⟩, mapped⟩
  · exact bind_ok_iff.mpr ⟨_, sound.sumActiveReservations_ok_iff.mpr ⟨rfl, rfl⟩,
      mapError_ok_iff.mpr (Zatoshis.tryFrom_ok_iff.mpr rfl)⟩
  · rw [map_eq_of_forall₂ (mapM_ok_iff.mp mapped) fun row hold decoded => (decodeHoldRow_ok decoded).2.2.1]
    exact perm.map _
  · intro hold member
    obtain ⟨row, stored, decoded⟩ := mem_of_mapM_ok mapped member
    have read := decodeHoldRow_ok decoded
    obtain ⟨account, active⟩ := (selected row stored).2
    exact ⟨read.2.2.2.2.2.mpr active, read.2.2.2.2.1.trans account⟩

/-- What the ledger promises between any two calls: whatever call comes next, and whatever
is read. -/
structure HoldTable.Safe (table : HoldTable) : Prop where
  /-- A call that inserts its row leaves the account within the amount it was checked against. -/
  inserted : ∀ fault record after, createHold fault record table = (.ok (), after) →
    after.activeZat record.accountId ≤ record.spendableForCheckZat.val.raw.toNat
  /-- A call that fails changes nothing. -/
  failed : ∀ fault record error after, createHold fault record table = (.error error, after) →
    after = table
  bounded : ∀ accountId, table.activeZat accountId ≤ Zatoshis.max.raw.toNat
  /-- The aggregate neither overflows nor fails to convert: only the database can refuse it. -/
  summed : ∀ fault accountId, fault.filter (·.statement = .activeSum) = none →
    sumActiveReservations fault table accountId = .ok (table.activeZat accountId)
  oneActive : ∀ requestId,
    (table.rows.filter fun row => row.requestId = requestId ∧ row.Active).length ≤ 1
  /-- The listing holds exactly the active rows, and its amounts add up to the reported sum. -/
  reported : ∀ accountId, ∃ holds total, listActiveHolds none accountId table = .ok holds ∧
    sumActiveDispenseReservedZat none accountId table = .ok total ∧
    (holds.map (·.holdId)).Perm
      ((table.rows.filter (HoldColumns.ActiveFor accountId)).map (·.holdId)) ∧
    (∀ hold ∈ holds, hold.isActive = true ∧ hold.accountId = accountId) ∧
    total.val.raw.toNat = (holds.map (·.amountZat.val.raw.toNat)).sum ∧
    total.val.raw.toNat = table.activeZat accountId

/-- Every interleaving of the calls keeps the hold ledger safe. -/
theorem hold_ledger_safe (calls : List HoldCall) (table : HoldTable)
    (path : HoldPath .empty calls table) : table.Safe where
  inserted fault record after created := by
    have inserted := createHold_ok_iff.mp created
    rw [path.sound.activeZat_insert inserted,if_pos rfl]
    exact path.sound.within_of_insert inserted
  failed fault record error after := createHold_error
  bounded := path.sound.bounded
  summed fault accountId answered :=
    path.sound.sumActiveReservations_ok_iff.mpr ⟨answered, rfl⟩
  oneActive := table.activeRequest.length_le_one
  reported := path.sound.reported

def sampleHoldRecord : HoldRecord where
  holdId := ⟨1⟩
  requestId := ⟨⟨"faucet-1"⟩, rfl⟩
  idempotencyKey := ⟨⟨"faucet-1"⟩, rfl⟩
  accountId := ⟨0⟩
  amountZat := ⟨5⟩
  spendableForCheckZat := ⟨⟨8⟩, by decide⟩
  lockedNotes := []
  reservedAtMs := 100

/-- One hold of five zatoshis against eight spendable ones. -/
def sampleHoldTable : HoldTable := HoldCall.run .empty (.create none sampleHoldRecord)

theorem sampleHoldTable_safe : sampleHoldTable.activeZat ⟨0⟩ = 5 ∧ sampleHoldTable.Safe :=
  ⟨by decide, hold_ledger_safe [.create none sampleHoldRecord] _ (.cons rfl .nil)⟩

end Zally
