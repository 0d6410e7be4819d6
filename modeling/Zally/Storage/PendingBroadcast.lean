import Zally.Storage.Error

/-! Outpoints of broadcasts in flight: the wallet keeps them out of its spendable
inputs until the broadcast is mined or too old. -/
namespace Zally

structure PendingBroadcastRecord where
  broadcastTxId : TxId
  accountId : AccountId
  broadcastAtMs : Nat
  broadcastAtHeight : Option BlockHeight
  inputs : List (OutPoint × Zatoshis)
  deriving DecidableEq, Repr

structure PendingBroadcastInputRow where
  broadcastTxId : TxId
  outpoint : OutPoint
  valueZat : Nat
  accountId : AccountId
  broadcastAtMs : Nat
  broadcastAtHeight : Option BlockHeight
  deriving DecidableEq, Repr

/-- The rows of `ext_zally_pending_broadcast_inputs`, at most one for each broadcast
and outpoint. -/
abbrev PendingBroadcastRows := List PendingBroadcastInputRow

namespace PendingBroadcastRows

def upsert (row : PendingBroadcastInputRow) (rows : PendingBroadcastRows) :
    PendingBroadcastRows :=
  row :: rows.filter fun other =>
    ¬(other.broadcastTxId = row.broadcastTxId ∧ other.outpoint = row.outpoint)

def rowOf (record : PendingBroadcastRecord) (input : OutPoint × Zatoshis) :
    PendingBroadcastInputRow where
  broadcastTxId := record.broadcastTxId
  outpoint := input.1
  valueZat := clampUnsignedToI64 input.2.raw.toNat
  accountId := record.accountId
  broadcastAtMs := clampUnsignedToI64 record.broadcastAtMs
  broadcastAtHeight := record.broadcastAtHeight

def recordPendingBroadcastInputs (rows : PendingBroadcastRows) (record : PendingBroadcastRecord) :
    PendingBroadcastRows :=
  record.inputs.foldl (fun rows input => upsert (rowOf record input) rows) rows

def clearPendingBroadcastInputsForMined (rows : PendingBroadcastRows) (txIds : List TxId) :
    PendingBroadcastRows :=
  rows.filter fun row => row.broadcastTxId ∉ txIds

def clearExpiredPendingBroadcastInputs (rows : PendingBroadcastRows) (beforeAtMs : Nat) :
    PendingBroadcastRows :=
  rows.filter fun row => ¬row.broadcastAtMs < clampUnsignedToI64 beforeAtMs

/-- Some row holds `outpoint` back for the broadcast `txId`. -/
def Holds (rows : PendingBroadcastRows) (txId : TxId) (outpoint : OutPoint) : Prop :=
  ∃ row ∈ rows, row.broadcastTxId = txId ∧ row.outpoint = outpoint

theorem holds_upsert_iff : Holds (upsert row rows) txId outpoint ↔
    (row.broadcastTxId = txId ∧ row.outpoint = outpoint) ∨ Holds rows txId outpoint := by
  constructor
  · rintro ⟨other, member, rfl, rfl⟩
    rcases List.mem_cons.mp member with rfl | member
    · exact .inl ⟨rfl, rfl⟩
    · exact .inr ⟨other, (List.mem_filter.mp member).1, rfl, rfl⟩
  · rintro (⟨rfl, rfl⟩ | ⟨other, member, rfl, rfl⟩)
    · exact ⟨row, List.mem_cons_self, rfl, rfl⟩
    · by_cases same : other.broadcastTxId = row.broadcastTxId ∧ other.outpoint = row.outpoint
      · exact ⟨row, List.mem_cons_self, same.1.symm, same.2.symm⟩
      · exact ⟨other, List.mem_cons_of_mem _ (List.mem_filter.mpr ⟨member, decide_eq_true same⟩),
          rfl, rfl⟩

theorem holds_record_iff :
    Holds (recordPendingBroadcastInputs rows record) txId outpoint ↔
      (record.broadcastTxId = txId ∧ outpoint ∈ record.inputs.map Prod.fst) ∨
      Holds rows txId outpoint := by
  unfold recordPendingBroadcastInputs
  generalize record.inputs = inputs
  induction inputs generalizing rows with
  | nil => simp
  | cons input inputs ih =>
    rw [List.foldl_cons,ih,holds_upsert_iff,List.map_cons,List.mem_cons]
    constructor
    · rintro (⟨same, member⟩ | ⟨same, rfl⟩ | held)
      · exact .inl ⟨same, .inr member⟩
      · exact .inl ⟨same, .inl rfl⟩
      · exact .inr held
    · rintro (⟨same, rfl | member⟩ | held)
      · exact .inr (.inl ⟨same, rfl⟩)
      · exact .inl ⟨same, member⟩
      · exact .inr (.inr held)

theorem holds_clear_iff : Holds (clearPendingBroadcastInputsForMined rows txIds) txId outpoint ↔
    txId ∉ txIds ∧ Holds rows txId outpoint := by
  constructor
  · rintro ⟨row, member, rfl, rfl⟩
    obtain ⟨member, kept⟩ := List.mem_filter.mp member
    exact ⟨by simpa using kept, row, member, rfl, rfl⟩
  · rintro ⟨kept, row, member, rfl, rfl⟩
    exact ⟨row, List.mem_filter.mpr ⟨member, by simpa using kept⟩, rfl, rfl⟩

end PendingBroadcastRows
end Zally
