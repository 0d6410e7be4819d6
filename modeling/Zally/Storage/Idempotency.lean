import Mathlib.Logic.Function.Basic
import Zally.Storage.Error

/-! The idempotency ledger: one recorded transaction for each key. -/
namespace Zally

/-- The rows of `ext_zally_idempotency`, whose primary key is the idempotency key. -/
abbrev IdempotencyLedger := IdempotencyKey → Option TxId

namespace IdempotencyLedger

def empty : IdempotencyLedger := fun _ => none

def findIdempotentSubmission (ledger : IdempotencyLedger) (key : IdempotencyKey) : Option TxId :=
  ledger key

def recordIdempotentSubmission (ledger : IdempotencyLedger) (key : IdempotencyKey)
    (txId : TxId) : Except StorageError IdempotencyLedger :=
  match ledger key with
  | some prior => if prior = txId then .ok ledger else .error .idempotencyKeyConflict
  | none => .ok (Function.update ledger key (some txId))

/-- No row of `before` is missing or different in `after`. -/
def Extends (before after : IdempotencyLedger) : Prop :=
  ∀ key txId, before key = some txId → after key = some txId

theorem Extends.refl (ledger : IdempotencyLedger) : Extends ledger ledger := fun _ _ found => found

theorem Extends.trans (first : Extends before middle) (second : Extends middle after) :
    Extends before after := fun key txId found => second key txId (first key txId found)

theorem extends_of_record
    (recorded : recordIdempotentSubmission before key txId = .ok after) : Extends before after := by
  intro other prior found
  cases h : before key with
  | none =>
    simp only [recordIdempotentSubmission,h,Except.ok.injEq] at recorded
    subst recorded
    have different : other ≠ key := by rintro rfl; simp [h] at found
    simpa [Function.update_of_ne different] using found
  | some existing =>
    simp only [recordIdempotentSubmission,h] at recorded
    split at recorded <;> cases recorded
    exact found

theorem found_of_record (recorded : recordIdempotentSubmission before key txId = .ok after) :
    after key = some txId := by
  cases h : before key with
  | none =>
    simp only [recordIdempotentSubmission,h,Except.ok.injEq] at recorded
    subst recorded
    simp
  | some existing =>
    simp only [recordIdempotentSubmission,h] at recorded
    split at recorded <;> cases recorded
    rename_i same
    simpa [same] using h

theorem found_of_conflict
    (conflict : recordIdempotentSubmission before key txId = .error error) :
    ∃ prior, before key = some prior ∧ prior ≠ txId := by
  cases h : before key with
  | none => simp [recordIdempotentSubmission,h] at conflict
  | some prior =>
    simp only [recordIdempotentSubmission,h] at conflict
    split at conflict
    · cases conflict
    · exact ⟨prior, rfl, by assumption⟩

end IdempotencyLedger
end Zally
