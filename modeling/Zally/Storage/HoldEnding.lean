import Zally.Storage.HoldLedger

/-! How holds end: each terminal call looks at its own column only. -/
namespace Zally

open Async

/-- Between any two points of a run, a row that had ended stays as it was. -/
def EndsOnce (calls : List HoldCall) : Prop :=
  ∀ before between after first second, calls = before ++ between ++ after →
    HoldPath .empty before first → HoldPath first between second →
    ∀ row ∈ first.rows, ¬row.Active → row ∈ second.rows

/-- The call's statements succeed and it finds a row ended through the other column. -/
def HoldTerminal.EndsAgain (terminal : HoldTerminal) (fault : Option SqlFault) (holdId : HoldId)
    (table : HoldTable) : Prop :=
  fault.filter (·.statement = .lookup) = none ∧ fault.filter (·.statement = .update) = none ∧
    ∃ row ∈ table.rows, row.holdId = holdId ∧ ¬row.Active ∧ terminal.isSet row = false

/-- A release that reaches a finalized row not yet released, or a finalization that reaches a
released row not yet finalized. -/
def HoldCall.EndsAgain (table : HoldTable) : HoldCall → Prop
  | create _ _ => False
  | release fault holdId releasedAtMs => (HoldTerminal.released releasedAtMs).EndsAgain fault holdId table
  | finalize fault holdId txId => (HoldTerminal.finalized txId).EndsAgain fault holdId table

namespace HoldTerminal

theorem isSet_set (terminal : HoldTerminal) (row : HoldColumns) :
    terminal.isSet (terminal.set row) = true := by
  cases terminal <;> rfl

theorem row_of_find {table : HoldTable} (member : row ∈ table.rows) (same : row.holdId = holdId)
    (found : table.rows.find? (fun row => row.holdId = holdId) = some other) : other = row := by
  have matched : other.holdId = holdId := by simpa using List.find?_some found
  exact table.primaryKey.eq_of_key (List.mem_of_find?_eq_some found) member trivial trivial
    (matched.trans same.symm)

/-- Unless it ends a row again, a terminal call leaves every row that has ended. -/
theorem mem_written {table : HoldTable} (terminal : HoldTerminal)
    (once : ¬terminal.EndsAgain fault holdId table) (member : row ∈ table.rows)
    (ended : ¬row.Active) : row ∈ (table.written (endHold call terminal fault holdId table)).rows := by
  cases result : endHold call terminal fault holdId table with
  | error error => exact member
  | ok updated =>
    obtain ⟨answered, other, found, ⟨-, rfl⟩ | ⟨unset, stored, rfl⟩⟩ := endHold_ok_iff.mp result
    · exact member
    · refine List.mem_map.mpr ⟨row, member, ?_⟩
      by_cases same : row.holdId = holdId
      · obtain rfl := row_of_find member same found
        exact absurd ⟨answered, stored, other, member, same, ended, unset⟩ once
      · exact terminal.update_of_ne holdId row same

/-- A call that ends a row again takes it out of the ledger as it was. -/
theorem not_mem_written {table : HoldTable} (terminal : HoldTerminal)
    (answered : fault.filter (·.statement = .lookup) = none)
    (stored : fault.filter (·.statement = .update) = none) (member : row ∈ table.rows)
    (same : row.holdId = holdId) (unset : terminal.isSet row = false) :
    row ∉ (table.written (endHold call terminal fault holdId table)).rows := by
  have exists_found : ∃ other, table.rows.find? (fun row => row.holdId = holdId) = some other :=
    Option.isSome_iff_exists.mp (List.find?_isSome.mpr ⟨row, member, by simpa using same⟩)
  obtain ⟨other, found⟩ := exists_found
  obtain rfl := row_of_find member same found
  have result : endHold call terminal fault holdId table = .ok (table.update terminal holdId) :=
    endHold_ok_iff.mpr ⟨answered, other, found, .inr ⟨unset, stored, rfl⟩⟩
  rw [result]
  intro kept
  obtain ⟨old, stored, changed⟩ := List.mem_map.mp kept
  have key : old.holdId = other.holdId := by rw [← changed,update_holdId]
  obtain rfl := table.primaryKey.eq_of_key stored member trivial trivial key
  rw [update,if_pos ⟨same, unset⟩] at changed
  have set := terminal.isSet_set old
  rw [changed,unset] at set
  cases set

end HoldTerminal

/-- The step lemma: a call that ends no row again keeps every row that has ended. -/
theorem HoldCall.mem_run {table : HoldTable} {call : HoldCall} (once : ¬call.EndsAgain table)
    (member : row ∈ table.rows) (ended : ¬row.Active) : row ∈ (call.run table).rows := by
  cases call with
  | create fault record =>
    cases inserted : insertHold fault record table with
    | error error => simpa [run,createHold,inserted] using member
    | ok after =>
      obtain ⟨-, -, -, rows, -⟩ := insertHold_ok inserted
      have same : (run table (.create fault record)) = after := by simp [run,createHold,inserted]
      rw [same,rows]
      exact List.mem_append_left _ member
  | release fault holdId releasedAtMs => exact HoldTerminal.mem_written _ once member ended
  | finalize fault holdId txId => exact HoldTerminal.mem_written _ once member ended

/-- A call that ends a row again changes a row that had ended. -/
theorem HoldCall.changes_of_endsAgain {table : HoldTable} {call : HoldCall}
    (again : call.EndsAgain table) :
    ∃ row ∈ table.rows, ¬row.Active ∧ row ∉ (call.run table).rows := by
  cases call with
  | create fault record => exact again.elim
  | release fault holdId releasedAtMs =>
    obtain ⟨answered, stored, row, member, same, ended, unset⟩ := again
    exact ⟨row, member, ended, HoldTerminal.not_mem_written _ answered stored member same unset⟩
  | finalize fault holdId txId =>
    obtain ⟨answered, stored, row, member, same, ended, unset⟩ := again
    exact ⟨row, member, ended, HoldTerminal.not_mem_written _ answered stored member same unset⟩

/-- No call of a run from `start` ends a row again. -/
def NeverEndsAgain (start : HoldTable) (calls : List HoldCall) : Prop :=
  ∀ before call after table, calls = before ++ call :: after → HoldPath start before table →
    ¬call.EndsAgain table

/-- The run lemma: rows that had ended are kept to the end of the run. -/
theorem HoldPath.mem_of_neverEndsAgain (path : HoldPath first calls second)
    (never : NeverEndsAgain first calls) (member : row ∈ first.rows) (ended : ¬row.Active) :
    row ∈ second.rows := by
  induction path with
  | nil => exact member
  | @cons table call next calls final moves _ ih =>
    refine ih (fun before later after middle split reached => ?_) ?_
    · exact never (call :: before) later after middle (by rw [split,List.cons_append])
        (.cons moves reached)
    · rw [← moves]
      exact HoldCall.mem_run (never [] call calls table rfl .nil) member ended

theorem not_endsOnce_of_endsAgain {table : HoldTable} {call : HoldCall} (after : List HoldCall)
    (path : HoldPath .empty before table) (again : call.EndsAgain table) :
    ¬EndsOnce (before ++ call :: after) := by
  intro once
  obtain ⟨row, member, ended, changed⟩ := call.changes_of_endsAgain again
  exact changed (once before [call] after table _ (by simp) path (.cons rfl .nil) row member ended)

/-- Every hold ends once and stays as it ended exactly when no release reaches a finalized
row that is not released and no finalization a released row that is not finalized. -/
theorem ends_once_iff (calls : List HoldCall) : EndsOnce calls ↔ NeverEndsAgain .empty calls := by
  constructor
  · rintro once before call after table rfl path again
    exact not_endsOnce_of_endsAgain after path again once
  · rintro never before between after first second rfl start path row member ended
    refine path.mem_of_neverEndsAgain (fun earlier call later middle split reached => ?_) member
      ended
    exact never (before ++ earlier) call (later ++ after) middle (by simp [split])
      (start.append reached)

/-- A hold of the faucet is finalized by a transaction and then released. -/
theorem finalized_hold_is_released : ¬∀ calls, EndsOnce calls := by
  intro always
  have again : (HoldCall.release none ⟨1⟩ 200).EndsAgain
      (HoldCall.run sampleHoldTable (.finalize none ⟨1⟩ 7)) :=
    ⟨rfl, rfl, _, List.mem_singleton.mpr rfl, rfl, by decide, rfl⟩
  have path : HoldPath .empty [.create none sampleHoldRecord, .finalize none ⟨1⟩ 7] _ :=
    .cons rfl (.cons rfl .nil)
  have changed := not_endsOnce_of_endsAgain [] path again
  exact changed (always _)

end Zally
