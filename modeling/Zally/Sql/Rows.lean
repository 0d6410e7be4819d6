import Mathlib.Algebra.Order.BigOperators.Group.List
import Mathlib.Algebra.Order.Ring.Int
import Mathlib.Data.List.Pairwise

/-! Rows of a table: unique indexes that cover some of the rows, integer aggregates and
conditional updates. -/
namespace Sql

variable {ρ κ : Type}

/-- No two of the covered rows have the same key. -/
def Unique (covers : ρ → Prop) (key : ρ → κ) (rows : List ρ) : Prop :=
  rows.Pairwise fun first second => covers first → covers second → key first ≠ key second

instance [DecidableEq κ] {covers : ρ → Prop} [DecidablePred covers] {key : ρ → κ}
    {rows : List ρ} : Decidable (Unique covers key rows) := by
  unfold Unique
  infer_instance

section Unique

variable {covers : ρ → Prop} {key : ρ → κ} {rows : List ρ}

theorem unique_nil : Unique covers key ([] : List ρ) := List.Pairwise.nil

/-- An update that keeps the keys and covers no new row keeps the index. -/
theorem Unique.map {change : ρ → ρ} (unique : Unique covers key rows)
    (keeps : ∀ row, key (change row) = key row) (shrinks : ∀ row, covers (change row) → covers row) :
    Unique covers key (rows.map change) := by
  refine List.pairwise_map.mpr (unique.imp fun differ first second => ?_)
  rw [keeps,keeps]
  exact differ (shrinks _ first) (shrinks _ second)

theorem Unique.filter (unique : Unique covers key rows) (keeps : ρ → Bool) :
    Unique covers key (rows.filter keeps) := List.Pairwise.filter keeps unique

theorem Unique.eq_of_key {first second : ρ} (unique : Unique covers key rows)
    (left : first ∈ rows) (right : second ∈ rows) (coversLeft : covers first)
    (coversRight : covers second) (same : key first = key second) : first = second := by
  induction rows with
  | nil => exact absurd left List.not_mem_nil
  | cons row rows ih =>
    obtain ⟨apart, unique⟩ := List.pairwise_cons.mp unique
    rcases List.mem_cons.mp left with rfl | inFirst
    · rcases List.mem_cons.mp right with rfl | inSecond
      · rfl
      · exact absurd same (apart second inSecond coversLeft coversRight)
    · rcases List.mem_cons.mp right with rfl | inSecond
      · exact absurd same.symm (apart first inFirst coversRight coversLeft)
      · exact ih unique inFirst inSecond

/-- At most one covered row has a given key. -/
theorem Unique.length_le_one [DecidableEq κ] [DecidablePred covers]
    (unique : Unique covers key rows) (value : κ) :
    (rows.filter fun row => key row = value ∧ covers row).length ≤ 1 := by
  induction rows with
  | nil => exact Nat.zero_le _
  | cons row rows ih =>
    obtain ⟨apart, unique⟩ := List.pairwise_cons.mp unique
    by_cases found : key row = value ∧ covers row
    · have others : (rows.filter fun row => key row = value ∧ covers row) = [] := by
        refine List.filter_eq_nil_iff.mpr fun other member matched => ?_
        obtain ⟨same, covered⟩ := of_decide_eq_true matched
        exact apart other member found.2 covered (found.1.trans same.symm)
      rw [List.filter_cons,if_pos (by simpa using found),others]
      exact Nat.le_refl _
    · rw [List.filter_cons,if_neg (by simpa using found)]
      exact ih unique

end Unique

section Upsert

variable [DecidableEq κ]

/-- `INSERT .. ON CONFLICT(key) DO UPDATE` of every other column. -/
def upsert (key : ρ → κ) (row : ρ) (rows : List ρ) : List ρ :=
  if ∃ other ∈ rows, key other = key row then
    rows.map fun other => if key other = key row then row else other
  else rows ++ [row]

variable {key : ρ → κ} {rows : List ρ}

theorem mem_upsert_iff : other ∈ upsert key row rows ↔
    other = row ∨ (other ∈ rows ∧ key other ≠ key row) := by
  unfold upsert
  split
  · rename_i known
    rw [List.mem_map]
    constructor
    · rintro ⟨before, member, rfl⟩
      by_cases same : key before = key row
      · exact .inl (if_pos same)
      · rw [if_neg same]
        exact .inr ⟨member, same⟩
    · rintro (rfl | ⟨member, differs⟩)
      · obtain ⟨before, member, same⟩ := known
        exact ⟨before, member, if_pos same⟩
      · exact ⟨other, member, if_neg differs⟩
  · rename_i fresh
    rw [List.mem_append,List.mem_singleton]
    constructor
    · rintro (member | rfl)
      · exact .inr ⟨member, fun same => fresh ⟨other, member, same⟩⟩
      · exact .inl rfl
    · rintro (rfl | ⟨member, -⟩)
      · exact .inr rfl
      · exact .inl member

theorem Unique.upsert (unique : Unique (fun _ => True) key rows) (row : ρ) :
    Unique (fun _ => True) key (upsert key row rows) := by
  unfold Sql.upsert
  split
  · refine unique.map (fun other => ?_) fun _ => id
    split
    · rename_i same
      exact same.symm
    · rfl
  · rename_i fresh
    refine List.pairwise_append.mpr ⟨unique, List.pairwise_singleton _ _, ?_⟩
    intro other member added last _ _ same
    rw [List.mem_singleton.mp last] at same
    exact fresh ⟨other, member, same⟩

/-- A known key takes no new row. -/
theorem length_upsert_of_known (known : ∃ other ∈ rows, key other = key row) :
    (upsert key row rows).length = rows.length := by
  rw [upsert,if_pos known,List.length_map]

theorem length_upsert_le : (upsert key row rows).length ≤ rows.length + 1 := by
  unfold upsert
  split
  · rw [List.length_map]
    exact Nat.le_succ _
  · rw [List.length_append]
    exact Nat.le_refl _

end Upsert

/-- A key that no two rows share lists each of them once. -/
theorem Unique.nodup_map {key : ρ → κ} {rows : List ρ} (unique : Unique (fun _ => True) key rows) :
    (rows.map key).Nodup :=
  List.pairwise_map.mpr (unique.imp fun differ => differ trivial trivial)

/-- SQLite adds integers in 64 bits and refuses a sum that leaves them. -/
def addInteger (total value : Int) : Except String Int :=
  if -2 ^ 63 ≤ total + value ∧ total + value < 2 ^ 63 then .ok (total + value)
  else .error "integer overflow"

/-- `COALESCE(SUM(..), 0)` over the selected rows. -/
def sumColumn (values : List Int) : Except String Int := values.foldlM addInteger 0

theorem foldlM_addInteger {values : List Int} (start : Int) (positive : 0 ≤ start)
    (nonneg : ∀ value ∈ values, 0 ≤ value) (fits : start + values.sum < 2 ^ 63) :
    values.foldlM addInteger start = .ok (start + values.sum) := by
  induction values generalizing start with
  | nil => simp [Pure.pure,Except.pure]
  | cons value values ih =>
    obtain ⟨first, rest⟩ := List.forall_mem_cons.mp nonneg
    have tail : 0 ≤ values.sum := List.sum_nonneg rest
    rw [List.sum_cons] at fits
    have added : addInteger start value = .ok (start + value) := if_pos ⟨by omega, by omega⟩
    rw [List.foldlM_cons,added,List.sum_cons,← Int.add_assoc]
    exact ih (start + value) (by omega) rest (by omega)

/-- Values that are not negative add up exactly when their sum fits. -/
theorem sumColumn_eq {values : List Int} (nonneg : ∀ value ∈ values, 0 ≤ value)
    (fits : values.sum < 2 ^ 63) : sumColumn values = .ok values.sum := by
  have := foldlM_addInteger 0 (Int.le_refl 0) nonneg (by omega)
  simpa [sumColumn] using this

/-- The sum of a column over the rows a condition selects. -/
def total (selects : ρ → Prop) [DecidablePred selects] (value : ρ → Nat)
    (rows : List ρ) : Nat :=
  ((rows.filter selects).map value).sum

section Total

variable {selects : ρ → Prop} [DecidablePred selects] {value : ρ → Nat}

@[simp] theorem total_nil : total selects value [] = 0 := rfl

/-- The aggregate of SQLite is the sum of the selected rows while it fits. -/
theorem sumColumn_total (selects : ρ → Prop) [DecidablePred selects] {column : ρ → Int}
    {rows : List ρ}
    (nonneg : ∀ row ∈ rows, 0 ≤ column row)
    (fits : total selects (fun row => (column row).toNat) rows < 2 ^ 63) :
    sumColumn ((rows.filter selects).map column) =
      .ok (total selects (fun row => (column row).toNat) rows) := by
  have selected : ∀ row ∈ rows.filter selects, 0 ≤ column row :=
    fun row member => nonneg row (List.mem_of_mem_filter member)
  have sums : ((rows.filter selects).map column).sum =
      (total selects (fun row => (column row).toNat) rows : Int) := by
    unfold total
    generalize rows.filter selects = chosen at selected
    induction chosen with
    | nil => rfl
    | cons row chosen ih =>
      obtain ⟨first, rest⟩ := List.forall_mem_cons.mp selected
      rw [List.map_cons,List.map_cons,List.sum_cons,List.sum_cons,ih rest]
      omega
  rw [← sums]
  refine sumColumn_eq (fun value member => ?_) (by omega)
  obtain ⟨row, chosen, rfl⟩ := List.mem_map.mp member
  exact selected row chosen

theorem total_append (rows more : List ρ) :
    total selects value (rows ++ more) = total selects value rows + total selects value more := by
  simp [total]

theorem total_singleton_of_selects (selected : selects row) : total selects value [row] = value row := by
  simp [total,selected]

theorem total_singleton_of_not (other : ¬selects row) : total selects value [row] = 0 := by
  simp [total,other]

/-- An update that keeps the column and selects no new row does not raise the sum. -/
theorem total_map_le {change : ρ → ρ} (keeps : ∀ row, value (change row) = value row)
    (shrinks : ∀ row, selects (change row) → selects row) (rows : List ρ) :
    total selects value (rows.map change) ≤ total selects value rows := by
  induction rows with
  | nil => exact Nat.le_refl _
  | cons row rows ih =>
    rw [List.map_cons,← List.singleton_append,← List.singleton_append (l := rows),total_append,
      total_append]
    refine Nat.add_le_add ?_ ih
    by_cases selected : selects (change row)
    · rw [total_singleton_of_selects selected,total_singleton_of_selects (shrinks row selected),keeps]
    · rw [total_singleton_of_not selected]
      exact Nat.zero_le _

theorem total_eq_zero_iff {rows : List ρ} :
    total selects value rows = 0 ↔ ∀ row ∈ rows, selects row → value row = 0 := by
  rw [total,List.sum_eq_zero_iff_forall_eq_nat]
  constructor
  · intro zero row member selected
    exact zero _ (List.mem_map_of_mem (List.mem_filter.mpr ⟨member, decide_eq_true selected⟩))
  · intro zero amount member
    obtain ⟨row, chosen, rfl⟩ := List.mem_map.mp member
    obtain ⟨inRows, selected⟩ := List.mem_filter.mp chosen
    exact zero row inRows (of_decide_eq_true selected)

/-- The rows that a condition selects, and those it leaves out of a wider one. -/
theorem total_split {narrow wide : ρ → Prop} [DecidablePred narrow] [DecidablePred wide]
    {rows : List ρ} (within : ∀ row, narrow row → wide row) :
    total wide value rows =
      total narrow value rows + total (fun row => wide row ∧ ¬narrow row) value rows := by
  induction rows with
  | nil => rfl
  | cons row rows ih =>
    rw [← List.singleton_append,total_append,total_append,total_append,ih]
    by_cases inside : narrow row
    · rw [total_singleton_of_selects (within row inside),total_singleton_of_selects inside,
        total_singleton_of_not (fun left => left.2 inside)]
      omega
    by_cases selected : wide row
    · rw [total_singleton_of_selects selected,total_singleton_of_not inside,
        total_singleton_of_selects ⟨selected, inside⟩]
      omega
    · rw [total_singleton_of_not selected,total_singleton_of_not inside,
        total_singleton_of_not (fun left => selected left.1)]
      omega

/-- Selecting more rows never lowers the sum. -/
theorem total_le_total {narrow wide : ρ → Prop} [DecidablePred narrow] [DecidablePred wide]
    {rows : List ρ} (within : ∀ row, narrow row → wide row) :
    total narrow value rows ≤ total wide value rows := by
  rw [total_split within]
  exact Nat.le_add_right _ _

/-- Selecting fewer rows gives the same sum exactly when the rows left out are worth nothing. -/
theorem total_eq_iff {narrow wide : ρ → Prop} [DecidablePred narrow] [DecidablePred wide]
    {rows : List ρ} (within : ∀ row, narrow row → wide row) :
    total wide value rows = total narrow value rows ↔
      ∀ row ∈ rows, wide row → 0 < value row → narrow row := by
  rw [total_split within,Nat.add_eq_left,total_eq_zero_iff]
  constructor
  · intro nothing row member selected positive
    by_contra outside
    exact absurd (nothing row member ⟨selected, outside⟩) (Nat.ne_of_gt positive)
  · intro kept row member selected
    by_contra positive
    exact selected.2 (kept row member selected.1 (Nat.pos_of_ne_zero positive))

end Total
end Sql
