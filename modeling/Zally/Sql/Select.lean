import Mathlib.Order.Defs.LinearOrder
import Zally.Outcome
import Zally.Sql.Rows

/-! Selected rows in the order of their columns, decoded one by one. -/
namespace Sql

open Outcome

variable {ρ κ α ε : Type} [LinearOrder κ]

/-- `ORDER BY` the columns that a key lists. -/
def orderBy (key : ρ → κ) (rows : List ρ) : List ρ :=
  rows.mergeSort fun first second => decide (key first ≤ key second)

section Order

variable {key : ρ → κ} {rows : List ρ}

theorem orderBy_perm (key : ρ → κ) (rows : List ρ) : (orderBy key rows).Perm rows :=
  List.mergeSort_perm _ _

@[simp] theorem mem_orderBy : row ∈ orderBy key rows ↔ row ∈ rows := (orderBy_perm key rows).mem_iff

theorem sorted_orderBy (key : ρ → κ) (rows : List ρ) :
    (orderBy key rows).Pairwise fun first second => key first ≤ key second := by
  let before := fun first second : ρ => decide (key first ≤ key second)
  have transitive : ∀ first second third, before first second → before second third →
      before first third := fun _ _ _ below above =>
    decide_eq_true (le_trans (of_decide_eq_true below) (of_decide_eq_true above))
  have total : ∀ first second, before first second || before second first := by
    intro first second
    rw [Bool.or_eq_true,decide_eq_true_eq,decide_eq_true_eq]
    exact le_total _ _
  exact (List.pairwise_mergeSort transitive total rows).imp of_decide_eq_true

/-- Rows with keys of their own have one order. -/
theorem orderBy_eq (unique : Unique (fun _ => True) key rows) {listed : List ρ}
    (perm : listed.Perm rows) (sorted : listed.Pairwise fun first second => key first ≤ key second) :
    orderBy key rows = listed := by
  refine List.Perm.eq_of_pairwise (fun first second left right below above => ?_)
    (sorted_orderBy key rows) sorted ((orderBy_perm key rows).trans perm.symm)
  exact unique.eq_of_key (mem_orderBy.mp left) (perm.mem_iff.mp right) trivial trivial
    (le_antisymm below above)

/-- A column that the order goes by first. -/
theorem before_of_lt {column : ρ → Int} {first second : ρ}
    (follows : ∀ {first second}, key first ≤ key second → column first ≤ column second)
    (below : column first < column second) : key first ≤ key second := by
  rcases le_total (key first) (key second) with before | after
  · exact before
  · exact absurd (follows after) (Int.not_le.mpr below)

/-- A range of a column that comes first in the order is listed as its parts are, one after the
other. -/
theorem orderBy_between {column : ρ → Int} (unique : Unique (fun _ => True) key rows)
    (follows : ∀ {first second}, key first ≤ key second → column first ≤ column second)
    (below : lower ≤ middle + 1) (above : middle ≤ upper) :
    orderBy key (rows.filter fun row => lower ≤ column row ∧ column row ≤ upper) =
      orderBy key (rows.filter fun row => lower ≤ column row ∧ column row ≤ middle) ++
        orderBy key (rows.filter fun row => middle + 1 ≤ column row ∧ column row ≤ upper) := by
  refine orderBy_eq (unique.filter _) ?_ ?_
  · refine ((orderBy_perm _ _).append (orderBy_perm _ _)).trans ?_
    have parts := List.filter_append_perm (fun row => decide (column row ≤ middle))
      (rows.filter fun row => lower ≤ column row ∧ column row ≤ upper)
    rw [List.filter_filter,List.filter_filter] at parts
    refine (List.Perm.of_eq ?_).trans parts
    congr 1 <;> refine List.filter_congr fun row _ => Bool.eq_iff_iff.mpr ?_ <;>
      simp only [Bool.and_eq_true,Bool.not_eq_true',decide_eq_true_eq,decide_eq_false_iff_not] <;>
      omega
  · refine List.pairwise_append.mpr ⟨sorted_orderBy _ _, sorted_orderBy _ _, ?_⟩
    intro first left second right
    simp only [mem_orderBy,List.mem_filter,decide_eq_true_eq] at left right
    exact before_of_lt follows (by omega)

end Order

/-- The rows of a range, each decoded. -/
def selectBetween (key : ρ → κ) (column : ρ → Int) (decode : ρ → Except ε α) (rows : List ρ)
    (lower upper : Int) : Except ε (List α) :=
  (orderBy key (rows.filter fun row => lower ≤ column row ∧ column row ≤ upper)).mapM decode

section Select

variable {key : ρ → κ} {column : ρ → Int} {decode : ρ → Except ε α} {rows : List ρ}

/-- A range is answered as its parts are: the first part that fails decides. -/
theorem selectBetween_tile (unique : Unique (fun _ => True) key rows)
    (follows : ∀ {first second}, key first ≤ key second → column first ≤ column second)
    (below : lower ≤ middle + 1) (above : middle ≤ upper) :
    selectBetween key column decode rows lower upper = (do
      let first ← selectBetween key column decode rows lower middle
      let second ← selectBetween key column decode rows (middle + 1) upper
      pure (first ++ second)) := by
  rw [selectBetween,orderBy_between unique follows below above,List.mapM_append]
  rfl

theorem mem_selectBetween (selected : selectBetween key column decode rows lower upper = .ok values) :
    value ∈ values ↔
      ∃ row ∈ rows, (lower ≤ column row ∧ column row ≤ upper) ∧ decode row = .ok value := by
  have related := mapM_ok_iff.mp selected
  constructor
  · intro member
    obtain ⟨row, among, read⟩ := exists_of_forall₂ related.flip member
    rw [mem_orderBy,List.mem_filter,decide_eq_true_eq] at among
    exact ⟨row, among.1, among.2, read⟩
  · rintro ⟨row, among, inside, read⟩
    have listed : row ∈ orderBy key (rows.filter fun row => lower ≤ column row ∧ column row ≤ upper) := by
      rw [mem_orderBy,List.mem_filter,decide_eq_true_eq]
      exact ⟨among, inside⟩
    obtain ⟨other, member, same⟩ := exists_of_forall₂ related listed
    obtain rfl := Except.ok.inj (read.symm.trans same)
    exact member

/-- An answer lists what is held between two heights, once each and by height. -/
structure Lists (held : List α) (height : α → Nat) (lower upper : Nat) (listed : List α) : Prop where
  once : listed.Nodup
  ordered : listed.Pairwise fun first second => height first ≤ height second
  whole : ∀ value, value ∈ listed ↔ value ∈ held ∧ lower ≤ height value ∧ height value ≤ upper

/-- The values of the rows that can be decoded. -/
def decodable (decode : ρ → Except ε α) (rows : List ρ) : List α :=
  rows.filterMap fun row => (decode row).toOption

theorem mem_decodable : value ∈ decodable decode rows ↔ ∃ row ∈ rows, decode row = .ok value := by
  simp only [decodable,List.mem_filterMap,← Option.mem_def,mem_toOption_iff]

/-- Values that tell the keys of their rows, and their heights, are listed as the rows are. -/
theorem lists_selectBetween {height : α → Nat} {lower upper : Nat}
    (unique : Unique (fun _ => True) key rows)
    (follows : ∀ {first second}, key first ≤ key second → column first ≤ column second)
    (tells : ∀ {first second value}, first ∈ rows → second ∈ rows → decode first = .ok value →
      decode second = .ok value → key first = key second)
    (heights : ∀ {row value}, decode row = .ok value → column row = height value)
    (selected : selectBetween key column decode rows lower upper = .ok values) :
    Lists (decodable decode rows) height lower upper values where
  once := by
    have apart : (orderBy key (rows.filter fun row => lower ≤ column row ∧ column row ≤ upper)).Pairwise
        fun first second => first ∈ rows ∧ second ∈ rows ∧ key first ≠ key second := by
      refine ((orderBy_perm key _).pairwise_iff fun ⟨first, second, differ⟩ =>
        ⟨second, first, differ.symm⟩).mpr ?_
      exact (unique.filter _).imp_of_mem fun first second differ =>
        ⟨List.mem_of_mem_filter first, List.mem_of_mem_filter second, differ trivial trivial⟩
    refine pairwise_of_forall₂ (mapM_ok_iff.mp selected) apart ?_
    rintro first second value _ read read' ⟨among, among', differ⟩ rfl
    exact differ (tells among among' read read')
  ordered := by
    refine pairwise_of_forall₂ (mapM_ok_iff.mp selected) (sorted_orderBy _ _) ?_
    intro first second value value' read read' before
    have heights' := follows before
    rw [heights read,heights read'] at heights'
    exact Int.ofNat_le.mp heights'
  whole value := by
    rw [mem_selectBetween selected,mem_decodable]
    constructor
    · rintro ⟨row, among, inside, read⟩
      rw [heights read] at inside
      exact ⟨⟨row, among, read⟩, Int.ofNat_le.mp inside.1, Int.ofNat_le.mp inside.2⟩
    · rintro ⟨⟨row, among, read⟩, above, below⟩
      refine ⟨row, among, ?_, read⟩
      rw [heights read]
      exact ⟨Int.ofNat_le.mpr above, Int.ofNat_le.mpr below⟩

end Select

/-! Consecutive ranges. -/

/-- The ranges that end at the given numbers, each from where the one before ended. -/
def chunks (lower : Nat) : List Nat → List (Nat × Nat)
  | [] => []
  | upper :: uppers => (lower, upper) :: chunks (upper + 1) uppers

/-- No range ends before it begins. -/
def Rising (lower : Nat) : List Nat → Prop
  | [] => True
  | upper :: uppers => lower ≤ upper ∧ Rising (upper + 1) uppers

theorem Rising.le_getLast (rising : Rising lower (upper :: uppers)) :
    lower ≤ (upper :: uppers).getLast (List.cons_ne_nil _ _) := by
  induction uppers generalizing lower upper with
  | nil => exact rising.1
  | cons next uppers ih =>
    rw [List.getLast_cons (List.cons_ne_nil _ _)]
    exact Nat.le_trans (Nat.le_succ_of_le rising.1) (ih rising.2)

/-- What is answered part by part is answered over any consecutive ranges. -/
theorem tile_chunks {query : Nat → Nat → Except ε (List α)}
    (tiles : ∀ {lower middle upper}, lower ≤ middle + 1 → middle ≤ upper → query lower upper = (do
      let first ← query lower middle
      let second ← query (middle + 1) upper
      pure (first ++ second)))
    (rising : Rising lower (upper :: uppers)) :
    query lower ((upper :: uppers).getLast (List.cons_ne_nil _ _)) =
      ((chunks lower (upper :: uppers)).mapM fun range => query range.1 range.2).map List.flatten := by
  induction uppers generalizing lower upper with
  | nil =>
    rw [List.getLast_singleton,chunks,chunks,List.mapM_cons,List.mapM_nil]
    cases query lower upper with
    | error error => rfl
    | ok values => simp [bind,Except.bind,pure,Except.pure,Except.map]
  | cons next uppers ih =>
    have later : upper + 1 ≤ (next :: uppers).getLast (List.cons_ne_nil _ _) := rising.2.le_getLast
    have split : chunks lower (upper :: next :: uppers) =
        (lower, upper) :: chunks (upper + 1) (next :: uppers) := rfl
    rw [List.getLast_cons (List.cons_ne_nil _ _),
      tiles (Nat.le_succ_of_le rising.1) (Nat.le_of_succ_le later),ih rising.2,split,List.mapM_cons]
    cases query lower upper with
    | error error => rfl
    | ok first =>
      cases (chunks (upper + 1) (next :: uppers)).mapM fun range => query range.1 range.2 with
      | error error => rfl
      | ok rest => rfl

end Sql
