import Mathlib.Algebra.Order.BigOperators.Group.List
import Mathlib.Algebra.Order.Ring.Int
import Mathlib.Data.List.Perm.Basic

/-! Covering an amount with valued items, taken from the front of a list until their total
reaches it. Largest first, no choice of fewer items covers the amount. -/
namespace Cover

variable {α : Type} (value : α → Nat)

def total (items : List α) : Nat := (items.map value).sum

/-- The items still taken once the ones before total `running`. -/
def cover (amount : Nat) : (running : Nat) → List α → List α
  | _, [] => []
  | running, item :: items =>
    if amount ≤ running then [] else item :: cover amount (running + value item) items

variable {value} {items sub : List α}

@[simp] theorem total_nil : total value ([] : List α) = 0 := rfl

@[simp] theorem total_cons : total value (item :: items) = value item + total value items := by
  rw [total,List.map_cons,List.sum_cons,total]

theorem total_append : total value (first ++ second) = total value first + total value second := by
  rw [total,List.map_append,List.sum_append,total,total]

theorem total_perm (perm : List.Perm items sub) : total value items = total value sub :=
  (perm.map value).sum_nat

theorem cover_eq_take (amount running : Nat) (items : List α) :
    ∃ count, cover value amount running items = items.take count := by
  induction items generalizing running with
  | nil => exact ⟨0, rfl⟩
  | cons item items ih =>
    rw [cover]
    split
    · exact ⟨0, rfl⟩
    · obtain ⟨count, taken⟩ := ih (running + value item)
      exact ⟨count + 1, by rw [taken,List.take_succ_cons]⟩

/-- A list that can cover the amount is taken as far as it does. -/
theorem le_total_cover (enough : amount ≤ running + total value items) :
    amount ≤ running + total value (cover value amount running items) := by
  induction items generalizing running with
  | nil => exact enough
  | cons item items ih =>
    rw [cover]
    split
    · rename_i covered
      exact Nat.le_trans covered (Nat.le_add_right _ _)
    · rw [total_cons,← Nat.add_assoc] at enough ⊢
      exact ih enough

/-- A list that cannot is taken whole. -/
theorem cover_eq_self (short : running + total value items < amount) :
    cover value amount running items = items := by
  induction items generalizing running with
  | nil => rfl
  | cons item items ih =>
    rw [total_cons,← Nat.add_assoc] at short
    have uncovered : ¬amount ≤ running := by omega
    rw [cover,if_neg uncovered,ih short]

/-- The last item taken was needed. -/
theorem total_dropLast_cover (taken : cover value amount running items ≠ []) :
    running + total value (cover value amount running items).dropLast < amount := by
  induction items generalizing running with
  | nil => exact absurd rfl taken
  | cons item items ih =>
    rw [cover] at taken ⊢
    split at taken
    · exact absurd rfl taken
    · rename_i uncovered
      rw [if_neg uncovered]
      by_cases more : cover value amount (running + value item) items = []
      · rw [more]
        simpa using uncovered
      · rw [List.dropLast_cons_of_ne_nil more,total_cons,← Nat.add_assoc]
        exact ih more

section Largest

/-- Largest first. -/
def Descending (value : α → Nat) (items : List α) : Prop :=
  items.Pairwise fun first second => value second ≤ value first

/-- One more of the later items adds no more than the first. -/
theorem total_take_succ_le (descending : Descending value (item :: items)) (count : Nat) :
    total value (items.take (count + 1)) ≤ value item + total value (items.take count) := by
  rw [List.take_add_one,total_append,Nat.add_comm]
  apply Nat.add_le_add_right
  cases next : items[count]? with
  | none => exact Nat.zero_le _
  | some later =>
    have smaller := List.rel_of_pairwise_cons descending (List.mem_of_getElem? next)
    simpa using smaller

/-- No `count` of the items total more than the first `count` of them. -/
theorem total_le_take_of_sublist (descending : Descending value items)
    (within : List.Sublist sub items) (few : sub.length ≤ count) :
    total value sub ≤ total value (items.take count) := by
  induction within generalizing count with
  | slnil => exact Nat.zero_le _
  | cons item within ih =>
    have later := ih (List.Pairwise.of_cons descending) few
    cases count with
    | zero =>
      obtain rfl := List.length_eq_zero_iff.mp (Nat.le_zero.mp few)
      exact Nat.zero_le _
    | succ count =>
      rw [List.take_succ_cons,total_cons]
      exact Nat.le_trans later (total_take_succ_le descending count)
  | cons_cons item within ih =>
    cases count with
    | zero => simp at few
    | succ count =>
      rw [List.take_succ_cons,total_cons,total_cons]
      exact Nat.add_le_add_left
        (ih (List.Pairwise.of_cons descending) (Nat.le_of_succ_le_succ few)) _

/-- Of the choices that cover the amount, none is smaller than the one that takes the
largest first. -/
theorem length_cover_le (descending : Descending value items) (within : List.Subperm sub items)
    (enough : amount ≤ total value sub) : (cover value amount 0 items).length ≤ sub.length := by
  by_contra more
  have nonempty : cover value amount 0 items ≠ [] := by
    intro empty
    simp [empty] at more
  have needed := total_dropLast_cover nonempty
  obtain ⟨count, taken⟩ := @cover_eq_take _ value amount 0 items
  have before : (cover value amount 0 items).dropLast =
      items.take ((cover value amount 0 items).length - 1) := by
    rw [List.dropLast_eq_take,taken,List.take_take]
    congr 1
    rw [List.length_take]
    omega
  obtain ⟨chosen, perm, within⟩ := within
  have few : chosen.length ≤ (cover value amount 0 items).length - 1 := by
    rw [perm.length_eq]
    omega
  have bound := total_le_take_of_sublist descending within few
  rw [total_perm perm,← before] at bound
  omega

end Largest
end Cover
