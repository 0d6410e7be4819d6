import Mathlib.Data.List.Basic

/-! Exclusive leases: each item is held by at most one owner. -/
namespace Lease

variable {ι ω : Type} [DecidableEq ι] [DecidableEq ω]

/-- The owner of each item that is held. -/
abbrev Table (ι ω : Type) := ι → Option ω

def Table.empty : Table ι ω := fun _ => none

/-- `owner` takes the items. -/
def acquire (table : Table ι ω) (owner : ω) (items : List ι) : Table ι ω :=
  fun item => if item ∈ items then some owner else table item

/-- `owner` gives back those of the items that it holds. -/
def release (table : Table ι ω) (owner : ω) (items : List ι) : Table ι ω :=
  fun item => if item ∈ items ∧ table item = some owner then none else table item

/-- The items are taken from whoever holds them. -/
def revoke (table : Table ι ω) (items : List ι) : Table ι ω :=
  fun item => if item ∈ items then none else table item

variable {table : Table ι ω} {owner other : ω} {item : ι} {items : List ι}

omit [DecidableEq ω] in
theorem acquire_eq_some_iff : acquire table owner items item = some other ↔
    item ∈ items ∧ other = owner ∨ item ∉ items ∧ table item = some other := by
  by_cases taken : item ∈ items <;> simp [acquire,taken,eq_comm]

theorem release_eq_some_iff : release table owner items item = some other ↔
    table item = some other ∧ ¬(item ∈ items ∧ other = owner) := by
  by_cases given : item ∈ items ∧ table item = some owner
  · rw [release,if_pos given,given.2]
    constructor
    · nofun
    · rintro ⟨same, notOwner⟩
      exact absurd ⟨given.1, (Option.some.inj same).symm⟩ notOwner
  · simp only [release,if_neg given]
    refine ⟨fun held => ⟨held, ?_⟩, And.left⟩
    rintro ⟨member, rfl⟩
    exact given ⟨member, held⟩

theorem release_nil : release table owner [] = table := by
  funext item
  exact if_neg fun given => List.not_mem_nil given.1

theorem release_release (first second : List ι) :
    release (release table owner first) owner second = release table owner (first ++ second) := by
  funext item
  refine Option.ext fun holder => ?_
  simp only [release_eq_some_iff,List.mem_append]
  tauto

omit [DecidableEq ω] in
theorem revoke_eq_some_iff : revoke table items item = some other ↔
    item ∉ items ∧ table item = some other := by
  by_cases taken : item ∈ items <;> simp [revoke,taken]

end Lease
