import Mathlib.Order.Interval.Set.Basic

/-! Histories of a store that is written range by range, checked up to a position, cut
back to a position and cleared: which positions hold a write that no later check covered. -/
namespace Async.Coverage

inductive Action (α : Type) where
  | wrote (first last : α)
  | checked (upTo : α)
  | truncated (upTo : α)
  | cleared
  deriving DecidableEq, Repr

section Order

variable {α : Type} [LinearOrder α]

def step (pending : Set α) : Action α → Set α
  | .wrote first last => pending ∪ Set.Icc first last
  | .checked upTo => pending \ Set.Iic upTo
  | .truncated upTo => pending ∩ Set.Iic upTo
  | .cleared => ∅

/-- The positions left unchecked by a history that starts with those of `pending`. -/
def unchecked (pending : Set α) (history : List (Action α)) : Set α := history.foldl step pending

@[simp] theorem unchecked_nil (pending : Set α) : unchecked pending [] = pending := rfl

@[simp] theorem unchecked_cons (pending : Set α) (action : Action α) (history : List (Action α)) :
    unchecked pending (action :: history) = unchecked (step pending action) history := rfl

theorem unchecked_append (pending : Set α) (before after : List (Action α)) :
    unchecked pending (before ++ after) = unchecked (unchecked pending before) after :=
  List.foldl_append

/-- An action that neither checks nor removes `position`. -/
def Leaves (position : α) : Action α → Prop
  | .wrote _ _ => True
  | .checked upTo => upTo < position
  | .truncated upTo => position ≤ upTo
  | .cleared => False

def Writes (position : α) : Action α → Prop
  | .wrote first last => position ∈ Set.Icc first last
  | .checked _ | .truncated _ | .cleared => False

theorem mem_step_iff {pending : Set α} {action : Action α} : position ∈ step pending action ↔
    Writes position action ∨ position ∈ pending ∧ Leaves position action := by
  cases action <;> simp [step,Writes,Leaves,or_comm]

/-- A position is unchecked when it was pending from the start, or written, and nothing
after that checked or removed it. -/
theorem mem_unchecked_iff {pending : Set α} {history : List (Action α)} :
    position ∈ unchecked pending history ↔
      (position ∈ pending ∧ ∀ action ∈ history, Leaves position action) ∨
      ∃ before action after, history = before ++ action :: after ∧ Writes position action ∧
        ∀ later ∈ after, Leaves position later := by
  induction history generalizing pending with
  | nil => simp
  | cons action history ih =>
    rw [unchecked_cons,ih,mem_step_iff]
    constructor
    · rintro (⟨writes | ⟨member, leaves⟩, kept⟩ | ⟨before, other, after, rfl, writes, kept⟩)
      · exact .inr ⟨[], action, history, rfl, writes, kept⟩
      · exact .inl ⟨member, List.forall_mem_cons.mpr ⟨leaves, kept⟩⟩
      · exact .inr ⟨action :: before, other, after, rfl, writes, kept⟩
    · rintro (⟨member, kept⟩ | ⟨before, other, after, equal, writes, kept⟩)
      · obtain ⟨leaves, kept⟩ := List.forall_mem_cons.mp kept
        exact .inl ⟨.inr ⟨member, leaves⟩, kept⟩
      · cases before with
        | nil =>
          obtain ⟨rfl, rfl⟩ := List.cons.inj equal
          exact .inl ⟨.inl writes, kept⟩
        | cons head before =>
          obtain ⟨rfl, rfl⟩ := List.cons.inj equal
          exact .inr ⟨before, other, after, rfl, writes, kept⟩

theorem unchecked_mono {small large : Set α} (subset : small ⊆ large)
    (history : List (Action α)) : unchecked small history ⊆ unchecked large history := by
  intro position member
  rcases mem_unchecked_iff.mp member with ⟨pending, kept⟩ | written
  · exact mem_unchecked_iff.mpr (.inl ⟨subset pending, kept⟩)
  · exact mem_unchecked_iff.mpr (.inr written)

/-- What is left unchecked was pending before the history or was written in it. -/
theorem unchecked_subset (pending : Set α) (history : List (Action α)) :
    unchecked pending history ⊆ pending ∪ unchecked ∅ history := by
  intro position member
  rcases mem_unchecked_iff.mp member with ⟨pending, -⟩ | written
  · exact .inl pending
  · exact .inr (mem_unchecked_iff.mpr (.inr written))

theorem unchecked_empty_subset (pending : Set α) (history : List (Action α)) :
    unchecked ∅ history ⊆ unchecked pending history :=
  unchecked_mono (Set.empty_subset pending) history

/-- A history without writes leaves nothing unchecked that was not pending. -/
theorem unchecked_subset_of_not_writes {history : List (Action α)}
    (silent : ∀ action ∈ history, ∀ position, ¬Writes position action) (pending : Set α) :
    unchecked pending history ⊆ pending := by
  intro position member
  rcases mem_unchecked_iff.mp member with ⟨pending, -⟩ | ⟨before, action, after, rfl, writes, -⟩
  · exact pending
  · exact absurd writes (silent action (List.mem_append_right _ List.mem_cons_self) position)

/-- A final check covers every position up to it. -/
theorem lt_of_unchecked_checked {pending : Set α} {history : List (Action α)}
    (member : position ∈ unchecked pending (history ++ [.checked upTo])) : upTo < position := by
  rw [unchecked_append] at member
  simpa [step] using member.2

/-- An action of a history that is neither cut back nor cleared. -/
def Grows : Action α → Prop
  | .wrote _ _ | .checked _ => True
  | .truncated _ | .cleared => False

/-- Some range reaches down to `position`, and no later check covers it that far. -/
def Uncovered (history : List (Action α)) (position : α) : Prop :=
  ∃ before first last after, history = before ++ .wrote first last :: after ∧
    first ≤ min last position ∧ ∀ upTo, .checked upTo ∈ after → upTo < min last position

/-- While the store only grows, something up to `position` is unchecked exactly when a
range stays uncovered there: its highest position up to `position` is checked last. -/
theorem uncovered_iff {history : List (Action α)} (grows : ∀ action ∈ history, Grows action) :
    Uncovered history position ↔ ∃ lower ≤ position, lower ∈ unchecked ∅ history := by
  constructor
  · rintro ⟨before, first, last, after, rfl, reaches, kept⟩
    refine ⟨min last position, min_le_right _ _, mem_unchecked_iff.mpr (.inr
      ⟨before, .wrote first last, after, rfl, ⟨reaches, min_le_left _ _⟩, fun action member => ?_⟩)⟩
    have growing := grows action (List.mem_append_right _ (List.mem_cons_of_mem _ member))
    cases action with
    | wrote => trivial
    | checked upTo => exact kept upTo member
    | truncated => exact growing.elim
    | cleared => exact growing.elim
  · rintro ⟨lower, below, member⟩
    rcases mem_unchecked_iff.mp member with ⟨pending, -⟩ | ⟨before, action, after, rfl, writes, kept⟩
    · exact absurd pending (Set.notMem_empty lower)
    cases action with
    | wrote first last =>
      have inside : lower ≤ min last position := le_min writes.2 below
      exact ⟨before, first, last, after, rfl, writes.1.trans inside,
        fun upTo check => lt_of_lt_of_le (kept _ check) inside⟩
    | checked => exact writes.elim
    | truncated => exact writes.elim
    | cleared => exact writes.elim

end Order
end Async.Coverage
