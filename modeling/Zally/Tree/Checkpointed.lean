import Mathlib.Data.List.Basic

/-! A tree of positions filled out of order: frontiers that stand for every leaf below
them, runs of inserted leaves, and checkpoints that fix a height and a size. -/
namespace PositionTree

structure Checkpoint where
  height : Nat
  size : Nat
  deriving DecidableEq, Repr

/-- The newest frontier, run and checkpoint stand first; a run starts at its position. -/
structure Checkpointed (α : Type) where
  frontiers : List (List α)
  runs : List (Nat × List α)
  checkpoints : List Checkpoint
  deriving DecidableEq, Repr

namespace Checkpointed

variable {α : Type}

def empty : Checkpointed α := ⟨[], [], []⟩

/-- A run of leaves on top of a frontier, checkpointed at its end. -/
def insert (tree : Checkpointed α) (frontier run : List α) (height : Nat) : Checkpointed α where
  frontiers := frontier :: tree.frontiers
  runs := (frontier.length, run) :: tree.runs
  checkpoints := ⟨height, frontier.length + run.length⟩ :: tree.checkpoints

def runLeaf (position : Nat) (run : Nat × List α) : Option α :=
  if run.1 ≤ position then run.2[position - run.1]? else none

/-- The leaf at a position: the newest inserted one, or the one a frontier stands for. -/
def leafAt (tree : Checkpointed α) (position : Nat) : Option α :=
  (tree.runs.findSome? (runLeaf position)).or (tree.frontiers.findSome? (·[position]?))

def contents (tree : Checkpointed α) (size : Nat) : List α :=
  (List.range size).filterMap tree.leafAt

/-- The highest checkpoint, the newest of them if several share its height. -/
def latest (tree : Checkpointed α) : Option Checkpoint :=
  tree.checkpoints.foldr (fun checkpoint best =>
    if best.any (checkpoint.height < ·.height) then best else some checkpoint) none

@[simp] theorem latest_empty : (empty : Checkpointed α).latest = none := rfl

theorem latest_insert (tree : Checkpointed α) (frontier run : List α) (height : Nat) :
    (tree.insert frontier run height).latest =
      if tree.latest.any (height < ·.height) then tree.latest
      else some ⟨height, frontier.length + run.length⟩ := rfl

theorem leafAt_insert (tree : Checkpointed α) (frontier run : List α) (height position : Nat) :
    (tree.insert frontier run height).leafAt position =
      ((runLeaf position (frontier.length, run)).or (tree.runs.findSome? (runLeaf position))).or
        ((frontier[position]?).or (tree.frontiers.findSome? (·[position]?))) := by
  unfold leafAt insert
  cases inserted : runLeaf position (frontier.length, run) <;>
    cases below : frontier[position]? <;> simp [inserted,below]

/-- A position of the newest run holds the leaf of that run. -/
theorem leafAt_insert_run (tree : Checkpointed α) (frontier : List α) {run : List α}
    (height : Nat) (found : run[index]? = some leaf) :
    (tree.insert frontier run height).leafAt (frontier.length + index) = some leaf := by
  rw [leafAt_insert]
  simp [runLeaf,found]

/-- A leaf comes from the newest run, from the newest frontier or from the tree before. -/
theorem leafAt_insert_cases {tree : Checkpointed α} {frontier run : List α} {leaf : α}
    (found : (Checkpointed.insert tree frontier run height).leafAt position = some leaf) :
    (frontier.length ≤ position ∧ run[position - frontier.length]? = some leaf) ∨
      frontier[position]? = some leaf ∨ tree.leafAt position = some leaf := by
  rw [leafAt_insert] at found
  cases inserted : runLeaf position (frontier.length, run) with
  | some value =>
    left
    simp only [inserted,Option.some_or] at found
    unfold runLeaf at inserted
    split at inserted
    · rename_i above
      exact ⟨above, inserted.trans found⟩
    · cases inserted
  | none =>
    right
    cases earlier : tree.runs.findSome? (runLeaf position) with
    | some value =>
      right
      simpa [leafAt,inserted,earlier] using found
    | none =>
      cases below : frontier[position]? with
      | some value =>
        left
        simpa [inserted,earlier,below] using found
      | none =>
        right
        simpa [leafAt,inserted,earlier,below] using found

/-- Every position below `size` has a leaf. -/
def Covers (tree : Checkpointed α) (size : Nat) : Prop :=
  ∀ position < size, (tree.leafAt position).isSome

theorem Covers.insert {tree : Checkpointed α} (covers : tree.Covers size) (frontier run : List α)
    (height : Nat) : (tree.insert frontier run height).Covers size := by
  intro position below
  have had := covers position below
  rw [leafAt_insert]
  simp only [leafAt,Option.isSome_or,Bool.or_eq_true] at had ⊢
  rcases had with run | frontier
  · exact .inl (.inr run)
  · exact .inr (.inr frontier)

theorem covers_insert (tree : Checkpointed α) (frontier run : List α) (height : Nat) :
    (tree.insert frontier run height).Covers (frontier.length + run.length) := by
  intro position below
  rw [leafAt_insert]
  simp only [Option.isSome_or,Bool.or_eq_true]
  by_cases inside : position < frontier.length
  · exact .inr (.inl (by simp [inside]))
  · have found : position - frontier.length < run.length := by omega
    exact .inl (.inl (by simp [runLeaf,Nat.le_of_not_lt inside,found]))

theorem Covers.mono {tree : Checkpointed α} (covers : tree.Covers larger) (less : size ≤ larger) :
    tree.Covers size := fun position below => covers position (Nat.lt_of_lt_of_le below less)

theorem contents_succ {tree : Checkpointed α} (found : tree.leafAt size = some leaf) :
    tree.contents (size + 1) = tree.contents size ++ [leaf] := by
  simp [contents,List.range_succ,found]

theorem length_contents {tree : Checkpointed α} (covers : tree.Covers size) :
    (tree.contents size).length = size := by
  induction size with
  | zero => rfl
  | succ size ih =>
    obtain ⟨leaf, found⟩ := Option.isSome_iff_exists.mp (covers size (Nat.lt_succ_self size))
    rw [contents_succ found,List.length_append,ih (covers.mono (Nat.le_succ size))]
    rfl

theorem getElem?_contents {tree : Checkpointed α} (covers : tree.Covers size)
    (below : position < size) : (tree.contents size)[position]? = tree.leafAt position := by
  induction size with
  | zero => omega
  | succ size ih =>
    have earlier := covers.mono (Nat.le_succ size)
    obtain ⟨leaf, found⟩ := Option.isSome_iff_exists.mp (covers size (Nat.lt_succ_self size))
    rw [contents_succ found]
    by_cases last : position = size
    · subst last
      rw [List.getElem?_append_right (Nat.le_of_eq (length_contents earlier)),length_contents earlier]
      simp [found]
    · have inside : position < size := by omega
      rw [List.getElem?_append_left (by rw [length_contents earlier]; exact inside)]
      exact ih earlier inside

/-- A covered tree whose leaves are those of `leaves` holds exactly `leaves`. -/
theorem contents_eq {tree : Checkpointed α} {leaves : List α} (covers : tree.Covers leaves.length)
    (agrees : ∀ position leaf, position < leaves.length → tree.leafAt position = some leaf →
      leaves[position]? = some leaf) : tree.contents leaves.length = leaves := by
  apply List.ext_getElem?
  intro position
  by_cases below : position < leaves.length
  · obtain ⟨leaf, found⟩ := Option.isSome_iff_exists.mp (covers position below)
    rw [getElem?_contents covers below,found,agrees position leaf below found]
  · rw [List.getElem?_eq_none (by rw [length_contents covers]; omega),
      List.getElem?_eq_none (by omega)]

end Checkpointed
end PositionTree
