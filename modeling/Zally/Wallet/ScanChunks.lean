import Mathlib.Data.List.Nodup
import Mathlib.Data.List.Perm.Subperm
import Zally.Async.Machine
import Zally.Wallet.ScanPlan

/-! The chunks that repeated planning takes from a queue of suggested ranges. -/
namespace Zally.Sync

open Async Async.Program

/-- The range suggests a block that the source can serve. -/
def Reaches (tip : BlockHeight) (range : ScanRange) : Prop :=
  ∃ height : Nat, range.start ≤ height ∧ height < range.endExclusive ∧ height ≤ tip

theorem reaches_iff : Reaches tip range ↔ range.isEmpty = false ∧ range.start ≤ tip := by
  simp only [ScanRange.isEmpty,decide_eq_false_iff_not,Nat.not_le]
  constructor
  · rintro ⟨height, above, below, visible⟩
    exact ⟨Nat.lt_of_le_of_lt above below, Nat.le_trans above visible⟩
  · rintro ⟨nonempty, visible⟩
    exact ⟨range.start, Nat.le_refl _, nonempty, visible⟩

/-- A chunk of at most a sync's blocks, at the start of the first range with a visible block. -/
structure TakenFrom (tip : BlockHeight) (ranges : List ScanRange) (chunk : ScanChunk) : Prop where
  nonempty : chunk.start ≤ chunk.endInclusive
  capped : chunk.endInclusive + 1 - chunk.start ≤ maxBlocksPerSync
  visible : chunk.endInclusive ≤ tip
  first : ∃ earlier range later, ranges = earlier ++ range :: later ∧
    (∀ other ∈ earlier, ¬ Reaches tip other) ∧ Reaches tip range ∧
    chunk.start = range.start ∧ chunk.endInclusive < range.endExclusive ∧
    chunk.priority = scanPriorityLabel range.priority

theorem firstScanChunk_skip (skipped : ¬ Reaches tip range) :
    firstScanChunk tip (range :: ranges) = firstScanChunk tip ranges := by
  rw [reaches_iff] at skipped
  rw [firstScanChunk]
  by_cases empty : range.isEmpty
  · rw [if_pos empty]
  · rw [if_neg empty,if_pos (by simpa [empty] using skipped)]

theorem firstScanChunk_take (reaches : Reaches tip range) :
    firstScanChunk tip (range :: ranges) = some {
      start := range.start
      endInclusive := min (saturatingAddU32 range.start (maxBlocksPerSync - 1))
        (min (range.endExclusive - 1) tip)
      priority := scanPriorityLabel range.priority } := by
  obtain ⟨nonempty, visible⟩ := reaches_iff.mp reaches
  rw [firstScanChunk,nonempty,if_neg Bool.false_ne_true,if_neg (Nat.not_lt.mpr visible)]

/-- The end of the chunk taken from a range with a visible block. -/
theorem chunkEnd_bounds {start endExclusive tip height : Nat} (bounded : tip ≤ u32Max)
    (above : start ≤ height) (below : height < endExclusive) (visible : height ≤ tip)
    (chunkEnd : last = min (saturatingAddU32 start (maxBlocksPerSync - 1))
      (min (endExclusive - 1) tip)) :
    start ≤ last ∧ last + 1 - start ≤ maxBlocksPerSync ∧ last ≤ tip ∧ last < endExclusive := by
  unfold saturatingAddU32 maxBlocksPerSync at chunkEnd
  unfold maxBlocksPerSync
  omega

theorem takenFrom_firstScanChunk (bounded : tip ≤ u32Max)
    (found : firstScanChunk tip ranges = some chunk) : TakenFrom tip ranges chunk := by
  induction ranges with
  | nil => cases found
  | cons range ranges ih =>
    by_cases reaches : Reaches tip range
    · rw [firstScanChunk_take reaches] at found
      obtain rfl := Option.some.inj found
      obtain ⟨height, above, below, visible⟩ := reaches
      obtain ⟨nonempty, capped, below', visible'⟩ := chunkEnd_bounds bounded above below visible rfl
      exact ⟨nonempty, capped, below', [], range, ranges, rfl, by simp,
        ⟨height, above, below, visible⟩, rfl, visible', rfl⟩
    · rw [firstScanChunk_skip reaches] at found
      obtain ⟨nonempty, capped, visible, earlier, taken, later, rfl, skipped, first⟩ := ih found
      exact ⟨nonempty, capped, visible, range :: earlier, taken, later, rfl,
        List.forall_mem_cons.mpr ⟨reaches, skipped⟩, first⟩

theorem firstScanChunk_eq_none_iff : firstScanChunk tip ranges = none ↔
    ∀ range ∈ ranges, ¬ Reaches tip range := by
  induction ranges with
  | nil => simp [firstScanChunk]
  | cons range ranges ih =>
    rw [List.forall_mem_cons]
    by_cases reaches : Reaches tip range
    · rw [firstScanChunk_take reaches]
      simp [reaches]
    · rw [firstScanChunk_skip reaches,ih]
      simp [reaches]

theorem runs_nextScanRange
    (run : Runs (nextScanRange tip).run trace (some (.ok planned))) :
    ∃ ranges, trace = [⟨.suggestScanRanges, .ok ranges⟩] ∧ planned = firstScanChunk tip ranges := by
  rw [nextScanRange,Fallible.run_call_bind] at run
  obtain ⟨answer, rest, rfl, answered⟩ := runs_await_some run
  cases answer with
  | error error =>
    obtain ⟨-, failed⟩ := runs_done_some answered
    cases failed
  | ok ranges =>
    obtain ⟨rfl, ended⟩ := runs_done_some answered
    exact ⟨ranges, rfl, Except.ok.inj ended⟩

/-- Planning answers with the chunk of the queue it read, before or after a backfill. -/
theorem planned_of_runs (run : Runs (planScanRange turns epoch tip).run trace (some (.ok planned)))
    (answered : ∀ ranges, ⟨.suggestScanRanges, ranges⟩ ∈ trace → ranges = .ok queue) :
    planned = firstScanChunk tip queue := by
  rw [planScanRange] at run
  rcases Fallible.runs_bind_some run with ⟨error, failed, -⟩ | ⟨found, before, after, rfl, next, rest⟩
  · cases failed
  obtain ⟨ranges, rfl, chosen⟩ := runs_nextScanRange next
  obtain rfl := Except.ok.inj (answered _ (List.mem_append_left _ List.mem_cons_self))
  cases found with
  | some chunk =>
    obtain ⟨-, ended⟩ := runs_done_some rest
    rw [← chosen,Except.ok.inj ended]
  | none =>
    rcases Fallible.runs_bind_some rest with ⟨error, failed, -⟩ | ⟨scanned, read, later, rfl, -, rest⟩
    · cases failed
    by_cases behind : (scanned.all (tip > ·)) = true
    · rw [if_pos behind] at rest
      rcases Fallible.runs_bind_some rest with ⟨error, failed, -⟩ | ⟨⟨⟩, filled, last, rfl, -, again⟩
      · cases failed
      obtain ⟨others, rfl, chosen⟩ := runs_nextScanRange again
      have same := answered (.ok others) (by simp)
      rw [chosen,Except.ok.inj same]
    · rw [if_neg behind] at rest
      obtain ⟨-, ended⟩ := runs_done_some rest
      rw [← chosen,Except.ok.inj ended]

def Suggested (queue : List ScanRange) (height : Nat) : Prop :=
  ∃ range ∈ queue, range.start ≤ height ∧ height < range.endExclusive

def heightsOf (chunk : ScanChunk) : List Nat :=
  List.range' chunk.start (chunk.endInclusive + 1 - chunk.start)

def scannedHeights (chunks : List ScanChunk) : List Nat := chunks.flatMap heightsOf

/-- One plan and its scan: the queue loses the scanned blocks and gains none. -/
structure ScanStep (tip : BlockHeight) (before : List ScanRange) (chunk : ScanChunk)
    (after : List ScanRange) : Prop where
  planned : ∃ turns epoch trace, Runs (planScanRange turns epoch tip).run trace
      (some (.ok (some chunk))) ∧
    ∀ ranges, ⟨.suggestScanRanges, ranges⟩ ∈ trace → ranges = .ok before
  removed : ∀ height, Suggested after height ↔ Suggested before height ∧ height ∉ heightsOf chunk

theorem ScanStep.takenFrom (step : ScanStep tip before chunk after) (bounded : tip ≤ u32Max) :
    TakenFrom tip before chunk := by
  obtain ⟨turns, epoch, trace, run, answered⟩ := step.planned
  exact takenFrom_firstScanChunk bounded (planned_of_runs run answered).symm

theorem mem_between {first last height : Nat} :
    height ∈ List.range' first (last + 1 - first) ↔ first ≤ height ∧ height ≤ last := by
  rw [List.mem_range'_1]
  omega

theorem mem_heightsOf (chunk : ScanChunk) (height : Nat) :
    height ∈ heightsOf chunk ↔ chunk.start ≤ height ∧ height ≤ chunk.endInclusive := mem_between

theorem TakenFrom.suggested (taken : TakenFrom tip queue chunk) (member : height ∈ heightsOf chunk) :
    Suggested queue height ∧ height ≤ tip := by
  obtain ⟨above, below⟩ := (mem_heightsOf chunk height).mp member
  obtain ⟨earlier, range, later, rfl, -, -, starts, ends, -⟩ := taken.first
  refine ⟨⟨range, by simp, ?_, Nat.lt_of_le_of_lt below ends⟩, Nat.le_trans below taken.visible⟩
  rwa [← starts]

theorem TakenFrom.heights_pos (taken : TakenFrom tip queue chunk) :
    0 < (heightsOf chunk).length := by
  rw [heightsOf,List.length_range']
  exact Nat.sub_pos_of_lt (Nat.lt_succ_of_le taken.nonempty)

/-- What a run of plans and scans has done to the queue: each scanned block was suggested and
visible, none was scanned twice, and the rest is still suggested. -/
structure Drains (tip : BlockHeight) (queue : List ScanRange) (chunks : List ScanChunk)
    (final : List ScanRange) : Prop where
  once : (scannedHeights chunks).Nodup
  suggested : ∀ height ∈ scannedHeights chunks, Suggested queue height ∧ height ≤ tip
  remains : ∀ height, Suggested final height ↔
    Suggested queue height ∧ height ∉ scannedHeights chunks
  progress : chunks.length ≤ (scannedHeights chunks).length

theorem drains_of_path (bounded : tip ≤ u32Max)
    (path : Path (ScanStep tip) queue chunks final) : Drains tip queue chunks final := by
  induction path with
  | nil => exact ⟨List.nodup_nil, by simp [scannedHeights], by simp [scannedHeights], Nat.le_refl _⟩
  | @cons queue chunk after chunks final step path ih =>
    have taken := step.takenFrom bounded
    have cons : scannedHeights (chunk :: chunks) = heightsOf chunk ++ scannedHeights chunks := rfl
    constructor
    · rw [cons]
      refine List.nodup_append.mpr ⟨List.nodup_range', ih.once, ?_⟩
      rintro height first other second rfl
      exact ((step.removed height).mp (ih.suggested height second).1).2 first
    · intro height member
      rcases List.mem_append.mp (cons ▸ member) with first | second
      · exact taken.suggested first
      · obtain ⟨suggested, visible⟩ := ih.suggested height second
        exact ⟨((step.removed height).mp suggested).1, visible⟩
    · intro height
      rw [ih.remains,step.removed,cons,List.mem_append,not_or,and_assoc]
    · have pos := taken.heights_pos
      have later := ih.progress
      rw [cons,List.length_append,List.length_cons]
      omega

/-- Distinct blocks up to the tip are no more than its height and one. -/
theorem Drains.bounded (drains : Drains tip queue chunks final) : chunks.length ≤ tip + 1 := by
  have within : scannedHeights chunks ⊆ List.range (tip + 1) := fun height member =>
    List.mem_range.mpr (Nat.lt_succ_of_le (drains.suggested height member).2)
  have count := (List.subperm_of_subset drains.once within).length_le
  rw [List.length_range] at count
  exact Nat.le_trans drains.progress count

/-- Planning takes a chunk from the first range with a visible block and none when there is
none; plans and scans of a queue that loses just the scanned blocks scan each visible block
once, at most as many as there are, and end when all of them are scanned. -/
theorem plan_and_scan_covers (tip : BlockHeight) (bounded : tip ≤ u32Max) :
    (∀ trace planned, Runs (nextScanRange tip).run trace (some (.ok planned)) →
      ∃ ranges, trace = [⟨.suggestScanRanges, .ok ranges⟩] ∧
        (∀ chunk, planned = some chunk → TakenFrom tip ranges chunk) ∧
        (planned = none ↔ ∀ range ∈ ranges, ¬ Reaches tip range)) ∧
    ∀ queue chunks final, Path (ScanStep tip) queue chunks final →
      (scannedHeights chunks).Nodup ∧ chunks.length ≤ tip + 1 ∧
      (∀ height ∈ scannedHeights chunks, Suggested queue height ∧ height ≤ tip) ∧
      ∀ turns epoch trace planned, Runs (planScanRange turns epoch tip).run trace
          (some (.ok planned)) →
        (∀ ranges, ⟨.suggestScanRanges, ranges⟩ ∈ trace → ranges = .ok final) →
        (planned = none ↔
          ∀ height, Suggested queue height → height ≤ tip → height ∈ scannedHeights chunks) := by
  constructor
  · intro trace planned run
    obtain ⟨ranges, rfl, rfl⟩ := runs_nextScanRange run
    exact ⟨ranges, rfl, fun chunk found => takenFrom_firstScanChunk bounded found,
      firstScanChunk_eq_none_iff⟩
  · intro queue chunks final path
    have drains := drains_of_path bounded path
    refine ⟨drains.once, drains.bounded, drains.suggested, ?_⟩
    intro turns epoch trace planned run answered
    rw [planned_of_runs run answered,firstScanChunk_eq_none_iff]
    constructor
    · intro nothing height suggested visible
      by_contra missed
      obtain ⟨range, member, above, below⟩ := (drains.remains height).mpr ⟨suggested, missed⟩
      exact nothing range member ⟨height, above, below, visible⟩
    · rintro whole range member ⟨height, above, below, visible⟩
      obtain ⟨suggested, missed⟩ := (drains.remains height).mp ⟨range, member, above, below⟩
      exact missed (whole height suggested visible)

/-- Three blocks below the tip and one above it. -/
def sampleQueue : List ScanRange := [⟨11, 12, .chainTip⟩, ⟨3, 6, .historic⟩]

def sampleChunk : ScanChunk := ⟨3, 5, "historic"⟩

theorem sampleChunk_step : ScanStep 10 sampleQueue sampleChunk [⟨11, 12, .chainTip⟩] where
  planned := by
    refine ⟨0, ⟨1, 10, 10⟩, [⟨.suggestScanRanges, .ok sampleQueue⟩], .await .done, ?_⟩
    intro ranges member
    simpa using member
  removed height := by
    simp only [Suggested,sampleQueue,List.mem_cons,List.not_mem_nil,or_false,exists_eq_left,
      exists_eq_or_imp,mem_heightsOf,sampleChunk]
    change ((11 : Nat) ≤ height ∧ height < 12) ↔ ((11 : Nat) ≤ height ∧ height < 12 ∨
      (3 : Nat) ≤ height ∧ height < 6) ∧ ¬((3 : Nat) ≤ height ∧ height ≤ 5)
    omega

theorem sampleQueue_covered : (scannedHeights [sampleChunk]).Nodup ∧
    4 ∈ scannedHeights [sampleChunk] := by
  obtain ⟨once, -, -, complete⟩ := (plan_and_scan_covers 10 (by decide)).2 _ _ _
    (.cons sampleChunk_step .nil)
  refine ⟨once, (complete 0 ⟨1, 10, 10⟩ [⟨.suggestScanRanges, .ok [⟨11, 12, .chainTip⟩]⟩,
    ⟨.fullyScannedHeight, .ok (some 10)⟩] none (.await (.await .done)) ?_).mp rfl 4
    ⟨⟨3, 6, .historic⟩, by simp [sampleQueue], by decide⟩ (by decide)⟩
  intro ranges member
  simpa using member

end Zally.Sync
