import Mathlib.Data.List.TakeWhile
import Zally.Wallet.ScanPlan

/-! The subtree roots that a backfill hands to the storage, against what the chain source
answered. Indices and heights of roots are below `2 ^ 32`. -/
namespace Zally.Sync

open Async Async.Program

/-- The roots of one answer that the backfill records. -/
def keptRoots (pool : ShieldedPool) (nextIndex : Nat) (scanFloor : Option BlockHeight) :
    Except ChainSourceError (List SubtreeRoot) → List SubtreeRoot
  | .error _ => []
  | .ok page =>
    match validateSubtreeRootPage pool nextIndex subtreeRootPage page with
    | .error _ => []
    | .ok _ => subtreeRootsCompletedAtOrBelow page scanFloor

theorem validateSubtreeRootIndices_ok_iff : validateSubtreeRootIndices pool requestedStart offset
    roots = .ok () ↔ ∀ position (inside : position < roots.length),
      roots[position].index = saturatingAddU32 requestedStart (offset + position) := by
  induction roots generalizing offset with
  | nil => simp [validateSubtreeRootIndices]
  | cons root roots ih =>
    rw [validateSubtreeRootIndices]
    by_cases first : root.index = saturatingAddU32 requestedStart offset
    · rw [if_neg (not_not.mpr first),ih]
      constructor
      · intro rest position inside
        cases position with
        | zero => exact first
        | succ position =>
          rw [List.getElem_cons_succ,rest,Nat.add_assoc,Nat.add_comm 1]
      · intro expected position inside
        have here := expected (position + 1) (by simpa using inside)
        rwa [List.getElem_cons_succ,← Nat.add_assoc,Nat.add_right_comm] at here
    · rw [if_pos first]
      exact ⟨fun failed => (by cases failed), fun expected => absurd (expected 0 (by simp)) first⟩

theorem validateSubtreeRootPage_ok_iff : validateSubtreeRootPage pool requestedStart
    requestedCount roots = .ok () ↔ roots.length ≤ requestedCount ∧
      validateSubtreeRootIndices pool requestedStart 0 roots = .ok () ∧
      ∀ pair ∈ roots.zip roots.tail,
        pair.1.completingBlockHeight ≤ pair.2.completingBlockHeight := by
  unfold validateSubtreeRootPage
  by_cases counted : roots.length > requestedCount
  · rw [if_pos counted]
    exact ⟨fun failed => (by cases failed), fun ⟨within, _⟩ => absurd counted (by omega)⟩
  · rw [if_neg counted]
    have within : roots.length ≤ requestedCount := by omega
    cases indexed : validateSubtreeRootIndices pool requestedStart 0 roots with
    | error error =>
      exact ⟨fun failed => (by cases failed), fun ⟨_, failed, _⟩ => (by cases failed)⟩
    | ok value =>
      change (if _ then Except.error _ else Except.ok ()) = _ ↔ _
      by_cases falling : (roots.zip roots.tail).any
          (fun pair => pair.1.completingBlockHeight > pair.2.completingBlockHeight) = true
      · rw [if_pos falling]
        refine ⟨fun failed => (by cases failed), fun ⟨_, _, rising⟩ => ?_⟩
        obtain ⟨pair, member, above⟩ := List.any_eq_true.mp falling
        exact absurd (rising pair member) (by simpa using above)
      · rw [if_neg falling]
        refine ⟨fun _ => ⟨within, rfl, fun pair member => ?_⟩, fun _ => rfl⟩
        have rising := List.any_eq_false.mp (Bool.eq_false_iff.mpr falling) pair member
        simpa using rising

/-- Nothing is kept of an answer that is refused or that fails. -/
theorem keptRoots_valid (pool : ShieldedPool) (nextIndex : Nat) (scanFloor : Option BlockHeight)
    (answer : Except ChainSourceError (List SubtreeRoot)) :
    ((∀ page, answer = .ok page →
        validateSubtreeRootPage pool nextIndex subtreeRootPage page ≠ .ok ()) ∧
      keptRoots pool nextIndex scanFloor answer = []) ∨ ∃ page, answer = .ok page ∧
      validateSubtreeRootPage pool nextIndex subtreeRootPage page = .ok () ∧
      keptRoots pool nextIndex scanFloor answer = subtreeRootsCompletedAtOrBelow page scanFloor := by
  cases answer with
  | error error => exact .inl ⟨fun page ok => (by cases ok), rfl⟩
  | ok page =>
    simp only [keptRoots]
    cases valid : validateSubtreeRootPage pool nextIndex subtreeRootPage page with
    | error error =>
      refine .inl ⟨fun other same valid' => ?_, rfl⟩
      obtain rfl := Except.ok.inj same
      rw [valid] at valid'
      cases valid'
    | ok value => exact .inr ⟨page, rfl, valid, rfl⟩

theorem prefix_of_completed (roots : List SubtreeRoot) (scanFloor : Option BlockHeight) :
    subtreeRootsCompletedAtOrBelow roots scanFloor <+: roots := by
  unfold subtreeRootsCompletedAtOrBelow
  cases scanFloor with
  | none => exact List.nil_prefix
  | some floor => exact List.takeWhile_prefix _

/-- A kept root completes at or below the floor. -/
theorem keptRoots_below (member : root ∈ keptRoots pool nextIndex scanFloor answer) :
    ∃ floor, scanFloor = some floor ∧ root.completingBlockHeight ≤ floor := by
  rcases keptRoots_valid pool nextIndex scanFloor answer with ⟨-, nothing⟩ | ⟨page, -, -, kept⟩
  · simp [nothing] at member
  · rw [kept] at member
    cases scanFloor with
    | none => simp [subtreeRootsCompletedAtOrBelow] at member
    | some floor => exact ⟨floor, rfl, by simpa using List.mem_takeWhile_imp member⟩

/-- The kept roots begin at the requested index and follow each other, as far as the index
does not saturate. -/
theorem keptRoots_index (position : Nat) (inside : position <
    (keptRoots pool nextIndex scanFloor answer).length) :
    (keptRoots pool nextIndex scanFloor answer)[position].index =
      saturatingAddU32 nextIndex position := by
  rcases keptRoots_valid pool nextIndex scanFloor answer with ⟨-, nothing⟩ | ⟨page, -, valid, kept⟩
  · simp [nothing] at inside
  · have indices := validateSubtreeRootIndices_ok_iff.mp (validateSubtreeRootPage_ok_iff.mp valid).2.1
    have begins := prefix_of_completed page scanFloor
    rw [← kept] at begins
    rw [begins.getElem inside,indices]
    simp

def entriesOf (roots : List SubtreeRoot) : List (BlockHeight × RootBytes) :=
  roots.map fun root => (root.completingBlockHeight, root.rootBytes)

/-- The kept roots go to the storage from the requested index on, and the next page is
requested after them, as far as the index does not saturate. -/
theorem recordSubtreeRoots_kept (bounded : nextIndex ≤ u32Max) (nonempty : roots ≠ [])
    (kept : keptRoots pool nextIndex scanFloor answer = roots) :
    recordSubtreeRoots pool nextIndex roots = (do
      Fallible.call .ofStorage (ask (.putSubtreeRoots pool nextIndex (entriesOf roots)))
      return saturatingAddU32 nextIndex roots.length) := by
  obtain ⟨first, rest, rfl⟩ := List.exists_cons_of_ne_nil nonempty
  have index : ∀ position (inside : position < (first :: rest).length),
      (first :: rest)[position].index = saturatingAddU32 nextIndex position := by
    rw [← kept]
    exact keptRoots_index
  have firstIndex : first.index = nextIndex :=
    (index 0 (by simp)).trans (by simp [saturatingAddU32,bounded])
  have last : (first :: rest).getLast? = some ((first :: rest)[rest.length]) := by
    rw [List.getLast?_eq_getElem?]
    exact List.getElem?_eq_getElem (by simp)
  have resume : saturatingAddU32 (first :: rest)[rest.length].index 1 =
      saturatingAddU32 nextIndex (first :: rest).length := by
    rw [index rest.length (by simp)]
    simp only [saturatingAddU32,List.length_cons]
    omega
  subst firstIndex
  rw [recordSubtreeRoots,last]
  simp only [List.head?_cons,resume]
  rfl

theorem runs_put {resume : Nat} (run : Runs (do
      Fallible.call .ofStorage (ask (.putSubtreeRoots pool start roots))
      return resume : SyncM Nat).run trace outcome) :
    (trace = [] ∧ outcome = none) ∨
      ∃ stored, trace = [⟨.putSubtreeRoots pool start roots, stored⟩] ∧
        ∀ value, outcome = some (.ok value) → value = resume := by
  rw [Fallible.run_call_bind] at run
  rcases runs_await_iff.mp run with ended | ⟨stored, rest, rfl, later⟩
  · exact .inl ended
  refine .inr ⟨stored, ?_⟩
  cases stored with
  | error error =>
    obtain ⟨rfl, ended⟩ := runs_done_iff.mp later
    refine ⟨rfl, fun value ok => ?_⟩
    rcases ended with rfl | rfl <;> cases ok
  | ok answered =>
    obtain ⟨rfl, ended⟩ := runs_done_iff.mp later
    refine ⟨rfl, fun value ok => ?_⟩
    rcases ended with rfl | rfl <;> cases ok
    rfl

/-- What the loop does with a page that validates. -/
def afterPage (epoch : ChainEpoch) (scanFloor : Option BlockHeight) (pool : ShieldedPool)
    (turns nextIndex : Nat) (page : List SubtreeRoot) : SyncM Unit := do
  let roots := subtreeRootsCompletedAtOrBelow page scanFloor
  let resumeIndex ← recordSubtreeRoots pool nextIndex roots
  if roots.length < page.length || page.length < subtreeRootPage then return ()
  else backfillPool epoch scanFloor pool turns resumeIndex

theorem runs_afterPage_iff
    (valid : validateSubtreeRootPage pool nextIndex subtreeRootPage page = .ok ()) :
    Runs (backfillPool epoch scanFloor pool (turns + 1) nextIndex).run
        (⟨.subtreeRoots epoch pool nextIndex subtreeRootPage, .ok page⟩ :: rest) outcome ↔
      Runs (afterPage epoch scanFloor pool turns nextIndex page).run rest outcome := by
  rw [backfillPool,Fallible.run_call_bind]
  refine runs_await_cons_iff.trans ?_
  simp only [Program.bind,done_bind,ExceptT.run_bind,ExceptT.run_mk,valid]
  rw [afterPage,ExceptT.run_bind]

/-- An answer that is refused or that fails ends the run. -/
theorem runs_refused
    (refused : ∀ page, answer = .ok page →
      validateSubtreeRootPage pool nextIndex subtreeRootPage page ≠ .ok ())
    (run : Runs (backfillPool epoch scanFloor pool (turns + 1) nextIndex).run
      (⟨.subtreeRoots epoch pool nextIndex subtreeRootPage, answer⟩ :: rest) outcome) :
    rest = [] := by
  rw [backfillPool,Fallible.run_call_bind] at run
  have paged := runs_await_cons_iff.mp run
  cases answer with
  | error error => exact (runs_done_iff.mp paged).1
  | ok page =>
    simp only [Program.bind,done_bind,ExceptT.run_bind,ExceptT.run_mk] at paged
    cases valid : validateSubtreeRootPage pool nextIndex subtreeRootPage page with
    | error error =>
      simp only [valid] at paged
      exact (runs_done_iff.mp paged).1
    | ok value => exact absurd valid (refused page rfl)

/-- A page that validates ends the run, or its kept roots go to the storage and, when they
are a full page, the next page is requested. -/
theorem runs_afterPage (bounded : nextIndex ≤ u32Max)
    (valid : validateSubtreeRootPage pool nextIndex subtreeRootPage page = .ok ())
    (kept : keptRoots pool nextIndex scanFloor (.ok page) =
      subtreeRootsCompletedAtOrBelow page scanFloor)
    (run : Runs (afterPage epoch scanFloor pool turns nextIndex page).run trace outcome) :
    (trace = [] ∧ (outcome = none ∨ keptRoots pool nextIndex scanFloor (.ok page) = [])) ∨
      ∃ stored after, keptRoots pool nextIndex scanFloor (.ok page) ≠ [] ∧
        trace = ⟨.putSubtreeRoots pool nextIndex
          (entriesOf (keptRoots pool nextIndex scanFloor (.ok page))), stored⟩ :: after ∧
        (after = [] ∨ ((keptRoots pool nextIndex scanFloor (.ok page)).length = subtreeRootPage ∧
          Runs (backfillPool epoch scanFloor pool turns
            (saturatingAddU32 nextIndex subtreeRootPage)).run after outcome)) := by
  have begins := prefix_of_completed page scanFloor
  rw [afterPage,← kept] at run
  rw [← kept] at begins
  cases roots : keptRoots pool nextIndex scanFloor (.ok page) with
  | nil =>
    -- an empty page is short, and a page without a kept root reaches the floor
    have short : (decide (([] : List SubtreeRoot).length < page.length) ||
        decide (page.length < subtreeRootPage)) = true := by
      cases page with
      | nil => rfl
      | cons root page => simp
    rw [roots] at run
    change Runs (ExceptT.run (if _ then pure () else _)) trace outcome at run
    rw [if_pos short] at run
    exact .inl ⟨(runs_done_iff.mp run).1, .inr rfl⟩
  | cons first others =>
    rw [roots,recordSubtreeRoots_kept bounded (List.cons_ne_nil _ _) roots] at run
    rcases Program.runs_bind_iff.mp run with ⟨rfl, cut⟩ | ⟨put, front, back, rfl, putting, more⟩
    · rcases runs_put cut with ⟨rfl, -⟩ | ⟨stored, rfl, -⟩
      · exact .inl ⟨rfl, .inl rfl⟩
      · exact .inr ⟨stored, [], by simp, rfl, .inl rfl⟩
    rcases runs_put putting with ⟨-, ended⟩ | ⟨stored, rfl, resumed⟩
    · cases ended
    refine .inr ⟨stored, back, by simp, rfl, ?_⟩
    cases put with
    | error error => exact .inl (runs_done_iff.mp more).1
    | ok resume =>
      obtain rfl := resumed resume rfl
      by_cases full : (decide ((first :: others).length < page.length) ||
          decide (page.length < subtreeRootPage)) = true
      · simp only [if_pos full] at more
        exact .inl (runs_done_iff.mp more).1
      · simp only [if_neg full] at more
        rw [roots] at begins
        have whole : ¬ (first :: others).length < page.length ∧
            ¬ page.length < subtreeRootPage := by simpa using full
        have most := (validateSubtreeRootPage_ok_iff.mp valid).1
        have least := begins.length_le
        have length : (first :: others).length = subtreeRootPage := by omega
        rw [length] at more
        exact .inr ⟨length, more⟩

/-- One page of a pool: the answer ends the run, or its kept roots go to the storage and a
full page leads to the next one. -/
theorem runs_backfillPool (bounded : nextIndex ≤ u32Max)
    (run : Runs (backfillPool epoch scanFloor pool (turns + 1) nextIndex).run trace outcome) :
    (trace = [] ∧ outcome = none) ∨ ∃ answer rest,
      trace = ⟨.subtreeRoots epoch pool nextIndex subtreeRootPage, answer⟩ :: rest ∧
      ((rest = [] ∧ (outcome = none ∨ keptRoots pool nextIndex scanFloor answer = [])) ∨
      ∃ stored after, keptRoots pool nextIndex scanFloor answer ≠ [] ∧
        rest = ⟨.putSubtreeRoots pool nextIndex
          (entriesOf (keptRoots pool nextIndex scanFloor answer)), stored⟩ :: after ∧
        (after = [] ∨ ((keptRoots pool nextIndex scanFloor answer).length = subtreeRootPage ∧
          Runs (backfillPool epoch scanFloor pool turns
            (saturatingAddU32 nextIndex subtreeRootPage)).run after outcome))) := by
  rcases runs_await_iff.mp (by rwa [backfillPool,Fallible.run_call_bind] at run) with
    ended | ⟨answer, rest, rfl, -⟩
  · exact .inl ended
  refine .inr ⟨answer, rest, rfl, ?_⟩
  rcases keptRoots_valid pool nextIndex scanFloor answer with ⟨refused, nothing⟩ | ⟨page, rfl, valid, kept⟩
  · exact .inl ⟨runs_refused refused run, .inr nothing⟩
  · exact runs_afterPage bounded valid kept ((runs_afterPage_iff valid).mp run)

theorem runs_backfillPool_zero
    (run : Runs (backfillPool epoch scanFloor pool 0 nextIndex).run trace outcome) :
    trace = [] ∧ outcome = none := by
  rcases runs_await_iff.mp run with ended | ⟨answer, -⟩
  · exact ended
  · exact answer.elim

def IsRequest : SyncEvent → Bool
  | ⟨.subtreeRoots _ _ _ _, _⟩ => true
  | _ => false

def requests (trace : List SyncEvent) : Nat := trace.countP IsRequest

def handedBy (pool : ShieldedPool) : SyncEvent → List (BlockHeight × Nat)
  | ⟨.putSubtreeRoots stored startIndex roots, _⟩ =>
    if stored = pool then (roots.map Prod.fst).zipIdx startIndex else []
  | _ => []

/-- The completing height and the index of every root of a pool that the storage was given. -/
def handed (pool : ShieldedPool) (trace : List SyncEvent) : List (BlockHeight × Nat) :=
  trace.flatMap (handedBy pool)

/-- A page that begins at the last index, and from which a root is kept. -/
def PastLimit (scanFloor : Option BlockHeight) : SyncEvent → Prop
  | ⟨.subtreeRoots _ pool startIndex _, answer⟩ =>
    startIndex = u32Max ∧ keptRoots pool startIndex scanFloor answer ≠ []
  | _ => False

@[simp] theorem requests_nil : requests [] = 0 := rfl

@[simp] theorem requests_append : requests (before ++ after) = requests before + requests after :=
  List.countP_append

@[simp] theorem requests_asked {answer : Except ChainSourceError (List SubtreeRoot)} :
    requests (⟨.subtreeRoots epoch pool startIndex maxCount, answer⟩ :: trace) =
      requests trace + 1 := List.countP_cons_of_pos rfl

@[simp] theorem requests_put {answer : Except StorageError Unit} :
    requests (⟨.putSubtreeRoots pool startIndex roots, answer⟩ :: trace) = requests trace :=
  List.countP_cons_of_neg (by simp [IsRequest])

@[simp] theorem handed_nil : handed pool [] = [] := rfl

@[simp] theorem handed_append : handed pool (before ++ after) =
    handed pool before ++ handed pool after := List.flatMap_append

@[simp] theorem handed_asked {answer : Except ChainSourceError (List SubtreeRoot)} :
    handed pool (⟨.subtreeRoots epoch asked startIndex maxCount, answer⟩ :: trace) =
      handed pool trace := rfl

@[simp] theorem handed_put {answer : Except StorageError Unit} :
    handed pool (⟨.putSubtreeRoots pool startIndex (entriesOf roots), answer⟩ :: trace) =
      (roots.map (·.completingBlockHeight)).zipIdx startIndex ++ handed pool trace := by
  simp [handed,handedBy,entriesOf,Function.comp_def]

theorem handed_below (bounded : nextIndex ≤ u32Max)
    (run : Runs (backfillPool epoch scanFloor pool turns nextIndex).run trace outcome) :
    ∀ root ∈ handed pool trace, ∃ floor, scanFloor = some floor ∧ root.1 ≤ floor := by
  induction turns generalizing nextIndex trace with
  | zero =>
    obtain ⟨rfl, -⟩ := runs_backfillPool_zero run
    simp
  | succ turns ih =>
    rcases runs_backfillPool bounded run with
      ⟨rfl, -⟩ | ⟨answer, rest, rfl, ⟨rfl, -⟩ | ⟨stored, after, -, rfl, more⟩⟩
    · simp
    · simp
    intro root member
    rw [handed_asked,handed_put] at member
    rcases List.mem_append.mp member with first | later
    · obtain ⟨kept, isKept, height⟩ := List.mem_map.mp (List.fst_mem_of_mem_zipIdx first)
      rw [← height]
      exact keptRoots_below isKept
    · rcases more with rfl | ⟨-, again⟩
      · simp at later
      · exact ih (Nat.min_le_right ..) again root later

/-- At the last index nothing is kept, or the limit is passed. -/
theorem atLimit (quiet : ∀ event ∈ trace, ¬ PastLimit scanFloor event)
    (run : Runs (backfillPool epoch scanFloor pool turns u32Max).run trace outcome) :
    handed pool trace = [] ∧ requests trace ≤ 1 := by
  cases turns with
  | zero =>
    obtain ⟨rfl, -⟩ := runs_backfillPool_zero run
    simp
  | succ turns =>
    rcases runs_backfillPool (Nat.le_refl _) run with
      ⟨rfl, -⟩ | ⟨answer, rest, rfl, ⟨rfl, -⟩ | ⟨stored, after, kept, -⟩⟩
    · simp
    · simp
    · exact absurd ⟨rfl, kept⟩ (quiet _ List.mem_cons_self)

/-- Below the last index the kept roots follow each other, and every request but the last
moves the index by a page. -/
theorem handed_range (bounded : nextIndex ≤ u32Max)
    (quiet : ∀ event ∈ trace, ¬ PastLimit scanFloor event)
    (run : Runs (backfillPool epoch scanFloor pool turns nextIndex).run trace outcome) :
    (handed pool trace).map Prod.snd = List.range' nextIndex (handed pool trace).length ∧
      requests trace ≤ (u32Max - nextIndex) / subtreeRootPage + 2 := by
  induction turns generalizing nextIndex trace with
  | zero =>
    obtain ⟨rfl, -⟩ := runs_backfillPool_zero run
    simp
  | succ turns ih =>
    rcases runs_backfillPool bounded run with
      ⟨rfl, -⟩ | ⟨answer, rest, rfl, ⟨rfl, -⟩ | ⟨stored, after, -, rfl, rfl | ⟨full, again⟩⟩⟩
    · simp
    · simp
    · simp [List.zipIdx_map_snd]
    have quiet : ∀ event ∈ after, ¬ PastLimit scanFloor event := fun event member =>
      quiet event (List.mem_cons_of_mem _ (List.mem_cons_of_mem _ member))
    rw [handed_asked,handed_put,requests_asked,requests_put,List.map_append,List.zipIdx_map_snd,
      List.length_append,List.length_zipIdx,List.length_map,full]
    by_cases inside : nextIndex + subtreeRootPage ≤ u32Max
    · have advanced : saturatingAddU32 nextIndex subtreeRootPage = nextIndex + subtreeRootPage :=
        Nat.min_eq_left inside
      rw [advanced] at again
      obtain ⟨following, count⟩ := ih inside quiet again
      rw [following]
      refine ⟨List.range'_append_1, ?_⟩
      have step : (u32Max - nextIndex) / subtreeRootPage =
          (u32Max - (nextIndex + subtreeRootPage)) / subtreeRootPage + 1 := by
        rw [← Nat.add_div_right _ (by decide : 0 < subtreeRootPage)]
        congr 1
        omega
      omega
    · have advanced : saturatingAddU32 nextIndex subtreeRootPage = u32Max :=
        Nat.min_eq_right (by omega)
      rw [advanced] at again
      obtain ⟨nothing, count⟩ := atLimit quiet again
      rw [nothing]
      exact ⟨by simp, Nat.le_trans (Nat.succ_le_succ count) (Nat.le_add_left ..)⟩

/-- A finished run from the last index that hands over nothing from there kept nothing. -/
theorem quiet_atLimit
    (run : Runs (backfillPool epoch scanFloor pool turns u32Max).run trace (some outcome))
    (range : (handed pool trace).map Prod.snd =
      List.range' (u32Max + 1) (handed pool trace).length) :
    ∀ event ∈ trace, ¬ PastLimit scanFloor event := by
  cases turns with
  | zero =>
    obtain ⟨-, ended⟩ := runs_backfillPool_zero run
    cases ended
  | succ turns =>
    rcases runs_backfillPool (Nat.le_refl _) run with
      ⟨-, ended⟩ | ⟨answer, rest, rfl, ⟨rfl, unfinished | nothing⟩ | ⟨stored, after, kept, rfl, -⟩⟩
    · cases ended
    · cases unfinished
    · intro event member
      rw [List.mem_singleton.mp member]
      exact fun past => past.2 nothing
    · exfalso
      rw [handed_asked,handed_put,List.map_append,List.zipIdx_map_snd,List.length_append] at range
      obtain ⟨first, others, roots⟩ := List.exists_cons_of_ne_nil kept
      rw [roots,List.map_cons,List.length_cons,List.zipIdx_cons,List.length_cons,Nat.add_right_comm,
        List.range'_succ,List.length_map,List.range'_succ] at range
      have same := (List.cons.inj range).1
      omega

theorem below_last (bounded : nextIndex ≤ u32Max) (aligned : subtreeRootPage ∣ nextIndex) :
    nextIndex + subtreeRootPage ≤ u32Max + 1 := by
  obtain ⟨pages, rfl⟩ := aligned
  simp only [subtreeRootPage,u32Max] at bounded ⊢
  omega

/-- A finished run that hands over no root twice has kept none past the limit. -/
theorem quiet_of_range (bounded : nextIndex ≤ u32Max) (aligned : subtreeRootPage ∣ nextIndex)
    (run : Runs (backfillPool epoch scanFloor pool turns nextIndex).run trace (some outcome))
    (range : (handed pool trace).map Prod.snd =
      List.range' nextIndex (handed pool trace).length) :
    ∀ event ∈ trace, ¬ PastLimit scanFloor event := by
  induction turns generalizing nextIndex trace with
  | zero =>
    obtain ⟨-, ended⟩ := runs_backfillPool_zero run
    cases ended
  | succ turns ih =>
    have below := below_last bounded aligned
    have page : 1 < subtreeRootPage := by decide
    rcases runs_backfillPool bounded run with
      ⟨-, ended⟩ | ⟨answer, rest, rfl, rest⟩
    · cases ended
    intro event member
    rcases List.mem_cons.mp member with rfl | member
    · exact fun past => absurd past.1 (by omega)
    rcases rest with ⟨rfl, -⟩ | ⟨stored, after, -, rfl, rfl | ⟨full, again⟩⟩
    · cases member
    · rw [List.mem_singleton.mp member]
      exact id
    rcases List.mem_cons.mp member with rfl | member
    · exact id
    have following : (handed pool after).map Prod.snd =
        List.range' (nextIndex + subtreeRootPage) (handed pool after).length := by
      rw [handed_asked,handed_put,List.map_append,List.zipIdx_map_snd,List.length_append,
        List.length_zipIdx,List.length_map,full,← List.range'_append_1] at range
      exact List.append_cancel_left range
    by_cases inside : nextIndex + subtreeRootPage ≤ u32Max
    · have advanced : saturatingAddU32 nextIndex subtreeRootPage = nextIndex + subtreeRootPage :=
        Nat.min_eq_left inside
      rw [advanced] at again
      exact ih inside (Nat.dvd_add aligned (Nat.dvd_refl _)) again following event member
    · have advanced : saturatingAddU32 nextIndex subtreeRootPage = u32Max :=
        Nat.min_eq_right (by omega)
      rw [advanced] at again
      rw [show nextIndex + subtreeRootPage = u32Max + 1 by omega] at following
      exact quiet_atLimit again following event member

theorem handed_put_other {answer : Except StorageError Unit} (other : stored ≠ pool) :
    handed pool (⟨.putSubtreeRoots stored startIndex roots, answer⟩ :: trace) =
      handed pool trace := by
  simp [handed,handedBy,other]

/-- A pool's pages hand nothing over to another pool. -/
theorem handed_other (other : pool ≠ elsewhere) (bounded : nextIndex ≤ u32Max)
    (run : Runs (backfillPool epoch scanFloor pool turns nextIndex).run trace outcome) :
    handed elsewhere trace = [] := by
  induction turns generalizing nextIndex trace with
  | zero =>
    obtain ⟨rfl, -⟩ := runs_backfillPool_zero run
    rfl
  | succ turns ih =>
    rcases runs_backfillPool bounded run with
      ⟨rfl, -⟩ | ⟨answer, rest, rfl, ⟨rfl, -⟩ | ⟨stored, after, -, rfl, more⟩⟩
    · rfl
    · rfl
    rw [handed_asked,handed_put_other other]
    rcases more with rfl | ⟨-, again⟩
    · rfl
    · exact ih (Nat.min_le_right ..) again

/-- The first of two fallible parts ends when the whole does, and the second may not run. -/
theorem runs_then {first : SyncM Unit} {second : Unit → SyncM Unit}
    (run : Runs (first >>= second).run trace outcome) :
    ∃ before after, trace = before ++ after ∧
      (∃ ended, (outcome ≠ none → ended ≠ none) ∧ Runs first.run before ended) ∧
      (after = [] ∨ Runs (second ()).run after outcome) := by
  rcases Fallible.runs_bind_iff.mp run with
    ⟨rfl, cut⟩ | ⟨error, rfl, failed⟩ | ⟨rfl, error, failed⟩ | ⟨⟨⟩, before, after, rfl, ok, rest⟩
  · exact ⟨trace, [], by simp, ⟨none, id, cut⟩, .inl rfl⟩
  · exact ⟨trace, [], by simp, ⟨_, by simp, failed⟩, .inl rfl⟩
  · exact ⟨trace, [], by simp, ⟨_, by simp, failed⟩, .inl rfl⟩
  · exact ⟨before, after, rfl, ⟨_, by simp, ok⟩, .inr rest⟩

/-- The pages of the three pools, one pool after the other. -/
theorem runs_backfillSubtreeRoots
    (run : Runs (backfillSubtreeRoots turns epoch scanFloor).run trace outcome) :
    ∃ pages : ShieldedPool → List SyncEvent,
      trace = pages .sapling ++ (pages .orchard ++ pages .ironwood) ∧
      ∀ pool, pages pool = [] ∨ ∃ ended, (outcome ≠ none → ended ≠ none) ∧
        Runs (backfillPool epoch scanFloor pool turns 0).run (pages pool) ended := by
  let pages (sapling orchard ironwood : List SyncEvent) (pool : ShieldedPool) : List SyncEvent :=
    if pool = .sapling then sapling else if pool = .orchard then orchard else ironwood
  obtain ⟨sapling, others, rfl, first, rfl | run⟩ := runs_then run
  · refine ⟨pages sapling [] [], by simp [pages], fun pool => ?_⟩
    cases pool with
    | sapling => exact .inr first
    | orchard | ironwood => exact .inl rfl
  obtain ⟨orchard, ironwood, rfl, second, rfl | run⟩ := runs_then run
  · refine ⟨pages sapling orchard [], by simp [pages], fun pool => ?_⟩
    cases pool with
    | sapling => exact .inr first
    | orchard => exact .inr second
    | ironwood => exact .inl rfl
  · refine ⟨pages sapling orchard ironwood, by simp [pages], fun pool => ?_⟩
    cases pool with
    | sapling => exact .inr first
    | orchard => exact .inr second
    | ironwood => exact .inr ⟨outcome, id, run⟩

section Pools

variable {pages : ShieldedPool → List SyncEvent}

theorem mem_pools_iff : event ∈ pages .sapling ++ (pages .orchard ++ pages .ironwood) ↔
    ∃ pool, event ∈ pages pool := by
  simp only [List.mem_append]
  constructor
  · rintro (member | member | member)
    · exact ⟨_, member⟩
    · exact ⟨_, member⟩
    · exact ⟨_, member⟩
  · rintro ⟨pool, member⟩
    cases pool with
    | sapling => exact .inl member
    | orchard => exact .inr (.inl member)
    | ironwood => exact .inr (.inr member)

theorem handed_pools (apart : ∀ other, other ≠ pool → handed pool (pages other) = []) :
    handed pool (pages .sapling ++ (pages .orchard ++ pages .ironwood)) =
      handed pool (pages pool) := by
  cases pool <;> simp [apart]

theorem requests_pools (bound : ∀ pool, requests (pages pool) ≤ limit) :
    requests (pages .sapling ++ (pages .orchard ++ pages .ironwood)) ≤ 3 * limit := by
  have sapling := bound .sapling
  have orchard := bound .orchard
  have ironwood := bound .ironwood
  simp only [requests_append]
  omega

end Pools

/-- What the storage is to be given of a pool: the first roots without a gap, each once, and
none above the floor. -/
structure ContiguousPrefix (scanFloor : Option BlockHeight) (roots : List (BlockHeight × Nat)) :
    Prop where
  gapFree : roots.map Prod.snd = List.range roots.length
  once : (roots.map Prod.snd).Nodup
  belowFloor : ∀ root ∈ roots, ∃ floor, scanFloor = some floor ∧ root.1 ≤ floor

theorem ContiguousPrefix.of_range (range : roots.map Prod.snd = List.range' 0 roots.length)
    (below : ∀ root ∈ roots, ∃ floor, scanFloor = some floor ∧ root.1 ≤ floor) :
    ContiguousPrefix scanFloor roots where
  gapFree := range.trans (List.range_eq_range' ..).symm
  once := by
    rw [range]
    exact List.nodup_range'
  belowFloor := below

/-- The requests are bounded unless the limit is passed, and a finished backfill hands over a
contiguous prefix exactly when it is not. -/
theorem backfill_contiguous_iff (turns : Nat) (epoch : ChainEpoch) (scanFloor : Option BlockHeight)
    (trace : List SyncEvent) (outcome : Option (Except WalletError Unit))
    (run : Runs (backfillSubtreeRoots turns epoch scanFloor).run trace outcome) :
    ((∀ event ∈ trace, ¬ PastLimit scanFloor event) → requests trace ≤ 3 * (2 ^ 25 + 1)) ∧
    (outcome ≠ none → ((∀ pool, ContiguousPrefix scanFloor (handed pool trace)) ↔
      ∀ event ∈ trace, ¬ PastLimit scanFloor event)) := by
  obtain ⟨pages, rfl, runs⟩ := runs_backfillSubtreeRoots run
  have whole (pool : ShieldedPool) : handed pool (pages .sapling ++ (pages .orchard ++
      pages .ironwood)) = handed pool (pages pool) := by
    refine handed_pools fun other apart => ?_
    rcases runs other with nothing | ⟨ended, -, run⟩
    · rw [nothing,handed_nil]
    · exact handed_other apart (Nat.zero_le _) run
  constructor
  · intro quiet
    refine requests_pools fun pool => ?_
    rcases runs pool with nothing | ⟨ended, -, run⟩
    · simp [nothing]
    · exact (handed_range (Nat.zero_le _) (fun event member =>
        quiet event (mem_pools_iff.mpr ⟨pool, member⟩)) run).2
  · intro finished
    constructor
    · intro contiguous event member
      obtain ⟨pool, member⟩ := mem_pools_iff.mp member
      rcases runs pool with nothing | ⟨ended, ends, run⟩
      · simp [nothing] at member
      have gapFree := (contiguous pool).gapFree
      rw [whole,List.range_eq_range'] at gapFree
      obtain ⟨result, rfl⟩ := Option.ne_none_iff_exists'.mp (ends finished)
      exact quiet_of_range (Nat.zero_le _) (Nat.dvd_zero _) run gapFree event member
    · intro quiet pool
      rw [whole]
      rcases runs pool with nothing | ⟨ended, -, run⟩
      · rw [nothing]
        exact .of_range rfl (by simp)
      · exact .of_range (handed_range (Nat.zero_le _) (fun event member =>
          quiet event (mem_pools_iff.mpr ⟨pool, member⟩)) run).1 (handed_below (Nat.zero_le _) run)

def backfillEpoch : ChainEpoch := ⟨1, 10, 10⟩

/-- One root of the first pool is at the floor and one above it. -/
def sampleBackfill : List SyncEvent := [
  ⟨.subtreeRoots backfillEpoch .sapling 0 subtreeRootPage, .ok [⟨0, 7, 4⟩, ⟨1, 8, 6⟩]⟩,
  ⟨.putSubtreeRoots .sapling 0 [(4, 7)], .ok ()⟩,
  ⟨.subtreeRoots backfillEpoch .orchard 0 subtreeRootPage, .ok []⟩,
  ⟨.subtreeRoots backfillEpoch .ironwood 0 subtreeRootPage, .ok []⟩]

theorem sampleBackfill_contiguous :
    ((∀ event ∈ sampleBackfill, ¬ PastLimit (some 5) event) →
      requests sampleBackfill ≤ 3 * (2 ^ 25 + 1)) ∧
    ((some (.ok ()) : Option (Except WalletError Unit)) ≠ none →
      ((∀ pool, ContiguousPrefix (some 5) (handed pool sampleBackfill)) ↔
        ∀ event ∈ sampleBackfill, ¬ PastLimit (some 5) event)) :=
  backfill_contiguous_iff 1 backfillEpoch (some 5) sampleBackfill _ (.await (.await (.await (.await .done))))

/-- A full page of roots that complete at height zero. -/
def fullPage (startIndex : Nat) : List SubtreeRoot :=
  (List.range subtreeRootPage).map fun offset => ⟨saturatingAddU32 startIndex offset, 0, 0⟩

/-- The pages from an index on, for a source that always has another one. -/
def endlessPages : Nat → Nat → List SyncEvent
  | 0, _ => []
  | turns + 1, startIndex =>
    ⟨.subtreeRoots backfillEpoch .sapling startIndex subtreeRootPage, .ok (fullPage startIndex)⟩ ::
    ⟨.putSubtreeRoots .sapling startIndex (entriesOf (fullPage startIndex)), .ok ()⟩ ::
      endlessPages turns (saturatingAddU32 startIndex subtreeRootPage)

theorem height_fullPage (member : root ∈ fullPage startIndex) : root.completingBlockHeight = 0 := by
  obtain ⟨offset, -, rfl⟩ := List.mem_map.mp member
  rfl

theorem length_fullPage : (fullPage startIndex).length = subtreeRootPage := by simp [fullPage]

theorem fullPage_valid : validateSubtreeRootPage pool startIndex subtreeRootPage
    (fullPage startIndex) = .ok () := by
  refine validateSubtreeRootPage_ok_iff.mpr ⟨Nat.le_of_eq length_fullPage,
    validateSubtreeRootIndices_ok_iff.mpr fun position inside => by simp [fullPage], ?_⟩
  intro pair member
  rw [height_fullPage (List.of_mem_zip member).1]
  exact Nat.zero_le _

theorem fullPage_completed : subtreeRootsCompletedAtOrBelow (fullPage startIndex) (some 0) =
    fullPage startIndex := by
  refine List.takeWhile_eq_self_iff.mpr fun root member => ?_
  rw [height_fullPage member]
  rfl

theorem fullPage_kept : keptRoots pool startIndex (some 0) (.ok (fullPage startIndex)) =
    fullPage startIndex := by
  simp only [keptRoots,fullPage_valid,fullPage_completed]

theorem endlessPages_runs (bounded : startIndex ≤ u32Max) :
    Runs (backfillPool backfillEpoch (some 0) .sapling turns startIndex).run
      (endlessPages turns startIndex) none := by
  induction turns generalizing startIndex with
  | zero => exact .cut
  | succ turns ih =>
    have nonempty : fullPage startIndex ≠ [] :=
      List.ne_nil_of_length_pos (by rw [length_fullPage]; decide)
    rw [endlessPages,runs_afterPage_iff fullPage_valid,afterPage,fullPage_completed,
      recordSubtreeRoots_kept bounded nonempty fullPage_kept]
    refine .await ?_
    have whole : ¬ (decide ((fullPage startIndex).length < (fullPage startIndex).length) ||
        decide ((fullPage startIndex).length < subtreeRootPage)) = true := by
      simp [length_fullPage]
    change Runs (ExceptT.run (if (decide ((fullPage startIndex).length <
        (fullPage startIndex).length) || decide ((fullPage startIndex).length < subtreeRootPage)) =
        true then pure () else backfillPool backfillEpoch (some 0) .sapling turns
          (saturatingAddU32 startIndex (fullPage startIndex).length))) _ none
    rw [if_neg whole,length_fullPage]
    exact ih (Nat.min_le_right ..)

theorem requests_endlessPages : requests (endlessPages turns startIndex) = turns := by
  induction turns generalizing startIndex with
  | zero => rfl
  | succ turns ih => rw [endlessPages,requests_asked,requests_put,ih]

theorem endlessPages_within : endlessPages turns startIndex <+: endlessPages (turns + 1) startIndex := by
  induction turns generalizing startIndex with
  | zero => exact List.nil_prefix
  | succ turns ih =>
    rw [endlessPages,endlessPages]
    exact List.prefix_cons_inj _ |>.mpr (List.prefix_cons_inj _ |>.mpr ih)

/-- A source that answers every request with a full page of roots at height zero, at the last
index as elsewhere, is asked for ever. -/
theorem endless_requests :
    ∃ run : Nat → List SyncEvent, ∀ turns, run turns <+: run (turns + 1) ∧
      requests (run turns) = turns ∧
      Runs (backfillSubtreeRoots turns backfillEpoch (some 0)).run (run turns) none :=
  ⟨fun turns => endlessPages turns 0, fun _ => ⟨endlessPages_within, requests_endlessPages,
    Fallible.runs_bind_iff.mpr (.inl ⟨rfl, endlessPages_runs (Nat.zero_le _)⟩)⟩⟩

end Zally.Sync
