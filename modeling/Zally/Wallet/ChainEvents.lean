import Zally.Async.Resume
import Zally.Wallet.SyncTrace

/-! The driver reads the source's chain events through streams that it reopens after faults. Each
event reaches it at most once and in order, and it misses none unless the source says that its
cursor expired. -/
namespace Zally.Sync

open Async
open Async.Resume (Log places)

/-- What the source tells the driver in a step: the answer to an opening, or an item of the open
stream. -/
inductive StreamAnswer where
  | opening (answer : Except ChainSourceError Unit)
  | item (item : Option (Except ChainSourceError ChainEventCursor))

def Driver.hears (driver : Driver) (input : DriverInput) : Option StreamAnswer :=
  match driver.position, input.event with
  | .starting, .opened answer => some (.opening answer)
  | .select, .pollTick reopened =>
    if driver.state.parked = none ∧ driver.streamOpen = false ∧
        input.nowMs ≥ driver.state.streamNextAttemptAtMs then some (.opening reopened) else none
  | .select, .chainEvent item => some (.item item)
  | _, _ => none

/-- Where the driver opens its next stream. -/
def startAfter (start : ChainEventStreamStart) : Option StreamAnswer → ChainEventStreamStart
  | some (.item (some (.ok cursor))) => .afterCursor cursor
  | some (.opening (.error error)) | some (.item (some (.error error))) =>
    if isExpiredCursor error then .earliestRetained else start
  | some (.opening (.ok ())) | some (.item none) | none => start

def StreamAnswer.cursor : StreamAnswer → Option ChainEventCursor
  | item (some (.ok cursor)) => some cursor
  | item (some (.error _)) | item none | opening _ => none

def StreamAnswer.Expired : StreamAnswer → Prop
  | opening (.error error) | item (some (.error error)) => isExpiredCursor error = true
  | opening (.ok ()) | item (some (.ok _)) | item none => False

/-- A stream opens right after the entry of its cursor while that place is kept, or at the oldest
entry. -/
def Starts (cursorAt : Nat → ChainEventCursor) (log : Log) (place : Nat) :
    ChainEventStreamStart → Prop
  | .earliestRetained => place = log.oldest
  | .afterCursor cursor => ∃ read, cursorAt read = cursor ∧ place = read + 1 ∧ log.oldest ≤ place

/-- The place after the cursor's entry is pruned. -/
def Pruned (cursorAt : Nat → ChainEventCursor) (log : Log) : ChainEventStreamStart → Prop
  | .earliestRetained => True
  | .afterCursor cursor => ∃ read, cursorAt read = cursor ∧ read + 1 < log.oldest

/-- What the source may answer, and the place of the open stream before and after. It calls a
cursor expired only when the place after it is pruned. -/
inductive ServesEvents (cursorAt : Nat → ChainEventCursor) (log : Log)
    (start : ChainEventStreamStart) : Option StreamAnswer → Option Nat → Option Nat → Prop where
  | opened (starts : Starts cursorAt log place start) :
      ServesEvents cursorAt log start (some (.opening (.ok ()))) stream (some place)
  | refused (truthful : isExpiredCursor error = true → Pruned cursorAt log start) :
      ServesEvents cursorAt log start (some (.opening (.error error))) stream none
  | read (inside : place < log.length) :
      ServesEvents cursorAt log start (some (.item (some (.ok (cursorAt place))))) (some place)
        (some (place + 1))
  | broken (truthful : isExpiredCursor error = true → place < log.oldest) :
      ServesEvents cursorAt log start (some (.item (some (.error error)))) (some place) none
  | ended : ServesEvents cursorAt log start (some (.item none)) (some place) none
  | apart : ServesEvents cursorAt log start none stream stream

structure DriverFeed where
  driver : Driver
  log : Log
  stream : Option Nat

inductive FeedLabel where
  | source
  | driver (input : DriverInput) (heard : Option StreamAnswer)

/-- The source's log moves on, or the driver takes a step. -/
inductive FeedStep (wallet : SyncWallet) (options : SyncDriverOptions)
    (cursorAt : Nat → ChainEventCursor) : DriverFeed → FeedLabel → DriverFeed → Prop where
  | source (pruned : log.oldest ≤ log'.oldest) (grown : log.length ≤ log'.length) :
      FeedStep wallet options cursorAt ⟨driver, log, stream⟩ .source ⟨driver, log', stream⟩
  | driver (step : Driver.Step wallet options driver input next)
      (serves : ServesEvents cursorAt log driver.chainEventsStart (driver.hears input) stream
        stream') :
      FeedStep wallet options cursorAt ⟨driver, log, stream⟩ (.driver input (driver.hears input))
        ⟨next, log, stream'⟩

def FeedLabel.cursor : FeedLabel → Option ChainEventCursor
  | source => none
  | driver _ heard => heard.bind StreamAnswer.cursor

def FeedLabel.Expired : FeedLabel → Prop
  | source => False
  | driver _ heard => ∃ answer ∈ heard, answer.Expired

/-- The cursors of the events the driver was given, in that order. -/
def handled (labels : List FeedLabel) : List ChainEventCursor := labels.filterMap FeedLabel.cursor

section Driver

variable {options : SyncDriverOptions} {driver : Driver}

theorem iterate_start (nowMs : Nat) (driver : Driver) (chainTip : ChainTipRecord) (left : Nat) :
    (driver.iterate options nowMs chainTip left).chainEventsStart = driver.chainEventsStart := by
  obtain ⟨-, same⟩ | ⟨rest, -, -, same⟩ | ⟨recovery, -, -, -, same⟩ | ⟨rest, recovery, -, -, -, -, same⟩ :=
    Driver.iterate_cases options nowMs driver chainTip left <;> rw [same] <;> rfl

theorem loopTurn_start (nowMs : Nat) (driver : Driver) :
    (driver.loopTurn options nowMs).chainEventsStart = driver.chainEventsStart := by
  unfold Driver.loopTurn
  split
  · exact iterate_start ..
  · rfl

theorem openChainEvents_start (nowMs : Nat) (driver : Driver)
    (answer : Except ChainSourceError Unit) :
    (driver.openChainEvents options nowMs answer).chainEventsStart =
      startAfter driver.chainEventsStart (some (.opening answer)) := by
  unfold Driver.openChainEvents
  split
  · split <;> rfl
  · rw [startAfter]
    split <;> rfl

theorem handleChainEvent_start (nowMs : Nat) (driver : Driver)
    (item : Option (Except ChainSourceError ChainEventCursor)) :
    (driver.handleChainEvent options nowMs item).chainEventsStart =
      startAfter driver.chainEventsStart (some (.item item)) := by
  unfold Driver.handleChainEvent
  split
  · rfl
  · rw [startAfter]
    split
    · rfl
    · split <;> rfl
  · rfl

theorem handlePollTick_start (waiting : driver.position = .select) (nowMs : Nat)
    (reopened : Except ChainSourceError Unit) :
    (driver.handlePollTick options nowMs reopened).chainEventsStart =
      startAfter driver.chainEventsStart (driver.hears ⟨nowMs, .pollTick reopened⟩) := by
  cases parked : driver.state.parked with
  | some since =>
    simp only [Driver.handlePollTick,Driver.hears,waiting,parked,reduceCtorEq,false_and,if_false]
    split <;> rfl
  | none =>
    simp only [Driver.handlePollTick,Driver.hears,waiting,parked,true_and]
    split
    · exact openChainEvents_start ..
    · rfl

theorem settleRepair_start (nowMs : Nat) (driver : Driver) (left : Nat)
    (result : Except WalletError Unit) :
    (driver.settleRepair options nowMs left result).chainEventsStart = driver.chainEventsStart := by
  cases result with
  | ok => rfl
  | error error => exact iterate_start ..

theorem settleRun_start (nowMs : Nat) (driver : Driver) (left : Nat) (chainTip : ChainTipRecord)
    (before after : ScanFrontier) (attempt : SyncRunAttempt) :
    (driver.settleRun options nowMs left chainTip before after attempt).chainEventsStart =
      driver.chainEventsStart := by
  cases attempt with
  | completed outcome =>
    unfold Driver.settleRun
    simp only []
    split
    · exact iterate_start ..
    · rfl
  | faulted fault committed => exact iterate_start ..

/-- Where the driver opens its next stream after a step. -/
theorem start_of_step (step : Driver.Step wallet options driver input next) :
    next.chainEventsStart = startAfter driver.chainEventsStart (driver.hears input) := by
  have moves := Driver.moves_of_next step.2
  rcases input with ⟨nowMs, event⟩
  simp only [] at moves
  cases moves with
  | opened waiting =>
    rw [loopTurn_start,openChainEvents_start]
    simp only [Driver.hears,waiting]
  | closed =>
    have silent : driver.hears ⟨nowMs, .closeRequested⟩ = none := by
      unfold Driver.hears
      cases driver.position <;> rfl
    rw [silent]
    rfl
  | ticked waiting => rw [loopTurn_start,handlePollTick_start waiting]
  | notified waiting stream =>
    rw [loopTurn_start,handleChainEvent_start]
    simp only [Driver.hears,waiting]
  | repaired waiting =>
    rw [settleRepair_start]
    simp only [Driver.hears,waiting]
    rfl
  | read waiting =>
    simp only [Driver.hears,waiting]
    rfl
  | ran waiting =>
    rw [settleRun_start]
    simp only [Driver.hears,waiting]
    rfl

end Driver

section Resuming

variable {cursorAt : Nat → ChainEventCursor}

/-- The place the driver resumes at. -/
def Resumes (cursorAt : Nat → ChainEventCursor) (resume : Option Nat) :
    ChainEventStreamStart → Prop
  | .earliestRetained => resume = none
  | .afterCursor cursor => ∃ read, cursorAt read = cursor ∧ resume = some (read + 1)

theorem starts_resume (injective : Function.Injective cursorAt) (starts : Starts cursorAt log place start)
    (resumes : Resumes cursorAt resume start) :
    place = resume.getD log.oldest ∧ ∀ next ∈ resume, log.oldest ≤ next := by
  cases start with
  | earliestRetained =>
    obtain rfl : resume = none := resumes
    exact ⟨starts, nofun⟩
  | afterCursor cursor =>
    obtain ⟨read, rfl, rfl, kept⟩ := starts
    obtain ⟨other, same, rfl⟩ := resumes
    obtain rfl := injective same
    exact ⟨rfl, fun next found => Option.some.inj found ▸ kept⟩

theorem pruned_resume (injective : Function.Injective cursorAt) (pruned : Pruned cursorAt log start)
    (resumes : Resumes cursorAt resume start) : ∀ place ∈ resume, place < log.oldest := by
  cases start with
  | earliestRetained =>
    obtain rfl : resume = none := resumes
    exact nofun
  | afterCursor cursor =>
    obtain ⟨read, rfl, gone⟩ := pruned
    obtain ⟨other, same, rfl⟩ := resumes
    obtain rfl := injective same
    exact fun place found => Option.some.inj found ▸ gone

/-- What the source answers moves a reader of its log, and the driver's start with it. -/
theorem reader_of_serves (injective : Function.Injective cursorAt)
    (serves : ServesEvents cursorAt log start heard stream stream')
    (resumes : Resumes cursorAt resume start) :
    ∃ labels resume', Path Resume.Step (log, ⟨resume, stream⟩) labels (log, ⟨resume', stream'⟩) ∧
      Resumes cursorAt resume' (startAfter start heard) ∧
      (places labels).map cursorAt = (heard.bind StreamAnswer.cursor).toList ∧
      (.expired ∈ labels → ∃ answer ∈ heard, answer.Expired) := by
  cases serves with
  | opened starts =>
    obtain ⟨rfl, kept⟩ := starts_resume injective starts resumes
    exact ⟨[.quiet], resume, .cons (.opens kept) .nil, resumes, rfl, by simp⟩
  | @refused error stream truthful =>
    by_cases expired : isExpiredCursor error = true
    · have gone := pruned_resume injective (truthful expired) resumes
      refine ⟨[.quiet, .expired], none, .cons .breaks (.cons (.expires ?_) .nil), ?_, rfl,
        fun _ => ⟨_, rfl, expired⟩⟩
      · rintro place (open' | ⟨-, resumed⟩)
        · cases open'
        · exact gone place resumed
      · rw [startAfter,if_pos expired]
        rfl
    · refine ⟨[.quiet], resume, .cons .breaks .nil, ?_, rfl, by simp⟩
      rwa [startAfter,if_neg expired]
  | @read place inside =>
    exact ⟨[.read place], some (place + 1), .cons (.reads inside) .nil, ⟨place, rfl, rfl⟩, rfl, by simp⟩
  | @broken error place truthful =>
    by_cases expired : isExpiredCursor error = true
    · refine ⟨[.expired], none, .cons (.expires ?_) .nil, ?_, rfl, fun _ => ⟨_, rfl, expired⟩⟩
      · rintro other (same | ⟨closed, -⟩)
        · exact Option.some.inj same ▸ truthful expired
        · cases closed
      · rw [startAfter,if_pos expired]
        rfl
    · refine ⟨[.quiet], resume, .cons .breaks .nil, ?_, rfl, by simp⟩
      rwa [startAfter,if_neg expired]
  | ended => exact ⟨[.quiet], resume, .cons .breaks .nil, resumes, rfl, by simp⟩
  | apart => exact ⟨[], resume, .nil, resumes, rfl, by simp⟩

/-- A run of the driver against its source is one of the reader. -/
theorem reader_of_path (injective : Function.Injective cursorAt)
    (path : Path (FeedStep wallet options cursorAt) feed labels final)
    (resumes : Resumes cursorAt resume feed.driver.chainEventsStart) :
    ∃ moves resume', Path Resume.Step (feed.log, ⟨resume, feed.stream⟩) moves
        (final.log, ⟨resume', final.stream⟩) ∧
      Resumes cursorAt resume' final.driver.chainEventsStart ∧
      (places moves).map cursorAt = handled labels ∧
      (.expired ∈ moves → ∃ label ∈ labels, label.Expired) := by
  induction path generalizing resume with
  | nil => exact ⟨[], resume, .nil, resumes, rfl, nofun⟩
  | cons step _ ih =>
    cases step with
    | source pruned grown =>
      obtain ⟨moves, resume', path, resumes', same, expired⟩ := ih resumes
      refine ⟨.quiet :: moves, resume', .cons (.grows pruned grown) path, resumes', same, ?_⟩
      intro member
      obtain ⟨label, inside, gone⟩ := expired (by simpa using member)
      exact ⟨label, List.mem_cons_of_mem _ inside, gone⟩
    | @driver driver input next _ _ _ step serves =>
      obtain ⟨first, middle, path, resumes', same, expired⟩ := reader_of_serves injective serves resumes
      rw [← start_of_step step] at resumes'
      obtain ⟨moves, resume', path', resumes'', same', expired'⟩ := ih resumes'
      refine ⟨first ++ moves, resume', path.append path', resumes'', ?_, fun member => ?_⟩
      · rw [Resume.places_append,List.map_append,same,same',handled,handled]
        cases heard : (driver.hears input).bind StreamAnswer.cursor with
        | none => simp [FeedLabel.cursor,heard]
        | some cursor => simp [FeedLabel.cursor,heard]
      · rcases List.mem_append.mp member with member | member
        · exact ⟨_, List.mem_cons_self, expired member⟩
        · obtain ⟨label, inside, gone⟩ := expired' member
          exact ⟨label, List.mem_cons_of_mem _ inside, gone⟩

/-- In every run, whatever faults, reconnections, ticks and wakeups it has, the driver is given the
events of the source's log in order and none of them twice; it misses events only where the source
tells it that its cursor expired. -/
theorem chainEvents_inOrder (injective : Function.Injective cursorAt)
    (path : Path (FeedStep wallet options cursorAt) ⟨.initial, log, none⟩ labels final) :
    (∃ read : List Nat, handled labels = read.map cursorAt ∧ read.Pairwise (· < ·)) ∧
      ∀ before middle after, labels = before ++ middle ++ after →
        (∀ label ∈ middle, ¬label.Expired) →
        ∃ first count, handled middle = (List.range' first count).map cursorAt := by
  constructor
  · obtain ⟨moves, resume, reading, -, same, -⟩ := reader_of_path injective path rfl
    exact ⟨places moves, same.symm, Resume.increasing_of_path reading⟩
  · rintro before middle after rfl unexpired
    obtain ⟨late, path, -⟩ := Path.append_iff.mp path
    obtain ⟨early, path, stretch⟩ := Path.append_iff.mp path
    obtain ⟨moves, resume, reading, resumes, -, -⟩ := reader_of_path injective path rfl
    obtain ⟨moves', resume', reading', -, same, expired⟩ := reader_of_path injective stretch resumes
    have joined := reading.invariant (fun state => state.2.Joined)
      (fun _ _ _ joined step => step.joined joined) nofun
    obtain ⟨first, count, consecutive⟩ := Resume.consecutive_of_path reading'
      (fun member => by
        obtain ⟨label, inside, gone⟩ := expired member
        exact unexpired label inside gone) joined
    exact ⟨first, count, by rw [← same,consecutive]⟩

end Resuming

section Sample

def sampleCursorAt (place : Nat) : ChainEventCursor := ⟨List.replicate place 7⟩

theorem sampleCursorAt_injective : Function.Injective sampleCursorAt := fun _ _ same =>
  List.replicate_left_injective 7 (congrArg ChainEventCursor.cursorBytes same)

/-- Wakeups of one iteration that the deadline cuts. -/
def cutOptions : SyncDriverOptions := { sampleOptions with maxSyncIterationsPerWakeCount := 1 }

/-- The log grows by two entries during the first wakeup, and the driver is given the first. -/
def sampleFeed : List FeedLabel := [
  .driver ⟨0, .opened (.ok ())⟩ (some (.opening (.ok ()))),
  .driver ⟨1, .statusRead (.ok ⟨none, none, none⟩)⟩ none,
  .source,
  .driver ⟨2, .runEnded [] none (.ok ⟨none, none, none⟩)⟩ none,
  .driver ⟨3, .chainEvent (some (.ok (sampleCursorAt 4)))⟩
    (some (.item (some (.ok (sampleCursorAt 4)))))]

theorem sampleFeed_inOrder : ∃ first count,
    handled sampleFeed = (List.range' first count).map sampleCursorAt := by
  have grows (driver : Driver) (stream : Option Nat) :
      FeedStep sampleSyncWallet cutOptions sampleCursorAt ⟨driver, ⟨4, 4⟩, stream⟩ .source
        ⟨driver, ⟨4, 6⟩, stream⟩ := .source (by decide) (by decide)
  have path : ∃ final, Path (FeedStep sampleSyncWallet cutOptions sampleCursorAt)
      ⟨.initial, ⟨4, 4⟩, none⟩ sampleFeed final := by
    refine ⟨_, .cons (.driver ⟨trivial, rfl⟩ (.opened rfl)) (.cons (.driver ⟨trivial, rfl⟩ .apart)
      (.cons (grows _ _) (.cons (.driver ⟨⟨0, .cut⟩, rfl⟩ .apart)
      (.cons (.driver ⟨trivial, rfl⟩ (.read ?_)) .nil))))⟩
    decide
  obtain ⟨final, path⟩ := path
  refine (chainEvents_inOrder sampleCursorAt_injective path).2 [] sampleFeed [] rfl fun label => ?_
  rintro member expired
  simp [sampleFeed] at member
  rcases member with rfl | rfl | rfl | rfl | rfl <;> simp [FeedLabel.Expired,StreamAnswer.Expired] at expired

end Sample

end Zally.Sync
