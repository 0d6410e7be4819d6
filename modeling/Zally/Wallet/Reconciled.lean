import Mathlib.Data.List.Induction
import Zally.Wallet.SyncTrace

/-! What the tip record of a wakeup stands for: it is current only on top of a chunk that
was committed under it, and a wakeup reports reconciled only against a tip it just recorded. -/
namespace Zally.Sync

open Async Async.Program

/-- What a call does to the tip record: it renews it, commits under it or repairs the
blocks it queued. -/
inductive TipMark where
  | recorded
  | committed
  | repaired
  deriving DecidableEq, Repr

def tipMark : SyncEvent → Option TipMark
  | ⟨.recordChainTips _ _, .ok _⟩ => some .recorded
  | ⟨.scanBlocks _, .ok _⟩ => some .committed
  | ⟨.truncateToChainState _, _⟩ | ⟨.recreateWithAccount _ _, _⟩ => some .repaired
  | _ => none

def tipMarks (trace : List SyncEvent) : List TipMark := trace.filterMap tipMark

@[simp] theorem tipMarks_append :
    tipMarks (before ++ after) = tipMarks before ++ tipMarks after := List.filterMap_append

theorem tipMark_of_plans {event : SyncEvent} (plans : Plans event.command) :
    tipMark event = none := by
  rcases event with ⟨command, answer⟩
  cases command <;> first | rfl | exact plans.elim

theorem tipMark_of_idle {event : SyncEvent} (idle : Idle event.command) :
    tipMark event = none := by
  rcases event with ⟨command, answer⟩
  cases command <;> first | rfl | exact idle.elim

theorem tipMark_of_prepares {event : SyncEvent} (prepares : Prepares chainTip event.command)
    (found : tipMark event = some mark) : chainTip = .stale ∧ mark = .recorded := by
  rcases event with ⟨command, answer⟩
  rcases prepares with plans | ⟨stale, records⟩
  · rw [tipMark_of_plans plans] at found
    cases found
  · refine ⟨stale, ?_⟩
    cases command <;> first | exact records.elim | skip
    · cases found
    · cases answer <;> simp [tipMark] at found
      exact found.symm

theorem mem_tipMarks_of_record {trace : List SyncEvent}
    (recorded : ∃ event ∈ trace, TipRecord event) : .recorded ∈ tipMarks trace := by
  obtain ⟨⟨command, answer⟩, member, record⟩ := recorded
  refine List.mem_filterMap.mpr ⟨_, member, ?_⟩
  cases command <;> first | exact record.elim | skip
  cases answer
  · exact record.elim
  · rfl

/-- The calls that follow a commit: the comparison and the announcements. -/
def Follows (command : SyncCommand) : Prop := Compares command ∨ Announces command

theorem tipMark_of_follows {event : SyncEvent} (follows : Follows event.command) :
    tipMark event = none := by
  rcases event with ⟨command, answer⟩
  rcases follows with (reads | ⟨height, result, rfl⟩) | announces
  · cases command <;> first | rfl | exact reads.elim
  · rfl
  · cases command <;> first | rfl | exact announces.elim

theorem within_checkAndAnnounce (context : ScanContext) (epoch : ChainEpoch)
    (scannedTo : BlockHeight) :
    (checkAndAnnounce context epoch scannedTo).run.Within Follows := by
  apply Fallible.within_bind
  · apply Fallible.within_call
    exact (within_verifyTreeRoots epoch scannedTo).mono fun _ compares => .inl compares
  · intro diverged
    split
    · trivial
    · exact (within_announceScanned context scannedTo).mono fun _ announces => .inr announces

theorem tipMarks_of_follows (follows : ∀ event ∈ trace, Follows event.command) :
    tipMarks trace = [] :=
  List.filterMap_eq_nil_iff.mpr fun event member => tipMark_of_follows (follows event member)

/-- A scan commits nothing and returns nothing, or commits its chunk. -/
theorem scanAndEmit_marks (run : Runs (scanAndEmit context fromState epoch).run trace outcome) :
    (tipMarks trace = [] ∧ ∀ value, outcome ≠ some (.ok value)) ∨
    (tipMarks trace = [.committed] ∧ ∀ value, outcome = some (.ok value) →
      value.blockCount = context.blockCount) := by
  rcases Fallible.runs_bind_cases run with ⟨stopped, failed⟩ | ⟨result, start, rest, rfl, scan, resumed⟩
  · rcases Fallible.runs_call_iff.mp stopped with ⟨rfl, -⟩ | ⟨reply, rfl, -⟩
    · exact .inl ⟨rfl, failed⟩
    · cases reply with
      | error error => exact .inl ⟨rfl, failed⟩
      | ok result => exact .inr ⟨rfl, fun value ok => absurd ok (failed value)⟩
  · obtain ⟨reply, rfl, rfl⟩ := Fallible.runs_call_ok scan
    right
    have quiet := tipMarks_of_follows (resumed.within (within_checkAndAnnounce ..))
    refine ⟨by rw [tipMarks_append,quiet]; rfl, ?_⟩
    rcases runs_checkAndAnnounce resumed with ⟨-, failed⟩ | ⟨-, counted⟩
    · exact fun value ok => absurd ok (failed value)
    · exact fun value ok => (counted value ok).2

/-- The marks of one attempt: it renews a stale record, and then commits one chunk or
reports caught up. -/
inductive AttemptMarks (chainTip : ChainTipRecord) (marks : List TipMark)
    (outcome : Option (Except WalletError SyncOutcome)) : Prop where
  | idle : (∀ mark ∈ marks, chainTip = .stale ∧ mark = .recorded) →
      (∀ value, outcome = some (.ok value) → value.blockCount = 0 ∧
        (chainTip = .stale → .recorded ∈ marks)) → AttemptMarks chainTip marks outcome
  | chunk (records : List TipMark) : marks = records ++ [.committed] →
      (∀ mark ∈ records, chainTip = .stale ∧ mark = .recorded) →
      (chainTip = .stale → .recorded ∈ records) →
      (∀ value, outcome = some (.ok value) → 0 < value.blockCount) →
      AttemptMarks chainTip marks outcome

theorem tipMarks_of_prepares (prepares : ∀ event ∈ trace, Prepares chainTip event.command) :
    ∀ mark ∈ tipMarks trace, chainTip = .stale ∧ mark = .recorded := by
  intro mark member
  obtain ⟨event, among, found⟩ := List.mem_filterMap.mp member
  exact tipMark_of_prepares (prepares event among) found

theorem Attempted.marks (attempted : Attempted chainTip trace outcome) :
    AttemptMarks chainTip (tipMarks trace) outcome := by
  cases attempted with
  | planned prepares caughtUp =>
    apply AttemptMarks.idle (tipMarks_of_prepares prepares)
    intro value ok
    exact ⟨(caughtUp value ok).1, fun stale => mem_tipMarks_of_record ((caughtUp value ok).2 stale)⟩
  | scanned context fromState epoch before after split nonempty prepares recorded scan =>
    subst split
    have records := tipMarks_of_prepares prepares
    rcases scanAndEmit_marks scan with ⟨quiet, failed⟩ | ⟨committed, counted⟩
    · rw [tipMarks_append,quiet,List.append_nil]
      exact .idle records fun value ok => absurd ok (failed value)
    · rw [tipMarks_append,committed]
      apply AttemptMarks.chunk _ rfl records
      · exact fun stale => mem_tipMarks_of_record (recorded stale)
      · exact fun value ok => counted value ok ▸ nonempty

/-- What a run of a scan call did to the tip record. -/
structure RunMarks (chainTip : ChainTipRecord) (marks : List TipMark)
    (outcome : Option (Except WalletError SyncOutcome)) : Prop where
  renews : .recorded ∈ marks → chainTip = .stale
  under : chainTip = .stale → .committed ∈ marks → List.Sublist [.recorded, .committed] marks
  commits : ∀ value, outcome = some (.ok value) → 0 < value.blockCount → .committed ∈ marks
  caughtUp : ∀ value, outcome = some (.ok value) → value.blockCount = 0 → chainTip = .stale →
    ∃ before, marks = before ++ [.recorded]

theorem runMarks_of_scanCall (run : Runs (scanCall wallet turns chainTip).run trace outcome) :
    RunMarks chainTip (tipMarks trace) outcome := by
  obtain ⟨attempts, made⟩ := runs_scanCall run
  have seen : tipMarks trace = attempts.flatMap fun one => tipMarks one.trace :=
    made.seen tipMark fun event idle => tipMark_of_idle idle
  have each : ∀ one ∈ attempts, AttemptMarks chainTip (tipMarks one.trace) one.outcome :=
    fun one member => (runs_attemptCall (made.runs one member)).marks
  rw [seen]
  constructor
  · intro recorded
    obtain ⟨one, member, among⟩ := List.mem_flatMap.mp recorded
    cases each one member with
    | idle records caughtUp => exact (records _ among).1
    | chunk records split recorded renewed counted =>
      rw [split] at among
      exact (recorded _ (by simpa using among)).1
  · intro stale committed
    obtain ⟨one, member, among⟩ := List.mem_flatMap.mp committed
    have part : List.Sublist (tipMarks one.trace)
        (attempts.flatMap fun one => tipMarks one.trace) :=
      List.sublist_flatten_of_mem (List.mem_map_of_mem member)
    apply List.Sublist.trans _ part
    cases each one member with
    | idle records caughtUp => simpa using (records _ among).2
    | chunk records split recorded renewed counted =>
      rw [split]
      exact (List.singleton_sublist.mpr (renewed stale)).append (List.Sublist.refl [TipMark.committed])
  · intro value ok blocks
    obtain ⟨earlier, last, rfl⟩ := made.final value ok
    refine List.mem_flatMap.mpr ⟨⟨last, some (.ok value)⟩, by simp, ?_⟩
    cases each ⟨last, some (.ok value)⟩ (by simp) with
    | idle records caughtUp =>
      have none := (caughtUp value rfl).1
      omega
    | chunk records split => simp [split]
  · intro value ok none stale
    obtain ⟨earlier, last, rfl⟩ := made.final value ok
    cases each ⟨last, some (.ok value)⟩ (by simp) with
    | idle records caughtUp =>
      have renewed := (caughtUp value rfl).2 stale
      rcases List.eq_nil_or_concat' (tipMarks last) with empty | ⟨init, mark, split⟩
      · simp [empty] at renewed
      · obtain rfl := (records mark (by simp [split])).2
        exact ⟨earlier.flatMap (fun one => tipMarks one.trace) ++ init, by simp [split]⟩
    | chunk records split recorded renewed counted =>
      have some := counted value rfl
      omega

/-! Whole wakeups. -/

/-- A status read after a run reports a higher frontier than the one before it only when
the run committed a chunk. -/
def FrontierFollows (driver : Driver) (input : DriverInput) : Prop :=
  match driver.position, input.event with
  | .running _ _ frontierBefore, .runEnded trace _ statusAfter =>
    0 < heightDelta frontierBefore (scanFrontier statusAfter) → .committed ∈ tipMarks trace
  | _, _ => True

/-- Nothing is asked of an input that commits whenever it ends a run. -/
theorem frontierFollows_of_commits (commits : ∀ trace outcome statusAfter,
    input.event = .runEnded trace outcome statusAfter → .committed ∈ tipMarks trace) :
    FrontierFollows driver input := by
  unfold FrontierFollows
  split
  · rename_i ended
    exact fun _ => commits _ _ _ ended
  · trivial

/-- An input that continues a wakeup without renewing its record or repairing. -/
def Continues (input : DriverInput) : Prop :=
  match input.event with
  | .statusRead _ => True
  | .runEnded trace _ _ => .recorded ∉ tipMarks trace
  | _ => False

/-- A chunk was committed under a tip record of the iteration that recorded last, and the
wakeup has only scanned since. -/
def CommittedUnderRecord (inputs : List DriverInput) : Prop :=
  ∃ before nowMs trace outcome statusAfter later,
    inputs = before ++ ⟨nowMs, .runEnded trace outcome statusAfter⟩ :: later ∧
    List.Sublist [.recorded, .committed] (tipMarks trace) ∧ ∀ input ∈ later, Continues input

theorem CommittedUnderRecord.extend (committed : CommittedUnderRecord inputs)
    (continues : Continues input) : CommittedUnderRecord (inputs ++ [input]) := by
  obtain ⟨before, nowMs, trace, outcome, statusAfter, later, rfl, under, scans⟩ := committed
  refine ⟨before, nowMs, trace, outcome, statusAfter, later ++ [input], by simp, under, ?_⟩
  exact List.forall_mem_append.mpr ⟨scans, by simpa using continues⟩

namespace DriverPosition

/-- The tip record the iteration at a position considers. -/
def chainTip : DriverPosition → Option ChainTipRecord
  | reading _ chainTip | running _ chainTip _ => some chainTip
  | _ => none

def inWakeup : DriverPosition → Bool
  | backoff _ | reading _ _ | running _ _ _ => true
  | _ => false

end DriverPosition

theorem iterate_chainTip (options : SyncDriverOptions) (nowMs : Nat) (driver : Driver)
    (chainTip : ChainTipRecord) (left : Nat)
    (found : (driver.iterate options nowMs chainTip left).position.chainTip = some record) :
    record = chainTip := by
  rcases driver.iterate_cases options nowMs chainTip left with ⟨-, equal⟩ | ⟨_, -, -, equal⟩ |
    ⟨_, -, -, -, equal⟩ | ⟨_, _, -, -, -, -, equal⟩ <;> rw [equal] at found
  · simp [Driver.exitPending,DriverPosition.chainTip] at found
  · exact (Option.some.inj found).symm
  · simp [Driver.exitPending,DriverPosition.chainTip] at found
  · simp [DriverPosition.chainTip] at found

/-- A new wakeup starts from a stale record. -/
theorem loopTurn_chainTip (options : SyncDriverOptions) (nowMs : Nat) (driver : Driver)
    (found : (driver.loopTurn options nowMs).position.chainTip = some record) :
    record = .stale := by
  unfold Driver.loopTurn at found
  split at found
  · exact iterate_chainTip options nowMs driver .stale _ found
  · simp [DriverPosition.chainTip] at found

/-- An iteration that ends with a current record committed a chunk, or found it current. -/
theorem settleRun_chainTip (options : SyncDriverOptions) (nowMs : Nat) (driver : Driver)
    (left : Nat) (chainTip : ChainTipRecord) (before after : ScanFrontier)
    (attempt : SyncRunAttempt)
    (found : (driver.settleRun options nowMs left chainTip before after
      attempt).position.chainTip = some .current) :
    (∃ outcome, attempt = .completed outcome ∧ 0 < outcome.blockCount) ∨
    (∃ fault committed, attempt = .faulted fault committed ∧
      (chainTip = .current ∨ 0 < heightDelta before after)) := by
  cases attempt with
  | completed outcome =>
    left
    refine ⟨outcome, rfl, ?_⟩
    simp only [Driver.settleRun] at found
    split at found
    · have current := iterate_chainTip _ _ _ _ _ found
      by_contra none
      simp [chainTipAfterScan,none] at current
    · simp [Driver.exitReconciled,DriverPosition.chainTip] at found
  | faulted fault committed =>
    right
    refine ⟨fault, committed, rfl, ?_⟩
    simp only [Driver.settleRun] at found
    have current := iterate_chainTip _ _ _ _ _ found
    by_cases advanced : 0 < heightDelta before after
    · exact .inr advanced
    · exact .inl (by simpa [chainTipAfterFault,advanced] using current.symm)

/-- A step keeps a current record on top of a chunk committed under it. -/
theorem step_current (follows : FrontierFollows driver input)
    (standing : driver.position.chainTip = some .current → CommittedUnderRecord past)
    (step : Driver.Step wallet options driver input next)
    (current : next.position.chainTip = some .current) : CommittedUnderRecord (past ++ [input]) := by
  obtain ⟨answers, moved⟩ := step
  have moves := Driver.moves_of_next moved
  rcases input with ⟨nowMs, event⟩
  simp only [] at moves answers
  cases moves with
  | opened waiting => cases loopTurn_chainTip _ _ _ current
  | closed => cases current
  | ticked waiting => cases loopTurn_chainTip _ _ _ current
  | notified waiting stream => cases loopTurn_chainTip _ _ _ current
  | @repaired left trace result waiting =>
    cases result with
    | ok value => cases current
    | error error => cases iterate_chainTip _ _ _ _ _ current
  | @read left chainTip status waiting =>
    have kept : driver.position.chainTip = some .current := by
      rw [waiting]
      exact current
    exact (standing kept).extend (show Continues ⟨nowMs, .statusRead status⟩ from trivial)
  | @ran left chainTip frontierBefore trace outcome statusAfter waiting =>
    simp only [Driver.Answers,waiting] at answers
    simp only [FrontierFollows,waiting] at follows
    obtain ⟨turns, run⟩ := answers
    have marks := runMarks_of_scanCall run
    cases chainTip with
    | current =>
      apply (standing (by rw [waiting]; rfl)).extend
      intro recorded
      cases marks.renews recorded
    | stale =>
      refine ⟨past, nowMs, trace, outcome, statusAfter, [], by simp, marks.under rfl ?_, by simp⟩
      rcases settleRun_chainTip _ _ _ _ _ _ _ _ current with
        ⟨value, completed, blocks⟩ | ⟨fault, committed, faulted, kept | advanced⟩
      · apply marks.commits value _ blocks
        rcases outcome with _ | error | returned
        · cases completed
        · cases completed
        · cases completed
          rfl
      · cases kept
      · exact follows advanced

/-- A wakeup exits reconciled when it stops syncing. -/
def ExitsReconciled (driver next : Driver) : Prop :=
  driver.position.inWakeup = true ∧ next.position = .select ∧ next.shouldSync = false

/-- The input ends a run that scanned nothing, and the last thing the run did to the tip
record was to renew it. -/
def ScannedNothingSinceRecord (input : DriverInput) : Prop :=
  ∃ trace value statusAfter before, input.event = .runEnded trace (some (.ok value)) statusAfter ∧
    value.blockCount = 0 ∧ tipMarks trace = before ++ [.recorded]

theorem iterate_not_reconciled (options : SyncDriverOptions) (nowMs : Nat) (driver : Driver)
    (chainTip : ChainTipRecord) (left : Nat) :
    ¬((driver.iterate options nowMs chainTip left).position = .select ∧
      (driver.iterate options nowMs chainTip left).shouldSync = false) := by
  rcases driver.iterate_cases options nowMs chainTip left with ⟨-, equal⟩ | ⟨_, -, -, equal⟩ |
    ⟨_, -, -, -, equal⟩ | ⟨_, _, -, -, -, -, equal⟩ <;> rw [equal]
  · simp [Driver.exitPending]
  · simp
  · simp [Driver.exitPending]
  · simp

theorem step_reconciled (step : Driver.Step wallet options driver input next)
    (exits : ExitsReconciled driver next) : ScannedNothingSinceRecord input := by
  obtain ⟨answers, moved⟩ := step
  have moves := Driver.moves_of_next moved
  obtain ⟨within, exited⟩ := exits
  rcases input with ⟨nowMs, event⟩
  simp only [] at moves answers
  cases moves with
  | opened waiting => simp [waiting,DriverPosition.inWakeup] at within
  | closed => simp at exited
  | ticked waiting => simp [waiting,DriverPosition.inWakeup] at within
  | notified waiting stream => simp [waiting,DriverPosition.inWakeup] at within
  | @repaired left trace result waiting =>
    cases result with
    | ok value => simp [Driver.settleRepair] at exited
    | error error => exact (iterate_not_reconciled _ _ _ _ _ exited).elim
  | read waiting => simp at exited
  | @ran left chainTip frontierBefore trace outcome statusAfter waiting =>
    simp only [Driver.Answers,waiting] at answers
    obtain ⟨turns, run⟩ := answers
    have marks := runMarks_of_scanCall run
    rcases outcome with _ | error | value
    · exact (iterate_not_reconciled _ _ _ _ _ exited).elim
    · exact (iterate_not_reconciled _ _ _ _ _ exited).elim
    · simp only [classifyRun,Driver.settleRun] at exited
      split at exited
      · exact (iterate_not_reconciled _ _ _ _ _ exited).elim
      · rename_i stops
        simp only [DriverState.completeSync,shouldContinueSyncing,decide_eq_true_eq,not_or] at stops
        have none : value.blockCount = 0 := by omega
        have stale : chainTip = .stale := by simpa using stops.2
        obtain ⟨before, last⟩ := marks.caughtUp value rfl none stale
        exact ⟨trace, value, statusAfter, before, rfl, none, last⟩

/-- In every wakeup the tip record counts as current only on top of a chunk committed under
it, and the exit is reconciled only against a tip the last run recorded. -/
theorem wakeup_tip_record (path : Path (Driver.Step wallet options) .initial inputs driver)
    (follows : ∀ before input after reached, inputs = before ++ input :: after →
      Path (Driver.Step wallet options) .initial before reached → FrontierFollows reached input) :
    (driver.position.chainTip = some .current → CommittedUnderRecord inputs) ∧
    ∀ input next, Driver.Step wallet options driver input next → ExitsReconciled driver next →
      ScannedNothingSinceRecord input := by
  refine ⟨?_, fun input next step exits => step_reconciled step exits⟩
  have standing : ∀ before after reached, inputs = before ++ after →
      Path (Driver.Step wallet options) .initial before reached →
      reached.position.chainTip = some .current → CommittedUnderRecord before := by
    intro before
    induction before using List.reverseRecOn with
    | nil =>
      intro after reached _ start current
      cases start
      cases current
    | append_singleton before input ih =>
      intro after reached split run current
      obtain ⟨previous, toPrevious, last⟩ := Path.concat_iff.mp run
      have decomposed : inputs = before ++ input :: after := by simpa using split
      exact step_current (follows before input after previous decomposed toPrevious)
        (ih _ previous decomposed toPrevious) last current
  exact standing inputs [] driver (by simp) path

def tipStatus (scannedHeight : Option BlockHeight) : Except WalletError WalletStatus :=
  .ok ⟨scannedHeight, some 1, some 1⟩

/-- A wakeup whose first run scanned block one. -/
def chunkInputs : List DriverInput :=
  [⟨0, .opened (.ok ())⟩, ⟨1, .statusRead (tipStatus none)⟩,
    ⟨6, .runEnded scannedTrace (some (.ok ⟨1, 1, 1, 5⟩)) (tipStatus (some 1))⟩]

theorem chunk_committed_under_record : ∃ driver,
    Path (Driver.Step sampleSyncWallet sampleOptions) .initial chunkInputs driver ∧
    driver.position.chainTip = some .current ∧ CommittedUnderRecord chunkInputs := by
  have path : ∃ driver,
      Path (Driver.Step sampleSyncWallet sampleOptions) .initial chunkInputs driver ∧
      driver.position.chainTip = some .current :=
    ⟨_, .cons ⟨trivial, rfl⟩ (.cons ⟨trivial, rfl⟩ (.cons ⟨⟨0, scannedTrace_runs⟩, rfl⟩ .nil)), rfl⟩
  obtain ⟨driver, path, current⟩ := path
  refine ⟨driver, path, current, (wakeup_tip_record path ?_).1 current⟩
  intro before input after reached split _
  apply frontierFollows_of_commits
  intro trace outcome statusAfter ended
  have member : input ∈ chunkInputs := by simp [split]
  simp only [chunkInputs,List.mem_cons,List.not_mem_nil,or_false] at member
  rcases member with rfl | rfl | rfl
  · cases ended
  · cases ended
  · cases ended
    decide

/-- The calls an input answers with. -/
def eventTrace : DriverEvent → List SyncEvent
  | .repaired trace _ | .runEnded trace _ _ => trace
  | _ => []

def inputMarks (inputs : List DriverInput) : List TipMark :=
  inputs.flatMap fun input => tipMarks (eventTrace input.event)

/-- A chunk was committed after the last tip record. -/
def CommittedSinceRecord (marks : List TipMark) : Prop :=
  ∃ before after, marks = before ++ .recorded :: after ∧ .recorded ∉ after ∧ .committed ∈ after

/-- A run that commits a chunk, is retried and records the tip again. -/
def retriedInputs : List DriverInput :=
  [⟨0, .opened (.ok ())⟩, ⟨1, .statusRead (tipStatus none)⟩,
    ⟨6, .runEnded retriedTrace (some (.error (.chainSource (.unavailable "connection refused"))))
      (tipStatus (some 1))⟩]

/-- The record of the retry counts as current though nothing was committed since. -/
theorem current_without_chunk_since_record : ∃ driver,
    Path (Driver.Step sampleSyncWallet sampleOptions) .initial retriedInputs driver ∧
    driver.position.chainTip = some .current ∧
    ¬CommittedSinceRecord (inputMarks retriedInputs) := by
  refine ⟨_, .cons ⟨trivial, rfl⟩ (.cons ⟨trivial, rfl⟩ (.cons ⟨⟨0, retriedTrace_runs⟩, rfl⟩ .nil)),
    rfl, ?_⟩
  change ¬CommittedSinceRecord [.recorded, .committed, .recorded]
  rintro ⟨before, after, split, fresh, committed⟩
  rcases before with _ | ⟨_, _ | ⟨_, _ | ⟨_, before⟩⟩⟩ <;> simp at split
  · simp [← split] at fresh
  · simp [split] at committed

end Zally.Sync
