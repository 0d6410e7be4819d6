import Zally.Wallet.SyncTrace

/-! The request for another wakeup that a pending exit leaves: the driver keeps it in
`shouldSync` across its select loop. -/
namespace Zally.Sync

open Async Async.Program

namespace Driver

variable {driver : Driver}

/-- A wakeup exited pending and the ladder is not parked. -/
structure Pending (driver : Driver) : Prop where
  waiting : driver.position = .select
  requested : driver.shouldSync = true
  unparked : driver.state.parked = none

/-- The driver as a branch of the select leaves it, before the head of its loop. -/
def handle (options : SyncDriverOptions) (driver : Driver) (input : DriverInput) : Driver :=
  match input.event with
  | .pollTick reopened => driver.handlePollTick options input.nowMs reopened
  | .chainEvent item => driver.handleChainEvent options input.nowMs item
  | _ => driver

/-- The loop turn after the event starts a wakeup. -/
def StartsWakeup (options : SyncDriverOptions) (driver : Driver) (input : DriverInput)
    (next : Driver) : Prop :=
  (driver.handle options input).shouldSync = true ∧
    next = (driver.handle options input).iterate options input.nowMs .stale
      options.maxSyncIterationsPerWakeCount

/-- A tick syncs for a catch-up: one that was due already, one after the stream opens
again following faults, or one after its cursor expired. -/
def CatchesUp (driver : Driver) (nowMs : Nat) (reopened : Except ChainSourceError Unit) : Prop :=
  driver.state.catchUpPending = true ∨
    driver.streamOpen = false ∧ driver.state.streamNextAttemptAtMs ≤ nowMs ∧
      match reopened with
      | .ok () => 0 < driver.state.streamConsecutiveFaults
      | .error error => isExpiredCursor error = true

theorem handleChainEvent_parked (options : SyncDriverOptions) (nowMs : Nat) (driver : Driver)
    (item : Option (Except ChainSourceError ChainEventCursor)) :
    (driver.handleChainEvent options nowMs item).state.parked = driver.state.parked := by
  unfold handleChainEvent
  split
  · rfl
  · split
    · rfl
    · split <;> rfl
  · rfl

/-- No chain event, stream fault or end of the stream drops the request. -/
theorem handleChainEvent_keeps (options : SyncDriverOptions) (nowMs : Nat)
    (pending : driver.Pending) (item : Option (Except ChainSourceError ChainEventCursor)) :
    (driver.handleChainEvent options nowMs item).shouldSync = true := by
  have unparked : driver.state.parked.isNone = true := by simp [pending.unparked]
  unfold handleChainEvent
  split
  · exact unparked
  · split
    · exact unparked
    · split <;> exact pending.requested
  · exact pending.requested

theorem openChainEvents_parked (options : SyncDriverOptions) (nowMs : Nat) (driver : Driver)
    (answer : Except ChainSourceError Unit) :
    (driver.openChainEvents options nowMs answer).state.parked = driver.state.parked := by
  unfold openChainEvents
  split
  · split <;> rfl
  · split <;> rfl

theorem openChainEvents_catchUp (options : SyncDriverOptions) (nowMs : Nat) (driver : Driver)
    (answer : Except ChainSourceError Unit) :
    (driver.openChainEvents options nowMs answer).state.catchUpPending = true ↔
      driver.state.catchUpPending = true ∨ match answer with
        | .ok () => 0 < driver.state.streamConsecutiveFaults
        | .error error => isExpiredCursor error = true := by
  cases answer with
  | ok opened =>
    by_cases faulted : driver.state.streamConsecutiveFaults > 0
    · simp [openChainEvents,faulted]
    · simp [openChainEvents,faulted]
  | error error =>
    by_cases expired : isExpiredCursor error = true
    · simp [openChainEvents,expired]
    · simp [openChainEvents,expired,DriverState.recordStreamFault]

/-- An unparked tick takes the catch-up for the request, whatever the request was. -/
theorem handlePollTick_keeps_iff (options : SyncDriverOptions) (nowMs : Nat)
    (pending : driver.Pending) (reopened : Except ChainSourceError Unit) :
    (driver.handlePollTick options nowMs reopened).shouldSync = true ↔
      driver.CatchesUp nowMs reopened := by
  simp only [handlePollTick,pending.unparked,CatchesUp]
  by_cases due : driver.streamOpen = false ∧ nowMs ≥ driver.state.streamNextAttemptAtMs
  · rw [if_pos due]
    simpa [due] using openChainEvents_catchUp options nowMs driver reopened
  · rw [if_neg due]
    constructor
    · exact .inl
    · rintro (standing | ⟨closed, late, -⟩)
      · exact standing
      · exact absurd ⟨closed, late⟩ due

theorem handlePollTick_parked (options : SyncDriverOptions) (nowMs : Nat)
    (unparked : driver.state.parked = none) (reopened : Except ChainSourceError Unit) :
    (driver.handlePollTick options nowMs reopened).state.parked = none := by
  simp only [handlePollTick,unparked]
  split
  · exact (openChainEvents_parked ..).trans unparked
  · exact unparked

/-- What the head of the loop makes of an unparked driver. -/
theorem loopTurn_unparked (options : SyncDriverOptions) (nowMs : Nat) (driver : Driver)
    (unparked : driver.state.parked = none) (requested : driver.shouldSync = true) :
    driver.loopTurn options nowMs =
      driver.iterate options nowMs .stale options.maxSyncIterationsPerWakeCount := by
  simp [loopTurn,unparked,requested]

end Driver

/-- One loop turn of a driver with a request: only a tick can fail to start the wakeup,
and it fails exactly when it catches nothing up. -/
theorem step_starts_wakeup_iff (pending : driver.Pending)
    (step : Driver.Step wallet options driver input next) :
    (input.event = .closeRequested ∨ Driver.StartsWakeup options driver input next) ↔
      ∀ reopened, input.event = .pollTick reopened → driver.CatchesUp input.nowMs reopened := by
  have moves := Driver.moves_of_next step.2
  rcases input with ⟨nowMs, event⟩
  simp only [] at moves ⊢
  cases moves with
  | closed => simp
  | @ticked reopened waiting =>
    have kept := Driver.handlePollTick_keeps_iff options nowMs pending reopened
    have unparked := Driver.handlePollTick_parked options nowMs pending.unparked reopened
    constructor
    · rintro (close | ⟨starts, -⟩) _ ⟨⟩
      · cases close
      · exact kept.mp starts
    · intro catches
      have requested := kept.mpr (catches reopened rfl)
      exact .inr ⟨requested, Driver.loopTurn_unparked options nowMs _ unparked requested⟩
  | @notified item waiting stream =>
    have requested := Driver.handleChainEvent_keeps options nowMs pending item
    have unparked := (Driver.handleChainEvent_parked options nowMs driver item).trans
      pending.unparked
    apply iff_of_true
    · exact .inr ⟨requested, Driver.loopTurn_unparked options nowMs _ unparked requested⟩
    · intro _ tick
      cases tick
  | opened waiting => simp [pending.waiting] at waiting
  | repaired waiting => simp [pending.waiting] at waiting
  | read waiting => simp [pending.waiting] at waiting
  | ran waiting => simp [pending.waiting] at waiting

/-- In a run of the driver every pending request starts a wakeup at the next loop turn
that does not close it, exactly when no tick meets a request without a catch-up. -/
theorem pending_kept_iff (path : Path (Driver.Step wallet options) .initial inputs final) :
    (∀ before input after driver next, inputs = before ++ input :: after →
      Path (Driver.Step wallet options) .initial before driver → driver.Pending →
      Driver.Step wallet options driver input next →
      input.event = .closeRequested ∨ Driver.StartsWakeup options driver input next) ↔
    ∀ before input after driver reopened, inputs = before ++ input :: after →
      Path (Driver.Step wallet options) .initial before driver → driver.Pending →
      input.event = .pollTick reopened → driver.CatchesUp input.nowMs reopened := by
  constructor
  · rintro kept before input after driver reopened rfl reached pending tick
    obtain ⟨next, step⟩ := path.step_of_append (Driver.step_deterministic wallet options) reached
    have starts := kept before input after driver next rfl reached pending step
    exact (step_starts_wakeup_iff pending step).mp starts reopened tick
  · intro catches before input after driver next split reached pending step
    apply (step_starts_wakeup_iff pending step).mpr
    intro reopened tick
    exact catches before input after driver reopened split reached pending tick

/-- A driver that waits for chain events with nothing to catch up. -/
structure Driver.Idle (driver : Driver) : Prop where
  waiting : driver.position = .select
  stream : driver.streamOpen = true
  unparked : driver.state.parked = none
  caughtUp : driver.state.catchUpPending = false
  unrequested : driver.shouldSync = false

/-- Ticks alone never start a wakeup of an idle driver. -/
theorem idle_ticks (path : Path (Driver.Step wallet options) driver ticks final)
    (idle : driver.Idle)
    (only : ∀ input ∈ ticks, ∃ reopened, input.event = .pollTick reopened) : final.Idle := by
  induction path with
  | nil => exact idle
  | @cons driver input next _ _ step _ ih =>
    obtain ⟨⟨reopened, tick⟩, rest⟩ := List.forall_mem_cons.mp only
    apply ih _ rest
    have moved := step.2
    simp only [Driver.next,idle.waiting,tick,Option.some.injEq] at moved
    rw [← moved]
    have ticked : driver.handlePollTick options input.nowMs reopened =
        { driver with shouldSync := false } := by
      rcases driver with ⟨state, streamOpen, start, shouldSync, position⟩
      rcases state with ⟨observation, fault, recovery, catchUp, faults, at_ms⟩
      have unparked := idle.unparked
      obtain rfl : catchUp = false := idle.caughtUp
      obtain rfl : streamOpen = true := idle.stream
      simp [Driver.handlePollTick,unparked]
    rw [ticked]
    have turned : ({ driver with shouldSync := false } : Driver).loopTurn options input.nowMs =
        { driver with shouldSync := false, position := .select } := by
      simp [Driver.loopTurn]
    rw [turned]
    exact ⟨rfl, idle.stream, idle.unparked, idle.caughtUp, rfl⟩

/-- A run whose attempts find the chain source down. -/
def outageTrace : List SyncEvent :=
  [⟨.allowCall, true⟩, ⟨.currentEpoch, .error (.unavailable "connection refused")⟩,
    ⟨.sleep 0, ()⟩, ⟨.currentEpoch, .error (.unavailable "connection refused")⟩,
    ⟨.recordFailure, ()⟩]

theorem outageTrace_runs : Runs (scanCall sampleSyncWallet 0 .stale).run outageTrace
    (some (.error (.chainSource (.unavailable "connection refused")))) := by
  repeat' apply Runs.await
  exact Runs.done

/-- One iteration for each wakeup. -/
def tightOptions : SyncDriverOptions := { sampleOptions with maxSyncIterationsPerWakeCount := 1 }

/-- The only iteration of the wakeup faults, so it exits pending. -/
def pendingInputs : List DriverInput :=
  [⟨0, .opened (.ok ())⟩, ⟨1, .statusRead (.ok ⟨none, none, none⟩)⟩,
    ⟨2, .runEnded outageTrace (some (.error (.chainSource (.unavailable "connection refused"))))
      (.ok ⟨none, none, none⟩)⟩]

def tickInput : DriverInput := ⟨5000, .pollTick (.ok ())⟩

theorem pendingInputs_path : ∃ driver,
    Path (Driver.Step sampleSyncWallet tightOptions) .initial pendingInputs driver ∧
    driver.Pending ∧ driver.streamOpen = true ∧ driver.state.catchUpPending = false :=
  ⟨_, .cons ⟨trivial, rfl⟩ (.cons ⟨trivial, rfl⟩ (.cons ⟨⟨0, outageTrace_runs⟩, rfl⟩ .nil)),
    ⟨rfl, rfl, rfl⟩, rfl, rfl⟩

theorem pending_wakeup_kept_iff : ∃ driver,
    Path (Driver.Step sampleSyncWallet tightOptions) .initial pendingInputs driver ∧
    ((∀ before input after driver next, pendingInputs = before ++ input :: after →
      Path (Driver.Step sampleSyncWallet tightOptions) .initial before driver → driver.Pending →
      Driver.Step sampleSyncWallet tightOptions driver input next →
      input.event = .closeRequested ∨ Driver.StartsWakeup tightOptions driver input next) ↔
    ∀ before input after driver reopened, pendingInputs = before ++ input :: after →
      Path (Driver.Step sampleSyncWallet tightOptions) .initial before driver → driver.Pending →
      input.event = .pollTick reopened → driver.CatchesUp input.nowMs reopened) := by
  obtain ⟨driver, path, -⟩ := pendingInputs_path
  exact ⟨driver, path, pending_kept_iff path⟩

/-- The poll tick after the pending exit ends the request: no wakeup starts in that loop
turn, nor after any number of further ticks. -/
theorem tick_drops_request : ∃ driver next,
    Path (Driver.Step sampleSyncWallet tightOptions) .initial pendingInputs driver ∧
    driver.Pending ∧ Driver.Step sampleSyncWallet tightOptions driver tickInput next ∧
    ¬Driver.StartsWakeup tightOptions driver tickInput next ∧
    ∀ ticks final, Path (Driver.Step sampleSyncWallet tightOptions) next ticks final →
      (∀ input ∈ ticks, ∃ reopened, input.event = .pollTick reopened) →
      final.position = .select ∧ final.shouldSync = false := by
  refine ⟨_, _, .cons ⟨trivial, rfl⟩ (.cons ⟨trivial, rfl⟩
    (.cons ⟨⟨0, outageTrace_runs⟩, rfl⟩ .nil)), ⟨rfl, rfl, rfl⟩, ⟨trivial, rfl⟩,
    fun starts => Bool.false_ne_true starts.1, fun ticks final path only => ?_⟩
  have idle := idle_ticks path ⟨rfl, rfl, rfl, rfl, rfl⟩ only
  exact ⟨idle.waiting, idle.unrequested⟩

end Zally.Sync
