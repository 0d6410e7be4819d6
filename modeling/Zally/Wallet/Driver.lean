import Zally.Async.Machine
import Zally.Wallet.Recovery

/-! The sync driver's task. Its positions are the awaits of its loop; a step takes the
event that answers the await and runs to the next one. -/
namespace Zally.Sync

open Async Async.Program

structure SyncDriverOptions where
  maxSyncIterationsPerWakeCount : Nat
  syncTimeoutSeconds : Nat
  recovery : SyncRecoveryPolicy
  deriving DecidableEq, Repr

def SyncDriverOptions.normalized (options : SyncDriverOptions) : SyncDriverOptions where
  maxSyncIterationsPerWakeCount := max options.maxSyncIterationsPerWakeCount 1
  syncTimeoutSeconds := max options.syncTimeoutSeconds 1
  recovery := options.recovery.normalized

structure ChainEventCursor where
  cursorBytes : List UInt8
  deriving DecidableEq, Repr

inductive ChainEventStreamStart where
  | afterCursor (cursor : ChainEventCursor)
  | earliestRetained
  deriving DecidableEq, Repr

/-- Where the task waits. Inside a wakeup it counts the iterations left after the
current one. -/
inductive DriverPosition where
  | starting
  | select
  | backoff (left : Nat)
  | reading (left : Nat) (chainTip : ChainTipRecord)
  | running (left : Nat) (chainTip : ChainTipRecord) (frontierBefore : ScanFrontier)
  | closed
  deriving DecidableEq, Repr

structure Driver where
  state : DriverState
  streamOpen : Bool
  chainEventsStart : ChainEventStreamStart
  shouldSync : Bool
  position : DriverPosition
  deriving DecidableEq, Repr

/-- The answer to one await. A run that the deadline cut has no outcome; a missing chain
event is the end of the stream. -/
inductive DriverEvent where
  | opened (answer : Except ChainSourceError Unit)
  | closeRequested
  | repaired (trace : List SyncEvent) (result : Except WalletError Unit)
  | statusRead (status : Except WalletError WalletStatus)
  | runEnded (trace : List SyncEvent) (outcome : Option (Except WalletError SyncOutcome))
      (statusAfter : Except WalletError WalletStatus)
  | pollTick (reopened : Except ChainSourceError Unit)
  | chainEvent (item : Option (Except ChainSourceError ChainEventCursor))

structure DriverInput where
  nowMs : Nat
  event : DriverEvent

def scanFrontier : Except WalletError WalletStatus → ScanFrontier
  | .ok status => status.scannedHeight.elim .empty .at
  | .error _ => .unknown

def isExpiredCursor : ChainSourceError → Bool
  | .chainEventCursorExpired .earliestRetained => true
  | _ => false

/-- The repair of the current rung; the driver reads the wallet's status for a rewind. -/
def applyRepair (recovery : RecoveryState) : SyncM Unit :=
  match recovery.rung with
  | .retry | .park => pure ()
  | .rewind => do
    let status ← statusSnapshot
    match status.scannedHeight with
    | some scanned =>
      rewindToHeight (scanned - rewindLadderBlocks.getD recovery.rewindDepthIndex 0)
    | none => pure ()
  | .rescanFromBirthday => resetToBirthday

/-- The call one iteration runs: a stale record is renewed first. -/
def scanCall (wallet : SyncWallet) (turns : Nat) : ChainTipRecord → SyncM SyncOutcome
  | .stale => sync wallet turns
  | .current => scanQueuedRange wallet turns

def classifyRun (options : SyncDriverOptions) :
    Option (Except WalletError SyncOutcome) → SyncRunAttempt
  | some (.ok outcome) => .completed outcome
  | some (.error error) => .faulted ⟨.failed error, repairFor error⟩ (committedChunkFor error)
  | none => .faulted ⟨.exceeded options.syncTimeoutSeconds, .retry⟩ .unchecked

namespace Driver

def initial : Driver where
  state := .initial
  streamOpen := false
  chainEventsStart := .earliestRetained
  shouldSync := true
  position := .starting

/-- The wakeup ran out of iterations or parked. -/
def exitPending (driver : Driver) : Driver :=
  { driver with shouldSync := true, position := .select }

def exitReconciled (driver : Driver) : Driver :=
  { driver with shouldSync := false, position := .select }

/-- The head of the wakeup's loop. -/
def iterate (options : SyncDriverOptions) (nowMs : Nat) (driver : Driver)
    (chainTip : ChainTipRecord) : Nat → Driver
  | 0 => driver.exitPending
  | left + 1 =>
    match driver.state.recovery with
    | some recovery =>
      if recovery.dormant then { driver with position := .reading left chainTip }
      else if recovery.rung = .park then
        { driver with state := driver.state.enterPark options.recovery nowMs }.exitPending
      else { driver with position := .backoff left }
    | none => { driver with position := .reading left chainTip }

/-- The head of the driver's loop: an unparked driver that should sync starts a wakeup. -/
def loopTurn (options : SyncDriverOptions) (nowMs : Nat) (driver : Driver) : Driver :=
  if driver.shouldSync ∧ driver.state.parked = none then
    driver.iterate options nowMs .stale options.maxSyncIterationsPerWakeCount
  else { driver with position := .select }

def openChainEvents (options : SyncDriverOptions) (nowMs : Nat) (driver : Driver) :
    Except ChainSourceError Unit → Driver
  | .ok () =>
    if driver.state.streamConsecutiveFaults > 0 then
      { driver with
        streamOpen := true
        state := { driver.state with catchUpPending := true, lastFault := none } }
    else { driver with streamOpen := true }
  | .error error =>
    if isExpiredCursor error then
      { driver with
        streamOpen := false
        chainEventsStart := .earliestRetained
        state := { driver.state with catchUpPending := true } }
    else
      { driver with
        streamOpen := false
        state := driver.state.recordStreamFault options.recovery nowMs error }

def handlePollTick (options : SyncDriverOptions) (nowMs : Nat) (driver : Driver)
    (reopened : Except ChainSourceError Unit) : Driver :=
  match driver.state.parked with
  | some parked =>
    if parked.reprobeAtMs.any (nowMs ≥ ·) then
      { driver with state := { driver.state with recovery := none }, shouldSync := true }
    else { driver with shouldSync := false }
  | none =>
    let opened :=
      if driver.streamOpen = false ∧ nowMs ≥ driver.state.streamNextAttemptAtMs then
        driver.openChainEvents options nowMs reopened
      else driver
    { opened with
      shouldSync := opened.state.catchUpPending
      state := { opened.state with catchUpPending := false } }

def handleChainEvent (options : SyncDriverOptions) (nowMs : Nat) (driver : Driver) :
    Option (Except ChainSourceError ChainEventCursor) → Driver
  | some (.ok cursor) =>
    { driver with
      chainEventsStart := .afterCursor cursor
      shouldSync := driver.state.parked.isNone
      state := { driver.state with streamConsecutiveFaults := 0, streamNextAttemptAtMs := 0 } }
  | some (.error error) =>
    if isExpiredCursor error then
      { driver with
        streamOpen := false
        chainEventsStart := .earliestRetained
        shouldSync := driver.state.parked.isNone }
    else if driver.state.parked = none then
      { driver with
        streamOpen := false
        state := driver.state.recordStreamFault options.recovery nowMs error }
    else { driver with streamOpen := false }
  | none => { driver with streamOpen := false }

/-- A repair was counted and tried; a failed repair is a fault without a height. -/
def settleRepair (options : SyncDriverOptions) (nowMs : Nat) (driver : Driver) (left : Nat) :
    Except WalletError Unit → Driver
  | .ok () =>
    { driver with state := driver.state.countAttempt, position := .reading left .stale }
  | .error error =>
    { driver with
      state := driver.state.countAttempt.recordFault options.recovery nowMs
        ⟨.failed error, repairFor error⟩ none }.iterate options nowMs .stale left

/-- The end of an iteration: a completed run settles the ladder, a fault is excused as
slow progress or recorded. -/
def settleRun (options : SyncDriverOptions) (nowMs : Nat) (driver : Driver) (left : Nat)
    (chainTip : ChainTipRecord) (frontierBefore frontierAfter : ScanFrontier) :
    SyncRunAttempt → Driver
  | .completed outcome =>
    let (state, shouldContinue) := driver.state.completeSync outcome (chainTip = .stale)
    if shouldContinue then
      { driver with state := state }.iterate options nowMs (chainTipAfterScan outcome) left
    else { driver with state := state }.exitReconciled
  | .faulted fault committed =>
    let blocksAdvanced := heightDelta frontierBefore frontierAfter
    let state :=
      if isSlowProgress fault.repair blocksAdvanced then
        (driver.state.observeCommittedChunk nowMs committed frontierAfter).noteSlowProgress
          frontierAfter.height
      else driver.state.recordFault options.recovery nowMs fault frontierAfter.height
    { driver with state := state }.iterate options nowMs
      (chainTipAfterFault chainTip blocksAdvanced) left

/-- The next await after `event` answered the current one; other events answer nothing. -/
def next (options : SyncDriverOptions) (driver : Driver) (input : DriverInput) : Option Driver :=
  match driver.position, input.event with
  | .starting, .opened answer =>
    some ((driver.openChainEvents options input.nowMs answer).loopTurn options input.nowMs)
  | .select, .closeRequested | .backoff _, .closeRequested | .reading _ _, .closeRequested
  | .running _ _ _, .closeRequested => some { driver with position := .closed }
  | .select, .pollTick reopened =>
    some ((driver.handlePollTick options input.nowMs reopened).loopTurn options input.nowMs)
  | .select, .chainEvent item =>
    if driver.streamOpen then
      some ((driver.handleChainEvent options input.nowMs item).loopTurn options input.nowMs)
    else none
  | .backoff left, .repaired _ result => some (driver.settleRepair options input.nowMs left result)
  | .reading left chainTip, .statusRead status =>
    some { driver with position := .running left chainTip (scanFrontier status) }
  | .running left chainTip frontierBefore, .runEnded _ outcome statusAfter =>
    some (driver.settleRun options input.nowMs left chainTip frontierBefore
      (scanFrontier statusAfter) (classifyRun options outcome))
  | _, _ => none

/-- The calls recorded in an event are a run of what the driver awaits there. -/
def Answers (wallet : SyncWallet) (driver : Driver) (event : DriverEvent) : Prop :=
  match driver.position, event with
  | .backoff _, .repaired trace result => ∃ recovery, driver.state.recovery = some recovery ∧
      Runs (applyRepair recovery).run trace (some result)
  | .running _ chainTip _, .runEnded trace outcome _ => ∃ turns,
      Runs (scanCall wallet turns chainTip).run trace outcome
  | _, _ => True

def Step (wallet : SyncWallet) (options : SyncDriverOptions) (driver : Driver)
    (input : DriverInput) (final : Driver) : Prop :=
  driver.Answers wallet input.event ∧ driver.next options input = some final

theorem step_deterministic (wallet : SyncWallet) (options : SyncDriverOptions) (driver : Driver)
    (input : DriverInput) (next other : Driver) (first : Step wallet options driver input next)
    (second : Step wallet options driver input other) : next = other :=
  Option.some.inj (first.2.symm.trans second.2)

/-- Everything a step can do, one case for each await. -/
inductive Moves (options : SyncDriverOptions) (driver : Driver) (nowMs : Nat) :
    DriverEvent → Driver → Prop where
  | opened (at_start : driver.position = .starting) : Moves options driver nowMs (.opened answer)
      ((driver.openChainEvents options nowMs answer).loopTurn options nowMs)
  | closed : Moves options driver nowMs .closeRequested { driver with position := .closed }
  | ticked (waiting : driver.position = .select) : Moves options driver nowMs (.pollTick reopened)
      ((driver.handlePollTick options nowMs reopened).loopTurn options nowMs)
  | notified (waiting : driver.position = .select) (stream : driver.streamOpen = true) :
      Moves options driver nowMs (.chainEvent item)
        ((driver.handleChainEvent options nowMs item).loopTurn options nowMs)
  | repaired (waiting : driver.position = .backoff left) :
      Moves options driver nowMs (.repaired trace result)
        (driver.settleRepair options nowMs left result)
  | read (waiting : driver.position = .reading left chainTip) :
      Moves options driver nowMs (.statusRead status)
        { driver with position := .running left chainTip (scanFrontier status) }
  | ran (waiting : driver.position = .running left chainTip frontierBefore) :
      Moves options driver nowMs (.runEnded trace outcome statusAfter)
        (driver.settleRun options nowMs left chainTip frontierBefore (scanFrontier statusAfter)
          (classifyRun options outcome))

theorem moves_of_next (moves : driver.next options input = some final) :
    Moves options driver input.nowMs input.event final := by
  rcases input with ⟨nowMs, event⟩
  cases waiting : driver.position <;> cases event <;>
    simp only [next,waiting,reduceCtorEq,Option.some.injEq] at moves
  case starting.opened answer => exact moves ▸ .opened waiting
  case select.closeRequested => exact moves ▸ .closed
  case backoff.closeRequested => exact moves ▸ .closed
  case reading.closeRequested => exact moves ▸ .closed
  case running.closeRequested => exact moves ▸ .closed
  case select.pollTick reopened => exact moves ▸ .ticked waiting
  case select.chainEvent item =>
    split at moves
    · rename_i stream
      cases moves
      exact .notified waiting stream
    · cases moves
  case backoff.repaired left trace result => exact moves ▸ .repaired waiting
  case reading.statusRead left chainTip status => exact moves ▸ .read waiting
  case running.runEnded => exact moves ▸ .ran waiting

/-- The head of the wakeup's loop exits when it is out of iterations, reads the frontier
when no repair is due, parks on the last rung and otherwise waits out the backoff. -/
theorem iterate_cases (options : SyncDriverOptions) (nowMs : Nat) (driver : Driver)
    (chainTip : ChainTipRecord) (left : Nat) :
    (left = 0 ∧ driver.iterate options nowMs chainTip left = driver.exitPending) ∨
    (∃ rest, left = rest + 1 ∧
      (∀ recovery, driver.state.recovery = some recovery → recovery.dormant = true) ∧
      driver.iterate options nowMs chainTip left =
        { driver with position := .reading rest chainTip }) ∨
    (∃ recovery, driver.state.recovery = some recovery ∧ recovery.dormant = false ∧
      recovery.rung = .park ∧ driver.iterate options nowMs chainTip left =
        { driver with state := driver.state.enterPark options.recovery nowMs }.exitPending) ∨
    ∃ rest recovery, left = rest + 1 ∧ driver.state.recovery = some recovery ∧
      recovery.dormant = false ∧ recovery.rung ≠ .park ∧
      driver.iterate options nowMs chainTip left = { driver with position := .backoff rest } := by
  cases left with
  | zero => exact .inl ⟨rfl, rfl⟩
  | succ left =>
    cases active : driver.state.recovery with
    | none => exact .inr (.inl ⟨left, rfl, by simp, by simp [iterate,active]⟩)
    | some recovery =>
      by_cases dormant : recovery.dormant = true
      · exact .inr (.inl ⟨left, rfl, by simpa using dormant, by simp [iterate,active,dormant]⟩)
      have awake : recovery.dormant = false := by simpa using dormant
      by_cases last : recovery.rung = .park
      · exact .inr (.inr (.inl ⟨recovery, rfl, awake, last, by simp [iterate,active,awake,last]⟩))
      · exact .inr (.inr (.inr
          ⟨left, recovery, rfl, rfl, awake, last, by simp [iterate,active,awake,last]⟩))

end Driver

def sampleOptions : SyncDriverOptions := ⟨10, 120, ⟨3, 2, 1000, 60000, some 900000⟩⟩

end Zally.Sync
