import Zally.Wallet.SyncTrace

/-! The repair ladder over every run of the driver: how an episode of faults moves along
it, how it ends, and how many faults it takes to park. -/
namespace Zally.Sync

open Async Async.Program

/-- What one step of the driver means for the ladder. -/
inductive LadderEvent where
  | held
  | attempted
  | failedRepair (classified : SyncRepair)
  | faulted (classified : SyncRepair) (height : Option BlockHeight)
  | settled (scannedTo : Option BlockHeight)
  | rearmed
  deriving DecidableEq, Repr

namespace LadderEvent

/-- How often the repair of the current rung was tried: once, or not at all. -/
def tries : LadderEvent → Nat
  | attempted | failedRepair _ => 1
  | _ => 0

/-- The class of the fault the step records. -/
def fault : LadderEvent → Option SyncRepair
  | failedRepair classified | faulted classified _ => some classified
  | _ => none

def apply (policy : SyncRecoveryPolicy) (nowMs : Nat) (recovery : Option RecoveryState) :
    LadderEvent → Option RecoveryState
  | held => recovery
  | attempted => recovery.map (·.countAttempt)
  | failedRepair classified => some
    (.afterFault (recovery.map (·.countAttempt)) policy nowMs classified none)
  | faulted classified height => some (.afterFault recovery policy nowMs classified height)
  | settled scannedTo => recovery.bind fun recovery =>
    if recovery.survives scannedTo then some { recovery with dormant := true } else none
  | rearmed => none

end LadderEvent

def runLadderEvent (before after : ScanFrontier) : SyncRunAttempt → LadderEvent
  | .completed outcome => .settled (some outcome.scannedToHeight)
  | .faulted fault _ =>
    if isSlowProgress fault.repair (heightDelta before after) then .settled after.height
    else .faulted fault.repair after.height

/-- The ladder event of an input, read off the driver before the step. -/
def ladderEvent (options : SyncDriverOptions) (driver : Driver) (input : DriverInput) :
    LadderEvent :=
  match driver.position, input.event with
  | .backoff _, .repaired _ (.ok ()) => .attempted
  | .backoff _, .repaired _ (.error error) => .failedRepair (repairFor error)
  | .running _ _ before, .runEnded _ outcome statusAfter =>
    runLadderEvent before (scanFrontier statusAfter) (classifyRun options outcome)
  | .select, .pollTick _ =>
    if driver.state.parked.any fun parked => parked.reprobeAtMs.any (input.nowMs ≥ ·)
    then .rearmed else .held
  | _, _ => .held

namespace RecoveryState

/-- The ladder without the time it parked at. -/
def unparked (recovery : RecoveryState) : RecoveryState := { recovery with parked := none }

def SameRung (left right : RecoveryState) : Bool :=
  left.rung = right.rung ∧ left.rewindDepthIndex = right.rewindDepthIndex

/-- Rung first, then depth. -/
def NotAbove (before after : RecoveryState) : Prop :=
  before.rung < after.rung ∨
    before.rung = after.rung ∧ before.rewindDepthIndex ≤ after.rewindDepthIndex

end RecoveryState

theorem enterPark_unparked (state : DriverState) (policy : SyncRecoveryPolicy) (nowMs : Nat) :
    (state.enterPark policy nowMs).recovery.map (·.unparked) =
      state.recovery.map (·.unparked) := by
  cases found : state.recovery <;> simp [DriverState.enterPark,found,RecoveryState.unparked]

theorem iterate_ladder (options : SyncDriverOptions) (nowMs : Nat) (driver : Driver)
    (chainTip : ChainTipRecord) (left : Nat) :
    (driver.iterate options nowMs chainTip left).state.recovery.map (·.unparked) =
      driver.state.recovery.map (·.unparked) := by
  rcases driver.iterate_cases options nowMs chainTip left with ⟨-, equal⟩ | ⟨_, -, -, equal⟩ |
    ⟨_, -, -, -, equal⟩ | ⟨_, _, -, -, -, -, equal⟩ <;> rw [equal]
  · rfl
  · exact enterPark_unparked ..

theorem loopTurn_ladder (options : SyncDriverOptions) (nowMs : Nat) (driver : Driver) :
    (driver.loopTurn options nowMs).state.recovery.map (·.unparked) =
      driver.state.recovery.map (·.unparked) := by
  unfold Driver.loopTurn
  split
  · exact iterate_ladder ..
  · rfl

theorem openChainEvents_recovery (options : SyncDriverOptions) (nowMs : Nat) (driver : Driver)
    (answer : Except ChainSourceError Unit) :
    (driver.openChainEvents options nowMs answer).state.recovery = driver.state.recovery := by
  unfold Driver.openChainEvents
  split
  · split <;> rfl
  · split <;> rfl

theorem handleChainEvent_recovery (options : SyncDriverOptions) (nowMs : Nat) (driver : Driver)
    (item : Option (Except ChainSourceError ChainEventCursor)) :
    (driver.handleChainEvent options nowMs item).state.recovery = driver.state.recovery := by
  unfold Driver.handleChainEvent
  split
  · rfl
  · split
    · rfl
    · split <;> rfl
  · rfl

theorem settleRecovery_recovery (state : DriverState) (scannedTo : Option BlockHeight)
    (policy : SyncRecoveryPolicy) (nowMs : Nat) :
    (state.settleRecovery scannedTo).1.recovery =
      LadderEvent.apply policy nowMs state.recovery (.settled scannedTo) := by
  unfold DriverState.settleRecovery
  cases found : state.recovery with
  | none => exact found
  | some recovery =>
    by_cases survives : recovery.survives scannedTo = true
    · simp [LadderEvent.apply,survives]
    · simp [LadderEvent.apply,survives]

theorem stamp_recovery (state : DriverState) (observation : Option SyncObservation) :
    (state.stamp observation).recovery = state.recovery := by
  cases observation <;> rfl

theorem settleRun_ladder (options : SyncDriverOptions) (nowMs : Nat) (driver : Driver)
    (left : Nat) (chainTip : ChainTipRecord) (before after : ScanFrontier)
    (attempt : SyncRunAttempt) :
    (driver.settleRun options nowMs left chainTip before after attempt).state.recovery.map
        (·.unparked) =
      (LadderEvent.apply options.recovery nowMs driver.state.recovery
        (runLadderEvent before after attempt)).map (·.unparked) := by
  cases attempt with
  | completed outcome =>
    have settled : (driver.state.completeSync outcome (chainTip = .stale)).1.recovery =
        LadderEvent.apply options.recovery nowMs driver.state.recovery
          (.settled (some outcome.scannedToHeight)) := by
      simp only [DriverState.completeSync,DriverState.observeCompletedRun,stamp_recovery]
      exact settleRecovery_recovery ..
    simp only [Driver.settleRun,runLadderEvent]
    split
    · rw [iterate_ladder,settled]
    · exact congrArg _ settled
  | faulted fault committed =>
    simp only [Driver.settleRun,iterate_ladder,runLadderEvent]
    split
    · simp only [DriverState.noteSlowProgress,DriverState.observeCommittedChunk]
      rw [settleRecovery_recovery _ _ options.recovery nowMs,stamp_recovery]
    · rfl

/-- A step moves the ladder by its event, up to the time of parking. -/
theorem recovery_of_moves (moves : Driver.Moves options driver input.nowMs input.event next) :
    next.state.recovery.map (·.unparked) =
      ((ladderEvent options driver input).apply options.recovery input.nowMs
        driver.state.recovery).map (·.unparked) := by
  rcases input with ⟨nowMs, event⟩
  simp only [] at moves ⊢
  cases moves with
  | opened waiting =>
    rw [loopTurn_ladder,openChainEvents_recovery]
    simp [ladderEvent,waiting,LadderEvent.apply]
  | closed => cases waiting : driver.position <;> simp [ladderEvent,waiting,LadderEvent.apply]
  | @ticked reopened waiting =>
    rw [loopTurn_ladder]
    simp only [ladderEvent,waiting,Driver.handlePollTick]
    cases parked : driver.state.parked with
    | none =>
      simp only [Option.any_none,Bool.false_eq_true,if_false,LadderEvent.apply]
      split
      · rw [openChainEvents_recovery]
      · rfl
    | some park =>
      by_cases due : park.reprobeAtMs.any (nowMs ≥ ·) = true
      · simp [due,LadderEvent.apply]
      · simp [due,LadderEvent.apply]
  | notified waiting stream =>
    rw [loopTurn_ladder,handleChainEvent_recovery]
    simp [ladderEvent,waiting,LadderEvent.apply]
  | @repaired left trace result waiting =>
    cases result with
    | ok value =>
      simp only [ladderEvent,waiting]
      rfl
    | error error =>
      simp only [Driver.settleRepair,iterate_ladder,ladderEvent,waiting]
      rfl
  | read waiting => simp [ladderEvent,waiting,LadderEvent.apply]
  | ran waiting =>
    simp only [ladderEvent,waiting]
    exact settleRun_ladder ..

/-! Between two faults the repair of the rung is attempted: it is due while the ladder is
awake and the wakeup is not past the repair. -/

def DriverState.Awake (state : DriverState) : Prop :=
  ∃ recovery, state.recovery = some recovery ∧ recovery.dormant = false

def DriverPosition.scanning : DriverPosition → Bool
  | reading _ _ | running _ _ _ => true
  | _ => false

def Driver.RepairDue (driver : Driver) : Prop :=
  driver.state.Awake ∧ driver.position.scanning = false

theorem enterPark_awake {state : DriverState} (policy : SyncRecoveryPolicy) (nowMs : Nat)
    (awake : state.Awake) : (state.enterPark policy nowMs).Awake := by
  obtain ⟨recovery, active, notDormant⟩ := awake
  unfold DriverState.enterPark
  rw [active]
  exact ⟨_, rfl, notDormant⟩

theorem iterate_due (options : SyncDriverOptions) (nowMs : Nat) (driver : Driver)
    (chainTip : ChainTipRecord) (left : Nat) (awake : driver.state.Awake) :
    (driver.iterate options nowMs chainTip left).RepairDue := by
  obtain ⟨recovery, active, notDormant⟩ := awake
  rcases driver.iterate_cases options nowMs chainTip left with ⟨-, equal⟩ |
    ⟨rest, -, dormant, equal⟩ | ⟨_, -, -, -, equal⟩ | ⟨_, _, -, -, -, -, equal⟩ <;> rw [equal]
  · exact ⟨⟨recovery, active, notDormant⟩, rfl⟩
  · simp [dormant recovery active] at notDormant
  · exact ⟨enterPark_awake options.recovery nowMs ⟨recovery, active, notDormant⟩, rfl⟩
  · exact ⟨⟨recovery, active, notDormant⟩, rfl⟩

theorem loopTurn_due (options : SyncDriverOptions) (nowMs : Nat) (driver : Driver)
    (awake : driver.state.Awake) : (driver.loopTurn options nowMs).RepairDue := by
  unfold Driver.loopTurn
  split
  · exact iterate_due options nowMs driver .stale _ awake
  · exact ⟨awake, rfl⟩

theorem RecoveryState.escalate_unmoved (recovery : RecoveryState) :
    recovery.escalate.dormant = recovery.dormant ∧
      recovery.escalate.faultHeight = recovery.faultHeight := by
  unfold RecoveryState.escalate
  split
  · split <;> exact ⟨rfl, rfl⟩
  · exact ⟨rfl, rfl⟩
  · exact ⟨rfl, rfl⟩
  · exact ⟨rfl, rfl⟩

theorem RecoveryState.foldFault_unmoved (recovery : RecoveryState) (classified : SyncRepair)
    (policy : SyncRecoveryPolicy) :
    (recovery.foldFault classified policy).1.dormant = recovery.dormant ∧
      (recovery.foldFault classified policy).1.faultHeight = recovery.faultHeight := by
  simp only [RecoveryState.foldFault,RecoveryState.climb]
  split
  · exact ⟨rfl, rfl⟩
  · split
    · exact recovery.escalate_unmoved
    · exact ⟨rfl, rfl⟩

theorem afterFault_awake (state : DriverState) (policy : SyncRecoveryPolicy) (nowMs : Nat)
    (classified : ClassifiedFault) (height : Option BlockHeight) :
    (state.recordFault policy nowMs classified height).Awake := by
  refine ⟨_, rfl, ?_⟩
  unfold RecoveryState.afterFault
  rw [(RecoveryState.foldFault_unmoved ..).1]
  cases height <;> rfl

theorem awake_congr {state other : DriverState} (same : state.recovery = other.recovery)
    (awake : state.Awake) : other.Awake := by
  obtain ⟨recovery, active, notDormant⟩ := awake
  exact ⟨recovery, same ▸ active, notDormant⟩

/-- A step that leaves the ladder alone leaves a due repair due. -/
theorem due_of_held (moves : Driver.Moves options driver input.nowMs input.event next)
    (held : ladderEvent options driver input = .held) (due : driver.RepairDue) :
    next.RepairDue := by
  rcases input with ⟨nowMs, event⟩
  obtain ⟨awake, position⟩ := due
  cases moves with
  | opened waiting =>
    apply loopTurn_due
    exact awake_congr (openChainEvents_recovery ..).symm awake
  | closed => exact ⟨awake, rfl⟩
  | @ticked reopened waiting =>
    apply loopTurn_due
    refine awake_congr ?_ awake
    simp only [ladderEvent,waiting] at held
    unfold Driver.handlePollTick
    split
    · rename_i parked found
      simp only [found,Option.any_some] at held
      split at held
      · cases held
      · rename_i early
        simp [early]
    · split
      · exact (openChainEvents_recovery ..).symm
      · rfl
  | notified waiting stream =>
    apply loopTurn_due
    exact awake_congr (handleChainEvent_recovery ..).symm awake
  | @repaired left trace result waiting =>
    cases result <;> simp [ladderEvent,waiting] at held
  | read waiting => simp [waiting,DriverPosition.scanning] at position
  | ran waiting => simp [waiting,DriverPosition.scanning] at position

/-- After a fault the repair of its rung is due. -/
theorem due_of_fault (moves : Driver.Moves options driver input.nowMs input.event next)
    (fault : (ladderEvent options driver input).fault = some classified) : next.RepairDue := by
  rcases input with ⟨nowMs, event⟩
  cases moves with
  | @repaired left trace result waiting =>
    cases result with
    | ok value => simp [ladderEvent,waiting,LadderEvent.fault] at fault
    | error error => exact iterate_due _ _ _ _ _ (afterFault_awake ..)
  | @ran left chainTip frontierBefore trace outcome statusAfter waiting =>
    simp only [ladderEvent,waiting] at fault
    cases attempt : classifyRun options outcome with
    | completed outcome => simp [attempt,runLadderEvent,LadderEvent.fault] at fault
    | faulted recorded committed =>
      simp only [attempt,runLadderEvent] at fault
      simp only [Driver.settleRun]
      split at fault
      · cases fault
      · rename_i strike
        rw [if_neg strike]
        exact iterate_due _ _ _ _ _ (afterFault_awake ..)
  | opened waiting => simp [ladderEvent,waiting,LadderEvent.fault] at fault
  | closed => cases waiting : driver.position <;>
      simp [ladderEvent,waiting,LadderEvent.fault] at fault
  | @ticked reopened waiting =>
    simp only [ladderEvent,waiting] at fault
    split at fault <;> cases fault
  | notified waiting stream => simp [ladderEvent,waiting,LadderEvent.fault] at fault
  | read waiting => simp [ladderEvent,waiting,LadderEvent.fault] at fault

/-- Only the end of a run settles the ladder or records a fault with its height. -/
theorem scanning_of_run (options : SyncDriverOptions) (driver : Driver) (input : DriverInput)
    (ended : (∃ scannedTo, ladderEvent options driver input = .settled scannedTo) ∨
      ∃ classified height, ladderEvent options driver input = .faulted classified height) :
    driver.position.scanning = true := by
  rcases input with ⟨nowMs, event⟩
  cases position : driver.position with
  | running left chainTip frontierBefore => rfl
  | reading left chainTip => rfl
  | starting => simp [ladderEvent,position] at ended
  | closed => simp [ladderEvent,position] at ended
  | select =>
    cases event <;> simp [ladderEvent,position] at ended
    split at ended <;> simp at ended
  | backoff left =>
    cases event <;> simp [ladderEvent,position] at ended
    rename_i result
    cases result <;> simp at ended

end Zally.Sync
