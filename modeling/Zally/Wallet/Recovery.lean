import Zally.Wallet.Sync

/-! The bookkeeping of the sync driver: the repair ladder a streak of faults climbs, and
the latest chain state the wallet committed and checked. -/
namespace Zally.Sync

open Async Async.Program

/-- Depths of the rewind rung. -/
def rewindLadderBlocks : List Nat := [10, 100]

inductive SyncRepair where
  | retry
  | rewind
  | rescanFromBirthday
  | park
  deriving DecidableEq, Repr

/-- The rungs in the order the ladder climbs them. -/
def SyncRepair.rank : SyncRepair → Nat
  | retry => 0
  | rewind => 1
  | rescanFromBirthday => 2
  | park => 3

instance : LT SyncRepair := ⟨fun lower higher => lower.rank < higher.rank⟩

instance (lower higher : SyncRepair) : Decidable (lower < higher) :=
  inferInstanceAs (Decidable (lower.rank < higher.rank))

structure SyncRecoveryPolicy where
  escalateAfterFaults : UInt32
  maxRescanAttempts : UInt32
  faultBackoffInitialMs : Nat
  faultBackoffCapMs : Nat
  parkReprobeMs : Option Nat
  deriving DecidableEq, Repr

def SyncRecoveryPolicy.normalized (policy : SyncRecoveryPolicy) : SyncRecoveryPolicy :=
  let faultBackoffInitialMs := max policy.faultBackoffInitialMs 1
  { escalateAfterFaults := max policy.escalateAfterFaults 1
    maxRescanAttempts := max policy.maxRescanAttempts 1
    faultBackoffInitialMs := faultBackoffInitialMs
    faultBackoffCapMs := max policy.faultBackoffCapMs faultBackoffInitialMs
    parkReprobeMs := policy.parkReprobeMs.map fun holdMs => max holdMs 1 }

def backoffFor (policy : SyncRecoveryPolicy) (consecutiveFaults : Nat) : Nat :=
  let exponent := min (consecutiveFaults - 1) 31
  let scaled := min (policy.faultBackoffInitialMs * 2 ^ exponent) u64Max
  if scaled > policy.faultBackoffCapMs then policy.faultBackoffCapMs else scaled

/-- What a fault renders: the error of the failed call, or the deadline that cut it. -/
inductive FaultReason where
  | failed (error : WalletError)
  | exceeded (seconds : Nat)
  | stream (error : ChainSourceError)
  deriving DecidableEq, Repr

structure ClassifiedFault where
  reason : FaultReason
  repair : SyncRepair
  deriving DecidableEq, Repr

structure SyncFault where
  reason : FaultReason
  repair : SyncRepair
  occurredAtMs : Nat
  consecutiveFaults : Nat
  deriving DecidableEq, Repr

structure ParkedAt where
  sinceMs : Nat
  reprobeAtMs : Option Nat
  deriving DecidableEq, Repr

structure RecoveryState where
  rung : SyncRepair
  attemptsAtRung : Nat
  rewindDepthIndex : Nat
  consecutiveFaults : Nat
  backoffMs : Nat
  degradedSinceMs : Nat
  parked : Option ParkedAt
  faultHeight : Option BlockHeight
  dormant : Bool
  deriving DecidableEq, Repr

structure SyncObservation where
  scannedToHeight : BlockHeight
  observedAtMs : Nat
  deriving DecidableEq, Repr

structure DriverState where
  lastObservation : Option SyncObservation
  lastFault : Option SyncFault
  recovery : Option RecoveryState
  catchUpPending : Bool
  streamConsecutiveFaults : Nat
  streamNextAttemptAtMs : Nat
  deriving DecidableEq, Repr

inductive CommittedChunk where
  | checked
  | unchecked
  deriving DecidableEq, Repr

inductive ScanFrontier where
  | at (height : BlockHeight)
  | empty
  | unknown
  deriving DecidableEq, Repr

inductive ChainTipRecord where
  | current
  | stale
  deriving DecidableEq, Repr

inductive SyncRunAttempt where
  | completed (outcome : SyncOutcome)
  | faulted (fault : ClassifiedFault) (committed : CommittedChunk)
  deriving DecidableEq, Repr

/-- An unverified chunk classifies on whatever stopped its comparison. -/
def repairFor (error : WalletError) : SyncRepair :=
  let error := match error with
    | .unverifiedScanChunk _ source => source
    | other => other
  match error with
  | .storage (.commitmentTreeConflict _) | .storage (.chainReorgDetected _)
  | .storage (.blockingTaskFailed _) | .treeRootsDiverged _ => .rewind
  | other => match other.posture with
    | .retryable | .restartable => .retry
    | .requiresOperator => .park
    | .notRetryable => .rewind

def committedChunkFor : WalletError → CommittedChunk
  | .unverifiedScanChunk _ _ => .unchecked
  | _ => .checked

namespace ScanFrontier

def reached : ScanFrontier → Option Nat
  | .at height => some height
  | empty => some 0
  | unknown => none

def height : ScanFrontier → Option BlockHeight
  | .at height => some height
  | empty | unknown => none

end ScanFrontier

def heightDelta (before after : ScanFrontier) : Nat :=
  match before.reached, after.reached with
  | some before, some after => after - before
  | _, _ => 0

def isSlowProgress (repair : SyncRepair) (blocksAdvanced : Nat) : Bool :=
  repair = .retry ∧ blocksAdvanced > 0

def chainTipAfterScan (outcome : SyncOutcome) : ChainTipRecord :=
  if outcome.blockCount > 0 then .current else .stale

def chainTipAfterFault (recorded : ChainTipRecord) (blocksAdvanced : Nat) : ChainTipRecord :=
  if blocksAdvanced > 0 then .current else recorded

def shouldContinueSyncing (outcome : SyncOutcome) (recordedTip : Bool) : Bool :=
  outcome.blockCount > 0 ∨ recordedTip = false

def escalationThreshold (rung : SyncRepair) (policy : SyncRecoveryPolicy) : Option Nat :=
  match rung with
  | .retry => none
  | .rescanFromBirthday => some policy.maxRescanAttempts.toNat
  | .rewind | .park => some policy.escalateAfterFaults.toNat

namespace RecoveryState

def entering (rung : SyncRepair) (nowMs : Nat) : RecoveryState where
  rung := rung
  attemptsAtRung := 0
  rewindDepthIndex := 0
  consecutiveFaults := 0
  backoffMs := 0
  degradedSinceMs := nowMs
  parked := none
  faultHeight := none
  dormant := false

def escalate (recovery : RecoveryState) : RecoveryState :=
  match recovery.rung with
  | .rewind =>
    if recovery.rewindDepthIndex + 1 < rewindLadderBlocks.length then
      { recovery with rewindDepthIndex := recovery.rewindDepthIndex + 1, attemptsAtRung := 0 }
    else { recovery with rung := .rescanFromBirthday, attemptsAtRung := 0 }
  | .rescanFromBirthday => { recovery with rung := .park, attemptsAtRung := 0 }
  | .retry | .park => { recovery with attemptsAtRung := 0 }

/-- The current rung has been applied as often as the policy allows. -/
def exhausted (recovery : RecoveryState) (policy : SyncRecoveryPolicy) : Bool :=
  (escalationThreshold recovery.rung policy).any fun threshold =>
    recovery.attemptsAtRung ≥ threshold

/-- The rung a classified fault leaves, and the transition when the rung was exhausted. -/
def climb (recovery : RecoveryState) (classified : SyncRepair) (policy : SyncRecoveryPolicy) :
    RecoveryState × Option (SyncRepair × SyncRepair) :=
  if recovery.rung < classified then
    ({ recovery with
        rung := classified
        attemptsAtRung := 0
        rewindDepthIndex := if classified = .rewind then 0 else recovery.rewindDepthIndex }, none)
  else if recovery.exhausted policy then
    (recovery.escalate, some (recovery.rung, recovery.escalate.rung))
  else (recovery, none)

def foldFault (recovery : RecoveryState) (classified : SyncRepair) (policy : SyncRecoveryPolicy) :
    RecoveryState × Option (SyncRepair × SyncRepair) :=
  let (climbed, escalation) := recovery.climb classified policy
  let consecutiveFaults := saturatingAddU32 climbed.consecutiveFaults 1
  ({ climbed with
      consecutiveFaults := consecutiveFaults
      backoffMs := backoffFor policy consecutiveFaults }, escalation)

/-- A fault observed after a rewind must not lower the bar below the original conflict. -/
def raiseFaultHeight (recovery : RecoveryState) (faultHeight : Option BlockHeight) :
    RecoveryState :=
  match faultHeight with
  | none => recovery
  | some height =>
    { recovery with faultHeight := some (recovery.faultHeight.elim height (max · height)) }

/-- The ladder after a fault: a first fault enters at its class, a dormant ladder wakes. -/
def afterFault (recovery : Option RecoveryState) (policy : SyncRecoveryPolicy) (nowMs : Nat)
    (classified : SyncRepair) (faultHeight : Option BlockHeight) : RecoveryState :=
  let entered := recovery.getD (.entering classified nowMs)
  let woken := { entered with dormant := false }.raiseFaultHeight faultHeight
  (woken.foldFault classified policy).1

def countAttempt (recovery : RecoveryState) : RecoveryState :=
  { recovery with attemptsAtRung := saturatingAddU32 recovery.attemptsAtRung 1 }

/-- The scan did not pass the height of the fault. -/
def survives (recovery : RecoveryState) (scannedTo : Option BlockHeight) : Bool :=
  recovery.faultHeight.any fun faultHeight => scannedTo.all (· ≤ faultHeight)

end RecoveryState

namespace DriverState

def initial : DriverState where
  lastObservation := none
  lastFault := none
  recovery := none
  catchUpPending := false
  streamConsecutiveFaults := 0
  streamNextAttemptAtMs := 0

def parked (state : DriverState) : Option ParkedAt := state.recovery.bind (·.parked)

def settleRecovery (state : DriverState) (scannedTo : Option BlockHeight) :
    DriverState × Option RecoveryState :=
  match state.recovery with
  | none => (state, none)
  | some recovery =>
    if recovery.survives scannedTo then
      ({ state with recovery := some { recovery with dormant := true } }, none)
    else ({ state with recovery := none }, some recovery)

def hasChecked (state : DriverState) (height : BlockHeight) : Bool :=
  state.lastObservation.any fun observation => observation.scannedToHeight ≥ height

/-- A run that scanned nothing re-dates the observation only up to a checked height. -/
def completedRunStamp (state : DriverState) (outcome : SyncOutcome) : Option SyncObservation :=
  if outcome.blockCount = 0 ∧ state.hasChecked outcome.scannedToHeight = false then none
  else some ⟨outcome.scannedToHeight, outcome.completedAtMs⟩

def committedChunkStamp (nowMs : Nat) :
    CommittedChunk → ScanFrontier → Option SyncObservation
  | .checked, .at scannedToHeight => some ⟨scannedToHeight, nowMs⟩
  | _, _ => none

def stamp (state : DriverState) : Option SyncObservation → DriverState
  | some observation => { state with lastObservation := some observation }
  | none => state

def observeCompletedRun (state : DriverState) (outcome : SyncOutcome) : DriverState :=
  state.stamp (state.completedRunStamp outcome)

def observeCommittedChunk (state : DriverState) (nowMs : Nat) (committed : CommittedChunk)
    (frontier : ScanFrontier) : DriverState :=
  state.stamp (committedChunkStamp nowMs committed frontier)

def recordFault (state : DriverState) (policy : SyncRecoveryPolicy) (nowMs : Nat)
    (classified : ClassifiedFault) (faultHeight : Option BlockHeight) : DriverState :=
  let folded := RecoveryState.afterFault state.recovery policy nowMs classified.repair faultHeight
  { state with
    recovery := some folded
    lastFault := some ⟨classified.reason, folded.rung, nowMs, folded.consecutiveFaults⟩ }

def noteSlowProgress (state : DriverState) (scannedAfter : Option BlockHeight) : DriverState :=
  { (state.settleRecovery scannedAfter).1 with lastFault := none }

/-- The state after a completed run, and whether the wakeup runs another iteration. -/
def completeSync (state : DriverState) (outcome : SyncOutcome) (recordedTip : Bool) :
    DriverState × Bool :=
  let settled := (state.settleRecovery (some outcome.scannedToHeight)).1
  ({ settled.observeCompletedRun outcome with lastFault := none },
    shouldContinueSyncing outcome recordedTip)

def enterPark (state : DriverState) (policy : SyncRecoveryPolicy) (nowMs : Nat) : DriverState :=
  let parked : ParkedAt := ⟨nowMs, policy.parkReprobeMs.map (saturatingAddU64 nowMs)⟩
  { state with recovery := state.recovery.map fun recovery =>
      { recovery with parked := some parked } }

def recordStreamFault (state : DriverState) (policy : SyncRecoveryPolicy) (nowMs : Nat)
    (error : ChainSourceError) : DriverState :=
  let streamConsecutiveFaults := saturatingAddU32 state.streamConsecutiveFaults 1
  { state with
    streamConsecutiveFaults := streamConsecutiveFaults
    streamNextAttemptAtMs := saturatingAddU64 nowMs (backoffFor policy streamConsecutiveFaults)
    lastFault := some ⟨.stream error, .retry, nowMs, streamConsecutiveFaults⟩ }

/-- The attempt of the current rung is counted before the repair is tried. -/
def countAttempt (state : DriverState) : DriverState :=
  { state with recovery := state.recovery.map RecoveryState.countAttempt }

end DriverState
end Zally.Sync
