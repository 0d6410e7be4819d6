import Zally.Async.Watch
import Zally.Wallet.Ladder
import Zally.Wallet.PendingWork

/-! The snapshots that the sync driver publishes, and what those who watch it may make of them. -/
namespace Zally.Sync

open Async

inductive SyncStatus where
  | notStarted
  | waitingForTip (scannedHeight : BlockHeight)
  | starting (targetHeight : BlockHeight)
  | catchingUp (scannedHeight targetHeight : BlockHeight) (lagBlocks : Nat)
  | atTip (visibleTipHeight : BlockHeight)
  | tipRegressed (scannedHeight visibleTipHeight : BlockHeight)
  deriving DecidableEq, Repr

def syncStatusFromHeights : Option BlockHeight → Option BlockHeight → SyncStatus
  | none, none => .notStarted
  | some scanned, none => .waitingForTip scanned
  | none, some tip => .starting tip
  | some scanned, some tip =>
    if scanned < tip then .catchingUp scanned tip (tip - scanned)
    else if scanned = tip then .atTip tip
    else .tipRegressed scanned tip

def computeLagBlocks (scannedHeight visibleTipHeight : Option BlockHeight) : Option Nat := do
  let scanned ← scannedHeight
  let tip ← visibleTipHeight
  if tip < scanned then none else some (tip - scanned)

inductive SyncDriverPhase where
  | starting
  | syncing
  | waiting
  | recovering (repair : SyncRepair) (attempt nextAttemptAtMs : Nat)
  | parked (sinceMs : Nat) (reprobeAtMs : Option Nat)
  | closing
  | closed
  deriving DecidableEq, Repr

structure SyncSnapshot where
  network : Network
  phase : SyncDriverPhase
  syncStatus : SyncStatus
  scannedHeight : Option BlockHeight
  visibleTipHeight : Option BlockHeight
  settledTipHeight : Option BlockHeight
  lagBlocks : Option Nat
  lastObservation : Option SyncObservation
  lastFault : Option SyncFault
  publishedAtMs : Nat
  deriving DecidableEq, Repr

namespace SyncSnapshot

def starting (network : Network) (nowMs : Nat) : SyncSnapshot where
  network := network
  phase := .starting
  syncStatus := .notStarted
  scannedHeight := none
  visibleTipHeight := none
  settledTipHeight := none
  lagBlocks := none
  lastObservation := none
  lastFault := none
  publishedAtMs := nowMs

def fromWalletStatus (network : Network) (phase : SyncDriverPhase) (status : WalletStatus)
    (lastObservation : Option SyncObservation) (lastFault : Option SyncFault) (nowMs : Nat) :
    SyncSnapshot where
  network := network
  phase := phase
  syncStatus := syncStatusFromHeights status.scannedHeight status.visibleTipHeight
  scannedHeight := status.scannedHeight
  visibleTipHeight := status.visibleTipHeight
  settledTipHeight := status.settledTipHeight
  lagBlocks := computeLagBlocks status.scannedHeight status.visibleTipHeight
  lastObservation := lastObservation
  lastFault := lastFault
  publishedAtMs := nowMs

end SyncSnapshot

/-- One snapshot that the driver publishes. It reads the wallet's status for it, or shows the
status that the iteration has read; a repair shows the one that a rewind has read; or it is the
latest snapshot again. -/
inductive Publication where
  | fresh (phase : SyncDriverPhase) (state : DriverState)
  | iterating (status : Option WalletStatus) (state : DriverState)
  | repairing (recovery : RecoveryState) (rewindStatus : Option WalletStatus) (state : DriverState)
  | again

/-- When a snapshot is begun and published, and the status that is read for it. -/
structure PublicationRead where
  beganMs : Nat
  publishedMs : Nat
  status : Option WalletStatus

/-- A snapshot over a read of the wallet's status; a failed read keeps what was published. -/
def snapshotFor (network : Network) (published : SyncSnapshot) (phase : SyncDriverPhase)
    (state : DriverState) (nowMs : Nat) : Option WalletStatus → SyncSnapshot
  | none => { published with
      phase := phase
      lastObservation := state.lastObservation
      lastFault := state.lastFault }
  | some status =>
    .fromWalletStatus network phase status state.lastObservation state.lastFault nowMs

/-- The status that a publication shows. -/
def Publication.status (read : PublicationRead) : Publication → Option WalletStatus
  | fresh _ _ => read.status
  | iterating status _ => status
  | repairing _ rewindStatus _ => rewindStatus.or read.status
  | again => none

def Publication.snapshot (network : Network) (published : SyncSnapshot) (read : PublicationRead)
    (publication : Publication) : SyncSnapshot :=
  let shown := publication.status read
  let snapshot := match publication with
    | fresh phase state => snapshotFor network published phase state read.beganMs shown
    | iterating _ state => snapshotFor network published .syncing state read.beganMs shown
    | repairing recovery _ state => snapshotFor network published
      (.recovering recovery.rung recovery.attemptsAtRung read.beganMs) state read.beganMs shown
    | again => published
  { snapshot with publishedAtMs := read.publishedMs }

/-! What each part of the driver publishes, under the name of that part. -/
namespace Publications

/-- The rungs between which a fault moved an exhausted ladder. -/
def escalation (recovery : Option RecoveryState) (policy : SyncRecoveryPolicy) (nowMs : Nat)
    (classified : SyncRepair) (faultHeight : Option BlockHeight) : Option (SyncRepair × SyncRepair) :=
  let entered := recovery.getD (.entering classified nowMs)
  let woken := { entered with dormant := false }.raiseFaultHeight faultHeight
  (woken.foldFault classified policy).2

def recordFault (policy : SyncRecoveryPolicy) (nowMs : Nat) (state : DriverState)
    (classified : ClassifiedFault) (faultHeight : Option BlockHeight) : List Publication :=
  let folded := RecoveryState.afterFault state.recovery policy nowMs classified.repair faultHeight
  let phase := SyncDriverPhase.recovering folded.rung (saturatingAddU32 folded.attemptsAtRung 1)
    (saturatingAddU64 nowMs folded.backoffMs)
  .fresh phase (state.recordFault policy nowMs classified faultHeight) ::
    if (escalation state.recovery policy nowMs classified.repair faultHeight).isSome then [.again]
    else []

def recordStreamFault (policy : SyncRecoveryPolicy) (nowMs : Nat) (state : DriverState)
    (error : ChainSourceError) : List Publication :=
  let faulted := state.recordStreamFault policy nowMs error
  [.fresh (.recovering .retry faulted.streamConsecutiveFaults faulted.streamNextAttemptAtMs) faulted]

def enterPark (policy : SyncRecoveryPolicy) (nowMs : Nat) (state : DriverState) : List Publication :=
  [.fresh (.parked nowMs (policy.parkReprobeMs.map (saturatingAddU64 nowMs)))
    (state.enterPark policy nowMs)]

def iterate (options : SyncDriverOptions) (nowMs : Nat) (driver : Driver) : Nat → List Publication
  | 0 => []
  | _ + 1 =>
    match driver.state.recovery with
    | some recovery =>
      if recovery.dormant then []
      else if recovery.rung = .park then enterPark options.recovery nowMs driver.state
      else []
    | none => []

def loopTurn (options : SyncDriverOptions) (nowMs : Nat) (driver : Driver) : List Publication :=
  if driver.shouldSync ∧ driver.state.parked = none then
    iterate options nowMs driver options.maxSyncIterationsPerWakeCount
  else []

def openChainEvents (options : SyncDriverOptions) (nowMs : Nat) (driver : Driver) :
    Except ChainSourceError Unit → List Publication
  | .ok () =>
    if driver.state.streamConsecutiveFaults > 0 then
      [.fresh .waiting { driver.state with catchUpPending := true, lastFault := none }]
    else []
  | .error error =>
    if isExpiredCursor error then []
    else recordStreamFault options.recovery nowMs driver.state error

def handlePollTick (options : SyncDriverOptions) (nowMs : Nat) (driver : Driver)
    (reopened : Except ChainSourceError Unit) : List Publication :=
  match driver.state.parked with
  | some parked =>
    if parked.reprobeAtMs.any (nowMs ≥ ·) then
      [.fresh .waiting { driver.state with recovery := none }]
    else [.again]
  | none =>
    if driver.streamOpen = false ∧ nowMs ≥ driver.state.streamNextAttemptAtMs then
      openChainEvents options nowMs driver reopened
    else []

def handleChainEvent (options : SyncDriverOptions) (nowMs : Nat) (driver : Driver) :
    Option (Except ChainSourceError ChainEventCursor) → List Publication
  | some (.error error) =>
    if isExpiredCursor error then []
    else if driver.state.parked = none then
      recordStreamFault options.recovery nowMs driver.state error
    else []
  | some (.ok _) | none => []

/-- The status that a rewind reads before it publishes. -/
def rewindStatus : List SyncEvent → Option WalletStatus
  | ⟨.fullyScannedHeight, .ok scannedHeight⟩ :: ⟨.findChainTips, .ok chainTips⟩ :: _ =>
    some ⟨scannedHeight, chainTips.map Prod.fst, chainTips.map Prod.snd⟩
  | _ => none

/-- A rewind that cannot read the wallet's status fails before it publishes. -/
def applyRepair (state : DriverState) (trace : List SyncEvent) : List Publication :=
  let counted := state.countAttempt
  match counted.recovery with
  | none => []
  | some recovery =>
    if recovery.rung = .rewind then
      match rewindStatus trace with
      | some status => [.repairing recovery (some status) counted]
      | none => []
    else [.repairing recovery none counted]

def settleRepair (options : SyncDriverOptions) (nowMs : Nat) (driver : Driver) (left : Nat)
    (trace : List SyncEvent) : Except WalletError Unit → List Publication
  | .ok () => applyRepair driver.state trace
  | .error error =>
    let fault : ClassifiedFault := ⟨.failed error, repairFor error⟩
    let counted := driver.state.countAttempt
    let faulted := { driver with state := counted.recordFault options.recovery nowMs fault none }
    applyRepair driver.state trace ++ recordFault options.recovery nowMs counted fault none ++
      iterate options nowMs faulted left

def completeSync (state : DriverState) (outcome : SyncOutcome) (recordedTip : Bool) :
    List Publication :=
  let (settled, shouldContinue) := state.completeSync outcome recordedTip
  [.fresh (if shouldContinue then .syncing else .waiting) settled]

def settleRun (options : SyncDriverOptions) (nowMs : Nat) (driver : Driver) (left : Nat)
    (chainTip : ChainTipRecord) (frontierBefore frontierAfter : ScanFrontier) :
    SyncRunAttempt → List Publication
  | .completed outcome =>
    let (settled, shouldContinue) := driver.state.completeSync outcome (chainTip = .stale)
    completeSync driver.state outcome (chainTip = .stale) ++
      if shouldContinue then iterate options nowMs { driver with state := settled } left else []
  | .faulted fault committed =>
    let blocksAdvanced := heightDelta frontierBefore frontierAfter
    if isSlowProgress fault.repair blocksAdvanced then
      let advanced := (driver.state.observeCommittedChunk nowMs committed frontierAfter)
        |>.noteSlowProgress frontierAfter.height
      .fresh .syncing advanced :: iterate options nowMs { driver with state := advanced } left
    else
      let faulted := driver.state.recordFault options.recovery nowMs fault frontierAfter.height
      recordFault options.recovery nowMs driver.state fault frontierAfter.height ++
        iterate options nowMs { driver with state := faulted } left

def closeSyncDriver (state : DriverState) : List Publication :=
  [.fresh .closing state, .fresh .closed state]

end Publications

/-- What the driver publishes in a step. -/
def publications (options : SyncDriverOptions) (driver : Driver) (input : DriverInput) :
    List Publication :=
  match driver.position, input.event with
  | .starting, .opened answer =>
    Publications.openChainEvents options input.nowMs driver answer ++
      Publications.loopTurn options input.nowMs (driver.openChainEvents options input.nowMs answer)
  | _, .closeRequested => Publications.closeSyncDriver driver.state
  | .select, .pollTick reopened =>
    Publications.handlePollTick options input.nowMs driver reopened ++
      Publications.loopTurn options input.nowMs (driver.handlePollTick options input.nowMs reopened)
  | .select, .chainEvent item =>
    Publications.handleChainEvent options input.nowMs driver item ++
      Publications.loopTurn options input.nowMs (driver.handleChainEvent options input.nowMs item)
  | .backoff left, .repaired trace result =>
    Publications.settleRepair options input.nowMs driver left trace result
  | .reading _ _, .statusRead status => [.iterating status.toOption driver.state]
  | .running left chainTip frontierBefore, .runEnded _ outcome statusAfter =>
    Publications.settleRun options input.nowMs driver left chainTip frontierBefore
      (scanFrontier statusAfter) (classifyRun options outcome)
  | _, _ => []

/-- The driver's task and the channel of its snapshots. `pending` is still to be published before
the task goes on. -/
structure WatchedDriver where
  driver : Driver
  pending : List Publication
  channel : Watch.Channel SyncSnapshot

/-- The task publishes the first snapshot again as it starts. -/
def WatchedDriver.initial (network : Network) (nowMs : Nat) : WatchedDriver where
  driver := .initial
  pending := [.again]
  channel := .initial (.starting network nowMs)

inductive WatchLabel where
  | driver (input : DriverInput)
  | cut (nowMs : Nat) (reopened : Except ChainSourceError Unit)
  | publish (publication : Publication) (read : PublicationRead) (snapshot : SyncSnapshot)
  | drop
  | observe (label : Watch.Label SyncSnapshot)

/-- What an observer does: it subscribes, or reads. -/
def Observes : Watch.Label SyncSnapshot → Prop
  | .subscribe | .receive _ _ => True
  | .publish _ | .close => False

/-- Observers come and read between any two steps of the task. A close request may cut the task
while the handler of a tick reads the wallet's status for its snapshot. -/
inductive WatchStep (wallet : SyncWallet) (options : SyncDriverOptions) :
    WatchedDriver → WatchLabel → WatchedDriver → Prop where
  | driver (step : Driver.Step wallet options driver input next) :
      WatchStep wallet options ⟨driver, [], channel⟩ (.driver input)
        ⟨next, publications options driver input, channel⟩
  | cut (waiting : driver.position = .select)
      (reads : Publications.handlePollTick options nowMs driver reopened = [.fresh phase state]) :
      WatchStep wallet options ⟨driver, [], channel⟩ (.cut nowMs reopened)
        ⟨{ driver with state := state, position := .closed }, Publications.closeSyncDriver state,
          channel⟩
  | publish {read : PublicationRead}
      (shown : publication.snapshot wallet.network channel.latest read = snapshot)
      (moves : Watch.Step channel (.publish snapshot) channel') :
      WatchStep wallet options ⟨driver, publication :: pending, channel⟩
        (.publish publication read snapshot) ⟨driver, pending, channel'⟩
  | drop (done : driver.position = .closed) (moves : Watch.Step channel .close channel') :
      WatchStep wallet options ⟨driver, [], channel⟩ .drop ⟨driver, [], channel'⟩
  | observe (observes : Observes label) (moves : Watch.Step channel label channel') :
      WatchStep wallet options ⟨driver, pending, channel⟩ (.observe label)
        ⟨driver, pending, channel'⟩

/-- What a phase says of the driver: a recovering one applies the repair of an active ladder, or
waits out the backoff of a broken event stream. -/
def Driver.Phase (driver : Driver) : SyncDriverPhase → Prop
  | .parked sinceMs reprobeAtMs => driver.state.parked = some ⟨sinceMs, reprobeAtMs⟩
  | .starting | .syncing | .waiting => driver.state.parked = none
  | .recovering repair attempt nextAttemptAtMs => driver.state.parked = none ∧
      ((∃ recovery, driver.state.recovery = some recovery ∧ recovery.dormant = false ∧
          recovery.rung = repair) ∨
        repair = .retry ∧ driver.streamOpen = false ∧ 0 < attempt ∧
          attempt = driver.state.streamConsecutiveFaults ∧
          nextAttemptAtMs = driver.state.streamNextAttemptAtMs)
  | .closing | .closed => False

/-- A snapshot that shows the driver as it is between two steps. -/
structure Shows (driver : Driver) (snapshot : SyncSnapshot) : Prop where
  observation : snapshot.lastObservation = driver.state.lastObservation
  fault : snapshot.lastFault = driver.state.lastFault
  phase : driver.position ≠ .closed → driver.Phase snapshot.phase
  closed : driver.position = .closed → snapshot.phase = .closed
  syncing : ∀ left chainTip frontier, driver.position = .running left chainTip frontier →
    snapshot.phase = .syncing

/-- The wallet's heights, and what is derived from them, are those of one status. -/
structure SyncSnapshot.Views (snapshot : SyncSnapshot) (network : Network)
    (status : Option WalletStatus) : Prop where
  network : snapshot.network = network
  scanned : snapshot.scannedHeight = status.bind (·.scannedHeight)
  visible : snapshot.visibleTipHeight = status.bind (·.visibleTipHeight)
  settled : snapshot.settledTipHeight = status.bind (·.settledTipHeight)
  derived : snapshot.syncStatus =
    syncStatusFromHeights snapshot.scannedHeight snapshot.visibleTipHeight
  lag : snapshot.lagBlocks = computeLagBlocks snapshot.scannedHeight snapshot.visibleTipHeight

def WatchLabel.status : WatchLabel → Option WalletStatus
  | publish publication read _ => publication.status read
  | driver _ | cut _ _ | drop | observe _ => none

/-- The last status that was read for a snapshot; what is read after a fault, to see how far the
scan got, does not count. -/
def lastStatus (labels : List WatchLabel) : Option WalletStatus :=
  (labels.filterMap WatchLabel.status).getLast?

/-- What a step is to the channel. -/
def WatchLabel.shared : WatchLabel → Option (Watch.Label SyncSnapshot)
  | publish _ _ snapshot => some (.publish snapshot)
  | drop => some .close
  | observe label => some label
  | driver _ | cut _ _ => none

/-- The snapshots an observer got. -/
def observed (reader : Nat) (labels : List WatchLabel) : List SyncSnapshot :=
  Watch.received reader (labels.filterMap WatchLabel.shared)

/-! What publications make of a snapshot, whatever is read for them. -/

def Becomes (network : Network) (goal : SyncSnapshot → Prop) :
    List Publication → SyncSnapshot → Prop
  | [], snapshot => goal snapshot
  | publication :: rest, snapshot =>
    ∀ read, Becomes network goal rest (publication.snapshot network snapshot read)

section Becomes

variable {network : Network} {goal : SyncSnapshot → Prop}

theorem becomes_append (first second : List Publication) (snapshot : SyncSnapshot) :
    Becomes network goal (first ++ second) snapshot ↔
      Becomes network (Becomes network goal second) first snapshot := by
  induction first generalizing snapshot with
  | nil => exact Iff.rfl
  | cons publication first ih => exact forall_congr' fun read => ih _

theorem Becomes.mono {weaker : SyncSnapshot → Prop} {published : List Publication}
    (implies : ∀ snapshot, goal snapshot → weaker snapshot)
    (becomes : Becomes network goal published snapshot) :
    Becomes network weaker published snapshot := by
  induction published generalizing snapshot with
  | nil => exact implies _ becomes
  | cons publication rest ih => exact fun read => ih (becomes read)

end Becomes

/-- Where the driver may be: it parks only in its select, and a backoff is that of a ladder that
is not dormant. -/
structure Driver.Placed (driver : Driver) : Prop where
  parks : driver.state.parked = none ∨ driver.position = .select ∨ driver.position = .closed
  awake : ∀ left, driver.position = .backoff left → driver.state.Awake

/-- The snapshot tells of the state, wherever the driver is. -/
structure Told (driver : Driver) (snapshot : SyncSnapshot) : Prop where
  observation : snapshot.lastObservation = driver.state.lastObservation
  fault : snapshot.lastFault = driver.state.lastFault
  phase : driver.Phase snapshot.phase

section Parts

variable {network : Network} {options : SyncDriverOptions} {driver : Driver}
  {snapshot : SyncSnapshot} {state : DriverState}

theorem snapshotFor_shows (network : Network) (published : SyncSnapshot) (phase : SyncDriverPhase)
    (state : DriverState) (nowMs : Nat) (status : Option WalletStatus) :
    let shown := snapshotFor network published phase state nowMs status
    shown.phase = phase ∧ shown.lastObservation = state.lastObservation ∧
      shown.lastFault = state.lastFault := by
  cases status <;> exact ⟨rfl, rfl, rfl⟩

theorem told_fresh (phase : driver.Phase shown) (same : state = driver.state) :
    Becomes network (Told driver) [.fresh shown state] snapshot := by
  subst same
  intro read
  obtain ⟨showing, observation, fault⟩ :=
    snapshotFor_shows network snapshot shown driver.state read.beganMs read.status
  exact ⟨observation, fault, showing.symm ▸ phase⟩

theorem told_again (told : Told driver snapshot) :
    Becomes network (Told driver) [.again] snapshot :=
  fun _ => ⟨told.observation, told.fault, told.phase⟩

/-- A phase goes on to tell of a driver whose ladder and event stream are as far as they were. -/
theorem Told.kept {next : Driver} (told : Told driver snapshot)
    (observation : next.state.lastObservation = driver.state.lastObservation)
    (fault : next.state.lastFault = driver.state.lastFault)
    (parked : next.state.parked = driver.state.parked)
    (active : ∀ recovery, driver.state.recovery = some recovery → recovery.dormant = false →
      ∃ other, next.state.recovery = some other ∧ other.dormant = false ∧
        other.rung = recovery.rung)
    (broken : driver.streamOpen = false → 0 < driver.state.streamConsecutiveFaults →
      next.streamOpen = false ∧
        next.state.streamConsecutiveFaults = driver.state.streamConsecutiveFaults ∧
        next.state.streamNextAttemptAtMs = driver.state.streamNextAttemptAtMs) :
    Told next snapshot := by
  refine ⟨told.observation.trans observation.symm, told.fault.trans fault.symm, ?_⟩
  have phase := told.phase
  cases shown : snapshot.phase with
  | recovering repair attempt nextAttemptAtMs =>
    rw [shown] at phase
    obtain ⟨unparked, ⟨recovery, found, awake, rfl⟩ | ⟨retry, down, positive, rfl, rfl⟩⟩ := phase
    · exact ⟨parked.trans unparked, .inl (active recovery found awake)⟩
    · obtain ⟨still, faults, due⟩ := broken down positive
      exact ⟨parked.trans unparked, .inr ⟨retry, still, positive, faults.symm, due.symm⟩⟩
  | starting | syncing | waiting | parked =>
    rw [shown] at phase
    exact parked.trans phase
  | closing | closed =>
    rw [shown] at phase
    exact phase

/-- What a snapshot tells does not depend on where the driver is. -/
theorem Told.moved {next : Driver} (told : Told driver snapshot)
    (same : next.state = driver.state) (stream : next.streamOpen = driver.streamOpen) :
    Told next snapshot := by
  refine told.kept (by rw [same]) (by rw [same]) (by rw [same]) ?_ fun down _ => ?_
  · exact fun recovery found awake => ⟨recovery, by rw [same]; exact found, awake, rfl⟩
  · exact ⟨stream.trans down, by rw [same], by rw [same]⟩

theorem recordFault_parked (policy : SyncRecoveryPolicy) (nowMs : Nat) (state : DriverState)
    (classified : ClassifiedFault) (height : Option BlockHeight) :
    (state.recordFault policy nowMs classified height).parked = state.parked := by
  have entered : (state.recovery.getD (.entering classified.repair nowMs)).parked = state.parked := by
    unfold DriverState.parked
    cases state.recovery <;> rfl
  rw [← entered]
  simp only [DriverState.parked,DriverState.recordFault,Option.bind_some,RecoveryState.afterFault,
    RecoveryState.foldFault,RecoveryState.climb]
  have raised : ∀ recovery : RecoveryState,
      (recovery.raiseFaultHeight height).parked = recovery.parked := by
    intro recovery
    cases height <;> rfl
  have escalated : ∀ recovery : RecoveryState, recovery.escalate.parked = recovery.parked := by
    intro recovery
    unfold RecoveryState.escalate
    split
    · split <;> rfl
    · rfl
    · rfl
    · rfl
  split
  · exact raised _
  · split
    · exact (escalated _).trans (raised _)
    · exact raised _

theorem told_recordFault (policy : SyncRecoveryPolicy) (nowMs : Nat)
    (classified : ClassifiedFault) (height : Option BlockHeight)
    (unparked : driver.state.parked = none) :
    Becomes network
      (Told { driver with state := driver.state.recordFault policy nowMs classified height })
      (Publications.recordFault policy nowMs driver.state classified height) snapshot := by
  obtain ⟨recovery, found, awake⟩ := afterFault_awake driver.state policy nowMs classified height
  obtain rfl := Option.some.inj found
  have phase : ∀ attempt nextAttemptAtMs,
      Driver.Phase { driver with state := driver.state.recordFault policy nowMs classified height }
        (.recovering _ attempt nextAttemptAtMs) := fun _ _ =>
    ⟨(recordFault_parked ..).trans unparked, .inl ⟨_, rfl, awake, rfl⟩⟩
  unfold Publications.recordFault
  split
  · exact (becomes_append [_] [.again] snapshot).mpr
      ((told_fresh (phase _ _) rfl).mono fun _ => told_again)
  · exact told_fresh (phase _ _) rfl

theorem told_recordStreamFault (policy : SyncRecoveryPolicy) (nowMs : Nat)
    (error : ChainSourceError) (unparked : driver.state.parked = none) :
    Becomes network (Told { driver with
        streamOpen := false
        state := driver.state.recordStreamFault policy nowMs error })
      (Publications.recordStreamFault policy nowMs driver.state error) snapshot := by
  refine told_fresh ⟨unparked, .inr ⟨rfl, rfl, ?_, rfl, rfl⟩⟩ rfl
  exact Nat.lt_min.mpr ⟨Nat.succ_pos _, by decide⟩

theorem told_iterate (nowMs : Nat) (chainTip : ChainTipRecord) (left : Nat)
    (told : Told driver snapshot) :
    Becomes network (Told (driver.iterate options nowMs chainTip left))
      (Publications.iterate options nowMs driver left) snapshot := by
  cases left with
  | zero => exact told.moved rfl rfl
  | succ left =>
    simp only [Publications.iterate,Driver.iterate]
    cases active : driver.state.recovery with
    | none => exact told.moved rfl rfl
    | some recovery =>
      simp only []
      by_cases dormant : recovery.dormant = true
      · rw [if_pos dormant,if_pos dormant]
        exact told.moved rfl rfl
      · rw [if_neg dormant,if_neg dormant]
        by_cases last : recovery.rung = .park
        · rw [if_pos last,if_pos last]
          refine told_fresh ?_ rfl
          simp only [Driver.Phase,Driver.exitPending,DriverState.parked,DriverState.enterPark,active,
            Option.map_some,Option.bind_some]
        · rw [if_neg last,if_neg last]
          exact told.moved rfl rfl

theorem told_loopTurn (nowMs : Nat) (told : Told driver snapshot) :
    Becomes network (Told (driver.loopTurn options nowMs))
      (Publications.loopTurn options nowMs driver) snapshot := by
  unfold Publications.loopTurn Driver.loopTurn
  split
  · exact told_iterate nowMs .stale _ told
  · exact told.moved rfl rfl

theorem told_openChainEvents (nowMs : Nat) (answer : Except ChainSourceError Unit)
    (unparked : driver.state.parked = none) (told : Told driver snapshot) :
    Becomes network (Told (driver.openChainEvents options nowMs answer))
      (Publications.openChainEvents options nowMs driver answer) snapshot := by
  have active : ∀ recovery, driver.state.recovery = some recovery → recovery.dormant = false →
      ∃ other, driver.state.recovery = some other ∧ other.dormant = false ∧
        other.rung = recovery.rung := fun recovery found awake => ⟨recovery, found, awake, rfl⟩
  cases answer with
  | ok =>
    simp only [Publications.openChainEvents,Driver.openChainEvents]
    split
    · exact told_fresh unparked rfl
    · rename_i steady
      exact told.kept rfl rfl rfl active fun _ positive => absurd positive steady
  | error error =>
    simp only [Publications.openChainEvents,Driver.openChainEvents]
    split
    · exact told.kept rfl rfl rfl active fun _ _ => ⟨rfl, rfl, rfl⟩
    · exact told_recordStreamFault options.recovery nowMs error unparked

theorem told_handlePollTick (nowMs : Nat) (reopened : Except ChainSourceError Unit)
    (told : Told driver snapshot) :
    Becomes network (Told (driver.handlePollTick options nowMs reopened))
      (Publications.handlePollTick options nowMs driver reopened) snapshot := by
  unfold Publications.handlePollTick Driver.handlePollTick
  cases unparked : driver.state.parked with
  | some parked =>
    simp only []
    split
    · exact told_fresh rfl rfl
    · exact told_again (told.moved rfl rfl)
  | none =>
    simp only []
    split
    · exact (told_openChainEvents nowMs reopened unparked told).mono fun shown told =>
        ⟨told.observation, told.fault, told.phase⟩
    · exact ⟨told.observation, told.fault, told.phase⟩

theorem told_handleChainEvent (nowMs : Nat) (item : Option (Except ChainSourceError ChainEventCursor))
    (stream : driver.streamOpen = true) (told : Told driver snapshot) :
    Becomes network (Told (driver.handleChainEvent options nowMs item))
      (Publications.handleChainEvent options nowMs driver item) snapshot := by
  -- An open stream is in no backoff.
  have kept : ∀ {next : Driver}, next.state.lastObservation = driver.state.lastObservation →
      next.state.lastFault = driver.state.lastFault →
      next.state.recovery = driver.state.recovery → Told next snapshot := by
    intro next observation fault same
    refine told.kept observation fault (congrArg (Option.bind · _) same) ?_ fun down _ => ?_
    · exact fun recovery found awake => ⟨recovery, same.trans found, awake, rfl⟩
    · rw [stream] at down
      cases down
  rcases item with _ | error | cursor
  · exact kept rfl rfl rfl
  · simp only [Publications.handleChainEvent,Driver.handleChainEvent]
    split
    · exact kept rfl rfl rfl
    · split
      · rename_i unparked
        exact told_recordStreamFault options.recovery nowMs error unparked
      · exact kept rfl rfl rfl
  · exact kept rfl rfl rfl

theorem told_applyRepair (network : Network) (trace : List SyncEvent)
    (unparked : driver.state.parked = none) (awake : driver.state.Awake) (told : Told driver snapshot) :
    Becomes network (Told { driver with state := driver.state.countAttempt })
      (Publications.applyRepair driver.state trace) snapshot := by
  obtain ⟨recovery, active, awake⟩ := awake
  have counted : driver.state.countAttempt.recovery = some recovery.countAttempt := by
    rw [DriverState.countAttempt,active]
    rfl
  have still : driver.state.countAttempt.parked = none := by
    rw [DriverState.parked,active] at unparked
    rw [DriverState.parked,counted]
    exact unparked
  have shown : ∀ status, Becomes network (Told { driver with state := driver.state.countAttempt })
      [.repairing recovery.countAttempt status driver.state.countAttempt] snapshot := by
    intro status read
    obtain ⟨phase, observation, fault⟩ := snapshotFor_shows network snapshot
      (.recovering recovery.rung recovery.countAttempt.attemptsAtRung read.beganMs)
      driver.state.countAttempt read.beganMs (status.or read.status)
    exact ⟨observation, fault, phase.symm ▸ ⟨still, .inl ⟨_, counted, awake, rfl⟩⟩⟩
  simp only [Publications.applyRepair,counted]
  split
  · cases Publications.rewindStatus trace with
    | some status => exact shown (some status)
    | none =>
      refine told.kept rfl rfl (still.trans unparked.symm) ?_ fun down _ => ⟨down, rfl, rfl⟩
      intro other found waking
      obtain rfl := Option.some.inj (active.symm.trans found)
      exact ⟨_, counted, waking, rfl⟩
  · exact shown none

theorem countAttempt_parked (state : DriverState) : state.countAttempt.parked = state.parked := by
  unfold DriverState.countAttempt DriverState.parked
  cases state.recovery <;> rfl

theorem told_settleRepair (nowMs : Nat) (left : Nat) (trace : List SyncEvent)
    (result : Except WalletError Unit) (unparked : driver.state.parked = none)
    (awake : driver.state.Awake) (told : Told driver snapshot) :
    Becomes network (Told (driver.settleRepair options nowMs left result))
      (Publications.settleRepair options nowMs driver left trace result) snapshot := by
  have repaired := told_applyRepair network trace unparked awake told
  cases result with
  | ok => exact repaired.mono fun shown told => told.moved rfl rfl
  | error error =>
    refine (becomes_append (_ ++ _) _ snapshot).mpr ((becomes_append _ _ snapshot).mpr ?_)
    refine repaired.mono fun shown told => ?_
    let counted : Driver := { driver with state := driver.state.countAttempt }
    have still : counted.state.parked = none := (countAttempt_parked _).trans unparked
    refine (told_recordFault options.recovery nowMs ⟨.failed error, repairFor error⟩ none
      still).mono fun shown told => ?_
    exact told_iterate nowMs .stale left told

theorem settleRecovery_unparked (scannedTo : Option BlockHeight)
    (unparked : state.parked = none) : (state.settleRecovery scannedTo).1.parked = none := by
  unfold DriverState.settleRecovery
  split
  · exact unparked
  · rename_i recovery active
    rw [DriverState.parked,active] at unparked
    split
    · exact unparked
    · rfl

theorem completeSync_unparked (outcome : SyncOutcome) (recordedTip : Bool)
    (unparked : state.parked = none) : (state.completeSync outcome recordedTip).1.parked = none := by
  have recovered := settleRecovery_unparked (some outcome.scannedToHeight) unparked
  unfold DriverState.parked at recovered ⊢
  simp only [DriverState.completeSync,DriverState.observeCompletedRun,stamp_recovery]
  exact recovered

theorem slowProgress_unparked (nowMs : Nat) (committed : CommittedChunk) (frontier : ScanFrontier)
    (unparked : state.parked = none) :
    ((state.observeCommittedChunk nowMs committed frontier).noteSlowProgress
      frontier.height).parked = none := by
  have observed : (state.observeCommittedChunk nowMs committed frontier).parked = none := by
    rw [DriverState.parked,DriverState.observeCommittedChunk,stamp_recovery]
    exact unparked
  exact settleRecovery_unparked frontier.height observed

theorem told_settleRun (nowMs : Nat) (left : Nat) (chainTip : ChainTipRecord)
    (before after : ScanFrontier) (attempt : SyncRunAttempt)
    (unparked : driver.state.parked = none) :
    Becomes network (Told (driver.settleRun options nowMs left chainTip before after attempt))
      (Publications.settleRun options nowMs driver left chainTip before after attempt) snapshot := by
  cases attempt with
  | completed outcome =>
    have settled := completeSync_unparked outcome (chainTip = .stale) unparked
    have shown : ∀ phase, phase = .syncing ∨ phase = .waiting → Becomes network
        (Told { driver with state := (driver.state.completeSync outcome (chainTip = .stale)).1 })
        [.fresh phase (driver.state.completeSync outcome (chainTip = .stale)).1] snapshot := by
      rintro phase (rfl | rfl) <;> exact told_fresh settled rfl
    simp only [Publications.settleRun,Publications.completeSync,Driver.settleRun]
    split
    · refine (becomes_append _ _ snapshot).mpr ((shown _ (.inl rfl)).mono fun shown told => ?_)
      exact told_iterate nowMs _ left told
    · exact (shown _ (.inr rfl)).mono fun shown told => told.moved rfl rfl
  | faulted fault committed =>
    simp only [Publications.settleRun,Driver.settleRun]
    split
    · rename_i slow
      have advanced := slowProgress_unparked nowMs committed after unparked
      have shown : Becomes network (Told { driver with
          state := (driver.state.observeCommittedChunk nowMs committed after).noteSlowProgress
            after.height }) [.fresh .syncing _] snapshot := told_fresh advanced rfl
      refine (becomes_append [_] _ snapshot).mpr (shown.mono fun shown told => ?_)
      exact told_iterate nowMs _ left told
    · refine (becomes_append _ _ snapshot).mpr
        ((told_recordFault options.recovery nowMs fault after.height unparked).mono
          fun shown told => ?_)
      exact told_iterate nowMs _ left told

/-- The driver as the head of one of its loops leaves it. -/
structure Looped (driver : Driver) : Prop where
  placed : driver.Placed
  alive : driver.position ≠ .closed
  idle : ∀ left chainTip frontier, driver.position ≠ .running left chainTip frontier

theorem looped_select (waiting : driver.position = .select) : Looped driver := by
  refine ⟨⟨.inr (.inl waiting), fun left held => ?_⟩, fun held => ?_,
    fun left chainTip frontier held => ?_⟩ <;>
    cases waiting.symm.trans held

theorem looped_iterate (nowMs : Nat) (chainTip : ChainTipRecord) (left : Nat)
    (unparked : driver.state.parked = none) :
    Looped (driver.iterate options nowMs chainTip left) := by
  obtain ⟨-, same⟩ | ⟨rest, -, -, same⟩ | ⟨recovery, active, awake, -, same⟩ |
    ⟨rest, recovery, -, active, awake, -, same⟩ :=
      Driver.iterate_cases options nowMs driver chainTip left <;> rw [same]
  · exact looped_select rfl
  · exact ⟨⟨.inl unparked, nofun⟩, nofun, nofun⟩
  · exact looped_select rfl
  · exact ⟨⟨.inl unparked, fun _ _ => ⟨recovery, active, awake⟩⟩, nofun, nofun⟩

theorem looped_loopTurn (options : SyncDriverOptions) (nowMs : Nat) (driver : Driver) :
    Looped (driver.loopTurn options nowMs) := by
  unfold Driver.loopTurn
  split
  · rename_i requested
    exact looped_iterate nowMs .stale _ requested.2
  · exact looped_select rfl

theorem looped_settleRun (nowMs : Nat) (left : Nat) (chainTip : ChainTipRecord)
    (before after : ScanFrontier) (attempt : SyncRunAttempt)
    (unparked : driver.state.parked = none) :
    Looped (driver.settleRun options nowMs left chainTip before after attempt) := by
  cases attempt with
  | completed outcome =>
    simp only [Driver.settleRun]
    split
    · exact looped_iterate nowMs _ left (completeSync_unparked outcome (chainTip = .stale) unparked)
    · exact looped_select rfl
  | faulted fault committed =>
    simp only [Driver.settleRun]
    split
    · exact looped_iterate nowMs _ left (slowProgress_unparked nowMs committed after unparked)
    · exact looped_iterate nowMs _ left ((recordFault_parked ..).trans unparked)

theorem Looped.shows (looped : Looped driver) (told : Told driver snapshot) :
    Shows driver snapshot where
  observation := told.observation
  fault := told.fault
  phase _ := told.phase
  closed done := absurd done looped.alive
  syncing left chainTip frontier running := absurd running (looped.idle left chainTip frontier)

theorem Shows.told (shown : Shows driver snapshot) (alive : driver.position ≠ .closed) :
    Told driver snapshot :=
  ⟨shown.observation, shown.fault, shown.phase alive⟩

theorem shows_closed (done : driver.position = .closed) (same : driver.state = state) :
    Becomes network (Shows driver) (Publications.closeSyncDriver state) snapshot := by
  subst same
  intro read last
  obtain ⟨shown, observation, fault⟩ := snapshotFor_shows network
    (Publication.snapshot network snapshot read (.fresh .closing driver.state)) .closed driver.state
    last.beganMs last.status
  exact ⟨observation, fault, fun alive => absurd done alive, fun _ => shown,
    fun _ _ _ running => by rw [done] at running; cases running⟩

/-- What was published told of the driver, and then its loop turns. -/
theorem shows_of_loopTurn {published : List Publication} (nowMs : Nat)
    (told : Becomes network (Told driver) published snapshot) :
    (driver.loopTurn options nowMs).Placed ∧ Becomes network (Shows (driver.loopTurn options nowMs))
      (published ++ Publications.loopTurn options nowMs driver) snapshot := by
  have looped := looped_loopTurn options nowMs driver
  refine ⟨looped.placed, (becomes_append _ _ snapshot).mpr (told.mono fun shown told => ?_)⟩
  exact (told_loopTurn nowMs told).mono fun shown told => looped.shows told

theorem shows_of_settleRepair (nowMs : Nat) (left : Nat) (trace : List SyncEvent)
    (result : Except WalletError Unit) (unparked : driver.state.parked = none)
    (awake : driver.state.Awake) (told : Told driver snapshot) :
    (driver.settleRepair options nowMs left result).Placed ∧
      Becomes network (Shows (driver.settleRepair options nowMs left result))
        (Publications.settleRepair options nowMs driver left trace result) snapshot := by
  have published : Becomes network (Told (driver.settleRepair options nowMs left result))
      (Publications.settleRepair options nowMs driver left trace result) snapshot :=
    told_settleRepair nowMs left trace result unparked awake told
  have counted := (countAttempt_parked driver.state).trans unparked
  cases result with
  | ok =>
    refine ⟨⟨.inl counted, nofun⟩, ?_⟩
    exact published.mono fun shown told =>
      ⟨told.observation, told.fault, fun _ => told.phase, nofun, nofun⟩
  | error error =>
    have looped : Looped (driver.settleRepair options nowMs left (.error error)) :=
      looped_iterate nowMs .stale left ((recordFault_parked ..).trans counted)
    exact ⟨looped.placed, published.mono fun shown told => looped.shows told⟩

/-- After a step, what the driver publishes shows it. -/
theorem shows_of_step (placed : driver.Placed) (shown : Shows driver snapshot)
    (step : Driver.Step wallet options driver input next) :
    next.Placed ∧ Becomes network (Shows next) (publications options driver input) snapshot := by
  have moves := Driver.moves_of_next step.2
  have unparked : ∀ {position}, driver.position = position → position ≠ .select →
      position ≠ .closed → driver.state.parked = none := by
    rintro position rfl away alive
    rcases placed.parks with unparked | waiting | done
    · exact unparked
    · exact absurd waiting away
    · exact absurd done alive
  rcases input with ⟨nowMs, event⟩
  simp only [] at moves
  cases moves with
  | opened waiting =>
    rename_i answer
    have told := shown.told (by rw [waiting]; nofun)
    simp only [publications,waiting]
    exact shows_of_loopTurn nowMs
      (told_openChainEvents nowMs answer (unparked waiting nofun nofun) told)
  | closed =>
    refine ⟨⟨.inr (.inr rfl), nofun⟩, ?_⟩
    have published : publications options driver ⟨nowMs, .closeRequested⟩ =
        Publications.closeSyncDriver driver.state := by
      unfold publications
      cases driver.position <;> rfl
    rw [published]
    exact shows_closed rfl rfl
  | ticked waiting =>
    rename_i reopened
    have told := shown.told (by rw [waiting]; nofun)
    simp only [publications,waiting]
    exact shows_of_loopTurn nowMs (told_handlePollTick nowMs reopened told)
  | notified waiting stream =>
    rename_i item
    have told := shown.told (by rw [waiting]; nofun)
    simp only [publications,waiting]
    exact shows_of_loopTurn nowMs (told_handleChainEvent nowMs item stream told)
  | repaired waiting =>
    rename_i left trace result
    have told := shown.told (by rw [waiting]; nofun)
    simp only [publications,waiting]
    exact shows_of_settleRepair nowMs left trace result (unparked waiting nofun nofun)
      (placed.awake left waiting) told
  | read waiting =>
    rename_i left chainTip status
    have still := unparked waiting nofun nofun
    refine ⟨⟨.inl still, nofun⟩, ?_⟩
    simp only [publications,waiting]
    intro read
    obtain ⟨shown, observation, fault⟩ := snapshotFor_shows network snapshot .syncing
      driver.state read.beganMs status.toOption
    exact ⟨observation, fault, fun _ => shown.symm ▸ still, nofun, fun _ _ _ _ => shown⟩
  | ran waiting =>
    rename_i left chainTip before trace outcome statusAfter
    have still := unparked waiting nofun nofun
    have looped : Looped (driver.settleRun options nowMs left chainTip before
        (scanFrontier statusAfter) (classifyRun options outcome)) :=
      looped_settleRun nowMs left chainTip before _ _ still
    refine ⟨looped.placed, ?_⟩
    simp only [publications,waiting]
    exact (told_settleRun nowMs left chainTip before _ _ still).mono fun shown told =>
      looped.shows told

end Parts

section Runs

variable {wallet : SyncWallet} {options : SyncDriverOptions} {world next final : WatchedDriver}

/-- What stays true of the driver and its channel. -/
structure WatchedInvariant (wallet : SyncWallet) (world : WatchedDriver) : Prop where
  placed : world.driver.Placed
  shows : Becomes wallet.network (Shows world.driver) world.pending world.channel.latest
  dropped : world.channel.closed = true → world.driver.position = .closed ∧ world.pending = []

theorem watched_initial (wallet : SyncWallet) (nowMs : Nat) :
    WatchedInvariant wallet (.initial wallet.network nowMs) where
  placed := ⟨.inl rfl, nofun⟩
  shows _ := ⟨rfl, rfl, fun _ => rfl, nofun, nofun⟩
  dropped := nofun

theorem watched_step (watched : WatchedInvariant wallet world)
    (step : WatchStep wallet options world label next) : WatchedInvariant wallet next := by
  obtain ⟨placed, shows, dropped⟩ := watched
  cases step with
  | @driver driver input next channel step =>
    obtain ⟨kept, published⟩ := shows_of_step placed shows step
    refine ⟨kept, published, fun closed => ?_⟩
    obtain ⟨done, -⟩ := dropped closed
    have moves := step.2
    unfold Driver.next at moves
    simp only [show driver.position = .closed from done] at moves
    cases moves
  | @cut driver nowMs reopened phase state channel waiting reads =>
    refine ⟨⟨.inr (.inr rfl), nofun⟩, shows_closed rfl rfl, fun closed => ?_⟩
    obtain ⟨done, -⟩ := dropped closed
    cases waiting.symm.trans done
  | publish showing moves =>
    subst showing
    cases moves with
    | publish => exact ⟨placed, shows _, nofun⟩
  | drop done moves =>
    cases moves with
    | close => exact ⟨placed, shows, fun _ => ⟨done, rfl⟩⟩
  | observe observes moves =>
    cases moves with
    | publish => cases observes
    | close => cases observes
    | subscribe => exact ⟨placed, shows, dropped⟩
    | receive => exact ⟨placed, shows, dropped⟩
    | ended => exact ⟨placed, shows, dropped⟩

theorem views_of_snapshot {published : SyncSnapshot} (publication : Publication)
    (read : PublicationRead) (views : published.Views network status) :
    (publication.snapshot network published read).Views network
      ((publication.status read).or status) := by
  have stamped : ∀ phase state shown, (snapshotFor network published phase state read.beganMs
      shown).Views network (shown.or status) := by
    intro phase state shown
    cases shown with
    | none => exact ⟨views.network, views.scanned, views.visible, views.settled, views.derived,
        views.lag⟩
    | some shown => exact ⟨rfl, rfl, rfl, rfl, rfl, rfl⟩
  have shown : ∀ {snapshot : SyncSnapshot} {status}, snapshot.Views network status →
      { snapshot with publishedAtMs := read.publishedMs }.Views network status :=
    fun views => ⟨views.network, views.scanned, views.visible, views.settled, views.derived,
      views.lag⟩
  cases publication with
  | fresh phase state => exact shown (stamped phase state _)
  | iterating status state => exact shown (stamped .syncing state _)
  | repairing recovery rewound state => exact shown (stamped _ state _)
  | again => exact shown views

theorem lastStatus_append (labels : List WatchLabel) (label : WatchLabel) :
    lastStatus (labels ++ [label]) = label.status.or (lastStatus labels) := by
  rw [lastStatus,List.filterMap_append]
  cases found : label.status with
  | none => simp [lastStatus,found]
  | some status => simp [found]

/-- Each snapshot views one status, and the latest one the last status that was read. -/
theorem views_of_path (path : Path (WatchStep wallet options) (.initial wallet.network nowMs) labels
      final) : final.channel.latest.Views wallet.network (lastStatus labels) ∧
    ∀ snapshot ∈ final.channel.values, ∃ status, snapshot.Views wallet.network status := by
  refine path.recorded (fun labels world => world.channel.latest.Views wallet.network
    (lastStatus labels) ∧ ∀ snapshot ∈ world.channel.values, ∃ status,
      snapshot.Views wallet.network status) ?_ ?_
  · have started : (SyncSnapshot.starting wallet.network nowMs).Views wallet.network none :=
      ⟨rfl, rfl, rfl, rfl, rfl, rfl⟩
    exact ⟨started, fun snapshot member => List.mem_singleton.mp member ▸ ⟨_, started⟩⟩
  · intro labels world label next _ views step
    rw [lastStatus_append]
    cases step with
    | driver => exact views
    | cut => exact views
    | @publish channel snapshot channel' driver publication pending read showing moves =>
      have new := views_of_snapshot publication read views.1
      rw [showing] at new
      cases moves with
      | publish =>
        refine ⟨new, fun snapshot member => ?_⟩
        rcases List.mem_append.mp member with earlier | last
        · exact views.2 snapshot earlier
        · exact List.mem_singleton.mp last ▸ ⟨_, new⟩
    | drop done moves =>
      cases moves with
      | close => exact views
    | observe observes moves =>
      cases moves with
      | publish => cases observes
      | close => cases observes
      | subscribe => exact views
      | receive => exact views
      | ended => exact views

theorem channel_of_path (path : Path (WatchStep wallet options) world labels final) :
    Path Watch.Step world.channel (labels.filterMap WatchLabel.shared) final.channel := by
  induction path with
  | nil => exact .nil
  | cons step _ ih =>
    cases step with
    | driver => exact ih
    | cut => exact ih
    | publish _ moves => exact .cons moves ih
    | drop _ moves => exact .cons moves ih
    | observe _ moves => exact .cons moves ih

/-- What whoever watches the driver may rely on. -/
structure Tells (network : Network) (labels : List WatchLabel) (world : WatchedDriver) : Prop where
  shows : world.pending = [] → Shows world.driver world.channel.latest
  views : world.channel.latest.Views network (lastStatus labels)
  coherent : ∀ snapshot ∈ world.channel.values, ∃ status, snapshot.Views network status
  inOrder : ∀ reader, (observed reader labels).Sublist world.channel.values
  ended : ∀ reader, .observe (.receive reader none) ∈ labels →
    (observed reader labels).getLast? = some world.channel.latest ∧
      world.channel.latest.phase = .closed ∧ Shows world.driver world.channel.latest

/-- In every run, with any faults of the status reads and any observers, a driver that has published
what it had to is shown as it is; the wallet's heights of every snapshot belong together and are
the last ones read; and an observer gets snapshots in order, a closed one last. -/
theorem snapshots_tell (path : Path (WatchStep wallet options) (.initial wallet.network nowMs) labels
    final) : Tells wallet.network labels final := by
  have watched : WatchedInvariant wallet final := path.invariant (WatchedInvariant wallet)
    (fun _ _ _ watched step => watched_step watched step) (watched_initial wallet nowMs)
  have kept := Watch.kept_of_path (channel_of_path path)
  obtain ⟨views, coherent⟩ := views_of_path path
  have shows : final.pending = [] → Shows final.driver final.channel.latest := by
    intro done
    have shows := watched.shows
    rw [done] at shows
    exact shows
  refine ⟨shows, views, coherent, kept.within, fun reader member => ?_⟩
  have told : Watch.Label.receive reader none ∈ labels.filterMap WatchLabel.shared :=
    List.mem_filterMap.mpr ⟨_, member, rfl⟩
  obtain ⟨position, done⟩ := watched.dropped (kept.ended reader told).1
  exact ⟨kept.got_latest told, (shows done).closed position, shows done⟩

end Runs

section Sample

def sampleWatchedStatus : WalletStatus := ⟨some 7, some 10, some 5⟩

def samplePublication : PublicationRead := ⟨1, 2, none⟩

def sampleSnapshot (phase : SyncDriverPhase) : SyncSnapshot where
  network := sampleSyncWallet.network
  phase := phase
  syncStatus := .catchingUp 7 10 3
  scannedHeight := some 7
  visibleTipHeight := some 10
  settledTipHeight := some 5
  lagBlocks := some 3
  lastObservation := none
  lastFault := none
  publishedAtMs := 2

/-- The status is read once; what is published afterwards keeps it. -/
def sampleWatch : List WatchLabel := [
  .publish .again samplePublication { SyncSnapshot.starting sampleSyncWallet.network 0 with
    publishedAtMs := 2 },
  .driver ⟨1, .opened (.ok ())⟩,
  .observe .subscribe,
  .driver ⟨1, .statusRead (.ok sampleWatchedStatus)⟩,
  .publish (.iterating (some sampleWatchedStatus) .initial) samplePublication (sampleSnapshot .syncing),
  .observe (.receive 0 (some (sampleSnapshot .syncing))),
  .driver ⟨1, .closeRequested⟩,
  .publish (.fresh .closing .initial) samplePublication (sampleSnapshot .closing),
  .publish (.fresh .closed .initial) samplePublication (sampleSnapshot .closed),
  .drop,
  .observe (.receive 0 (some (sampleSnapshot .closed))),
  .observe (.receive 0 none)]

theorem sampleWatch_tells : ∃ final, Tells sampleSyncWallet.network sampleWatch final ∧
    observed 0 sampleWatch = [sampleSnapshot .syncing, sampleSnapshot .closed] := by
  have path : ∃ final, Path (WatchStep sampleSyncWallet sampleOptions)
      (.initial sampleSyncWallet.network 0) sampleWatch final :=
    ⟨_, .cons (.publish rfl .publish) <| .cons (.driver ⟨trivial, rfl⟩) <|
      .cons (.observe trivial .subscribe) <| .cons (.driver ⟨trivial, rfl⟩) <|
      .cons (.publish rfl .publish) <| .cons (.observe trivial (.receive rfl (by decide))) <|
      .cons (.driver ⟨trivial, rfl⟩) <| .cons (.publish rfl .publish) <|
      .cons (.publish rfl .publish) <| .cons (.drop rfl .close) <|
      .cons (.observe trivial (.receive rfl (by decide))) <|
      .cons (.observe trivial (.ended rfl rfl)) .nil⟩
  obtain ⟨final, path⟩ := path
  exact ⟨final, snapshots_tell path, rfl⟩

end Sample

end Zally.Sync
