import Mathlib.Data.List.Induction
import Zally.Wallet.SyncTrace

/-! The driver's observation of the chain against the comparisons its runs made: one run
first, then every run of the driver. -/
namespace Zally.Sync

open Async Async.Program Async.Coverage

/-- The observation the end of a run is about to record. -/
def runStamp (state : DriverState) (nowMs : Nat) (before after : ScanFrontier) :
    SyncRunAttempt → Option SyncObservation
  | .completed outcome => state.completedRunStamp outcome
  | .faulted fault committed =>
    if isSlowProgress fault.repair (heightDelta before after) then
      DriverState.committedChunkStamp nowMs committed after
    else none

/-- Every block up to `height` that the history committed was compared after its commit. -/
def ComparedUpTo (history : List (Action BlockHeight)) (height : BlockHeight) : Prop :=
  ∀ block ≤ height, block ∉ unchecked ∅ history

/-- A run that recorded an observation without a comparison of its own left no chunk
uncovered below it: one that found nothing to scan under a standing observation, or one
that ended in an excused error other than a failed comparison. -/
def StampCovered (state : DriverState) (before after : ScanFrontier) (trace : List SyncEvent) :
    Option (Except WalletError SyncOutcome) → Prop
  | some (.ok outcome) => outcome.blockCount = 0 → state.hasChecked outcome.scannedToHeight = true →
    ¬Uncovered (storeActions trace) outcome.scannedToHeight
  | some (.error error) => repairFor error = .retry → committedChunkFor error = .checked →
    ∀ frontier, after = .at frontier → 0 < heightDelta before after →
      ¬Uncovered (storeActions trace) frontier
  | none => True

theorem AttemptShape.grows (shape : AttemptShape actions outcome) :
    ∀ action ∈ actions, Grows action := by
  cases shape <;> simp [Grows]

theorem MadeOf.storeActions (made : MadeOf attempt attempts trace outcome) :
    storeActions trace = attempts.flatMap fun one => Sync.storeActions one.trace :=
  made.seen storeAction fun _ => storeAction_of_idle

/-- A run of a scan call only commits and compares. -/
theorem runs_grow (run : Runs (scanCall wallet turns chainTip).run trace outcome) :
    ∀ action ∈ storeActions trace, Grows action := by
  obtain ⟨attempts, made⟩ := runs_scanCall run
  rw [made.storeActions]
  intro action member
  obtain ⟨one, among, member⟩ := List.mem_flatMap.mp member
  exact (runs_attemptCall (made.runs one among)).shape.grows action member

/-- A completed scan compared last, at the height it reports. -/
theorem completed_compares (run : Runs (scanCall wallet turns chainTip).run trace (some (.ok value)))
    (scanned : value.blockCount ≠ 0) :
    ∃ earlier, storeActions trace = earlier ++ [.checked value.scannedToHeight] := by
  obtain ⟨attempts, made⟩ := runs_scanCall run
  obtain ⟨earlier, last, rfl⟩ := made.final value rfl
  have shape := (runs_attemptCall (made.runs _ (List.mem_append_right _ List.mem_cons_self))).shape
  rw [made.storeActions,List.flatMap_append,List.flatMap_singleton]
  generalize storeActions last = actions at shape ⊢
  cases shape with
  | idle empty => exact absurd (empty value rfl) scanned
  | uncompared failed => exact absurd rfl (failed value)
  | @compared _ _ first report =>
    rw [(report value rfl).1]
    exact ⟨_, (List.append_assoc _ [_] [_]).symm⟩

theorem not_comparedUpTo_iff (grows : ∀ action ∈ history, Grows action) :
    ¬ComparedUpTo history height ↔ Uncovered history height := by
  rw [uncovered_iff grows]
  simp [ComparedUpTo]

theorem comparedUpTo_of_checked (history : List (Action BlockHeight)) (height : BlockHeight) :
    ComparedUpTo (history ++ [.checked height]) height := by
  intro block below member
  exact absurd (lt_of_unchecked_checked member) (Nat.not_lt.mpr below)

/-- An excused fault records the frontier it advanced to, when its error is no failed
comparison. -/
theorem runStamp_faulted_iff {fault : ClassifiedFault} :
    runStamp state nowMs before after (.faulted fault committed) = some observation ↔
      fault.repair = .retry ∧ committed = .checked ∧ 0 < heightDelta before after ∧
      after = .at observation.scannedToHeight ∧ observation.observedAtMs = nowMs := by
  rcases observation with ⟨height, observedAtMs⟩
  simp only [runStamp,isSlowProgress,decide_eq_true_eq]
  by_cases excused : fault.repair = .retry ∧ heightDelta before after > 0
  · rw [if_pos excused]
    cases committed <;> cases after <;> simp_all [DriverState.committedChunkStamp,eq_comm]
  · rw [if_neg excused]
    simp only [reduceCtorEq,false_iff]
    rintro ⟨retry, -, advanced, -⟩
    exact excused ⟨retry, advanced⟩

theorem runStamp_completed_iff : runStamp state nowMs before after (.completed outcome) =
      some observation ↔
    (outcome.blockCount = 0 → state.hasChecked outcome.scannedToHeight = true) ∧
      observation = ⟨outcome.scannedToHeight, outcome.completedAtMs⟩ := by
  simp only [runStamp,DriverState.completedRunStamp]
  by_cases skipped : outcome.blockCount = 0 ∧ state.hasChecked outcome.scannedToHeight = false
  · simp [skipped]
  · rw [if_neg skipped]
    have standing : outcome.blockCount = 0 → state.hasChecked outcome.scannedToHeight = true := by
      intro empty
      by_contra unchecked
      exact skipped ⟨empty, by simpa using unchecked⟩
    rw [and_iff_right standing,Option.some.injEq]
    exact eq_comm

/-- In one run, with any retries inside it, the recorded observation lies at or above an
uncompared block exactly when a run without a comparison of its own left one uncovered. -/
theorem stamp_compared_iff (options : SyncDriverOptions) (state : DriverState) (nowMs : Nat)
    (before after : ScanFrontier)
    (run : Runs (scanCall wallet turns chainTip).run trace outcome) :
    (∀ observation, runStamp state nowMs before after (classifyRun options outcome) =
      some observation → ComparedUpTo (storeActions trace) observation.scannedToHeight) ↔
    StampCovered state before after trace outcome := by
  have covered : ∀ height, ComparedUpTo (storeActions trace) height ↔
      ¬Uncovered (storeActions trace) height := fun height =>
    not_iff_not.mp (by rw [not_comparedUpTo_iff (runs_grow run),not_not])
  rcases outcome with _ | error | value
  · simp [classifyRun,runStamp,isSlowProgress,DriverState.committedChunkStamp,StampCovered]
  · simp only [classifyRun,runStamp_faulted_iff,StampCovered,covered]
    constructor
    · intro sound retry checked frontier reached advanced
      exact sound ⟨frontier, nowMs⟩ ⟨retry, checked, advanced, reached, rfl⟩
    · rintro holds observation ⟨retry, checked, advanced, reached, -⟩
      exact holds retry checked _ reached advanced
  · simp only [classifyRun,runStamp_completed_iff,StampCovered]
    constructor
    · intro sound empty standing
      exact (covered _).mp (sound _ ⟨fun _ => standing, rfl⟩)
    · rintro holds _ ⟨standing, rfl⟩
      by_cases empty : value.blockCount = 0
      · exact (covered _).mpr (holds empty (standing empty))
      · obtain ⟨earlier, compared⟩ := completed_compares run empty
        rw [compared]
        exact comparedUpTo_of_checked earlier _

theorem scanned_run_stamps_compared :
    runStamp .initial 6 .empty (.at 1) (classifyRun sampleOptions (some (.ok ⟨1, 1, 1, 5⟩))) =
      some ⟨1, 5⟩ ∧ ComparedUpTo (storeActions scannedTrace) 1 := by
  have stamped : runStamp .initial 6 .empty (.at 1) (classifyRun sampleOptions
      (some (.ok ⟨1, 1, 1, 5⟩))) = some ⟨1, 5⟩ := rfl
  have sound := (stamp_compared_iff sampleOptions .initial 6 .empty (.at 1)
    scannedTrace_runs).mpr fun empty => absurd empty (by decide)
  exact ⟨stamped, sound _ stamped⟩

/-- The first attempt committed block one without comparing it, and the error of the
second attempt says nothing about that. -/
theorem retried_run_stamps_uncompared :
    Runs (scanCall sampleSyncWallet 0 .stale).run retriedTrace
      (some (.error (.chainSource (.unavailable "connection refused")))) ∧
    runStamp .initial 9 .empty (.at 1) (classifyRun sampleOptions
      (some (.error (.chainSource (.unavailable "connection refused"))))) = some ⟨1, 9⟩ ∧
    ¬ComparedUpTo (storeActions retriedTrace) 1 := by
  refine ⟨retriedTrace_runs, rfl, fun compared => compared 1 le_rfl ?_⟩
  change (1 : Nat) ∈ (∅ ∪ Set.Icc 1 1 : Set Nat)
  simp

/-! Every run of the driver. -/

/-- The store actions of the calls recorded in an event. -/
def eventActions : DriverEvent → List (Action BlockHeight)
  | .repaired trace _ | .runEnded trace _ _ => storeActions trace
  | _ => []

def storeHistory (inputs : List DriverInput) : List (Action BlockHeight) :=
  inputs.flatMap fun input => eventActions input.event

theorem iterate_observation (options : SyncDriverOptions) (nowMs : Nat) (driver : Driver)
    (chainTip : ChainTipRecord) (left : Nat) :
    (driver.iterate options nowMs chainTip left).state.lastObservation =
      driver.state.lastObservation := by
  rcases driver.iterate_cases options nowMs chainTip left with ⟨-, equal⟩ | ⟨_, -, -, equal⟩ |
    ⟨_, -, -, -, equal⟩ | ⟨_, _, -, -, -, -, equal⟩ <;> rw [equal] <;> rfl

theorem loopTurn_observation (options : SyncDriverOptions) (nowMs : Nat) (driver : Driver) :
    (driver.loopTurn options nowMs).state.lastObservation = driver.state.lastObservation := by
  unfold Driver.loopTurn
  split
  · exact iterate_observation ..
  · rfl

theorem openChainEvents_observation (options : SyncDriverOptions) (nowMs : Nat) (driver : Driver)
    (answer : Except ChainSourceError Unit) :
    (driver.openChainEvents options nowMs answer).state.lastObservation =
      driver.state.lastObservation := by
  unfold Driver.openChainEvents
  split
  · split <;> rfl
  · split <;> rfl

theorem handlePollTick_observation (options : SyncDriverOptions) (nowMs : Nat) (driver : Driver)
    (reopened : Except ChainSourceError Unit) :
    (driver.handlePollTick options nowMs reopened).state.lastObservation =
      driver.state.lastObservation := by
  unfold Driver.handlePollTick
  split
  · split <;> rfl
  · simp only []
    split
    · exact openChainEvents_observation ..
    · rfl

theorem handleChainEvent_observation (options : SyncDriverOptions) (nowMs : Nat) (driver : Driver)
    (item : Option (Except ChainSourceError ChainEventCursor)) :
    (driver.handleChainEvent options nowMs item).state.lastObservation =
      driver.state.lastObservation := by
  unfold Driver.handleChainEvent
  split
  · rfl
  · split
    · rfl
    · split <;> rfl
  · rfl

theorem settleRecovery_observation (state : DriverState) (scannedTo : Option BlockHeight) :
    (state.settleRecovery scannedTo).1.lastObservation = state.lastObservation := by
  unfold DriverState.settleRecovery
  split
  · rfl
  · split <;> rfl

theorem settleRecovery_hasChecked (state : DriverState) (scannedTo : Option BlockHeight)
    (height : BlockHeight) :
    (state.settleRecovery scannedTo).1.hasChecked height = state.hasChecked height := by
  simp only [DriverState.hasChecked,settleRecovery_observation]

theorem stamp_observation (state : DriverState) (observation : Option SyncObservation) :
    (state.stamp observation).lastObservation = observation.or state.lastObservation := by
  cases observation <;> rfl

/-- The end of a run records its stamp and changes the observation in no other way. -/
theorem settleRun_observation (options : SyncDriverOptions) (nowMs : Nat) (driver : Driver)
    (left : Nat) (chainTip : ChainTipRecord) (before after : ScanFrontier)
    (attempt : SyncRunAttempt) :
    (driver.settleRun options nowMs left chainTip before after attempt).state.lastObservation =
      (runStamp driver.state nowMs before after attempt).or driver.state.lastObservation := by
  cases attempt with
  | completed outcome =>
    have stamped : (driver.state.completeSync outcome (chainTip = .stale)).1.lastObservation =
        (driver.state.completedRunStamp outcome).or driver.state.lastObservation := by
      simp only [DriverState.completeSync,DriverState.observeCompletedRun,stamp_observation,
        DriverState.completedRunStamp,settleRecovery_hasChecked,settleRecovery_observation]
    simp only [Driver.settleRun]
    split
    · rw [iterate_observation]
      exact stamped
    · exact stamped
  | faulted fault committed =>
    simp only [Driver.settleRun,iterate_observation,runStamp]
    split
    · simp only [DriverState.noteSlowProgress,settleRecovery_observation,
        DriverState.observeCommittedChunk,stamp_observation]
    · rfl

/-- Every block up to the observation's height was compared after its last commit. -/
def ObservationCompared (state : DriverState) (past : List (Action BlockHeight)) : Prop :=
  ∀ observation, state.lastObservation = some observation →
    ComparedUpTo past observation.scannedToHeight

/-- The end of a run that records the frontier of an excused fault. -/
def Excused (before after : ScanFrontier) (fault : ClassifiedFault) (committed : CommittedChunk) :
    Prop :=
  fault.repair = .retry ∧ committed = .checked ∧ 0 < heightDelta before after

instance : Decidable (Excused before after fault committed) :=
  inferInstanceAs (Decidable (_ ∧ _))

/-- No chunk a run leaves uncompared reaches down to the observation that stands after
it, and an excused fault records only a frontier whose blocks are all compared. -/
def RunCovered (state : DriverState) (past : List (Action BlockHeight))
    (before after : ScanFrontier) (trace : List SyncEvent) : SyncRunAttempt → Prop
  | .completed outcome => outcome.blockCount = 0 →
    ∀ standing, state.lastObservation = some standing →
      ¬Uncovered (storeActions trace) (min outcome.scannedToHeight standing.scannedToHeight)
  | .faulted fault committed =>
    if Excused before after fault committed then
      ∀ frontier, after = .at frontier → ComparedUpTo (past ++ storeActions trace) frontier
    else ∀ standing, state.lastObservation = some standing →
      ¬Uncovered (storeActions trace) standing.scannedToHeight

/-- The condition on one step of the driver; only the end of a run has one. -/
def StepCovered (options : SyncDriverOptions) (driver : Driver)
    (past : List (Action BlockHeight)) (event : DriverEvent) : Prop :=
  match driver.position, event with
  | .running _ _ before, .runEnded trace outcome statusAfter =>
    RunCovered driver.state past before (scanFrontier statusAfter) trace
      (classifyRun options outcome)
  | _, _ => True

/-- A run after a compared history keeps it compared exactly when it leaves no chunk
uncovered. -/
theorem comparedUpTo_append_iff (standing : ComparedUpTo past height)
    (grows : ∀ action ∈ actions, Grows action) :
    ComparedUpTo (past ++ actions) height ↔ ¬Uncovered actions height := by
  rw [← not_comparedUpTo_iff grows,not_not]
  constructor
  · intro compared block below member
    apply compared block below
    rw [unchecked_append]
    exact unchecked_empty_subset _ _ member
  · intro compared block below member
    rw [unchecked_append] at member
    rcases unchecked_subset _ _ member with pending | left
    · exact standing block below pending
    · exact compared block below left

theorem runStamp_none_of_not_excused (other : ¬Excused before after fault committed) :
    runStamp state nowMs before after (.faulted fault committed) = none := by
  by_contra stamped
  obtain ⟨observation, equal⟩ := Option.ne_none_iff_exists'.mp stamped
  obtain ⟨retry, checked, advanced, -⟩ := runStamp_faulted_iff.mp equal
  exact other ⟨retry, checked, advanced⟩

/-- A frontier that advanced was read. -/
theorem frontier_of_excused (excused : Excused before after fault committed) :
    ∃ frontier, after = .at frontier := by
  cases after with
  | «at» frontier => exact ⟨frontier, rfl⟩
  | empty => cases before <;> simp [Excused,heightDelta,ScanFrontier.reached] at excused
  | unknown => cases before <;> simp [Excused,heightDelta,ScanFrontier.reached] at excused

theorem comparedUpTo_mono (compared : ComparedUpTo past height) (below : lower ≤ height) :
    ComparedUpTo past lower := fun block bound => compared block (bound.trans below)

theorem hasChecked_iff : DriverState.hasChecked state height = true ↔
    ∃ observation, state.lastObservation = some observation ∧
      height ≤ observation.scannedToHeight := by
  cases found : state.lastObservation <;> simp [DriverState.hasChecked,found]

section Stamped

variable {state : DriverState} {trace : List SyncEvent}

/-- An observation that stands covers what a run committed when nothing below it is left. -/
theorem kept_compared_iff (standing : ObservationCompared state past)
    (grows : ∀ action ∈ storeActions trace, Grows action) :
    (∀ observation, state.lastObservation = some observation →
      ComparedUpTo (past ++ storeActions trace) observation.scannedToHeight) ↔
    ∀ observation, state.lastObservation = some observation →
      ¬Uncovered (storeActions trace) observation.scannedToHeight :=
  forall₂_congr fun observation found => comparedUpTo_append_iff (standing observation found) grows

theorem faulted_compared_iff (standing : ObservationCompared state past)
    (grows : ∀ action ∈ storeActions trace, Grows action) :
    (∀ observation, (runStamp state nowMs before after (.faulted fault committed)).or
        state.lastObservation = some observation →
      ComparedUpTo (past ++ storeActions trace) observation.scannedToHeight) ↔
    RunCovered state past before after trace (.faulted fault committed) := by
  by_cases excused : Excused before after fault committed
  · obtain ⟨frontier, rfl⟩ := frontier_of_excused excused
    have stamped : runStamp state nowMs before (.at frontier)
        (.faulted fault committed) = some ⟨frontier, nowMs⟩ :=
      runStamp_faulted_iff.mpr ⟨excused.1, excused.2.1, excused.2.2, rfl, rfl⟩
    simp [stamped,RunCovered,excused]
  · rw [runStamp_none_of_not_excused excused]
    simpa [RunCovered,excused] using kept_compared_iff standing grows

/-- A run without a block stamps no higher than the observation that stands. -/
theorem empty_compared_iff (standing : ObservationCompared state past)
    (grows : ∀ action ∈ storeActions trace, Grows action) {value : SyncOutcome}
    (empty : value.blockCount = 0) :
    (∀ observation, (runStamp state nowMs before after (.completed value)).or
        state.lastObservation = some observation →
      ComparedUpTo (past ++ storeActions trace) observation.scannedToHeight) ↔
    RunCovered state past before after trace (.completed value) := by
  by_cases checked : state.hasChecked value.scannedToHeight = true
  · have stamped : runStamp state nowMs before after (.completed value) =
        some ⟨value.scannedToHeight, value.completedAtMs⟩ :=
      runStamp_completed_iff.mpr ⟨fun _ => checked, rfl⟩
    obtain ⟨observation, found, above⟩ := hasChecked_iff.mp checked
    have covered := comparedUpTo_append_iff
      (comparedUpTo_mono (standing observation found) above) grows
    simp [stamped,RunCovered,empty,found,min_eq_left above,covered]
  · have unstamped : runStamp state nowMs before after (.completed value) = none := by
      by_contra stamped
      obtain ⟨observation, equal⟩ := Option.ne_none_iff_exists'.mp stamped
      exact checked ((runStamp_completed_iff.mp equal).1 empty)
    have above : ∀ observation, state.lastObservation = some observation →
        observation.scannedToHeight ≤ value.scannedToHeight := by
      intro observation found
      by_contra above
      exact checked (hasChecked_iff.mpr ⟨observation, found, Nat.le_of_not_le above⟩)
    simp only [unstamped,Option.none_or,RunCovered,empty,true_implies]
    refine (kept_compared_iff standing grows).trans (forall₂_congr fun observation found => ?_)
    rw [min_eq_right (above observation found)]

end Stamped

/-- One run: the observation after it covers only compared blocks exactly when the run is
covered. -/
theorem run_compared_iff (options : SyncDriverOptions) (driver : Driver) (nowMs : Nat)
    (left : Nat) (before after : ScanFrontier)
    (standing : ObservationCompared driver.state past)
    (run : Runs (scanCall wallet turns chainTip).run trace outcome) :
    ObservationCompared (driver.settleRun options nowMs left chainTip before after
      (classifyRun options outcome)).state (past ++ storeActions trace) ↔
    RunCovered driver.state past before after trace (classifyRun options outcome) := by
  have grows := runs_grow run
  simp only [ObservationCompared,settleRun_observation]
  rcases outcome with _ | error | value
  · exact faulted_compared_iff standing grows
  · exact faulted_compared_iff standing grows
  by_cases empty : value.blockCount = 0
  · exact empty_compared_iff standing grows empty
  · have stamped : runStamp driver.state nowMs before after (.completed value) =
        some ⟨value.scannedToHeight, value.completedAtMs⟩ :=
      runStamp_completed_iff.mpr ⟨fun none => absurd none empty, rfl⟩
    obtain ⟨earlier, compared⟩ := completed_compares run empty
    have covered := comparedUpTo_of_checked (past ++ earlier) value.scannedToHeight
    rw [List.append_assoc,← compared] at covered
    simp [classifyRun,stamped,RunCovered,empty,covered]

/-- The calls of a repair. -/
def Repairs : SyncCommand → Prop
  | .fullyScannedHeight | .findChainTips | .currentEpoch | .treeStateAt _ _
  | .truncateToChainState _ | .publishEvents _ | .accountBirthday | .unsealSeed
  | .recreateWithAccount _ _ => True
  | _ => False

theorem within_repair_chainStateAt (epoch : ChainEpoch) (height : BlockHeight) :
    (chainStateAt epoch height).run.Within Repairs := by
  apply Fallible.within_bind
  · exact Fallible.within_call ⟨trivial, fun _ => trivial⟩
  · intro treeState
    split <;> trivial

theorem within_applyRepair (recovery : RecoveryState) :
    (applyRepair recovery).run.Within Repairs := by
  have read : ∀ {ε α : Type} {lift : ε → WalletError} {program : SyncProgram (Except ε α)},
      program.Within Repairs → (Fallible.call lift program).run.Within Repairs :=
    fun within => Fallible.within_call within
  have rewind : ∀ height, (rewindToHeight height).run.Within Repairs := fun height =>
    Fallible.within_bind (read ⟨trivial, fun _ => trivial⟩) fun epoch =>
      Fallible.within_bind (within_repair_chainStateAt epoch height) fun _ =>
        Fallible.within_bind (read ⟨trivial, fun _ => trivial⟩) fun _ =>
          Fallible.within_lift ⟨trivial, fun _ => trivial⟩
  have reset : resetToBirthday.run.Within Repairs :=
    Fallible.within_bind (read ⟨trivial, fun _ => trivial⟩) fun _ =>
      Fallible.within_bind (read ⟨trivial, fun _ => trivial⟩) fun _ =>
        Fallible.within_bind (read ⟨trivial, fun _ => trivial⟩) fun epoch =>
          Fallible.within_bind (within_repair_chainStateAt epoch _) fun _ =>
            Fallible.within_bind (read ⟨trivial, fun _ => trivial⟩) fun _ =>
              Fallible.within_lift ⟨trivial, fun _ => trivial⟩
  have status : statusSnapshot.run.Within Repairs :=
    Fallible.within_bind (read ⟨trivial, fun _ => trivial⟩) fun _ =>
      Fallible.within_bind (read ⟨trivial, fun _ => trivial⟩) fun _ => trivial
  unfold applyRepair
  split
  · trivial
  · trivial
  · apply Fallible.within_bind status
    intro wallet
    split
    · exact rewind _
    · trivial
  · exact reset

/-- A repair writes no block. -/
theorem repair_not_writes (run : Runs (applyRepair recovery).run trace outcome) :
    ∀ action ∈ storeActions trace, ∀ block, ¬Writes block action := by
  intro action member block writes
  obtain ⟨⟨command, answer⟩, among, acts⟩ := List.mem_filterMap.mp member
  have repairs := run.within (within_applyRepair recovery) _ among
  cases command
  case truncateToChainState => cases answer <;> simp [storeAction] at acts; simp [← acts,Writes] at writes
  case recreateWithAccount => cases answer <;> simp [storeAction] at acts; simp [← acts,Writes] at writes
  all_goals first | exact repairs.elim | simp [storeAction] at acts

theorem comparedUpTo_of_not_writes (compared : ComparedUpTo past height)
    (silent : ∀ action ∈ actions, ∀ block, ¬Writes block action) :
    ComparedUpTo (past ++ actions) height := by
  intro block below member
  rw [unchecked_append] at member
  exact compared block below (unchecked_subset_of_not_writes silent _ member)

/-- One step of the driver keeps the observation on compared blocks exactly when the
step is covered. -/
theorem step_compared_iff (standing : ObservationCompared driver.state past)
    (step : Driver.Step wallet options driver input next) :
    ObservationCompared next.state (past ++ eventActions input.event) ↔
      StepCovered options driver past input.event := by
  obtain ⟨answers, moved⟩ := step
  have moves := Driver.moves_of_next moved
  rcases input with ⟨nowMs, event⟩
  simp only [] at moves answers ⊢
  have still : ∀ {final : Driver}, final.state.lastObservation = driver.state.lastObservation →
      ObservationCompared final.state (past ++ []) := by
    intro final same
    rw [List.append_nil]
    exact fun observation found => standing observation (same ▸ found)
  cases moves with
  | opened waiting =>
    simp only [StepCovered,waiting,eventActions,iff_true]
    exact still ((loopTurn_observation ..).trans (openChainEvents_observation ..))
  | closed =>
    apply iff_of_true (still rfl)
    unfold StepCovered
    cases driver.position <;> trivial
  | ticked waiting =>
    simp only [StepCovered,waiting,eventActions,iff_true]
    exact still ((loopTurn_observation ..).trans (handlePollTick_observation ..))
  | notified waiting stream =>
    simp only [StepCovered,waiting,eventActions,iff_true]
    exact still ((loopTurn_observation ..).trans (handleChainEvent_observation ..))
  | @repaired left trace result waiting =>
    simp only [Driver.Answers,waiting] at answers
    obtain ⟨recovery, -, run⟩ := answers
    simp only [StepCovered,waiting,eventActions,iff_true]
    have same : (driver.settleRepair options nowMs left result).state.lastObservation =
        driver.state.lastObservation := by
      cases result with
      | ok value => rfl
      | error error => exact iterate_observation ..
    intro observation found
    exact comparedUpTo_of_not_writes (standing observation (same ▸ found)) (repair_not_writes run)
  | read waiting =>
    simp only [StepCovered,waiting,eventActions,iff_true]
    exact still rfl
  | ran waiting =>
    simp only [Driver.Answers,waiting] at answers
    obtain ⟨turns, run⟩ := answers
    simp only [StepCovered,waiting,eventActions]
    exact run_compared_iff options driver nowMs _ _ _ standing run

theorem storeHistory_concat (inputs : List DriverInput) (input : DriverInput) :
    storeHistory (inputs ++ [input]) = storeHistory inputs ++ eventActions input.event := by
  simp [storeHistory]

/-- The condition on a run of the driver: every step of it is covered. -/
def RunsCovered (wallet : SyncWallet) (options : SyncDriverOptions) (inputs : List DriverInput) :
    Prop :=
  ∀ before input after driver, inputs = before ++ input :: after →
    Path (Driver.Step wallet options) .initial before driver →
    StepCovered options driver (storeHistory before) input.event

/-- In a covered run the observation covers only compared blocks wherever the run has got to. -/
theorem compared_of_covered (covered : RunsCovered wallet options inputs)
    (split : inputs = before ++ after)
    (reached : Path (Driver.Step wallet options) .initial before driver) :
    ObservationCompared driver.state (storeHistory before) := by
  induction before using List.reverseRecOn generalizing after driver with
  | nil =>
    cases reached
    exact nofun
  | append_singleton before input ih =>
    obtain ⟨previous, toPrevious, lastStep⟩ := Path.concat_iff.mp reached
    have decomposed : inputs = before ++ input :: after := by simpa using split
    rw [storeHistory_concat]
    exact (step_compared_iff (ih decomposed toPrevious) lastStep).mpr
      (covered before input after _ decomposed toPrevious)

/-- A covered run's observation is re-dated by a run without a block only at a height up to which
every block is compared; where no observation reaches that height, the observation stays. -/
theorem redated_compared (covered : RunsCovered wallet options inputs)
    (split : inputs = before ++ ⟨nowMs, .runEnded trace (some (.ok outcome)) statusAfter⟩ :: after)
    (reached : Path (Driver.Step wallet options) .initial before driver)
    (step : Driver.Step wallet options driver
      ⟨nowMs, .runEnded trace (some (.ok outcome)) statusAfter⟩ next)
    (empty : outcome.blockCount = 0) :
    (driver.state.hasChecked outcome.scannedToHeight = false ∧
      next.state.lastObservation = driver.state.lastObservation) ∨
    next.state.lastObservation = some ⟨outcome.scannedToHeight, outcome.completedAtMs⟩ ∧
      ComparedUpTo
        (storeHistory (before ++ [⟨nowMs, .runEnded trace (some (.ok outcome)) statusAfter⟩]))
        outcome.scannedToHeight := by
  have stamped : next.state.lastObservation =
      (driver.state.completedRunStamp outcome).or driver.state.lastObservation := by
    cases Driver.moves_of_next step.2 with
    | ran => exact settleRun_observation options nowMs driver _ _ _ _ (.completed outcome)
  cases checked : driver.state.hasChecked outcome.scannedToHeight with
  | false =>
    refine .inl ⟨rfl, ?_⟩
    rw [stamped,DriverState.completedRunStamp,if_pos ⟨empty, checked⟩]
    rfl
  | true =>
    have redated : next.state.lastObservation =
        some ⟨outcome.scannedToHeight, outcome.completedAtMs⟩ := by
      rw [stamped,DriverState.completedRunStamp,if_neg fun both => by simp [checked] at both]
      rfl
    have compared := compared_of_covered covered (split.trans (List.append_cons ..))
      (Path.concat_iff.mpr ⟨driver, reached, step⟩)
    exact .inr ⟨redated, compared _ redated⟩

/-- In a run of the driver, the observation covers only compared blocks after every step,
whether it was just recorded, re-dated or left standing across a repair, exactly when
every step is covered. -/
theorem observation_compared_iff
    (path : Path (Driver.Step wallet options) .initial inputs final) :
    (∀ before input after driver next, inputs = before ++ input :: after →
      Path (Driver.Step wallet options) .initial before driver →
      Driver.Step wallet options driver input next →
      ObservationCompared next.state (storeHistory (before ++ [input]))) ↔
    ∀ before input after driver, inputs = before ++ input :: after →
      Path (Driver.Step wallet options) .initial before driver →
      StepCovered options driver (storeHistory before) input.event := by
  have start : ObservationCompared Driver.initial.state (storeHistory []) := nofun
  constructor
  · rintro compared before input after driver rfl reached
    obtain ⟨next, step⟩ := path.step_of_append (Driver.step_deterministic wallet options) reached
    have standing : ObservationCompared driver.state (storeHistory before) := by
      rcases List.eq_nil_or_concat' before with rfl | ⟨earlier, last, rfl⟩
      · cases reached
        exact start
      · obtain ⟨previous, toPrevious, lastStep⟩ := Path.concat_iff.mp reached
        exact compared earlier last (input :: after) previous _ (by simp) toPrevious lastStep
    apply (step_compared_iff standing step).mp
    rw [← storeHistory_concat]
    exact compared before input after driver next rfl reached step
  · intro covered before input after driver next split reached step
    exact compared_of_covered covered (split.trans (List.append_cons ..))
      (Path.concat_iff.mpr ⟨driver, reached, step⟩)

def sampleStatus (scannedHeight : Option BlockHeight) : Except WalletError WalletStatus :=
  .ok ⟨scannedHeight, some 1, some 1⟩

/-- A wakeup that scans block one and compares it. -/
def scannedInputs : List DriverInput :=
  [⟨0, .opened (.ok ())⟩, ⟨1, .statusRead (.ok ⟨none, none, none⟩)⟩,
    ⟨6, .runEnded scannedTrace (some (.ok ⟨1, 1, 1, 5⟩)) (sampleStatus (some 1))⟩]

def caughtUpTrace : List SyncEvent :=
  [⟨.allowCall, true⟩, ⟨.currentEpoch, .ok (sampleEpoch 1)⟩, ⟨.suggestScanRanges, .ok []⟩,
    ⟨.fullyScannedHeight, .ok (some 1)⟩, ⟨.publishEvents [.scanProgress 1 1], ()⟩,
    ⟨.currentUnixMs, 9⟩] ++ settleTrace 9

theorem caughtUpTrace_runs : Runs (scanCall sampleSyncWallet 0 .current).run caughtUpTrace
    (some (.ok ⟨1, 1, 0, 9⟩)) := by
  repeat' apply Runs.await
  exact Runs.done

/-- The wakeup after it has nothing to scan and re-dates the observation. -/
def redatedInputs : List DriverInput := scannedInputs ++
  [⟨7, .statusRead (sampleStatus (some 1))⟩,
    ⟨8, .runEnded caughtUpTrace (some (.ok ⟨1, 1, 0, 9⟩)) (sampleStatus (some 1))⟩]

theorem redatedInputs_path : ∃ driver,
    Path (Driver.Step sampleSyncWallet sampleOptions) .initial redatedInputs driver ∧
      driver.state.lastObservation = some ⟨1, 9⟩ :=
  ⟨_, .cons ⟨trivial, rfl⟩ (.cons ⟨trivial, rfl⟩ (.cons ⟨⟨0, scannedTrace_runs⟩, rfl⟩
    (.cons ⟨trivial, rfl⟩ (.cons ⟨⟨0, caughtUpTrace_runs⟩, rfl⟩ .nil)))), rfl⟩

theorem scanned_wakeup_covered_iff : ∃ driver,
    Path (Driver.Step sampleSyncWallet sampleOptions) .initial redatedInputs driver ∧
    driver.state.lastObservation = some ⟨1, 9⟩ ∧ ComparedUpTo (storeHistory redatedInputs) 1 ∧
    ((∀ before input after driver next, redatedInputs = before ++ input :: after →
      Path (Driver.Step sampleSyncWallet sampleOptions) .initial before driver →
      Driver.Step sampleSyncWallet sampleOptions driver input next →
      ObservationCompared next.state (storeHistory (before ++ [input]))) ↔
    ∀ before input after driver, redatedInputs = before ++ input :: after →
      Path (Driver.Step sampleSyncWallet sampleOptions) .initial before driver →
      StepCovered sampleOptions driver (storeHistory before) input.event) := by
  obtain ⟨driver, path, redated⟩ := redatedInputs_path
  have compared : ComparedUpTo (storeHistory redatedInputs) 1 := by
    intro block below member
    change block ∈ ((∅ ∪ Set.Icc 1 1) \ Set.Iic 1 : Set Nat) at member
    exact member.2 below
  exact ⟨driver, path, redated, compared, observation_compared_iff path⟩

/-- The next run fails on the store, and its fault asks for a rewind. -/
def divergedTrace : List SyncEvent :=
  [⟨.allowCall, true⟩, ⟨.currentEpoch, .ok (sampleEpoch 1)⟩,
    ⟨.suggestScanRanges, .error (.sqliteFailed "suggest_scan_ranges failed" .notRetryable)⟩]

def rewindTrace : List SyncEvent :=
  [⟨.fullyScannedHeight, .ok (some 1)⟩, ⟨.findChainTips, .ok (some (1, 1))⟩,
    ⟨.currentEpoch, .ok (sampleEpoch 1)⟩,
    ⟨.treeStateAt (sampleEpoch 1) 0, .ok (sampleTreeState 0)⟩,
    ⟨.truncateToChainState (sampleTreeState 0), .ok ()⟩,
    ⟨.publishEvents [.reorgDetected 0 0], ()⟩]

/-- The deadline cuts the run right after it committed block one again. -/
def cutTrace : List SyncEvent := ⟨.allowCall, true⟩ :: tipTrace 1 ++ commitTrace

theorem divergedTrace_runs : Runs (scanCall sampleSyncWallet 0 .current).run divergedTrace
    (some (.error (.storage (.sqliteFailed "suggest_scan_ranges failed" .notRetryable)))) := by
  repeat' apply Runs.await
  exact Runs.done

theorem rewindTrace_runs (recovery : RecoveryState) (rung : recovery.rung = .rewind)
    (depth : recovery.rewindDepthIndex = 0) :
    Runs (applyRepair recovery).run rewindTrace (some (.ok ())) := by
  unfold applyRepair
  rw [rung,depth]
  repeat' apply Runs.await
  exact Runs.done

theorem cutTrace_runs : Runs (scanCall sampleSyncWallet 0 .stale).run cutTrace none := by
  iterate 11 apply Runs.await
  exact Runs.cut

/-- Block one is rewound and committed again without a comparison. -/
def rewoundInputs : List DriverInput := scannedInputs ++
  [⟨7, .statusRead (sampleStatus (some 1))⟩,
    ⟨8, .runEnded divergedTrace
      (some (.error (.storage (.sqliteFailed "suggest_scan_ranges failed" .notRetryable))))
      (sampleStatus (some 1))⟩,
    ⟨9, .repaired rewindTrace (.ok ())⟩, ⟨10, .statusRead (sampleStatus (some 0))⟩,
    ⟨11, .runEnded cutTrace none (sampleStatus (some 1))⟩,
    ⟨12, .statusRead (sampleStatus (some 1))⟩]

def refreshInput : DriverInput :=
  ⟨13, .runEnded caughtUpTrace (some (.ok ⟨1, 1, 0, 9⟩)) (sampleStatus (some 1))⟩

/-- A run that scanned nothing re-dates the observation taken before the rewind. -/
theorem rewound_chunk_is_refreshed : ∃ driver next,
    Path (Driver.Step sampleSyncWallet sampleOptions) .initial rewoundInputs driver ∧
    Driver.Step sampleSyncWallet sampleOptions driver refreshInput next ∧
    next.state.lastObservation = some ⟨1, 9⟩ ∧
    ¬ComparedUpTo (storeHistory (rewoundInputs ++ [refreshInput])) 1 := by
  refine ⟨_, _, .cons ⟨trivial, rfl⟩ (.cons ⟨trivial, rfl⟩
    (.cons ⟨⟨0, scannedTrace_runs⟩, rfl⟩ (.cons ⟨trivial, rfl⟩
    (.cons ⟨⟨0, divergedTrace_runs⟩, rfl⟩ (.cons ⟨⟨_, rfl, rewindTrace_runs _ rfl rfl⟩, rfl⟩
    (.cons ⟨trivial, rfl⟩ (.cons ⟨⟨0, cutTrace_runs⟩, rfl⟩ (.cons ⟨trivial, rfl⟩ .nil)))))))),
    ⟨⟨0, caughtUpTrace_runs⟩, rfl⟩, rfl, fun compared => compared 1 le_rfl ?_⟩
  change (1 : Nat) ∈ ((((∅ ∪ Set.Icc 1 1) \ Set.Iic 1) ∩ Set.Iic 0) ∪ Set.Icc 1 1 : Set Nat)
  simp

end Zally.Sync
