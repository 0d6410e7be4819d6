import Zally.Wallet.Ladder

/-! The ladder climbs, stays in bounds and parks after a bounded number of faults. -/
namespace Zally.Sync

open Async Async.Program

/-- What one classified fault does to the ladder. -/
inductive Climbs (policy : SyncRecoveryPolicy) (classified : SyncRepair)
    (before after : RecoveryState) : Prop where
  | raised (higher : before.rung < classified) (rung : after.rung = classified)
      (depth : after.rewindDepthIndex =
        if classified = .rewind then 0 else before.rewindDepthIndex)
      (attempts : after.attemptsAtRung = 0)
  | deepened (at_rewind : before.rung = .rewind)
      (spent : policy.escalateAfterFaults.toNat ≤ before.attemptsAtRung)
      (more : before.rewindDepthIndex + 1 < rewindLadderBlocks.length)
      (rung : after.rung = .rewind)
      (depth : after.rewindDepthIndex = before.rewindDepthIndex + 1)
      (attempts : after.attemptsAtRung = 0)
  | rebuilt (at_rewind : before.rung = .rewind)
      (spent : policy.escalateAfterFaults.toNat ≤ before.attemptsAtRung)
      (deepest : rewindLadderBlocks.length ≤ before.rewindDepthIndex + 1)
      (rung : after.rung = .rescanFromBirthday)
      (depth : after.rewindDepthIndex = before.rewindDepthIndex)
      (attempts : after.attemptsAtRung = 0)
  | parked (at_rescan : before.rung = .rescanFromBirthday)
      (spent : policy.maxRescanAttempts.toNat ≤ before.attemptsAtRung)
      (rung : after.rung = .park) (depth : after.rewindDepthIndex = before.rewindDepthIndex)
  | held (at_park : before.rung = .park) (rung : after.rung = .park)
      (depth : after.rewindDepthIndex = before.rewindDepthIndex)
  | kept (below : ¬before.rung < classified) (rung : after.rung = before.rung)
      (left : ∀ threshold, escalationThreshold before.rung policy = some threshold →
        before.attemptsAtRung < threshold)
      (depth : after.rewindDepthIndex = before.rewindDepthIndex)
      (attempts : after.attemptsAtRung = before.attemptsAtRung)

theorem foldFault_climbs (recovery : RecoveryState) (classified : SyncRepair)
    (policy : SyncRecoveryPolicy) :
    Climbs policy classified recovery (recovery.foldFault classified policy).1 := by
  by_cases higher : recovery.rung < classified
  · apply Climbs.raised higher <;> simp [RecoveryState.foldFault,RecoveryState.climb,higher]
  by_cases spent : recovery.exhausted policy = true
  · have folded : (recovery.foldFault classified policy).1 =
        { recovery.escalate with
          consecutiveFaults := saturatingAddU32 recovery.escalate.consecutiveFaults 1
          backoffMs := backoffFor policy (saturatingAddU32 recovery.escalate.consecutiveFaults 1) } := by
      simp [RecoveryState.foldFault,RecoveryState.climb,higher,spent]
    rw [folded]
    cases rung : recovery.rung with
    | retry => simp [RecoveryState.exhausted,rung,escalationThreshold] at spent
    | rewind =>
      have attempts : policy.escalateAfterFaults.toNat ≤ recovery.attemptsAtRung := by
        simpa [RecoveryState.exhausted,rung,escalationThreshold] using spent
      by_cases more : recovery.rewindDepthIndex + 1 < rewindLadderBlocks.length
      · apply Climbs.deepened rung attempts more <;> simp [RecoveryState.escalate,rung,more]
      · apply Climbs.rebuilt rung attempts (Nat.le_of_not_lt more) <;>
          simp [RecoveryState.escalate,rung,more]
    | rescanFromBirthday =>
      have attempts : policy.maxRescanAttempts.toNat ≤ recovery.attemptsAtRung := by
        simpa [RecoveryState.exhausted,rung,escalationThreshold] using spent
      apply Climbs.parked rung attempts <;> simp [RecoveryState.escalate,rung]
    | park => apply Climbs.held rung <;> simp [RecoveryState.escalate,rung]
  · apply Climbs.kept higher
    · simp [RecoveryState.foldFault,RecoveryState.climb,higher,spent]
    · intro threshold found
      simpa [RecoveryState.exhausted,found] using spent
    · simp [RecoveryState.foldFault,RecoveryState.climb,higher,spent]
    · simp [RecoveryState.foldFault,RecoveryState.climb,higher,spent]

theorem Climbs.congr (climbs : Climbs policy classified woken after)
    (rung : woken.rung = before.rung) (depth : woken.rewindDepthIndex = before.rewindDepthIndex)
    (attempts : woken.attemptsAtRung = before.attemptsAtRung) :
    Climbs policy classified before after := by
  cases climbs with
  | raised higher reached index reset => exact .raised (rung ▸ higher) reached (depth ▸ index) reset
  | deepened at_rewind spent more reached index reset =>
    exact .deepened (rung ▸ at_rewind) (attempts ▸ spent) (depth ▸ more) reached (depth ▸ index) reset
  | rebuilt at_rewind spent deepest reached index reset =>
    exact .rebuilt (rung ▸ at_rewind) (attempts ▸ spent) (depth ▸ deepest) reached (depth ▸ index) reset
  | parked at_rescan spent reached index =>
    exact .parked (rung ▸ at_rescan) (attempts ▸ spent) reached (depth ▸ index)
  | held at_park reached index => exact .held (rung ▸ at_park) reached (depth ▸ index)
  | kept below same left index count =>
    exact .kept (rung ▸ below) (rung ▸ same) (rung ▸ attempts ▸ left) (depth ▸ index)
      (attempts ▸ count)

theorem afterFault_climbs (recovery : Option RecoveryState) (policy : SyncRecoveryPolicy)
    (nowMs : Nat) (classified : SyncRepair) (height : Option BlockHeight) :
    Climbs policy classified (recovery.getD (.entering classified nowMs))
      (.afterFault recovery policy nowMs classified height) := by
  have climbs := foldFault_climbs ({ recovery.getD (.entering classified nowMs) with
    dormant := false }.raiseFaultHeight height) classified policy
  apply climbs.congr <;> cases height <;> rfl

namespace LadderEvent

/-- The ladder a fault finds: the attempt of a failed repair is counted first. -/
def counting : LadderEvent → RecoveryState → RecoveryState
  | failedRepair _, recovery => recovery.countAttempt
  | _, recovery => recovery

theorem sameRung_counting (event : LadderEvent) (before after : RecoveryState) :
    (event.counting before).SameRung after = before.SameRung after := by
  cases event <;> rfl

theorem climbs_of_fault {event : LadderEvent} (fault : event.fault = some classified)
    (policy : SyncRecoveryPolicy) (nowMs : Nat) (recovery : Option RecoveryState) :
    ∃ after, event.apply policy nowMs recovery = some after ∧ Climbs policy classified
      ((recovery.map event.counting).getD (.entering classified nowMs)) after := by
  cases event with
  | failedRepair repair =>
    cases fault
    exact ⟨_, rfl, afterFault_climbs ..⟩
  | faulted repair height =>
    cases fault
    refine ⟨_, rfl, ?_⟩
    have climbs := afterFault_climbs recovery policy nowMs classified height
    cases recovery <;> exact climbs
  | held | attempted | settled scannedTo | rearmed => cases fault

/-- Without a fault no ladder is entered. -/
theorem apply_none {event : LadderEvent} (calm : event.fault = none) :
    event.apply policy nowMs none = none := by
  cases event with
  | failedRepair repair | faulted repair height => cases calm
  | held | attempted | settled scannedTo | rearmed => rfl

end LadderEvent

/-- What the promises of the ladder count within one episode: the attempts of the repair of
the current rung and depth, and the faults recorded on a state rung. -/
structure Episode where
  attempts : Nat
  faults : Nat
  deriving DecidableEq, Repr

def Episode.advance (episode : Episode) (event : LadderEvent)
    (before after : Option RecoveryState) : Episode :=
  match after with
  | none => ⟨0, 0⟩
  | some recovery =>
    { attempts := if before.any (·.SameRung recovery) then episode.attempts + event.tries else 0
      faults := if event.fault.isSome ∧ recovery.rung ≠ .retry then episode.faults + 1
        else episode.faults }

/-- The faults a policy allows on the state rungs below the last. -/
def faultLimit (policy : SyncRecoveryPolicy) : Nat :=
  rewindLadderBlocks.length * policy.escalateAfterFaults.toNat + policy.maxRescanAttempts.toNat

/-- The faults that fit below the rung and depth of a ladder. -/
def faultsBelow (policy : SyncRecoveryPolicy) (recovery : RecoveryState) : Nat :=
  match recovery.rung with
  | .retry => 0
  | .rewind => recovery.rewindDepthIndex * policy.escalateAfterFaults.toNat
  | .rescanFromBirthday => rewindLadderBlocks.length * policy.escalateAfterFaults.toNat
  | .park => faultLimit policy

/-- An episode leads to its ladder: every fault on a rung but the last was followed by an
attempt of the repair, and the last one is until the repair stops being due. -/
structure LeadsTo (policy : SyncRecoveryPolicy) (episode : Episode) (due : Prop)
    (recovery : RecoveryState) : Prop where
  depth : recovery.rewindDepthIndex < rewindLadderBlocks.length
  attempts : recovery.rung ≠ .park → recovery.attemptsAtRung = min episode.attempts u32Max
  retry : recovery.rung = .retry → episode.faults = 0
  spent : recovery.rung ≠ .park → ∀ threshold,
    escalationThreshold recovery.rung policy = some threshold →
      episode.faults ≤ faultsBelow policy recovery + threshold
  owed : recovery.rung ≠ .park →
    episode.faults ≤ faultsBelow policy recovery + episode.attempts + 1
  paid : recovery.rung ≠ .park → ¬due →
    episode.faults ≤ faultsBelow policy recovery + episode.attempts

theorem threshold_le {policy : SyncRecoveryPolicy}
    (found : escalationThreshold rung policy = some threshold) : threshold ≤ u32Max := by
  have escalate := policy.escalateAfterFaults.toNat_lt
  have rescan := policy.maxRescanAttempts.toNat_lt
  cases rung <;> simp [escalationThreshold] at found <;> simp only [u32Max] <;> omega

namespace LeadsTo

variable {policy : SyncRecoveryPolicy} {episode : Episode} {due : Prop}
  {recovery before after : RecoveryState}

theorem entering (policy : SyncRecoveryPolicy) (due : Prop) (classified : SyncRepair)
    (nowMs : Nat) : LeadsTo policy ⟨0, 0⟩ due (.entering classified nowMs) where
  depth := by simp [RecoveryState.entering,rewindLadderBlocks]
  attempts := by simp [RecoveryState.entering]
  retry := by simp
  spent := by simp
  owed := by simp
  paid := by simp

/-- An attempt pays for the last fault. -/
theorem countAttempt (leads : LeadsTo policy episode due recovery) (later : Prop) :
    LeadsTo policy ⟨episode.attempts + 1, episode.faults⟩ later recovery.countAttempt where
  depth := leads.depth
  attempts := by
    intro rung
    have attempts := leads.attempts rung
    simp only [RecoveryState.countAttempt,saturatingAddU32]
    omega
  retry := leads.retry
  spent := leads.spent
  owed := by
    intro rung
    have owed := leads.owed rung
    change _ ≤ faultsBelow policy recovery + _ + 1
    simp only []
    omega
  paid := by
    intro rung _
    have owed := leads.owed rung
    change _ ≤ faultsBelow policy recovery + _
    simp only []
    omega

theorem weaken (leads : LeadsTo policy episode due recovery) (still : due → later) :
    LeadsTo policy episode later recovery :=
  ⟨leads.depth, leads.attempts, leads.retry, leads.spent, leads.owed,
    fun rung settled => leads.paid rung fun was => settled (still was)⟩

/-- A ladder one rung or depth higher, with its counters reset. -/
theorem reset (depth : after.rewindDepthIndex < rewindLadderBlocks.length)
    (moved : before.SameRung after = false) (count : after.attemptsAtRung = 0)
    (state : after.rung ≠ .retry)
    (bound : after.rung ≠ .park → episode.faults ≤ faultsBelow policy after)
    (escalates : 1 ≤ policy.escalateAfterFaults.toNat)
    (rescans : 1 ≤ policy.maxRescanAttempts.toNat) (now : due) :
    LeadsTo policy ⟨if before.SameRung after then episode.attempts else 0,
      if after.rung = .retry then episode.faults else episode.faults + 1⟩ due after where
  depth := depth
  attempts := by simp [moved,count]
  retry := fun rung => absurd rung state
  spent := by
    intro rung threshold found
    have below := bound rung
    have positive : 1 ≤ threshold := by
      cases last : after.rung <;> simp [last,escalationThreshold] at found state rung <;> omega
    simp only [state,if_false]
    omega
  owed := by
    intro rung
    have below := bound rung
    simp only [state,if_false]
    omega
  paid := fun _ passed => absurd now passed

/-- The rewind rung spends no more faults than its depths allow. -/
theorem faults_at_rewind (leads : LeadsTo policy episode due before)
    (rung : before.rung = .rewind) :
    episode.faults ≤ (before.rewindDepthIndex + 1) * policy.escalateAfterFaults.toNat ∧
      episode.faults ≤ rewindLadderBlocks.length * policy.escalateAfterFaults.toNat := by
  have spent := leads.spent (by simp [rung]) _ (by rw [rung]; rfl)
  have deep := leads.depth
  simp only [faultsBelow,rung] at spent
  have within : episode.faults ≤
      (before.rewindDepthIndex + 1) * policy.escalateAfterFaults.toNat := by
    rw [Nat.succ_mul]
    exact spent
  exact ⟨within, within.trans (Nat.mul_le_mul_right _ deep)⟩

theorem faults_at_rescan (leads : LeadsTo policy episode due before)
    (rung : before.rung = .rescanFromBirthday) : episode.faults ≤ faultLimit policy := by
  have spent := leads.spent (by simp [rung]) _ (by rw [rung]; rfl)
  simpa [faultsBelow,rung,faultLimit] using spent

/-- Nothing is counted on the last rung. -/
theorem last (rung : recovery.rung = .park)
    (depth : recovery.rewindDepthIndex < rewindLadderBlocks.length) :
    LeadsTo policy episode due recovery :=
  ⟨depth, fun other => absurd rung other, by simp [rung], fun other => absurd rung other,
    fun other => absurd rung other, fun other => absurd rung other⟩

/-- A higher rung has room for the faults below it. -/
theorem faults_at_higher (leads : LeadsTo policy episode due before)
    (ranked : before.rung.rank < after.rung.rank) (notLast : after.rung ≠ .park) :
    episode.faults ≤ faultsBelow policy after := by
  have moved : before.rung ≠ after.rung := by
    intro same
    simp [same] at ranked
  cases from_rung : before.rung with
  | retry => simp [leads.retry from_rung]
  | rewind =>
    cases into : after.rung with
    | rescanFromBirthday =>
      simpa [faultsBelow,into] using (leads.faults_at_rewind from_rung).2
    | park => exact absurd into notLast
    | retry => simp [into,from_rung,SyncRepair.rank] at ranked
    | rewind => exact absurd (from_rung.trans into.symm) moved
  | rescanFromBirthday =>
    cases into : after.rung with
    | park => exact absurd into notLast
    | retry => simp [into,from_rung,SyncRepair.rank] at ranked
    | rewind => simp [into,from_rung,SyncRepair.rank] at ranked
    | rescanFromBirthday => exact absurd (from_rung.trans into.symm) moved
  | park =>
    cases into : after.rung <;>
      simp [into,from_rung,SyncRepair.rank] at ranked

/-- A fault on the same rung and depth spends one more of its attempts. -/
theorem fault_kept (leads : LeadsTo policy episode False before)
    (rung : after.rung = before.rung)
    (left : ∀ threshold, escalationThreshold before.rung policy = some threshold →
      before.attemptsAtRung < threshold)
    (depth : after.rewindDepthIndex = before.rewindDepthIndex)
    (count : after.attemptsAtRung = before.attemptsAtRung) (now : due) :
    LeadsTo policy ⟨episode.attempts,
      if after.rung = .retry then episode.faults else episode.faults + 1⟩ due after := by
  have bounded := leads.depth
  have room : faultsBelow policy after = faultsBelow policy before := by
    simp [faultsBelow,rung,depth]
  refine ⟨by omega, ?_, ?_, ?_, ?_, fun _ passed => absurd now passed⟩
  · intro other
    simpa [count] using leads.attempts (rung ▸ other)
  · intro last
    simpa [last] using leads.retry (rung ▸ last)
  · intro other threshold found
    have attempts := leads.attempts (rung ▸ other)
    have paid := leads.paid (rung ▸ other) not_false
    have unspent := left threshold (rung ▸ found)
    have bound : threshold ≤ u32Max := threshold_le found
    simp only [room]
    split <;> omega
  · intro other
    have paid := leads.paid (rung ▸ other) not_false
    simp only [room]
    split <;> omega

/-- What a fault leaves behind an episode whose last fault was paid for. -/
theorem fault (leads : LeadsTo policy episode False before)
    (climbs : Climbs policy classified before after)
    (escalates : 1 ≤ policy.escalateAfterFaults.toNat)
    (rescans : 1 ≤ policy.maxRescanAttempts.toNat) (now : due) :
    LeadsTo policy ⟨if before.SameRung after then episode.attempts else 0,
      if after.rung = .retry then episode.faults else episode.faults + 1⟩ due after := by
  have bounded := leads.depth
  cases climbs with
  | raised higher rung depth count =>
    have ranked : before.rung.rank < after.rung.rank := by
      rw [rung]
      exact higher
    have moved : before.rung ≠ after.rung := by
      intro same
      simp [same] at ranked
    apply reset _ (by simp [RecoveryState.SameRung,moved]) count _ _ escalates rescans now
    · rw [depth]
      split <;> simp [rewindLadderBlocks] at bounded ⊢
      omega
    · intro last
      simp [last,SyncRepair.rank] at ranked
    · exact leads.faults_at_higher ranked
  | deepened at_rewind spent more rung depth count =>
    apply reset _ (by simp [RecoveryState.SameRung,depth]) count (by simp [rung]) _ escalates
      rescans now
    · omega
    · intro _
      simpa [faultsBelow,rung,depth] using (leads.faults_at_rewind at_rewind).1
  | rebuilt at_rewind spent deepest rung depth count =>
    apply reset _ (by simp [RecoveryState.SameRung,rung,at_rewind]) count (by simp [rung]) _
      escalates rescans now
    · omega
    · intro _
      simpa [faultsBelow,rung] using (leads.faults_at_rewind at_rewind).2
  | parked at_rescan spent rung depth => exact .last rung (by omega)
  | held at_park rung depth => exact .last rung (by omega)
  | kept below rung left depth count =>
    have same : before.SameRung after = true := by simp [RecoveryState.SameRung,rung,depth]
    rw [if_pos same]
    exact leads.fault_kept rung left depth count now

theorem reparked (leads : LeadsTo policy episode due recovery) (park : Option ParkedAt) :
    LeadsTo policy episode due { recovery with parked := park } :=
  ⟨leads.depth, leads.attempts, leads.retry, leads.spent, leads.owed, leads.paid⟩

end LeadsTo

theorem Climbs.reparked (climbs : Climbs policy classified before after)
    (park : Option ParkedAt) : Climbs policy classified before { after with parked := park } := by
  cases climbs with
  | raised higher rung depth count => exact .raised higher rung depth count
  | deepened at_rewind spent more rung depth count =>
    exact .deepened at_rewind spent more rung depth count
  | rebuilt at_rewind spent deepest rung depth count =>
    exact .rebuilt at_rewind spent deepest rung depth count
  | parked at_rescan spent rung depth => exact .parked at_rescan spent rung depth
  | held at_park rung depth => exact .held at_park rung depth
  | kept below rung left depth count => exact .kept below rung left depth count

/-- The ladder after a step is that of its event, with the time of parking of its own. -/
theorem reparked_of_moves (moves : Driver.Moves options driver input.nowMs input.event next) :
    ∃ park, next.state.recovery = ((ladderEvent options driver input).apply options.recovery
      input.nowMs driver.state.recovery).map fun recovery => { recovery with parked := park } := by
  have same := recovery_of_moves moves
  cases found : next.state.recovery with
  | none =>
    rw [found,Option.map_none] at same
    rw [Option.map_eq_none_iff.mp same.symm]
    exact ⟨none, rfl⟩
  | some recovery =>
    rw [found,Option.map_some] at same
    obtain ⟨moved, applied, equal⟩ := Option.map_eq_some_iff.mp same.symm
    refine ⟨recovery.parked, ?_⟩
    rw [applied,Option.map_some]
    exact congrArg (fun unparked => some { unparked with parked := recovery.parked }) equal.symm

/-- A driver and the counts of its current episode. -/
structure Watched where
  driver : Driver
  episode : Episode

namespace Watched

def initial : Watched := ⟨.initial, ⟨0, 0⟩⟩

def Step (wallet : SyncWallet) (options : SyncDriverOptions) (watched : Watched)
    (input : DriverInput) (final : Watched) : Prop :=
  Driver.Step wallet options watched.driver input final.driver ∧
  final.episode = watched.episode.advance (ladderEvent options watched.driver input)
    watched.driver.state.recovery final.driver.state.recovery

/-- A step that does not end the episode. -/
def StepWithin (wallet : SyncWallet) (options : SyncDriverOptions) (watched : Watched)
    (input : DriverInput) (final : Watched) : Prop :=
  watched.Step wallet options input final ∧ final.driver.state.recovery ≠ none

def Accounted (policy : SyncRecoveryPolicy) (watched : Watched) : Prop :=
  match watched.driver.state.recovery with
  | none => watched.episode = ⟨0, 0⟩
  | some recovery => LeadsTo policy watched.episode watched.driver.RepairDue recovery

end Watched

/-- Without a fault the attempts are counted and nothing else. -/
theorem accounted_of_calm {policy : SyncRecoveryPolicy} {episode : Episode} {due : Prop}
    {event : LadderEvent} {before after : RecoveryState} (calm : event.fault = none)
    (same : before.SameRung after = true)
    (leads : LeadsTo policy ⟨episode.attempts + event.tries, episode.faults⟩ due after) :
    LeadsTo policy (episode.advance event (some before) (some after)) due after := by
  simpa [Episode.advance,calm,same] using leads

theorem advance_fault (episode : Episode) {event : LadderEvent} (before : Option RecoveryState)
    (fault : event.fault = some classified) :
    episode.advance event before (some after) =
      ⟨if before.any (·.SameRung after) then episode.attempts + event.tries else 0,
        if after.rung = .retry then episode.faults else episode.faults + 1⟩ := by
  by_cases retry : after.rung = .retry <;> simp [Episode.advance,fault,retry]

/-- The fault of an event climbs the ladder of an episode whose last fault was paid for. -/
theorem accounted_of_fault {policy : SyncRecoveryPolicy} {episode : Episode} {due : Prop}
    {event : LadderEvent} {before : Option RecoveryState} {woken after : RecoveryState}
    (fault : event.fault = some classified)
    (leads : LeadsTo policy ⟨count, episode.faults⟩ False woken)
    (counted : (if before.any (·.SameRung after) then episode.attempts + event.tries else 0) =
      if woken.SameRung after then count else 0)
    (climbs : Climbs policy classified woken after)
    (escalates : 1 ≤ policy.escalateAfterFaults.toNat)
    (rescans : 1 ≤ policy.maxRescanAttempts.toNat) (now : due) :
    LeadsTo policy (episode.advance event before (some after)) due after := by
  rw [advance_fault episode before fault,counted]
  exact leads.fault climbs escalates rescans now

/-- The first fault of an episode enters the ladder. -/
theorem accounted_of_firstFault {policy : SyncRecoveryPolicy} {episode : Episode} {due : Prop}
    {event : LadderEvent} {after : RecoveryState} (fault : event.fault = some classified)
    (rested : episode = ⟨0, 0⟩) (climbs : Climbs policy classified (.entering classified nowMs) after)
    (escalates : 1 ≤ policy.escalateAfterFaults.toNat)
    (rescans : 1 ≤ policy.maxRescanAttempts.toNat) (now : due) :
    LeadsTo policy (episode.advance event none (some after)) due after := by
  have entered : LeadsTo policy ⟨0, episode.faults⟩ False (.entering classified nowMs) := by
    rw [rested]
    exact .entering ..
  exact accounted_of_fault fault entered (by simp) climbs escalates rescans now

namespace Watched

variable {wallet : SyncWallet} {options : SyncDriverOptions} {watched final : Watched}
  {input : DriverInput}

/-- The attempt of a repair that failed is counted, and the run of a fault has paid for the
one before it. -/
theorem paid_of_fault (leads : LeadsTo options.recovery watched.episode watched.driver.RepairDue before)
    (fault : (ladderEvent options watched.driver input).fault = some classified) :
    LeadsTo options.recovery
      ⟨watched.episode.attempts + (ladderEvent options watched.driver input).tries,
        watched.episode.faults⟩
      False ((ladderEvent options watched.driver input).counting before) := by
  cases event : ladderEvent options watched.driver input with
  | failedRepair classified => exact leads.countAttempt False
  | faulted classified height =>
    have scanning := scanning_of_run options watched.driver input (.inr ⟨_, _, event⟩)
    exact leads.weaken fun was => by simp [was.2] at scanning
  | held | attempted | settled scannedTo | rearmed =>
    rw [event] at fault
    cases fault

/-- A step without a fault keeps the account of the episode or ends it. -/
theorem calm_accounted (moves : Driver.Moves options watched.driver input.nowMs input.event final.driver)
    (counted : final.episode = watched.episode.advance (ladderEvent options watched.driver input)
      (some before) final.driver.state.recovery)
    (leads : LeadsTo options.recovery watched.episode watched.driver.RepairDue before)
    (applied : final.driver.state.recovery = ((ladderEvent options watched.driver input).apply
      options.recovery input.nowMs (some before)).map fun recovery => { recovery with parked := park })
    (calm : (ladderEvent options watched.driver input).fault = none) :
    final.Accounted options.recovery := by
  unfold Accounted
  rw [counted]
  cases event : ladderEvent options watched.driver input with
  | held =>
    rw [event] at applied
    simp only [applied,LadderEvent.apply,Option.map_some]
    exact accounted_of_calm rfl (by simp [RecoveryState.SameRung])
      ((leads.weaken (due_of_held moves event)).reparked park)
  | attempted =>
    rw [event] at applied
    simp only [applied,LadderEvent.apply,Option.map_some]
    exact accounted_of_calm rfl (by simp [RecoveryState.SameRung,RecoveryState.countAttempt])
      ((leads.countAttempt _).reparked park)
  | settled scannedTo =>
    have scanning := scanning_of_run options watched.driver input (.inl ⟨_, event⟩)
    rw [event] at applied
    by_cases survives : before.survives scannedTo = true
    · have paid : LeadsTo options.recovery watched.episode final.driver.RepairDue before :=
        leads.weaken fun was => by simp [was.2] at scanning
      simp only [applied,LadderEvent.apply,Option.bind_some,survives,if_true,Option.map_some]
      exact accounted_of_calm rfl (by simp [RecoveryState.SameRung])
        ⟨paid.depth, paid.attempts, paid.retry, paid.spent, paid.owed, paid.paid⟩
    · simp [applied,LadderEvent.apply,survives,Episode.advance]
  | rearmed =>
    rw [event] at applied
    simp [applied,LadderEvent.apply,Episode.advance]
  | failedRepair classified | faulted classified height =>
    rw [event] at calm
    cases calm

/-- A step keeps the account of the episode. -/
theorem step_accounted (escalates : 1 ≤ options.recovery.escalateAfterFaults.toNat)
    (rescans : 1 ≤ options.recovery.maxRescanAttempts.toNat)
    (accounted : watched.Accounted options.recovery)
    (step : watched.Step wallet options input final) : final.Accounted options.recovery := by
  obtain ⟨⟨-, moved⟩, counted⟩ := step
  have moves := Driver.moves_of_next moved
  obtain ⟨park, applied⟩ := reparked_of_moves moves
  unfold Accounted at accounted
  cases fault : (ladderEvent options watched.driver input).fault with
  | some classified =>
    have due := due_of_fault moves fault
    obtain ⟨after, climbed, climbs⟩ := LadderEvent.climbs_of_fault fault options.recovery
      input.nowMs watched.driver.state.recovery
    rw [climbed,Option.map_some] at applied
    unfold Accounted
    rw [counted]
    simp only [applied]
    cases found : watched.driver.state.recovery with
    | none =>
      rw [found] at climbs accounted
      exact accounted_of_firstFault fault accounted (climbs.reparked park) escalates rescans due
    | some recovery =>
      rw [found] at climbs accounted
      refine accounted_of_fault fault (paid_of_fault accounted fault) ?_ (climbs.reparked park)
        escalates rescans due
      rw [LadderEvent.sameRung_counting]
      rfl
  | none =>
    cases found : watched.driver.state.recovery with
    | none =>
      rw [found,LadderEvent.apply_none fault] at applied
      unfold Accounted
      rw [counted,applied]
      rfl
    | some recovery =>
      rw [found] at counted accounted applied
      exact calm_accounted moves counted accounted applied fault

end Watched

namespace Climbs

variable {policy : SyncRecoveryPolicy} {before after : RecoveryState}

theorem notAbove (climbs : Climbs policy classified before after) : before.NotAbove after := by
  cases climbs with
  | raised higher rung depth count => exact .inl (rung ▸ higher)
  | deepened at_rewind spent more rung depth count => exact .inr ⟨at_rewind.trans rung.symm, by omega⟩
  | rebuilt at_rewind spent deepest rung depth count =>
    left
    rw [at_rewind,rung]
    decide
  | parked at_rescan spent rung depth =>
    left
    rw [at_rescan,rung]
    decide
  | held at_park rung depth => exact .inr ⟨at_park.trans rung.symm, depth.ge⟩
  | kept below rung left depth count => exact .inr ⟨rung.symm, depth.ge⟩

theorem retry_holds (climbs : Climbs policy .retry before after) (rung : before.rung = .retry) :
    after.rung = .retry := by
  cases climbs with
  | raised higher into depth count => exact into
  | deepened at_rewind spent more into depth count => simp [rung] at at_rewind
  | rebuilt at_rewind spent deepest into depth count => simp [rung] at at_rewind
  | parked at_rescan spent into depth => simp [rung] at at_rescan
  | held at_park into depth => simp [rung] at at_park
  | kept below into left depth count => exact into.trans rung

theorem leaves (climbs : Climbs policy classified before after)
    (moved : before.SameRung after = false) : before.rung < classified ∨ before.rung ≠ .park ∧
    ∃ threshold, escalationThreshold before.rung policy = some threshold ∧
      threshold ≤ before.attemptsAtRung := by
  cases climbs with
  | raised higher rung depth count => exact .inl higher
  | deepened at_rewind spent more rung depth count =>
    exact .inr ⟨by simp [at_rewind], _, by rw [at_rewind]; rfl, spent⟩
  | rebuilt at_rewind spent deepest rung depth count =>
    exact .inr ⟨by simp [at_rewind], _, by rw [at_rewind]; rfl, spent⟩
  | parked at_rescan spent rung depth =>
    exact .inr ⟨by simp [at_rescan], _, by rw [at_rescan]; rfl, spent⟩
  | held at_park rung depth => simp [RecoveryState.SameRung,at_park,rung,depth] at moved
  | kept below rung left depth count => simp [RecoveryState.SameRung,rung,depth] at moved

end Climbs

/-- The reasons an episode may end for: the re-probe of a parked wallet, or an iteration
that completed or made slow progress and passed the height of the fault. -/
def EndsEpisode (recovery : RecoveryState) (input : DriverInput) (event : LadderEvent) : Prop :=
  (∃ reopened parked reprobeAtMs, input.event = .pollTick reopened ∧
    recovery.parked = some parked ∧ parked.reprobeAtMs = some reprobeAtMs ∧
    reprobeAtMs ≤ input.nowMs) ∨
  ∃ scannedTo, event = .settled scannedTo ∧ ∀ faultHeight,
    recovery.faultHeight = some faultHeight → ∃ scanned, scannedTo = some scanned ∧ faultHeight < scanned

/-- The fault height of one episode only rises. -/
def KeepsFaultHeight (before after : RecoveryState) : Prop :=
  ∀ height, before.faultHeight = some height →
    ∃ raised, after.faultHeight = some raised ∧ height ≤ raised

theorem KeepsFaultHeight.trans (first : KeepsFaultHeight before middle)
    (second : KeepsFaultHeight middle after) : KeepsFaultHeight before after := by
  intro height known
  obtain ⟨raised, found, below⟩ := first height known
  obtain ⟨higher, last, above⟩ := second raised found
  exact ⟨higher, last, below.trans above⟩

theorem RecoveryState.NotAbove.trans {before middle after : RecoveryState}
    (first : before.NotAbove middle) (second : middle.NotAbove after) : before.NotAbove after := by
  rcases first with higher | ⟨rung, depth⟩
  · rcases second with further | ⟨same, -⟩
    · exact .inl (Nat.lt_trans higher further)
    · exact .inl (same ▸ higher)
  · rcases second with further | ⟨same, deeper⟩
    · exact .inl (rung ▸ further)
    · exact .inr ⟨rung.trans same, depth.trans deeper⟩

theorem afterFault_keepsFaultHeight (recovery : RecoveryState) (policy : SyncRecoveryPolicy)
    (nowMs : Nat) (classified : SyncRepair) (height : Option BlockHeight) :
    KeepsFaultHeight recovery
      (.afterFault (some recovery) policy nowMs classified height) := by
  intro bar found
  unfold RecoveryState.afterFault
  rw [(RecoveryState.foldFault_unmoved ..).2]
  cases height with
  | none => exact ⟨bar, found, le_rfl⟩
  | some height => exact ⟨max bar height, by simp [RecoveryState.raiseFaultHeight,found], le_max_left ..⟩

theorem ends_of_rearmed (found : driver.state.recovery = some recovery)
    (event : ladderEvent options driver input = .rearmed) :
    EndsEpisode recovery input .rearmed := by
  rcases input with ⟨nowMs, answer⟩
  cases position : driver.position with
  | select =>
    cases answer with
    | pollTick reopened =>
      simp only [ladderEvent,position,DriverState.parked,found,Option.bind_some] at event
      split at event
      · rename_i due
        obtain ⟨parked, at_park, due⟩ := (Option.any_eq_true ..).mp due
        obtain ⟨reprobeAtMs, armed, past⟩ := (Option.any_eq_true ..).mp due
        exact .inl ⟨reopened, parked, reprobeAtMs, rfl, at_park, armed, by simpa using past⟩
      · cases event
    | _ => simp [ladderEvent,position] at event
  | backoff left =>
    cases answer with
    | repaired trace result => cases result <;> simp [ladderEvent,position] at event
    | _ => simp [ladderEvent,position] at event
  | running left chainTip frontierBefore =>
    cases answer with
    | runEnded trace outcome statusAfter =>
      cases attempt : classifyRun options outcome with
      | completed outcome => simp [ladderEvent,position,runLadderEvent,attempt] at event
      | faulted fault committed =>
        simp only [ladderEvent,position,runLadderEvent,attempt] at event
        split at event <;> cases event
    | _ => simp [ladderEvent,position] at event
  | _ => simp [ladderEvent,position] at event

theorem ends_of_settled (passed : recovery.survives scannedTo = false) :
    EndsEpisode recovery input (.settled scannedTo) := by
  refine .inr ⟨scannedTo, rfl, ?_⟩
  intro faultHeight found
  cases scannedTo with
  | none => simp [RecoveryState.survives,found] at passed
  | some scanned => exact ⟨scanned, rfl, by simpa [RecoveryState.survives,found] using passed⟩

namespace Watched

variable {wallet : SyncWallet} {options : SyncDriverOptions} {watched final : Watched}
  {input : DriverInput}

/-- Everything a step can do to the ladder of an episode. -/
theorem episode_cases (step : watched.Step wallet options input final)
    (found : watched.driver.state.recovery = some recovery) :
    (∃ now, final.driver.state.recovery = some now ∧
      (ladderEvent options watched.driver input).fault = none ∧
      recovery.SameRung now = true ∧ now.faultHeight = recovery.faultHeight) ∨
    (final.driver.state.recovery = none ∧
      EndsEpisode recovery input (ladderEvent options watched.driver input)) ∨
    ∃ classified woken now, final.driver.state.recovery = some now ∧
      (ladderEvent options watched.driver input).fault = some classified ∧
      Climbs options.recovery classified woken now ∧ woken.rung = recovery.rung ∧
      woken.rewindDepthIndex = recovery.rewindDepthIndex ∧
      woken.attemptsAtRung ≤
        recovery.attemptsAtRung + (ladderEvent options watched.driver input).tries ∧
      KeepsFaultHeight recovery now := by
  obtain ⟨⟨-, moved⟩, -⟩ := step
  obtain ⟨park, applied⟩ := reparked_of_moves (Driver.moves_of_next moved)
  rw [found] at applied
  cases event : ladderEvent options watched.driver input with
  | held =>
    rw [event] at applied
    exact .inl ⟨_, applied, rfl, by simp [RecoveryState.SameRung], rfl⟩
  | attempted =>
    rw [event] at applied
    exact .inl ⟨_, applied, rfl, by simp [RecoveryState.SameRung,RecoveryState.countAttempt], rfl⟩
  | failedRepair classified =>
    rw [event] at applied
    refine .inr (.inr ⟨classified, recovery.countAttempt, _, applied, rfl,
      (afterFault_climbs (some recovery.countAttempt) ..).reparked park, rfl, rfl, ?_, ?_⟩)
    · exact Nat.min_le_left ..
    · intro bar known
      exact afterFault_keepsFaultHeight recovery.countAttempt _ _ _ _ bar known
  | faulted classified height =>
    rw [event] at applied
    refine .inr (.inr ⟨classified, recovery, _, applied, rfl,
      (afterFault_climbs (some recovery) ..).reparked park, rfl, rfl, Nat.le_add_right .., ?_⟩)
    intro bar known
    exact afterFault_keepsFaultHeight recovery _ _ _ _ bar known
  | settled scannedTo =>
    rw [event] at applied
    by_cases survives : recovery.survives scannedTo = true
    · simp only [LadderEvent.apply,Option.bind_some,survives,if_true,Option.map_some] at applied
      exact .inl ⟨_, applied, rfl, by simp [RecoveryState.SameRung], rfl⟩
    · refine .inr (.inl ⟨by simp [applied,LadderEvent.apply,survives], ?_⟩)
      exact ends_of_settled (by simpa using survives)
  | rearmed =>
    rw [event] at applied
    exact .inr (.inl ⟨applied, ends_of_rearmed found event⟩)

end Watched

/-- What one step may do to the ladder of the current episode. -/
structure LadderStep (options : SyncDriverOptions) (before : Watched) (input : DriverInput)
    (after : Watched) : Prop where
  ends : ∀ recovery, before.driver.state.recovery = some recovery →
    after.driver.state.recovery = none →
      EndsEpisode recovery input (ladderEvent options before.driver input)
  climbs : ∀ recovery next, before.driver.state.recovery = some recovery →
    after.driver.state.recovery = some next →
      recovery.NotAbove next ∧ KeepsFaultHeight recovery next
  inBounds : ∀ recovery, after.driver.state.recovery = some recovery →
    recovery.rewindDepthIndex < rewindLadderBlocks.length
  retryHolds : ∀ recovery next, before.driver.state.recovery = some recovery →
    after.driver.state.recovery = some next → recovery.rung = .retry →
      (∀ classified, (ladderEvent options before.driver input).fault = some classified →
        classified = .retry) → next.rung = .retry
  leaves : ∀ recovery next, before.driver.state.recovery = some recovery →
    after.driver.state.recovery = some next → recovery.rung ≠ .retry →
      recovery.SameRung next = false →
      ∃ classified, (ladderEvent options before.driver input).fault = some classified ∧
        (recovery.rung < classified ∨ ∃ threshold,
          escalationThreshold recovery.rung options.recovery = some threshold ∧
          threshold ≤ before.episode.attempts + (ladderEvent options before.driver input).tries)
  parks : ∀ recovery, after.driver.state.recovery = some recovery →
    faultLimit options.recovery < after.episode.faults → recovery.rung = .park

theorem LeadsTo.parks (leads : LeadsTo policy episode due recovery)
    (many : faultLimit policy < episode.faults) : recovery.rung = .park := by
  cases rung : recovery.rung with
  | retry => simp [leads.retry rung] at many
  | rewind =>
    have few := (leads.faults_at_rewind rung).2
    simp only [faultLimit] at many
    omega
  | rescanFromBirthday =>
    have few := leads.faults_at_rescan rung
    omega
  | park => rfl

namespace Watched

variable {wallet : SyncWallet} {options : SyncDriverOptions} {watched final : Watched}
  {input : DriverInput}

theorem step_notAbove (step : watched.Step wallet options input final)
    (found : watched.driver.state.recovery = some recovery)
    (reached : final.driver.state.recovery = some next) :
    recovery.NotAbove next ∧ KeepsFaultHeight recovery next := by
  rcases episode_cases step found with ⟨now, kept, -, same, height⟩ | ⟨ended, -⟩ |
    ⟨classified, woken, now, kept, -, climbs, rung, depth, -, height⟩
  · obtain rfl := Option.some.inj (kept.symm.trans reached)
    simp only [RecoveryState.SameRung,decide_eq_true_eq] at same
    exact ⟨.inr ⟨same.1, same.2.le⟩, fun bar known => ⟨bar, height ▸ known, le_rfl⟩⟩
  · simp [ended] at reached
  · obtain rfl := Option.some.inj (kept.symm.trans reached)
    have above := climbs.notAbove
    simp only [RecoveryState.NotAbove,rung,depth] at above
    exact ⟨above, height⟩

theorem ladderStep (escalates : 1 ≤ options.recovery.escalateAfterFaults.toNat)
    (rescans : 1 ≤ options.recovery.maxRescanAttempts.toNat)
    (accounted : watched.Accounted options.recovery)
    (step : watched.Step wallet options input final) :
    LadderStep options watched input final := by
  have later := step_accounted escalates rescans accounted step
  refine ⟨?_, ?_, ?_, ?_, ?_, ?_⟩
  · intro recovery found ended
    rcases episode_cases step found with ⟨now, kept, -⟩ | ⟨-, reason⟩ | ⟨_, _, now, kept, -⟩
    · simp [ended] at kept
    · exact reason
    · simp [ended] at kept
  · exact fun recovery next found reached => step_notAbove step found reached
  · intro recovery found
    simp only [Accounted,found] at later
    exact later.depth
  · intro recovery next found reached rung faults
    rcases episode_cases step found with ⟨now, kept, -, same, -⟩ | ⟨ended, -⟩ |
      ⟨classified, woken, now, kept, fault, climbs, at_rung, -⟩
    · obtain rfl := Option.some.inj (kept.symm.trans reached)
      simp only [RecoveryState.SameRung,decide_eq_true_eq] at same
      exact same.1.symm.trans rung
    · simp [ended] at reached
    · obtain rfl := Option.some.inj (kept.symm.trans reached)
      rw [faults classified fault] at climbs
      exact climbs.retry_holds (at_rung.trans rung)
  · intro recovery next found reached state moved
    rcases episode_cases step found with ⟨now, kept, -, same, -⟩ | ⟨ended, -⟩ |
      ⟨classified, woken, now, kept, fault, climbs, rung, depth, attempts, -⟩
    · obtain rfl := Option.some.inj (kept.symm.trans reached)
      simp [same] at moved
    · simp [ended] at reached
    · obtain rfl := Option.some.inj (kept.symm.trans reached)
      refine ⟨classified, fault, ?_⟩
      have left := climbs.leaves (by simpa [RecoveryState.SameRung,rung,depth] using moved)
      rw [rung] at left
      rcases left with higher | ⟨notLast, threshold, policy, spent⟩
      · exact .inl higher
      · simp only [Accounted,found] at accounted
        have count := accounted.attempts notLast
        exact .inr ⟨threshold, policy, by omega⟩
  · intro recovery found many
    simp only [Accounted,found] at later
    exact later.parks many

/-- Watching a driver restricts none of its runs. -/
theorem watch {last : Driver} (path : Path (Driver.Step wallet options) start inputs last)
    (episode : Episode) :
    ∃ counts, Path (Step wallet options) ⟨start, episode⟩ inputs ⟨last, counts⟩ := by
  induction path generalizing episode with
  | nil => exact ⟨episode, .nil⟩
  | @cons state input next inputs last step _ ih =>
    obtain ⟨counts, rest⟩ := ih (episode.advance (ladderEvent options state input)
      state.state.recovery next.state.recovery)
    exact ⟨counts, .cons ⟨step, rfl⟩ rest⟩

theorem path_accounted (escalates : 1 ≤ options.recovery.escalateAfterFaults.toNat)
    (rescans : 1 ≤ options.recovery.maxRescanAttempts.toNat)
    (path : Path (Step wallet options) .initial inputs watched) :
    watched.Accounted options.recovery :=
  path.invariant (Accounted options.recovery)
    (fun _ _ _ accounted step => step_accounted escalates rescans accounted step) rfl

/-- Over a stretch of one episode the ladder never moves down. -/
theorem path_notAbove (path : Path (StepWithin wallet options) watched inputs final)
    (found : watched.driver.state.recovery = some recovery) :
    ∃ reached, final.driver.state.recovery = some reached ∧ recovery.NotAbove reached ∧
      KeepsFaultHeight recovery reached := by
  induction path generalizing recovery with
  | nil => exact ⟨recovery, found, .inr ⟨rfl, le_rfl⟩, fun height known => ⟨height, known, le_rfl⟩⟩
  | cons step _ ih =>
    obtain ⟨next, reached⟩ := Option.ne_none_iff_exists'.mp step.2
    have first := step_notAbove step.1 found reached
    obtain ⟨last, ended, above, height⟩ := ih reached
    exact ⟨last, ended, first.1.trans above, first.2.trans height⟩

end Watched

theorem normalized_thresholds (policy : SyncRecoveryPolicy) :
    1 ≤ policy.normalized.escalateAfterFaults.toNat ∧
      1 ≤ policy.normalized.maxRescanAttempts.toNat := by
  have atLeast (count : UInt32) : 1 ≤ (max count 1).toNat := by
    change 1 ≤ (if count ≤ 1 then 1 else count).toNat
    split
    · decide
    · rename_i above
      rw [UInt32.le_iff_toNat_le] at above
      simp at above
      omega
  exact ⟨atLeast _, atLeast _⟩

/-- The ladder in every reachable state: what the next step may do to it, and that it never
moves down while the episode lasts. -/
theorem ladder_climbs (wallet : SyncWallet) (options : SyncDriverOptions)
    (path : Path (Watched.Step wallet options.normalized) .initial inputs watched) :
    (∀ input final, watched.Step wallet options.normalized input final →
      LadderStep options.normalized watched input final) ∧
    ∀ later final, Path (Watched.StepWithin wallet options.normalized) watched later final →
      ∀ recovery, watched.driver.state.recovery = some recovery →
      ∃ reached, final.driver.state.recovery = some reached ∧ recovery.NotAbove reached ∧
        KeepsFaultHeight recovery reached := by
  obtain ⟨escalates, rescans⟩ := normalized_thresholds options.recovery
  have accounted := Watched.path_accounted escalates rescans path
  constructor
  · intro input final step
    exact Watched.ladderStep escalates rescans accounted step
  · intro later final within recovery found
    exact Watched.path_notAbove within found

/-- A run that fails on the store, the rewind it asks for, and the run after it. -/
def failedTrace : List SyncEvent :=
  [⟨.allowCall, true⟩, ⟨.currentEpoch, .error (.blockHeightBelowFloor 1 2)⟩]

theorem failedTrace_runs : Runs (scanCall sampleSyncWallet 0 .stale).run failedTrace
    (some (.error (.chainSource (.blockHeightBelowFloor 1 2)))) := by
  repeat' apply Runs.await
  exact Runs.done

def failedInputs : List DriverInput :=
  [⟨0, .opened (.ok ())⟩, ⟨1, .statusRead (.ok ⟨some 5, none, none⟩)⟩,
    ⟨2, .runEnded failedTrace (some (.error (.chainSource (.blockHeightBelowFloor 1 2))))
      (.ok ⟨some 5, none, none⟩)⟩]

theorem failed_run_ladder_climbs : ∃ watched,
    Path (Watched.Step sampleSyncWallet sampleOptions.normalized) .initial failedInputs watched ∧
    watched.driver.state.recovery.map (fun recovery => (recovery.rung, recovery.faultHeight)) =
      some (.rewind, some 5) ∧
    (∀ input final, watched.Step sampleSyncWallet sampleOptions.normalized input final →
      LadderStep sampleOptions.normalized watched input final) := by
  have path : ∃ driver, Path (Driver.Step sampleSyncWallet sampleOptions.normalized) .initial
      failedInputs driver ∧ driver.state.recovery.map
        (fun recovery => (recovery.rung, recovery.faultHeight)) = some (.rewind, some 5) :=
    ⟨_, .cons ⟨trivial, rfl⟩ (.cons ⟨trivial, rfl⟩ (.cons ⟨⟨0, failedTrace_runs⟩, rfl⟩ .nil)), rfl⟩
  obtain ⟨driver, path, rung⟩ := path
  obtain ⟨counts, watched⟩ := Watched.watch path ⟨0, 0⟩
  exact ⟨⟨driver, counts⟩, watched, rung, (ladder_climbs _ _ watched).1⟩

end Zally.Sync
