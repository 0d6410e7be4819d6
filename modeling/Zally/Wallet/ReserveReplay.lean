import Zally.Wallet.ReserveRace

/-! A reservation repeated with its request id: the lookup takes the row with the latest
timestamp, and a conflict found by the insert is not looked up again. -/
namespace Zally.Reserve

open Async Async.Program Outcome

/-- The call recorded the hold itself. -/
def Creates (holdId : HoldId) (trace : List ReserveEvent) : Prop :=
  ∃ record : HoldRecord, record.holdId = holdId ∧ ⟨.createHold record, .ok ()⟩ ∈ trace

/-- The call returns the hold and adds no row. -/
def ReturnsHold (holdId : HoldId) (trace : List ReserveEvent) (outcome : Except WalletError Hold) :
    Prop :=
  (∃ hold, outcome = .ok hold ∧ hold.holdId = holdId) ∧
    ∀ record, ⟨.createHold record, .ok ()⟩ ∉ trace

/-- A call completed while an active hold of its request, account and amount existed that it
had not recorded itself. -/
structure CompletesBeside (choose : List HoldColumns → Nat) (start : State)
    (world : List Operation) (final : State) (call : Nat) (network : Network)
    (plan : ReserveForDispensePlan) (outcome : Except WalletError Hold) (row : HoldColumns) :
    Prop where
  execution : Execution choose start world final
  run : Runs (reserveForDispense network plan).run (eventsOf call world) (some outcome)
  held : row ∈ final.holds.rows
  active : row.Active
  requested : row.requestId = plan.requestId.val.text
  account : row.accountId = plan.accountId
  amount : row.amountZat.toInt.toNat = plan.amountZat.raw.toNat
  foreign : ¬Creates row.holdId (eventsOf call world)

/-- The storage could not answer a read. -/
def FailsToRead : ReserveEvent → Prop
  | ⟨.findHoldByRequestId _, answer⟩ => ∃ error, answer = .error error
  | ⟨.findVisibleTip, answer⟩ => ∃ error, answer = .error error
  | ⟨.listSpendableShieldedNotes _ _, answer⟩ => ∃ error, answer = .error error
  | ⟨.sumActiveDispenseReservedZat _, answer⟩ => ∃ error, answer = .error error
  | _ => False

/-- When the call looked its request up, the hold was active and its row was the one that
SQLite returned: no row of the request had a later timestamp. -/
def LooksUpActive (choose : List HoldColumns → Nat) (start : State) (world : List Operation)
    (call : Nat) (requestId : CheckedIdempotencyKey) (holdId : HoldId) : Prop :=
  ∃ earlier answer later state after row,
    world = earlier ++ .reserve call ⟨.findHoldByRequestId requestId, answer⟩ :: later ∧
    Path (Step choose) start earlier state ∧
    Step choose state (.reserve call ⟨.findHoldByRequestId requestId, answer⟩) after ∧
    latestRow choose state.holds requestId.val.text = some row ∧ row.holdId = holdId ∧ row.Active

theorem findHoldByRequestId_some_iff :
    findHoldByRequestId none choose requestId table = .ok (some existing) ↔
      ∃ row, latestRow choose table requestId.val.text = some row ∧
        decodeHoldRow row = .ok existing := by
  simp only [findHoldByRequestId,bind_ok_iff,selectRows_ok_iff]
  constructor
  · rintro ⟨found, ⟨-, -, -, rfl⟩, mapped⟩
    cases found : latestRow choose table requestId.val.text with
    | none =>
      rw [found] at mapped
      cases mapped
    | some row =>
      rw [found] at mapped
      obtain ⟨decoded, read, returned⟩ := bind_ok_iff.mp mapped
      cases returned
      exact ⟨row, rfl, read⟩
  · rintro ⟨row, found, decoded⟩
    refine ⟨some row, ⟨rfl, rfl, rfl, found⟩, bind_ok_iff.mpr ⟨existing, decoded, rfl⟩⟩

theorem mem_of_latestRow (found : latestRow choose table requestId = some row) :
    row ∈ table.rows :=
  List.mem_of_mem_filter (List.mem_of_mem_filter (List.mem_of_getElem? found))

/-- A finished answer for an active hold failed at a read, or returned the hold. -/
theorem existingHold_outcome
    (run : Runs (existingHold network plan existing).run trace (some outcome)) :
    (∃ event ∈ trace, FailsToRead event) ∧ (∃ error, outcome = .error error) ∨
      (∀ event ∈ trace, ¬FailsToRead event) ∧
        ∃ hold, outcome = .ok hold ∧ hold.holdId = existing.holdId := by
  simp only [existingHold,computeAvailableAfterRelease,spendableForNextDispense,
    spendableNotesForNextDispense,LawfulMonad.bind_assoc,storage,Fallible.run_call_bind,ask,
    perform_bind] at run
  obtain ⟨tip, afterTip, rfl, listing⟩ := runs_await_some run
  cases tip with
  | error error =>
    obtain ⟨-, rfl⟩ := runs_done_some listing
    exact .inl ⟨⟨_, List.mem_cons_self, error, rfl⟩, _, rfl⟩
  | ok tip =>
    obtain ⟨notes, afterNotes, rfl, summing⟩ := runs_await_some listing
    cases notes with
    | error error =>
      obtain ⟨-, rfl⟩ := runs_done_some summing
      exact .inl ⟨⟨_, List.mem_cons_of_mem _ List.mem_cons_self, error, rfl⟩, _, rfl⟩
    | ok notes =>
      obtain ⟨reserved, afterSum, rfl, returning⟩ := runs_await_some summing
      cases reserved with
      | error error =>
        obtain ⟨-, rfl⟩ := runs_done_some returning
        exact .inl ⟨⟨_, List.mem_cons_of_mem _ (List.mem_cons_of_mem _ List.mem_cons_self), error,
          rfl⟩, _, rfl⟩
      | ok reserved =>
        obtain ⟨rfl, rfl⟩ := runs_done_some returning
        exact .inr ⟨by simp [FailsToRead], _, rfl, rfl⟩

theorem creates_of_placeHold
    (run : Runs (placeHold network plan notes spendable).run trace (some (.ok hold))) :
    Creates hold.holdId trace := by
  simp only [placeHold,storage,Fallible.run_lift_bind,Fallible.run_call_bind,ask,
    perform_bind] at run
  obtain ⟨holdId, afterId, rfl, clocking⟩ := runs_await_some run
  obtain ⟨reservedAtMs, afterClock, rfl, creating⟩ := runs_await_some clocking
  obtain ⟨created, afterCreate, rfl, returning⟩ := runs_await_some creating
  cases created with
  | error error =>
    obtain ⟨-, failed⟩ := runs_done_some returning
    cases failed
  | ok created =>
    obtain ⟨rfl, same⟩ := runs_done_some returning
    cases same
    exact ⟨holdRecord plan notes holdId reservedAtMs, rfl, by simp⟩

theorem Creates.mono (creates : Creates holdId part) (within : part ⊆ whole) :
    Creates holdId whole :=
  let ⟨record, same, member⟩ := creates
  ⟨record, same, within member⟩

/-- A new hold that is returned was recorded by the call. -/
theorem creates_of_newHold
    (run : Runs (newHold network plan).run trace (some (.ok hold))) : Creates hold.holdId trace := by
  rcases Fallible.runs_bind_some run with ⟨_, failed, -⟩ | ⟨notes, first, rest, rfl, -, summing⟩
  · cases failed
  rcases Fallible.runs_bind_some summing with ⟨_, failed, -⟩ | ⟨reserved, second, third, rfl, -, last⟩
  · cases failed
  dsimp only at last
  split at last
  · obtain ⟨-, failed⟩ := runs_done_some last
    cases failed
  · exact ((creates_of_placeHold last).mono (List.subset_append_right _ _)).mono
      (List.subset_append_right _ _)

theorem newHold_within : (newHold network plan).run.Within
    fun command => ∀ requestId, command ≠ .findHoldByRequestId requestId := by
  refine Fallible.within_bind (Fallible.within_bind ?_ fun _ => ?_) fun notes =>
    Fallible.within_bind ?_ fun reserved => ?_
  · exact Fallible.within_call ⟨nofun, fun _ => trivial⟩
  · exact Fallible.within_call ⟨nofun, fun _ => trivial⟩
  · exact Fallible.within_call ⟨nofun, fun _ => trivial⟩
  · dsimp only
    split
    · trivial
    · refine Fallible.within_bind (Fallible.within_lift ⟨nofun, fun _ => trivial⟩) fun _ =>
        Fallible.within_bind (Fallible.within_lift ⟨nofun, fun _ => trivial⟩) fun _ =>
        Fallible.within_bind (Fallible.within_call ⟨nofun, fun _ => trivial⟩) fun _ => trivial

/-- A finished call rejected the amount, failed at the lookup, answered for an active hold or
recorded a new one. -/
theorem runs_reserveForDispense
    (run : Runs (reserveForDispense network plan).run trace (some outcome)) :
    (plan.amountZat.raw = 0 ∧ ∃ error, outcome = .error error) ∨
    plan.amountZat.raw ≠ 0 ∧ ∃ found rest,
      trace = ⟨.findHoldByRequestId plan.requestId, found⟩ :: rest ∧
      ((∃ error, found = .error error ∧ rest = [] ∧ ∃ lifted, outcome = .error lifted) ∨
        ∃ stored, found = .ok stored ∧
          ((∃ existing, stored = some existing ∧ existing.isActive = true ∧
              Runs (existingHold network plan existing).run rest (some outcome)) ∨
            stored.filter (·.isActive) = none ∧
              Runs (newHold network plan).run rest (some outcome))) := by
  unfold reserveForDispense at run
  split at run
  · rename_i zero
    obtain ⟨-, rfl⟩ := runs_done_some run
    exact .inl ⟨zero, _, rfl⟩
  · rename_i positive
    simp only [storage,Fallible.run_call_bind,ask,perform_bind] at run
    obtain ⟨found, rest, rfl, reserving⟩ := runs_await_some run
    refine .inr ⟨positive, found, rest, rfl, ?_⟩
    cases found with
    | error error =>
      obtain ⟨rfl, rfl⟩ := runs_done_some reserving
      exact .inl ⟨error, rfl, rfl, _, rfl⟩
    | ok stored =>
      refine .inr ⟨stored, rfl, ?_⟩
      dsimp only at reserving
      split at reserving
      · rename_i existing active
        obtain ⟨same, isActive⟩ := Option.filter_eq_some_iff.mp active
        exact .inl ⟨existing, same, isActive, reserving⟩
      · rename_i inactive
        exact .inr ⟨inactive, reserving⟩

/-- Only the first command of a call looks a hold up. -/
theorem lookup_eq_head
    (within : ∀ event ∈ rest, ∀ requestId, Event.command event ≠ .findHoldByRequestId requestId)
    (member : ⟨.findHoldByRequestId requestId, answer⟩ ∈
      (⟨.findHoldByRequestId requestId, found⟩ :: rest : List ReserveEvent)) : answer = found := by
  rcases List.mem_cons.mp member with same | later
  · cases same
    rfl
  · exact absurd rfl (within _ later requestId)

theorem split_of_mem_eventsOf (member : event ∈ eventsOf call world) :
    ∃ earlier later, world = earlier ++ .reserve call event :: later := by
  obtain ⟨operation, inWorld, same⟩ := List.mem_filterMap.mp (mem_localTrace.mp member)
  cases operation with
  | reserve other issued =>
    cases same
    exact List.append_of_mem inWorld
  | released | finalized | notesChanged => cases same

/-- What the storage answered to a step of an execution. -/
theorem Execution.answers (execution : Execution choose start world final)
    (split : world = earlier ++ .reserve call event :: later) :
    ∃ state after, Path (Step choose) start earlier state ∧ Answers choose state event after := by
  obtain ⟨state, reached, rest⟩ := Path.append_iff.mp (split ▸ execution.path)
  cases rest with
  | cons moves _ => exact ⟨state, _, reached, moves⟩

/-- A lookup that does not fail answers for the row SQLite returns. -/
theorem findHold_of_latestRow (sound : state.holds.Sound)
    (answers : Answers choose state ⟨.findHoldByRequestId requestId, answer⟩ after)
    (answered : ¬FailsToRead ⟨.findHoldByRequestId requestId, answer⟩)
    (found : latestRow choose state.holds requestId.val.text = some row) :
    ∃ existing, answer = .ok (some existing) ∧ decodeHoldRow row = .ok existing := by
  obtain ⟨existing, decoded⟩ := sound.decodes row (mem_of_latestRow found)
  have stored := findHoldByRequestId_some_iff.mpr ⟨row, found, decoded⟩
  rcases answers.1 with failed | rfl
  · exact absurd failed answered
  · exact ⟨existing, stored, decoded⟩

/-- A call that returns a hold which it did not record found it active at its lookup. -/
theorem found_of_returned
    (run : Runs (reserveForDispense network plan).run trace (some (.ok hold)))
    (foreign : ¬Creates hold.holdId trace) :
    plan.amountZat.raw ≠ 0 ∧ (∀ event ∈ trace, ¬FailsToRead event) ∧
      ∃ existing, existing.isActive = true ∧ existing.holdId = hold.holdId ∧
        ⟨.findHoldByRequestId plan.requestId, .ok (some existing)⟩ ∈ trace := by
  rcases runs_reserveForDispense run with ⟨-, error, failed⟩ | ⟨positive, found, rest, rfl, cases⟩
  · cases failed
  rcases cases with ⟨error, -, -, lifted, failed⟩ | ⟨stored, rfl, ⟨existing, rfl, active, ended⟩ | ⟨-, recorded⟩⟩
  · cases failed
  · rcases existingHold_outcome ended with ⟨-, error, failed⟩ | ⟨answered, other, returned, sameId⟩
    · cases failed
    cases returned
    refine ⟨positive, fun event member => ?_, existing, active, sameId.symm, List.mem_cons_self⟩
    rcases List.mem_cons.mp member with rfl | later
    · rintro ⟨error, failed⟩
      cases failed
    · exact answered event later
  · exact absurd ((creates_of_newHold recorded).mono (List.subset_cons_self _ _)) foreign

/-- A call whose lookup found an active hold returns it when it can read. -/
theorem returnsHold_of_found
    (run : Runs (reserveForDispense network plan).run trace (some outcome))
    (positive : plan.amountZat.raw ≠ 0) (answered : ∀ event ∈ trace, ¬FailsToRead event)
    (active : existing.isActive = true)
    (member : ⟨.findHoldByRequestId plan.requestId, .ok (some existing)⟩ ∈ trace) :
    ReturnsHold existing.holdId trace outcome := by
  rcases runs_reserveForDispense run with ⟨zero, -⟩ | ⟨-, first, rest, rfl, cases⟩
  · exact absurd zero positive
  have isHead : .ok (some existing) = first := by
    refine lookup_eq_head ?_ member
    rcases cases with ⟨error, -, rfl, -⟩ | ⟨stored, -, ⟨other, -, -, ended⟩ | ⟨-, recorded⟩⟩
    · simp
    · intro event later requestId lookup
      have reads := ended.within existingHold_within event later
      rw [lookup] at reads
      exact reads
    · exact recorded.within newHold_within
  subst isHead
  rcases cases with ⟨error, failed, -⟩ | ⟨stored, same, ⟨other, rfl, -, ended⟩ | ⟨inactive, -⟩⟩
  · cases failed
  · cases same
    rcases existingHold_outcome ended with ⟨⟨event, later, failed⟩, -⟩ | ⟨-, hold, rfl, sameHold⟩
    · exact absurd failed (answered event (List.mem_cons_of_mem _ later))
    refine ⟨⟨hold, rfl, sameHold⟩, fun record created => ?_⟩
    rcases List.mem_cons.mp created with head | later
    · cases head
    · exact ended.within existingHold_within _ later
  · cases same
    rw [Option.filter_some,if_pos active] at inactive
    cases inactive

/-- An active hold that a lookup answered was the row that SQLite returned. -/
theorem Execution.looksUpActive (execution : Execution choose start world final)
    (member : ⟨.findHoldByRequestId requestId, .ok (some existing)⟩ ∈ eventsOf call world)
    (active : existing.isActive = true) :
    LooksUpActive choose start world call requestId existing.holdId := by
  obtain ⟨earlier, later, split⟩ := split_of_mem_eventsOf member
  obtain ⟨state, after, reached, answers⟩ := execution.answers split
  rcases answers.1 with ⟨error, failed⟩ | stored
  · cases failed
  obtain ⟨found, latest, decoded⟩ := findHoldByRequestId_some_iff.mp stored.symm
  have read := decodeHoldRow_ok decoded
  exact ⟨earlier, _, later, state, after, found, split, reached, answers, latest,
    read.2.2.1.symm, read.2.2.2.2.2.mp active⟩

/-- A call that completes while a hold of its request is active, and was not its own, returns
that hold without adding a row exactly when its amount is not zero, the storage answers its
reads, and the hold was the active row that its lookup found. -/
theorem returns_active_hold_iff (choose : List HoldColumns → Nat) (start final : State)
    (world : List Operation) (call : Nat) (network : Network) (plan : ReserveForDispensePlan)
    (outcome : Except WalletError Hold) (row : HoldColumns)
    (completes : CompletesBeside choose start world final call network plan outcome row) :
    ReturnsHold row.holdId (eventsOf call world) outcome ↔
      plan.amountZat.raw ≠ 0 ∧ (∀ event ∈ eventsOf call world, ¬FailsToRead event) ∧
        LooksUpActive choose start world call plan.requestId row.holdId := by
  obtain ⟨execution, run, -, -, -, -, -, foreign⟩ := completes
  constructor
  · rintro ⟨⟨hold, rfl, sameHold⟩, -⟩
    rw [← sameHold] at foreign ⊢
    obtain ⟨positive, answered, existing, active, sameId, member⟩ := found_of_returned run foreign
    rw [← sameId]
    exact ⟨positive, answered, execution.looksUpActive member active⟩
  · rintro ⟨positive, answered, earlier, answer, later, state, after, found, splitWorld, reached,
      moves, latest, sameId, active⟩
    have member : ⟨.findHoldByRequestId plan.requestId, answer⟩ ∈ eventsOf call world := by
      rw [splitWorld,eventsOf_append,eventsOf_cons_self]
      exact List.mem_append_right _ List.mem_cons_self
    obtain ⟨existing, rfl, decoded⟩ :=
      findHold_of_latestRow (execution.sound reached) moves (answered _ member) latest
    have read := decodeHoldRow_ok decoded
    rw [← sameId,← read.2.2.1]
    exact returnsHold_of_found run positive answered (read.2.2.2.2.2.mpr active) member

theorem filterMap_reserve (call : Nat) (events : List ReserveEvent) :
    (events.map (.reserve call)).filterMap Operation.event? = events.map (Prod.mk call) := by
  rw [List.filterMap_map]
  exact congrFun List.filterMap_eq_map events

/-- The executions of one call alone. -/
theorem execution_of_call {events : List ReserveEvent}
    (ledger : ∃ calls, HoldPath .empty calls start.holds)
    (path : Path (Step choose) start (events.map (.reserve 0)) final)
    (run : Runs (reserveForDispense network plan).run events outcome) :
    Execution choose start (events.map (.reserve 0)) final where
  ledger := ledger
  path := path
  calls other := by
    rw [eventsOf,filterMap_reserve]
    by_cases same : 0 = other
    · subst same
      rw [localTrace_map]
      exact ⟨network, plan, outcome, run⟩
    · rw [localTrace_map_other same]
      exact ⟨network, plan, none, .cut⟩

theorem eventsOf_call (events : List ReserveEvent) :
    eventsOf 0 (events.map (.reserve 0)) = events := by
  rw [eventsOf,filterMap_reserve,localTrace_map]

/-! One hold that is still active, and a request repeated after the clock went back. -/

def repeatStart : State := ⟨sampleNotes, HoldCall.run .empty (.create none sampleHoldRecord)⟩

def repeatRow : HoldRow :=
  ⟨⟨1⟩, samplePlan.requestId, samplePlan.idempotencyKey, ⟨0⟩, ⟨⟨5⟩, by decide⟩, [], 100, none, none⟩

def repeatEvents : List ReserveEvent := [
  ⟨.findHoldByRequestId samplePlan.requestId, .ok (some repeatRow)⟩,
  ⟨.findVisibleTip, .ok (some 100)⟩,
  ⟨.listSpendableShieldedNotes ⟨0⟩ 101, .ok [sampleNote]⟩,
  ⟨.sumActiveDispenseReservedZat ⟨0⟩, .ok ⟨⟨5⟩, by decide⟩⟩]

def repeatHold : Hold :=
  ⟨.mainnet, ⟨1⟩, samplePlan.requestId, samplePlan.idempotencyKey, ⟨5⟩, summarizeLockedNotes [],
    sampleHoldRecord.spendableForCheckZat⟩

theorem repeatEvents_runs : Runs (reserveForDispense .mainnet samplePlan).run repeatEvents
    (some (.ok repeatHold)) := by
  repeat' apply Runs.await
  exact Runs.done

theorem repeatEvents_path : Path (Step fun _ => 0) repeatStart (repeatEvents.map (.reserve 0))
    repeatStart :=
  .cons ⟨.inr rfl, rfl⟩ (.cons ⟨.inr rfl, rfl⟩ (.cons ⟨.inr rfl, rfl⟩
    (.cons ⟨.inr rfl, rfl⟩ .nil)))

theorem repeat_completes : CompletesBeside (fun _ => 0) repeatStart
    (repeatEvents.map (.reserve 0)) repeatStart 0 .mainnet samplePlan (.ok repeatHold)
    sampleHoldRecord.columns where
  execution := execution_of_call ⟨[.create none sampleHoldRecord], .cons rfl .nil⟩
    repeatEvents_path repeatEvents_runs
  run := by
    rw [eventsOf_call]
    exact repeatEvents_runs
  held := List.mem_singleton.mpr rfl
  active := ⟨rfl, rfl⟩
  requested := rfl
  account := rfl
  amount := rfl
  foreign := by
    rw [eventsOf_call]
    rintro ⟨record, -, created⟩
    simp [repeatEvents] at created

theorem repeat_returns_hold : ReturnsHold ⟨1⟩ repeatEvents (.ok repeatHold) := by
  have returns := (returns_active_hold_iff _ _ _ _ _ _ _ _ _ repeat_completes).mpr (by
    rw [eventsOf_call]
    refine ⟨by decide, by simp [repeatEvents,FailsToRead], [], _, _, repeatStart, repeatStart,
      sampleHoldRecord.columns, rfl, .nil, ⟨.inr rfl, rfl⟩, rfl, rfl, rfl, rfl⟩)
  rw [eventsOf_call] at returns
  exact returns

def earlierHoldRecord : HoldRecord :=
  { sampleHoldRecord with holdId := ⟨2⟩, reservedAtMs := 50, amountZat := ⟨3⟩ }

/-- The first hold was recorded at 100 and released, the second at 50 and is active. -/
def rewoundStart : State where
  notes := sampleNotes
  holds := HoldCall.run (HoldCall.run repeatStart.holds (.release none ⟨1⟩ 200))
    (.create none earlierHoldRecord)

def rewoundPlan : ReserveForDispensePlan := { samplePlan with amountZat := ⟨3⟩ }

def rewoundEvents : List ReserveEvent := [
  ⟨.findHoldByRequestId samplePlan.requestId, .ok (some { repeatRow with releasedAtMs := some 200 })⟩,
  ⟨.findVisibleTip, .ok (some 100)⟩,
  ⟨.listSpendableShieldedNotes ⟨0⟩ 101, .ok [sampleNote]⟩,
  ⟨.sumActiveDispenseReservedZat ⟨0⟩, .ok ⟨⟨3⟩, by decide⟩⟩,
  ⟨.newHoldId, ⟨3⟩⟩,
  ⟨.currentUnixMs, 60⟩,
  ⟨.createHold (holdRecord rewoundPlan [sampleNote] ⟨3⟩ 60), .error .holdRequestConflict⟩]

theorem rewoundEvents_runs : Runs (reserveForDispense .mainnet rewoundPlan).run rewoundEvents
    (some (.error (.storage .holdRequestConflict))) := by
  repeat' apply Runs.await
  exact Runs.done

theorem rewoundEvents_path : Path (Step fun _ => 0) rewoundStart
    (rewoundEvents.map (.reserve 0)) rewoundStart :=
  .cons ⟨.inr rfl, rfl⟩ (.cons ⟨.inr rfl, rfl⟩ (.cons ⟨.inr rfl, rfl⟩
    (.cons ⟨.inr rfl, rfl⟩ (.cons rfl (.cons rfl (.cons (.inr ⟨none, rfl, rfl⟩) .nil))))))

/-- The lookup finds the released hold, the insert meets the active one, and the call fails. -/
theorem repeat_after_clock_went_back_fails :
    ¬∀ (choose : List HoldColumns → Nat) (start final : State) (world : List Operation)
      (call : Nat) (network : Network) (plan : ReserveForDispensePlan)
      (outcome : Except WalletError Hold) (row : HoldColumns),
      CompletesBeside choose start world final call network plan outcome row →
        ReturnsHold row.holdId (eventsOf call world) outcome := by
  intro always
  obtain ⟨⟨hold, returned, -⟩, -⟩ := always _ _ _ _ _ _ _ _ _ {
    execution := execution_of_call ⟨[.create none sampleHoldRecord, .release none ⟨1⟩ 200,
      .create none earlierHoldRecord], .cons rfl (.cons rfl (.cons rfl .nil))⟩ rewoundEvents_path rewoundEvents_runs
    run := by
      rw [eventsOf_call]
      exact rewoundEvents_runs
    held := List.mem_cons_of_mem _ (List.mem_singleton.mpr rfl)
    active := ⟨rfl, rfl⟩
    requested := rfl
    account := rfl
    amount := rfl
    foreign := by
      rw [eventsOf_call]
      rintro ⟨record, -, created⟩
      simp [rewoundEvents] at created }
  cases returned

end Zally.Reserve
