import Zally.Wallet.ScanPlan

/-! The compact blocks a fetch accepts, against the stream that the chain source opens. -/
namespace Zally.Sync

open Async Async.Program

/-- The number of blocks between two heights, both included. -/
def blockCount (startHeight endHeight : BlockHeight) : Nat := endHeight - startHeight + 1

/-- No addition of the height check overflows: a received count below the requested one leads
to a height of the range. -/
theorem checkedAddU32_received (ordered : startHeight ≤ endHeight) (bounded : endHeight ≤ u32Max)
    (received : count < blockCount startHeight endHeight) :
    checkedAddU32 startHeight (min count u32Max) = some (startHeight + count) := by
  unfold blockCount at received
  have exact : min count u32Max = count := Nat.min_eq_left (by omega)
  rw [exact,checkedAddU32,if_pos (by omega)]

theorem validateCompactBlockHeight_ok_iff (ordered : startHeight ≤ endHeight)
    (bounded : endHeight ≤ u32Max) :
    validateCompactBlockHeight startHeight endHeight count (some height) = .ok () ↔
      count < blockCount startHeight endHeight ∧ height = startHeight + count := by
  unfold validateCompactBlockHeight
  by_cases received : count < blockCount startHeight endHeight
  · have expected := checkedAddU32_received ordered bounded received
    unfold blockCount at received
    simp only [received,if_true,expected]
    by_cases same : height = startHeight + count
    · simp [same,blockCount,received]
    · simp [same]
  · unfold blockCount at received ⊢
    simp only [received,if_false]
    simp

theorem validateCompactBlockCount_ok_iff :
    validateCompactBlockCount startHeight endHeight count = .ok () ↔
      count = blockCount startHeight endHeight := by
  unfold validateCompactBlockCount blockCount
  by_cases counted : count = endHeight - startHeight + 1
  · simp [counted]
  · simp [counted]

/-- What the source answers: to the opening of the stream, and to each poll of it. -/
structure BlockSource where
  opens : Except ChainSourceError Unit
  polls : Nat → Option (Except ChainSourceError CompactBlockArtifact)

/-- The poll yields the block that the range has there. -/
def BlockSource.Yields (source : BlockSource) (startHeight endHeight : BlockHeight) (poll : Nat) :
    Prop :=
  poll < blockCount startHeight endHeight ∧
    ∃ block, source.polls poll = some (.ok block) ∧ block.height = startHeight + poll

/-- The stream is error-free and its heights are those of the range, and no others. -/
structure BlockSource.YieldsRange (source : BlockSource) (startHeight endHeight : BlockHeight) :
    Prop where
  ordered : startHeight ≤ endHeight
  opened : source.opens = .ok ()
  blocks : ∀ poll < blockCount startHeight endHeight, source.Yields startHeight endHeight poll
  ends : source.polls (blockCount startHeight endHeight) = none

def pollEvents (source : BlockSource) (first count : Nat) : List SyncEvent :=
  (List.range' first count).map fun poll => ⟨.nextCompactBlock, source.polls poll⟩

/-- The commands of a fetch that the source answered. -/
def AnsweredBy (source : BlockSource) (epoch : ChainEpoch) (startHeight endHeight : BlockHeight)
    (count : Nat) (trace : List SyncEvent) : Prop :=
  (trace = [] ∧ count = 0) ∨
    trace = ⟨.compactBlocks epoch startHeight endHeight, source.opens⟩ :: pollEvents source 0 count

theorem pollEvents_succ : pollEvents source first (count + 1) =
    ⟨.nextCompactBlock, source.polls first⟩ :: pollEvents source (first + 1) count := by
  simp [pollEvents,List.range'_succ]

/-- One poll of the loop. -/
theorem run_collectCompactBlocks :
    (collectCompactBlocks startHeight endHeight (turns + 1) blocks).run =
      await .nextCompactBlock fun answer =>
        match answer with
        | none => done ((validateCompactBlockCount startHeight endHeight blocks.length).map
            fun _ => blocks)
        | some (.error error) => done (.error (.chainSource error))
        | some (.ok block) =>
          match validateCompactBlockHeight startHeight endHeight blocks.length (some block.height) with
          | .error error => done (.error error)
          | .ok _ => (collectCompactBlocks startHeight endHeight turns (blocks ++ [block])).run := by
  rw [collectCompactBlocks,Fallible.run_lift_bind]
  refine congrArg (await SyncCommand.nextCompactBlock) (funext fun answer => ?_)
  rcases answer with _ | error | block
  · simp only [Program.bind,done_bind,ExceptT.run_bind,ExceptT.run_mk]
    cases validateCompactBlockCount startHeight endHeight blocks.length <;> rfl
  · rfl
  · simp only [Program.bind,done_bind,ExceptT.run_bind,ExceptT.run_mk]
    cases validateCompactBlockHeight startHeight endHeight blocks.length (some block.height) <;> rfl

/-- The blocks are the first the stream yielded, at the first heights of the range. -/
structure Collected (source : BlockSource) (startHeight : BlockHeight)
    (blocks : List CompactBlockArtifact) : Prop where
  yielded : ∀ poll (inside : poll < blocks.length), source.polls poll = some (.ok blocks[poll])
  heights : blocks.map (·.height) = List.range' startHeight blocks.length

theorem Collected.yields (collected : Collected source startHeight blocks)
    (received : blocks.length ≤ blockCount startHeight endHeight) (inside : poll < blocks.length) :
    source.Yields startHeight endHeight poll := by
  refine ⟨by omega, blocks[poll], collected.yielded poll inside, ?_⟩
  have height : (blocks.map (·.height))[poll]? = (List.range' startHeight blocks.length)[poll]? := by
    rw [collected.heights]
  simpa [inside] using height

theorem Collected.concat (collected : Collected source startHeight blocks)
    (polled : source.polls blocks.length = some (.ok block))
    (height : block.height = startHeight + blocks.length) :
    Collected source startHeight (blocks ++ [block]) where
  yielded poll inside := by
    by_cases earlier : poll < blocks.length
    · rw [List.getElem_append_left earlier]
      exact collected.yielded poll earlier
    · have last : poll = blocks.length := by
        rw [List.length_append,List.length_singleton] at inside
        omega
      subst last
      rw [List.getElem_concat_length rfl]
      exact polled
  heights := by
    rw [List.map_append,collected.heights,List.length_append,List.length_singleton,
      List.range'_concat]
    simp [height]

/-- What a finished loop says about the stream: all polls but the last yielded their blocks,
and it returns exactly for a stream of the range. -/
structure Collects (source : BlockSource) (startHeight endHeight : BlockHeight) (polls : Nat)
    (result : Except WalletError (List CompactBlockArtifact)) : Prop where
  stops : ∀ poll, poll + 1 < polls → source.Yields startHeight endHeight poll
  accepts : (∃ blocks, result = .ok blocks) ↔
    (∀ poll < blockCount startHeight endHeight, source.Yields startHeight endHeight poll) ∧
      source.polls (blockCount startHeight endHeight) = none
  returns : ∀ blocks, result = .ok blocks → Collected source startHeight blocks ∧
    blocks.length = blockCount startHeight endHeight

/-- A poll that does not yield its block ends the loop with an error. -/
theorem Collects.of_refused (collected : Collected source startHeight blocks)
    (received : blocks.length ≤ blockCount startHeight endHeight)
    (refused : ¬ source.Yields startHeight endHeight blocks.length)
    (unended : blocks.length = blockCount startHeight endHeight →
      source.polls blocks.length ≠ none) :
    Collects source startHeight endHeight (blocks.length + 1) (.error error) where
  stops poll earlier := collected.yields received (by omega)
  accepts := by
    refine ⟨fun ⟨_, ok⟩ => (by cases ok), fun ⟨blocks', ends⟩ => ?_⟩
    by_cases last : blocks.length = blockCount startHeight endHeight
    · exact absurd (last ▸ ends) (unended last)
    · exact absurd (blocks' _ (by omega)) refused
  returns blocks ok := by cases ok

theorem BlockSource.not_yields {source : BlockSource}
    (unblocked : ∀ block, source.polls poll ≠ some (.ok block)) :
    ¬ source.Yields startHeight endHeight poll := by
  rintro ⟨-, block, yielded, -⟩
  exact unblocked block yielded

/-- A stream that ends behind the last block of the range is accepted, and any other end is not. -/
theorem Collects.of_ended (collected : Collected source startHeight blocks)
    (received : blocks.length ≤ blockCount startHeight endHeight)
    (ended : source.polls blocks.length = none) :
    Collects source startHeight endHeight (blocks.length + 1)
      ((validateCompactBlockCount startHeight endHeight blocks.length).map fun _ => blocks) := by
  cases counted : validateCompactBlockCount startHeight endHeight blocks.length with
  | error error =>
    refine .of_refused collected received (BlockSource.not_yields fun block => ?_) fun full => ?_
    · rw [ended]
      simp
    · rw [validateCompactBlockCount_ok_iff.mpr full] at counted
      cases counted
  | ok value =>
    have full := validateCompactBlockCount_ok_iff.mp counted
    exact {
      stops := fun poll earlier => collected.yields received (by omega)
      accepts := ⟨fun _ => ⟨fun poll inside => collected.yields received (by omega),
        full ▸ ended⟩, fun _ => ⟨blocks, rfl⟩⟩
      returns := fun other ok => by
        obtain rfl := Except.ok.inj ok
        exact ⟨collected, full⟩ }

theorem collects_of_runs (ordered : startHeight ≤ endHeight) (bounded : endHeight ≤ u32Max)
    (collected : Collected source startHeight blocks)
    (received : blocks.length ≤ blockCount startHeight endHeight)
    (run : Runs (collectCompactBlocks startHeight endHeight turns blocks).run
      (pollEvents source blocks.length count) (some result)) :
    Collects source startHeight endHeight (blocks.length + count) result := by
  induction turns generalizing blocks count with
  | zero =>
    obtain ⟨answer, -⟩ := runs_await_some run
    exact answer.elim
  | succ turns ih =>
    rw [run_collectCompactBlocks] at run
    cases count with
    | zero =>
      obtain ⟨answer, rest, split, -⟩ := runs_await_some run
      cases split
    | succ count =>
      rw [pollEvents_succ,runs_await_cons_iff] at run
      have last (ended : pollEvents source (blocks.length + 1) count = []) : count = 0 := by
        simpa [pollEvents] using ended
      rcases polled : source.polls blocks.length with _ | error | block
      · rw [polled] at run
        obtain ⟨ended, rfl⟩ := runs_done_some run
        obtain rfl := last ended
        exact .of_ended collected received polled
      · rw [polled] at run
        obtain ⟨ended, rfl⟩ := runs_done_some run
        obtain rfl := last ended
        refine .of_refused collected received (BlockSource.not_yields fun block => ?_) fun _ => ?_
        · rw [polled]
          simp
        · rw [polled]
          simp
      · rw [polled] at run
        cases valid : validateCompactBlockHeight startHeight endHeight blocks.length
            (some block.height) with
        | error error =>
          simp only [valid] at run
          obtain ⟨ended, rfl⟩ := runs_done_some run
          obtain rfl := last ended
          refine .of_refused collected received (fun ⟨inside, other, yielded, height⟩ => ?_)
            fun _ => (by rw [polled]; simp)
          obtain rfl : block = other := by simpa [polled] using yielded
          rw [(validateCompactBlockHeight_ok_iff ordered bounded).mpr ⟨inside, height⟩] at valid
          cases valid
        | ok value =>
          simp only [valid] at run
          obtain ⟨inside, height⟩ := (validateCompactBlockHeight_ok_iff ordered bounded).mp valid
          have longer : (blocks ++ [block]).length = blocks.length + 1 := by simp
          rw [← longer] at run
          have rest := ih (collected.concat polled height) (by omega) run
          rwa [longer,Nat.add_right_comm] at rest

/-- With a turn for every block of the range and one for the end, the loop finishes. -/
theorem collectCompactBlocks_finishes (source : BlockSource) (turns : Nat)
    (blocks : List CompactBlockArtifact) (ordered : startHeight ≤ endHeight)
    (bounded : endHeight ≤ u32Max) (received : blocks.length ≤ blockCount startHeight endHeight)
    (enough : blockCount startHeight endHeight < blocks.length + turns) :
    ∃ count result, Runs (collectCompactBlocks startHeight endHeight turns blocks).run
      (pollEvents source blocks.length count) (some result) := by
  induction turns generalizing blocks with
  | zero => omega
  | succ turns ih =>
    rw [run_collectCompactBlocks]
    rcases polled : source.polls blocks.length with _ | error | block
    · refine ⟨1, (validateCompactBlockCount startHeight endHeight blocks.length).map
        fun _ => blocks, ?_⟩
      rw [pollEvents_succ,polled]
      exact .await .done
    · refine ⟨1, .error (.chainSource error), ?_⟩
      rw [pollEvents_succ,polled]
      exact .await .done
    · cases valid : validateCompactBlockHeight startHeight endHeight blocks.length
          (some block.height) with
      | error error =>
        refine ⟨1, .error error, ?_⟩
        rw [pollEvents_succ,polled,runs_await_cons_iff]
        simp only [valid]
        exact .done
      | ok value =>
        have inside := ((validateCompactBlockHeight_ok_iff ordered bounded).mp valid).1
        have longer : (blocks ++ [block]).length = blocks.length + 1 := by simp
        obtain ⟨count, result, run⟩ := ih (blocks ++ [block]) (by omega) (by omega)
        refine ⟨count + 1, result, ?_⟩
        rw [longer] at run
        rw [pollEvents_succ,polled,runs_await_cons_iff]
        simp only [valid]
        exact run

/-- What a finished fetch says about the source. -/
structure Fetches (source : BlockSource) (startHeight endHeight : BlockHeight) (polls : Nat)
    (result : Except WalletError (List CompactBlockArtifact)) : Prop where
  accepts : (∃ blocks, result = .ok blocks) ↔ source.YieldsRange startHeight endHeight
  returns : ∀ blocks, result = .ok blocks →
    blocks.map (·.height) = List.range' startHeight (blockCount startHeight endHeight) ∧
      ∀ poll (inside : poll < blocks.length), source.polls poll = some (.ok blocks[poll])
  stops : ∀ poll, poll + 1 < polls → source.Yields startHeight endHeight poll

theorem Fetches.of_error (refused : ¬ source.YieldsRange startHeight endHeight) :
    Fetches source startHeight endHeight 0 (.error error) where
  accepts := ⟨fun ⟨_, ok⟩ => (by cases ok), fun yields => absurd yields refused⟩
  returns blocks ok := by cases ok
  stops poll earlier := by omega

theorem run_fetchCompactBlocks (ordered : startHeight ≤ endHeight) :
    (fetchCompactBlocks epoch startHeight endHeight).run =
      await (.compactBlocks epoch startHeight endHeight) fun answer =>
        match answer with
        | .error error => done (.error (.chainSource error))
        | .ok _ => (collectCompactBlocks startHeight endHeight
            (endHeight - startHeight + 2) []).run := by
  rw [fetchCompactBlocks,if_neg (Nat.not_lt.mpr ordered),Fallible.run_call_bind]
  refine congrArg (await (SyncCommand.compactBlocks epoch startHeight endHeight))
    (funext fun answer => ?_)
  cases answer <;> rfl

theorem fetches_of_runs (bounded : endHeight ≤ u32Max)
    (run : Runs (fetchCompactBlocks epoch startHeight endHeight).run trace (some result))
    (answered : AnsweredBy source epoch startHeight endHeight count trace) :
    Fetches source startHeight endHeight count result := by
  by_cases ordered : startHeight ≤ endHeight
  · rw [run_fetchCompactBlocks ordered] at run
    rcases answered with ⟨rfl, rfl⟩ | rfl
    · obtain ⟨answer, rest, split, -⟩ := runs_await_some run
      cases split
    rw [runs_await_cons_iff] at run
    cases opened : source.opens with
    | error error =>
      rw [opened] at run
      obtain ⟨ended, rfl⟩ := runs_done_some run
      obtain rfl : count = 0 := by simpa [pollEvents] using ended
      refine .of_error fun yields => ?_
      rw [yields.opened] at opened
      cases opened
    | ok value =>
      rw [opened] at run
      have start : Collected source startHeight [] := ⟨fun _ inside => (by cases inside), rfl⟩
      have collects := collects_of_runs ordered bounded start (Nat.zero_le _) run
      rw [List.length_nil,Nat.zero_add] at collects
      exact {
        accepts := collects.accepts.trans ⟨fun ⟨blocks, ends⟩ => ⟨ordered, opened, blocks, ends⟩,
          fun yields => ⟨yields.blocks, yields.ends⟩⟩
        returns := fun blocks ok => by
          obtain ⟨collected, full⟩ := collects.returns blocks ok
          rw [← full]
          exact ⟨collected.heights, collected.yielded⟩
        stops := collects.stops }
  · rw [fetchCompactBlocks,if_pos (Nat.not_le.mp ordered)] at run
    obtain ⟨rfl, rfl⟩ := runs_done_some run
    rcases answered with ⟨-, rfl⟩ | split
    · exact .of_error fun yields => absurd yields.ordered ordered
    · cases split

/-- A fetch finishes against every source, returns exactly the requested range, and stops at the
first poll that breaks it; no addition of its checks overflows. -/
theorem fetchCompactBlocks_exact (epoch : ChainEpoch) (startHeight endHeight : BlockHeight)
    (bounded : endHeight ≤ u32Max) (source : BlockSource) :
    (∃ trace count result, AnsweredBy source epoch startHeight endHeight count trace ∧
      Runs (fetchCompactBlocks epoch startHeight endHeight).run trace (some result)) ∧
    (∀ trace count result, AnsweredBy source epoch startHeight endHeight count trace →
      Runs (fetchCompactBlocks epoch startHeight endHeight).run trace (some result) →
      Fetches source startHeight endHeight count result) ∧
    blockCount startHeight endHeight ≤ u64Max ∧
    (startHeight ≤ endHeight → ∀ received < blockCount startHeight endHeight,
      checkedAddU32 startHeight (min received u32Max) = some (startHeight + received)) := by
  refine ⟨?_, fun trace count result answered run => fetches_of_runs bounded run answered, ?_,
    fun ordered received inside => checkedAddU32_received ordered bounded inside⟩
  · by_cases ordered : startHeight ≤ endHeight
    · rw [run_fetchCompactBlocks ordered]
      cases opened : source.opens with
      | error error =>
        refine ⟨_, 0, .error (.chainSource error), .inr rfl, ?_⟩
        rw [opened]
        exact .await .done
      | ok value =>
        obtain ⟨count, result, run⟩ := collectCompactBlocks_finishes source
          (endHeight - startHeight + 2) [] ordered bounded (Nat.zero_le _)
          (by simp only [blockCount,List.length_nil]; omega)
        refine ⟨_, count, result, .inr rfl, ?_⟩
        rw [opened]
        exact .await run
    · refine ⟨[], 0, .error (compactBlockStreamOrder startHeight (some endHeight)), .inl ⟨rfl, rfl⟩, ?_⟩
      rw [fetchCompactBlocks,if_pos (Nat.not_le.mp ordered)]
      exact .done
  · have width : u32Max + 1 ≤ u64Max := by decide
    have count : blockCount startHeight endHeight ≤ u32Max + 1 :=
      Nat.succ_le_succ (Nat.le_trans (Nat.sub_le ..) bounded)
    omega

/-- A source of the two highest blocks. -/
def lastBlocks : BlockSource where
  opens := .ok ()
  polls
    | 0 => some (.ok ⟨u32Max - 1, 70⟩)
    | 1 => some (.ok ⟨u32Max, 71⟩)
    | _ => none

theorem lastBlocks_yield : lastBlocks.YieldsRange (u32Max - 1) u32Max where
  ordered := by decide
  opened := rfl
  blocks poll inside := by
    refine ⟨inside, ?_⟩
    rcases poll with _ | _ | poll
    · exact ⟨_, rfl, rfl⟩
    · exact ⟨_, rfl, rfl⟩
    · have two : poll + 2 < 2 := inside
      omega
  ends := rfl

theorem lastBlocks_fetched : ∃ trace blocks,
    Runs (fetchCompactBlocks ⟨1, 10, 10⟩ (u32Max - 1) u32Max).run trace (some (.ok blocks)) ∧
      blocks.map (·.height) = [u32Max - 1, u32Max] := by
  obtain ⟨⟨trace, count, result, answered, run⟩, fetches, -⟩ :=
    fetchCompactBlocks_exact ⟨1, 10, 10⟩ (u32Max - 1) u32Max (Nat.le_refl _) lastBlocks
  have fetched := fetches trace count result answered run
  obtain ⟨blocks, rfl⟩ := fetched.accepts.mpr lastBlocks_yield
  exact ⟨trace, blocks, run, (fetched.returns blocks rfl).1⟩

end Zally.Sync
