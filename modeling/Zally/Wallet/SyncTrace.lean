import Zally.Async.Coverage
import Zally.Wallet.Driver

/-! What the runs of a sync can look like: each attempt plans, and then commits at most
one chunk, which it compares before it reads anything else. -/
namespace Zally.Sync

open Async Async.Program

def IsProgress : WalletEvent → Prop
  | .scanProgress _ _ => True
  | _ => False

/-- The calls that plan and fetch a chunk; they change no committed block. -/
def Plans : SyncCommand → Prop
  | .currentEpoch | .subtreeRoots _ _ _ _ | .treeStateAt _ _ | .compactBlocks _ _ _
  | .nextCompactBlock | .suggestScanRanges | .fullyScannedHeight | .putSubtreeRoots _ _ _
  | .currentUnixMs | .stalled => True
  | .publishEvents events => ∀ event ∈ events, IsProgress event
  | _ => False

def RecordsTip : SyncCommand → Prop
  | .updateChainTip _ | .recordChainTips _ _ => True
  | _ => False

/-- The calls of the retries and of what follows them. -/
def Idle : SyncCommand → Prop
  | .sleep _ | .allowCall | .recordSuccess | .recordFailure | .currentUnixMs
  | .clearExpiredPendingBroadcastInputs _ => True
  | _ => False

/-- The tip was recorded: the second of the two writes went through. -/
def TipRecord : SyncEvent → Prop
  | ⟨.recordChainTips _ _, .ok _⟩ => True
  | _ => False

/-- What a call did to the committed blocks, as far as comparisons are about it. -/
def storeAction : SyncEvent → Option (Coverage.Action BlockHeight)
  | ⟨.scanBlocks request, .ok result⟩ => some (.wrote request.fromHeight result.scannedToHeight)
  | ⟨.traceRootCheck height result, _⟩ =>
    -- A check that was skipped, for trees without a leaf, passes like one that matched.
    if result = .mismatch then none else some (.checked height)
  | ⟨.truncateToChainState chainState, .ok _⟩ => some (.truncated chainState.height)
  | ⟨.recreateWithAccount _ _, .ok _⟩ => some .cleared
  | _ => none

def storeActions (trace : List SyncEvent) : List (Coverage.Action BlockHeight) :=
  trace.filterMap storeAction

@[simp] theorem storeActions_nil : storeActions [] = [] := rfl

@[simp] theorem storeActions_append :
    storeActions (before ++ after) = storeActions before ++ storeActions after :=
  List.filterMap_append

theorem storeAction_of_plans {event : SyncEvent} (plans : Plans event.command) :
    storeAction event = none := by
  rcases event with ⟨command, answer⟩
  cases command <;> first | rfl | exact plans.elim

theorem storeAction_of_recordsTip {event : SyncEvent} (records : RecordsTip event.command) :
    storeAction event = none := by
  rcases event with ⟨command, answer⟩
  cases command <;> first | rfl | exact records.elim

theorem storeAction_of_idle {event : SyncEvent} (idle : Idle event.command) :
    storeAction event = none := by
  rcases event with ⟨command, answer⟩
  cases command <;> first | rfl | exact idle.elim

theorem storeActions_eq_nil (quiet : ∀ event ∈ trace, storeAction event = none) :
    storeActions trace = [] := List.filterMap_eq_nil_iff.mpr quiet

/-! Planning and fetching. -/

theorem within_stalled {α : Type} : (stalled : SyncM α).run.Within Plans :=
  Fallible.within_lift ⟨trivial, nofun⟩

theorem within_read {ε : Type} {α : Type} {lift : ε → WalletError}
    {program : SyncProgram (Except ε α)} (within : program.Within Plans) :
    (Fallible.call lift program).run.Within Plans := Fallible.within_call within

theorem within_chainStateAt (epoch : ChainEpoch) (height : BlockHeight) :
    (chainStateAt epoch height).run.Within Plans := by
  apply Fallible.within_bind
  · exact within_read ⟨trivial, fun _ => trivial⟩
  · intro treeState
    split <;> trivial

theorem runs_chainStateAt_ok (epoch : ChainEpoch) (anchor : TreeStateArtifact) :
    Runs (chainStateAt epoch anchor.height).run [⟨.treeStateAt epoch anchor.height, .ok anchor⟩]
      (some (.ok anchor)) := by
  refine Fallible.runs_bind_iff.mpr (.inr (.inr (.inr ⟨anchor, _, [], rfl,
    Fallible.runs_call_iff.mpr (.inr ⟨.ok anchor, rfl, .inr rfl⟩), ?_⟩)))
  have same : ¬anchor.height ≠ anchor.height := not_not.mpr rfl
  rw [if_neg same]
  exact Runs.done

theorem within_backfillPool (epoch : ChainEpoch) (scanFloor : Option BlockHeight)
    (pool : ShieldedPool) (turns nextIndex : Nat) :
    (backfillPool epoch scanFloor pool turns nextIndex).run.Within Plans := by
  induction turns generalizing nextIndex with
  | zero => exact within_stalled
  | succ turns ih =>
    apply Fallible.within_bind
    · exact within_read ⟨trivial, fun _ => trivial⟩
    intro page
    apply Fallible.within_bind
    · trivial
    intro _
    apply Fallible.within_bind
    · unfold recordSubtreeRoots
      split
      · exact Fallible.within_bind (within_read ⟨trivial, fun _ => trivial⟩) fun _ => trivial
      · trivial
    intro resumeIndex
    split
    · trivial
    · exact ih resumeIndex

theorem within_backfillSubtreeRoots (turns : Nat) (epoch : ChainEpoch)
    (scanFloor : Option BlockHeight) :
    (backfillSubtreeRoots turns epoch scanFloor).run.Within Plans :=
  Fallible.within_bind (within_backfillPool ..) fun _ =>
    Fallible.within_bind (within_backfillPool ..) fun _ => within_backfillPool ..

theorem within_nextScanRange (visibleTip : BlockHeight) :
    (nextScanRange visibleTip).run.Within Plans :=
  Fallible.within_bind (within_read ⟨trivial, fun _ => trivial⟩) fun _ => trivial

theorem within_planScanRange (turns : Nat) (epoch : ChainEpoch) (visibleTip : BlockHeight) :
    (planScanRange turns epoch visibleTip).run.Within Plans := by
  apply Fallible.within_bind
  · exact within_nextScanRange visibleTip
  intro planned
  cases planned with
  | some chunk => trivial
  | none =>
    apply Fallible.within_bind
    · exact within_read ⟨trivial, fun _ => trivial⟩
    intro fullyScanned
    split
    · exact Fallible.within_bind (within_backfillSubtreeRoots ..) fun _ =>
        within_nextScanRange visibleTip
    · trivial

theorem within_collectCompactBlocks (startHeight endHeight : BlockHeight) (turns : Nat)
    (blocks : List CompactBlockArtifact) :
    (collectCompactBlocks startHeight endHeight turns blocks).run.Within Plans := by
  induction turns generalizing blocks with
  | zero => exact within_stalled
  | succ turns ih =>
    apply Fallible.within_bind
    · exact Fallible.within_lift ⟨trivial, fun _ => trivial⟩
    intro item
    rcases item with _ | error | block
    · exact Fallible.within_bind trivial fun _ => trivial
    · trivial
    · exact Fallible.within_bind trivial fun _ => ih _

theorem within_fetchChunk (epoch : ChainEpoch) (chunk : ScanChunk) :
    (fetchChunk epoch chunk).run.Within Plans := by
  apply Fallible.within_bind
  · exact Fallible.within_lift ⟨by simp [Plans,IsProgress], fun _ => trivial⟩
  intro _
  apply Fallible.within_bind
  · exact within_chainStateAt epoch _
  intro fromState
  apply Fallible.within_bind
  · unfold fetchCompactBlocks
    split
    · trivial
    · exact Fallible.within_bind (within_read ⟨trivial, fun _ => trivial⟩) fun _ =>
        within_collectCompactBlocks ..
  · intro blocks
    trivial

/-- A fetched chunk holds a block. -/
theorem returns_fetchChunk (epoch : ChainEpoch) (chunk : ScanChunk) :
    Fallible.Returns (fun fetched => 0 < fetched.1.blockCount) (fetchChunk epoch chunk) := by
  have collected : ∀ startHeight endHeight turns blocks,
      Fallible.Returns (fun fetched => 0 < fetched.length)
        (collectCompactBlocks startHeight endHeight turns blocks) := by
    intro startHeight endHeight turns
    induction turns with
    | zero => exact fun blocks => nofun
    | succ turns ih =>
      intro blocks
      apply Fallible.Returns.bind (Fallible.returns_trivial (fun _ => trivial) _)
      intro item _
      rcases item with _ | error | block
      · refine Fallible.Returns.bind (show Fallible.Returns (fun _ => 0 < blocks.length) _ from ?_)
          fun _ nonempty => Fallible.returns_pure nonempty
        intro value valid
        unfold validateCompactBlockCount at valid
        by_cases counted : blocks.length ≠ endHeight - startHeight + 1
        · simp [counted] at valid
        · omega
      · exact Fallible.returns_throw _
      · apply Fallible.Returns.bind (Fallible.returns_trivial (fun _ => trivial) _)
        exact fun _ _ => ih _
  apply Fallible.Returns.bind (Fallible.returns_trivial (fun _ => trivial) _)
  intro _ _
  apply Fallible.Returns.bind (Fallible.returns_trivial (fun _ => trivial) _)
  intro fromState _
  have nonempty : Fallible.Returns (fun fetched => 0 < fetched.length)
      (fetchCompactBlocks epoch chunk.start chunk.endInclusive) := by
    unfold fetchCompactBlocks
    split
    · exact Fallible.returns_throw _
    · exact Fallible.Returns.bind (Fallible.returns_trivial (fun _ => trivial) _)
        fun _ _ => collected ..
  exact nonempty.bind fun blocks holds => Fallible.returns_pure holds

/-- One chunk's run never reaches the storage's scan, or is a run of the scan. -/
theorem runs_scanOneRange (run : Runs (scanOneRange turns epoch).run trace outcome) :
    ((∀ event ∈ trace, Plans event.command) ∧
      ∀ value, outcome = some (.ok value) → value.blockCount = 0) ∨
    ∃ context fromState before after, trace = before ++ after ∧ 0 < context.blockCount ∧
      (∀ event ∈ before, Plans event.command) ∧
      Runs (scanAndEmit context fromState epoch).run after outcome := by
  rcases Fallible.runs_bind_cases run with ⟨stopped, failed⟩ | ⟨planned, first, second, rfl, plan, rest⟩
  · exact .inl ⟨stopped.within (within_planScanRange ..), fun value ok => absurd ok (failed value)⟩
  have planning := plan.within (within_planScanRange ..)
  cases planned with
  | none =>
    left
    constructor
    · have within : (emitCaughtUp epoch.visibleTip).run.Within Plans :=
        ⟨by simp [Plans,IsProgress], fun _ => ⟨trivial, fun _ => trivial⟩⟩
      exact List.forall_mem_append.mpr ⟨planning, rest.within within⟩
    · rintro value rfl
      have returns : Fallible.Returns (fun value => value.blockCount = 0)
          (emitCaughtUp epoch.visibleTip) := by
        rintro _ now _ ⟨⟩
        rfl
      exact returns.ok rest
  | some chunk =>
    rcases Fallible.runs_bind_cases rest with ⟨stopped, failed⟩ | ⟨⟨context, fromState⟩, fetching, after, rfl, fetch, scan⟩
    · left
      refine ⟨List.forall_mem_append.mpr ⟨planning, stopped.within (within_fetchChunk ..)⟩, ?_⟩
      exact fun value ok => absurd ok (failed value)
    · right
      refine ⟨context, fromState, first ++ fetching, after, by simp, ?_, ?_, scan⟩
      · exact (returns_fetchChunk epoch chunk).ok fetch
      · exact List.forall_mem_append.mpr ⟨planning, fetch.within (within_fetchChunk ..)⟩

/-! The comparison and the announcements that follow a commit. -/

/-- The calls before the comparison's result is known. -/
def ReadsRoots : SyncCommand → Prop
  | .commitmentTreeRoots | .treeStateAt _ _ | .treeStateRoots _ => True
  | _ => False

/-- The calls after the comparison. -/
def Announces : SyncCommand → Prop
  | .walletTxIdsMinedInRange _ _ | .clearPendingBroadcastInputsForMined _ | .publishEvents _
  | .receivedShieldedNotesMinedInRange _ _ | .currentUnixMs => True
  | _ => False

theorem storeAction_of_readsRoots {event : SyncEvent} (reads : ReadsRoots event.command) :
    storeAction event = none := by
  rcases event with ⟨command, answer⟩
  cases command <;> first | rfl | exact reads.elim

theorem storeAction_of_announces {event : SyncEvent} (announces : Announces event.command) :
    storeAction event = none := by
  rcases event with ⟨command, answer⟩
  cases command <;> first | rfl | exact announces.elim

/-- The calls of a comparison. -/
def Compares (command : SyncCommand) : Prop :=
  ReadsRoots command ∨ ∃ height result, command = .traceRootCheck height result

theorem within_verifyTreeRoots (epoch : ChainEpoch) (height : BlockHeight) :
    (verifyTreeRoots epoch height).run.Within Compares := by
  apply Fallible.within_bind
  · exact Fallible.within_call ⟨.inl trivial, fun _ => trivial⟩
  intro walletRoots
  apply Fallible.within_bind
  · apply Fallible.within_bind
    · exact Fallible.within_call ⟨.inl trivial, fun _ => trivial⟩
    · intro treeState
      split <;> trivial
  intro chainState
  apply Fallible.within_bind
  · exact Fallible.within_call ⟨.inl trivial, fun _ => trivial⟩
  · intro chainRoots
    exact ⟨.inr ⟨_, _, rfl⟩, fun _ => trivial⟩

/-- A comparison fails while it reads, or its result is logged last. -/
theorem runs_verifyTreeRoots (run : Runs (verifyTreeRoots epoch height).run trace outcome) :
    ((∀ event ∈ trace, ReadsRoots event.command) ∧ ∀ value, outcome ≠ some (.ok value)) ∨
    ∃ reads result, trace = reads ++ [⟨.traceRootCheck height result, ()⟩] ∧
      (∀ event ∈ reads, ReadsRoots event.command) ∧
      (outcome = none ∨
        outcome = some (.ok (if result = .mismatch then some height else none))) := by
  have read : ∀ {ε α : Type} {lift : ε → WalletError} {program : SyncProgram (Except ε α)},
      program.Within ReadsRoots → (Fallible.call lift program).run.Within ReadsRoots :=
    fun within => Fallible.within_call within
  have state : (chainStateAt epoch height).run.Within ReadsRoots := by
    apply Fallible.within_bind
    · exact read ⟨trivial, fun _ => trivial⟩
    · intro treeState
      split <;> trivial
  have wallet : (Fallible.call WalletError.ofStorage (ask .commitmentTreeRoots)).run.Within
      ReadsRoots := read ⟨trivial, fun _ => trivial⟩
  rcases Fallible.runs_bind_cases run with ⟨stopped, failed⟩ | ⟨walletRoots, first, rest, rfl, got, run⟩
  · exact .inl ⟨stopped.within wallet, failed⟩
  have before := got.within wallet
  rcases Fallible.runs_bind_cases run with ⟨stopped, failed⟩ | ⟨chainState, second, tail, rfl, fetched, run⟩
  · exact .inl ⟨List.forall_mem_append.mpr ⟨before, stopped.within state⟩, failed⟩
  have between := fetched.within state
  have chain : (Fallible.call WalletError.ofStorage (ask (.treeStateRoots chainState))).run.Within
      ReadsRoots := read ⟨trivial, fun _ => trivial⟩
  rcases Fallible.runs_bind_cases run with ⟨stopped, failed⟩ | ⟨chainRoots, third, last, rfl, decoded, run⟩
  · exact .inl ⟨List.forall_mem_append.mpr
      ⟨before, List.forall_mem_append.mpr ⟨between, stopped.within chain⟩⟩, failed⟩
  have reads := List.forall_mem_append.mpr
    ⟨before, List.forall_mem_append.mpr ⟨between, decoded.within chain⟩⟩
  rcases runs_await_iff.mp run with ⟨rfl, rfl⟩ | ⟨⟨⟩, final, rfl, finished⟩
  · exact .inl ⟨by simpa using reads, by simp⟩
  · obtain ⟨rfl, ended⟩ := runs_done_iff.mp finished
    exact .inr ⟨first ++ (second ++ third), _, by simp, reads, ended⟩

theorem within_announceScanned (context : ScanContext) (scannedTo : BlockHeight) :
    (announceScanned context scannedTo).run.Within Announces := by
  apply Fallible.within_bind
  · exact Fallible.within_call ⟨trivial, fun _ => trivial⟩
  intro newlyConfirmed
  apply Fallible.within_bind
  · unfold retirePendingBroadcastsForMined
    split
    · trivial
    · exact Fallible.within_bind (Fallible.within_call ⟨trivial, fun _ => trivial⟩)
        fun _ => trivial
  intro _
  refine ⟨trivial, fun _ => Fallible.within_bind ?_ fun receivedNotes => ?_⟩
  · exact Fallible.within_call ⟨trivial, fun _ => trivial⟩
  · exact ⟨trivial, fun _ => ⟨trivial, fun _ => trivial⟩⟩

theorem returns_announceScanned (context : ScanContext) (scannedTo : BlockHeight) :
    Fallible.Returns (fun value => value.scannedToHeight = scannedTo ∧
      value.blockCount = context.blockCount) (announceScanned context scannedTo) := by
  apply Fallible.Returns.bind (Fallible.returns_trivial (fun _ => trivial) _)
  intro newlyConfirmed _
  apply Fallible.Returns.bind (Fallible.returns_trivial (fun _ => trivial) _)
  intro _ _ _
  apply Fallible.Returns.bind (Fallible.returns_trivial (fun _ => trivial) _)
  rintro receivedNotes _ _ now _ ⟨⟩
  exact ⟨rfl, rfl⟩

/-- The store actions of one attempt, and what its value says about them. -/
inductive AttemptShape : List (Coverage.Action BlockHeight) →
    Option (Except WalletError SyncOutcome) → Prop where
  | idle : (∀ value, outcome = some (.ok value) → value.blockCount = 0) →
      AttemptShape [] outcome
  | uncompared : (∀ value, outcome ≠ some (.ok value)) → AttemptShape [.wrote first last] outcome
  | compared : (∀ value, outcome = some (.ok value) →
      value.scannedToHeight = last ∧ 0 < value.blockCount) →
      AttemptShape [.wrote first last, .checked last] outcome

/-- What follows a commit compares at the end of the chunk, or never logs a result that
agrees. -/
theorem runs_checkAndAnnounce
    (run : Runs (checkAndAnnounce context epoch scannedTo).run trace outcome) :
    (storeActions trace = [] ∧ ∀ value, outcome ≠ some (.ok value)) ∨
    (storeActions trace = [.checked scannedTo] ∧ ∀ value, outcome = some (.ok value) →
      value.scannedToHeight = scannedTo ∧ value.blockCount = context.blockCount) := by
  have quiet : ∀ {reads : List SyncEvent}, (∀ event ∈ reads, ReadsRoots event.command) →
      storeActions reads = [] := fun reads =>
    storeActions_eq_nil fun event member => storeAction_of_readsRoots (reads event member)
  have logged : ∀ {reads : List SyncEvent} {result}, (∀ event ∈ reads, ReadsRoots event.command) →
      storeActions (reads ++ [⟨.traceRootCheck scannedTo result, ()⟩]) =
        if result = .mismatch then [] else [.checked scannedTo] := by
    intro reads result within
    rw [storeActions_append,quiet within]
    cases result <;> rfl
  rcases Fallible.runs_bind_cases run with ⟨stopped, failed⟩ | ⟨diverged, first, rest, rfl, checked, resumed⟩
  · have verified : Runs (verifyTreeRoots epoch scannedTo).run trace none := by
      rcases Fallible.runs_lifted_iff.mp stopped with ⟨-, dropped⟩ | ⟨result, finished, -⟩
      · exact dropped
      · exact finished.dropped
    rcases runs_verifyTreeRoots verified with ⟨reads, -⟩ | ⟨reads, result, rfl, within, -⟩
    · exact .inl ⟨quiet reads, failed⟩
    · rw [logged within]
      by_cases mismatch : result = .mismatch
      · exact .inl ⟨if_pos mismatch, failed⟩
      · exact .inr ⟨if_neg mismatch, fun value ok => absurd ok (failed value)⟩
  · rcases Fallible.runs_lifted_iff.mp checked with ⟨ended, -⟩ | ⟨verified, finished, ended⟩
    · simp at ended
    rcases runs_verifyTreeRoots finished with ⟨-, failed⟩ | ⟨reads, result, rfl, within, reported⟩
    · cases verified with
      | ok value => exact absurd rfl (failed value)
      | error error => simp [Except.mapError] at ended
    obtain rfl : verified = .ok (if result = .mismatch then some scannedTo else none) := by
      simpa using reported
    obtain rfl : diverged = if result = .mismatch then some scannedTo else none := by
      simpa [Except.mapError] using ended
    rw [storeActions_append,logged within]
    by_cases mismatch : result = .mismatch
    · simp only [mismatch,if_true] at resumed ⊢
      obtain ⟨rfl, ended⟩ := runs_done_iff.mp resumed
      left
      refine ⟨rfl, fun value ok => ?_⟩
      rcases ended with rfl | rfl <;> simp at ok
    · simp only [mismatch,if_false] at resumed ⊢
      have announcing := resumed.within (within_announceScanned ..)
      have silent : storeActions rest = [] := storeActions_eq_nil fun event member =>
        storeAction_of_announces (announcing event member)
      right
      refine ⟨by rw [silent]; rfl, ?_⟩
      rintro value rfl
      exact (returns_announceScanned context scannedTo).ok resumed

/-- A scan commits nothing, or commits a chunk and then compares at the chunk's end
before anything else touches the store. -/
theorem runs_scanAndEmit (nonempty : 0 < context.blockCount)
    (run : Runs (scanAndEmit context fromState epoch).run trace outcome) :
    AttemptShape (storeActions trace) outcome := by
  rcases Fallible.runs_bind_cases run with ⟨stopped, failed⟩ | ⟨result, start, rest, rfl, scan, resumed⟩
  · rcases Fallible.runs_call_iff.mp stopped with ⟨rfl, -⟩ | ⟨reply, rfl, -⟩
    · exact .idle fun value ok => absurd ok (failed value)
    · cases reply with
      | error error => exact .idle fun value ok => absurd ok (failed value)
      | ok result => exact .uncompared failed
  · obtain ⟨reply, rfl, rfl⟩ := Fallible.runs_call_ok scan
    rcases runs_checkAndAnnounce resumed with ⟨quiet, failed⟩ | ⟨compared, value⟩
    · rw [storeActions_append,quiet]
      exact .uncompared failed
    · rw [storeActions_append,compared]
      exact .compared fun outcome ok =>
        ⟨(value outcome ok).1, (value outcome ok).2 ▸ nonempty⟩

/-! Attempts and runs. -/

/-- The attempt a run repeats: a stale record is renewed first. -/
def attemptCall (wallet : SyncWallet) (turns : Nat) : ChainTipRecord → SyncM SyncOutcome
  | .stale => syncInner wallet turns
  | .current => scanQueuedRangeInner wallet turns

/-- The calls before the scan of an attempt. -/
def Prepares (chainTip : ChainTipRecord) (command : SyncCommand) : Prop :=
  Plans command ∨ chainTip = .stale ∧ RecordsTip command

theorem storeAction_of_prepares {event : SyncEvent} (prepares : Prepares chainTip event.command) :
    storeAction event = none := by
  rcases prepares with plans | ⟨-, records⟩
  · exact storeAction_of_plans plans
  · exact storeAction_of_recordsTip records

/-- One attempt prepares and commits nothing, or prepares and then scans one chunk. A
stale record is renewed before an attempt scans or reports caught up. -/
inductive Attempted (chainTip : ChainTipRecord) (trace : List SyncEvent)
    (outcome : Option (Except WalletError SyncOutcome)) : Prop where
  | planned : (∀ event ∈ trace, Prepares chainTip event.command) →
      (∀ value, outcome = some (.ok value) → value.blockCount = 0 ∧
        (chainTip = .stale → ∃ event ∈ trace, TipRecord event)) →
      Attempted chainTip trace outcome
  | scanned (context : ScanContext) (fromState : TreeStateArtifact) (epoch : ChainEpoch)
      (before after : List SyncEvent) : trace = before ++ after → 0 < context.blockCount →
      (∀ event ∈ before, Prepares chainTip event.command) →
      (chainTip = .stale → ∃ event ∈ before, TipRecord event) →
      Runs (scanAndEmit context fromState epoch).run after outcome →
      Attempted chainTip trace outcome

theorem within_pinChainEpoch (wallet : SyncWallet) :
    (pinChainEpoch wallet).run.Within Plans := by
  unfold pinChainEpoch
  split
  · trivial
  · exact within_read ⟨trivial, fun _ => trivial⟩

theorem within_recordTip (epoch : ChainEpoch) : (recordTip epoch).run.Within RecordsTip :=
  Fallible.within_bind (Fallible.within_call ⟨trivial, fun _ => trivial⟩) fun _ =>
    Fallible.within_call ⟨trivial, fun _ => trivial⟩

theorem runs_recordTip (run : Runs (recordTip epoch).run trace (some (.ok ()))) :
    ∃ event ∈ trace, TipRecord event := by
  rcases Fallible.runs_bind_cases run with ⟨-, failed⟩ | ⟨_, first, rest, rfl, -, recorded⟩
  · exact absurd rfl (failed ())
  obtain ⟨reply, rfl, rfl⟩ := Fallible.runs_call_ok recorded
  exact ⟨_, List.mem_append_right _ List.mem_cons_self, trivial⟩

/-- The planning and scan of a chunk after the attempt prepared with `before`. -/
theorem attempted_scan (prepared : ∀ event ∈ before, Prepares chainTip event.command)
    (recorded : chainTip = .stale → ∃ event ∈ before, TipRecord event)
    (run : Runs (scanOneRange turns epoch).run after outcome) :
    Attempted chainTip (before ++ after) outcome := by
  have widen : ∀ {events : List SyncEvent}, (∀ event ∈ events, Plans event.command) →
      ∀ event ∈ before ++ events, Prepares chainTip event.command := fun plans =>
    List.forall_mem_append.mpr ⟨prepared, fun event member => .inl (plans event member)⟩
  have kept : ∀ events, chainTip = .stale → ∃ event ∈ before ++ events, TipRecord event := by
    intro events stale
    obtain ⟨event, member, record⟩ := recorded stale
    exact ⟨event, List.mem_append_left _ member, record⟩
  rcases runs_scanOneRange run with ⟨plans, caughtUp⟩ |
    ⟨context, fromState, first, second, rfl, nonempty, plans, scan⟩
  · exact .planned (widen plans) fun value ok => ⟨caughtUp value ok, kept after⟩
  · exact .scanned context fromState epoch (before ++ first) second (by simp) nonempty
      (widen plans) (kept first) scan

theorem runs_attemptCall (run : Runs (attemptCall wallet turns chainTip).run trace outcome) :
    Attempted chainTip trace outcome := by
  have pinning := within_pinChainEpoch wallet
  have plans : ∀ {events : List SyncEvent}, (∀ event ∈ events, Plans event.command) →
      ∀ event ∈ events, Prepares chainTip event.command :=
    fun within event member => .inl (within event member)
  cases chainTip with
  | current =>
    rcases Fallible.runs_bind_cases run with ⟨stopped, failed⟩ | ⟨epoch, first, rest, rfl, pin, scan⟩
    · exact .planned (plans (stopped.within pinning)) fun value ok => absurd ok (failed value)
    · exact attempted_scan (plans (pin.within pinning)) nofun scan
  | stale =>
    rcases Fallible.runs_bind_cases run with ⟨stopped, failed⟩ | ⟨epoch, first, rest, rfl, pin, resumed⟩
    · exact .planned (plans (stopped.within pinning)) fun value ok => absurd ok (failed value)
    have recording : ∀ {events : List SyncEvent}, (∀ event ∈ events, RecordsTip event.command) →
        ∀ event ∈ first ++ events, Prepares .stale event.command := fun records =>
      List.forall_mem_append.mpr ⟨plans (pin.within pinning),
        fun event member => .inr ⟨rfl, records event member⟩⟩
    rcases Fallible.runs_bind_cases resumed with ⟨stopped, failed⟩ | ⟨_, second, after, rfl, record, scan⟩
    · exact .planned (recording (stopped.within (within_recordTip epoch)))
        fun value ok => absurd ok (failed value)
    · rw [← List.append_assoc]
      apply attempted_scan (recording (record.within (within_recordTip epoch))) _ scan
      intro _
      obtain ⟨event, member, found⟩ := runs_recordTip record
      exact ⟨event, List.mem_append_right _ member, found⟩

theorem Attempted.shape (attempted : Attempted chainTip trace outcome) :
    AttemptShape (storeActions trace) outcome := by
  cases attempted with
  | planned prepares caughtUp =>
    rw [storeActions_eq_nil fun event member => storeAction_of_prepares (prepares event member)]
    exact .idle fun value ok => (caughtUp value ok).1
  | scanned context fromState epoch before after split nonempty prepares recorded scan =>
    rw [split,storeActions_append,
      storeActions_eq_nil fun event member => storeAction_of_prepares (prepares event member)]
    exact runs_scanAndEmit nonempty scan

/-- The calls of one attempt and what it returned, nothing when it was cut. -/
structure AttemptRun where
  trace : List SyncEvent
  outcome : Option (Except WalletError SyncOutcome)

/-- A run is its attempts: everything else it does is waiting and bookkeeping, and its
value is the last attempt's. -/
structure MadeOf (attempt : SyncM SyncOutcome) (attempts : List AttemptRun)
    (trace : List SyncEvent) (outcome : Option (Except WalletError SyncOutcome)) : Prop where
  runs : ∀ one ∈ attempts, Runs attempt.run one.trace one.outcome
  seen : ∀ {β : Type} (view : SyncEvent → Option β),
    (∀ event, Idle event.command → view event = none) →
    trace.filterMap view = attempts.flatMap fun one => one.trace.filterMap view
  final : ∀ value, outcome = some (.ok value) →
    ∃ earlier last, attempts = earlier ++ [⟨last, some (.ok value)⟩]

theorem port_idle : port.Within Idle :=
  ⟨fun _ => ⟨trivial, fun _ => trivial⟩, ⟨trivial, fun _ => trivial⟩,
    ⟨trivial, fun _ => trivial⟩, ⟨trivial, fun _ => trivial⟩⟩

theorem within_retireExpired (wallet : SyncWallet) :
    (retireExpiredPendingBroadcasts wallet).run.Within Idle :=
  ⟨trivial, fun _ => Fallible.within_bind (Fallible.within_call ⟨trivial, fun _ => trivial⟩)
    fun _ => trivial⟩

theorem filterMap_idle {β : Type} {view : SyncEvent → Option β} {trace : List SyncEvent}
    (hidden : ∀ event, Idle event.command → view event = none)
    (idle : ∀ event ∈ trace, Idle event.command) : trace.filterMap view = [] :=
  List.filterMap_eq_nil_iff.mpr fun event member => hidden event (idle event member)

theorem runs_retried (attempt : SyncM SyncOutcome)
    (run : Runs (withRetry port policy WalletError.posture attempt.run) trace outcome) :
    ∃ attempts, MadeOf attempt attempts trace outcome := by
  obtain ⟨failed, last, rfl, earlier, final⟩ := runs_retryLoop run
  have attempts : ∀ failed : List (List SyncEvent × List SyncEvent),
      (∀ one ∈ failed, (∃ error, Runs attempt.run one.1 (some (.error error))) ∧
        ∃ delayMs slept, Runs (port.sleep delayMs) one.2 slept) →
      ∃ attempts : List AttemptRun, (∀ one ∈ attempts, Runs attempt.run one.trace one.outcome) ∧
        ∀ {β : Type} (view : SyncEvent → Option β),
          (∀ event, Idle event.command → view event = none) →
          (failed.flatMap fun one => one.1 ++ one.2).filterMap view =
            attempts.flatMap fun one => one.trace.filterMap view := by
    intro failed
    induction failed with
    | nil => exact fun _ => ⟨[], by simp, by simp⟩
    | cons one failed ih =>
      intro holds
      obtain ⟨⟨⟨error, ran⟩, delayMs, slept, waited⟩, rest⟩ := List.forall_mem_cons.mp holds
      obtain ⟨attempts, runs, seen⟩ := ih rest
      refine ⟨⟨one.1, some (.error error)⟩ :: attempts, List.forall_mem_cons.mpr ⟨ran, runs⟩, ?_⟩
      intro β view hidden
      rw [List.flatMap_cons,List.flatMap_cons,List.filterMap_append,List.filterMap_append,
        seen view hidden,filterMap_idle hidden (waited.within (port_idle.sleep delayMs)),
        List.append_nil]
  obtain ⟨attempts, runs, seen⟩ := attempts failed earlier
  refine ⟨attempts ++ [⟨last, outcome⟩], ?_, ?_, ?_⟩
  · exact List.forall_mem_append.mpr ⟨runs, by simpa using final⟩
  · intro β view hidden
    rw [List.filterMap_append,seen view hidden]
    simp
  · rintro value rfl
    exact ⟨attempts, last, rfl⟩

/-- Idle calls before and after a run are none of its attempts. -/
theorem MadeOf.surround (made : MadeOf attempt attempts trace outcome)
    (before : ∀ event ∈ first, Idle event.command) (after : ∀ event ∈ last, Idle event.command)
    (value : ∀ value, result = some (.ok value) → outcome = some (.ok value)) :
    MadeOf attempt attempts (first ++ (trace ++ last)) result := by
  refine ⟨made.runs, fun view hidden => ?_, fun outcome ok => made.final outcome (value outcome ok)⟩
  rw [List.filterMap_append,List.filterMap_append,filterMap_idle hidden before,
    filterMap_idle hidden after,made.seen view hidden]
  simp

theorem made_of_idle (idle : ∀ event ∈ trace, Idle event.command)
    (failed : ∀ value, outcome ≠ some (.ok value)) :
    ∃ attempts, MadeOf attempt attempts trace outcome :=
  ⟨[], by simp, fun view hidden => by simpa using filterMap_idle hidden idle,
    fun value ok => absurd ok (failed value)⟩

theorem idle_of_settles (settles : Settles port trace) :
    ∀ event ∈ trace, Idle event.command := by
  rcases settles with rfl | ⟨outcome, run⟩ | ⟨outcome, run⟩
  · simp
  · exact run.within port_idle.recordSuccess
  · exact run.within port_idle.recordFailure

theorem runs_guardedAttempts (attempt : SyncM SyncOutcome)
    (run : Runs (withBreakerAndRetry port policy label WalletError.posture attempt.run id).run
      trace outcome) : ∃ attempts, MadeOf attempt attempts trace outcome := by
  rcases runs_withBreakerAndRetry run with ⟨rfl, gate⟩ | ⟨gate, stopped⟩ |
    ⟨gate, retried, settle, rfl, allowed, settles, retrying⟩
  · exact made_of_idle (gate.within port_idle.allowCall) (by simp)
  · refine made_of_idle (gate.within port_idle.allowCall) fun value ok => ?_
    rcases stopped with rfl | rfl <;> simp at ok
  have before := allowed.within port_idle.allowCall
  have after := idle_of_settles settles
  rcases retrying with ⟨rfl, cut⟩ | ⟨result, finished, returned⟩
  · obtain ⟨attempts, made⟩ := runs_retried attempt cut
    exact ⟨attempts, made.surround before after (by simp)⟩
  · obtain ⟨attempts, made⟩ := runs_retried attempt finished
    refine ⟨attempts, made.surround before after fun value ok => ?_⟩
    rcases returned with rfl | rfl
    · simp at ok
    · cases result with
      | ok value => simpa [Except.mapError] using ok
      | error error => simp [Except.mapError] at ok

/-- Every run of a scan call is made of attempts. -/
theorem runs_scanCall (run : Runs (scanCall wallet turns chainTip).run trace outcome) :
    ∃ attempts, MadeOf (attemptCall wallet turns chainTip) attempts trace outcome := by
  have scan : ∃ label, Runs (runScanAttempt wallet label (attemptCall wallet turns chainTip)).run
      trace outcome := by
    cases chainTip with
    | stale => exact ⟨_, run⟩
    | current => exact ⟨_, run⟩
  obtain ⟨label, scan⟩ := scan
  rcases Fallible.runs_bind_cases scan with ⟨stopped, failed⟩ | ⟨value, first, second, rfl, guarded, rest⟩
  · obtain ⟨attempts, made⟩ := runs_guardedAttempts _ stopped
    exact ⟨attempts, made.runs, made.seen, fun value ok => absurd ok (failed value)⟩
  obtain ⟨attempts, made⟩ := runs_guardedAttempts _ guarded
  rcases Fallible.runs_bind_cases rest with ⟨stopped, failed⟩ | ⟨_, third, last, rfl, retired, ended⟩
  · have idle := stopped.within (within_retireExpired wallet)
    have surrounded : MadeOf (attemptCall wallet turns chainTip) attempts ([] ++ (first ++ second)) outcome :=
      made.surround (by simp) idle fun value ok => absurd ok (failed value)
    exact ⟨attempts, surrounded⟩
  · have idle := retired.within (within_retireExpired wallet)
    obtain ⟨rfl, returned⟩ := runs_done_iff.mp ended
    have surrounded : MadeOf (attemptCall wallet turns chainTip) attempts ([] ++ (first ++ third)) outcome := by
      apply made.surround (by simp) idle
      intro other ok
      rcases returned with rfl | rfl
      · simp at ok
      · simpa using ok
    exact ⟨attempts, by simpa using surrounded⟩

/-! A chain of one block that the wallet scans, for the runs on fixed answers. -/

def sampleSyncWallet : SyncWallet where
  network := .mainnet
  chainNetwork := .mainnet
  retryPolicy := ⟨2, 0, 0, 10⟩
  pendingBroadcastWindowMs := 0

def sampleEpoch (tip : BlockHeight) : ChainEpoch := ⟨tip, tip, tip⟩

def sampleTreeState (height : BlockHeight) : TreeStateArtifact := ⟨height, [], [], []⟩

/-- The calls that pin an epoch and record its tip. -/
def tipTrace (tip : BlockHeight) : List SyncEvent :=
  [⟨.currentEpoch, .ok (sampleEpoch tip)⟩, ⟨.updateChainTip tip, .ok ()⟩,
    ⟨.recordChainTips tip tip, .ok ()⟩]

/-- Block one is planned, fetched and committed. -/
def commitTrace : List SyncEvent :=
  [⟨.suggestScanRanges, .ok [⟨1, 2, .historic⟩]⟩, ⟨.publishEvents [.scanProgress 1 1], ()⟩,
    ⟨.treeStateAt (sampleEpoch 1) 0, .ok (sampleTreeState 0)⟩,
    ⟨.compactBlocks (sampleEpoch 1) 1 1, .ok ()⟩, ⟨.nextCompactBlock, some (.ok ⟨1, 0⟩)⟩,
    ⟨.nextCompactBlock, none⟩,
    ⟨.scanBlocks ⟨[⟨1, 0⟩], 1, sampleTreeState 0⟩, .ok ⟨1, 1⟩⟩]

/-- Its roots agree with the chain's, and nothing in it belongs to the wallet. -/
def compareTrace : List SyncEvent :=
  [⟨.commitmentTreeRoots, .ok ⟨some 7, none, none⟩⟩,
    ⟨.treeStateAt (sampleEpoch 1) 1, .ok (sampleTreeState 1)⟩,
    ⟨.treeStateRoots (sampleTreeState 1), .ok ⟨some 7, some 0, some 0⟩⟩,
    ⟨.traceRootCheck 1 .matched, ()⟩, ⟨.walletTxIdsMinedInRange 1 1, .ok []⟩,
    ⟨.publishEvents [], ()⟩, ⟨.receivedShieldedNotesMinedInRange 1 1, .ok []⟩,
    ⟨.publishEvents [.scanProgress 1 1], ()⟩, ⟨.currentUnixMs, 5⟩]

def settleTrace (nowMs : Nat) : List SyncEvent :=
  [⟨.recordSuccess, ()⟩, ⟨.currentUnixMs, nowMs⟩,
    ⟨.clearExpiredPendingBroadcastInputs nowMs, .ok 0⟩]

/-- A run that scans block one and compares it. -/
def scannedTrace : List SyncEvent :=
  ⟨.allowCall, true⟩ :: tipTrace 1 ++ commitTrace ++ compareTrace ++ settleTrace 5

theorem scannedTrace_runs : Runs (scanCall sampleSyncWallet 0 .stale).run scannedTrace
    (some (.ok ⟨1, 1, 1, 5⟩)) := by
  repeat' apply Runs.await
  exact Runs.done

/-- A run whose first attempt commits block one and loses its epoch pin in the comparison;
the second attempt records a newer tip and fails before its scan. -/
def retriedTrace : List SyncEvent :=
  ⟨.allowCall, true⟩ :: tipTrace 1 ++ commitTrace ++
    [⟨.commitmentTreeRoots, .ok ⟨some 7, none, none⟩⟩,
      ⟨.treeStateAt (sampleEpoch 1) 1, .error .chainEpochPinUnavailable⟩, ⟨.sleep 0, ()⟩] ++
    tipTrace 2 ++
    [⟨.suggestScanRanges, .ok [⟨2, 3, .chainTip⟩]⟩, ⟨.publishEvents [.scanProgress 2 2], ()⟩,
      ⟨.treeStateAt (sampleEpoch 2) 1, .error (.unavailable "connection refused")⟩,
      ⟨.recordFailure, ()⟩]

theorem retriedTrace_runs : Runs (scanCall sampleSyncWallet 0 .stale).run retriedTrace
    (some (.error (.chainSource (.unavailable "connection refused")))) := by
  repeat' apply Runs.await
  exact Runs.done

end Zally.Sync
