import Zally.Async.Machine
import Zally.Wallet.TransparentRefresh

/-! Refreshes interleaved with rewinds and rescans of the wallet: a write is compared with the
frontier its walk read, and not with the rewinds since its epoch was pinned. -/
namespace Zally.Refresh

open Async Async.Program

/-- One operation on the wallet's storage: a step of a refresh, with the failure that a write
meets, a rewind to a height, or a scan; the last two leave the store they name. -/
inductive Operation where
  | refresh (call : Nat) (fault : StepFault RecordStep) (event : RefreshEvent)
  | rewound (height : BlockHeight) (store : UtxoStore)
  | rescanned (store : UtxoStore)

/-- The storage before and after one answered command of a refresh. -/
def Answers (library : UtxoLibrary) (fault : StepFault RecordStep) (before : UtxoStore) :
    RefreshEvent → UtxoStore → Prop
  | ⟨.fullyScannedHeight, answer⟩, after =>
    ((∃ error, answer = .error error) ∨ answer = .ok before.fullyScannedHeight) ∧ after = before
  | ⟨.recordTransparentUtxos minScannedHeight utxos, answer⟩, after =>
    recordTransparentUtxos library fault minScannedHeight utxos before = (answer, after)
  | ⟨_, _⟩, after => after = before

def Step (library : UtxoLibrary) (before : UtxoStore) : Operation → UtxoStore → Prop
  | .refresh _ fault event, after => Answers library fault before event after
  | .rewound height store, after =>
    after = store ∧ ∀ scanned, store.fullyScannedHeight = some scanned → scanned ≤ height
  | .rescanned store, after => after = store

def Operation.event? : Operation → Option (Nat × RefreshEvent)
  | refresh call _ event => some (call, event)
  | rewound _ _ | rescanned _ => none

/-- The commands of one call among the operations. -/
def eventsOf (call : Nat) (world : List Operation) : List RefreshEvent :=
  localTrace call (world.filterMap Operation.event?)

theorem eventsOf_append : eventsOf call (before ++ after) =
    eventsOf call before ++ eventsOf call after := by
  rw [eventsOf,List.filterMap_append,localTrace_append,eventsOf,eventsOf]

@[simp] theorem eventsOf_cons_self : eventsOf call (.refresh call fault event :: world) =
    event :: eventsOf call world := by
  simp [eventsOf,Operation.event?]

/-- Any number of refreshes, each cut anywhere, interleaved with rewinds and scans. -/
structure Execution (library : UtxoLibrary) (start : UtxoStore) (world : List Operation)
    (final : UtxoStore) : Prop where
  path : Path (Step library) start world final
  calls : ∀ call, ∃ wallet outcome,
    Runs (refreshTransparentUtxos wallet).run (eventsOf call world) outcome

/-- A rewind landed after the epoch that the call has pinned. -/
def RewoundSincePin (call : Nat) (earlier : List Operation) : Prop :=
  ∃ before fault epoch since,
    earlier = before ++ .refresh call fault ⟨.currentEpoch, .ok epoch⟩ :: since ∧
    (∀ fault answer, .refresh call fault ⟨.currentEpoch, answer⟩ ∉ since) ∧
    ∃ height store, .rewound height store ∈ since

/-- No output is committed once a rewind has landed after the epoch it was fetched under. -/
def NeverAcrossRewind (world : List Operation) : Prop :=
  ∀ earlier call fault minScannedHeight utxos recordedCount later,
    world = earlier ++
      .refresh call fault ⟨.recordTransparentUtxos minScannedHeight utxos, .ok recordedCount⟩ :: later →
    RewoundSincePin call earlier → utxos = []

/-- Where a call is about to commit after such a rewind, it had fetched nothing, or the write is
hindered, or the scanned frontier is below the one that the walk read. -/
def RecededAtCommit (library : UtxoLibrary) (start : UtxoStore) (world : List Operation) :
    Prop :=
  ∀ earlier call fault minScannedHeight utxos answer later before,
    world = earlier ++
      .refresh call fault ⟨.recordTransparentUtxos minScannedHeight utxos, answer⟩ :: later →
    Path (Step library) start earlier before → RewoundSincePin call earlier →
    let walk := Walk.ofEvents (eventsOf call earlier)
    walk.fetched = [] ∨
      Hindered library fault walk.frontier (walk.fetched.map TransparentUtxo.row) ∨
      Receded walk.frontier before.fullyScannedHeight

theorem step_deterministic (library : UtxoLibrary) (before : UtxoStore)
    (operation : Operation) (after other : UtxoStore) (first : Step library before operation after)
    (second : Step library before operation other) : after = other := by
  cases operation with
  | refresh call fault event =>
    rcases event with ⟨command, answer⟩
    cases command with
    | fullyScannedHeight => exact first.2.trans second.2.symm
    | recordTransparentUtxos minScannedHeight utxos =>
      have same : (answer, after) = (answer, other) := Eq.trans (Eq.symm first) second
      exact (Prod.mk.inj same).2
    | _ => exact Eq.trans first (Eq.symm second)
  | rewound height store => exact first.1.trans second.1.symm
  | rescanned store => exact Eq.trans first (Eq.symm second)

/-- What a call sends to be recorded is what it fetched last, behind the frontier it read. -/
theorem Execution.recorded (execution : Execution library start world final)
    (split : world = earlier ++
      .refresh call fault ⟨.recordTransparentUtxos minScannedHeight utxos, answer⟩ :: later) :
    minScannedHeight = (Walk.ofEvents (eventsOf call earlier)).frontier ∧
      utxos = (Walk.ofEvents (eventsOf call earlier)).fetched.map TransparentUtxo.row := by
  obtain ⟨wallet, outcome, run⟩ := execution.calls call
  rw [split,eventsOf_append,eventsOf_cons_self] at run
  exact run.allowed (follows_refreshTransparentUtxos wallet ⟨none, none, []⟩)

theorem answered_ok_iff {store after : UtxoStore} (moves : Step library store
      (.refresh call fault ⟨.recordTransparentUtxos minScannedHeight utxos, answer⟩) after) :
    (∃ recordedCount, answer = .ok recordedCount) ↔
      ¬Hindered library fault minScannedHeight utxos ∧
        ¬Receded minScannedHeight store.fullyScannedHeight := by
  have answered : recordTransparentUtxos library fault minScannedHeight utxos store =
      (answer, after) := moves
  rw [← recordTransparentUtxos_ok_iff,answered]

/-- Refreshes commit nothing across a rewind exactly when each write that would finds the
frontier receded below the one its walk read. -/
theorem refresh_never_across_rewind_iff (library : UtxoLibrary) (start final : UtxoStore)
    (world : List Operation) (execution : Execution library start world final) :
    NeverAcrossRewind world ↔ RecededAtCommit library start world := by
  constructor
  · intro never earlier call fault minScannedHeight utxos answer later before split reached rewound
    obtain ⟨rfl, rows⟩ := execution.recorded split
    obtain ⟨after, moves⟩ := (split ▸ execution.path).step_of_append (step_deterministic library)
      reached
    by_cases committed : ∃ recordedCount, answer = .ok recordedCount
    · obtain ⟨recordedCount, rfl⟩ := committed
      have nothing : utxos = [] := never _ _ _ _ _ _ _ split rewound
      rw [nothing] at rows
      exact .inl (List.map_eq_nil_iff.mp rows.symm)
    · rw [answered_ok_iff moves,rows] at committed
      by_cases hindered : Hindered library fault (Walk.ofEvents (eventsOf call earlier)).frontier
          ((Walk.ofEvents (eventsOf call earlier)).fetched.map TransparentUtxo.row)
      · exact .inr (.inl hindered)
      · exact .inr (.inr (Classical.not_not.mp fun kept => committed ⟨hindered, kept⟩))
  · intro receded earlier call fault minScannedHeight utxos recordedCount later split rewound
    obtain ⟨rfl, rows⟩ := execution.recorded split
    have path := execution.path
    rw [split] at path
    obtain ⟨before, reached, rest⟩ := Path.append_iff.mp path
    cases rest with
    | cons moves _ =>
      obtain ⟨free, kept⟩ := (answered_ok_iff moves).mp ⟨recordedCount, rfl⟩
      rw [rows] at free
      rcases receded _ _ _ _ _ _ _ before split reached rewound with nothing | hindered | below
      · rw [rows,nothing,List.map_nil]
      · exact absurd hindered free
      · exact absurd below kept

theorem frontier_of_answers (answers : Answers library fault before event after) :
    after.fullyScannedHeight = before.fullyScannedHeight := by
  rcases event with ⟨command, answer⟩
  cases command with
  | fullyScannedHeight => rw [answers.2]
  | recordTransparentUtxos minScannedHeight utxos =>
    have written : recordTransparentUtxos library fault minScannedHeight utxos before =
        (answer, after) := answers
    unfold recordTransparentUtxos at written
    split at written <;> cases written <;> rfl
  | _ => rw [show after = before from answers]

/-- The steps of refreshes leave the frontier alone. -/
theorem frontier_of_path (path : Path (Step library) start world final)
    (quiet : ∀ operation ∈ world, ∃ call fault event, operation = .refresh call fault event) :
    final.fullyScannedHeight = start.fullyScannedHeight := by
  induction path with
  | nil => rfl
  | cons moves _ ih =>
    rw [ih fun operation member => quiet operation (List.mem_cons_of_mem _ member)]
    obtain ⟨call, fault, event, rfl⟩ := quiet _ List.mem_cons_self
    exact frontier_of_answers moves

/-- A rewind below the frontier that a walk read refuses the walk's writes, as long as nothing
but refreshes follows it. -/
theorem receded_of_rewound
    (path : Path (Step library) start (earlier ++ .rewound height store :: since) final)
    (quiet : ∀ operation ∈ since, ∃ call fault event, operation = .refresh call fault event)
    (below : height < floor) : Receded (some floor) final.fullyScannedHeight := by
  obtain ⟨middle, _, rest⟩ := Path.append_iff.mp path
  cases rest with
  | cons moves rest =>
    obtain ⟨rfl, lowered⟩ := moves
    rw [frontier_of_path rest quiet]
    exact ⟨floor, rfl, fun scanned same => Nat.lt_of_le_of_lt (lowered scanned same) below⟩

/-! One receiver with one output, and a walk that stops before its write. -/

def sampleEpoch : ChainEpoch := ⟨1, 10, 10⟩

def sampleUtxo : TransparentUtxo := ⟨0xAB, 0, ⟨⟨70⟩, by decide⟩, 9, [1]⟩

/-- A library that keeps the mined height of an output with its transaction. -/
def sampleLibrary : UtxoLibrary where
  recognized _ := true
  putReceivedTransparentUtxo recorded row outPoint :=
    if outPoint = row.outPoint then some row
    else if outPoint.txId = row.txId then (recorded outPoint).map (·.atHeight row.minedHeight)
    else recorded outPoint

theorem sampleLibrary_upserts : sampleLibrary.Upserts where
  self recorded row := if_pos rfl
  other recorded row outPoint apart := by
    simp only [sampleLibrary,if_neg apart]
    by_cases same : outPoint.txId = row.txId
    · exact .inr ⟨same, if_pos same⟩
    · exact .inl (if_neg same)

def sampleStore (fullyScannedHeight : Option BlockHeight) : UtxoStore :=
  ⟨fullyScannedHeight, fun _ => none⟩

def rewoundTo (height : BlockHeight) : Operation := .rewound height (sampleStore (some height))

def rescannedTo (height : BlockHeight) : Operation := .rescanned (sampleStore (some height))

def sampleTexts : RefreshTexts := ⟨Wire.Hex.reference, BitVec.toHex⟩

def sampleWallet : RefreshWallet := ⟨.mainnet, .mainnet, ⟨1, 0, 0, 10⟩, sampleTexts⟩

def sampleReads (frontier : Option BlockHeight) : List RefreshEvent := [
  ⟨.allowCall, true⟩,
  ⟨.currentEpoch, .ok sampleEpoch⟩,
  ⟨.fullyScannedHeight, .ok frontier⟩,
  ⟨.listTransparentReceivers, .ok [⟨⟨7⟩, [1]⟩]⟩,
  ⟨.currentUnixMs, 0⟩,
  ⟨.transparentUtxos sampleEpoch [1], .ok [sampleUtxo]⟩]

def sampleWrite (frontier : Option BlockHeight) (answer : Except StorageError Nat) : RefreshEvent :=
  ⟨.recordTransparentUtxos frontier [sampleUtxo.row], answer⟩

variable {frontier : Option BlockHeight}

/-- The walk, other operations after its fetch, and its write. -/
def sampleWorld (frontier : Option BlockHeight) (between : List Operation)
    (answer : Except StorageError Nat) : List Operation :=
  (sampleReads frontier).map (.refresh 0 none) ++ between ++ [.refresh 0 none (sampleWrite frontier answer)]

theorem sampleReads_path (frontier : Option BlockHeight) :
    Path (Step sampleLibrary) (sampleStore frontier) ((sampleReads frontier).map (.refresh 0 none))
      (sampleStore frontier) :=
  .cons rfl (.cons rfl (.cons ⟨.inr rfl, rfl⟩ (.cons rfl (.cons rfl (.cons rfl .nil)))))

theorem sample_runs (frontier : Option BlockHeight) (answer : Except StorageError Nat) :
    Runs (refreshTransparentUtxos sampleWallet).run (sampleReads frontier ++ [sampleWrite frontier answer])
      none := by
  repeat' apply Runs.await
  exact .cut

theorem eventsOf_sampleWorld (quiet : between.filterMap Operation.event? = []) (call : Nat) :
    eventsOf call (sampleWorld frontier between answer) =
      if call = 0 then sampleReads frontier ++ [sampleWrite frontier answer] else [] := by
  have reads : ∀ events : List RefreshEvent, (events.map (Operation.refresh 0 none)).filterMap
      Operation.event? = events.map (Prod.mk 0) := fun events => by
    simp [List.filterMap_map,Function.comp_def,Operation.event?]
  have trace : (sampleWorld frontier between answer).filterMap Operation.event? =
      (sampleReads frontier ++ [sampleWrite frontier answer]).map (Prod.mk 0) := by
    rw [sampleWorld,List.filterMap_append,List.filterMap_append,quiet,reads,List.append_nil,
      List.map_append]
    rfl
  rw [eventsOf,trace]
  by_cases same : call = 0
  · rw [if_pos same,same,localTrace_map]
  · rw [if_neg same,localTrace_map_other (Ne.symm same)]

theorem sample_execution (quiet : between.filterMap Operation.event? = [])
    (path : Path (Step sampleLibrary) (sampleStore frontier) between store)
    (moves : Step sampleLibrary store (.refresh 0 none (sampleWrite frontier answer)) final) :
    Execution sampleLibrary (sampleStore frontier) (sampleWorld frontier between answer) final where
  path := ((sampleReads_path frontier).append path).append (.cons moves .nil)
  calls call := by
    refine ⟨sampleWallet, none, ?_⟩
    rw [eventsOf_sampleWorld quiet]
    split
    · exact sample_runs frontier answer
    · exact .cut

theorem sample_rewound (height : BlockHeight) (quiet : between.filterMap Operation.event? = [])
    (rewound : rewoundTo height ∈ between) :
    RewoundSincePin 0 ((sampleReads frontier).map (.refresh 0 none) ++ between) := by
  refine ⟨[.refresh 0 none ⟨.allowCall, true⟩], none, sampleEpoch, _, rfl, ?_, height, _,
    List.mem_append_right _ rewound⟩
  intro fault answer member
  rcases List.mem_append.mp member with read | other
  · simp at read
  · cases List.filterMap_eq_nil_iff.mp quiet _ other

theorem sample_crosses (height : BlockHeight) (quiet : between.filterMap Operation.event? = [])
    (rewound : rewoundTo height ∈ between) :
    ¬NeverAcrossRewind (sampleWorld frontier between (.ok 1)) := by
  intro never
  have nothing := never _ 0 none frontier _ 1 [] rfl (sample_rewound height quiet rewound)
  exact List.cons_ne_nil _ _ nothing

theorem sample_commits (quiet : between.filterMap Operation.event? = [])
    (path : Path (Step sampleLibrary) (sampleStore frontier) between (sampleStore scanned))
    (kept : ¬Receded frontier scanned) :
    ∃ final, Execution sampleLibrary (sampleStore frontier)
        (sampleWorld frontier between (.ok 1)) final ∧
      final.recorded sampleUtxo.outPoint = some sampleUtxo.row := by
  refine ⟨⟨scanned, sampleLibrary.putReceivedTransparentUtxo (fun _ => none) sampleUtxo.row⟩,
    sample_execution quiet path ?_,
    sampleLibrary_upserts.self (fun _ => none) sampleUtxo.row⟩
  have passes : checkScanFrontier none frontier scanned = .ok () :=
    checkScanFrontier_ok_iff.mpr ⟨fun _ => rfl, kept⟩
  have put : guardedPut sampleLibrary none frontier [sampleUtxo.row] (sampleStore scanned) =
      .ok (1, sampleLibrary.putReceivedTransparentUtxo (fun _ => none) sampleUtxo.row) := by
    rw [guardedPut,sampleStore,passes]
    rfl
  change recordTransparentUtxos _ _ _ _ _ = _
  rw [recordTransparentUtxos,put]
  rfl

theorem rewoundTo_step {before : UtxoStore} (height : BlockHeight) :
    Step sampleLibrary before (rewoundTo height) (sampleStore (some height)) := by
  refine ⟨rfl, fun scanned same => ?_⟩
  cases same
  exact Nat.le_refl _

/-- The rewind alone is noticed: the write is refused. -/
theorem rewound_write_refused : NeverAcrossRewind (sampleWorld (some 10) [rewoundTo 5]
    (.error (.scanFrontierReceded 10 (some 5)))) := by
  have execution : Execution sampleLibrary (sampleStore (some 10))
      (sampleWorld (some 10) [rewoundTo 5] (.error (.scanFrontierReceded 10 (some 5))))
      (sampleStore (some 5)) := sample_execution rfl (.cons (rewoundTo_step 5) .nil) rfl
  refine (refresh_never_across_rewind_iff _ _ _ _ execution).mpr ?_
  intro earlier call fault minScannedHeight utxos answer later before split reached _
  obtain ⟨rfl, same, -⟩ := (List.append_cons_inj_of_notMem (by simp [sampleReads,rewoundTo])
    (by simp)).mp split
  cases same
  exact .inr (.inr (receded_of_rewound reached (by simp) (by decide)))

/-- A scan brought the wallet back to the frontier that the walk read, or the walk knew no
frontier: the output is committed across the rewind. -/
theorem rescanned_write_commits :
    (∃ final, Execution sampleLibrary (sampleStore (some 10))
        (sampleWorld (some 10) [rewoundTo 5, rescannedTo 10] (.ok 1)) final ∧
      final.recorded sampleUtxo.outPoint = some sampleUtxo.row) ∧
    ¬NeverAcrossRewind (sampleWorld (some 10) [rewoundTo 5, rescannedTo 10] (.ok 1)) ∧
    (∃ final, Execution sampleLibrary (sampleStore none)
        (sampleWorld none [rescannedTo 10, rewoundTo 5] (.ok 1)) final ∧
      final.recorded sampleUtxo.outPoint = some sampleUtxo.row) ∧
    ¬NeverAcrossRewind (sampleWorld none [rescannedTo 10, rewoundTo 5] (.ok 1)) := by
  refine ⟨sample_commits rfl (.cons (rewoundTo_step 5) (.cons rfl .nil)) ?_,
    sample_crosses 5 rfl List.mem_cons_self,
    sample_commits rfl (.cons rfl (.cons (rewoundTo_step 5) .nil)) ?_,
    sample_crosses 5 rfl (List.mem_cons_of_mem _ List.mem_cons_self)⟩
  · rintro ⟨floor, same, below⟩
    cases same
    exact absurd (below 10 rfl) (Nat.lt_irrefl 10)
  · rintro ⟨floor, same, -⟩
    cases same

end Zally.Refresh
