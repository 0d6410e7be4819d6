import Zally.Storage.Recreate
import Zally.Wallet.SyncTrace

/-! A rebuild that failed, and whether a later one can still get through. -/
namespace Zally.Sync

open Async Async.Program Outcome

def Recreates : SyncCommand → Prop
  | .recreateWithAccount _ _ => True
  | _ => False

def ReadsBirthday : SyncCommand → Prop
  | .accountBirthday => True
  | _ => False

variable {δ : Type} {options : WalletDbOptions δ}

/-- Calls that do not rebuild answer only an opened database, and keep its account. -/
structure WalletStoreKept (before after : WalletStore δ) : Prop where
  state : after.state = before.state
  closed : before.state = .notOpened → after = before
  account : after.files.main.bind (·.account) = before.files.main.bind (·.account)

/-- How the storage answers the calls of a sync; an answer of the chain source leaves the store
as it is. -/
inductive Serves (options : WalletDbOptions δ) :
    WalletStore δ → SyncEvent → WalletStore δ → Prop where
  | birthday (fault : Option StorageError) :
      Serves options store ⟨.accountBirthday, accountBirthday fault store⟩ store
  | recreate (fault : RecreateFault) (seed : SeedMaterial) (priorChainState : TreeStateArtifact) :
      Serves options store
        ⟨.recreateWithAccount seed priorChainState,
          (recreateWithAccount options fault seed priorChainState store).1⟩
        (recreateWithAccount options fault seed priorChainState store).2
  | other (reads : ¬ReadsBirthday command) (recreates : ¬Recreates command)
      (kept : WalletStoreKept store next) : Serves options store ⟨command, answer⟩ next

/-- The calls of several tasks, each event with its task. -/
abbrev StorePath (options : WalletDbOptions δ) :=
  Async.Path fun (before : WalletStore δ) (event : Nat × SyncEvent) after =>
    Serves options before event.2 after

/-- What one task calls: resets, and calls that do not rebuild. -/
inductive WalletCalls : List SyncEvent → Prop where
  | nil : WalletCalls []
  | reset : Runs resetToBirthday.run trace outcome → WalletCalls rest → WalletCalls (trace ++ rest)
  | other : ¬Recreates event.command → WalletCalls rest → WalletCalls (event :: rest)

/-- Some tasks, whose calls start at `store`, get a reset for `seed` through. -/
def Rebuildable (options : WalletDbOptions δ) (seed : SeedMaterial) (store : WalletStore δ) : Prop :=
  ∃ run final, StorePath options store run final ∧ (∀ task, WalletCalls (localTrace task run)) ∧
    ∃ task before trace, localTrace task run = before ++ trace ∧ WalletCalls before ∧
      Runs resetToBirthday.run trace (some (.ok ())) ∧ ⟨.unsealSeed, .ok seed⟩ ∈ trace

/-! The calls of the driver. -/

theorem WalletCalls.of_other (others : ∀ event ∈ trace, ¬Recreates event.command) :
    WalletCalls trace := by
  induction trace with
  | nil => exact .nil
  | cons event trace ih =>
    obtain ⟨first, rest⟩ := List.forall_mem_cons.mp others
    exact .other first (ih rest)

theorem not_recreates_of_plans (plans : Plans command) : ¬Recreates command := by
  cases command <;> first | exact id | exact plans.elim

theorem within_scanAndEmit (context : ScanContext) (fromState : TreeStateArtifact)
    (epoch : ChainEpoch) :
    (scanAndEmit context fromState epoch).run.Within fun command => ¬Recreates command := by
  have compares : ∀ command, Compares command → ¬Recreates command := by
    rintro command (reads | ⟨height, result, rfl⟩)
    · cases command <;> first | exact id | exact reads.elim
    · exact id
  have announces : ∀ command, Announces command → ¬Recreates command := fun command told => by
    cases command <;> first | exact id | exact told.elim
  apply Fallible.within_bind
  · exact Fallible.within_call ⟨id, fun _ => trivial⟩
  intro outcome
  apply Fallible.within_bind
  · exact Fallible.within_call ((within_verifyTreeRoots ..).mono compares)
  intro diverged
  cases diverged with
  | some height => trivial
  | none => exact (within_announceScanned ..).mono announces

theorem within_scanOneRange (turns : Nat) (epoch : ChainEpoch) :
    (scanOneRange turns epoch).run.Within fun command => ¬Recreates command := by
  apply Fallible.within_bind
  · exact (within_planScanRange ..).mono fun _ => not_recreates_of_plans
  intro planned
  cases planned with
  | none => exact ⟨id, fun _ => ⟨id, fun _ => trivial⟩⟩
  | some chunk =>
    apply Fallible.within_bind
    · exact (within_fetchChunk ..).mono fun _ => not_recreates_of_plans
    · exact fun fetched => within_scanAndEmit fetched.1 fetched.2 epoch

theorem within_scanCall (wallet : SyncWallet) (turns : Nat) (chainTip : ChainTipRecord) :
    (scanCall wallet turns chainTip).run.Within fun command => ¬Recreates command := by
  have idle : ∀ command, Idle command → ¬Recreates command := fun command waits => by
    cases command <;> first | exact id | exact waits.elim
  have records : ∀ command, RecordsTip command → ¬Recreates command := fun command writes => by
    cases command <;> first | exact id | exact writes.elim
  have pins : (pinChainEpoch wallet).run.Within fun command => ¬Recreates command :=
    (within_pinChainEpoch wallet).mono fun _ => not_recreates_of_plans
  have port : port.Within fun command => ¬Recreates command :=
    ⟨fun ms => (port_idle.sleep ms).mono idle, port_idle.allowCall.mono idle,
      port_idle.recordSuccess.mono idle, port_idle.recordFailure.mono idle⟩
  have attempts : (attemptCall wallet turns chainTip).run.Within fun command => ¬Recreates command := by
    cases chainTip with
    | stale =>
      exact Fallible.within_bind pins fun epoch =>
        Fallible.within_bind ((within_recordTip epoch).mono records) fun _ => within_scanOneRange ..
    | current => exact Fallible.within_bind pins fun epoch => within_scanOneRange ..
  have runs : ∀ label, (runScanAttempt wallet label (attemptCall wallet turns chainTip)).run.Within
      fun command => ¬Recreates command := fun label =>
    Fallible.within_bind (within_withBreakerAndRetry port attempts) fun _ =>
      Fallible.within_bind ((within_retireExpired wallet).mono idle) fun _ => trivial
  cases chainTip with
  | stale => exact runs _
  | current => exact runs _

/-- The scans of the driver are calls of one task. -/
theorem WalletCalls.of_scanCall (run : Runs (scanCall wallet turns chainTip).run trace outcome) :
    WalletCalls trace := .of_other (run.within (within_scanCall wallet turns chainTip))

/-- So are its repairs. -/
theorem WalletCalls.of_applyRepair (run : Runs (applyRepair recovery).run trace outcome) :
    WalletCalls trace := by
  have chainState : ∀ epoch height,
      (chainStateAt epoch height).run.Within fun command => ¬Recreates command := fun epoch height =>
    (within_chainStateAt epoch height).mono fun _ => not_recreates_of_plans
  have rewinds : ∀ height, (rewindToHeight height).run.Within fun command => ¬Recreates command :=
    fun height =>
      Fallible.within_bind (Fallible.within_call ⟨id, fun _ => trivial⟩) fun epoch =>
        Fallible.within_bind (chainState epoch height) fun _ =>
          Fallible.within_bind (Fallible.within_call ⟨id, fun _ => trivial⟩) fun _ =>
            Fallible.within_lift ⟨id, fun _ => trivial⟩
  have quiet : ∀ {program : SyncM Unit}, Runs program.run trace outcome →
      program.run.Within (fun command => ¬Recreates command) → WalletCalls trace :=
    fun run within => .of_other (run.within within)
  unfold applyRepair at run
  split at run
  · exact quiet run trivial
  · exact quiet run trivial
  · refine quiet run (Fallible.within_bind ?_ fun status => ?_)
    · exact Fallible.within_bind (Fallible.within_call ⟨id, fun _ => trivial⟩) fun _ =>
        Fallible.within_bind (Fallible.within_call ⟨id, fun _ => trivial⟩) fun _ => trivial
    · split
      · exact rewinds _
      · trivial
  · rw [← List.append_nil trace]
    exact .reset run .nil

/-! Resets need an opened database. -/

/-- The birthday was read. -/
def BirthdayRead (events : List SyncEvent) : Prop :=
  ∃ birthday, ⟨.accountBirthday, .ok birthday⟩ ∈ events

/-- A reset rebuilds only after it read the birthday. -/
theorem resetToBirthday_guarded : resetToBirthday.run.Guarded
    (fun past command => Recreates command → BirthdayRead past) [] := by
  rw [resetToBirthday,Fallible.run_call_bind]
  refine ⟨False.elim, fun answer => ?_⟩
  cases answer with
  | error error => trivial
  | ok birthday =>
    exact guarded_of_past fun later command _ => ⟨birthday, List.mem_append_left _ (by simp)⟩

/-- A reset that gets through read the birthday first. -/
theorem birthdayRead_of_reset (run : Runs resetToBirthday.run trace (some (.ok ()))) :
    BirthdayRead trace := by
  rw [resetToBirthday,Fallible.run_call_bind] at run
  obtain ⟨answer, rest, rfl, resumed⟩ := runs_await_some run
  cases answer with
  | error error =>
    obtain ⟨-, ended⟩ := runs_done_some resumed
    cases ended
  | ok birthday => exact ⟨birthday, List.mem_cons_self⟩

/-- A task rebuilds only after it read the birthday. -/
theorem WalletCalls.birthdayRead (calls : WalletCalls trace)
    (split : trace = before ++ event :: after) (recreates : Recreates event.command) :
    BirthdayRead before := by
  induction calls generalizing before with
  | nil => exact absurd split.symm (List.append_ne_nil_of_right_ne_nil _ (List.cons_ne_nil _ _))
  | @reset trace outcome rest run _ ih =>
    rcases List.append_eq_append_iff.mp split with ⟨middle, rfl, tail⟩ | ⟨middle, rfl, tail⟩
    · obtain ⟨birthday, member⟩ := ih tail
      exact ⟨birthday, List.mem_append_right _ member⟩
    · cases middle with
      | nil =>
        obtain ⟨birthday, member⟩ := ih (show rest = [] ++ event :: after from tail.symm)
        cases member
      | cons first middle =>
        obtain ⟨rfl, rfl⟩ := List.cons.inj tail
        simpa using run.guarded resetToBirthday_guarded recreates
  | @other other rest quiet _ ih =>
    rcases List.cons_eq_append_iff.mp split with ⟨rfl, same⟩ | ⟨tail, rfl, same⟩
    · obtain ⟨rfl, -⟩ := List.cons.inj same
      exact absurd recreates quiet
    · obtain ⟨birthday, member⟩ := ih same
      exact ⟨birthday, List.mem_cons_of_mem _ member⟩

/-- The run lemma: while the database is closed and no task has read the birthday before, the
database stays closed and no task reads it. -/
theorem StorePath.closed (path : StorePath options store run final)
    (closed : store.state = .notOpened)
    (guarded : ∀ before task event after, run = before ++ (task, event) :: after →
      Recreates event.command → BirthdayRead (before.map Prod.snd)) :
    ¬BirthdayRead (run.map Prod.snd) := by
  induction path with
  | nil => exact fun ⟨_, member⟩ => absurd member List.not_mem_nil
  | @cons store label next run final serves _ ih =>
    obtain ⟨task, event⟩ := label
    have unread : ∀ birthday, event ≠ ⟨.accountBirthday, .ok birthday⟩ ∧ next.state = .notOpened := by
      intro birthday
      cases serves with
      | birthday fault => simp [accountBirthday,closed]
      | recreate fault seed priorChainState =>
        obtain ⟨_, member⟩ := guarded [] task _ run rfl trivial
        cases member
      | other reads _ kept =>
        refine ⟨?_, kept.state.trans closed⟩
        rintro same
        cases same
        exact reads trivial
    rintro ⟨birthday, member⟩
    rcases List.mem_cons.mp member with same | later
    · exact (unread birthday).1 same.symm
    · refine ih (unread birthday).2 (fun before task' event' after split recreates => ?_) ⟨birthday, later⟩
      obtain ⟨earlier, found⟩ := guarded ((task, event) :: before) task' event' after
        (by rw [split,List.cons_append]) recreates
      rcases List.mem_cons.mp found with same | among
      · exact absurd same.symm (unread earlier).1
      · exact ⟨earlier, among⟩

/-- Once the database is closed, no reset gets through. -/
theorem not_rebuildable_of_closed {store : WalletStore δ} (closed : store.state = .notOpened) :
    ¬Rebuildable options seed store := by
  rintro ⟨run, final, path, calls, task, before, trace, local_eq, -, reset, -⟩
  have guarded : ∀ before task event after, run = before ++ (task, event) :: after →
      Recreates event.command → BirthdayRead (before.map Prod.snd) := by
    rintro before task event after rfl recreates
    have split : localTrace task (before ++ (task, event) :: after) =
        localTrace task before ++ event :: localTrace task after := by simp
    obtain ⟨birthday, member⟩ := (calls task).birthdayRead split recreates
    exact ⟨birthday, List.mem_map.mpr ⟨_, mem_localTrace.mp member, rfl⟩⟩
  obtain ⟨birthday, member⟩ := birthdayRead_of_reset reset
  refine StorePath.closed path closed guarded ⟨birthday, List.mem_map.mpr ⟨(task, _), ?_, rfl⟩⟩
  rw [← mem_localTrace,local_eq]
  exact List.mem_append_right _ member

/-- The failure comes before the actor gives up the open database. -/
def BeforeRebuild (fault : RecreateFault) : Prop :=
  ∃ cause, fault = some (.treeState, cause) ∨ fault = some (.request, cause)

theorem check_ok_iff : options.check fault step = .ok () ↔ ∀ cause, fault ≠ some (step, cause) := by
  rcases fault with _ | ⟨failing, cause⟩
  · exact iff_of_true rfl fun _ => nofun
  · rw [WalletDbOptions.check,Option.map_some,failsAt]
    by_cases same : failing = step
    · subst same
      rw [if_pos rfl]
      exact iff_of_false nofun fun passes => passes cause rfl
    · rw [if_neg same]
      refine iff_of_true rfl fun other failed => ?_
      cases failed
      exact same rfl

theorem checks_ok_iff :
    (do options.check fault .treeState; options.check fault .request) = .ok () ↔
      ¬BeforeRebuild fault := by
  refine bind_ok_iff.trans ⟨?_, fun late => ⟨(), ?_, ?_⟩⟩
  · rintro ⟨_, tree, request⟩ ⟨cause, failed | failed⟩
    · exact check_ok_iff.mp tree cause failed
    · exact check_ok_iff.mp request cause failed
  · exact check_ok_iff.mpr fun cause failed => late ⟨cause, .inl failed⟩
  · exact check_ok_iff.mpr fun cause failed => late ⟨cause, .inr failed⟩

/-- A rebuild that fails leaves the store as it was, or closed. -/
theorem recreateWithAccount_failed {before after : WalletStore δ}
    (failed : recreateWithAccount options fault seed priorChainState before = (.error error, after)) :
    BeforeRebuild fault ∧ after = before ∨ ¬BeforeRebuild fault ∧ after.state = .notOpened := by
  unfold recreateWithAccount at failed
  split at failed <;> rename_i checked
  · refine .inl ⟨?_, (Prod.ext_iff.mp failed).2.symm⟩
    refine Classical.not_not.mp fun late => ?_
    rw [checks_ok_iff.mpr late] at checked
    cases checked
  · refine .inr ⟨checks_ok_iff.mp checked, ?_⟩
    split at failed <;> cases failed
    rfl

/-- A reset of an open wallet when the chain source answers and no step of the storage fails. -/
def resetTrace (options : WalletDbOptions δ) (birthday : BlockHeight) (seed : SeedMaterial)
    (epoch : ChainEpoch) (anchor : TreeStateArtifact) : List SyncEvent :=
  [⟨.accountBirthday, .ok birthday⟩, ⟨.unsealSeed, .ok seed⟩, ⟨.currentEpoch, .ok epoch⟩,
    ⟨.treeStateAt epoch anchor.height, .ok anchor⟩,
    ⟨.recreateWithAccount seed anchor, .ok (options.accountIdOf seed)⟩,
    ⟨.publishEvents [.derivedStateReset (options.accountIdOf seed)], ()⟩]

theorem resetTrace_runs (options : WalletDbOptions δ) (seed : SeedMaterial) (epoch : ChainEpoch)
    (anchor : TreeStateArtifact) (anchored : anchor.height = birthday - 1) :
    Runs resetToBirthday.run (resetTrace options birthday seed epoch anchor) (some (.ok ())) := by
  have fetched := runs_chainStateAt_ok epoch anchor
  rw [resetTrace,anchored]
  rw [anchored] at fetched
  refine .await (.await (.await ?_))
  refine Fallible.runs_bind_iff.mpr (.inr (.inr (.inr ⟨anchor, _, _, rfl, fetched, ?_⟩)))
  apply Runs.await
  apply Runs.await
  exact Runs.done

theorem WalletStoreKept.refl (store : WalletStore δ) : WalletStoreKept store store :=
  ⟨rfl, fun _ => rfl, rfl⟩

/-- The reset of an open wallet gets through when nothing fails. -/
theorem rebuildable_of_birthday {store : WalletStore δ} (seed : SeedMaterial)
    (read : accountBirthday none store = .ok birthday) : Rebuildable options seed store := by
  let anchor : TreeStateArtifact := ⟨birthday - 1, [], [], []⟩
  let epoch : ChainEpoch := ⟨0, birthday, birthday⟩
  let trace := resetTrace options birthday seed epoch anchor
  have run := resetTrace_runs options seed epoch anchor (rfl : anchor.height = birthday - 1)
  refine ⟨trace.map (Prod.mk 0), (recreateWithAccount options none seed anchor store).2, ?_, ?_,
    0, [], trace, localTrace_map 0 trace, .nil, run, by simp [trace,resetTrace]⟩
  · refine .cons (by rw [← read]; exact .birthday none) ?_
    refine .cons (.other id id (.refl store)) (.cons (.other id id (.refl store)) ?_)
    refine .cons (.other id id (.refl store)) (.cons (.recreate none seed anchor) ?_)
    exact .cons (.other id id (.refl _)) .nil
  · intro task
    by_cases same : task = 0
    · subst same
      rw [localTrace_map,← List.append_nil trace]
      exact .reset run .nil
    · rw [localTrace_map_other (Ne.symm same)]
      exact .nil

/-- A rebuild of an open wallet that fails leaves it as it was, or able to be rebuilt later,
exactly when the failure came before the actor gave up the open database. -/
theorem failed_rebuild_recoverable_iff (options : WalletDbOptions δ) (fault : RecreateFault)
    (seed : SeedMaterial) (priorChainState : TreeStateArtifact) (before after : WalletStore δ)
    (birthday : BlockHeight) (error : StorageError)
    (read : accountBirthday none before = .ok birthday)
    (failed : recreateWithAccount options fault seed priorChainState before = (.error error, after)) :
    ((after = before ∨ Rebuildable options seed after) ↔ BeforeRebuild fault) ∧
      (Rebuildable options seed after ↔ BeforeRebuild fault) := by
  rcases recreateWithAccount_failed failed with ⟨early, rfl⟩ | ⟨late, closed⟩
  · exact ⟨iff_of_true (.inl rfl) early, iff_of_true (rebuildable_of_birthday seed read) early⟩
  · have stuck : ¬Rebuildable options seed after := not_rebuildable_of_closed closed
    refine ⟨iff_of_false ?_ late, iff_of_false stuck late⟩
    rintro (rfl | rebuildable)
    · rw [accountBirthday,closed] at read
      cases read
    · exact stuck rebuildable

def sampleDbOptions : WalletDbOptions Unit := ⟨"wallet.db", (), fun _ => ⟨7⟩⟩

def openedWallet : WalletStore Unit := ⟨.opened, some ⟨some ⟨⟨7⟩, 100⟩, ()⟩, true, true⟩

/-- A sibling of the database that cannot be deleted. -/
def removeFault : RecreateFault := some (.remove .wal, .reported "permission denied")

theorem refused_tree_state_recoverable :
    Rebuildable sampleDbOptions [1] openedWallet :=
  ((failed_rebuild_recoverable_iff sampleDbOptions
      (some (.treeState, .mapped (.scanArtifactInvalid "tree_state.network" "")))
      [1] (sampleTreeState 99) openedWallet openedWallet 100
      (.scanArtifactInvalid "tree_state.network" "") rfl rfl).2).mpr ⟨_, .inl rfl⟩

/-- The database file is gone, its sibling is not, and the storage stays closed. -/
theorem removal_failure_sticks :
    ∃ error after,
      recreateWithAccount sampleDbOptions removeFault [1] (sampleTreeState 99) openedWallet =
        (.error error, after) ∧ error.posture = .retryable ∧
      after ≠ openedWallet ∧ ¬Rebuildable sampleDbOptions [1] after :=
  ⟨_, _, rfl, rfl, by decide, not_rebuildable_of_closed rfl⟩

end Zally.Sync
