import Zally.Async.Machine
import Zally.Keys.SealContract
import Zally.Keys.SealedSeed
import Zally.Wallet.SyncPort

/-! Building a wallet: what a creation leaves when it fails or is cancelled, and what the next
one finds. -/
namespace Zally.Builder

open Async Async.Program

/-- The awaited calls of the builder's methods. -/
inductive BuilderCommand (μ : Type) where
  | openOrCreate
  | unsealSeed
  | findAccountForSeed (seed : CheckedSeedMaterial)
  | currentEpoch
  | treeStateAt (epoch : ChainEpoch) (height : BlockHeight)
  | generateMnemonic
  | sealSeed (seed : CheckedSeedMaterial)
  | createAccountForSeed (seed : CheckedSeedMaterial) (priorChainState : TreeStateArtifact)

@[reducible] def BuilderCommand.Answer {μ : Type} : BuilderCommand μ → Type
  | openOrCreate => Except StorageError Unit
  | unsealSeed => Except SealingError CheckedSeedMaterial
  | findAccountForSeed _ => Except StorageError (Option AccountId)
  | currentEpoch => Except ChainSourceError ChainEpoch
  | treeStateAt _ _ => Except ChainSourceError TreeStateArtifact
  | generateMnemonic => μ
  | sealSeed _ => Except SealingError Unit
  | createAccountForSeed _ _ => Except StorageError AccountId

abbrev BuilderEvent (μ : Type) := Event (BuilderCommand μ) BuilderCommand.Answer
abbrev BuilderProgram (μ : Type) := Program (BuilderCommand μ) BuilderCommand.Answer
abbrev BuilderM (μ : Type) := Fallible (BuilderCommand μ) BuilderCommand.Answer WalletError

/-- The builder's network, and those of the chain source and the storage it is given. -/
structure WalletBuilder where
  network : Network
  chainNetwork : Network
  storageNetwork : Network

variable {μ : Type}

def ask (command : BuilderCommand μ) : BuilderProgram μ command.Answer := perform command

def sealing {α : Type} (program : BuilderProgram μ (Except SealingError α)) : BuilderM μ α :=
  Fallible.call .sealing program

def storage {α : Type} (program : BuilderProgram μ (Except StorageError α)) : BuilderM μ α :=
  Fallible.call .ofStorage program

def chain {α : Type} (program : BuilderProgram μ (Except ChainSourceError α)) : BuilderM μ α :=
  Fallible.call .chainSource program

def validateConstructionNetworks (builder : WalletBuilder) : Except WalletError Unit :=
  if builder.chainNetwork ≠ builder.network then
    .error (.networkMismatch builder.chainNetwork builder.network)
  else if builder.storageNetwork ≠ builder.network then
    .error (.networkMismatch builder.storageNetwork builder.network)
  else .ok ()

def fetchPriorChainState (epoch : ChainEpoch) (atHeight : BlockHeight) :
    BuilderM μ TreeStateArtifact := do
  let treeState ← chain (ask (.treeStateAt epoch (atHeight - 1)))
  if treeState.height ≠ atHeight - 1 then
    throw (.chainSource (.treeStateAnchorHeightMismatch (atHeight - 1) treeState.height))
  else return treeState

/-- The part of a creation after the storage is open and has no sealed seed beside it. -/
def createFresh (toSeed : μ → CheckedSeedMaterial) (birthday : BlockHeight) :
    BuilderM μ (AccountId × μ) := do
  let chainEpoch ← chain (ask .currentEpoch)
  let priorChainState ← fetchPriorChainState chainEpoch birthday
  let mnemonic ← ExceptT.lift (ask .generateMnemonic)
  sealing (ask (.sealSeed (toSeed mnemonic)))
  let accountId ← storage (ask (.createAccountForSeed (toSeed mnemonic) priorChainState))
  return (accountId, mnemonic)

/-- `toSeed` derives the seed of a mnemonic with the empty passphrase. -/
def create (toSeed : μ → CheckedSeedMaterial) (builder : WalletBuilder) (birthday : BlockHeight) :
    BuilderM μ (AccountId × μ) :=
  match validateConstructionNetworks builder with
  | .error error => throw error
  | .ok () => do
    storage (ask .openOrCreate)
    match ← ExceptT.lift (ask .unsealSeed) with
    | .ok _ => throw .accountAlreadyExists
    | .error .noSealedSeed => createFresh toSeed birthday
    | .error error => throw (.sealing error)

def unsealed (seed : Except SealingError CheckedSeedMaterial) : BuilderM μ CheckedSeedMaterial :=
  match seed with
  | .ok seed => pure seed
  | .error .noSealedSeed => throw .noSealedSeed
  | .error error => throw (.sealing error)

def openWallet (builder : WalletBuilder) : BuilderM μ AccountId :=
  if builder.storageNetwork ≠ builder.network then
    throw (.networkMismatch builder.storageNetwork builder.network)
  else do
    storage (ask .openOrCreate)
    let seed ← unsealed (← ExceptT.lift (ask .unsealSeed))
    match ← storage (ask (.findAccountForSeed seed)) with
    | some accountId => return accountId
    | none => throw .accountNotFound

def openOrCreateAccount (builder : WalletBuilder) (birthday : BlockHeight) : BuilderM μ AccountId :=
  match validateConstructionNetworks builder with
  | .error error => throw error
  | .ok () => do
    storage (ask .openOrCreate)
    let seed ← unsealed (← ExceptT.lift (ask .unsealSeed))
    match ← storage (ask (.findAccountForSeed seed)) with
    | some existing => return existing
    | none =>
      let chainEpoch ← chain (ask .currentEpoch)
      let priorChainState ← fetchPriorChainState chainEpoch birthday
      storage (ask (.createAccountForSeed seed priorChainState))

/-- What the paths of a wallet hold: the sealed seed, and the seeds with an account in the
storage. -/
structure WalletPaths where
  sealed : Option CheckedSeedMaterial
  accounts : List CheckedSeedMaterial

/-- How the sealing and the storage answer at the paths. A failure of the sealing leaves the
sealed seed as it was, as `AgeFileSealing.seal_seed_file` has it of the age files; one of the
storage may come after the account was imported. -/
def Serves (before : WalletPaths) : BuilderEvent μ → WalletPaths → Prop
  | ⟨.unsealSeed, answer⟩, after => after = before ∧ (answer = .error .noSealedSeed → before.sealed = none) ∧
    ∀ seed, answer = .ok seed → before.sealed = some seed
  | ⟨.findAccountForSeed seed, answer⟩, after => after = before ∧
    ∀ found, answer = .ok found → (found.isSome ↔ seed ∈ before.accounts)
  | ⟨.sealSeed _, .error _⟩, after => after = before
  | ⟨.sealSeed seed, .ok ()⟩, after => after = { before with sealed := some seed }
  | ⟨.createAccountForSeed seed _, .error _⟩, after =>
    after = before ∨ after = { before with accounts := seed :: before.accounts }
  | ⟨.createAccountForSeed seed _, .ok _⟩, after =>
    seed ∉ before.accounts ∧ after = { before with accounts := seed :: before.accounts }
  | ⟨_, _⟩, after => after = before

/-- An event that may change the paths. -/
def Touches : BuilderEvent μ → Prop
  | ⟨.sealSeed _, .ok ()⟩ | ⟨.createAccountForSeed _ _, _⟩ => True
  | _ => False

theorem serves_quiet {event : BuilderEvent μ} (quiet : ¬ Touches event)
    (serves : Serves before event after) : after = before := by
  rcases event with ⟨command, answer⟩
  cases command with
  | unsealSeed => exact serves.1
  | findAccountForSeed => exact serves.1
  | sealSeed seed =>
    cases answer with
    | error error => exact serves
    | ok value => exact absurd trivial quiet
  | createAccountForSeed => exact absurd trivial quiet
  | _ => exact serves

theorem path_quiet {trace : List (BuilderEvent μ)} (quiet : ∀ event ∈ trace, ¬ Touches event)
    (path : Path Serves start trace final) : final = start := by
  induction path with
  | nil => rfl
  | cons serves _ ih =>
    rw [ih fun event member => quiet event (List.mem_cons_of_mem _ member)]
    exact serves_quiet (quiet _ List.mem_cons_self) serves

/-- A run of a creation stops before a seal took effect, or creates the account after it, or is
stopped in between. -/
inductive Splits (toSeed : μ → CheckedSeedMaterial) : List (BuilderEvent μ) →
    Option (Except WalletError (AccountId × μ)) → Prop where
  | unsealed : (∀ created, outcome ≠ some (.ok created)) → Splits toSeed [] outcome
  | quiet : ¬ Touches event → Splits toSeed trace outcome → Splits toSeed (event :: trace) outcome
  | cut (mnemonic : μ) : Splits toSeed [⟨.sealSeed (toSeed mnemonic), .ok ()⟩] none
  | finished (mnemonic : μ) (answer : Except StorageError AccountId) :
      (outcome = none ∨ outcome = some ((answer.mapError WalletError.ofStorage).map fun accountId =>
        (accountId, mnemonic))) →
      Splits toSeed [⟨.sealSeed (toSeed mnemonic), .ok ()⟩,
        ⟨.createAccountForSeed (toSeed mnemonic) priorChainState, answer⟩] outcome

theorem splits_of_thrown {toSeed : μ → CheckedSeedMaterial} {error : WalletError}
    (run : Runs (done (.error error) : BuilderProgram μ (Except WalletError (AccountId × μ))) trace
      outcome) : Splits toSeed trace outcome := by
  obtain ⟨rfl, failed⟩ := Fallible.runs_thrown run
  exact .unsealed failed

theorem splits_of_account {toSeed : μ → CheckedSeedMaterial} (run : Runs (do
      let accountId ← storage (ask (.createAccountForSeed (toSeed mnemonic) priorChainState))
      return (accountId, mnemonic) : BuilderM μ (AccountId × μ)).run trace outcome) :
    Splits toSeed (⟨.sealSeed (toSeed mnemonic), .ok ()⟩ :: trace) outcome := by
  simp only [storage,ask,Fallible.run_call_bind,perform_bind] at run
  rcases runs_await_iff.mp run with ⟨rfl, rfl⟩ | ⟨answer, rest, rfl, answered⟩
  · exact .cut mnemonic
  cases answer with
  | error error =>
    obtain ⟨rfl, ended⟩ := runs_done_iff.mp answered
    exact .finished mnemonic (.error error) ended
  | ok accountId =>
    obtain ⟨rfl, ended⟩ := runs_done_iff.mp answered
    exact .finished mnemonic (.ok accountId) ended

theorem splits_of_seal {toSeed : μ → CheckedSeedMaterial} (run : Runs (do
      let mnemonic ← ExceptT.lift (ask .generateMnemonic)
      sealing (ask (.sealSeed (toSeed mnemonic)))
      let accountId ← storage (ask (.createAccountForSeed (toSeed mnemonic) priorChainState))
      return (accountId, mnemonic) : BuilderM μ (AccountId × μ)).run trace outcome) :
    Splits toSeed trace outcome := by
  simp only [sealing,ask,Fallible.run_lift_bind,Fallible.run_call_bind,perform_bind] at run
  rcases runs_await_iff.mp run with ⟨rfl, rfl⟩ | ⟨mnemonic, rest, rfl, seals⟩
  · exact .unsealed (by simp)
  refine .quiet id ?_
  rcases runs_await_iff.mp seals with ⟨rfl, rfl⟩ | ⟨answer, rest, rfl, sealed⟩
  · exact .unsealed (by simp)
  cases answer with
  | error error => exact .quiet id (splits_of_thrown sealed)
  | ok value => exact splits_of_account sealed

theorem splits_of_fresh {toSeed : μ → CheckedSeedMaterial}
    (run : Runs (createFresh toSeed birthday).run trace outcome) : Splits toSeed trace outcome := by
  rw [createFresh,chain,Fallible.run_call_bind] at run
  rcases runs_await_iff.mp run with ⟨rfl, rfl⟩ | ⟨answer, rest, rfl, fetches⟩
  · exact .unsealed (by simp)
  refine .quiet id ?_
  cases answer with
  | error error => exact splits_of_thrown fetches
  | ok epoch =>
  change Runs (fetchPriorChainState epoch birthday >>= _).run rest outcome at fetches
  rw [fetchPriorChainState,chain,LawfulMonad.bind_assoc,Fallible.run_call_bind] at fetches
  rcases runs_await_iff.mp fetches with ⟨rfl, rfl⟩ | ⟨answer, rest, rfl, fetched⟩
  · exact .unsealed (by simp)
  refine .quiet id ?_
  cases answer with
  | error error => exact splits_of_thrown fetched
  | ok treeState =>
    change Runs (ExceptT.run ((if treeState.height ≠ birthday - 1 then throw _ else pure treeState) >>=
      _)) rest outcome at fetched
    by_cases misplaced : treeState.height ≠ birthday - 1
    · rw [if_pos misplaced] at fetched
      exact splits_of_thrown fetched
    · rw [if_neg misplaced,pure_bind] at fetched
      exact splits_of_seal fetched

/-- A creation stops before it touches anything, or goes on after the sealing reported that it
has no seed. -/
theorem runs_create {toSeed : μ → CheckedSeedMaterial}
    (run : Runs (create toSeed builder birthday).run trace outcome) :
    ((∀ event ∈ trace, ¬ Touches event) ∧ ∀ created, outcome ≠ some (.ok created)) ∨
      ∃ fresh, trace = ⟨.openOrCreate, .ok ()⟩ :: ⟨.unsealSeed, .error .noSealedSeed⟩ :: fresh ∧
        Runs (createFresh toSeed birthday).run fresh outcome := by
  unfold create at run
  cases networks : validateConstructionNetworks builder with
  | error error =>
    rw [networks] at run
    obtain ⟨rfl, failed⟩ := Fallible.runs_thrown run
    exact .inl ⟨by simp, failed⟩
  | ok value =>
  rw [networks] at run
  simp only [storage,ask,Fallible.run_lift_bind,Fallible.run_call_bind,perform_bind] at run
  rcases runs_await_iff.mp run with ⟨rfl, rfl⟩ | ⟨answer, rest, rfl, unseals⟩
  · exact .inl ⟨by simp, by simp⟩
  cases answer with
  | error error =>
    obtain ⟨rfl, failed⟩ := Fallible.runs_thrown unseals
    exact .inl ⟨by simp [Touches], failed⟩
  | ok value =>
  rcases runs_await_iff.mp unseals with ⟨rfl, rfl⟩ | ⟨answer, rest, rfl, unsealed⟩
  · exact .inl ⟨by simp [Touches], by simp⟩
  by_cases none : answer = .error .noSealedSeed
  · subst none
    exact .inr ⟨rest, rfl, unsealed⟩
  obtain ⟨error, thrown⟩ : ∃ error, Runs
      (done (.error error) : BuilderProgram μ (Except WalletError (AccountId × μ))) rest outcome := by
    rcases answer with error | seed
    · cases error with
      | noSealedSeed => exact absurd rfl none
      | _ => exact ⟨_, unsealed⟩
    · exact ⟨_, unsealed⟩
  obtain ⟨rfl, failed⟩ := Fallible.runs_thrown thrown
  exact .inl ⟨by simp [Touches], failed⟩

/-- A later creation on the paths can succeed. -/
def Creatable (toSeed : μ → CheckedSeedMaterial) (paths : WalletPaths) : Prop :=
  ∃ builder birthday trace final created, Path Serves paths trace final ∧
    Runs (create toSeed builder birthday).run trace (some (.ok created))

/-- A creation that fails leaves no seed that it sealed, and keeps a later creation possible. -/
structure FailsCleanly (toSeed : μ → CheckedSeedMaterial) (start final : WalletPaths) : Prop where
  noneLeft : ∀ seed, final.sealed = some seed → start.sealed = some seed
  later : Creatable toSeed start → Creatable toSeed final

/-- The call goes on after its seal: the storage creates the account and nobody drops the call. -/
def GoesOn (trace : List (BuilderEvent μ)) (outcome : Option (Except WalletError (AccountId × μ))) :
    Prop :=
  ∀ before seed after, trace = before ++ ⟨.sealSeed seed, .ok ()⟩ :: after →
    (∃ priorChainState accountId, after = [⟨.createAccountForSeed seed priorChainState, .ok accountId⟩]) ∧
      outcome ≠ none

theorem GoesOn.cons {trace : List (BuilderEvent μ)} (quiet : ¬ Touches event)
    (rest : GoesOn trace outcome) : GoesOn (event :: trace) outcome := by
  intro before seed after split
  cases before with
  | nil =>
    obtain ⟨rfl, -⟩ := List.cons.inj split
    exact absurd trivial quiet
  | cons first before => exact rest before seed after (List.cons.inj split).2

theorem GoesOn.tail {trace : List (BuilderEvent μ)} (goesOn : GoesOn (event :: trace) outcome) :
    GoesOn trace outcome :=
  fun before seed after split => goesOn (event :: before) seed after (congrArg (event :: ·) split)

theorem goesOn_finished_iff {mnemonic : CheckedSeedMaterial} {answer : Except StorageError AccountId}
    {outcome : Option (Except WalletError (AccountId × μ))} :
    GoesOn [⟨.sealSeed mnemonic, .ok ()⟩, ⟨.createAccountForSeed mnemonic priorChainState, answer⟩]
      outcome ↔ (∃ accountId, answer = .ok accountId) ∧ outcome ≠ none := by
  constructor
  · intro goesOn
    obtain ⟨⟨state, accountId, same⟩, returned⟩ := goesOn [] mnemonic _ rfl
    cases same
    exact ⟨⟨accountId, rfl⟩, returned⟩
  · rintro ⟨⟨accountId, rfl⟩, returned⟩ before seed after split
    rcases before with _ | ⟨first, _ | ⟨second, before⟩⟩
    · cases split
      exact ⟨⟨priorChainState, accountId, rfl⟩, returned⟩
    · cases (List.cons.inj (List.cons.inj split).2).1
    · simp at split

theorem sealed_of_account {start final : WalletPaths} {answer : Except StorageError AccountId}
    (served : Serves start (⟨.createAccountForSeed seed priorChainState, answer⟩ : BuilderEvent μ) final) :
    final.sealed = start.sealed := by
  cases answer with
  | error error =>
    rcases served with rfl | rfl
    · rfl
    · rfl
  | ok accountId =>
    obtain ⟨-, rfl⟩ := served
    rfl

/-- Where a creation leaves the paths: as they were, or with its own seed sealed. -/
theorem paths_of_splits {toSeed : μ → CheckedSeedMaterial} (splits : Splits toSeed trace outcome)
    (path : Path Serves start trace final) :
    (final = start ∧ GoesOn trace outcome) ∨
      (∃ seed, final.sealed = some seed) ∧
        (GoesOn trace outcome ↔ ∃ created, outcome = some (.ok created)) := by
  induction splits generalizing start with
  | unsealed =>
    cases path
    exact .inl ⟨rfl, by simp [GoesOn]⟩
  | quiet quiet _ ih =>
    cases path with
    | cons moves rest =>
    obtain rfl := serves_quiet quiet moves
    rcases ih rest with ⟨same, goesOn⟩ | ⟨sealed, iff⟩
    · exact .inl ⟨same, goesOn.cons quiet⟩
    · exact .inr ⟨sealed, .trans ⟨GoesOn.tail, GoesOn.cons quiet⟩ iff⟩
  | cut mnemonic =>
    rcases path with _ | ⟨sealed, _ | _⟩
    obtain rfl : final = { start with sealed := some (toSeed mnemonic) } := sealed
    refine .inr ⟨⟨toSeed mnemonic, rfl⟩, fun goesOn => ?_, fun ⟨created, ok⟩ => by cases ok⟩
    exact absurd rfl (goesOn [] _ [] rfl).2
  | finished mnemonic answer ended =>
    rcases path with _ | ⟨sealed, _ | ⟨served, _ | _⟩⟩
    refine .inr ⟨⟨toSeed mnemonic, ?_⟩, goesOn_finished_iff.trans ?_⟩
    · rw [sealed_of_account served]
      exact congrArg WalletPaths.sealed sealed
    · rcases ended with rfl | rfl
      · simp
      · cases answer <;> simp [Except.map,Except.mapError]

theorem noneSealed_of_serves {answer : Except SealingError CheckedSeedMaterial}
    (serves : Serves start (⟨.unsealSeed, answer⟩ : BuilderEvent μ) final)
    (none : answer = .error .noSealedSeed) : final = start ∧ start.sealed = .none :=
  ⟨serves.1, serves.2.1 none⟩

theorem goesOn_of_quiet {trace : List (BuilderEvent μ)} (quiet : ∀ event ∈ trace, ¬ Touches event) :
    GoesOn trace outcome := by
  rintro before seed after rfl
  exact absurd trivial (quiet _ (List.mem_append_right _ List.mem_cons_self))

/-- A creation leaves the paths as they were, or it found no seed and sealed its own. -/
theorem paths_of_create {toSeed : μ → CheckedSeedMaterial}
    (run : Runs (create toSeed builder birthday).run trace outcome)
    (path : Path Serves start trace final) :
    (final = start ∧ GoesOn trace outcome) ∨
      start.sealed = none ∧ (∃ seed, final.sealed = some seed) ∧
        (GoesOn trace outcome ↔ ∃ created, outcome = some (.ok created)) := by
  rcases runs_create run with ⟨quiet, -⟩ | ⟨fresh, rfl, fresh'⟩
  · exact .inl ⟨path_quiet quiet path, goesOn_of_quiet quiet⟩
  rcases path with _ | ⟨opened, _ | ⟨unsealed, rest⟩⟩
  obtain ⟨rfl, absent⟩ := noneSealed_of_serves unsealed rfl
  obtain rfl := serves_quiet (by simp [Touches]) opened
  rcases paths_of_splits (splits_of_fresh fresh') rest with ⟨rfl, goesOn⟩ | ⟨sealed, iff⟩
  · exact .inl ⟨rfl, (goesOn.cons (by simp [Touches])).cons (by simp [Touches])⟩
  · refine .inr ⟨absent, sealed, .trans ⟨fun goesOn => goesOn.tail.tail, fun goesOn => ?_⟩ iff⟩
    exact (goesOn.cons (by simp [Touches])).cons (by simp [Touches])

/-- Over a sealed seed no creation returns a wallet. -/
theorem not_creatable_of_sealed {toSeed : μ → CheckedSeedMaterial} (sealed : paths.sealed = some seed) :
    ¬ Creatable toSeed paths := by
  rintro ⟨builder, birthday, trace, final, created, path, run⟩
  rcases runs_create run with ⟨-, failed⟩ | ⟨fresh, rfl, -⟩
  · exact failed created rfl
  rcases path with _ | ⟨opened, _ | ⟨unsealed, -⟩⟩
  obtain rfl := serves_quiet (by simp [Touches]) opened
  rw [(noneSealed_of_serves unsealed rfl).2] at sealed
  cases sealed

/-- Opening a sealed seed that has no account fails. -/
theorem openWallet_without_account {builder : WalletBuilder} {trace : List (BuilderEvent μ)}
    (sealed : paths.sealed = some seed) (missing : seed ∉ paths.accounts)
    (path : Path Serves paths trace final) (run : Runs (openWallet builder).run trace (some outcome)) :
    ∃ error, outcome = .error error := by
  have throws : ∀ {error : WalletError} {rest : List (BuilderEvent μ)},
      Runs (done (.error error) : BuilderProgram μ (Except WalletError AccountId)) rest (some outcome) →
      ∃ error, outcome = .error error := fun run => ⟨_, (runs_done_some run).2⟩
  unfold openWallet at run
  split at run
  · exact throws run
  simp only [storage,ask,Fallible.run_lift_bind,Fallible.run_call_bind,perform_bind] at run
  obtain ⟨answer, rest, rfl, unseals⟩ := runs_await_some run
  cases answer with
  | error error => exact throws unseals
  | ok value =>
  obtain ⟨answer, rest, rfl, finds⟩ := runs_await_some unseals
  rcases path with _ | ⟨opened, _ | ⟨⟨rfl, -, held⟩, path⟩⟩
  obtain rfl := serves_quiet (by simp [Touches]) opened
  cases answer with
  | error error => cases error <;> exact throws finds
  | ok found =>
    have same := held found rfl
    rw [sealed] at same
    obtain rfl := Option.some.inj same
    change Runs (ExceptT.run (Fallible.call _ (ask (.findAccountForSeed seed)) >>= _)) rest _ at finds
    rw [Fallible.run_call_bind] at finds
    obtain ⟨answer, rest, rfl, looked⟩ := runs_await_some finds
    rcases path with _ | ⟨⟨rfl, lists⟩, path⟩
    rcases answer with error | _ | accountId
    · exact throws looked
    · exact throws looked
    · exact absurd ((lists _ rfl).mp rfl) missing

/-- It can still be given its account. -/
theorem openOrCreateAccount_recovers (sealed : paths.sealed = some seed) (missing : seed ∉ paths.accounts)
    (accountId : AccountId) (network : Network) (birthday : BlockHeight) :
    ∃ trace, Path (Serves (μ := μ)) paths trace { paths with accounts := seed :: paths.accounts } ∧
      Runs (openOrCreateAccount ⟨network, network, network⟩ birthday).run trace
        (some (.ok accountId)) := by
  let epoch : ChainEpoch := ⟨0, birthday, birthday⟩
  let anchor : TreeStateArtifact := ⟨birthday - 1, [], [], []⟩
  refine ⟨[⟨.openOrCreate, .ok ()⟩, ⟨.unsealSeed, .ok seed⟩, ⟨.findAccountForSeed seed, .ok none⟩,
    ⟨.currentEpoch, .ok epoch⟩, ⟨.treeStateAt epoch (birthday - 1), .ok anchor⟩,
    ⟨.createAccountForSeed seed anchor, .ok accountId⟩], ?_, ?_⟩
  · refine .cons rfl (.cons ⟨rfl, by simp, fun found same => ?_⟩ (.cons ⟨rfl, fun found same => ?_⟩
      (.cons rfl (.cons rfl (.cons ⟨missing, rfl⟩ .nil)))))
    · rw [← Except.ok.inj same,sealed]
    · rw [← Except.ok.inj same]
      simp [missing]
  · have networks : validateConstructionNetworks ⟨network, network, network⟩ = .ok () := by
      simp [validateConstructionNetworks]
    unfold openOrCreateAccount
    rw [networks]
    iterate 4 apply Runs.await
    change Runs (ExceptT.run (fetchPriorChainState epoch birthday >>= _)) _ _
    rw [fetchPriorChainState,chain,LawfulMonad.bind_assoc,Fallible.run_call_bind]
    apply Runs.await
    change Runs (ExceptT.run ((if birthday - 1 ≠ birthday - 1 then throw _ else pure anchor) >>=
      fun priorChainState => storage (ask (.createAccountForSeed seed priorChainState)))) _ _
    rw [if_neg (not_not.mpr rfl),pure_bind]
    exact .await .done

/-- A creation that does not return fails cleanly exactly when, once its seal has taken effect,
the storage creates the account and the call is not dropped. -/
theorem create_fails_cleanly_iff (toSeed : μ → CheckedSeedMaterial) (builder : WalletBuilder)
    (birthday : BlockHeight) (trace : List (BuilderEvent μ))
    (outcome : Option (Except WalletError (AccountId × μ))) (start final : WalletPaths)
    (run : Runs (create toSeed builder birthday).run trace outcome)
    (path : Path Serves start trace final) :
    ((∀ created, outcome ≠ some (.ok created)) → FailsCleanly toSeed start final) ↔
      GoesOn trace outcome := by
  rcases paths_of_create run path with ⟨rfl, goesOn⟩ | ⟨absent, ⟨seed, sealed⟩, iff⟩
  · exact iff_of_true (fun _ => ⟨fun _ => id, id⟩) goesOn
  constructor
  · intro cleanly
    by_contra stopped
    have failed : ∀ created, outcome ≠ some (.ok created) :=
      fun created ok => stopped (iff.mpr ⟨created, ok⟩)
    have earlier := (cleanly failed).noneLeft seed sealed
    rw [absent] at earlier
    cases earlier
  · intro goesOn failed
    obtain ⟨created, ok⟩ := iff.mp goesOn
    exact absurd ok (failed created)

def sampleBuilder : WalletBuilder := ⟨.mainnet, .mainnet, .mainnet⟩

def sampleCreation (answer : Except StorageError AccountId) : List (BuilderEvent Unit) := [
  ⟨.openOrCreate, .ok ()⟩,
  ⟨.unsealSeed, .error .noSealedSeed⟩,
  ⟨.currentEpoch, .ok ⟨1, 10, 10⟩⟩,
  ⟨.treeStateAt ⟨1, 10, 10⟩ 4, .ok ⟨4, [], [], []⟩⟩,
  ⟨.generateMnemonic, ()⟩,
  ⟨.sealSeed (AgeFileSealing.sampleSeed 1), .ok ()⟩,
  ⟨.createAccountForSeed (AgeFileSealing.sampleSeed 1) ⟨4, [], [], []⟩, answer⟩]

def sampleToSeed (_ : Unit) : CheckedSeedMaterial := AgeFileSealing.sampleSeed 1

theorem sampleCreation_path {answer : Except StorageError AccountId}
    (served : Serves ⟨some (AgeFileSealing.sampleSeed 1), []⟩ (⟨.createAccountForSeed
      (AgeFileSealing.sampleSeed 1) ⟨4, [], [], []⟩, answer⟩ : BuilderEvent Unit) final) :
    Path Serves ⟨none, []⟩ (sampleCreation answer) final :=
  .cons rfl (.cons ⟨rfl, fun _ => rfl, fun _ same => (by cases same)⟩ (.cons rfl (.cons rfl (.cons rfl
    (.cons rfl (.cons served .nil))))))

theorem sampleCreation_runs {answer : Except StorageError AccountId} :
    Runs (create sampleToSeed sampleBuilder 5).run (sampleCreation answer)
      (some ((answer.mapError .ofStorage).map fun accountId => (accountId, ()))) := by
  iterate 7 apply Runs.await
  cases answer <;> exact .done

theorem sampleCreation_creatable : Creatable sampleToSeed ⟨none, []⟩ :=
  ⟨sampleBuilder, 5, sampleCreation (.ok ⟨7⟩), ⟨some (AgeFileSealing.sampleSeed 1),
    [AgeFileSealing.sampleSeed 1]⟩, (⟨7⟩, ()), sampleCreation_path ⟨by simp, rfl⟩, sampleCreation_runs⟩

theorem sampleCreation_cleanly : GoesOn (sampleCreation (.ok ⟨7⟩)) (some (.ok (⟨7⟩, ()))) :=
  (create_fails_cleanly_iff sampleToSeed sampleBuilder 5 (sampleCreation (.ok ⟨7⟩)) _ ⟨none, []⟩ _
    sampleCreation_runs (sampleCreation_path ⟨by simp, rfl⟩)).mp
    fun failed => absurd rfl (failed (⟨7⟩, ()))

def lockedDatabase : StorageError := .sqliteFailed "database is locked" .retryable

/-- The storage fails once: the seed stays sealed, its mnemonic is gone, and every later creation
is refused. -/
theorem failed_account_strands_seed :
    ∃ final, Path Serves ⟨none, []⟩ (sampleCreation (.error lockedDatabase)) final ∧
      Runs (create sampleToSeed sampleBuilder 5).run (sampleCreation (.error lockedDatabase))
        (some (.error (.storage lockedDatabase))) ∧
      final.sealed = some (AgeFileSealing.sampleSeed 1) ∧
      Creatable sampleToSeed ⟨none, []⟩ ∧ ¬ Creatable sampleToSeed final ∧
      ¬ FailsCleanly sampleToSeed ⟨none, []⟩ final := by
  refine ⟨⟨some (AgeFileSealing.sampleSeed 1), []⟩, sampleCreation_path (.inl rfl), sampleCreation_runs,
    rfl, sampleCreation_creatable, not_creatable_of_sealed rfl, fun cleanly => ?_⟩
  exact not_creatable_of_sealed rfl (cleanly.later sampleCreation_creatable)

end Zally.Builder
