import Zally.Async.ActorProgress
import Zally.Storage.HoldLedger
import Zally.Storage.PcztLedger
import Zally.Storage.Recreate

/-! The wallet-db actor: one thread that owns the database connections and serves the storage
calls of every handle in turn. -/
namespace Zally

open Async Lease Outcome

def walletDbQueueCapacity : Nat := 256

/-- The tables of the wallet database that the requests below change. -/
structure WalletTables where
  holds : HoldTable
  pczt : PcztState

def WalletTables.empty : WalletTables := ⟨.empty, ⟨Table.empty, .empty⟩⟩

/-- A new database has its tables and no rows. -/
def walletDbOptions (dbPath : String) (accountIdOf : SeedMaterial → AccountId) :
    WalletDbOptions WalletTables := ⟨dbPath, .empty, accountIdOf⟩

/-- A storage call as its closure reaches the actor, with the failures it meets there. `panicking`
is a call that panics inside a transaction, which rolls back as it unwinds. -/
inductive WalletDbRequest where
  | openOrCreate (fault : RecreateFault)
  | recreateWithAccount (fault : RecreateFault) (seed : SeedMaterial)
      (priorChainState : TreeStateArtifact)
  | hold (call : HoldCall)
  | createPczt (fault : StepFault CreateStep) (unlock : Unlock) (cleanup : StepFault ReleaseStep)
      (owner : LockOwner) (inputs : List OutputRef) (txId : TxId)
  | extractAndStorePczt (fault : StepFault ExtractStep) (pczt : Pczt)
  | abandonPczt (fault : StepFault ReleaseStep) (pczt : Pczt)
  | panicking

inductive WalletDbReply where
  | done
  | account (accountId : AccountId)
  | pczt (pczt : Pczt) (lockOwner : LockOwner)
  | txId (txId : TxId)

section Requests

variable {δ : Type}

def openOrCreate (options : WalletDbOptions δ) (fault : RecreateFault) (store : WalletStore δ) :
    Except StorageError Unit × WalletStore δ :=
  match store.state with
  | .opened => (.ok (), store)
  | .notOpened =>
    match openWalletDb options fault store.files with
    | (.error error, files) => (.error error, ⟨.notOpened, files⟩)
    | (.ok _, files) => (.ok (), ⟨.opened, files⟩)

/-- The closure of `recreate_with_account`. -/
def recreateOnActor (options : WalletDbOptions δ) (fault : RecreateFault) (seed : SeedMaterial)
    (priorChainState : TreeStateArtifact) (store : WalletStore δ) :
    Except StorageError AccountId × WalletStore δ :=
  match rebuildFiles options fault seed priorChainState store.files with
  | (.error error, files) => (.error error, ⟨.notOpened, files⟩)
  | (.ok accountId, files) => (.ok accountId, ⟨.opened, files⟩)

/-- `with_db`, `with_db_mut`, `with_ledger` and `with_db_and_ledger`. -/
def withDb (work : δ → Except StorageError α × δ) (store : WalletStore δ) :
    Except StorageError α × WalletStore δ :=
  match store.state, store.files.main with
  | .opened, some db =>
    let (answer, contents) := work db.contents
    (answer, { store with files := { store.files with main := some { db with contents } } })
  | _, _ => (.error .notOpened, store)

end Requests

/-- The call on the hold table, with its answer. -/
def HoldCall.answer (table : HoldTable) : HoldCall → Except StorageError Unit
  | create fault record => (createHold fault record table).1
  | release fault holdId releasedAtMs => discard (releaseHold fault holdId releasedAtMs table)
  | finalize fault holdId txId => discard (finalizeHold fault holdId txId table)

namespace WalletDbRequest

/-- A call on the PCZT tables alone. -/
def onPczt (work : PcztState → Except StorageError α × PcztState) (tables : WalletTables) :
    Except StorageError α × WalletTables :=
  let (answer, pczt) := work tables.pczt
  (answer, { tables with pczt })

/-- What the closure answers and leaves; a step that panics answers nothing. -/
def run (codec : Wire.Hex.Codec) (options : WalletDbOptions WalletTables)
    (request : WalletDbRequest) (store : WalletStore WalletTables) :
    Option (Except StorageError WalletDbReply) × WalletStore WalletTables :=
  match request with
  | openOrCreate fault =>
    let (answer, store) := Zally.openOrCreate options fault store
    (if fault.any (·.2 = .panicked) && answer.toOption.isNone then none
      else some (answer.map fun _ => .done), store)
  | recreateWithAccount fault seed priorChainState =>
    let (answer, store) := recreateOnActor options fault seed priorChainState store
    (if fault.any (·.2 = .panicked) && answer.toOption.isNone then none
      else some (answer.map .account), store)
  | hold call =>
    let (answer, store) := withDb (fun tables =>
      (call.answer tables.holds, { tables with holds := call.run tables.holds })) store
    (some (answer.map fun _ => .done), store)
  | createPczt fault unlock _ owner inputs txId =>
    let (answer, store) :=
      withDb (onPczt (Zally.createPczt codec fault unlock owner inputs txId)) store
    (some (answer.map fun created => .pczt created.1 created.2), store)
  | extractAndStorePczt fault pczt =>
    let (answer, store) := withDb (onPczt (Zally.extractAndStorePczt fault pczt)) store
    (some (answer.map .txId), store)
  | abandonPczt fault pczt =>
    let (answer, store) := withDb (onPczt (Zally.abandonPczt fault pczt)) store
    (some (answer.map fun _ => .done), store)
  | panicking => (none, store)

/-- What the actor does when nobody acknowledges a PCZT. -/
def undo (request : WalletDbRequest) (reply : Except StorageError WalletDbReply) :
    Option (WalletStore WalletTables → WalletStore WalletTables) :=
  match request, reply with
  | createPczt _ _ cleanup _ _ _, .ok (.pczt _ lockOwner) =>
    some fun store => (withDb (onPczt (releasePendingPcztInputs cleanup lockOwner)) store).2
  | _, _ => none

end WalletDbRequest

/-- The actor's loop: each request on the state the one before it left. -/
def walletDbService (codec : Wire.Hex.Codec) (options : WalletDbOptions WalletTables) :
    Actor.Service (WalletStore WalletTables) WalletDbRequest (Except StorageError WalletDbReply) where
  run := WalletDbRequest.run codec options
  undo := WalletDbRequest.undo

/-- What the caller of a request gets once the actor dealt with it. -/
def WalletDbRequest.answer (request : WalletDbRequest)
    (outcome : Option (Except StorageError WalletDbReply)) : Except StorageError WalletDbReply :=
  outcome.getD <| .error <| .blockingTaskFailed <| match request with
    | createPczt .. => "wallet-db actor dropped the PCZT creation reply"
    | _ => "wallet-db actor dropped the reply"

abbrev WalletDbWorld :=
  Actor.World (WalletStore WalletTables) WalletDbRequest (Except StorageError WalletDbReply)

/-- A run of the handles and the actor. -/
abbrev WalletDbPath (codec : Wire.Hex.Codec) (options : WalletDbOptions WalletTables) :=
  Async.Path (Actor.Step (walletDbService codec options) walletDbQueueCapacity)

/-- `queue_depth`. -/
def queueDepth (world : WalletDbWorld) : Nat := world.queue.length

namespace WalletStore

/-- The tables in the file; a file that is not there holds none. -/
def tables (store : WalletStore WalletTables) : WalletTables :=
  (store.files.main.map (·.contents)).getD .empty

end WalletStore

/-- What a served request does to the tables of an opened database. -/
def WalletDbRequest.effect (codec : Wire.Hex.Codec) (kept : Bool) (tables : WalletTables) :
    WalletDbRequest → WalletTables
  | hold call => { tables with holds := call.run tables.holds }
  | createPczt fault unlock cleanup owner inputs txId =>
    match Zally.createPczt codec fault unlock owner inputs txId tables.pczt with
    | (.ok (_, lockOwner), pczt) => if kept then { tables with pczt } else
        { tables with pczt := (releasePendingPcztInputs cleanup lockOwner pczt).2 }
    | (.error _, pczt) => { tables with pczt }
  | extractAndStorePczt fault pczt =>
    { tables with pczt := (Zally.extractAndStorePczt fault pczt tables.pczt).2 }
  | abandonPczt fault pczt => { tables with pczt := (Zally.abandonPczt fault pczt tables.pczt).2 }
  | _ => tables

section Tables

variable {codec : Wire.Hex.Codec} {options : WalletDbOptions WalletTables}
  {store : WalletStore WalletTables}

theorem tables_of_main (state : WalletDbState) (main : files.main = store.files.main) :
    WalletStore.tables ⟨state, files⟩ = store.tables := by
  rw [WalletStore.tables,WalletStore.tables,main]

theorem openWalletDb_tables (state : WalletDbState) (fresh : options.fresh = .empty)
    (fault : RecreateFault) (files : WalletDbFiles WalletTables) :
    WalletStore.tables ⟨state, (openWalletDb options fault files).2⟩ =
      WalletStore.tables ⟨state, files⟩ := by
  unfold openWalletDb
  split
  · rfl
  · dsimp only
    split <;> cases stored : files.main <;> simp [WalletStore.tables,stored,fresh]

theorem createAccountOn_tables (state : WalletDbState) (fault : RecreateFault)
    (seed : SeedMaterial) (priorChainState : TreeStateArtifact) (stored : files.main = some db) :
    WalletStore.tables ⟨state, (createAccountOn options fault seed priorChainState db files).2⟩ =
      WalletStore.tables ⟨state, files⟩ := by
  unfold createAccountOn
  split
  · rfl
  · dsimp only
    split <;> simp [WalletStore.tables,stored]

theorem openWalletDb_ok (opened : openWalletDb options fault files = (.ok db, after)) :
    after.main = some db := by
  unfold openWalletDb at opened
  split at opened
  · cases opened
  · dsimp only at opened
    split at opened <;> cases opened
    rfl

theorem removeWalletDbFiles_main (options : WalletDbOptions WalletTables) (fault : RecreateFault)
    (suffixes : List WalletDbFile) (files : WalletDbFiles WalletTables) :
    (removeWalletDbFiles options fault suffixes files).2.main = files.main ∨
      (removeWalletDbFiles options fault suffixes files).2.main = none := by
  induction suffixes generalizing files with
  | nil => exact .inl rfl
  | cons file rest ih =>
    unfold removeWalletDbFiles
    split
    · exact .inl rfl
    · obtain same | gone := ih (files.remove file)
      · cases file with
        | main => exact .inr same
        | wal | shm => exact .inl same
      · exact .inr gone

/-- A rebuild leaves the tables of the old database, or empty ones. -/
theorem rebuildFiles_tables (state : WalletDbState) (fresh : options.fresh = .empty)
    (fault : RecreateFault) (seed : SeedMaterial) (priorChainState : TreeStateArtifact)
    (store : WalletStore WalletTables) :
    WalletStore.tables ⟨state, (rebuildFiles options fault seed priorChainState store.files).2⟩ =
        store.tables ∨
      WalletStore.tables ⟨state, (rebuildFiles options fault seed priorChainState store.files).2⟩ =
        .empty := by
  have removed : ∀ files, files.main = store.files.main ∨ files.main = none →
      WalletStore.tables ⟨state, files⟩ = store.tables ∨
        WalletStore.tables ⟨state, files⟩ = .empty := by
    rintro files (same | gone)
    · exact .inl (tables_of_main state same)
    · exact .inr (by rw [WalletStore.tables,gone]; rfl)
  unfold rebuildFiles
  split
  · exact .inl rfl
  have deleted := removeWalletDbFiles_main options fault [.main, .wal, .shm] store.files
  split <;> rename_i files left <;> rw [left] at deleted
  · exact removed files deleted
  · have reopened := openWalletDb_tables state fresh fault files
    split <;> rename_i opened <;> rw [opened] at reopened
    · exact reopened ▸ removed files deleted
    · rw [createAccountOn_tables state fault seed priorChainState (openWalletDb_ok opened),reopened]
      exact removed files deleted

theorem withDb_cases (work : WalletTables → Except StorageError α × WalletTables)
    (store : WalletStore WalletTables) :
    withDb work store = (.error .notOpened, store) ∨
      ∃ db, store.state = .opened ∧ store.files.main = some db ∧
        withDb work store = ((work db.contents).1,
          ⟨.opened, { store.files with main := some { db with contents := (work db.contents).2 } }⟩) := by
  obtain ⟨state, files⟩ := store
  cases state with
  | notOpened => exact .inl rfl
  | opened =>
    cases stored : files.main with
    | none => exact .inl (by simp [withDb,stored])
    | some db => exact .inr ⟨db, rfl, rfl, by simp [withDb,stored]⟩

/-- On an opened database a creation has its effect, once it is acknowledged or undone. -/
theorem settle_createPczt (opened : store.state = .opened) (stored : store.files.main = some db)
    (kept : Bool) :
    ((walletDbService codec options).settle (.createPczt fault unlock cleanup owner inputs txId)
        kept store).tables =
      (WalletDbRequest.createPczt fault unlock cleanup owner inputs txId).effect codec kept
        store.tables := by
  have tables : store.tables = db.contents := by simp [WalletStore.tables,stored]
  rw [tables]
  cases created : createPczt codec fault unlock owner inputs txId db.contents.pczt with
  | mk answer pczt =>
    let left : WalletStore WalletTables :=
      ⟨.opened, { store.files with main := some { db with contents.pczt := pczt } }⟩
    have ran : (walletDbService codec options).run
        (.createPczt fault unlock cleanup owner inputs txId) store =
        (some (answer.map fun created => .pczt created.1 created.2), left) := by
      simp [walletDbService,WalletDbRequest.run,withDb,opened,stored,WalletDbRequest.onPczt,created,
        left]
    cases answer with
    | error error =>
      rw [Actor.settle_of_plain (by rw [ran]; rfl),ran,WalletDbRequest.effect,created]
      rfl
    | ok answer =>
      obtain ⟨bytes, lockOwner⟩ := answer
      rw [Actor.settle_of_undo (congrArg Prod.fst ran) rfl,ran,WalletDbRequest.effect,created]
      cases kept <;> rfl

/-- A served request leaves the tables alone, loses them with their file, or has its effect. -/
theorem settle_tables (fresh : options.fresh = .empty) (request : WalletDbRequest) (kept : Bool)
    (store : WalletStore WalletTables) :
    ((walletDbService codec options).settle request kept store).tables = store.tables ∨
      ((walletDbService codec options).settle request kept store).tables = .empty ∨
      (∃ db, store.state = .opened ∧ store.files.main = some db) ∧
        ((walletDbService codec options).settle request kept store).tables =
          request.effect codec kept store.tables := by
  have onDb {α : Type} (work : WalletTables → Except StorageError α × WalletTables) :
      (withDb work store).2.tables = store.tables ∨
        (∃ db, store.state = .opened ∧ store.files.main = some db) ∧
          (withDb work store).2.tables = (work store.tables).2 := by
    obtain unopened | ⟨db, opened, stored, done⟩ := withDb_cases work store
    · exact .inl (by rw [unopened])
    · exact .inr ⟨⟨db, opened, stored⟩, by simp [done,WalletStore.tables,stored]⟩
  have plain {request : WalletDbRequest} (plain : ∀ reply, request.undo reply = none) :
      (walletDbService codec options).settle request kept store =
        (request.run codec options store).2 := by
    refine Actor.settle_of_plain (Option.bind_eq_none_iff.mpr ?_) kept
    exact fun reply _ => plain reply
  cases request with
  | openOrCreate fault =>
    left
    rw [plain fun _ => rfl]
    change (openOrCreate options fault store).2.tables = store.tables
    unfold openOrCreate
    split
    · rfl
    · have reopened := openWalletDb_tables .notOpened fresh fault store.files
      split <;> rename_i opened <;> rw [opened] at reopened <;> exact reopened
  | recreateWithAccount fault seed priorChainState =>
    rw [plain fun _ => rfl]
    change (recreateOnActor options fault seed priorChainState store).2.tables = _ ∨
      (recreateOnActor options fault seed priorChainState store).2.tables = _ ∨ _
    have rebuilt := rebuildFiles_tables .notOpened fresh fault seed priorChainState store
    unfold recreateOnActor
    split <;> rename_i files <;> rw [files] at rebuilt <;>
      exact rebuilt.imp id .inl
  | hold call =>
    rw [plain fun _ => rfl]
    exact (onDb fun tables =>
      (call.answer tables.holds, { tables with holds := call.run tables.holds })).imp id .inr
  | createPczt fault unlock cleanup owner inputs txId =>
    obtain unopened | ⟨db, opened, stored, -⟩ :=
      withDb_cases (WalletDbRequest.onPczt (createPczt codec fault unlock owner inputs txId)) store
    · left
      simp [Actor.Service.settle,walletDbService,WalletDbRequest.run,unopened,Except.map,
        WalletDbRequest.undo]
    · exact .inr (.inr ⟨⟨db, opened, stored⟩, settle_createPczt opened stored kept⟩)
  | extractAndStorePczt fault pczt =>
    rw [plain fun _ => rfl]
    exact (onDb (WalletDbRequest.onPczt (extractAndStorePczt fault pczt))).imp id .inr
  | abandonPczt fault pczt =>
    rw [plain fun _ => rfl]
    exact (onDb (WalletDbRequest.onPczt (abandonPczt fault pczt))).imp id .inr
  | panicking =>
    rw [plain fun _ => rfl]
    exact .inl rfl

/-- On an opened database a creation answers what it answers on the tables. -/
theorem run_createPczt (opened : store.state = .opened) (stored : store.files.main = some db) :
    ((walletDbService codec options).run (.createPczt fault unlock cleanup owner inputs txId)
      store).1 =
      some ((createPczt codec fault unlock owner inputs txId store.tables.pczt).1.map fun created =>
        .pczt created.1 created.2) := by
  have tables : store.tables = db.contents := by simp [WalletStore.tables,stored]
  simp [walletDbService,WalletDbRequest.run,withDb,opened,stored,tables,WalletDbRequest.onPczt]

theorem holds_settle (fresh : options.fresh = .empty) (sound : store.tables.holds.Sound)
    (request : WalletDbRequest) (kept : Bool) :
    ((walletDbService codec options).settle request kept store).tables.holds.Sound := by
  obtain same | gone | ⟨-, done⟩ := settle_tables fresh request kept store
  · exact same ▸ sound
  · exact gone ▸ .empty
  · rw [done]
    cases request with
    | hold call => exact sound.run call
    | createPczt fault unlock cleanup owner inputs txId =>
      rw [WalletDbRequest.effect]
      split
      · split <;> exact sound
      · exact sound
    | _ => exact sound

end Tables

namespace WalletDbRequest

/-- The owner a creation locks for. -/
def creates : WalletDbRequest → Option LockOwner
  | createPczt _ _ _ owner _ _ => some owner
  | _ => none

/-- The request locks no more than `items` for `owner`, its rollback gives all of them back, and a
PCZT it extracts that names `owner` spends all of them. -/
def Respects (owner : LockOwner) (items : List OutputRef) : WalletDbRequest → Prop
  | createPczt _ unlock _ other inputs _ => other = owner → inputs ⊆ items ∧ unlock = .released
  | extractAndStorePczt _ pczt => pendingPcztLockOwner pczt = .ok (some owner) → items ⊆ pczt.inputs
  | _ => True

/-- What a creation leaves once its answer is acknowledged or undone. -/
theorem effect_createPczt (codec : Wire.Hex.Codec) (fault : StepFault CreateStep) (unlock : Unlock)
    (cleanup : StepFault ReleaseStep) (owner : LockOwner) (inputs : List OutputRef) (txId : TxId)
    (kept : Bool) (tables : WalletTables) :
    ((createPczt fault unlock cleanup owner inputs txId).effect codec kept tables).pczt =
      tables.pczt ∨
    (unlock = .released ∧
      ((createPczt fault unlock cleanup owner inputs txId).effect codec kept tables).pczt =
        ⟨release (acquire tables.pczt.locks owner inputs) owner inputs, tables.pczt.pending⟩) ∨
    (∃ released reason, unlock = .failed released reason ∧
      ((createPczt fault unlock cleanup owner inputs txId).effect codec kept tables).pczt =
        ⟨release (acquire tables.pczt.locks owner inputs) owner released, tables.pczt.pending⟩) ∨
    ∃ created, tables.pczt.Created owner inputs created ∧
      Zally.createPczt codec fault unlock owner inputs txId tables.pczt =
        (.ok (⟨some owner.asBytes, inputs, txId⟩, owner), created) ∧
      ((createPczt fault unlock cleanup owner inputs txId).effect codec kept tables).pczt =
        if kept then created else (releasePendingPcztInputs cleanup owner created).2 := by
  obtain ⟨error, result⟩ | ⟨error, whole, result⟩ | ⟨error, released, reason, partly, result⟩ |
    ⟨pending, rows, result⟩ := createPczt_cases codec fault unlock owner inputs txId tables.pczt <;>
    rw [effect,result]
  · exact .inl rfl
  · exact .inr (.inl ⟨whole, rfl⟩)
  · exact .inr (.inr (.inl ⟨released, reason, partly, rfl⟩))
  · exact .inr (.inr (.inr ⟨_, ⟨rfl, rows⟩, rfl, by cases kept <;> rfl⟩))

variable {codec : Wire.Hex.Codec} {tables : WalletTables} {request : WalletDbRequest}

theorem leases_effect (leases : tables.pczt.Leases owner items)
    (respects : request.Respects owner items) (kept : Bool) :
    (request.effect codec kept tables).pczt.Leases owner items := by
  cases request with
  | createPczt fault unlock cleanup drawn inputs txId =>
    obtain result | ⟨-, result⟩ | ⟨released, reason, partly, result⟩ |
        ⟨created, locked, -, result⟩ :=
      effect_createPczt codec fault unlock cleanup drawn inputs txId kept tables <;> rw [result]
    · exact leases
    · exact leases.mono (fun _ => PcztState.held_of_rolledBack) fun _ => id
    · have ne : owner ≠ drawn := fun same => by
        rw [(respects same.symm).2] at partly
        cases partly
      exact leases.mono (fun _ => PcztState.held_of_unreleased ne) fun _ => id
    · have held := locked.leases leases fun same => (respects same).1
      cases kept
      · exact held.release cleanup drawn
      · exact held
  | extractAndStorePczt fault pczt =>
    have extraction : (PcztOp.extract fault pczt).Respects owner items := respects
    change (PcztOp.run codec tables.pczt (.extract fault pczt)).Leases owner items
    exact leases.run extraction
  | abandonPczt fault pczt =>
    have abandonment : (PcztOp.abandon fault pczt).Respects owner items := trivial
    change (PcztOp.run codec tables.pczt (.abandon fault pczt)).Leases owner items
    exact leases.run abandonment
  | _ => exact leases

theorem not_owns_effect (free : ¬tables.pczt.Owns owner) (others : request.creates ≠ some owner)
    (kept : Bool) : ¬(request.effect codec kept tables).pczt.Owns owner := by
  cases request with
  | createPczt fault unlock cleanup drawn inputs txId =>
    have ne : owner ≠ drawn := fun same => others (congrArg some same.symm)
    obtain result | ⟨-, result⟩ | ⟨released, reason, -, result⟩ | ⟨created, locked, -, result⟩ :=
      effect_createPczt codec fault unlock cleanup drawn inputs txId kept tables <;> rw [result]
    · exact free
    · exact PcztState.not_owns_mono free (fun _ => PcztState.held_of_rolledBack) fun _ => id
    · exact PcztState.not_owns_mono free (fun _ => PcztState.held_of_unreleased ne) fun _ => id
    · have apart := locked.not_owns ne free
      cases kept
      · exact PcztState.not_owns_after_release apart cleanup drawn
      · exact apart
  | extractAndStorePczt fault pczt =>
    have extraction : (PcztOp.extract fault pczt).creates ≠ some owner := nofun
    change ¬(PcztOp.run codec tables.pczt (.extract fault pczt)).Owns owner
    exact PcztState.not_owns_run free extraction
  | abandonPczt fault pczt =>
    have abandonment : (PcztOp.abandon fault pczt).creates ≠ some owner := nofun
    change ¬(PcztOp.run codec tables.pczt (.abandon fault pczt)).Owns owner
    exact PcztState.not_owns_run free abandonment
  | _ => exact free

/-- A creation that nobody acknowledges leaves its owner with nothing, when its rollback and its
cleanup succeed. -/
theorem not_owns_of_abandoned (free : ¬tables.pczt.Owns owner)
    (abandoned : kept = true → ∃ error,
      (Zally.createPczt codec fault .released owner inputs txId tables.pczt).1 = .error error) :
    ¬((createPczt fault .released none owner inputs txId).effect codec kept tables).pczt.Owns
      owner := by
  obtain result | ⟨-, result⟩ | ⟨released, reason, partly, -⟩ |
      ⟨created, locked, answered, result⟩ :=
    effect_createPczt codec fault .released none owner inputs txId kept tables
  · rw [result]
    exact free
  · rw [result]
    exact PcztState.not_owns_mono free (fun _ => PcztState.held_of_rolledBack) fun _ => id
  · cases partly
  · rw [result]
    cases kept with
    | true =>
      obtain ⟨error, failed⟩ := abandoned rfl
      rw [answered] at failed
      cases failed
    | false =>
      have leases := locked.leases (.of_not_owns free) fun _ => List.Subset.refl inputs
      rw [if_neg nofun]
      exact not_owns_of_cleanup leases.covered

end WalletDbRequest

end Zally
