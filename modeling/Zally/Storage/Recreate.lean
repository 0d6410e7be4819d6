import Zally.Wallet.SyncPort

/-! The wallet database as the storage actor holds it, and the call that deletes and rebuilds
it. -/
namespace Zally

/-- Whether the actor holds connections to the database at `db_path`. -/
inductive WalletDbState where
  | notOpened
  | opened
  deriving DecidableEq

inductive WalletDbFile where
  | main
  | wal
  | shm
  deriving DecidableEq

def WalletDbFile.suffix : WalletDbFile → String
  | main => ""
  | wal => "-wal"
  | shm => "-shm"

structure WalletAccount where
  accountId : AccountId
  birthday : BlockHeight
  deriving DecidableEq

/-- The account of a wallet database, and everything else in it. -/
structure WalletDb (δ : Type) where
  account : Option WalletAccount
  contents : δ
  deriving DecidableEq

/-- The database file and its siblings. -/
structure WalletDbFiles (δ : Type) where
  main : Option (WalletDb δ)
  wal : Bool
  shm : Bool
  deriving DecidableEq

structure WalletStore (δ : Type) where
  state : WalletDbState
  files : WalletDbFiles δ
  deriving DecidableEq

inductive RecreateStep where
  | treeState
  | request
  | close
  | remove (file : WalletDbFile)
  | createDirectory
  | openDb
  | migrate
  | openLedger
  | initLedger
  | importAccount
  | updateChainTip
  | accountId
  deriving DecidableEq

/-- How a step fails: with the text of the system, with an error that a mapping of the storage
made of it, or with a panic. -/
inductive RecreateCause where
  | reported (text : String)
  | mapped (error : StorageError)
  | panicked
  deriving DecidableEq

/-- The error the caller sees. A panic on the actor drops the reply. -/
def RecreateStep.error (dbPath : String) : RecreateStep → RecreateCause → StorageError
  | request, _ => .blockingTaskFailed "wallet-db actor channel closed"
  | _, .panicked => .blockingTaskFailed "wallet-db actor dropped the reply"
  | _, .mapped error => error
  | remove file, .reported text => .sqliteFailed
      s!"could not delete wallet database file '{dbPath}{file.suffix}': {text}" .retryable
  | createDirectory, .reported text =>
    .sqliteFailed s!"could not create database directory: {text}" .notRetryable
  | migrate, .reported text => .migrationFailed text
  | openLedger, .reported text =>
    .sqliteFailed s!"ledger connection open failed: {text}" .notRetryable
  | initLedger, .reported text =>
    .sqliteFailed s!"ext_zally schema init failed: {text}" .notRetryable
  | _, .reported text => .sqliteFailed text .notRetryable

/-- The failing step of a rebuild, if there is one, and its cause. -/
abbrev RecreateFault := Option (RecreateStep × RecreateCause)

/-- What the storage was configured with: the path, the contents of a new database, and the
identity that a seed gives its account. -/
structure WalletDbOptions (δ : Type) where
  dbPath : String
  fresh : δ
  accountIdOf : SeedMaterial → AccountId

variable {δ : Type}

def WalletDbOptions.check (options : WalletDbOptions δ) (fault : RecreateFault)
    (step : RecreateStep) : Except StorageError Unit :=
  failsAt (fault.map fun failing => (failing.1, failing.1.error options.dbPath failing.2)) step

def WalletDbFiles.remove (files : WalletDbFiles δ) : WalletDbFile → WalletDbFiles δ
  | .main => { files with main := none }
  | .wal => { files with wal := false }
  | .shm => { files with shm := false }

/-- The loop over the suffixes; a file that is not there counts as removed. -/
def removeWalletDbFiles (options : WalletDbOptions δ) (fault : RecreateFault) :
    List WalletDbFile → WalletDbFiles δ → Except StorageError Unit × WalletDbFiles δ
  | [], files => (.ok (), files)
  | file :: rest, files =>
    match options.check fault (.remove file) with
    | .error error => (.error error, files)
    | .ok () => removeWalletDbFiles options fault rest (files.remove file)

/-- A database that is not there yet is created when it is opened. -/
def openWalletDb (options : WalletDbOptions δ) (fault : RecreateFault) (files : WalletDbFiles δ) :
    Except StorageError (WalletDb δ) × WalletDbFiles δ :=
  match (do options.check fault .createDirectory; options.check fault .openDb) with
  | .error error => (.error error, files)
  | .ok () =>
    let db := files.main.getD ⟨none, options.fresh⟩
    let opened := { files with main := some db }
    match (do
      options.check fault .migrate
      options.check fault .openLedger
      options.check fault .initLedger) with
    | .error error => (.error error, opened)
    | .ok () => (.ok db, opened)

/-- The account is stored before the two steps after it. -/
def createAccountOn (options : WalletDbOptions δ) (fault : RecreateFault) (seed : SeedMaterial)
    (priorChainState : TreeStateArtifact) (db : WalletDb δ) (files : WalletDbFiles δ) :
    Except StorageError AccountId × WalletDbFiles δ :=
  match options.check fault .importAccount with
  | .error error => (.error error, files)
  | .ok () =>
    let account := ⟨options.accountIdOf seed, priorChainState.height + 1⟩
    let imported := { files with main := some { db with account := some account } }
    match (do options.check fault .updateChainTip; options.check fault .accountId) with
    | .error error => (.error error, imported)
    | .ok () => (.ok account.accountId, imported)

/-- What the actor does to the files once it has dropped the old connections. -/
def rebuildFiles (options : WalletDbOptions δ) (fault : RecreateFault) (seed : SeedMaterial)
    (priorChainState : TreeStateArtifact) (files : WalletDbFiles δ) :
    Except StorageError AccountId × WalletDbFiles δ :=
  match options.check fault .close with
  | .error error => (.error error, files)
  | .ok () =>
    match removeWalletDbFiles options fault [.main, .wal, .shm] files with
    | (.error error, files) => (.error error, files)
    | (.ok (), files) =>
      match openWalletDb options fault files with
      | (.error error, files) => (.error error, files)
      | (.ok db, files) => createAccountOn options fault seed priorChainState db files

/-- The state is reset before the first destructive step and set again after the last one. -/
def recreateWithAccount (options : WalletDbOptions δ) (fault : RecreateFault)
    (seed : SeedMaterial) (priorChainState : TreeStateArtifact) (store : WalletStore δ) :
    Except StorageError AccountId × WalletStore δ :=
  match (do options.check fault .treeState; options.check fault .request) with
  | .error error => (.error error, store)
  | .ok () =>
    match rebuildFiles options fault seed priorChainState store.files with
    | (.error error, files) => (.error error, ⟨.notOpened, files⟩)
    | (.ok accountId, files) => (.ok accountId, ⟨.opened, files⟩)

/-- `account_birthday`; `fault` is the failure of the read. -/
def accountBirthday (fault : Option StorageError) (store : WalletStore δ) :
    Except StorageError BlockHeight :=
  match store.state with
  | .notOpened => .error .notOpened
  | .opened =>
    match fault with
    | some error => .error error
    | none =>
      match store.files.main.bind (·.account) with
      | some account => .ok account.birthday
      | none => .error .accountNotFound

end Zally
