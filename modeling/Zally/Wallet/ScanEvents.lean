import Mathlib.Data.List.Nodup
import Mathlib.Data.List.Pairwise
import Zally.Wallet.SyncTrace

/-! The events that follow a commit: which attempts announce the transactions and notes of
the chunk they committed. -/
namespace Zally.Sync

open Async Async.Program

structure CommittedRange where
  fromHeight : BlockHeight
  scannedTo : BlockHeight
  deriving DecidableEq, Repr

def CommittedRange.Contains (range : CommittedRange) (height : BlockHeight) : Prop :=
  range.fromHeight ≤ height ∧ height ≤ range.scannedTo

/-- The ranges a trace committed. -/
def commits (trace : List SyncEvent) : List CommittedRange :=
  trace.filterMap fun
    | ⟨.scanBlocks request, .ok result⟩ => some ⟨request.fromHeight, result.scannedToHeight⟩
    | _ => none

def publishedIn : SyncEvent → List WalletEvent
  | ⟨.publishEvents events, _⟩ => events
  | _ => []

def published (trace : List SyncEvent) : List WalletEvent := trace.flatMap publishedIn

def confirmation : WalletEvent → Option (TxId × BlockHeight)
  | .transactionConfirmed txId confirmedAtHeight => some (txId, confirmedAtHeight)
  | _ => none

def receive : WalletEvent → Option ReceivedShieldedNoteRow
  | .shieldedReceiveObserved note _ => some note
  | _ => none

/-- The transactions a trace announced as confirmed. -/
def confirmations (trace : List SyncEvent) : List (TxId × BlockHeight) :=
  (published trace).filterMap confirmation

/-- The notes a trace announced as received. -/
def receives (trace : List SyncEvent) : List ReceivedShieldedNoteRow :=
  (published trace).filterMap receive

/-- The transactions whose pending broadcasts a trace cleared as mined. -/
def clearedAsMined (trace : List SyncEvent) : List TxId :=
  trace.flatMap fun
    | ⟨.clearPendingBroadcastInputsForMined txIds, .ok _⟩ => txIds
    | _ => []

@[simp] theorem confirmations_append :
    confirmations (before ++ after) = confirmations before ++ confirmations after := by
  simp [confirmations,published]

@[simp] theorem receives_append :
    receives (before ++ after) = receives before ++ receives after := by
  simp [receives,published]

@[simp] theorem clearedAsMined_append :
    clearedAsMined (before ++ after) = clearedAsMined before ++ clearedAsMined after := by
  simp [clearedAsMined]

/-- The ledger answers with rows it holds, each once, and only rows of the range. -/
def LedgerAnswer (transactions : List (TxId × BlockHeight)) (notes : List ReceivedShieldedNoteRow) :
    SyncEvent → Prop
  | ⟨.walletTxIdsMinedInRange startHeight endHeight, .ok rows⟩ => rows.Nodup ∧
      ∀ row ∈ rows, row ∈ transactions ∧ startHeight ≤ row.2 ∧ row.2 ≤ endHeight
  | ⟨.receivedShieldedNotesMinedInRange fromHeight toHeight, .ok rows⟩ => rows.Nodup ∧
      ∀ row ∈ rows, row ∈ notes ∧ fromHeight ≤ row.minedHeight ∧ row.minedHeight ≤ toHeight
  | _ => True

/-- The attempt was told of the transaction and went on after clearing its broadcasts. -/
def ConfirmationAnswered (trace : List SyncEvent) (row : TxId × BlockHeight) : Prop :=
  (∃ startHeight endHeight rows,
    ⟨.walletTxIdsMinedInRange startHeight endHeight, .ok rows⟩ ∈ trace ∧ row ∈ rows) ∧
  ∃ txIds cleared, ⟨.clearPendingBroadcastInputsForMined txIds, .ok cleared⟩ ∈ trace.dropLast

/-- The attempt was told of the note and went on. -/
def ReceiveAnswered (trace : List SyncEvent) (note : ReceivedShieldedNoteRow) : Prop :=
  ∃ fromHeight toHeight rows,
    ⟨.receivedShieldedNotesMinedInRange fromHeight toHeight, .ok rows⟩ ∈ trace.dropLast ∧
    note ∈ rows

/-- The clearing that lets an attempt announce `rows`. -/
def Retired (rows : List (TxId × BlockHeight)) (retired : List SyncEvent) : Prop :=
  rows = [] ∧ retired = [] ∨ rows ≠ [] ∧ ∃ cleared,
    retired = [⟨.clearPendingBroadcastInputsForMined (rows.map Prod.fst), .ok cleared⟩]

/-- The shapes of what follows a comparison that found no divergence, by the last
announcement it reached. -/
inductive Announced (context : ScanContext) (scannedTo : BlockHeight) : List SyncEvent → Prop where
  | unread : Announced context scannedTo []
  | stopped (reply : Except StorageError (List (TxId × BlockHeight))) :
      Announced context scannedTo
        [⟨.walletTxIdsMinedInRange context.scannedFrom scannedTo, reply⟩]
  | uncleared (rows : List (TxId × BlockHeight)) (reply : Except StorageError Nat) :
      Announced context scannedTo
        [⟨.walletTxIdsMinedInRange context.scannedFrom scannedTo, .ok rows⟩,
          ⟨.clearPendingBroadcastInputsForMined (rows.map Prod.fst), reply⟩]
  | confirmed (rows : List (TxId × BlockHeight)) (retired tail : List SyncEvent) :
      Retired rows retired →
      (tail = [] ∨ ∃ reply, tail =
        [⟨.receivedShieldedNotesMinedInRange context.scannedFrom scannedTo, reply⟩]) →
      Announced context scannedTo
        (⟨.walletTxIdsMinedInRange context.scannedFrom scannedTo, .ok rows⟩ :: (retired ++
          ⟨.publishEvents (confirmedEvents rows), ()⟩ :: tail))
  | received (rows : List (TxId × BlockHeight)) (retired : List SyncEvent)
      (notes : List ReceivedShieldedNoteRow) (tail : List SyncEvent) :
      Retired rows retired →
      (tail = [] ∨ ∃ nowMs, tail = [⟨.currentUnixMs, nowMs⟩]) →
      Announced context scannedTo
        (⟨.walletTxIdsMinedInRange context.scannedFrom scannedTo, .ok rows⟩ :: (retired ++
          ⟨.publishEvents (confirmedEvents rows), ()⟩ ::
          ⟨.receivedShieldedNotesMinedInRange context.scannedFrom scannedTo, .ok notes⟩ ::
          ⟨.publishEvents (receivedEvents context.blocks notes ++
            [.scanProgress scannedTo context.targetHeight]), ()⟩ :: tail))

theorem runs_retire (rows : List (TxId × BlockHeight))
    (run : Runs (retirePendingBroadcastsForMined rows).run trace outcome) :
    (trace = [] ∨ ∃ reply, trace =
      [⟨.clearPendingBroadcastInputsForMined (rows.map Prod.fst), reply⟩]) ∧
    (outcome = some (.ok ()) → Retired rows trace) := by
  unfold retirePendingBroadcastsForMined at run
  split at run
  · rename_i none
    obtain ⟨rfl, -⟩ := runs_done_iff.mp run
    exact ⟨.inl rfl, fun _ => .inl ⟨none, rfl⟩⟩
  · rename_i some
    rcases Fallible.runs_bind_cases run with ⟨stopped, failed⟩ | ⟨cleared, first, rest, rfl, got, rest⟩
    · rcases Fallible.runs_call_iff.mp stopped with ⟨rfl, -⟩ | ⟨reply, rfl, -⟩
      · exact ⟨.inl rfl, fun ok => absurd ok (failed ())⟩
      · exact ⟨.inr ⟨reply, rfl⟩, fun ok => absurd ok (failed ())⟩
    · obtain ⟨reply, rfl, rfl⟩ := Fallible.runs_call_ok got
      obtain ⟨rfl, -⟩ := runs_done_iff.mp rest
      exact ⟨.inr ⟨_, rfl⟩, fun _ => .inr ⟨some, cleared, rfl⟩⟩

theorem runs_announceScanned
    (run : Runs (announceScanned context scannedTo).run trace outcome) :
    Announced context scannedTo trace := by
  rcases Fallible.runs_bind_cases run with ⟨stopped, -⟩ | ⟨rows, first, rest, rfl, got, retiring⟩
  · rcases Fallible.runs_call_iff.mp stopped with ⟨rfl, -⟩ | ⟨reply, rfl, -⟩
    · exact .unread
    · exact .stopped reply
  obtain ⟨reply, rfl, rfl⟩ := Fallible.runs_call_ok got
  rcases Fallible.runs_bind_cases retiring with ⟨stopped, -⟩ | ⟨_, retired, tail, rfl, retire, announcing⟩
  · rcases (runs_retire rows stopped).1 with rfl | ⟨reply, rfl⟩
    · exact .stopped (.ok rows)
    · exact .uncleared rows reply
  have cleared := (runs_retire rows retire).2 rfl
  rcases runs_await_iff.mp announcing with ⟨rfl, -⟩ | ⟨⟨⟩, tail, rfl, reading⟩
  · rcases cleared with ⟨-, rfl⟩ | ⟨-, count, rfl⟩
    · exact .stopped (.ok rows)
    · exact .uncleared rows (.ok count)
  rcases Fallible.runs_bind_cases reading with ⟨stopped, -⟩ | ⟨notes, read, last, rfl, got, publishing⟩
  · apply Announced.confirmed rows retired tail cleared
    rcases Fallible.runs_call_iff.mp stopped with ⟨rfl, -⟩ | ⟨reply, rfl, -⟩
    · exact .inl rfl
    · exact .inr ⟨reply, rfl⟩
  obtain ⟨reply, rfl, rfl⟩ := Fallible.runs_call_ok got
  rcases runs_await_iff.mp publishing with ⟨rfl, -⟩ | ⟨⟨⟩, final, rfl, clock⟩
  · exact .confirmed rows retired _ cleared (.inr ⟨_, rfl⟩)
  · apply Announced.received rows retired notes final cleared
    rcases runs_await_iff.mp clock with ⟨rfl, -⟩ | ⟨nowMs, done, rfl, finished⟩
    · exact .inl rfl
    · obtain ⟨rfl, -⟩ := runs_done_iff.mp finished
      exact .inr ⟨nowMs, rfl⟩

/-! What an attempt announces. -/

/-- What the events of one attempt are worth, when it may announce only what `inside`
holds of. -/
structure AnnouncesWithin (inside : BlockHeight → Prop) (trace : List SyncEvent) : Prop where
  confirmedOnce : (confirmations trace).Nodup
  confirmedInside : ∀ row ∈ confirmations trace, inside row.2
  confirmed : ∀ row, row ∈ confirmations trace ↔ ConfirmationAnswered trace row
  cleared : ∀ row ∈ confirmations trace, row.1 ∈ clearedAsMined trace
  receivedOnce : (receives trace).Nodup
  receivedInside : ∀ note ∈ receives trace, inside note.minedHeight
  received : ∀ note, note ∈ receives trace ↔ ReceiveAnswered trace note

/-- Calls that announce nothing and are told nothing. -/
def Silent : SyncCommand → Prop
  | .walletTxIdsMinedInRange _ _ | .receivedShieldedNotesMinedInRange _ _
  | .clearPendingBroadcastInputsForMined _ => False
  | .publishEvents events => ∀ event ∈ events, IsProgress event
  | _ => True

section

variable {before after trace : List SyncEvent} {event : SyncEvent} {inside : BlockHeight → Prop}

theorem published_of_silent (silent : ∀ event ∈ trace, Silent event.command) :
    ∀ event ∈ published trace, IsProgress event := by
  intro event member
  obtain ⟨⟨command, answer⟩, among, here⟩ := List.mem_flatMap.mp member
  have quiet := silent _ among
  cases command
  case publishEvents events => exact quiet event here
  all_goals cases here

theorem confirmations_of_silent (silent : ∀ event ∈ trace, Silent event.command) :
    confirmations trace = [] := by
  apply List.filterMap_eq_nil_iff.mpr
  intro event member
  have progress := published_of_silent silent event member
  cases event <;> first | rfl | cases progress

theorem receives_of_silent (silent : ∀ event ∈ trace, Silent event.command) :
    receives trace = [] := by
  apply List.filterMap_eq_nil_iff.mpr
  intro event member
  have progress := published_of_silent silent event member
  cases event <;> first | rfl | cases progress

theorem clearedAsMined_of_silent (silent : ∀ event ∈ trace, Silent event.command) :
    clearedAsMined trace = [] := by
  apply List.flatMap_eq_nil_iff.mpr
  rintro ⟨command, answer⟩ member
  have quiet := silent _ member
  cases command <;> first | rfl | cases quiet

/-- Silent calls before an event that is not one do not decide whether it was followed. -/
theorem mem_dropLast_of_silent (silent : ∀ event ∈ before, Silent event.command)
    (loud : ¬Silent event.command) :
    event ∈ (before ++ after).dropLast ↔ event ∈ after.dropLast := by
  have outside : event ∉ before := fun member => loud (silent event member)
  cases after with
  | nil =>
    simp only [List.append_nil,List.dropLast_nil,List.not_mem_nil,iff_false]
    exact fun member => outside (List.dropLast_subset before member)
  | cons first rest =>
    rw [List.dropLast_append_of_ne_nil (by simp)]
    simp [outside]

theorem AnnouncesWithin.after_silent (announces : AnnouncesWithin inside after)
    (silent : ∀ event ∈ before, Silent event.command) :
    AnnouncesWithin inside (before ++ after) := by
  have listed : ∀ startHeight endHeight rows,
      (⟨.walletTxIdsMinedInRange startHeight endHeight, .ok rows⟩ : SyncEvent) ∈ before ++ after ↔
        (⟨.walletTxIdsMinedInRange startHeight endHeight, .ok rows⟩ : SyncEvent) ∈ after := by
    intro startHeight endHeight rows
    have outside : (⟨.walletTxIdsMinedInRange startHeight endHeight, .ok rows⟩ : SyncEvent) ∉ before :=
      fun member => silent _ member
    simp [outside]
  have confirmed : ∀ row, ConfirmationAnswered (before ++ after) row ↔
      ConfirmationAnswered after row := by
    intro row
    simp only [ConfirmationAnswered,listed]
    refine and_congr_right fun _ => exists_congr fun txIds => exists_congr fun cleared => ?_
    exact mem_dropLast_of_silent silent not_false
  have received : ∀ note, ReceiveAnswered (before ++ after) note ↔ ReceiveAnswered after note := by
    intro note
    refine exists_congr fun fromHeight => exists_congr fun toHeight => exists_congr fun rows => ?_
    exact and_congr_left fun _ => mem_dropLast_of_silent silent not_false
  have confirmations : confirmations (before ++ after) = confirmations after := by
    rw [confirmations_append,confirmations_of_silent silent,List.nil_append]
  have receives : receives (before ++ after) = receives after := by
    rw [receives_append,receives_of_silent silent,List.nil_append]
  constructor
  · exact confirmations ▸ announces.confirmedOnce
  · exact confirmations ▸ announces.confirmedInside
  · intro row
    rw [confirmations,confirmed]
    exact announces.confirmed row
  · rw [confirmations,clearedAsMined_append,clearedAsMined_of_silent silent]
    exact announces.cleared
  · exact receives ▸ announces.receivedOnce
  · exact receives ▸ announces.receivedInside
  · intro note
    rw [receives,received]
    exact announces.received note

theorem announcesWithin_of_silent (silent : ∀ event ∈ trace, Silent event.command) :
    AnnouncesWithin inside trace := by
  have nothing : AnnouncesWithin inside [] := by
    constructor <;> simp [confirmations,receives,published,ConfirmationAnswered,ReceiveAnswered]
  simpa using nothing.after_silent silent

end

@[simp] theorem confirmations_confirmedEvents (rows : List (TxId × BlockHeight)) :
    (confirmedEvents rows).filterMap confirmation = rows := by
  simp [confirmedEvents,List.filterMap_map,Function.comp_def,confirmation]

@[simp] theorem receives_confirmedEvents (rows : List (TxId × BlockHeight)) :
    (confirmedEvents rows).filterMap receive = [] := by
  simp [confirmedEvents,List.filterMap_map,Function.comp_def,receive]

@[simp] theorem confirmations_receivedEvents (blocks : List CompactBlockArtifact)
    (notes : List ReceivedShieldedNoteRow) :
    (receivedEvents blocks notes).filterMap confirmation = [] := by
  simp [receivedEvents,List.filterMap_map,Function.comp_def,confirmation]

@[simp] theorem receives_receivedEvents (blocks : List CompactBlockArtifact)
    (notes : List ReceivedShieldedNoteRow) :
    (receivedEvents blocks notes).filterMap receive = notes := by
  simp [receivedEvents,List.filterMap_map,Function.comp_def,receive]

/-- An attempt that announced `rows` and `told`, the rows it was told of and went on from. -/
theorem announcesWithin_of_told {trace : List SyncEvent} {inside : BlockHeight → Prop}
    (rows : List (TxId × BlockHeight)) (told : List ReceivedShieldedNoteRow)
    (confirmed : confirmations trace = rows) (received : receives trace = told)
    (cleared : clearedAsMined trace = rows.map Prod.fst)
    (rowsAnswered : ∀ row, row ∈ rows ↔ ConfirmationAnswered trace row)
    (notesAnswered : ∀ note, note ∈ told ↔ ReceiveAnswered trace note)
    (rowsOnce : rows.Nodup) (rowsInside : ∀ row ∈ rows, inside row.2)
    (notesOnce : told.Nodup) (notesInside : ∀ note ∈ told, inside note.minedHeight) :
    AnnouncesWithin inside trace := by
  subst confirmed received
  refine ⟨rowsOnce, rowsInside, rowsAnswered, ?_, notesOnce, notesInside, notesAnswered⟩
  intro row member
  rw [cleared]
  exact List.mem_map_of_mem member

/-- An announcement is exactly what its attempt was told of and went on from. -/
theorem Announced.announcesWithin (announced : Announced context scannedTo trace)
    (truthful : ∀ event ∈ trace, LedgerAnswer transactions notes event) :
    AnnouncesWithin (CommittedRange.Contains ⟨context.scannedFrom, scannedTo⟩) trace := by
  cases announced with
  | unread => exact announcesWithin_of_silent (by simp)
  | stopped reply =>
    apply announcesWithin_of_told [] [] <;>
      simp [confirmations,receives,published,publishedIn,clearedAsMined,ConfirmationAnswered,
        ReceiveAnswered]
  | uncleared rows reply =>
    constructor <;> simp [confirmations,receives,published,publishedIn,ConfirmationAnswered,
      ReceiveAnswered]
  | confirmed rows retired tail cleared reading =>
    obtain ⟨once, inside⟩ := truthful
      ⟨.walletTxIdsMinedInRange context.scannedFrom scannedTo, .ok rows⟩ (by simp)
    have within : ∀ row ∈ rows,
        CommittedRange.Contains ⟨context.scannedFrom, scannedTo⟩ row.2 :=
      fun row member => (inside row member).2
    apply announcesWithin_of_told rows [] _ _ _ _ _ once within (by simp) (by simp) <;>
      rcases cleared with ⟨rfl, rfl⟩ | ⟨some, count, rfl⟩ <;> rcases reading with rfl | ⟨reply, rfl⟩ <;>
      simp [confirmations,receives,published,publishedIn,clearedAsMined,ConfirmationAnswered,
        ReceiveAnswered]
  | received rows retired told tail cleared clock =>
    obtain ⟨once, inside⟩ := truthful
      ⟨.walletTxIdsMinedInRange context.scannedFrom scannedTo, .ok rows⟩ (by simp)
    obtain ⟨toldOnce, toldInside⟩ := truthful
      ⟨.receivedShieldedNotesMinedInRange context.scannedFrom scannedTo, .ok told⟩ (by simp)
    have within : ∀ row ∈ rows,
        CommittedRange.Contains ⟨context.scannedFrom, scannedTo⟩ row.2 :=
      fun row member => (inside row member).2
    have notesWithin : ∀ note ∈ told,
        CommittedRange.Contains ⟨context.scannedFrom, scannedTo⟩ note.minedHeight :=
      fun note member => (toldInside note member).2
    apply announcesWithin_of_told rows told _ _ _ _ _ once within toldOnce notesWithin <;>
      rcases cleared with ⟨rfl, rfl⟩ | ⟨some, count, rfl⟩ <;> rcases clock with rfl | ⟨nowMs, rfl⟩ <;>
      simp [confirmations,receives,published,publishedIn,clearedAsMined,ConfirmationAnswered,
        ReceiveAnswered,confirmation,receive]

theorem AnnouncesWithin.mono (announces : AnnouncesWithin inside trace)
    (wider : ∀ height, inside height → outside height) : AnnouncesWithin outside trace :=
  { announces with
    confirmedInside := fun row member => wider _ (announces.confirmedInside row member)
    receivedInside := fun note member => wider _ (announces.receivedInside note member) }

theorem silent_of_prepares (prepares : Prepares chainTip command) : Silent command := by
  rcases prepares with plans | ⟨-, records⟩
  · cases command <;> trivial
  · cases command <;> trivial

theorem silent_of_compares (compares : Compares command) : Silent command := by
  rcases compares with reads | ⟨height, result, rfl⟩
  · cases command <;> trivial
  · trivial

/-- What follows a commit is silent, or ends with the announcements of the chunk. -/
theorem runs_checkAndAnnounce_silent
    (run : Runs (checkAndAnnounce context epoch scannedTo).run trace outcome) :
    (∀ event ∈ trace, Silent event.command) ∨ ∃ before after, trace = before ++ after ∧
      (∀ event ∈ before, Silent event.command) ∧ Announced context scannedTo after := by
  have compares : (Fallible.call (WalletError.unverifiedScanChunk scannedTo)
      (verifyTreeRoots epoch scannedTo).run).run.Within Silent :=
    Fallible.within_call ((within_verifyTreeRoots epoch scannedTo).mono
      fun _ => silent_of_compares)
  rcases Fallible.runs_bind_cases run with ⟨stopped, -⟩ | ⟨diverged, first, rest, rfl, compared, resumed⟩
  · exact .inl (stopped.within compares)
  have silent := compared.within compares
  cases diverged with
  | some height =>
    obtain ⟨rfl, -⟩ := runs_done_iff.mp resumed
    exact .inl (by simpa using silent)
  | none => exact .inr ⟨first, rest, rfl, silent, runs_announceScanned resumed⟩

/-- An attempt announces only rows of the range it committed. -/
theorem attempt_announces (run : Runs (attemptCall wallet turns chainTip).run trace outcome)
    (truthful : ∀ event ∈ trace, LedgerAnswer transactions notes event) :
    AnnouncesWithin (fun height => ∃ range ∈ commits trace, range.Contains height) trace := by
  cases runs_attemptCall run with
  | planned prepares =>
    exact announcesWithin_of_silent fun event member => silent_of_prepares (prepares event member)
  | scanned context fromState epoch before after split nonempty prepares recorded scan =>
    subst split
    have prepared : ∀ event ∈ before, Silent event.command :=
      fun event member => silent_of_prepares (prepares event member)
    rcases Fallible.runs_bind_cases scan with ⟨stopped, -⟩ | ⟨result, first, rest, rfl, scanned, resumed⟩
    · apply announcesWithin_of_silent
      apply List.forall_mem_append.mpr ⟨prepared, _⟩
      rcases Fallible.runs_call_iff.mp stopped with ⟨rfl, -⟩ | ⟨reply, rfl, -⟩
      · simp
      · simp [Silent]
    obtain ⟨reply, rfl, rfl⟩ := Fallible.runs_call_ok scanned
    have begun : ∀ event ∈ before ++ [⟨.scanBlocks ⟨context.blocks, context.scannedFrom, fromState⟩,
        .ok result⟩], Silent event.command :=
      List.forall_mem_append.mpr ⟨prepared, by simp [Silent]⟩
    rw [← List.append_assoc]
    rcases runs_checkAndAnnounce_silent resumed with silent | ⟨middle, last, rfl, silent, announced⟩
    · exact announcesWithin_of_silent (List.forall_mem_append.mpr ⟨begun, silent⟩)
    · rw [← List.append_assoc]
      have quiet := List.forall_mem_append.mpr ⟨begun, silent⟩
      have told : ∀ event ∈ last, LedgerAnswer transactions notes event :=
        fun event member => truthful event (by simp [member])
      have announces := announced.announcesWithin told
      apply (announces.after_silent quiet).mono
      intro height inside
      exact ⟨_, by simp [commits], inside⟩

/-! Histories of attempts. -/

/-- The attempt committed the block at `height`. -/
def AttemptRun.Committed (one : AttemptRun) (height : BlockHeight) : Prop :=
  ∃ range ∈ commits one.trace, range.Contains height

def AttemptRun.Apart (one other : AttemptRun) : Prop :=
  ∀ height, one.Committed height → ¬other.Committed height

instance : Std.Symm AttemptRun.Apart :=
  ⟨fun _ _ apart height there here => apart height here there⟩

/-- No height is committed by two attempts. -/
def CommittedOnce (attempts : List AttemptRun) : Prop := attempts.Pairwise AttemptRun.Apart

theorem CommittedOnce.unique {attempts : List AttemptRun} (once : CommittedOnce attempts)
    (first : one ∈ attempts) (second : other ∈ attempts) (here : one.Committed height)
    (there : other.Committed height) : one = other := by
  by_contra distinct
  exact List.Pairwise.forall once first second distinct height here there

/-- Rows that each attempt lists once, and only of what it committed, are listed once. -/
theorem CommittedOnce.count_eq_one_iff {β : Type} [BEq β] [LawfulBEq β]
    {attempts : List AttemptRun} {row : β} (once : CommittedOnce attempts) (listed : List SyncEvent → List β)
    (heightOf : β → BlockHeight) (nodup : ∀ one ∈ attempts, (listed one.trace).Nodup)
    (committed : ∀ one ∈ attempts, ∀ row ∈ listed one.trace, one.Committed (heightOf row))
    (member : one ∈ attempts) (inside : one.Committed (heightOf row)) :
    (attempts.flatMap fun one => listed one.trace).count row = 1 ↔ row ∈ listed one.trace := by
  have whole : (attempts.flatMap fun one => listed one.trace).Nodup := by
    refine List.nodup_flatMap.mpr ⟨nodup, ?_⟩
    apply List.Pairwise.imp_of_mem _ once
    intro first second firstMember secondMember apart row here there
    exact apart _ (committed first firstMember row here) (committed second secondMember row there)
  constructor
  · intro counted
    have among : row ∈ attempts.flatMap fun one => listed one.trace :=
      List.count_pos_iff.mp (by omega)
    obtain ⟨other, otherMember, here⟩ := List.mem_flatMap.mp among
    rwa [once.unique member otherMember inside (committed other otherMember row here)]
  · intro here
    exact List.count_eq_one_of_mem whole (List.mem_flatMap.mpr ⟨one, member, here⟩)

/-- Over a history of attempts that commit no height twice, every transaction and note of
the committed blocks is announced exactly once and its broadcasts are cleared, exactly when
each attempt was told of what its own commit holds and went on from there. -/
theorem events_exactly_once_iff {attempts : List AttemptRun}
    (runs : ∀ one ∈ attempts, ∃ turns chainTip,
      Runs (attemptCall wallet turns chainTip).run one.trace one.outcome)
    (once : CommittedOnce attempts)
    (truthful : ∀ one ∈ attempts, ∀ event ∈ one.trace, LedgerAnswer transactions notes event) :
    (∀ one ∈ attempts,
      (∀ row ∈ transactions, one.Committed row.2 →
        (attempts.flatMap fun one => confirmations one.trace).count row = 1 ∧
          ∃ other ∈ attempts, row.1 ∈ clearedAsMined other.trace) ∧
      ∀ note ∈ notes, one.Committed note.minedHeight →
        (attempts.flatMap fun one => receives one.trace).count note = 1) ↔
    ∀ one ∈ attempts,
      (∀ row ∈ transactions, one.Committed row.2 → ConfirmationAnswered one.trace row) ∧
      ∀ note ∈ notes, one.Committed note.minedHeight → ReceiveAnswered one.trace note := by
  have announces : ∀ one ∈ attempts, AnnouncesWithin one.Committed one.trace := by
    intro one member
    obtain ⟨turns, chainTip, run⟩ := runs one member
    exact attempt_announces run (truthful one member)
  have confirmedOnce : ∀ {one row}, one ∈ attempts → one.Committed row.2 →
      ((attempts.flatMap fun one => confirmations one.trace).count row = 1 ↔
        ConfirmationAnswered one.trace row) := by
    intro one row member inside
    rw [← (announces one member).confirmed row]
    exact once.count_eq_one_iff confirmations Prod.snd
      (fun one member => (announces one member).confirmedOnce)
      (fun one member => (announces one member).confirmedInside) member inside
  have receivedOnce : ∀ {one note}, one ∈ attempts → one.Committed note.minedHeight →
      ((attempts.flatMap fun one => receives one.trace).count note = 1 ↔
        ReceiveAnswered one.trace note) := by
    intro one note member inside
    rw [← (announces one member).received note]
    exact once.count_eq_one_iff receives ReceivedShieldedNoteRow.minedHeight
      (fun one member => (announces one member).receivedOnce)
      (fun one member => (announces one member).receivedInside) member inside
  constructor
  · intro exact_once one member
    constructor
    · intro row held inside
      exact (confirmedOnce member inside).mp ((exact_once one member).1 row held inside).1
    · intro note held inside
      exact (receivedOnce member inside).mp ((exact_once one member).2 note held inside)
  · intro answered one member
    constructor
    · intro row held inside
      have told := (answered one member).1 row held inside
      refine ⟨(confirmedOnce member inside).mpr told, one, member, ?_⟩
      exact (announces one member).cleared row (((announces one member).confirmed row).mpr told)
    · intro note held inside
      exact (receivedOnce member inside).mpr ((answered one member).2 note held inside)

/-! A wallet with one transaction, mined in block one. -/

def sampleTransactions : List (TxId × BlockHeight) := [(7, 1)]

/-- An attempt that commits block one and announces its transaction. -/
def announcedAttempt : AttemptRun where
  trace := tipTrace 1 ++ commitTrace ++
    [⟨.commitmentTreeRoots, .ok ⟨some 7, none, none⟩⟩,
      ⟨.treeStateAt (sampleEpoch 1) 1, .ok (sampleTreeState 1)⟩,
      ⟨.treeStateRoots (sampleTreeState 1), .ok ⟨some 7, some 0, some 0⟩⟩,
      ⟨.traceRootCheck 1 .matched, ()⟩, ⟨.walletTxIdsMinedInRange 1 1, .ok [(7, 1)]⟩,
      ⟨.clearPendingBroadcastInputsForMined [7], .ok 1⟩,
      ⟨.publishEvents [.transactionConfirmed 7 1], ()⟩,
      ⟨.receivedShieldedNotesMinedInRange 1 1, .ok []⟩,
      ⟨.publishEvents [.scanProgress 1 1], ()⟩, ⟨.currentUnixMs, 5⟩]
  outcome := some (.ok ⟨1, 1, 1, 5⟩)

theorem announcedAttempt_runs : Runs (attemptCall sampleSyncWallet 0 .stale).run
    announcedAttempt.trace announcedAttempt.outcome := by
  repeat' apply Runs.await
  exact Runs.done

theorem announced_attempt_exactly_once :
    ([announcedAttempt].flatMap fun one => confirmations one.trace).count (7, 1) = 1 ∧
      ∃ other ∈ [announcedAttempt], 7 ∈ clearedAsMined other.trace := by
  have runs : ∀ one ∈ [announcedAttempt], ∃ turns chainTip,
      Runs (attemptCall sampleSyncWallet turns chainTip).run one.trace one.outcome := by
    simpa using ⟨0, .stale, announcedAttempt_runs⟩
  have truthful : ∀ one ∈ [announcedAttempt], ∀ event ∈ one.trace,
      LedgerAnswer sampleTransactions [] event := by
    simp [announcedAttempt,tipTrace,commitTrace,LedgerAnswer,sampleTransactions]
  have answered : ∀ one ∈ [announcedAttempt],
      (∀ row ∈ sampleTransactions, one.Committed row.2 → ConfirmationAnswered one.trace row) ∧
        ∀ note ∈ ([] : List ReceivedShieldedNoteRow), one.Committed note.minedHeight →
          ReceiveAnswered one.trace note := by
    simp only [List.mem_singleton,forall_eq,sampleTransactions,List.not_mem_nil,false_imp_iff,
      implies_true,and_true]
    intro _
    exact ⟨⟨1, 1, [(7, 1)], by simp [announcedAttempt], by simp⟩, [7], 1,
      by simp [announcedAttempt,tipTrace,commitTrace]⟩
  have once := (events_exactly_once_iff runs (List.pairwise_singleton ..) truthful).mpr answered
  have committed : announcedAttempt.Committed 1 := ⟨⟨1, 1⟩, by decide, le_rfl, le_rfl⟩
  exact (once announcedAttempt (by simp)).1 (7, 1) (by simp [sampleTransactions]) committed

/-- An attempt that commits block one and loses its epoch pin in the comparison. -/
def lostAttempt : AttemptRun where
  trace := tipTrace 1 ++ commitTrace ++
    [⟨.commitmentTreeRoots, .ok ⟨some 7, none, none⟩⟩,
      ⟨.treeStateAt (sampleEpoch 1) 1, .error .chainEpochPinUnavailable⟩]
  outcome := some (.error (.unverifiedScanChunk 1 (.chainSource .chainEpochPinUnavailable)))

/-- The attempt after it scans block two and succeeds. -/
def nextAttempt : AttemptRun where
  trace := tipTrace 2 ++
    [⟨.suggestScanRanges, .ok [⟨2, 3, .chainTip⟩]⟩, ⟨.publishEvents [.scanProgress 2 2], ()⟩,
      ⟨.treeStateAt (sampleEpoch 2) 1, .ok (sampleTreeState 1)⟩,
      ⟨.compactBlocks (sampleEpoch 2) 2 2, .ok ()⟩, ⟨.nextCompactBlock, some (.ok ⟨2, 0⟩)⟩,
      ⟨.nextCompactBlock, none⟩,
      ⟨.scanBlocks ⟨[⟨2, 0⟩], 2, sampleTreeState 1⟩, .ok ⟨2, 1⟩⟩,
      ⟨.commitmentTreeRoots, .ok ⟨some 9, none, none⟩⟩,
      ⟨.treeStateAt (sampleEpoch 2) 2, .ok (sampleTreeState 2)⟩,
      ⟨.treeStateRoots (sampleTreeState 2), .ok ⟨some 9, some 0, some 0⟩⟩,
      ⟨.traceRootCheck 2 .matched, ()⟩, ⟨.walletTxIdsMinedInRange 2 2, .ok []⟩,
      ⟨.publishEvents [], ()⟩, ⟨.receivedShieldedNotesMinedInRange 2 2, .ok []⟩,
      ⟨.publishEvents [.scanProgress 2 2], ()⟩, ⟨.currentUnixMs, 9⟩]
  outcome := some (.ok ⟨2, 2, 1, 9⟩)

theorem lostAttempt_runs : Runs (attemptCall sampleSyncWallet 0 .stale).run
    lostAttempt.trace lostAttempt.outcome := by
  repeat' apply Runs.await
  exact Runs.done

theorem nextAttempt_runs : Runs (attemptCall sampleSyncWallet 0 .stale).run
    nextAttempt.trace nextAttempt.outcome := by
  repeat' apply Runs.await
  exact Runs.done

/-- The transaction of block one is never announced, and its broadcasts stay pending. -/
theorem lost_attempt_never_announced :
    (∀ one ∈ [lostAttempt, nextAttempt], Runs (attemptCall sampleSyncWallet 0 .stale).run
      one.trace one.outcome) ∧
    CommittedOnce [lostAttempt, nextAttempt] ∧
    (∀ one ∈ [lostAttempt, nextAttempt], ∀ event ∈ one.trace,
      LedgerAnswer sampleTransactions [] event) ∧
    lostAttempt.Committed 1 ∧
    ([lostAttempt, nextAttempt].flatMap fun one => confirmations one.trace).count (7, 1) = 0 ∧
    ∀ other ∈ [lostAttempt, nextAttempt], 7 ∉ clearedAsMined other.trace := by
  refine ⟨?_, ?_, ?_, ?_, ?_, ?_⟩
  · simpa using ⟨lostAttempt_runs, nextAttempt_runs⟩
  · have lost : commits lostAttempt.trace = [⟨1, 1⟩] := by decide
    have next : commits nextAttempt.trace = [⟨2, 2⟩] := by decide
    apply List.pairwise_pair.mpr
    simp only [AttemptRun.Apart,AttemptRun.Committed,lost,next,List.mem_singleton,exists_eq_left,
      CommittedRange.Contains]
    intro height here there
    exact absurd (there.1.trans here.2) (by decide)
  · simp [lostAttempt,nextAttempt,tipTrace,commitTrace,LedgerAnswer]
  · exact ⟨⟨1, 1⟩, by decide, le_rfl, le_rfl⟩
  · decide
  · decide

end Zally.Sync
