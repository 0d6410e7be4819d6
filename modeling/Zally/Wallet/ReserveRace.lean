import Zally.Storage.HoldLedger
import Zally.Wallet.NoteSelection

/-! Concurrent reservations and the operations that change the account's notes: the notes
are read in one storage operation and compared with the holds in a later one. -/
namespace Zally.Reserve

open Async Async.Program

/-- What the note store answers: the visible tip and the notes a transaction mined at a
height may spend. -/
structure NoteStore where
  visibleTip : Option BlockHeight
  spendableNotes : AccountId → BlockHeight → List UnspentShieldedNoteRow

def notesValue (notes : List UnspentShieldedNoteRow) : Nat :=
  (notes.map (·.valueZat.val.raw.toNat)).sum

/-- The shielded value that the storage counts as spendable. -/
def NoteStore.spendableZat (notes : NoteStore) (accountId : AccountId) : Nat :=
  notesValue (notes.spendableNotes accountId (nextBlockHeight notes.visibleTip))

structure State where
  notes : NoteStore
  holds : HoldTable

/-- One operation on the wallet's storage: a step of a reservation, one of the two terminal
calls, or a payment, scan or rewind, whatever it does to the notes. -/
inductive Operation where
  | reserve (call : Nat) (event : ReserveEvent)
  | released (fault : Option SqlFault) (holdId : HoldId) (releasedAtMs : UInt64)
  | finalized (fault : Option SqlFault) (holdId : HoldId) (txId : TxId)
  | notesChanged (notes : NoteStore)

/-- A read of the storage fails or answers what is stored. -/
def Reads (answer stored : Except StorageError α) : Prop :=
  (∃ error, answer = .error error) ∨ answer = stored

/-- The storage before and after one answered command of a reservation. -/
def Answers (choose : List HoldColumns → Nat) (before : State) : ReserveEvent → State → Prop
  | ⟨.findHoldByRequestId requestId, answer⟩, after =>
    Reads answer (findHoldByRequestId none choose requestId before.holds) ∧ after = before
  | ⟨.findVisibleTip, answer⟩, after =>
    Reads answer (.ok before.notes.visibleTip) ∧ after = before
  | ⟨.listSpendableShieldedNotes accountId targetHeight, answer⟩, after =>
    Reads answer (.ok (before.notes.spendableNotes accountId targetHeight)) ∧ after = before
  | ⟨.sumActiveDispenseReservedZat accountId, answer⟩, after =>
    Reads answer (sumActiveDispenseReservedZat none accountId before.holds) ∧ after = before
  | ⟨.newHoldId, _⟩, after => after = before
  | ⟨.currentUnixMs, _⟩, after => after = before
  | ⟨.createHold record, answer⟩, after =>
    (∃ error, answer = .error error ∧ after = before) ∨
      ∃ fault, createHold fault record before.holds = (answer, after.holds) ∧
        after.notes = before.notes

def Step (choose : List HoldColumns → Nat) (before : State) : Operation → State → Prop
  | .reserve _ event, after => Answers choose before event after
  | .released fault holdId releasedAtMs, after =>
    after = { before with holds := HoldCall.run before.holds (.release fault holdId releasedAtMs) }
  | .finalized fault holdId txId, after =>
    after = { before with holds := HoldCall.run before.holds (.finalize fault holdId txId) }
  | .notesChanged notes, after => after = { before with notes }

def Operation.event? : Operation → Option (Nat × ReserveEvent)
  | reserve call event => some (call, event)
  | released _ _ _ | finalized _ _ _ | notesChanged _ => none

/-- The commands of one reservation among the operations. -/
def eventsOf (call : Nat) (world : List Operation) : List ReserveEvent :=
  localTrace call (world.filterMap Operation.event?)

theorem eventsOf_append : eventsOf call (before ++ after) =
    eventsOf call before ++ eventsOf call after := by
  rw [eventsOf,List.filterMap_append,localTrace_append,eventsOf,eventsOf]

@[simp] theorem eventsOf_cons_self : eventsOf call (.reserve call event :: world) =
    event :: eventsOf call world := by
  simp [eventsOf,Operation.event?]

/-- Any number of reservations, each cut anywhere, interleaved with any other operations,
from any hold ledger that calls of the storage lead to. -/
structure Execution (choose : List HoldColumns → Nat) (start : State) (world : List Operation)
    (final : State) : Prop where
  ledger : ∃ calls, HoldPath .empty calls start.holds
  path : Path (Step choose) start world final
  calls : ∀ call, ∃ network plan outcome,
    Runs (reserveForDispense network plan).run (eventsOf call world) outcome

theorem sound_of_answers (answers : Answers choose before event after)
    (sound : before.holds.Sound) : after.holds.Sound := by
  rcases event with ⟨command, answer⟩
  cases command with
  | createHold record =>
    rcases answers with ⟨error, -, rfl⟩ | ⟨fault, created, -⟩
    · exact sound
    · have := sound.run (.create fault record)
      rwa [HoldCall.run,created] at this
  | newHoldId | currentUnixMs =>
    obtain rfl : after = before := answers
    exact sound
  | _ =>
    obtain ⟨-, rfl⟩ := answers
    exact sound

theorem sound_of_step (moves : Step choose before operation after)
    (sound : before.holds.Sound) : after.holds.Sound := by
  cases operation with
  | reserve call event => exact sound_of_answers moves sound
  | released fault holdId releasedAtMs =>
    subst moves
    exact sound.run (.release fault holdId releasedAtMs)
  | finalized fault holdId txId =>
    subst moves
    exact sound.run (.finalize fault holdId txId)
  | notesChanged notes =>
    subst moves
    exact sound

theorem notes_of_answers (answers : Answers choose before event after) :
    after.notes = before.notes := by
  rcases event with ⟨command, answer⟩
  cases command with
  | createHold record =>
    rcases answers with ⟨error, -, rfl⟩ | ⟨fault, -, same⟩
    · rfl
    · exact same
  | newHoldId | currentUnixMs =>
    obtain rfl : after = before := answers
    rfl
  | _ =>
    obtain ⟨-, rfl⟩ := answers
    rfl

/-- Reservations and the terminal calls leave the notes alone. -/
theorem notes_of_path (path : Path (Step choose) start world final)
    (unchanged : ∀ notes, .notesChanged notes ∉ world) : final.notes = start.notes := by
  induction path with
  | nil => rfl
  | @cons before operation after world final moves path ih =>
    rw [ih fun notes member => unchanged notes (List.mem_cons_of_mem _ member)]
    cases operation with
    | reserve call event => exact notes_of_answers moves
    | released fault holdId releasedAtMs => rw [show after = _ from moves]
    | finalized fault holdId txId => rw [show after = _ from moves]
    | notesChanged notes => exact absurd List.mem_cons_self (unchanged notes)

/-- Every hold ledger of an execution is sound. -/
theorem Execution.sound (execution : Execution choose start world final)
    (reached : Path (Step choose) start earlier state) : state.holds.Sound :=
  let ⟨_, ledger⟩ := execution.ledger
  reached.invariant (fun state : State => state.holds.Sound)
    (fun _ _ _ sound moves => sound_of_step moves sound) ledger.sound

/-- The amount a hold was checked against comes from notes the call had read. -/
def ChecksNotesRead (plan : ReserveForDispensePlan) (past : List ReserveEvent) :
    ReserveCommand → Prop
  | .createHold record => ∃ targetHeight notes holdId reservedAtMs,
      ⟨.listSpendableShieldedNotes plan.accountId targetHeight, .ok notes⟩ ∈ past ∧
      record = holdRecord plan notes holdId reservedAtMs
  | _ => True

theorem guarded_placeHold {notes : List UnspentShieldedNoteRow} {past : List ReserveEvent}
    (read : ⟨.listSpendableShieldedNotes plan.accountId targetHeight, .ok notes⟩ ∈ past) :
    (placeHold network plan notes spendable).run.Guarded (ChecksNotesRead plan) past := by
  simp only [placeHold,storage,Fallible.run_lift_bind,Fallible.run_call_bind,ask,perform_bind]
  refine ⟨trivial, fun holdId => ⟨trivial, fun reservedAtMs => ⟨?_, fun created => ?_⟩⟩⟩
  · exact ⟨targetHeight, notes, holdId, reservedAtMs, by simp [read], rfl⟩
  · cases created <;> trivial

theorem guarded_newHold (past : List ReserveEvent) :
    (newHold network plan).run.Guarded (ChecksNotesRead plan) past := by
  simp only [newHold,spendableNotesForNextDispense,LawfulMonad.bind_assoc,storage,
    Fallible.run_call_bind,ask,perform_bind]
  refine ⟨trivial, fun tip => ?_⟩
  cases tip with
  | error error => trivial
  | ok tip =>
    refine ⟨trivial, fun notes => ?_⟩
    cases notes with
    | error error => trivial
    | ok notes =>
      refine ⟨trivial, fun reserved => ?_⟩
      cases reserved with
      | error error => trivial
      | ok reserved =>
        dsimp only
        split
        · trivial
        · exact guarded_placeHold (List.mem_append_left _ (List.mem_append_right _
            List.mem_cons_self))

theorem guarded_reserveForDispense :
    (reserveForDispense network plan).run.Guarded (ChecksNotesRead plan) [] := by
  unfold reserveForDispense
  split
  · trivial
  simp only [storage,Fallible.run_call_bind,ask,perform_bind]
  refine ⟨trivial, fun found => ?_⟩
  cases found with
  | error error => trivial
  | ok found =>
    dsimp only
    split
    · refine existingHold_within.guarded fun past command read => ?_
      cases command with
      | createHold record => exact read.elim
      | _ => trivial
    · exact guarded_newHold _

theorem sumUnspentNoteValue_le (notes : List UnspentShieldedNoteRow) :
    sumUnspentNoteValue notes ≤ notesValue notes := by
  rw [sumUnspentNoteValue_eq]
  exact Nat.min_le_left _ _

/-- At the moment a hold is inserted, the account's active holds are covered by the value
that the storage counts as spendable at that moment. -/
def WithinBalance (choose : List HoldColumns → Nat) (start : State) (world : List Operation) : Prop :=
  ∀ earlier call record later before after,
    world = earlier ++ .reserve call ⟨.createHold record, .ok ()⟩ :: later →
    Path (Step choose) start earlier before →
    Step choose before (.reserve call ⟨.createHold record, .ok ()⟩) after →
    after.holds.activeZat record.accountId ≤ after.notes.spendableZat record.accountId

/-- When a hold is inserted, the account's spendable value is no less than the value of the
notes the call had read. -/
def KeepsValueRead (choose : List HoldColumns → Nat) (start : State) (world : List Operation) : Prop :=
  ∀ earlier call record later before targetHeight notes,
    world = earlier ++ .reserve call ⟨.createHold record, .ok ()⟩ :: later →
    Path (Step choose) start earlier before →
    ⟨.listSpendableShieldedNotes record.accountId targetHeight, .ok notes⟩ ∈ eventsOf call earlier →
    notesValue notes ≤ before.notes.spendableZat record.accountId

/-- Reservations stay within the balance in every execution in which no operation lowers an
account's spendable value between a call's read of the notes and its insert. -/
theorem reserves_within_balance (choose : List HoldColumns → Nat) (start final : State)
    (world : List Operation) (execution : Execution choose start world final)
    (keeps : KeepsValueRead choose start world) : WithinBalance choose start world := by
  rintro earlier call record later before after rfl reached moves
  obtain ⟨network, plan, outcome, run⟩ := execution.calls call
  rw [eventsOf_append,eventsOf_cons_self] at run
  obtain ⟨targetHeight, notes, holdId, reservedAtMs, read, rfl⟩ :=
    run.guarded guarded_reserveForDispense
  rw [List.nil_append] at read
  have kept := keeps earlier call _ later before targetHeight notes rfl reached read
  rcases moves with ⟨error, failed, -⟩ | ⟨fault, created, sameNotes⟩
  · cases failed
  have inserted := createHold_ok_iff.mp created
  have sound := execution.sound reached
  have within := sound.within_of_insert inserted
  have checked : (Zatoshis.tryFromOrZero (sumUnspentNoteValue notes)).val.raw.toNat ≤
      notesValue notes := (Zatoshis.tryFromOrZero_le _).trans (sumUnspentNoteValue_le notes)
  rw [sound.activeZat_insert inserted,if_pos rfl,sameNotes]
  exact within.trans (checked.trans kept)

/-! One account with one note, and a reservation of most of it. -/

def samplePlan : ReserveForDispensePlan where
  accountId := ⟨0⟩
  amountZat := ⟨5⟩
  requestId := sampleHoldRecord.requestId
  idempotencyKey := sampleHoldRecord.idempotencyKey

def sampleNote : UnspentShieldedNoteRow := ⟨.orchard, sampleHoldRecord.spendableForCheckZat, 9, 0⟩

def sampleNotes : NoteStore := ⟨some 100, fun _ _ => [sampleNote]⟩

/-- A payment has spent the note. -/
def spentNotes : NoteStore := ⟨some 100, fun _ _ => []⟩

/-- The reads of the call before its insert. -/
def sampleReads : List Operation := [
  .reserve 0 ⟨.findHoldByRequestId samplePlan.requestId, .ok none⟩,
  .reserve 0 ⟨.findVisibleTip, .ok (some 100)⟩,
  .reserve 0 ⟨.listSpendableShieldedNotes ⟨0⟩ 101, .ok [sampleNote]⟩,
  .reserve 0 ⟨.sumActiveDispenseReservedZat ⟨0⟩, .ok ⟨⟨0⟩, by decide⟩⟩,
  .reserve 0 ⟨.newHoldId, ⟨1⟩⟩,
  .reserve 0 ⟨.currentUnixMs, 100⟩]

def sampleRecord : HoldRecord :=
  { sampleHoldRecord with
    lockedNotes := [⟨.orchard, sampleHoldRecord.spendableForCheckZat, 9, 0⟩] }

theorem holdRecord_sample : holdRecord samplePlan [sampleNote] ⟨1⟩ 100 = sampleRecord := by
  have selected : selectLockedNotes [sampleNote] ⟨5⟩ = sampleRecord.lockedNotes := by
    rw [selectLockedNotes,List.mergeSort_singleton]
    rfl
  rw [holdRecord,samplePlan,selected]
  rfl

def sampleInsert : Operation := .reserve 0 ⟨.createHold sampleRecord, .ok ()⟩

theorem sampleReads_path : Path (Step fun _ => 0) ⟨sampleNotes, .empty⟩ sampleReads
    ⟨sampleNotes, .empty⟩ :=
  .cons ⟨.inr rfl, rfl⟩ (.cons ⟨.inr rfl, rfl⟩ (.cons ⟨.inr rfl, rfl⟩ (.cons ⟨.inr rfl, rfl⟩
    (.cons rfl (.cons rfl .nil)))))

theorem sampleInsert_step (notes : NoteStore) : Step (fun _ => 0) ⟨notes, .empty⟩ sampleInsert
    ⟨notes, HoldCall.run .empty (.create none sampleRecord)⟩ :=
  .inr ⟨none, rfl, rfl⟩

theorem sampleCall_runs (network : Network) :
    ∃ outcome, Runs (reserveForDispense network samplePlan).run
      (eventsOf 0 (sampleReads ++ [sampleInsert])) outcome := by
  refine ⟨none, ?_⟩
  rw [sampleInsert,← holdRecord_sample]
  repeat' apply Runs.await
  exact .cut

theorem sampleReads_execution (between : List Operation)
    (silent : ∀ call, eventsOf call between = []) (notes : NoteStore)
    (path : Path (Step fun _ => 0) ⟨sampleNotes, .empty⟩ between ⟨notes, .empty⟩) :
    Execution (fun _ => 0) ⟨sampleNotes, .empty⟩ (sampleReads ++ (between ++ [sampleInsert]))
      ⟨notes, HoldCall.run .empty (.create none sampleRecord)⟩ where
  ledger := ⟨[], .nil⟩
  path := sampleReads_path.append (path.append (.cons (sampleInsert_step notes) .nil))
  calls
    | 0 => by
      have quiet : eventsOf 0 (sampleReads ++ (between ++ [sampleInsert])) =
          eventsOf 0 (sampleReads ++ [sampleInsert]) := by
        rw [eventsOf_append,eventsOf_append,silent,eventsOf_append,List.nil_append]
      rw [quiet]
      exact ⟨.mainnet, samplePlan, sampleCall_runs .mainnet⟩
    | call + 1 => by
      have quiet : eventsOf (call + 1) (sampleReads ++ (between ++ [sampleInsert])) = [] := by
        rw [eventsOf_append,eventsOf_append,silent]
        rfl
      rw [quiet]
      exact ⟨.mainnet, samplePlan, none, .cut⟩

theorem sampleReads_keep : KeepsValueRead (fun _ => 0) ⟨sampleNotes, .empty⟩
    (sampleReads ++ ([] ++ [sampleInsert])) := by
  intro earlier call record later before targetHeight notes split reached read
  have same : before.notes = sampleNotes := by
    refine notes_of_path reached fun notes member => ?_
    have changed : .notesChanged notes ∈ sampleReads ++ ([] ++ [sampleInsert]) := by
      rw [split]
      exact List.mem_append_left _ member
    simp [sampleReads,sampleInsert] at changed
  have inWorld : ⟨.listSpendableShieldedNotes record.accountId targetHeight, .ok notes⟩ ∈
      eventsOf call (sampleReads ++ ([] ++ [sampleInsert])) := by
    rw [split,eventsOf_append]
    exact List.mem_append_left _ read
  simp [eventsOf,sampleReads,sampleInsert,Operation.event?,mem_localTrace] at inWorld
  rw [same,inWorld.2.2]
  exact Nat.le_refl (notesValue [sampleNote])

theorem sample_reserves_within_balance : WithinBalance (fun _ => 0) ⟨sampleNotes, .empty⟩
    (sampleReads ++ ([] ++ [sampleInsert])) :=
  reserves_within_balance _ _ _ _ (sampleReads_execution [] (fun _ => rfl) _ .nil) sampleReads_keep

/-- A payment that lands between the read and the insert spends the notes of the hold. -/
theorem payment_lands_before_insert :
    ¬∀ (choose : List HoldColumns → Nat) (start final : State) (world : List Operation),
      Execution choose start world final → WithinBalance choose start world := by
  intro always
  have bound := always _ _ _ _ (sampleReads_execution [.notesChanged spentNotes] (fun _ => rfl)
    spentNotes (.cons rfl .nil))
  have paid : Path (Step fun _ => 0) ⟨sampleNotes, .empty⟩ [.notesChanged spentNotes]
      ⟨spentNotes, .empty⟩ := .cons rfl .nil
  have covered := bound (sampleReads ++ [.notesChanged spentNotes]) 0 sampleRecord [] _ _
    (by simp [sampleInsert]) (sampleReads_path.append paid) (sampleInsert_step spentNotes)
  exact absurd covered (by decide)

end Zally.Reserve
