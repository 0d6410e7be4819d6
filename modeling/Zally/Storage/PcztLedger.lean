import Zally.Async.Machine
import Zally.Storage.PcztInputs

/-! Runs of the PCZT calls: what an owner locks stays covered by its pending rows. -/
namespace Zally

open Async Lease Outcome

/-- One PCZT call, with the failures it meets. -/
inductive PcztOp where
  | create (caller : PcztCaller) (fault : StepFault CreateStep) (unlock : Unlock)
      (cleanup : StepFault ReleaseStep) (owner : LockOwner) (inputs : List OutputRef) (txId : TxId)
  | extract (fault : StepFault ExtractStep) (pczt : Pczt)
  | abandon (fault : StepFault ReleaseStep) (pczt : Pczt)

variable (codec : Wire.Hex.Codec)

/-- The answer of a creation and what it leaves. -/
def runPcztCreation (caller : PcztCaller) (fault : StepFault CreateStep) (unlock : Unlock)
    (cleanup : StepFault ReleaseStep) (owner : LockOwner) (inputs : List OutputRef) (txId : TxId)
    (state : PcztState) : Option (Except StorageError Pczt) × PcztState :=
  dispatchPcztCreation caller cleanup (createPczt codec fault unlock owner inputs txId) state

def PcztOp.run (state : PcztState) : PcztOp → PcztState
  | create caller fault unlock cleanup owner inputs txId =>
    (runPcztCreation codec caller fault unlock cleanup owner inputs txId state).2
  | extract fault pczt => (extractAndStorePczt fault pczt state).2
  | abandon fault pczt => (abandonPczt fault pczt state).2

/-- A sequence of calls from one state to another. -/
abbrev PcztPath :=
  Async.Path fun (before : PcztState) (op : PcztOp) after => op.run codec before = after

variable {codec}

namespace PcztState

/-- `owner` holds a lock or a pending row. -/
def Owns (state : PcztState) (owner : LockOwner) : Prop :=
  (∃ input, state.locks input = some owner) ∨ ∃ row ∈ state.pending.rows, row.lockOwner = owner

/-- Every input that `owner` locks has a pending row of that owner. -/
def Covered (state : PcztState) (owner : LockOwner) : Prop :=
  ∀ input, state.locks input = some owner → ⟨owner, input⟩ ∈ state.pending.rows

/-- The locks of `owner` are covered and lie among `inputs`. -/
def Leases (state : PcztState) (owner : LockOwner) (inputs : List OutputRef) : Prop :=
  ∀ input, state.locks input = some owner → ⟨owner, input⟩ ∈ state.pending.rows ∧ input ∈ inputs

theorem Leases.covered {state : PcztState} (leases : state.Leases owner inputs) :
    state.Covered owner := fun input held => (leases input held).1

theorem Leases.of_not_owns {state : PcztState} (free : ¬state.Owns owner) :
    state.Leases owner inputs := fun input held => (free (.inl ⟨input, held⟩)).elim

/-- Calls that take no lock from the owner's rows keep the covering. -/
theorem Leases.mono {state after : PcztState} (leases : state.Leases owner inputs)
    (shrinks : ∀ input, after.locks input = some owner → state.locks input = some owner)
    (keeps : ∀ input, ⟨owner, input⟩ ∈ state.pending.rows → ⟨owner, input⟩ ∈ after.pending.rows) :
    after.Leases owner inputs := fun input held =>
  have ⟨row, member⟩ := leases input (shrinks input held)
  ⟨keeps input row, member⟩

end PcztState

section Calls

variable {state : PcztState} {owner : LockOwner}

@[simp] theorem mem_delete {table : PendingPcztTable} :
    row ∈ (table.delete owner).rows ↔ row ∈ table.rows ∧ row.lockOwner ≠ owner := by
  simp [PendingPcztTable.delete]

theorem mem_findPendingPcztInputs {table : PendingPcztTable} :
    input ∈ findPendingPcztInputs table owner ↔ ⟨owner, input⟩ ∈ table.rows := by
  rw [findPendingPcztInputs,(List.mergeSort_perm _ _).mem_iff,List.mem_map]
  constructor
  · rintro ⟨⟨other, input⟩, listed, rfl⟩
    obtain ⟨stored, same⟩ := List.mem_filter.mp listed
    obtain rfl : other = owner := of_decide_eq_true same
    exact stored
  · intro stored
    exact ⟨_, List.mem_filter.mpr ⟨stored, decide_eq_true rfl⟩, rfl⟩

/-- The loop releases the inputs in turn until one fails. -/
theorem unlockOutputs_eq (fault : StepFault ReleaseStep) (owner : LockOwner) (index : Nat)
    (inputs : List OutputRef) (locks : Table OutputRef LockOwner) :
    ∃ released, released <+: inputs ∧
      (unlockOutputs fault owner index inputs locks).2 = release locks owner released ∧
      ((unlockOutputs fault owner index inputs locks).1 = .ok () → released = inputs) := by
  induction inputs generalizing index locks with
  | nil => exact ⟨[], List.prefix_rfl, release_nil.symm, fun _ => rfl⟩
  | cons input inputs ih =>
    cases answered : failsAt fault (.unlock index) with
    | error error =>
      refine ⟨[], List.nil_prefix, ?_, ?_⟩ <;> simp [unlockOutputs,answered,release_nil]
    | ok =>
      obtain ⟨released, initial, result, whole⟩ := ih (index + 1) (release locks owner [input])
      refine ⟨input :: released, List.prefix_cons_inj input |>.mpr initial, ?_, ?_⟩
      · rw [unlockOutputs,answered]
        exact result.trans (release_release [input] released)
      · rw [unlockOutputs,answered]
        exact fun done => congrArg (input :: ·) (whole done)

/-- A release gives back some of the owner's rows; one that succeeds gives back and deletes
all of them. -/
theorem releasePendingPcztInputs_cases (fault : StepFault ReleaseStep) (owner : LockOwner)
    (state : PcztState) :
    (∃ items error, releasePendingPcztInputs fault owner state =
      (.error error, ⟨release state.locks owner items, state.pending⟩)) ∨
    releasePendingPcztInputs fault owner state =
      (.ok (), ⟨release state.locks owner (findPendingPcztInputs state.pending owner),
        state.pending.delete owner⟩) := by
  obtain ⟨items, -, unlocked, whole⟩ :=
    unlockOutputs_eq fault owner 0 (findPendingPcztInputs state.pending owner) state.locks
  unfold releasePendingPcztInputs
  split
  · exact .inl ⟨[], _, by rw [release_nil]⟩
  split <;> rename_i loop <;> rw [loop] at unlocked whole
  · obtain rfl : _ = release _ _ _ := unlocked
    exact .inl ⟨items, _, rfl⟩
  · obtain rfl : _ = release _ _ _ := unlocked
    split
    · exact .inl ⟨items, _, rfl⟩
    · rw [whole rfl]
      exact .inr rfl

/-- The cleanup of the actor succeeds. -/
theorem releasePendingPcztInputs_none (owner : LockOwner) (state : PcztState) :
    (releasePendingPcztInputs none owner state).1 = .ok () := by
  have answers : ∀ index inputs locks,
      (unlockOutputs none owner index inputs locks).1 = .ok () := by
    intro index inputs
    induction inputs generalizing index with
    | nil => exact fun _ => rfl
    | cons input inputs ih => exact fun _ => ih (index + 1) _
  have loop := answers 0 (findPendingPcztInputs state.pending owner) state.locks
  simp only [releasePendingPcztInputs,failsAt]
  split <;> rename_i unlocked <;> rw [unlocked] at loop
  cases loop

/-- A covered owner whose release succeeds is left with nothing. -/
theorem not_owns_of_release (covered : state.Covered owner)
    (released : releasePendingPcztInputs fault owner state = (.ok (), after)) : ¬after.Owns owner := by
  obtain ⟨items, error, failed⟩ | result := releasePendingPcztInputs_cases fault owner state
  · rw [released] at failed
    cases failed
  rw [released] at result
  cases result
  rintro (⟨input, held⟩ | ⟨row, stored, same⟩)
  · obtain ⟨held, kept⟩ := release_eq_some_iff.mp held
    exact kept ⟨mem_findPendingPcztInputs.mpr (covered input held), rfl⟩
  · exact (mem_delete.mp stored).2 same

/-- The cleanup of the actor leaves a covered owner with nothing. -/
theorem not_owns_of_cleanup (covered : state.Covered owner) :
    ¬(releasePendingPcztInputs none owner state).2.Owns owner :=
  not_owns_of_release covered (Prod.ext (releasePendingPcztInputs_none owner state) rfl)

/-- A release leaves the locks of the other owners. -/
theorem held_after_release {other : LockOwner} (ne : other ≠ owner)
    (held : state.locks input = some other) :
    (releasePendingPcztInputs fault owner state).2.locks input = some other := by
  obtain ⟨items, error, result⟩ | result := releasePendingPcztInputs_cases fault owner state <;>
  · rw [result]
    exact release_eq_some_iff.mpr ⟨held, fun given => ne given.2⟩

/-- No release takes the covering away from any owner. -/
theorem PcztState.Leases.release {state : PcztState} (leases : state.Leases other inputs)
    (fault : StepFault ReleaseStep) (owner : LockOwner) :
    (releasePendingPcztInputs fault owner state).2.Leases other inputs := by
  obtain ⟨items, error, result⟩ | result := releasePendingPcztInputs_cases fault owner state
  · rw [result]
    exact leases.mono (fun input held => (release_eq_some_iff.mp held).1) fun _ => id
  · by_cases same : other = owner
    · subst same
      rw [result]
      exact .of_not_owns (not_owns_of_release leases.covered result)
    · rw [result]
      exact leases.mono (fun input held => (release_eq_some_iff.mp held).1)
        fun input stored => mem_delete.mpr ⟨stored, same⟩

theorem recordPendingPcztInputs_ok {table : PendingPcztTable}
    (recorded : recordPendingPcztInputs owner inputs table = .ok after) :
    after.rows = table.rows ++ inputs.map (⟨owner, ·⟩) := by
  induction inputs generalizing table with
  | nil =>
    cases recorded
    simp
  | cons input inputs ih =>
    rw [recordPendingPcztInputs,List.foldlM_cons] at recorded
    cases inserted : table.insert ⟨owner, input⟩ with
    | error error =>
      rw [inserted] at recorded
      cases recorded
    | ok middle =>
      rw [inserted] at recorded
      have rest := ih recorded
      unfold PendingPcztTable.insert at inserted
      split at inserted
      · cases inserted
        simpa using rest
      · cases inserted

theorem pendingPcztLockOwner_asBytes (owner : LockOwner) (inputs : List OutputRef) (txId : TxId) :
    pendingPcztLockOwner ⟨some owner.asBytes, inputs, txId⟩ = .ok (some owner) := by
  have sized : owner.asBytes.length = 32 := TxId.length_asBytes _
  have read : LockOwner.new owner.asBytes = owner := by
    rw [LockOwner.new,LockOwner.asBytes,TxId.fromBytes_asBytes]
  simp only [pendingPcztLockOwner]
  rw [if_pos sized,read]

theorem buildPczt_ok {table : PendingPcztTable}
    (built : buildPczt fault owner inputs txId table = .ok (pczt, pending)) :
    pczt = ⟨some owner.asBytes, inputs, txId⟩ ∧
      pending.rows = table.rows ++ inputs.map (⟨owner, ·⟩) := by
  simp only [buildPczt,bind_ok_iff] at built
  obtain ⟨-, -, -, -, -, -, -, -, recorded, stored, returned⟩ := built
  cases returned
  exact ⟨rfl, recordPendingPcztInputs_ok stored⟩

/-- A creation fails before it locks, fails and gives its inputs back, fails and gives some of them
back, or keeps them with their rows. -/
theorem createPczt_cases (codec : Wire.Hex.Codec) (fault : StepFault CreateStep) (unlock : Unlock)
    (owner : LockOwner) (inputs : List OutputRef) (txId : TxId) (state : PcztState) :
    (∃ error, createPczt codec fault unlock owner inputs txId state = (.error error, state)) ∨
    (∃ error, unlock = .released ∧ createPczt codec fault unlock owner inputs txId state =
      (.error error, ⟨release (acquire state.locks owner inputs) owner inputs, state.pending⟩)) ∨
    (∃ error released reason, unlock = .failed released reason ∧
      createPczt codec fault unlock owner inputs txId state =
        (.error (releaseFailed codec error reason),
          ⟨release (acquire state.locks owner inputs) owner released, state.pending⟩)) ∨
    ∃ pending, pending.rows = state.pending.rows ++ inputs.map (⟨owner, ·⟩) ∧
      createPczt codec fault unlock owner inputs txId state =
        (.ok (⟨some owner.asBytes, inputs, txId⟩, owner), ⟨acquire state.locks owner inputs, pending⟩) := by
  unfold createPczt
  split
  · exact .inl ⟨_, rfl⟩
  cases built : buildPczt fault owner inputs txId state.pending with
  | error error =>
    cases unlock with
    | released => exact .inr (.inl ⟨error, rfl, rfl⟩)
    | failed released reason => exact .inr (.inr (.inl ⟨error, released, reason, rfl, rfl⟩))
  | ok result =>
    obtain ⟨pczt, pending⟩ := result
    obtain ⟨rfl, rows⟩ := buildPczt_ok built
    exact .inr (.inr (.inr ⟨pending, rows, rfl⟩))

/-- The locks and rows of a creation that got through. -/
structure PcztState.Created (state : PcztState) (owner : LockOwner) (inputs : List OutputRef)
    (after : PcztState) : Prop where
  locks : after.locks = acquire state.locks owner inputs
  rows : after.pending.rows = state.pending.rows ++ inputs.map (⟨owner, ·⟩)

/-- What is left of a creation that answers no PCZT: nothing was locked, or all that was locked is
released, or some of it, as the error tells, or it got through and was cleaned up. -/
inductive PcztState.Withdrawn (codec : Wire.Hex.Codec) (state : PcztState) (unlock : Unlock)
    (cleanup : StepFault ReleaseStep) (owner : LockOwner) (inputs : List OutputRef) :
    Option (Except StorageError Pczt) × PcztState → Prop where
  | unchanged : Withdrawn codec state unlock cleanup owner inputs (answer, state)
  | rolledBack (whole : unlock = .released) : Withdrawn codec state unlock cleanup owner inputs
      (answer, ⟨release (acquire state.locks owner inputs) owner inputs, state.pending⟩)
  | unreleased (partly : unlock = .failed released reason)
      (told : ∀ result, answer = some result →
        ∃ error, result = .error (releaseFailed codec error reason)) :
      Withdrawn codec state unlock cleanup owner inputs
        (answer, ⟨release (acquire state.locks owner inputs) owner released, state.pending⟩)
  | cleaned (created : state.Created owner inputs after) :
      Withdrawn codec state unlock cleanup owner inputs
        (none, (releasePendingPcztInputs cleanup owner after).2)

/-- What a creation leaves: the caller has the PCZT and its inputs are locked, or it is
withdrawn. -/
theorem runPcztCreation_cases (codec : Wire.Hex.Codec) (caller : PcztCaller)
    (fault : StepFault CreateStep) (unlock : Unlock) (cleanup : StepFault ReleaseStep)
    (owner : LockOwner) (inputs : List OutputRef) (txId : TxId) (state : PcztState) :
    (∃ after, state.Created owner inputs after ∧
      runPcztCreation codec caller fault unlock cleanup owner inputs txId state =
        (some (.ok ⟨some owner.asBytes, inputs, txId⟩), after)) ∨
    (∀ pczt, (runPcztCreation codec caller fault unlock cleanup owner inputs txId state).1 ≠
        some (.ok pczt)) ∧
      PcztState.Withdrawn codec state unlock cleanup owner inputs
        (runPcztCreation codec caller fault unlock cleanup owner inputs txId state) := by
  rw [runPcztCreation,dispatchPcztCreation]
  by_cases queued : caller = .cancelledInQueue
  · rw [if_pos queued]
    exact .inr ⟨fun _ => (Option.some_ne_none _).symm, .unchanged⟩
  rw [if_neg queued]
  have refused (error : StorageError) (after : PcztState) (pczt : Pczt) :
      (answerPcztCreation caller cleanup (.error error, after)).1 ≠ some (.ok pczt) := by
    by_cases answers : caller = .acknowledges <;> simp [answerPcztCreation,answers]
  obtain ⟨error, result⟩ | ⟨error, whole, result⟩ | ⟨error, released, reason, partly, result⟩ |
    ⟨pending, rows, result⟩ := createPczt_cases codec fault unlock owner inputs txId state <;>
    rw [result]
  · exact .inr ⟨refused error _, .unchanged⟩
  · exact .inr ⟨refused error _, .rolledBack whole⟩
  · refine .inr ⟨refused _ _, .unreleased partly fun answer told => ⟨error, ?_⟩⟩
    split at told
    · exact (Option.some.inj told).symm
    · cases told
  · by_cases answers : caller = .acknowledges
    · exact .inl ⟨⟨_, pending⟩, ⟨rfl, rows⟩, if_pos answers⟩
    · simp only [answerPcztCreation,if_neg answers]
      exact .inr ⟨fun _ => (Option.some_ne_none _).symm, .cleaned ⟨rfl, rows⟩⟩

/-- An extraction changes nothing, or takes the inputs of its transaction from their owners and
may then delete the rows of the owner the PCZT names. -/
theorem extractAndStorePczt_cases (fault : StepFault ExtractStep) (pczt : Pczt)
    (state : PcztState) :
    (extractAndStorePczt fault pczt state).2 = state ∨
    (extractAndStorePczt fault pczt state).2 = ⟨revoke state.locks pczt.inputs, state.pending⟩ ∨
    ∃ owner, pendingPcztLockOwner pczt = .ok (some owner) ∧
      (extractAndStorePczt fault pczt state).2 =
        ⟨revoke state.locks pczt.inputs, state.pending.delete owner⟩ := by
  unfold extractAndStorePczt
  split
  · exact .inl rfl
  rename_i owner stored
  simp only [bind_ok_iff] at stored
  obtain ⟨-, -, named, parsed, -, -, -, -, returned⟩ := stored
  cases returned
  split
  · exact .inr (.inl rfl)
  cases owner with
  | none => exact .inr (.inl rfl)
  | some owner =>
    dsimp only
    split
    · exact .inr (.inl rfl)
    · exact .inr (.inr ⟨owner, parsed, rfl⟩)

/-- An abandonment changes nothing, or is the release of the owner the PCZT names. -/
theorem abandonPczt_cases (fault : StepFault ReleaseStep) (pczt : Pczt) (state : PcztState) :
    (∃ error, abandonPczt fault pczt state = (.error error, state)) ∨
    ∃ owner, pendingPcztLockOwner pczt = .ok (some owner) ∧
      abandonPczt fault pczt state = releasePendingPcztInputs fault owner state := by
  unfold abandonPczt
  split
  · exact .inl ⟨_, rfl⟩
  · exact .inl ⟨_, rfl⟩
  · rename_i owner parsed
    obtain ⟨-, -, named⟩ := bind_ok_iff.mp parsed
    exact .inr ⟨owner, named, rfl⟩

end Calls

namespace PcztOp

/-- The owner a creation locks for. -/
def creates : PcztOp → Option LockOwner
  | create _ _ _ _ owner _ _ => some owner
  | _ => none

/-- The call locks no more than `items` for `owner`, its rollback gives all of them back, and a PCZT
it extracts that names `owner` spends all of them. -/
def Respects (owner : LockOwner) (items : List OutputRef) : PcztOp → Prop
  | create _ _ unlock _ other inputs _ => other = owner → inputs ⊆ items ∧ unlock = .released
  | extract _ pczt => pendingPcztLockOwner pczt = .ok (some owner) → items ⊆ pczt.inputs
  | abandon _ _ => True

end PcztOp

namespace PcztState

section Steps

variable {state : PcztState} {owner other : LockOwner} {inputs items : List OutputRef}

theorem Created.leases (created : state.Created owner inputs after)
    (leases : state.Leases other items) (among : owner = other → inputs ⊆ items) :
    after.Leases other items := by
  intro input held
  rw [created.locks,acquire_eq_some_iff] at held
  rw [created.rows]
  obtain ⟨member, rfl⟩ | ⟨-, held⟩ := held
  · exact ⟨List.mem_append_right _ (List.mem_map.mpr ⟨input, member, rfl⟩), among rfl member⟩
  · have ⟨row, member⟩ := leases input held
    exact ⟨List.mem_append_left _ row, member⟩

theorem Created.held (created : state.Created owner inputs after) (ne : other ≠ owner)
    (held : after.locks input = some other) : state.locks input = some other := by
  rw [created.locks,acquire_eq_some_iff] at held
  obtain ⟨-, same⟩ | ⟨-, before⟩ := held
  · exact absurd same ne
  · exact before

theorem Created.not_owns (created : state.Created owner inputs after) (ne : other ≠ owner)
    (free : ¬state.Owns other) : ¬after.Owns other := by
  rintro (⟨input, held⟩ | ⟨row, stored, same⟩)
  · exact free (.inl ⟨input, created.held ne held⟩)
  · rw [created.rows] at stored
    rcases List.mem_append.mp stored with before | added
    · exact free (.inr ⟨row, before, same⟩)
    · obtain ⟨input, -, rfl⟩ := List.mem_map.mp added
      exact ne same.symm

/-- The caller that gets a PCZT has its inputs locked, with their rows. -/
theorem received_of_answer
    (answered : runPcztCreation codec caller fault unlock cleanup owner inputs txId state =
      (some (.ok pczt), next)) :
    pendingPcztLockOwner pczt = .ok (some owner) ∧ pczt.inputs = inputs ∧
      ∀ input ∈ inputs, next.locks input = some owner ∧ ⟨owner, input⟩ ∈ next.pending.rows := by
  obtain ⟨created, locked, result⟩ | ⟨unanswered, -⟩ :=
    runPcztCreation_cases codec caller fault unlock cleanup owner inputs txId state
  · rw [answered] at result
    cases result
    refine ⟨pendingPcztLockOwner_asBytes owner inputs txId, rfl, fun input member => ⟨?_, ?_⟩⟩
    · rw [locked.locks]
      exact acquire_eq_some_iff.mpr (.inl ⟨member, rfl⟩)
    · rw [locked.rows]
      exact List.mem_append_right _ (List.mem_map.mpr ⟨input, member, rfl⟩)
  · rw [answered] at unanswered
    exact absurd rfl (unanswered pczt)

/-- The rollback of a creation leaves no lock that was not there before. -/
theorem held_of_rolledBack (held : release (acquire state.locks owner inputs) owner inputs input =
    some other) : state.locks input = some other := by
  obtain ⟨held, kept⟩ := release_eq_some_iff.mp held
  obtain taken | ⟨-, held⟩ := acquire_eq_some_iff.mp held
  · exact absurd taken kept
  · exact held

/-- Calls that neither lock nor add rows leave a free owner free. -/
theorem not_owns_mono {after : PcztState} (free : ¬state.Owns owner)
    (locks : ∀ input, after.locks input = some owner → state.locks input = some owner)
    (rows : ∀ row ∈ after.pending.rows, row ∈ state.pending.rows) : ¬after.Owns owner := by
  rintro (⟨input, held⟩ | ⟨row, stored, same⟩)
  · exact free (.inl ⟨input, locks input held⟩)
  · exact free (.inr ⟨row, rows row stored, same⟩)

theorem not_owns_after_release (free : ¬state.Owns other) (fault : StepFault ReleaseStep)
    (owner : LockOwner) : ¬(releasePendingPcztInputs fault owner state).2.Owns other := by
  obtain ⟨released, error, result⟩ | result := releasePendingPcztInputs_cases fault owner state <;>
    rw [result]
  · exact not_owns_mono free (fun input held => (release_eq_some_iff.mp held).1) fun _ => id
  · exact not_owns_mono free (fun input held => (release_eq_some_iff.mp held).1)
      fun row stored => (mem_delete.mp stored).1

/-- Neither a rollback nor what is left of one gives a lock to another owner. -/
theorem held_of_unreleased (ne : other ≠ owner)
    (held : release (acquire state.locks owner inputs) owner items input = some other) :
    state.locks input = some other := by
  obtain ⟨-, same⟩ | ⟨-, before⟩ := acquire_eq_some_iff.mp (release_eq_some_iff.mp held).1
  · exact absurd same ne
  · exact before

theorem held_of_release
    (held : (releasePendingPcztInputs fault owner state).2.locks input = some other) :
    state.locks input = some other := by
  obtain ⟨items, error, result⟩ | result := releasePendingPcztInputs_cases fault owner state <;>
    rw [result] at held <;> exact (release_eq_some_iff.mp held).1

theorem Withdrawn.held {result : Option (Except StorageError Pczt) × PcztState}
    (withdrawn : Withdrawn codec state unlock cleanup owner inputs result) (ne : other ≠ owner)
    (held : result.2.locks input = some other) : state.locks input = some other := by
  cases withdrawn with
  | unchanged => exact held
  | rolledBack => exact held_of_rolledBack held
  | unreleased => exact held_of_unreleased ne held
  | cleaned created => exact created.held ne (held_of_release held)

theorem Withdrawn.not_owns {result : Option (Except StorageError Pczt) × PcztState}
    (withdrawn : Withdrawn codec state unlock cleanup owner inputs result) (ne : other ≠ owner)
    (free : ¬state.Owns other) : ¬result.2.Owns other := by
  cases withdrawn with
  | unchanged => exact free
  | rolledBack => exact not_owns_mono free (fun _ => held_of_rolledBack) fun _ => id
  | unreleased => exact not_owns_mono free (fun _ => held_of_unreleased ne) fun _ => id
  | cleaned created => exact not_owns_after_release (created.not_owns ne free) cleanup owner

/-- A creation whose caller gets no PCZT leaves a fresh owner with nothing, when its rollback or its
cleanup succeeds. -/
theorem not_owns_of_unanswered (codec : Wire.Hex.Codec) (caller : PcztCaller)
    (fault : StepFault CreateStep) (inputs : List OutputRef) (txId : TxId)
    (free : ¬state.Owns owner)
    (unanswered : ∀ pczt,
      (runPcztCreation codec caller fault .released none owner inputs txId state).1 ≠
        some (.ok pczt)) :
    ¬(runPcztCreation codec caller fault .released none owner inputs txId state).2.Owns owner := by
  obtain ⟨after, -, result⟩ | ⟨-, withdrawn⟩ :=
    runPcztCreation_cases codec caller fault .released none owner inputs txId state
  · rw [result] at unanswered
    exact absurd rfl (unanswered _)
  · generalize runPcztCreation codec caller fault .released none owner inputs txId state = result
      at withdrawn ⊢
    cases withdrawn with
    | unchanged => exact free
    | rolledBack => exact not_owns_mono free (fun _ => held_of_rolledBack) fun _ => id
    | unreleased partly => cases partly
    | cleaned created =>
      have leases := created.leases (.of_not_owns free) fun _ => List.Subset.refl inputs
      exact not_owns_of_cleanup leases.covered

/-- The step lemma: calls that respect the owner's leases keep them. -/
theorem Leases.run (leases : state.Leases owner items) {op : PcztOp}
    (respects : op.Respects owner items) : (op.run codec state).Leases owner items := by
  cases op with
  | create caller fault unlock cleanup drawn inputs txId =>
    rw [PcztOp.run]
    obtain ⟨after, created, result⟩ | ⟨-, withdrawn⟩ :=
      runPcztCreation_cases codec caller fault unlock cleanup drawn inputs txId state
    · rw [result]
      exact created.leases leases fun same => (respects same).1
    · generalize runPcztCreation codec caller fault unlock cleanup drawn inputs txId state = result
        at withdrawn ⊢
      cases withdrawn with
      | unchanged => exact leases
      | rolledBack => exact leases.mono (fun _ => held_of_rolledBack) fun _ => id
      | unreleased partly =>
        have ne : owner ≠ drawn := fun same => by
          rw [(respects same.symm).2] at partly
          cases partly
        exact leases.mono (fun _ => held_of_unreleased ne) fun _ => id
      | cleaned created =>
        exact (created.leases leases fun same => (respects same).1).release cleanup drawn
  | extract fault pczt =>
    obtain result | result | ⟨named, parsed, result⟩ := extractAndStorePczt_cases fault pczt state <;>
      rw [PcztOp.run,result]
    · exact leases
    · exact leases.mono (fun input held => (revoke_eq_some_iff.mp held).2) fun _ => id
    · intro input held
      obtain ⟨spared, held⟩ := revoke_eq_some_iff.mp held
      obtain ⟨row, member⟩ := leases input held
      refine ⟨mem_delete.mpr ⟨row, ?_⟩, member⟩
      -- the rows that are deleted are those of an owner whose locks the transaction clears
      rintro rfl
      exact spared (respects parsed member)
  | abandon fault pczt =>
    obtain ⟨error, result⟩ | ⟨named, -, result⟩ := abandonPczt_cases fault pczt state <;>
      rw [PcztOp.run,result]
    · exact leases
    · exact leases.release fault named

/-- Only its own creation gives an owner a lock. -/
theorem held_of_run {op : PcztOp} (others : op.creates ≠ some owner)
    (held : (op.run codec state).locks input = some owner) : state.locks input = some owner := by
  cases op with
  | create caller fault unlock cleanup drawn inputs txId =>
    have ne : owner ≠ drawn := fun same => others (congrArg some same.symm)
    rw [PcztOp.run] at held
    obtain ⟨after, created, result⟩ | ⟨-, withdrawn⟩ :=
      runPcztCreation_cases codec caller fault unlock cleanup drawn inputs txId state
    · rw [result] at held
      exact created.held ne held
    · exact withdrawn.held ne held
  | extract fault pczt =>
    obtain result | result | ⟨named, -, result⟩ := extractAndStorePczt_cases fault pczt state <;>
      rw [PcztOp.run,result] at held
    · exact held
    · exact (revoke_eq_some_iff.mp held).2
    · exact (revoke_eq_some_iff.mp held).2
  | abandon fault pczt =>
    obtain ⟨error, result⟩ | ⟨named, -, result⟩ := abandonPczt_cases fault pczt state <;>
      rw [PcztOp.run,result] at held
    · exact held
    · exact held_of_release held

/-- The step lemma of an owner that has nothing: only its own creation gives it anything. -/
theorem not_owns_run (free : ¬state.Owns owner) {op : PcztOp} (others : op.creates ≠ some owner) :
    ¬(op.run codec state).Owns owner := by
  cases op with
  | create caller fault unlock cleanup drawn inputs txId =>
    have ne : owner ≠ drawn := fun same => others (congrArg some same.symm)
    rw [PcztOp.run]
    obtain ⟨after, created, result⟩ | ⟨-, withdrawn⟩ :=
      runPcztCreation_cases codec caller fault unlock cleanup drawn inputs txId state
    · rw [result]
      exact created.not_owns ne free
    · exact withdrawn.not_owns ne free
  | extract fault pczt =>
    obtain result | result | ⟨named, -, result⟩ := extractAndStorePczt_cases fault pczt state <;>
      rw [PcztOp.run,result]
    · exact free
    · exact not_owns_mono free (fun input held => (revoke_eq_some_iff.mp held).2) fun _ => id
    · exact not_owns_mono free (fun input held => (revoke_eq_some_iff.mp held).2)
        fun row stored => (mem_delete.mp stored).1
  | abandon fault pczt =>
    obtain ⟨error, result⟩ | ⟨named, -, result⟩ := abandonPczt_cases fault pczt state <;>
      rw [PcztOp.run,result]
    · exact free
    · exact not_owns_after_release free fault named

end Steps
end PcztState

theorem PcztPath.leases (path : PcztPath codec start ops state) (leases : start.Leases owner items)
    (respects : ∀ op ∈ ops, op.Respects owner items) : state.Leases owner items := by
  induction path with
  | nil => exact leases
  | cons moves _ ih =>
    obtain ⟨first, rest⟩ := List.forall_mem_cons.mp respects
    subst moves
    exact ih (leases.run first) rest

theorem PcztPath.not_owns (path : PcztPath codec start ops state) (free : ¬start.Owns owner)
    (others : owner ∉ ops.filterMap PcztOp.creates) : ¬state.Owns owner := by
  induction path with
  | nil => exact free
  | @cons _ op _ _ _ moves _ ih =>
    subst moves
    have first : op.creates ≠ some owner := fun same =>
      others (List.mem_filterMap.mpr ⟨op, List.mem_cons_self, same⟩)
    refine ih (PcztState.not_owns_run free first) fun later => others ?_
    obtain ⟨creation, member, same⟩ := List.mem_filterMap.mp later
    exact List.mem_filterMap.mpr ⟨creation, List.mem_cons_of_mem _ member, same⟩

/-- A run whose creations draw owners that nothing else uses, and that extracts under the name
of such an owner only transactions that spend what its creation locked. -/
structure PcztRun (codec : Wire.Hex.Codec) (start : PcztState) (ops : List PcztOp)
    (state : PcztState) : Prop where
  path : PcztPath codec start ops state
  distinct : (ops.filterMap PcztOp.creates).Nodup
  unused : ∀ owner ∈ ops.filterMap PcztOp.creates, ¬start.Owns owner
  spends : ∀ caller fault unlock cleanup owner inputs txId fault' pczt,
    .create caller fault unlock cleanup owner inputs txId ∈ ops → .extract fault' pczt ∈ ops →
    pendingPcztLockOwner pczt = .ok (some owner) → inputs ⊆ pczt.inputs

namespace PcztRun

/-- The only creation of an owner is the one of the run. -/
theorem eq_of_creates {ops : List PcztOp} (distinct : (ops.filterMap PcztOp.creates).Nodup)
    (first : op ∈ ops) (second : other ∈ ops) (creates : op.creates = some owner)
    (same : other.creates = some owner) : op = other := by
  induction ops with
  | nil => exact absurd first List.not_mem_nil
  | cons head ops ih =>
    have tail : (ops.filterMap PcztOp.creates).Nodup := by
      cases drawn : head.creates with
      | none => rwa [List.filterMap_cons_none drawn] at distinct
      | some _ =>
        rw [List.filterMap_cons_some drawn] at distinct
        exact (List.nodup_cons.mp distinct).2
    have apart : head.creates = some owner → ∀ op ∈ ops, op.creates ≠ some owner := by
      intro drawn op member again
      rw [List.filterMap_cons_some drawn] at distinct
      exact (List.nodup_cons.mp distinct).1 (List.mem_filterMap.mpr ⟨op, member, again⟩)
    rcases List.mem_cons.mp first with rfl | inFirst <;>
      rcases List.mem_cons.mp second with rfl | inSecond
    · rfl
    · exact absurd same (apart creates _ inSecond)
    · exact absurd creates (apart same _ inFirst)
    · exact ih tail inFirst inSecond

/-- The locks of an owner of the run are covered and lie among the inputs of its creation, unless
its own rollback failed. -/
theorem leases (run : PcztRun codec start ops state)
    (member : .create caller fault .released cleanup owner inputs txId ∈ ops) :
    state.Leases owner inputs := by
  have drawn : owner ∈ ops.filterMap PcztOp.creates := List.mem_filterMap.mpr ⟨_, member, rfl⟩
  refine run.path.leases (.of_not_owns (run.unused owner drawn)) fun op inRun => ?_
  cases op with
  | create caller' fault' unlock' cleanup' other inputs' txId' =>
    rintro rfl
    cases eq_of_creates run.distinct inRun member rfl rfl
    exact ⟨List.Subset.refl _, rfl⟩
  | extract fault' pczt => exact run.spends _ _ _ _ _ _ _ _ _ member inRun
  | abandon _ _ => trivial

/-- A creation whose caller gets none leaves its owner with nothing, then and later. -/
theorem withdrawn (run : PcztRun codec start ops state)
    (split : ops = before ++ .create caller fault .released none owner inputs txId :: after)
    (path : PcztPath codec start before middle)
    (answered : runPcztCreation codec caller fault .released none owner inputs txId middle =
      (answer, next))
    (unanswered : ∀ pczt, answer ≠ some (.ok pczt)) : ¬next.Owns owner ∧ ¬state.Owns owner := by
  have distinct := run.distinct
  have creates : (PcztOp.create caller fault .released none owner inputs txId).creates =
    some owner := rfl
  rw [split,List.filterMap_append,List.filterMap_cons_some creates,List.nodup_append] at distinct
  obtain ⟨-, rest, apart⟩ := distinct
  have drawn : owner ∈ ops.filterMap PcztOp.creates := by
    rw [split]
    exact List.mem_filterMap.mpr ⟨_, List.mem_append_right _ List.mem_cons_self, creates⟩
  have free : ¬middle.Owns owner := path.not_owns (run.unused owner drawn) fun earlier =>
    apart owner earlier owner List.mem_cons_self rfl
  have given : ¬next.Owns owner := by
    have left := PcztState.not_owns_of_unanswered codec caller fault inputs txId free
      (by rwa [answered])
    rwa [answered] at left
  have whole := run.path
  rw [split] at whole
  obtain ⟨reached, first, remaining⟩ := Path.append_iff.mp whole
  obtain rfl := first.deterministic (by rintro _ _ _ _ rfl rfl; rfl) path
  cases remaining with
  | cons moves remaining =>
    rw [PcztOp.run,answered] at moves
    subst moves
    exact ⟨given, PcztPath.not_owns remaining given (List.nodup_cons.mp rest).1⟩

end PcztRun

/-- What holds at the end of a run, and of each of its creations whose own rollback and cleanup
unlocks succeed. -/
structure PcztSafe (codec : Wire.Hex.Codec) (start : PcztState) (ops : List PcztOp)
    (state : PcztState) : Prop where
  /-- Every lock of an owner of the run has its pending row. -/
  covered : ∀ caller fault cleanup owner inputs txId,
    .create caller fault .released cleanup owner inputs txId ∈ ops → state.Covered owner
  /-- The caller that receives a PCZT has all its inputs locked, with their rows. -/
  received : ∀ before after middle caller fault unlock cleanup owner inputs txId pczt next,
    ops = before ++ .create caller fault unlock cleanup owner inputs txId :: after →
    PcztPath codec start before middle →
    runPcztCreation codec caller fault unlock cleanup owner inputs txId middle =
      (some (.ok pczt), next) →
    pendingPcztLockOwner pczt = .ok (some owner) ∧ pczt.inputs = inputs ∧
      ∀ input ∈ inputs, next.locks input = some owner ∧ ⟨owner, input⟩ ∈ next.pending.rows
  /-- When it receives none, the owner has nothing, then and later. -/
  withdrawn : ∀ before after middle caller fault owner inputs txId answer next,
    ops = before ++ .create caller fault .released none owner inputs txId :: after →
    PcztPath codec start before middle →
    runPcztCreation codec caller fault .released none owner inputs txId middle = (answer, next) →
    (∀ pczt, answer ≠ some (.ok pczt)) → ¬next.Owns owner ∧ ¬state.Owns owner
  /-- An abandonment leaves the locks of the owners that the PCZT does not name. -/
  others : ∀ fault pczt owner input, pendingPcztLockOwner pczt ≠ .ok (some owner) →
    state.locks input = some owner → (abandonPczt fault pczt state).2.locks input = some owner
  /-- An abandonment that succeeds, however often it failed before, leaves the owner nothing. -/
  abandoned : ∀ caller fault cleanup owner inputs txId fault' pczt next,
    .create caller fault .released cleanup owner inputs txId ∈ ops →
    pendingPcztLockOwner pczt = .ok (some owner) → abandonPczt fault' pczt state = (.ok (), next) →
    ¬next.Owns owner
  /-- An abandonment that meets no failure succeeds. -/
  succeeds : ∀ pczt owner, pendingPcztLockOwner pczt = .ok (some owner) →
    (abandonPczt none pczt state).1 = .ok ()

/-- The inputs that PCZT owners lock stay covered by the pending ledger. -/
theorem pczt_locks_covered (codec : Wire.Hex.Codec) (start : PcztState) (ops : List PcztOp)
    (state : PcztState) (run : PcztRun codec start ops state) : PcztSafe codec start ops state where
  covered _ _ _ _ _ _ member := (run.leases member).covered
  received _ _ _ _ _ _ _ _ _ _ _ _ _ _ answered := PcztState.received_of_answer answered
  withdrawn _ _ _ _ _ _ _ _ _ _ split path answered unanswered :=
    run.withdrawn split path answered unanswered
  others fault pczt owner input unnamed held := by
    obtain ⟨error, result⟩ | ⟨named, parsed, result⟩ := abandonPczt_cases fault pczt state <;>
      rw [result]
    · exact held
    · refine held_after_release ?_ held
      rintro rfl
      exact unnamed parsed
  abandoned caller fault cleanup owner inputs txId fault' pczt next member named answered := by
    obtain ⟨error, result⟩ | ⟨other, parsed, result⟩ := abandonPczt_cases fault' pczt state
    · rw [answered] at result
      cases result
    · rw [named] at parsed
      cases parsed
      rw [answered] at result
      exact not_owns_of_release (run.leases member).covered result.symm
  succeeds pczt owner named := by
    have parsed : (do failsAt (none : StepFault ReleaseStep) .parse; pendingPcztLockOwner pczt) =
        .ok (some owner) := named
    rw [abandonPczt,parsed]
    exact releasePendingPcztInputs_none owner state

section Sample

def sampleOutput (index : UInt32) : OutputRef := ⟨0, .shielded .orchard, index⟩

def samplePcztState : PcztState := ⟨Table.empty, .empty⟩

/-- A creation that the caller acknowledges, for one owner and one note. -/
def sampleCreation : PcztOp := .create .acknowledges none .released none ⟨1⟩ [sampleOutput 0] 7

theorem sampleCreation_safe :
    (sampleCreation.run Wire.Hex.reference samplePcztState).Owns ⟨1⟩ ∧
      PcztSafe Wire.Hex.reference samplePcztState [sampleCreation]
        (sampleCreation.run Wire.Hex.reference samplePcztState) := by
  refine ⟨.inl ⟨sampleOutput 0, by decide⟩,
    pczt_locks_covered _ _ _ _ ⟨.cons rfl .nil, by decide, ?_, ?_⟩⟩
  · rintro owner - (⟨input, held⟩ | ⟨row, stored, -⟩)
    · cases held
    · cases stored
  · intro _ _ _ _ _ _ _ _ _ _ member
    cases List.mem_singleton.mp member

/-- The extraction of a PCZT that names the owner of the creation and spends another note. -/
def misnamedExtraction : PcztOp :=
  .extract none ⟨some (LockOwner.asBytes ⟨1⟩), [sampleOutput 1], 8⟩

/-- It deletes the owner's row and leaves the lock. -/
theorem extraction_leaves_lock : ∃ state, PcztPath Wire.Hex.reference samplePcztState
    [sampleCreation, misnamedExtraction] state ∧ ¬state.Covered ⟨1⟩ := by
  refine ⟨_, .cons rfl (.cons rfl .nil), fun covered => ?_⟩
  have row := covered (sampleOutput 0) (by decide)
  exact absurd row (by decide)

end Sample

end Zally
