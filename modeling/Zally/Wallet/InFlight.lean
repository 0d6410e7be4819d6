import Zally.Wallet.Submission

/-! Pending-broadcast rows over a whole submission of a plan: which transactions lose
their rows, and what the node may hold at that point. -/
namespace Zally.Spend

open Async Async.Program

def rowsStep (rows : PendingBroadcastRows) : SpendEvent → PendingBroadcastRows
  | ⟨.recordPendingBroadcastInputs record, .ok ()⟩ => rows.recordPendingBroadcastInputs record
  | ⟨.clearPendingBroadcastInputsForMined txIds, .ok _⟩ =>
    rows.clearPendingBroadcastInputsForMined txIds
  | _ => rows

/-- The rows after the calls of `trace`; a failed storage call changes nothing. -/
def rowsAfter (rows : PendingBroadcastRows) (trace : List SpendEvent) : PendingBroadcastRows :=
  trace.foldl rowsStep rows

@[simp] theorem rowsAfter_nil : rowsAfter rows [] = rows := rfl

@[simp] theorem rowsAfter_cons :
    rowsAfter rows (event :: trace) = rowsAfter (rowsStep rows event) trace := rfl

@[simp] theorem rowsAfter_append :
    rowsAfter rows (before ++ after) = rowsAfter (rowsAfter rows before) after :=
  List.foldl_append

/-- The answers of the node, grouped by submission: every submission passes the breaker
once, and its attempts follow. The last submission comes first. -/
def answersStep (groups : List (List BroadcastReply)) : SpendEvent → List (List BroadcastReply)
  | ⟨.allowCall, _⟩ => [] :: groups
  | ⟨.broadcastTransaction _, reply⟩ =>
    match groups with
    | [] => []
    | group :: groups => (reply :: group) :: groups
  | _ => groups

def answersFrom (groups : List (List BroadcastReply)) (trace : List SpendEvent) :
    List (List BroadcastReply) := trace.foldl answersStep groups

/-- Each transaction of the plan that was submitted, with the node's answers to it. -/
def submissions (prepared : List PreparedTransaction) (trace : List SpendEvent) :
    List (PreparedTransaction × List BroadcastReply) :=
  prepared.zip (answersFrom [] trace).reverse

/-- Every attempt was answered, and by a definite rejection. -/
def DefinitelyRejected (replies : List BroadcastReply) : Prop :=
  ∀ reply ∈ replies, reply.definiteRejection = true

/-- What the wallet promises about rows over one submission of a plan. -/
structure KeepsInFlight (prepared : List PreparedTransaction) (rows : PendingBroadcastRows)
    (trace : List SpendEvent) : Prop where
  kept : ∀ transaction replies, (transaction, replies) ∈ submissions prepared trace →
    ¬DefinitelyRejected replies → ∀ input ∈ transaction.transparentInputs,
      (rowsAfter rows trace).Holds transaction.txId input.1
  removed : ∀ txId outpoint, rows.Holds txId outpoint → ¬(rowsAfter rows trace).Holds txId outpoint →
    (∃ transaction ∈ prepared, transaction.txId = txId) ∧
    ∀ transaction replies, (transaction, replies) ∈ submissions prepared trace →
      transaction.txId = txId → DefinitelyRejected replies

/-- Whatever the wallet was told, a transaction the node took keeps its rows. -/
theorem KeepsInFlight.holds_of_taken (keeps : KeepsInFlight prepared rows trace)
    (submitted : (transaction, replies) ∈ submissions prepared trace) (member : reply ∈ replies)
    (taken : reply.taken = true) :
    ∀ input ∈ transaction.transparentInputs,
      (rowsAfter rows trace).Holds transaction.txId input.1 := by
  apply keeps.kept transaction replies submitted
  intro rejected
  simp [BroadcastReply.not_taken_of_definiteRejection (rejected reply member)] at taken

/-- The submitter's report of the answer names the transaction. -/
def Confirms (wallet : SpendWallet) (transaction : PreparedTransaction) (reply : BroadcastReply) :
    Prop := ∃ outcome, submitResult wallet transaction.rawBytes reply = .ok outcome ∧
      resolveSendOutcome outcome transaction.txId = .ok transaction.txId

/-- The storage carried a removal out. -/
def Removes : SpendEvent → Prop
  | ⟨.clearPendingBroadcastInputsForMined _, .ok _⟩ => True
  | _ => False

/-! One attempt, one submission, one turn of the loop. -/

def replies (trace : List SpendEvent) : List BroadcastReply :=
  trace.filterMap fun
    | ⟨.broadcastTransaction _, reply⟩ => some reply
    | _ => none

theorem replies_quiet (quiet : ∀ event ∈ trace, Quiet event.command) : replies trace = [] := by
  refine List.filterMap_eq_nil_iff.mpr fun event member => ?_
  rcases event with ⟨command, answer⟩
  cases command <;> first | rfl | exact (quiet _ member).elim

theorem rowsAfter_attempts (attempts : ∀ event ∈ trace, Attempts rawTx event.command) :
    rowsAfter rows trace = rows := by
  induction trace generalizing rows with
  | nil => rfl
  | cons event trace ih =>
    rw [rowsAfter_cons,ih fun other member => attempts other (List.mem_cons_of_mem _ member)]
    have attempt := attempts event List.mem_cons_self
    rcases event with ⟨command, answer⟩
    cases command <;> first | rfl | exact attempt.elim False.elim (by simp)

theorem answersFrom_attempts (attempts : ∀ event ∈ trace, Attempts rawTx event.command)
    (group : List BroadcastReply) :
    answersFrom (group :: groups) trace = ((replies trace).reverse ++ group) :: groups := by
  induction trace generalizing group with
  | nil => rfl
  | cons event trace ih =>
    have attempt := attempts event List.mem_cons_self
    have rest := ih fun other member => attempts other (List.mem_cons_of_mem _ member)
    rcases event with ⟨command, answer⟩
    cases command
    case broadcastTransaction => simpa [answersFrom,answersStep,replies] using rest (answer :: group)
    all_goals first | exact rest group | exact attempt.elim False.elim (by simp)

/-- An attempt either never reaches the node, or ends with the node's answer. -/
theorem runs_submit (run : Runs (submit wallet rawTx).run trace outcome) :
    ((∀ event ∈ trace, Quiet event.command) ∧ ∀ value, outcome ≠ some (.ok value)) ∨
    ∃ start reply, trace = start ++ [⟨.broadcastTransaction rawTx, reply⟩] ∧
      (∀ event ∈ start, Quiet event.command) ∧
      (outcome = none ∨ outcome = some (submitResult wallet rawTx reply)) := by
  have quiet := within_connectedCapabilities wallet
  rcases Fallible.runs_bind_iff.mp run with ⟨rfl, first⟩ | ⟨error, rfl, first⟩ |
    ⟨rfl, error, first⟩ | ⟨capabilities, start, rest, rfl, first, second⟩
  · exact .inl ⟨first.within quiet, by simp⟩
  · exact .inl ⟨first.within quiet, by simp⟩
  · exact .inl ⟨first.within quiet, by simp⟩
  have before := first.within quiet
  simp only [] at second
  split at second
  · obtain ⟨rfl, rfl | rfl⟩ := runs_done_iff.mp second
    · exact .inl ⟨by simpa using before, by simp⟩
    · exact .inl ⟨by simpa using before, by simp⟩
  · rcases Program.runs_await_iff.mp second with ⟨rfl, rfl⟩ | ⟨reply, tail, rfl, answered⟩
    · exact .inl ⟨by simpa using before, by simp⟩
    · obtain ⟨rfl, finished⟩ := runs_done_iff.mp answered
      exact .inr ⟨start, reply, rfl, before, finished⟩

@[simp] theorem replies_append :
    replies (before ++ after) = replies before ++ replies after := List.filterMap_append

/-- Some answer of the attempts names the transaction. -/
def Confirmed (wallet : SpendWallet) (transaction : PreparedTransaction)
    (trace : List SpendEvent) : Prop := ∃ reply ∈ replies trace, Confirms wallet transaction reply

/-- The submission returned an outcome that names the transaction. -/
def Resolved (transaction : PreparedTransaction) (result : Except ε SubmitOutcome) : Prop :=
  ∃ outcome, result = .ok outcome ∧
    resolveSendOutcome outcome transaction.txId = .ok transaction.txId

theorem runs_submit_resolves
    (run : Runs (submit wallet transaction.rawBytes).run trace (some result))
    (confirmed : Confirmed wallet transaction trace) : Resolved transaction result := by
  obtain ⟨reply, member, confirms⟩ := confirmed
  rcases runs_submit run with ⟨quiet, -⟩ | ⟨start, answer, rfl, quiet, finished⟩
  · simp [replies_quiet quiet] at member
  · rw [replies_append,replies_quiet quiet] at member
    obtain rfl : reply = answer := by simpa [replies] using member
    obtain rfl : result = submitResult wallet transaction.rawBytes reply := by simpa using finished
    exact confirms

/-- A confirming answer ends the retries: no later attempt follows it. -/
theorem runs_retry_resolves
    (run : Runs (withRetry port policy SubmitterError.posture
      (submit wallet transaction.rawBytes).run) trace (some result))
    (confirmed : Confirmed wallet transaction trace) : Resolved transaction result := by
  have silent : ∀ {delayMs wait outcome}, Runs (port.sleep delayMs) wait outcome →
      replies wait = [] := fun slept =>
    replies_quiet (slept.within ⟨trivial, fun _ => trivial⟩)
  refine retryLoop_induction (P := fun trace outcome => ∀ result, outcome = some result →
    Confirmed wallet transaction trace → Resolved transaction result) ?_ ?_ ?_ run result rfl confirmed
  · rintro trace outcome attempt result rfl
    exact runs_submit_resolves attempt
  · intros
    contradiction
  · intro trace error delayMs wait rest outcome attempt _ slept ih result finished confirmed
    obtain ⟨reply, member, confirms⟩ := confirmed
    rw [replies_append,replies_append,silent slept,List.nil_append,List.mem_append] at member
    rcases member with member | member
    · obtain ⟨outcome, absurd, -⟩ := runs_submit_resolves attempt ⟨reply, member, confirms⟩
      cases absurd
    · exact ih result finished ⟨reply, member, confirms⟩

theorem settles_attempts (settles : Settles port trace) :
    ∀ event ∈ trace, Quiet event.command := by
  rcases settles with rfl | ⟨outcome, run⟩ | ⟨outcome, run⟩
  · simp
  · exact run.within ⟨trivial, fun _ => trivial⟩
  · exact run.within ⟨trivial, fun _ => trivial⟩

/-- A guarded submission passes the gate once; past it only attempts follow, and a
confirmed attempt is what the caller gets. -/
theorem runs_guarded
    (run : Runs (withBreakerAndRetry port policy label SubmitterError.posture
      (submit wallet transaction.rawBytes).run .submitter).run trace outcome) :
    (trace = [] ∧ outcome = none) ∨
    ∃ allowed attempts, trace = ⟨.allowCall, allowed⟩ :: attempts ∧
      (∀ event ∈ attempts, Attempts transaction.rawBytes event.command) ∧
      (∀ result, outcome = some result → Confirmed wallet transaction attempts →
        Resolved transaction result) := by
  have unconfirmed : ¬Confirmed wallet transaction [] := by rintro ⟨reply, member, -⟩; cases member
  rcases runs_withBreakerAndRetry run with ⟨rfl, gate⟩ | ⟨gate, -⟩ |
    ⟨gate, retried, settle, rfl, opened, settles, retries⟩
  · rcases runs_perform_iff.mp gate with ⟨rfl, -⟩ | ⟨allowed, rfl, -⟩
    · exact .inl ⟨rfl, rfl⟩
    · exact .inr ⟨allowed, [], rfl, by simp, fun _ _ confirmed => absurd confirmed unconfirmed⟩
  · rcases runs_perform_iff.mp gate with ⟨-, ⟨⟩⟩ | ⟨allowed, rfl, -⟩
    exact .inr ⟨allowed, [], rfl, by simp, fun _ _ confirmed => absurd confirmed unconfirmed⟩
  rcases runs_perform_iff.mp opened with ⟨-, ⟨⟩⟩ | ⟨allowed, rfl, -⟩
  have told := settles_attempts settles
  have within : (withRetry port policy SubmitterError.posture
      (submit wallet transaction.rawBytes).run).Within (Attempts transaction.rawBytes) :=
    within_retryLoop (fun _ => ⟨.inl trivial, fun _ => trivial⟩) (within_submit wallet _)
  have confirms_retried : Confirmed wallet transaction (retried ++ settle) →
      Confirmed wallet transaction retried := by
    rintro ⟨reply, member, confirms⟩
    rw [replies_append,replies_quiet told,List.append_nil] at member
    exact ⟨reply, member, confirms⟩
  refine .inr ⟨allowed, retried ++ settle, rfl, ?_, fun result returned confirmed => ?_⟩
  · intro event member
    rcases List.mem_append.mp member with member | member
    · rcases retries with ⟨-, cut⟩ | ⟨result, finished, -⟩
      · exact cut.within within event member
      · exact finished.within within event member
    · exact .inl (told event member)
  · rcases retries with ⟨rfl, -⟩ | ⟨submitted, finished, rfl | rfl⟩
    · cases returned
    · cases returned
    · cases returned
      obtain ⟨outcome, rfl, resolved⟩ := runs_retry_resolves finished (confirms_retried confirmed)
      exact ⟨outcome, rfl, resolved⟩

/-- The rows of a transaction are written before its first attempt. -/
inductive Recorded (transaction : PreparedTransaction) : List SpendEvent → Prop where
  | skipped : transaction.transparentInputs = [] → Recorded transaction []
  | written : record.broadcastTxId = transaction.txId →
      record.inputs = transaction.transparentInputs →
      Recorded transaction [⟨.recordPendingBroadcastInputs record, .ok ()⟩]

/-- One turn of the loop: nothing was submitted, or the transaction was recorded and
submitted, or it was submitted without a confirmation and its rows were then removed. -/
inductive Turn (wallet : SpendWallet) (transaction : PreparedTransaction) :
    List SpendEvent → Option (Except WalletError TxId) → Prop where
  | idle : (∀ value, outcome ≠ some (.ok value)) → Turn wallet transaction [] outcome
  | unsubmitted : record.broadcastTxId = transaction.txId →
      (∀ value, outcome ≠ some (.ok value)) →
      Turn wallet transaction [⟨.recordPendingBroadcastInputs record, answer⟩] outcome
  | submitted : Recorded transaction recorded →
      (∀ event ∈ attempts, Attempts transaction.rawBytes event.command) →
      Turn wallet transaction (recorded ++ ⟨.allowCall, allowed⟩ :: attempts) outcome
  | failed : Recorded transaction recorded →
      (∀ event ∈ attempts, Attempts transaction.rawBytes event.command) →
      ¬Confirmed wallet transaction attempts → (∀ value, outcome ≠ some (.ok value)) →
      Turn wallet transaction (recorded ++ ⟨.allowCall, allowed⟩ :: attempts ++
        [⟨.clearPendingBroadcastInputsForMined [transaction.txId], answer⟩]) outcome

/-- A turn that ends before the breaker's gate. -/
def Unsubmitted (transaction : PreparedTransaction) (trace : List SpendEvent) : Prop :=
  trace = [] ∨ ∃ record answer, trace = [⟨.recordPendingBroadcastInputs record, answer⟩] ∧
    record.broadcastTxId = transaction.txId

theorem Recorded.unsubmitted (recorded : Recorded transaction trace) :
    Unsubmitted transaction trace := by
  cases recorded with
  | skipped _ => exact .inl rfl
  | written same _ => exact .inr ⟨_, _, rfl, same⟩

theorem Unsubmitted.turn (unsubmitted : Unsubmitted transaction trace)
    (unfinished : ∀ value, outcome ≠ some (.ok value)) : Turn wallet transaction trace outcome := by
  rcases unsubmitted with rfl | ⟨record, answer, rfl, same⟩
  · exact .idle unfinished
  · exact .unsubmitted same unfinished

theorem runs_recordBroadcastInputs
    (run : Runs (recordBroadcastInputs accountId broadcastAtMs visibleTip transaction).run trace
      outcome) :
    Unsubmitted transaction trace ∧ (outcome = some (.ok ()) → Recorded transaction trace) := by
  unfold recordBroadcastInputs at run
  split at run
  · rename_i empty
    obtain ⟨rfl, -⟩ := runs_done_iff.mp run
    exact ⟨.inl rfl, fun _ => .skipped empty⟩
  · rcases Fallible.runs_call_iff.mp run with ⟨rfl, rfl⟩ | ⟨answer, rfl, finished⟩
    · exact ⟨.inl rfl, by simp⟩
    · refine ⟨.inr ⟨_, _, rfl, rfl⟩, ?_⟩
      rintro rfl
      cases answer with
      | ok value => exact .written rfl rfl
      | error error => simp [Except.mapError] at finished

/-- The removal after a failed submission. -/
private theorem runs_clear_then_fail {error : WalletError}
    (recorded : Recorded transaction start)
    (attempts : ∀ event ∈ rest, Attempts transaction.rawBytes event.command)
    (unconfirmed : ¬Confirmed wallet transaction rest)
    (run : Runs (do
      clearPendingAfterFailedSubmit transaction.txId
      throw error : SpendM TxId).run trace outcome) :
    Turn wallet transaction (start ++ (⟨.allowCall, allowed⟩ :: rest ++ trace)) outcome := by
  rcases runs_await_iff.mp run with ⟨rfl, rfl⟩ | ⟨answer, tail, rfl, finished⟩
  · rw [List.append_nil]
    exact .submitted recorded attempts
  · obtain ⟨rfl, finished⟩ := runs_done_iff.mp finished
    rw [← List.append_assoc]
    refine .failed recorded attempts unconfirmed ?_
    rcases finished with rfl | rfl <;> simp

theorem runs_submitPrepared
    (run : Runs (submitPrepared wallet submission broadcastAtMs transaction).run trace outcome) :
    Turn wallet transaction trace outcome := by
  rcases Fallible.runs_bind_iff.mp run with ⟨rfl, first⟩ | ⟨error, rfl, first⟩ |
    ⟨rfl, error, first⟩ | ⟨⟨⟩, start, rest, rfl, first, second⟩
  · exact (runs_recordBroadcastInputs first).1.turn (by simp)
  · exact (runs_recordBroadcastInputs first).1.turn (by simp)
  · exact (runs_recordBroadcastInputs first).1.turn (by simp)
  have recorded := (runs_recordBroadcastInputs first).2 rfl
  rw [ExceptT.run_bind_lift] at second
  rcases Program.runs_bind_iff.mp second with ⟨rfl, guarded⟩ | ⟨result, guard, tail, rfl, guarded, resume⟩
  · rcases runs_guarded guarded with ⟨rfl, -⟩ | ⟨allowed, attempts, rfl, within, -⟩
    · rw [List.append_nil]
      exact recorded.unsubmitted.turn (by simp)
    · exact .submitted recorded within
  rcases runs_guarded guarded with ⟨-, ⟨⟩⟩ | ⟨allowed, attempts, rfl, within, resolves⟩
  cases result with
  | error error =>
    refine runs_clear_then_fail recorded within (fun confirmed => ?_) resume
    obtain ⟨outcome, failed, -⟩ := resolves _ rfl confirmed
    cases failed
  | ok submitted =>
    simp only [] at resume
    split at resume
    · rename_i error unresolved
      refine runs_clear_then_fail recorded within (fun confirmed => ?_) resume
      obtain ⟨outcome, same, resolved⟩ := resolves _ rfl confirmed
      cases same
      simp [unresolved] at resolved
    · obtain ⟨rfl, -⟩ := runs_done_iff.mp resume
      simpa using Turn.submitted recorded within

/-! The loop over a plan. -/

/-- Turns that all went through: each transaction was recorded and then submitted. -/
inductive Submitted : List PreparedTransaction → List SpendEvent → Prop where
  | nil : Submitted [] []
  | cons : Recorded transaction recorded →
      (∀ event ∈ attempts, Attempts transaction.rawBytes event.command) →
      Submitted prepared trace →
      Submitted (transaction :: prepared)
        ((recorded ++ ⟨.allowCall, allowed⟩ :: attempts) ++ trace)

/-- A call submits a part of its plan and stops in at most one further turn. -/
theorem runs_submitEach
    (run : Runs (submitEach wallet submission broadcastAtMs first prepared).run trace outcome) :
    ∃ done rest start last, prepared = done ++ rest ∧ trace = start ++ last ∧
      Submitted done start ∧ (last = [] ∨ ∃ transaction later stopped,
        rest = transaction :: later ∧ Turn wallet transaction last stopped) := by
  induction prepared generalizing first trace with
  | nil =>
    obtain ⟨rfl, -⟩ := runs_done_iff.mp run
    exact ⟨[], [], [], [], rfl, rfl, .nil, .inl rfl⟩
  | cons transaction prepared ih =>
    have stops : ∀ {stopped}, Turn wallet transaction trace stopped →
        ∃ done rest start last, transaction :: prepared = done ++ rest ∧ trace = start ++ last ∧
          Submitted done start ∧ (last = [] ∨ ∃ transaction later stopped,
            rest = transaction :: later ∧ Turn wallet transaction last stopped) := fun turn =>
      ⟨[], _, [], trace, rfl, rfl, .nil, .inr ⟨_, _, _, rfl, turn⟩⟩
    rcases Fallible.runs_bind_iff.mp run with ⟨rfl, turn⟩ | ⟨error, rfl, turn⟩ |
      ⟨rfl, error, turn⟩ | ⟨txId, turned, others, rfl, turn, next⟩
    · exact stops (runs_submitPrepared turn)
    · exact stops (runs_submitPrepared turn)
    · exact stops (runs_submitPrepared turn)
    obtain ⟨done, rest, start, last, rfl, rfl, submitted, stopped⟩ := ih next
    cases runs_submitPrepared turn with
    | idle unfinished => exact absurd rfl (unfinished txId)
    | unsubmitted _ unfinished => exact absurd rfl (unfinished txId)
    | failed _ _ _ unfinished => exact absurd rfl (unfinished txId)
    | submitted recorded attempts =>
      exact ⟨transaction :: done, rest, _, last, rfl, (List.append_assoc _ _ _).symm,
        .cons recorded attempts submitted, stopped⟩

theorem answersFrom_append : answersFrom groups (before ++ after) =
    answersFrom (answersFrom groups before) after := List.foldl_append

theorem Unsubmitted.answers (unsubmitted : Unsubmitted transaction trace) :
    answersFrom groups trace = groups := by
  rcases unsubmitted with rfl | ⟨record, answer, rfl, -⟩ <;> rfl

/-- Rows a submission leaves: its own inputs are held from before its first attempt. -/
theorem holds_submission (recorded : Recorded transaction start)
    (attempts : ∀ event ∈ rest, Attempts transaction.rawBytes event.command) :
    (rowsAfter rows (start ++ ⟨.allowCall, allowed⟩ :: rest)).Holds txId outpoint ↔
      (transaction.txId = txId ∧ outpoint ∈ transaction.transparentInputs.map Prod.fst) ∨
      rows.Holds txId outpoint := by
  have same : rowsAfter rows (start ++ ⟨.allowCall, allowed⟩ :: rest) = rowsAfter rows start := by
    rw [rowsAfter_append,rowsAfter_cons]
    exact rowsAfter_attempts attempts
  rw [same]
  cases recorded with
  | skipped empty => simp [empty]
  | written owner inputs =>
    rw [← owner,← inputs]
    exact PendingBroadcastRows.holds_record_iff

theorem answers_submission (recorded : Recorded transaction start)
    (attempts : ∀ event ∈ rest, Attempts transaction.rawBytes event.command) :
    answersFrom groups (start ++ ⟨.allowCall, allowed⟩ :: rest) =
      (replies rest).reverse :: groups := by
  rw [answersFrom_append,recorded.unsubmitted.answers]
  simpa [answersFrom,answersStep] using answersFrom_attempts attempts []

theorem Submitted.answers (submitted : Submitted sent trace) :
    ∃ answered : List (List BroadcastReply), answered.length = sent.length ∧
      ∀ groups, answersFrom groups trace = answered ++ groups := by
  induction submitted with
  | nil => exact ⟨[], rfl, fun _ => rfl⟩
  | cons recorded attempts tail ih =>
    rename_i transaction start rest prepared trace allowed
    obtain ⟨answered, length, grouped⟩ := ih
    refine ⟨answered ++ [(replies rest).reverse], by simp [length], fun groups => ?_⟩
    rw [answersFrom_append,answers_submission recorded attempts,grouped]
    simp

theorem Submitted.holds (submitted : Submitted sent trace) :
    (rowsAfter rows trace).Holds txId outpoint ↔
      (∃ transaction ∈ sent, transaction.txId = txId ∧
        outpoint ∈ transaction.transparentInputs.map Prod.fst) ∨ rows.Holds txId outpoint := by
  induction submitted generalizing rows with
  | nil => simp
  | cons recorded attempts _ ih =>
    rw [rowsAfter_append,ih,holds_submission recorded attempts]
    simp only [List.mem_cons,exists_eq_or_imp]
    rw [or_left_comm,or_assoc]

theorem not_removes_of_attempts {event : SpendEvent} (attempts : Attempts rawTx event.command) :
    ¬Removes event := by
  rcases event with ⟨command, answer⟩
  cases command <;> first | exact id | exact attempts.elim False.elim (by simp)

theorem not_removes_submission (recorded : Recorded transaction start)
    (attempts : ∀ event ∈ rest, Attempts transaction.rawBytes event.command) :
    ∀ event ∈ start ++ ⟨.allowCall, allowed⟩ :: rest, ¬Removes event := by
  intro event member
  rcases List.mem_append.mp member with member | member
  · cases recorded with
    | skipped _ => cases member
    | written _ _ =>
      obtain rfl := List.mem_singleton.mp member
      exact id
  · rcases List.mem_cons.mp member with rfl | member
    · exact id
    · exact not_removes_of_attempts (attempts event member)

theorem Submitted.not_removes (submitted : Submitted sent trace) :
    ∀ event ∈ trace, ¬Removes event := by
  induction submitted with
  | nil => simp
  | cons recorded attempts _ ih =>
    intro event member
    rcases List.mem_append.mp member with member | member
    · exact not_removes_submission recorded attempts event member
    · exact ih event member

/-- The two ways a call leaves the rows: nothing was removed and every submitted
transaction holds its inputs back, or the last submission was never confirmed and exactly
its rows are gone. -/
inductive Leaves (wallet : SpendWallet) (prepared : List PreparedTransaction)
    (rows : PendingBroadcastRows) (trace : List SpendEvent) : Prop where
  | held : (∀ event ∈ trace, ¬Removes event) →
      (∀ txId outpoint, rows.Holds txId outpoint → (rowsAfter rows trace).Holds txId outpoint) →
      (∀ transaction replies, (transaction, replies) ∈ submissions prepared trace →
        ∀ input ∈ transaction.transparentInputs,
          (rowsAfter rows trace).Holds transaction.txId input.1) →
      Leaves wallet prepared rows trace
  | lost (earlier : List (PreparedTransaction × List BroadcastReply))
      (transaction : PreparedTransaction) (answers : List BroadcastReply) :
      submissions prepared trace = earlier ++ [(transaction, answers)] →
      transaction ∈ prepared → (∃ event ∈ trace, Removes event) →
      (∀ reply ∈ answers, ¬Confirms wallet transaction reply) →
      (∀ txId outpoint, (rowsAfter rows trace).Holds txId outpoint ↔ txId ≠ transaction.txId ∧
        ((∃ other otherAnswers, (other, otherAnswers) ∈ submissions prepared trace ∧
          other.txId = txId ∧ outpoint ∈ other.transparentInputs.map Prod.fst) ∨
          rows.Holds txId outpoint)) →
      Leaves wallet prepared rows trace

/-- The call up to the turn `tail`, which starts with the clock. -/
def callTrace (now : Nat) (start tail : List SpendEvent) : List SpendEvent :=
  ⟨.currentUnixMs, now⟩ :: (start ++ tail)

theorem rowsAfter_callTrace : rowsAfter rows (callTrace now start tail) =
    rowsAfter (rowsAfter rows start) tail := rowsAfter_append

theorem not_removes_callTrace (submitted : Submitted sent start)
    (quiet : ∀ event ∈ tail, ¬Removes event) : ∀ event ∈ callTrace now start tail, ¬Removes event := by
  intro event member
  rcases List.mem_cons.mp member with rfl | member
  · exact id
  · rcases List.mem_append.mp member with member | member
    · exact submitted.not_removes event member
    · exact quiet event member

theorem submissions_unsubmitted (submitted : Submitted sent start)
    (stops : Unsubmitted transaction tail) :
    (submissions (sent ++ rest) (callTrace now start tail)).map Prod.fst = sent := by
  obtain ⟨answered, length, grouped⟩ := submitted.answers
  have groups : answersFrom [] (callTrace now start tail) = answered := by
    change answersFrom [] (start ++ tail) = _
    rw [answersFrom_append,grouped,List.append_nil,stops.answers]
  have lengths : sent.length = answered.reverse.length := by simp [length]
  rw [submissions,groups,← List.append_nil answered.reverse,List.zip_append lengths,
    List.zip_nil_right,List.append_nil]
  exact List.map_fst_zip (Nat.le_of_eq lengths)

theorem submissions_submission (now : Nat) (later : List PreparedTransaction) (allowed : Bool)
    (tail : List SpendEvent) (submitted : Submitted sent start)
    (recorded : Recorded transaction before)
    (attempts : ∀ event ∈ after, Attempts transaction.rawBytes event.command)
    (ungrouped : ∀ groups, answersFrom groups tail = groups) :
    ∃ earlier, earlier.map Prod.fst = sent ∧
      submissions (sent ++ transaction :: later)
        (callTrace now start (before ++ ⟨.allowCall, allowed⟩ :: after ++ tail)) =
      earlier ++ [(transaction, (replies after).reverse)] := by
  obtain ⟨answered, length, grouped⟩ := submitted.answers
  have groups : answersFrom [] (callTrace now start (before ++ ⟨.allowCall, allowed⟩ :: after ++ tail)) =
      (replies after).reverse :: answered := by
    change answersFrom [] (start ++ (before ++ ⟨.allowCall, allowed⟩ :: after ++ tail)) = _
    rw [answersFrom_append,grouped,List.append_nil,answersFrom_append,
      answers_submission recorded attempts,ungrouped]
  have lengths : sent.length = answered.reverse.length := by simp [length]
  refine ⟨sent.zip answered.reverse, List.map_fst_zip (Nat.le_of_eq lengths), ?_⟩
  rw [submissions,groups,List.reverse_cons,List.zip_append lengths]
  simp

theorem Unsubmitted.keeps (stops : Unsubmitted transaction tail) (held : rows.Holds txId outpoint) :
    (rowsAfter rows tail).Holds txId outpoint := by
  rcases stops with rfl | ⟨record, answer, rfl, -⟩
  · exact held
  · cases answer with
    | ok value => exact PendingBroadcastRows.holds_record_iff.mpr (.inr held)
    | error error => exact held

theorem Unsubmitted.not_removes (stops : Unsubmitted transaction tail) :
    ∀ event ∈ tail, ¬Removes event := by
  intro event member
  rcases stops with rfl | ⟨record, answer, rfl, -⟩
  · cases member
  · obtain rfl := List.mem_singleton.mp member
    exact id

theorem leaves_unsubmitted (submitted : Submitted sent start)
    (stops : Unsubmitted transaction tail) :
    Leaves wallet (sent ++ rest) rows (callTrace now start tail) := by
  refine .held (not_removes_callTrace submitted stops.not_removes) (fun txId outpoint held => ?_)
    (fun other answers member input inInputs => ?_)
  · rw [rowsAfter_callTrace]
    exact stops.keeps (submitted.holds.mpr (.inr held))
  · have inSent : other ∈ sent := by
      rw [← submissions_unsubmitted submitted stops]
      exact List.mem_map_of_mem member
    rw [rowsAfter_callTrace]
    exact stops.keeps (submitted.holds.mpr (.inl ⟨other, inSent, rfl, List.mem_map_of_mem inInputs⟩))

/-- A submission whose rows were not removed. -/
theorem leaves_submitted (submitted : Submitted sent start)
    (recorded : Recorded transaction before)
    (attempts : ∀ event ∈ after, Attempts transaction.rawBytes event.command)
    (ungrouped : ∀ groups, answersFrom groups tail = groups)
    (unchanged : ∀ rows, rowsAfter rows tail = rows) (quiet : ∀ event ∈ tail, ¬Removes event) :
    Leaves wallet (sent ++ transaction :: later) rows
      (callTrace now start (before ++ ⟨.allowCall, allowed⟩ :: after ++ tail)) := by
  obtain ⟨earlier, owners, same⟩ :=
    submissions_submission now later allowed tail submitted recorded attempts ungrouped
  refine .held (not_removes_callTrace submitted fun event member => ?_)
    (fun txId outpoint held => ?_) (fun other answers member input inInputs => ?_)
  · rcases List.mem_append.mp member with member | member
    · exact not_removes_submission recorded attempts event member
    · exact quiet event member
  · rw [rowsAfter_callTrace,rowsAfter_append,unchanged,holds_submission recorded attempts]
    exact .inr (submitted.holds.mpr (.inr held))
  · rw [same] at member
    rw [rowsAfter_callTrace,rowsAfter_append,unchanged,holds_submission recorded attempts]
    rcases List.mem_append.mp member with member | member
    · have inSent : other ∈ sent := by
        rw [← owners]
        exact List.mem_map_of_mem member
      exact .inr (submitted.holds.mpr (.inl ⟨other, inSent, rfl, List.mem_map_of_mem inInputs⟩))
    · obtain ⟨rfl, rfl⟩ := Prod.mk.inj (List.mem_singleton.mp member)
      exact .inl ⟨rfl, List.mem_map_of_mem inInputs⟩

/-- A submission that was never confirmed and whose rows the storage removed. -/
theorem leaves_failed (submitted : Submitted sent start)
    (recorded : Recorded transaction before)
    (attempts : ∀ event ∈ after, Attempts transaction.rawBytes event.command)
    (unconfirmed : ¬Confirmed wallet transaction after) :
    Leaves wallet (sent ++ transaction :: later) rows
      (callTrace now start (before ++ ⟨.allowCall, allowed⟩ :: after ++
        [⟨.clearPendingBroadcastInputsForMined [transaction.txId], .ok removed⟩])) := by
  obtain ⟨earlier, owners, same⟩ := submissions_submission now later allowed
    [⟨.clearPendingBroadcastInputsForMined [transaction.txId], .ok removed⟩] submitted recorded
    attempts (fun _ => rfl)
  refine .lost earlier transaction (replies after).reverse same (by simp)
    ⟨_, List.mem_cons_of_mem _ (List.mem_append_right _ (List.mem_append_right _
      List.mem_cons_self)), trivial⟩ (fun reply member confirms => ?_) (fun txId outpoint => ?_)
  · exact unconfirmed ⟨reply, List.mem_reverse.mp member, confirms⟩
  · rw [rowsAfter_callTrace,rowsAfter_append,rowsAfter_cons,rowsAfter_nil,rowsStep,
      PendingBroadcastRows.holds_clear_iff,holds_submission recorded attempts,submitted.holds,same,
      List.mem_singleton]
    refine and_congr_right fun different => ?_
    rw [or_iff_right (fun own => different own.1.symm)]
    refine or_congr_left ⟨?_, ?_⟩
    · rintro ⟨other, member, owner, inInputs⟩
      rw [← owners] at member
      obtain ⟨⟨other, answers⟩, inEarlier, rfl⟩ := List.mem_map.mp member
      exact ⟨other, answers, List.mem_append_left _ inEarlier, owner, inInputs⟩
    · rintro ⟨other, answers, member, owner, inInputs⟩
      rcases List.mem_append.mp member with member | member
      · exact ⟨other, owners ▸ List.mem_map_of_mem member, owner, inInputs⟩
      · obtain ⟨rfl, rfl⟩ := Prod.mk.inj (List.mem_singleton.mp member)
        exact absurd owner.symm different

theorem runs_submitAndRecordPending
    (run : Runs (submitAndRecordPending wallet submission prepared).run trace outcome) :
    Leaves wallet prepared rows trace := by
  rcases runs_await_iff.mp run with ⟨rfl, -⟩ | ⟨now, rest, rfl, resumed⟩
  · exact .held (by simp) (fun _ _ held => held) (by simp [submissions,answersFrom])
  have each : ∃ outcome first,
      Runs (submitEach wallet submission now first prepared).run rest outcome := by
    rcases Fallible.runs_bind_iff.mp resumed with ⟨rfl, each⟩ | ⟨error, rfl, each⟩ |
      ⟨rfl, error, each⟩ | ⟨first, start, tail, rfl, each, finish⟩
    · exact ⟨_, _, each⟩
    · exact ⟨_, _, each⟩
    · exact ⟨_, _, each⟩
    · have ended : tail = [] := by cases first <;> exact (runs_done_iff.mp finish).1
      exact ⟨_, _, by simpa [ended] using each⟩
  obtain ⟨outcome, first, each⟩ := each
  obtain ⟨sent, later, start, last, rfl, rfl, submitted, stopped⟩ := runs_submitEach each
  change Leaves wallet (sent ++ later) rows (callTrace now start last)
  rcases stopped with rfl | ⟨transaction, others, stopped, rfl, turn⟩
  · have stops : Unsubmitted ⟨0, [], [], 0⟩ [] := .inl rfl
    exact leaves_unsubmitted submitted stops
  cases turn with
  | idle _ => exact leaves_unsubmitted submitted (.inl rfl : Unsubmitted transaction [])
  | unsubmitted owner _ => exact leaves_unsubmitted submitted (.inr ⟨_, _, rfl, owner⟩)
  | submitted recorded attempts =>
    rename_i before after allowed
    have leaves : Leaves wallet (sent ++ transaction :: others) rows
        (callTrace now start (before ++ ⟨.allowCall, allowed⟩ :: after ++ [])) :=
      leaves_submitted submitted recorded attempts (fun _ => rfl) (fun _ => rfl) (by simp)
    rwa [List.append_nil] at leaves
  | failed recorded attempts unconfirmed unfinished =>
    rename_i answer
    cases answer with
    | ok removed => exact leaves_failed submitted recorded attempts unconfirmed
    | error error =>
      exact leaves_submitted submitted recorded attempts (fun _ => rfl) (fun _ => rfl)
        (fun event member => by obtain rfl := List.mem_singleton.mp member; exact id)

/-- The last submission of the call was confirmed, or every attempt for its transaction
was definitely rejected, or the removal of its rows was not carried out. -/
def StopsCleanly (wallet : SpendWallet) (prepared : List PreparedTransaction)
    (trace : List SpendEvent) : Prop :=
  ∀ transaction answers, (submissions prepared trace).getLast? = some (transaction, answers) →
    (∃ reply ∈ answers, Confirms wallet transaction reply) ∨
    (∀ other otherAnswers, (other, otherAnswers) ∈ submissions prepared trace →
      other.txId = transaction.txId → DefinitelyRejected otherAnswers) ∨
    ∀ event ∈ trace, ¬Removes event

/-- For a plan of transactions with transparent inputs, the rows of every broadcast that the
node may hold survive the call exactly when the call stops cleanly. -/
theorem keepsInFlight_iff (wallet : SpendWallet) (submission : SubmissionContext)
    (prepared : List PreparedTransaction) (rows : PendingBroadcastRows) (trace : List SpendEvent)
    (outcome : Option (Except WalletError (TxId × BlockHeight)))
    (transparent : ∀ transaction ∈ prepared, transaction.transparentInputs ≠ [])
    (run : Runs (submitAndRecordPending wallet submission prepared).run trace outcome) :
    KeepsInFlight prepared rows trace ↔ StopsCleanly wallet prepared trace := by
  have owned : ∀ {other answers}, (other, answers) ∈ submissions prepared trace →
      other ∈ prepared := fun member => (List.of_mem_zip member).1
  have leaves : Leaves wallet prepared rows trace := runs_submitAndRecordPending run
  cases leaves with
  | held quiet keeps holds =>
    refine ⟨fun _ _ _ _ => .inr (.inr quiet), fun _ => ⟨?_, ?_⟩⟩
    · exact fun transaction answers member _ => holds transaction answers member
    · exact fun txId outpoint held lost => absurd (keeps txId outpoint held) lost
  | lost earlier transaction answers last member removes unconfirmed holds =>
    have lastSubmission : (transaction, answers) ∈ submissions prepared trace := by simp [last]
    constructor
    · rintro ⟨kept, -⟩ stopped stoppedAnswers stops
      obtain ⟨rfl, rfl⟩ : transaction = stopped ∧ answers = stoppedAnswers := by
        simpa [last] using stops
      refine .inr (.inl fun other otherAnswers inSubmissions sameId => ?_)
      by_contra ambiguous
      obtain ⟨input, inInputs⟩ := List.exists_mem_of_ne_nil _ (transparent other (owned inSubmissions))
      exact ((holds _ _).mp (kept other otherAnswers inSubmissions ambiguous input inInputs)).1 sameId
    · intro clean
      have rejected : ∀ other otherAnswers, (other, otherAnswers) ∈ submissions prepared trace →
          other.txId = transaction.txId → DefinitelyRejected otherAnswers := by
        rcases clean transaction answers (by simp [last]) with ⟨reply, inAnswers, confirms⟩ |
          rejected | quiet
        · exact absurd confirms (unconfirmed reply inAnswers)
        · exact rejected
        · obtain ⟨event, inTrace, removed⟩ := removes
          exact absurd removed (quiet event inTrace)
      refine ⟨fun other otherAnswers inSubmissions ambiguous input inInputs => ?_,
        fun txId outpoint held lost => ?_⟩
      · refine (holds _ _).mpr ⟨fun sameId => ambiguous (rejected other _ inSubmissions sameId), .inl ?_⟩
        exact ⟨other, otherAnswers, inSubmissions, rfl, List.mem_map_of_mem inInputs⟩
      · obtain rfl : txId = transaction.txId := by
          by_contra different
          exact lost ((holds _ _).mpr ⟨different, .inr held⟩)
        exact ⟨⟨transaction, member, rfl⟩, fun other otherAnswers => rejected other otherAnswers⟩

def sampleInput : OutPoint × Zatoshis := (⟨9, 0⟩, ⟨700⟩)

def sampleShield : PreparedTransaction := ⟨1, [1], [sampleInput], 140⟩

def sampleContext : SubmissionContext := ⟨"shield_transparent_funds.submit", ⟨0⟩, some 100⟩

/-- The rows are written and the transaction is handed to the node. -/
def shieldTrace (reply : BroadcastReply) : List SpendEvent :=
  ⟨.currentUnixMs, 0⟩ ::
  ⟨.recordPendingBroadcastInputs ⟨1, ⟨0⟩, 0, some 100, [sampleInput]⟩, .ok ()⟩ ::
  sampleBroadcast 1 reply

/-- The node took the transaction, and the call to it failed. -/
def lostTrace : List SpendEvent :=
  shieldTrace (.failed ⟨.clientError⟩ true) ++
  [⟨.clearPendingBroadcastInputsForMined [1], .ok 1⟩]

theorem lostTrace_runs : Runs (submitAndRecordPending sampleWallet sampleContext [sampleShield]).run
    lostTrace (some (.error (.submitter (.indexer ⟨.clientError⟩)))) := by
  repeat' apply Runs.await
  exact Runs.done

/-- A transport failure after the node took the transaction removes its rows. -/
theorem taken_broadcast_loses_rows :
    ¬∀ (wallet : SpendWallet) (submission : SubmissionContext)
      (prepared : List PreparedTransaction) (rows : PendingBroadcastRows)
      (trace : List SpendEvent) (outcome : Option (Except WalletError (TxId × BlockHeight))),
      (∀ transaction ∈ prepared, transaction.transparentInputs ≠ []) →
      Runs (submitAndRecordPending wallet submission prepared).run trace outcome →
      KeepsInFlight prepared rows trace := by
  intro always
  have keeps := always _ _ _ [] _ _ (by simp [sampleShield]) lostTrace_runs
  obtain ⟨row, member, -, -⟩ := keeps.kept sampleShield [.failed ⟨.clientError⟩ true]
    (by exact List.mem_cons_self) (fun rejected => absurd (rejected _ List.mem_cons_self) (by decide))
    sampleInput List.mem_cons_self
  exact absurd member List.not_mem_nil

theorem acceptedTrace_runs :
    Runs (submitAndRecordPending sampleWallet sampleContext [sampleShield]).run
      (shieldTrace (.accepted 1) ++ [⟨.recordSuccess, ()⟩]) (some (.ok (1, 140))) := by
  repeat' apply Runs.await
  exact Runs.done

theorem accepted_broadcast_keeps_rows :
    KeepsInFlight [sampleShield] [] (shieldTrace (.accepted 1) ++ [⟨.recordSuccess, ()⟩]) := by
  refine (keepsInFlight_iff sampleWallet sampleContext [sampleShield] [] _ _ (by simp [sampleShield])
    acceptedTrace_runs).mpr fun transaction answers last => .inl ?_
  obtain ⟨rfl, rfl⟩ : sampleShield = transaction ∧ [BroadcastReply.accepted 1] = answers :=
    Prod.mk.inj (Option.some.inj last)
  exact ⟨_, List.mem_cons_self, .accepted 1, rfl, rfl⟩

end Zally.Spend
