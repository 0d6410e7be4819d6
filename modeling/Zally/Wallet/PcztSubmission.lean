import Zally.Wallet.InFlight
import Zally.Wallet.Spend

/-! The extraction of a finalized PCZT, and its broadcast: nothing reaches the node before the
transaction is stored, and success means that the node holds it. -/
namespace Zally.Spend

open Async Async.Program Outcome

/-- The fee and the height of the broadcast are not known here. -/
def translateSubmitOutcome (outcome : SubmitOutcome) (expectedTxId : TxId)
    (txExpiryHeight : BlockHeight) : Except WalletError SendOutcome :=
  match outcome with
  | .accepted txId | .duplicate txId | .queued txId =>
    if txId ≠ expectedTxId then .error (.submittedTransactionIdMismatch expectedTxId txId)
    else .ok ⟨⟨txId, .zero, txExpiryHeight⟩, ⟨txId, 0⟩⟩
  | .rejected reason detail => .error (.submissionRejected reason detail)

def submitExtracted (wallet : SpendWallet) (prepared : PreparedTransaction) : SpendM SubmitOutcome :=
  withBreakerAndRetry port wallet.broadcastRetryPolicy "extract_and_submit_pczt.submit"
    SubmitterError.posture (submit wallet prepared.rawBytes).run .submitter

def extractAndSubmitPczt (wallet : SpendWallet) (pczt : PcztBytes) : SpendM SendOutcome := do
  check (validatePcztNetwork pczt.network wallet.network)
  if wallet.submitterNetwork ≠ wallet.network then
    throw (.networkMismatch wallet.network wallet.submitterNetwork)
  else do
    let prepared ← Fallible.call .ofStorage (ask (.extractAndStorePczt pczt.bytes))
    let outcome ← submitExtracted wallet prepared
    check (translateSubmitOutcome outcome prepared.txId prepared.txExpiryHeight)

/-- The refusal of a call whose networks differ: the PCZT's from the wallet's, or else the
submitter's. -/
def Mismatched (wallet : SpendWallet) (pczt : PcztBytes) (error : WalletError) : Prop :=
  (pczt.network ≠ wallet.network ∧ error = .networkMismatch wallet.network pczt.network) ∨
    (pczt.network = wallet.network ∧ wallet.submitterNetwork ≠ wallet.network ∧
      error = .networkMismatch wallet.network wallet.submitterNetwork)

/-- The events after the extraction: attempts to broadcast the stored transaction, no more than the
policy allows, and a success exactly where the node said that it holds it. -/
structure BroadcastsStored (wallet : SpendWallet) (prepared : PreparedTransaction)
    (trace : List SpendEvent) (outcome : Option (Except WalletError SendOutcome)) : Prop where
  own : ∀ event ∈ trace, event.command = .allowCall ∨ Attempts prepared.rawBytes event.command
  bounded : (replies trace).length ≤ max 1 wallet.retryPolicy.maxAttempts
  sent : ∀ result, outcome = some result →
    ((∃ sent, result = .ok sent) ↔ Confirmed wallet prepared trace)
  names : ∀ sent, outcome = some (.ok sent) → sent.signed.txId = prepared.txId ∧
    sent.broadcast.txId = prepared.txId ∧ sent.signed.txExpiryHeight = prepared.txExpiryHeight
  held : ∀ sent, outcome = some (.ok sent) → ∃ reply ∈ replies trace, reply.taken = true

section Submission

variable {wallet : SpendWallet} {prepared : PreparedTransaction}

theorem translateSubmitOutcome_ok_iff :
    translateSubmitOutcome outcome expectedTxId txExpiryHeight = .ok sent ↔
      resolveSendOutcome outcome expectedTxId = .ok expectedTxId ∧
      sent = ⟨⟨expectedTxId, .zero, txExpiryHeight⟩, ⟨expectedTxId, 0⟩⟩ := by
  have named (txId : TxId) :
      (if txId ≠ expectedTxId then .error (.submittedTransactionIdMismatch expectedTxId txId)
        else .ok ⟨⟨txId, .zero, txExpiryHeight⟩, ⟨txId, 0⟩⟩ : Except WalletError SendOutcome) =
          .ok sent ↔
        (if txId ≠ expectedTxId then .error (.submittedTransactionIdMismatch expectedTxId txId)
          else .ok txId : Except WalletError TxId) = .ok expectedTxId ∧
        sent = ⟨⟨expectedTxId, .zero, txExpiryHeight⟩, ⟨expectedTxId, 0⟩⟩ := by
    by_cases same : txId = expectedTxId
    · subst same
      simp [eq_comm]
    · simp [same]
  cases outcome with
  | accepted txId => exact named txId
  | duplicate txId => exact named txId
  | queued txId => exact named txId
  | rejected reason detail => exact iff_of_false nofun fun ⟨same, _⟩ => nomatch same

/-- Only a node that holds the transaction is taken to have confirmed it. -/
theorem taken_of_confirms (confirms : Confirms wallet prepared reply) : reply.taken = true := by
  obtain ⟨outcome, reported, resolved⟩ := confirms
  rw [submitResult] at reported
  cases answered : reply.answer with
  | error error => simp [answered] at reported
  | ok told =>
    simp only [answered] at reported
    refine reply.admitted told answered ?_
    cases told with
    | accepted | duplicate | queued => rfl
    | invalidEncoding | rejected | unknown =>
      obtain rfl := Except.ok.inj reported
      cases resolved
    | unsupported => cases reported

/-- A submission that returns was answered with what it returns. -/
theorem reply_of_submit (run : Runs (submit wallet rawTx).run trace (some (.ok value))) :
    ∃ reply ∈ replies trace, submitResult wallet rawTx reply = .ok value := by
  rcases runs_submit run with ⟨-, unfinished⟩ | ⟨start, reply, rfl, quiet, finished⟩
  · exact absurd rfl (unfinished value)
  · refine ⟨reply, ?_, by simpa [eq_comm] using finished⟩
    rw [replies_append]
    exact List.mem_append_right _ List.mem_cons_self

theorem replies_submit (run : Runs (submit wallet rawTx).run trace outcome) :
    (replies trace).length ≤ 1 := by
  rcases runs_submit run with ⟨quiet, -⟩ | ⟨start, reply, rfl, quiet, -⟩
  · rw [replies_quiet quiet]
    exact Nat.zero_le 1
  · rw [replies_append,replies_quiet quiet]
    exact Nat.le_refl 1

theorem replies_sleep (run : Runs (port.sleep ms) trace slept) : replies trace = [] :=
  replies_quiet (run.within ⟨trivial, fun _ => trivial⟩)

theorem reply_of_retry
    (run : Runs (withRetry port policy SubmitterError.posture (submit wallet rawTx).run) trace
      (some (.ok value))) : ∃ reply ∈ replies trace, submitResult wallet rawTx reply = .ok value := by
  refine retryLoop_induction (P := fun trace outcome => outcome = some (.ok value) →
    ∃ reply ∈ replies trace, submitResult wallet rawTx reply = .ok value) ?_ ?_ ?_ run rfl
  · rintro trace outcome attempt rfl
    exact reply_of_submit attempt
  · exact fun _ _ _ _ _ _ _ unfinished => nomatch unfinished
  · intro trace error delayMs wait rest outcome _ _ _ later finished
    obtain ⟨reply, member, answered⟩ := later finished
    refine ⟨reply, ?_, answered⟩
    rw [replies_append,replies_append]
    exact List.mem_append_right _ (List.mem_append_right _ member)

theorem length_replies_append (first second : List SpendEvent) :
    (replies (first ++ second)).length = (replies first).length + (replies second).length := by
  rw [replies_append,List.length_append]

theorem replies_retry
    (run : Runs (withRetry port policy SubmitterError.posture (submit wallet rawTx).run) trace
      outcome) : (replies trace).length ≤ max 1 policy.maxAttempts := by
  have counted := count_retryLoop length_replies_append (fun _ _ => replies_submit)
    (fun _ _ _ wait => List.length_eq_zero_iff.mpr (replies_sleep wait)) run
  omega

/-- A guarded submission that returns was answered with what it returns, after as many broadcasts
as the policy allows at most. -/
theorem replies_guarded
    (run : Runs (withBreakerAndRetry port policy label SubmitterError.posture
      (submit wallet rawTx).run .submitter).run trace outcome) :
    (replies trace).length ≤ max 1 policy.maxAttempts ∧
      ∀ value, outcome = some (.ok value) →
        ∃ reply ∈ replies trace, submitResult wallet rawTx reply = .ok value := by
  have gated {gate : List SpendEvent} {allowed : Option Bool} (run : Runs (ask .allowCall) gate allowed) :
      replies gate = [] := by
    rcases runs_perform_iff.mp run with ⟨rfl, -⟩ | ⟨answer, rfl, -⟩ <;> rfl
  rcases runs_withBreakerAndRetry run with ⟨rfl, gate⟩ | ⟨gate, stopped⟩ |
    ⟨gate, retried, settle, rfl, opened, settles, retries⟩
  · rw [gated gate]
    exact ⟨Nat.zero_le _, nofun⟩
  · rw [gated gate]
    refine ⟨Nat.zero_le _, fun value finished => ?_⟩
    rcases stopped with rfl | rfl <;> cases finished
  · rw [replies_append,replies_append,gated opened,replies_quiet (settles_attempts settles),
      List.nil_append,List.append_nil]
    rcases retries with ⟨rfl, cut⟩ | ⟨result, ran, ended⟩
    · exact ⟨replies_retry cut, nofun⟩
    · refine ⟨replies_retry ran, fun value finished => ?_⟩
      rcases ended with rfl | rfl
      · cases finished
      · cases result with
        | error error => cases finished
        | ok found =>
          obtain rfl : found = value := by simpa [Except.mapError] using finished
          exact reply_of_retry ran

theorem own_guarded
    (run : Runs (withBreakerAndRetry port policy label SubmitterError.posture
      (submit wallet prepared.rawBytes).run .submitter).run trace outcome) :
    (∀ event ∈ trace, event.command = .allowCall ∨ Attempts prepared.rawBytes event.command) ∧
      ∀ result, outcome = some result → Confirmed wallet prepared trace → Resolved prepared result := by
  rcases runs_guarded run with ⟨rfl, rfl⟩ | ⟨allowed, attempts, rfl, own, resolves⟩
  · exact ⟨by simp, by simp⟩
  · constructor
    · intro event member
      rcases List.mem_cons.mp member with rfl | member
      · exact .inl rfl
      · exact .inr (own event member)
    · rintro result returned ⟨reply, member, confirms⟩
      exact resolves result returned ⟨reply, member, confirms⟩

/-- After the extraction the run is one of the guarded submission, whose outcome is translated. -/
theorem broadcastsStored
    (run : Runs (submitExtracted wallet prepared >>= fun outcome => check
      (translateSubmitOutcome outcome prepared.txId prepared.txExpiryHeight)).run trace outcome) :
    BroadcastsStored wallet prepared trace outcome := by
  have unreturned {trace : List SpendEvent} {guarded : Option (Except WalletError SubmitOutcome)}
      (ran : Runs (submitExtracted wallet prepared).run trace guarded) :
      BroadcastsStored wallet prepared trace none :=
    ⟨(own_guarded ran).1, (replies_guarded ran).1, nofun, nofun, nofun⟩
  rcases Fallible.runs_bind_iff.mp run with ⟨rfl, ran⟩ | ⟨error, rfl, ran⟩ | ⟨rfl, error, ran⟩ |
    ⟨value, first, second, rfl, ran, translated⟩
  · exact unreturned ran
  · refine ⟨(own_guarded ran).1, (replies_guarded ran).1, ?_, nofun, nofun⟩
    rintro result ⟨⟩
    refine iff_of_false nofun fun confirmed => ?_
    obtain ⟨outcome, returned, -⟩ := (own_guarded ran).2 _ rfl confirmed
    cases returned
  · exact unreturned ran
  obtain ⟨rfl, rfl | rfl⟩ := runs_done_iff.mp translated
  · rw [List.append_nil]
    exact unreturned ran
  rw [List.append_nil]
  obtain ⟨bounded, answered⟩ := replies_guarded ran
  obtain ⟨reply, member, reported⟩ := answered value rfl
  have confirms {sent : SendOutcome} (translated : translateSubmitOutcome value prepared.txId
      prepared.txExpiryHeight = .ok sent) : Confirms wallet prepared reply :=
    ⟨value, reported, (translateSubmitOutcome_ok_iff.mp translated).1⟩
  refine ⟨(own_guarded ran).1, bounded, ?_, ?_, ?_⟩
  · rintro result ⟨⟩
    constructor
    · exact fun ⟨sent, translated⟩ => ⟨reply, member, confirms translated⟩
    · intro confirmed
      obtain ⟨outcome, returned, resolved⟩ := (own_guarded ran).2 _ rfl confirmed
      obtain rfl := Except.ok.inj returned
      exact ⟨_, translateSubmitOutcome_ok_iff.mpr ⟨resolved, rfl⟩⟩
  · intro sent returned
    obtain ⟨-, rfl⟩ := translateSubmitOutcome_ok_iff.mp (Option.some.inj returned)
    exact ⟨rfl, rfl, rfl⟩
  · exact fun sent returned =>
      ⟨reply, member, taken_of_confirms (confirms (Option.some.inj returned))⟩

end Submission

/-- Every run of the call: it is cut before its first effect, it refuses networks that differ, the
extraction fails, or the transaction is stored and then broadcast. -/
theorem extractAndSubmit_broadcasts (run : Runs (extractAndSubmitPczt wallet pczt).run trace outcome) :
    (trace = [] ∧
        (outcome = none ∨ ∃ error, outcome = some (.error error) ∧ Mismatched wallet pczt error)) ∨
      (pczt.network = wallet.network ∧ wallet.submitterNetwork = wallet.network) ∧
      ∃ answer rest, trace = ⟨.extractAndStorePczt pczt.bytes, answer⟩ :: rest ∧
        match answer with
        | .error error => rest = [] ∧ (outcome = none ∨ outcome = some (.error (.ofStorage error)))
        | .ok prepared => BroadcastsStored wallet prepared rest outcome := by
  have refused {error : WalletError} (mismatch : Mismatched wallet pczt error)
      (thrown : Runs (.done (.error error) : Program SpendCommand SpendCommand.Answer
        (Except WalletError SendOutcome)) trace outcome) : trace = [] ∧
      (outcome = none ∨ ∃ error, outcome = some (.error error) ∧ Mismatched wallet pczt error) := by
    obtain ⟨rfl, ended⟩ := runs_done_iff.mp thrown
    exact ⟨rfl, ended.imp_right fun same => ⟨error, same, mismatch⟩⟩
  by_cases network : pczt.network = wallet.network
  · rw [extractAndSubmitPczt,validatePcztNetwork,if_pos network] at run
    change Runs (if wallet.submitterNetwork ≠ wallet.network then _ else _ : SpendM SendOutcome).run
      trace outcome at run
    split at run
    · rename_i submitter
      exact .inl (refused (.inr ⟨network, submitter, rfl⟩) run)
    · rename_i submitter
      rw [Fallible.run_call_bind] at run
      rcases runs_await_iff.mp run with ⟨rfl, rfl⟩ | ⟨answer, rest, rfl, ran⟩
      · exact .inl ⟨rfl, .inl rfl⟩
      · refine .inr ⟨⟨network, not_not.mp submitter⟩, answer, rest, rfl, ?_⟩
        cases answer with
        | error error => exact runs_done_iff.mp ran
        | ok prepared => exact broadcastsStored ran
  · rw [extractAndSubmitPczt,validatePcztNetwork,if_neg network] at run
    exact .inl (refused (.inl ⟨network, rfl⟩) run)

section Sample

def sampleExtracted : PreparedTransaction := ⟨1, [1], [], 140⟩

def samplePczt : PcztBytes := ⟨[7], .mainnet⟩

/-- The node takes the transaction at the first attempt. -/
def sampleSubmission : List SpendEvent :=
  ⟨.extractAndStorePczt [7], .ok sampleExtracted⟩ ::
    (sampleBroadcast 1 (.accepted 1) ++ [⟨.recordSuccess, ()⟩])

theorem sampleSubmission_broadcasts : BroadcastsStored sampleWallet sampleExtracted
    (sampleBroadcast 1 (.accepted 1) ++ [⟨.recordSuccess, ()⟩])
    (some (.ok ⟨⟨1, .zero, 140⟩, ⟨1, 0⟩⟩)) := by
  have run : Runs (extractAndSubmitPczt sampleWallet samplePczt).run sampleSubmission
      (some (.ok ⟨⟨1, .zero, 140⟩, ⟨1, 0⟩⟩)) := by
    repeat' apply Runs.await
    exact Runs.done
  rcases extractAndSubmit_broadcasts run with ⟨unextracted, -⟩ | ⟨-, answer, rest, same, stored⟩
  · cases unextracted
  · cases same
    exact stored

end Sample

end Zally.Spend
