import Zally.Async.Program
import Zally.Wallet.Error

/-! Bounded retries of a fallible operation behind the wallet's circuit breaker. -/
namespace Zally

open Async Async.Program

structure RetryPolicy where
  maxAttempts : Nat
  initialBackoffMs : Nat
  maxBackoffMs : Nat
  backoffMultiplierX10 : Nat
  deriving DecidableEq, Repr

def RetryPolicy.nextDelayMs (policy : RetryPolicy) (delayMs : Nat) : Nat :=
  min (delayMs * policy.backoffMultiplierX10 / 10) policy.maxBackoffMs

/-- What the retry helper does besides the operation itself: the timer and the breaker,
which other calls of the wallet share. -/
structure RetryPort (C : Type) (R : C → Type) where
  sleep : Nat → Program C R Unit
  allowCall : Program C R Bool
  recordSuccess : Program C R Unit
  recordFailure : Program C R Unit

variable {C : Type} {R : C → Type} {α ε : Type}

/-- The retry loop with `left` attempts after the current one. -/
def retryLoop (port : RetryPort C R) (policy : RetryPolicy) (posture : ε → FailurePosture)
    (operation : Program C R (Except ε α)) : Nat → Nat → Program C R (Except ε α)
  | 0, _ => operation
  | left + 1, delayMs => do
    match ← operation with
    | .ok outcome => return .ok outcome
    | .error error =>
      if (posture error).allowsRetry = false then return .error error
      port.sleep delayMs
      retryLoop port policy posture operation left (policy.nextDelayMs delayMs)

def withRetry (port : RetryPort C R) (policy : RetryPolicy) (posture : ε → FailurePosture)
    (operation : Program C R (Except ε α)) : Program C R (Except ε α) :=
  retryLoop port policy posture operation (policy.maxAttempts - 1) policy.initialBackoffMs

def withBreakerAndRetry (port : RetryPort C R) (policy : RetryPolicy) (operationLabel : String)
    (posture : ε → FailurePosture) (operation : Program C R (Except ε α))
    (liftErr : ε → WalletError) : Fallible C R WalletError α := ExceptT.mk do
  if ← port.allowCall then
    match ← withRetry port policy posture operation with
    | .ok outcome =>
      port.recordSuccess
      return .ok outcome
    | .error error =>
      if (posture error).tripsCircuitBreaker then port.recordFailure
      return .error (liftErr error)
  else return .error (.circuitBroken operationLabel)

/-- The one induction over the attempts of a run: a property of every cut or finished
attempt that a retryable failure and a wait carry backwards holds of the whole run. -/
theorem retryLoop_induction {port : RetryPort C R} {policy : RetryPolicy}
    {posture : ε → FailurePosture} {operation : Program C R (Except ε α)}
    {P : List (Event C R) → Option (Except ε α) → Prop}
    (attempt : ∀ trace outcome, Runs operation trace outcome → P trace outcome)
    (waiting : ∀ trace error delayMs wait, Runs operation trace (some (.error error)) →
      (posture error).allowsRetry = true → Runs (port.sleep delayMs) wait none →
      P (trace ++ wait) none)
    (again : ∀ trace error delayMs wait rest outcome, Runs operation trace (some (.error error)) →
      (posture error).allowsRetry = true → Runs (port.sleep delayMs) wait (some ()) →
      P rest outcome → P (trace ++ (wait ++ rest)) outcome)
    (run : Runs (retryLoop port policy posture operation left delayMs) trace outcome) :
    P trace outcome := by
  induction left generalizing delayMs trace outcome with
  | zero => exact attempt _ _ run
  | succ left ih =>
    rw [retryLoop,Program.runs_bind_iff] at run
    rcases run with ⟨rfl, run⟩ | ⟨result, first, second, rfl, run, rest⟩
    · exact attempt _ _ run
    have dropped : Runs operation first none := run.dropped
    cases result with
    | ok value =>
      obtain ⟨rfl, rfl | rfl⟩ := runs_done_iff.mp rest
      · exact attempt _ _ (by simpa using dropped)
      · exact attempt _ _ (by simpa using run)
    | error error =>
      by_cases retry : (posture error).allowsRetry = false
      · simp only [retry,if_true] at rest
        obtain ⟨rfl, rfl | rfl⟩ := runs_done_iff.mp rest
        · exact attempt _ _ (by simpa using dropped)
        · exact attempt _ _ (by simpa using run)
      · have allowed : (posture error).allowsRetry = true := by simpa using retry
        simp only [retry] at rest
        rcases Program.runs_bind_iff.mp rest with ⟨rfl, wait⟩ | ⟨⟨⟩, wait, tail, rfl, slept, rest⟩
        · exact waiting _ _ _ _ run allowed wait
        · exact again _ _ _ _ _ _ run allowed slept (ih rest)

/-- A run of the loop is a list of failed attempts, each with the wait after it, and a last
attempt whose outcome is the run's. -/
theorem runs_retryLoop {port : RetryPort C R} {policy : RetryPolicy}
    {posture : ε → FailurePosture} {operation : Program C R (Except ε α)}
    (run : Runs (retryLoop port policy posture operation left delayMs) trace outcome) :
    ∃ (failed : List (List (Event C R) × List (Event C R))) (last : List (Event C R)),
      trace = failed.flatMap (fun attempt => attempt.1 ++ attempt.2) ++ last ∧
      (∀ attempt ∈ failed, (∃ error, Runs operation attempt.1 (some (.error error))) ∧
        ∃ delayMs slept, Runs (port.sleep delayMs) attempt.2 slept) ∧
      Runs operation last outcome := by
  refine retryLoop_induction (P := fun trace outcome =>
    ∃ (failed : List (List (Event C R) × List (Event C R))) (last : List (Event C R)),
      trace = failed.flatMap (fun attempt => attempt.1 ++ attempt.2) ++ last ∧
      (∀ attempt ∈ failed, (∃ error, Runs operation attempt.1 (some (.error error))) ∧
        ∃ delayMs slept, Runs (port.sleep delayMs) attempt.2 slept) ∧
      Runs operation last outcome) ?_ ?_ ?_ run
  · intro trace outcome attempt
    exact ⟨[], trace, by simp, by simp, attempt⟩
  · intro trace error delayMs wait attempt _ slept
    exact ⟨[(trace, wait)], [], by simp, by simpa using ⟨⟨error, attempt⟩, delayMs, none, slept⟩, .cut⟩
  · rintro trace error delayMs wait rest outcome attempt - slept ⟨failed, last, rfl, earlier, final⟩
    exact ⟨(trace, wait) :: failed, last, by simp,
      List.forall_mem_cons.mpr ⟨⟨⟨error, attempt⟩, delayMs, some (), slept⟩, earlier⟩, final⟩

/-- What an attempt counts at most once, and a wait does not, counts at most once for each
attempt that the loop has. -/
theorem count_retryLoop {port : RetryPort C R} {policy : RetryPolicy}
    {posture : ε → FailurePosture} {operation : Program C R (Except ε α)}
    {count : List (Event C R) → Nat}
    (adds : ∀ first second, count (first ++ second) = count first + count second)
    (once : ∀ trace outcome, Runs operation trace outcome → count trace ≤ 1)
    (silent : ∀ ms trace slept, Runs (port.sleep ms) trace slept → count trace = 0)
    (run : Runs (retryLoop port policy posture operation left delayMs) trace outcome) :
    count trace ≤ left + 1 := by
  induction left generalizing delayMs trace outcome with
  | zero => exact once _ _ run
  | succ left ih =>
    rw [retryLoop,Program.runs_bind_iff] at run
    rcases run with ⟨-, run⟩ | ⟨result, first, second, rfl, run, rest⟩
    · exact Nat.le_trans (once _ _ run) (Nat.le_add_left 1 _)
    have attempt := once _ _ run
    have finished {value : Except ε α} (rest : Runs (done value : Program C R _) second outcome) :
        count (first ++ second) ≤ left + 1 + 1 := by
      rw [(runs_done_iff.mp rest).1,List.append_nil]
      omega
    cases result with
    | ok value => exact finished rest
    | error error =>
      by_cases stops : (posture error).allowsRetry = false
      · simp only [stops,if_true] at rest
        exact finished rest
      · simp only [stops] at rest
        rw [adds]
        rcases Program.runs_bind_iff.mp rest with ⟨-, wait⟩ | ⟨⟨⟩, wait, tail, rfl, slept, again⟩
        · rw [silent _ _ _ wait]
          omega
        · have later := ih again
          rw [adds,silent _ _ _ slept]
          omega

/-- What the breaker is told after the retries: a success, a tripping failure or nothing. -/
def Settles (port : RetryPort C R) (trace : List (Event C R)) : Prop :=
  trace = [] ∨ (∃ outcome, Runs port.recordSuccess trace outcome) ∨
    ∃ outcome, Runs port.recordFailure trace outcome

/-- A guarded run is stopped at the gate, or is a run of the retries and then tells the
breaker; the retries' result is the caller's, with its error lifted. -/
theorem runs_withBreakerAndRetry {port : RetryPort C R} {posture : ε → FailurePosture}
    {operation : Program C R (Except ε α)}
    (run : Runs (withBreakerAndRetry port policy label posture operation liftErr).run trace outcome) :
    (outcome = none ∧ Runs port.allowCall trace none) ∨
    (Runs port.allowCall trace (some false) ∧
      (outcome = none ∨ outcome = some (.error (.circuitBroken label)))) ∨
    ∃ gate retried settle, trace = gate ++ (retried ++ settle) ∧
      Runs port.allowCall gate (some true) ∧ Settles port settle ∧
      ((outcome = none ∧ Runs (withRetry port policy posture operation) retried none) ∨
      ∃ result, Runs (withRetry port policy posture operation) retried (some result) ∧
        (outcome = none ∨ outcome = some (result.mapError liftErr))) := by
  rcases Program.runs_bind_iff.mp run with ⟨rfl, gate⟩ | ⟨allowed, gate, rest, rfl, first, second⟩
  · exact .inl ⟨rfl, gate⟩
  cases allowed with
  | false =>
    obtain ⟨rfl, finished⟩ := runs_done_iff.mp second
    exact .inr (.inl ⟨by simpa using first, finished⟩)
  | true =>
    simp only [if_true] at second
    rcases Program.runs_bind_iff.mp second with ⟨rfl, cut⟩ | ⟨result, retried, settle, rfl, done, told⟩
    · exact .inr (.inr ⟨gate, rest, [], by simp, first, .inl rfl, .inl ⟨rfl, cut⟩⟩)
    refine .inr (.inr ⟨gate, retried, settle, rfl, first, ?_⟩)
    cases result with
    | ok value =>
      rcases Program.runs_bind_iff.mp told with ⟨rfl, cut⟩ | ⟨⟨⟩, settled, tail, rfl, recorded, rest⟩
      · exact ⟨.inr (.inl ⟨_, cut⟩), .inr ⟨_, done, .inl rfl⟩⟩
      · obtain ⟨rfl, finished⟩ := runs_done_iff.mp rest
        exact ⟨.inr (.inl ⟨_, by simpa using recorded⟩), .inr ⟨_, done, finished⟩⟩
    | error error =>
      simp only [] at told
      split at told
      · rcases Program.runs_bind_iff.mp told with ⟨rfl, cut⟩ | ⟨⟨⟩, settled, tail, rfl, recorded, rest⟩
        · exact ⟨.inr (.inr ⟨_, cut⟩), .inr ⟨_, done, .inl rfl⟩⟩
        · obtain ⟨rfl, finished⟩ := runs_done_iff.mp rest
          exact ⟨.inr (.inr ⟨_, by simpa using recorded⟩), .inr ⟨_, done, finished⟩⟩
      · obtain ⟨rfl, finished⟩ := runs_done_iff.mp told
        exact ⟨.inl rfl, .inr ⟨_, done, finished⟩⟩

/-- The port awaits nothing outside `commands`. -/
structure RetryPort.Within (port : RetryPort C R) (commands : C → Prop) : Prop where
  sleep : ∀ ms, (port.sleep ms).Within commands
  allowCall : port.allowCall.Within commands
  recordSuccess : port.recordSuccess.Within commands
  recordFailure : port.recordFailure.Within commands

theorem within_retryLoop {port : RetryPort C R} {posture : ε → FailurePosture}
    {operation : Program C R (Except ε α)} {commands : C → Prop}
    (waits : ∀ ms, (port.sleep ms).Within commands) (within : operation.Within commands) :
    (retryLoop port policy posture operation left delayMs).Within commands := by
  induction left generalizing delayMs with
  | zero => exact within
  | succ left ih =>
    refine within.bind fun result => ?_
    cases result with
    | ok value => trivial
    | error error =>
      simp only []
      split
      · trivial
      · exact (waits _).bind fun _ => ih

theorem within_withBreakerAndRetry {port : RetryPort C R} {posture : ε → FailurePosture}
    {operation : Program C R (Except ε α)} {commands : C → Prop}
    (waits : port.Within commands) (within : operation.Within commands) :
    (withBreakerAndRetry port policy label posture operation liftErr).run.Within commands := by
  refine waits.allowCall.bind fun allowed => ?_
  split
  · refine (within_retryLoop waits.sleep within).bind fun result => ?_
    cases result with
    | ok value => exact waits.recordSuccess.bind fun _ => trivial
    | error error =>
      simp only []
      split
      · exact waits.recordFailure.bind fun _ => trivial
      · trivial
  · trivial

section Follows

variable {σ : Type} {allows : σ → C → Prop} {next : σ → Event C R → σ} {commands : C → Prop}
  {port : RetryPort C R} {posture : ε → FailurePosture} {operation : Program C R (Except ε α)}

theorem follows_retryLoop (waits : port.Within commands)
    (allowed : ∀ phase command, commands command → allows phase command)
    (follows : ∀ phase, operation.Follows allows next (fun _ _ => True) phase) :
    (retryLoop port policy posture operation left delayMs).Follows allows next
      (fun _ _ => True) phase := by
  induction left generalizing delayMs phase with
  | zero => exact follows phase
  | succ left ih =>
    refine (follows phase).bind fun phase result _ => ?_
    cases result with
    | ok value => trivial
    | error error =>
      simp only []
      split
      · trivial
      · exact ((waits.sleep _).follows allowed).bind fun _ _ _ => ih

/-- Every attempt of a guarded run starts in the phase that the one before it ended in. -/
theorem follows_withBreakerAndRetry (waits : port.Within commands)
    (allowed : ∀ phase command, commands command → allows phase command)
    (follows : ∀ phase, operation.Follows allows next (fun _ _ => True) phase) :
    (withBreakerAndRetry port policy label posture operation liftErr).run.Follows allows next
      (fun _ _ => True) phase := by
  refine (waits.allowCall.follows allowed).bind fun phase answer _ => ?_
  split
  · refine (follows_retryLoop waits allowed follows).bind fun phase result _ => ?_
    cases result with
    | ok value => exact (waits.recordSuccess.follows allowed).bind fun _ _ _ => trivial
    | error error =>
      simp only []
      split
      · exact (waits.recordFailure.follows allowed).bind fun _ _ _ => trivial
      · trivial
  · trivial

end Follows
end Zally
