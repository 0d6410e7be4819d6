import Mathlib.Order.Bounds.Defs
import Zally.Wallet.Retry

/-! The retry loop over its fixed-width counters, for any sequence of outcomes. The cap of a
policy holds for every wait but the first. -/
namespace Zally

open Async Async.Program

/-- The policy as the wallet is configured with it. -/
structure RetryPolicyU32 where
  maxAttempts : UInt32
  initialBackoffMs : UInt32
  maxBackoffMs : UInt32
  backoffMultiplierX10 : UInt32
  deriving DecidableEq

/-- The policy in numbers without a width. -/
def RetryPolicyU32.exact (policy : RetryPolicyU32) : RetryPolicy :=
  ⟨policy.maxAttempts.toNat, policy.initialBackoffMs.toNat, policy.maxBackoffMs.toNat,
    policy.backoffMultiplierX10.toNat⟩

/-- The attempts a policy allows; the first is always made. -/
def RetryPolicyU32.allowed (policy : RetryPolicyU32) : Nat := max 1 policy.maxAttempts.toNat

inductive RetryEvent (ε α : Type) where
  | call (outcome : Except ε α)
  | sleep (ms : UInt32)

/-- What a run did and returned, and whether an operation on its numbers was cut off. -/
structure RetryRun (ε α : Type) where
  events : List (RetryEvent ε α)
  result : Except ε α
  cutOff : Bool

variable {ε α : Type}

def RetryEvent.isCall : RetryEvent ε α → Bool
  | .call _ => true
  | .sleep _ => false

/-- How often the operation was called. -/
def RetryRun.calls (run : RetryRun ε α) : Nat := run.events.countP RetryEvent.isCall

namespace RetryAttempts

def saturatingSucc (count : UInt32) : UInt32 × Bool :=
  if count.toNat + 1 < 0x100000000 then (count + 1, false) else (count, true)

def saturatingMul (left right : UInt64) : UInt64 × Bool :=
  if left.toNat * right.toNat < 0x10000000000000000 then (left * right, false)
  else (.ofNat 0xFFFFFFFFFFFFFFFF, true)

def tryFromOr (fallback : UInt32) (value : UInt64) : UInt32 × Bool :=
  if value.toNat < 0x100000000 then (value.toUInt32, false) else (fallback, true)

def nextDelayMs (policy : RetryPolicyU32) (delayMs : UInt32) : UInt32 × Bool :=
  let product := saturatingMul delayMs.toUInt64 policy.backoffMultiplierX10.toUInt64
  let next := product.1 / 10
  let delay := tryFromOr policy.maxBackoffMs (min next policy.maxBackoffMs.toUInt64)
  (delay.1, product.2 || delay.2)

/-- The rounds of the loop from the `index`th outcome on. -/
def attemptsFrom (policy : RetryPolicyU32) (posture : ε → FailurePosture)
    (outcomes : Nat → Except ε α) (attempts delayMs : UInt32) (index : Nat) : RetryRun ε α :=
  match outcomes index with
  | .ok outcome => ⟨[.call (.ok outcome)], .ok outcome, (saturatingSucc attempts).2⟩
  | .error error =>
    if ended : (posture error).allowsRetry = false ∨
        (saturatingSucc attempts).1 ≥ policy.maxAttempts then
      ⟨[.call (.error error)], .error error, (saturatingSucc attempts).2⟩
    else
      let next := nextDelayMs policy delayMs
      let rest := attemptsFrom policy posture outcomes (saturatingSucc attempts).1 next.1 (index + 1)
      ⟨.call (.error error) :: .sleep delayMs :: rest.events, rest.result,
        (saturatingSucc attempts).2 || next.2 || rest.cutOff⟩
termination_by policy.maxAttempts.toNat - attempts.toNat
decreasing_by
  have continues := (not_or.mp ended).2
  rw [ge_iff_le,UInt32.le_iff_toNat_le] at continues
  have bound := policy.maxAttempts.toNat_lt
  unfold saturatingSucc at continues ⊢
  split
  · rename_i fits
    have succ : (attempts + 1).toNat = attempts.toNat + 1 := by
      rw [UInt32.toNat_add]
      exact Nat.mod_eq_of_lt fits
    rw [if_pos fits] at continues
    dsimp only at continues ⊢
    omega
  · rename_i full
    rw [if_neg full] at continues
    dsimp only at continues ⊢
    omega

def withRetry (policy : RetryPolicyU32) (posture : ε → FailurePosture)
    (outcomes : Nat → Except ε α) : RetryRun ε α :=
  attemptsFrom policy posture outcomes 0 policy.initialBackoffMs 0

theorem saturatingSucc_eq (fits : count.toNat + 1 < 0x100000000) :
    (saturatingSucc count).2 = false ∧ (saturatingSucc count).1.toNat = count.toNat + 1 := by
  rw [saturatingSucc,if_pos fits]
  refine ⟨rfl, ?_⟩
  rw [UInt32.toNat_add]
  exact Nat.mod_eq_of_lt fits

theorem toNat_min (left right : UInt64) : (min left right).toNat = min left.toNat right.toNat := by
  change (if left ≤ right then left else right).toNat = _
  split
  · rename_i le
    rw [Nat.min_eq_left (UInt64.le_iff_toNat_le.mp le)]
  · rename_i greater
    rw [UInt64.le_iff_toNat_le] at greater
    rw [Nat.min_eq_right (Nat.le_of_not_le greater)]

/-- The next wait is the exact one, and nothing is cut off on the way. -/
theorem nextDelayMs_eq (policy : RetryPolicyU32) (delayMs : UInt32) :
    (nextDelayMs policy delayMs).2 = false ∧
      (nextDelayMs policy delayMs).1.toNat = policy.exact.nextDelayMs delayMs.toNat := by
  have fits : delayMs.toNat * policy.backoffMultiplierX10.toNat < 0x10000000000000000 := by
    have bound := Nat.mul_lt_mul'' delayMs.toNat_lt policy.backoffMultiplierX10.toNat_lt
    rwa [← Nat.pow_add] at bound
  have product : saturatingMul delayMs.toUInt64 policy.backoffMultiplierX10.toUInt64 =
      (delayMs.toUInt64 * policy.backoffMultiplierX10.toUInt64, false) := by
    rw [saturatingMul,UInt32.toNat_toUInt64,UInt32.toNat_toUInt64,if_pos fits]
  have capped : (min (delayMs.toUInt64 * policy.backoffMultiplierX10.toUInt64 / 10)
      policy.maxBackoffMs.toUInt64).toNat = policy.exact.nextDelayMs delayMs.toNat := by
    rw [toNat_min,UInt64.toNat_div,UInt64.toNat_mul,UInt32.toNat_toUInt64,UInt32.toNat_toUInt64,
      UInt32.toNat_toUInt64,Nat.mod_eq_of_lt fits]
    rfl
  have small : policy.exact.nextDelayMs delayMs.toNat < 0x100000000 :=
    Nat.lt_of_le_of_lt (Nat.min_le_right _ _) policy.maxBackoffMs.toNat_lt
  rw [nextDelayMs,product]
  dsimp only
  rw [tryFromOr,capped,if_pos small,UInt64.toNat_toUInt32,capped]
  exact ⟨rfl, Nat.mod_eq_of_lt small⟩

/-- A success, or a failure that does not allow a retry. -/
def Stops (posture : ε → FailurePosture) (outcome : Except ε α) : Prop :=
  ∀ error, outcome = .error error → (posture error).allowsRetry = false

@[simp] theorem stops_ok (posture : ε → FailurePosture) (value : α) : Stops posture (.ok value) := by
  intro error failed
  cases failed

@[simp] theorem stops_error_iff {posture : ε → FailurePosture} :
    Stops posture (.error error : Except ε α) ↔ (posture error).allowsRetry = false := by
  refine ⟨fun stops => stops error rfl, fun refused other failed => ?_⟩
  rwa [← Except.error.inj failed]

variable {policy : RetryPolicyU32} {posture : ε → FailurePosture} {outcomes : Nat → Except ε α}

/-- What one round does: it ends the loop, or waits and goes on. -/
theorem attemptsFrom_cases {attempts : UInt32} {index : Nat} (delayMs : UInt32)
    (counted : attempts.toNat = index)
    (room : index < policy.allowed) :
    ((Stops posture (outcomes index) ∨ index + 1 = policy.allowed) ∧
      attemptsFrom policy posture outcomes attempts delayMs index =
        ⟨[.call (outcomes index)], outcomes index, false⟩) ∨
    (¬Stops posture (outcomes index) ∧ index + 1 < policy.allowed ∧ ∃ next delay : UInt32,
      next.toNat = index + 1 ∧ delay.toNat = policy.exact.nextDelayMs delayMs.toNat ∧
      attemptsFrom policy posture outcomes attempts delayMs index =
        ⟨.call (outcomes index) :: .sleep delayMs ::
            (attemptsFrom policy posture outcomes next delay (index + 1)).events,
          (attemptsFrom policy posture outcomes next delay (index + 1)).result,
          (attemptsFrom policy posture outcomes next delay (index + 1)).cutOff⟩) := by
  have bound := policy.maxAttempts.toNat_lt
  have allowed : policy.allowed = max 1 policy.maxAttempts.toNat := rfl
  obtain ⟨exact, succ⟩ := @saturatingSucc_eq attempts (by omega)
  obtain ⟨uncut, delay⟩ := nextDelayMs_eq policy delayMs
  rw [attemptsFrom]
  split
  · rename_i outcome succeeded
    rw [succeeded,exact]
    exact .inl ⟨.inl (stops_ok posture outcome), rfl⟩
  · rename_i error failed
    rw [failed,stops_error_iff]
    split
    · rename_i ended
      refine .inl ⟨?_, by rw [exact]⟩
      rcases ended with refused | last
      · exact .inl refused
      · right
        rw [ge_iff_le,UInt32.le_iff_toNat_le] at last
        omega
    · rename_i continues
      obtain ⟨retries, more⟩ := not_or.mp continues
      rw [ge_iff_le,UInt32.le_iff_toNat_le] at more
      refine .inr ⟨retries, by omega, (saturatingSucc attempts).1,
        (nextDelayMs policy delayMs).1, ?_, delay, ?_⟩
      · rw [succ,counted]
      · rw [exact]
        dsimp only
        rw [uncut,Bool.or_false,Bool.false_or]

/-- The waits of exact arithmetic, the next one first. -/
def delaysFrom (policy : RetryPolicy) : (delayMs count : Nat) → List Nat
  | _, 0 => []
  | delayMs, count + 1 => delayMs :: delaysFrom policy (policy.nextDelayMs delayMs) count

/-- The outcomes from `index` on, with one wait between any two calls. -/
def interleaved (outcomes : Nat → Except ε α) : Nat → List UInt32 → List (RetryEvent ε α)
  | index, [] => [.call (outcomes index)]
  | index, ms :: waits => .call (outcomes index) :: .sleep ms :: interleaved outcomes (index + 1) waits

/-- What the rounds from `index` on do, with the waits between them. -/
structure Rounds (policy : RetryPolicyU32) (posture : ε → FailurePosture)
    (outcomes : Nat → Except ε α) (index : Nat) (delayMs : UInt32) (waits : List UInt32)
    (run : RetryRun ε α) : Prop where
  events : run.events = interleaved outcomes index waits
  result : run.result = outcomes (index + waits.length)
  exact : run.cutOff = false
  delays : waits.map UInt32.toNat = delaysFrom policy.exact delayMs.toNat waits.length
  going : ∀ round < waits.length, ¬Stops posture (outcomes (index + round))
  within : index + waits.length < policy.allowed
  ended : Stops posture (outcomes (index + waits.length)) ∨
    index + waits.length + 1 = policy.allowed

theorem rounds_attemptsFrom {attempts : UInt32} (delayMs : UInt32)
    (counted : attempts.toNat = index) (room : index + left = policy.allowed) (some : 0 < left) :
    ∃ waits, Rounds policy posture outcomes index delayMs waits
      (attemptsFrom policy posture outcomes attempts delayMs index) := by
  induction left generalizing attempts delayMs index with
  | zero => cases some
  | succ left ih =>
    rcases @attemptsFrom_cases _ _ policy posture outcomes attempts index delayMs counted (by omega)
      with ⟨ended, run⟩ | ⟨going, more, next, delay, advanced, scaled, run⟩
    · rw [run]
      exact ⟨[], rfl, rfl, rfl, rfl, by simp, by simpa using by omega, by simpa using ended⟩
    · obtain ⟨waits, rest⟩ := ih delay advanced (by omega) (by omega)
      rw [run]
      refine ⟨delayMs :: waits, ?_, ?_, rest.exact, ?_, ?_, ?_, ?_⟩
      · rw [rest.events]
        rfl
      · rw [rest.result,List.length_cons,Nat.add_assoc,Nat.add_comm 1]
      · rw [List.map_cons,rest.delays,scaled]
        rfl
      · intro round before
        cases round with
        | zero => exact going
        | succ round =>
          rw [← Nat.add_assoc,Nat.add_right_comm]
          exact rest.going round (Nat.lt_of_succ_lt_succ before)
      · have within := rest.within
        rw [List.length_cons]
        omega
      · have ended := rest.ended
        rw [List.length_cons,← Nat.add_assoc,Nat.add_right_comm index]
        exact ended

theorem countP_interleaved (outcomes : Nat → Except ε α) (index : Nat) (waits : List UInt32) :
    (interleaved outcomes index waits).countP RetryEvent.isCall = waits.length + 1 := by
  induction waits generalizing index with
  | nil => rfl
  | cons ms waits ih =>
    rw [interleaved,List.countP_cons_of_pos rfl,List.countP_cons_of_neg (by simp [RetryEvent.isCall]),
      ih,List.length_cons]

theorem sleep_mem_interleaved {waits : List UInt32} :
    .sleep ms ∈ interleaved outcomes index waits ↔ ms ∈ waits := by
  induction waits generalizing index with
  | nil => simp [interleaved]
  | cons other waits ih => simp [interleaved,ih]

/-- A delay within the cap stays within it. -/
theorem delaysFrom_le {policy : RetryPolicy} (capped : delayMs ≤ policy.maxBackoffMs) :
    ∀ delay ∈ delaysFrom policy delayMs count, delay ≤ policy.maxBackoffMs := by
  induction count generalizing delayMs with
  | zero => simp [delaysFrom]
  | succ count ih =>
    intro delay member
    rcases List.mem_cons.mp member with rfl | later
    · exact capped
    · exact ih (Nat.min_le_right _ _) delay later

/-- What is promised of a run: as many calls as needed and allowed, the result of the last of
them, one wait between two calls, no wait above the cap, and nothing cut off. -/
structure Contract (policy : RetryPolicyU32) (posture : ε → FailurePosture)
    (outcomes : Nat → Except ε α) (run : RetryRun ε α) : Prop where
  calls : IsLeast { count | 1 ≤ count ∧
    (Stops posture (outcomes (count - 1)) ∨ count = policy.allowed) } run.calls
  result : run.result = outcomes (run.calls - 1)
  waits : ∃ waits, run.events = interleaved outcomes 0 waits ∧ run.calls = waits.length + 1
  capped : ∀ ms, .sleep ms ∈ run.events → ms ≤ policy.maxBackoffMs
  exact : run.cutOff = false

theorem rounds_withRetry (policy : RetryPolicyU32) (posture : ε → FailurePosture)
    (outcomes : Nat → Except ε α) : ∃ waits, Rounds policy posture outcomes 0
      policy.initialBackoffMs waits (withRetry policy posture outcomes) :=
  rounds_attemptsFrom _ rfl (Nat.zero_add _) (Nat.le_max_left _ _)

theorem Rounds.calls_eq (rounds : Rounds policy posture outcomes 0 delayMs waits run) :
    run.calls = waits.length + 1 := by
  rw [RetryRun.calls,rounds.events,countP_interleaved]

theorem Rounds.isLeast (rounds : Rounds policy posture outcomes 0 delayMs waits run) :
    IsLeast { count | 1 ≤ count ∧
      (Stops posture (outcomes (count - 1)) ∨ count = policy.allowed) } run.calls := by
  have ended := rounds.ended
  have within := rounds.within
  rw [Nat.zero_add] at ended within
  rw [rounds.calls_eq]
  refine ⟨⟨Nat.le_add_left _ _, ended⟩, ?_⟩
  rintro count ⟨some, stops | all⟩
  · by_contra fewer
    have going := rounds.going (count - 1) (by omega)
    rw [Nat.zero_add] at going
    exact going stops
  · omega

/-- No wait comes before a second call, and that is made when it is allowed and needed. -/
theorem Rounds.waits_nil_iff (rounds : Rounds policy posture outcomes 0 delayMs waits run) :
    waits = [] ↔ policy.maxAttempts ≤ 1 ∨ Stops posture (outcomes 0) := by
  have ended := rounds.ended
  have within := rounds.within
  have allowed : policy.allowed = max 1 policy.maxAttempts.toNat := rfl
  rw [UInt32.le_iff_toNat_le]
  change _ ↔ policy.maxAttempts.toNat ≤ 1 ∨ _
  cases waits with
  | nil =>
    refine iff_of_true rfl ?_
    rcases ended with stops | last
    · exact .inr stops
    · left
      simp only [List.length_nil] at last
      omega
  | cons ms waits =>
    refine iff_of_false (by simp) ?_
    rintro (few | stops)
    · simp only [List.length_cons] at within
      omega
    · exact rounds.going 0 (Nat.succ_pos _) stops

theorem Rounds.capped_iff (rounds : Rounds policy posture outcomes 0 delayMs waits run) :
    (∀ ms, .sleep ms ∈ run.events → ms ≤ policy.maxBackoffMs) ↔
      delayMs ≤ policy.maxBackoffMs ∨ waits = [] := by
  rw [rounds.events]
  simp only [sleep_mem_interleaved]
  have delays := rounds.delays
  cases waits with
  | nil => simp
  | cons ms waits =>
    obtain ⟨first, later⟩ := List.cons.inj delays
    constructor
    · intro capped
      left
      rw [← UInt32.toNat_inj.mp first]
      exact capped ms List.mem_cons_self
    · rintro (capped | none) other member
      · have listed := List.mem_map_of_mem (f := UInt32.toNat) member
        rw [delays] at listed
        have bound : other.toNat ≤ policy.exact.maxBackoffMs :=
          delaysFrom_le (show delayMs.toNat ≤ policy.exact.maxBackoffMs from
            UInt32.le_iff_toNat_le.mp capped) other.toNat listed
        exact UInt32.le_iff_toNat_le.mpr bound
      · cases none

/-- The helper keeps its promise exactly when the first wait is within the cap or never
happens. -/
theorem withRetry_contract_iff (policy : RetryPolicyU32) (posture : ε → FailurePosture)
    (outcomes : Nat → Except ε α) :
    Contract policy posture outcomes (withRetry policy posture outcomes) ↔
      policy.initialBackoffMs ≤ policy.maxBackoffMs ∨ policy.maxAttempts ≤ 1 ∨
        Stops posture (outcomes 0) := by
  obtain ⟨waits, rounds⟩ := rounds_withRetry policy posture outcomes
  rw [← rounds.waits_nil_iff,← rounds.capped_iff]
  constructor
  · exact fun contract => contract.capped
  · intro capped
    refine ⟨rounds.isLeast, ?_, ⟨waits, rounds.events, rounds.calls_eq⟩, capped, rounds.exact⟩
    rw [rounds.result,rounds.calls_eq,Nat.zero_add,Nat.add_sub_cancel]

/-- A policy whose first wait is longer than its cap. -/
def uncappedPolicy : RetryPolicyU32 := ⟨2, 100, 10, 20⟩

theorem uncappedPolicy_first_wait : ¬Contract uncappedPolicy id
    (fun _ => .error .retryable : Nat → Except FailurePosture Unit)
    (withRetry uncappedPolicy id fun _ => .error .retryable) := by
  intro contract
  obtain ⟨waits, rounds⟩ := rounds_withRetry uncappedPolicy id
    (fun _ => .error .retryable : Nat → Except FailurePosture Unit)
  rcases rounds.capped_iff.mp contract.capped with short | none
  · exact absurd short (by decide)
  · rcases rounds.waits_nil_iff.mp none with few | stops
    · exact absurd few (by decide)
    · exact absurd (stops .retryable rfl) (by decide)

section Program

/-- The operation and the timer. -/
inductive RetryCommand where
  | call
  | sleep (ms : Nat)

@[reducible] def RetryCommand.Answer (ε α : Type) : RetryCommand → Type
  | call => Except ε α
  | sleep _ => Unit

def retryPort (ε α : Type) : RetryPort RetryCommand (RetryCommand.Answer ε α) where
  sleep ms := perform (RetryCommand.sleep ms)
  allowCall := .done true
  recordSuccess := .done ()
  recordFailure := .done ()

def programEvent : RetryEvent ε α → Event RetryCommand (RetryCommand.Answer ε α)
  | .call outcome => ⟨.call, outcome⟩
  | .sleep ms => ⟨.sleep ms.toNat, ()⟩

/-- The loop with these commands, after the outcome of its next call. -/
def afterCall (policy : RetryPolicy) (posture : ε → FailurePosture) (left delayMs : Nat) :
    Except ε α → Program RetryCommand (RetryCommand.Answer ε α) (Except ε α)
  | .ok outcome => .done (.ok outcome)
  | .error error =>
    if (posture error).allowsRetry = false then .done (.error error)
    else .await (RetryCommand.sleep delayMs) fun _ =>
      retryLoop (retryPort ε α) policy posture (perform RetryCommand.call) left
        (policy.nextDelayMs delayMs)

theorem retryLoop_succ (policy : RetryPolicy) (posture : ε → FailurePosture)
    (left delayMs : Nat) :
    retryLoop (retryPort ε α) policy posture (perform RetryCommand.call) (left + 1) delayMs =
      .await RetryCommand.call (afterCall policy posture left delayMs) := by
  rw [retryLoop]
  change Program.await RetryCommand.call _ = _
  congr 1
  funext outcome
  cases outcome with
  | ok outcome => rfl
  | error error =>
    change (if (posture error).allowsRetry = false then _ else _) = _
    rw [afterCall]
    split <;> rfl

theorem runs_interleaved (counted : waits.length ≤ left)
    (delays : waits.map UInt32.toNat = delaysFrom policy.exact delayMs waits.length)
    (going : ∀ round < waits.length, ¬Stops posture (outcomes (index + round)))
    (ended : Stops posture (outcomes (index + waits.length)) ∨ waits.length = left) :
    Runs (retryLoop (retryPort ε α) policy.exact posture (perform RetryCommand.call) left delayMs)
      ((interleaved outcomes index waits).map programEvent)
      (some (outcomes (index + waits.length))) := by
  induction waits generalizing index left delayMs with
  | nil =>
    cases left with
    | zero => exact .await .done
    | succ left =>
      rw [retryLoop_succ]
      refine .await ?_
      have stops : Stops posture (outcomes index) := by simpa using ended
      cases known : outcomes index with
      | ok outcome =>
        exact .done
      | error error =>
        rw [known,stops_error_iff] at stops
        rw [afterCall,if_pos stops]
        exact .done
  | cons ms waits ih =>
    cases left with
    | zero => cases counted
    | succ left =>
      obtain ⟨first, later⟩ := List.cons.inj delays
      rw [retryLoop_succ]
      refine .await ?_
      have goes : ¬Stops posture (outcomes index) := going 0 (Nat.succ_pos _)
      cases known : outcomes index with
      | ok outcome =>
        rw [known] at goes
        exact absurd (stops_ok posture outcome) goes
      | error error =>
        rw [known,stops_error_iff] at goes
        rw [afterCall,if_neg goes]
        rw [List.length_cons,← Nat.add_assoc,Nat.add_right_comm] at ended ⊢
        rw [← first]
        refine .await (ih (Nat.le_of_succ_le_succ counted) ?_ (fun round before => ?_) ?_)
        · rw [first]
          exact later
        · have next := going (round + 1) (Nat.succ_lt_succ before)
          rwa [← Nat.add_assoc,Nat.add_right_comm] at next
        · exact ended.imp_right Nat.succ.inj

/-- The fixed-width loop is a run of the retries in numbers without a width. -/
theorem runs_withRetry (policy : RetryPolicyU32) (posture : ε → FailurePosture)
    (outcomes : Nat → Except ε α) :
    Runs (Zally.withRetry (retryPort ε α) policy.exact posture (perform RetryCommand.call))
      ((withRetry policy posture outcomes).events.map programEvent)
      (some (withRetry policy posture outcomes).result) := by
  obtain ⟨waits, rounds⟩ := rounds_withRetry policy posture outcomes
  have allowed : policy.exact.maxAttempts - 1 = policy.allowed - 1 := by
    change policy.maxAttempts.toNat - 1 = max 1 policy.maxAttempts.toNat - 1
    omega
  have within := rounds.within
  have ended := rounds.ended
  rw [rounds.events,rounds.result,Zally.withRetry,allowed]
  refine runs_interleaved (by omega) rounds.delays rounds.going (ended.imp_right fun last => ?_)
  omega

end Program

end RetryAttempts
end Zally
