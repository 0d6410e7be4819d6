import Zally.Wallet.CircuitBreaker

/-! Guarded calls made one at a time, each with an operation, policy and types of its own, on the
breaker they share. -/
namespace Zally

open Async Async.Program

namespace Breaker

variable {C : Type} {R : C → Type}

/-- One guarded call. -/
structure Call (C : Type) (R : C → Type) where
  Failure : Type
  Value : Type
  policy : RetryPolicy
  label : String
  posture : Failure → FailurePosture
  liftErr : Failure → WalletError
  operation : Program (GuardedCommand C) (GuardedCommand.Answer R) (Except Failure Value)
  within : operation.Within OfOperation

def Call.retries (call : Call C R) :
    Program (GuardedCommand C) (GuardedCommand.Answer R) (Except call.Failure call.Value) :=
  withRetry breakerPort call.policy call.posture call.operation

def Call.program (call : Call C R) :
    Program (GuardedCommand C) (GuardedCommand.Answer R) (Except WalletError call.Value) :=
  (withBreakerAndRetry breakerPort call.policy call.label call.posture call.operation
    call.liftErr).run

/-- How a call ended. A dropped one was given up while it waited. -/
inductive Verdict where
  | refused
  | dropped
  | succeeded
  | failed (posture : FailurePosture)
  deriving DecidableEq, Repr

/-- A failure that counts against the backend. -/
def Verdict.trips : Verdict → Bool
  | failed posture => posture.tripsCircuitBreaker
  | refused | dropped | succeeded => false

def question (answer : Bool) : GuardedEvent C R := ⟨.allowCall, answer⟩
def success : GuardedEvent C R := ⟨.recordSuccess, ()⟩
def failure : GuardedEvent C R := ⟨.recordFailure, ()⟩

/-- The call did what `trace` lists and ended so. -/
def Call.Ends (call : Call C R) (trace : List (GuardedEvent C R)) : Verdict → Prop
  | .refused => Runs call.program trace (some (.error (.circuitBroken call.label))) ∧
      trace = [question false]
  | .dropped => Runs call.program trace none ∧
      (trace = [] ∨ ∃ retried, trace = question true :: retried ∧ Runs call.retries retried none)
  | .succeeded => ∃ retried settle value, Runs call.program trace (some (.ok value)) ∧
      trace = question true :: (retried ++ settle) ∧ Runs call.retries retried (some (.ok value))
  | .failed posture => ∃ retried settle error,
      Runs call.program trace (some (.error (call.liftErr error))) ∧
      trace = question true :: (retried ++ settle) ∧
      Runs call.retries retried (some (.error error)) ∧ call.posture error = posture

/-- What a call tells the breaker at its end. -/
def Verdict.told : Verdict → List (GuardedEvent C R)
  | succeeded => [success]
  | failed posture => if posture.tripsCircuitBreaker then [failure] else []
  | refused | dropped => []

/-- The program after its retries. -/
def Call.settle (call : Call C R) : Except call.Failure call.Value →
    Program (GuardedCommand C) (GuardedCommand.Answer R) (Except WalletError call.Value)
  | .ok outcome => .await .recordSuccess fun _ => .done (.ok outcome)
  | .error error =>
    if (call.posture error).tripsCircuitBreaker then
      .await .recordFailure fun _ => .done (.error (call.liftErr error))
    else .done (.error (call.liftErr error))

/-- The program after the breaker's answer. -/
def Call.gated (call : Call C R) : Bool →
    Program (GuardedCommand C) (GuardedCommand.Answer R) (Except WalletError call.Value)
  | true => call.retries >>= call.settle
  | false => .done (.error (.circuitBroken call.label))

theorem Call.program_eq (call : Call C R) : call.program = .await .allowCall call.gated := by
  change Program.await GuardedCommand.allowCall _ = _
  congr 1
  funext admitted
  cases admitted with
  | false => rfl
  | true =>
    change (call.retries >>= _) = call.retries >>= call.settle
    congr 1
    funext result
    cases result with
    | ok outcome => rfl
    | error error =>
      simp only [Call.settle]
      split <;> rfl

/-- A finished run of a call ended in one of these ways. -/
theorem Call.ends_of_runs {call : Call C R} {outcome : Except WalletError call.Value}
    (whole : Runs call.program trace (some outcome)) :
    ∃ verdict, call.Ends trace verdict := by
  have started := whole
  rw [Call.program_eq] at started
  obtain ⟨admitted, rest, rfl, run⟩ := runs_await_some started
  cases admitted with
  | false =>
    obtain ⟨rfl, rfl⟩ := runs_done_some run
    exact ⟨.refused, whole, rfl⟩
  | true =>
    rcases runs_bind_iff.mp run with ⟨unfinished, -⟩ | ⟨result, retried, settle, rfl, finished, told⟩
    · cases unfinished
    cases result with
    | ok value =>
      obtain ⟨⟨⟩, rest, rfl, returned⟩ := runs_await_some told
      obtain ⟨rfl, rfl⟩ := runs_done_some returned
      exact ⟨.succeeded, retried, _, value, whole, rfl, finished⟩
    | error error =>
      refine ⟨.failed (call.posture error), retried, settle, error, ?_, rfl, finished, rfl⟩
      simp only [Call.settle] at told
      split at told
      · obtain ⟨⟨⟩, rest, rfl, returned⟩ := runs_await_some told
        obtain ⟨rfl, rfl⟩ := runs_done_some returned
        exact whole
      · obtain ⟨rfl, rfl⟩ := runs_done_some told
        exact whole

theorem Call.within_retries {call : Call C R} {outcome : Option (Except call.Failure call.Value)}
    (run : Runs call.retries retried outcome) :
    ∀ event ∈ retried, OfOperation event.command :=
  run.within (within_retryLoop (fun ms => ⟨.inr ⟨ms, rfl⟩, fun _ => trivial⟩) call.within)

/-- A call that finished its retries tells the breaker what their result asks for. -/
theorem Call.settled {call : Call C R} {retried settle : List (GuardedEvent C R)}
    {result : Except call.Failure call.Value} {outcome : Except WalletError call.Value}
    (run : Runs call.program (question true :: (retried ++ settle)) (some outcome))
    (finished : Runs call.retries retried (some result)) :
    Runs (call.settle result) settle (some outcome) := by
  rw [Call.program_eq] at run
  obtain ⟨admitted, rest, asked, gated⟩ := runs_await_some run
  cases asked
  rcases runs_bind_iff.mp gated with ⟨unfinished, -⟩ | ⟨other, first, second, split, ran, told⟩
  · cases unfinished
  obtain ⟨rfl, rfl⟩ := finished.unique ran split
  rw [List.append_cancel_left split]
  exact told

/-- What a call did: nothing, or it was turned away, or it was admitted, kept to its own commands
and then told the breaker how it ended. -/
theorem Call.Ends.cases {call : Call C R} (ends : call.Ends trace verdict) :
    (trace = [] ∧ verdict = .dropped) ∨ (trace = [question false] ∧ verdict = .refused) ∨
    ∃ retried, trace = question true :: (retried ++ verdict.told) ∧ verdict ≠ .refused ∧
      ∀ event ∈ retried, OfOperation event.command := by
  cases verdict with
  | refused => exact .inr (.inl ⟨ends.2, rfl⟩)
  | dropped =>
    obtain ⟨-, rfl | ⟨retried, rfl, ran⟩⟩ := ends
    · exact .inl ⟨rfl, rfl⟩
    · exact .inr (.inr ⟨retried, by simp [Verdict.told], by simp, Call.within_retries ran⟩)
  | succeeded =>
    obtain ⟨retried, settle, value, run, rfl, finished⟩ := ends
    obtain ⟨⟨⟩, rest, rfl, returned⟩ := runs_await_some (Call.settled run finished)
    obtain ⟨rfl, -⟩ := runs_done_some returned
    exact .inr (.inr ⟨retried, rfl, by simp, Call.within_retries finished⟩)
  | failed posture =>
    obtain ⟨retried, settle, error, run, rfl, finished, rfl⟩ := ends
    refine .inr (.inr ⟨retried, ?_, by simp, Call.within_retries finished⟩)
    have told := Call.settled run finished
    simp only [Call.settle] at told
    simp only [Verdict.told]
    split at told
    · obtain ⟨⟨⟩, rest, rfl, returned⟩ := runs_await_some told
      obtain ⟨rfl, -⟩ := runs_done_some returned
      rw [if_pos ‹_›]
      rfl
    · obtain ⟨rfl, -⟩ := runs_done_some told
      rw [if_neg ‹_›]

/-- A call of a sequence: what happened from its start to its end, and how it ended. -/
structure Turn (C : Type) (R : C → Type) where
  caller : Nat
  world : List (Operation C R)
  verdict : Verdict

/-- One call by itself, while time passes. -/
def Turn.Step (before : State) (turn : Turn C R) (after : State) : Prop :=
  ∃ (call : Call C R) (trace : List (GuardedEvent C R)),
    turn.world.filterMap Operation.event? = trace.map (Prod.mk turn.caller) ∧
    call.Ends trace turn.verdict ∧ Path Breaker.Step before turn.world after

/-- A call that finished by itself is a turn, whatever it did: what is proved of every turn is
proved of every call that returns. -/
theorem Turn.exists_step {call : Call C R} {outcome : Except WalletError call.Value}
    {caller : Nat} {world : List (Operation C R)}
    (run : Runs call.program trace (some outcome))
    (own : world.filterMap Operation.event? = trace.map (Prod.mk caller))
    (path : Path Breaker.Step before world after) :
    ∃ verdict, call.Ends trace verdict ∧ Turn.Step before ⟨caller, world, verdict⟩ after := by
  obtain ⟨verdict, ends⟩ := call.ends_of_runs run
  exact ⟨verdict, ends, call, trace, own, ends, path⟩

/-- `failures` tripping failures are the latest, with no success between them. -/
def Streak (verdicts : List Verdict) (failures : Nat) : Prop :=
  ∃ prior recent, verdicts = prior ++ recent ∧ .succeeded ∉ recent ∧
    recent.countP Verdict.trips = failures

/-- The breaker is as the answer to the call's question left it. -/
def Turn.LeftAsAllowed (before : State) (turn : Turn C R) (after : State) : Prop :=
  ∃ idle answer rest asking asked,
    turn.world = idle ++ .guarded turn.caller (question answer) :: rest ∧
    Path Breaker.Step before idle asking ∧
    Breaker.Step asking (.guarded turn.caller (question (R := R) answer)) asked ∧
    after.breaker = asked.breaker

/-- What is promised of a call after the calls of `verdicts`. -/
structure Promise (config : CircuitBreakerConfig) (verdicts : List Verdict) (before : State)
    (turn : Turn C R) (after : State) : Prop where
  neutral : (turn.verdict = .refused ∨ ∃ posture, turn.verdict = .failed posture ∧
    posture.tripsCircuitBreaker = false) → turn.LeftAsAllowed before after
  opens : ∀ first operation rest state next openedAt, turn.world = first ++ operation :: rest →
    Path Breaker.Step before first state → Breaker.Step state operation next →
    next.breaker.state = .opened openedAt → state.breaker.state ≠ .opened openedAt →
    turn.verdict.trips = true ∧ (state.breaker.state = .halfOpen ∨
      Streak (verdicts ++ [turn.verdict]) (max 1 config.failureThreshold.toNat))
  closes : turn.verdict = .succeeded → after.breaker.state = .closed 0
  refuses : ∀ first answer rest state, turn.world = first ++ .guarded turn.caller
    (question answer) :: rest → Path Breaker.Step before first state →
    state.breaker.Cooling state.now → turn.verdict = .refused ∧
      turn.world.filterMap Operation.event? = [(turn.caller, question false)]
  idle : ∀ first command answer rest state, turn.world = first ++ .guarded turn.caller
    ⟨.operation command, answer⟩ :: rest → Path Breaker.Step before first state →
    ¬ state.breaker.Cooling state.now

theorem breaker_of_quiet {before after : State} {world : List (Operation C R)}
    (path : Path Breaker.Step before world after)
    (quiet : ∀ event ∈ world.filterMap Operation.event?, OfOperation event.2.command) :
    after.breaker = before.breaker := by
  induction path with
  | nil => rfl
  | @cons state operation next rest final moves path ih =>
    have later : ∀ event ∈ rest.filterMap Operation.event?, OfOperation event.2.command := by
      intro event member
      refine quiet event ?_
      rw [List.filterMap_cons]
      split
      · exact member
      · exact List.mem_cons_of_mem _ member
    rw [ih later]
    cases operation with
    | elapsed duration => rw [show next = _ from moves]
    | guarded caller event =>
      have own : OfOperation event.command := quiet (caller, event) (by simp [Operation.event?])
      rcases event with ⟨command, answer⟩
      rcases own with ⟨own, rfl⟩ | ⟨ms, rfl⟩
      · rw [show next = _ from moves]
      · rw [show next = _ from moves]

/-- The first command of a world, after some time. -/
theorem split_first {world : List (Operation C R)}
    (events : world.filterMap Operation.event? = (caller, event) :: rest) :
    ∃ idle later, world = idle ++ .guarded caller event :: later ∧
      (∀ operation ∈ idle, operation.event? = none) ∧
      later.filterMap Operation.event? = rest := by
  obtain ⟨idle, operation, later, rfl, silent, isEvent, remaining⟩ :=
    List.filterMap_eq_cons_iff.mp events
  cases operation with
  | elapsed duration => cases isEvent
  | guarded other event =>
    obtain ⟨rfl, rfl⟩ := Prod.mk.inj (Option.some.inj isEvent)
    exact ⟨idle, later, rfl, silent, remaining⟩

theorem filterMap_idle {idle : List (Operation C R)}
    (silent : ∀ operation ∈ idle, operation.event? = none) :
    idle.filterMap Operation.event? = [] := List.filterMap_eq_nil_iff.mpr silent

/-- A call that asked and kept to its own commands since. -/
theorem asked_of_path {before after : State} {world : List (Operation C R)}
    (path : Path Breaker.Step before world after)
    (events : world.filterMap Operation.event? = (caller, question answer) :: own)
    (quiet : ∀ event ∈ own, OfOperation event.2.command) :
    ∃ idle rest asking asked, world = idle ++ .guarded caller (question answer) :: rest ∧
      Path Breaker.Step before idle asking ∧
      Breaker.Step asking (.guarded caller (question (R := R) answer)) asked ∧
      asking.breaker = before.breaker ∧ after.breaker = asked.breaker := by
  obtain ⟨idle, later, rfl, silent, remaining⟩ := split_first events
  obtain ⟨asking, waited, rest⟩ := Path.append_iff.mp path
  cases rest with
  | cons moves rest =>
    refine ⟨idle, later, asking, _, rfl, waited, moves, ?_, ?_⟩
    · exact breaker_of_quiet waited (by simp [filterMap_idle silent])
    · exact breaker_of_quiet rest (by simpa [remaining] using quiet)

/-- The breaker after it was told a verdict. -/
def Verdict.record (now : Nat) (breaker : CircuitBreaker) : Verdict → CircuitBreaker
  | succeeded => breaker.recordSuccess
  | failed posture => if posture.tripsCircuitBreaker then breaker.recordFailure now else breaker
  | refused | dropped => breaker

theorem record_of_path {before after : State} {world : List (Operation C R)} {verdict : Verdict}
    (path : Path Breaker.Step before world after)
    (events : world.filterMap Operation.event? = verdict.told.map (Prod.mk caller)) :
    ∃ now, after.breaker = verdict.record now before.breaker := by
  have silent (none : verdict.told (R := R) = []) : after.breaker = before.breaker :=
    breaker_of_quiet path (by simp [events,none])
  have spoken {event : GuardedEvent C R} (one : verdict.told = [event]) :
      ∃ told next, told.breaker = before.breaker ∧ Breaker.Step told (.guarded caller event) next ∧
        after.breaker = next.breaker := by
    rw [one] at events
    obtain ⟨idle, later, rfl, silent, remaining⟩ := split_first events
    obtain ⟨told, waited, rest⟩ := Path.append_iff.mp path
    cases rest with
    | cons moves rest =>
      refine ⟨told, _, breaker_of_quiet waited (by simp [filterMap_idle silent]), moves, ?_⟩
      exact breaker_of_quiet rest (by simp [remaining])
  cases verdict with
  | refused => exact ⟨0, silent rfl⟩
  | dropped => exact ⟨0, silent rfl⟩
  | succeeded =>
    obtain ⟨told, next, same, moves, rest⟩ := spoken rfl
    refine ⟨0, ?_⟩
    rw [rest,show next = _ from moves,Verdict.record,← same]
  | failed posture =>
    by_cases trips : posture.tripsCircuitBreaker = true
    · obtain ⟨told, next, same, moves, rest⟩ := spoken (by rw [Verdict.told,if_pos trips])
      refine ⟨told.now, ?_⟩
      rw [rest,show next = _ from moves,Verdict.record,if_pos trips,← same]
    · refine ⟨0, ?_⟩
      rw [Verdict.record,if_neg trips]
      exact silent (by rw [Verdict.told,if_neg trips])

/-- The events of a call, as the sequence has them. -/
theorem Turn.Step.cases {before after : State} {turn : Turn C R} (moves : turn.Step before after) :
    (turn.world.filterMap Operation.event? = [] ∧ turn.verdict = .dropped) ∨
    (turn.world.filterMap Operation.event? = [(turn.caller, question false)] ∧
      turn.verdict = .refused) ∨
    ∃ own, turn.world.filterMap Operation.event? =
        (turn.caller, question true) :: (own ++ turn.verdict.told.map (Prod.mk turn.caller)) ∧
      turn.verdict ≠ .refused ∧ ∀ event ∈ own, OfOperation event.2.command := by
  obtain ⟨call, trace, events, ends, -⟩ := moves
  rcases ends.cases with ⟨rfl, dropped⟩ | ⟨rfl, refused⟩ | ⟨retried, rfl, admitted, quiet⟩
  · exact .inl ⟨events, dropped⟩
  · exact .inr (.inl ⟨events, refused⟩)
  · refine .inr (.inr ⟨retried.map (Prod.mk turn.caller), by rw [events]; simp, admitted, ?_⟩)
    intro event member
    obtain ⟨local', own, rfl⟩ := List.mem_map.mp member
    exact quiet local' own

/-- An admitted call, at the point where it has finished its own commands. -/
theorem admitted_split {before after : State} {world : List (Operation C R)} {verdict : Verdict}
    (path : Path Breaker.Step before world after) (events : world.filterMap Operation.event? =
      (caller, question true) :: (own ++ verdict.told.map (Prod.mk caller)))
    (quiet : ∀ event ∈ own, OfOperation event.2.command) :
    ∃ asked middle now, before.breaker.allowCall asked = (true, middle) ∧
      after.breaker = verdict.record now middle := by
  rw [← List.cons_append] at events
  obtain ⟨first, second, rfl, asking, telling⟩ := List.filterMap_eq_append_iff.mp events
  obtain ⟨finished, reached, told⟩ := Path.append_iff.mp path
  obtain ⟨_, _, state, asked, -, -, moves, unchanged, kept⟩ :=
    asked_of_path reached asking quiet
  obtain ⟨now, recorded⟩ := record_of_path told telling
  refine ⟨state.now, finished.breaker, now, ?_, recorded⟩
  rw [← unchanged,kept]
  exact moves.1

/-- A call that is turned away leaves the breaker alone. -/
theorem breaker_of_refused {before after : State} {world : List (Operation C R)}
    (path : Path Breaker.Step before world after)
    (events : world.filterMap Operation.event? = [(caller, question false)]) :
    after.breaker = before.breaker := by
  obtain ⟨_, _, asking, asked, -, -, moves, unchanged, kept⟩ :=
    asked_of_path path events (by simp)
  have cooling := CircuitBreaker.allowCall_eq_false_iff.mp (congrArg Prod.fst moves.1)
  rw [kept,← unchanged]
  exact (congrArg Prod.snd moves.1).symm.trans (CircuitBreaker.allowCall_of_cooling cooling)

/-- What a call does to the breaker. -/
theorem Turn.Step.effect {before after : State} {turn : Turn C R} (moves : turn.Step before after) :
    ((turn.verdict = .dropped ∨ turn.verdict = .refused) ∧ after.breaker = before.breaker) ∨
    ∃ asked middle now, before.breaker.allowCall asked = (true, middle) ∧
      after.breaker = turn.verdict.record now middle := by
  obtain ⟨_, _, -, -, path⟩ := id moves
  rcases moves.cases with ⟨events, dropped⟩ | ⟨events, refused⟩ | ⟨own, events, -, quiet⟩
  · exact .inl ⟨.inl dropped, breaker_of_quiet path (by simp [events])⟩
  · exact .inl ⟨.inr refused, breaker_of_refused path events⟩
  · exact .inr (admitted_split path events quiet)

theorem Streak.none (verdicts : List Verdict) : Streak verdicts 0 := ⟨verdicts, [], by simp⟩

theorem Streak.extend (streak : Streak verdicts failures) (verdict : Verdict)
    (other : verdict ≠ .succeeded) :
    Streak (verdicts ++ [verdict]) (failures + if verdict.trips then 1 else 0) := by
  obtain ⟨prior, recent, rfl, unbroken, rfl⟩ := streak
  refine ⟨prior, recent ++ [verdict], List.append_assoc _ _ _, ?_, ?_⟩
  · rw [List.mem_append,List.mem_singleton]
    exact fun member => member.elim unbroken fun same => other same.symm
  · rw [List.countP_append,List.countP_singleton]

/-- The count of a closed breaker is the latest streak, which is still too short. -/
structure Counted (config : CircuitBreakerConfig) (verdicts : List Verdict)
    (breaker : CircuitBreaker) : Prop where
  configured : breaker.config = config
  short : ∀ failures, breaker.state = .closed failures →
    failures.toNat < max 1 config.failureThreshold.toNat
  counted : ∀ failures, breaker.state = .closed failures → Streak verdicts failures.toNat

theorem counted_new (config : CircuitBreakerConfig) (verdicts : List Verdict) :
    Counted config verdicts (.new config) := by
  refine ⟨rfl, fun failures closed => ?_, fun failures closed => ?_⟩
  · obtain rfl := CircuitState.closed.inj closed
    exact Nat.lt_of_lt_of_le Nat.zero_lt_one (Nat.le_max_left _ _)
  · obtain rfl := CircuitState.closed.inj closed
    exact .none verdicts

/-- A count that is too short has room for one more. -/
theorem saturatingSucc_toNat {threshold failures : UInt32}
    (short : failures.toNat < max 1 threshold.toNat) :
    (CircuitBreaker.saturatingSucc failures).toNat = failures.toNat + 1 := by
  have bound := threshold.toNat_lt
  unfold CircuitBreaker.saturatingSucc
  split
  · rename_i full
    rw [full] at short
    have last : (UInt32.ofNat (2 ^ 32 - 1)).toNat = 4294967295 := rfl
    omega
  · rw [UInt32.toNat_add]
    have one : (1 : UInt32).toNat = 1 := rfl
    omega

/-- One more failure of a closed breaker opens it at the threshold, and is counted below it. -/
theorem Counted.recordFailure {breaker : CircuitBreaker} (counted : Counted config verdicts breaker)
    (now : Nat) (closed : breaker.state = .closed failures) :
    (failures.toNat + 1 = max 1 config.failureThreshold.toNat ∧
      breaker.recordFailure now = { breaker with state := .opened now }) ∨
    (failures.toNat + 1 < max 1 config.failureThreshold.toNat ∧ ∃ next : UInt32,
      next.toNat = failures.toNat + 1 ∧
        breaker.recordFailure now = { breaker with state := .closed next }) := by
  have short := counted.short failures closed
  have next := saturatingSucc_toNat short
  simp only [CircuitBreaker.recordFailure,closed]
  rw [counted.configured]
  split
  · rename_i reached
    rw [ge_iff_le,UInt32.le_iff_toNat_le] at reached
    exact .inl ⟨by omega, rfl⟩
  · rename_i below
    rw [ge_iff_le,UInt32.le_iff_toNat_le] at below
    exact .inr ⟨by omega, _, next, rfl⟩

theorem Counted.extend {breaker : CircuitBreaker} (counted : Counted config verdicts breaker)
    (neutral : verdict.trips = false) (other : verdict ≠ .succeeded) :
    Counted config (verdicts ++ [verdict]) breaker := by
  refine ⟨counted.configured, counted.short, fun failures closed => ?_⟩
  simpa [neutral] using (counted.counted failures closed).extend verdict other

theorem Counted.allowed {breaker after : CircuitBreaker} (counted : Counted config verdicts breaker)
    (allowed : breaker.allowCall now = (true, after)) : Counted config verdicts after := by
  refine ⟨(CircuitBreaker.allowCall_config allowed).trans counted.configured,
    fun failures closed => ?_, fun failures closed => ?_⟩
  · obtain rfl := CircuitBreaker.closed_of_allowCall allowed closed
    exact counted.short failures closed
  · obtain rfl := CircuitBreaker.closed_of_allowCall allowed closed
    exact counted.counted failures closed

theorem Counted.record {breaker : CircuitBreaker} (counted : Counted config verdicts breaker)
    (verdict : Verdict) (now : Nat) :
    Counted config (verdicts ++ [verdict]) (verdict.record now breaker) := by
  cases verdict with
  | refused => exact counted.extend rfl (by simp)
  | dropped => exact counted.extend rfl (by simp)
  | succeeded =>
    have fresh := counted_new config (verdicts ++ [.succeeded])
    rw [← counted.configured] at fresh ⊢
    exact fresh
  | failed posture =>
    by_cases trips : posture.tripsCircuitBreaker = true
    · rw [Verdict.record,if_pos trips]
      cases state : breaker.state with
      | closed failures =>
        rcases counted.recordFailure now state with ⟨-, opened⟩ | ⟨below, next, one, closed⟩
        · rw [opened]
          exact ⟨counted.configured, by simp, by simp⟩
        · rw [closed]
          refine ⟨counted.configured, fun failures' same => ?_, fun failures' same => ?_⟩
          · obtain rfl := CircuitState.closed.inj same
            rwa [one]
          · obtain rfl := CircuitState.closed.inj same
            have extended := (counted.counted failures state).extend (.failed posture) (by simp)
            rwa [show (Verdict.failed posture).trips = true from trips,if_pos rfl,← one] at extended
      | halfOpen =>
        simp only [CircuitBreaker.recordFailure,state]
        exact ⟨counted.configured, by simp, by simp⟩
      | opened openedAt =>
        simp only [CircuitBreaker.recordFailure,state]
        exact ⟨counted.configured, by simp, by simp⟩
    · rw [Verdict.record,if_neg trips]
      exact counted.extend (by simpa [Verdict.trips] using trips) (by simp)

theorem Turn.Step.counted {before after : State} {turn : Turn C R}
    (moves : turn.Step before after) (counted : Counted config verdicts before.breaker) :
    Counted config (verdicts ++ [turn.verdict]) after.breaker := by
  rcases moves.effect with ⟨unheard, same⟩ | ⟨asked, middle, now, allowed, recorded⟩
  · rw [same]
    rcases unheard with dropped | refused
    · rw [dropped]
      exact counted.extend rfl (by simp)
    · rw [refused]
      exact counted.extend rfl (by simp)
  · rw [recorded]
    exact (counted.allowed allowed).record turn.verdict now

/-- After any calls made one at a time, the count of a closed breaker is their latest streak. -/
theorem counted_of_path {before : State} {turns : List (Turn C R)}
    (path : Path Turn.Step before turns after)
    (counted : Counted config verdicts before.breaker) :
    Counted config (verdicts ++ turns.map Turn.verdict) after.breaker := by
  induction path generalizing verdicts with
  | nil => simpa using counted
  | @cons state turn next rest final moves path ih =>
    have extended := ih (moves.counted counted)
    rwa [List.append_assoc] at extended

/-- A command of a call's own world that is none of its last words comes right before them or
earlier. -/
theorem own_of_split (split : first ++ event :: rest = own ++ told) (unsaid : event ∉ told) :
    ∃ later, own = first ++ event :: later := by
  rcases List.append_eq_append_iff.mp split with ⟨as, rfl, remaining⟩ | ⟨as, rfl, rfl⟩
  · cases as with
    | nil =>
      refine absurd ?_ unsaid
      rw [show told = event :: rest from remaining.symm]
      exact List.mem_cons_self
    | cons head as =>
      obtain ⟨rfl, -⟩ := List.cons.inj remaining
      exact ⟨as, rfl⟩
  · exact absurd (by simp) unsaid

/-- Only a recorded failure opens the breaker. -/
theorem failure_of_opened {state next : State} {operation : Operation C R}
    (moves : Breaker.Step state operation next) (opened : next.breaker.state = .opened openedAt)
    (before : state.breaker.state ≠ .opened openedAt) :
    ∃ caller, operation = .guarded caller failure := by
  cases operation with
  | elapsed duration =>
    rw [show next = _ from moves] at opened
    exact absurd opened before
  | guarded caller event =>
    rcases event with ⟨command, answer⟩
    cases command with
    | operation own | sleep ms =>
      rw [show next = state from moves] at opened
      exact absurd opened before
    | recordSuccess =>
      rw [show next = _ from moves] at opened
      cases opened
    | recordFailure => exact ⟨caller, rfl⟩
    | allowCall =>
      cases answer with
      | true => exact absurd opened (CircuitBreaker.allowCall_not_opened moves.1)
      | false =>
        have cooling := CircuitBreaker.allowCall_eq_false_iff.mp (congrArg Prod.fst moves.1)
        have same := CircuitBreaker.allowCall_of_cooling cooling
        rw [moves.1] at same
        rw [show next.breaker = _ from same] at opened
        exact absurd opened before

/-- Where a call says anything but its question, it was admitted before. -/
theorem Turn.Step.asked {before after : State} {turn : Turn C R} {caller : Nat}
    (moves : turn.Step before after)
    (split : turn.world = first ++ .guarded caller event :: rest)
    (other : ∀ answer, event ≠ question answer) :
    ∃ own done, first.filterMap Operation.event? = (turn.caller, question true) :: done ∧
      done ++ (caller, event) :: rest.filterMap Operation.event? =
        own ++ turn.verdict.told.map (Prod.mk turn.caller) ∧
      ∀ event ∈ own, OfOperation event.2.command := by
  have events : turn.world.filterMap Operation.event? =
      first.filterMap Operation.event? ++ (caller, event) :: rest.filterMap Operation.event? := by
    rw [split,List.filterMap_append,List.filterMap_cons]
    rfl
  rcases moves.cases with ⟨nothing, -⟩ | ⟨refused, -⟩ | ⟨own, admitted, -, quiet⟩
  · rw [events] at nothing
    exact absurd nothing (by simp)
  · have member : (caller, event) ∈ turn.world.filterMap Operation.event? := by simp [events]
    rw [refused,List.mem_singleton] at member
    exact absurd (Prod.mk.inj member).2 (other false)
  · rw [events] at admitted
    cases said : first.filterMap Operation.event? with
    | nil =>
      rw [said] at admitted
      exact absurd (Prod.mk.inj (List.cons.inj admitted).1).2 (other true)
    | cons head done =>
      rw [said] at admitted
      obtain ⟨rfl, remaining⟩ := List.cons.inj admitted
      exact ⟨own, done, rfl, remaining, quiet⟩

/-- Nothing but an outcome is told. -/
theorem told_cases {verdict : Verdict} {event : GuardedEvent C R}
    (told : (caller, event) ∈ verdict.told.map (Prod.mk other)) :
    event = success ∨ event = failure := by
  obtain ⟨said, member, same⟩ := List.mem_map.mp told
  obtain ⟨-, rfl⟩ := Prod.mk.inj same
  cases verdict with
  | refused => cases member
  | dropped => cases member
  | succeeded => exact .inl (List.mem_singleton.mp member)
  | failed posture =>
    rw [Verdict.told] at member
    split at member
    · exact .inr (List.mem_singleton.mp member)
    · cases member

theorem not_own_failure : ¬OfOperation (failure (C := C) (R := R)).command := by
  rintro (⟨_, same⟩ | ⟨_, same⟩)
  · cases same
  · cases same

theorem told_of_failure {verdict : Verdict} (told : (caller, failure (C := C) (R := R)) ∈
    verdict.told.map (Prod.mk other)) :
    verdict.trips = true ∧ verdict.told.map (Prod.mk other) = [(caller, failure (R := R))] := by
  obtain ⟨said, member, same⟩ := List.mem_map.mp told
  obtain ⟨rfl, rfl⟩ := Prod.mk.inj same
  cases verdict with
  | refused => cases member
  | dropped => cases member
  | succeeded => cases List.mem_singleton.mp member
  | failed posture =>
    rw [Verdict.told] at member ⊢
    split at member
    · exact ⟨‹_›, by rw [if_pos ‹_›]; rfl⟩
    · cases member

/-- A failure is recorded once, after the call's own commands, by a call that failed so. -/
theorem trips_of_failure {verdict : Verdict} {own done rest : List (Nat × GuardedEvent C R)}
    (split : done ++ (caller, failure) :: rest = own ++ verdict.told.map (Prod.mk other))
    (quiet : ∀ event ∈ own, OfOperation event.2.command) : verdict.trips = true ∧ done = own := by
  have unsaid : (caller, failure) ∉ own := fun member => not_own_failure (quiet _ member)
  have told : (caller, failure (R := R)) ∈ verdict.told.map (Prod.mk other) := by
    by_contra untold
    obtain ⟨later, rfl⟩ := own_of_split split untold
    exact unsaid (by simp)
  obtain ⟨trips, last⟩ := told_of_failure told
  refine ⟨trips, ?_⟩
  rw [last] at split
  rcases List.append_eq_append_iff.mp split with ⟨as, rfl, remaining⟩ | ⟨as, rfl, remaining⟩
  · cases as with
    | nil => exact (List.append_nil _).symm
    | cons head as =>
      obtain ⟨rfl, -⟩ := List.cons.inj remaining
      exact absurd (by simp) unsaid
  · cases as with
    | nil => exact List.append_nil _
    | cons head as =>
      have longer := congrArg List.length remaining
      simp at longer

/-- A call that has said nothing but its question and its own commands was admitted, and left the
breaker so. -/
theorem allowed_of_asked {before state : State} {first : List (Operation C R)}
    {done : List (Nat × GuardedEvent C R)}
    (path : Path Breaker.Step before first state)
    (events : first.filterMap Operation.event? = (caller, question true) :: done)
    (quiet : ∀ event ∈ done, OfOperation event.2.command) :
    ∃ now, before.breaker.allowCall now = (true, state.breaker) := by
  obtain ⟨_, _, asking, asked, -, -, moves, unchanged, kept⟩ := asked_of_path path events quiet
  refine ⟨asking.now, ?_⟩
  rw [← unchanged,kept]
  exact moves.1

theorem Turn.Step.opens {before after state next : State} {turn : Turn C R}
    (moves : turn.Step before after) (counted : Counted config verdicts before.breaker)
    (split : turn.world = first ++ operation :: rest)
    (reached : Path Breaker.Step before first state) (step : Breaker.Step state operation next)
    (opened : next.breaker.state = .opened openedAt)
    (shut : state.breaker.state ≠ .opened openedAt) :
    turn.verdict.trips = true ∧ (state.breaker.state = .halfOpen ∨
      Streak (verdicts ++ [turn.verdict]) (max 1 config.failureThreshold.toNat)) := by
  obtain ⟨caller, rfl⟩ := failure_of_opened step opened shut
  obtain ⟨own, done, asked, said, quiet⟩ := moves.asked split fun answer same => by cases same
  obtain ⟨trips, rfl⟩ := trips_of_failure said quiet
  obtain ⟨now, allowed⟩ := allowed_of_asked reached asked quiet
  refine ⟨trips, ?_⟩
  cases current : state.breaker.state with
  | halfOpen => exact .inl rfl
  | opened at' => exact absurd current (CircuitBreaker.allowCall_not_opened allowed)
  | closed failures =>
    have here := counted.allowed allowed
    rcases here.recordFailure state.now current with ⟨reached, -⟩ | ⟨-, _, -, closed⟩
    · have streak := (here.counted failures current).extend turn.verdict (by
        intro succeeded
        rw [succeeded] at trips
        cases trips)
      rw [trips,if_pos rfl,reached] at streak
      exact .inr streak
    · rw [show next = _ from step,closed] at opened
      cases opened

theorem Turn.Step.idle {before after state : State} {turn : Turn C R}
    (moves : turn.Step before after)
    (split : turn.world = first ++ .guarded turn.caller ⟨.operation command, answer⟩ :: rest)
    (reached : Path Breaker.Step before first state) : ¬ state.breaker.Cooling state.now := by
  obtain ⟨own, done, asked, said, quiet⟩ := moves.asked split fun answer same => by cases same
  obtain ⟨later, rfl⟩ := own_of_split said fun told => by
    rcases told_cases told with same | same <;> cases same
  obtain ⟨now, allowed⟩ := allowed_of_asked reached asked fun event member =>
    quiet event (List.mem_append_left _ member)
  rintro ⟨openedAt, opened, -⟩
  exact CircuitBreaker.allowCall_not_opened allowed opened

theorem Turn.Step.refuses {before after state : State} {turn : Turn C R}
    (moves : turn.Step before after)
    (split : turn.world = first ++ .guarded turn.caller (question answer) :: rest)
    (reached : Path Breaker.Step before first state) (cooling : state.breaker.Cooling state.now) :
    turn.verdict = .refused ∧
      turn.world.filterMap Operation.event? = [(turn.caller, question false)] := by
  obtain ⟨_, _, -, -, path⟩ := id moves
  rw [split] at path
  obtain ⟨next, asks⟩ := path.step_of_append step_deterministic reached
  obtain rfl : answer = false :=
    (congrArg Prod.fst asks.1).symm.trans (CircuitBreaker.allowCall_eq_false_iff.mpr cooling)
  have member : (turn.caller, question false) ∈ turn.world.filterMap Operation.event? :=
    List.mem_filterMap.mpr ⟨.guarded turn.caller (question false), by rw [split]; simp, rfl⟩
  rcases moves.cases with ⟨nothing, -⟩ | ⟨refused, verdict⟩ | ⟨own, admitted, -, quiet⟩
  · rw [nothing] at member
    cases member
  · exact ⟨verdict, refused⟩
  · rw [admitted,List.mem_cons,List.mem_append] at member
    rcases member with asked | operation | told
    · cases (Prod.mk.inj asked).2
    · rcases quiet _ operation with ⟨_, same⟩ | ⟨_, same⟩ <;> cases same
    · rcases told_cases told with same | same <;> cases same

theorem Turn.Step.neutral {before after : State} {turn : Turn C R} (moves : turn.Step before after)
    (neutral : turn.verdict = .refused ∨ ∃ posture, turn.verdict = .failed posture ∧
      posture.tripsCircuitBreaker = false) : turn.LeftAsAllowed before after := by
  obtain ⟨_, _, -, -, path⟩ := id moves
  have asked {answer : Bool} {own : List (Nat × GuardedEvent C R)}
      (events : turn.world.filterMap Operation.event? = (turn.caller, question answer) :: own)
      (quiet : ∀ event ∈ own, OfOperation event.2.command) : turn.LeftAsAllowed before after := by
    obtain ⟨idle, rest, asking, asked, split, waited, question, -, kept⟩ :=
      asked_of_path path events quiet
    exact ⟨idle, answer, rest, asking, asked, split, waited, question, kept⟩
  rcases moves.cases with ⟨-, dropped⟩ | ⟨events, -⟩ | ⟨own, events, admitted, quiet⟩
  · rw [dropped] at neutral
    rcases neutral with same | ⟨posture, same, -⟩ <;> cases same
  · exact asked events (by simp)
  · rcases neutral with refused | ⟨posture, failed, neutral⟩
    · exact absurd refused admitted
    · rw [failed,Verdict.told,if_neg (by simp [neutral]),List.map_nil,List.append_nil] at events
      exact asked events quiet

theorem Turn.Step.closes {before after : State} {turn : Turn C R} (moves : turn.Step before after)
    (succeeded : turn.verdict = .succeeded) : after.breaker.state = .closed 0 := by
  rcases moves.effect with ⟨dropped | refused, -⟩ | ⟨asked, middle, now, -, recorded⟩
  · cases succeeded.symm.trans dropped
  · cases succeeded.symm.trans refused
  · rw [recorded,succeeded]
    rfl

/-- Calls made one at a time: a failure that does not trip leaves the breaker as it was asked, it
opens after a failed probe or as many tripping failures without a success as its threshold, a
success closes it, and during a cooldown no operation is invoked. -/
theorem calls_one_at_a_time (config : CircuitBreakerConfig) (now : Nat) (turns : List (Turn C R))
    (before : State) (turn : Turn C R) (after : State)
    (history : Path Turn.Step (start config now) turns before) (moves : turn.Step before after) :
    Promise config (turns.map Turn.verdict) before turn after := by
  have counted : Counted config (turns.map Turn.verdict) before.breaker :=
    counted_of_path history (counted_new config [])
  exact {
    neutral := moves.neutral
    opens := fun _ _ _ _ _ _ => moves.opens counted
    closes := moves.closes
    refuses := fun _ _ _ _ => moves.refuses
    idle := fun _ _ _ _ _ => moves.idle }

/-- A call of one attempt, whose failures carry their own posture. -/
def sampleCall : Call Unit fun _ => Except FailurePosture Unit where
  Failure := FailurePosture
  Value := Unit
  policy := ⟨1, 0, 0, 10⟩
  label := "scan"
  posture := id
  liftErr _ := .circuitBroken "scan"
  operation := perform (GuardedCommand.operation ())
  within := ⟨.inl ⟨(), rfl⟩, fun _ => trivial⟩

def sampleTrace (posture : FailurePosture) (settle : List (GuardedEvent Unit
    fun _ => Except FailurePosture Unit)) : List (GuardedEvent Unit
    fun _ => Except FailurePosture Unit) :=
  question true :: ⟨.operation (), .error posture⟩ :: settle

def sampleTurn (caller pause : Nat) (posture : FailurePosture) (settle : List (GuardedEvent Unit
    fun _ => Except FailurePosture Unit)) : Turn Unit fun _ => Except FailurePosture Unit where
  caller := caller
  world := .elapsed pause :: (sampleTrace posture settle).map (.guarded caller)
  verdict := .failed posture

theorem sampleTurn_tripped : Turn.Step (start sampleConfig 0)
    (sampleTurn 0 0 .retryable [failure]) ⟨⟨sampleConfig, .opened 0⟩, 0, none⟩ :=
  ⟨sampleCall, sampleTrace .retryable [failure], rfl, ⟨[⟨.operation (), .error .retryable⟩],
    [failure], FailurePosture.retryable, .await (.await (.await .done)), rfl, .await .done, rfl⟩,
    .cons rfl (.cons ⟨rfl, rfl, rfl⟩ (.cons rfl (.cons rfl .nil)))⟩

theorem sampleTurn_probed : Turn.Step ⟨⟨sampleConfig, .opened 0⟩, 0, none⟩
    (sampleTurn 1 10 .notRetryable []) ⟨⟨sampleConfig, .halfOpen⟩, 10, some 1⟩ := by
  refine ⟨sampleCall, sampleTrace .notRetryable [], rfl, ⟨[⟨.operation (), .error .notRetryable⟩],
    [], FailurePosture.notRetryable, .await (.await .done), rfl, .await .done, rfl⟩, .cons rfl ?_⟩
  have probing : Breaker.Step (C := Unit) (R := fun _ => Except FailurePosture Unit)
      ⟨⟨sampleConfig, .opened 0⟩, 10, none⟩ (.guarded 1 (question true))
      ⟨⟨sampleConfig, .halfOpen⟩, 10, some 1⟩ := ⟨rfl, rfl, rfl⟩
  exact .cons probing (.cons rfl .nil)

/-- The first failure opens the breaker, and a probe that proves nothing leaves it half-open. -/
theorem calls_one_at_a_time_probe : Promise sampleConfig [.failed .retryable]
    ⟨⟨sampleConfig, .opened 0⟩, 0, none⟩ (sampleTurn 1 10 .notRetryable [])
    ⟨⟨sampleConfig, .halfOpen⟩, 10, some 1⟩ :=
  calls_one_at_a_time sampleConfig 0 [sampleTurn 0 0 .retryable [failure]] _ _ _
    (.cons sampleTurn_tripped .nil) sampleTurn_probed

end Breaker
end Zally
