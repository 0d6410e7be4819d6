import Mathlib.Data.List.Induction
import Zally.Async.Machine
import Zally.Wallet.Retry

/-! The circuit breaker that every guarded call of a wallet shares, under any interleaving of
their admissions and outcomes. Times are nanoseconds of a clock that does not go back. -/
namespace Zally

open Async Async.Program

structure CircuitBreakerConfig where
  failureThreshold : UInt32
  cooldown : Nat
  deriving DecidableEq, Repr

inductive CircuitState where
  | closed (consecutiveFailures : UInt32)
  | opened (openedAt : Nat)
  | halfOpen
  deriving DecidableEq, Repr

structure CircuitBreaker where
  config : CircuitBreakerConfig
  state : CircuitState
  deriving DecidableEq, Repr

namespace CircuitBreaker

def new (config : CircuitBreakerConfig) : CircuitBreaker := ⟨config, .closed 0⟩

def allowCall (now : Nat) (breaker : CircuitBreaker) : Bool × CircuitBreaker :=
  match breaker.state with
  | .closed _ | .halfOpen => (true, breaker)
  | .opened openedAt =>
    if now - openedAt ≥ breaker.config.cooldown then (true, { breaker with state := .halfOpen })
    else (false, breaker)

def recordSuccess (breaker : CircuitBreaker) : CircuitBreaker :=
  { breaker with state := .closed 0 }

def saturatingSucc (count : UInt32) : UInt32 := if count = .ofNat (2 ^ 32 - 1) then count else count + 1

def recordFailure (now : Nat) (breaker : CircuitBreaker) : CircuitBreaker :=
  match breaker.state with
  | .closed consecutiveFailures =>
    let next := saturatingSucc consecutiveFailures
    if next ≥ breaker.config.failureThreshold then { breaker with state := .opened now }
    else { breaker with state := .closed next }
  | .halfOpen | .opened _ => { breaker with state := .opened now }

/-- Open, with the cooldown still running. -/
def Cooling (now : Nat) (breaker : CircuitBreaker) : Prop :=
  ∃ openedAt, breaker.state = .opened openedAt ∧ now - openedAt < breaker.config.cooldown

/-- Only an open breaker in its cooldown turns a call away. -/
theorem allowCall_eq_false_iff : (allowCall now breaker).1 = false ↔ Cooling now breaker := by
  unfold allowCall Cooling
  cases breaker.state with
  | closed failures => simp
  | halfOpen => simp
  | opened openedAt =>
    by_cases elapsed : now - openedAt ≥ breaker.config.cooldown
    · simp [elapsed]
    · simpa [elapsed] using by omega

theorem allowCall_of_cooling (cooling : Cooling now breaker) :
    (allowCall now breaker).2 = breaker := by
  obtain ⟨openedAt, opened, early⟩ := cooling
  simp [allowCall,opened,Nat.not_le.mpr early]

theorem allowCall_open (opened : breaker.state = .opened openedAt)
    (admitted : (allowCall now breaker).1 = true) :
    (allowCall now breaker).2 = { breaker with state := .halfOpen } := by
  unfold allowCall at admitted ⊢
  rw [opened] at admitted ⊢
  by_cases elapsed : now - openedAt ≥ breaker.config.cooldown
  · simp [elapsed]
  · simp [elapsed] at admitted

/-- An admitted call leaves the breaker as it was, or half-open. -/
theorem allowCall_admitted (allowed : allowCall now breaker = (true, after)) :
    (after = breaker ∧ ∀ openedAt, breaker.state ≠ .opened openedAt) ∨
      after = { breaker with state := .halfOpen } := by
  unfold allowCall at allowed
  cases state : breaker.state with
  | closed failures =>
    simp only [state] at allowed
    exact .inl ⟨(Prod.mk.inj allowed).2.symm, by simp⟩
  | halfOpen =>
    simp only [state] at allowed
    exact .inl ⟨(Prod.mk.inj allowed).2.symm, by simp⟩
  | opened openedAt =>
    refine .inr ?_
    simp only [state] at allowed
    split at allowed
    · exact (Prod.mk.inj allowed).2.symm
    · cases (Prod.mk.inj allowed).1

theorem closed_of_allowCall (allowed : allowCall now breaker = (true, after))
    (closed : after.state = .closed failures) : after = breaker := by
  rcases allowCall_admitted allowed with ⟨same, -⟩ | half
  · exact same
  · rw [half] at closed
    cases closed

theorem allowCall_not_opened (allowed : allowCall now breaker = (true, after)) :
    after.state ≠ .opened openedAt := by
  rcases allowCall_admitted allowed with ⟨rfl, shut⟩ | rfl
  · exact shut openedAt
  · simp

theorem allowCall_config (allowed : allowCall now breaker = (true, after)) :
    after.config = breaker.config := by
  rcases allowCall_admitted allowed with ⟨rfl, -⟩ | rfl
  · rfl
  · rfl

theorem allowCall_halfOpen (half : breaker.state = .halfOpen) :
    (allowCall now breaker).1 = true := by
  simp [allowCall,half]

/-- Only an open breaker becomes half-open when it is asked. -/
theorem opened_of_allowCall (allowed : allowCall now breaker = (answer, after))
    (half : after.state = .halfOpen) (before : breaker.state ≠ .halfOpen) :
    ∃ openedAt, breaker.state = .opened openedAt ∧ answer = true := by
  unfold allowCall at allowed
  cases state : breaker.state with
  | halfOpen => exact absurd state before
  | closed failures =>
    simp only [state] at allowed
    obtain ⟨-, rfl⟩ := Prod.mk.inj allowed
    exact absurd half before
  | opened openedAt =>
    simp only [state] at allowed
    by_cases elapsed : now - openedAt ≥ breaker.config.cooldown
    · rw [if_pos elapsed] at allowed
      exact ⟨openedAt, rfl, (Prod.mk.inj allowed).1.symm⟩
    · rw [if_neg elapsed] at allowed
      obtain ⟨-, rfl⟩ := Prod.mk.inj allowed
      exact absurd half before

theorem recordFailure_ne_halfOpen : (recordFailure now breaker).state ≠ .halfOpen := by
  unfold recordFailure
  split
  · dsimp only
    split <;> simp
  · simp
  · simp

theorem recordFailure_opened (opened : breaker.state = .opened openedAt) :
    (recordFailure now breaker).state = .opened now := by
  simp [recordFailure,opened]

end CircuitBreaker

/-- What a guarded call awaits: the commands of its own operation, the wait between two
attempts, and the breaker. -/
inductive GuardedCommand (C : Type) where
  | operation (command : C)
  | sleep (ms : Nat)
  | allowCall
  | recordSuccess
  | recordFailure

def GuardedCommand.Answer (R : C → Type) : GuardedCommand C → Type
  | operation command => R command
  | sleep _ | recordSuccess | recordFailure => Unit
  | allowCall => Bool

abbrev GuardedEvent (C : Type) (R : C → Type) :=
  Event (GuardedCommand C) (GuardedCommand.Answer R)

variable {C : Type} {R : C → Type}

def breakerPort : RetryPort (GuardedCommand C) (GuardedCommand.Answer R) where
  sleep ms := perform (GuardedCommand.sleep ms)
  allowCall := perform GuardedCommand.allowCall
  recordSuccess := perform GuardedCommand.recordSuccess
  recordFailure := perform GuardedCommand.recordFailure

namespace Breaker

/-- How far a call is with the breaker. -/
inductive CallPhase where
  | fresh | admitted | finished
  deriving DecidableEq, Repr

def CallPhase.allows : CallPhase → GuardedCommand C → Prop
  | _, .operation _ | _, .sleep _ => True
  | phase, .allowCall => phase = .fresh
  | phase, .recordSuccess | phase, .recordFailure => phase = .admitted

def CallPhase.next (phase : CallPhase) : GuardedEvent C R → CallPhase
  | ⟨.operation _, _⟩ | ⟨.sleep _, _⟩ => phase
  | ⟨.allowCall, Bool.true⟩ => .admitted
  | ⟨.allowCall, Bool.false⟩ => .finished
  | ⟨.recordSuccess, _⟩ | ⟨.recordFailure, _⟩ => .finished

/-- A call asks the breaker once, and records at most one outcome, after it was admitted. -/
def CallPhase.Keeps : CallPhase → List (GuardedEvent C R) → Prop
  | _, [] => True
  | phase, event :: trace => phase.allows event.command ∧ (phase.next event).Keeps trace

theorem keeps_of_follows {program : Program (GuardedCommand C) (GuardedCommand.Answer R) α}
    {ends : CallPhase → α → Prop} (run : Runs program trace outcome)
    (follows : program.Follows CallPhase.allows CallPhase.next ends phase) :
    phase.Keeps trace := by
  induction run generalizing phase with
  | cut => trivial
  | done => trivial
  | await run ih => exact ⟨follows.1, ih (follows.2 _)⟩

def OfOperation (command : GuardedCommand C) : Prop :=
  (∃ own, command = .operation own) ∨ ∃ ms, command = .sleep ms

theorem follows_attempts {operation : Program (GuardedCommand C) (GuardedCommand.Answer R)
    (Except ε α)} {posture : ε → FailurePosture} (within : operation.Within OfOperation) :
    (withRetry breakerPort policy posture operation).Follows CallPhase.allows CallPhase.next
      (fun phase _ => phase = .admitted) .admitted := by
  have attempts : (withRetry breakerPort policy posture operation).Within OfOperation :=
    within_retryLoop (fun ms => ⟨.inr ⟨ms, rfl⟩, fun _ => trivial⟩) within
  generalize withRetry breakerPort policy posture operation = program at attempts
  induction program with
  | done result => rfl
  | await command resume ih =>
    obtain ⟨own, rest⟩ := attempts
    rcases own with ⟨own, rfl⟩ | ⟨ms, rfl⟩
    · exact ⟨trivial, fun answer => ih answer (rest answer)⟩
    · exact ⟨trivial, fun answer => ih answer (rest answer)⟩

/-- A guarded call, wherever it is cut, keeps to the phases. -/
theorem keeps_withBreakerAndRetry {operation : Program (GuardedCommand C)
    (GuardedCommand.Answer R) (Except ε α)} {posture : ε → FailurePosture}
    (within : operation.Within OfOperation)
    (run : Runs (withBreakerAndRetry breakerPort policy label posture operation liftErr).run
      trace outcome) : CallPhase.fresh.Keeps trace := by
  have follows : (withBreakerAndRetry breakerPort policy label posture operation liftErr).run.Follows
      CallPhase.allows CallPhase.next (fun _ _ => True) .fresh := by
    refine ⟨rfl, fun admitted => ?_⟩
    cases admitted with
    | false => trivial
    | true =>
      change Program.Follows CallPhase.allows CallPhase.next _ .admitted
        (withRetry breakerPort policy posture operation >>= _)
      refine (follows_attempts within).bind fun phase result admitted => ?_
      subst admitted
      cases result with
      | ok value => exact ⟨rfl, fun _ => trivial⟩
      | error error =>
        simp only []
        split
        · exact ⟨rfl, fun _ => trivial⟩
        · trivial
  exact keeps_of_follows run follows

/-- The shared breaker and the clock. `probe` is the call that took the breaker out of its
last open state; the code does not keep it. -/
structure State where
  breaker : CircuitBreaker
  now : Nat
  probe : Option Nat
  deriving DecidableEq, Repr

def start (config : CircuitBreakerConfig) (now : Nat) : State := ⟨.new config, now, none⟩

inductive Operation (C : Type) (R : C → Type) where
  | guarded (call : Nat) (event : GuardedEvent C R)
  | elapsed (duration : Nat)

def State.probeAfter (call : Nat) (state : State) : Bool → Option Nat
  | true =>
    match state.breaker.state with
    | .opened _ => some call
    | .closed _ | .halfOpen => state.probe
  | false => state.probe

/-- The breaker before and after one answered command of a call. -/
def Answers (call : Nat) (before : State) : GuardedEvent C R → State → Prop
  | ⟨.allowCall, answer⟩, after => before.breaker.allowCall before.now = (answer, after.breaker) ∧
      after.now = before.now ∧ after.probe = before.probeAfter call answer
  | ⟨.recordSuccess, _⟩, after => after = { before with breaker := before.breaker.recordSuccess }
  | ⟨.recordFailure, _⟩, after =>
    after = { before with breaker := before.breaker.recordFailure before.now }
  | ⟨.operation _, _⟩, after | ⟨.sleep _, _⟩, after => after = before

def Step (before : State) : Operation C R → State → Prop
  | .guarded call event, after => Answers call before event after
  | .elapsed duration, after => after = { before with now := before.now + duration }

def Operation.event? : Operation C R → Option (Nat × GuardedEvent C R)
  | guarded call event => some (call, event)
  | elapsed _ => none

/-- The commands of one call among the operations. -/
def eventsOf (call : Nat) (world : List (Operation C R)) : List (GuardedEvent C R) :=
  localTrace call (world.filterMap Operation.event?)

/-- Any number of calls, each keeping to its phases, interleaved with the clock. -/
structure Execution (config : CircuitBreakerConfig) (now : Nat) (world : List (Operation C R))
    (final : State) : Prop where
  path : Path Step (start config now) world final
  calls : ∀ call, CallPhase.fresh.Keeps (eventsOf call world)

/-- Concurrent guarded calls, each with an operation, policy and types of its own, are such an
interleaving. -/
theorem Execution.of_runs (path : Path Step (start config now) world final)
    (calls : ∀ call, ∃ (α ε : Type) (operation : Program (GuardedCommand C)
      (GuardedCommand.Answer R) (Except ε α)) (policy : RetryPolicy) (label : String)
      (posture : ε → FailurePosture) (liftErr : ε → WalletError) (outcome : _),
      operation.Within OfOperation ∧
      Runs (withBreakerAndRetry breakerPort policy label posture operation liftErr).run
        (eventsOf call world) outcome) :
    Execution config now world final where
  path := path
  calls call := by
    obtain ⟨_, _, _, _, _, _, _, _, within, run⟩ := calls call
    exact keeps_withBreakerAndRetry within run

/-- The call records its outcome. -/
def Operation.Decides (call : Nat) : Operation C R → Prop
  | .guarded other ⟨.recordSuccess, _⟩ | .guarded other ⟨.recordFailure, _⟩ => other = call
  | _ => False

/-- From a call that takes the breaker out of its open state to the outcome of that call, no
other call is admitted. -/
def OneProbe (initial : State) (world : List (Operation C R)) : Prop :=
  ∀ before probe between other answer after state openedAt,
    world = before ++ .guarded probe ⟨.allowCall, Bool.true⟩ ::
      (between ++ .guarded other ⟨.allowCall, answer⟩ :: after) →
    Path Step initial before state → state.breaker.state = .opened openedAt →
    (∀ operation ∈ between, ¬ operation.Decides probe) → answer = Bool.false

/-- An open breaker in its cooldown, which opened after the call was admitted, is not closed by
the outcome of that call. -/
def NoEarlyClose (initial : State) (world : List (Operation C R)) : Prop :=
  ∀ earlier call middle outcome after state next,
    world = earlier ++ .guarded call ⟨.allowCall, Bool.true⟩ :: (middle ++ outcome :: after) →
    outcome.Decides call →
    Path Step initial (earlier ++ .guarded call ⟨.allowCall, Bool.true⟩ :: middle) state →
    state.breaker.Cooling state.now → Step state outcome next →
    ∀ failures, next.breaker.state ≠ .closed failures

/-- Nobody asks a half-open breaker, only the probe's outcome is recorded in it, and no success
is recorded during a cooldown. -/
def State.Undisturbed (state : State) : Operation C R → Prop
  | .guarded _ ⟨.allowCall, _⟩ => state.breaker.state ≠ .halfOpen
  | .guarded call ⟨.recordSuccess, _⟩ => ¬ state.breaker.Cooling state.now ∧
      (state.breaker.state = .halfOpen → state.probe = some call)
  | .guarded call ⟨.recordFailure, _⟩ => state.breaker.state = .halfOpen → state.probe = some call
  | _ => True

def Serialized (initial : State) (world : List (Operation C R)) : Prop :=
  ∀ before operation after state, world = before ++ operation :: after →
    Path Step initial before state → state.Undisturbed operation

theorem step_deterministic (before : State) (operation : Operation C R) (after other : State)
    (first : Step before operation after) (second : Step before operation other) :
    after = other := by
  cases operation with
  | elapsed duration => rw [show after = _ from first,show other = _ from second]
  | guarded call event =>
    rcases event with ⟨command, answer⟩
    cases command with
    | allowCall =>
      rcases after with ⟨breaker, now, probe⟩
      obtain ⟨allowed, sameTime, probed⟩ := first
      obtain ⟨allowed', sameTime', probed'⟩ := second
      have sameBreaker : breaker = other.breaker := (Prod.mk.inj (allowed.symm.trans allowed')).2
      rw [show now = _ from sameTime,show probe = _ from probed,sameBreaker,← sameTime',← probed']
    | _ => rw [show after = _ from first,show other = _ from second]

theorem Serialized.drop {initial state : State} {before after : List (Operation C R)}
    (serialized : Serialized initial (before ++ after)) (reached : Path Step initial before state) :
    Serialized state after := by
  intro earlier operation later next split path
  refine serialized (before ++ earlier) operation later next ?_ (reached.append path)
  rw [split,List.append_assoc]

theorem Serialized.tail {initial state : State} {world : List (Operation C R)}
    (serialized : Serialized initial (operation :: world)) (moves : Step initial operation state) :
    Serialized state world := by
  intro before next after later split path
  exact serialized (operation :: before) next after later (by rw [split]; rfl) (.cons moves path)

theorem Serialized.take {initial : State} {before after : List (Operation C R)}
    (serialized : Serialized initial (before ++ after)) : Serialized initial before := by
  intro earlier operation later state split path
  refine serialized earlier operation (later ++ after) state ?_ path
  rw [split,List.append_assoc,List.cons_append]

theorem Serialized.cons {initial state : State} {world : List (Operation C R)}
    (undisturbed : initial.Undisturbed operation) (moves : Step initial operation state)
    (rest : Serialized state world) : Serialized initial (operation :: world) := by
  intro before next after last split path
  cases before with
  | nil =>
    cases path
    obtain ⟨rfl, -⟩ := List.cons.inj split
    exact undisturbed
  | cons first before =>
    obtain ⟨rfl, -⟩ := List.cons.inj split
    cases path with
    | cons step path =>
      obtain rfl := step_deterministic _ _ _ _ moves step
      exact rest before next after last (List.cons.inj split).2 path

/-- The call that takes the breaker out of its open state leaves it half-open. -/
theorem halfOpen_of_probe {before after : State} (opened : before.breaker.state = .opened openedAt)
    (moves : Step (C := C) (R := R) before (.guarded probe ⟨.allowCall, Bool.true⟩) after) :
    after.breaker.state = .halfOpen ∧ after.probe = some probe := by
  obtain ⟨allowed, -, probed⟩ := moves
  have half := CircuitBreaker.allowCall_open opened (by rw [allowed])
  rw [allowed] at half
  exact ⟨by rw [show after.breaker = _ from half], by simp [probed,State.probeAfter,opened]⟩

/-- Undisturbed operations that do not decide the probe leave the breaker half-open. -/
theorem halfOpen_step {before after : State} {operation : Operation C R}
    (moves : Step before operation after) (undisturbed : before.Undisturbed operation)
    (half : before.breaker.state = .halfOpen) (probing : before.probe = some probe)
    (undecided : ¬ operation.Decides probe) :
    after.breaker.state = .halfOpen ∧ after.probe = some probe := by
  cases operation with
  | elapsed duration =>
    obtain rfl : after = _ := moves
    exact ⟨half, probing⟩
  | guarded call event =>
    rcases event with ⟨command, answer⟩
    cases command with
    | operation own | sleep ms =>
      obtain rfl : after = before := moves
      exact ⟨half, probing⟩
    | allowCall => exact absurd half undisturbed
    | recordSuccess =>
      have decided := undisturbed.2 half
      rw [probing] at decided
      exact absurd (Option.some.inj decided).symm undecided
    | recordFailure =>
      have decided := undisturbed half
      rw [probing] at decided
      exact absurd (Option.some.inj decided).symm undecided

theorem halfOpen_path {first last : State} {between : List (Operation C R)}
    (path : Path Step first between last) (serialized : Serialized first between)
    (half : first.breaker.state = .halfOpen) (probing : first.probe = some probe)
    (undecided : ∀ operation ∈ between, ¬ operation.Decides probe) :
    last.breaker.state = .halfOpen ∧ last.probe = some probe := by
  induction path with
  | nil => exact ⟨half, probing⟩
  | @cons state operation next between final moves path ih =>
    have undisturbed := serialized [] operation between state rfl .nil
    obtain ⟨half, probing⟩ := halfOpen_step moves undisturbed half probing
      (undecided operation List.mem_cons_self)
    exact ih (serialized.tail moves) half probing fun other member =>
      undecided other (List.mem_cons_of_mem _ member)

theorem oneProbe_of_serialized {initial final : State} {world : List (Operation C R)}
    (path : Path Step initial world final) (serialized : Serialized initial world) :
    OneProbe initial world := by
  intro before probe between other answer after state openedAt split reached opened undecided
  subst split
  -- the breaker is still half-open when the other call asks, which the condition excludes
  exfalso
  obtain ⟨middle, toMiddle, rest⟩ := Path.append_iff.mp path
  obtain rfl := reached.deterministic step_deterministic toMiddle
  cases rest with
  | cons moves rest =>
    obtain ⟨half, probing⟩ := halfOpen_of_probe opened moves
    obtain ⟨last, toLast, asking⟩ := Path.append_iff.mp rest
    have later := (serialized.drop reached).tail moves
    have still := halfOpen_path toLast later.take half probing undecided
    exact later between _ after last rfl toLast still.1

theorem noEarlyClose_of_serialized {initial : State} {world : List (Operation C R)}
    (serialized : Serialized initial world) : NoEarlyClose initial world := by
  intro earlier call middle outcome after state next split decides reached cooling moves failures
  have undisturbed := serialized _ outcome after state (by rw [split]; simp) reached
  cases outcome with
  | elapsed duration => exact absurd decides id
  | guarded other event =>
    rcases event with ⟨command, answer⟩
    cases command with
    | operation own | sleep ms | allowCall => exact absurd decides id
    | recordSuccess => exact absurd cooling undisturbed.1
    | recordFailure =>
      obtain ⟨openedAt, opened, -⟩ := cooling
      rw [show next = _ from moves,CircuitBreaker.recordFailure_opened opened]
      simp

/-- In every interleaving whose steps leave a half-open breaker to its probe and record no
success during a cooldown, one probe is admitted at a time and no cooldown is cut short. -/
theorem one_probe_of_serialized (config : CircuitBreakerConfig) (now : Nat)
    (world : List (Operation C R)) (final : State) (execution : Execution config now world final)
    (serialized : Serialized (start config now) world) :
    OneProbe (start config now) world ∧ NoEarlyClose (start config now) world :=
  ⟨oneProbe_of_serialized execution.path serialized, noEarlyClose_of_serialized serialized⟩

/-- A probe was admitted from an open breaker and its outcome is still out. -/
def ProbeOut (initial : State) (world : List (Operation C R)) : Prop :=
  ∃ before probe between opened openedAt,
    world = before ++ .guarded probe ⟨.allowCall, Bool.true⟩ :: between ∧
    Path Step initial before opened ∧ opened.breaker.state = .opened openedAt ∧
    ∀ operation ∈ between, ∀ call, ¬ operation.Decides call

theorem ProbeOut.concat {initial : State} {world : List (Operation C R)} {operation : Operation C R}
    (out : ProbeOut initial world) (quiet : ∀ call, ¬ operation.Decides call) :
    ProbeOut initial (world ++ [operation]) := by
  obtain ⟨before, probe, between, opened, openedAt, rfl, toOpened, isOpen, undecided⟩ := out
  refine ⟨before, probe, between ++ [operation], opened, openedAt, by simp, toOpened, isOpen, ?_⟩
  intro other member
  rcases List.mem_append.mp member with member | member
  · exact undecided other member
  · rw [List.mem_singleton.mp member]
    exact quiet

theorem probe_of_halfOpen {initial state : State} {world : List (Operation C R)}
    (path : Path Step initial world state) (fresh : initial.breaker.state ≠ .halfOpen)
    (half : state.breaker.state = .halfOpen) : ProbeOut initial world := by
  induction world using List.reverseRecOn generalizing state with
  | nil =>
    cases path
    exact absurd half fresh
  | append_singleton world operation ih =>
    obtain ⟨last, reached, moves⟩ := Path.concat_iff.mp path
    cases operation with
    | elapsed duration =>
      obtain rfl : state = _ := moves
      exact (ih reached half).concat fun _ => id
    | guarded call event =>
      rcases event with ⟨command, answer⟩
      cases command with
      | operation own | sleep ms =>
        obtain rfl : state = last := moves
        exact (ih reached half).concat fun _ => id
      | recordSuccess =>
        rw [show state = _ from moves] at half
        cases half
      | recordFailure =>
        rw [show state = _ from moves] at half
        exact absurd half CircuitBreaker.recordFailure_ne_halfOpen
      | allowCall =>
        obtain ⟨allowed, -, -⟩ := moves
        by_cases still : last.breaker.state = .halfOpen
        · exact (ih reached still).concat fun _ => id
        · obtain ⟨openedAt, opened, rfl⟩ := CircuitBreaker.opened_of_allowCall allowed half still
          exact ⟨world, call, [], last, openedAt, rfl, reached, opened, by simp⟩

/-- Whoever asks a half-open breaker is a second probe. -/
theorem not_oneProbe_of_asked {initial state : State} {before after : List (Operation C R)}
    (path : Path Step initial before state) (fresh : initial.breaker.state ≠ .halfOpen)
    (half : state.breaker.state = .halfOpen) (moves : Step (C := C) (R := R) state
      (.guarded other ⟨.allowCall, answer⟩) next) :
    ¬ OneProbe initial (before ++ .guarded other ⟨.allowCall, answer⟩ :: after) := by
  intro oneProbe
  obtain ⟨earlier, probe, between, opened, openedAt, rfl, reached, isOpen, undecided⟩ :=
    probe_of_halfOpen path fresh half
  have refused := oneProbe earlier probe between other answer after opened openedAt (by simp)
    reached isOpen fun operation member => undecided operation member probe
  have admitted : (state.breaker.allowCall state.now).1 = true :=
    CircuitBreaker.allowCall_halfOpen half
  rw [moves.1,refused] at admitted
  cases admitted

/-- A threshold of one failure and a cooldown of ten. -/
def sampleConfig : CircuitBreakerConfig := ⟨1, 10⟩

def asked (call : Nat) : Operation Empty fun _ => Unit := .guarded call ⟨.allowCall, Bool.true⟩
def succeeded (call : Nat) : Operation Empty fun _ => Unit := .guarded call ⟨.recordSuccess, ()⟩
def failed (call : Nat) : Operation Empty fun _ => Unit := .guarded call ⟨.recordFailure, ()⟩

theorem asked_step (state : State) (call : Nat)
    (admitted : (state.breaker.allowCall state.now).1 = true) : Step state (asked call)
      ⟨(state.breaker.allowCall state.now).2, state.now, state.probeAfter call true⟩ :=
  ⟨Prod.ext admitted rfl, rfl, rfl⟩

def halfOpenWorld : List (Operation Empty fun _ => Unit) :=
  [asked 0, failed 0, .elapsed 10, asked 1]

theorem halfOpenWorld_path : ∃ state, Path Step (start sampleConfig 0) halfOpenWorld state ∧
    state.breaker.state = .halfOpen :=
  ⟨_, .cons (asked_step _ 0 rfl) (.cons rfl (.cons rfl (.cons (asked_step _ 1 rfl) .nil))), rfl⟩

theorem halfOpenWorld_keeps (call : Nat) :
    CallPhase.fresh.Keeps (eventsOf call (halfOpenWorld ++ [asked 2])) := by
  rcases call with _ | _ | _ | call <;>
    simp [eventsOf,halfOpenWorld,asked,failed,Operation.event?,localTrace,List.filterMap_cons,
      CallPhase.Keeps,CallPhase.allows,CallPhase.next]

/-- The probe of the sample run answers before anybody else asks. -/
theorem halfOpenWorld_one_probe :
    OneProbe (start sampleConfig 0) (halfOpenWorld ++ [succeeded 1]) ∧
      NoEarlyClose (start sampleConfig 0) (halfOpenWorld ++ [succeeded 1]) := by
  have keeps (call : Nat) : CallPhase.fresh.Keeps (eventsOf call (halfOpenWorld ++ [succeeded 1])) := by
    rcases call with _ | _ | call <;>
      simp [eventsOf,halfOpenWorld,asked,failed,succeeded,Operation.event?,localTrace,
        List.filterMap_cons,CallPhase.Keeps,CallPhase.allows,CallPhase.next]
  refine one_probe_of_serialized sampleConfig 0 _ _ ⟨.cons (asked_step _ 0 rfl) (.cons rfl
    (.cons rfl (.cons (asked_step _ 1 rfl) (.cons rfl .nil)))), keeps⟩ ?_
  refine .cons (fun half => by cases half) (asked_step _ 0 rfl) (.cons (fun half => by cases half) rfl
    (.cons trivial rfl (.cons (fun half => by cases half) (asked_step _ 1 rfl) (.cons ?_ rfl ?_))))
  · refine ⟨fun cools => ?_, fun _ => rfl⟩
    obtain ⟨_, cooling, -⟩ := cools
    cases cooling
  · intro before next after _ split _
    exact absurd split.symm (by simp)

def coolingWorld : List (Operation Empty fun _ => Unit) := [asked 0, asked 1, failed 0]

theorem coolingWorld_path : Path Step (start sampleConfig 0) coolingWorld
    ⟨⟨sampleConfig, .opened 0⟩, 0, none⟩ :=
  .cons (asked_step _ 0 rfl) (.cons (asked_step _ 1 rfl) (.cons rfl .nil))

theorem coolingWorld_keeps (call : Nat) :
    CallPhase.fresh.Keeps (eventsOf call (coolingWorld ++ [succeeded 1])) := by
  rcases call with _ | _ | call <;>
    simp [eventsOf,coolingWorld,asked,failed,succeeded,Operation.event?,localTrace,
      CallPhase.Keeps,CallPhase.allows,CallPhase.next]

/-- Two calls are admitted while the breaker probes, and a success of a call from before the
breaker opened closes it at once. -/
theorem second_probe_admitted :
    (∃ (world : List (Operation Empty fun _ => Unit)) (final : State),
      Execution sampleConfig 0 world final ∧ ¬ OneProbe (start sampleConfig 0) world) ∧
    ∃ (world : List (Operation Empty fun _ => Unit)) (final : State),
      Execution sampleConfig 0 world final ∧ ¬ NoEarlyClose (start sampleConfig 0) world := by
  constructor
  · obtain ⟨state, reached, half⟩ := halfOpenWorld_path
    have moves := asked_step state 2 (CircuitBreaker.allowCall_halfOpen half)
    exact ⟨halfOpenWorld ++ [asked 2], _, ⟨reached.append (.cons moves .nil), halfOpenWorld_keeps⟩,
      not_oneProbe_of_asked reached (by simp [start,CircuitBreaker.new]) half moves⟩
  · refine ⟨coolingWorld ++ [succeeded 1], _, ⟨coolingWorld_path.append (.cons rfl .nil),
      coolingWorld_keeps⟩, fun noEarlyClose => ?_⟩
    exact noEarlyClose [asked 0] 1 [failed 0] (succeeded 1) [] _ _ rfl rfl coolingWorld_path
      ⟨0, rfl, by decide⟩ rfl 0 rfl

end Breaker
end Zally
