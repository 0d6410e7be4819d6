import Mathlib.Data.List.Basic

/-! Sequential programs that await the answers of an environment. A run is the list
of answered commands; a caller dropped at an await point leaves a run without an
outcome, and so does a crash. -/
namespace Async

/-- A call either returns or awaits the answer of one command. -/
inductive Program (C : Type) (R : C → Type) (α : Type) where
  | done (value : α)
  | await (command : C) (resume : R command → Program C R α)

/-- A command together with the answer the environment gave. -/
structure Event (C : Type) (R : C → Type) where
  command : C
  answer : R command

namespace Program

variable {C : Type} {R : C → Type} {α β γ ε : Type}

def bind : Program C R α → (α → Program C R β) → Program C R β
  | done value, next => next value
  | await command resume, next => await command fun answer => (resume answer).bind next

instance : Monad (Program C R) where
  pure := done
  bind := bind

/-- One command, whose answer is returned. -/
def perform (command : C) : Program C R (R command) := await command done

@[simp] theorem pure_eq (value : α) : (pure value : Program C R α) = done value := rfl

@[simp] theorem done_bind (value : α) (next : α → Program C R β) :
    (done value >>= next) = next value := rfl

@[simp] theorem await_bind (command : C) (resume : R command → Program C R α)
    (next : α → Program C R β) :
    (await command resume >>= next) = await command fun answer => resume answer >>= next := rfl

@[simp] theorem perform_bind (command : C) (next : R command → Program C R β) :
    (perform command >>= next) = await command next := rfl

theorem bind_done (program : Program C R α) : (program >>= done) = program := by
  induction program with
  | done value => rfl
  | await command resume ih => exact congrArg (await command) (funext ih)

theorem bind_assoc (program : Program C R α) (first : α → Program C R β)
    (second : β → Program C R γ) :
    (program >>= first >>= second) = program >>= fun value => first value >>= second := by
  induction program with
  | done value => rfl
  | await command resume ih => exact congrArg (await command) (funext ih)

instance : LawfulMonad (Program C R) :=
  LawfulMonad.mk' (Program C R) bind_done (fun _ _ => rfl) bind_assoc

/-- `Runs program trace outcome`: the environment answered the commands of `trace` in
order; the outcome is missing when the caller was dropped after the last of them. -/
inductive Runs : Program C R α → List (Event C R) → Option α → Prop where
  | cut : Runs program [] none
  | done : Runs (done value) [] (some value)
  | await {resume : R command → Program C R α} : Runs (resume answer) trace outcome →
      Runs (await command resume) (⟨command, answer⟩ :: trace) outcome

theorem runs_done_iff : Runs (done value : Program C R α) trace outcome ↔
    trace = [] ∧ (outcome = none ∨ outcome = some value) := by
  constructor
  · intro run
    cases run with
    | cut => exact ⟨rfl, .inl rfl⟩
    | done => exact ⟨rfl, .inr rfl⟩
  · rintro ⟨rfl, rfl | rfl⟩
    · exact .cut
    · exact .done

theorem runs_await_iff {resume : R command → Program C R α} :
    Runs (await command resume) trace outcome ↔
      (trace = [] ∧ outcome = none) ∨
      ∃ answer rest, trace = ⟨command, answer⟩ :: rest ∧ Runs (resume answer) rest outcome := by
  constructor
  · intro run
    cases run with
    | cut => exact .inl ⟨rfl, rfl⟩
    | await run => exact .inr ⟨_, _, rfl, run⟩
  · rintro (⟨rfl, rfl⟩ | ⟨answer, rest, rfl, run⟩)
    · exact .cut
    · exact .await run

theorem runs_await_cons_iff {resume : R command → Program C R α} {answer : R command} :
    Runs (await command resume) (⟨command, answer⟩ :: trace) outcome ↔
      Runs (resume answer) trace outcome := by
  constructor
  · intro run
    cases run with
    | await run => exact run
  · exact .await

/-- A finished run had its first command answered. -/
theorem runs_await_some {resume : R command → Program C R α}
    (run : Runs (await command resume) trace (some value)) :
    ∃ answer rest, trace = ⟨command, answer⟩ :: rest ∧ Runs (resume answer) rest (some value) := by
  rcases runs_await_iff.mp run with ⟨-, unfinished⟩ | answered
  · cases unfinished
  · exact answered

theorem runs_done_some (run : Runs (done value : Program C R α) trace (some outcome)) :
    trace = [] ∧ outcome = value := by
  obtain ⟨rfl, unfinished | same⟩ := runs_done_iff.mp run
  · cases unfinished
  · exact ⟨rfl, Option.some.inj same⟩

theorem runs_perform_iff : Runs (perform command : Program C R (R command)) trace outcome ↔
    (trace = [] ∧ outcome = none) ∨
      ∃ answer, trace = [⟨command, answer⟩] ∧ (outcome = none ∨ outcome = some answer) := by
  simp only [perform,runs_await_iff,runs_done_iff]
  constructor
  · rintro (cut | ⟨answer, rest, rfl, rfl, finished⟩)
    · exact .inl cut
    · exact .inr ⟨answer, rfl, finished⟩
  · rintro (cut | ⟨answer, rfl, finished⟩)
    · exact .inl cut
    · exact .inr ⟨answer, [], rfl, rfl, finished⟩

theorem runs_perform_some (run : Runs (perform command : Program C R (R command)) trace (some answer)) :
    trace = [⟨command, answer⟩] := by
  rcases runs_perform_iff.mp run with ⟨-, unfinished⟩ | ⟨found, rfl, unfinished | same⟩
  · cases unfinished
  · cases unfinished
  · rw [Option.some.inj same]

/-- A run of a sequence is a dropped run of its first part, or a finished one
followed by a run of the rest. -/
theorem runs_bind_iff {program : Program C R α} {next : α → Program C R β} :
    Runs (program >>= next) trace outcome ↔
      (outcome = none ∧ Runs program trace none) ∨
      ∃ value first second, trace = first ++ second ∧ Runs program first (some value) ∧
        Runs (next value) second outcome := by
  constructor
  · intro run
    induction program generalizing trace with
    | done value => exact .inr ⟨value, [], trace, rfl, .done, run⟩
    | await command resume ih =>
      rcases runs_await_iff.mp run with ⟨rfl, rfl⟩ | ⟨answer, tail, rfl, resumed⟩
      · exact .inl ⟨rfl, .cut⟩
      · rcases ih answer resumed with ⟨rfl, start⟩ | ⟨value, first, second, rfl, start, rest⟩
        · exact .inl ⟨rfl, .await start⟩
        · exact .inr ⟨value, _, second, rfl, .await start, rest⟩
  · rintro (⟨rfl, run⟩ | ⟨value, first, second, rfl, run, rest⟩)
    · induction program generalizing trace with
      | done value =>
        obtain ⟨rfl, -⟩ := runs_done_iff.mp run
        exact .cut
      | await command resume ih =>
        rcases runs_await_iff.mp run with ⟨rfl, -⟩ | ⟨answer, tail, rfl, resumed⟩
        · exact .cut
        · exact .await (ih answer resumed)
    · induction program generalizing first with
      | done other =>
        obtain ⟨rfl, h⟩ := runs_done_iff.mp run
        rcases h with h | h <;> cases h
        exact rest
      | await command resume ih =>
        rcases runs_await_iff.mp run with ⟨rfl, h⟩ | ⟨answer, tail, rfl, resumed⟩
        · cases h
        · exact .await (ih answer tail resumed)

/-- The events of a run decide where a finished run of the same program ends, and how. -/
theorem Runs.unique {program : Program C R α} (run : Runs program first (some value))
    (other : Runs program second (some result)) (same : first ++ rest = second ++ tail) :
    first = second ∧ value = result := by
  induction program generalizing first second with
  | done returned =>
    obtain ⟨rfl, rfl⟩ := runs_done_some run
    obtain ⟨rfl, rfl⟩ := runs_done_some other
    exact ⟨rfl, rfl⟩
  | await command resume ih =>
    obtain ⟨answer, before, rfl, resumed⟩ := runs_await_some run
    obtain ⟨answer', before', rfl, otherResumed⟩ := runs_await_some other
    obtain ⟨asked, later⟩ := List.cons.inj same
    cases asked
    obtain ⟨rfl, rfl⟩ := ih answer resumed otherResumed later
    exact ⟨rfl, rfl⟩

/-- Dropping the caller earlier is also a run. -/
theorem Runs.take {program : Program C R α} (run : Runs program (first ++ second) outcome) :
    Runs program first none := by
  induction first generalizing program with
  | nil => exact .cut
  | cons event first ih =>
    cases run with
    | await run => exact .await (ih run)

theorem Runs.dropped {program : Program C R α} (run : Runs program trace outcome) :
    Runs program trace none := by
  rw [← List.append_nil trace] at run
  exact run.take

/-- Every command the program may await belongs to `commands`. -/
def Within (commands : C → Prop) : Program C R α → Prop
  | done _ => True
  | await command resume => commands command ∧ ∀ answer, (resume answer).Within commands

@[simp] theorem within_done {commands : C → Prop} :
    (done value : Program C R α).Within commands := trivial

@[simp] theorem within_await {commands : C → Prop} {resume : R command → Program C R α} :
    (await command resume).Within commands ↔
      commands command ∧ ∀ answer, (resume answer).Within commands := Iff.rfl

@[simp] theorem within_perform {commands : C → Prop} :
    (perform command : Program C R (R command)).Within commands ↔ commands command := by
  simp [perform]

theorem Within.bind {commands : C → Prop} {program : Program C R α} {next : α → Program C R β}
    (first : program.Within commands) (rest : ∀ value, (next value).Within commands) :
    (program >>= next).Within commands := by
  induction program with
  | done value => exact rest value
  | await command resume ih => exact ⟨first.1, fun answer => ih answer (first.2 answer)⟩

theorem Within.mono {small large : C → Prop} {program : Program C R α}
    (first : program.Within small) (covers : ∀ command, small command → large command) :
    program.Within large := by
  induction program with
  | done value => trivial
  | await command resume ih =>
    exact ⟨covers command first.1, fun answer => ih answer (first.2 answer)⟩

theorem Runs.within {commands : C → Prop} {program : Program C R α}
    (run : Runs program trace outcome) (within : program.Within commands) :
    ∀ event ∈ trace, commands event.command := by
  induction run with
  | cut => simp
  | done => simp
  | await run ih =>
    intro event member
    rcases List.mem_cons.mp member with rfl | member
    · exact within.1
    · exact ih (within.2 _) event member

/-- Every command the program may await is allowed after the events before it. -/
def Guarded (allowed : List (Event C R) → C → Prop) (past : List (Event C R)) :
    Program C R α → Prop
  | done _ => True
  | await command resume => allowed past command ∧
      ∀ answer, (resume answer).Guarded allowed (past ++ [⟨command, answer⟩])

/-- A program whose commands stay allowed whatever follows the past. -/
theorem guarded_of_past {allowed : List (Event C R) → C → Prop} {program : Program C R α}
    (holds : ∀ later command, allowed (past ++ later) command) : program.Guarded allowed past := by
  induction program generalizing past with
  | done value => trivial
  | await command resume ih =>
    refine ⟨by simpa using holds [] command, fun answer => ih answer fun later next => ?_⟩
    rw [List.append_assoc]
    exact holds _ next

theorem Within.guarded {commands : C → Prop} {allowed : List (Event C R) → C → Prop}
    {program : Program C R α} (within : program.Within commands)
    (allows : ∀ past command, commands command → allowed past command) :
    program.Guarded allowed past := by
  induction program generalizing past with
  | done value => trivial
  | await command resume ih =>
    exact ⟨allows past command within.1, fun answer => ih answer (within.2 answer)⟩

theorem Runs.guarded {allowed : List (Event C R) → C → Prop} {program : Program C R α}
    (run : Runs program (before ++ event :: after) outcome) (guarded : program.Guarded allowed past) :
    allowed (past ++ before) event.command := by
  induction before generalizing past program with
  | nil =>
    cases run with
    | await => simpa using guarded.1
  | cons first before ih =>
    cases run with
    | await run => simpa using ih run (guarded.2 _)

/-- A program against an automaton of phases: each command is allowed in the phase that the
answers before it led to, and the returned value fits the last phase. -/
def Follows {σ : Type} (allows : σ → C → Prop) (next : σ → Event C R → σ) (ends : σ → α → Prop) :
    σ → Program C R α → Prop
  | phase, done value => ends phase value
  | phase, await command resume => allows phase command ∧
      ∀ answer, (resume answer).Follows allows next ends (next phase ⟨command, answer⟩)

section Follows

variable {σ : Type} {allows : σ → C → Prop} {next : σ → Event C R → σ}

theorem Follows.bind {first : σ → α → Prop} {ends : σ → β → Prop} {program : Program C R α}
    {rest : α → Program C R β} (follows : program.Follows allows next first phase)
    (continues : ∀ phase value, first phase value → (rest value).Follows allows next ends phase) :
    (program >>= rest).Follows allows next ends phase := by
  induction program generalizing phase with
  | done value => exact continues phase value follows
  | await command resume ih => exact ⟨follows.1, fun answer => ih answer (follows.2 answer)⟩

theorem Within.follows {commands : C → Prop} {program : Program C R α}
    (within : program.Within commands) (allowed : ∀ phase command, commands command →
      allows phase command) : program.Follows allows next (fun _ _ => True) phase := by
  induction program generalizing phase with
  | done value => trivial
  | await command resume ih =>
    exact ⟨allowed phase command within.1, fun answer => ih answer (within.2 answer)⟩

theorem Runs.allowed {ends : σ → α → Prop} {program : Program C R α}
    (run : Runs program (before ++ event :: after) outcome)
    (follows : program.Follows allows next ends phase) :
    allows (before.foldl next phase) event.command := by
  induction before generalizing phase program with
  | nil =>
    cases run with
    | await => exact follows.1
  | cons first before ih =>
    cases run with
    | await run => exact ih run (follows.2 _)

theorem Runs.ends {ends : σ → α → Prop} {program : Program C R α}
    (run : Runs program trace (some value)) (follows : program.Follows allows next ends phase) :
    ends (trace.foldl next phase) value := by
  induction trace generalizing phase program with
  | nil =>
    cases run with
    | done => exact follows
  | cons event trace ih =>
    cases run with
    | await run => exact ih run (follows.2 _)

end Follows

/-- Every value the program may return satisfies `property`. -/
def Returns (property : α → Prop) : Program C R α → Prop
  | done value => property value
  | await _ resume => ∀ answer, (resume answer).Returns property

theorem Returns.bind {first : α → Prop} {second : β → Prop} {program : Program C R α}
    {next : α → Program C R β} (returns : program.Returns first)
    (rest : ∀ value, first value → (next value).Returns second) :
    (program >>= next).Returns second := by
  induction program with
  | done value => exact rest value returns
  | await command resume ih => exact fun answer => ih answer (returns answer)

theorem returns_trivial {property : α → Prop} (always : ∀ value, property value)
    (program : Program C R α) : program.Returns property := by
  induction program with
  | done value => exact always value
  | await command resume ih => exact ih

theorem Runs.returns {property : α → Prop} {program : Program C R α}
    (run : Runs program trace (some value)) (returns : program.Returns property) :
    property value := by
  induction trace generalizing program with
  | nil => cases run with
    | done => exact returns
  | cons event trace ih => cases run with
    | await run => exact ih run (returns _)

end Program

/-- A program that returns or fails. -/
abbrev Fallible (C : Type) (R : C → Type) (ε : Type) := ExceptT ε (Program C R)

namespace Fallible

open Program

variable {C : Type} {R : C → Type} {α β ε : Type}

/-- A run of a fallible sequence is dropped in its first part, fails there, or
continues with the value the first part returned. -/
theorem runs_bind_iff {program : Fallible C R ε α} {next : α → Fallible C R ε β} :
    Runs (program >>= next).run trace outcome ↔
      (outcome = none ∧ Runs program.run trace none) ∨
      (∃ error, outcome = some (.error error) ∧ Runs program.run trace (some (.error error))) ∨
      (outcome = none ∧ ∃ error, Runs program.run trace (some (.error error))) ∨
      ∃ value first second, trace = first ++ second ∧ Runs program.run first (some (.ok value)) ∧
        Runs (next value).run second outcome := by
  simp only [ExceptT.run_bind, Program.runs_bind_iff]
  constructor
  · rintro (⟨rfl, run⟩ | ⟨value, first, second, rfl, run, rest⟩)
    · exact .inl ⟨rfl, run⟩
    · cases value with
      | ok value => exact .inr (.inr (.inr ⟨value, first, second, rfl, run, rest⟩))
      | error error =>
        obtain ⟨rfl, rfl | rfl⟩ := runs_done_iff.mp rest
        · exact .inr (.inr (.inl ⟨rfl, error, by simpa using run⟩))
        · exact .inr (.inl ⟨error, rfl, by simpa using run⟩)
  · rintro (⟨rfl, run⟩ | ⟨error, rfl, run⟩ | ⟨rfl, error, run⟩ | ⟨value, first, second, rfl, run, rest⟩)
    · exact .inl ⟨rfl, run⟩
    · exact .inr ⟨.error error, trace, [], by simp, run, .done⟩
    · exact .inr ⟨.error error, trace, [], by simp, run, .cut⟩
    · exact .inr ⟨.ok value, first, second, rfl, run, rest⟩

/-- A run of a fallible sequence stops in its first part without a value, or continues. -/
theorem runs_bind_cases {program : Fallible C R ε α} {next : α → Fallible C R ε β}
    (run : Runs (program >>= next).run trace outcome) :
    (Runs program.run trace none ∧ ∀ value, outcome ≠ some (.ok value)) ∨
      ∃ value first second, trace = first ++ second ∧ Runs program.run first (some (.ok value)) ∧
        Runs (next value).run second outcome := by
  rcases runs_bind_iff.mp run with ⟨rfl, cut⟩ | ⟨error, rfl, failed⟩ | ⟨rfl, error, failed⟩ | continued
  · exact .inl ⟨cut, by simp⟩
  · exact .inl ⟨failed.dropped, by simp⟩
  · exact .inl ⟨failed.dropped, by simp⟩
  · exact .inr continued

/-- A finished run of a fallible sequence fails in its first part, or continues. -/
theorem runs_bind_some {program : Fallible C R ε α} {next : α → Fallible C R ε β}
    {outcome : Except ε β} (run : Runs (program >>= next).run trace (some outcome)) :
    (∃ error, outcome = .error error ∧ Runs program.run trace (some (.error error))) ∨
      ∃ value first second, trace = first ++ second ∧ Runs program.run first (some (.ok value)) ∧
        Runs (next value).run second (some outcome) := by
  rcases runs_bind_iff.mp run with ⟨cut, -⟩ | ⟨error, failed, run⟩ | ⟨cut, -⟩ | continued
  · cases cut
  · exact .inl ⟨error, by simpa using failed, run⟩
  · cases cut
  · exact .inr continued

/-- What a run of a thrown error shows. -/
theorem runs_thrown {error : ε}
    (run : Runs (done (.error error) : Program C R (Except ε α)) trace outcome) :
    trace = [] ∧ ∀ value, outcome ≠ some (.ok value) := by
  obtain ⟨rfl, ended⟩ := runs_done_iff.mp run
  refine ⟨rfl, fun value ok => ?_⟩
  rcases ended with rfl | rfl <;> cases ok

/-- One fallible command whose error is lifted to the caller's error type. -/
def call {ε' : Type} (lift : ε' → ε) (program : Program C R (Except ε' α)) : Fallible C R ε α :=
  ExceptT.mk do return (← program).mapError lift

/-- A call followed by more stops with the lifted error or goes on with the value. -/
theorem run_call_bind {ε' : Type} {lift : ε' → ε} {program : Program C R (Except ε' α)}
    {next : α → Fallible C R ε β} : (call lift program >>= next).run =
      program >>= fun result => match result with
        | .ok value => (next value).run
        | .error error => done (.error (lift error)) := by
  rw [ExceptT.run_bind,call,ExceptT.run_mk,Program.bind_assoc]
  refine congrArg (program >>= ·) (funext fun result => ?_)
  cases result <;> rfl

theorem run_lift_bind {program : Program C R α} {next : α → Fallible C R ε β} :
    ((ExceptT.lift program : Fallible C R ε α) >>= next).run =
      program >>= fun value => (next value).run := by
  simp

/-- A lifted program's runs are its own, with the error translated. -/
theorem runs_lifted_iff {ε' : Type} {lift : ε' → ε} {program : Program C R (Except ε' α)} :
    Runs (call lift program).run trace outcome ↔
      (outcome = none ∧ Runs program trace none) ∨
      ∃ result, Runs program trace (some result) ∧
        (outcome = none ∨ outcome = some (result.mapError lift)) := by
  simp only [call,ExceptT.run_mk,Program.runs_bind_iff]
  constructor
  · rintro (dropped | ⟨result, first, second, rfl, run, finished⟩)
    · exact .inl dropped
    · obtain ⟨rfl, ended⟩ := runs_done_iff.mp finished
      exact .inr ⟨result, by simpa using run, ended⟩
  · rintro (dropped | ⟨result, run, ended⟩)
    · exact .inl dropped
    · exact .inr ⟨result, trace, [], by simp, run, runs_done_iff.mpr ⟨rfl, ended⟩⟩

theorem runs_call_iff {ε' : Type} {lift : ε' → ε} {command : C}
    {answer : R command → Except ε' α} :
    Runs (call lift (await command fun reply => done (answer reply))).run trace outcome ↔
      (trace = [] ∧ outcome = none) ∨
      ∃ reply, trace = [⟨command, reply⟩] ∧
        (outcome = none ∨ outcome = some ((answer reply).mapError lift)) := by
  simp only [call,ExceptT.run_mk,await_bind,done_bind,pure_eq,runs_await_iff,runs_done_iff]
  constructor
  · rintro (cut | ⟨reply, rest, rfl, rfl, h⟩)
    · exact .inl cut
    · exact .inr ⟨reply, rfl, h⟩
  · rintro (cut | ⟨reply, rfl, h⟩)
    · exact .inl cut
    · exact .inr ⟨reply, [], rfl, rfl, h⟩

/-- A finished call logged its answer and returned it. -/
theorem runs_call_some {ε' : Type} {lift : ε' → ε} {command : C}
    {answer : R command → Except ε' α} {outcome : Except ε α}
    (run : Runs (call lift (await command fun reply => done (answer reply))).run trace
      (some outcome)) :
    ∃ reply, trace = [⟨command, reply⟩] ∧ outcome = (answer reply).mapError lift := by
  rcases runs_call_iff.mp run with ⟨-, ended⟩ | ⟨reply, rfl, ended⟩
  · cases ended
  · exact ⟨reply, rfl, by simpa using ended⟩

/-- A call that returned a value was answered with it. -/
theorem runs_call_ok {ε' : Type} {lift : ε' → ε} {command : C}
    {answer : R command → Except ε' α}
    (run : Runs (call lift (await command fun reply => done (answer reply))).run trace
      (some (.ok value))) :
    ∃ reply, trace = [⟨command, reply⟩] ∧ answer reply = .ok value := by
  obtain ⟨reply, rfl, ended⟩ := runs_call_some run
  refine ⟨reply, rfl, ?_⟩
  cases answered : answer reply with
  | error error => simp [answered,Except.mapError] at ended
  | ok found => simpa [answered,Except.mapError] using ended.symm

theorem within_bind {commands : C → Prop} {program : Fallible C R ε α}
    {next : α → Fallible C R ε β} (first : program.run.Within commands)
    (rest : ∀ value, (next value).run.Within commands) :
    (program >>= next).run.Within commands := by
  rw [ExceptT.run_bind]
  refine first.bind fun result => ?_
  cases result with
  | ok value => exact rest value
  | error error => trivial

theorem within_call {ε' : Type} {lift : ε' → ε} {commands : C → Prop}
    {program : Program C R (Except ε' α)} (within : program.Within commands) :
    (call lift program).run.Within commands := within.bind fun _ => trivial

theorem within_lift {commands : C → Prop} {program : Program C R α}
    (within : program.Within commands) :
    (ExceptT.lift program : Fallible C R ε α).run.Within commands :=
  within.bind fun _ => trivial

/-- Every value the program may return, when it does not fail, satisfies `property`. -/
def Returns (property : α → Prop) (program : Fallible C R ε α) : Prop :=
  program.run.Returns fun result => ∀ value, result = .ok value → property value

theorem Returns.bind {first : α → Prop} {second : β → Prop} {program : Fallible C R ε α}
    {next : α → Fallible C R ε β} (returns : Returns first program)
    (rest : ∀ value, first value → Returns second (next value)) :
    Returns second (program >>= next) := by
  refine Program.Returns.bind returns fun result holds => ?_
  cases result with
  | ok value => exact rest value (holds value rfl)
  | error error => exact fun value equal => nomatch equal

theorem returns_trivial {property : α → Prop} (always : ∀ value, property value)
    (program : Fallible C R ε α) : Returns property program :=
  Program.returns_trivial (fun _ value _ => always value) _

theorem Returns.ok {property : α → Prop} {program : Fallible C R ε α}
    (returns : Returns property program) (run : Runs program.run trace (some (.ok value))) :
    property value := run.returns returns value rfl

theorem returns_throw {property : α → Prop} (error : ε) :
    Returns property (throw error : Fallible C R ε α) := fun _ equal => nomatch equal

theorem returns_pure {property : α → Prop} (holds : property value) :
    Returns property (pure value : Fallible C R ε α) := by
  rintro _ ⟨⟩
  exact holds

end Fallible
end Async
