import Zally.Async.Program

/-! Programs whose commands act on a state that others change in between: what holds when a
program returns, from what holds when it starts and what the others keep. -/
namespace Async

open Program

/-- What an answered command does to the shared state, and what the others may do to it. -/
structure Sharing (C : Type) (R : C → Type) (σ : Type) where
  serves : σ → Event C R → σ → Prop
  others : σ → σ → Prop

namespace Sharing

variable {C : Type} {R : C → Type} {σ α β ε ε' : Type} {sharing : Sharing C R σ}

/-- The program's own events in order, with steps of the others anywhere between them. -/
inductive Along (sharing : Sharing C R σ) : σ → List (Event C R) → σ → Prop where
  | done : Along sharing state [] state
  | other (steps : sharing.others state middle) (rest : Along sharing middle trace final) :
      Along sharing state trace final
  | own (served : sharing.serves state event middle) (rest : Along sharing middle trace final) :
      Along sharing state (event :: trace) final

/-- A property that no step of the others takes away. -/
def Stable (sharing : Sharing C R σ) (holds : σ → Prop) : Prop :=
  ∀ state after, sharing.others state after → holds state → holds after

/-- Whenever the program returns, `after` holds of the value and of the state. -/
def Ensures (sharing : Sharing C R σ) (before : σ → Prop) (program : Program C R α)
    (after : α → σ → Prop) : Prop :=
  ∀ start trace value final, before start → Runs program trace (some value) →
    Along sharing start trace final → after value final

/-- What holds of a value returned, or of an error. -/
def Ends (returned : α → σ → Prop) (failed : ε → σ → Prop) : Except ε α → σ → Prop
  | .ok value => returned value
  | .error error => failed error

theorem Along.stable {holds : σ → Prop} (along : Along sharing start [] final)
    (stable : sharing.Stable holds) (first : holds start) : holds final := by
  generalize same : ([] : List (Event C R)) = trace at along
  induction along with
  | done => exact first
  | other steps _ ih => exact ih (stable _ _ steps first) same
  | own => cases same

theorem Along.cons {holds : σ → Prop} (along : Along sharing start (event :: trace) final)
    (stable : sharing.Stable holds) (first : holds start) :
    ∃ before middle, holds before ∧ sharing.serves before event middle ∧
      Along sharing middle trace final := by
  generalize same : event :: trace = whole at along
  induction along with
  | done => cases same
  | other steps _ ih => exact ih (stable _ _ steps first) same
  | own served rest =>
    cases same
    exact ⟨_, _, first, served, rest⟩

theorem Along.append (along : Along sharing start (first ++ second) final) :
    ∃ middle, Along sharing start first middle ∧ Along sharing middle second final := by
  generalize same : first ++ second = whole at along
  induction along generalizing first with
  | done =>
    obtain ⟨rfl, rfl⟩ := List.append_eq_nil_iff.mp same
    exact ⟨_, .done, .done⟩
  | other steps _ ih =>
    obtain ⟨middle, before, after⟩ := ih same
    exact ⟨middle, .other steps before, after⟩
  | own served rest ih =>
    cases first with
    | nil =>
      obtain rfl : second = _ := same
      exact ⟨_, .done, .own served rest⟩
    | cons event first =>
      rw [List.cons_append] at same
      obtain ⟨rfl, tail⟩ := List.cons.inj same
      obtain ⟨middle, before, after⟩ := ih tail
      exact ⟨middle, .own served before, after⟩

theorem stable_or {first second : σ → Prop} (stable : sharing.Stable first)
    (stable' : sharing.Stable second) : sharing.Stable fun state => first state ∨ second state :=
  fun state after steps => Or.imp (stable state after steps) (stable' state after steps)

theorem stable_and_given {holds : σ → Prop} {fact : Prop} (stable : sharing.Stable holds) :
    sharing.Stable fun state => holds state ∧ fact :=
  fun state after steps => And.imp_left (stable state after steps)

namespace Ensures

variable {before : σ → Prop}

theorem mono {strong : σ → Prop} {weak : α → σ → Prop} {after : α → σ → Prop}
    {program : Program C R α} (ensures : sharing.Ensures before program after)
    (given : ∀ state, strong state → before state)
    (follows : ∀ value state, after value state → weak value state) :
    sharing.Ensures strong program weak := fun start trace value final first run along =>
  follows value final (ensures start trace value final (given start first) run along)

/-- A fact that is not about the state is known from the start. -/
theorem given {fact : Prop} {program : Program C R α} {after : α → σ → Prop}
    (ensures : fact → sharing.Ensures before program after) :
    sharing.Ensures (fun state => before state ∧ fact) program after :=
  fun start trace value final first => ensures first.2 start trace value final first.1

theorem done {after : α → σ → Prop} (stable : sharing.Stable (after value))
    (holds : ∀ state, before state → after value state) :
    sharing.Ensures before (done value) after := by
  intro start trace result final first run along
  obtain ⟨rfl, rfl⟩ := runs_done_some run
  exact along.stable stable (holds start first)

theorem perform {command : C} {after : R command → σ → Prop} (stable : sharing.Stable before)
    (stable' : ∀ answer, sharing.Stable (after answer))
    (step : ∀ state answer next, before state → sharing.serves state ⟨command, answer⟩ next →
      after answer next) : sharing.Ensures before (perform command) after := by
  intro start trace answer final first run along
  obtain rfl := runs_perform_some run
  obtain ⟨state, next, holds, served, rest⟩ := along.cons stable first
  exact rest.stable (stable' answer) (step state answer next holds served)

theorem bind {middle : α → σ → Prop} {after : β → σ → Prop} {program : Program C R α}
    {next : α → Program C R β} (first : sharing.Ensures before program middle)
    (rest : ∀ value, sharing.Ensures (middle value) (next value) after) :
    sharing.Ensures before (program >>= next) after := by
  intro start trace result final holds run along
  rcases runs_bind_iff.mp run with ⟨unfinished, -⟩ | ⟨value, early, late, rfl, ran, continued⟩
  · cases unfinished
  · obtain ⟨state, alongFirst, alongRest⟩ := along.append
    exact rest value state late result final (first start early value state holds ran alongFirst)
      continued alongRest

/-- Commands that leave the property alone keep it. -/
theorem of_within {commands : C → Prop} {program : Program C R α} (within : program.Within commands)
    (stable : sharing.Stable before)
    (served : ∀ state event next, commands event.command → before state →
      sharing.serves state event next → before next) :
    sharing.Ensures before program fun _ => before := by
  intro start trace value final holds run along
  have allowed := run.within within
  clear run within
  induction along with
  | done => exact holds
  | other steps _ ih => exact ih (stable _ _ steps holds) allowed
  | own serves _ ih =>
    have own := served _ _ _ (allowed _ List.mem_cons_self) holds serves
    exact ih own fun event member => allowed event (List.mem_cons_of_mem _ member)

theorem bind_fallible {middle : α → σ → Prop} {returned : β → σ → Prop} {failed : ε → σ → Prop}
    {program : Fallible C R ε α} {next : α → Fallible C R ε β}
    (first : sharing.Ensures before program.run (Ends middle failed))
    (stable : ∀ error, sharing.Stable (failed error))
    (rest : ∀ value, sharing.Ensures (middle value) (next value).run (Ends returned failed)) :
    sharing.Ensures before (program >>= next).run (Ends returned failed) := by
  rw [ExceptT.run_bind]
  refine bind first fun result => ?_
  cases result with
  | ok value => exact rest value
  | error error => exact done (stable error) fun _ => id

theorem call {returned : α → σ → Prop} {failed : ε → σ → Prop} {lift : ε' → ε}
    {program : Program C R (Except ε' α)} (stable : ∀ value, sharing.Stable (returned value))
    (stable' : ∀ error, sharing.Stable (failed (lift error)))
    (asked : sharing.Ensures before program (Ends returned fun error => failed (lift error))) :
    sharing.Ensures before (Fallible.call lift program).run (Ends returned failed) := by
  refine bind asked fun result => ?_
  cases result with
  | ok value => exact done (stable value) fun _ => id
  | error error => exact done (stable' error) fun _ => id

end Ensures
end Sharing
end Async
