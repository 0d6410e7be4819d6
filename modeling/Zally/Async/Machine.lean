import Mathlib.Data.List.Basic
import Mathlib.Data.List.Induction

/-! Executions of a labelled step relation, and the view one thread has of an
interleaving. -/
namespace Async

/-- A finite execution and the labels of its steps. -/
inductive Path (step : σ → ι → σ → Prop) : σ → List ι → σ → Prop where
  | nil : Path step state [] state
  | cons : step state label next → Path step next labels final →
      Path step state (label :: labels) final

namespace Path

variable {σ ι : Type} {step : σ → ι → σ → Prop}

theorem append (first : Path step start before middle) (second : Path step middle after final) :
    Path step start (before ++ after) final := by
  induction first with
  | nil => exact second
  | cons moves _ ih => exact .cons moves (ih second)

theorem append_iff : Path step start (before ++ after) final ↔
    ∃ middle, Path step start before middle ∧ Path step middle after final := by
  constructor
  · intro path
    induction before generalizing start with
    | nil => exact ⟨start, .nil, path⟩
    | cons label before ih =>
      cases path with
      | cons moves path =>
        obtain ⟨middle, first, second⟩ := ih path
        exact ⟨middle, .cons moves first, second⟩
  · rintro ⟨middle, first, second⟩
    exact first.append second

/-- A property every step preserves holds along the whole execution. -/
theorem invariant (property : σ → Prop)
    (preserved : ∀ state label next, property state → step state label next → property next)
    (path : Path step start labels final) (initial : property start) : property final := by
  induction path with
  | nil => exact initial
  | cons moves _ ih => exact ih (preserved _ _ _ initial moves)

/-- The same when only the steps of the execution preserve the property. -/
theorem invariant_mem (property : σ → Prop)
    (preserved : ∀ label ∈ labels, ∀ state next, property state → step state label next →
      property next)
    (path : Path step start labels final) (initial : property start) : property final := by
  induction path with
  | nil => exact initial
  | cons moves _ ih =>
    obtain ⟨first, rest⟩ := List.forall_mem_cons.mp preserved
    exact ih rest (first _ _ initial moves)

/-- A reflexive and transitive relation that contains every step relates both ends. -/
theorem related (relation : σ → σ → Prop) (refl : ∀ state, relation state state)
    (trans : ∀ {first second third}, relation first second → relation second third →
      relation first third)
    (contains : ∀ state label next, step state label next → relation state next)
    (path : Path step start labels final) : relation start final := by
  induction path with
  | nil => exact refl _
  | cons moves _ ih => exact trans (contains _ _ _ moves) ih

/-- When a label decides the next state, the labels decide the final one. -/
theorem deterministic (decides : ∀ state label next other, step state label next →
    step state label other → next = other)
    (first : Path step start labels final) (second : Path step start labels other) :
    final = other := by
  induction first with
  | nil =>
    cases second
    rfl
  | cons moves _ ih =>
    cases second with
    | cons step rest =>
      obtain rfl := decides _ _ _ _ moves step
      exact ih rest

/-- The step an execution takes after its first labels. -/
theorem step_of_append (decides : ∀ state label next other, step state label next →
    step state label other → next = other)
    (path : Path step start (before ++ label :: after) final)
    (reached : Path step start before state) : ∃ next, step state label next := by
  obtain ⟨middle, toMiddle, rest⟩ := append_iff.mp path
  obtain rfl := reached.deterministic decides toMiddle
  cases rest with
  | cons moves _ => exact ⟨_, moves⟩

/-- A run of one more label ends with a step. -/
theorem concat_iff : Path step start (before ++ [label]) final ↔
    ∃ state, Path step start before state ∧ step state label final := by
  rw [append_iff]
  constructor
  · rintro ⟨state, reached, last⟩
    cases last with
    | cons moves nothing =>
      cases nothing
      exact ⟨state, reached, moves⟩
  · rintro ⟨state, reached, moves⟩
    exact ⟨state, reached, .cons moves .nil⟩

/-- What the labels so far record of a state, when every step extends the record. -/
theorem recorded (property : List ι → σ → Prop) (initial : property [] start)
    (extended : ∀ labels state label next, Path step start labels state → property labels state →
      step state label next → property (labels ++ [label]) next)
    (path : Path step start labels final) : property labels final := by
  induction labels using List.reverseRec generalizing final with
  | nil =>
    cases path
    exact initial
  | append_singleton labels label ih =>
    obtain ⟨state, reached, moves⟩ := concat_iff.mp path
    exact extended _ _ _ _ reached (ih reached) moves

/-- Labels that leave the state alone run from every state to itself. -/
theorem stutter (stutters : ∀ label ∈ labels, step state label state) :
    Path step state labels state := by
  induction labels with
  | nil => exact .nil
  | cons label labels ih =>
    exact .cons (stutters label List.mem_cons_self)
      (ih fun other member => stutters other (List.mem_cons_of_mem _ member))

end Path

section Interleaving

variable {ι E : Type} [DecidableEq ι]

/-- The events one thread contributes to an interleaving. -/
def localTrace (thread : ι) (run : List (ι × E)) : List E :=
  run.filterMap fun event => if event.1 = thread then some event.2 else none

@[simp] theorem localTrace_append : localTrace thread (before ++ after : List (ι × E)) =
    localTrace thread before ++ localTrace thread after := List.filterMap_append

@[simp] theorem localTrace_cons_self :
    localTrace thread ((thread, event) :: run : List (ι × E)) =
      event :: localTrace thread run := by
  simp [localTrace]

@[simp] theorem localTrace_cons_other {other thread : ι} (h : other ≠ thread) :
    localTrace thread ((other, event) :: run : List (ι × E)) = localTrace thread run := by
  simp [localTrace,h]

theorem mem_localTrace {run : List (ι × E)} :
    event ∈ localTrace thread run ↔ (thread, event) ∈ run := by
  simp [localTrace]

@[simp] theorem localTrace_map (thread : ι) (trace : List E) :
    localTrace thread (trace.map (Prod.mk thread)) = trace := by
  induction trace with
  | nil => rfl
  | cons event trace ih => simp [ih]

@[simp] theorem localTrace_map_other {other thread : ι} (h : other ≠ thread) (trace : List E) :
    localTrace thread (trace.map (Prod.mk other)) = [] := by
  induction trace with
  | nil => rfl
  | cons event trace ih => simp [h,ih]

omit [DecidableEq ι] in
@[simp] theorem map_snd_map (thread : ι) (trace : List E) :
    (trace.map (Prod.mk thread)).map Prod.snd = trace := by
  simp [Function.comp_def]

end Interleaving
end Async
