import Zally.Async.Machine
import Zally.Async.Program

/-! A cell that many threads share and that is filled once, with something one of them learned:
whatever a thread uses after looking into the cell, somebody had learned before. -/
namespace Async.OnceCell

open Program

/-- What an event is to the cell. A thread learns nothing from an answer it turns down. -/
inductive Step (V : Type) where
  | read (seen : Option V)
  | learn (value : Option V)
  | fill (value : V)
  | use

variable {E V ι : Type}

/-- The cell answers with what it holds, and is filled when it holds nothing. -/
def Serves (step : E → Step V) : Option V → List E → Prop
  | _, [] => True
  | cell, event :: rest => match step event with
    | .read seen => seen = cell ∧ Serves step cell rest
    | .fill value => cell = none ∧ Serves step (some value) rest
    | .learn _ | .use => Serves step cell rest

def Learned (step : E → Step V) (past : List E) (value : V) : Prop :=
  ∃ event ∈ past, step event = .learn (some value)

/-- The value was learned by the thread itself, or seen in the cell. -/
def Known (step : E → Step V) (past : List E) (value : V) : Prop :=
  Learned step past value ∨ ∃ event ∈ past, step event = .read (some value)

/-- The cell is filled with what was learned, and used after a value that is enough is known. -/
def Allowed (step : E → Step V) (enough : V → Prop) (past : List E) (event : E) : Prop :=
  match step event with
  | .read _ | .learn _ => True
  | .fill value => Learned step past value
  | .use => ∃ value, enough value ∧ Known step past value

def Careful (step : E → Step V) (enough : V → Prop) (trace : List E) : Prop :=
  ∀ before event after, trace = before ++ event :: after → Allowed step enough before event

section History

variable {step : E → Step V}

theorem Learned.mono {small large : List E} (learned : Learned step small value)
    (kept : ∀ event ∈ small, event ∈ large) : Learned step large value := by
  obtain ⟨event, member, said⟩ := learned
  exact ⟨event, kept event member, said⟩

theorem Known.mono {small large : List E} (known : Known step small value)
    (kept : ∀ event ∈ small, event ∈ large) : Known step large value :=
  known.imp (·.mono kept) fun ⟨event, member, seen⟩ => ⟨event, kept event member, seen⟩

/-- A value seen in the cell was in it from the start, or put there. -/
theorem Serves.filled {cell : Option V} (serves : Serves step cell (before ++ event :: after))
    (seen : step event = .read (some value)) :
    cell = some value ∨ ∃ event ∈ before, step event = .fill value := by
  induction before generalizing cell with
  | nil =>
    rw [List.nil_append,Serves,seen] at serves
    exact .inl serves.1.symm
  | cons first before ih =>
    rw [List.cons_append,Serves] at serves
    have passed {middle : Option V} (rest : Serves step middle (before ++ event :: after)) :
        middle = some value ∨ ∃ event ∈ first :: before, step event = .fill value :=
      (ih rest).imp_right fun ⟨other, member, filled⟩ =>
        ⟨other, List.mem_cons_of_mem _ member, filled⟩
    split at serves
    · exact passed serves.2
    · rename_i put filled
      rcases passed serves.2 with same | found
      · exact .inr ⟨first, List.mem_cons_self, filled.trans (congrArg _ (Option.some.inj same))⟩
      · exact .inr found
    · exact passed serves
    · exact passed serves

variable [DecidableEq ι] {history before after : List (ι × E)}

theorem mem_of_localTrace (member : event ∈ localTrace thread history) :
    event ∈ history.map (·.2) := List.mem_map_of_mem (mem_localTrace.mp member)

/-- Whatever a careful thread knows, it or another one learned before. -/
theorem learned_of_known {enough : ι → V → Prop}
    (serves : Serves step none (history.map (·.2)))
    (careful : ∀ thread, Careful step (enough thread) (localTrace thread history))
    (placed : history = before ++ after) (known : Known step (localTrace thread before) value) :
    Learned step (before.map (·.2)) value := by
  rcases known with learned | ⟨event, member, seen⟩
  · exact learned.mono fun event => mem_of_localTrace
  · obtain ⟨first, second, split⟩ := List.append_of_mem (mem_of_localTrace member)
    rw [placed,List.map_append,split,List.append_assoc,List.cons_append] at serves
    obtain empty | ⟨filler, filled, put⟩ := serves.filled seen
    · cases empty
    have inside : filler ∈ before.map (·.2) := by
      rw [split]
      exact List.mem_append_left _ filled
    obtain ⟨⟨other, found⟩, memberBefore, rfl⟩ := List.mem_map.mp inside
    obtain ⟨early, late, rfl⟩ := List.append_of_mem memberBefore
    have allowed := careful other (localTrace other early) found (localTrace other (late ++ after))
      (by rw [placed,List.append_assoc,List.cons_append,localTrace_append,localTrace_cons_self])
    rw [Allowed,show step found = .fill value from put] at allowed
    exact allowed.mono fun event member =>
      List.map_append ▸ List.mem_append_left _ (mem_of_localTrace member)

theorem learned_of_use {enough : ι → V → Prop}
    (serves : Serves step none (history.map (·.2)))
    (careful : ∀ thread, Careful step (enough thread) (localTrace thread history))
    (placed : history = before ++ (thread, event) :: after) (used : step event = .use) :
    ∃ value, enough thread value ∧ Learned step (before.map (·.2)) value := by
  have allowed := careful thread (localTrace thread before) event (localTrace thread after)
    (by rw [placed,localTrace_append,localTrace_cons_self])
  rw [Allowed,used] at allowed
  obtain ⟨value, holds, known⟩ := allowed
  exact ⟨value, holds, learned_of_known serves careful placed known⟩

end History

/-- The trace of one thread among those of others keeps its meaning. -/
theorem Careful.map {F : Type} {step : E → Step V} {enough : V → Prop} {trace : List F}
    {embed : F → E} (careful : Careful (step ∘ embed) enough trace) :
    Careful step enough (trace.map embed) := by
  intro before event after placed
  obtain ⟨first, rest, rfl, rfl, tail⟩ := List.map_eq_append_iff.mp placed
  obtain ⟨event, second, rfl, rfl, rfl⟩ := List.map_eq_cons_iff.mp tail
  have learned {value : V} (learned : Learned (step ∘ embed) first value) :
      Learned step (first.map embed) value := by
    obtain ⟨found, member, said⟩ := learned
    exact ⟨embed found, List.mem_map_of_mem member, said⟩
  have allowed := careful first event second rfl
  rw [Allowed,Function.comp_apply] at allowed
  rw [Allowed]
  cases said : step (embed event) with
  | read => trivial
  | learn => trivial
  | fill value => exact learned (by simpa only [said] using allowed)
  | use =>
    rw [said] at allowed
    obtain ⟨value, holds, known⟩ := allowed
    refine ⟨value, holds, known.imp learned ?_⟩
    rintro ⟨found, member, seen⟩
    exact ⟨embed found, List.mem_map_of_mem member, seen⟩

section Programs

variable {C : Type} {R : C → Type} {α β ε : Type} {step : Event C R → Step V} {enough : V → Prop}
  {past : List (Event C R)}

/-- The program is careful whatever it is answered, and `ends` holds where it returns. -/
abbrev Obeys (step : Event C R → Step V) (enough : V → Prop)
    (ends : List (Event C R) → α → Prop) (past : List (Event C R)) (program : Program C R α) :
    Prop :=
  program.Follows (fun past command => ∀ answer, Allowed step enough past ⟨command, answer⟩)
    (fun past event => past ++ [event]) ends past

theorem Obeys.careful {ends : List (Event C R) → α → Prop} {program : Program C R α}
    (obeys : Obeys step enough ends [] program) (run : Runs program trace outcome) :
    Careful step enough trace := by
  rintro before ⟨command, answer⟩ after rfl
  have allowed := run.allowed obeys answer
  rwa [List.foldl_append_eq_append,← List.flatMap_def,List.flatMap_singleton'] at allowed

/-- A fallible program is careful, and `ends` holds where it returns a value. -/
abbrev ObeysFallible (step : Event C R → Step V) (enough : V → Prop)
    (ends : List (Event C R) → α → Prop) (past : List (Event C R)) (program : Fallible C R ε α) :
    Prop :=
  Obeys step enough (fun past result => ∀ value, result = .ok value → ends past value) past
    program.run

namespace ObeysFallible

theorem bind {first : List (Event C R) → α → Prop} {ends : List (Event C R) → β → Prop}
    {program : Fallible C R ε α} {rest : α → Fallible C R ε β}
    (obeys : ObeysFallible step enough first past program)
    (continues : ∀ past value, first past value → ObeysFallible step enough ends past (rest value)) :
    ObeysFallible step enough ends past (program >>= rest) := by
  rw [ObeysFallible,ExceptT.run_bind]
  refine Follows.bind obeys fun past result holds => ?_
  cases result with
  | ok value => exact continues past value (holds value rfl)
  | error error => exact fun value same => by cases same

theorem pure {ends : List (Event C R) → α → Prop} (holds : ends past value) :
    ObeysFallible step enough ends past (Pure.pure value : Fallible C R ε α) := by
  rintro _ ⟨⟩
  exact holds

theorem throw {ends : List (Event C R) → α → Prop} (error : ε) :
    ObeysFallible step enough ends past (MonadExcept.throw error : Fallible C R ε α) :=
  fun _ same => nomatch same

theorem perform {command : C} (allowed : ∀ answer, Allowed step enough past ⟨command, answer⟩) :
    ObeysFallible step enough (fun later answer => later = past ++ [⟨command, answer⟩]) past
      (liftM (Program.perform command : Program C R (R command)) : Fallible C R ε (R command)) := by
  refine ⟨allowed, ?_⟩
  rintro answer _ ⟨⟩
  rfl

theorem call {ε' : Type} {lift : ε' → ε} {command : C} {answer : R command → Except ε' α}
    (allowed : ∀ reply, Allowed step enough past ⟨command, reply⟩) :
    ObeysFallible step enough (fun later value => ∃ reply, later = past ++ [⟨command, reply⟩] ∧
      answer reply = .ok value) past
      (Fallible.call lift (await command fun reply => done (answer reply))) := by
  refine ⟨allowed, fun reply value same => ⟨reply, rfl, ?_⟩⟩
  cases answered : answer reply with
  | error error => simp [answered,Except.mapError] at same
  | ok found => simpa [answered,Except.mapError] using same

/-- A program that only uses the cell's value, once a value that is enough is known. -/
theorem of_within {commands : C → Prop} {program : Fallible C R ε α}
    (within : program.run.Within commands) (holds : enough value) (known : Known step past value)
    (uses : ∀ command answer, commands command → step ⟨command, answer⟩ = .use) :
    ObeysFallible step enough (fun _ _ => True) past program := by
  change Follows _ _ _ past program.run
  generalize program.run = program at within
  induction program generalizing past with
  | done result => exact fun _ _ => trivial
  | await command resume ih =>
    refine ⟨fun answer => ?_, fun answer => ih answer (known.mono ?_) (within.2 answer)⟩
    · rw [Allowed,uses command answer within.1]
      exact ⟨value, holds, known⟩
    · exact fun event => List.mem_append_left _

end ObeysFallible

/-- The value in the cell, or the one that `init` comes up with, which is then put there. -/
def getOrTryInit (read : C) (seen : R read → Option V) (fill : V → C) (init : Fallible C R ε V) :
    Fallible C R ε V := do
  match seen (← (perform read : Program C R (R read))) with
  | some value => return value
  | none =>
    let value ← init
    let _ ← (perform (fill value) : Program C R (R (fill value)))
    return value

theorem obeys_getOrTryInit {read : C} {seen : R read → Option V} {fill : V → C}
    {init : Fallible C R ε V} (reads : ∀ answer, step ⟨read, answer⟩ = .read (seen answer))
    (fills : ∀ value answer, step ⟨fill value, answer⟩ = .fill value)
    (inits : ∀ past, ObeysFallible step enough (Learned step) past init) :
    ObeysFallible step enough (Known step) past (getOrTryInit read seen fill init) := by
  have allowed (answer : R read) : Allowed step enough past ⟨read, answer⟩ := by
    rw [Allowed,reads]
    trivial
  refine (ObeysFallible.perform allowed).bind fun later answer same => ?_
  cases found : seen answer with
  | some value =>
    refine ObeysFallible.pure (.inr ⟨⟨read, answer⟩, ?_, by rw [reads,found]⟩)
    rw [same]
    exact List.mem_append_right _ List.mem_cons_self
  | none =>
    refine (inits later).bind fun past value learned => ?_
    have allowed (answer : R (fill value)) : Allowed step enough past ⟨fill value, answer⟩ := by
      rw [Allowed,fills]
      exact learned
    refine (ObeysFallible.perform allowed).bind fun last answer same => ObeysFallible.pure ?_
    rw [same]
    exact .inl (learned.mono fun event => List.mem_append_left _)

/-- A value that comes with a call's answer, unless the answer is turned down. -/
theorem obeys_unlessRefused {ε' : Type} {lift : ε' → ε} {command : C}
    {answer : R command → Except ε' α} {refused : α → Prop} [DecidablePred refused]
    {refusal : α → ε} {value : α → V}
    (learns : ∀ reply, ∃ learned, step ⟨command, reply⟩ = .learn learned ∧
      ∀ told, answer reply = .ok told → ¬refused told → learned = some (value told))
    (past : List (Event C R)) :
    ObeysFallible step enough (Learned step) past
      (Fallible.call lift (await command fun reply => done (answer reply)) >>= fun told =>
        if refused told then throw (refusal told) else return value told) := by
  have allowed (reply : R command) : Allowed step enough past ⟨command, reply⟩ := by
    obtain ⟨learned, said, -⟩ := learns reply
    rw [Allowed,said]
    trivial
  refine (ObeysFallible.call allowed).bind fun later told known => ?_
  obtain ⟨reply, rfl, answered⟩ := known
  obtain ⟨learned, said, taken⟩ := learns reply
  split
  · exact ObeysFallible.throw _
  · rename_i supported
    obtain rfl := taken told answered supported
    exact ObeysFallible.pure ⟨_, List.mem_append_right _ List.mem_cons_self, said⟩

theorem within_unlessRefused {ε' : Type} {lift : ε' → ε} {commands : C → Prop} {command : C}
    {answer : R command → Except ε' α} {refused : α → Prop} [DecidablePred refused]
    {refusal : α → ε} {value : α → V} (asks : commands command) :
    (Fallible.call lift (await command fun reply => done (answer reply)) >>= fun told =>
      if refused told then throw (refusal told)
      else return value told : Fallible C R ε V).run.Within commands := by
  refine Fallible.within_bind (Fallible.within_call ⟨asks, fun _ => trivial⟩) fun told => ?_
  split <;> trivial

theorem within_getOrTryInit {commands : C → Prop} {read : C} {seen : R read → Option V}
    {fill : V → C} {init : Fallible C R ε V} (reads : commands read)
    (fills : ∀ value, commands (fill value)) (inits : init.run.Within commands) :
    (getOrTryInit read seen fill init).run.Within commands := by
  refine Fallible.within_bind ⟨reads, fun _ => trivial⟩ fun answer => ?_
  cases seen answer with
  | some value => trivial
  | none =>
    refine Fallible.within_bind inits fun value => ?_
    exact Fallible.within_bind ⟨fills value, fun _ => trivial⟩ fun _ => trivial

end Programs

end Async.OnceCell
