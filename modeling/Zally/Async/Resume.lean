import Mathlib.Data.List.Pairwise
import Mathlib.Data.List.Range
import Zally.Async.Machine

/-! A reader of a log that grows at one end and is pruned at the other. It reads through streams
that may break at any time and resumes after the last entry it got, or at the oldest one left when
it is told that its place is gone. -/
namespace Async.Resume

structure Log where
  oldest : Nat
  length : Nat
  deriving DecidableEq

/-- `resume` is the place after the last entry read, `stream` the one an open stream reads next. -/
structure Reader where
  resume : Option Nat
  stream : Option Nat
  deriving DecidableEq

inductive Label where
  | read (place : Nat)
  | expired
  | quiet
  deriving DecidableEq

/-- Where the reader is: in its stream, or else where it would resume. -/
def Reader.At (reader : Reader) (place : Nat) : Prop :=
  reader.stream = some place ∨ reader.stream = none ∧ reader.resume = some place

inductive Step : Log × Reader → Label → Log × Reader → Prop where
  | grows (pruned : log.oldest ≤ log'.oldest) (grown : log.length ≤ log'.length) :
      Step (log, reader) .quiet (log', reader)
  | opens (kept : ∀ place ∈ reader.resume, log.oldest ≤ place) :
      Step (log, reader) .quiet
        (log, { reader with stream := some (reader.resume.getD log.oldest) })
  | reads (inside : place < log.length) : Step (log, ⟨resume, some place⟩) (.read place)
      (log, ⟨some (place + 1), some (place + 1)⟩)
  | breaks : Step (log, reader) .quiet (log, { reader with stream := none })
  | expires (gone : ∀ place, reader.At place → place < log.oldest) :
      Step (log, reader) .expired (log, ⟨none, none⟩)

def Label.place : Label → Option Nat
  | read place => some place
  | expired | quiet => none

/-- The places of the entries read, in the order they were read. -/
def places (labels : List Label) : List Nat := labels.filterMap Label.place

@[simp] theorem places_append (before after : List Label) :
    places (before ++ after) = places before ++ places after := List.filterMap_append

/-- An open stream reads where the reader would resume. -/
def Reader.Joined (reader : Reader) : Prop :=
  ∀ place ∈ reader.resume, ∀ next ∈ reader.stream, next = place

theorem Step.joined (step : Step (log, reader) label (log', reader')) (joined : reader.Joined) :
    reader'.Joined := by
  cases step with
  | grows => exact joined
  | opens =>
    rintro place resumed next streamed
    rw [← Option.some.inj streamed,Option.mem_def.mp resumed]
    rfl
  | reads =>
    rintro place resumed next streamed
    exact (Option.some.inj streamed).symm.trans (Option.some.inj resumed)
  | breaks => exact fun _ _ _ none => by cases none
  | expires => exact fun _ none => by cases none

/-- What the entries read so far say of the reader. -/
structure Kept (past : List Nat) (log : Log) (reader : Reader) : Prop where
  increasing : past.Pairwise (· < ·)
  resumes : ∀ place ∈ reader.resume, ∀ earlier ∈ past, earlier < place
  restarts : reader.resume = none → ∀ earlier ∈ past, earlier < log.oldest
  streams : ∀ place ∈ reader.stream, ∀ earlier ∈ past, earlier < place

theorem Step.kept (step : Step (log, reader) label (log', reader')) (kept : Kept past log reader) :
    Kept (past ++ places [label]) log' reader' := by
  have same : past ++ places [Label.quiet] = past := List.append_nil _
  have same' : past ++ places [Label.expired] = past := List.append_nil _
  cases step with
  | grows pruned grown =>
    rw [same]
    exact ⟨kept.increasing, kept.resumes,
      fun none earlier member => Nat.lt_of_lt_of_le (kept.restarts none earlier member) pruned,
      kept.streams⟩
  | opens =>
    rw [same]
    refine ⟨kept.increasing, kept.resumes, kept.restarts, ?_⟩
    rintro place streamed earlier member
    rw [← Option.some.inj streamed]
    cases resumed : reader.resume with
    | none => exact kept.restarts resumed earlier member
    | some next => exact kept.resumes next resumed earlier member
  | @reads place =>
    have below : ∀ earlier ∈ past ++ [place], earlier < place + 1 := by
      intro earlier member
      rcases List.mem_append.mp member with member | member
      · exact Nat.lt_succ_of_lt (kept.streams place rfl earlier member)
      · rw [List.mem_singleton.mp member]
        exact Nat.lt_succ_self place
    refine ⟨List.pairwise_append.mpr ⟨kept.increasing, List.pairwise_singleton _ _, ?_⟩, ?_, nofun, ?_⟩
    · intro earlier member later last
      rw [List.mem_singleton.mp last]
      exact kept.streams place rfl earlier member
    · rintro _ ⟨⟩
      exact below
    · rintro _ ⟨⟩
      exact below
  | breaks =>
    rw [same]
    exact ⟨kept.increasing, kept.resumes, kept.restarts, nofun⟩
  | expires gone =>
    rw [same']
    refine ⟨kept.increasing, nofun, fun _ earlier member => ?_, nofun⟩
    cases streamed : reader.stream with
    | some place =>
      exact Nat.lt_trans (kept.streams place streamed earlier member) (gone place (.inl streamed))
    | none => cases resumed : reader.resume with
      | none => exact kept.restarts resumed earlier member
      | some place =>
        exact Nat.lt_trans (kept.resumes place resumed earlier member)
          (gone place (.inr ⟨streamed, resumed⟩))

/-- Nothing is read twice, and later entries are read later. -/
theorem increasing_of_path (path : Path Step (log, ⟨none, none⟩) labels (log', reader')) :
    (places labels).Pairwise (· < ·) := by
  have recorded := path.recorded (fun labels state => Kept (places labels) state.1 state.2)
    ⟨.nil, nofun, nofun, nofun⟩ ?_
  · exact recorded.increasing
  · intro labels state label next _ kept step
    rw [places_append]
    exact step.kept kept

/-- A reader that is not told that its place is gone skips nothing. -/
theorem consecutive_of_resume (path : Path Step start labels final)
    (unexpired : .expired ∉ labels) (joined : start.2.Joined) (resumed : start.2.resume = some place) :
    ∃ count, places labels = List.range' place count := by
  induction path generalizing place with
  | nil => exact ⟨0, rfl⟩
  | @cons state label next labels final step _ ih =>
    obtain ⟨log, reader⟩ := state
    obtain ⟨log', reader'⟩ := next
    have unexpired' : .expired ∉ labels := fun member => unexpired (List.mem_cons_of_mem _ member)
    have later {place : Nat} := @ih place unexpired' (step.joined joined)
    cases step with
    | grows => exact later resumed
    | opens => exact later resumed
    | @reads read =>
      obtain rfl := joined place resumed read rfl
      obtain ⟨count, rest⟩ := later rfl
      exact ⟨count + 1, congrArg (_ :: ·) rest⟩
    | breaks => exact later resumed
    | expires => exact absurd List.mem_cons_self unexpired

theorem consecutive_of_path (path : Path Step start labels final) (unexpired : .expired ∉ labels)
    (joined : start.2.Joined) : ∃ first count, places labels = List.range' first count := by
  induction path with
  | nil => exact ⟨0, 0, rfl⟩
  | @cons state label next labels final step rest ih =>
    obtain ⟨log, reader⟩ := state
    obtain ⟨log', reader'⟩ := next
    have unexpired' : .expired ∉ labels := fun member => unexpired (List.mem_cons_of_mem _ member)
    have joined' := step.joined joined
    cases step with
    | grows => exact ih unexpired' joined'
    | opens => exact ih unexpired' joined'
    | @reads place =>
      obtain ⟨count, rest⟩ := consecutive_of_resume rest unexpired' joined' rfl
      exact ⟨place, count + 1, congrArg (place :: ·) rest⟩
    | breaks => exact ih unexpired' joined'
    | expires => exact absurd List.mem_cons_self unexpired

end Async.Resume
