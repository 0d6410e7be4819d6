import Mathlib.Data.List.Basic

/-! Readers of a stream of words and the writers they undo. An exact reader accepts the
words of a value and nothing else, so every value has one accepted form; a delimiting
writer lets two streams agree only where their values do. -/
namespace Wire

/-- A reader fails, or returns a value and the state behind the words it took. -/
abbrev Reader (σ ε α : Type) := StateT σ (Except ε) α

variable {σ ε α β γ : Type}

namespace Reader

theorem run_pure_iff {value : α} {start : σ} :
    (pure value : Reader σ ε α).run start = .ok (found, stop) ↔ value = found ∧ start = stop := by
  change (Except.ok (value, start) : Except ε (α × σ)) = .ok (found, stop) ↔ _
  simp

theorem run_throw_ne {error : ε} {start : σ} :
    (throw error : Reader σ ε α).run start ≠ .ok result := nofun

theorem run_lift_iff {outcome : Except ε α} {start : σ} :
    (liftM outcome : Reader σ ε α).run start = .ok (found, stop) ↔
      outcome = .ok found ∧ start = stop := by
  change (outcome >>= fun value => pure (value, start)) = .ok (found, stop) ↔ _
  cases outcome with
  | error error => simp [Bind.bind,Except.bind]
  | ok value => simp [Bind.bind,Except.bind,Pure.pure,Except.pure]

/-- A sequence succeeds when both its parts do, one behind the other. -/
theorem run_bind_iff {read : Reader σ ε α} {next : α → Reader σ ε γ} :
    (read >>= next).run start = .ok result ↔
      ∃ value middle, read.run start = .ok (value, middle) ∧
        (next value).run middle = .ok result := by
  rw [StateT.run_bind]
  cases started : read.run start with
  | error error => simp [Bind.bind,Except.bind]
  | ok found =>
    obtain ⟨value, middle⟩ := found
    simp [Bind.bind,Except.bind]

/-- A loop that succeeds has read every item, each from where the one before it stopped. -/
theorem run_mapM {read : α → Reader σ ε β} {items : List α} {values : List β}
    (ran : (items.mapM read).run start = .ok (values, stop)) :
    List.Forall₂ (fun item value => ∃ before after, (read item).run before = .ok (value, after))
      items values := by
  induction items generalizing values start with
  | nil =>
    obtain ⟨rfl, -⟩ := run_pure_iff.mp ran
    exact .nil
  | cons item items ih =>
    rw [List.mapM_cons] at ran
    obtain ⟨value, middle, first, rest⟩ := run_bind_iff.mp ran
    obtain ⟨later, last, others, returned⟩ := run_bind_iff.mp rest
    obtain ⟨rfl, rfl⟩ := run_pure_iff.mp returned
    exact .cons ⟨_, _, first⟩ (ih others)

/-- A sequence returns when its parts do. -/
theorem returns_bind {read : Reader σ ε α} {next : α → Reader σ ε γ} {start : σ}
    (ran : read.run start = .ok (value, middle))
    (rest : ∃ result stop, (next value).run middle = .ok (result, stop)) :
    ∃ result stop, (read >>= next).run start = .ok (result, stop) := by
  obtain ⟨result, stop, rest⟩ := rest
  exact ⟨result, stop, run_bind_iff.mpr ⟨value, middle, ran, rest⟩⟩

theorem run_mapM_total {read : α → Reader σ ε β} {items : List α}
    (each : ∀ item ∈ items, ∀ start, ∃ value stop, (read item).run start = .ok (value, stop))
    (start : σ) : ∃ values stop, (items.mapM read).run start = .ok (values, stop) := by
  induction items generalizing start with
  | nil => exact ⟨[], start, rfl⟩
  | cons item items ih =>
    obtain ⟨value, middle, first⟩ := each item List.mem_cons_self start
    obtain ⟨values, stop, rest⟩ := ih (fun other member => each other (List.mem_cons_of_mem _ member))
      middle
    rw [List.mapM_cons]
    exact returns_bind first (returns_bind rest ⟨_, _, rfl⟩)

end Reader

/-- The reader takes the words the writer puts for a value that fits, and no others;
`rest` shows the words a state has left. -/
structure Exact (rest : σ → List β) (read : Reader σ ε α) (words : α → List β)
    (fits : α → Prop) : Prop where
  accepts : ∀ {start value tail}, fits value → rest start = words value ++ tail →
    ∃ stop, read.run start = .ok (value, stop) ∧ rest stop = tail
  accepted : ∀ {start value stop}, read.run start = .ok (value, stop) →
    fits value ∧ rest start = words value ++ rest stop

namespace Exact

variable {rest : σ → List β}

/-- A value computed without reading. -/
theorem lift {outcome : Except ε α} (only : ∀ value, fits value ↔ outcome = .ok value) :
    Exact rest (liftM outcome : Reader σ ε α) (fun _ => []) fits where
  accepts fit left := ⟨_, Reader.run_lift_iff.mpr ⟨(only _).mp fit, rfl⟩, left⟩
  accepted ran := by
    obtain ⟨same, rfl⟩ := Reader.run_lift_iff.mp ran
    exact ⟨(only _).mpr same, rfl⟩

/-- A value returned without reading. -/
theorem pure {value : α} (only : ∀ other, fits other ↔ other = value) :
    Exact rest (Pure.pure value : Reader σ ε α) (fun _ => []) fits := by
  have lifted : Exact rest (liftM (.ok value : Except ε α) : Reader σ ε α) (fun _ => []) fits :=
    lift fun other => by rw [only,Except.ok.injEq,eq_comm]
  exact lifted

/-- A refusal, where nothing fits. -/
theorem throw {error : ε} (never : ∀ value, ¬fits value) :
    Exact rest (MonadExcept.throw error : Reader σ ε α) words fits where
  accepts fit _ := absurd fit (never _)
  accepted ran := absurd ran Reader.run_throw_ne

/-- A first field, then the rest of the value, which may be read by what it was. -/
theorem bind {read : Reader σ ε α} {next : α → Reader σ ε γ} {words : γ → List β}
    {fits : γ → Prop} (part : γ → α) (first : Exact rest read firstWords firstFits)
    (whole : ∀ value, fits value → firstFits (part value))
    (second : ∀ value, firstFits value →
      Exact rest (next value) words fun whole => fits whole ∧ part whole = value) :
    Exact rest (read >>= next) (fun whole => firstWords (part whole) ++ words whole) fits where
  accepts := by
    intro start value tail fit left
    rw [List.append_assoc] at left
    obtain ⟨middle, ran, behind⟩ := first.accepts (whole value fit) left
    obtain ⟨stop, finished, last⟩ := (second _ (whole value fit)).accepts ⟨fit, rfl⟩ behind
    exact ⟨stop, Reader.run_bind_iff.mpr ⟨_, middle, ran, finished⟩, last⟩
  accepted := by
    intro start value stop ran
    obtain ⟨found, middle, started, finished⟩ := Reader.run_bind_iff.mp ran
    obtain ⟨firstFit, took⟩ := first.accepted started
    obtain ⟨⟨fit, rfl⟩, left⟩ := (second found firstFit).accepted finished
    exact ⟨fit, by rw [took,left,List.append_assoc]⟩

/-- A reader that first looks where it stands. -/
theorem get {next : σ → Reader σ ε α} (exact : ∀ state, Exact rest (next state) words fits) :
    Exact rest (MonadState.get >>= next) words fits where
  accepts fit left := (exact _).accepts fit left
  accepted ran := (exact _).accepted ran

/-- The same reader, with its words and its values told in other terms. -/
theorem congr {read : Reader σ ε α} (exact : Exact rest read words fits)
    (sameFits : ∀ value, otherFits value ↔ fits value)
    (sameWords : ∀ value, fits value → otherWords value = words value) :
    Exact rest read otherWords otherFits where
  accepts fit left := by
    have fit := (sameFits _).mp fit
    rw [sameWords _ fit] at left
    exact exact.accepts fit left
  accepted ran := by
    obtain ⟨fit, left⟩ := exact.accepted ran
    exact ⟨(sameFits _).mpr fit, by rw [sameWords _ fit,left]⟩

/-- A check between two fields. -/
theorem check {refuse : Prop} [Decidable refuse] {next : Reader σ ε α} {error : ε}
    {fits : α → Prop} (passes : ∀ value, fits value → ¬refuse)
    (exact : ¬refuse → Exact rest next words fits) :
    Exact rest (if refuse then MonadExcept.throw error else next) words fits where
  accepts := by
    intro start value tail fit left
    rw [if_neg (passes value fit)]
    exact (exact (passes value fit)).accepts fit left
  accepted := by
    intro start value stop ran
    by_cases refused : refuse
    · rw [if_pos refused] at ran
      exact absurd ran Reader.run_throw_ne
    · rw [if_neg refused] at ran
      exact (exact refused).accepted ran

/-- A reader that leaves nothing accepts one stream for each value that fits. -/
theorem whole_iff {read : Reader σ ε α} (exact : Exact rest read words fits) {start : σ} :
    (∃ stop, read.run start = .ok (value, stop) ∧ rest stop = []) ↔
      fits value ∧ words value = rest start := by
  constructor
  · rintro ⟨stop, ran, nothing⟩
    obtain ⟨fit, took⟩ := exact.accepted ran
    exact ⟨fit, by rw [took,nothing,List.append_nil]⟩
  · rintro ⟨fit, same⟩
    exact exact.accepts fit (by rw [same,List.append_nil])

end Exact

/-- As many values as counted, one after the other. -/
def readTimes (read : Reader σ ε α) : Nat → Reader σ ε (List α)
  | 0 => pure []
  | count + 1 => do
    let value ← read
    let values ← readTimes read count
    pure (value :: values)

theorem Exact.times {rest : σ → List β} {read : Reader σ ε α} (exact : Exact rest read words fits)
    (count : Nat) : Exact rest (readTimes read count) (fun values => values.flatMap words)
      (fun values => values.length = count ∧ ∀ value ∈ values, fits value) := by
  induction count with
  | zero =>
    have empty : Exact rest (Pure.pure [] : Reader σ ε (List α)) (fun _ => []) (· = []) :=
      Exact.pure fun _ => Iff.rfl
    refine empty.congr (fun values => ?_) ?_
    · constructor
      · rintro ⟨none, -⟩
        exact List.length_eq_zero_iff.mp none
      · rintro rfl
        simp
    · rintro _ rfl
      rfl
  | succ count ih =>
    constructor
    · rintro start values tail ⟨counted, fit⟩ left
      obtain ⟨value, values, rfl⟩ := List.exists_cons_of_length_eq_add_one counted
      rw [List.flatMap_cons,List.append_assoc] at left
      obtain ⟨middle, ran, behind⟩ := exact.accepts (fit value List.mem_cons_self) left
      obtain ⟨stop, finished, last⟩ := ih.accepts ⟨by simpa using counted,
        fun other member => fit other (List.mem_cons_of_mem _ member)⟩ behind
      exact ⟨stop, Reader.run_bind_iff.mpr ⟨value, middle, ran,
        Reader.run_bind_iff.mpr ⟨values, stop, finished, rfl⟩⟩, last⟩
    · intro start values stop ran
      obtain ⟨value, middle, started, ran⟩ := Reader.run_bind_iff.mp ran
      obtain ⟨others, after, continued, ended⟩ := Reader.run_bind_iff.mp ran
      obtain ⟨rfl, rfl⟩ := Reader.run_pure_iff.mp ended
      obtain ⟨fit, took⟩ := exact.accepted started
      obtain ⟨⟨counted, allFit⟩, left⟩ := ih.accepted continued
      refine ⟨⟨by simp [counted], ?_⟩, by simp [took,left]⟩
      intro other member
      rcases List.mem_cons.mp member with rfl | member
      · exact fit
      · exact allFit other member

/-- Two streams that start with values that fit agree only if the values agree in
`part`, and then their tails agree too. -/
def Delimits (write : α → List β) (fits : α → Prop) (part : α → γ) : Prop :=
  ∀ ⦃first second firstTail secondTail⦄, fits first → fits second →
    write first ++ firstTail = write second ++ secondTail →
    part first = part second ∧ firstTail = secondTail

namespace Delimits

/-- What an exact reader undoes is delimited, when every stream is some state's rest. -/
theorem of_exact {rest : σ → List β} {read : Reader σ ε α} (exact : Exact rest read words fits)
    (start : List β → σ) (starts : ∀ stream, rest (start stream) = stream) :
    Delimits words fits id := by
  intro first second firstTail secondTail firstFits secondFits same
  obtain ⟨firstStop, ranFirst, firstLeft⟩ := exact.accepts firstFits (starts (words first ++ firstTail))
  rw [same] at ranFirst
  obtain ⟨secondStop, ranSecond, secondLeft⟩ :=
    exact.accepts secondFits (starts (words second ++ secondTail))
  rw [ranFirst] at ranSecond
  obtain ⟨rfl, rfl⟩ : first = second ∧ firstStop = secondStop := by simpa using ranSecond
  exact ⟨rfl, firstLeft.symm.trans secondLeft⟩

/-- A delimited field of a larger value. -/
theorem field (delimits : Delimits words fits part) (get : γ → α) :
    Delimits (fun whole => words (get whole)) (fun whole => fits (get whole))
      (fun whole => part (get whole)) :=
  fun _ _ _ _ firstFits secondFits same => delimits firstFits secondFits same

theorem mono (delimits : Delimits words fits part)
    (narrower : ∀ value, otherFits value → fits value) : Delimits words otherFits part :=
  fun _ _ _ _ firstFits secondFits same =>
    delimits (narrower _ firstFits) (narrower _ secondFits) same

theorem congr (delimits : Delimits words fits part)
    (same : ∀ value, fits value → otherWords value = words value) :
    Delimits otherWords fits part := by
  intro first second firstTail secondTail firstFits secondFits equal
  rw [same first firstFits,same second secondFits] at equal
  exact delimits firstFits secondFits equal

/-- A second field after a first; the second may rely on what the first told. -/
theorem append {δ : Type} {second : α → δ} (first : Delimits firstWords fits part)
    (next : ∀ told, Delimits words (fun value => fits value ∧ part value = told) second) :
    Delimits (fun value => firstWords value ++ words value) fits
      (fun value => (part value, second value)) := by
  intro one other oneTail otherTail oneFits otherFits same
  simp only [List.append_assoc] at same
  obtain ⟨told, same⟩ := first oneFits otherFits same
  obtain ⟨agree, tails⟩ := next _ ⟨oneFits, told⟩ ⟨otherFits, rfl⟩ same
  exact ⟨Prod.ext told agree, tails⟩

theorem seq {δ : Type} {second : α → δ} (first : Delimits firstWords fits part)
    (next : Delimits words fits second) :
    Delimits (fun value => firstWords value ++ words value) fits
      (fun value => (part value, second value)) :=
  first.append fun _ => next.mono fun _ fit => fit.1

/-- A field of one size, whatever its value. -/
theorem fixed {words : α → List β} {part : α → γ}
    (sized : ∀ value, fits value → (words value).length = size)
    (tells : ∀ first second, fits first → fits second → words first = words second →
      part first = part second) : Delimits words fits part := by
  intro first second firstTail secondTail firstFits secondFits same
  have length : (words first).length = (words second).length := by
    rw [sized _ firstFits,sized _ secondFits]
  obtain ⟨agree, tails⟩ := List.append_inj same length
  exact ⟨tells first second firstFits secondFits agree, tails⟩

/-- Words that are always the same tell nothing. -/
theorem const (words : List β) : Delimits (fun _ : α => words) fits (fun _ => ()) :=
  fun _ _ _ _ _ _ same => ⟨rfl, List.append_cancel_left same⟩

/-- What is told may be put in other terms. -/
theorem tells {δ : Type} {other : α → δ} (delimits : Delimits words fits part)
    (decides : ∀ first second, fits first → fits second → part first = part second →
      other first = other second) :
    Delimits words fits other := by
  intro first second firstTail secondTail firstFits secondFits same
  obtain ⟨agree, tails⟩ := delimits firstFits secondFits same
  exact ⟨decides first second firstFits secondFits agree, tails⟩

/-- A list of delimited items whose count was told. -/
theorem items {part : α → γ} (item : Delimits words fits part) (count : Nat) :
    Delimits (fun values : List α => values.flatMap words)
      (fun values => (∀ value ∈ values, fits value) ∧ values.length = count)
      (fun values => values.map part) := by
  induction count with
  | zero =>
    rintro first second firstTail secondTail ⟨-, firstNone⟩ ⟨-, secondNone⟩ same
    obtain rfl := List.length_eq_zero_iff.mp firstNone
    obtain rfl := List.length_eq_zero_iff.mp secondNone
    exact ⟨rfl, by simpa using same⟩
  | succ count ih =>
    rintro first second firstTail secondTail ⟨firstFits, firstCount⟩ ⟨secondFits, secondCount⟩ same
    obtain ⟨one, ones, rfl⟩ := List.exists_cons_of_length_eq_add_one firstCount
    obtain ⟨other, others, rfl⟩ := List.exists_cons_of_length_eq_add_one secondCount
    simp only [List.flatMap_cons,List.append_assoc] at same
    obtain ⟨head, same⟩ :=
      item (firstFits _ List.mem_cons_self) (secondFits _ List.mem_cons_self) same
    obtain ⟨tail, same⟩ := ih
      ⟨fun value member => firstFits value (List.mem_cons_of_mem _ member), by simpa using firstCount⟩
      ⟨fun value member => secondFits value (List.mem_cons_of_mem _ member),
        by simpa using secondCount⟩ same
    exact ⟨by simp [head,tail], same⟩

end Delimits
end Wire
