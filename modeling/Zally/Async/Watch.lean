import Zally.Async.Machine

/-! A channel that keeps only the latest value. Readers come at any time and read when they like:
each gets the latest value if that is new to it, and the end once the channel is closed. -/
namespace Async.Watch

/-- `seen` counts for each reader the values it is past. -/
structure Channel (α : Type) where
  earlier : List α
  latest : α
  seen : List Nat
  closed : Bool

inductive Label (α : Type) where
  | publish (value : α)
  | close
  | subscribe
  | receive (reader : Nat) (item : Option α)

variable {α : Type}

namespace Channel

/-- Everything that was published, with the value the channel was made with. -/
def values (channel : Channel α) : List α := channel.earlier ++ [channel.latest]

def initial (value : α) : Channel α := ⟨[], value, [], false⟩

@[simp] theorem length_values (channel : Channel α) :
    channel.values.length = channel.earlier.length + 1 := List.length_append

@[simp] theorem getLast?_values (channel : Channel α) :
    channel.values.getLast? = some channel.latest := List.getLast?_concat

end Channel

inductive Step : Channel α → Label α → Channel α → Prop where
  | publish : Step ⟨earlier, latest, seen, false⟩ (.publish value)
      ⟨earlier ++ [latest], value, seen, false⟩
  | close : Step ⟨earlier, latest, seen, false⟩ .close ⟨earlier, latest, seen, true⟩
  | subscribe : Step channel .subscribe { channel with seen := channel.seen ++ [0] }
  | receive (present : channel.seen[reader]? = some past) (new : past < channel.values.length) :
      Step channel (.receive reader (some channel.latest))
        { channel with seen := channel.seen.set reader channel.values.length }
  | ended (present : channel.seen[reader]? = some channel.values.length)
      (closed : channel.closed = true) : Step channel (.receive reader none) channel

def Label.item (reader : Nat) : Label α → Option α
  | receive other item => if other = reader then item else none
  | publish _ | close | subscribe => none

/-- The values a reader got. -/
def received (reader : Nat) (labels : List (Label α)) : List α :=
  labels.filterMap (Label.item reader)

/-- What a reader has of the values it is past. -/
structure Caught (values got : List α) (past : Nat) : Prop where
  bounded : past ≤ values.length
  within : got.Sublist (values.take past)
  last : 0 < past → got.getLast? = (values.take past).getLast?

theorem Caught.grown (caught : Caught values got past) : Caught (values ++ [value]) got past := by
  have same : (values ++ [value]).take past = values.take past :=
    List.take_append_of_le_length caught.bounded
  refine ⟨?_, ?_, ?_⟩
  · rw [List.length_append]
    exact Nat.le_add_right_of_le caught.bounded
  · rw [same]
    exact caught.within
  · rw [same]
    exact caught.last

theorem Caught.received {channel : Channel α} (caught : Caught channel.values got past)
    (new : past < channel.values.length) :
    Caught channel.values (got ++ [channel.latest]) channel.values.length := by
  have whole : channel.values.take channel.values.length = channel.values := List.take_length
  refine ⟨Nat.le_refl _, ?_, fun _ => ?_⟩
  · have before : past ≤ channel.earlier.length := by
      rw [Channel.length_values] at new
      exact Nat.le_of_lt_succ new
    have inside := caught.within
    rw [Channel.values,List.take_append_of_le_length before] at inside
    rw [whole]
    exact (inside.trans (List.take_sublist _ _)).append (List.Sublist.refl _)
  · rw [whole,Channel.getLast?_values,List.getLast?_concat]

/-- Every reader has caught values of the channel, and one that was told the end has the latest. -/
structure Kept (labels : List (Label α)) (channel : Channel α) : Prop where
  caught : ∀ reader past, channel.seen[reader]? = some past →
    Caught channel.values (received reader labels) past
  absent : ∀ reader, channel.seen[reader]? = none → received reader labels = []
  ended : ∀ reader, .receive reader none ∈ labels →
    channel.closed = true ∧ channel.seen[reader]? = some channel.values.length

theorem received_append (reader : Nat) (before : List (Label α)) (label : Label α) :
    received reader (before ++ [label]) = received reader before ++ (label.item reader).toList := by
  rw [received,List.filterMap_append]
  cases found : label.item reader <;> simp [received,found]

theorem received_silent {labels : List (Label α)} (silent : label.item reader = none) :
    received reader (labels ++ [label]) = received reader labels := by
  rw [received_append,silent]
  exact List.append_nil _

theorem Kept.initial (value : α) : Kept [] (Channel.initial value) :=
  ⟨nofun, fun _ _ => rfl, nofun⟩

theorem Kept.step (kept : Kept labels channel) (step : Step channel label next) :
    Kept (labels ++ [label]) next := by
  have older : ∀ {reader}, label ≠ .receive reader none →
      .receive reader none ∈ labels ++ [label] → .receive reader none ∈ labels := by
    intro reader other member
    rcases List.mem_append.mp member with member | last
    · exact member
    · exact absurd (List.mem_singleton.mp last).symm other
  cases step with
  | publish =>
    refine ⟨fun reader past present => ?_, fun reader none => ?_, fun reader member => ?_⟩
    · rw [received_silent rfl]
      exact (kept.caught reader past present).grown
    · rw [received_silent rfl]
      exact kept.absent reader none
    · cases (kept.ended reader (older (by simp) member)).1
  | close =>
    refine ⟨fun reader past present => ?_, fun reader none => ?_, fun reader member => ?_⟩
    · rw [received_silent rfl]
      exact kept.caught reader past present
    · rw [received_silent rfl]
      exact kept.absent reader none
    · cases (kept.ended reader (older (by simp) member)).1
  | subscribe =>
    refine ⟨fun reader past present => ?_, fun reader none => ?_, fun reader member => ?_⟩
    · rw [received_silent rfl]
      by_cases known : reader < channel.seen.length
      · rw [List.getElem?_append_left known] at present
        exact kept.caught reader past present
      · have fresh := kept.absent reader (List.getElem?_eq_none (Nat.le_of_not_lt known))
        have zero : past = 0 := by
          rw [List.getElem?_append_right (Nat.le_of_not_lt known)] at present
          exact (List.mem_singleton.mp (List.mem_of_getElem? present))
        rw [fresh,zero]
        exact ⟨Nat.zero_le _, List.nil_sublist _, fun some => absurd some (Nat.lt_irrefl 0)⟩
    · rw [received_silent rfl]
      apply kept.absent
      rw [List.getElem?_eq_none_iff] at none ⊢
      rw [List.length_append] at none
      exact Nat.le_of_add_right_le none
    · obtain ⟨closed, present⟩ := kept.ended reader (older (by simp) member)
      refine ⟨closed, ?_⟩
      obtain ⟨known, -⟩ := List.getElem?_eq_some_iff.mp present
      exact (List.getElem?_append_left known).trans present
  | receive present new =>
    rename_i own past
    obtain ⟨known, -⟩ := List.getElem?_eq_some_iff.mp present
    refine ⟨fun reader count found => ?_, fun reader none => ?_, fun reader member => ?_⟩
    · by_cases same : own = reader
      · subst same
        have all : channel.values.length = count :=
          Option.some.inj ((List.getElem?_set_self known).symm.trans found)
        rw [received_append,← all]
        simp only [Label.item,if_true]
        exact (kept.caught own past present).received new
      · rw [received_silent (by simp [Label.item,same])]
        exact kept.caught reader count ((List.getElem?_set_ne same).symm.trans found)
    · by_cases same : own = reader
      · subst same
        cases (List.getElem?_set_self known).symm.trans none
      · rw [received_silent (by simp [Label.item,same])]
        exact kept.absent reader ((List.getElem?_set_ne same).symm.trans none)
    · obtain ⟨closed, whole⟩ := kept.ended reader (older (by simp) member)
      refine ⟨closed, ?_⟩
      by_cases same : own = reader
      · subst same
        exact List.getElem?_set_self known
      · exact (List.getElem?_set_ne same).trans whole
  | ended present closed =>
    rename_i own
    refine ⟨fun reader past found => ?_, fun reader none => ?_, fun reader member => ?_⟩
    · rw [received_silent (by simp [Label.item])]
      exact kept.caught reader past found
    · rw [received_silent (by simp [Label.item])]
      exact kept.absent reader none
    · rcases List.mem_append.mp member with member | last
      · exact kept.ended reader member
      · cases List.mem_singleton.mp last
        exact ⟨closed, present⟩

theorem kept_of_path (path : Path Step (Channel.initial value) labels final) :
    Kept labels final :=
  path.recorded Kept (.initial value) fun _ _ _ _ _ kept step => kept.step step

/-- A reader gets values in the order they were published, and none of them twice. -/
theorem Kept.within (kept : Kept labels channel) (reader : Nat) :
    (received reader labels).Sublist channel.values := by
  cases present : channel.seen[reader]? with
  | none =>
    rw [kept.absent reader present]
    exact List.nil_sublist _
  | some past => exact (kept.caught reader past present).within.trans (List.take_sublist _ _)

/-- A reader that was told the end got the latest value last. -/
theorem Kept.got_latest (kept : Kept labels channel) (told : .receive reader none ∈ labels) :
    (received reader labels).getLast? = some channel.latest := by
  obtain ⟨-, present⟩ := kept.ended reader told
  have caught := kept.caught reader _ present
  rw [caught.last (by simp),List.take_length,Channel.getLast?_values]

end Async.Watch
