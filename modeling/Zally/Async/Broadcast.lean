import Mathlib.Algebra.Order.Ring.Int
import Zally.Async.Machine

/-! A channel that hands every value to every reader and retains a bounded number of them. A reader
that falls further behind is told how many values it missed. -/
namespace Async.Broadcast

/-- The newest values, the number of values before them, and the position each reader reads next. -/
structure Channel (α : Type) (capacity : Nat) where
  dropped : Nat
  retained : List α
  bounded : retained.length ≤ capacity
  full : 0 < dropped → retained.length = capacity
  positions : List Nat
  closed : Bool

inductive Item (α : Type) where
  | value (value : α)
  | lagged (missed : Nat)
  deriving DecidableEq

inductive Label (α : Type) where
  | send (value : α)
  | close
  | subscribe
  | receive (reader : Nat) (item : Option (Item α))

variable {α : Type} {capacity : Nat}

namespace Channel

def initial (α : Type) (capacity : Nat) : Channel α capacity where
  dropped := 0
  retained := []
  bounded := Nat.zero_le capacity
  full := nofun
  positions := []
  closed := false

def tail (channel : Channel α capacity) : Nat := channel.dropped + channel.retained.length

/-- A value that finds no room takes that of the oldest one. -/
def send (channel : Channel α capacity) (value : α) : Channel α capacity :=
  if room : channel.retained.length < capacity then
    { channel with
      retained := channel.retained ++ [value]
      bounded := by simpa using Nat.succ_le_of_lt room
      full := fun dropped => absurd (channel.full dropped) (Nat.ne_of_lt room) }
  else
    { channel with
      dropped := channel.dropped + 1
      retained := (channel.retained ++ [value]).tail
      bounded := by simpa using channel.bounded
      full := fun _ => by simpa using Nat.le_antisymm channel.bounded (Nat.le_of_not_lt room) }

def setPosition (channel : Channel α capacity) (reader position : Nat) : Channel α capacity :=
  { channel with positions := channel.positions.set reader position }

end Channel

inductive Step : Channel α capacity → Label α → Channel α capacity → Prop where
  | send (opened : channel.closed = false) : Step channel (.send value) (channel.send value)
  | close (opened : channel.closed = false) : Step channel .close { channel with closed := true }
  | subscribe : Step channel .subscribe
      { channel with positions := channel.positions ++ [channel.tail] }
  | receive (reads : channel.positions[reader]? = some (channel.dropped + offset))
      (present : channel.retained[offset]? = some value) :
      Step channel (.receive reader (some (.value value)))
        (channel.setPosition reader (channel.dropped + offset + 1))
  | lag (reads : channel.positions[reader]? = some position) (behind : position < channel.dropped) :
      Step channel (.receive reader (some (.lagged (channel.dropped - position))))
        (channel.setPosition reader channel.dropped)
  | ended (reads : channel.positions[reader]? = some channel.tail) (closed : channel.closed = true) :
      Step channel (.receive reader none) channel

/-- What was sent, in order. -/
def sent (labels : List (Label α)) : List α :=
  labels.filterMap fun
    | .send value => some value
    | _ => none

def Label.item (reader : Nat) : Label α → Option (Item α)
  | receive other item => if other = reader then item else none
  | send _ | close | subscribe => none

/-- What a reader got, in order. -/
def received (reader : Nat) (labels : List (Label α)) : List (Item α) :=
  labels.filterMap (Label.item reader)

/-- The number of values that an item stands for. -/
def Item.weight : Item α → Nat
  | value _ => 1
  | lagged missed => missed

/-- The items account for a log: each of its values is there or counted as missed, in order. -/
inductive Accounts : List α → List (Item α) → Prop where
  | nil : Accounts [] []
  | got (earlier : Accounts log items) : Accounts (log ++ [value]) (items ++ [.value value])
  | missed (earlier : Accounts log items) (part : List α) (some : 0 < part.length) :
      Accounts (log ++ part) (items ++ [.lagged part.length])

namespace Accounts

variable {log : List α} {items : List (Item α)}

theorem total (accounts : Accounts log items) : (items.map Item.weight).sum = log.length := by
  induction accounts with
  | nil => rfl
  | got earlier ih => simp [ih,Item.weight]
  | missed earlier part some ih => simp [ih,Item.weight]

/-- Without a gap the items are the values. -/
theorem complete (accounts : Accounts log items) (gapless : ∀ missed, .lagged missed ∉ items) :
    items = log.map .value := by
  induction accounts with
  | nil => rfl
  | got earlier ih =>
    rw [ih fun missed member => gapless missed (List.mem_append_left _ member),List.map_append]
    rfl
  | missed earlier part some =>
    exact absurd (List.mem_append_right _ List.mem_cons_self) (gapless part.length)

end Accounts

def Label.subscribes : Label α → Bool
  | subscribe => true
  | send _ | close | receive _ _ => false

/-- What a reader at a position has: its items account for what was sent from where it subscribed
until there. -/
structure Read (labels : List (Label α)) (reader position : Nat) : Prop where
  bounded : position ≤ (sent labels).length
  accounts : ∃ before after, labels = before ++ .subscribe :: after ∧
    before.countP Label.subscribes = reader ∧ (sent before).length ≤ position ∧
    Accounts (((sent labels).take position).drop (sent before).length) (received reader labels)

/-- The channel retains the end of what was sent, and its readers have read what is before them. -/
structure Kept (labels : List (Label α)) (channel : Channel α capacity) : Prop where
  retained : (sent labels).drop channel.dropped = channel.retained
  length : (sent labels).length = channel.tail
  readers : channel.positions.length = labels.countP Label.subscribes
  read : ∀ reader position, channel.positions[reader]? = some position → Read labels reader position
  absent : ∀ reader, channel.positions[reader]? = none → received reader labels = []
  ended : ∀ reader, .receive reader none ∈ labels →
    channel.closed = true ∧ channel.positions[reader]? = some channel.tail

section Labels

variable {labels : List (Label α)} {label : Label α}

theorem sent_append (before after : List (Label α)) : sent (before ++ after) = sent before ++ sent after :=
  List.filterMap_append

theorem received_append (reader : Nat) (before : List (Label α)) (label : Label α) :
    received reader (before ++ [label]) = received reader before ++ (label.item reader).toList := by
  rw [received,List.filterMap_append]
  cases found : label.item reader <;> simp [received,found]

/-- A step that neither sends nor gives the reader anything. -/
theorem Read.kept (read : Read labels reader position) (label : Label α)
    (silent : label.item reader = none) : Read (labels ++ [label]) reader position := by
  obtain ⟨bounded, before, after, rfl, own, below, accounts⟩ := read
  have same : ∀ {more : List α}, (sent (before ++ .subscribe :: after) ++ more).take position =
      (sent (before ++ .subscribe :: after)).take position := List.take_append_of_le_length bounded
  refine ⟨?_, before, after ++ [label], by simp, own, below, ?_⟩
  · rw [sent_append,List.length_append]
    exact Nat.le_add_right_of_le bounded
  · rw [sent_append,same,received_append,silent]
    simpa using accounts

/-- The reader gets an item that accounts for what it moves past. -/
theorem Read.moved (read : Read labels reader position) (later : Nat) (forward : position ≤ later)
    (bounded : later ≤ (sent labels).length)
    (accounted : ∀ {log items}, Accounts log items →
      Accounts (log ++ ((sent labels).drop position).take (later - position)) (items ++ [item])) :
    Read (labels ++ [.receive reader (some item)]) reader later := by
  obtain ⟨inside, before, after, rfl, own, below, accounts⟩ := read
  have sends : sent (before ++ .subscribe :: after ++ [.receive reader (some item)]) =
      sent (before ++ .subscribe :: after) := by
    rw [sent_append]
    exact List.append_nil _
  refine ⟨?_, before, after ++ [.receive reader (some item)], by simp, own,
    Nat.le_trans below forward, ?_⟩
  · rwa [sends]
  · have first : (sent before).length ≤ ((sent (before ++ .subscribe :: after)).take position).length := by
      rw [List.length_take]
      exact Nat.le_min.mpr ⟨below, Nat.le_trans below inside⟩
    rw [sends,← Nat.add_sub_cancel' forward,List.take_add,List.drop_append_of_le_length first,
      received_append]
    simp only [Label.item,if_true]
    exact accounted accounts

theorem Read.got (read : Read labels reader position) (found : (sent labels)[position]? = some value) :
    Read (labels ++ [.receive reader (some (.value value))]) reader (position + 1) := by
  have inside := (List.getElem?_eq_some_iff.mp found).1
  refine read.moved (position + 1) (Nat.le_succ position) inside fun {log items} accounts => ?_
  have one : ((sent labels).drop position).take (position + 1 - position) = [value] := by
    rw [Nat.add_sub_cancel_left,List.take_one,List.head?_drop,found]
    rfl
  rw [one]
  exact accounts.got

theorem Read.skipped (read : Read labels reader position) (behind : position < later)
    (bounded : later ≤ (sent labels).length) :
    Read (labels ++ [.receive reader (some (.lagged (later - position)))]) reader later := by
  refine read.moved later (Nat.le_of_lt behind) bounded fun {log items} accounts => ?_
  have sized : (((sent labels).drop position).take (later - position)).length = later - position := by
    rw [List.length_take,List.length_drop]
    exact Nat.min_eq_left (Nat.sub_le_sub_right bounded position)
  have part := accounts.missed (((sent labels).drop position).take (later - position)) (by
    rw [sized]
    exact Nat.sub_pos_of_lt behind)
  rwa [sized] at part

/-- A reader that subscribes has everything before it behind it. -/
theorem Read.fresh (nothing : received reader labels = [])
    (own : labels.countP Label.subscribes = reader) :
    Read (labels ++ [.subscribe]) reader (sent labels).length := by
  have sends : sent (labels ++ [.subscribe]) = sent labels := by
    rw [sent_append]
    exact List.append_nil _
  refine ⟨Nat.le_of_eq (congrArg List.length sends.symm), labels, [], rfl, own, Nat.le_refl _, ?_⟩
  rw [sends,received_append,nothing,List.take_length,List.drop_length]
  exact .nil

end Labels

/-- The subscription of a reader stands at one place. -/
theorem subscription_unique {first rest before after : List (Label α)}
    (same : first ++ .subscribe :: rest = before ++ .subscribe :: after)
    (count : first.countP Label.subscribes = before.countP Label.subscribes) : first = before := by
  have longer : ∀ {short middle : List (Label α)} {tail : List (Label α)} {more : List (Label α)},
      .subscribe :: tail = middle ++ more → short.countP Label.subscribes =
        (short ++ middle).countP Label.subscribes → middle = [] := by
    intro short middle tail more joined counts
    cases middle with
    | nil => rfl
    | cons head middle =>
      obtain ⟨rfl, -⟩ := List.cons.inj joined
      rw [List.countP_append,List.countP_cons_of_pos rfl] at counts
      omega
  rcases List.append_eq_append_iff.mp same with ⟨middle, rfl, joined⟩ | ⟨middle, rfl, joined⟩
  · rw [longer joined count,List.append_nil]
  · rw [longer joined count.symm,List.append_nil]

section Channels

variable {channel next : Channel α capacity} {labels : List (Label α)}

@[simp] theorem tail_send (channel : Channel α capacity) (value : α) :
    (channel.send value).tail = channel.tail + 1 := by
  unfold Channel.send Channel.tail
  split
  · simp only [List.length_append,List.length_singleton]
    omega
  · simp only [List.length_tail,List.length_append,List.length_singleton]
    omega

@[simp] theorem positions_send (channel : Channel α capacity) (value : α) :
    (channel.send value).positions = channel.positions := by
  unfold Channel.send
  split <;> rfl

@[simp] theorem closed_send (channel : Channel α capacity) (value : α) :
    (channel.send value).closed = channel.closed := by
  unfold Channel.send
  split <;> rfl

/-- The retained values stay the end of what was sent. -/
theorem retained_send {log : List α} (retained : log.drop channel.dropped = channel.retained)
    (length : log.length = channel.tail) (value : α) :
    (log ++ [value]).drop (channel.send value).dropped = (channel.send value).retained := by
  have inside : channel.dropped ≤ log.length := by
    rw [length]
    exact Nat.le_add_right _ _
  unfold Channel.send
  split
  · rw [List.drop_append_of_le_length inside,retained]
  · rw [← List.drop_drop,List.drop_append_of_le_length inside,retained,List.drop_one]

theorem Kept.initial : Kept [] (Channel.initial α capacity) :=
  ⟨rfl, rfl, rfl, nofun, fun _ _ => rfl, nofun⟩

/-- The reader of an item moves, and the others stay as they are. -/
theorem Kept.receives (kept : Kept labels channel) (reads : channel.positions[reader]? = some position)
    (behind : position < channel.tail) (moved : Read (labels ++ [.receive reader (some item)]) reader later) :
    Kept (labels ++ [.receive reader (some item)]) (channel.setPosition reader later) where
  retained := by
    rw [sent_append]
    exact (congrArg (List.drop _) (List.append_nil _)).trans kept.retained
  length := by
    rw [sent_append]
    exact (congrArg List.length (List.append_nil _)).trans kept.length
  readers := by
    rw [List.countP_append]
    exact (List.length_set ..).trans kept.readers
  read other past found := by
    by_cases same : reader = other
    · subst same
      obtain ⟨known, -⟩ := List.getElem?_eq_some_iff.mp reads
      obtain rfl : later = past := Option.some.inj ((List.getElem?_set_self known).symm.trans found)
      exact moved
    · refine (kept.read other past ((List.getElem?_set_ne same).symm.trans found)).kept _ ?_
      exact if_neg same
  absent other none := by
    by_cases same : reader = other
    · subst same
      obtain ⟨known, -⟩ := List.getElem?_eq_some_iff.mp reads
      cases (List.getElem?_set_self known).symm.trans none
    · rw [received_append,kept.absent other ((List.getElem?_set_ne same).symm.trans none)]
      simp [Label.item,same]
  ended other member := by
    have before : .receive other none ∈ labels := by simpa using member
    obtain ⟨closed, whole⟩ := kept.ended other before
    refine ⟨closed, ?_⟩
    by_cases same : reader = other
    · subst same
      obtain rfl : position = channel.tail := Option.some.inj (reads.symm.trans whole)
      exact absurd behind (Nat.lt_irrefl _)
    · exact (List.getElem?_set_ne same).trans whole

/-- A label that gives no reader anything. -/
theorem Kept.silent (kept : Kept labels channel) (next : Channel α capacity)
    (same : next.positions = channel.positions)
    (label : Label α) (silent : ∀ reader, label.item reader = none)
    (unread : label.subscribes = false)
    (retained : (sent (labels ++ [label])).drop next.dropped = next.retained)
    (length : (sent (labels ++ [label])).length = next.tail)
    (ended : ∀ reader, .receive reader none ∈ labels ++ [label] →
      next.closed = true ∧ channel.positions[reader]? = some next.tail) :
    Kept (labels ++ [label]) next where
  retained := retained
  length := length
  readers := by simp [same,kept.readers,List.countP_append,unread]
  read reader position found := (kept.read reader position (by rwa [same] at found)).kept _ (silent reader)
  absent reader none := by
    rw [same] at none
    rw [received_append,kept.absent reader none,silent reader]
    rfl
  ended reader member := by
    rw [same]
    exact ended reader member

theorem Kept.step (kept : Kept labels channel) (step : Step channel label next) :
    Kept (labels ++ [label]) next := by
  have unsent : sent [label] = [] → (sent (labels ++ [label])).drop channel.dropped = channel.retained ∧
      (sent (labels ++ [label])).length = channel.tail := by
    intro nothing
    rw [sent_append,nothing,List.append_nil]
    exact ⟨kept.retained, kept.length⟩
  cases step with
  | send opened =>
    rename_i value
    have added : sent (labels ++ [.send value]) = sent labels ++ [value] := sent_append _ _
    refine kept.silent _ (positions_send channel value) _ (fun _ => rfl) rfl ?_ ?_ fun reader member => ?_
    · rw [added]
      exact retained_send kept.retained kept.length value
    · rw [added,tail_send,List.length_append,kept.length]
      rfl
    · have told := (kept.ended reader (by simpa using member)).1
      rw [opened] at told
      cases told
  | close opened =>
    obtain ⟨retained, length⟩ := unsent rfl
    exact kept.silent { channel with closed := true } rfl _ (fun _ => rfl) rfl retained
      length fun reader member => ⟨rfl, (kept.ended reader (by simpa using member)).2⟩
  | subscribe =>
    obtain ⟨retained, length⟩ := unsent rfl
    refine ⟨retained, length, ?_, fun reader position found => ?_, fun reader none => ?_, ?_⟩
    · simp [kept.readers,List.countP_append,Label.subscribes]
    · by_cases known : reader < channel.positions.length
      · rw [List.getElem?_append_left known] at found
        exact (kept.read reader position found).kept _ rfl
      · -- the new reader starts at the end of what was sent
        have fresh := kept.absent reader (List.getElem?_eq_none (Nat.le_of_not_lt known))
        rw [List.getElem?_append_right (Nat.le_of_not_lt known)] at found
        have last := (List.getElem?_eq_some_iff.mp found).1
        have own : channel.positions.length = reader := by
          rw [List.length_singleton] at last
          omega
        obtain rfl : position = channel.tail := List.mem_singleton.mp (List.mem_of_getElem? found)
        rw [← kept.length]
        exact Read.fresh fresh (kept.readers.symm.trans own)
    · rw [received_append,kept.absent reader]
      · rfl
      · rw [List.getElem?_eq_none_iff] at none ⊢
        rw [List.length_append] at none
        exact Nat.le_of_add_right_le none
    · intro reader member
      obtain ⟨closed, present⟩ := kept.ended reader (by simpa using member)
      refine ⟨closed, ?_⟩
      obtain ⟨known, -⟩ := List.getElem?_eq_some_iff.mp present
      exact (List.getElem?_append_left known).trans present
  | receive reads present =>
    rename_i reader offset value
    have value' : (sent labels)[channel.dropped + offset]? = some value := by
      rw [← List.getElem?_drop,kept.retained,present]
    have inside := (List.getElem?_eq_some_iff.mp present).1
    exact kept.receives reads (Nat.add_lt_add_left inside _) ((kept.read reader _ reads).got value')
  | lag reads behind =>
    rename_i reader position
    have bounded : channel.dropped ≤ (sent labels).length := by
      rw [kept.length]
      exact Nat.le_add_right _ _
    exact kept.receives reads (Nat.lt_of_lt_of_le behind (Nat.le_add_right _ _))
      ((kept.read reader position reads).skipped behind bounded)
  | ended reads closed =>
    obtain ⟨retained, length⟩ := unsent rfl
    refine kept.silent _ rfl _ (fun other => ?_) rfl retained length fun other member => ?_
    · simp [Label.item]
    · rcases List.mem_append.mp member with member | last
      · exact kept.ended other member
      · cases List.mem_singleton.mp last
        exact ⟨closed, reads⟩

theorem kept_of_path (path : Path Step (Channel.initial α capacity) labels channel) :
    Kept labels channel :=
  path.recorded Kept .initial fun _ _ _ _ _ kept step => kept.step step

/-- A reader misses values only when more than the capacity were ahead of it, and then exactly
those that are no longer retained. -/
theorem Kept.lagged (kept : Kept labels channel)
    (step : Step channel (.receive reader (some (.lagged missed))) next) :
    ∃ position, channel.positions[reader]? = some position ∧
      position + missed + capacity = (sent labels).length ∧ 0 < missed := by
  cases step with
  | lag reads behind =>
    refine ⟨_, reads, ?_, Nat.sub_pos_of_lt behind⟩
    rw [kept.length,Channel.tail,channel.full (Nat.lt_of_le_of_lt (Nat.zero_le _) behind),
      Nat.add_sub_cancel' (Nat.le_of_lt behind)]

/-- The items of a reader account for what was sent from where it subscribed to where it reads. -/
theorem Kept.accounts (kept : Kept labels channel) (split : labels = before ++ .subscribe :: after)
    (own : before.countP Label.subscribes = reader) :
    ∃ position, channel.positions[reader]? = some position ∧ position ≤ (sent labels).length ∧
      (sent before).length ≤ position ∧
      Accounts (((sent labels).take position).drop (sent before).length) (received reader labels) := by
  have known : reader < channel.positions.length := by
    rw [kept.readers,split,List.countP_append,List.countP_cons_of_pos rfl]
    omega
  have reads := List.getElem?_eq_getElem known
  obtain ⟨bounded, first, rest, other, count, below, accounts⟩ := kept.read _ _ reads
  obtain rfl := subscription_unique (other.symm.trans split) (count.trans own.symm)
  exact ⟨_, reads, bounded, below, accounts⟩

end Channels

end Async.Broadcast
