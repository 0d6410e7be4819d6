import Mathlib.Data.List.Flatten
import Zally.Async.Broadcast
import Zally.Wallet.Recovery
import Zally.Wallet.TransparentRefresh

/-! The event streams of a wallet's observers, and the loop that refreshes transparent outputs and
publishes each attempt that faults. -/
namespace Zally.Events

open Async Async.Program Broadcast
open Refresh (refreshTransparentUtxos)

def eventChannelCapacity : Nat := 1024

/-- The text of an attempt that faulted: its error, or that the refresh exceeded its time. -/
inductive RefreshFault where
  | failed (error : WalletError)
  | refreshExceeded (timeoutSeconds : Nat)
  deriving DecidableEq

inductive PublishedEvent where
  | wallet (event : WalletEvent)
  | transparentUtxoRefreshFaulted (consecutiveFailures : Nat) (reason : RefreshFault)
  deriving DecidableEq

/-- What the stream of an observer yields. -/
inductive StreamEvent where
  | published (event : PublishedEvent)
  | lagged (droppedCount : Nat)
  deriving DecidableEq

def fromBroadcast : Item PublishedEvent → StreamEvent
  | .value event => .published event
  | .lagged missed => .lagged missed

/-- How an attempt to refresh ends. -/
inductive Attempt where
  | done (outcome : TransparentUtxoRefreshOutcome)
  | failed (error : WalletError)
  | timedOut

def Attempt.faultReason (timeoutSeconds : Nat) : Attempt → Option RefreshFault
  | done _ => none
  | failed error => some (.failed error)
  | timedOut => some (.refreshExceeded timeoutSeconds)

/-- What the refresh of an attempt came to, if it was not cut. -/
def Attempt.outcome : Attempt → Option (Except WalletError TransparentUtxoRefreshOutcome)
  | done outcome => some (.ok outcome)
  | failed error => some (.error error)
  | timedOut => none

inductive RefreshPhase where
  | sleeping
  | attempting
  | returned
  deriving DecidableEq

structure RefreshDriver where
  phase : RefreshPhase
  consecutiveFailures : Nat

def RefreshDriver.initial : RefreshDriver := ⟨.sleeping, 0⟩

/-- The end of a turn of the loop: the count and the event of the attempt. -/
def RefreshDriver.settle (timeoutSeconds : Nat) (driver : RefreshDriver) (attempt : Attempt) :
    RefreshDriver × Option PublishedEvent :=
  match attempt.faultReason timeoutSeconds with
  | none => (⟨.sleeping, 0⟩, none)
  | some reason =>
    let consecutiveFailures := min (driver.consecutiveFailures + 1) u32Max
    (⟨.sleeping, consecutiveFailures⟩,
      some (.transparentUtxoRefreshFaulted consecutiveFailures reason))

structure World where
  driver : RefreshDriver
  channel : Channel PublishedEvent eventChannelCapacity

def World.initial : World := ⟨.initial, .initial _ _⟩

inductive Label where
  | slept
  | attempt (trace : List RefreshEvent) (attempt : Attempt) (published : Option PublishedEvent)
  | closeDriver (trace : List RefreshEvent)
  | publish (event : WalletEvent)
  | observe
  | next (observer : Nat) (item : Option (Item PublishedEvent))
  | dropWallet

/-- What a step does to the channel. -/
def Label.effect : Label → List (Broadcast.Label PublishedEvent)
  | slept | closeDriver _ => []
  | attempt _ _ published => published.toList.map .send
  | publish event => [.send (.wallet event)]
  | observe => [.subscribe]
  | next observer item => [.receive observer item]
  | dropWallet => [.close]

/-- The loop holds a handle of the wallet, so the channel stays open until it returned. A close of
the driver cuts an attempt at any point. -/
inductive Step (wallet : RefreshWallet) (timeoutSeconds : Nat) : World → Label → World → Prop where
  | slept : Step wallet timeoutSeconds ⟨⟨.sleeping, failures⟩, channel⟩ .slept
      ⟨⟨.attempting, failures⟩, channel⟩
  | attempt (ran : Runs (refreshTransparentUtxos wallet).run trace attempt.outcome)
      (settled : RefreshDriver.settle timeoutSeconds ⟨.attempting, failures⟩ attempt =
        (driver, published))
      (sends : Async.Path Broadcast.Step channel (published.toList.map .send) after) :
      Step wallet timeoutSeconds ⟨⟨.attempting, failures⟩, channel⟩
        (.attempt trace attempt published) ⟨driver, after⟩
  | closeSleeping : Step wallet timeoutSeconds ⟨⟨.sleeping, failures⟩, channel⟩ (.closeDriver [])
      ⟨⟨.returned, failures⟩, channel⟩
  | closeAttempting (ran : Runs (refreshTransparentUtxos wallet).run trace none) :
      Step wallet timeoutSeconds ⟨⟨.attempting, failures⟩, channel⟩ (.closeDriver trace)
        ⟨⟨.returned, failures⟩, channel⟩
  | publish (sends : Broadcast.Step channel (.send (.wallet event)) after) :
      Step wallet timeoutSeconds ⟨driver, channel⟩ (.publish event) ⟨driver, after⟩
  | observe (subscribes : Broadcast.Step channel .subscribe after) :
      Step wallet timeoutSeconds ⟨driver, channel⟩ .observe ⟨driver, after⟩
  | next (receives : Broadcast.Step channel (.receive observer item) after) :
      Step wallet timeoutSeconds ⟨driver, channel⟩ (.next observer item) ⟨driver, after⟩
  | dropWallet (returned : driver.phase = .returned) (closes : Broadcast.Step channel .close after) :
      Step wallet timeoutSeconds ⟨driver, channel⟩ .dropWallet ⟨driver, after⟩

/-! What is read off a run. -/

def published (labels : List Label) : List PublishedEvent := sent (labels.flatMap Label.effect)

/-- The stream of an observer so far. -/
def observed (observer : Nat) (labels : List Label) : List StreamEvent :=
  labels.filterMap fun
    | .next other (some item) => if other = observer then some (fromBroadcast item) else none
    | _ => none

def attempts (labels : List Label) : List Attempt :=
  labels.filterMap fun
    | .attempt _ attempt _ => some attempt
    | _ => none

def refreshFaults (events : List PublishedEvent) : List PublishedEvent :=
  events.filter fun
    | .transparentUtxoRefreshFaulted _ _ => true
    | .wallet _ => false

def Attempt.faulted : Attempt → Bool
  | done _ => false
  | failed _ | timedOut => true

/-- The number of faulted attempts since the last one that went through. -/
def streak (attempts : List Attempt) : Nat := (attempts.reverse.takeWhile Attempt.faulted).length

/-- The event of the `index`-th attempt. -/
def faultEvent (timeoutSeconds : Nat) (attempts : List Attempt) (index : Nat) : Option PublishedEvent := do
  let attempt ← attempts[index]?
  let reason ← attempt.faultReason timeoutSeconds
  pure (.transparentUtxoRefreshFaulted (min (streak (attempts.take (index + 1))) u32Max) reason)

def Label.observes : Label → Bool
  | observe => true
  | slept | attempt _ _ _ | closeDriver _ | publish _ | next _ _ | dropWallet => false

/-- The number of events that an item of a stream stands for. -/
def StreamEvent.weight : StreamEvent → Nat
  | published _ => 1
  | lagged droppedCount => droppedCount

/-- The number of events that the stream of an observer told it of or counted as dropped. -/
def accountedFor (observer : Nat) (labels : List Label) : Nat :=
  ((observed observer labels).map StreamEvent.weight).sum

section Labels

variable {labels : List Label} {timeoutSeconds : Nat}

theorem published_append (before after : List Label) :
    published (before ++ after) = published before ++ published after := by
  rw [published,List.flatMap_append,sent_append]
  rfl

theorem observed_eq (observer : Nat) (labels : List Label) :
    observed observer labels =
      (received observer (labels.flatMap Label.effect)).map fromBroadcast := by
  have one : ∀ label : Label, observed observer [label] =
      (received observer label.effect).map fromBroadcast := by
    intro label
    cases label with
    | next other item =>
      cases item with
      | none =>
        by_cases same : other = observer <;>
          simp [observed,received,Label.effect,Broadcast.Label.item,same]
      | some item =>
        by_cases same : other = observer <;>
          simp [observed,received,Label.effect,Broadcast.Label.item,same]
    | attempt trace attempt published =>
      cases published <;> rfl
    | slept | closeDriver | publish | observe | dropWallet => rfl
  induction labels with
  | nil => rfl
  | cons label labels ih =>
    have split : observed observer ([label] ++ labels) =
        observed observer [label] ++ observed observer labels := List.filterMap_append
    rw [← List.singleton_append,split,one,ih,List.singleton_append,List.flatMap_cons,received,
      received,received,List.filterMap_append,List.map_append]

theorem countP_observes (labels : List Label) :
    (labels.flatMap Label.effect).countP Broadcast.Label.subscribes = labels.countP Label.observes := by
  induction labels with
  | nil => rfl
  | cons label labels ih =>
    rw [List.flatMap_cons,List.countP_append,ih,List.countP_cons]
    cases label with
    | attempt trace attempt published =>
      cases published <;> simp [Label.effect,Label.observes,Broadcast.Label.subscribes]
    | slept | closeDriver | publish | observe | next | dropWallet =>
      simp [Label.effect,Label.observes,Broadcast.Label.subscribes,Nat.add_comm]

theorem weight_fromBroadcast (item : Item PublishedEvent) : (fromBroadcast item).weight = item.weight := by
  cases item <;> rfl

theorem accountedFor_eq (observer : Nat) (labels : List Label) : accountedFor observer labels =
    ((received observer (labels.flatMap Label.effect)).map Item.weight).sum := by
  rw [accountedFor,observed_eq,List.map_map]
  exact congrArg (fun weight => (List.map weight _).sum) (funext weight_fromBroadcast)

theorem streak_concat (attempts : List Attempt) (attempt : Attempt) :
    streak (attempts ++ [attempt]) = if attempt.faulted then streak attempts + 1 else 0 := by
  rw [streak,List.reverse_append,List.reverse_singleton,List.singleton_append,List.takeWhile_cons]
  split <;> rfl

/-- The events of the attempts so far, and that of one more. -/
theorem faultEvents_concat (attempts : List Attempt) (attempt : Attempt) :
    (List.range (attempts ++ [attempt]).length).filterMap
        (faultEvent timeoutSeconds (attempts ++ [attempt])) =
      (List.range attempts.length).filterMap (faultEvent timeoutSeconds attempts) ++
        (faultEvent timeoutSeconds (attempts ++ [attempt]) attempts.length).toList := by
  have earlier : ∀ index ∈ List.range attempts.length,
      faultEvent timeoutSeconds (attempts ++ [attempt]) index =
        faultEvent timeoutSeconds attempts index := by
    intro index member
    have inside := List.mem_range.mp member
    rw [faultEvent,faultEvent,List.getElem?_append_left inside,
      List.take_append_of_le_length (Nat.succ_le_of_lt inside)]
  rw [List.length_append,List.length_singleton,List.range_succ,List.filterMap_append,
    List.filterMap_congr earlier]
  rfl

/-- What a turn of the loop publishes is the event of its attempt. -/
theorem settle_eq {earlier : List Attempt}
    (settled : RefreshDriver.settle timeoutSeconds driver attempt = (next, event))
    (counts : driver.consecutiveFailures = min (streak earlier) u32Max) :
    event = faultEvent timeoutSeconds (earlier ++ [attempt]) earlier.length ∧
      next.consecutiveFailures = min (streak (earlier ++ [attempt])) u32Max ∧
      refreshFaults event.toList = event.toList ∧ next.phase = .sleeping := by
  have whole : (earlier ++ [attempt]).take (earlier.length + 1) = earlier ++ [attempt] :=
    List.take_of_length_le (by simp)
  have saturated : min (driver.consecutiveFailures + 1) u32Max = min (streak earlier + 1) u32Max := by
    rw [counts]
    omega
  rw [faultEvent,whole,streak_concat,List.getElem?_concat_length]
  cases attempt with
  | done outcome =>
    obtain ⟨rfl, rfl⟩ := Prod.mk.inj settled
    exact ⟨rfl, (Nat.zero_min _).symm, rfl, rfl⟩
  | failed error =>
    obtain ⟨rfl, rfl⟩ := Prod.mk.inj settled
    rw [saturated]
    exact ⟨rfl, rfl, rfl, rfl⟩
  | timedOut =>
    obtain ⟨rfl, rfl⟩ := Prod.mk.inj settled
    rw [saturated]
    exact ⟨rfl, rfl, rfl, rfl⟩

/-- What the labels of a run say of the loop and of the events of its attempts. -/
structure Recorded (timeoutSeconds : Nat) (labels : List Label) (world : World) : Prop where
  counts : world.driver.consecutiveFailures = min (streak (attempts labels)) u32Max
  faults : refreshFaults (published labels) = (List.range (attempts labels).length).filterMap
    (faultEvent timeoutSeconds (attempts labels))
  returned : world.channel.closed = true → world.driver.phase = .returned

end Labels

section Runs

variable {wallet : RefreshWallet} {timeoutSeconds : Nat} {labels : List Label} {world : World}

/-- A step that ends no attempt publishes no refresh fault. -/
theorem Recorded.quiet (recorded : Recorded timeoutSeconds labels world) {label : Label}
    (attempted : attempts [label] = []) (unfaulted : refreshFaults (published [label]) = [])
    (counts : next.driver.consecutiveFailures = world.driver.consecutiveFailures)
    (returned : next.channel.closed = true → next.driver.phase = .returned) :
    Recorded timeoutSeconds (labels ++ [label]) next := by
  have same : attempts (labels ++ [label]) = attempts labels := by
    rw [attempts,List.filterMap_append]
    exact (congrArg (attempts labels ++ ·) attempted).trans (List.append_nil _)
  refine ⟨?_, ?_, returned⟩
  · rw [counts,same]
    exact recorded.counts
  · rw [same,published_append,refreshFaults,List.filter_append]
    exact (congrArg (refreshFaults (published labels) ++ ·) unfaulted).trans
      ((List.append_nil _).trans recorded.faults)

theorem Recorded.step (recorded : Recorded timeoutSeconds labels world)
    (step : Step wallet timeoutSeconds world label next) :
    Recorded timeoutSeconds (labels ++ [label]) next := by
  cases step with
  | slept => exact recorded.quiet rfl rfl rfl fun closed => by cases recorded.returned closed
  | closeSleeping => exact recorded.quiet rfl rfl rfl fun _ => rfl
  | closeAttempting => exact recorded.quiet rfl rfl rfl fun _ => rfl
  | publish sends =>
    cases sends with
    | send opened => exact recorded.quiet rfl rfl rfl fun closed => by simp [opened] at closed
  | observe subscribes =>
    cases subscribes
    exact recorded.quiet rfl rfl rfl recorded.returned
  | next receives =>
    cases receives <;> exact recorded.quiet rfl rfl rfl recorded.returned
  | dropWallet returned closes =>
    cases closes
    exact recorded.quiet rfl rfl rfl fun _ => returned
  | attempt ran settled sends =>
    rename_i trace failures attempt driver event channel after
    obtain ⟨fault, counts, whole, sleeping⟩ := settle_eq settled recorded.counts
    have joined : attempts (labels ++ [.attempt trace attempt event]) = attempts labels ++ [attempt] :=
      List.filterMap_append
    have told : published [.attempt trace attempt event] = event.toList := by
      cases event <;> rfl
    refine ⟨?_, ?_, fun closed => ?_⟩
    · rw [joined]
      exact counts
    · rw [joined,faultEvents_concat,← fault,published_append,refreshFaults,List.filter_append,told]
      exact congr (congrArg _ recorded.faults) whole
    · -- the loop holds a handle, so the channel is open before and after the attempt
      have still : after.closed = channel.closed := by
        cases event with
        | none =>
          cases sends
          rfl
        | some event =>
          cases sends with
          | cons sends rest =>
            cases rest
            cases sends
            exact closed_send _ _
      cases recorded.returned (still.symm.trans closed)

/-- The channel of a run takes the effects of its labels. -/
theorem channel_path (path : Async.Path (Step wallet timeoutSeconds) World.initial labels world) :
    Async.Path Broadcast.Step (.initial PublishedEvent eventChannelCapacity)
      (labels.flatMap Label.effect) world.channel := by
  refine path.recorded (fun labels world => Async.Path Broadcast.Step (.initial _ _)
    (labels.flatMap Label.effect) world.channel) .nil fun labels world label next _ reached step => ?_
  rw [List.flatMap_append,List.flatMap_singleton]
  refine reached.append ?_
  cases step with
  | slept | closeSleeping => exact .nil
  | closeAttempting => exact .nil
  | attempt ran settled sends => exact sends
  | publish sends => exact .cons sends .nil
  | observe subscribes => exact .cons subscribes .nil
  | next receives => exact .cons receives .nil
  | dropWallet returned closes => exact .cons closes .nil

/-- In every run of the refresh loop, of the other publishers and of observers that come and read
when they like: each attempt that faulted published one event with the number of faulted attempts
since the last one that went through. The stream of an observer accounts for every event from its
subscription on, in order, without a gap all of them, and it ends only after the loop returned,
with nothing left out. A gap is told only when more events than the channel retains were ahead of
the observer, and counts exactly those that were lost. -/
theorem eventStream_accounts
    (path : Async.Path (Step wallet timeoutSeconds) World.initial labels world) :
    refreshFaults (published labels) = (List.range (attempts labels).length).filterMap
      (faultEvent timeoutSeconds (attempts labels)) ∧
    ∀ before after observer, labels = before ++ .observe :: after →
      before.countP Label.observes = observer →
      (∃ position ≤ (published labels).length, (published before).length ≤ position ∧
        (∃ items, observed observer labels = items.map fromBroadcast ∧
          Accounts (((published labels).take position).drop (published before).length) items) ∧
        (published before).length + accountedFor observer labels = position ∧
        ((∀ dropped, .lagged dropped ∉ observed observer labels) → observed observer labels =
          (((published labels).take position).drop (published before).length).map .published) ∧
        (.next observer none ∈ labels →
          position = (published labels).length ∧ world.driver.phase = .returned)) ∧
      ∀ missed next, Step wallet timeoutSeconds world (.next observer (some (.lagged missed))) next →
        0 < missed ∧ (published before).length + accountedFor observer labels + missed +
          eventChannelCapacity = (published labels).length := by
  have kept := kept_of_path (channel_path path)
  have recorded : Recorded timeoutSeconds labels world := path.recorded (Recorded timeoutSeconds)
    ⟨rfl, rfl, fun closed => by cases closed⟩ fun _ _ _ _ _ recorded step => recorded.step step
  refine ⟨recorded.faults, fun before after observer split own => ?_⟩
  have subscribed : labels.flatMap Label.effect =
      before.flatMap Label.effect ++ .subscribe :: after.flatMap Label.effect := by
    rw [split,List.flatMap_append]
    rfl
  obtain ⟨position, reads, bounded, below, accounts⟩ :=
    kept.accounts subscribed ((countP_observes before).trans own)
  have reached : (published before).length + accountedFor observer labels = position := by
    rw [accountedFor_eq,accounts.total,List.length_drop,List.length_take,Nat.min_eq_left bounded]
    exact Nat.add_sub_cancel' below
  refine ⟨⟨position, bounded, below, ⟨_, observed_eq observer labels, accounts⟩, reached, ?_, ?_⟩, ?_⟩
  · intro gapless
    rw [observed_eq,accounts.complete,List.map_map]
    · rfl
    · intro missed member
      refine gapless missed ?_
      rw [observed_eq]
      exact List.mem_map_of_mem member
  · intro ended
    obtain ⟨closed, last⟩ := kept.ended observer
      (List.mem_flatMap.mpr ⟨_, ended, List.mem_singleton_self _⟩)
    rw [reads] at last
    exact ⟨(Option.some.inj last).trans kept.length.symm, recorded.returned closed⟩
  · intro missed next step
    cases step with
    | next receives =>
      obtain ⟨other, found, counted, some⟩ := kept.lagged receives
      obtain rfl : position = other := Option.some.inj (reads.symm.trans found)
      exact ⟨some, by rw [reached]; exact counted⟩

end Runs

section Sample

def sampleRefreshWallet : RefreshWallet :=
  ⟨.mainnet, .mainnet, ⟨1, 0, 0, 10⟩, ⟨Wire.Hex.reference, BitVec.toHex⟩⟩

def sampleFault : PublishedEvent := .transparentUtxoRefreshFaulted 1 (.refreshExceeded 5)

def sampleReorg : PublishedEvent := .wallet (.reorgDetected 3 2)

/-- An observer of an attempt that runs out of time and of an event of the sync loop; then the loop
is closed and the wallet dropped, and the observer's stream ends. -/
def sampleLabels : List Label :=
  [.observe, .slept, .attempt [] .timedOut (some sampleFault), .publish (.reorgDetected 3 2),
    .next 0 (some (.value sampleFault)), .closeDriver [], .next 0 (some (.value sampleReorg)),
    .dropWallet, .next 0 none]

theorem sampleStream_accounts : ∃ world,
    Async.Path (Step sampleRefreshWallet 5) World.initial sampleLabels world ∧
    refreshFaults (published sampleLabels) = [sampleFault] ∧
    observed 0 sampleLabels = [.published sampleFault, .published sampleReorg] ∧
    accountedFor 0 sampleLabels = (published sampleLabels).length ∧
    world.driver.phase = .returned := by
  have path : Async.Path (Step sampleRefreshWallet 5) World.initial sampleLabels _ :=
    .cons (.observe .subscribe) <| .cons .slept <|
    .cons (.attempt .cut rfl (.cons (.send rfl) .nil)) <| .cons (.publish (.send rfl)) <|
    .cons (.next (.receive rfl rfl)) <| .cons .closeSleeping <| .cons (.next (.receive rfl rfl)) <|
    .cons (.dropWallet rfl (.close rfl)) <| .cons (.next (.ended rfl rfl)) .nil
  obtain ⟨faults, streams⟩ := eventStream_accounts path
  obtain ⟨⟨position, -, -, -, reached, -, ended⟩, -⟩ := streams [] _ 0 rfl rfl
  obtain ⟨whole, returned⟩ := ended (by simp [sampleLabels])
  refine ⟨_, path, faults.trans rfl, rfl, ?_, returned⟩
  rw [← whole,← reached]
  exact (Nat.zero_add _).symm

end Sample

end Zally.Events
