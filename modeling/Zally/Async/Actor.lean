import Zally.Async.Machine
import Mathlib.Data.List.Nodup

/-! A single worker behind a bounded queue. Callers send requests and wait for the answers; a
caller may give up at any time, and an answer may wait for its caller to confirm it. -/
namespace Async.Actor

/-- What serving a request does. It may panic, which answers nothing; an answer that has to be
confirmed comes with what undoes it. -/
structure Service (σ κ ρ : Type) where
  run : κ → σ → Option ρ × σ
  undo : κ → ρ → Option (σ → σ)

/-- What a served request leaves of a state once its answer is kept or abandoned. -/
def Service.settle (service : Service σ κ ρ) (request : κ) (kept : Bool) (state : σ) : σ :=
  let (outcome, next) := service.run request state
  match outcome.bind (service.undo request) with
  | some undo => if kept then next else undo next
  | none => next

/-- Where a call stands. -/
inductive Stage (ρ : Type) where
  | sending
  | queued
  | replied (outcome : Option ρ)
  | returned (outcome : Option ρ)
  | dropped

namespace Stage

/-- The caller has its answer or is gone. -/
def Finished : Stage ρ → Prop
  | returned _ | dropped => True
  | _ => False

/-- The request is out of its caller's hands and not in the queue. -/
def Served : Stage ρ → Prop
  | sending | queued => False
  | _ => True

/-- What the worker answered. -/
def answer : Stage ρ → Option (Option ρ)
  | replied outcome | returned outcome => some outcome
  | _ => none

/-- The most steps a call at this stage takes part in before it ends. -/
def weight : Stage ρ → Nat
  | sending => 4
  | queued => 2
  | replied _ => 1
  | returned _ | dropped => 0

end Stage

structure Call (κ ρ : Type) where
  request : κ
  stage : Stage ρ

/-- The worker's state, its queue, the answer whose caller it waits for, and every call made. -/
structure World (σ κ ρ : Type) where
  state : σ
  queue : List Nat
  unconfirmed : Option (Nat × (σ → σ))
  calls : List (Call κ ρ)

def World.initial (state : σ) : World σ κ ρ := ⟨state, [], none, []⟩

inductive Label (κ : Type) where
  | call (request : κ)
  | send (ticket : Nat)
  | serve (ticket : Nat)
  | take (ticket : Nat)
  | drop (ticket : Nat)
  | undo

namespace Label

/-- The request that enters the queue. -/
def sent : Label κ → Option Nat
  | send ticket => some ticket
  | _ => none

/-- Steps that need no new caller and no caller to give up. -/
def Internal : Label κ → Prop
  | call _ | drop _ => False
  | _ => True

end Label

/-- One step of a caller or of the worker. The worker takes its next request only when no answer
waits for its caller. -/
inductive Step (service : Service σ κ ρ) (capacity : Nat) :
    World σ κ ρ → Label κ → World σ κ ρ → Prop where
  | call (request : κ) : Step service capacity world (.call request)
      { world with calls := world.calls ++ [⟨request, .sending⟩] }
  | send (called : world.calls[ticket]? = some ⟨request, .sending⟩)
      (room : world.queue.length < capacity) : Step service capacity world (.send ticket)
      { world with
        queue := world.queue ++ [ticket]
        calls := world.calls.set ticket ⟨request, .queued⟩ }
  | serve (idle : world.unconfirmed = none) (head : world.queue = ticket :: queue)
      (called : world.calls[ticket]? = some ⟨request, .queued⟩) :
      Step service capacity world (.serve ticket)
      { state := (service.run request world.state).2, queue
        unconfirmed :=
          ((service.run request world.state).1.bind (service.undo request)).map (Prod.mk ticket)
        calls := world.calls.set ticket ⟨request, .replied (service.run request world.state).1⟩ }
  | serveDropped (idle : world.unconfirmed = none) (head : world.queue = ticket :: queue)
      (called : world.calls[ticket]? = some ⟨request, .dropped⟩) :
      Step service capacity world (.serve ticket)
      { world with state := service.settle request false world.state, queue }
  | take (called : world.calls[ticket]? = some ⟨request, .replied outcome⟩) :
      Step service capacity world (.take ticket)
      { world with
        unconfirmed := world.unconfirmed.filter (·.1 ≠ ticket)
        calls := world.calls.set ticket ⟨request, .returned outcome⟩ }
  | drop (called : world.calls[ticket]? = some ⟨request, stage⟩) (unfinished : ¬ stage.Finished) :
      Step service capacity world (.drop ticket)
      { world with calls := world.calls.set ticket ⟨request, .dropped⟩ }
  | undo (waiting : world.unconfirmed = some (ticket, undo))
      (called : world.calls[ticket]? = some ⟨request, .dropped⟩) :
      Step service capacity world .undo
      { world with state := undo world.state, unconfirmed := none }

/-- A request that was served, and whether its answer was kept. -/
structure Entry (κ : Type) where
  ticket : Nat
  request : κ
  kept : Bool

/-- The state that served requests leave when they run one after the other. -/
def replay (service : Service σ κ ρ) (start : σ) (history : List (Entry κ)) : σ :=
  history.foldl (fun state entry => service.settle entry.request entry.kept state) start

/-- The requests a worker served, in order, and how the calls stand to them. -/
structure Recorded (service : Service σ κ ρ) (start : σ) (labels : List (Label κ))
    (world : World σ κ ρ) (history : List (Entry κ)) : Prop where
  state : world.state = replay service start history
  order : history.map (·.ticket) ++ world.queue = labels.filterMap Label.sent
  distinct : (history.map (·.ticket) ++ world.queue).Nodup
  served : ∀ entry ∈ history, ∃ stage,
    world.calls[entry.ticket]? = some ⟨entry.request, stage⟩ ∧ stage.Served
  waiting : ∀ ticket ∈ world.queue, ∃ request stage,
    world.calls[ticket]? = some ⟨request, stage⟩ ∧ (stage = .queued ∨ stage = .dropped)
  queued : ∀ ticket request, world.calls[ticket]? = some ⟨request, .queued⟩ → ticket ∈ world.queue
  answered : ∀ ticket request stage outcome, world.calls[ticket]? = some ⟨request, stage⟩ →
    stage.answer = some outcome → ∃ before after,
      history = before ++ ⟨ticket, request, true⟩ :: after ∧
        (service.run request (replay service start before)).1 = outcome
  abandoned : ∀ entry ∈ history, entry.kept = false →
    world.calls[entry.ticket]? = some ⟨entry.request, .dropped⟩
  awaited : ∀ ticket undo, world.unconfirmed = some (ticket, undo) → ∃ before request reply,
    history = before ++ [⟨ticket, request, true⟩] ∧
      (service.run request (replay service start before)).1 = some reply ∧
      service.undo request reply = some undo ∧
      (world.calls[ticket]? = some ⟨request, .replied (some reply)⟩ ∨
        world.calls[ticket]? = some ⟨request, .dropped⟩)
  confirmed : ∀ before ticket request after, history = before ++ ⟨ticket, request, true⟩ :: after →
    ∀ reply undo, (service.run request (replay service start before)).1 = some reply →
      service.undo request reply = some undo →
      (∃ undo, world.unconfirmed = some (ticket, undo)) ∨
        world.calls[ticket]? = some ⟨request, .returned (some reply)⟩

variable {σ κ ρ : Type} {service : Service σ κ ρ} {world : World σ κ ρ}
  {history : List (Entry κ)} {capacity : Nat}

theorem replay_append (service : Service σ κ ρ) (start : σ) (before after : List (Entry κ)) :
    replay service start (before ++ after) =
      replay service (replay service start before) after := List.foldl_append

theorem replay_append_cons (service : Service σ κ ρ) (start : σ) (before : List (Entry κ))
    (entry : Entry κ) (after : List (Entry κ)) :
    replay service start (before ++ entry :: after) =
      replay service (service.settle entry.request entry.kept (replay service start before)) after :=
  replay_append service start before (entry :: after)

/-- A property that every request of the history keeps holds after it. -/
theorem replay_invariant (property : σ → Prop)
    (settles : ∀ entry ∈ history, ∀ state, property state →
      property (service.settle entry.request entry.kept state))
    (initial : property start) : property (replay service start history) := by
  induction history generalizing start with
  | nil => exact initial
  | cons entry history ih =>
    obtain ⟨first, rest⟩ := List.forall_mem_cons.mp settles
    exact ih rest (first start initial)

theorem getElem?_called {calls : List (Call κ ρ)} (called : calls[ticket]? = some old) :
    (calls.set ticket new)[other]? = if other = ticket then some new else calls[other]? := by
  have inside := (List.getElem?_eq_some_iff.mp called).1
  rw [List.getElem?_set]
  grind

theorem append_singleton_split {history : List α}
    (split : history ++ [last] = before ++ entry :: after) :
    (before = history ∧ entry = last ∧ after = []) ∨
      ∃ rest, after = rest ++ [last] ∧ history = before ++ entry :: rest := by
  obtain rfl | ⟨rest, final, rfl⟩ := List.eq_nil_or_concat after
  · obtain ⟨rfl, same⟩ := List.append_inj' split rfl
    cases same
    exact .inl ⟨rfl, rfl, rfl⟩
  · rw [List.concat_eq_append,← List.cons_append,← List.append_assoc] at split
    obtain ⟨rfl, same⟩ := List.append_inj' split rfl
    cases same
    exact .inr ⟨rest, List.concat_eq_append, rfl⟩

/-- Served requests have tickets of their own, so a ticket has one place. -/
theorem split_unique {first second : Entry κ}
    (distinct : ((before ++ first :: after).map (·.ticket)).Nodup)
    (same : before ++ first :: after = before' ++ second :: after')
    (ticket : first.ticket = second.ticket) : before = before' ∧ first = second ∧ after = after' := by
  induction before generalizing before' with
  | nil =>
    cases before' with
    | nil =>
      cases same
      exact ⟨rfl, rfl, rfl⟩
    | cons head tail =>
      cases same
      simp [ticket] at distinct
  | cons head tail ih =>
    cases before' with
    | nil =>
      cases same
      simp [ticket] at distinct
    | cons head' tail' =>
      rw [List.cons_append,List.cons_append,List.cons.injEq] at same
      obtain ⟨rfl, same⟩ := same
      exact (ih (List.nodup_cons.mp distinct).2 same).imp_left (congrArg _)

theorem settle_replied (outcome : (service.run request state).1.bind (service.undo request) = undo) :
    service.settle request true state = (service.run request state).2 := by
  unfold Service.settle
  cases undo <;> simp [outcome]

/-- An answer that needs no confirmation stays. -/
theorem settle_of_plain (plain : (service.run request state).1.bind (service.undo request) = none)
    (kept : Bool) : service.settle request kept state = (service.run request state).2 := by
  simp [Service.settle,plain]

/-- A request whose answer has to be confirmed leaves what it leaves, or what undoes it. -/
theorem settle_of_undo (replied : (service.run request state).1 = some reply)
    (undone : service.undo request reply = some undo) (kept : Bool) :
    service.settle request kept state =
      if kept then (service.run request state).2 else undo (service.run request state).2 := by
  simp [Service.settle,replied,undone]

namespace Recorded

theorem initial (start : σ) : Recorded service start ([] : List (Label κ)) (.initial start) [] := by
  constructor <;> simp [replay,World.initial]

theorem call (record : Recorded service start labels world history) (request : κ) :
    Recorded service start (labels ++ [.call request])
      { world with calls := world.calls ++ [⟨request, .sending⟩] } history := by
  have old {ticket : Nat} {call : Call κ ρ} (called : world.calls[ticket]? = some call) :
      (world.calls ++ [⟨request, .sending⟩])[ticket]? = some call := by
    rw [List.getElem?_append_left (List.getElem?_eq_some_iff.mp called).1]
    exact called
  have known {ticket : Nat} {call : Call κ ρ} (stage : call.stage ≠ .sending)
      (called : (world.calls ++ [⟨request, .sending⟩])[ticket]? = some call) :
      world.calls[ticket]? = some call := by
    grind
  constructor
  case state => exact record.state
  case order => simpa [Label.sent,List.filterMap_cons] using record.order
  case distinct => exact record.distinct
  case served => exact fun entry member => (record.served entry member).imp fun _ served =>
    ⟨old served.1, served.2⟩
  case waiting =>
    intro ticket queued
    obtain ⟨request, stage, called, standing⟩ := record.waiting ticket queued
    exact ⟨request, stage, old called, standing⟩
  case queued => exact fun ticket request called => record.queued ticket request (known nofun called)
  case answered =>
    intro ticket request stage outcome called answer
    exact record.answered ticket request stage outcome
      (known (by rintro rfl; cases answer) called) answer
  case abandoned => exact fun entry member gone => old (record.abandoned entry member gone)
  case awaited =>
    intro ticket undo waiting
    obtain ⟨before, request, reply, last, replied, undone, standing⟩ :=
      record.awaited ticket undo waiting
    exact ⟨before, request, reply, last, replied, undone, standing.imp old old⟩
  case confirmed =>
    intro before ticket request after split reply undo replied undone
    exact (record.confirmed before ticket request after split reply undo replied undone).imp_right old

theorem send (record : Recorded service start labels world history)
    (called : world.calls[ticket]? = some ⟨request, .sending⟩) :
    Recorded service start (labels ++ [.send ticket])
      { world with
        queue := world.queue ++ [ticket]
        calls := world.calls.set ticket ⟨request, .queued⟩ } history := by
  have unserved : ∀ entry ∈ history, entry.ticket ≠ ticket := by
    rintro entry member rfl
    obtain ⟨stage, known, served⟩ := record.served entry member
    rw [called] at known
    cases known
    exact served
  have unqueued : ticket ∉ world.queue := by
    intro queued
    obtain ⟨request, stage, known, standing⟩ := record.waiting ticket queued
    rw [called] at known
    cases known
    simp at standing
  constructor
  case state => exact record.state
  case order =>
    rw [← List.append_assoc,record.order]
    simp [Label.sent]
  case distinct =>
    have distinct := record.distinct
    rw [← List.append_assoc]
    refine List.nodup_append.mpr ⟨distinct, List.nodup_singleton _, ?_⟩
    grind
  case served =>
    intro entry member
    rw [getElem?_called called,if_neg (unserved entry member)]
    exact record.served entry member
  case waiting =>
    intro other queued
    rw [getElem?_called called]
    split
    · exact ⟨request, .queued, rfl, .inl rfl⟩
    · exact record.waiting other (by grind)
  case queued =>
    intro other request known
    rw [getElem?_called called] at known
    have := record.queued other request
    grind
  case answered =>
    intro other request stage outcome known answer
    rw [getElem?_called called] at known
    split at known
    · cases known
      cases answer
    · exact record.answered other request stage outcome known answer
  case abandoned =>
    intro entry member gone
    rw [getElem?_called called,if_neg (unserved entry member)]
    exact record.abandoned entry member gone
  case awaited =>
    intro other undo waiting
    obtain ⟨before, opened, reply, last, replied, undone, standing⟩ :=
      record.awaited other undo waiting
    have differs := unserved ⟨other, opened, true⟩ (by simp [last])
    refine ⟨before, opened, reply, last, replied, undone, ?_⟩
    simpa only [getElem?_called called,if_neg differs] using standing
  case confirmed =>
    intro before other opened after split reply undo replied undone
    have differs := unserved ⟨other, opened, true⟩ (by simp [split])
    rw [getElem?_called called,if_neg differs]
    exact record.confirmed before other opened after split reply undo replied undone

theorem serve (record : Recorded service start labels world history)
    (idle : world.unconfirmed = none) (head : world.queue = ticket :: queue)
    (called : world.calls[ticket]? = some ⟨request, .queued⟩) :
    Recorded service start (labels ++ [.serve ticket])
      { state := (service.run request world.state).2, queue
        unconfirmed :=
          ((service.run request world.state).1.bind (service.undo request)).map (Prod.mk ticket)
        calls := world.calls.set ticket ⟨request, .replied (service.run request world.state).1⟩ }
      (history ++ [⟨ticket, request, true⟩]) := by
  have unserved : ∀ entry ∈ history, entry.ticket ≠ ticket := by
    have distinct := record.distinct
    rw [head] at distinct
    grind
  have outside : ticket ∉ queue := by
    have distinct := record.distinct
    rw [head] at distinct
    grind
  constructor
  case state =>
    rw [replay_append,← record.state]
    exact (settle_replied rfl).symm
  case order =>
    have order := record.order
    rw [head] at order
    simp [Label.sent,← order]
  case distinct =>
    have distinct := record.distinct
    rw [head] at distinct
    simpa using distinct
  case served =>
    intro entry member
    obtain earlier | rfl := by simpa using member
    · rw [getElem?_called called,if_neg (unserved entry earlier)]
      exact record.served entry earlier
    · rw [getElem?_called called,if_pos rfl]
      exact ⟨_, rfl, trivial⟩
  case waiting =>
    intro other queued
    rw [getElem?_called called,if_neg (by rintro rfl; exact outside queued)]
    exact record.waiting other (head ▸ List.mem_cons_of_mem _ queued)
  case queued =>
    intro other request known
    rw [getElem?_called called] at known
    split at known
    · cases known
    · have queued := record.queued other request known
      rw [head] at queued
      exact (List.mem_cons.mp queued).resolve_left ‹_›
  case answered =>
    intro other asked stage outcome known answer
    rw [getElem?_called called] at known
    split at known
    · rename_i same
      cases known
      cases answer
      exact ⟨history, [], by rw [same], by rw [← record.state]⟩
    · obtain ⟨before, after, split, replied⟩ :=
        record.answered other asked stage outcome known answer
      exact ⟨before, after ++ [_], by rw [split,List.append_assoc]; rfl, replied⟩
  case abandoned =>
    intro entry member gone
    obtain earlier | rfl := by simpa using member
    · rw [getElem?_called called,if_neg (unserved entry earlier)]
      exact record.abandoned entry earlier gone
    · cases gone
  case awaited =>
    intro other undo waiting
    obtain ⟨_, undone, same⟩ := Option.map_eq_some_iff.mp waiting
    cases same
    obtain ⟨reply, replied, undone⟩ := Option.bind_eq_some_iff.mp undone
    refine ⟨history, request, reply, rfl, by rw [← record.state,replied], undone, .inl ?_⟩
    rw [getElem?_called called,if_pos rfl,replied]
  case confirmed =>
    intro before other asked after split reply undo replied undone
    obtain ⟨rfl, same, -⟩ | ⟨rest, -, earlier⟩ := append_singleton_split split
    · cases same
      rw [← record.state] at replied
      exact .inl ⟨undo, by simp [replied,undone]⟩
    · have differs := unserved ⟨other, asked, true⟩ (by simp [earlier])
      obtain ⟨undo, waiting⟩ | returned :=
        record.confirmed before other asked rest earlier reply undo replied undone
      · rw [idle] at waiting
        cases waiting
      · rw [getElem?_called called,if_neg differs]
        exact .inr returned

theorem serveDropped (record : Recorded service start labels world history)
    (idle : world.unconfirmed = none) (head : world.queue = ticket :: queue)
    (called : world.calls[ticket]? = some ⟨request, .dropped⟩) :
    Recorded service start (labels ++ [.serve ticket])
      { world with state := service.settle request false world.state, queue }
      (history ++ [⟨ticket, request, false⟩]) := by
  constructor
  case state =>
    rw [replay_append,← record.state]
    rfl
  case order =>
    have order := record.order
    rw [head] at order
    simp [Label.sent,← order]
  case distinct =>
    have distinct := record.distinct
    rw [head] at distinct
    simpa using distinct
  case served =>
    intro entry member
    obtain earlier | rfl := by simpa using member
    · exact record.served entry earlier
    · exact ⟨_, called, trivial⟩
  case waiting =>
    exact fun other queued => record.waiting other (head ▸ List.mem_cons_of_mem _ queued)
  case queued =>
    intro other asked known
    have queued := record.queued other asked known
    rw [head] at queued
    refine (List.mem_cons.mp queued).resolve_left ?_
    rintro rfl
    rw [called] at known
    cases known
  case answered =>
    intro other asked stage outcome known answer
    obtain ⟨before, after, split, replied⟩ :=
      record.answered other asked stage outcome known answer
    exact ⟨before, after ++ [_], by rw [split,List.append_assoc]; rfl, replied⟩
  case abandoned =>
    intro entry member gone
    obtain earlier | rfl := by simpa using member
    · exact record.abandoned entry earlier gone
    · exact called
  case awaited =>
    intro other undo waiting
    rw [idle] at waiting
    cases waiting
  case confirmed =>
    intro before other asked after split reply undo replied undone
    obtain ⟨-, same, -⟩ | ⟨rest, -, earlier⟩ := append_singleton_split split
    · cases same
    · exact record.confirmed before other asked rest earlier reply undo replied undone

/-- The place of a ticket among the served requests. -/
theorem place_unique (record : Recorded service start labels world history)
    (first : history = before ++ ⟨ticket, request, kept⟩ :: after)
    (second : history = before' ++ ⟨ticket, request', kept'⟩ :: after') :
    before = before' ∧ request = request' ∧ kept = kept' ∧ after = after' := by
  obtain ⟨sameBefore, same, sameAfter⟩ :=
    split_unique (first ▸ record.distinct.of_append_left) (first.symm.trans second) rfl
  cases same
  exact ⟨sameBefore, rfl, rfl, sameAfter⟩

theorem take (record : Recorded service start labels world history)
    (called : world.calls[ticket]? = some ⟨request, .replied outcome⟩) :
    Recorded service start (labels ++ [.take ticket])
      { world with
        unconfirmed := world.unconfirmed.filter (·.1 ≠ ticket)
        calls := world.calls.set ticket ⟨request, .returned outcome⟩ } history := by
  constructor
  case state => exact record.state
  case order => simpa [Label.sent,List.filterMap_cons] using record.order
  case distinct => exact record.distinct
  case served =>
    intro entry member
    obtain ⟨stage, known, served⟩ := record.served entry member
    rw [getElem?_called called]
    split
    · rename_i same
      rw [same,called] at known
      cases known
      exact ⟨_, rfl, trivial⟩
    · exact ⟨stage, known, served⟩
  case waiting =>
    intro other queued
    obtain ⟨asked, stage, known, standing⟩ := record.waiting other queued
    rw [getElem?_called called]
    split
    · rename_i same
      rw [same,called] at known
      cases known
      simp at standing
    · exact ⟨asked, stage, known, standing⟩
  case queued =>
    intro other asked known
    rw [getElem?_called called] at known
    split at known
    · cases known
    · exact record.queued other asked known
  case answered =>
    intro other asked stage answered known answer
    rw [getElem?_called called] at known
    split at known
    · rename_i same
      cases known
      cases answer
      exact same ▸ record.answered ticket request _ outcome called rfl
    · exact record.answered other asked stage answered known answer
  case abandoned =>
    intro entry member gone
    have known := record.abandoned entry member gone
    rw [getElem?_called called]
    split
    · rename_i same
      rw [same,called] at known
      cases known
    · exact known
  case awaited =>
    intro other undo waiting
    obtain ⟨waiting, differs⟩ := Option.filter_eq_some_iff.mp waiting
    obtain ⟨before, asked, reply, last, replied, undone, standing⟩ :=
      record.awaited other undo waiting
    refine ⟨before, asked, reply, last, replied, undone, ?_⟩
    simpa only [getElem?_called called,if_neg (of_decide_eq_true differs)] using standing
  case confirmed =>
    intro before other asked after split reply undo replied undone
    by_cases same : other = ticket
    · -- The caller that takes this answer confirms it.
      subst same
      obtain ⟨before', after', split', outcome'⟩ :=
        record.answered other request _ outcome called rfl
      obtain ⟨rfl, rfl, -⟩ := record.place_unique split split'
      rw [replied] at outcome'
      subst outcome'
      rw [getElem?_called called,if_pos rfl]
      exact .inr rfl
    · rw [getElem?_called called,if_neg same]
      refine (record.confirmed before other asked after split reply undo replied undone).imp_left ?_
      rintro ⟨undo, waiting⟩
      exact ⟨undo, by simp [waiting,Option.filter,same]⟩

theorem drop (record : Recorded service start labels world history)
    (called : world.calls[ticket]? = some ⟨request, stage⟩) (unfinished : ¬ stage.Finished) :
    Recorded service start (labels ++ [.drop ticket])
      { world with calls := world.calls.set ticket ⟨request, .dropped⟩ } history := by
  constructor
  case state => exact record.state
  case order => simpa [Label.sent,List.filterMap_cons] using record.order
  case distinct => exact record.distinct
  case served =>
    intro entry member
    obtain ⟨other, known, served⟩ := record.served entry member
    rw [getElem?_called called]
    split
    · rename_i same
      rw [same,called] at known
      cases known
      exact ⟨_, rfl, trivial⟩
    · exact ⟨other, known, served⟩
  case waiting =>
    intro other queued
    rw [getElem?_called called]
    split
    · exact ⟨request, .dropped, rfl, .inr rfl⟩
    · exact record.waiting other queued
  case queued =>
    intro other asked known
    rw [getElem?_called called] at known
    split at known
    · cases known
    · exact record.queued other asked known
  case answered =>
    intro other asked stage answered known answer
    rw [getElem?_called called] at known
    split at known
    · cases known
      cases answer
    · exact record.answered other asked stage answered known answer
  case abandoned =>
    intro entry member gone
    have known := record.abandoned entry member gone
    rw [getElem?_called called]
    split
    · rename_i same
      rw [same,called] at known
      cases known
      rfl
    · exact known
  case awaited =>
    intro other undo waiting
    obtain ⟨before, asked, reply, last, replied, undone, standing⟩ :=
      record.awaited other undo waiting
    refine ⟨before, asked, reply, last, replied, undone, ?_⟩
    rw [getElem?_called called]
    split
    · rename_i same
      rw [same,called] at standing
      obtain known | known := standing <;> cases known <;> exact .inr rfl
    · exact standing
  case confirmed =>
    intro before other asked after split reply undo replied undone
    refine (record.confirmed before other asked after split reply undo replied undone).imp_right ?_
    intro returned
    rw [getElem?_called called,if_neg ?_]
    · exact returned
    · rintro rfl
      rw [called] at returned
      cases returned
      exact unfinished trivial

theorem undo {undo : σ → σ} (record : Recorded service start labels world history)
    (waiting : world.unconfirmed = some (ticket, undo))
    (called : world.calls[ticket]? = some ⟨request, .dropped⟩) : ∃ history,
    Recorded service start (labels ++ [.undo])
      { world with state := undo world.state, unconfirmed := none } history := by
  obtain ⟨before, asked, reply, last, replied, undone, standing⟩ :=
    record.awaited ticket undo waiting
  obtain rfl : asked = request := by
    rw [called] at standing
    obtain known | known := standing <;> cases known
    rfl
  -- The last request served is the one undone.
  have split {inner : List (Entry κ)} {entry after} (kept : entry.kept = true)
      (at_ : before ++ [⟨ticket, asked, false⟩] = inner ++ entry :: after) :
      ∃ rest, before = inner ++ entry :: rest := by
    obtain ⟨-, same, -⟩ | ⟨rest, -, earlier⟩ := append_singleton_split at_
    · subst same
      cases kept
    · exact ⟨rest, earlier⟩
  have tickets : (before ++ [(⟨ticket, asked, false⟩ : Entry κ)]).map (·.ticket) =
      history.map (·.ticket) := by
    simp [last]
  refine ⟨before ++ [⟨ticket, asked, false⟩], ?_⟩
  constructor
  case state =>
    have state := record.state
    rw [last,replay_append] at state
    rw [state,replay_append]
    simp [replay,Service.settle,replied,undone] at replied ⊢
  case order =>
    rw [tickets]
    simpa [Label.sent,List.filterMap_cons] using record.order
  case distinct => exact tickets ▸ record.distinct
  case served =>
    intro entry member
    obtain earlier | rfl := by simpa using member
    · exact record.served entry (by simp [last,earlier])
    · exact ⟨_, called, trivial⟩
  case waiting => exact record.waiting
  case queued => exact record.queued
  case answered =>
    intro other request stage outcome known answer
    obtain ⟨inner, after, at_, outcome⟩ :=
      record.answered other request stage outcome known answer
    obtain ⟨-, same, -⟩ | ⟨rest, -, earlier⟩ := append_singleton_split (last ▸ at_)
    · cases same
      rw [called] at known
      cases known
      cases answer
    · exact ⟨inner, rest ++ [_], by rw [earlier,List.append_assoc]; rfl, outcome⟩
  case abandoned =>
    intro entry member gone
    obtain earlier | rfl := by simpa using member
    · exact record.abandoned entry (by simp [last,earlier]) gone
    · exact called
  case awaited => exact nofun
  case confirmed =>
    intro inner other request after at_ reply' undo' replied' undone'
    obtain ⟨rest, earlier⟩ := split rfl at_
    have placed :
        history = inner ++ ⟨other, request, true⟩ :: (rest ++ [⟨ticket, asked, true⟩]) := by
      rw [last,earlier,List.append_assoc]
      rfl
    refine (record.confirmed inner other request _ placed reply' undo' replied' undone').imp_left ?_
    rintro ⟨_, same⟩
    rw [waiting] at same
    cases same
    have unique := (record.place_unique (last.trans rfl) placed).2.2.2
    simp at unique

/-- What one step does to the record. -/
theorem step (record : Recorded service start labels world history)
    (moves : Step service capacity world label next) :
    ∃ history, Recorded service start (labels ++ [label]) next history := by
  cases moves with
  | call request => exact ⟨_, record.call request⟩
  | send called _ => exact ⟨_, record.send called⟩
  | serve idle head called => exact ⟨_, record.serve idle head called⟩
  | serveDropped idle head called => exact ⟨_, record.serveDropped idle head called⟩
  | take called => exact ⟨_, record.take called⟩
  | drop called unfinished => exact ⟨_, record.drop called unfinished⟩
  | undo waiting called => exact record.undo waiting called

end Recorded

/-- Every run is a sequence of requests served one after the other. -/
theorem exists_recorded (path : Path (Step service capacity) (.initial start) labels world) :
    ∃ history, Recorded service start labels world history :=
  path.recorded (fun labels world => ∃ history, Recorded service start labels world history)
    ⟨[], .initial start⟩ fun _ _ _ _ _ ⟨_, record⟩ moves => record.step moves

theorem queue_length_le (path : Path (Step service capacity) (.initial start) labels world) :
    world.queue.length ≤ capacity := by
  refine path.invariant (·.queue.length ≤ capacity) ?_ (Nat.zero_le _)
  intro before label after bounded moves
  cases moves with
  | send _ room =>
    rw [List.length_append,List.length_singleton]
    exact room
  | serve _ head _ | serveDropped _ head _ =>
    rw [head] at bounded
    exact Nat.le_of_succ_le bounded
  | _ => exact bounded

theorem sent_of_taken (path : Path (Step service capacity) (.initial start) labels world)
    (taken : .take ticket ∈ labels) : .send ticket ∈ labels := by
  obtain ⟨first, second, rfl⟩ := List.append_of_mem taken
  obtain ⟨middle, reached, rest⟩ := Path.append_iff.mp path
  obtain ⟨history, record⟩ := exists_recorded reached
  cases rest with
  | cons moves _ =>
    cases moves with
    | take called =>
      obtain ⟨before, after, placed, -⟩ := record.answered _ _ _ _ called rfl
      have sent : ticket ∈ first.filterMap Label.sent := by
        rw [← record.order,placed]
        simp
      obtain ⟨label, member, sent⟩ := List.mem_filterMap.mp sent
      cases label <;> cases sent
      exact List.mem_append_left _ member

/-- A request whose answer was taken comes before every request sent later. -/
theorem taken_precedes
    (path : Path (Step service capacity) (.initial start) (before ++ after) world)
    (record : Recorded service start (before ++ after) world history)
    (taken : .take first ∈ before) (sent : .send second ∈ after) :
    [first, second].Sublist (history.map (·.ticket) ++ world.queue) := by
  obtain ⟨middle, reached, -⟩ := Path.append_iff.mp path
  rw [record.order,List.filterMap_append]
  rw [show [first, second] = [first] ++ [second] from rfl]
  apply List.Sublist.append
  · exact List.singleton_sublist.mpr
      (List.mem_filterMap.mpr ⟨_, sent_of_taken reached taken, rfl⟩)
  · exact List.singleton_sublist.mpr (List.mem_filterMap.mpr ⟨_, sent, rfl⟩)

end Async.Actor
