import Mathlib.Algebra.Order.Ring.Int
import Zally.Async.Actor

/-! The worker comes to rest: it waits for no caller that is gone, and what it undid is what
nobody has. -/
namespace Async.Actor

variable {σ κ ρ : Type} {service : Service σ κ ρ} {world : World σ κ ρ}
  {history : List (Entry κ)} {capacity : Nat}

/-- How many steps a world has left without new callers. -/
def World.weight (world : World σ κ ρ) : Nat :=
  (world.calls.map (·.stage.weight)).sum + world.queue.length + world.unconfirmed.toList.length

/-- No caller waits and the worker has nothing to do. -/
def World.AtRest (world : World σ κ ρ) : Prop :=
  (∀ call ∈ world.calls, call.stage.Finished) ∧ world.queue = [] ∧ world.unconfirmed = none

theorem weight_set {calls : List (Call κ ρ)} (new : Stage ρ)
    (called : calls[ticket]? = some ⟨request, stage⟩) :
    ((calls.set ticket ⟨request, new⟩).map (·.stage.weight)).sum + stage.weight =
      (calls.map (·.stage.weight)).sum + new.weight := by
  induction calls generalizing ticket with
  | nil => cases called
  | cons head calls ih =>
    cases ticket with
    | zero =>
      cases called
      simp only [List.set_cons_zero,List.map_cons,List.sum_cons]
      omega
    | succ ticket =>
      have rest := ih called
      simp only [List.set_cons_succ,List.map_cons,List.sum_cons]
      omega

theorem weight_lt (moves : Step service capacity world label next) (inner : label.Internal) :
    next.weight < world.weight := by
  cases moves with
  | call | drop => cases inner
  | send called _ =>
    have same := weight_set .queued called
    simp only [World.weight,Stage.weight,List.length_append,List.length_singleton] at same ⊢
    omega
  | serve idle head called =>
    rename_i ticket queue request
    have same := weight_set (.replied (service.run request world.state).1) called
    have opened := Option.length_toList_le
      (o := ((service.run request world.state).1.bind (service.undo request)).map (Prod.mk ticket))
    simp only [World.weight,Stage.weight,idle,head,List.length_cons,Option.toList_none,
      List.length_nil] at same opened ⊢
    omega
  | serveDropped _ head _ =>
    simp only [World.weight,head,List.length_cons]
    omega
  | take called =>
    rename_i ticket request outcome
    have same := weight_set (.returned outcome) called
    have fewer := List.length_filter_le (·.1 ≠ ticket) world.unconfirmed.toList
    simp only [World.weight,Stage.weight,Option.toList_filter] at same fewer ⊢
    omega
  | undo waiting _ =>
    simp only [World.weight,waiting,Option.toList_some,Option.toList_none,List.length_singleton,
      List.length_nil]
    omega

/-- A run without new callers, and without callers who give up, ends. -/
theorem length_le_weight (path : Path (Step service capacity) world labels final)
    (inner : ∀ label ∈ labels, label.Internal) : labels.length ≤ world.weight := by
  induction path with
  | nil => exact Nat.zero_le _
  | cons moves _ ih =>
    have shorter := weight_lt moves (inner _ List.mem_cons_self)
    have rest := ih fun label member => inner label (List.mem_cons_of_mem _ member)
    rw [List.length_cons]
    omega

/-- A call whose caller waits is still there after such a step, and its caller still waits or has
the answer. -/
theorem waits_step {ticket : Nat} (moves : Step service capacity world label next) (inner : label.Internal)
    (called : world.calls[ticket]? = some ⟨request, stage⟩) (waits : stage ≠ .dropped) :
    ∃ stage, next.calls[ticket]? = some ⟨request, stage⟩ ∧ stage ≠ .dropped := by
  have set {other : Nat} {asked : κ} {old new : Stage ρ} (staying : new ≠ .dropped)
      (known : world.calls[other]? = some ⟨asked, old⟩) :
      ∃ stage, (world.calls.set other ⟨asked, new⟩)[ticket]? = some ⟨request, stage⟩ ∧
        stage ≠ .dropped := by
    rw [getElem?_called known]
    split
    · rename_i same
      rw [same,known] at called
      cases called
      exact ⟨new, rfl, staying⟩
    · exact ⟨stage, called, waits⟩
  cases moves with
  | call | drop => cases inner
  | send known _ => exact set nofun known
  | serve _ _ known => exact set nofun known
  | take known => exact set nofun known
  | serveDropped | undo => exact ⟨stage, called, waits⟩

theorem waits {ticket : Nat} (path : Path (Step service capacity) world labels final)
    (inner : ∀ label ∈ labels, label.Internal)
    (called : world.calls[ticket]? = some ⟨request, stage⟩) (staying : stage ≠ .dropped) :
    ∃ stage, final.calls[ticket]? = some ⟨request, stage⟩ ∧ stage ≠ .dropped := by
  induction path generalizing stage with
  | nil => exact ⟨stage, called, staying⟩
  | cons moves _ ih =>
    obtain ⟨first, rest⟩ := List.forall_mem_cons.mp inner
    obtain ⟨stage, called, staying⟩ := waits_step moves first called staying
    exact ih rest called staying

/-- Short of rest, the worker or a caller that still waits has a step to take. -/
theorem progress (record : Recorded service start labels world history) (capacity_pos : 0 < capacity)
    (busy : ¬ world.AtRest) :
    ∃ label next, label.Internal ∧ Step service capacity world label next := by
  cases unconfirmed : world.unconfirmed with
  | some waiting =>
    obtain ⟨ticket, undo⟩ := waiting
    obtain ⟨-, request, reply, -, -, -, standing⟩ := record.awaited ticket undo unconfirmed
    obtain called | called := standing
    · exact ⟨.take ticket, _, trivial, .take called⟩
    · exact ⟨.undo, _, trivial, .undo unconfirmed called⟩
  | none =>
    cases queue : world.queue with
    | cons ticket queue' =>
      obtain ⟨request, stage, called, rfl | rfl⟩ := record.waiting ticket (by simp [queue])
      · exact ⟨.serve ticket, _, trivial, .serve unconfirmed queue called⟩
      · exact ⟨.serve ticket, _, trivial, .serveDropped unconfirmed queue called⟩
    | nil =>
      have unfinished : ∃ call ∈ world.calls, ¬ call.stage.Finished := by
        by_contra finished
        push Not at finished
        exact busy ⟨finished, queue, unconfirmed⟩
      obtain ⟨⟨request, stage⟩, member, unfinished⟩ := unfinished
      obtain ⟨ticket, called⟩ := List.getElem?_of_mem member
      cases stage with
      | sending =>
        exact ⟨.send ticket, _, trivial, .send called (by simpa [queue] using capacity_pos)⟩
      | queued =>
        have := record.queued ticket request called
        rw [queue] at this
        cases this
      | replied outcome => exact ⟨.take ticket, _, trivial, .take called⟩
      | returned | dropped => exact absurd trivial unfinished

end Async.Actor
