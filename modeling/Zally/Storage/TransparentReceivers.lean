import Mathlib.Logic.Function.Basic
import Zally.Async.Machine

/-! The transparent receivers of a wallet: which child indices may be reserved, and which have
been, after any history of reservations and payments. -/
namespace Zally

open Async

structure TransparentGapLimit where
  external : Nat
  internal : Nat
  ephemeral : Nat
  deriving DecidableEq, Repr

def TransparentGapLimit.default : TransparentGapLimit := ⟨20, 10, 20⟩

inductive KeyScope where
  | external
  | internal
  | ephemeral
  deriving DecidableEq, Repr

def TransparentGapLimit.forScope (limit : TransparentGapLimit) : KeyScope → Nat
  | .external => limit.external
  | .internal => limit.internal
  | .ephemeral => limit.ephemeral

/-- Non-hardened child indices are below this. -/
def nonHardenedIndices : Nat := 0x80000000

/-- The receivers of an account: the indices of each scope that are reserved, which are those
below a bound, and the ones that have been paid. -/
structure ReceiverHistory where
  reserved : KeyScope → Nat
  paid : KeyScope → List Nat

namespace ReceiverHistory

def empty : ReceiverHistory := ⟨fun _ => 0, fun _ => []⟩

/-- The index after the last paid one. -/
def firstUnused (history : ReceiverHistory) (scope : KeyScope) : Nat :=
  (history.paid scope).foldr (fun index bound => max (index + 1) bound) 0

def reserve (history : ReceiverHistory) (scope : KeyScope) : ReceiverHistory :=
  { history with reserved := Function.update history.reserved scope (history.reserved scope + 1) }

def pay (history : ReceiverHistory) (scope : KeyScope) (index : Nat) : ReceiverHistory :=
  { history with paid := Function.update history.paid scope (index :: history.paid scope) }

section Updates

variable {history : ReceiverHistory} {scope other : KeyScope}

@[simp] theorem paid_reserve : (history.reserve scope).paid = history.paid := rfl

@[simp] theorem reserved_pay : (history.pay scope index).reserved = history.reserved := rfl

@[simp] theorem firstUnused_reserve :
    (history.reserve scope).firstUnused other = history.firstUnused other := rfl

@[simp] theorem reserved_reserve_self :
    (history.reserve scope).reserved scope = history.reserved scope + 1 := Function.update_self ..

@[simp] theorem reserved_reserve_other (apart : other ≠ scope) :
    (history.reserve scope).reserved other = history.reserved other := Function.update_of_ne apart ..

@[simp] theorem paid_pay_self :
    (history.pay scope index).paid scope = index :: history.paid scope := Function.update_self ..

@[simp] theorem paid_pay_other (apart : other ≠ scope) :
    (history.pay scope index).paid other = history.paid other := Function.update_of_ne apart ..

end Updates

inductive Change where
  | reserve (scope : KeyScope)
  | pay (scope : KeyScope) (index : Nat)
  deriving DecidableEq

/-- A further index may be reserved while fewer than the limit follow the last paid one; any
reserved index may be paid. -/
def Step (limit : TransparentGapLimit) (before : ReceiverHistory) : Change → ReceiverHistory → Prop
  | .reserve scope, after =>
    before.reserved scope < before.firstUnused scope + limit.forScope scope ∧
      before.reserved scope < nonHardenedIndices ∧
      after = before.reserve scope
  | .pay scope index, after => index < before.reserved scope ∧ after = before.pay scope index

abbrev Reaches (limit : TransparentGapLimit) := Path (Step limit) empty

/-- What every history keeps: paid indices are reserved, and the reserved ones end at most the
limit after the last paid one. -/
structure Sound (limit : TransparentGapLimit) (history : ReceiverHistory) : Prop where
  paid : ∀ scope, ∀ index ∈ history.paid scope, index < history.reserved scope
  gap : ∀ scope, history.reserved scope ≤ history.firstUnused scope + limit.forScope scope
  hardened : ∀ scope, history.reserved scope ≤ nonHardenedIndices

theorem sound_empty (limit : TransparentGapLimit) : Sound limit empty :=
  ⟨by simp [empty], by simp [empty], by simp [empty]⟩

theorem sound_reserve (sound : Sound limit before)
    (within : before.reserved scope < before.firstUnused scope + limit.forScope scope)
    (child : before.reserved scope < nonHardenedIndices) : Sound limit (before.reserve scope) := by
  refine ⟨fun other index paid => ?_, fun other => ?_, fun other => ?_⟩
  all_goals by_cases same : other = scope
  · subst same
    have := sound.paid other index paid
    rw [reserved_reserve_self]
    omega
  · rw [reserved_reserve_other same]
    exact sound.paid other index paid
  · subst same
    rw [reserved_reserve_self,firstUnused_reserve]
    omega
  · rw [reserved_reserve_other same]
    exact sound.gap other
  · subst same
    rw [reserved_reserve_self]
    omega
  · rw [reserved_reserve_other same]
    exact sound.hardened other

theorem sound_pay (sound : Sound limit before) (reserved : index < before.reserved scope) :
    Sound limit (before.pay scope index) := by
  refine ⟨fun other paidIndex paid => ?_, fun other => ?_, sound.hardened⟩
  all_goals by_cases same : other = scope
  · subst same
    rw [paid_pay_self] at paid
    rcases List.mem_cons.mp paid with rfl | earlier
    · exact reserved
    · exact sound.paid other paidIndex earlier
  · rw [paid_pay_other same] at paid
    exact sound.paid other paidIndex paid
  · subst same
    have := sound.gap other
    simp only [firstUnused,paid_pay_self,reserved_pay,List.foldr_cons] at this ⊢
    omega
  · have := sound.gap other
    simpa only [firstUnused,reserved_pay,paid_pay_other same] using this

theorem sound_step (sound : Sound limit before) (step : Step limit before change after) :
    Sound limit after := by
  cases change with
  | reserve scope =>
    obtain ⟨within, child, rfl⟩ := step
    exact sound_reserve sound within child
  | pay scope index =>
    obtain ⟨reserved, rfl⟩ := step
    exact sound_pay sound reserved

theorem sound_of_reaches (reaches : Reaches limit changes history) : Sound limit history :=
  reaches.invariant (Sound limit) (fun _ _ _ sound step => sound_step sound step) (sound_empty limit)

/-- Payments slide the window: every child index is reserved in some history. -/
theorem exists_reaches (limit : TransparentGapLimit) (scope : KeyScope)
    (positive : 0 < limit.forScope scope) (count : Nat) (child : count ≤ nonHardenedIndices) :
    ∃ changes history, Reaches limit changes history ∧ history.reserved scope = count ∧
      history.firstUnused scope = count := by
  induction count with
  | zero => exact ⟨[], empty, .nil, rfl, rfl⟩
  | succ count ih =>
    obtain ⟨changes, history, reaches, reserved, unused⟩ := ih (by omega)
    have reserves : Step limit history (.reserve scope) (history.reserve scope) :=
      ⟨by omega, by omega, rfl⟩
    have pays : Step limit (history.reserve scope) (.pay scope count)
        ((history.reserve scope).pay scope count) := ⟨by simp [reserved], rfl⟩
    refine ⟨_, _, Path.append_iff.mpr ⟨history, reaches, .cons reserves (.cons pays .nil)⟩, ?_, ?_⟩
    · simp [reserved]
    · rw [firstUnused,paid_pay_self,List.foldr_cons,paid_reserve]
      change max (count + 1) (history.firstUnused scope) = count + 1
      omega

end ReceiverHistory

open ReceiverHistory

/-- Which receivers of an account are listed: every reserved external one, and besides reserved
ones only those that the gap limit lets the wallet derive ahead. -/
structure ReceiverListing (limit : TransparentGapLimit) where
  lists : ReceiverHistory → KeyScope → Nat → Prop
  reserved_external : ∀ history index,
    index < history.reserved .external → lists history .external index
  bounded : ∀ history scope index, lists history scope index → index < history.reserved scope ∨
    index < history.firstUnused scope + limit.forScope scope ∧ index < nonHardenedIndices

namespace ReceiverListing

/-- The listing that derives nothing ahead. -/
def onlyReserved (limit : TransparentGapLimit) : ReceiverListing limit where
  lists history scope index := index < history.reserved scope
  reserved_external _ _ := id
  bounded _ _ _ := .inl

variable {limit : TransparentGapLimit} (listing : ReceiverListing limit)

theorem child_of_lists (reaches : Reaches limit changes history)
    (listed : listing.lists history scope index) : index < nonHardenedIndices := by
  have := (sound_of_reaches reaches).hardened scope
  rcases listing.bounded _ _ _ listed with reserved | ⟨-, child⟩
  · omega
  · exact child

/-- Before the first payment of a scope its listed indices are within its limit. -/
theorem lists_of_unpaid (reaches : Reaches limit changes history)
    (unpaid : history.paid scope = []) (listed : listing.lists history scope index) :
    index < limit.forScope scope := by
  have gap := (sound_of_reaches reaches).gap scope
  have unused : history.firstUnused scope = 0 := by rw [firstUnused,unpaid,List.foldr_nil]
  rcases listing.bounded _ _ _ listed with reserved | ⟨ahead, -⟩ <;> omega

end ReceiverListing
end Zally
