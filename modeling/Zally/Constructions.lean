import Zally.Chain.Source
import Zally.Values
import Zally.Wallet.BlockStream

/-! The checked value types of the crates over all the ways their values come about, and what
the wallet makes of a block range. -/
namespace Zally

open Wire Outcome

section Wallet

open Async Async.Program Sync Source

/-- A range is counted as the wallet counts the blocks it asked for. -/
theorem blockCount_eq_requested {range : BlockHeightRange} (wellFormed : range.WellFormed) :
    ∃ count, range.blockCount = some count ∧
      count.toNat = blockCount range.startHeight.toNat range.endHeight.toNat :=
  BlockHeightRange.blockCount_eq wellFormed.ordered

/-- The wallet asks for blocks exactly when their heights make a range. -/
theorem fetchCompactBlocks_eq (epoch : Zally.ChainEpoch) (startHeight endHeight : UInt32) :
    fetchCompactBlocks epoch startHeight.toNat endHeight.toNat =
      if (BlockHeightRange.new startHeight endHeight).isSome then do
        Fallible.call .chainSource
          (ask (.compactBlocks epoch startHeight.toNat endHeight.toNat))
        collectCompactBlocks startHeight.toNat endHeight.toNat
          (endHeight.toNat - startHeight.toNat + 2) []
      else throw (compactBlockStreamOrder startHeight.toNat (some endHeight.toNat)) := by
  have accepted : (BlockHeightRange.new startHeight endHeight).isSome ↔
      ¬startHeight.toNat > endHeight.toNat := by
    rw [BlockHeightRange.new_isSome_iff,BlockHeightRange.wellFormed_iff,Nat.not_lt]
    exact UInt32.le_iff_toNat_le
  rw [fetchCompactBlocks]
  by_cases above : startHeight.toNat > endHeight.toNat
  · rw [if_pos above,if_neg (mt accepted.mp (not_not.mpr above))]
  · rw [if_neg above,if_pos (accepted.mpr above)]

end Wallet

/-- One way to build a value of one of the checked types. -/
inductive ValueConstruction where
  | amount (way : Zatoshis.Construction)
  | key (way : IdempotencyKey.Construction)
  | range (way : Source.BlockHeightRange.Construction)
  | epoch (way : Source.ChainEpoch.Construction)

namespace ValueConstruction

/-- What is built, if anything, has the invariant of its type. -/
def Keeps : ValueConstruction → Prop
  | amount way => ∀ zat ∈ way.build, zat.Valid
  | key way => ∀ key ∈ way.build, key.Printable
  | range way => ∀ range ∈ way.build, range.WellFormed
  | epoch way => ∀ epoch ∈ way.build, epoch.Coherent

/-- A derived reader was given nothing that the check of its type refuses. -/
def Accepted : ValueConstruction → Prop
  | amount way => way.Accepted
  | key way => way.Accepted
  | range way => way.Accepted
  | epoch way => way.Accepted

/-- Every value keeps the invariant of its type, unless a derived reader was given what the
type's own check refuses. -/
theorem keeps_iff (way : ValueConstruction) : way.Keeps ↔ way.Accepted := by
  cases way with
  | amount way => exact way.forall_built_iff
  | key way => exact way.forall_built_iff
  | range way => exact way.forall_built_iff
  | epoch way => exact way.forall_built_iff

/-- One zatoshi above the money supply. -/
def excessiveAmount : Zatoshis := ⟨2_100_000_000_000_001⟩

def emptyKey : IdempotencyKey := ⟨""⟩

def reversedRange : Source.BlockHeightRange := ⟨5, 3⟩

/-- An epoch that settled a block above its visible tip. -/
def settledAbove : Source.ChainEpoch :=
  ⟨⟨7⟩, .mainnet, ⟨10, ⟨.replicate 32 0⟩⟩, ⟨11, ⟨.replicate 32 0⟩⟩⟩

/-- The derived readers build values that their checks refuse. -/
theorem derived_readers_unchecked :
    ¬(amount (.deserialize excessiveAmount.serialize)).Keeps ∧
    ¬(key (.deserialize emptyKey.serialize)).Keeps ∧
    ¬(range (.deserialize reversedRange.serialize)).Keeps ∧
    ¬(epoch (.deserialize settledAbove.serialize)).Keeps := by
  have excessive : ¬(amount (.deserialize excessiveAmount.serialize)).Keeps := by
    intro keeps
    have read := mem_toOption_iff.mpr (Zatoshis.deserialize_serialize excessiveAmount)
    exact absurd (keeps excessiveAmount read) (by decide)
  have empty : ¬(key (.deserialize emptyKey.serialize)).Keeps := by
    intro keeps
    have read := mem_toOption_iff.mpr (IdempotencyKey.deserialize_serialize emptyKey)
    exact absurd (keeps emptyKey read).filled (by decide)
  have reversed : ¬(range (.deserialize reversedRange.serialize)).Keeps := by
    intro keeps
    have read := mem_toOption_iff.mpr (Source.BlockHeightRange.deserialize_serialize reversedRange)
    exact absurd (keeps reversedRange read).ordered (by decide)
  have above : ¬(epoch (.deserialize settledAbove.serialize)).Keeps := by
    intro keeps
    have fits : settledAbove.network.Fits := trivial
    have read := mem_toOption_iff.mpr (Source.ChainEpoch.deserialize_serialize fits)
    exact absurd (keeps settledAbove read).settled (by decide)
  exact ⟨excessive, empty, reversed, above⟩

end ValueConstruction
end Zally
