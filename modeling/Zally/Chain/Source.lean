import Zally.Core
import Zally.Wire.Serde

/-! Block ranges and epochs of a chain source, and their derived readers. Heights are 32 bits
wide here, since a range is counted without a check. -/
namespace Zally

open Wire Outcome

namespace LocalNetwork

def fields : List String := ["overwinter", "sapling", "blossom", "heartwood", "canopy", "nu5",
  "nu6", "nu6_1", "nu6_2", "nu6_3"]

def activation (found : Nat → Except SerdeError Visit) (index : Nat) :
    Except SerdeError (Option BlockHeight) :=
  (Visit.optionalField found index Visit.asU32).map (Option.map UInt32.toNat)

def deserialize (visit : Visit) : Except SerdeError LocalNetwork := do
  visit.endsWithin fields.length
  let found ← visit.asStruct fields
  let overwinter ← activation found 0
  let sapling ← activation found 1
  let blossom ← activation found 2
  let heartwood ← activation found 3
  let canopy ← activation found 4
  let nu5 ← activation found 5
  let nu6 ← activation found 6
  let nu6_1 ← activation found 7
  let nu6_2 ← activation found 8
  let nu6_3 ← activation found 9
  pure ⟨overwinter, sapling, blossom, heartwood, canopy, nu5, nu6, nu6_1, nu6_2, nu6_3⟩

end LocalNetwork

def Network.deserialize (visit : Visit) : Except SerdeError Network := do
  let (tag, content) ← visit.asTagged "kind"
  match ← tag.asIdentifier ["mainnet", "testnet", "regtest"] with
  | some 0 => (content.endsWithin 0).map fun _ => .mainnet
  | some 1 => (content.endsWithin 0).map fun _ => .testnet
  | some 2 => (LocalNetwork.deserialize content).map .regtest
  | _ => throw .unknownVariant

def LocalNetwork.heights (network : LocalNetwork) : List (Option BlockHeight) :=
  [network.overwinter, network.sapling, network.blossom, network.heartwood, network.canopy,
    network.nu5, network.nu6, network.nu6_1, network.nu6_2, network.nu6_3]

def serializeActivation : Option BlockHeight → Visit
  | none => .unit
  | some height => .unsigned (.ofNat height)

def Network.serialize : Network → Visit
  | mainnet => .map [(.string "kind", .string "mainnet")]
  | testnet => .map [(.string "kind", .string "testnet")]
  | regtest parameters => .map ((.string "kind", .string "regtest") ::
    (LocalNetwork.fields.map Visit.string).zip (parameters.heights.map serializeActivation))

/-- Activation heights are 32 bits wide. -/
def Network.Fits : Network → Prop
  | mainnet | testnet => True
  | regtest parameters => ∀ activation ∈ parameters.heights, ∀ height ∈ activation, height < 2 ^ 32

theorem LocalNetwork.activation_serialize {height : Option BlockHeight}
    (given : found index = .ok (serializeActivation height)) (fits : ∀ own ∈ height, own < 2 ^ 32) :
    activation found index = .ok height := by
  rw [activation,Visit.optionalField,given]
  cases height with
  | none => rfl
  | some height =>
    have small : height < 2 ^ 32 := fits height rfl
    have wide : (UInt64.ofNat height).toNat = height := by
      rw [UInt64.toNat_ofNat']
      exact Nat.mod_eq_of_lt (Nat.lt_trans small (by decide))
    have read : (Visit.unsigned (.ofNat height)).asU32 = .ok (.ofNat height) := by
      rw [Visit.asU32,Visit.asUnsigned_unsigned (by rwa [wide]),wide]
      rfl
    change ((Visit.asU32 (.unsigned (.ofNat height))).map some).map (Option.map UInt32.toNat) = _
    rw [read]
    change Except.ok (some (UInt32.ofNat height).toNat) = _
    rw [UInt32.toNat_ofNat_of_lt' small]

theorem LocalNetwork.deserialize_serialize {network : LocalNetwork}
    (fits : (Network.regtest network).Fits) :
    deserialize (.map ((fields.map Visit.string).zip (network.heights.map serializeActivation))) =
      .ok network := by
  obtain ⟨found, read, given⟩ := @Visit.asStruct_zip fields
    (network.heights.map serializeActivation) (by decide) rfl
  have each (index : Nat) (height : Option BlockHeight)
      (own : network.heights[index]? = some height) : activation found index = .ok height := by
    have written := given index (serializeActivation height) (by rw [List.getElem?_map,own]; rfl)
    exact activation_serialize written (fits height (List.mem_of_getElem? own))
  apply bind_ok rfl
  apply bind_ok read
  apply bind_ok (each 0 _ rfl)
  apply bind_ok (each 1 _ rfl)
  apply bind_ok (each 2 _ rfl)
  apply bind_ok (each 3 _ rfl)
  apply bind_ok (each 4 _ rfl)
  apply bind_ok (each 5 _ rfl)
  apply bind_ok (each 6 _ rfl)
  apply bind_ok (each 7 _ rfl)
  apply bind_ok (each 8 _ rfl)
  exact bind_ok (each 9 _ rfl) rfl

theorem Network.deserialize_serialize {network : Network} (fits : network.Fits) :
    deserialize network.serialize = .ok network := by
  cases network with
  | mainnet => rfl
  | testnet => rfl
  | regtest parameters =>
    have untagged : ∀ entry ∈ (LocalNetwork.fields.map Visit.string).zip
        (parameters.heights.map serializeActivation), entry.1.isTag "kind" = false := by
      intro entry member
      obtain ⟨name, known, named⟩ := List.mem_map.mp (List.of_mem_zip member).1
      rw [← named]
      exact decide_eq_false fun same => absurd (same ▸ known) (by decide)
    apply bind_ok (Visit.asTagged_first untagged)
    apply bind_ok rfl
    exact map_ok_iff.mpr ⟨parameters, LocalNetwork.deserialize_serialize fits, rfl⟩

namespace Source

structure ChainEpochId where
  value : UInt64
  deriving DecidableEq

structure BlockHash where
  asBytes : Vector UInt8 32
  deriving DecidableEq

structure BlockId where
  height : UInt32
  hash : BlockHash
  deriving DecidableEq

structure ChainEpoch where
  id : ChainEpochId
  network : Network
  visibleTip : BlockId
  settledTip : BlockId
  deriving DecidableEq

structure BlockHeightRange where
  startHeight : UInt32
  endHeight : UInt32
  deriving DecidableEq

def readBlockHeight : Visit → Except SerdeError UInt32 := Visit.asNewtype Visit.asU32

def BlockId.deserialize (visit : Visit) : Except SerdeError BlockId := do
  let found ← visit.asStruct ["height", "hash"]
  let height ← found 0 >>= readBlockHeight
  let hash ← found 1 >>= Visit.asNewtype (Visit.asArray Visit.asU8 32)
  pure ⟨height, ⟨hash⟩⟩

def BlockId.serialize (block : BlockId) : Visit := .map
  [(.string "height", .newtypeStruct (.unsigned block.height.toUInt64)),
    (.string "hash", .newtypeStruct (.seq (block.hash.asBytes.toList.map fun byte =>
      .unsigned byte.toUInt64)))]

theorem BlockId.deserialize_serialize (block : BlockId) :
    deserialize block.serialize = .ok block := by
  have height : readBlockHeight (.newtypeStruct (.unsigned block.height.toUInt64)) =
      .ok block.height := Visit.asU32_unsigned block.height
  have hash : Visit.asNewtype (Visit.asArray Visit.asU8 32) (.newtypeStruct (.seq
      (block.hash.asBytes.toList.map fun byte => .unsigned byte.toUInt64))) =
      .ok block.hash.asBytes := Visit.asArray_seq Visit.asU8_unsigned
  obtain ⟨found, fields, given⟩ := @Visit.asStruct_zip ["height", "hash"]
    [.newtypeStruct (.unsigned block.height.toUInt64), .newtypeStruct (.seq
      (block.hash.asBytes.toList.map fun byte => .unsigned byte.toUInt64))] (by decide) rfl
  exact bind_ok fields (bind_ok (bind_ok (given 0 _ rfl) height)
    (bind_ok (bind_ok (given 1 _ rfl) hash) rfl))

namespace ChainEpoch

def new (id : ChainEpochId) (network : Network) (visibleTip settledTip : BlockId) :
    Option ChainEpoch :=
  if settledTip.height > visibleTip.height ∨ (settledTip.height = visibleTip.height ∧
      settledTip.hash.asBytes ≠ visibleTip.hash.asBytes) then none
  else some ⟨id, network, visibleTip, settledTip⟩

/-- The fields of an epoch, each read by its own reader. -/
def readFields (visit : Visit) :
    Except SerdeError (ChainEpochId × Network × BlockId × BlockId) := do
  let found ← visit.asStruct ["id", "network", "visible_tip", "settled_tip"]
  let id ← found 0 >>= Visit.asNewtype Visit.asU64
  let network ← found 1 >>= Network.deserialize
  let visibleTip ← found 2 >>= BlockId.deserialize
  let settledTip ← found 3 >>= BlockId.deserialize
  pure (⟨id⟩, network, visibleTip, settledTip)

/-- The derived reader puts any four fields together. -/
def deserialize (visit : Visit) : Except SerdeError ChainEpoch :=
  (readFields visit).map fun (id, network, visibleTip, settledTip) =>
    ⟨id, network, visibleTip, settledTip⟩

def serialize (epoch : ChainEpoch) : Visit := .map
  [(.string "id", .newtypeStruct (.unsigned epoch.id.value)), (.string "network", epoch.network.serialize),
    (.string "visible_tip", epoch.visibleTip.serialize),
    (.string "settled_tip", epoch.settledTip.serialize)]

theorem deserialize_serialize {epoch : ChainEpoch} (fits : epoch.network.Fits) :
    deserialize epoch.serialize = .ok epoch := by
  have id : Visit.asNewtype Visit.asU64 (.newtypeStruct (.unsigned epoch.id.value)) =
      .ok epoch.id.value := Visit.asU64_unsigned epoch.id.value
  obtain ⟨found, fields, given⟩ := @Visit.asStruct_zip
    ["id", "network", "visible_tip", "settled_tip"]
    [.newtypeStruct (.unsigned epoch.id.value), epoch.network.serialize,
      epoch.visibleTip.serialize, epoch.settledTip.serialize] (by decide) rfl
  have network := bind_ok (given 1 _ rfl) (Network.deserialize_serialize fits)
  have visible := bind_ok (given 2 _ rfl) epoch.visibleTip.deserialize_serialize
  have settled := bind_ok (given 3 _ rfl) epoch.settledTip.deserialize_serialize
  have read : readFields epoch.serialize =
      .ok (epoch.id, epoch.network, epoch.visibleTip, epoch.settledTip) :=
    bind_ok fields (bind_ok (bind_ok (given 0 _ rfl) id) (bind_ok network (bind_ok visible
      (bind_ok settled rfl))))
  exact map_ok_iff.mpr ⟨_, read, rfl⟩

/-- The settled tip lies at or below the visible one, and is the visible one where they are
level. -/
structure Coherent (epoch : ChainEpoch) : Prop where
  settled : epoch.settledTip.height ≤ epoch.visibleTip.height
  level : epoch.settledTip.height = epoch.visibleTip.height →
    epoch.settledTip.hash = epoch.visibleTip.hash

section New

variable {id : ChainEpochId} {network : Network} {visibleTip settledTip : BlockId}

theorem coherent_iff : Coherent ⟨id, network, visibleTip, settledTip⟩ ↔
    ¬(settledTip.height > visibleTip.height ∨ (settledTip.height = visibleTip.height ∧
      settledTip.hash.asBytes ≠ visibleTip.hash.asBytes)) := by
  rw [not_or,not_and]
  constructor
  · rintro ⟨settled, level⟩
    exact ⟨UInt32.not_lt.mpr settled,
      fun same => not_not.mpr (congrArg BlockHash.asBytes (level same))⟩
  · rintro ⟨settled, level⟩
    exact ⟨UInt32.not_lt.mp settled,
      fun same => congrArg BlockHash.mk (not_not.mp (level same))⟩

theorem mem_new_iff : epoch ∈ new id network visibleTip settledTip ↔
    Coherent ⟨id, network, visibleTip, settledTip⟩ ∧ epoch = ⟨id, network, visibleTip, settledTip⟩ := by
  rw [new,Option.mem_ite_none_left,← coherent_iff,Option.mem_some_iff,eq_comm]

theorem new_isSome_iff : (new id network visibleTip settledTip).isSome ↔
    Coherent ⟨id, network, visibleTip, settledTip⟩ :=
  isSome_of_checked fun _ => mem_new_iff

end New

inductive Construction where
  | new (id : ChainEpochId) (network : Network) (visibleTip settledTip : BlockId)
  | deserialize (visit : Visit)

namespace Construction

def build : Construction → Option ChainEpoch
  | new id network visibleTip settledTip => ChainEpoch.new id network visibleTip settledTip
  | deserialize visit => (ChainEpoch.deserialize visit).toOption

/-- Fields that are read as an epoch are ones that `new` accepts. -/
def Accepted : Construction → Prop
  | new _ _ _ _ => True
  | deserialize visit => ∀ fields, readFields visit = .ok fields →
    (ChainEpoch.new fields.1 fields.2.1 fields.2.2.1 fields.2.2.2).isSome

theorem forall_built_iff (way : Construction) :
    (∀ epoch ∈ way.build, epoch.Coherent) ↔ way.Accepted := by
  cases way with
  | new id network visibleTip settledTip =>
    have coherent : ∀ epoch ∈ ChainEpoch.new id network visibleTip settledTip, epoch.Coherent := by
      intro epoch made
      obtain ⟨coherent, rfl⟩ := mem_new_iff.mp made
      exact coherent
    exact iff_of_true coherent trivial
  | deserialize visit =>
    rw [build,ChainEpoch.deserialize,forall_made_iff]
    exact forall₂_congr fun fields _ => new_isSome_iff.symm

end Construction
end ChainEpoch

/-- Arithmetic that panics where it overflows. -/
def checkedSub (left right : UInt64) : Option UInt64 :=
  if right ≤ left then some (left - right) else none

def checkedAdd (left right : UInt64) : Option UInt64 :=
  if left.toNat + right.toNat < 2 ^ 64 then some (left + right) else none

namespace BlockHeightRange

def new (startHeight endHeight : UInt32) : Option BlockHeightRange :=
  if startHeight > endHeight then none else some ⟨startHeight, endHeight⟩

def blockCount (range : BlockHeightRange) : Option UInt64 := do
  let span ← checkedSub range.endHeight.toUInt64 range.startHeight.toUInt64
  checkedAdd span 1

def readFields (visit : Visit) : Except SerdeError (UInt32 × UInt32) := do
  let found ← visit.asStruct ["start_height", "end_height"]
  let startHeight ← found 0 >>= readBlockHeight
  let endHeight ← found 1 >>= readBlockHeight
  pure (startHeight, endHeight)

/-- The derived reader puts any two heights together. -/
def deserialize (visit : Visit) : Except SerdeError BlockHeightRange :=
  (readFields visit).map fun (startHeight, endHeight) => ⟨startHeight, endHeight⟩

def serialize (range : BlockHeightRange) : Visit := .map
  [(.string "start_height", .newtypeStruct (.unsigned range.startHeight.toUInt64)),
    (.string "end_height", .newtypeStruct (.unsigned range.endHeight.toUInt64))]

theorem deserialize_serialize (range : BlockHeightRange) :
    deserialize range.serialize = .ok range := by
  have height (value : UInt32) : readBlockHeight (.newtypeStruct (.unsigned value.toUInt64)) =
      .ok value := Visit.asU32_unsigned value
  obtain ⟨found, fields, given⟩ := @Visit.asStruct_zip ["start_height", "end_height"]
    [.newtypeStruct (.unsigned range.startHeight.toUInt64),
      .newtypeStruct (.unsigned range.endHeight.toUInt64)] (by decide) rfl
  have startHeight := bind_ok (given 0 _ rfl) (height range.startHeight)
  have endHeight := bind_ok (given 1 _ rfl) (height range.endHeight)
  have read : readFields range.serialize = .ok (range.startHeight, range.endHeight) :=
    bind_ok fields (bind_ok startHeight (bind_ok endHeight rfl))
  exact map_ok_iff.mpr ⟨_, read, rfl⟩

/-- The range has a first and a last block, and counting them does not overflow. -/
structure WellFormed (range : BlockHeightRange) : Prop where
  ordered : range.startHeight ≤ range.endHeight
  counts : range.blockCount.isSome

/-- The subtraction is exact, and one more block than the difference fits in 64 bits. -/
theorem blockCount_eq {range : BlockHeightRange} (ordered : range.startHeight ≤ range.endHeight) :
    ∃ count, range.blockCount = some count ∧
      count.toNat = range.endHeight.toNat - range.startHeight.toNat + 1 := by
  have wide := range.endHeight.toNat_lt
  have below : range.startHeight.toUInt64 ≤ range.endHeight.toUInt64 := by
    rw [UInt64.le_iff_toNat_le,UInt32.toNat_toUInt64,UInt32.toNat_toUInt64]
    exact UInt32.le_iff_toNat_le.mp ordered
  have span : (range.endHeight.toUInt64 - range.startHeight.toUInt64).toNat =
      range.endHeight.toNat - range.startHeight.toNat := by
    rw [UInt64.toNat_sub_of_le _ _ below,UInt32.toNat_toUInt64,UInt32.toNat_toUInt64]
  have room : range.endHeight.toNat - range.startHeight.toNat + 1 < 2 ^ 64 := by omega
  have added := UInt64.toNat_add (range.endHeight.toUInt64 - range.startHeight.toUInt64) 1
  rw [span,UInt64.toNat_one,Nat.mod_eq_of_lt room] at added
  have counted : range.blockCount =
      some (range.endHeight.toUInt64 - range.startHeight.toUInt64 + 1) := by
    rw [blockCount,checkedSub,if_pos below]
    change checkedAdd _ 1 = _
    rw [checkedAdd,span,UInt64.toNat_one,if_pos room]
  exact ⟨_, counted, added⟩

theorem blockCount_overflows {range : BlockHeightRange}
    (reversed : ¬range.startHeight ≤ range.endHeight) : range.blockCount = none := by
  have above : ¬range.startHeight.toUInt64 ≤ range.endHeight.toUInt64 := by
    rw [UInt64.le_iff_toNat_le,UInt32.toNat_toUInt64,UInt32.toNat_toUInt64]
    exact mt UInt32.le_iff_toNat_le.mpr reversed
  rw [blockCount,checkedSub,if_neg above]
  rfl

theorem blockCount_isSome_iff {range : BlockHeightRange} :
    range.blockCount.isSome ↔ range.startHeight ≤ range.endHeight := by
  by_cases ordered : range.startHeight ≤ range.endHeight
  · obtain ⟨count, counted, -⟩ := blockCount_eq ordered
    rw [counted]
    exact iff_of_true rfl ordered
  · rw [blockCount_overflows ordered]
    exact iff_of_false (by simp) ordered

theorem wellFormed_iff {range : BlockHeightRange} :
    range.WellFormed ↔ range.startHeight ≤ range.endHeight :=
  ⟨WellFormed.ordered, fun ordered => ⟨ordered, blockCount_isSome_iff.mpr ordered⟩⟩

theorem mem_new_iff {startHeight endHeight : UInt32} : range ∈ new startHeight endHeight ↔
    WellFormed ⟨startHeight, endHeight⟩ ∧ range = ⟨startHeight, endHeight⟩ := by
  rw [new,Option.mem_ite_none_left,UInt32.not_lt,wellFormed_iff,Option.mem_some_iff,eq_comm]

theorem new_isSome_iff {startHeight endHeight : UInt32} :
    (new startHeight endHeight).isSome ↔ WellFormed ⟨startHeight, endHeight⟩ :=
  isSome_of_checked fun _ => mem_new_iff

inductive Construction where
  | new (startHeight endHeight : UInt32)
  | deserialize (visit : Visit)

namespace Construction

def build : Construction → Option BlockHeightRange
  | new startHeight endHeight => BlockHeightRange.new startHeight endHeight
  | deserialize visit => (BlockHeightRange.deserialize visit).toOption

/-- Heights that are read as a range are ones that `new` accepts. -/
def Accepted : Construction → Prop
  | new _ _ => True
  | deserialize visit => ∀ heights, readFields visit = .ok heights →
    (BlockHeightRange.new heights.1 heights.2).isSome

theorem forall_built_iff (way : Construction) :
    (∀ range ∈ way.build, range.WellFormed) ↔ way.Accepted := by
  cases way with
  | new startHeight endHeight =>
    have wellFormed : ∀ range ∈ BlockHeightRange.new startHeight endHeight, range.WellFormed := by
      intro range made
      obtain ⟨wellFormed, rfl⟩ := mem_new_iff.mp made
      exact wellFormed
    exact iff_of_true wellFormed trivial
  | deserialize visit =>
    rw [build,BlockHeightRange.deserialize,forall_made_iff]
    exact forall₂_congr fun heights _ => new_isSome_iff.symm

end Construction
end BlockHeightRange
end Source
end Zally
