import Zally.Core
import Zally.Wire.Serde

/-! The ways an amount or an idempotency key comes about, and what each of them keeps. -/
namespace Zally

open Wire Outcome

/-- The amounts of the protocol crate, which are capped at the money supply. -/
abbrev UpstreamZatoshis := { zat : UInt64 // zat.toNat ≤ 21_000_000 * 100_000_000 }

namespace Zatoshis

def fromUpstream (upstream : UpstreamZatoshis) : Zatoshis := ⟨upstream.val⟩

def saturatingAdd (left right : Zatoshis) : Zatoshis :=
  let sum := Zally.saturatingAdd left.raw.toNat right.raw.toNat
  if sum > max.raw.toNat then max else ⟨.ofNat sum⟩

/-- The derived reader wraps any number. -/
def deserialize (visit : Visit) : Except SerdeError Zatoshis :=
  (visit.asNewtype Visit.asU64).map mk

def serialize (zat : Zatoshis) : Visit := .newtypeStruct (.unsigned zat.raw)

theorem deserialize_serialize (zat : Zatoshis) : deserialize zat.serialize = .ok zat :=
  map_ok_iff.mpr ⟨zat.raw, Visit.asU64_unsigned zat.raw, rfl⟩

theorem raw_max : max.raw.toNat = 2_100_000_000_000_000 := rfl

theorem valid_iff {zat : Zatoshis} : zat.Valid ↔ zat.raw.toNat ≤ max.raw.toNat :=
  UInt64.le_iff_toNat_le

theorem max_valid : max.Valid := UInt64.le_refl _

theorem fromUpstream_valid (upstream : UpstreamZatoshis) : (fromUpstream upstream).Valid :=
  valid_iff.mpr upstream.property

/-- Whatever is added, the sum is cut off at the money supply. -/
theorem raw_saturatingAdd (left right : Zatoshis) : (saturatingAdd left right).raw.toNat =
    min (left.raw.toNat + right.raw.toNat) max.raw.toNat := by
  have cap := raw_max
  unfold saturatingAdd
  dsimp only
  by_cases above : Zally.saturatingAdd left.raw.toNat right.raw.toNat > max.raw.toNat
  · rw [if_pos above]
    unfold Zally.saturatingAdd at above
    omega
  · rw [if_neg above,UInt64.toNat_ofNat']
    unfold Zally.saturatingAdd at above ⊢
    omega

theorem saturatingAdd_valid (left right : Zatoshis) : (saturatingAdd left right).Valid := by
  rw [valid_iff,raw_saturatingAdd]
  exact Nat.min_le_right _ _

theorem tryFrom_accepts_iff : (∃ checked, tryFrom zat = .ok checked) ↔ Valid ⟨zat⟩ := by
  constructor
  · rintro ⟨checked, accepted⟩
    rw [← tryFrom_ok_iff.mp accepted]
    exact checked.property
  · exact fun valid => ⟨⟨⟨zat⟩, valid⟩, tryFrom_checked ⟨⟨zat⟩, valid⟩⟩

/-- An amount as it is made, sums of other amounts included. -/
inductive Construction where
  | zero
  | max
  | fromUpstream (upstream : UpstreamZatoshis)
  | tryFrom (zat : UInt64)
  | saturatingAdd (left right : Construction)
  | deserialize (visit : Visit)

namespace Construction

def build : Construction → Option Zatoshis
  | zero => some .zero
  | max => some .max
  | fromUpstream upstream => some (.fromUpstream upstream)
  | tryFrom zat => (Zatoshis.tryFrom zat).toOption.map Subtype.val
  | saturatingAdd left right => do
    let left ← left.build
    let right ← right.build
    pure (left.saturatingAdd right)
  | deserialize visit => (Zatoshis.deserialize visit).toOption

/-- A number that is read as an amount is one that `tryFrom` accepts. -/
def Accepted : Construction → Prop
  | deserialize visit => ∀ zat, visit.asNewtype Visit.asU64 = .ok zat →
    ∃ checked, Zatoshis.tryFrom zat = .ok checked
  | zero | max | fromUpstream _ | tryFrom _ | saturatingAdd _ _ => True

theorem tryFrom_valid (zat : UInt64) : ∀ made ∈ (tryFrom zat).build, made.Valid := by
  intro made built
  obtain ⟨checked, -, rfl⟩ := Option.map_eq_some_iff.mp built
  exact checked.property

theorem sum_valid (left right : Construction) :
    ∀ zat ∈ (saturatingAdd left right).build, zat.Valid := by
  intro zat built
  obtain ⟨first, -, rest⟩ := Option.bind_eq_some_iff.mp built
  obtain ⟨second, -, added⟩ := Option.bind_eq_some_iff.mp rest
  rw [← Option.some.inj added]
  exact saturatingAdd_valid first second

/-- Every way but a derived reading ends in an amount within the money supply, even a sum of
amounts that are not. -/
theorem forall_built_iff (way : Construction) :
    (∀ zat ∈ way.build, zat.Valid) ↔ way.Accepted := by
  cases way with
  | zero => exact iff_of_true (fun _ built => Option.some.inj built ▸ zero_valid) trivial
  | max => exact iff_of_true (fun _ built => Option.some.inj built ▸ max_valid) trivial
  | fromUpstream upstream =>
    exact iff_of_true (fun _ built => Option.some.inj built ▸ fromUpstream_valid upstream) trivial
  | tryFrom zat => exact iff_of_true (tryFrom_valid zat) trivial
  | saturatingAdd left right => exact iff_of_true (sum_valid left right) trivial
  | deserialize visit =>
    rw [build,Zatoshis.deserialize,forall_made_iff]
    exact forall₂_congr fun zat _ => tryFrom_accepts_iff.symm

end Construction
end Zatoshis

namespace IdempotencyKey

def tryFromStr (text : String) : Except IdempotencyKeyError CheckedIdempotencyKey := tryFrom text

def tryFromString (text : String) : Except IdempotencyKeyError CheckedIdempotencyKey := tryFrom text

/-- The derived reader wraps any text. -/
def deserialize (visit : Visit) : Except SerdeError IdempotencyKey :=
  (visit.asNewtype Visit.asString).map mk

def serialize (key : IdempotencyKey) : Visit := .newtypeStruct (.string key.text)

theorem deserialize_serialize (key : IdempotencyKey) : deserialize key.serialize = .ok key := rfl

/-- 1 to 128 characters of printable ASCII. -/
structure Printable (key : IdempotencyKey) : Prop where
  filled : 1 ≤ key.text.length
  few : key.text.length ≤ 128
  printable : ∀ character ∈ key.text.toList, 0x20 ≤ character.toNat ∧ character.toNat ≤ 0x7E

theorem validateBytes_ok_iff : validateBytes byteOffset bytes = .ok () ↔
    ∀ byte ∈ bytes, 0x20 ≤ byte.toNat ∧ byte.toNat ≤ 0x7E := by
  induction bytes generalizing byteOffset with
  | nil => exact iff_of_true rfl (fun _ member => absurd member List.not_mem_nil)
  | cons byte bytes ih =>
    rw [validateBytes,List.forall_mem_cons]
    split
    · rename_i inside
      rw [ih]
      exact (and_iff_right inside).symm
    · rename_i outside
      exact iff_of_false (fun same => (by cases same)) fun each => outside each.1

theorem validate_ok_iff {text : String} : validate text = .ok () ↔
    (1 ≤ (utf8 text).length ∧ (utf8 text).length ≤ 128) ∧
      ∀ byte ∈ utf8 text, 0x20 ≤ byte.toNat ∧ byte.toNat ≤ 0x7E := by
  rw [validate,length_utf8]
  split
  · rename_i sized
    rw [and_iff_right sized]
    exact validateBytes_ok_iff
  · rename_i outside
    exact iff_of_false (fun same => (by cases same)) fun both => outside both.1

/-- The check of the bytes is one of the characters: what it accepts is ASCII. -/
theorem valid_iff_printable {key : IdempotencyKey} : key.Valid ↔ key.Printable := by
  rw [Valid,validate_ok_iff]
  constructor
  · rintro ⟨⟨filled, few⟩, inside⟩
    have ascii : ∀ byte ∈ utf8 key.text, byte.toNat < 128 := fun byte member =>
      Nat.lt_of_le_of_lt (inside byte member).2 (by decide)
    have characters := toList_of_ascii ascii
    have length : key.text.length = (utf8 key.text).length := by
      rw [← String.length_toList,characters,List.length_map]
    have printable : ∀ character ∈ key.text.toList,
        0x20 ≤ character.toNat ∧ character.toNat ≤ 0x7E := by
      intro character member
      rw [characters] at member
      obtain ⟨byte, read, rfl⟩ := List.mem_map.mp member
      exact inside byte read
    exact ⟨length ▸ filled, length ▸ few, printable⟩
  · rintro ⟨filled, few, printable⟩
    have ascii : ∀ character ∈ key.text.toList, character.toNat < 128 := fun character member =>
      Nat.lt_of_le_of_lt (printable character member).2 (by decide)
    have bytes : utf8 key.text = key.text.toList.map Char.toUInt8 := by
      have encoded := utf8_ofList ascii
      rwa [String.ofList_toList] at encoded
    have length : (utf8 key.text).length = key.text.length := by
      rw [bytes,List.length_map,String.length_toList]
    have inside : ∀ byte ∈ utf8 key.text, 0x20 ≤ byte.toNat ∧ byte.toNat ≤ 0x7E := by
      intro byte member
      rw [bytes] at member
      obtain ⟨character, read, rfl⟩ := List.mem_map.mp member
      have small := ascii character read
      have kept : character.toUInt8.toNat = character.toNat := by
        change character.toNat % 2 ^ 8 = character.toNat
        exact Nat.mod_eq_of_lt (by omega)
      rw [kept]
      exact printable character read
    exact ⟨⟨length ▸ filled, length ▸ few⟩, inside⟩

inductive Construction where
  | tryFromStr (text : String)
  | tryFromString (text : String)
  | deserialize (visit : Visit)

namespace Construction

def build : Construction → Option IdempotencyKey
  | tryFromStr text => (IdempotencyKey.tryFromStr text).toOption.map Subtype.val
  | tryFromString text => (IdempotencyKey.tryFromString text).toOption.map Subtype.val
  | deserialize visit => (IdempotencyKey.deserialize visit).toOption

/-- A text that is read as a key is one that `validate` accepts. -/
def Accepted : Construction → Prop
  | deserialize visit => ∀ text, visit.asNewtype Visit.asString = .ok text → validate text = .ok ()
  | tryFromStr _ | tryFromString _ => True

theorem checked_printable {checked : Option CheckedIdempotencyKey} :
    ∀ key ∈ checked.map Subtype.val, key.Printable := by
  intro key made
  obtain ⟨checked, -, rfl⟩ := Option.map_eq_some_iff.mp made
  exact valid_iff_printable.mp checked.property

theorem forall_built_iff (way : Construction) :
    (∀ key ∈ way.build, key.Printable) ↔ way.Accepted := by
  cases way with
  | tryFromStr text => exact iff_of_true checked_printable trivial
  | tryFromString text => exact iff_of_true checked_printable trivial
  | deserialize visit =>
    rw [build,IdempotencyKey.deserialize,forall_made_iff]
    exact forall₂_congr fun text _ => valid_iff_printable.symm

end Construction
end IdempotencyKey
end Zally
