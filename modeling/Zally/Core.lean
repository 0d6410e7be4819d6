import Mathlib.Algebra.Group.Nat.Defs
import Mathlib.Data.Nat.Notation
import Zally.Wire.Endian

/-! Identifiers of the wallet and the operator-facing classification every boundary
failure maps onto. -/
namespace Zally

/-- Addition of unsigned 64-bit values that stops at the largest one. -/
def saturatingAdd (total value : Nat) : Nat := min (total + value) (2 ^ 64 - 1)

/-- The largest signed value stands for an unsigned one that does not fit. -/
def clampUnsignedToI64 (value : Nat) : Nat := min value (2 ^ 63 - 1)

abbrev BlockHeight := Nat

abbrev TxId := BitVec 256

namespace TxId

def asBytes (txId : TxId) : List UInt8 := Wire.leBytes 32 txId.toNat

def fromBytes (bytes : List UInt8) : TxId := .ofNat 256 (Wire.ofLeBytes bytes)

@[simp] theorem length_asBytes (txId : TxId) : (asBytes txId).length = 32 :=
  Wire.length_leBytes 32 _

@[simp] theorem fromBytes_asBytes (txId : TxId) : fromBytes (asBytes txId) = txId := by
  rw [fromBytes,asBytes,Wire.ofLeBytes_leBytes txId.isLt,BitVec.ofNat_toNat,BitVec.setWidth_eq]

theorem asBytes_fromBytes (sized : bytes.length = 32) : asBytes (fromBytes bytes) = bytes := by
  have bound : Wire.ofLeBytes bytes < 2 ^ 256 := by
    simpa [sized] using Wire.ofLeBytes_lt bytes
  have whole := Wire.leBytes_ofLeBytes bytes
  rw [sized] at whole
  rw [asBytes,fromBytes,BitVec.toNat_ofNat,Nat.mod_eq_of_lt bound,whole]

end TxId

abbrev SeedMaterial := List UInt8

/-- Activation heights of a regtest network. -/
structure LocalNetwork where
  overwinter : Option BlockHeight
  sapling : Option BlockHeight
  blossom : Option BlockHeight
  heartwood : Option BlockHeight
  canopy : Option BlockHeight
  nu5 : Option BlockHeight
  nu6 : Option BlockHeight
  nu6_1 : Option BlockHeight
  nu6_2 : Option BlockHeight
  nu6_3 : Option BlockHeight
  deriving DecidableEq, Repr

inductive Network where
  | mainnet
  | testnet
  | regtest (parameters : LocalNetwork)
  deriving DecidableEq, Repr

inductive ShieldedPool where
  | sapling
  | orchard
  | ironwood
  deriving DecidableEq, Repr

structure AccountId where
  uuid : BitVec 128
  deriving DecidableEq, Repr

structure Zatoshis where
  raw : UInt64
  deriving DecidableEq, Repr

namespace Zatoshis

/-- The money supply in zatoshis. -/
def max : Zatoshis := ⟨2_100_000_000_000_000⟩

def zero : Zatoshis := ⟨0⟩

/-- What every checked constructor of the type promises. -/
def Valid (zat : Zatoshis) : Prop := zat.raw ≤ max.raw

instance (zat : Zatoshis) : Decidable zat.Valid := inferInstanceAs (Decidable (zat.raw ≤ max.raw))

theorem zero_valid : zero.Valid := UInt64.zero_le

end Zatoshis

abbrev CheckedZatoshis := { zat : Zatoshis // zat.Valid }

inductive ZatoshisError where
  | exceedsMaxMoney (attemptedZat : UInt64)
  deriving DecidableEq, Repr

def Zatoshis.tryFrom (zat : UInt64) : Except ZatoshisError CheckedZatoshis :=
  if above : zat > max.raw then .error (.exceedsMaxMoney zat)
  else .ok ⟨⟨zat⟩, UInt64.not_lt.mp above⟩

theorem Zatoshis.tryFrom_checked (zat : CheckedZatoshis) : tryFrom zat.val.raw = .ok zat :=
  dif_neg (UInt64.not_lt.mpr zat.property)

theorem Zatoshis.tryFrom_ok_iff : tryFrom zat = .ok checked ↔ checked.val.raw = zat := by
  constructor
  · intro converted
    unfold tryFrom at converted
    split at converted
    · cases converted
    · cases converted
      rfl
  · rintro rfl
    exact tryFrom_checked checked

structure IdempotencyKey where
  text : String
  deriving DecidableEq, Repr

inductive IdempotencyKeyError where
  | invalidLength (byteCount : Nat)
  | invalidCharacter (byteOffset : Nat)
  deriving DecidableEq, Repr

namespace IdempotencyKey

/-- The loop of `validate` over the bytes from `byteOffset` on. -/
def validateBytes (byteOffset : Nat) : List UInt8 → Except IdempotencyKeyError Unit
  | [] => .ok ()
  | byte :: bytes =>
    if 0x20 ≤ byte ∧ byte ≤ 0x7E then validateBytes (byteOffset + 1) bytes
    else .error (.invalidCharacter byteOffset)

def validate (text : String) : Except IdempotencyKeyError Unit :=
  if 1 ≤ text.utf8ByteSize ∧ text.utf8ByteSize ≤ 128 then
    validateBytes 0 text.toUTF8.data.toList
  else .error (.invalidLength text.utf8ByteSize)

/-- What every checked constructor of the type promises. -/
def Valid (key : IdempotencyKey) : Prop := validate key.text = .ok ()

end IdempotencyKey

abbrev CheckedIdempotencyKey := { key : IdempotencyKey // key.Valid }

def IdempotencyKey.tryFrom (text : String) : Except IdempotencyKeyError CheckedIdempotencyKey :=
  match valid : validate text with
  | .ok () => .ok ⟨⟨text⟩, valid⟩
  | .error error => .error error

structure HoldId where
  uuid : BitVec 128
  deriving DecidableEq, Repr

structure OutPoint where
  txId : TxId
  outputIndex : UInt32
  deriving DecidableEq, Repr

inductive Memo where
  | empty
  | text (bytes : List UInt8)
  | future (bytes : List UInt8)
  | arbitrary (bytes : List UInt8)
  deriving DecidableEq, Repr

inductive FailurePosture where
  | retryable
  | restartable
  | requiresOperator
  | notRetryable
  deriving DecidableEq, Repr

namespace FailurePosture

def allowsRetry : FailurePosture → Bool
  | retryable | restartable => true
  | requiresOperator | notRetryable => false

/-- An expired boundary is restarted, but it is no evidence of backend trouble. -/
def tripsCircuitBreaker : FailurePosture → Bool
  | retryable => true
  | restartable | requiresOperator | notRetryable => false

theorem allowsRetry_of_trips (trips : tripsCircuitBreaker posture = true) :
    allowsRetry posture = true := by
  cases posture <;> simp_all [allowsRetry,tripsCircuitBreaker]

def ofIsRetryable (isRetryable : Bool) : FailurePosture :=
  if isRetryable then retryable else notRetryable

end FailurePosture
end Zally
