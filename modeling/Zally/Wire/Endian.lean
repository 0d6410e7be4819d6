import Mathlib.Algebra.Group.Nat.Defs
import Mathlib.Data.Nat.Notation

/-! Numbers as bytes of a fixed width, in either byte order. -/
namespace Wire

/-- The `width` low bytes of a number, the lowest first. -/
def leBytes : (width number : Nat) → List UInt8
  | 0, _ => []
  | width + 1, number => .ofNat number :: leBytes width (number / 256)

def ofLeBytes : List UInt8 → Nat
  | [] => 0
  | byte :: bytes => byte.toNat + 256 * ofLeBytes bytes

@[simp] theorem length_leBytes (width number : Nat) : (leBytes width number).length = width := by
  induction width generalizing number with
  | zero => rfl
  | succ width ih => simp [leBytes,ih]

theorem ofLeBytes_leBytes (fits : number < 256 ^ width) :
    ofLeBytes (leBytes width number) = number := by
  induction width generalizing number with
  | zero => simp at fits; simp [leBytes,ofLeBytes,fits]
  | succ width ih =>
    have high : number / 256 < 256 ^ width := by
      rw [Nat.pow_succ] at fits
      omega
    simp only [leBytes,ofLeBytes,ih high,UInt8.toNat_ofNat']
    omega

theorem leBytes_ofLeBytes (bytes : List UInt8) :
    leBytes bytes.length (ofLeBytes bytes) = bytes := by
  induction bytes with
  | nil => rfl
  | cons byte bytes ih =>
    have bound := byte.toNat_lt
    have high : (byte.toNat + 256 * ofLeBytes bytes) / 256 = ofLeBytes bytes := by omega
    have low : UInt8.ofNat (byte.toNat + 256 * ofLeBytes bytes) = byte := by
      apply UInt8.toNat_inj.mp
      rw [UInt8.toNat_ofNat']
      omega
    simp only [List.length_cons,leBytes,ofLeBytes,high,low,ih]

theorem ofLeBytes_lt (bytes : List UInt8) : ofLeBytes bytes < 256 ^ bytes.length := by
  induction bytes with
  | nil => simp [ofLeBytes]
  | cons byte bytes ih =>
    have bound := byte.toNat_lt
    simp only [ofLeBytes,List.length_cons,Nat.pow_succ]
    omega

/-- The `width` low bytes of a number, the highest first. -/
def beBytes (width number : Nat) : List UInt8 := (leBytes width number).reverse

def ofBeBytes (bytes : List UInt8) : Nat := ofLeBytes bytes.reverse

@[simp] theorem length_beBytes (width number : Nat) : (beBytes width number).length = width := by
  simp [beBytes]

theorem ofBeBytes_beBytes (fits : number < 256 ^ width) :
    ofBeBytes (beBytes width number) = number := by
  simp [ofBeBytes,beBytes,ofLeBytes_leBytes fits]

theorem ofBeBytes_lt (bytes : List UInt8) : ofBeBytes bytes < 256 ^ bytes.length := by
  simpa [ofBeBytes] using ofLeBytes_lt bytes.reverse

theorem beBytes_ofBeBytes (sized : bytes.length = width) :
    beBytes width (ofBeBytes bytes) = bytes := by
  have low := leBytes_ofLeBytes bytes.reverse
  rw [List.length_reverse,sized] at low
  rw [beBytes,ofBeBytes,low,List.reverse_reverse]

end Wire
