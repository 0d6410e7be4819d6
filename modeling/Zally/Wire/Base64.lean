import Mathlib.Data.List.Basic
import Mathlib.Data.Option.Basic

/-! Base64 without padding: bytes regrouped into six-bit digits, and the digits written in an
alphabet. Left-out bits must be zero, so every text that decodes is the one its bytes encode
to. -/
namespace Wire.Base64

/-- Sixty-four different characters. -/
structure Alphabet where
  chars : List Char
  size : chars.length = 64
  nodup : chars.Nodup

def digits : List UInt8 → List (Fin 64)
  | first :: second :: third :: bytes =>
    .ofNat 64 (first.toNat / 4) :: .ofNat 64 (first.toNat % 4 * 16 + second.toNat / 16) ::
      .ofNat 64 (second.toNat % 16 * 4 + third.toNat / 64) :: .ofNat 64 third.toNat ::
        digits bytes
  | [first, second] =>
    [.ofNat 64 (first.toNat / 4), .ofNat 64 (first.toNat % 4 * 16 + second.toNat / 16),
      .ofNat 64 (second.toNat % 16 * 4)]
  | [first] => [.ofNat 64 (first.toNat / 4), .ofNat 64 (first.toNat % 4 * 16)]
  | [] => []

/-- The bytes of a digit sequence; nothing where one digit is left, or a left-out bit is set. -/
def ofDigits : List (Fin 64) → Option (List UInt8)
  | first :: second :: third :: fourth :: rest => do
    let bytes ← ofDigits rest
    some (.ofNat (first.val * 4 + second.val / 16) :: .ofNat (second.val * 16 + third.val / 4) ::
      .ofNat (third.val * 64 + fourth.val) :: bytes)
  | [first, second, third] =>
    if third.val % 4 = 0 then
      some [.ofNat (first.val * 4 + second.val / 16), .ofNat (second.val * 16 + third.val / 4)]
    else none
  | [first, second] =>
    if second.val % 16 = 0 then some [.ofNat (first.val * 4 + second.val / 16)] else none
  | [_] => none
  | [] => some []

theorem ofDigits_digits (bytes : List UInt8) : ofDigits (digits bytes) = some bytes := by
  fun_induction digits bytes with
  | case1 first second third bytes ih =>
    have one := first.toNat_lt
    have two := second.toNat_lt
    have three := third.toNat_lt
    simp only [ofDigits,ih,Option.bind_eq_bind,Option.bind_some,Fin.val_ofNat,Option.some.injEq,
      List.cons.injEq,← UInt8.toNat_inj,UInt8.toNat_ofNat',and_true]
    omega
  | case2 first second =>
    have one := first.toNat_lt
    have two := second.toNat_lt
    have zero : (second.toNat % 16 * 4) % 64 % 4 = 0 := by omega
    simp only [ofDigits,Fin.val_ofNat,zero,if_true,Option.some.injEq,List.cons.injEq,
      ← UInt8.toNat_inj,UInt8.toNat_ofNat',and_true]
    omega
  | case3 first =>
    have one := first.toNat_lt
    have zero : (first.toNat % 4 * 16) % 64 % 16 = 0 := by omega
    simp only [ofDigits,Fin.val_ofNat,zero,if_true,Option.some.injEq,List.cons.injEq,
      ← UInt8.toNat_inj,UInt8.toNat_ofNat',and_true]
    omega
  | case4 => rfl

theorem digits_ofDigits {sequence : List (Fin 64)} (decoded : ofDigits sequence = some bytes) : digits bytes = sequence := by
  fun_induction ofDigits sequence generalizing bytes with
  | case1 first second third fourth rest ih =>
    obtain ⟨later, found, same⟩ := Option.bind_eq_some_iff.mp decoded
    obtain rfl := Option.some.inj same
    simp only [digits,ih found,List.cons.injEq,Fin.ext_iff,Fin.val_ofNat,UInt8.toNat_ofNat',
      and_true]
    omega
  | case2 first second third zero =>
    obtain rfl := Option.some.inj decoded
    simp only [digits,List.cons.injEq,Fin.ext_iff,Fin.val_ofNat,UInt8.toNat_ofNat',and_true]
    omega
  | case3 => cases decoded
  | case4 first second zero =>
    obtain rfl := Option.some.inj decoded
    simp only [digits,List.cons.injEq,Fin.ext_iff,Fin.val_ofNat,UInt8.toNat_ofNat',and_true]
    omega
  | case5 => cases decoded
  | case6 => cases decoded
  | case7 =>
    obtain rfl := Option.some.inj decoded
    rfl

namespace Alphabet

def char (alphabet : Alphabet) (digit : Fin 64) : Char := alphabet.chars.get (digit.cast alphabet.size.symm)

def digit? (alphabet : Alphabet) (char : Char) : Option (Fin 64) :=
  if known : char ∈ alphabet.chars then
    some ⟨alphabet.chars.idxOf char, alphabet.size ▸ List.idxOf_lt_length_of_mem known⟩
  else none

def encode (alphabet : Alphabet) (bytes : List UInt8) : String := .ofList ((digits bytes).map alphabet.char)

def decode (alphabet : Alphabet) (text : String) : Option (List UInt8) :=
  text.toList.mapM alphabet.digit? >>= ofDigits

variable {alphabet : Alphabet}

theorem digit?_eq_some_iff {letter : Char} :
    alphabet.digit? letter = some digit ↔ alphabet.char digit = letter := by
  constructor
  · intro found
    rw [digit?] at found
    split at found
    · obtain rfl := Option.some.inj found
      exact List.getElem_idxOf _
    · cases found
  · rintro rfl
    have known : alphabet.char digit ∈ alphabet.chars := List.get_mem _ _
    rw [digit?,dif_pos known,Option.some.injEq]
    exact Fin.ext (alphabet.nodup.idxOf_getElem _ _)

theorem mapM_digit?_iff {letters : List Char} {sequence : List (Fin 64)} :
    letters.mapM alphabet.digit? = some sequence ↔ sequence.map alphabet.char = letters := by
  induction letters generalizing sequence with
  | nil =>
    rw [List.mapM_nil,List.map_eq_nil_iff]
    exact ⟨fun same => (Option.some.inj same).symm, fun same => congrArg some same.symm⟩
  | cons letter letters ih =>
    rw [List.mapM_cons]
    constructor
    · intro ran
      obtain ⟨first, found, ran⟩ := Option.bind_eq_some_iff.mp ran
      obtain ⟨rest, others, returned⟩ := Option.bind_eq_some_iff.mp ran
      obtain rfl := Option.some.inj returned
      rw [List.map_cons,digit?_eq_some_iff.mp found,ih.mp others]
    · intro same
      obtain ⟨first, rest, rfl, head, tail⟩ := List.map_eq_cons_iff.mp same
      rw [digit?_eq_some_iff.mpr head,ih.mpr tail]
      rfl

/-- A text decodes to the bytes it is the encoding of, and to no others. -/
theorem decode_eq_some_iff : alphabet.decode text = some bytes ↔ alphabet.encode bytes = text := by
  constructor
  · intro decoded
    obtain ⟨sequence, read, regrouped⟩ := Option.bind_eq_some_iff.mp decoded
    rw [encode,digits_ofDigits regrouped,mapM_digit?_iff.mp read,String.ofList_toList]
  · rintro rfl
    rw [decode,encode,String.toList_ofList,mapM_digit?_iff.mpr rfl]
    exact ofDigits_digits bytes

end Alphabet

/-- The letters, the decimal digits and two more characters. -/
def standardChars (last : List Char) : List Char :=
  "ABCDEFGHIJKLMNOPQRSTUVWXYZabcdefghijklmnopqrstuvwxyz0123456789".toList ++ last

def standard : Alphabet := ⟨standardChars ['+', '/'], by decide, by decide⟩

def urlSafe : Alphabet := ⟨standardChars ['-', '_'], by decide, by decide⟩

end Wire.Base64
