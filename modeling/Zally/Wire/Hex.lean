import Zally.Outcome
import Zally.Wire.Text

/-! Hexadecimal texts. The codec that writes and reads them is a library's; it reads letters of
either case, and writes the lower ones. -/
namespace Wire.Hex

open Outcome

/-- A character that is no digit, with its place, or a text of the wrong length. -/
inductive FromHexError where
  | invalidHexCharacter (character : UInt8) (index : Nat)
  | oddLength
  | invalidStringLength
  deriving DecidableEq

/-- A library's codec, with the texts of its errors; `decodeToSlice` fills a buffer of its size. -/
structure Codec where
  encode : List UInt8 → String
  decode : String → Except FromHexError (List UInt8)
  decodeToSlice : (size : Nat) → String → Except FromHexError (List UInt8)
  errorText : FromHexError → String

def digit (value : Nat) : UInt8 := .ofNat (if value < 10 then 48 + value else 87 + value)

def pair (byte : UInt8) : List UInt8 := [digit (byte.toNat / 16), digit (byte.toNat % 16)]

def digits (bytes : List UInt8) : List UInt8 := bytes.flatMap pair

def lower (character : UInt8) : UInt8 :=
  if 65 ≤ character.toNat ∧ character.toNat ≤ 90 then .ofNat (character.toNat + 32) else character

/-- A digit in either case. -/
def IsDigit (character : UInt8) : Prop := ∃ read < 16, lower character = digit read

/-- The first character that is no digit, at its place from `index` on. -/
def FirstInvalid (index : Nat) (characters : List UInt8) (error : FromHexError) : Prop :=
  ∃ before character after, characters = before ++ character :: after ∧
    (∀ earlier ∈ before, IsDigit earlier) ∧ ¬ IsDigit character ∧
    error = .invalidHexCharacter character (index + before.length)

/-- What the codec's documentation says of it: a byte is written as two lower digits, a text reads
as the bytes it writes in either case of each letter, a text of even length that does not names its
first character that is no digit, and a text that fills a buffer reads there as it does alone. -/
structure Codec.Lawful (codec : Codec) : Prop where
  utf8_encode : ∀ bytes, utf8 (codec.encode bytes) = digits bytes
  decode_ok_iff : ∀ text bytes, codec.decode text = .ok bytes ↔ (utf8 text).map lower = digits bytes
  decode_error_iff : ∀ text error, (utf8 text).length % 2 = 0 →
    (codec.decode text = .error error ↔ FirstInvalid 0 (utf8 text) error)
  decodeToSlice_eq : ∀ size text, (utf8 text).length = 2 * size →
    codec.decodeToSlice size text = codec.decode text

@[simp] theorem toNat_digit {read : Nat} (small : read < 16) :
    (digit read).toNat = if read < 10 then 48 + read else 87 + read := by
  rw [digit,UInt8.toNat_ofNat']
  exact Nat.mod_eq_of_lt (by split <;> omega)

@[simp] theorem digits_cons (byte : UInt8) (bytes : List UInt8) : digits (byte :: bytes) =
    digit (byte.toNat / 16) :: digit (byte.toNat % 16) :: digits bytes := rfl

@[simp] theorem length_digits (bytes : List UInt8) : (digits bytes).length = 2 * bytes.length := by
  induction bytes with
  | nil => rfl
  | cons byte bytes ih =>
    rw [digits_cons,List.length_cons,List.length_cons,List.length_cons,ih]
    omega

theorem toNat_lower (character : UInt8) : (lower character).toNat =
    if 65 ≤ character.toNat ∧ character.toNat ≤ 90 then character.toNat + 32
    else character.toNat := by
  rw [lower]
  split
  · rw [UInt8.toNat_ofNat']
    omega
  · rfl

theorem lower_digit {read : Nat} (small : read < 16) : lower (digit read) = digit read := by
  apply UInt8.toNat_inj.mp
  rw [toNat_lower,toNat_digit small]
  grind

@[simp] theorem map_lower_digits (bytes : List UInt8) : (digits bytes).map lower = digits bytes := by
  induction bytes with
  | nil => rfl
  | cons byte bytes ih =>
    have bound := byte.toNat_lt
    rw [digits_cons,List.map_cons,List.map_cons,ih,lower_digit (by omega),
      lower_digit (Nat.mod_lt _ (by decide))]

namespace Codec.Lawful

variable {codec : Codec}

/-- A text of the right length fails on its first character that is no digit. -/
theorem decodeToSlice_error_iff (lawful : codec.Lawful) (filled : (utf8 text).length = 2 * size) :
    codec.decodeToSlice size text = .error error ↔ FirstInvalid 0 (utf8 text) error := by
  rw [lawful.decodeToSlice_eq size text filled]
  exact lawful.decode_error_iff text error (by omega)

theorem decodeToSlice_ok_iff (lawful : codec.Lawful) (filled : (utf8 text).length = 2 * size) :
    codec.decodeToSlice size text = .ok bytes ↔ (utf8 text).map lower = digits bytes := by
  rw [lawful.decodeToSlice_eq size text filled]
  exact lawful.decode_ok_iff text bytes

end Codec.Lawful

/-! A codec that keeps these laws. -/
section Reference

def encode (bytes : List UInt8) : String := .ofList ((digits bytes).map Char.ofUInt8)

def value (character : UInt8) (index : Nat) : Except FromHexError Nat :=
  let code := character.toNat
  if 65 ≤ code ∧ code ≤ 70 then .ok (code - 55)
  else if 97 ≤ code ∧ code ≤ 102 then .ok (code - 87)
  else if 48 ≤ code ∧ code ≤ 57 then .ok (code - 48)
  else .error (.invalidHexCharacter character index)

def decodePairs (index : Nat) : List UInt8 → Except FromHexError (List UInt8)
  | high :: low :: rest => do
    let upper ← value high index
    let under ← value low (index + 1)
    let bytes ← decodePairs (index + 2) rest
    pure (.ofNat (upper * 16 + under) :: bytes)
  | _ => pure []

def reference : Codec where
  encode := encode
  decode := fun text =>
    if (utf8 text).length % 2 ≠ 0 then .error .oddLength else decodePairs 0 (utf8 text)
  decodeToSlice := fun size text =>
    if (utf8 text).length % 2 ≠ 0 then .error .oddLength
    else if (utf8 text).length / 2 ≠ size then .error .invalidStringLength
    else decodePairs 0 (utf8 text)
  errorText
    | .invalidHexCharacter character index => "Invalid character " ++
        (Char.ofUInt8 character).quote ++ " at position " ++ toString index
    | .oddLength => "Odd number of digits"
    | .invalidStringLength => "Invalid string length"

/-- A digit is read from either of its cases. -/
theorem value_ok_iff {read : Nat} : value character index = .ok read ↔ read < 16 ∧ lower character = digit read := by
  have bound := character.toNat_lt
  constructor
  · intro found
    have small : read < 16 := by
      rw [value] at found
      grind
    refine ⟨small, UInt8.toNat_inj.mp ?_⟩
    rw [toNat_lower,toNat_digit small]
    rw [value] at found
    grind
  · rintro ⟨small, same⟩
    have codes := congrArg UInt8.toNat same
    rw [toNat_lower,toNat_digit small] at codes
    rw [value]
    grind

theorem value_error_iff : value character index = .error error ↔
    ¬ IsDigit character ∧ error = .invalidHexCharacter character index := by
  constructor
  · intro failed
    refine ⟨?_, ?_⟩
    · rintro ⟨read, small, same⟩
      rw [value_ok_iff.mpr ⟨small, same⟩] at failed
      cases failed
    · rw [value] at failed
      grind
  · rintro ⟨unknown, rfl⟩
    cases found : value character index with
    | ok read => exact absurd ⟨read, value_ok_iff.mp found⟩ unknown
    | error other =>
      rw [value] at found
      grind

theorem utf8_encode (bytes : List UInt8) : utf8 (encode bytes) = digits bytes := by
  have ascii : ∀ character ∈ (digits bytes).map Char.ofUInt8, character.toNat < 128 := by
    intro character member
    obtain ⟨code, written, rfl⟩ := List.mem_map.mp member
    obtain ⟨byte, -, digitOf⟩ := List.mem_flatMap.mp written
    have bound := byte.toNat_lt
    have small : code.toNat < 128 := by
      simp only [pair,List.mem_cons,List.not_mem_nil,or_false] at digitOf
      rcases digitOf with rfl | rfl <;> rw [toNat_digit (by omega)] <;> split <;> omega
    exact small
  rw [encode,utf8_ofList ascii,List.map_map]
  exact List.map_id'' (fun code => UInt8.toUInt8_toUInt32 code) (digits bytes)

theorem decodePairs_ok_iff {characters : List UInt8} (even : characters.length % 2 = 0) :
    decodePairs index characters = .ok bytes ↔ characters.map lower = digits bytes := by
  fun_induction decodePairs index characters generalizing bytes with
  | case1 index high low rest ih =>
    have shorter : rest.length % 2 = 0 := by
      simp only [List.length_cons] at even
      omega
    rw [bind_ok_iff]
    constructor
    · rintro ⟨upper, first, ran⟩
      obtain ⟨under, second, ran⟩ := bind_ok_iff.mp ran
      obtain ⟨others, read, returned⟩ := bind_ok_iff.mp ran
      obtain rfl := Except.ok.inj returned
      obtain ⟨small, firstDigit⟩ := value_ok_iff.mp first
      obtain ⟨limited, secondDigit⟩ := value_ok_iff.mp second
      have whole : (UInt8.ofNat (upper * 16 + under)).toNat = upper * 16 + under := by
        rw [UInt8.toNat_ofNat']
        omega
      rw [digits_cons,whole,← (ih shorter).mp read,List.map_cons,List.map_cons,firstDigit,secondDigit,
        show (upper * 16 + under) / 16 = upper by omega,
        show (upper * 16 + under) % 16 = under by omega]
    · intro same
      cases bytes with
      | nil => cases same
      | cons byte others =>
        have bound := byte.toNat_lt
        rw [digits_cons,List.map_cons,List.map_cons,List.cons.injEq,List.cons.injEq] at same
        obtain ⟨firstDigit, secondDigit, rest⟩ := same
        refine ⟨byte.toNat / 16, value_ok_iff.mpr ⟨by omega, firstDigit⟩, ?_⟩
        apply bind_ok (value_ok_iff.mpr ⟨Nat.mod_lt _ (by decide), secondDigit⟩)
        apply bind_ok ((ih shorter).mpr rest)
        rw [show byte.toNat / 16 * 16 + byte.toNat % 16 = byte.toNat by omega,UInt8.ofNat_toNat]
        rfl
  | case2 characters index short =>
    have empty : characters = [] := by
      rcases characters with _ | ⟨first, _ | ⟨second, rest⟩⟩
      · rfl
      · simp at even
      · exact absurd rfl (short first second rest)
    subst empty
    cases bytes with
    | nil => exact iff_of_true rfl rfl
    | cons byte others => exact iff_of_false nofun nofun

theorem value_ok_of_isDigit (known : IsDigit character) (index : Nat) :
    ∃ read, value character index = .ok read := by
  obtain ⟨read, small, same⟩ := known
  exact ⟨read, value_ok_iff.mpr ⟨small, same⟩⟩

theorem firstInvalid_cons : FirstInvalid index (character :: rest) error ↔
    ¬ IsDigit character ∧ error = .invalidHexCharacter character index ∨
    IsDigit character ∧ FirstInvalid (index + 1) rest error := by
  constructor
  · rintro ⟨before, invalid, after, same, digitsBefore, unknown, rfl⟩
    cases before with
    | nil =>
      obtain ⟨rfl, rfl⟩ := List.cons.inj same
      exact .inl ⟨unknown, rfl⟩
    | cons first before =>
      obtain ⟨rfl, rfl⟩ := List.cons.inj same
      refine .inr ⟨digitsBefore _ List.mem_cons_self, before, invalid, after, rfl,
        fun earlier member => digitsBefore _ (List.mem_cons_of_mem _ member), unknown, ?_⟩
      rw [List.length_cons,Nat.add_right_comm,Nat.add_assoc]
  · rintro (⟨unknown, rfl⟩ | ⟨known, before, invalid, after, rfl, digitsBefore, unknown, rfl⟩)
    · exact ⟨[], character, rest, rfl, nofun, unknown, rfl⟩
    · refine ⟨character :: before, invalid, after, rfl, ?_, unknown, ?_⟩
      · intro earlier member
        rcases List.mem_cons.mp member with rfl | later
        · exact known
        · exact digitsBefore _ later
      · rw [List.length_cons,Nat.add_right_comm,Nat.add_assoc]

theorem decodePairs_error_iff {characters : List UInt8} (even : characters.length % 2 = 0) :
    decodePairs index characters = .error error ↔ FirstInvalid index characters error := by
  fun_induction decodePairs index characters with
  | case1 index high low rest ih =>
    have shorter : rest.length % 2 = 0 := by
      simp only [List.length_cons] at even
      omega
    rw [firstInvalid_cons,firstInvalid_cons,bind_error_iff,value_error_iff]
    refine or_congr_right ?_
    constructor
    · rintro ⟨upper, first, failed⟩
      obtain ⟨small, same⟩ := value_ok_iff.mp first
      refine ⟨⟨upper, small, same⟩, ?_⟩
      rcases bind_error_iff.mp failed with second | ⟨under, second, failed⟩
      · exact .inl (value_error_iff.mp second)
      · obtain ⟨limited, sameLow⟩ := value_ok_iff.mp second
        refine .inr ⟨⟨under, limited, sameLow⟩, (ih shorter).mp ?_⟩
        rcases bind_error_iff.mp failed with rest | ⟨_, _, returned⟩
        · exact rest
        · cases returned
    · rintro ⟨known, later⟩
      obtain ⟨upper, first⟩ := value_ok_of_isDigit known index
      refine ⟨upper, first, bind_error_iff.mpr ?_⟩
      rcases later with second | ⟨knownLow, rest⟩
      · exact .inl (value_error_iff.mpr second)
      · obtain ⟨under, second⟩ := value_ok_of_isDigit knownLow (index + 1)
        exact .inr ⟨under, second, bind_error_iff.mpr (.inl ((ih shorter).mpr rest))⟩
  | case2 characters index short =>
    have empty : characters = [] := by
      rcases characters with _ | ⟨first, _ | ⟨second, rest⟩⟩
      · rfl
      · simp at even
      · exact absurd rfl (short first second rest)
    subst empty
    refine iff_of_false nofun ?_
    rintro ⟨before, character, after, same, -⟩
    exact List.append_ne_nil_of_right_ne_nil before (List.cons_ne_nil _ _) same.symm

theorem reference_lawful : reference.Lawful where
  utf8_encode := utf8_encode
  decode_ok_iff := by
    intro text bytes
    simp only [reference]
    split
    · rename_i odd
      refine iff_of_false nofun fun same => odd ?_
      have lengths := congrArg List.length same
      rw [List.length_map,length_digits] at lengths
      omega
    · rename_i even
      exact decodePairs_ok_iff (Decidable.not_not.mp even)
  decode_error_iff := by
    intro text error even
    simp only [reference]
    rw [if_neg (not_not_intro even)]
    exact decodePairs_error_iff even
  decodeToSlice_eq := by
    intro size text filled
    simp only [reference]
    rw [if_neg (by omega),if_neg (by omega),if_neg (by omega)]

end Reference

end Wire.Hex
