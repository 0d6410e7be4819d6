import Zally.Wire.Endian
import Zally.Wire.Exact

/-! Texts as their UTF-8 bytes, and bytes behind a length of two bytes. -/
namespace Wire

def utf8 (text : String) : List UInt8 := text.toByteArray.data.toList

def ofUtf8 (bytes : List UInt8) : Option String := String.fromUTF8? ⟨bytes.toArray⟩

@[simp] theorem length_utf8 (text : String) : (utf8 text).length = text.utf8ByteSize :=
  Array.length_toList

theorem utf8_injective : Function.Injective utf8 := fun _ _ same =>
  String.toByteArray_inj.mp (ByteArray.ext (Array.toList_inj.mp same))

theorem ofUtf8_eq_some_iff : ofUtf8 bytes = some text ↔ utf8 text = bytes := by
  rw [ofUtf8,String.fromUTF8?]
  constructor
  · intro decoded
    split at decoded
    · rw [← Option.some.inj decoded]
      rfl
    · cases decoded
  · rintro rfl
    have same : (⟨(utf8 text).toArray⟩ : ByteArray) = text.toByteArray := by
      rw [utf8,Array.toArray_toList]
    rw [same,dif_pos text.isValidUTF8]
    rfl

/-- Each ASCII character is one byte. -/
theorem utf8_ofList {characters : List Char}
    (ascii : ∀ character ∈ characters, character.toNat < 128) :
    utf8 (.ofList characters) = characters.map Char.toUInt8 := by
  rw [utf8,String.toByteArray_ofList]
  induction characters with
  | nil => rfl
  | cons character characters ih =>
    have single : character.utf8Size = 1 := by
      rw [Char.utf8Size_eq_one_iff,UInt32.le_iff_toNat_le]
      exact Nat.le_of_lt_succ (ascii character List.mem_cons_self)
    have rest := ih fun other later => ascii other (List.mem_cons_of_mem _ later)
    rw [List.utf8Encode_cons,List.utf8Encode_singleton,String.utf8EncodeChar_eq_singleton single,
      ByteArray.data_append,Array.toList_append,rest]
    rfl

/-- Bytes below 128 are those of ASCII characters. -/
theorem toList_of_ascii {text : String} (ascii : ∀ byte ∈ utf8 text, byte.toNat < 128) :
    text.toList = (utf8 text).map Char.ofUInt8 := by
  have small : ∀ character ∈ (utf8 text).map Char.ofUInt8, character.toNat < 128 := by
    intro character member
    obtain ⟨byte, read, rfl⟩ := List.mem_map.mp member
    exact ascii byte read
  have written : utf8 (.ofList ((utf8 text).map Char.ofUInt8)) = utf8 text := by
    rw [utf8_ofList small,List.map_map]
    exact List.map_id'' (fun byte => UInt8.toUInt8_toUInt32 byte) (utf8 text)
  have told := congrArg String.toList (utf8_injective written)
  rwa [String.toList_ofList,eq_comm] at told

/-- Bytes behind their number, which is cut to two bytes. -/
def lengthPrefixed (bytes : List UInt8) : List UInt8 :=
  beBytes 2 (UInt16.ofNat bytes.length).toNat ++ bytes

theorem delimits_lengthPrefixed :
    Delimits lengthPrefixed (fun bytes => bytes.length < 2 ^ 16) id := by
  have told (bytes : List UInt8) (fits : bytes.length < 2 ^ 16) :
      ofBeBytes (beBytes 2 (UInt16.ofNat bytes.length).toNat) = bytes.length := by
    rw [UInt16.toNat_ofNat',Nat.mod_eq_of_lt fits,ofBeBytes_beBytes fits]
  have length : Delimits (fun bytes : List UInt8 => beBytes 2 (UInt16.ofNat bytes.length).toNat)
      (fun bytes => bytes.length < 2 ^ 16) List.length :=
    Delimits.fixed (fun bytes _ => length_beBytes 2 _) fun first second firstFits secondFits same =>
      by rw [← told first firstFits,same,told second secondFits]
  have content (size : Nat) : Delimits (fun bytes : List UInt8 => bytes)
      (fun bytes => bytes.length < 2 ^ 16 ∧ bytes.length = size) id :=
    Delimits.fixed (fun _ fits => fits.2) fun _ _ _ _ same => same
  exact (length.append content).tells fun _ _ _ _ same => congrArg Prod.snd same

end Wire
