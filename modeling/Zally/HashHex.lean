import Zally.Chain.Source
import Zally.Wire.Hex

/-! The printed form of 32-byte hashes, whose bytes stand in reverse. -/
namespace Zally

open Wire Outcome

inductive FromRpcHexError where
  | invalidLength (expected actual : Nat)
  | invalidHex (source : Hex.FromHexError)
  deriving DecidableEq

def hashByteCount : Nat := 32

def hashRpcHexLen : Nat := hashByteCount * 2

variable (codec : Hex.Codec)

def decodeRpcHex (input : String) : Except FromRpcHexError (List UInt8) :=
  if (utf8 input).length ≠ hashRpcHexLen then
    .error (.invalidLength hashRpcHexLen (utf8 input).length)
  else do
    let buffer ← (codec.decodeToSlice hashByteCount input).mapError .invalidHex
    pure buffer.reverse

def encodeRpcHex (bytes : List UInt8) : String := codec.encode bytes.reverse

/-- Why a text is no hash: its length, or its first character that is no digit. -/
inductive RpcHexFault (text : String) : FromRpcHexError → Prop where
  | length (wrong : (utf8 text).length ≠ 64) :
      RpcHexFault text (.invalidLength 64 (utf8 text).length)
  | digit (sized : (utf8 text).length = 64) (first : Hex.FirstInvalid 0 (utf8 text) source) :
      RpcHexFault text (.invalidHex source)

variable {codec}

theorem decodeRpcHex_ok_iff (lawful : codec.Lawful) (sized : bytes.length = 32) :
    decodeRpcHex codec text = .ok bytes ↔
      (utf8 text).map Hex.lower = utf8 (encodeRpcHex codec bytes) := by
  rw [encodeRpcHex,lawful.utf8_encode]
  by_cases length : (utf8 text).length = hashRpcHexLen
  · have filled : (utf8 text).length = 2 * hashByteCount := length
    rw [decodeRpcHex,if_neg (not_not_intro length),bind_ok_iff]
    constructor
    · rintro ⟨buffer, read, returned⟩
      obtain rfl := Except.ok.inj returned
      rw [List.reverse_reverse]
      exact (lawful.decodeToSlice_ok_iff filled).mp (mapError_ok_iff.mp read)
    · intro same
      refine ⟨bytes.reverse, mapError_ok_iff.mpr ((lawful.decodeToSlice_ok_iff filled).mpr same),
        ?_⟩
      rw [List.reverse_reverse]
      rfl
  · rw [decodeRpcHex,if_pos length]
    refine iff_of_false nofun fun same => length ?_
    have lengths := congrArg List.length same
    rw [List.length_map,Hex.length_digits,List.length_reverse,sized] at lengths
    exact lengths

theorem length_of_decodeRpcHex (lawful : codec.Lawful)
    (decoded : decodeRpcHex codec text = .ok bytes) :
    bytes.length = 32 := by
  rw [decodeRpcHex] at decoded
  split at decoded
  · cases decoded
  · rename_i length
    have filled : (utf8 text).length = 2 * hashByteCount := not_not.mp length
    obtain ⟨buffer, read, returned⟩ := bind_ok_iff.mp decoded
    obtain rfl := Except.ok.inj returned
    have same := (lawful.decodeToSlice_ok_iff filled).mp (mapError_ok_iff.mp read)
    have lengths := congrArg List.length same
    rw [List.length_map,Hex.length_digits,filled] at lengths
    rw [List.length_reverse]
    exact (Nat.eq_of_mul_eq_mul_left (by decide) lengths).symm

theorem decodeRpcHex_error_iff (lawful : codec.Lawful) :
    decodeRpcHex codec text = .error error ↔ RpcHexFault text error := by
  by_cases length : (utf8 text).length = hashRpcHexLen
  · have filled : (utf8 text).length = 2 * hashByteCount := length
    rw [decodeRpcHex,if_neg (not_not_intro length),bind_error_iff]
    constructor
    · rintro (failed | ⟨buffer, -, returned⟩)
      · obtain ⟨source, refused, rfl⟩ := mapError_error_iff.mp failed
        exact .digit length ((lawful.decodeToSlice_error_iff filled).mp refused)
      · cases returned
    · rintro (wrong | ⟨-, first⟩)
      · exact absurd length wrong
      · exact .inl
          (mapError_error_iff.mpr ⟨_, (lawful.decodeToSlice_error_iff filled).mpr first, rfl⟩)
  · rw [decodeRpcHex,if_pos length]
    constructor
    · intro same
      obtain rfl := Except.error.inj same
      exact .length length
    · rintro (- | ⟨sized, -⟩)
      · rfl
      · exact absurd sized length

namespace TxId

/-- What `to_rpc_hex` writes. -/
def rpcHex (codec : Hex.Codec) (txId : TxId) : String := encodeRpcHex codec (asBytes txId)

def fromRpcHex (codec : Hex.Codec) (input : String) : Except FromRpcHexError TxId :=
  (decodeRpcHex codec input).map fromBytes

theorem fromRpcHex_ok_iff (lawful : codec.Lawful) {txId : TxId} : fromRpcHex codec text = .ok txId ↔
    (utf8 text).map Hex.lower = utf8 (rpcHex codec txId) := by
  rw [fromRpcHex,map_ok_iff,rpcHex,← decodeRpcHex_ok_iff lawful (length_asBytes txId)]
  constructor
  · rintro ⟨bytes, decoded, rfl⟩
    rw [asBytes_fromBytes (length_of_decodeRpcHex lawful decoded),decoded]
  · exact fun decoded => ⟨asBytes txId, decoded, fromBytes_asBytes txId⟩

end TxId

namespace Source.BlockHash

def toRpcHex (codec : Hex.Codec) (hash : BlockHash) : String :=
    encodeRpcHex codec hash.asBytes.toList

/-- The bytes are copied into an array. -/
def fromList (bytes : List UInt8) : BlockHash := ⟨.ofFn fun index : Fin 32 => bytes.getD index 0⟩

def fromRpcHex (codec : Hex.Codec) (input : String) : Except FromRpcHexError BlockHash :=
  (decodeRpcHex codec input).map fromList

theorem toList_fromList (sized : bytes.length = 32) : (fromList bytes).asBytes.toList = bytes := by
  apply List.ext_getElem
  · rw [Vector.length_toList,sized]
  · intro index inside bound
    simp [fromList,List.getD_eq_getElem?_getD,bound]

theorem fromList_toList (hash : BlockHash) : fromList hash.asBytes.toList = hash := by
  have sized : hash.asBytes.toList.length = 32 := Vector.length_toList
  have same := toList_fromList sized
  cases hash with
  | mk bytes => exact congrArg BlockHash.mk (Vector.toList_inj.mp same)

theorem fromRpcHex_ok_iff (lawful : codec.Lawful) {hash : BlockHash} :
    fromRpcHex codec text = .ok hash ↔
      (utf8 text).map Hex.lower = utf8 (toRpcHex codec hash) := by
  rw [fromRpcHex,map_ok_iff,toRpcHex,← decodeRpcHex_ok_iff lawful Vector.length_toList]
  constructor
  · rintro ⟨bytes, decoded, rfl⟩
    rw [toList_fromList (length_of_decodeRpcHex lawful decoded),decoded]
  · exact fun decoded => ⟨hash.asBytes.toList, decoded, fromList_toList hash⟩

end Source.BlockHash

theorem lower_encodeRpcHex (lawful : codec.Lawful) (bytes : List UInt8) :
    (utf8 (encodeRpcHex codec bytes)).map Hex.lower = utf8 (encodeRpcHex codec bytes) := by
  rw [encodeRpcHex,lawful.utf8_encode,Hex.map_lower_digits]

/-- A printed hash is read back, in either case of each letter, nothing else is, and every refusal
names the length or the first character that is no digit. -/
theorem rpcHex_text (codec : Hex.Codec) (lawful : codec.Lawful) (text : String) :
    (∀ txId, TxId.fromRpcHex codec (TxId.rpcHex codec txId) = .ok txId) ∧
    (∀ hash, Source.BlockHash.fromRpcHex codec (hash.toRpcHex codec) = .ok hash) ∧
    (∀ txId, TxId.fromRpcHex codec text = .ok txId ↔
      (utf8 text).map Hex.lower = utf8 (TxId.rpcHex codec txId)) ∧
    (∀ hash, Source.BlockHash.fromRpcHex codec text = .ok hash ↔
      (utf8 text).map Hex.lower = utf8 (hash.toRpcHex codec)) ∧
    (∀ error, TxId.fromRpcHex codec text = .error error ↔ RpcHexFault text error) ∧
    ∀ error, Source.BlockHash.fromRpcHex codec text = .error error ↔ RpcHexFault text error := by
  refine ⟨fun _ => (TxId.fromRpcHex_ok_iff lawful).mpr (lower_encodeRpcHex lawful _),
    fun _ => (Source.BlockHash.fromRpcHex_ok_iff lawful).mpr (lower_encodeRpcHex lawful _),
    fun _ => TxId.fromRpcHex_ok_iff lawful, fun _ => Source.BlockHash.fromRpcHex_ok_iff lawful,
    ?_, ?_⟩
  · intro error
    rw [TxId.fromRpcHex,map_error_iff,decodeRpcHex_error_iff lawful]
  · intro error
    rw [Source.BlockHash.fromRpcHex,map_error_iff,decodeRpcHex_error_iff lawful]

/-- The id one, as printed, is read back; cut short, it is refused for its length. -/
theorem sampleRpcHex_text :
    TxId.fromRpcHex Hex.reference (TxId.rpcHex Hex.reference 1) = .ok 1 ∧
      TxId.fromRpcHex Hex.reference "01" = .error (.invalidLength 64 2) := by
  obtain ⟨readBack, -, -, -, refused, -⟩ := rpcHex_text Hex.reference Hex.reference_lawful "01"
  exact ⟨readBack 1, (refused _).mpr (.length (by decide))⟩

end Zally
