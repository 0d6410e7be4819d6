import Zally.Storage.Error
import Zally.Wire.Endian

/-! The compact byte layout of the notes a hold records: a count, then records of one
size. -/
namespace Zally

open Wire

structure HeldNote where
  protocol : ShieldedPool
  valueZat : CheckedZatoshis
  txId : TxId
  outputIndex : UInt32
  deriving DecidableEq

def lockedNoteTag : ShieldedPool → UInt8
  | .sapling => 0
  | .orchard => 1
  | .ironwood => 2

/-- The size of one record: tag, value, transaction and output index. -/
def lockedNoteRecordBytes : Nat := 1 + 8 + 32 + 4

def HeldNote.bytes (note : HeldNote) : List UInt8 :=
  lockedNoteTag note.protocol :: (beBytes 8 note.valueZat.val.raw.toNat ++
    (note.txId.asBytes ++ beBytes 4 note.outputIndex.toNat))

def encodeLockedNotes (notes : List HeldNote) : List UInt8 :=
  beBytes 4 (min notes.length (2 ^ 32 - 1)) ++ notes.flatMap HeldNote.bytes

def decodeLockedNoteTag (tag : UInt8) : Except StorageError ShieldedPool :=
  if tag = lockedNoteTag .sapling then .ok .sapling
  else if tag = lockedNoteTag .orchard then .ok .orchard
  else if tag = lockedNoteTag .ironwood then .ok .ironwood
  else .error (.rowValueOutOfRange "ext_zally_holds.locked_notes (protocol tag)"
    (toString tag.toNat))

/-- The note in one record of `lockedNoteRecordBytes` bytes. -/
def decodeLockedNote (record : List UInt8) : Except StorageError HeldNote := do
  let protocol ← decodeLockedNoteTag (record.headD 0)
  let valueU64 := UInt64.ofNat (ofBeBytes (record.extract 1 9))
  let valueZat ← (Zatoshis.tryFrom valueU64).mapError fun _ =>
    .rowValueOutOfRange "ext_zally_holds.locked_notes (value_zat)" (toString valueU64.toNat)
  pure ⟨protocol, valueZat, .fromBytes (record.extract 9 41),
    .ofNat (ofBeBytes (record.extract 41 45))⟩

/-- The records from the cursor on. -/
def decodeLockedNoteRecords : Nat → List UInt8 → Except StorageError (List HeldNote)
  | 0, _ => .ok []
  | count + 1, records => do
    let note ← decodeLockedNote (records.take lockedNoteRecordBytes)
    let notes ← decodeLockedNoteRecords count (records.drop lockedNoteRecordBytes)
    pure (note :: notes)

def decodeLockedNotes (blob : List UInt8) : Except StorageError (List HeldNote) :=
  if blob.length < 4 then
    .error (.rowValueOutOfRange "ext_zally_holds.locked_notes"
      s!"blob length {blob.length} below 4-byte header")
  else
    let count := ofBeBytes (blob.take 4)
    let expectedBytes := 4 + count * lockedNoteRecordBytes
    if blob.length ≠ expectedBytes then
      .error (.rowValueOutOfRange "ext_zally_holds.locked_notes"
        s!"blob length {blob.length} does not match header count {count} (expected {expectedBytes})")
    else decodeLockedNoteRecords count (blob.drop 4)

theorem HeldNote.length_bytes (note : HeldNote) : note.bytes.length = lockedNoteRecordBytes := by
  simp [bytes,lockedNoteRecordBytes]

theorem decodeLockedNoteTag_tag (protocol : ShieldedPool) :
    decodeLockedNoteTag (lockedNoteTag protocol) = .ok protocol := by
  cases protocol <;> rfl

theorem decodeLockedNote_bytes (note : HeldNote) : decodeLockedNote note.bytes = .ok note := by
  have value : note.bytes.extract 1 9 = beBytes 8 note.valueZat.val.raw.toNat := by
    simp [HeldNote.bytes]
  have txId : note.bytes.extract 9 41 = note.txId.asBytes := by
    simp [HeldNote.bytes]
  have index : note.bytes.extract 41 45 = beBytes 4 note.outputIndex.toNat := by
    have before : (beBytes 8 note.valueZat.val.raw.toNat).drop 40 = [] :=
      List.drop_eq_nil_of_le (by simp)
    have take := List.take_of_length_le (Nat.le_of_eq (length_beBytes 4 note.outputIndex.toNat))
    simp [HeldNote.bytes,List.drop_append,before,take]
  rw [decodeLockedNote,value,txId,index,ofBeBytes_beBytes note.valueZat.val.raw.toNat_lt,
    ofBeBytes_beBytes note.outputIndex.toNat_lt]
  rw [HeldNote.bytes,List.headD_cons,decodeLockedNoteTag_tag]
  simp only [UInt64.ofNat_toNat,Zatoshis.tryFrom_checked,UInt32.ofNat_toNat,TxId.fromBytes_asBytes]
  rfl

theorem decodeLockedNoteRecords_bytes (notes : List HeldNote) :
    decodeLockedNoteRecords notes.length (notes.flatMap HeldNote.bytes) = .ok notes := by
  induction notes with
  | nil => rfl
  | cons note notes ih =>
    have size := note.length_bytes
    rw [List.flatMap_cons,List.length_cons,decodeLockedNoteRecords,List.take_left' size,
      List.drop_left' size,decodeLockedNote_bytes,ih]
    rfl

theorem length_noteBytes (notes : List HeldNote) :
    (notes.flatMap HeldNote.bytes).length = notes.length * lockedNoteRecordBytes := by
  induction notes with
  | nil => simp
  | cons note notes ih =>
    rw [List.flatMap_cons,List.length_append,ih,note.length_bytes,List.length_cons,Nat.succ_mul,
      Nat.add_comm]

/-- As many notes as the count can tell are read back. -/
theorem decodeLockedNotes_encode (fits : notes.length < 2 ^ 32) :
    decodeLockedNotes (encodeLockedNotes notes) = .ok notes := by
  have counted : min notes.length (2 ^ 32 - 1) = notes.length := Nat.min_eq_left (by omega)
  have size : (beBytes 4 notes.length).length = 4 := length_beBytes 4 _
  have count : ofBeBytes (beBytes 4 notes.length) = notes.length := ofBeBytes_beBytes fits
  have whole : (beBytes 4 notes.length ++ notes.flatMap HeldNote.bytes).length =
      4 + notes.length * lockedNoteRecordBytes := by
    rw [List.length_append,size,length_noteBytes]
  simp only [encodeLockedNotes,counted,decodeLockedNotes,List.take_left' size,
    List.drop_left' size,count,whole]
  rw [if_neg (by omega),if_neg (by simp),decodeLockedNoteRecords_bytes]

end Zally
