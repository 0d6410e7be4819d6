import Zally.Outcome
import Zally.Storage.LockedNotes

/-! Decoding a hold's notes as the runtime does it: every slice checked against the blob, and
the entries reserved before the first record is read. The layout is canonical, so what decodes
encodes back to itself. -/
namespace Zally

open Wire Outcome

/-- What decoding a blob did: the entries it reserved, and its outcome where it did not panic. -/
structure BlobDecoding where
  reserved : Nat
  outcome : Option (Except StorageError (List HeldNote))

namespace BlobDecoding

/-- `bytes[first..last]`, which panics out of range. -/
def slice (bytes : List UInt8) (first last : Nat) : Option (List UInt8) :=
  if first ≤ last ∧ last ≤ bytes.length then some (bytes.extract first last) else none

/-- A slice as an array of `width` bytes. -/
def tryInto (width : Nat) (column raw : String) (bytes : List UInt8) :
    Except StorageError (List UInt8) :=
  if bytes.length = width then .ok bytes else .error (.rowValueOutOfRange column raw)

def saturatingMul (left right : Nat) : Nat := min (left * right) (2 ^ 64 - 1)

def decodeRecord (record : List UInt8) : ExceptT StorageError Option HeldNote := do
  let tag ← (record[0]? : Option UInt8)
  let protocol ← decodeLockedNoteTag tag
  let valueSlice ← slice record 1 9
  let valueBytes ← tryInto 8 "ext_zally_holds.locked_notes (value_zat)"
    "could not read value bytes" valueSlice
  let valueU64 := UInt64.ofNat (ofBeBytes valueBytes)
  let valueZat ← ((Zatoshis.tryFrom valueU64).mapError fun _ =>
    .rowValueOutOfRange "ext_zally_holds.locked_notes (value_zat)" (toString valueU64.toNat) :
    Except StorageError CheckedZatoshis)
  let txIdSlice ← slice record 9 41
  let txIdBytes ← tryInto 32 "ext_zally_holds.locked_notes (tx_id)"
    "could not read 32-byte tx_id" txIdSlice
  let outputIndexSlice ← slice record 41 45
  let outputIndexBytes ← tryInto 4 "ext_zally_holds.locked_notes (output_index)"
    "could not read output_index bytes" outputIndexSlice
  pure ⟨protocol, valueZat, .fromBytes txIdBytes, .ofNat (ofBeBytes outputIndexBytes)⟩

/-- The rounds of the loop from the cursor on, behind the notes already pushed. -/
def decodeRecords (blob : List UInt8) :
    (remaining cursor : Nat) → List HeldNote → ExceptT StorageError Option (List HeldNote)
  | 0, _, notes => pure notes
  | remaining + 1, cursor, notes => do
    let record ← slice blob cursor (cursor + lockedNoteRecordBytes)
    let note ← decodeRecord record
    decodeRecords blob remaining (cursor + lockedNoteRecordBytes) (notes ++ [note])

variable {bytes record blob : List UInt8}

theorem slice_of_le (first_le : first ≤ last) (last_le : last ≤ bytes.length) :
    slice bytes first last = some (bytes.extract first last) :=
  if_pos ⟨first_le, last_le⟩

theorem tryInto_of_length (sized : bytes.length = width) :
    tryInto width column raw bytes = .ok bytes :=
  if_pos sized

theorem length_field (sized : record.length = lockedNoteRecordBytes) (first : Nat)
    (last_le : last ≤ lockedNoteRecordBytes) :
    (record.extract first last).length = last - first := by
  rw [List.extract_eq_take_drop,List.length_take,List.length_drop,sized]
  omega

/-- On a whole record no index is out of range. -/
theorem decodeRecord_of_length (sized : record.length = lockedNoteRecordBytes) :
    (decodeRecord record).run = some (decodeLockedNote record) := by
  have tag : record[0]? = some (record.headD 0) := by
    cases record with
    | nil => cases sized
    | cons tag rest => rfl
  have inside (first last : Nat) (first_le : first ≤ last) (last_le : last ≤ 45) :
      slice record first last = some (record.extract first last) :=
    slice_of_le first_le (by rw [sized]; exact last_le)
  refine returns_index tag (returns_bind rfl fun protocol => ?_)
  refine returns_index (inside 1 9 (by decide) (by decide)) ?_
  refine returns_into (tryInto_of_length (length_field sized 1 (by decide))) ?_
  refine returns_bind rfl fun valueZat => ?_
  refine returns_index (inside 9 41 (by decide) (by decide)) ?_
  refine returns_into (tryInto_of_length (length_field sized 9 (by decide))) ?_
  refine returns_index (inside 41 45 (by decide) (by decide)) ?_
  exact returns_into (tryInto_of_length (length_field sized 41 (by decide))) rfl

/-- Within the blob the loop reads what reading the records one by one does. -/
theorem decodeRecords_of_le (inside : cursor + remaining * lockedNoteRecordBytes ≤ blob.length)
    (notes : List HeldNote) : (decodeRecords blob remaining cursor notes).run =
      some (decodeLockedNoteRecords remaining (blob.drop cursor) >>= fun later =>
        pure (notes ++ later)) := by
  induction remaining generalizing cursor notes with
  | zero =>
    change some (Except.ok notes) = some (Except.ok (notes ++ []))
    rw [List.append_nil]
  | succ remaining ih =>
    rw [Nat.succ_mul] at inside
    have room : cursor + lockedNoteRecordBytes ≤ blob.length := by omega
    have record : blob.extract cursor (cursor + lockedNoteRecordBytes) =
        (blob.drop cursor).take lockedNoteRecordBytes := by
      rw [List.extract_eq_take_drop,Nat.add_sub_cancel_left]
    have sized : ((blob.drop cursor).take lockedNoteRecordBytes).length = lockedNoteRecordBytes := by
      rw [List.length_take,List.length_drop]
      omega
    rw [decodeLockedNoteRecords,decodeRecords,bind_assoc,List.drop_drop]
    refine returns_index (slice_of_le (Nat.le_add_right _ _) room) ?_
    rw [record]
    refine returns_bind (decodeRecord_of_length sized) fun note => ?_
    rw [ih (by omega) (notes ++ [note]),bind_assoc]
    congr 2
    funext later
    rw [pure_bind,List.append_assoc,List.singleton_append]

end BlobDecoding

open BlobDecoding

/-- Reverses `encodeLockedNotes`. -/
def decodeLockedNotesRun (blob : List UInt8) : BlobDecoding :=
  if blob.length < 4 then
    ⟨0, some (.error (.rowValueOutOfRange "ext_zally_holds.locked_notes"
      s!"blob length {blob.length} below 4-byte header"))⟩
  else
    match slice blob 0 4 with
    | none => ⟨0, none⟩
    | some headerSlice =>
      match tryInto 4 "ext_zally_holds.locked_notes" "could not read count header" headerSlice with
      | .error error => ⟨0, some (.error error)⟩
      | .ok headerBytes =>
        let count := ofBeBytes headerBytes
        let expectedBytes := saturatingAdd 4 (saturatingMul count lockedNoteRecordBytes)
        if blob.length ≠ expectedBytes then
          ⟨0, some (.error (.rowValueOutOfRange "ext_zally_holds.locked_notes"
            s!"blob length {blob.length} does not match header count {count} (expected {expectedBytes})"))⟩
        else ⟨count, (decodeRecords blob count 4 []).run⟩

namespace BlobDecoding

theorem expectedBytes_eq (counted : count < 2 ^ 32) :
    saturatingAdd 4 (saturatingMul count lockedNoteRecordBytes) =
      4 + count * lockedNoteRecordBytes := by
  simp only [saturatingAdd,saturatingMul,lockedNoteRecordBytes]
  omega

/-- Behind a whole header only the length is checked. -/
theorem run_of_header (header : 4 ≤ blob.length) :
    decodeLockedNotesRun blob =
      if blob.length ≠ 4 + ofBeBytes (blob.take 4) * lockedNoteRecordBytes then
        ⟨0, some (decodeLockedNotes blob)⟩
      else ⟨ofBeBytes (blob.take 4),
        (decodeRecords blob (ofBeBytes (blob.take 4)) 4 []).run⟩ := by
  have headerSlice : slice blob 0 4 = some (blob.take 4) := by
    rw [slice_of_le (Nat.zero_le _) header,List.extract_eq_take_drop,List.drop_zero,Nat.sub_zero]
  have sized : (blob.take 4).length = 4 := by
    rw [List.length_take,Nat.min_eq_left header]
  have counted : ofBeBytes (blob.take 4) < 2 ^ 32 := by
    have bound := ofBeBytes_lt (blob.take 4)
    rw [sized] at bound
    exact bound
  rw [decodeLockedNotesRun,if_neg (Nat.not_lt.mpr header),headerSlice]
  simp only [tryInto_of_length sized,expectedBytes_eq counted]
  split
  · rename_i mismatch
    rw [decodeLockedNotes,if_neg (Nat.not_lt.mpr header)]
    simp only [if_pos mismatch]
  · rfl

end BlobDecoding

/-- Decoding never indexes out of range, and reads what the layout says. -/
theorem decodeLockedNotesRun_outcome (blob : List UInt8) :
    (decodeLockedNotesRun blob).outcome = some (decodeLockedNotes blob) := by
  by_cases header : 4 ≤ blob.length
  · rw [run_of_header header]
    split
    · rfl
    · rename_i matching
      have size := not_not.mp matching
      rw [decodeLockedNotes,if_neg (Nat.not_lt.mpr header)]
      simp only [if_neg matching]
      rw [decodeRecords_of_le (Nat.le_of_eq size.symm)]
      simp
  · rw [decodeLockedNotesRun,decodeLockedNotes,if_pos (Nat.not_le.mp header),
      if_pos (Nat.not_le.mp header)]

/-- Entries are reserved only for records the blob holds. -/
theorem decodeLockedNotesRun_reserved (blob : List UInt8) :
    (decodeLockedNotesRun blob).reserved ≤ (blob.length - 4) / lockedNoteRecordBytes := by
  by_cases header : 4 ≤ blob.length
  · rw [run_of_header header]
    split
    · exact Nat.zero_le _
    · rename_i matching
      have size := not_not.mp matching
      refine (Nat.le_div_iff_mul_le (by decide)).mpr (Nat.le_of_eq ?_)
      rw [size,Nat.add_sub_cancel_left]
  · rw [decodeLockedNotesRun,if_pos (Nat.not_le.mp header)]
    exact Nat.zero_le _

theorem lockedNoteTag_decode (decoded : decodeLockedNoteTag tag = .ok protocol) :
    lockedNoteTag protocol = tag := by
  rw [decodeLockedNoteTag] at decoded
  split at decoded
  · rename_i same
    rw [← Except.ok.inj decoded,same]
  · split at decoded
    · rename_i same
      rw [← Except.ok.inj decoded,same]
    · split at decoded
      · rename_i same
        rw [← Except.ok.inj decoded,same]
      · cases decoded

theorem beBytes_uint64 (sized : bytes.length = 8) :
    beBytes 8 (UInt64.ofNat (ofBeBytes bytes)).toNat = bytes := by
  have bound : ofBeBytes bytes < 2 ^ 64 := by simpa [sized] using ofBeBytes_lt bytes
  rw [UInt64.toNat_ofNat',Nat.mod_eq_of_lt bound,beBytes_ofBeBytes sized]

theorem beBytes_uint32 (sized : bytes.length = 4) :
    beBytes 4 (UInt32.ofNat (ofBeBytes bytes)).toNat = bytes := by
  have bound : ofBeBytes bytes < 2 ^ 32 := by simpa [sized] using ofBeBytes_lt bytes
  rw [UInt32.toNat_ofNat',Nat.mod_eq_of_lt bound,beBytes_ofBeBytes sized]

/-- The fields of a record, one behind the other. -/
theorem record_eq_fields {record : List UInt8} (sized : record.length = lockedNoteRecordBytes) :
    record.headD 0 :: (record.extract 1 9 ++ (record.extract 9 41 ++ record.extract 41 45)) =
      record := by
  cases record with
  | nil => cases sized
  | cons tag fields =>
    have length : fields.length = 44 := Nat.succ.inj sized
    have last : (fields.drop 40).take 4 = fields.drop 40 :=
      List.take_of_length_le (by simp [length])
    have middle := List.take_append_drop 32 (fields.drop 8)
    rw [List.drop_drop] at middle
    simp only [List.headD_cons,List.extract_eq_take_drop,List.drop_succ_cons,List.drop_zero]
    rw [last,middle,List.take_append_drop]

/-- A record that decodes is the record of its note. -/
theorem bytes_decodeLockedNote (sized : record.length = lockedNoteRecordBytes)
    (decoded : decodeLockedNote record = .ok note) : note.bytes = record := by
  obtain ⟨protocol, tagged, decoded⟩ := bind_ok_iff.mp decoded
  obtain ⟨valueZat, checked, decoded⟩ := bind_ok_iff.mp decoded
  have value := Zatoshis.tryFrom_ok_iff.mp (mapError_ok_iff.mp checked)
  rw [← Except.ok.inj decoded,HeldNote.bytes]
  dsimp only
  rw [lockedNoteTag_decode tagged,value,beBytes_uint64 (length_field sized 1 (by decide)),
    TxId.asBytes_fromBytes (length_field sized 9 (by decide)),beBytes_uint32 (length_field sized 41 (by decide)),
    record_eq_fields sized]

theorem bytes_decodeLockedNoteRecords
    (sized : records.length = count * lockedNoteRecordBytes)
    (decoded : decodeLockedNoteRecords count records = .ok notes) :
    notes.length = count ∧ notes.flatMap HeldNote.bytes = records := by
  induction count generalizing records notes with
  | zero =>
    rw [Nat.zero_mul] at sized
    obtain rfl := List.length_eq_zero_iff.mp sized
    obtain rfl := Except.ok.inj decoded
    exact ⟨rfl, rfl⟩
  | succ count ih =>
    obtain ⟨note, first, decoded⟩ := bind_ok_iff.mp decoded
    obtain ⟨later, rest, returned⟩ := bind_ok_iff.mp decoded
    obtain rfl := Except.ok.inj returned
    rw [Nat.succ_mul] at sized
    have firstSized : (records.take lockedNoteRecordBytes).length = lockedNoteRecordBytes := by
      rw [List.length_take]
      omega
    have restSized : (records.drop lockedNoteRecordBytes).length = count * lockedNoteRecordBytes := by
      rw [List.length_drop]
      omega
    obtain ⟨counted, encoded⟩ := ih restSized rest
    rw [List.length_cons,counted,List.flatMap_cons,encoded,bytes_decodeLockedNote firstSized first,
      List.take_append_drop]
    exact ⟨rfl, rfl⟩

/-- What decodes encodes back to the same bytes. -/
theorem encodeLockedNotes_decode (decoded : decodeLockedNotes blob = .ok notes) :
    encodeLockedNotes notes = blob := by
  rw [decodeLockedNotes] at decoded
  split at decoded
  · cases decoded
  · rename_i header
    dsimp only at decoded
    split at decoded
    · cases decoded
    · rename_i matching
      have size := not_not.mp matching
      have sized : (blob.drop 4).length = ofBeBytes (blob.take 4) * lockedNoteRecordBytes := by
        rw [List.length_drop]
        omega
      have headerSized : (blob.take 4).length = 4 := by
        rw [List.length_take]
        omega
      have bound := ofBeBytes_lt (blob.take 4)
      rw [headerSized] at bound
      obtain ⟨counted, encoded⟩ := bytes_decodeLockedNoteRecords sized decoded
      have least : min (ofBeBytes (blob.take 4)) (2 ^ 32 - 1) = ofBeBytes (blob.take 4) := by omega
      rw [encodeLockedNotes,counted,least,encoded,beBytes_ofBeBytes headerSized,
        List.take_append_drop]

/-- The layout has one form for each list of notes the count can tell, and decoding any bytes
stays within them. -/
theorem lockedNotesBlob_canonical :
    (∀ notes : List HeldNote, notes.length ≤ 2 ^ 32 - 1 →
      (decodeLockedNotesRun (encodeLockedNotes notes)).outcome = some (.ok notes)) ∧
    ∀ blob : List UInt8,
      (decodeLockedNotesRun blob).outcome.isSome ∧
      (decodeLockedNotesRun blob).reserved ≤ (blob.length - 4) / lockedNoteRecordBytes ∧
      ∀ notes, (decodeLockedNotesRun blob).outcome = some (.ok notes) →
        encodeLockedNotes notes = blob := by
  constructor
  · intro notes fits
    rw [decodeLockedNotesRun_outcome,decodeLockedNotes_encode (by omega)]
  · intro blob
    refine ⟨?_, decodeLockedNotesRun_reserved blob, fun notes decoded => ?_⟩
    · rw [decodeLockedNotesRun_outcome]
      rfl
    · rw [decodeLockedNotesRun_outcome] at decoded
      exact encodeLockedNotes_decode (Option.some.inj decoded)

theorem lockedNotesBlob_canonical_one :
    let note : HeldNote := ⟨.orchard, ⟨⟨7⟩, by decide⟩, 5, 1⟩
    let blob : List UInt8 :=
      [0,0,0,1, 1, 0,0,0,0,0,0,0,7, 5] ++ List.replicate 31 0 ++ [0,0,0,1]
    (decodeLockedNotesRun blob).outcome = some (.ok [note]) ∧ encodeLockedNotes [note] = blob := by
  intro note blob
  have encoded : encodeLockedNotes [note] = blob := by decide
  have decoded := lockedNotesBlob_canonical.1 [note] (by decide)
  rw [encoded] at decoded
  exact ⟨decoded, (lockedNotesBlob_canonical.2 blob).2.2 [note] decoded⟩

end Zally
