import Mathlib.Data.List.Nodup
import Zally.Outcome
import Zally.Wire.Text

/-! What a deserializer hands to the visitor of a type, and the visitors that derived readers
bring along. Nothing here looks at a format: a value is read from the calls alone. -/
namespace Wire

/-- One call of a deserializer on a visitor. Integers of 128 bits and enumerations are left
out, which no visitor here accepts; a deserializer that fails by itself makes no call. -/
inductive Visit where
  | bool (value : Bool)
  | unsigned (value : UInt64)
  | signed (value : Int64)
  | float (bits : UInt64)
  | char (value : Char)
  | string (text : String)
  | bytes (raw : List UInt8)
  | absent
  | present (content : Visit)
  | unit
  | newtypeStruct (content : Visit)
  | seq (items : List Visit)
  | map (entries : List (Visit × Visit))

inductive SerdeError where
  | invalidType
  | invalidValue
  | invalidLength (len : Nat)
  | unknownVariant
  | missingField (field : String)
  | duplicateField (field : String)
  deriving DecidableEq

namespace Visit

open Outcome

/-- An unsigned number below `bound`. -/
def asUnsigned (bound : Nat) : Visit → Except SerdeError Nat
  | unsigned value => if value.toNat < bound then .ok value.toNat else .error .invalidValue
  | signed value =>
    if 0 ≤ value.toInt ∧ value.toInt < bound then .ok value.toInt.toNat else .error .invalidValue
  | _ => .error .invalidType

def asU8 (visit : Visit) : Except SerdeError UInt8 := (visit.asUnsigned (2 ^ 8)).map .ofNat

def asU32 (visit : Visit) : Except SerdeError UInt32 := (visit.asUnsigned (2 ^ 32)).map .ofNat

def asU64 (visit : Visit) : Except SerdeError UInt64 := (visit.asUnsigned (2 ^ 64)).map .ofNat

def asString : Visit → Except SerdeError String
  | string text => .ok text
  | char value => .ok (.singleton value)
  | bytes raw => (ofUtf8 raw).elim (.error .invalidValue) .ok
  | _ => .error .invalidType

/-- A struct that wraps one value. -/
def asNewtype (read : Visit → Except SerdeError α) : Visit → Except SerdeError α
  | newtypeStruct content => read content
  | seq (first :: _) => read first
  | seq [] => .error (.invalidLength 0)
  | _ => .error .invalidType

/-- The first `length` items of a sequence. -/
def asArray (read : Visit → Except SerdeError α) (length : Nat) :
    Visit → Except SerdeError (Vector α length)
  | seq items => do
    let values ← (items.take length).mapM read
    if sized : values.toArray.size = length then pure ⟨values.toArray, sized⟩
    else throw (.invalidLength values.length)
  | _ => .error .invalidType

/-- An identifier, by its place or its name; what it names may be unknown. -/
def asIdentifier (names : List String) : Visit → Except SerdeError (Option Nat)
  | unsigned value => .ok (if value.toNat < names.length then some value.toNat else none)
  | string text => .ok (names.findIdx? (· = text))
  | char value => .ok (names.findIdx? (· = .singleton value))
  | bytes raw => .ok (names.findIdx? (utf8 · = raw))
  | _ => .error .invalidType

/-- The known fields of a map, none of them twice. -/
def collect (fields : List String) : List (Nat × Visit) → List (Visit × Visit) →
    Except SerdeError (List (Nat × Visit))
  | found, [] => .ok found
  | found, (key, value) :: entries => do
    match ← key.asIdentifier fields with
    | none => collect fields found entries
    | some index =>
      if index ∈ found.map Prod.fst then .error (.duplicateField (fields.getD index ""))
      else collect fields (found ++ [(index, value)]) entries

/-- The fields of a struct: in their order in a sequence, by their names in a map. -/
def asStruct (fields : List String) : Visit → Except SerdeError (Nat → Except SerdeError Visit)
  | seq items => .ok fun index => items[index]?.elim (.error (.invalidLength index)) .ok
  | map entries => do
    let found ← collect fields [] entries
    pure fun index =>
      (found.lookup index).elim (.error (.missingField (fields.getD index ""))) .ok
  | _ => .error .invalidType

def isTag (name : String) : Visit → Bool
  | string text => text = name
  | bytes raw => raw = utf8 name
  | _ => false

/-- The tag among the entries of a map, and the entries without it. -/
def splitTag (name : String) : Option Visit → List (Visit × Visit) → List (Visit × Visit) →
    Except SerdeError (Visit × Visit)
  | none, _, [] => .error (.missingField name)
  | some tag, others, [] => .ok (tag, map others)
  | tag, others, (key, value) :: entries =>
    if key.isTag name then
      if tag.isSome then .error (.duplicateField name) else splitTag name (some value) others entries
    else splitTag name tag (others ++ [(key, value)]) entries

/-- An enumeration whose tag lies among the fields: the tag, and the rest that is buffered. -/
def asTagged (name : String) : Visit → Except SerdeError (Visit × Visit)
  | seq (tag :: items) => .ok (tag, seq items)
  | seq [] => .error (.missingField name)
  | map entries => splitTag name none [] entries
  | _ => .error .invalidType

/-- A buffered sequence is read to its end. -/
def endsWithin (length : Nat) : Visit → Except SerdeError Unit
  | seq items => if items.length ≤ length then .ok () else .error (.invalidLength items.length)
  | _ => .ok ()

/-- An optional value that was buffered. -/
def asBufferedOption (read : Visit → Except SerdeError α) : Visit → Except SerdeError (Option α)
  | absent | unit => .ok none
  | present content => (read content).map some
  | content => (read content).map some

/-- An optional field; in a map it may be missing. -/
def optionalField (found : Nat → Except SerdeError Visit) (index : Nat)
    (read : Visit → Except SerdeError α) : Except SerdeError (Option α) :=
  match found index with
  | .ok content => content.asBufferedOption read
  | .error (.missingField _) => .ok none
  | .error error => .error error

theorem asUnsigned_unsigned (fits : value.toNat < bound) :
    (unsigned value).asUnsigned bound = .ok value.toNat := if_pos fits

@[simp] theorem asU64_unsigned (value : UInt64) : (unsigned value).asU64 = .ok value := by
  rw [asU64,asUnsigned_unsigned value.toNat_lt]
  exact congrArg Except.ok UInt64.ofNat_toNat

@[simp] theorem asU32_unsigned (value : UInt32) : (unsigned value.toUInt64).asU32 = .ok value := by
  rw [asU32,asUnsigned_unsigned (by simpa using value.toNat_lt),UInt32.toNat_toUInt64]
  exact congrArg Except.ok UInt32.ofNat_toNat

@[simp] theorem asU8_unsigned (value : UInt8) : (unsigned value.toUInt64).asU8 = .ok value := by
  rw [asU8,asUnsigned_unsigned (by simpa using value.toNat_lt),UInt8.toNat_toUInt64]
  exact congrArg Except.ok UInt8.ofNat_toNat

/-- An array is read back from its items in order. -/
theorem asArray_seq {values : Vector α length} {write : α → Visit}
    {read : Visit → Except SerdeError α} (reads : ∀ value, read (write value) = .ok value) :
    (seq (values.toList.map write)).asArray read length = .ok values := by
  have whole : (values.toList.map write).take length = values.toList.map write :=
    List.take_of_length_le (by simp)
  have each : (values.toList.map write).mapM read = .ok values.toList := by
    rw [mapM_ok_iff,List.forall₂_map_left_iff]
    exact List.forall₂_same.mpr fun value _ => reads value
  have sized : values.toList.toArray.size = length := by simp
  rw [asArray,whole,each]
  change (if sized : values.toList.toArray.size = length then _ else _) = _
  rw [dif_pos sized]
  exact congrArg Except.ok (Vector.toArray_inj.mp (Array.toArray_toList ..))

theorem splitTag_untagged {name : String} {tag : Visit} {others entries : List (Visit × Visit)}
    (untagged : ∀ entry ∈ entries, entry.1.isTag name = false) :
    splitTag name (some tag) others entries = .ok (tag, map (others ++ entries)) := by
  induction entries generalizing others with
  | nil => rw [splitTag,List.append_nil]
  | cons entry entries ih =>
    obtain ⟨first, rest⟩ := List.forall_mem_cons.mp untagged
    rw [splitTag,first,ih rest,← List.append_cons]
    rfl

/-- A tag that is written first is found, and all fields are left. -/
theorem asTagged_first {name : String} {tag : Visit} {entries : List (Visit × Visit)}
    (untagged : ∀ entry ∈ entries, entry.1.isTag name = false) :
    (map ((string name, tag) :: entries)).asTagged name = .ok (tag, map entries) := by
  have found : (string name).isTag name = true := decide_eq_true rfl
  rw [asTagged,splitTag,found]
  exact splitTag_untagged untagged

theorem lookup_range {values : List Visit} (index : Nat) :
    ((List.range' start values.length).zip values).lookup (start + index) = values[index]? := by
  induction values generalizing start index with
  | nil => rfl
  | cons value values ih =>
    rw [List.length_cons,List.range'_succ,List.zip_cons_cons,List.lookup_cons]
    cases index with
    | zero => simp
    | succ index =>
      have apart : (start + (index + 1) == start) = false := by simp
      rw [apart,← Nat.add_assoc,Nat.add_right_comm]
      exact ih index

/-- Entries with the names of the fields, in their order, are each collected at its place. -/
theorem collect_zip {fields past names : List String} {values : List Visit}
    (split : fields = past ++ names) (nodup : fields.Nodup) (sized : values.length = names.length)
    {found : List (Nat × Visit)} (before : ∀ entry ∈ found, entry.1 < past.length) :
    collect fields found ((names.map string).zip values) =
      .ok (found ++ (List.range' past.length values.length).zip values) := by
  induction names generalizing past values found with
  | nil =>
    cases List.length_eq_zero_iff.mp sized
    simp [collect]
  | cons name names ih =>
    obtain ⟨value, values, rfl⟩ := List.exists_cons_of_length_eq_add_one sized
    have fresh : name ∉ past := by
      rw [split] at nodup
      exact fun earlier => List.disjoint_of_nodup_append nodup earlier List.mem_cons_self
    have place : fields.findIdx? (· = name) = some past.length := by
      have absent : past.findIdx? (· = name) = none := by
        rw [List.findIdx?_eq_none_iff]
        intro other member
        exact decide_eq_false fun same => fresh (same ▸ member)
      rw [split,List.findIdx?_append,absent]
      simp [List.findIdx?_cons]
    have unread : past.length ∉ found.map Prod.fst := by
      intro read
      obtain ⟨entry, member, same⟩ := List.mem_map.mp read
      exact Nat.lt_irrefl _ (same ▸ before entry member)
    have named : (string name).asIdentifier fields = .ok (some past.length) :=
      congrArg Except.ok place
    have further : ∀ entry ∈ found ++ [(past.length, value)], entry.1 < (past ++ [name]).length := by
      intro entry member
      rw [List.length_append]
      rcases List.mem_append.mp member with earlier | last
      · exact Nat.lt_succ_of_lt (before entry earlier)
      · rw [List.mem_singleton.mp last]
        exact Nat.lt_succ_self _
    have rest := ih (split.trans (List.append_cons ..)) (Nat.succ.inj sized) further
    rw [List.map_cons,List.zip_cons_cons,collect,named]
    change (if past.length ∈ found.map Prod.fst then _ else _) = _
    rw [if_neg unread,rest,List.length_append,List.length_singleton,List.length_cons,
      List.range'_succ,List.zip_cons_cons,← List.append_cons]

/-- A struct that is written with its fields' names is read back field by field. -/
theorem asStruct_zip {fields : List String} {values : List Visit} (nodup : fields.Nodup)
    (sized : values.length = fields.length) :
    ∃ found, (map ((fields.map string).zip values)).asStruct fields = .ok found ∧
      ∀ index value, values[index]? = some value → found index = .ok value := by
  have collected := @collect_zip fields [] fields values rfl nodup sized []
    (fun _ member => absurd member List.not_mem_nil)
  have placed (index : Nat) :
      ((List.range' 0 values.length).zip values).lookup index = values[index]? := by
    have looked := @lookup_range 0 values index
    rwa [Nat.zero_add] at looked
  have read : (map ((fields.map string).zip values)).asStruct fields = .ok fun index =>
      (((List.range' 0 values.length).zip values).lookup index).elim
        (.error (.missingField (fields.getD index ""))) .ok := bind_ok collected rfl
  exact ⟨_, read, fun index value given => by rw [placed index,given]; rfl⟩

end Visit
end Wire
