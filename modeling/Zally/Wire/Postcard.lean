import Mathlib.Data.String.Basic
import Zally.Wire.Text

/-! The postcard encoding: integers of seven bits a byte, optional values, texts, sequences and
maps behind their lengths. A reader takes a value from the front of the bytes it is given. -/
namespace Wire

/-- The entries of a map in the order of their keys. -/
structure OrderedMap (κ ν : Type) [LinearOrder κ] where
  entries : List (κ × ν)
  ordered : entries.Pairwise fun first second => first.1 < second.1

namespace OrderedMap

variable {κ ν : Type} [LinearOrder κ]

def empty : OrderedMap κ ν := ⟨[], List.Pairwise.nil⟩

/-- The entry in its place, instead of one with its key. -/
def insertEntry (key : κ) (value : ν) : List (κ × ν) → List (κ × ν)
  | [] => [(key, value)]
  | entry :: entries =>
    if key < entry.1 then (key, value) :: entry :: entries
    else if key = entry.1 then (key, value) :: entries
    else entry :: insertEntry key value entries

theorem mem_insertEntry {entries : List (κ × ν)} (member : other ∈ insertEntry key value entries) :
    other = (key, value) ∨ other ∈ entries := by
  induction entries with
  | nil => exact .inl (List.mem_singleton.mp member)
  | cons entry entries ih =>
    unfold insertEntry at member
    split at member
    · exact List.mem_cons.mp member
    · split at member
      · exact (List.mem_cons.mp member).imp_right (List.mem_cons_of_mem _)
      · rcases List.mem_cons.mp member with rfl | later
        · exact .inr List.mem_cons_self
        · exact (ih later).imp_right (List.mem_cons_of_mem _)

theorem ordered_insertEntry {entries : List (κ × ν)}
    (ordered : entries.Pairwise fun first second => first.1 < second.1) (key : κ) (value : ν) :
    (insertEntry key value entries).Pairwise fun first second => first.1 < second.1 := by
  induction entries with
  | nil => exact List.pairwise_singleton _ _
  | cons entry entries ih =>
    obtain ⟨least, rest⟩ := List.pairwise_cons.mp ordered
    unfold insertEntry
    split
    · rename_i before
      refine List.pairwise_cons.mpr ⟨fun other member => ?_, ordered⟩
      rcases List.mem_cons.mp member with rfl | later
      · exact before
      · exact before.trans (least other later)
    · rename_i notBefore
      split
      · rename_i same
        exact List.pairwise_cons.mpr ⟨fun other member => same ▸ least other member, rest⟩
      · rename_i differs
        refine List.pairwise_cons.mpr ⟨fun other member => ?_, ih rest⟩
        rcases mem_insertEntry member with rfl | later
        · exact lt_of_le_of_ne (not_lt.mp notBefore) (Ne.symm differs)
        · exact least other later

def insert (map : OrderedMap κ ν) (key : κ) (value : ν) : OrderedMap κ ν :=
  ⟨insertEntry key value map.entries, ordered_insertEntry map.ordered key value⟩

/-- The entries one after the other, the later of two with one key instead of the earlier. -/
def ofList (entries : List (κ × ν)) : OrderedMap κ ν :=
  entries.foldl (fun map entry => map.insert entry.1 entry.2) empty

theorem insertEntry_of_last {entries : List (κ × ν)} (last : ∀ entry ∈ entries, entry.1 < key) :
    insertEntry key value entries = entries ++ [(key, value)] := by
  induction entries with
  | nil => rfl
  | cons entry entries ih =>
    obtain ⟨before, rest⟩ := List.forall_mem_cons.mp last
    rw [insertEntry,if_neg (lt_asymm before),if_neg (ne_of_gt before),ih rest]
    rfl

/-- A map is what its entries make. -/
theorem ofList_entries (map : OrderedMap κ ν) : ofList map.entries = map := by
  have grows (later : List (κ × ν)) (start : OrderedMap κ ν)
      (ordered : (start.entries ++ later).Pairwise fun first second => first.1 < second.1) :
      (later.foldl (fun map entry => map.insert entry.1 entry.2) start).entries =
        start.entries ++ later := by
    induction later generalizing start with
    | nil => exact (List.append_nil _).symm
    | cons entry later ih =>
      have last : ∀ other ∈ start.entries, other.1 < entry.1 := fun other member =>
        (List.pairwise_append.mp ordered).2.2 other member entry List.mem_cons_self
      have placed : (start.insert entry.1 entry.2).entries = start.entries ++ [entry] :=
        insertEntry_of_last last
      have rest := ih (start.insert entry.1 entry.2) (by
        rw [placed,List.append_assoc]
        exact ordered)
      rw [placed,List.append_assoc] at rest
      exact rest
  have whole := grows map.entries empty map.ordered
  cases map
  unfold ofList
  generalize List.foldl _ _ _ = built at whole
  cases built
  cases whole
  rfl

end OrderedMap

namespace Postcard

inductive PostcardError where
  | unexpectedEnd
  | badVarint
  | badOption
  | badUtf8
  deriving DecidableEq, Repr

abbrev Reader (α : Type) := StateT (List UInt8) (Except PostcardError) α

/-- `bytes` are read as `value`, whatever follows them. -/
def Reads (reader : Reader α) (bytes : List UInt8) (value : α) : Prop :=
  ∀ tail, reader.run (bytes ++ tail) = .ok (value, tail)

theorem Reads.pure (value : α) : Reads (Pure.pure value) [] value := fun _ => rfl

theorem Reads.bind {reader : Reader α} {next : α → Reader β} (first : Reads reader bytes value)
    (second : Reads (next value) more result) : Reads (reader >>= next) (bytes ++ more) result := by
  intro tail
  rw [StateT.run_bind,List.append_assoc,first]
  exact second tail

/-- A reader that is followed by one that takes nothing. -/
theorem Reads.ends {reader : Reader α} {next : α → Reader β} (first : Reads reader bytes value)
    (second : Reads (next value) [] result) : Reads (reader >>= next) bytes result := by
  have whole := first.bind second
  rwa [List.append_nil] at whole

theorem Reads.map {reader : Reader α} (first : Reads reader bytes value) (f : α → β) :
    Reads (f <$> reader) bytes (f value) := by
  intro tail
  rw [StateT.run_map,first]
  rfl

def pop : Reader UInt8
  | [] => .error .unexpectedEnd
  | byte :: rest => .ok (byte, rest)

def takeBytes (count : Nat) : Reader (List UInt8) := fun bytes =>
  if count ≤ bytes.length then .ok (bytes.take count, bytes.drop count) else .error .unexpectedEnd

theorem reads_pop (byte : UInt8) : Reads pop [byte] byte := fun _ => rfl

theorem reads_takeBytes (bytes : List UInt8) : Reads (takeBytes bytes.length) bytes bytes := by
  intro tail
  have enough : bytes.length ≤ (bytes ++ tail).length := by
    rw [List.length_append]
    exact Nat.le_add_right _ _
  exact (if_pos enough).trans (by rw [List.take_left,List.drop_left])

section Varint

/-- The most bytes an integer of `bits` bits takes. -/
def varintMax (bits : Nat) : Nat := (bits + 6) / 7

/-- What fits in the last of them. -/
def maxOfLastByte (bits : Nat) : Nat := 2 ^ (bits % 7) - 1

/-- The low seven bits first, each byte but the last marked. -/
def varintBytes : (left number : Nat) → List UInt8
  | 0, _ => []
  | left + 1, number =>
    if number < 128 then [.ofNat number]
    else .ofNat (number % 128 + 128) :: varintBytes left (number / 128)

def writeVarint (bits number : Nat) : List UInt8 := varintBytes (varintMax bits) number

/-- The rounds from the `index`th byte on, with `left` bytes to go. -/
def varintFrom (bits : Nat) : (left index out : Nat) → Reader Nat
  | 0, _, _ => throw .badVarint
  | left + 1, index, out => do
    let val ← pop
    let carried := out + val.toNat % 128 * 2 ^ (7 * index)
    if val.toNat < 128 then
      if index = varintMax bits - 1 ∧ val.toNat > maxOfLastByte bits then throw .badVarint
      else return carried
    else varintFrom bits left (index + 1) carried

def readVarint (bits : Nat) : Reader Nat := varintFrom bits (varintMax bits) 0 0

/-- A byte that is not marked ends the integer. -/
theorem reads_last (small : number < 128)
    (fits : index = varintMax bits - 1 → number ≤ maxOfLastByte bits) :
    Reads (varintFrom bits (left + 1) index out) [.ofNat number]
      (out + number * 2 ^ (7 * index)) := by
  have byte : (UInt8.ofNat number).toNat = number := by
    rw [UInt8.toNat_ofNat']
    exact Nat.mod_eq_of_lt (by omega)
  have within : ¬(index = varintMax bits - 1 ∧ number > maxOfLastByte bits) := fun late =>
    Nat.not_lt.mpr (fits late.1) late.2
  rw [varintFrom]
  refine (reads_pop _).ends ?_
  rw [byte,Nat.mod_eq_of_lt small,if_pos small,if_neg within]
  exact .pure _

/-- A marked byte is followed by the rest of the integer. -/
theorem reads_marked (rest : Reads (varintFrom bits left (index + 1) (out + number % 128 * 2 ^ (7 * index))) bytes
      (out + number % 128 * 2 ^ (7 * index) + number / 128 * 2 ^ (7 * (index + 1)))) :
    Reads (varintFrom bits (left + 1) index out) (.ofNat (number % 128 + 128) :: bytes)
      (out + number * 2 ^ (7 * index)) := by
  have byte : (UInt8.ofNat (number % 128 + 128)).toNat = number % 128 + 128 := by
    rw [UInt8.toNat_ofNat']
    exact Nat.mod_eq_of_lt (by omega)
  have total : out + number * 2 ^ (7 * index) =
      out + number % 128 * 2 ^ (7 * index) + number / 128 * 2 ^ (7 * (index + 1)) := by
    rw [Nat.mul_add,Nat.pow_add,Nat.add_assoc,Nat.mul_comm (2 ^ (7 * index)),← Nat.mul_assoc,
      ← Nat.add_mul]
    congr 2
    omega
  rw [total,varintFrom]
  refine (reads_pop _).bind ?_
  rw [byte,if_neg (by omega),Nat.add_mod_right,Nat.mod_mod]
  exact rest

theorem le_maxOfLastByte (ragged : 0 < bits % 7) (fits : number < 2 ^ (bits - 7 * index))
    (late : index = varintMax bits - 1) : number ≤ maxOfLastByte bits := by
  have spare : bits - 7 * index = bits % 7 := by
    unfold varintMax at late
    omega
  rw [spare] at fits
  exact Nat.le_sub_one_of_lt fits

theorem reads_varintFrom (ragged : 0 < bits % 7) (rounds : left + 1 + index = varintMax bits)
    (fits : number < 2 ^ (bits - 7 * index)) :
    Reads (varintFrom bits (left + 1) index out) (varintBytes (left + 1) number)
      (out + number * 2 ^ (7 * index)) := by
  induction left generalizing index number out with
  | zero =>
    have few : maxOfLastByte bits < 2 ^ 7 :=
      Nat.lt_of_le_of_lt (Nat.sub_le _ _) (Nat.pow_lt_pow_right (by omega) (Nat.mod_lt _ (by omega)))
    have bound := le_maxOfLastByte ragged fits (by omega)
    rw [varintBytes,if_pos (by omega)]
    exact reads_last (by omega) fun _ => bound
  | succ left ih =>
    rw [varintBytes]
    by_cases small : number < 128
    · rw [if_pos small]
      exact reads_last small (le_maxOfLastByte ragged fits)
    · rw [if_neg small]
      refine reads_marked (ih (by omega) ?_)
      have wider : bits - 7 * index = 7 + (bits - 7 * (index + 1)) := by
        unfold varintMax at rounds
        omega
      rw [wider,Nat.pow_add] at fits
      exact Nat.div_lt_of_lt_mul fits

/-- An integer that fits its width reads back. -/
theorem reads_varint (ragged : 0 < bits % 7) (fits : number < 2 ^ bits) :
    Reads (readVarint bits) (writeVarint bits number) number := by
  obtain ⟨left, rounds⟩ : ∃ left, left + 1 = varintMax bits :=
    Nat.exists_add_one_eq.mpr (by unfold varintMax; omega)
  have whole : Reads (varintFrom bits (left + 1) 0 0) (varintBytes (left + 1) number)
      (0 + number * 2 ^ (7 * 0)) := reads_varintFrom ragged rounds (by simpa using fits)
  rw [rounds,Nat.zero_add,Nat.mul_zero,Nat.pow_zero,Nat.mul_one] at whole
  exact whole

end Varint

def writeU32 (number : UInt32) : List UInt8 := writeVarint 32 number.toNat

def readU32 : Reader UInt32 := UInt32.ofNat <$> readVarint 32

theorem reads_u32 (number : UInt32) : Reads readU32 (writeU32 number) number := by
  have read := (reads_varint (by decide) number.toNat_lt).map UInt32.ofNat
  rwa [UInt32.ofNat_toNat] at read

example : writeU32 300 = [0xAC, 0x02] := by decide

/-- A length in 64 bits. -/
def writeLength (length : Nat) : List UInt8 := writeVarint 64 length

def readLength : Reader Nat := readVarint 64

theorem reads_length (fits : length < 2 ^ 64) : Reads readLength (writeLength length) length :=
  reads_varint (by decide) fits

def writeOption (write : α → List UInt8) : Option α → List UInt8
  | none => [0]
  | some value => 1 :: write value

def readOption (read : Reader α) : Reader (Option α) := do
  let tag ← pop
  if tag = 0 then return none
  else if tag = 1 then some <$> read
  else throw .badOption

theorem reads_option {read : Reader α} {write : α → List UInt8} (value : Option α)
    (reads : ∀ inner ∈ value, Reads read (write inner) inner) :
    Reads (readOption read) (writeOption write value) value := by
  cases value with
  | none => exact fun tail => rfl
  | some inner =>
    have tagged : Reads (readOption read) ([1] ++ write inner) (some inner) :=
      (reads_pop 1).bind ((reads inner rfl).map some)
    exact tagged

section Text

def writeText (text : String) : List UInt8 := writeLength (utf8 text).length ++ utf8 text

def readText : Reader String := do
  let length ← readLength
  let bytes ← takeBytes length
  match ofUtf8 bytes with
  | some text => return text
  | none => throw .badUtf8

theorem reads_text (fits : (utf8 text).length < 2 ^ 64) : Reads readText (writeText text) text := by
  refine (reads_length fits).bind ((reads_takeBytes (utf8 text)).ends ?_)
  rw [ofUtf8_eq_some_iff.mpr rfl]
  exact .pure _

end Text

section Sequence

variable {read : Reader α} {write : α → List UInt8}

def readItems (read : Reader α) : Nat → Reader (List α)
  | 0 => return []
  | count + 1 => do
    let first ← read
    let rest ← readItems read count
    return first :: rest

theorem reads_items {items : List α} (reads : ∀ item ∈ items, Reads read (write item) item) :
    Reads (readItems read items.length) (items.flatMap write) items := by
  induction items with
  | nil => exact .pure _
  | cons item items ih =>
    obtain ⟨first, rest⟩ := List.forall_mem_cons.mp reads
    exact first.bind ((ih rest).ends (.pure _))

def writeSequence (write : α → List UInt8) (items : List α) : List UInt8 :=
  writeLength items.length ++ items.flatMap write

def readSequence (read : Reader α) : Reader (List α) := do
  let count ← readLength
  readItems read count

theorem reads_sequence {items : List α} (fits : items.length < 2 ^ 64)
    (reads : ∀ item ∈ items, Reads read (write item) item) :
    Reads (readSequence read) (writeSequence write items) items :=
  (reads_length fits).bind (reads_items reads)

end Sequence

section Map

variable {κ ν : Type} [LinearOrder κ]

def readEntry (readKey : Reader κ) (readValue : Reader ν) : Reader (κ × ν) := do
  let key ← readKey
  let value ← readValue
  return (key, value)

/-- A map is the sequence of its entries, in the order of their keys. -/
def writeMap (writeKey : κ → List UInt8) (writeValue : ν → List UInt8) (map : OrderedMap κ ν) :
    List UInt8 :=
  writeSequence (fun entry => writeKey entry.1 ++ writeValue entry.2) map.entries

def readMap (readKey : Reader κ) (readValue : Reader ν) : Reader (OrderedMap κ ν) :=
  OrderedMap.ofList <$> readSequence (readEntry readKey readValue)

theorem reads_map {readKey : Reader κ} {readValue : Reader ν} {writeKey : κ → List UInt8}
    {writeValue : ν → List UInt8} {map : OrderedMap κ ν} (fits : map.entries.length < 2 ^ 64)
    (keys : ∀ entry ∈ map.entries, Reads readKey (writeKey entry.1) entry.1)
    (values : ∀ entry ∈ map.entries, Reads readValue (writeValue entry.2) entry.2) :
    Reads (readMap readKey readValue) (writeMap writeKey writeValue map) map := by
  have entries : Reads (readSequence (readEntry readKey readValue))
      (writeMap writeKey writeValue map) map.entries :=
    reads_sequence fits fun entry member =>
      (keys entry member).bind ((values entry member).ends (.pure _))
  have read := entries.map OrderedMap.ofList
  rwa [map.ofList_entries] at read

end Map

end Postcard
end Wire
