import Mathlib.Data.List.Nodup
import Zally.Storage.Error

/-! The text memo of a note that is asked for by transaction and output index alone: the pools
are searched in a fixed order, and the first memo found answers for all of them. -/
namespace Zally

open Outcome

structure NoteId where
  txId : TxId
  protocol : ShieldedPool
  outputIndex : UInt16
  deriving DecidableEq

/-- The text of a text memo, as its bytes. -/
def Memo.asText : Memo → Option (List UInt8)
  | text bytes => some bytes
  | empty | future _ | arbitrary _ => none

/-- A note of the wallet; its memo is missing until the whole transaction has been seen. -/
structure WalletNote where
  noteId : NoteId
  memo : Option Memo

/-- The notes the wallet holds. -/
structure WalletNotes where
  notes : List WalletNote
  distinct : (notes.map (·.noteId)).Nodup

namespace TextMemo

/-- What the note database answers for one note. -/
abbrev GetMemo := NoteId → Except String (Option Memo)

/-- The rounds of the loop over the pools that are left. -/
def readFrom (getMemo : GetMemo) (txId : TxId) (outputIndex : UInt16) :
    List ShieldedPool → Except StorageError (Option (List UInt8))
  | [] => .ok none
  | protocol :: protocols => do
    let memo ← (getMemo ⟨txId, protocol, outputIndex⟩).mapError fun error =>
      .sqliteFailed s!"read_text_memo get_memo failed: {error}" .retryable
    match memo with
    | some memo => pure memo.asText
    | none => readFrom getMemo txId outputIndex protocols

def readTextMemo (getMemo : GetMemo) (txId : TxId) (outputIndex : UInt16) :
    Except StorageError (Option (List UInt8)) :=
  readFrom getMemo txId outputIndex [.sapling, .orchard, .ironwood]

theorem readFrom_eq {getMemo : GetMemo} {memo : NoteId → Option Memo}
    (answers : ∀ noteId, getMemo noteId = .ok (memo noteId)) (txId : TxId) (outputIndex : UInt16)
    (protocols : List ShieldedPool) :
    readFrom getMemo txId outputIndex protocols = .ok ((protocols.findSome? fun protocol =>
      memo ⟨txId, protocol, outputIndex⟩).bind Memo.asText) := by
  induction protocols with
  | nil => rfl
  | cons protocol protocols ih =>
    rw [readFrom,answers,List.findSome?_cons]
    cases memo ⟨txId, protocol, outputIndex⟩ with
    | none => exact ih
    | some found => rfl

theorem mem_protocols (protocol : ShieldedPool) :
    protocol ∈ [ShieldedPool.sapling, .orchard, .ironwood] := by
  cases protocol <;> simp

/-- The first memo in the search order answers, whichever note was meant. -/
theorem readTextMemo_cases {getMemo : GetMemo} {memo : NoteId → Option Memo}
    (answers : ∀ noteId, getMemo noteId = .ok (memo noteId)) (txId : TxId)
    (outputIndex : UInt16) :
    (∃ protocol found, memo ⟨txId, protocol, outputIndex⟩ = some found ∧
      readTextMemo getMemo txId outputIndex = .ok found.asText) ∨
    (∀ protocol, memo ⟨txId, protocol, outputIndex⟩ = none) ∧
      readTextMemo getMemo txId outputIndex = .ok none := by
  have read := readFrom_eq answers txId outputIndex [.sapling, .orchard, .ironwood]
  cases first : [ShieldedPool.sapling, .orchard, .ironwood].findSome? fun protocol =>
      memo ⟨txId, protocol, outputIndex⟩ with
  | some found =>
    obtain ⟨protocol, -, known⟩ := List.exists_of_findSome?_eq_some first
    rw [first] at read
    exact .inl ⟨protocol, found, known, read⟩
  | none =>
    rw [first] at read
    exact .inr ⟨fun protocol => List.findSome?_eq_none_iff.mp first protocol (mem_protocols protocol),
      read⟩

end TextMemo

/-- What a note says, where its memo is text. -/
def WalletNote.text (note : WalletNote) : Option (List UInt8) := note.memo.bind Memo.asText

/-- Two notes that are asked for in the same words. -/
def WalletNote.SharesPlace (one other : WalletNote) : Prop :=
  one.noteId.txId = other.noteId.txId ∧ one.noteId.outputIndex = other.noteId.outputIndex

instance (one other : WalletNote) : Decidable (one.SharesPlace other) :=
  inferInstanceAs (Decidable (_ ∧ _))

namespace WalletNotes

/-- The memo these notes have for one of them. -/
def memo (held : WalletNotes) (noteId : NoteId) : Option Memo :=
  (held.notes.find? fun note => note.noteId = noteId).bind (·.memo)

theorem memo_eq_some (known : memo held noteId = some found) :
    ∃ note ∈ held.notes, note.noteId = noteId ∧ note.memo = some found := by
  obtain ⟨note, first, memo⟩ := Option.bind_eq_some_iff.mp known
  have same := List.find?_some first
  exact ⟨note, List.mem_of_find?_eq_some first, of_decide_eq_true same, memo⟩

theorem memo_of_mem {held : WalletNotes} (member : note ∈ held.notes) :
    held.memo note.noteId = note.memo := by
  rw [memo]
  cases first : held.notes.find? fun other => other.noteId = note.noteId with
  | none =>
    have absent := List.find?_eq_none.mp first note member
    simp at absent
  | some other =>
    have same := List.find?_some first
    rw [List.inj_on_of_nodup_map held.distinct (List.mem_of_find?_eq_some first) member
      (of_decide_eq_true same)]
    rfl

end WalletNotes

namespace TextMemo

/-- A Sapling and an Orchard note of one transaction, both at the given indices. -/
def twoPools (saplingIndex orchardIndex : UInt16) : WalletNotes where
  notes := [⟨⟨7, .sapling, saplingIndex⟩, some (.text [0x61])⟩,
    ⟨⟨7, .orchard, orchardIndex⟩, some (.text [0x62])⟩]
  distinct := by simp

end TextMemo
end Zally
