import Zally.Cover
import Zally.Storage.HoldLedger
import Zally.Wallet.Reserve

/-! The notes a new hold locks: the most valuable of the spendable ones, as few as cover the
reserved amount. -/
namespace Zally

open Cover

def UnspentShieldedNoteRow.value (note : UnspentShieldedNoteRow) : Nat :=
  note.valueZat.val.raw.toNat

def UnspentShieldedNoteRow.held (note : UnspentShieldedNoteRow) : HeldNote :=
  ⟨note.protocol, note.valueZat, note.txId, note.outputIndex⟩

def HeldNote.value (note : HeldNote) : Nat := note.valueZat.val.raw.toNat

theorem total_held (notes : List UnspentShieldedNoteRow) :
    total HeldNote.value (notes.map UnspentShieldedNoteRow.held) =
      total UnspentShieldedNoteRow.value notes := by
  rw [total,List.map_map]
  rfl

/-- A saturated sum is the exact one, cut off. -/
theorem saturatingAdd_min (exact value : Nat) :
    saturatingAdd (min exact (2 ^ 64 - 1)) value = min (exact + value) (2 ^ 64 - 1) := by
  simp only [saturatingAdd]
  omega

theorem foldl_saturatingAdd (notes : List UnspentShieldedNoteRow) (exact : Nat) :
    notes.foldl (fun total note => saturatingAdd total note.valueZat.val.raw.toNat)
        (min exact (2 ^ 64 - 1)) =
      min (exact + total UnspentShieldedNoteRow.value notes) (2 ^ 64 - 1) := by
  induction notes generalizing exact with
  | nil => rfl
  | cons note notes ih =>
    rw [List.foldl_cons,saturatingAdd_min,ih,total_cons,Nat.add_assoc]
    rfl

theorem sumUnspentNoteValue_eq (notes : List UnspentShieldedNoteRow) :
    sumUnspentNoteValue notes = min (total UnspentShieldedNoteRow.value notes) (2 ^ 64 - 1) := by
  have folded := foldl_saturatingAdd notes 0
  rwa [Nat.zero_min,Nat.zero_add] at folded

/-- The running sum stops the loop where the exact one would. -/
theorem takeLockedNotes_eq (amountZat : Zatoshis) (exact : Nat)
    (notes : List UnspentShieldedNoteRow) :
    takeLockedNotes amountZat (min exact (2 ^ 64 - 1)) notes =
      cover HeldNote.value amountZat.raw.toNat exact (notes.map UnspentShieldedNoteRow.held) := by
  have bound := amountZat.raw.toNat_lt
  induction notes generalizing exact with
  | nil => rfl
  | cons note notes ih =>
    rw [takeLockedNotes,List.map_cons,cover]
    by_cases reached : amountZat.raw.toNat ≤ exact
    · have stops : min exact (2 ^ 64 - 1) ≥ amountZat.raw.toNat := by omega
      rw [if_pos stops,if_pos reached]
    · have continues : ¬min exact (2 ^ 64 - 1) ≥ amountZat.raw.toNat := by omega
      rw [if_neg continues,if_neg reached,saturatingAdd_min,ih]
      rfl

def UnspentShieldedNoteRow.takenBefore (first second : UnspentShieldedNoteRow) : Bool :=
  second.valueZat.val.raw ≤ first.valueZat.val.raw

/-- The candidates in the order the selection takes them. -/
def selectionOrder (candidates : List UnspentShieldedNoteRow) : List UnspentShieldedNoteRow :=
  candidates.mergeSort UnspentShieldedNoteRow.takenBefore

theorem selectionOrder_perm (candidates : List UnspentShieldedNoteRow) :
    List.Perm (selectionOrder candidates) candidates :=
  List.mergeSort_perm _ _

theorem selectionOrder_descending (candidates : List UnspentShieldedNoteRow) :
    Descending UnspentShieldedNoteRow.value (selectionOrder candidates) := by
  have transitive (first second third : UnspentShieldedNoteRow)
      (one : first.takenBefore second) (other : second.takenBefore third) :
      first.takenBefore third := by
    simp only [UnspentShieldedNoteRow.takenBefore,decide_eq_true_eq] at one other ⊢
    exact UInt64.le_trans other one
  have either (first second : UnspentShieldedNoteRow) :
      first.takenBefore second || second.takenBefore first := by
    simp only [UnspentShieldedNoteRow.takenBefore,Bool.or_eq_true,decide_eq_true_eq]
    exact UInt64.le_total _ _
  have sorted := List.pairwise_mergeSort transitive either candidates
  exact sorted.imp fun smaller => UInt64.le_iff_toNat_le.mp (of_decide_eq_true smaller)

theorem selectLockedNotes_eq (candidates : List UnspentShieldedNoteRow) (amountZat : Zatoshis) :
    selectLockedNotes candidates amountZat = cover HeldNote.value amountZat.raw.toNat 0
      ((selectionOrder candidates).map UnspentShieldedNoteRow.held) :=
  takeLockedNotes_eq amountZat 0 _

/-- What a selection of locked notes is for: enough value, in as few notes as can be, with
none that is not needed; all of them where they do not suffice. -/
structure SelectsLeast (candidates : List UnspentShieldedNoteRow) (amountZat : Zatoshis)
    (chosen : List HeldNote) : Prop where
  subperm : List.Subperm chosen (candidates.map UnspentShieldedNoteRow.held)
  covers : amountZat.raw.toNat ≤ total UnspentShieldedNoteRow.value candidates →
    amountZat.raw.toNat ≤ total HeldNote.value chosen
  fewest : ∀ other, List.Subperm other (candidates.map UnspentShieldedNoteRow.held) →
    amountZat.raw.toNat ≤ total HeldNote.value other → chosen.length ≤ other.length
  needed : chosen ≠ [] → total HeldNote.value chosen.dropLast < amountZat.raw.toNat
  short : total UnspentShieldedNoteRow.value candidates < amountZat.raw.toNat →
    List.Perm chosen (candidates.map UnspentShieldedNoteRow.held)

/-- The locked notes are the least that cover the amount, largest first. -/
theorem selectsLeast_selectLockedNotes (candidates : List UnspentShieldedNoteRow)
    (amountZat : Zatoshis) :
    SelectsLeast candidates amountZat (selectLockedNotes candidates amountZat) := by
  rw [selectLockedNotes_eq]
  have reordered := (selectionOrder_perm candidates).map UnspentShieldedNoteRow.held
  have same : total HeldNote.value ((selectionOrder candidates).map UnspentShieldedNoteRow.held) =
      total UnspentShieldedNoteRow.value candidates := by
    rw [total_perm reordered,total_held]
  have descending : Descending HeldNote.value
      ((selectionOrder candidates).map UnspentShieldedNoteRow.held) :=
    List.pairwise_map.mpr (selectionOrder_descending candidates)
  constructor
  · obtain ⟨count, taken⟩ := @cover_eq_take _ HeldNote.value amountZat.raw.toNat 0
      ((selectionOrder candidates).map UnspentShieldedNoteRow.held)
    rw [taken]
    exact (List.take_sublist _ _).subperm.trans reordered.subperm
  · intro enough
    rw [← same] at enough
    rw [← Nat.zero_add (total HeldNote.value _)] at enough ⊢
    exact le_total_cover enough
  · intro other within enough
    exact length_cover_le descending (within.trans reordered.symm.subperm) enough
  · intro nonempty
    simpa using total_dropLast_cover nonempty
  · intro short
    rw [← same] at short
    rw [cover_eq_self (by simpa using short)]
    exact reordered

/-- Every amount the balance check of a reservation lets through is covered by the notes the
hold locks. -/
theorem le_total_of_spendable {amountZat : Zatoshis} {reserved : Nat}
    (affordable : amountZat.raw ≤
      (Zatoshis.tryFromOrZero (sumUnspentNoteValue candidates - reserved)).val.raw) :
    amountZat.raw.toNat ≤ total HeldNote.value (selectLockedNotes candidates amountZat) := by
  have spendable := Zatoshis.tryFromOrZero_le (sumUnspentNoteValue candidates - reserved)
  have within := UInt64.le_iff_toNat_le.mp affordable
  apply (selectsLeast_selectLockedNotes candidates amountZat).covers
  rw [sumUnspentNoteValue_eq] at spendable within
  omega

/-- The notes a hold locks are the least that cover its amount, and the sum of the candidates
is cut off only where no amount could reach it. -/
theorem selectLockedNotes_least (candidates : List UnspentShieldedNoteRow) :
    (∀ amountZat, SelectsLeast candidates amountZat (selectLockedNotes candidates amountZat)) ∧
    (sumUnspentNoteValue candidates = total UnspentShieldedNoteRow.value candidates ∨
      ∀ amountZat : Zatoshis,
        amountZat.raw.toNat < total UnspentShieldedNoteRow.value candidates) := by
  refine ⟨selectsLeast_selectLockedNotes candidates, ?_⟩
  rw [sumUnspentNoteValue_eq]
  by_cases fits : total UnspentShieldedNoteRow.value candidates ≤ 2 ^ 64 - 1
  · exact .inl (Nat.min_eq_left fits)
  · right
    intro amountZat
    have bound := amountZat.raw.toNat_lt
    omega

end Zally
