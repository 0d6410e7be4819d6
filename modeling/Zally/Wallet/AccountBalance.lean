import Zally.Storage.HoldLedger
import Zally.Wallet.Reserve
import Zally.Wallet.SyncPort

/-! The balance of an account, and the transparent outputs that a shielding of its funds may
consume at the same tip. -/
namespace Zally

open Outcome

/-- Where a transaction was mined; an output refreshed from the chain source has no index. -/
structure MinedAt where
  height : BlockHeight
  txIndex : Option Nat
  deriving DecidableEq

/-- A row of `transparent_received_outputs`, with its transaction and the transactions that
spend it. -/
structure TransparentReceivedOutput (σ : Type) where
  accountId : AccountId
  valueZat : CheckedZatoshis
  minedAt : Option MinedAt
  spends : List σ

structure ConfirmationsPolicy where
  trusted : Nat
  untrusted : Nat
  allowZeroConfShielding : Bool

namespace ConfirmationsPolicy

def default : ConfirmationsPolicy := ⟨3, 10, true⟩

/-- The confirmations that a policy asks of a transparent output before it is shielded. -/
def shieldingConfirmations (policy : ConfirmationsPolicy) : Nat :=
  if policy.allowZeroConfShielding then 0 else policy.untrusted

end ConfirmationsPolicy

def coinbaseSafeShieldingPolicy : ConfirmationsPolicy := ⟨3, 100, false⟩

namespace TransparentReceivedOutput

variable {σ : Type}

/-- Known to be coinbase, by its index, and inside the maturity window. -/
def ImmatureCoinbase (targetHeight : Nat) (output : TransparentReceivedOutput σ) : Prop :=
  match output.minedAt with
  | none => False
  | some mined => mined.txIndex.getD 1 = 0 ∧ (targetHeight : Int) - mined.height < 100

instance (targetHeight : Nat) : DecidablePred (ImmatureCoinbase (σ := σ) targetHeight) :=
  fun output => by
    unfold ImmatureCoinbase
    split <;> infer_instance

/-- Mined at least so many blocks below the target height; no confirmations need no block. -/
def Confirmed (targetHeight confirmations : Nat) (output : TransparentReceivedOutput σ) : Prop :=
  match output.minedAt with
  | none => confirmations = 0
  | some mined => confirmations = 0 ∨ (confirmations : Int) ≤ (targetHeight : Int) - mined.height

instance (targetHeight confirmations : Nat) :
    DecidablePred (Confirmed (σ := σ) targetHeight confirmations) := fun output => by
  unfold Confirmed
  split <;> infer_instance

/-- No transaction that spends the output is mined or can still be. -/
def Unspent (inForce : Nat → σ → Bool) (targetHeight : Nat) (output : TransparentReceivedOutput σ) :
    Prop := ∀ spend ∈ output.spends, inForce targetHeight spend = false

instance (inForce : Nat → σ → Bool) (targetHeight : Nat) :
    DecidablePred (Unspent inForce targetHeight) := fun output =>
  inferInstanceAs (Decidable (∀ spend ∈ output.spends, _))

/-- An output of the account that is unspent, confirmed under a policy, and not known to be immature
coinbase. -/
def SpendableUnder (inForce : Nat → σ → Bool) (policy : ConfirmationsPolicy) (targetHeight : Nat)
    (accountId : AccountId) (output : TransparentReceivedOutput σ) : Prop :=
  output.accountId = accountId ∧ output.Unspent inForce targetHeight ∧
    output.Confirmed targetHeight policy.shieldingConfirmations ∧ ¬output.ImmatureCoinbase targetHeight

instance (inForce : Nat → σ → Bool) (policy : ConfirmationsPolicy) (targetHeight : Nat)
    (accountId : AccountId) : DecidablePred (SpendableUnder inForce policy targetHeight accountId) :=
  fun _ => inferInstanceAs (Decidable (_ ∧ _ ∧ _ ∧ ¬_))

/-- Spendable at a tip under a policy, and worth more than the fee of its own input; no output is
before the first tip. -/
def SpendableAt (inForce : Nat → σ → Bool) (marginalFee : Nat) (policy : ConfirmationsPolicy)
    (visibleTip : Option BlockHeight) (accountId : AccountId)
    (output : TransparentReceivedOutput σ) : Prop :=
  match visibleTip with
  | none => False
  | some tip => marginalFee < output.valueZat.val.raw.toNat ∧
      output.SpendableUnder inForce policy (saturatingAddU32 tip 1) accountId

instance (inForce : Nat → σ → Bool) (marginalFee : Nat) (policy : ConfirmationsPolicy)
    (visibleTip : Option BlockHeight) (accountId : AccountId) :
    DecidablePred (SpendableAt inForce marginalFee policy visibleTip accountId) := fun _ => by
  unfold SpendableAt
  split <;> infer_instance

/-- The rows of `IMMATURE_COINBASE_AGGREGATE_SQL`: any spend row excludes its output. -/
def CountedImmature (targetHeight : Nat) (accountId : AccountId)
    (output : TransparentReceivedOutput σ) : Prop :=
  output.accountId = accountId ∧ output.ImmatureCoinbase targetHeight ∧ output.spends.isEmpty

instance (targetHeight : Nat) (accountId : AccountId) :
    DecidablePred (CountedImmature (σ := σ) targetHeight accountId) :=
  fun _ => inferInstanceAs (Decidable (_ ∧ _ ∧ _))

def zat (output : TransparentReceivedOutput σ) : Nat := output.valueZat.val.raw.toNat

end TransparentReceivedOutput

open TransparentReceivedOutput

variable {σ : Type}

structure AccountBalanceRow where
  saplingZat : CheckedZatoshis
  orchardZat : CheckedZatoshis
  ironwoodZat : CheckedZatoshis
  transparentMatureZat : CheckedZatoshis
  transparentImmatureZat : CheckedZatoshis
  asOfHeight : Option BlockHeight
  deriving DecidableEq

def spendableShieldedValue (pool : ShieldedPool) (notes : List UnspentShieldedNoteRow) :
    CheckedZatoshis :=
  Zatoshis.tryFromOrZero (notes.foldl (fun sum note =>
    if note.protocol = pool then saturatingAdd sum note.valueZat.val.raw.toNat else sum) 0)

def decodeRowZatoshis (stored : Int) (column : String) : Except StorageError CheckedZatoshis :=
  if stored < 0 then .error (.rowValueOutOfRange column (toString stored))
  else (Zatoshis.tryFrom (.ofNat stored.toNat)).mapError fun _ =>
    .rowValueOutOfRange column (toString stored.toNat)

/-- The transparent side of librustzcash: the transactions it takes to be in force at a height, the
fee below which it leaves an output alone, the spendable value that its summary of the wallet gives
an account, and the outputs that its shielding consumes. -/
structure TransparentLibrary (σ : Type) where
  inForce : Nat → σ → Bool
  marginalFee : Nat
  getWalletSummary : ConfirmationsPolicy → Option BlockHeight → List (TransparentReceivedOutput σ) →
    Except String (Option (AccountId → Option CheckedZatoshis))
  shieldingInputs : ConfirmationsPolicy → Option BlockHeight → AccountId →
    List (TransparentReceivedOutput σ) → List (TransparentReceivedOutput σ)

namespace TransparentLibrary

/-- The library as this crate relies on it: under either policy an output is counted, and consumed,
by the same rule. -/
structure Lawful (library : TransparentLibrary σ) : Prop where
  summary_sums : ∀ policy visibleTip outputs summary accountId,
    library.getWalletSummary policy visibleTip outputs = .ok summary →
    ((summary.bind (· accountId)).elim 0 fun spendable => spendable.val.raw.toNat) =
      Sql.total (SpendableAt library.inForce library.marginalFee policy visibleTip accountId) zat
        outputs
  shielding_admits : ∀ policy visibleTip accountId outputs,
    library.shieldingInputs policy visibleTip accountId outputs =
      outputs.filter fun output =>
        SpendableAt library.inForce library.marginalFee policy visibleTip accountId output

/-- What `shield_transparent_funds` may consume at a tip. -/
def shieldableZat (library : TransparentLibrary σ) (visibleTip : Option BlockHeight)
    (accountId : AccountId) (outputs : List (TransparentReceivedOutput σ)) : Nat :=
  ((library.shieldingInputs coinbaseSafeShieldingPolicy visibleTip accountId outputs).map zat).sum

end TransparentLibrary

/-- What a balance reads besides the transparent outputs, and how its queries fail. -/
structure BalanceReads where
  account : Except StorageError AccountId
  visibleTip : Except StorageError (Option BlockHeight)
  selectSpendableNotes : Nat → Except String (List UnspentShieldedNoteRow)
  aggregateFault : Option String

def failing (fault : Option String) (answer : Except String α) : Except String α :=
  match fault with
  | some text => .error text
  | none => answer

def getAccountBalance (library : TransparentLibrary σ) (reads : BalanceReads)
    (outputs : List (TransparentReceivedOutput σ)) : Except StorageError AccountBalanceRow := do
  let accountId ← reads.account
  let visibleTip ← reads.visibleTip
  let targetHeight := (visibleTip.map fun tip => saturatingAddU32 tip 1).getD 0
  let spendableRows ← (reads.selectSpendableNotes targetHeight).mapError fun text => .sqliteFailed
    s!"account balance spendable-note selection failed: {text}" .notRetryable
  let summary ← (library.getWalletSummary .default visibleTip outputs).mapError mapSqliteError
  let transparentMatureZat := ((summary.bind (· accountId)).elim ⟨.zero, by decide⟩ fun spendable =>
    Zatoshis.tryFromOrZero spendable.val.raw.toNat : CheckedZatoshis)
  let immatureRaw ← (failing reads.aggregateFault (Sql.sumColumn
    ((outputs.filter fun output => CountedImmature targetHeight accountId output).map
      fun output => (output.zat : Int)))).mapError
      fun text => .sqliteFailed s!"immature coinbase aggregate failed: {text}" .notRetryable
  let transparentImmatureZat ← decodeRowZatoshis immatureRaw
    "transparent_received_outputs.value_zat (immature coinbase)"
  return {
    saplingZat := spendableShieldedValue .sapling spendableRows
    orchardZat := spendableShieldedValue .orchard spendableRows
    ironwoodZat := spendableShieldedValue .ironwood spendableRows
    transparentMatureZat
    transparentImmatureZat
    asOfHeight := visibleTip }

namespace TransparentReceivedOutput

variable {inForce : Nat → σ → Bool} {output : TransparentReceivedOutput σ} {accountId : AccountId}

/-- Shielding admits nothing that the balance does not count as mature. -/
theorem mature_of_shieldable (shieldable : SpendableUnder inForce coinbaseSafeShieldingPolicy
    targetHeight accountId output) :
    SpendableUnder inForce .default targetHeight accountId output := by
  obtain ⟨owned, unspent, -, mature⟩ := shieldable
  refine ⟨owned, unspent, ?_, mature⟩
  unfold Confirmed
  split
  · rfl
  · exact .inl rfl

/-- What the balance counts as mature is admitted once it has its hundred confirmations. -/
theorem shieldable_iff (mature : SpendableUnder inForce .default targetHeight accountId output) :
    SpendableUnder inForce coinbaseSafeShieldingPolicy targetHeight accountId output ↔
      output.Confirmed targetHeight 100 :=
  ⟨fun shieldable => shieldable.2.2.1, fun confirmed => ⟨mature.1, mature.2.1, confirmed, mature.2.2.2⟩⟩

theorem not_both_halves (mature : SpendableUnder inForce policy targetHeight accountId output) :
    ¬CountedImmature targetHeight accountId output := fun immature => mature.2.2.2 immature.2.1

end TransparentReceivedOutput

/-- A balance that is returned was counted against the tip it names. -/
theorem getAccountBalance_ok {library : TransparentLibrary σ} (lawful : library.Lawful)
    (read : getAccountBalance library reads outputs = .ok balance) :
    ∃ accountId, reads.account = .ok accountId ∧ reads.visibleTip = .ok balance.asOfHeight ∧
      balance.transparentMatureZat.val.raw.toNat =
        Sql.total (SpendableAt library.inForce library.marginalFee .default balance.asOfHeight
          accountId) zat outputs := by
  unfold getAccountBalance at read
  obtain ⟨accountId, account, read⟩ := bind_ok_iff.mp read
  obtain ⟨visibleTip, tip, read⟩ := bind_ok_iff.mp read
  obtain ⟨rows, -, read⟩ := bind_ok_iff.mp read
  obtain ⟨summary, summed, read⟩ := bind_ok_iff.mp read
  obtain ⟨raw, -, read⟩ := bind_ok_iff.mp read
  obtain ⟨immature, -, read⟩ := bind_ok_iff.mp read
  cases read
  refine ⟨accountId, account, tip, ?_⟩
  rw [← lawful.summary_sums _ _ _ _ accountId (mapError_ok_iff.mp summed)]
  cases summary.bind (· accountId) with
  | none => rfl
  | some spendable => exact Zatoshis.tryFromOrZero_eq spendable.property

theorem TransparentLibrary.Lawful.shieldable {library : TransparentLibrary σ}
    {accountId : AccountId} (lawful : library.Lawful) :
    library.shieldableZat visibleTip accountId outputs =
      Sql.total (SpendableAt library.inForce library.marginalFee coinbaseSafeShieldingPolicy
        visibleTip accountId) zat outputs := by
  rw [shieldableZat,lawful.shielding_admits]
  rfl

/-- Every output that the balance counts as mature has its hundred confirmations. -/
def TransparentLibrary.AgreesAt (library : TransparentLibrary σ) (visibleTip : Option BlockHeight)
    (accountId : AccountId) (outputs : List (TransparentReceivedOutput σ)) : Prop :=
  ∀ tip ∈ visibleTip, ∀ output ∈ outputs, output.accountId = accountId →
    output.Unspent library.inForce (saturatingAddU32 tip 1) →
    ¬output.ImmatureCoinbase (saturatingAddU32 tip 1) → library.marginalFee < output.zat →
    output.Confirmed (saturatingAddU32 tip 1) 100

theorem confirmed_default {output : TransparentReceivedOutput σ} :
    output.Confirmed targetHeight ConfirmationsPolicy.default.shieldingConfirmations := by
  unfold Confirmed
  split
  · rfl
  · exact .inl rfl

section Sample

/-- A library with the marginal fee of ZIP 317, over outputs that nothing spends. -/
def unspentLibrary : TransparentLibrary Empty where
  inForce := fun _ spend => spend.elim
  marginalFee := 5000
  getWalletSummary := fun policy visibleTip outputs =>
    if Sql.total (fun _ => True) zat outputs ≤ Zatoshis.max.raw.toNat then
      .ok (some fun accountId => some (Zatoshis.tryFromOrZero (Sql.total
        (SpendableAt (fun _ spend => spend.elim) 5000 policy visibleTip accountId) zat outputs)))
    else .error "balance overflow"
  shieldingInputs := fun policy visibleTip accountId outputs => outputs.filter fun output =>
    SpendableAt (fun _ spend => spend.elim) 5000 policy visibleTip accountId output

theorem unspentLibrary_lawful : unspentLibrary.Lawful where
  summary_sums := by
    intro policy visibleTip outputs summary accountId read
    simp only [unspentLibrary] at read
    split at read
    · rename_i fits
      obtain rfl := Except.ok.inj read
      exact Zatoshis.tryFromOrZero_eq ((Sql.total_le_total fun _ _ => trivial).trans fits)
    · cases read
  shielding_admits := fun _ _ _ _ => rfl

def balanceReads : BalanceReads := ⟨.ok ⟨7⟩, .ok (some 200), fun _ => .ok [], none⟩

def balanceOf (matureZat : UInt64) (fits : matureZat ≤ Zatoshis.max.raw) : AccountBalanceRow :=
  ⟨⟨.zero, by decide⟩, ⟨.zero, by decide⟩, ⟨.zero, by decide⟩, ⟨⟨matureZat⟩, fits⟩,
    ⟨.zero, by decide⟩, some 200⟩

/-- An output that a refresh recorded, without an index, at a height. -/
def refreshedOutput (height : BlockHeight) : TransparentReceivedOutput Empty :=
  ⟨⟨7⟩, ⟨⟨50000⟩, by decide⟩, some ⟨height, none⟩, []⟩

end Sample

end Zally
