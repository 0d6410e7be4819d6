import Zally.Disclosure.Preimage
import Zally.Disclosure.Verify
import Zally.Outcome

/-! What accepted evidence says: entry by entry, in order, what the transaction bears out. -/
namespace Zally.Disclosure

open Outcome Wire

variable {ρ : Type} {schemes : DisclosureSchemes ρ}

namespace Transaction

/-- The spends and outputs of a transaction, whether or not it has their bundle. -/
def saplingSpends (transaction : Transaction schemes) : List (SaplingSpendDescription schemes) :=
  (transaction.saplingBundle.map (·.shieldedSpends)).getD []

def saplingOutputs (transaction : Transaction schemes) : List schemes.SaplingOutput :=
  (transaction.saplingBundle.map (·.shieldedOutputs)).getD []

def ironwoodActions (transaction : Transaction schemes) : List (IronwoodAction schemes) :=
  transaction.ironwoodBundle.getD []

section Bundles

variable {transaction : Transaction schemes}

theorem saplingSpends_some (bundle : transaction.saplingBundle = some found) :
    transaction.saplingSpends = found.shieldedSpends := by
  rw [saplingSpends,bundle,Option.map_some,Option.getD_some]

theorem saplingOutputs_some (bundle : transaction.saplingBundle = some found) :
    transaction.saplingOutputs = found.shieldedOutputs := by
  rw [saplingOutputs,bundle,Option.map_some,Option.getD_some]

theorem saplingSpends_none (bundle : transaction.saplingBundle = none) :
    transaction.saplingSpends = [] := by
  rw [saplingSpends,bundle,Option.map_none,Option.getD_none]

theorem ironwoodActions_some (bundle : transaction.ironwoodBundle = some actions) :
    transaction.ironwoodActions = actions := by
  rw [ironwoodActions,bundle,Option.getD_some]

theorem ironwoodActions_none (bundle : transaction.ironwoodBundle = none) :
    transaction.ironwoodActions = [] := by
  rw [ironwoodActions,bundle,Option.getD_none]

end Bundles

end Transaction

/-- The on-chain spend at its index accepts a disclosed Sapling spend. -/
def AuthorizesSapling (onChainSpends : List (SaplingSpendDescription schemes))
    (disclosureDigest : Digest) (spend : SaplingSpendDisclosure) : Prop :=
  ∃ onChainSpend cv rk zkproof, onChainSpends[spend.index.toNat]? = some onChainSpend ∧
    schemes.sapling.readCommitment spend.cv = some cv ∧
    schemes.sapling.readKey spend.rk = .ok rk ∧
    schemes.sapling.readProof spend.zkproof = .ok zkproof ∧
    schemes.sapling.checkSpend cv onChainSpend.anchor onChainSpend.nullifier rk disclosureDigest
      spend.spendAuthSig zkproof = true

def AuthorizesIronwood (onChainActions : List (IronwoodAction schemes)) (disclosureDigest : Digest)
    (spend : IronwoodSpendDisclosure) : Prop :=
  ∃ onChainAction, onChainActions[spend.index.toNat]? = some onChainAction ∧
    schemes.ironwood.verify onChainAction.rk disclosureDigest spend.spendAuthSig = true

/-- The evidence of an output is the note its cipher key recovers. -/
def OutputEvidence.Of {Recipient : Type} (recovers : Nat → Option (RecoveredNote Recipient))
    (index : UInt32) (evidence : OutputEvidence Recipient) : Prop :=
  ∃ note, recovers index.toNat = some note ∧
    evidence = ⟨index, note.recipient, note.amountZat, note.memo⟩

def saplingNoteAt (onChainOutputs : List schemes.SaplingOutput)
    (enforcement : schemes.Zip212Enforcement) (ock : OutgoingCipherKey) (index : Nat) :
    Option (RecoveredNote schemes.sapling.PaymentAddress) :=
  onChainOutputs[index]? >>= fun output => schemes.recoverSaplingOutput ock output enforcement

def ironwoodNoteAt (onChainActions : List (IronwoodAction schemes)) (ock : OutgoingCipherKey)
    (index : Nat) : Option (RecoveredNote schemes.IronwoodAddress) :=
  onChainActions[index]? >>= fun action => schemes.recoverIronwoodOutput ock action.output

section Rounds

variable {onChainSpends : List (SaplingSpendDescription schemes)}
  {onChainOutputs : List schemes.SaplingOutput} {onChainActions : List (IronwoodAction schemes)}

theorem verifySaplingSpend_iff : verifySaplingSpend onChainSpends digest spend = .ok evidence ↔
    AuthorizesSapling onChainSpends digest spend ∧ evidence = ⟨spend.index⟩ := by
  unfold verifySaplingSpend AuthorizesSapling
  cases onChainSpends[spend.index.toNat]? with
  | none => simp
  | some onChainSpend =>
    cases schemes.sapling.readCommitment spend.cv with
    | none => simp
    | some cv =>
      cases schemes.sapling.readKey spend.rk with
      | error source => simp
      | ok rk =>
        cases schemes.sapling.readProof spend.zkproof with
        | error source => simp
        | ok zkproof =>
          simp only [Option.some.injEq,Except.ok.injEq,exists_and_left,exists_eq_left',
            @eq_comm _ evidence]
          split <;> simp [*]

theorem verifyIronwoodSpend_iff : verifyIronwoodSpend onChainActions digest spend = .ok evidence ↔
    AuthorizesIronwood onChainActions digest spend ∧ evidence = ⟨spend.index⟩ := by
  unfold verifyIronwoodSpend AuthorizesIronwood
  cases onChainActions[spend.index.toNat]? with
  | none => simp
  | some onChainAction =>
    simp only [Option.some.injEq,exists_eq_left',@eq_comm _ evidence]
    split <;> simp [*]

theorem recoverSaplingOutput_iff :
    recoverSaplingOutput onChainOutputs enforcement output = .ok evidence ↔
      evidence.Of (saplingNoteAt onChainOutputs enforcement output.ock) output.index := by
  unfold recoverSaplingOutput OutputEvidence.Of saplingNoteAt
  cases onChainOutputs[output.index.toNat]? with
  | none => simp
  | some onChainOutput =>
    cases recovered : schemes.recoverSaplingOutput output.ock onChainOutput enforcement with
    | none => simp [recovered]
    | some note => simp [recovered,@eq_comm _ evidence]

theorem recoverIronwoodOutput_iff :
    recoverIronwoodOutput onChainActions output = .ok evidence ↔
      evidence.Of (ironwoodNoteAt onChainActions output.ock) output.index := by
  unfold recoverIronwoodOutput OutputEvidence.Of ironwoodNoteAt
  cases onChainActions[output.index.toNat]? with
  | none => simp
  | some onChainAction =>
    cases recovered : schemes.recoverIronwoodOutput output.ock onChainAction.output with
    | none => simp [recovered]
    | some note => simp [recovered,@eq_comm _ evidence]

end Rounds

/-- Evidence that a transaction supports: every disclosed entry, in order and with its own index,
is borne out by the spend, action or output at that index. -/
structure PaymentDisclosureEvidence.Supported (evidence : PaymentDisclosureEvidence schemes)
    (params : ConsensusParameters schemes) (transaction : Transaction schemes)
    (minedHeight : BlockHeight) (disclosure : PaymentDisclosure) : Prop where
  transactionId : evidence.transactionId = transaction.txid
  disclosedId : transaction.txid = disclosure.transactionId
  saplingSpends : List.Forall₂ (fun spend found => AuthorizesSapling transaction.saplingSpends
    (disclosure.computeDigest schemes.blake2b params.networkType) spend ∧ found = ⟨spend.index⟩)
    disclosure.saplingSpends evidence.saplingSpends
  saplingOutputs : List.Forall₂ (fun output found => OutputEvidence.Of (saplingNoteAt
    transaction.saplingOutputs (params.zip212Enforcement minedHeight) output.ock) output.index found)
    disclosure.saplingOutputs evidence.saplingOutputs
  ironwoodSpends : List.Forall₂ (fun spend found => AuthorizesIronwood transaction.ironwoodActions
    (disclosure.computeDigest schemes.blake2b params.networkType) spend ∧ found = ⟨spend.index⟩)
    disclosure.ironwoodSpends evidence.ironwoodSpends
  ironwoodOutputs : List.Forall₂ (fun output found => OutputEvidence.Of (ironwoodNoteAt
    transaction.ironwoodActions output.ock) output.index found)
    disclosure.ironwoodOutputs evidence.ironwoodOutputs

section Accepted

variable {params : ConsensusParameters schemes} {transaction : Transaction schemes}
  {evidence : PaymentDisclosureEvidence schemes}

open PaymentDisclosure

/-- Accepted indices increase strictly. -/
theorem requireIncreasingFrom_ok (accepted : requireIncreasingFrom field previous indices = .ok ()) :
    (∀ bound ∈ previous, ∀ index ∈ indices, bound < index) ∧ indices.Pairwise (· < ·) := by
  induction indices generalizing previous with
  | nil => exact ⟨by simp, .nil⟩
  | cons index indices ih =>
    rw [requireIncreasingFrom] at accepted
    split at accepted
    · cases accepted
    · rename_i above
      obtain ⟨later, increasing⟩ := ih accepted
      have behind : ∀ other ∈ indices, index < other := later index rfl
      refine ⟨fun bound same other member => ?_, .cons behind increasing⟩
      obtain rfl := Option.mem_def.mp same
      have first : bound < index := by simpa using above
      rcases List.mem_cons.mp member with rfl | member
      · exact first
      · exact UInt32.lt_trans first (behind other member)

theorem shape_ok (accepted : validateIndexedDisclosureShape messageBytes spendCount spendIndices
    outputCount outputIndices spendField outputField = .ok ()) :
    spendIndices ≠ [] ∧ spendIndices.Pairwise (· < ·) ∧ outputIndices.Pairwise (· < ·) := by
  simp only [validateIndexedDisclosureShape,requireEntryCount,Bind.bind,Except.bind] at accepted
  split_ifs at accepted with long many more none
  change (requireStrictlyIncreasing spendIndices spendField >>= fun _ =>
    requireStrictlyIncreasing outputIndices outputField) = .ok () at accepted
  obtain ⟨⟨⟩, spends, outputs⟩ := bind_ok_iff.mp accepted
  exact ⟨by simpa using none, (requireIncreasingFrom_ok spends).2, (requireIncreasingFrom_ok outputs).2⟩

/-- The disclosed spends of a pool, and its outputs, are listed by increasing index. -/
structure PaymentDisclosure.Ordered (disclosure : PaymentDisclosure) : Prop where
  saplingSpends : (disclosure.saplingSpends.map (·.index)).Pairwise (· < ·)
  saplingOutputs : (disclosure.saplingOutputs.map (·.index)).Pairwise (· < ·)
  ironwoodSpends : (disclosure.ironwoodSpends.map (·.index)).Pairwise (· < ·)
  ironwoodOutputs : (disclosure.ironwoodOutputs.map (·.index)).Pairwise (· < ·)

theorem ordered_of_constructed (built : Constructed disclosure) : disclosure.Ordered := by
  rcases built with built | built
  · obtain ⟨-, shape, rfl⟩ := new_iff.mp built
    obtain ⟨-, spends, outputs⟩ := shape_ok shape
    exact ⟨spends, outputs, .nil, .nil⟩
  · obtain ⟨shape, rfl⟩ := ironwoodExtension_iff.mp built
    obtain ⟨-, spends, outputs⟩ := shape_ok shape
    exact ⟨.nil, .nil, spends, outputs⟩

/-- A draft disclosure has a spend to disclose. -/
theorem spends_of_draft1 (fits : Constructed disclosure ∧ disclosure.profile = .zip311Draft1) :
    ∃ spend, spend ∈ disclosure.saplingSpends := by
  obtain ⟨-, shape, -⟩ := new_iff.mp (constructed_draft1_iff.mpr ⟨fits, rfl, rfl⟩)
  have some := (shape_ok shape).1
  rw [ne_eq,List.map_eq_nil_iff] at some
  exact List.exists_mem_of_ne_nil _ some

theorem spends_of_ironwood (fits : Constructed disclosure ∧ disclosure.profile = .zallyIronwood) :
    ∃ spend, spend ∈ disclosure.ironwoodSpends := by
  obtain ⟨shape, -⟩ := ironwoodExtension_iff.mp (constructed_ironwood_iff.mpr ⟨fits, rfl, rfl⟩)
  have some := (shape_ok shape).1
  rw [ne_eq,List.map_eq_nil_iff] at some
  exact List.exists_mem_of_ne_nil _ some

theorem verifyProfile_draft1_iff (fits : Constructed disclosure ∧ disclosure.profile = .zip311Draft1)
    (same : transaction.txid = disclosure.transactionId) :
    verifyProfile params disclosure transaction minedHeight
        (disclosure.computeDigest schemes.blake2b params.networkType) = .ok evidence ↔
      evidence.Supported params transaction minedHeight disclosure := by
  obtain ⟨⟨noSpends, noOutputs⟩, -⟩ := shape_of_draft1 fits
  obtain ⟨spend, disclosed⟩ := spends_of_draft1 fits
  rw [verifyProfile,fits.2]
  cases bundle : transaction.saplingBundle with
  | none =>
    refine iff_of_false (fun accepted => (by cases accepted)) fun supported => ?_
    obtain ⟨found, -, ⟨onChain, _, _, _, atIndex, -⟩, -⟩ :=
      exists_of_forall₂ supported.saplingSpends disclosed
    rw [Transaction.saplingSpends_none bundle] at atIndex
    cases atIndex
  | some saplingBundle =>
    simp only [bind_ok_iff,verifySaplingSpends,recoverSaplingOutputs,mapM_ok_iff,
      verifySaplingSpend_iff,recoverSaplingOutput_iff,← Transaction.saplingSpends_some bundle,
      ← Transaction.saplingOutputs_some bundle]
    constructor
    · rintro ⟨spends, verified, outputs, recovered, returned⟩
      obtain rfl := Except.ok.inj returned
      exact ⟨rfl, same, verified, recovered, noSpends ▸ .nil, noOutputs ▸ .nil⟩
    · intro supported
      have ironwoodSpends := supported.ironwoodSpends
      have ironwoodOutputs := supported.ironwoodOutputs
      rw [noSpends,List.forall₂_nil_left_iff] at ironwoodSpends
      rw [noOutputs,List.forall₂_nil_left_iff] at ironwoodOutputs
      refine ⟨_, supported.saplingSpends, _, supported.saplingOutputs, congrArg Except.ok ?_⟩
      rw [← supported.transactionId,← ironwoodSpends,← ironwoodOutputs]

theorem verifyProfile_ironwood_iff
    (fits : Constructed disclosure ∧ disclosure.profile = .zallyIronwood)
    (same : transaction.txid = disclosure.transactionId) :
    verifyProfile params disclosure transaction minedHeight
        (disclosure.computeDigest schemes.blake2b params.networkType) = .ok evidence ↔
      evidence.Supported params transaction minedHeight disclosure := by
  obtain ⟨⟨noSpends, noOutputs⟩, -⟩ := shape_of_ironwood fits
  obtain ⟨spend, disclosed⟩ := spends_of_ironwood fits
  rw [verifyProfile,fits.2]
  cases bundle : transaction.ironwoodBundle with
  | none =>
    refine iff_of_false (fun accepted => (by cases accepted)) fun supported => ?_
    obtain ⟨found, -, ⟨action, atIndex, -⟩, -⟩ :=
      exists_of_forall₂ supported.ironwoodSpends disclosed
    rw [Transaction.ironwoodActions_none bundle] at atIndex
    cases atIndex
  | some ironwoodActions =>
    simp only [bind_ok_iff,verifyIronwoodSpends,recoverIronwoodOutputs,mapM_ok_iff,
      verifyIronwoodSpend_iff,recoverIronwoodOutput_iff,
      ← Transaction.ironwoodActions_some bundle]
    constructor
    · rintro ⟨spends, verified, outputs, recovered, returned⟩
      obtain rfl := Except.ok.inj returned
      exact ⟨rfl, same, noSpends ▸ .nil, noOutputs ▸ .nil, verified, recovered⟩
    · intro supported
      have saplingSpends := supported.saplingSpends
      have saplingOutputs := supported.saplingOutputs
      rw [noSpends,List.forall₂_nil_left_iff] at saplingSpends
      rw [noOutputs,List.forall₂_nil_left_iff] at saplingOutputs
      refine ⟨_, supported.ironwoodSpends, _, supported.ironwoodOutputs, congrArg Except.ok ?_⟩
      rw [← supported.transactionId,← saplingSpends,← saplingOutputs]

/-- The evidence a disclosure is accepted with is what the transaction supports. -/
theorem verifyProfile_iff (built : Constructed disclosure)
    (same : transaction.txid = disclosure.transactionId) :
    verifyProfile params disclosure transaction minedHeight
        (disclosure.computeDigest schemes.blake2b params.networkType) = .ok evidence ↔
      evidence.Supported params transaction minedHeight disclosure := by
  cases profile : disclosure.profile with
  | zip311Draft1 => exact verifyProfile_draft1_iff ⟨built, profile⟩ same
  | zallyIronwood => exact verifyProfile_ironwood_iff ⟨built, profile⟩ same

/-- Acceptance against the bytes of a transaction. -/
theorem verifyDisclosure_iff (built : Constructed disclosure) :
    verifyDisclosure params disclosure transactionBytes minedHeight = .ok evidence ↔
      ∃ transaction, parseTransaction params transactionBytes minedHeight = .ok transaction ∧
        evidence.Supported params transaction minedHeight disclosure := by
  rw [verifyDisclosure,bind_ok_iff]
  refine exists_congr fun transaction => and_congr_right fun _ => ?_
  by_cases same : transaction.txid = disclosure.transactionId
  · rw [if_neg (not_not.mpr same)]
    exact verifyProfile_iff built same
  · rw [if_pos same]
    exact iff_of_false (fun accepted => (by cases accepted)) fun supported => same supported.disclosedId

end Accepted

end Zally.Disclosure
