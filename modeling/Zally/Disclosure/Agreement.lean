import Zally.Disclosure.Production

/-! The producer and the verifier of payment disclosures agree, and accepted evidence counts every
disclosed entry once. -/
namespace Zally.Disclosure

open Outcome Wire PaymentDisclosure

variable {ρ : Type} {schemes : DisclosureSchemes ρ}

/-- The signatures, proofs and note encryption do what they are for. -/
structure DisclosureSchemes.Correct (schemes : DisclosureSchemes ρ) : Prop where
  readKey : ∀ key, schemes.sapling.readKey (schemes.sapling.keyBytes key) = .ok key
  readProof : ∀ proof, schemes.sapling.readProof (schemes.sapling.encodeProof proof) = .ok proof
  /-- No drawn trapdoor commits to a point of small order. -/
  readCommitment : ∀ amount rng,
    let cv := schemes.sapling.commit amount (schemes.sapling.randomTrapdoor rng).1
    schemes.sapling.readCommitment (schemes.sapling.commitmentBytes cv) = some cv
  /-- The proof of a note that opens an on-chain spend is accepted for it, under a signature that
  the randomized key accepts. -/
  complete : ∀ pgk address rseed amount path anchor scalar nullifier scalarRng trapdoorRng proofRng
      circuit digest sig,
    let alpha := (schemes.sapling.randomScalar scalarRng).1
    let rcv := (schemes.sapling.randomTrapdoor trapdoorRng).1
    let rk := schemes.sapling.randomizePublic (schemes.sapling.ak pgk) alpha
    schemes.sapling.opens pgk address rseed amount path anchor nullifier →
    schemes.sapling.anchorScalar anchor = some scalar →
    schemes.sapling.prepareCircuit pgk (schemes.sapling.diversifier address) rseed amount alpha rcv
      scalar path = some circuit →
    schemes.sapling.verify rk digest sig = true →
    schemes.sapling.checkSpend (schemes.sapling.commit amount rcv) anchor nullifier rk digest sig
      (schemes.sapling.createProof circuit proofRng).1 = true
  signed : ∀ cv anchor nullifier rk digest sig proof,
    schemes.sapling.checkSpend cv anchor nullifier rk digest sig proof = true →
    schemes.sapling.verify rk digest sig = true
  /-- A signature is accepted for one digest only. -/
  saplingBinds : ∀ key other digest otherDigest sig, schemes.sapling.verify key digest sig = true →
    schemes.sapling.verify other otherDigest sig = true → digest = otherDigest
  ironwoodBinds : ∀ key other digest otherDigest sig, schemes.ironwood.verify key digest sig = true →
    schemes.ironwood.verify other otherDigest sig = true → digest = otherDigest
  recoversSapling : ∀ ock note output enforcement, schemes.sealsSapling ock note output enforcement →
    schemes.recoverSaplingOutput ock output enforcement = some note
  recoversIronwood : ∀ ock note output, schemes.sealsIronwood ock note output →
    schemes.recoverIronwoodOutput ock output = some note

/-- The note an output of the transaction was sealed with, under the selected cipher key. -/
def IronwoodOutputSelection.Seals (transaction : Transaction schemes)
    (selection : IronwoodOutputSelection) (note : RecoveredNote schemes.IronwoodAddress) : Prop :=
  ∃ action, transaction.ironwoodActions[selection.index.toNat]? = some action ∧
    schemes.sealsIronwood selection.ock note action.output

def SaplingOutputSelection.Seals (transaction : Transaction schemes)
    (enforcement : schemes.Zip212Enforcement) (selection : SaplingOutputSelection)
    (note : RecoveredNote schemes.sapling.PaymentAddress) : Prop :=
  ∃ output, transaction.saplingOutputs[selection.index.toNat]? = some output ∧
    schemes.sealsSapling selection.ock note output enforcement

/-- A plan of one transaction's own Ironwood actions and outputs. -/
structure IronwoodDisclosurePlan.Of (plan : IronwoodDisclosurePlan schemes.ironwood)
    (params : ConsensusParameters schemes) (transaction : Transaction schemes) : Prop where
  transactionId : plan.transactionId = transaction.txid
  network : plan.network = params.networkType
  spends : ∀ spend ∈ plan.ironwoodSpends, ∃ action,
    transaction.ironwoodActions[spend.index.toNat]? = some action ∧
    spend.randomizedVerificationKey = action.rk
  outputs : ∀ selection ∈ plan.ironwoodOutputs, ∃ note, selection.Seals transaction note

/-- A plan of one transaction's own Sapling spends and outputs. -/
structure PaymentDisclosurePlan.Of (plan : PaymentDisclosurePlan schemes.sapling)
    (params : ConsensusParameters schemes) (transaction : Transaction schemes)
    (minedHeight : BlockHeight) : Prop where
  transactionId : plan.transactionId = transaction.txid
  network : plan.network = params.networkType
  spends : ∀ spend ∈ plan.saplingSpends, ∃ onChainSpend,
    transaction.saplingSpends[spend.index.toNat]? = some onChainSpend ∧
    spend.anchor = onChainSpend.anchor ∧
    schemes.sapling.opens spend.proofGenerationKey spend.recipient spend.rseed spend.amountZat
      spend.witness onChainSpend.anchor onChainSpend.nullifier
  outputs : ∀ selection ∈ plan.saplingOutputs, ∃ note,
    selection.Seals transaction (params.zip212Enforcement minedHeight) note

/-- Evidence that lists the selected indices, each below a count, in increasing order. -/
structure ListsIndices (selected listed : List UInt32) (count : Nat) : Prop where
  exactly : listed = selected
  increasing : listed.Pairwise (· < ·)
  inBounds : ∀ index ∈ listed, index.toNat < count

/-- Evidence that counts every entry of a disclosure once, from its own place in the transaction. -/
structure PaymentDisclosureEvidence.CountsOnce (evidence : PaymentDisclosureEvidence schemes)
    (params : ConsensusParameters schemes) (transaction : Transaction schemes)
    (minedHeight : BlockHeight) (disclosure : PaymentDisclosure) : Prop where
  supported : evidence.Supported params transaction minedHeight disclosure
  saplingSpends : ListsIndices (disclosure.saplingSpends.map (·.index))
    (evidence.saplingSpends.map (·.index)) transaction.saplingSpends.length
  saplingOutputs : ListsIndices (disclosure.saplingOutputs.map (·.index))
    (evidence.saplingOutputs.map (·.index)) transaction.saplingOutputs.length
  ironwoodSpends : ListsIndices (disclosure.ironwoodSpends.map (·.index))
    (evidence.ironwoodSpends.map (·.index)) transaction.ironwoodActions.length
  ironwoodOutputs : ListsIndices (disclosure.ironwoodOutputs.map (·.index))
    (evidence.ironwoodOutputs.map (·.index)) transaction.ironwoodActions.length

section Counting

variable {params : ConsensusParameters schemes} {transaction : Transaction schemes}
  {evidence : PaymentDisclosureEvidence schemes}

theorem listsIndices {R : α → β → Prop} {disclosed : α → UInt32} {listed : β → UInt32}
    (related : List.Forall₂ R xs ys) (increasing : (xs.map disclosed).Pairwise (· < ·))
    (same : ∀ x y, R x y → listed y = disclosed x ∧ (disclosed x).toNat < count) :
    ListsIndices (xs.map disclosed) (ys.map listed) count := by
  have indices := map_eq_of_forall₂ (f := disclosed) (g := listed) related
    fun x y holds => (same x y holds).1
  refine ⟨indices, indices ▸ increasing, fun index member => ?_⟩
  rw [indices] at member
  obtain ⟨x, disclosed, rfl⟩ := List.mem_map.mp member
  obtain ⟨y, -, holds⟩ := exists_of_forall₂ related disclosed
  exact (same x y holds).2

theorem lt_of_getElem? {xs : List α} (found : xs[index]? = some x) : index < xs.length :=
  (List.getElem?_eq_some_iff.mp found).1

theorem countsOnce_of_supported (built : Constructed disclosure)
    (supported : evidence.Supported params transaction minedHeight disclosure) :
    evidence.CountsOnce params transaction minedHeight disclosure := by
  have ordered := ordered_of_constructed built
  refine ⟨supported, listsIndices supported.saplingSpends ordered.saplingSpends ?_,
    listsIndices supported.saplingOutputs ordered.saplingOutputs ?_,
    listsIndices supported.ironwoodSpends ordered.ironwoodSpends ?_,
    listsIndices supported.ironwoodOutputs ordered.ironwoodOutputs ?_⟩
  · rintro spend found ⟨⟨onChainSpend, _, _, _, atIndex, -⟩, rfl⟩
    exact ⟨rfl, lt_of_getElem? atIndex⟩
  · rintro output found ⟨note, recovered, rfl⟩
    obtain ⟨onChainOutput, atIndex, -⟩ := Option.bind_eq_some_iff.mp recovered
    exact ⟨rfl, lt_of_getElem? atIndex⟩
  · rintro spend found ⟨⟨action, atIndex, -⟩, rfl⟩
    exact ⟨rfl, lt_of_getElem? atIndex⟩
  · rintro output found ⟨note, recovered, rfl⟩
    obtain ⟨action, atIndex, -⟩ := Option.bind_eq_some_iff.mp recovered
    exact ⟨rfl, lt_of_getElem? atIndex⟩

theorem reads_back (built : Constructed disclosure) : fromBytes disclosure.toBytes = .ok disclosure :=
  fromBytes_eq_ok_iff.mpr (exact_readDisclosure.whole_iff.mpr ⟨built, rfl⟩)

theorem constructed_of_read (read : fromBytes bytes = .ok disclosure) : Constructed disclosure :=
  (exact_readDisclosure.whole_iff.mp (fromBytes_eq_ok_iff.mp read)).1

/-- Every disclosed spend is authorized when each is so by the plan entry it was made from. -/
theorem authorized_of_plan {R : α → β → Prop} {own : α → Prop} (authorized : β → Prop)
    (evidence : β → γ) (made : List.Forall₂ R inputs spends) (plan : ∀ input ∈ inputs, own input)
    (authorizes : ∀ input spend, own input → R input spend → authorized spend) :
    List.Forall₂ (fun spend found => authorized spend ∧ found = evidence spend) spends
      (spends.map evidence) := by
  refine List.forall₂_map_right_iff.mpr (List.forall₂_same.mpr fun spend member => ⟨?_, rfl⟩)
  obtain ⟨input, found, holds⟩ := exists_of_forall₂ made.flip member
  exact authorizes input spend (plan input found) holds

/-- The evidence of the selected outputs, one note for each. -/
theorem outputs_of_plan {Recipient : Type} {sealed : α → RecoveredNote Recipient → Prop}
    (index : α → UInt32) (own : ∀ selection ∈ selections, ∃ note, sealed selection note) :
    ∃ outputs, List.Forall₂ (fun selection (found : OutputEvidence Recipient) => ∃ note,
      sealed selection note ∧
      found = ⟨index selection, note.recipient, note.amountZat, note.memo⟩) selections outputs :=
  forall₂_of_exists fun selection member =>
    (own selection member).elim fun note holds => ⟨_, note, holds, rfl⟩

end Counting

section Produced

variable {params : ConsensusParameters schemes} {transaction : Transaction schemes}

/-- A produced Ironwood disclosure is accepted, and its evidence lists what the plan selected. -/
theorem ironwood_accepted (correct : schemes.Correct)
    (parsed : parseTransaction params transactionBytes minedHeight = .ok transaction)
    {plan : IronwoodDisclosurePlan schemes.ironwood} (own : plan.Of params transaction)
    (ran : (signIronwoodDisclosure schemes.ironwood schemes.blake2b plan ask).run rng =
      .ok (disclosure, stop)) :
    Constructed disclosure ∧ ∃ evidence,
      verifyDisclosure params disclosure transactionBytes minedHeight = .ok evidence ∧
      evidence.CountsOnce params transaction minedHeight disclosure ∧
      evidence.ironwoodSpends.map (·.index) = plan.ironwoodSpends.map (·.index) ∧
      List.Forall₂ (fun selection found => ∃ note, selection.Seals transaction note ∧
        found = ⟨selection.index, note.recipient, note.amountZat, note.memo⟩)
        plan.ironwoodOutputs evidence.ironwoodOutputs ∧
      evidence.saplingSpends = [] ∧ evidence.saplingOutputs = [] := by
  obtain ⟨spends, built, made⟩ := run_signIronwoodDisclosure ran
  have constructed : Constructed disclosure := .ironwood built
  have fields := (ironwoodExtension_iff.mp built).2
  rw [own.network] at made
  have authorized := authorized_of_plan (AuthorizesIronwood transaction.ironwoodActions
    (disclosure.computeDigest schemes.blake2b params.networkType))
    (fun spend => IronwoodSpendEvidence.mk spend.index) made own.spends (by
        rintro input spend ⟨action, atIndex, key⟩ ⟨index, valid⟩
        exact ⟨action, index ▸ atIndex, key ▸ valid⟩)
  obtain ⟨outputs, recovered⟩ := outputs_of_plan (·.index) own.outputs
  have supported : PaymentDisclosureEvidence.Supported ⟨transaction.txid, [], [],
      spends.map fun spend => IronwoodSpendEvidence.mk spend.index, outputs⟩
      params transaction minedHeight disclosure := by
    refine ⟨rfl, ?_, ?_, ?_, ?_, ?_⟩
    · rw [fields]
      exact own.transactionId.symm
    · rw [fields]
      exact .nil
    · rw [fields]
      exact .nil
    · rw [congrArg PaymentDisclosure.ironwoodSpends fields]
      exact authorized
    · rw [congrArg PaymentDisclosure.ironwoodOutputs fields,List.forall₂_map_left_iff]
      refine recovered.imp ?_
      rintro selection found ⟨note, ⟨action, atIndex, sealed⟩, rfl⟩
      refine ⟨note, ?_, rfl⟩
      exact Option.bind_eq_some_iff.mpr ⟨action, atIndex, correct.recoversIronwood _ _ _ sealed⟩
  refine ⟨constructed, _, (verifyDisclosure_iff constructed).mpr ⟨transaction, parsed, supported⟩,
    countsOnce_of_supported constructed supported, ?_, recovered, rfl, rfl⟩
  rw [List.map_map]
  exact map_eq_of_forall₂ made fun _ _ holds => holds.1

/-- A spend proved from a note that opens the on-chain spend is authorized by it. -/
theorem authorizesSapling_of_produced (correct : schemes.Correct)
    {input : SaplingSpendProvingInput schemes.sapling}
    {onChainSpend : SaplingSpendDescription schemes}
    (atIndex : transaction.saplingSpends[input.index.toNat]? = some onChainSpend)
    (anchor : input.anchor = onChainSpend.anchor)
    (opens : schemes.sapling.opens input.proofGenerationKey input.recipient input.rseed
      input.amountZat input.witness onChainSpend.anchor onChainSpend.nullifier)
    (produced : ProducedFrom schemes.sapling digest input spend) :
    AuthorizesSapling transaction.saplingSpends digest spend := by
  obtain ⟨unsigned, ⟨scalarRng, trapdoorRng, proofRng, scalar, circuit, scalarOf, prepared, index,
    cv, rk, zkproof, -⟩, told, valid⟩ := produced
  simp only [SaplingSpendDisclosure.statement,UnsignedSaplingSpend.placeholder,
    SaplingSpendStatement.mk.injEq] at told
  obtain ⟨toldIndex, toldCv, toldRk, toldProof⟩ := told
  refine ⟨onChainSpend, schemes.sapling.commit input.amountZat
    (schemes.sapling.randomTrapdoor trapdoorRng).1, unsigned.rk,
    (schemes.sapling.createProof circuit proofRng).1, ?_, ?_, ?_, ?_, ?_⟩
  · rw [toldIndex,index]
    exact atIndex
  · rw [toldCv,cv]
    exact correct.readCommitment _ trapdoorRng
  · rw [toldRk]
    exact correct.readKey _
  · rw [toldProof,zkproof]
    exact correct.readProof _
  · rw [rk] at valid ⊢
    rw [anchor] at scalarOf
    exact correct.complete _ _ _ _ _ _ _ _ _ _ _ _ _ _ opens scalarOf prepared valid

/-- A produced Sapling disclosure is accepted, and its evidence lists what the plan selected. -/
theorem sapling_accepted (correct : schemes.Correct)
    (parsed : parseTransaction params transactionBytes minedHeight = .ok transaction)
    {plan : PaymentDisclosurePlan schemes.sapling} (own : plan.Of params transaction minedHeight)
    (ran : (proveDisclosure schemes.sapling schemes.blake2b plan ask).run rng =
      .ok (disclosure, stop)) :
    Constructed disclosure ∧ ∃ evidence,
      verifyDisclosure params disclosure transactionBytes minedHeight = .ok evidence ∧
      evidence.CountsOnce params transaction minedHeight disclosure ∧
      evidence.saplingSpends.map (·.index) = plan.saplingSpends.map (·.index) ∧
      List.Forall₂ (fun selection found => ∃ note,
        selection.Seals transaction (params.zip212Enforcement minedHeight) note ∧
        found = ⟨selection.index, note.recipient, note.amountZat, note.memo⟩)
        plan.saplingOutputs evidence.saplingOutputs ∧
      evidence.ironwoodSpends = [] ∧ evidence.ironwoodOutputs = [] := by
  obtain ⟨spends, built, made⟩ := run_proveDisclosure ran
  have constructed : Constructed disclosure := .draft1 built
  have fields := (new_iff.mp built).2.2
  rw [own.network] at made
  have authorized := authorized_of_plan (AuthorizesSapling transaction.saplingSpends
    (disclosure.computeDigest schemes.blake2b params.networkType))
    (fun spend => SaplingSpendEvidence.mk spend.index) made own.spends (by
        rintro input spend ⟨onChainSpend, atIndex, anchor, opens⟩ produced
        exact authorizesSapling_of_produced correct atIndex anchor opens produced)
  obtain ⟨outputs, recovered⟩ := outputs_of_plan (·.index) own.outputs
  have supported : PaymentDisclosureEvidence.Supported ⟨transaction.txid,
      spends.map fun spend => SaplingSpendEvidence.mk spend.index, outputs, [], []⟩
      params transaction minedHeight disclosure := by
    refine ⟨rfl, ?_, ?_, ?_, ?_, ?_⟩
    · rw [fields]
      exact own.transactionId.symm
    · rw [congrArg PaymentDisclosure.saplingSpends fields]
      exact authorized
    · rw [congrArg PaymentDisclosure.saplingOutputs fields,List.forall₂_map_left_iff]
      refine recovered.imp ?_
      rintro selection found ⟨note, ⟨output, atIndex, sealed⟩, rfl⟩
      refine ⟨note, ?_, rfl⟩
      exact Option.bind_eq_some_iff.mpr ⟨output, atIndex, correct.recoversSapling _ _ _ _ sealed⟩
    · rw [fields]
      exact .nil
    · rw [fields]
      exact .nil
  refine ⟨constructed, _, (verifyDisclosure_iff constructed).mpr ⟨transaction, parsed, supported⟩,
    countsOnce_of_supported constructed supported, ?_, recovered, rfl, rfl⟩
  rw [List.map_map]
  refine map_eq_of_forall₂ made ?_
  rintro input spend ⟨unsigned, ⟨_, _, _, _, _, -, -, index, -⟩, told, -⟩
  exact (congrArg SaplingSpendStatement.index told).trans index

end Produced

/-- The digests of two disclosures do not collide. -/
def NoCollision (blake2b : (personal message : List UInt8) → Digest) (network : NetworkType)
    (first : PaymentDisclosure) (otherNetwork : NetworkType) (second : PaymentDisclosure) : Prop :=
  first.computeDigest blake2b network = second.computeDigest blake2b otherNetwork →
    leBytes 4 network.coinType = leBytes 4 otherNetwork.coinType ∧
      first.unsignedBytes = second.unsignedBytes

/-- Two disclosures that say the same for networks of one coin. -/
def SameStatement (network : NetworkType) (first : PaymentDisclosure) (otherNetwork : NetworkType)
    (second : PaymentDisclosure) : Prop :=
  first.statement = second.statement ∧ network.coinType = otherNetwork.coinType

theorem sameStatement_of_digest (built : Constructed first) (otherBuilt : Constructed second)
    (apart : NoCollision blake2b network first otherNetwork second)
    (same : first.computeDigest blake2b network = second.computeDigest blake2b otherNetwork) :
    SameStatement network first otherNetwork second := by
  obtain ⟨coins, preimages⟩ := apart same
  refine ⟨(delimits_unsignedBytes built otherBuilt (congrArg (· ++ []) preimages)).1, ?_⟩
  have small : ∀ network : NetworkType, network.coinType < 256 ^ 4 := by
    intro network
    cases network <;> decide
  have numbers := congrArg ofLeBytes coins
  rwa [ofLeBytes_leBytes (small network),ofLeBytes_leBytes (small otherNetwork)] at numbers

section Bound

variable {params : ConsensusParameters schemes} {evidence : PaymentDisclosureEvidence schemes}

/-- A signature of a produced Ironwood disclosure is accepted in no disclosure that says more,
less or something else. -/
theorem ironwood_bound (correct : schemes.Correct)
    {plan : IronwoodDisclosurePlan schemes.ironwood}
    (ran : (signIronwoodDisclosure schemes.ironwood schemes.blake2b plan ask).run rng =
      .ok (made, stop))
    (built : Constructed disclosure)
    (accepted : verifyDisclosure params disclosure transactionBytes minedHeight = .ok evidence)
    (reused : ∃ spend ∈ made.ironwoodSpends, ∃ copied ∈ disclosure.ironwoodSpends,
      copied.spendAuthSig = spend.spendAuthSig)
    (apart : NoCollision schemes.blake2b plan.network made params.networkType disclosure) :
    SameStatement plan.network made params.networkType disclosure := by
  obtain ⟨spend, signed, copied, disclosed, same⟩ := reused
  obtain ⟨spends, extension, rounds⟩ := run_signIronwoodDisclosure ran
  obtain ⟨transaction, -, supported⟩ := (verifyDisclosure_iff built).mp accepted
  obtain ⟨found, -, ⟨action, -, valid⟩, -⟩ := exists_of_forall₂ supported.ironwoodSpends disclosed
  rw [congrArg PaymentDisclosure.ironwoodSpends (ironwoodExtension_iff.mp extension).2] at signed
  obtain ⟨input, -, -, made⟩ := exists_of_forall₂ rounds.flip signed
  rw [same] at valid
  exact sameStatement_of_digest (.ironwood extension) built apart
    (correct.ironwoodBinds _ _ _ _ _ made valid)

theorem sapling_bound (correct : schemes.Correct)
    {plan : PaymentDisclosurePlan schemes.sapling}
    (ran : (proveDisclosure schemes.sapling schemes.blake2b plan ask).run rng = .ok (made, stop))
    (built : Constructed disclosure)
    (accepted : verifyDisclosure params disclosure transactionBytes minedHeight = .ok evidence)
    (reused : ∃ spend ∈ made.saplingSpends, ∃ copied ∈ disclosure.saplingSpends,
      copied.spendAuthSig = spend.spendAuthSig)
    (apart : NoCollision schemes.blake2b plan.network made params.networkType disclosure) :
    SameStatement plan.network made params.networkType disclosure := by
  obtain ⟨spend, signed, copied, disclosed, same⟩ := reused
  obtain ⟨spends, draft1, rounds⟩ := run_proveDisclosure ran
  obtain ⟨transaction, -, supported⟩ := (verifyDisclosure_iff built).mp accepted
  obtain ⟨found, -, ⟨onChainSpend, cv, rk, zkproof, -, -, -, -, checked⟩, -⟩ :=
    exists_of_forall₂ supported.saplingSpends disclosed
  rw [congrArg PaymentDisclosure.saplingSpends (new_iff.mp draft1).2.2] at signed
  obtain ⟨input, -, unsigned, -, -, made⟩ := exists_of_forall₂ rounds.flip signed
  have valid := correct.signed _ _ _ _ _ _ _ checked
  rw [same] at valid
  exact sameStatement_of_digest (.draft1 draft1) built apart
    (correct.saplingBinds _ _ _ _ _ made valid)

end Bound

/-- The contract between the producer and the verifier over one mined transaction. -/
structure Agrees (params : ConsensusParameters schemes) (transaction : Transaction schemes)
    (transactionBytes : List UInt8) (minedHeight : BlockHeight) : Prop where
  ironwood : ∀ plan ask rng disclosure stop, plan.Of params transaction →
    (signIronwoodDisclosure schemes.ironwood schemes.blake2b plan ask).run rng =
      .ok (disclosure, stop) →
    fromBytes disclosure.toBytes = .ok disclosure ∧ ∃ evidence,
      verifyDisclosure params disclosure transactionBytes minedHeight = .ok evidence ∧
      evidence.CountsOnce params transaction minedHeight disclosure ∧
      evidence.ironwoodSpends.map (·.index) = plan.ironwoodSpends.map (·.index) ∧
      List.Forall₂ (fun selection found => ∃ note, selection.Seals transaction note ∧
        found = ⟨selection.index, note.recipient, note.amountZat, note.memo⟩)
        plan.ironwoodOutputs evidence.ironwoodOutputs ∧
      evidence.saplingSpends = [] ∧ evidence.saplingOutputs = []
  sapling : ∀ plan ask rng disclosure stop, plan.Of params transaction minedHeight →
    (proveDisclosure schemes.sapling schemes.blake2b plan ask).run rng = .ok (disclosure, stop) →
    fromBytes disclosure.toBytes = .ok disclosure ∧ ∃ evidence,
      verifyDisclosure params disclosure transactionBytes minedHeight = .ok evidence ∧
      evidence.CountsOnce params transaction minedHeight disclosure ∧
      evidence.saplingSpends.map (·.index) = plan.saplingSpends.map (·.index) ∧
      List.Forall₂ (fun selection found => ∃ note,
        selection.Seals transaction (params.zip212Enforcement minedHeight) note ∧
        found = ⟨selection.index, note.recipient, note.amountZat, note.memo⟩)
        plan.saplingOutputs evidence.saplingOutputs ∧
      evidence.ironwoodSpends = [] ∧ evidence.ironwoodOutputs = []
  countsOnce : ∀ bytes disclosure evidence, fromBytes bytes = .ok disclosure →
    verifyDisclosure params disclosure transactionBytes minedHeight = .ok evidence →
    evidence.CountsOnce params transaction minedHeight disclosure
  ironwoodBound : ∀ plan ask rng made stop bytes disclosure evidence,
    (signIronwoodDisclosure schemes.ironwood schemes.blake2b plan ask).run rng = .ok (made, stop) →
    fromBytes bytes = .ok disclosure →
    verifyDisclosure params disclosure transactionBytes minedHeight = .ok evidence →
    (∃ spend ∈ made.ironwoodSpends, ∃ copied ∈ disclosure.ironwoodSpends,
      copied.spendAuthSig = spend.spendAuthSig) →
    NoCollision schemes.blake2b plan.network made params.networkType disclosure →
    SameStatement plan.network made params.networkType disclosure
  saplingBound : ∀ plan ask rng made stop bytes disclosure evidence,
    (proveDisclosure schemes.sapling schemes.blake2b plan ask).run rng = .ok (made, stop) →
    fromBytes bytes = .ok disclosure →
    verifyDisclosure params disclosure transactionBytes minedHeight = .ok evidence →
    (∃ spend ∈ made.saplingSpends, ∃ copied ∈ disclosure.saplingSpends,
      copied.spendAuthSig = spend.spendAuthSig) →
    NoCollision schemes.blake2b plan.network made params.networkType disclosure →
    SameStatement plan.network made params.networkType disclosure

/-- Under correct schemes the producer and the verifier agree over every transaction. -/
theorem producer_verifier_agree (schemes : DisclosureSchemes ρ) (correct : schemes.Correct)
    (params : ConsensusParameters schemes) (transaction : Transaction schemes)
    (transactionBytes : List UInt8) (minedHeight : BlockHeight)
    (parsed : parseTransaction params transactionBytes minedHeight = .ok transaction) :
    Agrees params transaction transactionBytes minedHeight where
  ironwood plan ask rng disclosure stop own ran := by
    obtain ⟨built, accepted⟩ := ironwood_accepted correct parsed own ran
    exact ⟨reads_back built, accepted⟩
  sapling plan ask rng disclosure stop own ran := by
    obtain ⟨built, accepted⟩ := sapling_accepted correct parsed own ran
    exact ⟨reads_back built, accepted⟩
  countsOnce bytes disclosure evidence read accepted := by
    have built := constructed_of_read read
    obtain ⟨found, reparsed, supported⟩ := (verifyDisclosure_iff built).mp accepted
    rw [parsed] at reparsed
    obtain rfl := Except.ok.inj reparsed
    exact countsOnce_of_supported built supported
  ironwoodBound plan ask rng made stop bytes disclosure evidence ran read :=
    ironwood_bound correct ran (constructed_of_read read)
  saplingBound plan ask rng made stop bytes disclosure evidence ran read :=
    sapling_bound correct ran (constructed_of_read read)

/-! ### Schemes of bytes -/

def sampleSig (key : UInt8) (digest : Digest) : SpendAuthSig := digest ++ Vector.replicate 32 key

/-- Keys are bytes, and a signature spells out its digest and its key. -/
def sampleAuth : SpendAuthScheme UInt8 where
  AuthorizingKey := UInt8
  Randomizer := UInt8
  SigningKey := UInt8
  VerificationKey := UInt8
  sameKey := inferInstance
  randomize := fun (ask alpha : UInt8) => ask + alpha
  verificationKey key := key
  sign key digest rng := (sampleSig key digest, rng + 1)
  verify key digest sig := sig = sampleSig key digest

def sampleSapling : SaplingScheme UInt8 where
  toSpendAuthScheme := sampleAuth
  ValidatingKey := UInt8
  sameValidatingKey := inferInstance
  validatingKey ask := ask
  randomizePublic := fun (ak alpha : UInt8) => ak + alpha
  keyBytes key := Vector.replicate 32 key
  readKey bytes := .ok bytes[0]
  randomScalar rng := (rng, rng + 1)
  Trapdoor := UInt8
  randomTrapdoor rng := (rng, rng + 1)
  Commitment := UInt8
  commit _ rcv := rcv
  commitmentBytes cv := Vector.replicate 32 cv
  readCommitment bytes := some bytes[0]
  ProofGenerationKey := UInt8
  ak pgk := pgk
  PaymentAddress := UInt8
  Diversifier := UInt8
  diversifier address := address
  Rseed := UInt8
  Anchor := UInt8
  AnchorScalar := UInt8
  anchorScalar anchor := some anchor
  MerklePath := UInt8
  Circuit := UInt8
  prepareCircuit _ _ _ _ _ _ anchor _ := some anchor
  Proof := UInt8
  createProof circuit rng := (circuit, rng + 1)
  encodeProof proof := Vector.replicate 192 proof
  readProof bytes := .ok bytes[0]
  Nullifier := UInt8
  checkSpend _ anchor _ rk digest sig proof := decide (proof = anchor) && sampleAuth.verify rk digest sig
  opens _ _ rseed _ _ _ nullifier := nullifier = rseed

def sampleSchemes : DisclosureSchemes UInt8 where
  blake2b personal message := Vector.replicate 32 ((personal ++ message).foldl (· + ·) 0)
  sapling := sampleSapling
  ironwood := sampleAuth
  SaplingOutput := OutgoingCipherKey × RecoveredNote UInt8
  Zip212Enforcement := Unit
  recoverSaplingOutput ock output _ := if output.1 = ock then some output.2 else none
  sealsSapling ock note output _ := output = (ock, note)
  IronwoodOutput := OutgoingCipherKey × RecoveredNote UInt8
  IronwoodAddress := UInt8
  recoverIronwoodOutput ock output := if output.1 = ock then some output.2 else none
  sealsIronwood ock note output := output = (ock, note)

theorem sampleSig_binds (first : sig = sampleSig key digest) (second : sig = sampleSig other otherDigest) :
    digest = otherDigest := Vector.append_inj_left (first.symm.trans second)

theorem sampleSchemes_correct : sampleSchemes.Correct where
  readKey _ := rfl
  readProof _ := rfl
  readCommitment _ _ := rfl
  complete pgk address rseed amount path anchor scalar nullifier scalarRng trapdoorRng proofRng
      circuit digest sig := by
    intro alpha rcv rk opens scalarOf prepared valid
    obtain rfl := Option.some.inj scalarOf
    obtain rfl := Option.some.inj prepared
    have same : ∀ byte : UInt8, decide (byte = byte) = true := fun byte => decide_eq_true rfl
    exact Bool.and_eq_true_iff.mpr ⟨same anchor, valid⟩
  signed cv anchor nullifier rk digest sig proof checked := (Bool.and_eq_true_iff.mp checked).2
  saplingBinds key other digest otherDigest sig first second :=
    sampleSig_binds (of_decide_eq_true first) (of_decide_eq_true second)
  ironwoodBinds key other digest otherDigest sig first second :=
    sampleSig_binds (of_decide_eq_true first) (of_decide_eq_true second)
  recoversSapling ock note output enforcement sealed := by
    obtain rfl : output = (ock, note) := sealed
    exact if_pos rfl
  recoversIronwood ock note output sealed := by
    obtain rfl : output = (ock, note) := sealed
    exact if_pos rfl

def sampleNote : RecoveredNote UInt8 := ⟨6, 40000, Vector.replicate 512 0⟩

def sampleOck : OutgoingCipherKey := Vector.replicate 32 8

/-- A transaction with two spends of each pool; the second Ironwood action has the key of the
plan. -/
def sampleTransaction : Transaction sampleSchemes where
  txid := 5
  saplingBundle := some ⟨[⟨(9 : UInt8), (4 : UInt8)⟩, ⟨(9 : UInt8), (7 : UInt8)⟩],
    [(sampleOck, sampleNote)]⟩
  ironwoodBundle := some [⟨(1 : UInt8), (sampleOck, sampleNote)⟩, ⟨(3 : UInt8), (sampleOck, sampleNote)⟩]

def sampleParams : ConsensusParameters sampleSchemes where
  networkType := .test
  BranchId := Unit
  branchIdForHeight _ := ()
  zip212Enforcement _ := ()
  readTransaction bytes _ := .ok (sampleTransaction, bytes.length)

def sampleIronwoodPlan : IronwoodDisclosurePlan sampleSchemes.ironwood :=
  ⟨5, .test, [1, 2], [⟨1, (1 : UInt8), (3 : UInt8)⟩], [⟨0, sampleOck⟩]⟩

def samplePlan : PaymentDisclosurePlan sampleSchemes.sapling :=
  ⟨5, .test, [1, 2], [⟨1, (6 : UInt8), 40000, (7 : UInt8), (2 : UInt8), (9 : UInt8), (0 : UInt8)⟩],
    [⟨0, sampleOck⟩]⟩

theorem sampleIronwoodPlan_of : sampleIronwoodPlan.Of sampleParams sampleTransaction where
  transactionId := rfl
  network := rfl
  spends spend member := by
    obtain rfl := List.mem_singleton.mp member
    exact ⟨_, rfl, rfl⟩
  outputs selection member := by
    obtain rfl := List.mem_singleton.mp member
    exact ⟨sampleNote, _, rfl, rfl⟩

theorem samplePlan_of : samplePlan.Of sampleParams sampleTransaction minedHeight where
  transactionId := rfl
  network := rfl
  spends spend member := by
    obtain rfl := List.mem_singleton.mp member
    exact ⟨_, rfl, rfl, rfl⟩
  outputs selection member := by
    obtain rfl := List.mem_singleton.mp member
    exact ⟨sampleNote, _, rfl, rfl⟩

theorem sampleAuth_signs (key : UInt8) (digest : Digest) (rng : UInt8) :
    sampleAuth.verify (sampleAuth.verificationKey key) digest (sampleAuth.sign key digest rng).1 = true := by
  simp only [sampleAuth,decide_true]

theorem sampleIronwoodPlan_produced : ∃ disclosure stop,
    (signIronwoodDisclosure sampleSchemes.ironwood sampleSchemes.blake2b sampleIronwoodPlan
      (2 : UInt8)).run 0 = .ok (disclosure, stop) := by
  refine signIronwoodDisclosure_returns sampleAuth_signs rfl (fun spend member => ?_) 0
  obtain rfl := List.mem_singleton.mp member
  rfl

theorem samplePlan_produced : ∃ disclosure stop,
    (proveDisclosure sampleSchemes.sapling sampleSchemes.blake2b samplePlan (2 : UInt8)).run 0 =
      .ok (disclosure, stop) := by
  refine proveDisclosure_returns sampleAuth_signs (fun _ _ => rfl) rfl (fun input member => ?_) 0
  obtain rfl := List.mem_singleton.mp member
  exact ⟨rfl, _, rfl, fun _ _ => ⟨_, rfl⟩⟩

/-- Both pools of the sample produce disclosures that its verifier accepts. -/
theorem sample_agrees :
    (∃ disclosure stop evidence,
      (signIronwoodDisclosure sampleSchemes.ironwood sampleSchemes.blake2b sampleIronwoodPlan
        (2 : UInt8)).run 0 = .ok (disclosure, stop) ∧
      verifyDisclosure sampleParams disclosure [0] 10 = .ok evidence ∧
      evidence.ironwoodSpends.map (·.index) = [1]) ∧
    ∃ disclosure stop evidence,
      (proveDisclosure sampleSchemes.sapling sampleSchemes.blake2b samplePlan (2 : UInt8)).run 0 =
        .ok (disclosure, stop) ∧
      verifyDisclosure sampleParams disclosure [0] 10 = .ok evidence ∧
      evidence.saplingSpends.map (·.index) = [1] := by
  have agrees := producer_verifier_agree sampleSchemes sampleSchemes_correct sampleParams
    sampleTransaction [0] 10 rfl
  constructor
  · obtain ⟨disclosure, stop, ran⟩ := sampleIronwoodPlan_produced
    obtain ⟨-, evidence, accepted, -, listed, -⟩ :=
      agrees.ironwood sampleIronwoodPlan (2 : UInt8) 0 disclosure stop sampleIronwoodPlan_of ran
    exact ⟨disclosure, stop, evidence, ran, accepted, listed⟩
  · obtain ⟨disclosure, stop, ran⟩ := samplePlan_produced
    obtain ⟨-, evidence, accepted, -, listed, -⟩ :=
      agrees.sapling samplePlan (2 : UInt8) 0 disclosure stop samplePlan_of ran
    exact ⟨disclosure, stop, evidence, ran, accepted, listed⟩

end Zally.Disclosure
