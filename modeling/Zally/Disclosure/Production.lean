import Zally.Disclosure.Evidence
import Zally.Disclosure.Produce

/-! What a production returns: the plan's entries in its order, each spend with a signature that
its own randomized key accepts for the digest of the disclosure returned. -/
namespace Zally.Disclosure

open Outcome Wire PaymentDisclosure

variable {ρ : Type}

theorem run_draw {next : ρ → α × ρ} (ran : (draw next).run rng = .ok (value, stop)) :
    value = (next rng).1 := by
  have drawn : next rng = (value, stop) := Except.ok.inj ran
  rw [drawn]

theorem run_codec_iff {outcome : Except PaymentDisclosureCodecError α} {rng : ρ} :
    (codec outcome).run rng = .ok (value, stop) ↔ outcome = .ok value ∧ rng = stop := by
  rw [codec,Reader.run_lift_iff,mapError_ok_iff]

section Signing

variable {scheme : SpendAuthScheme ρ} {rk : scheme.VerificationKey} {entry : SpendAuthSig → α}

/-- A round that signs and checks its own signature. -/
theorem run_signed (ran : ((do
      let sig ← draw (scheme.sign key digest)
      if scheme.verify rk digest sig then pure (entry sig) else throw failed : Production ρ α)).run rng =
      .ok (value, stop)) : ∃ sig, scheme.verify rk digest sig = true ∧ value = entry sig := by
  obtain ⟨sig, middle, -, checked⟩ := Reader.run_bind_iff.mp ran
  split at checked
  · rename_i valid
    obtain ⟨rfl, -⟩ := Reader.run_pure_iff.mp checked
    exact ⟨sig, valid, rfl⟩
  · exact absurd checked Reader.run_throw_ne

theorem signed_returns
    (signs : ∀ rng, scheme.verify (scheme.verificationKey key) digest (scheme.sign key digest rng).1 = true)
    (own : rk = scheme.verificationKey key) (rng : ρ) : ∃ value stop, ((do
      let sig ← draw (scheme.sign key digest)
      if scheme.verify rk digest sig then pure (entry sig) else throw failed : Production ρ α)).run rng =
      .ok (value, stop) := by
  have valid := signs rng
  rw [← own] at valid
  refine Reader.returns_bind rfl ?_
  rw [if_pos valid]
  exact ⟨_, _, rfl⟩

end Signing

section Ironwood

variable {scheme : SpendAuthScheme ρ}

theorem run_randomizeIronwoodSpend {spend : IronwoodSpendSigningInput scheme}
    (ran : (randomizeIronwoodSpend scheme ask spend).run rng = .ok (unsigned, stop)) :
    unsigned.index = spend.index ∧
      unsigned.randomizedVerificationKey = spend.randomizedVerificationKey ∧
      unsigned.randomizedVerificationKey = scheme.verificationKey unsigned.randomizedSigningKey := by
  dsimp only [randomizeIronwoodSpend] at ran
  split at ran
  · exact absurd ran Reader.run_throw_ne
  · rename_i same
    obtain ⟨rfl, -⟩ := Reader.run_pure_iff.mp ran
    exact ⟨rfl, not_not.mp same, rfl⟩

theorem run_signIronwoodSpend {unsigned : UnsignedIronwoodSpend scheme}
    (ran : (signIronwoodSpend scheme digest unsigned).run rng = .ok (spend, stop)) :
    spend.index = unsigned.index ∧
      scheme.verify unsigned.randomizedVerificationKey digest spend.spendAuthSig = true := by
  unfold signIronwoodSpend at ran
  obtain ⟨sig, valid, rfl⟩ := run_signed ran
  exact ⟨rfl, valid⟩

theorem indices_of_signed {unsigned : List (UnsignedIronwoodSpend scheme)}
    (signed : (unsigned.mapM (signIronwoodSpend scheme digest)).run start = .ok (spends, stop)) :
    spends.map (·.index) = unsigned.map (·.index) :=
  map_eq_of_forall₂ (Reader.run_mapM signed) fun _ _ round => by
    obtain ⟨_, _, round⟩ := round
    exact (run_signIronwoodSpend round).1

/-- The signatures are made for the disclosure that carries them: its digest leaves them out. -/
theorem run_signIronwoodDisclosure {plan : IronwoodDisclosurePlan scheme}
    (ran : (signIronwoodDisclosure scheme blake2b plan ask).run rng = .ok (disclosure, stop)) :
    ∃ spends, ironwoodExtension plan.transactionId plan.message spends
        (plan.ironwoodOutputs.map IronwoodOutputSelection.disclosure) = .ok disclosure ∧
      List.Forall₂ (fun input spend => spend.index = input.index ∧
        scheme.verify input.randomizedVerificationKey (disclosure.computeDigest blake2b plan.network)
          spend.spendAuthSig = true) plan.ironwoodSpends spends := by
  obtain ⟨unsigned, middle, randomized, ran⟩ := Reader.run_bind_iff.mp ran
  obtain ⟨placeholder, middle, shaped, ran⟩ := Reader.run_bind_iff.mp ran
  obtain ⟨spends, middle, signed, ran⟩ := Reader.run_bind_iff.mp ran
  obtain ⟨built, -⟩ := run_codec_iff.mp ran
  obtain ⟨shaped, -⟩ := run_codec_iff.mp shaped
  have rounds := Reader.run_mapM signed
  have indices := indices_of_signed signed
  have statements : placeholder.statement = disclosure.statement := by
    rw [(ironwoodExtension_iff.mp shaped).2,(ironwoodExtension_iff.mp built).2]
    simp only [statement,indices,List.map_map]
    rfl
  rw [computeDigest_of_statement statements] at rounds
  refine ⟨spends, built, comp_of_forall₂ (Reader.run_mapM randomized) rounds ?_⟩
  rintro input unsigned spend ⟨_, _, first⟩ ⟨_, _, second⟩
  obtain ⟨index, key, -⟩ := run_randomizeIronwoodSpend first
  obtain ⟨signedIndex, valid⟩ := run_signIronwoodSpend second
  exact ⟨signedIndex.trans index, key ▸ valid⟩

theorem signIronwoodSpend_returns {unsigned : UnsignedIronwoodSpend scheme} (digest : Digest)
    (signs : ∀ key digest rng,
      scheme.verify (scheme.verificationKey key) digest (scheme.sign key digest rng).1 = true)
    (own : unsigned.randomizedVerificationKey = scheme.verificationKey unsigned.randomizedSigningKey)
    (rng : ρ) : ∃ spend stop, (signIronwoodSpend scheme digest unsigned).run rng = .ok (spend, stop) := by
  unfold signIronwoodSpend
  exact signed_returns (signs _ digest) own rng

theorem ironwoodExtension_of_shape (txId : TxId) {spends : List IronwoodSpendDisclosure}
    {selections : List IronwoodOutputSelection}
    (shape : validateIronwoodDisclosureShape text.length indices.length indices selections.length
      (selections.map (·.index)) = .ok ())
    (same : spends.map (·.index) = indices) : ∃ disclosure, ironwoodExtension txId text spends
      (selections.map IronwoodOutputSelection.disclosure) = .ok disclosure := by
  refine ⟨_, ironwoodExtension_iff.mpr ⟨?_, rfl⟩⟩
  have length : spends.length = indices.length := by rw [← same,List.length_map]
  rw [same,length,List.length_map,List.map_map]
  exact shape

/-- A plan of a valid shape whose keys are the authorizing key's own is produced. -/
theorem signIronwoodDisclosure_returns {plan : IronwoodDisclosurePlan scheme}
    (signs : ∀ key digest rng,
      scheme.verify (scheme.verificationKey key) digest (scheme.sign key digest rng).1 = true)
    (shape : validateIronwoodDisclosureShape plan.message.length
      (plan.ironwoodSpends.map (·.index)).length (plan.ironwoodSpends.map (·.index))
      plan.ironwoodOutputs.length (plan.ironwoodOutputs.map (·.index)) = .ok ())
    (keys : ∀ spend ∈ plan.ironwoodSpends,
      scheme.verificationKey (scheme.randomize ask spend.alpha) = spend.randomizedVerificationKey)
    (rng : ρ) : ∃ disclosure stop,
      (signIronwoodDisclosure scheme blake2b plan ask).run rng = .ok (disclosure, stop) := by
  have randomizes : ∀ spend ∈ plan.ironwoodSpends, ∀ start, ∃ unsigned stop,
      (randomizeIronwoodSpend scheme ask spend).run start = .ok (unsigned, stop) := by
    intro spend member start
    rw [randomizeIronwoodSpend,if_neg (not_not.mpr (keys spend member))]
    exact ⟨_, start, rfl⟩
  obtain ⟨unsigned, signing, randomized⟩ := Reader.run_mapM_total randomizes rng
  have rounds := Reader.run_mapM randomized
  have indices : unsigned.map (·.index) = plan.ironwoodSpends.map (·.index) :=
    map_eq_of_forall₂ rounds fun _ _ round => by
      obtain ⟨_, _, round⟩ := round
      exact (run_randomizeIronwoodSpend round).1
  have placeholders : (unsigned.map UnsignedIronwoodSpend.placeholder).map (·.index) =
      plan.ironwoodSpends.map (·.index) := by
    rw [List.map_map]
    exact indices
  obtain ⟨placeholder, shaped⟩ := ironwoodExtension_of_shape plan.transactionId shape placeholders
  have own : ∀ spend ∈ unsigned,
      spend.randomizedVerificationKey = scheme.verificationKey spend.randomizedSigningKey := by
    intro spend member
    obtain ⟨input, -, _, _, round⟩ := exists_of_forall₂ rounds.flip member
    exact (run_randomizeIronwoodSpend round).2.2
  obtain ⟨spends, stop, signed⟩ := Reader.run_mapM_total
    (fun spend member => signIronwoodSpend_returns (placeholder.computeDigest blake2b plan.network)
      signs (own spend member)) signing
  obtain ⟨disclosure, built⟩ := ironwoodExtension_of_shape plan.transactionId shape
    ((indices_of_signed signed).trans indices)
  refine Reader.returns_bind randomized (Reader.returns_bind (run_codec_iff.mpr ⟨shaped, rfl⟩) ?_)
  exact Reader.returns_bind signed ⟨_, _, run_codec_iff.mpr ⟨built, rfl⟩⟩

end Ironwood

section Sapling

variable {scheme : SaplingScheme ρ}

/-- An unsigned spend and the fresh randomness it was proved with. -/
def ProvedWith (input : SaplingSpendProvingInput scheme) (unsigned : UnsignedSaplingSpend scheme) :
    Prop :=
  ∃ scalarRng trapdoorRng proofRng anchor circuit,
    scheme.anchorScalar input.anchor = some anchor ∧
    scheme.prepareCircuit input.proofGenerationKey (scheme.diversifier input.recipient) input.rseed
      input.amountZat (scheme.randomScalar scalarRng).1 (scheme.randomTrapdoor trapdoorRng).1 anchor
      input.witness = some circuit ∧
    unsigned.index = input.index ∧
    unsigned.cv = scheme.commitmentBytes
      (scheme.commit input.amountZat (scheme.randomTrapdoor trapdoorRng).1) ∧
    unsigned.rk = scheme.randomizePublic (scheme.ak input.proofGenerationKey)
      (scheme.randomScalar scalarRng).1 ∧
    unsigned.zkproof = scheme.encodeProof (scheme.createProof circuit proofRng).1 ∧
    unsigned.rk = scheme.verificationKey unsigned.randomizedAsk

theorem run_proveCircuit {input : SaplingSpendProvingInput scheme}
    (ran : (proveCircuit scheme input alpha rcv).run rng = .ok (proof, stop)) :
    ∃ anchor circuit, scheme.anchorScalar input.anchor = some anchor ∧
      scheme.prepareCircuit input.proofGenerationKey (scheme.diversifier input.recipient) input.rseed
        input.amountZat alpha rcv anchor input.witness = some circuit ∧
      proof = (scheme.createProof circuit rng).1 := by
  unfold proveCircuit at ran
  split at ran
  · exact absurd ran Reader.run_throw_ne
  · rename_i anchor found
    split at ran
    · exact absurd ran Reader.run_throw_ne
    · rename_i circuit prepared
      exact ⟨anchor, circuit, found, prepared, run_draw ran⟩

theorem run_proveOwnedSpend {input : SaplingSpendProvingInput scheme}
    (ran : (proveOwnedSpend scheme ask input).run rng = .ok (unsigned, stop)) :
    ProvedWith input unsigned := by
  unfold proveOwnedSpend at ran
  split at ran
  · exact absurd ran Reader.run_throw_ne
  obtain ⟨alpha, trapdoorRng, drawn, ran⟩ := Reader.run_bind_iff.mp ran
  obtain ⟨rcv, circuitRng, drawnTrapdoor, ran⟩ := Reader.run_bind_iff.mp ran
  obtain rfl := run_draw drawn
  obtain rfl := run_draw drawnTrapdoor
  dsimp only at ran
  split at ran
  · exact absurd ran Reader.run_throw_ne
  rename_i same
  obtain ⟨proof, last, proved, ran⟩ := Reader.run_bind_iff.mp ran
  obtain ⟨anchor, circuit, found, prepared, rfl⟩ := run_proveCircuit proved
  obtain ⟨rfl, -⟩ := Reader.run_pure_iff.mp ran
  exact ⟨_, _, _, anchor, circuit, found, prepared, rfl, rfl, rfl, rfl,
    (not_not.mp same).symm⟩

theorem run_signSaplingSpend {unsigned : UnsignedSaplingSpend scheme}
    (ran : (signSaplingSpend scheme digest unsigned).run rng = .ok (spend, stop)) :
    spend.statement = unsigned.placeholder.statement ∧
      scheme.verify unsigned.rk digest spend.spendAuthSig = true := by
  unfold signSaplingSpend at ran
  obtain ⟨sig, valid, rfl⟩ := run_signed ran
  exact ⟨rfl, valid⟩

/-- What a produced Sapling spend shows of its input. -/
def ProducedFrom (scheme : SaplingScheme ρ) (digest : Digest) (input : SaplingSpendProvingInput scheme)
    (spend : SaplingSpendDisclosure) : Prop :=
  ∃ unsigned, ProvedWith input unsigned ∧ spend.statement = unsigned.placeholder.statement ∧
    scheme.verify unsigned.rk digest spend.spendAuthSig = true

theorem run_proveDisclosure {plan : PaymentDisclosurePlan scheme}
    (ran : (proveDisclosure scheme blake2b plan ask).run rng = .ok (disclosure, stop)) :
    ∃ spends, PaymentDisclosure.new .zip311Draft1 plan.transactionId plan.message spends
        (plan.saplingOutputs.map SaplingOutputSelection.disclosure) = .ok disclosure ∧
      List.Forall₂ (ProducedFrom scheme (disclosure.computeDigest blake2b plan.network))
        plan.saplingSpends spends := by
  obtain ⟨unsigned, middle, proved, ran⟩ := Reader.run_bind_iff.mp ran
  obtain ⟨placeholder, middle, shaped, ran⟩ := Reader.run_bind_iff.mp ran
  obtain ⟨spends, middle, signed, ran⟩ := Reader.run_bind_iff.mp ran
  obtain ⟨built, -⟩ := run_codec_iff.mp ran
  obtain ⟨shaped, -⟩ := run_codec_iff.mp shaped
  have rounds := Reader.run_mapM signed
  have same : spends.map SaplingSpendDisclosure.statement =
      unsigned.map fun spend => spend.placeholder.statement :=
    map_eq_of_forall₂ rounds fun _ _ round => by
      obtain ⟨_, _, round⟩ := round
      exact (run_signSaplingSpend round).1
  have statements : placeholder.statement = disclosure.statement := by
    rw [(new_iff.mp shaped).2.2,(new_iff.mp built).2.2]
    simp only [statement,same,List.map_map]
    rfl
  rw [computeDigest_of_statement statements] at rounds
  refine ⟨spends, built, comp_of_forall₂ (Reader.run_mapM proved) rounds ?_⟩
  rintro input unsigned spend ⟨_, _, first⟩ ⟨_, _, second⟩
  obtain ⟨told, valid⟩ := run_signSaplingSpend second
  exact ⟨unsigned, run_proveOwnedSpend first, told, valid⟩

theorem proveCircuit_eq {input : SaplingSpendProvingInput scheme}
    (found : scheme.anchorScalar input.anchor = some anchor)
    (prepared : scheme.prepareCircuit input.proofGenerationKey (scheme.diversifier input.recipient)
      input.rseed input.amountZat alpha rcv anchor input.witness = some circuit) :
    proveCircuit scheme input alpha rcv = draw (scheme.createProof circuit) := by
  simp only [proveCircuit,found,prepared]

/-- What an authorizing key needs to prove an input: the input is its own, and its circuit can be
prepared whatever is drawn. -/
structure Provable (scheme : SaplingScheme ρ) (ask : scheme.AuthorizingKey)
    (input : SaplingSpendProvingInput scheme) : Prop where
  own : scheme.ak input.proofGenerationKey = scheme.validatingKey ask
  circuit : ∃ anchor, scheme.anchorScalar input.anchor = some anchor ∧ ∀ alpha rcv, ∃ circuit,
    scheme.prepareCircuit input.proofGenerationKey (scheme.diversifier input.recipient) input.rseed
      input.amountZat alpha rcv anchor input.witness = some circuit

theorem proveOwnedSpend_returns {input : SaplingSpendProvingInput scheme}
    (randomizes : ∀ ask alpha, scheme.verificationKey (scheme.randomize ask alpha) =
      scheme.randomizePublic (scheme.validatingKey ask) alpha)
    (provable : Provable scheme ask input) (rng : ρ) :
    ∃ unsigned stop, (proveOwnedSpend scheme ask input).run rng = .ok (unsigned, stop) := by
  obtain ⟨anchor, found, prepares⟩ := provable.circuit
  have same := randomizes ask (scheme.randomScalar rng).1
  rw [← provable.own] at same
  obtain ⟨circuit, prepared⟩ := prepares (scheme.randomScalar rng).1
    (scheme.randomTrapdoor (scheme.randomScalar rng).2).1
  rw [proveOwnedSpend,if_neg (not_not.mpr provable.own)]
  refine Reader.returns_bind rfl (Reader.returns_bind rfl ?_)
  rw [if_neg (not_not.mpr same)]
  rw [proveCircuit_eq found prepared]
  exact Reader.returns_bind rfl ⟨_, _, rfl⟩

theorem signSaplingSpend_returns {unsigned : UnsignedSaplingSpend scheme} (digest : Digest)
    (signs : ∀ key digest rng,
      scheme.verify (scheme.verificationKey key) digest (scheme.sign key digest rng).1 = true)
    (own : unsigned.rk = scheme.verificationKey unsigned.randomizedAsk)
    (rng : ρ) : ∃ spend stop, (signSaplingSpend scheme digest unsigned).run rng = .ok (spend, stop) := by
  unfold signSaplingSpend
  exact signed_returns (signs _ digest) own rng

theorem new_of_shape (txId : TxId) {spends : List SaplingSpendDisclosure}
    {selections : List SaplingOutputSelection}
    (shape : validateDisclosureShape text.length indices.length indices selections.length
      (selections.map (·.index)) = .ok ())
    (same : spends.map (·.index) = indices) : ∃ disclosure, PaymentDisclosure.new .zip311Draft1 txId
      text spends (selections.map SaplingOutputSelection.disclosure) = .ok disclosure := by
  refine ⟨_, new_iff.mpr ⟨rfl, ?_, rfl⟩⟩
  have length : spends.length = indices.length := by rw [← same,List.length_map]
  rw [same,length,List.length_map,List.map_map]
  exact shape

/-- A plan of a valid shape whose inputs are provable by the authorizing key is produced. -/
theorem proveDisclosure_returns {plan : PaymentDisclosurePlan scheme}
    (signs : ∀ key digest rng,
      scheme.verify (scheme.verificationKey key) digest (scheme.sign key digest rng).1 = true)
    (randomizes : ∀ ask alpha, scheme.verificationKey (scheme.randomize ask alpha) =
      scheme.randomizePublic (scheme.validatingKey ask) alpha)
    (shape : validateDisclosureShape plan.message.length (plan.saplingSpends.map (·.index)).length
      (plan.saplingSpends.map (·.index)) plan.saplingOutputs.length
      (plan.saplingOutputs.map (·.index)) = .ok ())
    (provable : ∀ input ∈ plan.saplingSpends, Provable scheme ask input) (rng : ρ) :
    ∃ disclosure stop, (proveDisclosure scheme blake2b plan ask).run rng = .ok (disclosure, stop) := by
  obtain ⟨unsigned, signing, proved⟩ := Reader.run_mapM_total
    (fun input member => proveOwnedSpend_returns randomizes (provable input member)) rng
  have rounds := Reader.run_mapM proved
  have own : ∀ spend ∈ unsigned, spend.rk = scheme.verificationKey spend.randomizedAsk := by
    intro spend member
    obtain ⟨input, -, _, _, round⟩ := exists_of_forall₂ rounds.flip member
    obtain ⟨_, _, _, _, _, -, -, -, -, -, -, key⟩ := run_proveOwnedSpend round
    exact key
  have indices : (unsigned.map UnsignedSaplingSpend.placeholder).map (·.index) =
      plan.saplingSpends.map (·.index) := by
    rw [List.map_map]
    refine map_eq_of_forall₂ rounds ?_
    rintro input spend ⟨_, _, round⟩
    obtain ⟨_, _, _, _, _, -, -, index, -⟩ := run_proveOwnedSpend round
    exact index
  obtain ⟨placeholder, shaped⟩ := new_of_shape plan.transactionId shape indices
  obtain ⟨spends, stop, signed⟩ := Reader.run_mapM_total
    (fun spend member => signSaplingSpend_returns (placeholder.computeDigest blake2b plan.network)
      signs (own spend member)) signing
  have signedIndices : spends.map (·.index) =
      (unsigned.map UnsignedSaplingSpend.placeholder).map (·.index) := by
    rw [List.map_map]
    refine map_eq_of_forall₂ (Reader.run_mapM signed) ?_
    rintro unsigned spend ⟨_, _, round⟩
    exact congrArg SaplingSpendStatement.index (run_signSaplingSpend round).1
  obtain ⟨disclosure, built⟩ := new_of_shape plan.transactionId shape (signedIndices.trans indices)
  refine Reader.returns_bind proved (Reader.returns_bind (run_codec_iff.mpr ⟨shaped, rfl⟩) ?_)
  exact Reader.returns_bind signed ⟨_, _, run_codec_iff.mpr ⟨built, rfl⟩⟩

end Sapling

end Zally.Disclosure
