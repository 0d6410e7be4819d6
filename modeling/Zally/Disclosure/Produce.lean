import Zally.Disclosure.Schemes

/-! The production of payment disclosures: a plan's spends are randomized, the unsigned
disclosure is hashed, and every spend signs the hash. -/
namespace Zally.Disclosure

open Wire

variable {ρ : Type}

structure SaplingSpendProvingInput (scheme : SaplingScheme ρ) where
  index : UInt32
  recipient : scheme.PaymentAddress
  amountZat : UInt64
  rseed : scheme.Rseed
  proofGenerationKey : scheme.ProofGenerationKey
  anchor : scheme.Anchor
  witness : scheme.MerklePath

structure SaplingOutputSelection where
  index : UInt32
  ock : OutgoingCipherKey
  deriving DecidableEq

def SaplingOutputSelection.disclosure (output : SaplingOutputSelection) : SaplingOutputDisclosure :=
  ⟨output.index, output.ock⟩

structure IronwoodSpendSigningInput (scheme : SpendAuthScheme ρ) where
  index : UInt32
  alpha : scheme.Randomizer
  randomizedVerificationKey : scheme.VerificationKey

structure IronwoodOutputSelection where
  index : UInt32
  ock : OutgoingCipherKey
  deriving DecidableEq

def IronwoodOutputSelection.disclosure (output : IronwoodOutputSelection) :
    IronwoodOutputDisclosure := ⟨output.index, output.ock⟩

structure IronwoodDisclosurePlan (scheme : SpendAuthScheme ρ) where
  transactionId : TxId
  network : NetworkType
  message : List UInt8
  ironwoodSpends : List (IronwoodSpendSigningInput scheme)
  ironwoodOutputs : List IronwoodOutputSelection

def IronwoodDisclosurePlan.new {scheme : SpendAuthScheme ρ} (transactionId : TxId)
    (network : NetworkType) (message : List UInt8)
    (ironwoodSpends : List (IronwoodSpendSigningInput scheme))
    (ironwoodOutputs : List IronwoodOutputSelection) :
    Except PaymentDisclosureCodecError (IronwoodDisclosurePlan scheme) := do
  validateIronwoodDisclosureShape message.length ironwoodSpends.length
    (ironwoodSpends.map (·.index)) ironwoodOutputs.length (ironwoodOutputs.map (·.index))
  pure ⟨transactionId, network, message, ironwoodSpends, ironwoodOutputs⟩

structure PaymentDisclosurePlan (scheme : SaplingScheme ρ) where
  transactionId : TxId
  network : NetworkType
  message : List UInt8
  saplingSpends : List (SaplingSpendProvingInput scheme)
  saplingOutputs : List SaplingOutputSelection

def PaymentDisclosurePlan.new {scheme : SaplingScheme ρ} (transactionId : TxId)
    (network : NetworkType) (message : List UInt8)
    (saplingSpends : List (SaplingSpendProvingInput scheme))
    (saplingOutputs : List SaplingOutputSelection) :
    Except PaymentDisclosureCodecError (PaymentDisclosurePlan scheme) := do
  validateDisclosureShape message.length saplingSpends.length
    (saplingSpends.map (·.index)) saplingOutputs.length (saplingOutputs.map (·.index))
  pure ⟨transactionId, network, message, saplingSpends, saplingOutputs⟩

inductive PaymentDisclosureProductionError where
  | ironwoodSpendAuthorizingKeyMismatch (index : UInt32)
  | ironwoodSpendSignatureInvalid (index : UInt32)
  | spendAuthorizingKeyMismatch (index : UInt32)
  | spendCircuitInvalid (index : UInt32)
  | randomizedVerificationKeyMismatch (index : UInt32)
  | spendSignatureInvalid (index : UInt32)
  | codec (error : PaymentDisclosureCodecError)
  deriving DecidableEq

/-- Production draws from a generator, and fails or returns. -/
abbrev Production (ρ α : Type) := Reader ρ PaymentDisclosureProductionError α

/-- The next value a generator draws. -/
def draw (next : ρ → α × ρ) : Production ρ α := fun rng => .ok (next rng)

def codec (outcome : Except PaymentDisclosureCodecError α) : Production ρ α :=
  liftM (outcome.mapError PaymentDisclosureProductionError.codec)

structure UnsignedSaplingSpend (scheme : SaplingScheme ρ) where
  index : UInt32
  cv : Vector UInt8 32
  rk : scheme.VerificationKey
  zkproof : Vector UInt8 192
  randomizedAsk : scheme.SigningKey

structure UnsignedIronwoodSpend (scheme : SpendAuthScheme ρ) where
  index : UInt32
  randomizedSigningKey : scheme.SigningKey
  randomizedVerificationKey : scheme.VerificationKey

section Sapling

variable (scheme : SaplingScheme ρ)

/-- The circuit of a spend and its proof. -/
def proveCircuit (spend : SaplingSpendProvingInput scheme) (alpha : scheme.Randomizer)
    (rcv : scheme.Trapdoor) : Production ρ scheme.Proof :=
  match scheme.anchorScalar spend.anchor with
  | none => throw (.spendCircuitInvalid spend.index)
  | some anchor =>
    match scheme.prepareCircuit spend.proofGenerationKey (scheme.diversifier spend.recipient)
      spend.rseed spend.amountZat alpha rcv anchor spend.witness with
    | none => throw (.spendCircuitInvalid spend.index)
    | some circuit => draw (scheme.createProof circuit)

def proveSaplingSpend (ask : scheme.AuthorizingKey) (spend : SaplingSpendProvingInput scheme) :
    Production ρ (UnsignedSaplingSpend scheme) := do
  let alpha ← draw scheme.randomScalar
  let rcv ← draw scheme.randomTrapdoor
  let cv := scheme.commit spend.amountZat rcv
  let rk := scheme.randomizePublic (scheme.ak spend.proofGenerationKey) alpha
  let randomizedAsk := scheme.randomize ask alpha
  if scheme.verificationKey randomizedAsk ≠ rk then
    throw (.randomizedVerificationKeyMismatch spend.index)
  else
    let proof ← proveCircuit scheme spend alpha rcv
    pure ⟨spend.index, scheme.commitmentBytes cv, rk, scheme.encodeProof proof, randomizedAsk⟩

/-- One round of the first loop of `prove_disclosure`. -/
def proveOwnedSpend (ask : scheme.AuthorizingKey) (spend : SaplingSpendProvingInput scheme) :
    Production ρ (UnsignedSaplingSpend scheme) :=
  if scheme.ak spend.proofGenerationKey ≠ scheme.validatingKey ask then
    throw (.spendAuthorizingKeyMismatch spend.index)
  else proveSaplingSpend scheme ask spend

/-- One round of the second loop of `prove_disclosure`. -/
def signSaplingSpend (disclosureDigest : Digest) (spend : UnsignedSaplingSpend scheme) :
    Production ρ SaplingSpendDisclosure := do
  let spendAuthSig ← draw (scheme.sign spend.randomizedAsk disclosureDigest)
  if scheme.verify spend.rk disclosureDigest spendAuthSig then
    pure ⟨spend.index, spend.cv, scheme.keyBytes spend.rk, spend.zkproof, spendAuthSig⟩
  else throw (.spendSignatureInvalid spend.index)

/-- A spend behind a placeholder signature. -/
def UnsignedSaplingSpend.placeholder {scheme : SaplingScheme ρ} (spend : UnsignedSaplingSpend scheme) :
    SaplingSpendDisclosure :=
  ⟨spend.index, spend.cv, scheme.keyBytes spend.rk, spend.zkproof, Vector.replicate 64 0⟩

def proveDisclosure (blake2b : (personal message : List UInt8) → Digest)
    (plan : PaymentDisclosurePlan scheme) (ask : scheme.AuthorizingKey) :
    Production ρ PaymentDisclosure := do
  let unsignedSpends ← plan.saplingSpends.mapM (proveOwnedSpend scheme ask)
  let disclosedOutputs := plan.saplingOutputs.map SaplingOutputSelection.disclosure
  let unsignedDisclosure ← codec (PaymentDisclosure.new .zip311Draft1 plan.transactionId plan.message
    (unsignedSpends.map (·.placeholder)) disclosedOutputs)
  let disclosureDigest := unsignedDisclosure.computeDigest blake2b plan.network
  let signedSpends ← unsignedSpends.mapM (signSaplingSpend scheme disclosureDigest)
  codec (PaymentDisclosure.new .zip311Draft1 plan.transactionId plan.message signedSpends disclosedOutputs)

end Sapling

section Ironwood

variable (scheme : SpendAuthScheme ρ)

/-- One round of the first loop of `sign_ironwood_disclosure`. -/
def randomizeIronwoodSpend (ask : scheme.AuthorizingKey) (spend : IronwoodSpendSigningInput scheme) :
    Production ρ (UnsignedIronwoodSpend scheme) :=
  let randomizedSigningKey := scheme.randomize ask spend.alpha
  let randomizedVerificationKey := scheme.verificationKey randomizedSigningKey
  if randomizedVerificationKey ≠ spend.randomizedVerificationKey then
    throw (.ironwoodSpendAuthorizingKeyMismatch spend.index)
  else pure ⟨spend.index, randomizedSigningKey, randomizedVerificationKey⟩

/-- One round of its second loop. -/
def signIronwoodSpend (disclosureDigest : Digest) (spend : UnsignedIronwoodSpend scheme) :
    Production ρ IronwoodSpendDisclosure := do
  let spendAuthSig ← draw (scheme.sign spend.randomizedSigningKey disclosureDigest)
  if scheme.verify spend.randomizedVerificationKey disclosureDigest spendAuthSig then
    pure ⟨spend.index, spendAuthSig⟩
  else throw (.ironwoodSpendSignatureInvalid spend.index)

def UnsignedIronwoodSpend.placeholder {scheme : SpendAuthScheme ρ}
    (spend : UnsignedIronwoodSpend scheme) : IronwoodSpendDisclosure :=
  ⟨spend.index, Vector.replicate 64 0⟩

def signIronwoodDisclosure (blake2b : (personal message : List UInt8) → Digest)
    (plan : IronwoodDisclosurePlan scheme) (ask : scheme.AuthorizingKey) :
    Production ρ PaymentDisclosure := do
  let unsignedSpends ← plan.ironwoodSpends.mapM (randomizeIronwoodSpend scheme ask)
  let disclosedOutputs := plan.ironwoodOutputs.map IronwoodOutputSelection.disclosure
  let unsignedDisclosure ← codec (PaymentDisclosure.ironwoodExtension plan.transactionId plan.message
    (unsignedSpends.map (·.placeholder)) disclosedOutputs)
  let disclosureDigest := unsignedDisclosure.computeDigest blake2b plan.network
  let signedSpends ← unsignedSpends.mapM (signIronwoodSpend scheme disclosureDigest)
  codec (PaymentDisclosure.ironwoodExtension plan.transactionId plan.message signedSpends disclosedOutputs)

end Ironwood

end Zally.Disclosure
