import Zally.Disclosure.Codec

/-! The primitives under a payment disclosure: spend authorization signatures, Sapling spend
proofs, output recovery and the mined transaction. -/
namespace Zally.Disclosure

abbrev Digest := Vector UInt8 32
abbrev SpendAuthSig := Vector UInt8 64
abbrev OutgoingCipherKey := Vector UInt8 32

/-- The spend authorization signatures of a pool, made with the randomness of a generator. -/
structure SpendAuthScheme (ρ : Type) where
  AuthorizingKey : Type
  Randomizer : Type
  SigningKey : Type
  VerificationKey : Type
  sameKey : DecidableEq VerificationKey
  randomize : AuthorizingKey → Randomizer → SigningKey
  verificationKey : SigningKey → VerificationKey
  sign : SigningKey → Digest → ρ → SpendAuthSig × ρ
  verify : VerificationKey → Digest → SpendAuthSig → Bool

/-- Sapling spends: their randomized keys, value commitments and proofs, under one prepared
verifying key. -/
structure SaplingScheme (ρ : Type) extends SpendAuthScheme ρ where
  ValidatingKey : Type
  sameValidatingKey : DecidableEq ValidatingKey
  validatingKey : AuthorizingKey → ValidatingKey
  randomizePublic : ValidatingKey → Randomizer → VerificationKey
  keyBytes : VerificationKey → Vector UInt8 32
  readKey : Vector UInt8 32 → Except String VerificationKey
  randomScalar : ρ → Randomizer × ρ
  Trapdoor : Type
  randomTrapdoor : ρ → Trapdoor × ρ
  Commitment : Type
  commit : UInt64 → Trapdoor → Commitment
  commitmentBytes : Commitment → Vector UInt8 32
  readCommitment : Vector UInt8 32 → Option Commitment
  ProofGenerationKey : Type
  ak : ProofGenerationKey → ValidatingKey
  PaymentAddress : Type
  Diversifier : Type
  diversifier : PaymentAddress → Diversifier
  Rseed : Type
  Anchor : Type
  AnchorScalar : Type
  anchorScalar : Anchor → Option AnchorScalar
  MerklePath : Type
  Circuit : Type
  prepareCircuit : ProofGenerationKey → Diversifier → Rseed → UInt64 → Randomizer → Trapdoor →
    AnchorScalar → MerklePath → Option Circuit
  Proof : Type
  createProof : Circuit → ρ → Proof × ρ
  encodeProof : Proof → Vector UInt8 192
  readProof : Vector UInt8 192 → Except String Proof
  Nullifier : Type
  checkSpend : Commitment → Anchor → Nullifier → VerificationKey → Digest → SpendAuthSig →
    Proof → Bool
  /-- The note and its path have this anchor and this nullifier. -/
  opens : ProofGenerationKey → PaymentAddress → Rseed → UInt64 → MerklePath → Anchor → Nullifier → Prop

attribute [instance] SpendAuthScheme.sameKey SaplingScheme.sameValidatingKey

/-- What a note's outgoing cipher key recovers of it. -/
structure RecoveredNote (Recipient : Type) where
  recipient : Recipient
  amountZat : UInt64
  memo : Vector UInt8 512

/-- The schemes of both pools; `seals…` holds of the key and note an output was encrypted with. -/
structure DisclosureSchemes (ρ : Type) where
  blake2b : (personal message : List UInt8) → Digest
  sapling : SaplingScheme ρ
  ironwood : SpendAuthScheme ρ
  SaplingOutput : Type
  Zip212Enforcement : Type
  recoverSaplingOutput : OutgoingCipherKey → SaplingOutput → Zip212Enforcement →
    Option (RecoveredNote sapling.PaymentAddress)
  sealsSapling : OutgoingCipherKey → RecoveredNote sapling.PaymentAddress → SaplingOutput →
    Zip212Enforcement → Prop
  IronwoodOutput : Type
  IronwoodAddress : Type
  recoverIronwoodOutput : OutgoingCipherKey → IronwoodOutput → Option (RecoveredNote IronwoodAddress)
  sealsIronwood : OutgoingCipherKey → RecoveredNote IronwoodAddress → IronwoodOutput → Prop

variable {ρ : Type} (schemes : DisclosureSchemes ρ)

structure SaplingSpendDescription where
  anchor : schemes.sapling.Anchor
  nullifier : schemes.sapling.Nullifier

structure SaplingBundle where
  shieldedSpends : List (SaplingSpendDescription schemes)
  shieldedOutputs : List schemes.SaplingOutput

structure IronwoodAction where
  rk : schemes.ironwood.VerificationKey
  output : schemes.IronwoodOutput

structure Transaction where
  txid : TxId
  saplingBundle : Option (SaplingBundle schemes)
  ironwoodBundle : Option (List (IronwoodAction schemes))

/-- The consensus parameters of a network and the transactions they read. -/
structure ConsensusParameters where
  networkType : NetworkType
  BranchId : Type
  branchIdForHeight : BlockHeight → BranchId
  zip212Enforcement : BlockHeight → schemes.Zip212Enforcement
  readTransaction : List UInt8 → BranchId → Except String (Transaction schemes × Nat)

end Zally.Disclosure
