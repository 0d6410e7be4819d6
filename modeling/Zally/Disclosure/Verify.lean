import Zally.Disclosure.Schemes

/-! The verification of a payment disclosure against the mined transaction it references, and the
evidence it returns. -/
namespace Zally.Disclosure

variable {ρ : Type} {schemes : DisclosureSchemes ρ}

structure SaplingSpendEvidence where
  index : UInt32
  deriving DecidableEq

structure IronwoodSpendEvidence where
  index : UInt32
  deriving DecidableEq

/-- The recovered facts of one selected output. -/
structure OutputEvidence (Recipient : Type) where
  index : UInt32
  recipient : Recipient
  amountZat : UInt64
  memo : Vector UInt8 512

variable (schemes) in
structure PaymentDisclosureEvidence where
  transactionId : TxId
  saplingSpends : List SaplingSpendEvidence
  saplingOutputs : List (OutputEvidence schemes.sapling.PaymentAddress)
  ironwoodSpends : List IronwoodSpendEvidence
  ironwoodOutputs : List (OutputEvidence schemes.IronwoodAddress)

inductive PaymentDisclosureVerificationError where
  | transactionMalformed (source : String)
  | transactionTrailingBytes (trailingBytes : Nat)
  | transactionIdMismatch (expectedTransactionId actualTransactionId : TxId)
  | saplingBundleMissing
  | ironwoodBundleMissing
  | ironwoodActionIndexOutOfBounds (index : UInt32) (actionCount : Nat)
  | ironwoodSpendAuthorityInvalid (index : UInt32)
  | ironwoodOutputRecoveryFailed (index : UInt32)
  | spendIndexOutOfBounds (index : UInt32) (spendCount : Nat)
  | outputIndexOutOfBounds (index : UInt32) (outputCount : Nat)
  | spendCommitmentMalformed (index : UInt32)
  | randomizedVerificationKeyMalformed (index : UInt32) (source : String)
  | spendProofMalformed (index : UInt32) (source : String)
  | spendAuthorityInvalid (index : UInt32)
  | outputRecoveryFailed (index : UInt32)
  deriving DecidableEq

abbrev Verification (α : Type) := Except PaymentDisclosureVerificationError α

def parseTransaction (params : ConsensusParameters schemes) (transactionBytes : List UInt8)
    (minedHeight : BlockHeight) : Verification (Transaction schemes) :=
  match params.readTransaction transactionBytes (params.branchIdForHeight minedHeight) with
  | .error source => .error (.transactionMalformed source)
  | .ok (transaction, consumedBytes) =>
    if consumedBytes ≠ transactionBytes.length then
      .error (.transactionTrailingBytes (transactionBytes.length - consumedBytes))
    else .ok transaction

/-- One round of the loop of `verify_sapling_spends`. -/
def verifySaplingSpend (onChainSpends : List (SaplingSpendDescription schemes))
    (disclosureDigest : Digest) (spend : SaplingSpendDisclosure) :
    Verification SaplingSpendEvidence :=
  match onChainSpends[spend.index.toNat]? with
  | none => .error (.spendIndexOutOfBounds spend.index onChainSpends.length)
  | some onChainSpend =>
    match schemes.sapling.readCommitment spend.cv with
    | none => .error (.spendCommitmentMalformed spend.index)
    | some cv =>
      match schemes.sapling.readKey spend.rk with
      | .error source => .error (.randomizedVerificationKeyMalformed spend.index source)
      | .ok rk =>
        match schemes.sapling.readProof spend.zkproof with
        | .error source => .error (.spendProofMalformed spend.index source)
        | .ok zkproof =>
          if schemes.sapling.checkSpend cv onChainSpend.anchor onChainSpend.nullifier rk
            disclosureDigest spend.spendAuthSig zkproof then .ok ⟨spend.index⟩
          else .error (.spendAuthorityInvalid spend.index)

def verifySaplingSpends (disclosure : PaymentDisclosure)
    (onChainSpends : List (SaplingSpendDescription schemes)) (disclosureDigest : Digest) :
    Verification (List SaplingSpendEvidence) :=
  disclosure.saplingSpends.mapM (verifySaplingSpend onChainSpends disclosureDigest)

def recoverSaplingOutput (onChainOutputs : List schemes.SaplingOutput)
    (enforcement : schemes.Zip212Enforcement) (output : SaplingOutputDisclosure) :
    Verification (OutputEvidence schemes.sapling.PaymentAddress) :=
  match onChainOutputs[output.index.toNat]? with
  | none => .error (.outputIndexOutOfBounds output.index onChainOutputs.length)
  | some onChainOutput =>
    match schemes.recoverSaplingOutput output.ock onChainOutput enforcement with
    | none => .error (.outputRecoveryFailed output.index)
    | some note => .ok ⟨output.index, note.recipient, note.amountZat, note.memo⟩

def recoverSaplingOutputs (disclosure : PaymentDisclosure)
    (onChainOutputs : List schemes.SaplingOutput) (enforcement : schemes.Zip212Enforcement) :
    Verification (List (OutputEvidence schemes.sapling.PaymentAddress)) :=
  disclosure.saplingOutputs.mapM (recoverSaplingOutput onChainOutputs enforcement)

def verifyIronwoodSpend (onChainActions : List (IronwoodAction schemes)) (disclosureDigest : Digest)
    (spend : IronwoodSpendDisclosure) : Verification IronwoodSpendEvidence :=
  match onChainActions[spend.index.toNat]? with
  | none => .error (.ironwoodActionIndexOutOfBounds spend.index onChainActions.length)
  | some onChainAction =>
    if schemes.ironwood.verify onChainAction.rk disclosureDigest spend.spendAuthSig then
      .ok ⟨spend.index⟩
    else .error (.ironwoodSpendAuthorityInvalid spend.index)

def verifyIronwoodSpends (disclosure : PaymentDisclosure)
    (onChainActions : List (IronwoodAction schemes)) (disclosureDigest : Digest) :
    Verification (List IronwoodSpendEvidence) :=
  disclosure.ironwoodSpends.mapM (verifyIronwoodSpend onChainActions disclosureDigest)

def recoverIronwoodOutput (onChainActions : List (IronwoodAction schemes))
    (output : IronwoodOutputDisclosure) : Verification (OutputEvidence schemes.IronwoodAddress) :=
  match onChainActions[output.index.toNat]? with
  | none => .error (.ironwoodActionIndexOutOfBounds output.index onChainActions.length)
  | some onChainAction =>
    match schemes.recoverIronwoodOutput output.ock onChainAction.output with
    | none => .error (.ironwoodOutputRecoveryFailed output.index)
    | some note => .ok ⟨output.index, note.recipient, note.amountZat, note.memo⟩

def recoverIronwoodOutputs (disclosure : PaymentDisclosure)
    (onChainActions : List (IronwoodAction schemes)) :
    Verification (List (OutputEvidence schemes.IronwoodAddress)) :=
  disclosure.ironwoodOutputs.mapM (recoverIronwoodOutput onChainActions)

/-- The checks of the disclosure's own profile. -/
def verifyProfile (params : ConsensusParameters schemes) (disclosure : PaymentDisclosure)
    (transaction : Transaction schemes) (minedHeight : BlockHeight) (disclosureDigest : Digest) :
    Verification (PaymentDisclosureEvidence schemes) :=
  match disclosure.profile with
  | .zip311Draft1 =>
    match transaction.saplingBundle with
    | none => .error .saplingBundleMissing
    | some saplingBundle => do
      let spends ← verifySaplingSpends disclosure saplingBundle.shieldedSpends disclosureDigest
      let outputs ← recoverSaplingOutputs disclosure saplingBundle.shieldedOutputs
        (params.zip212Enforcement minedHeight)
      pure ⟨transaction.txid, spends, outputs, [], []⟩
  | .zallyIronwood =>
    match transaction.ironwoodBundle with
    | none => .error .ironwoodBundleMissing
    | some ironwoodActions => do
      let spends ← verifyIronwoodSpends disclosure ironwoodActions disclosureDigest
      let outputs ← recoverIronwoodOutputs disclosure ironwoodActions
      pure ⟨transaction.txid, [], [], spends, outputs⟩

def verifyDisclosure (params : ConsensusParameters schemes) (disclosure : PaymentDisclosure)
    (transactionBytes : List UInt8) (minedHeight : BlockHeight) :
    Verification (PaymentDisclosureEvidence schemes) := do
  let transaction ← parseTransaction params transactionBytes minedHeight
  if transaction.txid ≠ disclosure.transactionId then
    throw (.transactionIdMismatch disclosure.transactionId transaction.txid)
  else
    verifyProfile params disclosure transaction minedHeight
      (disclosure.computeDigest schemes.blake2b params.networkType)

end Zally.Disclosure
