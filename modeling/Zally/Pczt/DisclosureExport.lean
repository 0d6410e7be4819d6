import Zally.Disclosure.Produce
import Zally.Wallet.SpendPort

/-! Payment-disclosure export: the sections of a finalized PCZT are checked and collected into a
production plan of the selected profile, and the plan is produced. -/
namespace Zally.DisclosureExport

open Disclosure

variable {ρ : Type}

structure PaymentDisclosureExportPlan where
  transactionId : TxId
  recipient : PaymentRecipient
  amountZat : Zatoshis
  message : List UInt8
  profile : PaymentDisclosureProfile

inductive PaymentDisclosureExportError where
  | networkMismatch (pcztNetwork recipientNetwork : Network)
  | recipientUnsupported
  | pcztMalformed (reason : String)
  | pcztSectionMalformed (pcztSection reason : String)
  | transparentInputsUnsupported
  | saplingActionsUnsupported
  | orchardActionsUnsupported
  | ironwoodActionsUnsupported
  | ironwoodSpendIncomplete (index : UInt32) (field : String)
  | ironwoodActionIndexOutOfRange
  | ironwoodSpendsMissing
  | ironwoodOutputNotFound
  | ironwoodOutputAmbiguous
  | ironwoodOutputOckMissing (index : UInt32)
  | saplingSpendInvalid (reason : String)
  | saplingSpendIncomplete (index : UInt32) (field : String)
  | saplingSpendIndexOutOfRange
  | saplingSpendsMissing
  | saplingOutputNotFound
  | saplingOutputAmbiguous
  | saplingOutputOckMissing (index : UInt32)
  | saplingOutputIndexOutOfRange
  | keyDerivationFailed (reason : String)
  | proverUnavailable
  | codec (error : PaymentDisclosureCodecError)
  | production (error : PaymentDisclosureProductionError)
  deriving DecidableEq

abbrev Exported (α : Type) := Except PaymentDisclosureExportError α

/-- The error of a section's verifier: its parser's, its checks' or the exporter's own. -/
inductive PcztSectionError where
  | parser (reason : String)
  | verifier (reason : String)
  | custom (error : PaymentDisclosureExportError)
  deriving DecidableEq

abbrev Section (α : Type) := Except PcztSectionError α

def mapTransparentError : PcztSectionError → PaymentDisclosureExportError
  | .custom error => error
  | .parser reason | .verifier reason => .pcztSectionMalformed "transparent" reason

def mapOrchardError (pcztSection : String) : PcztSectionError → PaymentDisclosureExportError
  | .custom error => error
  | .parser reason | .verifier reason => .pcztSectionMalformed pcztSection reason

def mapSaplingError : PcztSectionError → PaymentDisclosureExportError
  | .custom error => error
  | .verifier reason => .saplingSpendInvalid reason
  | .parser reason => .pcztSectionMalformed "Sapling" reason

/-- A decoded address, with the receivers of a unified one. -/
inductive Address (schemes : DisclosureSchemes ρ) where
  | sapling (address : schemes.sapling.PaymentAddress)
  | transparent
  | tex
  | unified (saplingReceiver : Option schemes.sapling.PaymentAddress)
      (orchardReceiver : Option schemes.IronwoodAddress)

def Address.toSaplingAddress {schemes : DisclosureSchemes ρ} :
    Address schemes → Option schemes.sapling.PaymentAddress
  | sapling address => some address
  | unified saplingReceiver _ => saplingReceiver
  | transparent | tex => none

structure PcztSaplingSpend (schemes : DisclosureSchemes ρ) where
  recipient : Option schemes.sapling.PaymentAddress
  value : Option UInt64
  rseed : Option schemes.sapling.Rseed
  proofGenerationKey : Option schemes.sapling.ProofGenerationKey
  witness : Option schemes.sapling.MerklePath
  nullifier : schemes.sapling.Nullifier

structure PcztSaplingOutput (schemes : DisclosureSchemes ρ) where
  userAddress : Option String
  recipient : Option schemes.sapling.PaymentAddress
  value : Option UInt64
  ock : Option OutgoingCipherKey

structure PcztSaplingBundle (schemes : DisclosureSchemes ρ) where
  anchor : schemes.sapling.Anchor
  spends : List (PcztSaplingSpend schemes)
  outputs : List (PcztSaplingOutput schemes)

/-- The schemes of a disclosure with what else the PCZT roles keep of an Ironwood note. -/
structure PcztSchemes (ρ : Type) extends DisclosureSchemes ρ where
  Rho : Type
  IronwoodRseed : Type
  FullViewingKey : Type
  OutgoingViewingKey : Type
  samePaymentAddress : DecidableEq sapling.PaymentAddress
  sameIronwoodAddress : DecidableEq IronwoodAddress

attribute [instance] PcztSchemes.samePaymentAddress PcztSchemes.sameIronwoodAddress

structure PcztIronwoodSpend (schemes : PcztSchemes ρ) where
  value : Option UInt64
  recipient : Option schemes.IronwoodAddress
  rho : Option schemes.Rho
  rseed : Option schemes.IronwoodRseed
  fvk : Option schemes.FullViewingKey
  alpha : Option schemes.ironwood.Randomizer
  rk : schemes.ironwood.VerificationKey

structure PcztIronwoodOutput (schemes : PcztSchemes ρ) where
  userAddress : Option String
  recipient : Option schemes.IronwoodAddress
  value : Option UInt64
  ock : Option OutgoingCipherKey
  encryptedNote : schemes.IronwoodOutput

structure PcztIronwoodAction (schemes : PcztSchemes ρ) where
  spend : PcztIronwoodSpend schemes
  output : PcztIronwoodOutput schemes

/-- The sections of a parsed PCZT; each parses when its role reads it. -/
structure PcztSections (schemes : PcztSchemes ρ) where
  transparentInputs : Except String Nat
  sapling : Except String (PcztSaplingBundle schemes.toDisclosureSchemes)
  orchardActions : Except String Nat
  ironwood : Except String (List (PcztIronwoodAction schemes))

/-- The keys a seed derives for account zero; the Ironwood key may fail its check. -/
structure ExportKeys (schemes : PcztSchemes ρ) where
  saplingAsk : schemes.sapling.AuthorizingKey
  ironwoodAsk : Option schemes.ironwood.AuthorizingKey
  outgoingViewingKeys : List schemes.OutgoingViewingKey

structure ExportUpstream (schemes : PcztSchemes ρ) where
  parse : List UInt8 → Except String (PcztSections schemes)
  fromSeed : SeedMaterial → Except String (ExportKeys schemes)
  decode : Network → String → Option (Address schemes.toDisclosureSchemes)
  verifySaplingNullifier : PcztSaplingSpend schemes.toDisclosureSchemes → Except String Unit
  verifyNullifier : PcztIronwoodSpend schemes → Except String Unit
  verifyRk : PcztIronwoodSpend schemes → Except String Unit
  deriveOck : schemes.OutgoingViewingKey → schemes.IronwoodOutput → OutgoingCipherKey
  proverAvailable : Bool

section Collecting

/-- The loops over a section: the items selected, by their position as an unsigned 32-bit index. -/
def collectIndexed {α β : Type} (outOfRange : PaymentDisclosureExportError) (selects : α → Bool)
    (entry : UInt32 → α → Section β) : Nat → List α → Section (List β)
  | _, [] => .ok []
  | position, item :: items =>
    if selects item then
      if position < 2 ^ 32 then do
        let found ← entry (.ofNat position) item
        let rest ← collectIndexed outOfRange selects entry (position + 1) items
        pure (found :: rest)
      else .error (.custom outOfRange)
    else collectIndexed outOfRange selects entry (position + 1) items

variable {schemes : PcztSchemes ρ} (upstream : ExportUpstream schemes)

def incompleteSaplingSpend (index : UInt32) (field : String) : PcztSectionError :=
  .custom (.saplingSpendIncomplete index field)

/-- A retained field, or the error that names it. -/
def retained (field : Option α) (missing : PcztSectionError) : Section α :=
  match field with
  | some value => .ok value
  | none => .error missing

def collectSaplingSpend (anchor : schemes.sapling.Anchor) (index : UInt32)
    (spend : PcztSaplingSpend schemes.toDisclosureSchemes) :
    Section (SaplingSpendProvingInput schemes.sapling) := do
  (upstream.verifySaplingNullifier spend).mapError .verifier
  let recipient ← retained spend.recipient (incompleteSaplingSpend index "recipient")
  let amountZat ← retained spend.value (incompleteSaplingSpend index "value_zat")
  let rseed ← retained spend.rseed (incompleteSaplingSpend index "rseed")
  let proofGenerationKey ←
    retained spend.proofGenerationKey (incompleteSaplingSpend index "proof_generation_key")
  let witness ← retained spend.witness (incompleteSaplingSpend index "witness")
  pure ⟨index, recipient, amountZat, rseed, proofGenerationKey, anchor, witness⟩

def collectSaplingSpends (bundle : PcztSaplingBundle schemes.toDisclosureSchemes) :
    Section (List (SaplingSpendProvingInput schemes.sapling)) :=
  collectIndexed .saplingSpendIndexOutOfRange (fun _ => true)
    (collectSaplingSpend upstream bundle.anchor) 0 bundle.spends

/-- The output carries the requested recipient string, receiver and amount. -/
def PcztSaplingOutput.Carries (requestedRecipient : String)
    (requestedSaplingRecipient : schemes.sapling.PaymentAddress) (requestedAmountZat : UInt64)
    (output : PcztSaplingOutput schemes.toDisclosureSchemes) : Prop :=
  output.userAddress = some requestedRecipient ∧
    output.recipient = some requestedSaplingRecipient ∧ output.value = some requestedAmountZat

instance (output : PcztSaplingOutput schemes.toDisclosureSchemes) :
    Decidable (output.Carries recipient receiver amount) :=
  inferInstanceAs (Decidable (_ ∧ _ ∧ _))

def collectSaplingOutput (index : UInt32) (output : PcztSaplingOutput schemes.toDisclosureSchemes) :
    Section SaplingOutputSelection := do
  let ock ← retained output.ock (.custom (.saplingOutputOckMissing index))
  pure ⟨index, ock⟩

def collectMatchingSaplingOutputs (bundle : PcztSaplingBundle schemes.toDisclosureSchemes)
    (requestedRecipient : String) (requestedSaplingRecipient : schemes.sapling.PaymentAddress)
    (requestedAmountZat : UInt64) : Section (List SaplingOutputSelection) :=
  collectIndexed .saplingOutputIndexOutOfRange
    (fun output => decide (output.Carries requestedRecipient requestedSaplingRecipient
      requestedAmountZat)) collectSaplingOutput 0 bundle.outputs

/-- The retained value of the spend is positive; a missing one is not. -/
def PcztIronwoodSpend.hasSpendAmount (spend : PcztIronwoodSpend schemes) : Bool :=
  spend.value.any fun amount => 0 < amount

def collectIronwoodSpend (index : UInt32) (action : PcztIronwoodAction schemes) :
    Section (IronwoodSpendSigningInput schemes.ironwood) := do
  (upstream.verifyNullifier action.spend).mapError .verifier
  (upstream.verifyRk action.spend).mapError .verifier
  let alpha ← retained action.spend.alpha (.custom (.ironwoodSpendIncomplete index "alpha"))
  pure ⟨index, alpha, action.spend.rk⟩

def collectIronwoodSpends (actions : List (PcztIronwoodAction schemes)) :
    Section (List (IronwoodSpendSigningInput schemes.ironwood)) :=
  collectIndexed .ironwoodActionIndexOutOfRange (fun action => action.spend.hasSpendAmount)
    (collectIronwoodSpend upstream) 0 actions

def PcztIronwoodOutput.Carries (encodedRecipient : String)
    (ironwoodRecipient : schemes.IronwoodAddress) (amountZat : UInt64)
    (output : PcztIronwoodOutput schemes) : Prop :=
  output.userAddress = some encodedRecipient ∧
    output.recipient = some ironwoodRecipient ∧ output.value = some amountZat

instance (output : PcztIronwoodOutput schemes) :
    Decidable (output.Carries recipient receiver amount) :=
  inferInstanceAs (Decidable (_ ∧ _ ∧ _))

/-- The retained cipher key, or the first derived one that recovers the output. -/
def deriveIronwoodOutputOck (outgoingViewingKeys : List schemes.OutgoingViewingKey)
    (output : PcztIronwoodOutput schemes) : Option OutgoingCipherKey :=
  match output.ock with
  | some ock => some ock
  | none => (outgoingViewingKeys.map fun key => upstream.deriveOck key output.encryptedNote).find?
    fun ock => (schemes.recoverIronwoodOutput ock output.encryptedNote).isSome

def collectIronwoodOutput (outgoingViewingKeys : List schemes.OutgoingViewingKey) (index : UInt32)
    (action : PcztIronwoodAction schemes) : Section IronwoodOutputSelection := do
  let ock ← retained (deriveIronwoodOutputOck upstream outgoingViewingKeys action.output)
    (.custom (.ironwoodOutputOckMissing index))
  pure ⟨index, ock⟩

structure IronwoodOutputExpectation (schemes : PcztSchemes ρ) where
  encodedRecipient : String
  ironwoodRecipient : schemes.IronwoodAddress
  amountZat : UInt64
  outgoingViewingKeys : List schemes.OutgoingViewingKey

def collectMatchingIronwoodOutputs (actions : List (PcztIronwoodAction schemes))
    (expectation : IronwoodOutputExpectation schemes) : Section (List IronwoodOutputSelection) :=
  collectIndexed .ironwoodActionIndexOutOfRange (fun action => decide (action.output.Carries
      expectation.encodedRecipient expectation.ironwoodRecipient expectation.amountZat))
    (collectIronwoodOutput upstream expectation.outgoingViewingKeys) 0 actions

end Collecting

section Export

variable {schemes : PcztSchemes ρ} (upstream : ExportUpstream schemes)

/-- A section parses, then the closure checks it. -/
def withSection {α β : Type} (bundle : Except String β) (check : β → Section α) : Section α :=
  match bundle with
  | .error reason => .error (.parser reason)
  | .ok bundle => check bundle

/-- A closure that accepts an empty section only. -/
def requireEmpty (unsupported : PaymentDisclosureExportError) (isEmpty : Bool) : Section Unit :=
  if isEmpty then .ok () else .error (.custom unsupported)

def withTransparent (sections : PcztSections schemes) : Exported Unit :=
  (withSection sections.transparentInputs fun inputs =>
    requireEmpty .transparentInputsUnsupported (inputs == 0)).mapError mapTransparentError

def withOrchard (sections : PcztSections schemes) : Exported Unit :=
  (withSection sections.orchardActions fun actions =>
    requireEmpty .orchardActionsUnsupported (actions == 0)).mapError (mapOrchardError "Orchard")

def parsePczt (finalizedPczt : PcztBytes) : Exported (PcztSections schemes) :=
  (upstream.parse finalizedPczt.bytes).mapError .pcztMalformed

/-- Exactly one matching output is selected. -/
def selectOutput (notFound ambiguous : PaymentDisclosureExportError) {α : Type} :
    List α → Exported α
  | [selected] => .ok selected
  | [] => .error notFound
  | _ => .error ambiguous

structure VerifiedSaplingDisclosureSource (schemes : PcztSchemes ρ) where
  saplingSpends : List (SaplingSpendProvingInput schemes.sapling)
  selectedOutput : SaplingOutputSelection

def verifySaplingDisclosureSource (finalizedPczt : PcztBytes) (plan : PaymentDisclosureExportPlan)
    (requestedSaplingRecipient : schemes.sapling.PaymentAddress) :
    Exported (VerifiedSaplingDisclosureSource schemes) := do
  let sections ← parsePczt upstream finalizedPczt
  withTransparent sections
  withOrchard sections
  (withSection sections.ironwood fun actions =>
    requireEmpty .ironwoodActionsUnsupported actions.isEmpty).mapError (mapOrchardError "Ironwood")
  let (saplingSpends, matchingOutputs) ← (withSection sections.sapling fun bundle => do
    let spends ← collectSaplingSpends upstream bundle
    let outputs ← collectMatchingSaplingOutputs bundle plan.recipient.encoded
      requestedSaplingRecipient plan.amountZat.raw
    pure (spends, outputs)).mapError mapSaplingError
  if saplingSpends.isEmpty then .error .saplingSpendsMissing
  else
    let selectedOutput ← selectOutput .saplingOutputNotFound .saplingOutputAmbiguous matchingOutputs
    pure ⟨saplingSpends, selectedOutput⟩

structure VerifiedIronwoodDisclosureSource (schemes : PcztSchemes ρ) where
  ironwoodSpends : List (IronwoodSpendSigningInput schemes.ironwood)
  selectedOutput : IronwoodOutputSelection

def ironwoodRecipient (network : Network) (recipient : PaymentRecipient) :
    Exported schemes.IronwoodAddress :=
  match upstream.decode network recipient.encoded with
  | some (.unified _ (some receiver)) => .ok receiver
  | _ => .error .recipientUnsupported

def verifyIronwoodDisclosureSource (finalizedPczt : PcztBytes) (plan : PaymentDisclosureExportPlan)
    (requestedIronwoodRecipient : schemes.IronwoodAddress)
    (outgoingViewingKeys : List schemes.OutgoingViewingKey) :
    Exported (VerifiedIronwoodDisclosureSource schemes) := do
  let sections ← parsePczt upstream finalizedPczt
  withTransparent sections
  (withSection sections.sapling fun bundle => requireEmpty .saplingActionsUnsupported
    (bundle.spends.isEmpty && bundle.outputs.isEmpty)).mapError mapSaplingError
  withOrchard sections
  let (ironwoodSpends, matchingOutputs) ← (withSection sections.ironwood fun actions => do
    let spends ← collectIronwoodSpends upstream actions
    let outputs ← collectMatchingIronwoodOutputs upstream actions
      ⟨plan.recipient.encoded, requestedIronwoodRecipient, plan.amountZat.raw, outgoingViewingKeys⟩
    pure (spends, outputs)).mapError (mapOrchardError "Ironwood")
  if ironwoodSpends.isEmpty then .error .ironwoodSpendsMissing
  else
    let selectedOutput ← selectOutput .ironwoodOutputNotFound .ironwoodOutputAmbiguous matchingOutputs
    pure ⟨ironwoodSpends, selectedOutput⟩

def networkType : Network → NetworkType
  | .mainnet => .main
  | .testnet => .test
  | .regtest _ => .regtest

/-- What an export hands to production. -/
inductive ProductionPlan (schemes : PcztSchemes ρ) where
  | sapling (plan : PaymentDisclosurePlan schemes.sapling) (ask : schemes.sapling.AuthorizingKey)
  | ironwood (plan : IronwoodDisclosurePlan schemes.ironwood) (ask : schemes.ironwood.AuthorizingKey)

def saplingProductionPlan (finalizedPczt : PcztBytes) (plan : PaymentDisclosureExportPlan)
    (keys : ExportKeys schemes) : Exported (ProductionPlan schemes) :=
  match (upstream.decode finalizedPczt.network plan.recipient.encoded).bind (·.toSaplingAddress) with
  | none => .error .recipientUnsupported
  | some requestedRecipient => do
    let source ← verifySaplingDisclosureSource upstream finalizedPczt plan requestedRecipient
    if upstream.proverAvailable then
      let productionPlan ← (PaymentDisclosurePlan.new plan.transactionId
        (networkType finalizedPczt.network) plan.message source.saplingSpends
        [source.selectedOutput]).mapError .codec
      pure (.sapling productionPlan keys.saplingAsk)
    else .error .proverUnavailable

def ironwoodProductionPlan (finalizedPczt : PcztBytes) (plan : PaymentDisclosureExportPlan)
    (keys : ExportKeys schemes) : Exported (ProductionPlan schemes) := do
  let requestedRecipient ← ironwoodRecipient upstream finalizedPczt.network plan.recipient
  match keys.ironwoodAsk with
  | none => .error (.keyDerivationFailed "Ironwood spending key bytes failed validation")
  | some ask =>
    let source ← verifyIronwoodDisclosureSource upstream finalizedPczt plan requestedRecipient
      keys.outgoingViewingKeys
    let productionPlan ← (IronwoodDisclosurePlan.new plan.transactionId
      (networkType finalizedPczt.network) plan.message source.ironwoodSpends
      [source.selectedOutput]).mapError .codec
    pure (.ironwood productionPlan ask)

/-- An export up to the call of `prove_disclosure` or `sign_ironwood_disclosure`. -/
def productionPlan (finalizedPczt : PcztBytes) (plan : PaymentDisclosureExportPlan)
    (seed : SeedMaterial) : Exported (ProductionPlan schemes) :=
  if plan.recipient.network ≠ finalizedPczt.network then
    .error (.networkMismatch finalizedPczt.network plan.recipient.network)
  else
    match upstream.fromSeed seed with
    | .error reason => .error (.keyDerivationFailed reason)
    | .ok keys =>
      match plan.profile with
      | .zip311Draft1 => saplingProductionPlan upstream finalizedPczt plan keys
      | .zallyIronwood => ironwoodProductionPlan upstream finalizedPczt plan keys

def produce (rng : ρ) : ProductionPlan schemes → Exported PaymentDisclosure
  | .sapling plan ask => ((proveDisclosure schemes.sapling schemes.blake2b plan ask).run rng |>.map
    Prod.fst).mapError .production
  | .ironwood plan ask => ((signIronwoodDisclosure schemes.ironwood schemes.blake2b plan ask).run rng
    |>.map Prod.fst).mapError .production

def exportPaymentDisclosure (finalizedPczt : PcztBytes) (plan : PaymentDisclosureExportPlan)
    (seed : SeedMaterial) (rng : ρ) : Exported PaymentDisclosure := do
  produce rng (← productionPlan upstream finalizedPczt plan seed)

end Export

end Zally.DisclosureExport
