import Zally.Pczt.ExportCompleteness
import Zally.Wallet.Error

/-! The wallet's export of a payment disclosure, from the finalized PCZT it retained to what a
verifier of the mined transaction accepts. -/
namespace Zally.DisclosureExport

open Disclosure Outcome

variable {ρ : Type} {schemes : PcztSchemes ρ}

def productionPosture : PaymentDisclosureProductionError → FailurePosture
  | .ironwoodSpendAuthorizingKeyMismatch _ | .spendAuthorizingKeyMismatch _
  | .spendCircuitInvalid _ | .codec _ => .notRetryable
  | .ironwoodSpendSignatureInvalid _ | .randomizedVerificationKeyMismatch _
  | .spendSignatureInvalid _ => .requiresOperator

def PaymentDisclosureExportError.posture : PaymentDisclosureExportError → FailurePosture
  | production error => productionPosture error
  | networkMismatch _ _ | pcztMalformed _ | pcztSectionMalformed _ _ | ironwoodSpendIncomplete _ _
  | ironwoodOutputOckMissing _ | saplingSpendInvalid _ | saplingSpendIncomplete _ _
  | saplingOutputOckMissing _ | keyDerivationFailed _ | proverUnavailable => .requiresOperator
  | recipientUnsupported | transparentInputsUnsupported | saplingActionsUnsupported
  | orchardActionsUnsupported | ironwoodActionsUnsupported | ironwoodActionIndexOutOfRange
  | ironwoodSpendsMissing | ironwoodOutputNotFound | ironwoodOutputAmbiguous
  | saplingSpendIndexOutOfRange | saplingSpendsMissing | saplingOutputNotFound
  | saplingOutputAmbiguous | saplingOutputIndexOutOfRange | codec _ => .notRetryable

/-- What an export reads of the wallet. -/
structure DisclosureWallet where
  network : Network
  findFinalizedPcztBytes : TxId → Except StorageError (Option (List UInt8))
  unsealSeed : Except SealingError SeedMaterial

structure WalletPaymentDisclosure where
  network : Network
  portable : PaymentDisclosure

/-- The recipient has a receiver of the profile's pool. -/
def hasProfileReceiver (upstream : ExportUpstream schemes) (network : Network)
    (plan : PaymentDisclosureExportPlan) : Bool :=
  match plan.profile, upstream.decode network plan.recipient.encoded with
  | .zip311Draft1, some address => address.toSaplingAddress.isSome
  | .zallyIronwood, some (.unified _ orchardReceiver) => orchardReceiver.isSome
  | _, _ => false

def exportError (error : PaymentDisclosureExportError) : WalletError :=
  .paymentDisclosureExport error.posture

/-- `Wallet::export_payment_disclosure`: the seed is unsealed once the PCZT is found. -/
def walletExportPaymentDisclosure (wallet : DisclosureWallet) (upstream : ExportUpstream schemes)
    (plan : PaymentDisclosureExportPlan) (rng : ρ) : Except WalletError WalletPaymentDisclosure :=
  if plan.recipient.network ≠ wallet.network then
    .error (.networkMismatch wallet.network plan.recipient.network)
  else if hasProfileReceiver upstream wallet.network plan = false then
    .error (exportError .recipientUnsupported)
  else do
    match ← (wallet.findFinalizedPcztBytes plan.transactionId).mapError .ofStorage with
    | none => .error (.paymentDisclosureSourceMissing plan.transactionId)
    | some finalizedPcztBytes =>
      let seed ← wallet.unsealSeed.mapError .sealing
      let portable ← (exportPaymentDisclosure upstream ⟨finalizedPcztBytes, wallet.network⟩ plan seed
        rng).mapError exportError
      pure ⟨wallet.network, portable⟩

theorem exportError_not_retryable (error : PaymentDisclosureExportError) :
    (exportError error).posture ≠ .retryable := by
  cases error with
  | production error => cases error <;> exact nofun
  | _ => exact nofun

/-- Only the storage and the sealing make an export worth a retry. -/
theorem export_retryable {wallet : DisclosureWallet} {upstream : ExportUpstream schemes}
    (failed : walletExportPaymentDisclosure wallet upstream plan rng = .error error)
    (retryable : error.posture = .retryable) :
    (∃ source, wallet.findFinalizedPcztBytes plan.transactionId = .error source ∧
      error = .ofStorage source) ∨
    ∃ source, wallet.unsealSeed = .error source ∧ error = .sealing source := by
  unfold walletExportPaymentDisclosure at failed
  split at failed
  · cases failed
    cases retryable
  split at failed
  · cases failed
    cases retryable
  obtain missing | ⟨kept, -, failed⟩ := bind_error_iff.mp failed
  · obtain ⟨source, refused, rfl⟩ := mapError_error_iff.mp missing
    exact .inl ⟨source, refused, rfl⟩
  cases kept with
  | none =>
    cases failed
    cases retryable
  | some finalizedPcztBytes =>
    obtain sealed | ⟨seed, -, failed⟩ := bind_error_iff.mp failed
    · obtain ⟨source, refused, rfl⟩ := mapError_error_iff.mp sealed
      exact .inr ⟨source, refused, rfl⟩
    obtain failed | ⟨portable, -, returned⟩ := bind_error_iff.mp failed
    · obtain ⟨source, -, rfl⟩ := mapError_error_iff.mp failed
      exact absurd retryable (exportError_not_retryable source)
    · cases returned

/-- The sections of a finalized PCZT are those of the transaction it became: its own spends with
the notes they open, and its outputs with the notes they seal. -/
structure Describes (sections : PcztSections schemes)
    (transaction : Transaction schemes.toDisclosureSchemes)
    (enforcement : schemes.Zip212Enforcement) : Prop where
  saplingSpends : ∀ (bundle : PcztSaplingBundle schemes.toDisclosureSchemes) (index : Nat) spend, sections.sapling = .ok bundle →
    bundle.spends[index]? = some spend → ∃ onChainSpend,
      transaction.saplingSpends[index]? = some onChainSpend ∧ bundle.anchor = onChainSpend.anchor ∧
      ∀ recipient value rseed key witness, spend.recipient = some recipient →
        spend.value = some value → spend.rseed = some rseed → spend.proofGenerationKey = some key →
        spend.witness = some witness → schemes.sapling.opens key recipient rseed value witness
          onChainSpend.anchor onChainSpend.nullifier
  saplingOutputs : ∀ (bundle : PcztSaplingBundle schemes.toDisclosureSchemes) (index : Nat) output, sections.sapling = .ok bundle →
    bundle.outputs[index]? = some output → ∃ onChainOutput,
      transaction.saplingOutputs[index]? = some onChainOutput ∧
      (∀ ock, output.ock = some ock →
        ∃ note, schemes.sealsSapling ock note onChainOutput enforcement) ∧
      ∀ ock note, schemes.sealsSapling ock note onChainOutput enforcement →
        (∀ recipient, output.recipient = some recipient → note.recipient = recipient) ∧
          ∀ value, output.value = some value → note.amountZat = value
  ironwoodActions : ∀ (actions : List (PcztIronwoodAction schemes)) (index : Nat) action, sections.ironwood = .ok actions →
    actions[index]? = some action →
      transaction.ironwoodActions[index]? = some ⟨action.spend.rk, action.output.encryptedNote⟩ ∧
      (∀ ock, action.output.ock = some ock →
        ∃ note, schemes.sealsIronwood ock note action.output.encryptedNote) ∧
      ∀ ock note, schemes.sealsIronwood ock note action.output.encryptedNote →
        (∀ recipient, action.output.recipient = some recipient → note.recipient = recipient) ∧
          ∀ value, action.output.value = some value → note.amountZat = value

/-- A cipher key that opens an Ironwood output opens the note it was sealed with. -/
def OpensSealed (schemes : PcztSchemes ρ) : Prop := ∀ ock output note,
  schemes.recoverIronwoodOutput ock output = some note → schemes.sealsIronwood ock note output

section Plans

variable {upstream : ExportUpstream schemes} {sections : PcztSections schemes}
  {transaction : Transaction schemes.toDisclosureSchemes} {enforcement : schemes.Zip212Enforcement}

/-- Every entry of a loop is that of a selected item at its place. -/
theorem selected_of_entry {α β : Type} {selects : α → Bool} {entry : UInt32 → α → Section β}
    {items : List α} {found : List β} {value : β}
    (collected : collectIndexed outOfRange selects entry 0 items = .ok found)
    (member : value ∈ found) : ∃ (position : Nat) (item : α), position < 2 ^ 32 ∧
      items[position]? = some item ∧ selects item = true ∧ entry (.ofNat position) item = .ok value := by
  obtain ⟨⟨item, position⟩, placed, fits, returned⟩ :=
    exists_of_forall₂ (collectIndexed_ok collected).flip member
  obtain ⟨listed, selected⟩ := List.mem_filter.mp placed
  exact ⟨position, item, fits, List.mem_zipIdx_iff_getElem?.mp listed, selected, returned⟩

theorem collectSaplingSpend_input {spend : PcztSaplingSpend schemes.toDisclosureSchemes}
    (collected : collectSaplingSpend upstream anchor position spend = .ok input) :
    input.index = position ∧ input.anchor = anchor ∧ spend.recipient = some input.recipient ∧
      spend.value = some input.amountZat ∧ spend.rseed = some input.rseed ∧
      spend.proofGenerationKey = some input.proofGenerationKey ∧
      spend.witness = some input.witness := by
  unfold collectSaplingSpend at collected
  simp only [bind_ok_iff,retained_ok_iff] at collected
  obtain ⟨⟨⟩, -, recipient, keptRecipient, amountZat, keptValue, rseed, keptRseed, key, keptKey,
    witness, keptWitness, returned⟩ := collected
  obtain rfl := Except.ok.inj returned
  exact ⟨rfl, rfl, keptRecipient, keptValue, keptRseed, keptKey, keptWitness⟩

theorem collectIronwoodSpend_input {action : PcztIronwoodAction schemes}
    (collected : collectIronwoodSpend upstream position action = .ok input) :
    input.index = position ∧ input.randomizedVerificationKey = action.spend.rk := by
  unfold collectIronwoodSpend at collected
  simp only [bind_ok_iff,retained_ok_iff] at collected
  obtain ⟨⟨⟩, -, ⟨⟩, -, alpha, -, returned⟩ := collected
  obtain rfl := Except.ok.inj returned
  exact ⟨rfl, rfl⟩

/-- The selected Sapling output is sealed with a note that has the requested receiver and amount. -/
theorem saplingOutput_seals (describes : Describes sections transaction enforcement)
    (own : sections.sapling = .ok bundle)
    (collected : collectMatchingSaplingOutputs bundle recipient receiver amountZat = .ok [selected]) :
    (∃ note, SaplingOutputSelection.Seals transaction enforcement selected note) ∧
      ∀ note, SaplingOutputSelection.Seals transaction enforcement selected note →
        note.recipient = receiver ∧ note.amountZat = amountZat := by
  obtain ⟨position, output, fits, atPosition, carries, made⟩ :=
    selected_of_entry collected List.mem_cons_self
  obtain ⟨-, itsReceiver, itsAmount⟩ := of_decide_eq_true carries
  obtain ⟨ock, kept, returned⟩ := bind_ok_iff.mp made
  obtain rfl := Except.ok.inj returned
  have place : (UInt32.ofNat position).toNat = position := UInt32.toNat_ofNat_of_lt' fits
  obtain ⟨onChainOutput, atIndex, sealed, only⟩ := describes.saplingOutputs _ _ _ own atPosition
  constructor
  · obtain ⟨note, seals⟩ := sealed ock (retained_ok_iff.mp kept)
    exact ⟨note, onChainOutput, by rw [place]; exact atIndex, seals⟩
  · rintro note ⟨found, atFound, seals⟩
    rw [place,atIndex] at atFound
    cases atFound
    obtain ⟨noteReceiver, noteAmount⟩ := only _ _ seals
    exact ⟨noteReceiver _ itsReceiver, noteAmount _ itsAmount⟩

theorem ironwoodOutput_seals (describes : Describes sections transaction enforcement)
    (opens : OpensSealed schemes) (own : sections.ironwood = .ok actions)
    (collected : collectMatchingIronwoodOutputs upstream actions expectation = .ok [selected]) :
    (∃ note, IronwoodOutputSelection.Seals transaction selected note) ∧
      ∀ note, IronwoodOutputSelection.Seals transaction selected note →
        note.recipient = expectation.ironwoodRecipient ∧ note.amountZat = expectation.amountZat := by
  obtain ⟨position, action, fits, atPosition, carries, made⟩ :=
    selected_of_entry collected List.mem_cons_self
  obtain ⟨-, itsReceiver, itsAmount⟩ := of_decide_eq_true carries
  obtain ⟨ock, kept, returned⟩ := bind_ok_iff.mp made
  obtain rfl := Except.ok.inj returned
  have place : (UInt32.ofNat position).toNat = position := UInt32.toNat_ofNat_of_lt' fits
  obtain ⟨atIndex, sealed, only⟩ := describes.ironwoodActions _ _ _ own atPosition
  constructor
  · have derived := retained_ok_iff.mp kept
    unfold deriveIronwoodOutputOck at derived
    split at derived
    · rename_i retainedOck
      cases derived
      obtain ⟨note, seals⟩ := sealed ock retainedOck
      exact ⟨note, _, by rw [place]; exact atIndex, seals⟩
    · -- A derived key was tried on the output before it was selected.
      have recovers := List.find?_some derived
      obtain ⟨note, recovered⟩ := Option.isSome_iff_exists.mp recovers
      exact ⟨note, _, by rw [place]; exact atIndex, opens _ _ _ recovered⟩
  · rintro note ⟨found, atFound, seals⟩
    rw [place,atIndex] at atFound
    cases atFound
    obtain ⟨noteReceiver, noteAmount⟩ := only _ _ seals
    exact ⟨noteReceiver _ itsReceiver, noteAmount _ itsAmount⟩

variable {params : ConsensusParameters schemes.toDisclosureSchemes} {finalizedPczt : PcztBytes}
  {plan : PaymentDisclosureExportPlan} {keys : ExportKeys schemes}

/-- A production plan of Sapling spends is one of the transaction the PCZT became. -/
theorem saplingProductionPlan_of (identified : transaction.txid = plan.transactionId)
    (network : networkType finalizedPczt.network = params.networkType)
    (describes : ∀ sections, upstream.parse finalizedPczt.bytes = .ok sections →
      Describes sections transaction (params.zip212Enforcement minedHeight))
    (reached : saplingProductionPlan upstream finalizedPczt plan keys = .ok production) :
    ∃ disclosed ask receiver selected, production = .sapling disclosed ask ∧
      disclosed.Of params transaction minedHeight ∧ disclosed.saplingOutputs = [selected] ∧
      (upstream.decode finalizedPczt.network plan.recipient.encoded).bind (·.toSaplingAddress) =
        some receiver ∧
      ∀ note, SaplingOutputSelection.Seals transaction (params.zip212Enforcement minedHeight)
        selected note → note.recipient = receiver ∧ note.amountZat = plan.amountZat.raw := by
  unfold saplingProductionPlan at reached
  split at reached
  · cases reached
  rename_i receiver requested
  obtain ⟨source, verified, reached⟩ := bind_ok_iff.mp reached
  split at reached
  · obtain ⟨disclosed, built, returned⟩ := bind_ok_iff.mp reached
    obtain ⟨-, rfl⟩ := paymentDisclosurePlan_ok (mapError_ok_iff.mp built)
    obtain ⟨sections, bundle, parsed, own, -, -, -, spends, outputs⟩ :=
      verifySaplingDisclosureSource_ok verified
    obtain ⟨sealed, requestedNote⟩ := saplingOutput_seals (describes sections parsed) own outputs
    refine ⟨_, _, receiver, source.selectedOutput, (Except.ok.inj returned).symm,
      ⟨identified.symm, network, fun input member => ?_, fun selection member => ?_⟩, rfl, requested,
      requestedNote⟩
    · obtain ⟨position, spend, fits, atPosition, -, made⟩ := selected_of_entry spends member
      obtain ⟨index, anchor, recipient, value, rseed, key, witness⟩ := collectSaplingSpend_input made
      obtain ⟨onChainSpend, atIndex, sameAnchor, opens⟩ :=
        (describes sections parsed).saplingSpends _ _ _ own atPosition
      refine ⟨onChainSpend, ?_, anchor.trans sameAnchor, opens _ _ _ _ _ recipient value rseed key
        witness⟩
      rw [index,UInt32.toNat_ofNat_of_lt' fits]
      exact atIndex
    · obtain rfl := List.mem_singleton.mp member
      exact sealed
  · cases reached

theorem ironwoodProductionPlan_of (identified : transaction.txid = plan.transactionId)
    (network : networkType finalizedPczt.network = params.networkType) (opens : OpensSealed schemes)
    (describes : ∀ sections, upstream.parse finalizedPczt.bytes = .ok sections →
      Describes sections transaction enforcement)
    (reached : ironwoodProductionPlan upstream finalizedPczt plan keys = .ok production) :
    ∃ disclosed ask receiver selected, production = .ironwood disclosed ask ∧
      disclosed.Of params transaction ∧ disclosed.ironwoodOutputs = [selected] ∧
      (∃ saplingReceiver, upstream.decode finalizedPczt.network plan.recipient.encoded =
        some (.unified saplingReceiver (some receiver))) ∧
      ∀ note, IronwoodOutputSelection.Seals transaction selected note →
        note.recipient = receiver ∧ note.amountZat = plan.amountZat.raw := by
  obtain ⟨receiver, decoded, reached⟩ := bind_ok_iff.mp reached
  have requested : ∃ saplingReceiver, upstream.decode finalizedPczt.network plan.recipient.encoded =
      some (.unified saplingReceiver (some receiver)) := by
    unfold ironwoodRecipient at decoded
    split at decoded
    · rename_i saplingReceiver found same
      rw [← Except.ok.inj decoded]
      exact ⟨saplingReceiver, same⟩
    · cases decoded
  split at reached
  · cases reached
  obtain ⟨source, verified, reached⟩ := bind_ok_iff.mp reached
  obtain ⟨disclosed, built, returned⟩ := bind_ok_iff.mp reached
  obtain ⟨-, rfl⟩ := ironwoodDisclosurePlan_ok (mapError_ok_iff.mp built)
  obtain ⟨sections, bundle, actions, parsed, own, -, -, -, -, -, spends, outputs⟩ :=
    verifyIronwoodDisclosureSource_ok verified
  obtain ⟨sealed, requestedNote⟩ := ironwoodOutput_seals (describes sections parsed) opens own outputs
  refine ⟨_, _, receiver, source.selectedOutput, (Except.ok.inj returned).symm,
    ⟨identified.symm, network, fun input member => ?_, fun selection member => ?_⟩, rfl, requested,
    requestedNote⟩
  · obtain ⟨position, action, fits, atPosition, -, made⟩ := selected_of_entry spends member
    obtain ⟨index, key⟩ := collectIronwoodSpend_input made
    obtain ⟨atIndex, -⟩ := (describes sections parsed).ironwoodActions _ _ _ own atPosition
    refine ⟨⟨action.spend.rk, action.output.encryptedNote⟩, ?_, key⟩
    rw [index,UInt32.toNat_ofNat_of_lt' fits]
    exact atIndex
  · obtain rfl := List.mem_singleton.mp member
    exact sealed

end Plans

/-- The evidence of the requested payment: one output, of the requested receiver and amount. -/
def Pays (upstream : ExportUpstream schemes) (network : Network) (plan : PaymentDisclosureExportPlan)
    (evidence : PaymentDisclosureEvidence schemes.toDisclosureSchemes) : Prop :=
  match plan.profile with
  | .zip311Draft1 => ∃ receiver index memo,
    (upstream.decode network plan.recipient.encoded).bind (·.toSaplingAddress) = some receiver ∧
      evidence.saplingOutputs = [⟨index, receiver, plan.amountZat.raw, memo⟩] ∧
      evidence.ironwoodSpends = [] ∧ evidence.ironwoodOutputs = []
  | .zallyIronwood => ∃ saplingReceiver receiver index memo,
    upstream.decode network plan.recipient.encoded = some (.unified saplingReceiver (some receiver)) ∧
      evidence.ironwoodOutputs = [⟨index, receiver, plan.amountZat.raw, memo⟩] ∧
      evidence.saplingSpends = [] ∧ evidence.saplingOutputs = []

def sampleWallet : DisclosureWallet := ⟨.testnet, fun _ => .ok (some []), .ok []⟩

theorem sampleActions_describe (parsed : (sampleUpstream none).parse bytes = .ok sections) :
    Describes sections sampleTransaction enforcement := by
  obtain rfl := Except.ok.inj parsed
  constructor
  case saplingSpends =>
    rintro bundle index spend own atIndex
    cases own
    cases atIndex
  case saplingOutputs =>
    rintro bundle index output own atIndex
    cases own
    cases atIndex
  case ironwoodActions =>
    rintro actions index action own atIndex
    cases own
    have sealed : ∀ ock (note : RecoveredNote UInt8), (sampleOck, sampleNote) = (ock, note) →
        note = sampleNote := fun ock note same => (congrArg Prod.snd same).symm
    rcases index with _ | _ | index
    · cases atIndex
      refine ⟨rfl, nofun, fun ock note seals => ?_⟩
      exact ⟨nofun, nofun⟩
    · cases atIndex
      refine ⟨rfl, fun ock kept => ⟨sampleNote, ?_⟩, fun ock note seals => ?_⟩
      · cases kept
        rfl
      · cases sealed ock note seals
        exact ⟨fun recipient same => Option.some.inj same, fun value same => Option.some.inj same⟩
    · cases atIndex

theorem sample_opens : OpensSealed samplePcztSchemes := by
  intro ock output note recovered
  change (if output.1 = ock then some output.2 else none) = some note at recovered
  split at recovered
  · rename_i same
    cases recovered
    exact Prod.ext same rfl
  · cases recovered

end Zally.DisclosureExport
