import Zally.Disclosure.Agreement
import Zally.Pczt.DisclosureExport

/-! What an export that reaches production discloses: the one requested output, and the spends of
its pool that say they carry value. -/
namespace Zally.DisclosureExport

open Disclosure Outcome Wire

variable {ρ : Type}

section Collecting

variable {α β : Type} {outOfRange : PaymentDisclosureExportError} {selects : α → Bool}
  {entry : UInt32 → α → Section β}

/-- The entries of a loop are those of the selected items, in order. -/
theorem collectIndexed_ok
    (collected : collectIndexed outOfRange selects entry start items = .ok found) :
    List.Forall₂ (fun placed value => placed.2 < 2 ^ 32 ∧ entry (.ofNat placed.2) placed.1 = .ok value)
      ((items.zipIdx start).filter fun placed => selects placed.1) found := by
  induction items generalizing start found with
  | nil =>
    obtain rfl := Except.ok.inj collected
    exact .nil
  | cons item items ih =>
    rw [collectIndexed] at collected
    rw [List.zipIdx_cons]
    by_cases selected : selects item = true
    · rw [if_pos selected] at collected
      rw [List.filter_cons,if_pos selected]
      split at collected
      · rename_i fits
        obtain ⟨value, first, collected⟩ := bind_ok_iff.mp collected
        obtain ⟨values, rest, returned⟩ := bind_ok_iff.mp collected
        obtain rfl := Except.ok.inj returned
        exact .cons ⟨fits, first⟩ (ih rest)
      · cases collected
    · rw [if_neg selected] at collected
      rw [List.filter_cons,if_neg selected]
      exact ih collected

variable {index : β → UInt32}

/-- The positions collected are those of the selected items. -/
theorem position_iff (keeps : ∀ position item value, entry position item = .ok value →
      index value = position)
    (collected : collectIndexed outOfRange selects entry 0 items = .ok found) (position : Nat) :
    position ∈ (found.map index).map UInt32.toNat ↔
      ∃ item, items[position]? = some item ∧ selects item = true := by
  have related := collectIndexed_ok collected
  have positions : (found.map index).map UInt32.toNat =
      ((items.zipIdx 0).filter fun placed => selects placed.1).map Prod.snd := by
    rw [List.map_map]
    refine map_eq_of_forall₂ related ?_
    rintro ⟨item, place⟩ value ⟨fits, returned⟩
    change (index value).toNat = place
    rw [keeps _ _ _ returned,UInt32.toNat_ofNat_of_lt' fits]
  rw [positions]
  simp only [List.mem_map,List.mem_filter,Prod.exists,exists_eq_right,List.mem_zipIdx_iff_getElem?]

/-- Every selected item has its entry. -/
theorem entry_of_selected (collected : collectIndexed outOfRange selects entry 0 items = .ok found)
    (member : item ∈ items) (selected : selects item = true) :
    ∃ position value, entry position item = .ok value := by
  obtain ⟨place, atPlace⟩ := List.mem_iff_getElem?.mp member
  have placed : (item, place) ∈ (items.zipIdx 0).filter fun placed => selects placed.1 :=
    List.mem_filter.mpr ⟨List.mem_zipIdx_iff_getElem?.mpr atPlace, selected⟩
  obtain ⟨value, -, -, returned⟩ := exists_of_forall₂ (collectIndexed_ok collected) placed
  exact ⟨_, value, returned⟩

/-- One entry is the entry of the only selected item. -/
theorem only_selected (keeps : ∀ position item value, entry position item = .ok value →
      index value = position)
    (collected : collectIndexed outOfRange selects entry 0 items = .ok [value]) :
    ∃ item, items[(index value).toNat]? = some item ∧ selects item = true ∧
      ∀ other otherItem, items[other]? = some otherItem → selects otherItem = true →
        other = (index value).toNat := by
  obtain ⟨item, atIndex, selected⟩ :=
    (position_iff keeps collected (index value).toNat).mp (List.mem_singleton.mpr rfl)
  refine ⟨item, atIndex, selected, fun other otherItem atOther alsoSelected => ?_⟩
  have position := (position_iff keeps collected other).mpr ⟨otherItem, atOther, alsoSelected⟩
  exact List.mem_singleton.mp position

theorem retained_ok_iff {field : Option α} {missing : PcztSectionError} :
    retained field missing = .ok value ↔ field = some value := by
  cases field with
  | none => exact iff_of_false (fun same => (by cases same)) (fun same => (by cases same))
  | some found => exact ⟨fun same => congrArg some (Except.ok.inj same),
      fun same => congrArg Except.ok (Option.some.inj same)⟩

end Collecting

section Sections

variable {schemes : PcztSchemes ρ} {upstream : ExportUpstream schemes} {sections : PcztSections schemes}

theorem withSection_ok {α β : Type} {bundle : Except String β} {check : β → Section α}
    {error : PcztSectionError → PaymentDisclosureExportError} {value : α}
    (accepted : (withSection bundle check).mapError error = .ok value) :
    ∃ parsed, bundle = .ok parsed ∧ check parsed = .ok value := by
  cases bundle with
  | error reason => cases accepted
  | ok parsed => exact ⟨parsed, rfl, mapError_ok_iff.mp accepted⟩

theorem requireEmpty_ok (accepted : requireEmpty unsupported isEmpty = .ok ()) : isEmpty = true := by
  unfold requireEmpty at accepted
  split at accepted
  · assumption
  · cases accepted

theorem withTransparent_ok (accepted : withTransparent sections = .ok ()) :
    sections.transparentInputs = .ok 0 := by
  obtain ⟨inputs, parsed, none⟩ := withSection_ok accepted
  rw [parsed,beq_iff_eq.mp (requireEmpty_ok none)]

theorem withOrchard_ok (accepted : withOrchard sections = .ok ()) :
    sections.orchardActions = .ok 0 := by
  obtain ⟨actions, parsed, none⟩ := withSection_ok accepted
  rw [parsed,beq_iff_eq.mp (requireEmpty_ok none)]

theorem selectOutput_ok {α : Type} {matching : List α} {selected : α}
    (accepted : selectOutput notFound ambiguous matching = .ok selected) : matching = [selected] := by
  rcases matching with _ | ⟨first, _ | ⟨second, rest⟩⟩
  · cases accepted
  · rw [Except.ok.inj accepted]
  · cases accepted

/-- What a Sapling spend retains for its proof. -/
structure PcztSaplingSpend.Retained (spend : PcztSaplingSpend schemes.toDisclosureSchemes) : Prop where
  recipient : spend.recipient.isSome
  value : spend.value.isSome
  rseed : spend.rseed.isSome
  proofGenerationKey : spend.proofGenerationKey.isSome
  witness : spend.witness.isSome

/-- What an Ironwood spend that carries value retains beside it. -/
structure PcztIronwoodSpend.Signable (spend : PcztIronwoodSpend schemes) : Prop where
  recipient : spend.recipient.isSome
  rho : spend.rho.isSome
  rseed : spend.rseed.isSome
  fvk : spend.fvk.isSome
  alpha : spend.alpha.isSome

/-- The upstream verifier recomputes a nullifier from the whole retained note. -/
structure ExportUpstream.Checks (upstream : ExportUpstream schemes) : Prop where
  nullifier : ∀ spend, upstream.verifyNullifier spend = .ok () →
    spend.recipient.isSome ∧ spend.rho.isSome ∧ spend.rseed.isSome ∧ spend.fvk.isSome

theorem collectSaplingSpend_ok {spend : PcztSaplingSpend schemes.toDisclosureSchemes}
    (collected : collectSaplingSpend upstream anchor position spend = .ok input) :
    input.index = position ∧ spend.Retained := by
  unfold collectSaplingSpend at collected
  simp only [bind_ok_iff,retained_ok_iff] at collected
  obtain ⟨⟨⟩, -, recipient, keptRecipient, amountZat, keptValue, rseed, keptRseed, key, keptKey,
    witness, keptWitness, returned⟩ := collected
  obtain rfl := Except.ok.inj returned
  exact ⟨rfl, by simp [keptRecipient], by simp [keptValue], by simp [keptRseed], by simp [keptKey],
    by simp [keptWitness]⟩

theorem collectIronwoodSpend_ok (checks : upstream.Checks) {action : PcztIronwoodAction schemes}
    (collected : collectIronwoodSpend upstream position action = .ok input) :
    input.index = position ∧ action.spend.Signable := by
  unfold collectIronwoodSpend at collected
  simp only [bind_ok_iff,retained_ok_iff] at collected
  obtain ⟨⟨⟩, verified, ⟨⟩, -, alpha, keptAlpha, returned⟩ := collected
  obtain rfl := Except.ok.inj returned
  obtain ⟨recipient, rho, rseed, fvk⟩ := checks.nullifier _ (mapError_ok_iff.mp verified)
  exact ⟨rfl, recipient, rho, rseed, fvk, by simp [keptAlpha]⟩

theorem collectSaplingOutput_ok {output : PcztSaplingOutput schemes.toDisclosureSchemes}
    (collected : collectSaplingOutput position output = .ok selection) :
    selection.index = position := by
  obtain ⟨ock, -, returned⟩ := bind_ok_iff.mp collected
  rw [← Except.ok.inj returned]

theorem collectIronwoodOutput_ok {action : PcztIronwoodAction schemes}
    (collected : collectIronwoodOutput upstream viewingKeys position action = .ok selection) :
    selection.index = position := by
  obtain ⟨ock, -, returned⟩ := bind_ok_iff.mp collected
  rw [← Except.ok.inj returned]

/-- The one selected output of a pool, and its disclosed spends, against the pool's own outputs and
spends. -/
structure Discloses {α β : Type} (outputs : List α) (carries : α → Prop) (selected : List UInt32)
    (spends : List β) (counts : β → Prop) (disclosed : List UInt32) : Prop where
  output : ∃ index output, selected = [index] ∧ outputs[index.toNat]? = some output ∧
    carries output ∧
    ∀ other otherOutput, outputs[other]? = some otherOutput → carries otherOutput →
      other = index.toNat
  increasing : disclosed.Pairwise (· < ·)
  spends : ∀ position, position ∈ disclosed.map UInt32.toNat ↔
    ∃ spend, spends[position]? = some spend ∧ counts spend

/-- Spends and matching outputs of a section, of which one output was selected. -/
theorem selected_ok {ε α β γ : Type} {collectSpends : Except ε (List α)}
    {collectOutputs : Except ε (List β)} {spends : List α} {matching : List β}
    {make : β → γ} {source : γ} (collected : (collectSpends >>= fun spends =>
      collectOutputs >>= fun outputs => pure (spends, outputs)) = .ok (spends, matching))
    (accepted : (if spends.isEmpty then .error missing else
      selectOutput notFound ambiguous matching >>= fun selected => pure (make selected)) =
        .ok source) :
    ∃ selected, collectSpends = .ok spends ∧ collectOutputs = .ok [selected] ∧
      source = make selected := by
  obtain ⟨collectedSpends, spendsOk, collected⟩ := bind_ok_iff.mp collected
  obtain ⟨collectedOutputs, outputsOk, returned⟩ := bind_ok_iff.mp collected
  cases returned
  split at accepted
  · cases accepted
  obtain ⟨selected, found, returned⟩ := bind_ok_iff.mp accepted
  rw [selectOutput_ok found] at outputsOk
  exact ⟨selected, spendsOk, outputsOk, (Except.ok.inj returned).symm⟩

theorem verifySaplingDisclosureSource_ok (accepted :
      verifySaplingDisclosureSource upstream finalizedPczt plan receiver = .ok source) :
    ∃ sections bundle, upstream.parse finalizedPczt.bytes = .ok sections ∧
      sections.sapling = .ok bundle ∧ sections.transparentInputs = .ok 0 ∧
      sections.orchardActions = .ok 0 ∧ sections.ironwood = .ok [] ∧
      collectSaplingSpends upstream bundle = .ok source.saplingSpends ∧
      collectMatchingSaplingOutputs bundle plan.recipient.encoded receiver plan.amountZat.raw =
        .ok [source.selectedOutput] := by
  obtain ⟨sections, parsed, accepted⟩ := bind_ok_iff.mp accepted
  obtain ⟨⟨⟩, transparent, accepted⟩ := bind_ok_iff.mp accepted
  obtain ⟨⟨⟩, orchard, accepted⟩ := bind_ok_iff.mp accepted
  obtain ⟨⟨⟩, ironwood, accepted⟩ := bind_ok_iff.mp accepted
  obtain ⟨⟨spends, matching⟩, sapling, accepted⟩ := bind_ok_iff.mp accepted
  obtain ⟨actions, ironwoodParsed, noActions⟩ := withSection_ok ironwood
  obtain ⟨bundle, saplingParsed, collected⟩ := withSection_ok sapling
  obtain ⟨selected, spendsOk, outputsOk, rfl⟩ := selected_ok collected accepted
  rw [List.isEmpty_iff.mp (requireEmpty_ok noActions)] at ironwoodParsed
  exact ⟨sections, bundle, mapError_ok_iff.mp parsed, saplingParsed, withTransparent_ok transparent,
    withOrchard_ok orchard, ironwoodParsed, spendsOk, outputsOk⟩

theorem verifyIronwoodDisclosureSource_ok (accepted : verifyIronwoodDisclosureSource upstream
      finalizedPczt plan receiver viewingKeys = .ok source) :
    ∃ sections bundle actions, upstream.parse finalizedPczt.bytes = .ok sections ∧
      sections.ironwood = .ok actions ∧ sections.transparentInputs = .ok 0 ∧
      sections.orchardActions = .ok 0 ∧ sections.sapling = .ok bundle ∧
      bundle.spends = [] ∧ bundle.outputs = [] ∧
      collectIronwoodSpends upstream actions = .ok source.ironwoodSpends ∧
      collectMatchingIronwoodOutputs upstream actions ⟨plan.recipient.encoded, receiver,
        plan.amountZat.raw, viewingKeys⟩ = .ok [source.selectedOutput] := by
  obtain ⟨sections, parsed, accepted⟩ := bind_ok_iff.mp accepted
  obtain ⟨⟨⟩, transparent, accepted⟩ := bind_ok_iff.mp accepted
  obtain ⟨⟨⟩, sapling, accepted⟩ := bind_ok_iff.mp accepted
  obtain ⟨⟨⟩, orchard, accepted⟩ := bind_ok_iff.mp accepted
  obtain ⟨⟨spends, matching⟩, ironwood, accepted⟩ := bind_ok_iff.mp accepted
  obtain ⟨bundle, saplingParsed, noSapling⟩ := withSection_ok sapling
  obtain ⟨noSpends, noOutputs⟩ := Bool.and_eq_true_iff.mp (requireEmpty_ok noSapling)
  obtain ⟨actions, ironwoodParsed, collected⟩ := withSection_ok ironwood
  obtain ⟨selected, spendsOk, outputsOk, rfl⟩ := selected_ok collected accepted
  exact ⟨sections, bundle, actions, mapError_ok_iff.mp parsed, ironwoodParsed,
    withTransparent_ok transparent, withOrchard_ok orchard, saplingParsed,
    List.isEmpty_iff.mp noSpends, List.isEmpty_iff.mp noOutputs, spendsOk, outputsOk⟩

end Sections

section Complete

variable {schemes : PcztSchemes ρ} (upstream : ExportUpstream schemes) (finalizedPczt : PcztBytes)
  (plan : PaymentDisclosureExportPlan)

/-- An export of Sapling authority: no other spending authority in the PCZT, one output that
carries the request, and every spend with all it retains. -/
structure SaplingExport (production : PaymentDisclosurePlan schemes.sapling)
    (sections : PcztSections schemes) (bundle : PcztSaplingBundle schemes.toDisclosureSchemes)
    (receiver : schemes.sapling.PaymentAddress) : Prop where
  parsed : upstream.parse finalizedPczt.bytes = .ok sections
  ownSection : sections.sapling = .ok bundle
  requested : (upstream.decode finalizedPczt.network plan.recipient.encoded).bind
    (·.toSaplingAddress) = some receiver
  transparent : sections.transparentInputs = .ok 0
  orchard : sections.orchardActions = .ok 0
  ironwood : sections.ironwood = .ok []
  discloses : Discloses bundle.outputs
    (fun output => output.Carries plan.recipient.encoded receiver plan.amountZat.raw)
    (production.saplingOutputs.map (·.index)) bundle.spends (fun _ => True)
    (production.saplingSpends.map (·.index))
  retained : ∀ spend ∈ bundle.spends, spend.Retained

/-- The same of Ironwood authority, except for the values its spends retain. -/
structure IronwoodExport (production : IronwoodDisclosurePlan schemes.ironwood)
    (sections : PcztSections schemes) (bundle : PcztSaplingBundle schemes.toDisclosureSchemes)
    (actions : List (PcztIronwoodAction schemes)) (receiver : schemes.IronwoodAddress) : Prop where
  parsed : upstream.parse finalizedPczt.bytes = .ok sections
  ownSection : sections.ironwood = .ok actions
  requested : ∃ saplingReceiver, upstream.decode finalizedPczt.network plan.recipient.encoded =
    some (.unified saplingReceiver (some receiver))
  transparent : sections.transparentInputs = .ok 0
  orchard : sections.orchardActions = .ok 0
  sapling : sections.sapling = .ok bundle
  noSpends : bundle.spends = []
  noOutputs : bundle.outputs = []
  discloses : Discloses actions (fun action => action.output.Carries plan.recipient.encoded receiver
    plan.amountZat.raw) (production.ironwoodOutputs.map (·.index)) actions
    (fun action => action.spend.hasSpendAmount = true) (production.ironwoodSpends.map (·.index))
  signable : ∀ action ∈ actions, action.spend.hasSpendAmount = true → action.spend.Signable

/-- A complete and unambiguous export: in addition no Ironwood spend lacks its value. -/
def Complete : ProductionPlan schemes → Prop
  | .sapling production _ => plan.profile = .zip311Draft1 ∧ ∃ sections bundle receiver,
    SaplingExport upstream finalizedPczt plan production sections bundle receiver
  | .ironwood production _ => plan.profile = .zallyIronwood ∧ ∃ sections bundle actions receiver,
    IronwoodExport upstream finalizedPczt plan production sections bundle actions receiver ∧
      ∀ action ∈ actions, action.spend.value.isSome

/-- The PCZT retains the value of every Ironwood spend. -/
def RetainsValues : Prop :=
  ∀ sections actions, upstream.parse finalizedPczt.bytes = .ok sections →
    sections.ironwood = .ok actions → ∀ action ∈ actions, action.spend.value.isSome

section Reached

variable {upstream finalizedPczt plan} {keys : ExportKeys schemes}

theorem paymentDisclosurePlan_ok {scheme : SaplingScheme ρ} {production : PaymentDisclosurePlan scheme}
    {spends : List (SaplingSpendProvingInput scheme)}
    (built : PaymentDisclosurePlan.new txId network text spends outputs = .ok production) :
    (spends.map (·.index)).Pairwise (· < ·) ∧ production = ⟨txId, network, text, spends, outputs⟩ := by
  obtain ⟨⟨⟩, shape, returned⟩ := bind_ok_iff.mp built
  exact ⟨(shape_ok shape).2.1, (Except.ok.inj returned).symm⟩

theorem ironwoodDisclosurePlan_ok {scheme : SpendAuthScheme ρ}
    {production : IronwoodDisclosurePlan scheme} {spends : List (IronwoodSpendSigningInput scheme)}
    (built : IronwoodDisclosurePlan.new txId network text spends outputs = .ok production) :
    (spends.map (·.index)).Pairwise (· < ·) ∧ production = ⟨txId, network, text, spends, outputs⟩ := by
  obtain ⟨⟨⟩, shape, returned⟩ := bind_ok_iff.mp built
  exact ⟨(shape_ok shape).2.1, (Except.ok.inj returned).symm⟩

theorem saplingProductionPlan_ok
    (reached : saplingProductionPlan upstream finalizedPczt plan keys = .ok production) :
    ∃ disclosed ask sections bundle receiver, production = .sapling disclosed ask ∧
      SaplingExport upstream finalizedPczt plan disclosed sections bundle receiver := by
  unfold saplingProductionPlan at reached
  split at reached
  · cases reached
  rename_i receiver requested
  obtain ⟨source, verified, reached⟩ := bind_ok_iff.mp reached
  split at reached
  · obtain ⟨disclosed, built, returned⟩ := bind_ok_iff.mp reached
    obtain ⟨increasing, rfl⟩ := paymentDisclosurePlan_ok (mapError_ok_iff.mp built)
    obtain ⟨sections, bundle, parsed, own, transparent, orchard, ironwood, spends, outputs⟩ :=
      verifySaplingDisclosureSource_ok verified
    have keepsSpend : ∀ position spend (input : SaplingSpendProvingInput schemes.sapling),
        collectSaplingSpend upstream bundle.anchor position spend = .ok input →
        input.index = position := fun _ _ _ collected => (collectSaplingSpend_ok collected).1
    obtain ⟨output, atIndex, carries, only⟩ := only_selected
      (fun _ _ _ collected => collectSaplingOutput_ok collected) outputs
    refine ⟨_, _, sections, bundle, receiver, (Except.ok.inj returned).symm, parsed, own, requested,
      transparent, orchard, ironwood, ⟨⟨_, output, rfl, atIndex, of_decide_eq_true carries,
        fun other otherOutput found also => only other otherOutput found (decide_eq_true also)⟩,
        increasing, fun position => ?_⟩, fun spend member => ?_⟩
    · rw [position_iff keepsSpend spends position]
      simp
    · obtain ⟨position, input, collected⟩ := entry_of_selected spends member rfl
      exact (collectSaplingSpend_ok collected).2
  · cases reached

theorem ironwoodProductionPlan_ok (checks : upstream.Checks)
    (reached : ironwoodProductionPlan upstream finalizedPczt plan keys = .ok production) :
    ∃ disclosed ask sections bundle actions receiver, production = .ironwood disclosed ask ∧
      IronwoodExport upstream finalizedPczt plan disclosed sections bundle actions receiver := by
  obtain ⟨receiver, decoded, reached⟩ := bind_ok_iff.mp reached
  have requested : ∃ saplingReceiver, upstream.decode finalizedPczt.network plan.recipient.encoded =
      some (.unified saplingReceiver (some receiver)) := by
    unfold ironwoodRecipient at decoded
    split at decoded
    · rename_i saplingReceiver found same
      rw [← Except.ok.inj decoded]
      exact ⟨saplingReceiver, same⟩
    · cases decoded
  split at reached
  · cases reached
  obtain ⟨source, verified, reached⟩ := bind_ok_iff.mp reached
  obtain ⟨disclosed, built, returned⟩ := bind_ok_iff.mp reached
  obtain ⟨increasing, rfl⟩ := ironwoodDisclosurePlan_ok (mapError_ok_iff.mp built)
  obtain ⟨sections, bundle, actions, parsed, own, transparent, orchard, sapling, noSpends, noOutputs,
    spends, outputs⟩ := verifyIronwoodDisclosureSource_ok verified
  have keepsSpend : ∀ position action (input : IronwoodSpendSigningInput schemes.ironwood),
      collectIronwoodSpend upstream position action = .ok input → input.index = position :=
    fun _ _ _ collected => (collectIronwoodSpend_ok checks collected).1
  obtain ⟨action, atIndex, carries, only⟩ := only_selected
    (fun _ _ _ collected => collectIronwoodOutput_ok collected) outputs
  refine ⟨_, _, sections, bundle, actions, receiver, (Except.ok.inj returned).symm, parsed, own,
    requested, transparent, orchard, sapling, noSpends, noOutputs,
    ⟨⟨_, action, rfl, atIndex, of_decide_eq_true carries, fun other otherAction found also =>
      only other otherAction found (decide_eq_true also)⟩, increasing,
      position_iff keepsSpend spends⟩, fun action member has => ?_⟩
  obtain ⟨position, input, collected⟩ := entry_of_selected spends member has
  exact (collectIronwoodSpend_ok checks collected).2

end Reached

/-- An export that reaches production is complete and unambiguous exactly when it discloses Sapling
spends, or the PCZT retains the value of every Ironwood spend. -/
theorem export_complete_iff (upstream : ExportUpstream schemes) (checks : upstream.Checks)
    (finalizedPczt : PcztBytes) (plan : PaymentDisclosureExportPlan) (seed : SeedMaterial)
    (production : ProductionPlan schemes)
    (reached : productionPlan upstream finalizedPczt plan seed = .ok production) :
    Complete upstream finalizedPczt plan production ↔
      plan.profile = .zip311Draft1 ∨ RetainsValues upstream finalizedPczt := by
  unfold productionPlan at reached
  split at reached
  · cases reached
  split at reached
  · cases reached
  rename_i keys derived
  cases profile : plan.profile with
  | zip311Draft1 =>
    rw [profile] at reached
    obtain ⟨disclosed, ask, sections, bundle, receiver, rfl, exported⟩ := saplingProductionPlan_ok reached
    exact iff_of_true ⟨profile, sections, bundle, receiver, exported⟩ (.inl rfl)
  | zallyIronwood =>
    rw [profile] at reached
    obtain ⟨disclosed, ask, sections, bundle, actions, receiver, rfl, exported⟩ :=
      ironwoodProductionPlan_ok checks reached
    constructor
    · rintro ⟨-, found, otherBundle, otherActions, otherReceiver, other, values⟩
      refine .inr fun third thirdActions parsed own => ?_
      have sameSections := other.parsed.symm.trans parsed
      obtain rfl := Except.ok.inj sameSections
      obtain rfl := Except.ok.inj (other.ownSection.symm.trans own)
      exact values
    · rintro (draft1 | values)
      · cases draft1
      · exact ⟨profile, sections, bundle, actions, receiver, exported,
          values sections actions exported.parsed exported.ownSection⟩

/-- An export returns what its production returns. -/
theorem export_of_produced {upstream : ExportUpstream schemes} {ask : schemes.ironwood.AuthorizingKey}
    (reached : productionPlan upstream finalizedPczt plan seed = .ok (.ironwood disclosed ask))
    (ran : (signIronwoodDisclosure schemes.ironwood schemes.blake2b disclosed ask).run rng =
      .ok (disclosure, stop)) :
    exportPaymentDisclosure upstream finalizedPczt plan seed rng = .ok disclosure := by
  refine bind_ok_iff.mpr ⟨_, reached, ?_⟩
  rw [produce,ran]
  rfl

end Complete

/-! ### A PCZT of two Ironwood actions -/

def samplePcztSchemes : PcztSchemes UInt8 where
  toDisclosureSchemes := sampleSchemes
  Rho := Unit
  IronwoodRseed := Unit
  FullViewingKey := Unit
  OutgoingViewingKey := Unit
  samePaymentAddress := instDecidableEqUInt8
  sameIronwoodAddress := instDecidableEqUInt8

def sampleSpend (value : Option UInt64) (rk : UInt8) : PcztIronwoodSpend samplePcztSchemes :=
  ⟨value, some (4 : UInt8), some (), some (), some (), some (1 : UInt8), rk⟩

/-- A spend whose value may be missing, and the spend that pays the requested output. -/
def sampleActions (firstValue : Option UInt64) : List (PcztIronwoodAction samplePcztSchemes) :=
  [⟨sampleSpend firstValue 1, ⟨none, none, none, none, (sampleOck, sampleNote)⟩⟩,
    ⟨sampleSpend (some 50000) 3, ⟨some "u1", some (6 : UInt8), some 40000, some sampleOck,
      (sampleOck, sampleNote)⟩⟩]

def sampleUpstream (firstValue : Option UInt64) : ExportUpstream samplePcztSchemes where
  parse _ := .ok ⟨.ok 0, .ok ⟨(9 : UInt8), [], []⟩, .ok 0, .ok (sampleActions firstValue)⟩
  fromSeed _ := .ok ⟨(2 : UInt8), some (2 : UInt8), []⟩
  decode _ _ := some (.unified none (some (6 : UInt8)))
  verifySaplingNullifier _ := .ok ()
  verifyNullifier spend :=
    if spend.value.isSome ∧ spend.recipient.isSome ∧ spend.rho.isSome ∧ spend.rseed.isSome ∧
      spend.fvk.isSome then .ok () else .error "MissingField"
  verifyRk _ := .ok ()
  deriveOck _ _ := sampleOck
  proverAvailable := true

theorem sampleUpstream_checks : (sampleUpstream firstValue).Checks where
  nullifier spend verified := by
    change (if _ then _ else _) = _ at verified
    split at verified
    · rename_i kept
      exact kept.2
    · cases verified

def samplePczt : PcztBytes := ⟨[], .testnet⟩

def sampleExport : PaymentDisclosureExportPlan :=
  ⟨5, .unifiedAddress "u1" .testnet, ⟨40000⟩, [1, 2], .zallyIronwood⟩

def sampleDisclosed : IronwoodDisclosurePlan samplePcztSchemes.ironwood :=
  ⟨5, .test, [1, 2], [⟨1, (1 : UInt8), (3 : UInt8)⟩], [⟨1, sampleOck⟩]⟩

theorem sample_reaches (worthless : firstValue = none ∨ firstValue = some 0) :
    productionPlan (sampleUpstream firstValue) samplePczt sampleExport [] =
      .ok (.ironwood sampleDisclosed (2 : UInt8)) := by
  rcases worthless with rfl | rfl <;> rfl

/-- A spend of value zero may stay undisclosed. -/
theorem sampleZero_complete : Complete (sampleUpstream (some 0)) samplePczt sampleExport
    (.ironwood sampleDisclosed (2 : UInt8)) := by
  refine (export_complete_iff (sampleUpstream (some 0)) sampleUpstream_checks samplePczt sampleExport []
    (.ironwood sampleDisclosed (2 : UInt8)) (sample_reaches (.inr rfl))).mpr (.inr ?_)
  intro sections actions parsed own action member
  obtain rfl := Except.ok.inj parsed
  obtain rfl : sampleActions (some 0) = actions := Except.ok.inj own
  rcases List.mem_cons.mp member with rfl | later
  · rfl
  · obtain rfl := List.mem_singleton.mp later
    rfl

theorem sampleDisclosed_of :
    IronwoodDisclosurePlan.Of sampleDisclosed sampleParams sampleTransaction where
  transactionId := rfl
  network := rfl
  spends spend member := by
    obtain rfl := List.mem_singleton.mp member
    exact ⟨_, rfl, rfl⟩
  outputs selection member := by
    obtain rfl := List.mem_singleton.mp member
    exact ⟨sampleNote, _, rfl, rfl⟩

theorem sampleDisclosed_produced : ∃ disclosure stop,
    (signIronwoodDisclosure sampleSchemes.ironwood sampleSchemes.blake2b sampleDisclosed
      (2 : UInt8)).run 0 = .ok (disclosure, stop) := by
  refine signIronwoodDisclosure_returns sampleAuth_signs rfl (fun spend member => ?_) 0
  obtain rfl := List.mem_singleton.mp member
  rfl

/-- The spend at index 0 has lost its value: it is left out, the export returns all the same, and
the disclosure without it is accepted. -/
theorem valueless_spend_left_out :
    productionPlan (sampleUpstream none) samplePczt sampleExport [] =
      .ok (.ironwood sampleDisclosed (2 : UInt8)) ∧
    ¬ Complete (sampleUpstream none) samplePczt sampleExport (.ironwood sampleDisclosed (2 : UInt8)) ∧
    ∃ disclosure evidence,
      exportPaymentDisclosure (sampleUpstream none) samplePczt sampleExport [] 0 = .ok disclosure ∧
      verifyDisclosure sampleParams disclosure [0] 10 = .ok evidence ∧
      evidence.ironwoodSpends.map (·.index) = [1] := by
  have reached : productionPlan (sampleUpstream none) samplePczt sampleExport [] =
      .ok (.ironwood sampleDisclosed (2 : UInt8)) := sample_reaches (.inl rfl)
  refine ⟨reached, ?_, ?_⟩
  · rintro ⟨-, sections, bundle, actions, receiver, exported, values⟩
    have parsed := Except.ok.inj exported.parsed
    have own := exported.ownSection
    rw [← parsed] at own
    obtain rfl : sampleActions none = actions := Except.ok.inj own
    cases values _ List.mem_cons_self
  · obtain ⟨disclosure, stop, ran⟩ := sampleDisclosed_produced
    have parsed : parseTransaction sampleParams [0] 10 = .ok sampleTransaction := rfl
    obtain ⟨-, evidence, accepted, -, listed, -⟩ :=
      ironwood_accepted sampleSchemes_correct parsed sampleDisclosed_of ran
    refine ⟨disclosure, evidence, ?_, accepted, listed⟩
    exact export_of_produced _ _ reached ran

end Zally.DisclosureExport
