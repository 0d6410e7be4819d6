import Zally.Disclosure.RoundTrip

/-! The signed preimage of a disclosure leaves the signatures out and nothing else: two
disclosures with one preimage say the same. -/
namespace Zally.Disclosure

open Wire DisclosureCursor

/-- What a spend discloses beside its signature. -/
structure SaplingSpendStatement where
  index : UInt32
  cv : Vector UInt8 32
  rk : Vector UInt8 32
  zkproof : Vector UInt8 192
  deriving DecidableEq

/-- Everything a disclosure says; only the spend authorization signatures are missing. -/
structure DisclosureStatement where
  profile : PaymentDisclosureProfile
  transactionId : TxId
  message : List UInt8
  saplingSpends : List SaplingSpendStatement
  saplingOutputs : List SaplingOutputDisclosure
  ironwoodSpends : List UInt32
  ironwoodOutputs : List IronwoodOutputDisclosure
  deriving DecidableEq

def SaplingSpendStatement.bytes (spend : SaplingSpendStatement) : List UInt8 :=
  writeCompactSize spend.index.toNat ++ (spend.cv.toList ++ (spend.rk.toList ++
    (spend.zkproof.toList ++ ([0] ++ []))))

def SaplingSpendDisclosure.statement (spend : SaplingSpendDisclosure) : SaplingSpendStatement :=
  ⟨spend.index, spend.cv, spend.rk, spend.zkproof⟩

def PaymentDisclosure.statement (disclosure : PaymentDisclosure) : DisclosureStatement where
  profile := disclosure.profile
  transactionId := disclosure.transactionId
  message := disclosure.message
  saplingSpends := disclosure.saplingSpends.map SaplingSpendDisclosure.statement
  saplingOutputs := disclosure.saplingOutputs
  ironwoodSpends := disclosure.ironwoodSpends.map (·.index)
  ironwoodOutputs := disclosure.ironwoodOutputs

/-- What an exact reader of the cursor undoes is delimited. -/
theorem delimits_of_exact {read : DisclosureReader α} {words : α → List UInt8}
    (exact : Exact rest read words fits) : Delimits words fits id :=
  Delimits.of_exact exact .new fun _ => rfl

theorem delimits_array (length : Nat) :
    Delimits (fun bytes : Vector UInt8 length => bytes.toList) (fun _ => True) id :=
  delimits_of_exact (exact_readArray length)

theorem delimits_index :
    Delimits (fun index : UInt32 => writeCompactSize index.toNat) (fun _ => True) id :=
  delimits_of_exact exact_readIndex

theorem SaplingSpendDisclosure.delimits_unsigned :
    Delimits (bytes false) (fun _ => True) statement := by
  have fields := (delimits_index.field index).seq (((delimits_array 32).field cv).seq
    (((delimits_array 32).field rk).seq (((delimits_array 192).field zkproof).seq
      (Delimits.const ([0] ++ [])))))
  refine fields.tells fun first second _ _ same => ?_
  simp only [Prod.mk.injEq,id_eq] at same
  simp [statement,same]

theorem IronwoodSpendDisclosure.delimits_unsigned :
    Delimits (bytes false) (fun _ => True) index := by
  have fields := (delimits_index.field index).seq (Delimits.const [])
  exact fields.tells fun _ _ _ _ same => congrArg Prod.fst same

/-- The count and the entries of a counted sequence are told. -/
theorem delimits_writeEntries {part : α → β} {bytes : α → List UInt8}
    (item : Delimits bytes (fun _ => True) part) :
    Delimits (writeEntries bytes) (fun entries => entries.length ≤ maxDisclosureEntries)
      (fun entries => entries.map part) := by
  have count : Delimits (fun entries : List α => writeCompactSize entries.length)
      (fun entries => entries.length ≤ maxDisclosureEntries) List.length :=
    (delimits_of_exact (exact_readCompactSize (by decide))).field List.length
  refine (count.append fun counted => (item.items counted).mono fun entries fits => ?_).tells
    fun _ _ _ _ same => congrArg Prod.snd same
  exact ⟨fun _ _ => trivial, fits.2⟩

namespace PaymentDisclosure

/-- What a constructed draft disclosure leaves empty, and how long its lists are. -/
theorem shape_of_draft1 (fits : Constructed disclosure ∧ disclosure.profile = .zip311Draft1) :
    (disclosure.ironwoodSpends = [] ∧ disclosure.ironwoodOutputs = []) ∧
    disclosure.saplingSpends.length ≤ maxDisclosureEntries ∧
      disclosure.saplingOutputs.length ≤ maxDisclosureEntries := by
  obtain ⟨-, shape, fields⟩ := new_iff.mp (constructed_draft1_iff.mpr ⟨fits, rfl, rfl⟩)
  exact ⟨⟨congrArg ironwoodSpends fields, congrArg ironwoodOutputs fields⟩,
    (bounds_of_shape shape).2⟩

theorem shape_of_ironwood (fits : Constructed disclosure ∧ disclosure.profile = .zallyIronwood) :
    (disclosure.saplingSpends = [] ∧ disclosure.saplingOutputs = []) ∧
    disclosure.ironwoodSpends.length ≤ maxDisclosureEntries ∧
      disclosure.ironwoodOutputs.length ≤ maxDisclosureEntries := by
  obtain ⟨shape, fields⟩ := ironwoodExtension_iff.mp (constructed_ironwood_iff.mpr ⟨fits, rfl, rfl⟩)
  exact ⟨⟨congrArg saplingSpends fields, congrArg saplingOutputs fields⟩,
    (bounds_of_shape shape).2⟩

theorem delimits_header : Delimits headerBytes Constructed
    (fun disclosure => (disclosure.profile, disclosure.transactionId, disclosure.message)) := by
  have words : headerBytes = fun disclosure => [disclosure.profile.profileByte] ++
      (disclosure.wireTransactionId.toList ++ (writeCompactSize disclosure.message.length ++
        disclosure.message)) := by
    funext disclosure
    simp [headerBytes,wireTransactionId]
  have profile : Delimits (fun disclosure => [disclosure.profile.profileByte]) Constructed profile :=
    ((delimits_of_exact exact_readProfile).field profile).mono fun _ _ => trivial
  have txId : Delimits (fun disclosure => disclosure.wireTransactionId.toList) Constructed
      wireTransactionId := ((delimits_array 32).field wireTransactionId).mono fun _ _ => trivial
  have length : Delimits (fun disclosure => writeCompactSize disclosure.message.length) Constructed
      (fun disclosure => disclosure.message.length) :=
    ((delimits_of_exact (exact_readCompactSize (show maxMessageBytes < 2 ^ 64 by decide))).field
      fun disclosure : PaymentDisclosure => disclosure.message.length).mono
      fun _ built => message_of_constructed built
  have text (size : Nat) : Delimits message
      (fun disclosure => Constructed disclosure ∧ disclosure.message.length = size) message :=
    ((delimits_of_exact (exact_readVec size)).field message).mono fun _ fits => fits.2
  rw [words]
  refine (profile.seq (txId.seq (length.append text))).tells fun first second _ _ same => ?_
  simp only [Prod.mk.injEq] at same ⊢
  refine ⟨same.1, ?_, same.2.2.2⟩
  rw [wireTransactionId_iff.mp same.2.1,wireTransactionId_iff.mp rfl]

theorem delimits_body (profile : PaymentDisclosureProfile) :
    Delimits (fun disclosure => disclosure.writeBody false)
      (fun disclosure => Constructed disclosure ∧ disclosure.profile = profile)
      (fun disclosure => ((disclosure.statement.saplingSpends, disclosure.saplingOutputs),
        disclosure.statement.ironwoodSpends, disclosure.ironwoodOutputs)) := by
  cases profile with
  | zip311Draft1 =>
    have spends := ((delimits_writeEntries SaplingSpendDisclosure.delimits_unsigned).field
      saplingSpends).mono fun _ fits => (shape_of_draft1 fits).2.1
    have outputs := ((delimits_writeEntries (delimits_of_exact
      SaplingOutputDisclosure.exact_read)).field saplingOutputs).mono
      fun _ fits => (shape_of_draft1 fits).2.2
    refine (((Delimits.const (writeCompactSize 0)).seq (spends.seq outputs)).tells
      fun first second firstFits secondFits same => ?_).congr
      fun disclosure fits => by simp [writeBody,fits.2,writeDraft1Body]
    obtain ⟨⟨firstSpends, firstOutputs⟩, -⟩ := shape_of_draft1 firstFits
    obtain ⟨⟨secondSpends, secondOutputs⟩, -⟩ := shape_of_draft1 secondFits
    simp only [Prod.mk.injEq,List.map_id] at same
    simp [statement,same,firstSpends,firstOutputs,secondSpends,secondOutputs]
  | zallyIronwood =>
    have spends := ((delimits_writeEntries IronwoodSpendDisclosure.delimits_unsigned).field
      ironwoodSpends).mono fun _ fits => (shape_of_ironwood fits).2.1
    have outputs := ((delimits_writeEntries (delimits_of_exact
      IronwoodOutputDisclosure.exact_read)).field ironwoodOutputs).mono
      fun _ fits => (shape_of_ironwood fits).2.2
    refine ((spends.seq outputs).tells fun first second firstFits secondFits same => ?_).congr
      fun disclosure fits => by simp [writeBody,fits.2,writeIronwoodBody]
    obtain ⟨⟨firstSpends, firstOutputs⟩, -⟩ := shape_of_ironwood firstFits
    obtain ⟨⟨secondSpends, secondOutputs⟩, -⟩ := shape_of_ironwood secondFits
    simp only [Prod.mk.injEq,List.map_id] at same
    simp [statement,same,firstSpends,firstOutputs,secondSpends,secondOutputs]

theorem writeEntries_map (bytes : β → List UInt8) (part : α → β) (entries : List α) :
    writeEntries bytes (entries.map part) = writeEntries (fun entry => bytes (part entry)) entries := by
  simp [writeEntries,List.flatMap_map]

/-- The preimage is made of what the disclosure says. -/
theorem unsignedBytes_of_statement (same : first.statement = second.statement) :
    unsignedBytes first = unsignedBytes second := by
  simp only [statement,DisclosureStatement.mk.injEq] at same
  obtain ⟨profile, txId, text, saplingSpends, saplingOutputs, ironwoodSpends, ironwoodOutputs⟩ := same
  have sapling := congrArg (writeEntries SaplingSpendStatement.bytes) saplingSpends
  have ironwood := congrArg (writeEntries fun index : UInt32 =>
    writeCompactSize index.toNat ++ []) ironwoodSpends
  rw [writeEntries_map,writeEntries_map] at sapling ironwood
  have draft1Body : first.writeDraft1Body false = second.writeDraft1Body false := by
    rw [writeDraft1Body,writeDraft1Body,saplingOutputs]
    exact congrArg (fun entries => _ ++ (entries ++ _)) sapling
  have ironwoodBody : first.writeIronwoodBody false = second.writeIronwoodBody false := by
    rw [writeIronwoodBody,writeIronwoodBody,ironwoodOutputs]
    exact congrArg (· ++ _) ironwood
  simp [unsignedBytes,headerBytes,writeBody,profile,txId,text,draft1Body,ironwoodBody]

/-- A digest leaves the signatures out. -/
theorem computeDigest_of_statement (same : first.statement = second.statement) :
    computeDigest blake2b network first = computeDigest blake2b network second :=
  congrArg (blake2b _) (unsignedBytes_of_statement same)

theorem delimits_unsignedBytes : Delimits unsignedBytes Constructed statement := by
  refine (delimits_header.append fun told => (delimits_body told.1).mono
    fun disclosure fits => ⟨fits.1, congrArg Prod.fst fits.2⟩).tells
    fun first second _ _ same => ?_
  simp only [Prod.mk.injEq] at same
  obtain ⟨⟨profile, txId, text⟩, ⟨spends, outputs⟩, otherSpends, otherOutputs⟩ := same
  simp only [statement,DisclosureStatement.mk.injEq] at spends otherSpends ⊢
  exact ⟨profile, txId, text, spends, outputs, otherSpends, otherOutputs⟩

/-- Two disclosures have one signed preimage exactly when they differ in nothing but
spend authorization signatures; where the hash does not collide on the preimages, the
same holds of the digests of one network. -/
theorem preimage_tells_statement (first second : PaymentDisclosure)
    (firstBuilt : Constructed first) (secondBuilt : Constructed second) :
    (unsignedBytes first = unsignedBytes second ↔ first.statement = second.statement) ∧
    ∀ (blake2b : List UInt8 → List UInt8 → Vector UInt8 32) (network : NetworkType),
      (computeDigest blake2b network first = computeDigest blake2b network second →
        unsignedBytes first = unsignedBytes second) →
      (computeDigest blake2b network first = computeDigest blake2b network second ↔
        first.statement = second.statement) := by
  have preimages : unsignedBytes first = unsignedBytes second ↔
      first.statement = second.statement :=
    ⟨fun same => (delimits_unsignedBytes firstBuilt secondBuilt (congrArg (· ++ []) same)).1,
      unsignedBytes_of_statement⟩
  refine ⟨preimages, fun blake2b network collisionFree => ?_⟩
  constructor
  · exact fun same => preimages.mp (collisionFree same)
  · exact computeDigest_of_statement

def sampleSpend (byte : UInt8) : IronwoodSpendDisclosure := ⟨7, Vector.replicate 64 byte⟩

def sampleDisclosure (byte : UInt8) : PaymentDisclosure :=
  ⟨.zallyIronwood, 5, [1, 2], [], [], [sampleSpend byte], []⟩

theorem sampleDisclosure_constructed (byte : UInt8) : Constructed (sampleDisclosure byte) :=
  .ironwood (ironwoodExtension_iff.mpr ⟨rfl, rfl⟩)

/-- Two signatures under one statement have one preimage. -/
theorem resigned_disclosure_same_preimage :
    unsignedBytes (sampleDisclosure 0) = unsignedBytes (sampleDisclosure 1) :=
  (preimage_tells_statement _ _ (sampleDisclosure_constructed 0)
    (sampleDisclosure_constructed 1)).1.mpr rfl

end PaymentDisclosure
end Zally.Disclosure
