import Zally.Disclosure.Codec

/-! The wire form of a disclosure is canonical: the reader of every field takes exactly
the bytes its writer puts. -/
namespace Zally.Disclosure

open Wire DisclosureCursor

namespace DisclosureCursor

theorem remaining_eq_zero_iff {cursor : DisclosureCursor} :
    cursor.remaining = 0 ↔ cursor.rest = [] := by
  rw [remaining,rest,List.drop_eq_nil_iff]
  omega

/-- The bytes left are those a field takes and those left behind it. -/
theorem rest_split (cursor : DisclosureCursor)
    (more : cursor.offset + length ≤ cursor.disclosureBytes.length) :
    rest cursor = cursor.disclosureBytes.extract cursor.offset (cursor.offset + length) ++
      rest ⟨cursor.disclosureBytes, cursor.offset + length, more⟩ := by
  simp [rest,← List.drop_drop]

theorem more_of_rest {cursor : DisclosureCursor} (left : rest cursor = bytes ++ tail) :
    cursor.offset + bytes.length ≤ cursor.disclosureBytes.length := by
  have size := congrArg List.length left
  have bound := cursor.inBounds
  simp only [rest,List.length_drop,List.length_append] at size
  omega

/-- A cursor whose rest starts with a field yields it, and stops behind it. -/
theorem extract_of_rest {cursor : DisclosureCursor} (left : rest cursor = bytes ++ tail)
    (sized : bytes.length = length)
    (more : cursor.offset + length ≤ cursor.disclosureBytes.length) :
    cursor.disclosureBytes.extract cursor.offset (cursor.offset + length) = bytes ∧
      rest ⟨cursor.disclosureBytes, cursor.offset + length, more⟩ = tail := by
  have taken : (cursor.disclosureBytes.extract cursor.offset
      (cursor.offset + length)).length = bytes.length := by
    simp
    omega
  exact List.append_inj ((rest_split cursor more).symm.trans left) taken

theorem exact_readVec (length : Nat) :
    Exact rest (readVec length) (fun bytes => bytes) (fun bytes => bytes.length = length) where
  accepts := by
    intro cursor bytes tail sized left
    have more : cursor.offset + length ≤ cursor.disclosureBytes.length :=
      sized ▸ more_of_rest left
    obtain ⟨same, behind⟩ := extract_of_rest left sized more
    exact ⟨_, by simp only [readVec,StateT.run,more,↓reduceDIte,same], behind⟩
  accepted := by
    intro cursor bytes stop ran
    by_cases more : cursor.offset + length ≤ cursor.disclosureBytes.length
    · simp only [readVec,StateT.run,more,↓reduceDIte,Except.ok.injEq,Prod.mk.injEq] at ran
      obtain ⟨rfl, rfl⟩ := ran
      exact ⟨by simp; omega, rest_split cursor more⟩
    · simp [readVec,StateT.run,more] at ran

theorem toArray_toList (bytes : Vector UInt8 length) : bytes.toList.toArray = bytes.toArray := by
  rw [← Vector.toArray_toList]

theorem exact_readArray (length : Nat) :
    Exact rest (readArray length) (fun bytes => bytes.toList) (fun _ => True) where
  accepts := by
    intro cursor bytes tail _ left
    have more : cursor.offset + length ≤ cursor.disclosureBytes.length := by
      simpa using more_of_rest left
    obtain ⟨same, behind⟩ := extract_of_rest left (by simp) more
    refine ⟨_, ?_, behind⟩
    simp only [readArray,StateT.run,more,↓reduceDIte,same]
    exact congrArg (fun bytes => Except.ok (bytes, _)) (Vector.toArray_inj.mp (toArray_toList bytes))
  accepted := by
    intro cursor bytes stop ran
    by_cases more : cursor.offset + length ≤ cursor.disclosureBytes.length
    · simp only [readArray,StateT.run,more,↓reduceDIte,Except.ok.injEq,Prod.mk.injEq] at ran
      obtain ⟨rfl, rfl⟩ := ran
      exact ⟨trivial, by simpa using rest_split cursor more⟩
    · simp [readArray,StateT.run,more] at ran

theorem exact_readU8 : Exact rest readU8 (fun byte => [byte]) (fun _ => True) where
  accepts := by
    intro cursor byte tail _ left
    have more : cursor.offset < cursor.disclosureBytes.length := by
      have taken := more_of_rest left
      rw [List.length_singleton] at taken
      omega
    rw [rest,List.drop_eq_getElem_cons more,List.singleton_append,List.cons.injEq] at left
    obtain ⟨rfl, behind⟩ := left
    exact ⟨⟨cursor.disclosureBytes, cursor.offset + 1, more⟩,
      by simp only [readU8,StateT.run,more,↓reduceDIte], behind⟩
  accepted := by
    intro cursor byte stop ran
    by_cases more : cursor.offset < cursor.disclosureBytes.length
    · simp only [readU8,StateT.run,more,↓reduceDIte,Except.ok.injEq,Prod.mk.injEq] at ran
      obtain ⟨rfl, rfl⟩ := ran
      exact ⟨trivial, List.drop_eq_getElem_cons more⟩
    · simp [readU8,StateT.run,more] at ran

/-- The bytes of a number that `width` bytes hold. -/
def leVector (width number : Nat) : Vector UInt8 width :=
  ⟨(leBytes width number).toArray, by simp⟩

theorem leVector_iff {bytes : Vector UInt8 width} :
    (number < 256 ^ width ∧ leVector width number = bytes) ↔ number = ofLeBytes bytes.toList := by
  constructor
  · rintro ⟨fits, rfl⟩
    simp [leVector,ofLeBytes_leBytes fits]
  · rintro rfl
    have bound := ofLeBytes_lt bytes.toList
    have whole := leBytes_ofLeBytes bytes.toList
    rw [Vector.length_toList] at bound whole
    exact ⟨bound, Vector.toArray_inj.mp (by simp [leVector,whole,toArray_toList])⟩

theorem exact_readWideSize (prefixOffset width smallest : Nat) :
    Exact rest (readWideSize prefixOffset width smallest) (leBytes width)
      (fun size => smallest ≤ size ∧ size < 256 ^ width) := by
  have exact : Exact rest (readWideSize prefixOffset width smallest)
      (fun size => (leVector width size).toList ++ [])
      (fun size => smallest ≤ size ∧ size < 256 ^ width) := by
    refine Exact.bind (leVector width) (exact_readArray width) (fun _ _ => trivial) fun bytes _ => ?_
    refine Exact.check (fun size fits => ?_) fun large => Exact.pure fun size => ?_
    · rw [and_assoc,leVector_iff] at fits
      omega
    · rw [and_assoc,leVector_iff]
      omega
  exact exact.congr (fun _ => Iff.rfl) (by simp [leVector])

/-- The first byte of a compact size. -/
def sizePrefix (size : Nat) : UInt8 :=
  if size < 0xfd then .ofNat size
  else if size < 2 ^ 16 then 0xfd
  else if size < 2 ^ 32 then 0xfe
  else 0xff

/-- The bytes of a compact size behind its first. -/
def sizeTail (size : Nat) : List UInt8 :=
  if size < 0xfd then []
  else if size < 2 ^ 16 then leBytes 2 size
  else if size < 2 ^ 32 then leBytes 4 size
  else leBytes 8 size

theorem writeCompactSize_eq (size : Nat) :
    writeCompactSize size = [sizePrefix size] ++ sizeTail size := by
  unfold writeCompactSize sizePrefix sizeTail
  split_ifs <;> rfl

/-- The ranges the four prefixes stand for. -/
theorem sizePrefix_cases (size : Nat) :
    (size < 0xfd ∧ (sizePrefix size).toNat = size ∧ sizeTail size = []) ∨
    (0xfd ≤ size ∧ size < 2 ^ 16 ∧ sizePrefix size = 0xfd ∧ sizeTail size = leBytes 2 size) ∨
    (2 ^ 16 ≤ size ∧ size < 2 ^ 32 ∧ sizePrefix size = 0xfe ∧ sizeTail size = leBytes 4 size) ∨
    (2 ^ 32 ≤ size ∧ sizePrefix size = 0xff ∧ sizeTail size = leBytes 8 size) := by
  unfold sizePrefix sizeTail
  split_ifs with byte short word
  · refine .inl ⟨byte, ?_, rfl⟩
    rw [UInt8.toNat_ofNat']
    omega
  · exact .inr (.inl ⟨by omega, short, rfl, rfl⟩)
  · exact .inr (.inr (.inl ⟨by omega, word, rfl, rfl⟩))
  · exact .inr (.inr (.inr ⟨by omega, rfl, rfl⟩))

/-- The bytes behind the prefix are read by what the prefix was. -/
theorem exact_readSizeTail (prefixOffset : Nat) (first : UInt8) :
    Exact rest (readSizeTail prefixOffset first) sizeTail
      (fun size => size < 2 ^ 64 ∧ sizePrefix size = first) := by
  unfold readSizeTail
  split_ifs with short word long
  · refine (exact_readWideSize prefixOffset 2 0xfd).congr (fun size => ?_) fun size fits => ?_
    all_goals rcases sizePrefix_cases size with ⟨h, p, t⟩ | ⟨h, h', p, t⟩ | ⟨h, h', p, t⟩ | ⟨h, p, t⟩
    all_goals simp only [← UInt8.toNat_inj,short,p,t,UInt8.reduceToNat,and_true,Nat.reducePow] at *
    all_goals omega
  · refine (exact_readWideSize prefixOffset 4 (2 ^ 16)).congr (fun size => ?_) fun size fits => ?_
    all_goals rcases sizePrefix_cases size with ⟨h, p, t⟩ | ⟨h, h', p, t⟩ | ⟨h, h', p, t⟩ | ⟨h, p, t⟩
    all_goals simp only [← UInt8.toNat_inj,word,p,t,UInt8.reduceToNat,and_true,Nat.reducePow] at *
    all_goals omega
  · refine (exact_readWideSize prefixOffset 8 (2 ^ 32)).congr (fun size => ?_) fun size fits => ?_
    all_goals rcases sizePrefix_cases size with ⟨h, p, t⟩ | ⟨h, h', p, t⟩ | ⟨h, h', p, t⟩ | ⟨h, p, t⟩
    all_goals simp only [← UInt8.toNat_inj,long,p,t,UInt8.reduceToNat,and_true,Nat.reducePow] at *
    all_goals omega
  · have bound := first.toNat_lt
    refine (Exact.pure fun _ => Iff.rfl).congr (fun size => ?_) fun size fits => ?_
    all_goals rcases sizePrefix_cases size with ⟨h, p, t⟩ | ⟨h, h', p, t⟩ | ⟨h, h', p, t⟩ | ⟨h, p, t⟩
    all_goals simp only [← UInt8.toNat_inj,p,t,UInt8.reduceToNat,Nat.reducePow] at *
    all_goals omega

theorem exact_readCompactSize (bounded : bound < 2 ^ 64) :
    Exact rest (readCompactSize bound) writeCompactSize (fun size => size ≤ bound) := by
  have exact : Exact rest (readCompactSize bound)
      (fun size => [sizePrefix size] ++ (sizeTail size ++ [])) (fun size => size ≤ bound) := by
    refine Exact.get fun cursor => Exact.bind sizePrefix exact_readU8 (fun _ _ => trivial) fun first _ => ?_
    refine Exact.bind (fun size => size) (exact_readSizeTail cursor.offset first) ?_
      fun size read => ?_
    · rintro size ⟨small, same⟩
      exact ⟨Nat.lt_of_le_of_lt small bounded, same⟩
    · refine Exact.check ?_ fun small => Exact.pure fun other => ?_
      · rintro _ ⟨⟨small, -⟩, rfl⟩
        omega
      · constructor
        · rintro ⟨-, rfl⟩
          rfl
        · rintro rfl
          exact ⟨⟨Nat.not_lt.mp small, read.2⟩, rfl⟩
  exact exact.congr (fun _ => Iff.rfl) (by simp [writeCompactSize_eq])

theorem exact_readIndex :
    Exact rest readIndex (fun index => writeCompactSize index.toNat) (fun _ => True) := by
  have exact : Exact rest readIndex (fun index => writeCompactSize index.toNat ++ [])
      (fun _ => True) := by
    refine Exact.bind UInt32.toNat (exact_readCompactSize (by decide)) ?_ fun size small => ?_
    · intro index _
      have bound := index.toNat_lt
      omega
    · refine Exact.check (fun _ _ => by omega) fun _ => Exact.pure fun index => ?_
      rw [← UInt32.toNat_inj,UInt32.toNat_ofNat_of_lt' (by simp [UInt32.size]; omega)]
      simp
  exact exact.congr (fun _ => Iff.rfl) (by simp)

/-- An entry of an index and one array is read back from the two. -/
theorem exact_indexed {α : Type} {size : Nat} (make : UInt32 → Vector UInt8 size → α)
    (index : α → UInt32) (array : α → Vector UInt8 size)
    (made : ∀ entry number content, index entry = number ∧ array entry = content ↔
      entry = make number content) :
    Exact rest (readIndex >>= fun number => readArray size >>= fun content =>
        pure (make number content))
      (fun entry => writeCompactSize (index entry).toNat ++ (array entry).toList)
      (fun _ => True) := by
  have exact : Exact rest (readIndex >>= fun number => readArray size >>= fun content =>
        pure (make number content))
      (fun entry => writeCompactSize (index entry).toNat ++ ((array entry).toList ++ []))
      (fun _ => True) := by
    refine Exact.bind index exact_readIndex (fun _ _ => trivial) fun number _ => ?_
    refine Exact.bind array (exact_readArray size) (fun _ _ => trivial) fun content _ => ?_
    refine Exact.pure fun entry => ?_
    rw [true_and]
    exact made entry number content
  exact exact.congr (fun _ => Iff.rfl) (by simp)

end DisclosureCursor

theorem SaplingSpendDisclosure.exact_read :
    Exact rest readSaplingSpend (bytes true) (fun _ => True) := by
  have exact : Exact rest readSaplingSpend (fun spend => writeCompactSize spend.index.toNat ++
      (spend.cv.toList ++ (spend.rk.toList ++ (spend.zkproof.toList ++ ([0] ++
        (spend.spendAuthSig.toList ++ [])))))) (fun _ => True) := by
    refine Exact.bind index exact_readIndex (fun _ _ => trivial) fun index _ => ?_
    refine Exact.bind cv (exact_readArray 32) (fun _ _ => trivial) fun cv _ => ?_
    refine Exact.bind rk (exact_readArray 32) (fun _ _ => trivial) fun rk _ => ?_
    refine Exact.bind zkproof (exact_readArray 192) (fun _ _ => trivial) fun zkproof _ => ?_
    refine Exact.bind (fun _ => 0) exact_readU8 (fun _ _ => trivial) fun addressProof _ => ?_
    refine Exact.check (fun _ fits => not_not.mpr fits.2.symm) fun none => ?_
    refine Exact.bind spendAuthSig (exact_readArray 64) (fun _ _ => trivial) fun sig _ => ?_
    refine Exact.pure fun spend => ?_
    cases spend
    simp [not_not.mp none,and_assoc]
  exact exact.congr (fun _ => Iff.rfl) (by simp [bytes])

theorem SaplingOutputDisclosure.exact_read :
    Exact rest readSaplingOutput bytes (fun _ => True) := by
  have exact := exact_indexed mk index ock fun entry _ _ => by cases entry; simp
  exact exact.congr (fun _ => Iff.rfl) (by simp [bytes])

theorem IronwoodSpendDisclosure.exact_read :
    Exact rest readIronwoodSpend (bytes true) (fun _ => True) := by
  have exact := exact_indexed mk index spendAuthSig fun entry _ _ => by cases entry; simp
  exact exact.congr (fun _ => Iff.rfl) (by simp [bytes])

theorem IronwoodOutputDisclosure.exact_read :
    Exact rest readIronwoodOutput bytes (fun _ => True) := by
  have exact := exact_indexed mk index ock fun entry _ _ => by cases entry; simp
  exact exact.congr (fun _ => Iff.rfl) (by simp [bytes])

/-- A shape the constructors accept stays within the bounds the reader knows. -/
theorem bounds_of_shape (accepted : validateIndexedDisclosureShape messageBytes spendCount
    spendIndices outputCount outputIndices spendField outputField = .ok ()) :
    messageBytes ≤ maxMessageBytes ∧ spendCount ≤ maxDisclosureEntries ∧
      outputCount ≤ maxDisclosureEntries := by
  simp only [validateIndexedDisclosureShape,requireEntryCount,Bind.bind,Except.bind] at accepted
  split_ifs at accepted
  simp_all

theorem exact_readEntries {α : Type} {read : DisclosureReader α} {bytes : α → List UInt8}
    (exact : Exact rest read bytes (fun _ => True)) :
    Exact rest (readEntries read) (writeEntries bytes)
      (fun entries => entries.length ≤ maxDisclosureEntries) := by
  refine Exact.bind List.length (exact_readCompactSize (by decide)) (fun _ small => small)
    fun count small => (exact.times count).congr (fun entries => ?_) (fun _ _ => rfl)
  constructor
  · exact fun fits => ⟨fits.2, fun _ _ => trivial⟩
  · rintro ⟨rfl, -⟩
    exact ⟨small, rfl⟩

namespace PaymentDisclosure

variable {target : PaymentDisclosureProfile} {txId : TxId} {text : List UInt8}
  {disclosure : PaymentDisclosure}

theorem new_iff {spends : List SaplingSpendDisclosure} {outputs : List SaplingOutputDisclosure} :
    new target txId text spends outputs = .ok disclosure ↔
      target = .zip311Draft1 ∧
      validateDisclosureShape text.length spends.length (spends.map (·.index))
        outputs.length (outputs.map (·.index)) = .ok () ∧
      disclosure = ⟨target, txId, text, spends, outputs, [], []⟩ := by
  unfold new
  generalize validateDisclosureShape text.length spends.length (spends.map (·.index))
    outputs.length (outputs.map (·.index)) = checked
  by_cases same : target = .zip311Draft1
  · cases checked <;> simp [same,Bind.bind,Except.bind,Pure.pure,Except.pure,eq_comm]
  · simp [same,Bind.bind,Except.bind]

theorem ironwoodExtension_iff {spends : List IronwoodSpendDisclosure}
    {outputs : List IronwoodOutputDisclosure} :
    ironwoodExtension txId text spends outputs = .ok disclosure ↔
      validateIronwoodDisclosureShape text.length spends.length (spends.map (·.index))
        outputs.length (outputs.map (·.index)) = .ok () ∧
      disclosure = ⟨.zallyIronwood, txId, text, [], [], spends, outputs⟩ := by
  unfold ironwoodExtension
  generalize validateIronwoodDisclosureShape text.length spends.length (spends.map (·.index))
    outputs.length (outputs.map (·.index)) = checked
  cases checked <;> simp [Bind.bind,Except.bind,Pure.pure,Except.pure,eq_comm]

theorem exact_parseDraft1Body (txId : TxId) (text : List UInt8) :
    Exact rest (parseDraft1Body txId text) (fun disclosure => disclosure.writeDraft1Body true)
      (fun disclosure => new .zip311Draft1 txId text disclosure.saplingSpends
        disclosure.saplingOutputs = .ok disclosure) := by
  have exact : Exact rest (parseDraft1Body txId text) (fun disclosure =>
      writeCompactSize 0 ++
      (writeEntries (SaplingSpendDisclosure.bytes true) disclosure.saplingSpends ++
      (writeEntries SaplingOutputDisclosure.bytes disclosure.saplingOutputs ++ [])))
      (fun disclosure => new .zip311Draft1 txId text disclosure.saplingSpends
        disclosure.saplingOutputs = .ok disclosure) := by
    refine Exact.bind (fun _ => 0) (exact_readCompactSize (by decide)) (fun _ _ => Nat.zero_le _)
      fun transparentInputCount _ => ?_
    refine Exact.check (fun _ fits => not_not.mpr fits.2.symm) fun none => ?_
    refine Exact.bind saplingSpends (exact_readEntries SaplingSpendDisclosure.exact_read)
      (fun _ fits => (bounds_of_shape (new_iff.mp fits.1).2.1).2.1) fun spends _ => ?_
    refine Exact.bind saplingOutputs (exact_readEntries SaplingOutputDisclosure.exact_read)
      (fun _ fits => (bounds_of_shape (new_iff.mp fits.1.1).2.1).2.2) fun outputs _ => ?_
    refine Exact.lift fun disclosure => ?_
    constructor
    · rintro ⟨⟨⟨built, -⟩, rfl⟩, rfl⟩
      exact built
    · intro built
      obtain ⟨-, -, rfl⟩ := new_iff.mp built
      exact ⟨⟨⟨built, (not_not.mp none).symm⟩, rfl⟩, rfl⟩
  exact exact.congr (fun _ => Iff.rfl) (by simp [writeDraft1Body])

theorem exact_parseIronwoodBody (txId : TxId) (text : List UInt8) :
    Exact rest (parseIronwoodBody txId text) (fun disclosure => disclosure.writeIronwoodBody true)
      (fun disclosure => ironwoodExtension txId text disclosure.ironwoodSpends
        disclosure.ironwoodOutputs = .ok disclosure) := by
  have exact : Exact rest (parseIronwoodBody txId text) (fun disclosure =>
      writeEntries (IronwoodSpendDisclosure.bytes true) disclosure.ironwoodSpends ++
      (writeEntries IronwoodOutputDisclosure.bytes disclosure.ironwoodOutputs ++ []))
      (fun disclosure => ironwoodExtension txId text disclosure.ironwoodSpends
        disclosure.ironwoodOutputs = .ok disclosure) := by
    refine Exact.bind ironwoodSpends (exact_readEntries IronwoodSpendDisclosure.exact_read)
      (fun _ fits => (bounds_of_shape (ironwoodExtension_iff.mp fits).1).2.1) fun spends _ => ?_
    refine Exact.bind ironwoodOutputs (exact_readEntries IronwoodOutputDisclosure.exact_read)
      (fun _ fits => (bounds_of_shape (ironwoodExtension_iff.mp fits.1).1).2.2) fun outputs _ => ?_
    refine Exact.lift fun disclosure => ?_
    constructor
    · rintro ⟨⟨built, rfl⟩, rfl⟩
      exact built
    · intro built
      obtain ⟨-, rfl⟩ := ironwoodExtension_iff.mp built
      exact ⟨⟨built, rfl⟩, rfl⟩
  exact exact.congr (fun _ => Iff.rfl) (by simp [writeIronwoodBody])

theorem exact_readProfile :
    Exact rest readProfile (fun profile => [profile.profileByte]) (fun _ => True) := by
  have exact : Exact rest readProfile (fun profile => [profile.profileByte] ++ []) (fun _ => True) := by
    refine Exact.bind PaymentDisclosureProfile.profileByte exact_readU8 (fun _ _ => trivial)
      fun profileByte _ => ?_
    split_ifs with draft1 ironwood
    · subst draft1
      exact Exact.pure fun profile => by cases profile <;> decide
    · subst ironwood
      exact Exact.pure fun profile => by cases profile <;> decide
    · refine Exact.throw fun profile fits => ?_
      cases profile
      · exact draft1 fits.2.symm
      · exact ironwood fits.2.symm
  exact exact.congr (fun _ => Iff.rfl) (by simp)

/-- The transaction identifier in the order the wire has it. -/
def wireTransactionId (disclosure : PaymentDisclosure) : Vector UInt8 32 :=
  ⟨disclosure.transactionId.asBytes.reverse.toArray, by simp⟩

theorem wireTransactionId_iff {bytes : Vector UInt8 32} :
    disclosure.wireTransactionId = bytes ↔
      disclosure.transactionId = .fromBytes bytes.toList.reverse := by
  constructor
  · rintro rfl
    simp [wireTransactionId]
  · intro same
    apply Vector.toArray_inj.mp
    simp [wireTransactionId,same,TxId.asBytes_fromBytes,toArray_toList]

/-- A draft disclosure is what the draft constructor makes of its own fields. -/
theorem constructed_draft1_iff :
    new .zip311Draft1 txId text disclosure.saplingSpends disclosure.saplingOutputs =
        .ok disclosure ↔
      (Constructed disclosure ∧ disclosure.profile = .zip311Draft1) ∧
        disclosure.transactionId = txId ∧ disclosure.message = text := by
  constructor
  · intro built
    have fields := (new_iff.mp built).2.2
    exact ⟨⟨.draft1 built, congrArg profile fields⟩, congrArg transactionId fields,
      congrArg message fields⟩
  · rintro ⟨⟨built | built, draft1⟩, rfl, rfl⟩
    · obtain ⟨rfl, -, rfl⟩ := new_iff.mp built
      exact built
    · obtain ⟨-, rfl⟩ := ironwoodExtension_iff.mp built
      cases draft1

theorem constructed_ironwood_iff :
    ironwoodExtension txId text disclosure.ironwoodSpends disclosure.ironwoodOutputs =
        .ok disclosure ↔
      (Constructed disclosure ∧ disclosure.profile = .zallyIronwood) ∧
        disclosure.transactionId = txId ∧ disclosure.message = text := by
  constructor
  · intro built
    have fields := (ironwoodExtension_iff.mp built).2
    exact ⟨⟨.ironwood built, congrArg profile fields⟩, congrArg transactionId fields,
      congrArg message fields⟩
  · rintro ⟨⟨built | built, ironwood⟩, rfl, rfl⟩
    · obtain ⟨rfl, -, rfl⟩ := new_iff.mp built
      cases ironwood
    · obtain ⟨-, rfl⟩ := ironwoodExtension_iff.mp built
      exact built

theorem message_of_constructed (built : Constructed disclosure) :
    disclosure.message.length ≤ maxMessageBytes := by
  rcases built with built | built
  · obtain ⟨-, shape, rfl⟩ := new_iff.mp built
    exact (bounds_of_shape shape).1
  · obtain ⟨shape, rfl⟩ := ironwoodExtension_iff.mp built
    exact (bounds_of_shape shape).1

theorem exact_readDisclosure : Exact rest readDisclosure toBytes Constructed := by
  have exact : Exact rest readDisclosure (fun disclosure => [disclosure.profile.profileByte] ++
      (disclosure.wireTransactionId.toList ++ (writeCompactSize disclosure.message.length ++
        (disclosure.message ++ disclosure.writeBody true)))) Constructed := by
    refine Exact.bind profile exact_readProfile (fun _ _ => trivial) fun profile _ => ?_
    refine Exact.bind wireTransactionId (exact_readArray 32) (fun _ _ => trivial) fun txId _ => ?_
    refine Exact.bind (fun disclosure : PaymentDisclosure => disclosure.message.length)
      (exact_readCompactSize (by decide)) (fun _ fits => message_of_constructed fits.1.1)
      fun messageBytes _ => ?_
    refine Exact.bind message (exact_readVec messageBytes) (fun _ fits => fits.2) fun text sized => ?_
    -- The message's length was read before it, and adds nothing to it.
    have header (disclosure : PaymentDisclosure) :
        ((((Constructed disclosure ∧ disclosure.profile = profile) ∧
          disclosure.wireTransactionId = txId) ∧ disclosure.message.length = messageBytes) ∧
            disclosure.message = text) ↔
        (Constructed disclosure ∧ disclosure.profile = profile) ∧
          disclosure.transactionId = .fromBytes txId.toList.reverse ∧
          disclosure.message = text := by
      rw [← wireTransactionId_iff,← sized]
      constructor
      · rintro ⟨⟨⟨built, named⟩, -⟩, rfl⟩
        exact ⟨built, named, rfl⟩
      · rintro ⟨built, named, rfl⟩
        exact ⟨⟨⟨built, named⟩, rfl⟩, rfl⟩
    cases profile
    · refine (exact_parseDraft1Body _ _).congr (fun disclosure => ?_) fun disclosure fits => ?_
      · rw [header,constructed_draft1_iff]
      · simp [writeBody,(constructed_draft1_iff.mp fits).1.2]
    · refine (exact_parseIronwoodBody _ _).congr (fun disclosure => ?_) fun disclosure fits => ?_
      · rw [header,constructed_ironwood_iff]
      · simp [writeBody,(constructed_ironwood_iff.mp fits).1.2]
  exact exact.congr (fun _ => Iff.rfl) (by simp [toBytes,headerBytes,wireTransactionId])

theorem fromBytes_eq_ok_iff {bytes : List UInt8} : fromBytes bytes = .ok disclosure ↔
    ∃ stop, readDisclosure.run (.new bytes) = .ok (disclosure, stop) ∧ rest stop = [] := by
  unfold fromBytes
  cases readDisclosure.run (.new bytes) with
  | error error => simp [Bind.bind,Except.bind]
  | ok result =>
    obtain ⟨found, stop⟩ := result
    simp only [← remaining_eq_zero_iff,Bind.bind,Except.bind]
    by_cases nothing : stop.remaining = 0
    · simp [nothing,Pure.pure,Except.pure]
    · simp [nothing]

/-- Bytes are accepted as a disclosure exactly when a public constructor can build it
and they are the bytes it is written as. -/
theorem fromBytes_accepts_iff (bytes : List UInt8) (disclosure : PaymentDisclosure) :
    fromBytes bytes = .ok disclosure ↔ Constructed disclosure ∧ toBytes disclosure = bytes := by
  rw [fromBytes_eq_ok_iff,exact_readDisclosure.whole_iff]
  rfl

end PaymentDisclosure

end Zally.Disclosure
