import Zally.Core
import Zally.Wire.Exact

/-! Payment disclosures and their wire form: a header with the disclosed transaction and
a message, then the disclosed spends and outputs of one profile. -/
namespace Zally.Disclosure

open Wire

def draft1ProfileByte : UInt8 := 0x01
def zallyIronwoodProfileByte : UInt8 := 0x02
def maxMessageBytes : Nat := 65535
def maxDisclosureEntries : Nat := 4096

/-- The bytes of "ZIP311Signed". -/
def signedPersonalizationPrefix : List UInt8 :=
  [0x5a, 0x49, 0x50, 0x33, 0x31, 0x31, 0x53, 0x69, 0x67, 0x6e, 0x65, 0x64]

inductive NetworkType where
  | main
  | test
  | regtest
  deriving DecidableEq, Repr

/-- The registered coin type; the test networks share one. -/
def NetworkType.coinType : NetworkType → Nat
  | main => 133
  | test | regtest => 1

inductive PaymentDisclosureProfile where
  | zip311Draft1
  | zallyIronwood
  deriving DecidableEq, Repr

def PaymentDisclosureProfile.profileByte : PaymentDisclosureProfile → UInt8
  | zip311Draft1 => draft1ProfileByte
  | zallyIronwood => zallyIronwoodProfileByte

structure SaplingSpendDisclosure where
  index : UInt32
  cv : Vector UInt8 32
  rk : Vector UInt8 32
  zkproof : Vector UInt8 192
  spendAuthSig : Vector UInt8 64
  deriving DecidableEq

structure SaplingOutputDisclosure where
  index : UInt32
  ock : Vector UInt8 32
  deriving DecidableEq

structure IronwoodSpendDisclosure where
  index : UInt32
  spendAuthSig : Vector UInt8 64
  deriving DecidableEq

structure IronwoodOutputDisclosure where
  index : UInt32
  ock : Vector UInt8 32
  deriving DecidableEq

structure PaymentDisclosure where
  profile : PaymentDisclosureProfile
  transactionId : TxId
  message : List UInt8
  saplingSpends : List SaplingSpendDisclosure
  saplingOutputs : List SaplingOutputDisclosure
  ironwoodSpends : List IronwoodSpendDisclosure
  ironwoodOutputs : List IronwoodOutputDisclosure
  deriving DecidableEq

inductive PaymentDisclosureCodecError where
  | profileUnsupported (profileByte : UInt8)
  | profileShapeMismatch
  | messageTooLong (messageBytes maxMessageBytes : Nat)
  | noProvenInput
  | transparentInputsUnsupported
  | addressProofUnsupported
  | indexNotIncreasing (field : String) (index : UInt32)
  | truncated (offset : Nat)
  | compactSizeNonMinimal (offset : Nat)
  | sizeOutOfRange (size bound : Nat)
  | trailingBytes (trailingBytes : Nat)
  deriving DecidableEq, Repr

/-- The loop of `require_strictly_increasing` behind the index it last saw. -/
def requireIncreasingFrom (field : String) :
    Option UInt32 → List UInt32 → Except PaymentDisclosureCodecError Unit
  | _, [] => .ok ()
  | previous, index :: indices =>
    if previous.any (index ≤ ·) then .error (.indexNotIncreasing field index)
    else requireIncreasingFrom field (some index) indices

def requireStrictlyIncreasing (indices : List UInt32) (field : String) :
    Except PaymentDisclosureCodecError Unit := requireIncreasingFrom field none indices

def requireEntryCount (entryCount : Nat) : Except PaymentDisclosureCodecError Unit :=
  if entryCount > maxDisclosureEntries then
    .error (.sizeOutOfRange entryCount maxDisclosureEntries)
  else .ok ()

def validateIndexedDisclosureShape (messageBytes spendCount : Nat) (spendIndices : List UInt32)
    (outputCount : Nat) (outputIndices : List UInt32) (spendField outputField : String) :
    Except PaymentDisclosureCodecError Unit := do
  if messageBytes > maxMessageBytes then throw (.messageTooLong messageBytes maxMessageBytes)
  requireEntryCount spendCount
  requireEntryCount outputCount
  if spendIndices.isEmpty then throw .noProvenInput
  requireStrictlyIncreasing spendIndices spendField
  requireStrictlyIncreasing outputIndices outputField

def validateDisclosureShape (messageBytes spendCount : Nat) (spendIndices : List UInt32)
    (outputCount : Nat) (outputIndices : List UInt32) : Except PaymentDisclosureCodecError Unit :=
  validateIndexedDisclosureShape messageBytes spendCount spendIndices outputCount outputIndices
    "sapling_spend" "sapling_output"

def validateIronwoodDisclosureShape (messageBytes spendCount : Nat) (spendIndices : List UInt32)
    (outputCount : Nat) (outputIndices : List UInt32) : Except PaymentDisclosureCodecError Unit :=
  validateIndexedDisclosureShape messageBytes spendCount spendIndices outputCount outputIndices
    "ironwood_spend" "ironwood_output"

def writeCompactSize (size : Nat) : List UInt8 :=
  if size < 0xfd then [.ofNat size]
  else if size < 2 ^ 16 then 0xfd :: leBytes 2 size
  else if size < 2 ^ 32 then 0xfe :: leBytes 4 size
  else 0xff :: leBytes 8 size

/-- The bytes of one disclosed spend; the signed preimage leaves its signature out. -/
def SaplingSpendDisclosure.bytes (hasSignatures : Bool) (spend : SaplingSpendDisclosure) :
    List UInt8 :=
  writeCompactSize spend.index.toNat ++ (spend.cv.toList ++ (spend.rk.toList ++
    (spend.zkproof.toList ++ ([0] ++
      if hasSignatures then spend.spendAuthSig.toList else []))))

def SaplingOutputDisclosure.bytes (output : SaplingOutputDisclosure) : List UInt8 :=
  writeCompactSize output.index.toNat ++ output.ock.toList

def IronwoodSpendDisclosure.bytes (hasSignatures : Bool) (spend : IronwoodSpendDisclosure) :
    List UInt8 :=
  writeCompactSize spend.index.toNat ++
    if hasSignatures then spend.spendAuthSig.toList else []

def IronwoodOutputDisclosure.bytes (output : IronwoodOutputDisclosure) : List UInt8 :=
  writeCompactSize output.index.toNat ++ output.ock.toList

/-- A counted sequence of entries. -/
def writeEntries (bytes : α → List UInt8) (entries : List α) : List UInt8 :=
  writeCompactSize entries.length ++ entries.flatMap bytes

namespace PaymentDisclosure

def new (profile : PaymentDisclosureProfile) (transactionId : TxId) (message : List UInt8)
    (saplingSpends : List SaplingSpendDisclosure) (saplingOutputs : List SaplingOutputDisclosure) :
    Except PaymentDisclosureCodecError PaymentDisclosure := do
  if profile ≠ .zip311Draft1 then throw .profileShapeMismatch
  validateDisclosureShape message.length saplingSpends.length
    (saplingSpends.map (·.index)) saplingOutputs.length (saplingOutputs.map (·.index))
  pure ⟨profile, transactionId, message, saplingSpends, saplingOutputs, [], []⟩

def ironwoodExtension (transactionId : TxId) (message : List UInt8)
    (ironwoodSpends : List IronwoodSpendDisclosure)
    (ironwoodOutputs : List IronwoodOutputDisclosure) :
    Except PaymentDisclosureCodecError PaymentDisclosure := do
  validateIronwoodDisclosureShape message.length ironwoodSpends.length
    (ironwoodSpends.map (·.index)) ironwoodOutputs.length (ironwoodOutputs.map (·.index))
  pure ⟨.zallyIronwood, transactionId, message, [], [], ironwoodSpends, ironwoodOutputs⟩

/-- A disclosure one of the public constructors built. -/
inductive Constructed (disclosure : PaymentDisclosure) : Prop where
  | draft1 {profile transactionId message spends outputs}
    (built : new profile transactionId message spends outputs = .ok disclosure)
  | ironwood {transactionId message spends outputs}
    (built : ironwoodExtension transactionId message spends outputs = .ok disclosure)

def headerBytes (disclosure : PaymentDisclosure) : List UInt8 :=
  [disclosure.profile.profileByte] ++ (disclosure.transactionId.asBytes.reverse ++
    (writeCompactSize disclosure.message.length ++ disclosure.message))

def writeDraft1Body (disclosure : PaymentDisclosure) (hasSignatures : Bool) : List UInt8 :=
  writeCompactSize 0 ++
    (writeEntries (SaplingSpendDisclosure.bytes hasSignatures) disclosure.saplingSpends ++
      writeEntries SaplingOutputDisclosure.bytes disclosure.saplingOutputs)

def writeIronwoodBody (disclosure : PaymentDisclosure) (hasSignatures : Bool) : List UInt8 :=
  writeEntries (IronwoodSpendDisclosure.bytes hasSignatures) disclosure.ironwoodSpends ++
    writeEntries IronwoodOutputDisclosure.bytes disclosure.ironwoodOutputs

/-- The body of the disclosure's own profile. -/
def writeBody (disclosure : PaymentDisclosure) (hasSignatures : Bool) : List UInt8 :=
  match disclosure.profile with
  | .zip311Draft1 => disclosure.writeDraft1Body hasSignatures
  | .zallyIronwood => disclosure.writeIronwoodBody hasSignatures

def toBytes (disclosure : PaymentDisclosure) : List UInt8 :=
  disclosure.headerBytes ++ disclosure.writeBody true

def unsignedBytes (disclosure : PaymentDisclosure) : List UInt8 :=
  disclosure.headerBytes ++ disclosure.writeBody false

/-- The digest a spend authorization signs; the hash is keyed by a personalization. -/
def computeDigest (blake2b : (personal message : List UInt8) → Vector UInt8 32)
    (network : NetworkType) (disclosure : PaymentDisclosure) : Vector UInt8 32 :=
  blake2b (signedPersonalizationPrefix ++ leBytes 4 network.coinType) disclosure.unsignedBytes

end PaymentDisclosure

/-- A position in the bytes of a disclosure, never past their end. -/
structure DisclosureCursor where
  disclosureBytes : List UInt8
  offset : Nat
  inBounds : offset ≤ disclosureBytes.length

abbrev DisclosureReader := Reader DisclosureCursor PaymentDisclosureCodecError

namespace DisclosureCursor

def new (disclosureBytes : List UInt8) : DisclosureCursor := ⟨disclosureBytes, 0, Nat.zero_le _⟩

def remaining (cursor : DisclosureCursor) : Nat := cursor.disclosureBytes.length - cursor.offset

/-- The bytes still to be read. -/
def rest (cursor : DisclosureCursor) : List UInt8 := cursor.disclosureBytes.drop cursor.offset

def readU8 : DisclosureReader UInt8 := fun cursor =>
  if more : cursor.offset < cursor.disclosureBytes.length then
    .ok (cursor.disclosureBytes[cursor.offset], ⟨cursor.disclosureBytes, cursor.offset + 1, more⟩)
  else .error (.truncated cursor.offset)

def readVec (length : Nat) : DisclosureReader (List UInt8) := fun cursor =>
  if more : cursor.offset + length ≤ cursor.disclosureBytes.length then
    .ok (cursor.disclosureBytes.extract cursor.offset (cursor.offset + length),
      ⟨cursor.disclosureBytes, cursor.offset + length, more⟩)
  else .error (.truncated cursor.offset)

def readArray (length : Nat) : DisclosureReader (Vector UInt8 length) := fun cursor =>
  if more : cursor.offset + length ≤ cursor.disclosureBytes.length then
    .ok (⟨(cursor.disclosureBytes.extract cursor.offset (cursor.offset + length)).toArray,
        by simp; omega⟩,
      ⟨cursor.disclosureBytes, cursor.offset + length, more⟩)
  else .error (.truncated cursor.offset)

/-- A size of `width` bytes behind its prefix, refused where fewer bytes would do. -/
def readWideSize (prefixOffset width smallest : Nat) : DisclosureReader Nat := do
  let size := ofLeBytes (← readArray width).toList
  if size < smallest then throw (.compactSizeNonMinimal prefixOffset)
  else pure size

/-- The size the bytes behind its prefix complete. -/
def readSizeTail (prefixOffset : Nat) (first : UInt8) : DisclosureReader Nat :=
  if first = 0xfd then readWideSize prefixOffset 2 0xfd
  else if first = 0xfe then readWideSize prefixOffset 4 (2 ^ 16)
  else if first = 0xff then readWideSize prefixOffset 8 (2 ^ 32)
  else pure first.toNat

def readCompactSize (bound : Nat) : DisclosureReader Nat := do
  let prefixOffset := (← get).offset
  let first ← readU8
  let size ← readSizeTail prefixOffset first
  if size > bound then throw (.sizeOutOfRange size bound)
  else pure size

def readIndex : DisclosureReader UInt32 := do
  let index ← readCompactSize (2 ^ 32 - 1)
  if index > 2 ^ 32 - 1 then throw (.sizeOutOfRange index (2 ^ 32 - 1))
  else pure (.ofNat index)

end DisclosureCursor

open DisclosureCursor

/-- The loops of the two bodies over a count and that many entries. -/
def readEntries {α : Type} (read : DisclosureReader α) : DisclosureReader (List α) := do
  let count ← readCompactSize maxDisclosureEntries
  readTimes read count

def readSaplingSpend : DisclosureReader SaplingSpendDisclosure := do
  let index ← readIndex
  let cv ← readArray 32
  let rk ← readArray 32
  let zkproof ← readArray 192
  let addressProof ← readU8
  if addressProof ≠ 0 then throw .addressProofUnsupported
  else
    let spendAuthSig ← readArray 64
    pure ⟨index, cv, rk, zkproof, spendAuthSig⟩

def readSaplingOutput : DisclosureReader SaplingOutputDisclosure := do
  let index ← readIndex
  let ock ← readArray 32
  pure ⟨index, ock⟩

def parseDraft1Body (transactionId : TxId) (message : List UInt8) :
    DisclosureReader PaymentDisclosure := do
  let transparentInputCount ← readCompactSize maxDisclosureEntries
  if transparentInputCount ≠ 0 then throw .transparentInputsUnsupported
  else
    let saplingSpends ← readEntries readSaplingSpend
    let saplingOutputs ← readEntries readSaplingOutput
    PaymentDisclosure.new .zip311Draft1 transactionId message saplingSpends saplingOutputs

def readIronwoodSpend : DisclosureReader IronwoodSpendDisclosure := do
  let index ← readIndex
  let spendAuthSig ← readArray 64
  pure ⟨index, spendAuthSig⟩

def readIronwoodOutput : DisclosureReader IronwoodOutputDisclosure := do
  let index ← readIndex
  let ock ← readArray 32
  pure ⟨index, ock⟩

def parseIronwoodBody (transactionId : TxId) (message : List UInt8) :
    DisclosureReader PaymentDisclosure := do
  let ironwoodSpends ← readEntries readIronwoodSpend
  let ironwoodOutputs ← readEntries readIronwoodOutput
  PaymentDisclosure.ironwoodExtension transactionId message ironwoodSpends ironwoodOutputs

def readProfile : DisclosureReader PaymentDisclosureProfile := do
  let profileByte ← readU8
  if profileByte = draft1ProfileByte then pure .zip311Draft1
  else if profileByte = zallyIronwoodProfileByte then pure .zallyIronwood
  else throw (.profileUnsupported profileByte)

def readDisclosure : DisclosureReader PaymentDisclosure := do
  let profile ← readProfile
  let transactionIdBytes ← readArray 32
  let transactionId := TxId.fromBytes transactionIdBytes.toList.reverse
  let messageBytes ← readCompactSize maxMessageBytes
  let message ← readVec messageBytes
  match profile with
  | .zip311Draft1 => parseDraft1Body transactionId message
  | .zallyIronwood => parseIronwoodBody transactionId message

def PaymentDisclosure.fromBytes (disclosureBytes : List UInt8) :
    Except PaymentDisclosureCodecError PaymentDisclosure := do
  let (disclosure, cursor) ← readDisclosure.run (.new disclosureBytes)
  if cursor.remaining ≠ 0 then throw (.trailingBytes cursor.remaining)
  pure disclosure

end Zally.Disclosure
