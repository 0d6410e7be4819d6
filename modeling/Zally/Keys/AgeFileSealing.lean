import Zally.Async.Program
import Zally.Wallet.Error

/-! The sealed seed in two files: an age identity, and the seed encrypted to it. -/
namespace Zally

open Async Async.Program

/-- ZIP-32 allows seeds of 32 to 252 bytes. -/
def SeedMaterial.Valid (bytes : SeedMaterial) : Prop := 32 ≤ bytes.length ∧ bytes.length ≤ 252

instance (bytes : SeedMaterial) : Decidable bytes.Valid := by
  unfold SeedMaterial.Valid
  infer_instance

/-- A seed in the range its constructors check. -/
abbrev CheckedSeedMaterial := {bytes : SeedMaterial // bytes.Valid}

def SeedMaterial.fromRawBytes (bytes : List UInt8) : Except SealingError CheckedSeedMaterial :=
  if valid : SeedMaterial.Valid bytes then .ok ⟨bytes, valid⟩
  else .error (.invalidSeedLength bytes.length)

theorem SeedMaterial.fromRawBytes_checked (seed : CheckedSeedMaterial) :
    fromRawBytes seed.val = .ok seed := dif_pos seed.property

/-- The parts of age that the sealing calls: identities as file contents, and what their
recipients encrypt. -/
structure AgeScheme (ι : Type) where
  encode : ι → List UInt8
  parse : List UInt8 → Except String ι
  decrypt : ι → List UInt8 → Except String (List UInt8)
  /-- `Encrypts identity plaintext ciphertext`; encryption draws fresh randomness. -/
  Encrypts : ι → List UInt8 → List UInt8 → Prop

/-- Age is correct: identities parse as written, and a ciphertext decrypts with the identity
whose recipient it was made for. -/
structure AgeScheme.Correct {ι : Type} (scheme : AgeScheme ι) : Prop where
  parse_encode : ∀ identity, scheme.parse (scheme.encode identity) = .ok identity
  decrypt_encrypts : ∀ identity plaintext ciphertext,
    scheme.Encrypts identity plaintext ciphertext →
      scheme.decrypt identity ciphertext = .ok plaintext

inductive SealFile where
  | seed
  | identity
  deriving DecidableEq

/-- One of the two files, or the same name with `.tmp`. -/
structure SealPath where
  file : SealFile
  tmp : Bool
  deriving DecidableEq

inductive SealCommand (ι : Type) where
  | tryExists (path : SealPath)
  | read (path : SealPath)
  | createDirAll (parent : String)
  | write (path : SealPath) (bytes : List UInt8)
  | rename (source target : SealPath)
  | generate
  | encrypt (identity : ι) (plaintext : List UInt8)

@[reducible] def SealCommand.Answer {ι : Type} : SealCommand ι → Type
  | tryExists _ => Except String Bool
  | read _ => Except String (List UInt8)
  | createDirAll _ => Except String Unit
  | write _ _ => Except String Unit
  | rename _ _ => Except String Unit
  | generate => ι
  | encrypt _ _ => Except String (List UInt8)

abbrev SealEvent (ι : Type) := Event (SealCommand ι) SealCommand.Answer
abbrev SealProgram (ι : Type) := Program (SealCommand ι) SealCommand.Answer
abbrev SealM (ι : Type) := Fallible (SealCommand ι) SealCommand.Answer SealingError

/-- The directory of the seed path, if it has one. -/
structure AgeFileSealingOptions where
  parent : Option String

namespace AgeFileSealing

variable {ι : Type}

def ask (command : SealCommand ι) : SealProgram ι command.Answer := perform command

def createParent (options : AgeFileSealingOptions) : SealM ι Unit :=
  match options.parent with
  | some parent => Fallible.call
      (fun reason => .writeFailed s!"could not create directory {parent}: {reason}")
      (ask (.createDirAll parent))
  | none => pure ()

def writeAtomic (options : AgeFileSealingOptions) (file : SealFile) (bytes : List UInt8) :
    SealM ι Unit := do
  createParent options
  Fallible.call .writeFailed (ask (.write ⟨file, true⟩ bytes))
  Fallible.call .writeFailed (ask (.rename ⟨file, true⟩ ⟨file, false⟩))

def parseIdentity (scheme : AgeScheme ι) (encoded : List UInt8) : SealM ι ι :=
  match scheme.parse encoded with
  | .ok identity => pure identity
  | .error reason => throw (.ageIdentityFailed reason)

def loadIdentity (scheme : AgeScheme ι) : SealM ι ι := do
  let encoded ← Fallible.call
    (fun reason => .ageIdentityFailed s!"could not read identity file: {reason}")
    (ask (.read ⟨.identity, false⟩))
  parseIdentity scheme encoded

def createIdentity (scheme : AgeScheme ι) (options : AgeFileSealingOptions) : SealM ι ι := do
  let identity ← ExceptT.lift (ask .generate)
  writeAtomic options .identity (scheme.encode identity)
  return identity

def loadOrCreateIdentity (scheme : AgeScheme ι) (options : AgeFileSealingOptions) : SealM ι ι := do
  match ← Fallible.call .readFailed (ask (.tryExists ⟨.identity, false⟩)) with
  | true => loadIdentity scheme
  | false => createIdentity scheme options

def writeEncryptedSeed (options : AgeFileSealingOptions) (identity : ι) (seed : List UInt8) :
    SealM ι Unit := do
  let ciphertext ← Fallible.call .encryptionFailed (ask (.encrypt identity seed))
  writeAtomic options .seed ciphertext

def sealBlocking (scheme : AgeScheme ι) (options : AgeFileSealingOptions) (seed : List UInt8) :
    SealM ι Unit := do
  let identity ← loadOrCreateIdentity scheme options
  writeEncryptedSeed options identity seed

def decryptSeed (scheme : AgeScheme ι) (identity : ι) (ciphertext : List UInt8) :
    Except SealingError CheckedSeedMaterial :=
  match scheme.decrypt identity ciphertext with
  | .ok plaintext => SeedMaterial.fromRawBytes plaintext
  | .error reason => .error (.decryptionFailed reason)

def unsealBlocking (scheme : AgeScheme ι) : SealM ι CheckedSeedMaterial := do
  match ← Fallible.call .readFailed (ask (.tryExists ⟨.seed, false⟩)) with
  | false => throw .noSealedSeed
  | true => do
    let identity ← loadIdentity scheme
    let ciphertext ← Fallible.call .readFailed (ask (.read ⟨.seed, false⟩))
    ExceptT.mk (pure (decryptSeed scheme identity ciphertext))

end AgeFileSealing
end Zally
