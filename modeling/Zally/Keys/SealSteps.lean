import Zally.Async.Machine
import Zally.Keys.AgeFileSealing

/-! Steps of calls at one seed path: how the file system answers them, and the phases of a call
that seals. -/
namespace Zally.AgeFileSealing

open Async Async.Program

variable {ι : Type} {scheme : AgeScheme ι}

abbrev SealFiles := SealPath → Option (List UInt8)

def noFiles : SealFiles := fun _ => none

def replace {κ α : Type} [DecidableEq κ] (map : κ → α) (key : κ) (value : α) : κ → α :=
  fun other => if other = key then value else map other

@[simp] theorem replace_same {κ α : Type} [DecidableEq κ] (map : κ → α) (key : κ) (value : α) :
    replace map key value key = value := if_pos rfl

@[simp] theorem replace_other {κ α : Type} [DecidableEq κ] {key other : κ} (map : κ → α)
    (value : α) (h : other ≠ key) : replace map key value other = map other := if_neg h

/-- How the file system, age and the random source answer; `fault` is a failure of the call,
which then changes nothing. Writing and renaming are atomic. -/
inductive Serves (scheme : AgeScheme ι) : Option String → SealFiles → SealEvent ι → SealFiles → Prop where
  | tryExists : Serves scheme none files ⟨.tryExists path, .ok (files path).isSome⟩ files
  | tryExistsFailed : Serves scheme (some reason) files ⟨.tryExists path, .error reason⟩ files
  | read : files path = some bytes → Serves scheme none files ⟨.read path, .ok bytes⟩ files
  | readMissing : files path = none → Serves scheme none files ⟨.read path, .error reason⟩ files
  | readFailed : Serves scheme (some reason) files ⟨.read path, .error reason⟩ files
  | createDirAll : Serves scheme none files ⟨.createDirAll parent, .ok ()⟩ files
  | createDirAllFailed :
      Serves scheme (some reason) files ⟨.createDirAll parent, .error reason⟩ files
  | write : Serves scheme none files ⟨.write path bytes, .ok ()⟩ (replace files path (some bytes))
  | writeFailed : Serves scheme (some reason) files ⟨.write path bytes, .error reason⟩ files
  | rename : files source = some bytes → Serves scheme none files ⟨.rename source target, .ok ()⟩
      (replace (replace files source none) target (some bytes))
  | renameMissing : files source = none →
      Serves scheme none files ⟨.rename source target, .error reason⟩ files
  | renameFailed : Serves scheme (some reason) files ⟨.rename source target, .error reason⟩ files
  | generate (identity : ι) : Serves scheme none files ⟨.generate, identity⟩ files
  | encrypt : scheme.Encrypts identity plaintext ciphertext →
      Serves scheme none files ⟨.encrypt identity plaintext, .ok ciphertext⟩ files
  | encryptFailed :
      Serves scheme (some reason) files ⟨.encrypt identity plaintext, .error reason⟩ files

/-- The steps of several calls in the order they happen, each with its call. -/
abbrev SealPathRun (scheme : AgeScheme ι) :=
  Async.Path fun (before : SealFiles) (step : Nat × SealEvent ι) after =>
    ∃ fault, Serves scheme fault before step.2 after

/-- Unsealing `files` returns `seed` when no call on the files fails. -/
structure Unseals (scheme : AgeScheme ι) (files : SealFiles) (seed : CheckedSeedMaterial) : Prop where
  returns : ∃ trace, Async.Path (Serves scheme none) files trace files ∧
    Runs (unsealBlocking scheme).run trace (some (.ok seed))
  only : ∀ trace final result, Async.Path (Serves scheme none) files trace final →
    Runs (unsealBlocking scheme).run trace (some result) → result = .ok seed

/-- Where a call that seals stands. -/
inductive SealPhase (ι : Type) where
  | start
  | present
  | missing
  | generated (identity : ι)
  | wrote (identity : ι)
  | has (identity : ι)
  | encrypted (identity : ι) (ciphertext : List UInt8)
  | staged (identity : ι)
  | done
  | failed

namespace SealPhase

/-- The call found no identity and has its own still to put in place. -/
def Creating : SealPhase ι → Prop
  | missing | generated _ | wrote _ => True
  | _ => False

/-- The identity the call encrypts to. -/
def identity : SealPhase ι → Option ι
  | has identity | encrypted identity _ | staged identity => some identity
  | _ => none

def next (scheme : AgeScheme ι) : SealPhase ι → SealEvent ι → SealPhase ι
  | start, ⟨.tryExists _, .ok true⟩ => present
  | start, ⟨.tryExists _, .ok false⟩ => missing
  | present, ⟨.read _, .ok bytes⟩ =>
    match scheme.parse bytes with
    | .ok identity => has identity
    | .error _ => failed
  | missing, ⟨.generate, identity⟩ => generated identity
  | generated identity, ⟨.createDirAll _, .ok ()⟩ => generated identity
  | generated identity, ⟨.write _ _, .ok ()⟩ => wrote identity
  | wrote identity, ⟨.rename _ _, .ok ()⟩ => has identity
  | has identity, ⟨.encrypt _ _, .ok ciphertext⟩ => encrypted identity ciphertext
  | encrypted identity ciphertext, ⟨.createDirAll _, .ok ()⟩ => encrypted identity ciphertext
  | encrypted identity _, ⟨.write _ _, .ok ()⟩ => staged identity
  | staged _, ⟨.rename _ _, .ok ()⟩ => done
  | _, _ => failed

/-- What a call that seals `seed` may do in a phase. -/
def Allows (scheme : AgeScheme ι) (seed : List UInt8) : SealPhase ι → SealCommand ι → Prop
  | start, .tryExists path => path = ⟨.identity, false⟩
  | present, .read path => path = ⟨.identity, false⟩
  | missing, .generate => True
  | generated _, .createDirAll _ => True
  | generated identity, .write path bytes =>
    path = ⟨.identity, true⟩ ∧ bytes = scheme.encode identity
  | wrote _, .rename source target => source = ⟨.identity, true⟩ ∧ target = ⟨.identity, false⟩
  | has identity, .encrypt recipient plaintext => recipient = identity ∧ plaintext = seed
  | encrypted _ _, .createDirAll _ => True
  | encrypted _ ciphertext, .write path bytes => path = ⟨.seed, true⟩ ∧ bytes = ciphertext
  | staged _, .rename source target => source = ⟨.seed, true⟩ ∧ target = ⟨.seed, false⟩
  | _, _ => False

end SealPhase

/-! The phases of the program. -/

/-- A fallible part of a call: it allows its commands and ends in a phase that fits its value. -/
abbrev Seals (scheme : AgeScheme ι) (seed : List UInt8) {α : Type} (ends : SealPhase ι → α → Prop)
    (phase : SealPhase ι) (program : SealM ι α) : Prop :=
  program.run.Follows (SealPhase.Allows scheme seed) (SealPhase.next scheme)
    (fun phase result => ∀ value, result = .ok value → ends phase value) phase

section Phases

variable {seed : List UInt8} {phase : SealPhase ι}

theorem seals_bind {α β : Type} {first : SealPhase ι → α → Prop} {ends : SealPhase ι → β → Prop}
    {program : SealM ι α} {rest : α → SealM ι β} (seals : Seals scheme seed first phase program)
    (continues : ∀ phase value, first phase value → Seals scheme seed ends phase (rest value)) :
    Seals scheme seed ends phase (program >>= rest) := by
  rw [Seals,ExceptT.run_bind]
  refine seals.bind fun middle result fits => ?_
  cases result with
  | ok value => exact continues middle value (fits value rfl)
  | error error => exact fun value => nofun

theorem seals_createParent (options : AgeFileSealingOptions)
    (allows : ∀ parent, phase.Allows scheme seed (.createDirAll parent))
    (stays : ∀ parent, phase.next scheme ⟨.createDirAll parent, .ok ()⟩ = phase) :
    Seals scheme seed (fun after _ => after = phase) phase (createParent options) := by
  unfold createParent
  cases options.parent with
  | none => exact fun _ _ => rfl
  | some parent =>
    refine ⟨allows parent, fun answer => ?_⟩
    cases answer with
    | ok value => exact fun _ _ => stays parent
    | error error => exact fun value => nofun

theorem seals_writeAtomic {options : AgeFileSealingOptions} {staged ended : SealPhase ι}
    (parent : ∀ parent, phase.Allows scheme seed (.createDirAll parent))
    (stays : ∀ parent, phase.next scheme ⟨.createDirAll parent, .ok ()⟩ = phase)
    (writes : phase.Allows scheme seed (.write ⟨file, true⟩ bytes))
    (written : phase.next scheme ⟨.write ⟨file, true⟩ bytes, .ok ()⟩ = staged)
    (moves : staged.Allows scheme seed (.rename ⟨file, true⟩ ⟨file, false⟩))
    (moved : staged.next scheme ⟨.rename ⟨file, true⟩ ⟨file, false⟩, .ok ()⟩ = ended) :
    Seals scheme seed (fun after _ => after = ended) phase (writeAtomic options file bytes) := by
  refine seals_bind (seals_createParent options parent stays) ?_
  rintro _ _ rfl
  refine ⟨writes, fun answer => ?_⟩
  cases answer with
  | error error => exact fun value => nofun
  | ok value =>
    rw [written]
    refine ⟨moves, fun answer => ?_⟩
    cases answer with
    | ok value => exact fun _ _ => moved
    | error error => exact fun value => nofun

theorem seals_loadOrCreateIdentity (options : AgeFileSealingOptions) :
    Seals scheme seed (fun phase identity => phase = .has identity) .start
      (loadOrCreateIdentity scheme options) := by
  refine ⟨rfl, fun answer => ?_⟩
  rcases answer with error | _ | _
  · exact fun value => nofun
  · refine ⟨trivial, fun identity => ?_⟩
    have created : Seals scheme seed (fun after _ => after = .has identity) (.generated identity)
        (writeAtomic options .identity (scheme.encode identity)) :=
      seals_writeAtomic (fun _ => trivial) (fun _ => rfl) ⟨rfl, rfl⟩ rfl ⟨rfl, rfl⟩ rfl
    refine seals_bind created ?_
    rintro _ _ rfl _ ⟨⟩
    rfl
  · refine ⟨rfl, fun answer => ?_⟩
    cases answer with
    | error error => exact fun value => nofun
    | ok encoded =>
      cases parsed : scheme.parse encoded with
      | error reason =>
        have refused : parseIdentity scheme encoded = throw (.ageIdentityFailed reason) := by
          rw [parseIdentity,parsed]
        change Seals scheme seed _ _ (parseIdentity scheme encoded)
        rw [refused]
        exact fun value => nofun
      | ok identity =>
        have read : parseIdentity scheme encoded = pure identity := by rw [parseIdentity,parsed]
        have known : SealPhase.next scheme .present ⟨.read ⟨.identity, false⟩, .ok encoded⟩ =
            .has identity := by simp only [SealPhase.next,parsed]
        change Seals scheme seed _ (SealPhase.next scheme .present _) (parseIdentity scheme encoded)
        rw [read,known]
        rintro _ ⟨⟩
        rfl

/-- A call that seals follows its phases, and when it returns it is done. -/
theorem seals_sealBlocking (options : AgeFileSealingOptions) (seed : List UInt8) :
    Seals scheme seed (fun phase _ => phase = .done) .start (sealBlocking scheme options seed) := by
  refine seals_bind (seals_loadOrCreateIdentity options) ?_
  rintro _ identity rfl
  refine ⟨⟨rfl, rfl⟩, fun answer => ?_⟩
  cases answer with
  | error error => exact fun value => nofun
  | ok ciphertext =>
    exact seals_writeAtomic (fun _ => trivial) (fun _ => rfl) ⟨rfl, rfl⟩ rfl ⟨rfl, rfl⟩ rfl

end Phases

end Zally.AgeFileSealing
