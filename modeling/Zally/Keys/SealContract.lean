import Zally.Keys.SealSteps

/-! What the callers of a sealing rely on, for the age files: a seal that fails leaves the sealed
seed, and an unsealing tells whether there is one. -/
namespace Zally.AgeFileSealing

open Async Async.Program

variable {ι : Type} {scheme : AgeScheme ι}

/-- One call at the files, in which anything may fail. -/
abbrev FilesPath (scheme : AgeScheme ι) :=
  Async.Path fun (before : SealFiles) (event : SealEvent ι) after => ∃ fault,
    Serves scheme fault before event after

/-- A command that only reads. -/
def OnlyReads : SealCommand ι → Prop
  | .tryExists _ | .read _ => True
  | _ => False

theorem unchanged_by_reads {trace : List (SealEvent ι)} (reads : ∀ event ∈ trace, OnlyReads event.command)
    (path : FilesPath scheme files trace final) : final = files := by
  induction path with
  | nil => rfl
  | cons serves _ ih =>
    rw [ih fun event member => reads event (List.mem_cons_of_mem _ member)]
    have only := reads _ List.mem_cons_self
    obtain ⟨fault, serves⟩ := serves
    cases serves <;> first | rfl | exact only.elim

theorem reads_loadIdentity : (loadIdentity scheme).run.Within OnlyReads := by
  refine Fallible.within_bind (Fallible.within_call ⟨trivial, fun _ => trivial⟩) fun encoded => ?_
  unfold parseIdentity
  cases scheme.parse encoded <;> trivial

/-- A command that leaves the sealed seed as it is. -/
def SparesSeed : SealCommand ι → Prop
  | .write path _ => path ≠ ⟨.seed, false⟩
  | .rename source target => source ≠ ⟨.seed, false⟩ ∧ target ≠ ⟨.seed, false⟩
  | _ => True

theorem spares_seed {trace : List (SealEvent ι)} (spares : ∀ event ∈ trace, SparesSeed event.command)
    (path : FilesPath scheme files trace final) : final ⟨.seed, false⟩ = files ⟨.seed, false⟩ := by
  induction path with
  | nil => rfl
  | cons serves _ ih =>
    rw [ih fun event member => spares event (List.mem_cons_of_mem _ member)]
    have spared := spares _ List.mem_cons_self
    obtain ⟨fault, serves⟩ := serves
    cases serves with
    | write => exact replace_other _ _ (Ne.symm spared)
    | rename => rw [replace_other _ _ (Ne.symm spared.2),replace_other _ _ (Ne.symm spared.1)]
    | _ => rfl

theorem spares_createParent (options : AgeFileSealingOptions) :
    (createParent options : SealM ι Unit).run.Within SparesSeed := by
  unfold createParent
  cases options.parent with
  | none => trivial
  | some parent => exact Fallible.within_call ⟨trivial, fun _ => trivial⟩

theorem spares_loadOrCreateIdentity (options : AgeFileSealingOptions) :
    (loadOrCreateIdentity scheme options).run.Within SparesSeed := by
  refine Fallible.within_bind (Fallible.within_call ⟨trivial, fun _ => trivial⟩) fun present => ?_
  cases present with
  | true => exact reads_loadIdentity.mono fun command reads => (by cases command <;> trivial)
  | false =>
    refine Fallible.within_bind (Fallible.within_lift ⟨trivial, fun _ => trivial⟩) fun identity => ?_
    refine Fallible.within_bind ?_ fun _ => trivial
    refine Fallible.within_bind (spares_createParent options) fun _ => ?_
    refine Fallible.within_bind (Fallible.within_call ⟨by simp [SparesSeed], fun _ => trivial⟩) fun _ => ?_
    exact Fallible.within_call ⟨by simp [SparesSeed], fun _ => trivial⟩

/-- What a call that seals does before it moves the new file in place. -/
def stageSeed (scheme : AgeScheme ι) (options : AgeFileSealingOptions) (seed : List UInt8) :
    SealM ι Unit := do
  let identity ← loadOrCreateIdentity scheme options
  let ciphertext ← Fallible.call .encryptionFailed (ask (.encrypt identity seed))
  createParent options
  Fallible.call .writeFailed (ask (.write ⟨.seed, true⟩ ciphertext))

theorem sealBlocking_eq (scheme : AgeScheme ι) (options : AgeFileSealingOptions) (seed : List UInt8) :
    sealBlocking scheme options seed = stageSeed scheme options seed >>= fun _ =>
      Fallible.call .writeFailed (ask (.rename ⟨.seed, true⟩ ⟨.seed, false⟩)) := by
  simp only [sealBlocking,stageSeed,writeEncryptedSeed,writeAtomic,LawfulMonad.bind_assoc]

theorem spares_stageSeed (options : AgeFileSealingOptions) (seed : List UInt8) :
    (stageSeed scheme options seed).run.Within SparesSeed := by
  refine Fallible.within_bind (spares_loadOrCreateIdentity options) fun identity => ?_
  refine Fallible.within_bind (Fallible.within_call ⟨trivial, fun _ => trivial⟩) fun ciphertext => ?_
  refine Fallible.within_bind (spares_createParent options) fun _ => ?_
  exact Fallible.within_call ⟨by simp [SparesSeed], fun _ => trivial⟩

/-- A call that fails to seal, or is stopped before, leaves the sealed seed as it was. -/
theorem seal_seed_file (path : FilesPath scheme files trace final)
    (run : Runs (sealBlocking scheme options seed).run trace outcome) :
    (final ⟨.seed, false⟩ = files ⟨.seed, false⟩ ∧ outcome ≠ some (.ok ())) ∨
      (final ⟨.seed, false⟩).isSome ∧ ∀ error, outcome ≠ some (.error error) := by
  rw [sealBlocking_eq] at run
  rcases Fallible.runs_bind_cases run with ⟨stopped, failed⟩ | ⟨_, staging, moving, rfl, staged, moves⟩
  · exact .inl ⟨spares_seed (stopped.within (spares_stageSeed options seed)) path, failed ()⟩
  obtain ⟨middle, toMiddle, rest⟩ := Async.Path.append_iff.mp path
  have kept := spares_seed (staged.within (spares_stageSeed options seed)) toMiddle
  rcases Fallible.runs_call_iff.mp moves with ⟨rfl, rfl⟩ | ⟨answer, rfl, ended⟩
  · cases rest
    exact .inl ⟨kept, by simp⟩
  rcases rest with _ | ⟨⟨fault, serves⟩, _ | _⟩
  cases serves with
  | rename =>
    refine .inr ⟨by simp, fun error failed => ?_⟩
    rcases ended with rfl | rfl <;> cases failed
  | renameMissing | renameFailed =>
    refine .inl ⟨kept, fun ok => ?_⟩
    rcases ended with rfl | rfl <;> cases ok

/-- The part of an unsealing after the seed file was found. -/
def readSeed (scheme : AgeScheme ι) : SealM ι CheckedSeedMaterial := do
  let identity ← loadIdentity scheme
  let ciphertext ← Fallible.call .readFailed (ask (.read ⟨.seed, false⟩))
  ExceptT.mk (pure (decryptSeed scheme identity ciphertext))

theorem reads_readSeed : (readSeed scheme).run.Within OnlyReads := by
  refine Fallible.within_bind reads_loadIdentity fun identity => ?_
  exact Fallible.within_bind (Fallible.within_call ⟨trivial, fun _ => trivial⟩) fun _ => trivial

/-- A result other than the report that no seed is sealed. -/
def Reported {α : Type} (result : Except SealingError α) : Prop := result ≠ .error .noSealedSeed

theorem reported_bind {α β : Type} {program : SealM ι α} {next : α → SealM ι β}
    (first : program.run.Returns Reported) (rest : ∀ value, (next value).run.Returns Reported) :
    (program >>= next).run.Returns Reported := by
  rw [ExceptT.run_bind]
  refine Returns.bind first fun result reported => ?_
  cases result with
  | ok value => exact rest value
  | error error => exact fun same => reported (by rw [Except.error.inj same])

theorem reported_call {α ε : Type} {lift : ε → SealingError} {program : SealProgram ι (Except ε α)}
    (lifts : ∀ error, lift error ≠ .noSealedSeed) :
    (Fallible.call lift program).run.Returns Reported := by
  have anything : program.Returns fun _ => True := returns_trivial (fun _ => trivial) program
  refine anything.bind fun result _ same => ?_
  cases result with
  | ok value => cases same
  | error error => exact lifts error (Except.error.inj same)

theorem reported_readSeed : (readSeed scheme).run.Returns Reported := by
  refine reported_bind (reported_bind (reported_call (by simp)) fun encoded => ?_) fun identity => ?_
  · unfold parseIdentity
    cases scheme.parse encoded with
    | ok identity => exact fun same => (by cases same)
    | error reason => exact fun same => (by cases same)
  refine reported_bind (reported_call (by simp)) fun ciphertext => ?_
  change decryptSeed scheme identity ciphertext ≠ _
  unfold decryptSeed
  cases scheme.decrypt identity ciphertext with
  | error reason => simp
  | ok plaintext =>
    change SeedMaterial.fromRawBytes plaintext ≠ _
    unfold SeedMaterial.fromRawBytes
    split <;> simp

theorem found_of_tryExists
    (serves : Serves scheme fault files ⟨.tryExists path, .ok found⟩ after) :
    after = files ∧ (files path).isSome = found := by
  generalize same : (⟨.tryExists path, .ok found⟩ : SealEvent ι) = event at serves
  cases serves <;> cases same
  exact ⟨rfl, rfl⟩

/-- An unsealing reports no seed only when the file is missing, and returns one only when it is
there. -/
theorem unseal_seed_file (path : FilesPath scheme files trace final)
    (run : Runs (unsealBlocking scheme).run trace (some answer)) :
    final = files ∧ (answer = .error .noSealedSeed → files ⟨.seed, false⟩ = none) ∧
      ∀ seed, answer = .ok seed → (files ⟨.seed, false⟩).isSome := by
  rw [unsealBlocking,Fallible.run_call_bind] at run
  obtain ⟨found, rest, rfl, reads⟩ := runs_await_some run
  rcases path with _ | ⟨⟨fault, serves⟩, path⟩
  rcases found with reason | _ | _
  · obtain ⟨rfl, rfl⟩ := runs_done_some reads
    cases path
    cases serves
    exact ⟨rfl, by simp, by simp⟩
  · obtain ⟨rfl, rfl⟩ := runs_done_some reads
    cases path
    obtain ⟨rfl, missing⟩ := found_of_tryExists serves
    exact ⟨rfl, fun _ => by simpa using missing, by simp⟩
  · obtain ⟨rfl, present⟩ := found_of_tryExists serves
    have read : Runs (readSeed scheme).run rest (some answer) := reads
    refine ⟨unchanged_by_reads (read.within reads_readSeed) path, fun none => ?_, fun _ _ => present⟩
    exact absurd none (read.returns reported_readSeed)

end Zally.AgeFileSealing
