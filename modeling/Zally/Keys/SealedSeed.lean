import Zally.Keys.SealSteps

/-! Interleaved calls that seal at one path: the identity and the ciphertext stay a pair as long
as one call at a time creates an identity. -/
namespace Zally.AgeFileSealing

open Async Async.Program

variable {ι : Type} {scheme : AgeScheme ι}

/-! The invariant of the two files. -/

/-- The phase that the steps of one call led to. -/
def phaseAt (scheme : AgeScheme ι) (run : List (Nat × SealEvent ι)) (call : Nat) : SealPhase ι :=
  (localTrace call run).foldl (SealPhase.next scheme) .start

theorem phaseAt_concat (run : List (Nat × SealEvent ι)) (call : Nat) (event : SealEvent ι) :
    phaseAt scheme (run ++ [(call, event)]) =
      replace (phaseAt scheme run) call ((phaseAt scheme run call).next scheme event) := by
  funext other
  by_cases same : other = call
  · subst same
    rw [replace_same,phaseAt,localTrace_append,localTrace_cons_self,List.foldl_append]
    rfl
  · rw [replace_other _ _ same,phaseAt,localTrace_append,localTrace_cons_other (Ne.symm same),
      List.foldl_append]
    rfl

/-- The step wrote an identity to its temporary name, or moved one into place. -/
def Creates : SealEvent ι → Prop
  | ⟨.write path _, .ok ()⟩ => path.file = .identity
  | ⟨.rename source _, .ok ()⟩ => source.file = .identity
  | _ => False

/-- Among the steps to come, the call creates an identity. -/
def WillCreate (call : Nat) (rest : List (Nat × SealEvent ι)) : Prop :=
  ∃ event, (call, event) ∈ rest ∧ Creates event

/-- When a call finds no identity, no other call that found none and has not put its own in
place goes on to write or to move one. -/
def CreatesAlone (scheme : AgeScheme ι) (run : List (Nat × SealEvent ι)) : Prop :=
  ∀ before call after, run = before ++ (call, ⟨.tryExists ⟨.identity, false⟩, .ok false⟩) :: after →
    ∀ other, other ≠ call → (phaseAt scheme before other).Creating → ¬WillCreate other after

theorem WillCreate.cons (will : WillCreate call rest) : WillCreate call (step :: rest) := by
  obtain ⟨event, member, creates⟩ := will
  exact ⟨event, List.mem_cons_of_mem _ member, creates⟩

theorem WillCreate.head (creates : Creates event) : WillCreate call ((call, event) :: rest) :=
  ⟨event, List.mem_cons_self, creates⟩

/-- What the phase of one call says about the files; `creates` tells whether the call still has
an identity to create. -/
structure CallInv (scheme : AgeScheme ι) (files : SealFiles) (seed : List UInt8) (creates : Prop)
    (phase : SealPhase ι) : Prop where
  holds : ∀ identity, phase.identity = some identity →
    files ⟨.identity, false⟩ = some (scheme.encode identity)
  absent : phase.Creating → creates → files ⟨.identity, false⟩ = none
  wrote : ∀ identity, phase = .wrote identity → creates →
    files ⟨.identity, true⟩ = some (scheme.encode identity)
  encrypted : ∀ identity ciphertext, phase = .encrypted identity ciphertext →
    scheme.Encrypts identity seed ciphertext
  finished : phase = .done → (files ⟨.seed, false⟩).isSome

/-- The two files and their temporary names, between two steps of a run whose remaining steps
are `rest`. -/
structure SealInv (scheme : AgeScheme ι) (seeds : Nat → CheckedSeedMaterial) (files : SealFiles)
    (phases : Nat → SealPhase ι) (rest : List (Nat × SealEvent ι)) : Prop where
  calls : ∀ call, CallInv scheme files (seeds call).val (WillCreate call rest) (phases call)
  parsed : ∀ bytes, files ⟨.identity, false⟩ = some bytes → ∃ identity, bytes = scheme.encode identity
  single : ∀ first second, (phases first).Creating → (phases second).Creating →
    WillCreate first rest → WillCreate second rest → first = second
  stored : ∀ tmp ciphertext, files ⟨.seed, tmp⟩ = some ciphertext → ∃ call identity,
    phases call ≠ .start ∧ files ⟨.identity, false⟩ = some (scheme.encode identity) ∧
      scheme.Encrypts identity (seeds call).val ciphertext

section Invariant

variable {seeds : Nat → CheckedSeedMaterial} {files : SealFiles} {phases : Nat → SealPhase ι}
  {phase : SealPhase ι} {seed : List UInt8} {call other : Nat} {event : SealEvent ι}
  {rest : List (Nat × SealEvent ι)}

theorem CallInv.mono {after : SealFiles} {earlier later : Prop}
    (inv : CallInv scheme files seed earlier phase) (fewer : later → earlier)
    (identity : after ⟨.identity, false⟩ = files ⟨.identity, false⟩)
    (staged : later → phase.Creating → after ⟨.identity, true⟩ = files ⟨.identity, true⟩)
    (sealed : (files ⟨.seed, false⟩).isSome → (after ⟨.seed, false⟩).isSome) :
    CallInv scheme after seed later phase where
  holds := by rw [identity]; exact inv.holds
  absent creating will := by rw [identity]; exact inv.absent creating (fewer will)
  wrote held standing will := by
    rw [staged will (by rw [standing]; trivial)]
    exact inv.wrote held standing (fewer will)
  encrypted := inv.encrypted
  finished standing := sealed (inv.finished standing)

/-- A phase that holds no identity and creates none. -/
theorem CallInv.idle (unheld : phase.identity = none) (still : ¬phase.Creating)
    (finished : phase = .done → (files ⟨.seed, false⟩).isSome) (creates : Prop) :
    CallInv scheme files seed creates phase where
  holds identity held := by
    rw [unheld] at held
    cases held
  absent creating := absurd creating still
  wrote identity standing := absurd (by rw [standing]; trivial) still
  encrypted identity ciphertext standing := by
    rw [standing] at unheld
    cases unheld
  finished := finished

/-- A phase between the check and the first write. -/
theorem CallInv.creating {creates : Prop} (creating : phase.Creating)
    (unwritten : ∀ identity, phase ≠ .wrote identity)
    (absent : creates → files ⟨.identity, false⟩ = none) :
    CallInv scheme files seed creates phase := by
  refine ⟨fun identity held => ?_, fun _ => absent, fun identity wrote => absurd wrote (unwritten identity),
    fun identity ciphertext standing => ?_, fun standing => ?_⟩
  · cases phase with
    | missing | generated | wrote => cases held
    | _ => exact creating.elim
  · rw [standing] at creating
    exact creating.elim
  · rw [standing] at creating
    exact creating.elim

/-- A phase that holds the identity in place. -/
theorem CallInv.holding {identity : ι} (held : phase.identity = some identity) (creates : Prop)
    (known : files ⟨.identity, false⟩ = some (scheme.encode identity))
    (encrypted : ∀ identity ciphertext, phase = .encrypted identity ciphertext →
      scheme.Encrypts identity seed ciphertext) : CallInv scheme files seed creates phase := by
  have still : ¬phase.Creating := by
    intro creating
    cases phase with
    | has | encrypted | staged => exact creating
    | _ => cases held
  refine ⟨fun other also => ?_, fun creating => absurd creating still,
    fun other standing => absurd (by rw [standing]; trivial) still, encrypted, fun standing => ?_⟩
  · rw [held] at also
    cases also
    exact known
  · rw [standing] at held
    cases held

/-- Moving a file into place leaves the other one alone. -/
theorem moved_other {file moved : SealFile} (files : SealFiles) (bytes : Option (List UInt8))
    (ne : file ≠ moved) (tmp : Bool) :
    replace (replace files ⟨moved, true⟩ none) ⟨moved, false⟩ bytes ⟨file, tmp⟩ =
      files ⟨file, tmp⟩ := by
  rw [replace_other _ _ (by simp [ne]),replace_other _ _ (by simp [ne])]

theorem creating_of_replace (keeps : phase.Creating → (phases call).Creating)
    (creating : (replace phases call phase other).Creating) : (phases other).Creating := by
  by_cases same : other = call
  · rw [same,replace_same] at creating
    rw [same]
    exact keeps creating
  · rwa [replace_other _ _ same] at creating

theorem started_of_replace (begun : phase ≠ .start) (started : phases other ≠ .start) :
    replace phases call phase other ≠ .start := by
  by_cases same : other = call
  · rwa [same,replace_same]
  · rwa [replace_other _ _ same]

namespace SealInv

/-- The calls after a step of one of them. -/
theorem calls_step {after : SealFiles} {later : Nat → Prop}
    (others : ∀ other, other ≠ call → CallInv scheme after (seeds other).val (later other) (phases other))
    (here : CallInv scheme after (seeds call).val (later call) phase) (other : Nat) :
    CallInv scheme after (seeds other).val (later other) (replace phases call phase other) := by
  by_cases same : other = call
  · rw [same,replace_same]
    exact here
  · rw [replace_other _ _ same]
    exact others other same

/-- A step after which its call creates no more than before leaves one creating call at most. -/
theorem single_step (inv : SealInv scheme seeds files phases ((call, event) :: rest))
    (keeps : phase.Creating → (phases call).Creating) (first second : Nat)
    (creates : (replace phases call phase first).Creating)
    (also : (replace phases call phase second).Creating) (will : WillCreate first rest)
    (too : WillCreate second rest) : first = second :=
  inv.single first second (creating_of_replace keeps creates) (creating_of_replace keeps also)
    will.cons too.cons

/-- Without an identity there is no ciphertext. -/
theorem not_stored (inv : SealInv scheme seeds files phases rest)
    (absent : files ⟨.identity, false⟩ = none) (tmp : Bool) (ciphertext : List UInt8) :
    files ⟨.seed, tmp⟩ ≠ some ciphertext := by
  intro present
  obtain ⟨_, identity, -, current, -⟩ := inv.stored tmp ciphertext present
  rw [absent] at current
  cases current

/-- A step that leaves the files alone and starts no creation. -/
theorem quiet (inv : SealInv scheme seeds files phases ((call, event) :: rest)) (phase : SealPhase ι)
    (here : CallInv scheme files (seeds call).val (WillCreate call rest) phase)
    (creating : phase.Creating → (phases call).Creating) (begun : phase ≠ .start) :
    SealInv scheme seeds files (replace phases call phase) rest where
  calls := calls_step (fun other _ =>
    (inv.calls other).mono WillCreate.cons rfl (fun _ _ => rfl) id) here
  parsed := inv.parsed
  single := inv.single_step creating
  stored tmp ciphertext present := by
    obtain ⟨other, identity, started, current, encrypts⟩ := inv.stored tmp ciphertext present
    exact ⟨other, identity, started_of_replace begun started, current, encrypts⟩

/-- The call finds no identity; the others that found none are out. -/
theorem missing (inv : SealInv scheme seeds files phases ((call, event) :: rest))
    (absent : files ⟨.identity, false⟩ = none)
    (alone : ∀ other, other ≠ call → (phases other).Creating → ¬WillCreate other rest) :
    SealInv scheme seeds files (replace phases call .missing) rest where
  calls := calls_step (fun other _ =>
    (inv.calls other).mono WillCreate.cons rfl (fun _ _ => rfl) id)
    (.creating trivial (by simp) fun _ => absent)
  parsed := inv.parsed
  single first second := by
    have only : ∀ other, (replace phases call .missing other).Creating →
        WillCreate other rest → other = call := by
      intro other creates will
      by_cases same : other = call
      · exact same
      · rw [replace_other _ _ same] at creates
        exact absurd will (alone other same creates)
    exact fun creates also will too => (only first creates will).trans (only second also too).symm
  stored tmp ciphertext present := absurd present (inv.not_stored absent tmp ciphertext)

/-- The call that creates an identity is the only one left that does. -/
theorem eq_of_creates (inv : SealInv scheme seeds files phases ((call, event) :: rest))
    (creating : (phases call).Creating) (creates : Creates event)
    (also : (phases other).Creating) (will : WillCreate other rest) : other = call :=
  inv.single other call also creating will.cons (.head creates)

/-- The call writes its identity to the temporary name. -/
theorem writeIdentity (inv : SealInv scheme seeds files phases ((call, event) :: rest))
    (standing : phases call = .generated identity) (creates : Creates event) :
    SealInv scheme seeds (replace files ⟨.identity, true⟩ (some (scheme.encode identity)))
      (replace phases call (.wrote identity)) rest := by
  have apart : ∀ path : SealPath, path ≠ ⟨.identity, true⟩ →
      replace files ⟨.identity, true⟩ (some (scheme.encode identity)) path = files path :=
    fun path ne => replace_other _ _ ne
  have current := apart ⟨.identity, false⟩ (by decide)
  have creating : (phases call).Creating := by rw [standing]; trivial
  have absent := (inv.calls call).absent creating (.head creates)
  refine ⟨calls_step (fun other ne => ?_) ?_, ?_, ?_, ?_⟩
  · refine (inv.calls other).mono WillCreate.cons current (fun will also => ?_) ?_
    · exact absurd (inv.eq_of_creates creating creates also will) ne
    · rw [apart ⟨.seed, false⟩ (by decide)]
      exact id
  · constructor
    case absent => exact fun _ _ => current.trans absent
    case wrote =>
      rintro _ ⟨⟩ -
      exact replace_same _ _ _
    all_goals
      intros
      contradiction
  · rw [current]
    exact inv.parsed
  · exact inv.single_step fun _ => creating
  · intro tmp ciphertext present
    rw [apart ⟨.seed, tmp⟩ (by simp)] at present
    exact absurd present (inv.not_stored absent tmp ciphertext)

/-- The call moves its identity into place, where there was none. -/
theorem moveIdentity (inv : SealInv scheme seeds files phases ((call, event) :: rest))
    (standing : phases call = .wrote identity) (creates : Creates event)
    (staged : files ⟨.identity, true⟩ = some bytes) :
    SealInv scheme seeds
      (replace (replace files ⟨.identity, true⟩ none) ⟨.identity, false⟩ (some bytes))
      (replace phases call (.has identity)) rest := by
  have creating : (phases call).Creating := by rw [standing]; trivial
  have absent := (inv.calls call).absent creating (.head creates)
  have own := (inv.calls call).wrote identity standing (.head creates)
  rw [staged] at own
  obtain rfl : bytes = scheme.encode identity := Option.some.inj own
  have out : ∀ other, (replace phases call (.has identity) other).Creating →
      ¬WillCreate other rest := by
    intro other also will
    by_cases same : other = call
    · rw [same,replace_same] at also
      exact also
    · rw [replace_other _ _ same] at also
      exact same (inv.eq_of_creates creating creates also will)
  refine ⟨calls_step (fun other ne => ?_) ?_, ?_, ?_, ?_⟩
  · have before := inv.calls other
    refine ⟨fun held known => ?_, fun also will => ?_, fun held wrote will => ?_, before.encrypted, ?_⟩
    · have := before.holds held known
      rw [absent] at this
      cases this
    · exact absurd (inv.eq_of_creates creating creates also will) ne
    · have also : (phases other).Creating := by rw [wrote]; trivial
      exact absurd (inv.eq_of_creates creating creates also will) ne
    · rw [moved_other _ _ (by decide)]
      exact before.finished
  · exact .holding rfl _ (replace_same _ _ _) fun _ _ standing => by cases standing
  · rw [replace_same]
    rintro _ ⟨⟩
    exact ⟨identity, rfl⟩
  · exact fun first _ also _ will _ => absurd will (out first also)
  · intro tmp ciphertext present
    rw [moved_other _ _ (by decide)] at present
    exact absurd present (inv.not_stored absent tmp ciphertext)

/-- The call writes its ciphertext to the temporary name. -/
theorem writeSeed (inv : SealInv scheme seeds files phases ((call, event) :: rest))
    (standing : phases call = .encrypted identity ciphertext) :
    SealInv scheme seeds (replace files ⟨.seed, true⟩ (some ciphertext))
      (replace phases call (.staged identity)) rest := by
  have apart : ∀ path : SealPath, path ≠ ⟨.seed, true⟩ →
      replace files ⟨.seed, true⟩ (some ciphertext) path = files path :=
    fun path ne => replace_other _ _ ne
  have current := apart ⟨.identity, false⟩ (by decide)
  have known := (inv.calls call).holds identity (by rw [standing]; rfl)
  have encrypts := (inv.calls call).encrypted identity ciphertext standing
  refine ⟨calls_step (fun other ne => ?_) ?_, ?_, ?_, ?_⟩
  · refine (inv.calls other).mono WillCreate.cons current (fun _ _ => apart _ (by decide)) ?_
    rw [apart ⟨.seed, false⟩ (by decide)]
    exact id
  · exact .holding rfl _ (current.trans known) fun _ _ standing => by cases standing
  · rw [current]
    exact inv.parsed
  · exact inv.single_step False.elim
  · intro tmp stored present
    rw [current]
    cases tmp with
    | true =>
      rw [replace_same] at present
      cases present
      refine ⟨call, identity, ?_, known, encrypts⟩
      rw [replace_same]
      simp
    | false =>
      rw [apart ⟨.seed, false⟩ (by decide)] at present
      obtain ⟨other, held, started, kept, encrypted⟩ := inv.stored false stored present
      exact ⟨other, held, started_of_replace (by simp) started, kept, encrypted⟩

/-- The call moves whatever ciphertext lies at the temporary name into place. -/
theorem moveSeed (inv : SealInv scheme seeds files phases ((call, event) :: rest))
    (staged : files ⟨.seed, true⟩ = some bytes) :
    SealInv scheme seeds
      (replace (replace files ⟨.seed, true⟩ none) ⟨.seed, false⟩ (some bytes))
      (replace phases call .done) rest := by
  have apart : ∀ tmp, replace (replace files ⟨.seed, true⟩ none) ⟨.seed, false⟩ (some bytes)
      ⟨.identity, tmp⟩ = files ⟨.identity, tmp⟩ := moved_other files _ (by decide)
  refine ⟨calls_step (fun other ne => ?_) ?_, ?_, ?_, ?_⟩
  · refine (inv.calls other).mono WillCreate.cons (apart false) (fun _ _ => apart true) fun _ => ?_
    rw [replace_same]
    rfl
  · refine .idle rfl id (fun _ => ?_) _
    rw [replace_same]
    rfl
  · rw [apart]
    exact inv.parsed
  · exact inv.single_step False.elim
  · intro tmp stored present
    rw [apart]
    have kept : files ⟨.seed, true⟩ = some stored := by
      cases tmp with
      | true =>
        rw [replace_other _ _ (by decide),replace_same] at present
        cases present
      | false =>
        rw [replace_same] at present
        rw [staged,present]
    obtain ⟨other, held, started, current, encrypted⟩ := inv.stored true stored kept
    exact ⟨other, held, started_of_replace (by simp) started, current, encrypted⟩

/-- The step lemma: one step of one call. -/
theorem step (correct : scheme.Correct) (inv : SealInv scheme seeds files phases ((call, event) :: rest))
    (serves : Serves scheme fault files event after)
    (allows : (phases call).Allows scheme (seeds call).val event.command)
    (alone : event = ⟨.tryExists ⟨.identity, false⟩, .ok false⟩ →
      ∀ other, other ≠ call → (phases other).Creating → ¬WillCreate other rest) :
    SealInv scheme seeds after (replace phases call ((phases call).next scheme event)) rest := by
  have fails : SealInv scheme seeds files (replace phases call .failed) rest :=
    inv.quiet .failed (.idle rfl id (by simp) _) False.elim (by simp)
  have own := inv.calls call
  cases standing : phases call <;> rw [standing] at allows own
  case start =>
    cases serves with
    | tryExists =>
      obtain rfl := allows
      cases found : files ⟨.identity, false⟩ with
      | none => exact inv.missing found (alone (by rw [found]; rfl))
      | some bytes =>
        exact inv.quiet .present (.idle rfl id (by simp) _) False.elim (by simp)
    | tryExistsFailed => exact fails
    | _ => exact allows.elim
  case present =>
    cases serves with
    | read found =>
      obtain rfl := allows
      obtain ⟨identity, rfl⟩ := inv.parsed _ found
      have known : SealPhase.next scheme .present
          ⟨.read ⟨.identity, false⟩, .ok (scheme.encode identity)⟩ = .has identity := by
        simp only [SealPhase.next,correct.parse_encode]
      rw [known]
      have unread : ∀ other ciphertext, SealPhase.has identity = .encrypted other ciphertext →
          scheme.Encrypts other (seeds call).val ciphertext := by simp
      exact inv.quiet (.has identity) (.holding rfl _ found unread) False.elim (by simp)
    | readMissing | readFailed => exact fails
    | _ => exact allows.elim
  case missing =>
    cases serves with
    | generate identity =>
      have creating : (phases call).Creating := by rw [standing]; trivial
      exact inv.quiet (.generated identity) (.creating trivial (by simp)
        fun will => own.absent trivial will.cons) (fun _ => creating) (by simp)
    | _ => exact allows.elim
  case generated identity =>
    cases serves with
    | createDirAll =>
      have creating : (phases call).Creating := by rw [standing]; trivial
      exact inv.quiet (.generated identity) (.creating trivial (by simp)
        fun will => own.absent trivial will.cons) (fun _ => creating) (by simp)
    | write =>
      obtain ⟨rfl, rfl⟩ := allows
      exact inv.writeIdentity standing rfl
    | createDirAllFailed | writeFailed => exact fails
    | _ => exact allows.elim
  case wrote identity =>
    cases serves with
    | rename staged =>
      obtain ⟨rfl, rfl⟩ := allows
      exact inv.moveIdentity standing rfl staged
    | renameMissing | renameFailed => exact fails
    | _ => exact allows.elim
  case has identity =>
    cases serves with
    | encrypt encrypts =>
      obtain ⟨same, rfl⟩ := allows
      subst same
      refine inv.quiet (.encrypted _ _) (.holding rfl _ (own.holds _ rfl) ?_) False.elim
        (by simp)
      rintro _ _ ⟨⟩
      exact encrypts
    | encryptFailed => exact fails
    | _ => exact allows.elim
  case encrypted identity ciphertext =>
    cases serves with
    | createDirAll =>
      exact inv.quiet (.encrypted identity ciphertext)
        (.holding rfl _ (own.holds _ rfl) own.encrypted) False.elim (by simp)
    | write =>
      obtain ⟨rfl, rfl⟩ := allows
      exact inv.writeSeed standing
    | createDirAllFailed | writeFailed => exact fails
    | _ => exact allows.elim
  case staged identity =>
    cases serves with
    | rename staged =>
      obtain ⟨rfl, rfl⟩ := allows
      exact inv.moveSeed staged
    | renameMissing | renameFailed => exact fails
    | _ => exact allows.elim
  case done => cases serves <;> exact allows.elim
  case failed => cases serves <;> exact allows.elim

/-- The run lemma. -/
theorem run (correct : scheme.Correct) {whole : List (Nat × SealEvent ι)}
    (allows : ∀ before call event after, whole = before ++ (call, event) :: after →
      (phaseAt scheme before call).Allows scheme (seeds call).val event.command)
    (alone : CreatesAlone scheme whole) (path : SealPathRun scheme files rest final)
    (split : whole = past ++ rest) (inv : SealInv scheme seeds files (phaseAt scheme past) rest) :
    SealInv scheme seeds final (phaseAt scheme whole) [] := by
  induction path generalizing past with
  | nil =>
    rw [split,List.append_nil]
    exact inv
  | @cons files step middle rest final serves _ ih =>
    obtain ⟨call, event⟩ := step
    obtain ⟨fault, serves⟩ := serves
    have next := inv.step correct serves (allows past call event rest split) fun missed => by
      subst missed
      exact alone past call rest split
    rw [← phaseAt_concat] at next
    exact ih (by rw [split,List.append_assoc,List.singleton_append]) next

theorem empty (scheme : AgeScheme ι) (seeds : Nat → CheckedSeedMaterial)
    (rest : List (Nat × SealEvent ι)) : SealInv scheme seeds noFiles (phaseAt scheme []) rest :=
  ⟨fun _ => .idle rfl id (by simp [phaseAt,localTrace]) _, by simp [noFiles],
    fun _ _ => False.elim, by simp [noFiles]⟩

end SealInv
end Invariant

theorem runs_loadIdentity_iff (correct : scheme.Correct) {α : Type} {rest : ι → SealM ι α}
    {outcome : Option (Except SealingError α)} :
    Runs (loadIdentity scheme >>= rest).run
      (⟨.read ⟨.identity, false⟩, .ok (scheme.encode key)⟩ :: trace) outcome ↔
      Runs (rest key).run trace outcome := by
  have parsed : parseIdentity scheme (scheme.encode key) = pure key := by
    rw [parseIdentity,correct.parse_encode]
  rw [loadIdentity,LawfulMonad.bind_assoc,Fallible.run_call_bind]
  refine runs_await_cons_iff.trans ?_
  change Runs (parseIdentity scheme (scheme.encode key) >>= rest).run trace outcome ↔ _
  rw [parsed,pure_bind]

/-- The three reads of an unsealing that meets no failure. -/
def unsealTrace (encoded ciphertext : List UInt8) : List (SealEvent ι) :=
  [⟨.tryExists ⟨.seed, false⟩, .ok true⟩, ⟨.read ⟨.identity, false⟩, .ok encoded⟩,
    ⟨.read ⟨.seed, false⟩, .ok ciphertext⟩]

theorem unsealTrace_runs (correct : scheme.Correct) :
    Runs (unsealBlocking scheme).run (unsealTrace (scheme.encode key) ciphertext)
      (some (decryptSeed scheme key ciphertext)) := by
  rw [unsealBlocking,Fallible.run_call_bind]
  refine .await ((runs_loadIdentity_iff correct).mpr ?_)
  rw [Fallible.run_call_bind]
  exact .await .done

/-- An unsealing that meets no failure reads the two files. -/
theorem result_of_unseal (correct : scheme.Correct) {files : SealFiles}
    (identity : files ⟨.identity, false⟩ = some (scheme.encode key))
    (stored : files ⟨.seed, false⟩ = some ciphertext)
    (path : Async.Path (Serves scheme none) files trace final)
    (run : Runs (unsealBlocking scheme).run trace (some result)) :
    result = decryptSeed scheme key ciphertext := by
  rw [unsealBlocking,Fallible.run_call_bind] at run
  obtain ⟨found, tail, rfl, loads⟩ := runs_await_some run
  clear run
  rcases path with _ | ⟨serves, path⟩
  cases serves
  rw [stored] at loads
  have load : Runs (loadIdentity scheme >>= fun identity => do
      let ciphertext ← Fallible.call .readFailed (ask (.read ⟨.seed, false⟩))
      ExceptT.mk (pure (decryptSeed scheme identity ciphertext))).run tail (some result) := loads
  have first := load
  rw [loadIdentity,LawfulMonad.bind_assoc,Fallible.run_call_bind] at first
  obtain ⟨encoded, rest, rfl, -⟩ := runs_await_some first
  clear first loads
  rcases path with _ | ⟨serves, path⟩
  cases serves with
  | readMissing absent =>
    rw [identity] at absent
    cases absent
  | read present =>
    rw [identity] at present
    cases present
    have reads := (runs_loadIdentity_iff correct).mp load
    rw [Fallible.run_call_bind] at reads
    obtain ⟨answer, last, rfl, decrypts⟩ := runs_await_some reads
    clear reads load
    rcases path with _ | ⟨serves, path⟩
    cases serves with
    | readMissing absent =>
      rw [stored] at absent
      cases absent
    | read present =>
      rw [stored] at present
      cases present
      exact (runs_done_some decrypts).2

/-- Files whose ciphertext was made for their identity unseal. -/
theorem unseals_of_files (correct : scheme.Correct) {files : SealFiles} {seed : CheckedSeedMaterial}
    (identity : files ⟨.identity, false⟩ = some (scheme.encode key))
    (stored : files ⟨.seed, false⟩ = some ciphertext)
    (encrypts : scheme.Encrypts key seed.val ciphertext) : Unseals scheme files seed := by
  have decrypted : decryptSeed scheme key ciphertext = .ok seed := by
    rw [decryptSeed,correct.decrypt_encrypts _ _ _ encrypts]
    exact SeedMaterial.fromRawBytes_checked seed
  constructor
  · refine ⟨unsealTrace (scheme.encode key) ciphertext, ?_, ?_⟩
    · have exist : (files ⟨.seed, false⟩).isSome = true := by rw [stored]; rfl
      refine .cons (by rw [← exist]; exact .tryExists) ?_
      exact .cons (.read identity) (.cons (.read stored) .nil)
    · rw [← decrypted]
      exact unsealTrace_runs correct
  · intro trace final result path run
    rw [← decrypted]
    exact result_of_unseal correct identity stored path run

/-- When no two calls create an identity at the same time, a seed that a call has sealed can be
unsealed, at every point of the run and whatever stops after it. -/
theorem sealed_seed_recoverable (scheme : AgeScheme ι) (correct : scheme.Correct)
    (options : AgeFileSealingOptions) (seeds : Nat → CheckedSeedMaterial)
    (run : List (Nat × SealEvent ι)) (files : SealFiles) (path : SealPathRun scheme noFiles run files)
    (calls : ∀ call, ∃ outcome,
      Runs (sealBlocking scheme options (seeds call).val).run (localTrace call run) outcome)
    (alone : CreatesAlone scheme run) (call : Nat)
    (returned : Runs (sealBlocking scheme options (seeds call).val).run (localTrace call run)
      (some (.ok ()))) :
    ∃ other event, (other, event) ∈ run ∧ Unseals scheme files (seeds other) := by
  have allows : ∀ before call event after, run = before ++ (call, event) :: after →
      (phaseAt scheme before call).Allows scheme (seeds call).val event.command := by
    rintro before call event after rfl
    obtain ⟨outcome, runs⟩ := calls call
    rw [localTrace_append,localTrace_cons_self] at runs
    exact runs.allowed (seals_sealBlocking options (seeds call).val)
  have inv := SealInv.run correct allows alone path rfl (.empty scheme seeds run)
  have done : phaseAt scheme run call = .done :=
    returned.ends (seals_sealBlocking options (seeds call).val) () rfl
  obtain ⟨ciphertext, stored⟩ := Option.isSome_iff_exists.mp ((inv.calls call).finished done)
  obtain ⟨other, identity, started, current, encrypts⟩ := inv.stored false ciphertext stored
  have stepped : localTrace other run ≠ [] := by
    intro none
    rw [phaseAt,none] at started
    exact started rfl
  obtain ⟨event, member⟩ := List.exists_mem_of_ne_nil _ stepped
  exact ⟨other, event, mem_localTrace.mp member, unseals_of_files correct current stored encrypts⟩

/-- A stand-in for age whose ciphertexts name the identity they were made for. -/
def sampleScheme : AgeScheme UInt8 where
  encode identity := [identity]
  parse
    | [identity] => .ok identity
    | _ => .error "invalid identity"
  decrypt identity
    | owner :: plaintext =>
      if owner = identity then .ok plaintext else .error "No matching keys found"
    | [] => .error "Header is invalid"
  Encrypts identity plaintext ciphertext := ciphertext = identity :: plaintext

theorem sampleScheme_correct : sampleScheme.Correct := by
  constructor
  · exact fun identity => rfl
  · rintro identity plaintext _ rfl
    exact if_pos rfl

def sampleSeed (byte : UInt8) : CheckedSeedMaterial :=
  ⟨List.replicate 32 byte, by simp [SeedMaterial.Valid]⟩

/-- The check of a call that finds no identity. -/
def missedStep (call : Nat) : Nat × SealEvent UInt8 :=
  (call, ⟨.tryExists ⟨.identity, false⟩, .ok false⟩)

/-- The steps that create the identity. -/
def createSteps (call : Nat) (key : UInt8) : List (Nat × SealEvent UInt8) :=
  [(call, ⟨.generate, key⟩), (call, ⟨.write ⟨.identity, true⟩ [key], .ok ()⟩),
    (call, ⟨.rename ⟨.identity, true⟩ ⟨.identity, false⟩, .ok ()⟩)]

/-- The steps that store the seed. -/
def storeSteps (call : Nat) (key : UInt8) : List (Nat × SealEvent UInt8) :=
  [(call, ⟨.encrypt key (sampleSeed key).val, .ok (key :: (sampleSeed key).val)⟩),
    (call, ⟨.write ⟨.seed, true⟩ (key :: (sampleSeed key).val), .ok ()⟩),
    (call, ⟨.rename ⟨.seed, true⟩ ⟨.seed, false⟩, .ok ()⟩)]

def firstSeal (call : Nat) (key : UInt8) : List (Nat × SealEvent UInt8) :=
  missedStep call :: createSteps call key ++ storeSteps call key

theorem firstSeal_runs (key : UInt8) :
    Runs (sealBlocking sampleScheme ⟨none⟩ (sampleSeed key).val).run
      ((firstSeal 0 key).map Prod.snd) (some (.ok ())) :=
  .await (.await (.await (.await (.await (.await (.await .done))))))

theorem missedStep_path {files : SealFiles} (absent : files ⟨.identity, false⟩ = none) (call : Nat) :
    SealPathRun sampleScheme files [missedStep call] files := by
  have answers := @Serves.tryExists UInt8 sampleScheme files ⟨.identity, false⟩
  rw [absent] at answers
  exact .cons ⟨none, answers⟩ .nil

/-- A file after it was written to its temporary name and moved into place. -/
def stored (files : SealFiles) (file : SealFile) (bytes : List UInt8) : SealFiles :=
  replace (replace (replace files ⟨file, true⟩ (some bytes)) ⟨file, true⟩ none) ⟨file, false⟩
    (some bytes)

theorem createSteps_path (files : SealFiles) (call : Nat) (key : UInt8) :
    SealPathRun sampleScheme files (createSteps call key) (stored files .identity [key]) :=
  .cons ⟨none, .generate key⟩ (.cons ⟨none, .write⟩ (.cons ⟨none, .rename (replace_same _ _ _)⟩ .nil))

theorem storeSteps_path (files : SealFiles) (call : Nat) (key : UInt8) :
    SealPathRun sampleScheme files (storeSteps call key)
      (stored files .seed (key :: (sampleSeed key).val)) :=
  .cons ⟨none, .encrypt rfl⟩ (.cons ⟨none, .write⟩ (.cons ⟨none, .rename (replace_same _ _ _)⟩ .nil))

theorem first_seal_recoverable :
    ∃ other event, (other, event) ∈ firstSeal 0 1 ∧
      Unseals sampleScheme (stored (stored noFiles .identity [1]) .seed (1 :: (sampleSeed 1).val))
        (sampleSeed 1) := by
  have labels : ∀ step ∈ firstSeal 0 1, step.1 = 0 := by decide
  have path := (missedStep_path (rfl : noFiles _ = none) 0).append
    ((createSteps_path noFiles 0 1).append (storeSteps_path _ 0 1))
  have quiet : ∀ call, call ≠ 0 → ∀ run, run ⊆ firstSeal 0 1 → localTrace call run = [] := by
    intro call ne run inside
    refine List.eq_nil_iff_forall_not_mem.mpr fun event member => ?_
    exact ne (labels _ (inside (mem_localTrace.mp member)))
  refine sealed_seed_recoverable sampleScheme sampleScheme_correct ⟨none⟩ (fun _ => sampleSeed 1)
    (firstSeal 0 1) _ path (fun call => ?_) ?_ 0 (firstSeal_runs 1)
  · by_cases own : call = 0
    · subst own
      exact ⟨_, firstSeal_runs 1⟩
    · rw [quiet call own _ (List.Subset.refl _)]
      exact ⟨none, .cut⟩
  · intro before call after split other ne creating
    have own : call = 0 := labels (call, _) (by
      rw [split]
      exact List.mem_append_right _ List.mem_cons_self)
    have inside : before ⊆ firstSeal 0 1 := by
      rw [split]
      exact List.subset_append_left _ _
    rw [phaseAt,quiet other (own ▸ ne) before inside] at creating
    exact creating.elim

/-- Two first seals, both of which find no identity. -/
def racedSeals : List (Nat × SealEvent UInt8) :=
  [missedStep 0, missedStep 1] ++ (createSteps 0 1 ++ (createSteps 1 2 ++
    (storeSteps 1 2 ++ storeSteps 0 1)))

/-- Both calls return, and no seed can be unsealed. -/
theorem raced_seals_lose_seed :
    ∃ files, SealPathRun sampleScheme noFiles racedSeals files ∧
      (∀ call, ∃ outcome, Runs (sealBlocking sampleScheme ⟨none⟩
        (sampleSeed (if call = 0 then 1 else 2)).val).run (localTrace call racedSeals) outcome) ∧
      Runs (sealBlocking sampleScheme ⟨none⟩ (sampleSeed 1).val).run (localTrace 0 racedSeals)
        (some (.ok ())) ∧
      Runs (sealBlocking sampleScheme ⟨none⟩ (sampleSeed 2).val).run (localTrace 1 racedSeals)
        (some (.ok ())) ∧
      ∀ seed, ¬Unseals sampleScheme files seed := by
  have missed : SealPathRun sampleScheme noFiles [missedStep 0, missedStep 1] noFiles :=
    (missedStep_path rfl 0).append (missedStep_path rfl 1)
  refine ⟨_, missed.append ((createSteps_path _ 0 1).append ((createSteps_path _ 1 2).append
    ((storeSteps_path _ 1 2).append (storeSteps_path _ 0 1)))), fun call => ?_, firstSeal_runs 1,
    firstSeal_runs 2, fun seed unseals => ?_⟩
  · by_cases first : call = 0
    · subst first
      exact ⟨_, firstSeal_runs 1⟩
    by_cases second : call = 1
    · subst second
      exact ⟨_, firstSeal_runs 2⟩
    have none : localTrace call racedSeals = [] := by
      have labels : ∀ step ∈ racedSeals, step.1 = 0 ∨ step.1 = 1 := by decide
      refine List.eq_nil_iff_forall_not_mem.mpr fun event member => ?_
      rcases labels _ (mem_localTrace.mp member) with zero | one
      · exact first zero
      · exact second one
    rw [none]
    exact ⟨_, .cut⟩
  · obtain ⟨trace, path, run⟩ := unseals.returns
    have result : .ok seed = decryptSeed sampleScheme 2 (1 :: (sampleSeed 1).val) :=
      result_of_unseal sampleScheme_correct rfl rfl path run
    cases result

end Zally.AgeFileSealing
