import Zally.Outcome
import Zally.Storage.TransparentReceivers
import Zally.Wallet.SpendPort

/-! The signer of a PCZT: the spends it authorizes with the keys of a seed, and the transparent
receivers its window of keys covers. -/
namespace Zally.Signer

open Async Async.Program Outcome

def transparentAddressGapLimit : Nat := TransparentGapLimit.default.external

inductive TransparentAddress where
  | publicKeyHash (hash : List UInt8)
  | scriptHash (hash : List UInt8)
  deriving DecidableEq

def p2pkhScriptPubkey : TransparentAddress → List UInt8
  | .publicKeyHash hash => [0x76, 0xa9, 0x14] ++ hash ++ [0x88, 0xac]
  | .scriptHash _ => []

/-- The keys that the account-zero spending key of a seed derives. -/
structure AccountKeys (κ : Type) where
  transparent : KeyScope → Nat → Option κ
  orchardSpendingKeyValid : Bool

/-- The parts of a PCZT that the signer reads. -/
structure ParsedPczt where
  saplingSpends : Nat
  orchardActions : Nat
  ironwoodActions : Nat
  transparentScripts : List (List UInt8)

/-- The parser, the ZIP-32 derivation and the hash of a key's public key. -/
structure SignerBackend (κ : Type) where
  parse : List UInt8 → Except PcztError ParsedPczt
  fromSeed : SeedMaterial → Except String (AccountKeys κ)
  publicKeyHash : κ → List UInt8

inductive UpstreamSignerError where
  | wrongSpendAuthorizingKey
  | other (reason : String)
  deriving DecidableEq

inductive SignCommand (κ : Type) where
  | newSigner
  | signSapling (index : Nat)
  | signOrchard (index : Nat)
  | signIronwood (index : Nat)
  | signTransparent (index : Nat) (key : κ)
  | finish

@[reducible] def SignCommand.Answer {κ : Type} : SignCommand κ → Type
  | newSigner => Except String Unit
  | signSapling _ => Except UpstreamSignerError Unit
  | signOrchard _ => Except UpstreamSignerError Unit
  | signIronwood _ => Except UpstreamSignerError Unit
  | signTransparent _ _ => Except String Unit
  | finish => Except PcztError (List UInt8)

abbrev SignEvent (κ : Type) := Event (SignCommand κ) SignCommand.Answer
abbrev SignProgram (κ : Type) := Program (SignCommand κ) SignCommand.Answer
abbrev SignM (κ : Type) := Fallible (SignCommand κ) SignCommand.Answer PcztError

variable {κ : Type}

def ask (command : SignCommand κ) : SignProgram κ command.Answer := perform command

def validateNetwork (pczt : PcztBytes) (configured : Network) : Except PcztError Unit :=
  if pczt.network = configured then .ok () else .error (.networkMismatch pczt.network configured)

/-- The loop of the three shielded pools: a spend of another key is passed over. -/
def signSpends (sign : Nat → SignProgram κ (Except UpstreamSignerError Unit)) (label : String) :
    List Nat → SignM κ Nat
  | [] => pure 0
  | index :: indices => do
    match ← ExceptT.lift (sign index) with
    | .ok () => return (← signSpends sign label indices) + 1
    | .error .wrongSpendAuthorizingKey => signSpends sign label indices
    | .error (.other reason) =>
      throw (.upstreamFailed s!"{label} {index} sign failed: {reason}" false)

def signSaplingSpends (spendCount : Nat) : SignM κ Nat :=
  signSpends (fun index => ask (.signSapling index)) "sapling spend" (List.range spendCount)

def signOrchardSpends (keys : AccountKeys κ) (spendCount : Nat) : SignM κ Nat :=
  if keys.orchardSpendingKeyValid then
    signSpends (fun index => ask (.signOrchard index)) "orchard action" (List.range spendCount)
  else throw (.upstreamFailed "orchard spending key bytes failed CtOption check" false)

def signIronwoodSpends (keys : AccountKeys κ) (spendCount : Nat) : SignM κ Nat :=
  if keys.orchardSpendingKeyValid then
    signSpends (fun index => ask (.signIronwood index)) "ironwood action" (List.range spendCount)
  else throw (.upstreamFailed "ironwood spending key bytes failed CtOption check" false)

def candidateKeysAt (keys : AccountKeys κ) (index : Nat) : Except PcztError (List κ) :=
  if index < nonHardenedIndices then
    .ok ((keys.transparent .external index).toList ++ (keys.transparent .internal index).toList)
  else .error (.upstreamFailed s!"invalid non-hardened child index {index}" false)

def deriveCandidateTransparentKeys (keys : AccountKeys κ) : Except PcztError (List κ) := do
  return (← (List.range transparentAddressGapLimit).mapM (candidateKeysAt keys)).flatten

def matchScriptToKey (backend : SignerBackend κ) (scriptPubkey : List UInt8) (candidates : List κ) :
    Option κ :=
  candidates.find? fun key =>
    p2pkhScriptPubkey (.publicKeyHash (backend.publicKeyHash key)) = scriptPubkey

/-- The loop over the scripts of the inputs from an index on. -/
def signMatching (backend : SignerBackend κ) (candidates : List κ) :
    Nat → List (List UInt8) → SignM κ Nat
  | _, [] => pure 0
  | index, script :: scripts =>
    match matchScriptToKey backend script candidates with
    | none => signMatching backend candidates (index + 1) scripts
    | some key => do
      Fallible.call (fun reason =>
        .upstreamFailed s!"transparent spend {index} sign failed: {reason}" false)
        (ask (.signTransparent index key))
      return (← signMatching backend candidates (index + 1) scripts) + 1

def signTransparentSpends (backend : SignerBackend κ) (keys : AccountKeys κ)
    (scriptPubkeys : List (List UInt8)) : SignM κ Nat :=
  if scriptPubkeys.isEmpty then pure 0
  else match deriveCandidateTransparentKeys keys with
    | .error error => throw error
    | .ok candidates => signMatching backend candidates 0 scriptPubkeys

def signWithKeys (backend : SignerBackend κ) (network : Network) (parsed : ParsedPczt)
    (keys : AccountKeys κ) : SignM κ PcztBytes := do
  Fallible.call (fun reason => .upstreamFailed s!"pczt signer init failed: {reason}" false)
    (ask .newSigner)
  let saplingTotal ← signSaplingSpends parsed.saplingSpends
  let orchardTotal ← signOrchardSpends keys parsed.orchardActions
  let ironwoodTotal ← signIronwoodSpends keys parsed.ironwoodActions
  let transparentTotal ← signTransparentSpends backend keys parsed.transparentScripts
  if saplingTotal = 0 ∧ orchardTotal = 0 ∧ ironwoodTotal = 0 ∧ transparentTotal = 0 then
    throw .noMatchingKeys
  else return ⟨← Fallible.call id (ask .finish), network⟩

def signWithSeed (backend : SignerBackend κ) (network : Network) (pczt : PcztBytes)
    (seed : SeedMaterial) : SignM κ PcztBytes :=
  match validateNetwork pczt network with
  | .error error => throw error
  | .ok () =>
    match backend.parse pczt.bytes with
    | .error error => throw error
    | .ok parsed =>
      match backend.fromSeed seed with
      | .error reason => throw (.upstreamFailed s!"ZIP-32 derivation failed: {reason}" false)
      | .ok keys => signWithKeys backend network parsed keys

/-! ### The candidate keys -/

/-- The script through which the key of a scope and index is paid. -/
def scriptOf (backend : SignerBackend κ) (keys : AccountKeys κ) (scope : KeyScope) (index : Nat) :
    Option (List UInt8) :=
  (keys.transparent scope index).map fun key =>
    p2pkhScriptPubkey (.publicKeyHash (backend.publicKeyHash key))

/-- The receivers whose keys the signer tries. -/
def InWindow (scope : KeyScope) (index : Nat) : Prop :=
  (scope = .external ∨ scope = .internal) ∧ index < transparentAddressGapLimit

theorem p2pkhScriptPubkey_injective {first second : List UInt8}
    (same : p2pkhScriptPubkey (.publicKeyHash first) = p2pkhScriptPubkey (.publicKeyHash second)) :
    first = second := by
  simpa [p2pkhScriptPubkey] using same

theorem deriveCandidateTransparentKeys_ok (keys : AccountKeys κ) :
    ∃ candidates, deriveCandidateTransparentKeys keys = .ok candidates ∧ ∀ key, key ∈ candidates ↔
      ∃ scope index, InWindow scope index ∧ keys.transparent scope index = some key := by
  let pair := fun index =>
    (keys.transparent .external index).toList ++ (keys.transparent .internal index).toList
  have each : ∀ index ∈ List.range transparentAddressGapLimit,
      candidateKeysAt keys index = .ok (pair index) := by
    intro index member
    have bound : index < 20 := List.mem_range.mp member
    exact if_pos (show index < 2 ^ 31 by omega)
  refine ⟨((List.range transparentAddressGapLimit).map pair).flatten, ?_, fun key => ?_⟩
  · rw [deriveCandidateTransparentKeys,mapM_eq_map each]
    rfl
  simp only [List.mem_flatten,List.mem_map,List.mem_range,pair,InWindow]
  constructor
  · rintro ⟨found, ⟨index, bound, rfl⟩, member⟩
    rcases List.mem_append.mp member with external | internal
    · exact ⟨.external, index, ⟨.inl rfl, bound⟩, Option.mem_toList.mp external⟩
    · exact ⟨.internal, index, ⟨.inr rfl, bound⟩, Option.mem_toList.mp internal⟩
  · rintro ⟨scope, index, ⟨rfl | rfl, bound⟩, derived⟩
    · exact ⟨_, ⟨index, bound, rfl⟩, List.mem_append_left _ (Option.mem_toList.mpr derived)⟩
    · exact ⟨_, ⟨index, bound, rfl⟩, List.mem_append_right _ (Option.mem_toList.mpr derived)⟩

theorem matchScriptToKey_some {backend : SignerBackend κ}
    (matched : matchScriptToKey backend script candidates = some key) :
    key ∈ candidates ∧ p2pkhScriptPubkey (.publicKeyHash (backend.publicKeyHash key)) = script := by
  have pays := List.find?_some matched
  exact ⟨List.mem_of_find?_eq_some matched, of_decide_eq_true pays⟩

theorem matchScriptToKey_isSome_iff {backend : SignerBackend κ} {keys : AccountKeys κ}
    (window : ∀ key, key ∈ candidates ↔
      ∃ scope index, InWindow scope index ∧ keys.transparent scope index = some key) :
    (∃ key, matchScriptToKey backend script candidates = some key) ↔
      ∃ scope index, InWindow scope index ∧ scriptOf backend keys scope index = some script := by
  constructor
  · rintro ⟨key, matched⟩
    obtain ⟨member, pays⟩ := matchScriptToKey_some matched
    obtain ⟨scope, index, inWindow, derived⟩ := (window key).mp member
    exact ⟨scope, index, inWindow, by rw [scriptOf,derived,Option.map_some,pays]⟩
  · rintro ⟨scope, index, inWindow, paid⟩
    obtain ⟨key, derived, pays⟩ := Option.map_eq_some_iff.mp paid
    refine Option.isSome_iff_exists.mp (List.find?_isSome.mpr ⟨key, ?_, decide_eq_true pays⟩)
    exact (window key).mpr ⟨scope, index, inWindow, derived⟩

/-! ### Runs -/

/-- An upstream signer that fails only where a key does not authorize the spend. -/
def AnswersCorrectly (backend : SignerBackend κ) (scripts : List (List UInt8)) :
    SignEvent κ → Prop
  | ⟨.newSigner, answer⟩ => answer = .ok ()
  | ⟨.signSapling _, answer⟩ => ∀ reason, answer ≠ .error (.other reason)
  | ⟨.signOrchard _, answer⟩ => ∀ reason, answer ≠ .error (.other reason)
  | ⟨.signIronwood _, answer⟩ => ∀ reason, answer ≠ .error (.other reason)
  | ⟨.signTransparent index key, answer⟩ =>
    scripts[index]? = some (p2pkhScriptPubkey (.publicKeyHash (backend.publicKeyHash key))) →
      answer = .ok ()
  | ⟨.finish, answer⟩ => ∃ bytes, answer = .ok bytes

def IsTransparent : SignCommand κ → Prop
  | .signTransparent _ _ => True
  | _ => False

/-- A loop over shielded spends ends with a count and signs nothing transparent. -/
theorem runs_signSpends {correct : SignEvent κ → Prop}
    {command : Nat → SignCommand κ} {sign : Nat → SignProgram κ (Except UpstreamSignerError Unit)}
    (shielded : ∀ index, ¬ IsTransparent (command index))
    (asks : ∀ index trace answer, Runs (sign index) trace (some answer) →
      ∃ event, trace = [event] ∧ event.command = command index ∧
        (correct event → ∀ reason, answer ≠ .error (.other reason)))
    (run : Runs (signSpends sign label indices).run trace (some outcome))
    (answered : ∀ event ∈ trace, correct event) :
    (∃ total, outcome = .ok total) ∧ ∀ event ∈ trace, ¬ IsTransparent event.command := by
  induction indices generalizing trace outcome with
  | nil =>
    obtain ⟨rfl, rfl⟩ := runs_done_some run
    exact ⟨⟨0, rfl⟩, by simp⟩
  | cons index indices ih =>
    rw [signSpends,Fallible.run_lift_bind] at run
    rcases runs_bind_iff.mp run with ⟨unfinished, -⟩ | ⟨answer, first, second, rfl, asked, rest⟩
    · cases unfinished
    obtain ⟨event, rfl, named, correctly⟩ := asks index first answer asked
    have apart : ¬ IsTransparent event.command := by rw [named]; exact shielded index
    have later : ∀ event ∈ second, correct event :=
      fun event member => answered event (List.mem_cons_of_mem _ member)
    have joined : (∀ other ∈ second, ¬ IsTransparent other.command) →
        ∀ other ∈ [event] ++ second, ¬ IsTransparent other.command := by
      intro tail other member
      rcases List.mem_cons.mp member with rfl | member
      · exact apart
      · exact tail other member
    rcases answer with (_ | reason) | _
    · obtain ⟨ends, tail⟩ := ih rest later
      exact ⟨ends, joined tail⟩
    · exact absurd rfl (correctly (answered event List.mem_cons_self) reason)
    · rcases Fallible.runs_bind_some rest with ⟨error, rfl, failed⟩ | ⟨total, front, back, rfl, counted, finished⟩
      · obtain ⟨⟨total, impossible⟩, -⟩ := ih failed later
        cases impossible
      · obtain ⟨rfl, rfl⟩ := runs_done_some finished
        rw [List.append_nil] at joined later ⊢
        exact ⟨⟨total + 1, rfl⟩, joined (ih counted later).2⟩

/-- The calls that sign the matched inputs. -/
def signedInputs (backend : SignerBackend κ) (candidates : List κ) (start : Nat)
    (scripts : List (List UInt8)) : List (SignEvent κ) :=
  (scripts.zipIdx start).filterMap fun input =>
    (matchScriptToKey backend input.1 candidates).map fun key =>
      ⟨.signTransparent input.2 key, .ok ()⟩

theorem runs_signMatching {backend : SignerBackend κ}
    (run : Runs (signMatching backend candidates start scripts).run trace (some outcome))
    (answered : ∀ event ∈ trace, AnswersCorrectly backend (before ++ scripts) event)
    (position : before.length = start) :
    trace = signedInputs backend candidates start scripts ∧ outcome = .ok trace.length := by
  induction scripts generalizing before start trace outcome with
  | nil =>
    obtain ⟨rfl, rfl⟩ := runs_done_some run
    exact ⟨rfl, rfl⟩
  | cons script scripts ih =>
    have further : before ++ script :: scripts = (before ++ [script]) ++ scripts := by simp
    have next : (before ++ [script]).length = start + 1 := by simp [position]
    rw [further] at answered
    rw [signMatching] at run
    rw [signedInputs,List.zipIdx_cons,List.filterMap_cons]
    cases matched : matchScriptToKey backend script candidates with
    | none =>
      rw [matched] at run
      exact ih run answered next
    | some key =>
      rw [matched] at run
      change Runs (ExceptT.run (Fallible.call _ (ask (.signTransparent start key)) >>= _)) _ _ at run
      rw [Fallible.run_call_bind] at run
      obtain ⟨answer, rest, rfl, continues⟩ := runs_await_some run
      have pays := (matchScriptToKey_some matched).2
      have signed : answer = .ok () := answered _ List.mem_cons_self (by simp [← position,pays])
      have later : ∀ event ∈ rest, AnswersCorrectly backend ((before ++ [script]) ++ scripts) event :=
        fun event member => answered event (List.mem_cons_of_mem _ member)
      subst signed
      rcases Fallible.runs_bind_some continues with
        ⟨error, rfl, failed⟩ | ⟨total, front, back, rfl, counted, finished⟩
      · cases (ih failed later next).2
      · obtain ⟨rfl, rfl⟩ := runs_done_some finished
        rw [List.append_nil] at later ⊢
        obtain ⟨rfl, count⟩ := ih counted later next
        obtain rfl := Except.ok.inj count
        exact ⟨rfl, rfl⟩

theorem runs_signTransparentSpends {backend : SignerBackend κ} {keys : AccountKeys κ}
    (derived : deriveCandidateTransparentKeys keys = .ok candidates)
    (run : Runs (signTransparentSpends backend keys scripts).run trace (some outcome))
    (answered : ∀ event ∈ trace, AnswersCorrectly backend scripts event) :
    trace = signedInputs backend candidates 0 scripts ∧ outcome = .ok trace.length := by
  rw [signTransparentSpends] at run
  split at run
  · rename_i empty
    obtain ⟨rfl, rfl⟩ := runs_done_some run
    rw [List.isEmpty_iff.mp empty]
    exact ⟨rfl, rfl⟩
  · rw [derived] at run
    have answered : ∀ event ∈ trace, AnswersCorrectly backend ([] ++ scripts) event := answered
    exact runs_signMatching run answered rfl

/-- The shielded pools of a run in which the upstream signer answers correctly. -/
theorem runs_shielded {backend : SignerBackend κ} (command : Nat → SignCommand κ)
    {sign : Nat → SignProgram κ (Except UpstreamSignerError Unit)}
    {next : Nat → SignM κ PcztBytes} {count : Nat}
    (shielded : ∀ index, ¬ IsTransparent (command index))
    (asks : ∀ index trace answer, Runs (sign index) trace (some answer) →
      ∃ event, trace = [event] ∧ event.command = command index ∧
        (AnswersCorrectly backend scripts event → ∀ reason, answer ≠ .error (.other reason)))
    (run : Runs (signSpends sign label (List.range count) >>= next).run trace (some outcome))
    (answered : ∀ event ∈ trace, AnswersCorrectly backend scripts event) :
    ∃ total first second, trace = first ++ second ∧
      (∀ event ∈ first, ¬ IsTransparent event.command) ∧
      Runs (next total).run second (some outcome) := by
  rcases Fallible.runs_bind_some run with
    ⟨error, -, failed⟩ | ⟨total, first, second, rfl, counted, continues⟩
  · obtain ⟨⟨total, impossible⟩, -⟩ := runs_signSpends shielded asks failed answered
    cases impossible
  · obtain ⟨-, apart⟩ := runs_signSpends shielded asks counted
      fun event member => answered event (List.mem_append_left _ member)
    exact ⟨total, first, second, rfl, apart, continues⟩

/-- The end of a run signs nothing, and it returns a PCZT unless the seed authorized no spend. -/
theorem runs_ending {backend : SignerBackend κ} {idle : Prop} [Decidable idle]
    (run : Runs (if idle then throw PcztError.noMatchingKeys else do
      return PcztBytes.mk (← Fallible.call id (ask .finish)) network : SignM κ PcztBytes).run trace
        (some outcome))
    (answered : ∀ event ∈ trace, AnswersCorrectly backend scripts event) :
    (∀ event ∈ trace, ¬ IsTransparent event.command) ∧
      (¬ idle → ∃ bytes, outcome = .ok ⟨bytes, network⟩) := by
  split at run
  · rename_i none
    obtain ⟨rfl, -⟩ := runs_done_some run
    exact ⟨by simp, fun some => absurd none some⟩
  · rw [Fallible.run_call_bind] at run
    obtain ⟨answer, rest, rfl, returns⟩ := runs_await_some run
    obtain ⟨bytes, rfl⟩ : ∃ bytes, answer = .ok bytes := answered _ List.mem_cons_self
    obtain ⟨rfl, rfl⟩ := runs_done_some returns
    exact ⟨by simp [IsTransparent], fun _ => ⟨bytes, rfl⟩⟩

/-- What a finished run authorizes: exactly the matched inputs, and it returns a PCZT when there
are any. -/
theorem runs_signWithKeys {backend : SignerBackend κ} {keys : AccountKeys κ}
    (derived : deriveCandidateTransparentKeys keys = .ok candidates)
    (valid : keys.orchardSpendingKeyValid = true)
    (run : Runs (signWithKeys backend network parsed keys).run trace (some outcome))
    (answered : ∀ event ∈ trace, AnswersCorrectly backend parsed.transparentScripts event) :
    (∀ event, IsTransparent event.command →
      (event ∈ trace ↔ event ∈ signedInputs backend candidates 0 parsed.transparentScripts)) ∧
    (signedInputs backend candidates 0 parsed.transparentScripts ≠ [] →
      ∃ bytes, outcome = .ok ⟨bytes, network⟩) := by
  rw [signWithKeys,Fallible.run_call_bind] at run
  obtain ⟨answer, trace, rfl, sapling⟩ := runs_await_some run
  have started : answer = .ok () := answered _ List.mem_cons_self
  subst started
  have answered : ∀ event ∈ trace, AnswersCorrectly backend parsed.transparentScripts event :=
    fun event member => answered event (List.mem_cons_of_mem _ member)
  obtain ⟨saplingTotal, saplings, trace, rfl, noSapling, orchard⟩ := runs_shielded
    .signSapling (fun _ => id)
    (fun index trace answer asked => ⟨_, runs_perform_some asked, rfl, id⟩) sapling answered
  have answered : ∀ event ∈ trace, AnswersCorrectly backend parsed.transparentScripts event :=
    fun event member => answered event (List.mem_append_right _ member)
  rw [signOrchardSpends,if_pos valid] at orchard
  obtain ⟨orchardTotal, orchards, trace, rfl, noOrchard, ironwood⟩ := runs_shielded
    .signOrchard (fun _ => id)
    (fun index trace answer asked => ⟨_, runs_perform_some asked, rfl, id⟩) orchard answered
  have answered : ∀ event ∈ trace, AnswersCorrectly backend parsed.transparentScripts event :=
    fun event member => answered event (List.mem_append_right _ member)
  rw [signIronwoodSpends,if_pos valid] at ironwood
  obtain ⟨ironwoodTotal, ironwoods, trace, rfl, noIronwood, transparent⟩ := runs_shielded
    .signIronwood (fun _ => id)
    (fun index trace answer asked => ⟨_, runs_perform_some asked, rfl, id⟩) ironwood answered
  have answered : ∀ event ∈ trace, AnswersCorrectly backend parsed.transparentScripts event :=
    fun event member => answered event (List.mem_append_right _ member)
  rcases Fallible.runs_bind_some transparent with
    ⟨error, rfl, failed⟩ | ⟨total, inputs, trace, rfl, signed, ends⟩
  · cases (runs_signTransparentSpends derived failed answered).2
  obtain ⟨rfl, count⟩ := runs_signTransparentSpends derived signed
    fun event member => answered event (List.mem_append_left _ member)
  obtain rfl := Except.ok.inj count
  obtain ⟨noEnd, returns⟩ := runs_ending ends
    fun event member => answered event (List.mem_append_right _ member)
  refine ⟨fun event isTransparent => ?_, fun some => returns fun none => some ?_⟩
  · have absent : ∀ {events : List (SignEvent κ)},
        (∀ event ∈ events, ¬ IsTransparent event.command) → event ∉ events :=
      fun apart member => apart event member isTransparent
    have notStart : event ≠ ⟨.newSigner, .ok ()⟩ := by rintro rfl; exact isTransparent
    simp only [List.mem_cons,List.mem_append,notStart,absent noSapling,absent noOrchard,
      absent noIronwood,absent noEnd,false_or,or_false]
  · exact List.length_eq_zero_iff.mp none.2.2.2

theorem mem_signedInputs_iff {backend : SignerBackend κ} {event : SignEvent κ} :
    event ∈ signedInputs backend candidates 0 scripts ↔ ∃ input script key,
      scripts[input]? = some script ∧ matchScriptToKey backend script candidates = some key ∧
      event = ⟨.signTransparent input key, .ok ()⟩ := by
  simp only [signedInputs,List.mem_filterMap,Option.map_eq_some_iff]
  constructor
  · rintro ⟨⟨script, input⟩, member, key, matched, rfl⟩
    exact ⟨input, script, key, List.mem_zipIdx_iff_getElem?.mp member, matched, rfl⟩
  · rintro ⟨input, script, key, found, matched, rfl⟩
    exact ⟨(script, input), List.mem_zipIdx_iff_getElem?.mpr found, key, matched, rfl⟩

end Zally.Signer
