import Zally.Pczt.Signer
import Zally.Wire.Endian

/-! Which listed receivers the signer covers, over every history of reservations and payments. -/
namespace Zally.Signer

open Async Async.Program

variable {κ : Type}

/-- A PCZT of the signer's network, and a seed whose derivation reaches every receiver and gives
no two of them the same public key hash. -/
structure Derives (backend : SignerBackend κ) (network : Network) (pczt : PcztBytes)
    (seed : SeedMaterial) (parsed : ParsedPczt) (keys : AccountKeys κ) : Prop where
  network : pczt.network = network
  parses : backend.parse pczt.bytes = .ok parsed
  derives : backend.fromSeed seed = .ok keys
  orchard : keys.orchardSpendingKeyValid = true
  transparent : ∀ scope index, index < nonHardenedIndices →
    ∃ key, keys.transparent scope index = some key
  separate : ∀ scope index key otherScope otherIndex other,
    keys.transparent scope index = some key → keys.transparent otherScope otherIndex = some other →
    backend.publicKeyHash key = backend.publicKeyHash other →
    scope = otherScope ∧ index = otherIndex

/-- The upstream signer accepted the key that the script of an input pays. -/
def Authorized (backend : SignerBackend κ) (scripts : List (List UInt8))
    (trace : List (SignEvent κ)) (input : Nat) : Prop :=
  ∃ key, scripts[input]? = some (p2pkhScriptPubkey (.publicKeyHash (backend.publicKeyHash key))) ∧
    ⟨.signTransparent input key, .ok ()⟩ ∈ trace

/-- Every listed receiver has a script and every input that pays it is signed; no input that
pays another wallet's script is. -/
structure CoversReceivers (backend : SignerBackend κ) (keys : AccountKeys κ)
    (lists : KeyScope → Nat → Prop) (scripts : List (List UInt8)) (trace : List (SignEvent κ))
    (outcome : Except PcztError PcztBytes) : Prop where
  listed : ∀ scope index, lists scope index → ∃ script,
    scriptOf backend keys scope index = some script ∧ ∀ input, scripts[input]? = some script →
      Authorized backend scripts trace input ∧ ∃ signed, outcome = .ok signed
  own : ∀ input key answer, ⟨.signTransparent input key, answer⟩ ∈ trace →
    ∃ script scope index, scripts[input]? = some script ∧
      scriptOf backend keys scope index = some script

namespace Derives

variable {backend : SignerBackend κ} {network : Network} {pczt : PcztBytes} {seed : SeedMaterial}
  {parsed : ParsedPczt} {keys : AccountKeys κ}

theorem signWithSeed_eq (derived : Derives backend network pczt seed parsed keys) :
    signWithSeed backend network pczt seed = signWithKeys backend network parsed keys := by
  rw [signWithSeed,validateNetwork,if_pos derived.network]
  simp only [derived.parses,derived.derives]

theorem exists_script (derived : Derives backend network pczt seed parsed keys)
    (child : index < nonHardenedIndices) : ∃ script, scriptOf backend keys scope index = some script := by
  obtain ⟨key, found⟩ := derived.transparent scope index child
  exact ⟨_, Option.map_eq_some_iff.mpr ⟨key, found, rfl⟩⟩

theorem receiver_unique (derived : Derives backend network pczt seed parsed keys)
    (first : scriptOf backend keys scope index = some script)
    (second : scriptOf backend keys otherScope otherIndex = some script) :
    scope = otherScope ∧ index = otherIndex := by
  obtain ⟨key, found, pays⟩ := Option.map_eq_some_iff.mp first
  obtain ⟨other, otherFound, otherPays⟩ := Option.map_eq_some_iff.mp second
  exact derived.separate _ _ _ _ _ _ found otherFound
    (p2pkhScriptPubkey_injective (pays.trans otherPays.symm))

/-- The transparent calls of a finished run are those of the matched inputs, and a run with one
returns a PCZT. -/
theorem signed_iff (derived : Derives backend network pczt seed parsed keys)
    (run : Runs (signWithSeed backend network pczt seed).run trace (some outcome))
    (answered : ∀ event ∈ trace, AnswersCorrectly backend parsed.transparentScripts event) :
    ∃ candidates,
      (∀ key, key ∈ candidates ↔
        ∃ scope index, InWindow scope index ∧ keys.transparent scope index = some key) ∧
      (∀ input key answer, ⟨.signTransparent input key, answer⟩ ∈ trace ↔ ∃ script,
        parsed.transparentScripts[input]? = some script ∧
        matchScriptToKey backend script candidates = some key ∧ answer = .ok ()) ∧
      ∀ input key answer, ⟨.signTransparent input key, answer⟩ ∈ trace →
        ∃ signed, outcome = .ok signed := by
  obtain ⟨candidates, found, window⟩ := deriveCandidateTransparentKeys_ok keys
  rw [derived.signWithSeed_eq] at run
  obtain ⟨signs, returns⟩ := runs_signWithKeys found derived.orchard run answered
  have matched : ∀ input key answer, ⟨.signTransparent input key, answer⟩ ∈ trace ↔
      ⟨.signTransparent input key, answer⟩ ∈
        signedInputs backend candidates 0 parsed.transparentScripts :=
    fun input key answer => signs ⟨.signTransparent input key, answer⟩ trivial
  refine ⟨candidates, window, fun input key answer => ?_, fun input key answer member => ?_⟩
  · rw [matched,mem_signedInputs_iff]
    constructor
    · rintro ⟨_, script, _, atInput, pays, same⟩
      cases same
      exact ⟨script, atInput, pays, rfl⟩
    · rintro ⟨script, atInput, pays, rfl⟩
      exact ⟨input, script, key, atInput, pays, rfl⟩
  · obtain ⟨bytes, returned⟩ := returns (List.ne_nil_of_mem ((matched _ _ _).mp member))
    exact ⟨_, returned⟩

/-- An input is signed when it pays a receiver of the window, and only then. -/
theorem authorized_iff (derived : Derives backend network pczt seed parsed keys)
    (run : Runs (signWithSeed backend network pczt seed).run trace (some outcome))
    (answered : ∀ event ∈ trace, AnswersCorrectly backend parsed.transparentScripts event)
    (atInput : parsed.transparentScripts[input]? = some script)
    (pays : scriptOf backend keys scope index = some script) :
    Authorized backend parsed.transparentScripts trace input ↔ InWindow scope index := by
  obtain ⟨candidates, window, signs, -⟩ := derived.signed_iff run answered
  constructor
  · rintro ⟨key, paid, member⟩
    obtain ⟨other, found, matched, -⟩ := (signs _ _ _).mp member
    rw [atInput] at found
    obtain rfl := Option.some.inj found
    obtain ⟨otherScope, otherIndex, inWindow, otherPays⟩ :=
      (matchScriptToKey_isSome_iff window).mp ⟨key, matched⟩
    obtain ⟨rfl, rfl⟩ := derived.receiver_unique pays otherPays
    exact inWindow
  · intro inWindow
    obtain ⟨key, matched⟩ := (matchScriptToKey_isSome_iff window).mpr ⟨scope, index, inWindow, pays⟩
    refine ⟨key, ?_, (signs _ _ _).mpr ⟨script, atInput, matched, rfl⟩⟩
    rw [(matchScriptToKey_some matched).2]
    exact atInput

end Derives

section Coverage

variable {listing : ReceiverListing .default} {backend : SignerBackend κ} {network : Network}
  {pczt : PcztBytes} {seed : SeedMaterial} {parsed : ParsedPczt} {keys : AccountKeys κ}
  {changes : List ReceiverHistory.Change} {history : ReceiverHistory}

theorem covers_of_window (derived : Derives backend network pczt seed parsed keys)
    (reaches : ReceiverHistory.Reaches .default changes history)
    (run : Runs (signWithSeed backend network pczt seed).run trace (some outcome))
    (answered : ∀ event ∈ trace, AnswersCorrectly backend parsed.transparentScripts event)
    (windows : ∀ script ∈ parsed.transparentScripts, ∀ scope index,
      listing.lists history scope index → scriptOf backend keys scope index = some script →
      InWindow scope index) :
    CoversReceivers backend keys (listing.lists history) parsed.transparentScripts trace outcome := by
  obtain ⟨candidates, window, signs, returns⟩ := derived.signed_iff run answered
  refine ⟨fun scope index listed => ?_, fun input key answer member => ?_⟩
  · obtain ⟨script, pays⟩ := derived.exists_script (listing.child_of_lists reaches listed)
    refine ⟨script, pays, fun input atInput => ?_⟩
    have inWindow := windows _ (List.mem_of_getElem? atInput) scope index listed pays
    have authorized := (derived.authorized_iff run answered atInput pays).mpr inWindow
    refine ⟨authorized, ?_⟩
    obtain ⟨key, -, member⟩ := authorized
    exact returns _ _ _ member
  · obtain ⟨script, atInput, matched, -⟩ := (signs _ _ _).mp member
    obtain ⟨scope, index, -, pays⟩ := (matchScriptToKey_isSome_iff window).mp ⟨key, matched⟩
    exact ⟨script, scope, index, atInput, pays⟩

/-- While nothing has been paid, a listing without ephemeral receivers is covered. -/
theorem covers_before_payment (derived : Derives backend network pczt seed parsed keys)
    (reaches : ReceiverHistory.Reaches .default changes history)
    (run : Runs (signWithSeed backend network pczt seed).run trace (some outcome))
    (answered : ∀ event ∈ trace, AnswersCorrectly backend parsed.transparentScripts event)
    (unpaid : ∀ scope, history.paid scope = [])
    (persistent : ∀ index, ¬ listing.lists history .ephemeral index) :
    CoversReceivers backend keys (listing.lists history) parsed.transparentScripts trace outcome := by
  refine covers_of_window derived reaches run answered fun script _ scope index listed _ => ?_
  have within := listing.lists_of_unpaid reaches (unpaid scope) listed
  cases scope with
  | external => exact ⟨.inl rfl, within⟩
  | internal => exact ⟨.inr rfl, Nat.lt_trans within (by decide)⟩
  | ephemeral => exact absurd listed (persistent index)

end Coverage

/-- For every history of reservations and payments, a run covers the listed receivers that an
input pays exactly when all of them are external or internal ones of the first twenty indices. -/
theorem covers_receivers_iff (listing : ReceiverListing .default) (backend : SignerBackend κ)
    (network : Network) (pczt : PcztBytes) (seed : SeedMaterial) (parsed : ParsedPczt)
    (keys : AccountKeys κ) (changes : List ReceiverHistory.Change) (history : ReceiverHistory)
    (trace : List (SignEvent κ)) (outcome : Except PcztError PcztBytes)
    (derived : Derives backend network pczt seed parsed keys)
    (reaches : ReceiverHistory.Reaches .default changes history)
    (run : Runs (signWithSeed backend network pczt seed).run trace (some outcome))
    (answered : ∀ event ∈ trace, AnswersCorrectly backend parsed.transparentScripts event) :
    CoversReceivers backend keys (listing.lists history) parsed.transparentScripts trace outcome ↔
      ∀ script ∈ parsed.transparentScripts, ∀ scope index, listing.lists history scope index →
        scriptOf backend keys scope index = some script → InWindow scope index := by
  constructor
  · intro covers script member scope index listed pays
    obtain ⟨input, atInput⟩ := List.mem_iff_getElem?.mp member
    obtain ⟨own, paid, signs⟩ := covers.listed scope index listed
    rw [pays] at paid
    obtain rfl := Option.some.inj paid
    obtain ⟨authorized, -⟩ := signs input atInput
    exact (derived.authorized_iff run answered atInput pays).mp authorized
  · exact covers_of_window derived reaches run answered

/-! ### A receiver beyond the window -/

def sampleScopeTag : KeyScope → Nat
  | .external => 0
  | .internal => 1
  | .ephemeral => 2

def sampleKeys : AccountKeys (KeyScope × Nat) where
  transparent scope index := if index < nonHardenedIndices then some (scope, index) else none
  orchardSpendingKeyValid := true

def sampleScript (index : Nat) : List UInt8 :=
  p2pkhScriptPubkey (.publicKeyHash (Wire.leBytes 20 (3 * index)))

def sampleParsed (index : Nat) : ParsedPczt := ⟨0, 0, 0, [sampleScript index]⟩

def samplePczt : PcztBytes := ⟨[], .mainnet⟩

def sampleBackend (index : Nat) : SignerBackend (KeyScope × Nat) where
  parse _ := .ok (sampleParsed index)
  fromSeed _ := .ok sampleKeys
  publicKeyHash key := Wire.leBytes 20 (3 * key.2 + sampleScopeTag key.1)

theorem sampleKeys_some (found : sampleKeys.transparent scope index = some key) :
    index < 2 ^ 31 ∧ key = (scope, index) := by
  obtain ⟨child, same⟩ := Option.ite_none_right_eq_some.mp found
  exact ⟨child, (Option.some.inj same).symm⟩

theorem sample_derives (index : Nat) :
    Derives (sampleBackend index) .mainnet samplePczt [] (sampleParsed index) sampleKeys where
  network := rfl
  parses := rfl
  derives := rfl
  orchard := rfl
  transparent scope index child := ⟨(scope, index), if_pos child⟩
  separate scope index key otherScope otherIndex other found otherFound same := by
    obtain ⟨child, rfl⟩ := sampleKeys_some found
    obtain ⟨otherChild, rfl⟩ := sampleKeys_some otherFound
    have fits : ∀ (scope : KeyScope) (index : Nat), index < 2 ^ 31 →
        3 * index + sampleScopeTag scope < 256 ^ 20 := by
      intro scope index child
      cases scope <;> simp only [sampleScopeTag] <;> omega
    have numbers := congrArg Wire.ofLeBytes same
    simp only [sampleBackend,Wire.ofLeBytes_leBytes (fits scope index child),
      Wire.ofLeBytes_leBytes (fits otherScope otherIndex otherChild)] at numbers
    cases scope <;> cases otherScope <;> simp only [sampleScopeTag] at numbers <;>
      exact ⟨by first | rfl | omega, by omega⟩

theorem sampleScript_eq (index : Nat) (child : index < nonHardenedIndices) :
    scriptOf (sampleBackend index) sampleKeys .external index = some (sampleScript index) :=
  Option.map_eq_some_iff.mpr ⟨(.external, index), if_pos child, rfl⟩

theorem sample_unmatched (child : index < nonHardenedIndices) (beyond : 20 ≤ index)
    (window : ∀ key, key ∈ candidates ↔
      ∃ scope index, InWindow scope index ∧ sampleKeys.transparent scope index = some key) :
    matchScriptToKey (sampleBackend index) (sampleScript index) candidates = none := by
  refine Option.eq_none_iff_forall_ne_some.mpr fun key matched => ?_
  obtain ⟨scope, other, ⟨-, inWindow⟩, pays⟩ :=
    (matchScriptToKey_isSome_iff window).mp ⟨key, matched⟩
  have paid := sampleScript_eq index child
  obtain ⟨rfl, rfl⟩ := (sample_derives index).receiver_unique paid pays
  have : index < 20 := inWindow
  omega

theorem sample_matched (inWindow : index < 20)
    (window : ∀ key, key ∈ candidates ↔
      ∃ scope index, InWindow scope index ∧ sampleKeys.transparent scope index = some key) :
    matchScriptToKey (sampleBackend index) (sampleScript index) candidates =
      some (.external, index) := by
  have child : index < 2 ^ 31 := by omega
  have paid := sampleScript_eq index child
  obtain ⟨key, matched⟩ := (matchScriptToKey_isSome_iff window).mpr
    ⟨.external, index, ⟨.inl rfl, inWindow⟩, paid⟩
  obtain ⟨member, pays⟩ := matchScriptToKey_some matched
  obtain ⟨scope, other, -, derived⟩ := (window key).mp member
  obtain ⟨-, rfl⟩ := sampleKeys_some derived
  have otherPaid : scriptOf (sampleBackend index) sampleKeys scope other = some (sampleScript index) :=
    Option.map_eq_some_iff.mpr ⟨_, derived, pays⟩
  obtain ⟨rfl, rfl⟩ := (sample_derives index).receiver_unique paid otherPaid
  exact matched

def sampleSigned (index : Nat) : List (SignEvent (KeyScope × Nat)) :=
  [⟨.newSigner, .ok ()⟩, ⟨.signTransparent 0 (.external, index), .ok ()⟩, ⟨.finish, .ok []⟩]

theorem sample_signs (inWindow : index < 20) :
    Runs (signWithSeed (sampleBackend index) .mainnet samplePczt []).run (sampleSigned index)
      (some (.ok samplePczt)) := by
  obtain ⟨candidates, found, window⟩ := deriveCandidateTransparentKeys_ok sampleKeys
  have matched := sample_matched inWindow window
  rw [(sample_derives index).signWithSeed_eq,signWithKeys,Fallible.run_call_bind]
  refine .await ?_
  change Runs (ExceptT.run (signTransparentSpends (sampleBackend index) sampleKeys
    [sampleScript index] >>= _)) _ _
  rw [signTransparentSpends,if_neg (by simp),found]
  simp only [signMatching,matched]
  exact .await (.await .done)

theorem sample_refused (child : index < nonHardenedIndices) (beyond : 20 ≤ index) :
    Runs (signWithSeed (sampleBackend index) .mainnet samplePczt []).run [⟨.newSigner, .ok ()⟩]
      (some (.error .noMatchingKeys)) := by
  obtain ⟨candidates, found, window⟩ := deriveCandidateTransparentKeys_ok sampleKeys
  have none := sample_unmatched child beyond window
  rw [(sample_derives index).signWithSeed_eq,signWithKeys,Fallible.run_call_bind]
  refine .await ?_
  change Runs (ExceptT.run (signTransparentSpends (sampleBackend index) sampleKeys
    [sampleScript index] >>= _)) _ _
  rw [signTransparentSpends,if_neg (by simp),found]
  simp only [signMatching,none]
  exact .done

/-- The first receiver is covered. -/
theorem first_receiver_signed :
    ∃ changes history, ReceiverHistory.Reaches .default changes history ∧
      (ReceiverListing.onlyReserved .default).lists history .external 0 ∧
      CoversReceivers (sampleBackend 0) sampleKeys
        ((ReceiverListing.onlyReserved .default).lists history) (sampleParsed 0).transparentScripts
        (sampleSigned 0) (.ok samplePczt) := by
  obtain ⟨changes, history, reaches, reserved, -⟩ :=
    ReceiverHistory.exists_reaches .default .external (by decide) 1 (by decide)
  have listed : (ReceiverListing.onlyReserved .default).lists history .external 0 :=
    show 0 < history.reserved .external by omega
  refine ⟨changes, history, reaches, listed, (covers_receivers_iff (.onlyReserved .default) (sampleBackend 0)
    .mainnet samplePczt [] (sampleParsed 0) sampleKeys changes history (sampleSigned 0) _
    (sample_derives 0) reaches (sample_signs (by decide)) ?_).mpr ?_⟩
  · simp [sampleSigned,AnswersCorrectly]
  · intro script member scope index listed pays
    obtain rfl := List.mem_singleton.mp member
    have paid := sampleScript_eq 0 (by decide)
    obtain ⟨rfl, rfl⟩ := (sample_derives 0).receiver_unique paid pays
    exact ⟨.inl rfl, by decide⟩

/-- A wallet whose first twenty receivers were paid lists the twenty-first, and the signer refuses
the PCZT that spends it. -/
theorem twentyFirst_receiver_not_signed :
    ∃ changes history, ReceiverHistory.Reaches .default changes history ∧
      (ReceiverListing.onlyReserved .default).lists history .external 20 ∧
      scriptOf (sampleBackend 20) sampleKeys .external 20 = some (sampleScript 20) ∧
      (sampleParsed 20).transparentScripts = [sampleScript 20] ∧
      Derives (sampleBackend 20) .mainnet samplePczt [] (sampleParsed 20) sampleKeys ∧
      Runs (signWithSeed (sampleBackend 20) .mainnet samplePczt []).run [⟨.newSigner, .ok ()⟩]
        (some (.error .noMatchingKeys)) ∧
      AnswersCorrectly (sampleBackend 20) [sampleScript 20] ⟨.newSigner, .ok ()⟩ ∧
      ¬ CoversReceivers (sampleBackend 20) sampleKeys
        ((ReceiverListing.onlyReserved .default).lists history) (sampleParsed 20).transparentScripts
        [⟨.newSigner, .ok ()⟩] (.error .noMatchingKeys) := by
  obtain ⟨changes, history, reaches, reserved, -⟩ :=
    ReceiverHistory.exists_reaches .default .external (by decide) 21 (by decide)
  have listed : (ReceiverListing.onlyReserved .default).lists history .external 20 :=
    show 20 < history.reserved .external by omega
  have pays := sampleScript_eq 20 (by decide)
  refine ⟨changes, history, reaches, listed, pays, rfl, sample_derives 20,
    sample_refused (by decide) (by decide), rfl, fun covers => ?_⟩
  obtain ⟨script, paid, signs⟩ := covers.listed .external 20 listed
  rw [pays] at paid
  obtain rfl := Option.some.inj paid
  obtain ⟨-, signed, impossible⟩ := signs 0 rfl
  cases impossible

end Zally.Signer
