import Zally.Chain.SourceCalls
import Zally.Wallet.Submission

/-! Clones of a chain source and the submitters made from it share one client and one cell of
capabilities. Whatever is asked of the indexer, a supported descriptor that has the capabilities
for it was answered before, to one of them. -/
namespace Zally.ZinderSource

open Async Async.Program Async.OnceCell

structure SharedClient (κ : Type) where
  source : ZinderChainSource κ
  submitter : SpendWallet
  revision : submitter.upstream.minSupportedContractRevision =
    source.lib.minSupportedContractRevision.toNat

inductive ClientCall where
  | source (call : SourceCall)
  | submit (rawTx : RawTransaction)

abbrev ClientEvent := IndexerEvent ⊕ SpendEvent

def submitterStep (wallet : SpendWallet) : SpendEvent → Step (List Capability)
  | ⟨.cachedCapabilities, seen⟩ => .read seen
  | ⟨.serverInfo, .ok descriptor⟩ => .learn
    (if descriptor.contractRevision < wallet.upstream.minSupportedContractRevision then none
    else some descriptor.capabilities)
  | ⟨.serverInfo, .error _⟩ => .learn none
  | ⟨.cacheCapabilities capabilities, _⟩ => .fill capabilities
  | _ => .use

/-- The calls on the cell, and the one for its contents. -/
def IndexerCommand.Connects : IndexerCommand → Prop
  | cachedCapabilities | serverInfo | cacheCapabilities _ => True
  | _ => False

def submitterConnects : SpendCommand → Prop
  | .cachedCapabilities | .serverInfo | .cacheCapabilities _ => True
  | _ => False

namespace ClientEvent

def Connects : ClientEvent → Prop :=
  Sum.elim (·.command.Connects) fun event => submitterConnects event.command

/-- The contract revision and the capabilities of a descriptor that was answered. -/
def descriptor : ClientEvent → Option (Nat × List Capability)
  | .inl ⟨.serverInfo, .ok descriptor⟩ =>
    some (descriptor.contractRevision.toNat, descriptor.capabilities)
  | .inr ⟨.serverInfo, .ok descriptor⟩ =>
    some (descriptor.contractRevision, descriptor.capabilities)
  | _ => none

end ClientEvent

variable {κ : Type}

def SharedClient.step (client : SharedClient κ) : ClientEvent → Step (List Capability) :=
  Sum.elim (cellStep client.source) (submitterStep client.submitter)

namespace ClientCall

variable (client : SharedClient κ)

def required : ClientCall → List Capability
  | source call => call.required
  | submit _ => [.serverInfo, .broadcast]

def Requests : ClientCall → ClientEvent → Prop
  | source call, .inl event => call.Requests client.source event.command
  | submit rawTx, .inr event => event.command = .broadcastTransaction rawTx
  | _, _ => False

/-- The events are those of a run of the call, which may have been dropped. -/
def Ran : ClientCall → List ClientEvent → Prop
  | source call, events => ∃ trace outcome, events = trace.map .inl ∧
    Runs (call.program client.source).run trace outcome
  | submit rawTx, events => ∃ trace outcome, events = trace.map .inr ∧
    Runs (Spend.submit client.submitter rawTx).run trace outcome

end ClientCall

/-- Any number of calls at once: each runs its own program, and the cell serves them all. -/
structure ClientHistory (client : SharedClient κ) (calls : Nat → ClientCall)
    (history : List (Nat × ClientEvent)) : Prop where
  ran : ∀ thread, (calls thread).Ran client (localTrace thread history)
  serves : Serves client.step none (history.map (·.2))

section Submitter

variable (wallet : SpendWallet)

theorem connectedCapabilities_eq : Spend.connectedCapabilities wallet =
    getOrTryInit .cachedCapabilities id .cacheCapabilities (do
      let descriptor ← Fallible.call .indexer (Spend.ask .serverInfo)
      if descriptor.contractRevision < wallet.upstream.minSupportedContractRevision then
        throw (.indexer ⟨.operatorActionRequired⟩)
      else return descriptor.capabilities) := by
  rw [Spend.connectedCapabilities,getOrTryInit]
  refine congrArg (_ >>= ·) (funext fun seen => ?_)
  cases seen with
  | some capabilities => rfl
  | none =>
    simp only [id_eq,LawfulMonad.bind_assoc]
    refine congrArg (Bind.bind _) (funext fun descriptor => ?_)
    split
    · rfl
    · rfl

theorem obeys_submit (rawTx : RawTransaction) : ObeysFallible (submitterStep wallet)
    ([.serverInfo, .broadcast] ⊆ ·) (fun _ _ => True) past (Spend.submit wallet rawTx) := by
  have connected : ObeysFallible (submitterStep wallet) ([.serverInfo, .broadcast] ⊆ ·)
      (Known (submitterStep wallet)) past (Spend.connectedCapabilities wallet) := by
    rw [connectedCapabilities_eq]
    refine obeys_getOrTryInit (fun _ => rfl) (fun _ _ => rfl) (obeys_unlessRefused fun reply => ?_)
    cases reply with
    | error error => exact ⟨none, rfl, fun told same => by cases same⟩
    | ok descriptor =>
      refine ⟨_, rfl, ?_⟩
      rintro _ ⟨⟩ supported
      exact if_neg supported
  refine connected.bind fun later capabilities known => ?_
  simp only []
  split
  · exact ObeysFallible.throw _
  · rename_i held
    have held := List.filter_eq_nil_iff.mp (not_not.mp held)
    have subset : [.serverInfo, .broadcast] ⊆ capabilities := fun capability member => by
      simpa using held capability member
    have uses (command : SpendCommand) (answer : command.Answer)
        (asks : command = .broadcastTransaction rawTx) :
        submitterStep wallet ⟨command, answer⟩ = .use := by
      subst asks
      rfl
    refine ObeysFallible.of_within ?_ subset known uses
    exact Fallible.within_bind ⟨rfl, fun _ => trivial⟩ fun reply => trivial

theorem within_submit (rawTx : RawTransaction) : (Spend.submit wallet rawTx).run.Within fun command =>
    submitterConnects command ∨ command = .broadcastTransaction rawTx := by
  have connected : (Spend.connectedCapabilities wallet).run.Within submitterConnects := by
    rw [connectedCapabilities_eq]
    exact within_getOrTryInit trivial (fun _ => trivial) (within_unlessRefused trivial)
  refine Fallible.within_bind (connected.mono fun _ => .inl) fun capabilities => ?_
  simp only []
  split
  · trivial
  · exact Fallible.within_bind ⟨.inr rfl, fun _ => trivial⟩ fun reply => trivial

end Submitter

section History

variable {client : SharedClient κ}

theorem ClientCall.careful (call : ClientCall) (ran : call.Ran client events) :
    Careful client.step (call.required ⊆ ·) events := by
  cases call with
  | source call =>
    obtain ⟨trace, outcome, rfl, run⟩ := ran
    exact Careful.map ((obeys_program call).careful run)
  | submit rawTx =>
    obtain ⟨trace, outcome, rfl, run⟩ := ran
    exact Careful.map ((obeys_submit client.submitter rawTx).careful run)

theorem within_program (call : SourceCall) : (call.program client.source).run.Within fun command =>
    command.Connects ∨ call.Requests client.source command := by
  obtain ⟨rest, same, within⟩ := program_eq client.source call
  rw [same]
  refine Fallible.within_bind ?_ fun _ => within.mono fun _ => .inr
  refine Fallible.within_bind ?_ fun capabilities => ?_
  · exact within_getOrTryInit (.inl trivial) (fun _ => .inl trivial)
      (within_unlessRefused (.inl trivial))
  · simp only []
    split <;> trivial

theorem ClientCall.requests_of_ran (call : ClientCall) (ran : call.Ran client events)
    (member : event ∈ events) : event.Connects ∨ call.Requests client event := by
  cases call with
  | source call =>
    obtain ⟨trace, outcome, rfl, run⟩ := ran
    obtain ⟨own, inside, rfl⟩ := List.mem_map.mp member
    exact run.within (within_program call) own inside
  | submit rawTx =>
    obtain ⟨trace, outcome, rfl, run⟩ := ran
    obtain ⟨own, inside, rfl⟩ := List.mem_map.mp member
    exact run.within (within_submit client.submitter rawTx) own inside

theorem step_of_requests (call : ClientCall) (requests : call.Requests client event) :
    client.step event = .use := by
  cases call with
  | source call => cases event with
    | inl event => exact cellStep_of_requests event.command event.answer requests
    | inr event => exact requests.elim
  | submit rawTx => cases event with
    | inl event => exact requests.elim
    | inr event =>
      obtain ⟨command, answer⟩ := event
      obtain rfl : command = .broadcastTransaction rawTx := requests
      rfl

theorem cellStep_learned {source : ZinderChainSource κ} {event : IndexerEvent}
    (learned : cellStep source event = .learn (some capabilities)) :
    ∃ descriptor, event = ⟨.serverInfo, .ok descriptor⟩ ∧ descriptor.capabilities = capabilities ∧
      source.lib.minSupportedContractRevision ≤ descriptor.contractRevision := by
  obtain ⟨command, answer⟩ := event
  cases command <;> try cases learned
  cases answer with
  | error error => cases learned
  | ok descriptor =>
    obtain ⟨supported, same⟩ := Option.ite_none_left_eq_some.mp (Step.learn.inj learned)
    exact ⟨descriptor, rfl, Option.some.inj same, UInt32.not_lt.mp supported⟩

theorem submitterStep_learned {wallet : SpendWallet} {event : SpendEvent}
    (learned : submitterStep wallet event = .learn (some capabilities)) :
    ∃ descriptor, event = ⟨.serverInfo, .ok descriptor⟩ ∧ descriptor.capabilities = capabilities ∧
      wallet.upstream.minSupportedContractRevision ≤ descriptor.contractRevision := by
  obtain ⟨command, answer⟩ := event
  cases command <;> try cases learned
  cases answer with
  | error error => cases learned
  | ok descriptor =>
    obtain ⟨supported, same⟩ := Option.ite_none_left_eq_some.mp (Step.learn.inj learned)
    exact ⟨descriptor, rfl, Option.some.inj same, Nat.not_lt.mp supported⟩

/-- Where something was learned, a supported descriptor was answered. -/
theorem descriptor_of_learned {event : ClientEvent}
    (learned : client.step event = .learn (some capabilities)) :
    ∃ revision, event.descriptor = some (revision, capabilities) ∧
      client.source.lib.minSupportedContractRevision.toNat ≤ revision := by
  cases event with
  | inl event =>
    obtain ⟨descriptor, rfl, rfl, supported⟩ := cellStep_learned learned
    exact ⟨_, rfl, UInt32.le_iff_toNat_le.mp supported⟩
  | inr event =>
    obtain ⟨descriptor, rfl, rfl, supported⟩ := submitterStep_learned learned
    exact ⟨_, rfl, client.revision ▸ supported⟩

/-- A request is the call's own, and one of the calls had been told before, of a supported
contract, that the capabilities for it are there. -/
theorem request_supported {calls : Nat → ClientCall} {history : List (Nat × ClientEvent)}
    (made : ClientHistory client calls history)
    (placed : history = before ++ (thread, event) :: after) (request : ¬event.Connects) :
    (calls thread).Requests client event ∧ ∃ earlier ∈ before, ∃ revision capabilities,
      earlier.2.descriptor = some (revision, capabilities) ∧
        client.source.lib.minSupportedContractRevision.toNat ≤ revision ∧
        (calls thread).required ⊆ capabilities := by
  have own : event ∈ localTrace thread history := by
    rw [placed,localTrace_append,localTrace_cons_self]
    exact List.mem_append_right _ List.mem_cons_self
  have requests := ((calls thread).requests_of_ran (made.ran thread) own).resolve_left request
  refine ⟨requests, ?_⟩
  obtain ⟨capabilities, subset, told, member, learned⟩ := learned_of_use made.serves
    (fun thread => (calls thread).careful (made.ran thread)) placed (step_of_requests _ requests)
  obtain ⟨earlier, inside, rfl⟩ := List.mem_map.mp member
  obtain ⟨revision, described, supported⟩ := descriptor_of_learned learned
  exact ⟨earlier, inside, revision, capabilities, described, supported, subset⟩

end History

section Sample

def sampleClient : SharedClient Unit := ⟨sampleSource, Spend.sampleWallet, rfl⟩

def sampleTxId : TxId := TxId.fromBytes (List.replicate 32 8)

def sampleCalls : Nat → ClientCall
  | 0 => .source (.transactionStatus sampleTxId)
  | _ => .submit [1]

def sampleStatus : List IndexerEvent := [
  ⟨.cachedCapabilities, none⟩,
  ⟨.serverInfo, .ok ⟨1, [.serverInfo, .broadcast, transaction]⟩⟩,
  ⟨.cacheCapabilities [.serverInfo, .broadcast, transaction], ()⟩,
  ⟨.transactionById (TxId.asBytes sampleTxId), .ok .inMempool⟩]

def sampleSubmit : List SpendEvent := [
  ⟨.cachedCapabilities, some [.serverInfo, .broadcast, transaction]⟩,
  ⟨.broadcastTransaction [1], .accepted 1⟩]

/-- The first call fills the cell, and the second broadcasts before the first makes its request. -/
def sampleHistory : List (Nat × ClientEvent) :=
  (sampleStatus.take 3).map (fun event => (0, .inl event)) ++
    sampleSubmit.map (fun event => (1, .inr event)) ++
    (sampleStatus.drop 3).map fun event => (0, .inl event)

theorem sampleHistory_made : ClientHistory sampleClient sampleCalls sampleHistory where
  ran thread := match thread with
    | 0 => ⟨sampleStatus, some (.ok (.inMempool sampleTxId)), rfl,
        .await (.await (.await (.await .done)))⟩
    | 1 => ⟨sampleSubmit, some (.ok (.accepted 1)), rfl, .await (.await .done)⟩
    | _ + 2 => ⟨[], none, rfl, .cut⟩
  serves := ⟨rfl, rfl, rfl, trivial⟩

theorem sampleRequest_supported : ∃ earlier ∈ sampleHistory.take 4, ∃ revision capabilities,
    earlier.2.descriptor = some (revision, capabilities) ∧ 1 ≤ revision ∧
      [.serverInfo, .broadcast] ⊆ capabilities := by
  have placed : sampleHistory = sampleHistory.take 4 ++
      (1, .inr ⟨.broadcastTransaction [1], .accepted 1⟩) :: sampleHistory.drop 5 := rfl
  exact (request_supported sampleHistory_made placed fun connects => connects).2

end Sample

end Zally.ZinderSource
