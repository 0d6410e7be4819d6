import Zally.Storage.WalletDbActor

/-! Runs of the wallet-db actor: the storage calls happen one after the other, a PCZT that
nobody got locks nothing, and the actor always catches up. -/
namespace Zally

open Async Lease Outcome

variable {codec : Wire.Hex.Codec} {options : WalletDbOptions WalletTables}
  {files : WalletDbFiles WalletTables}

/-- What a served request answers where it stands in a history. -/
def answerAfter (codec : Wire.Hex.Codec) (options : WalletDbOptions WalletTables)
    (files : WalletDbFiles WalletTables)
    (before : List (Actor.Entry WalletDbRequest)) (request : WalletDbRequest) :
    Except StorageError WalletDbReply :=
  request.answer
    (request.run codec options
      (Actor.replay (walletDbService codec options) ⟨.notOpened, files⟩ before)).1

/-- A run of the actor on the database in `files` amounts to its requests served in turn. -/
structure WalletDbSerial (codec : Wire.Hex.Codec) (options : WalletDbOptions WalletTables)
    (files : WalletDbFiles WalletTables) (labels : List (Actor.Label WalletDbRequest))
    (world : WalletDbWorld) (history : List (Actor.Entry WalletDbRequest)) : Prop where
  database : world.state = Actor.replay (walletDbService codec options) ⟨.notOpened, files⟩ history
  inOrder : history.map (·.ticket) ++ world.queue = labels.filterMap Actor.Label.sent
  once : (history.map (·.ticket) ++ world.queue).Nodup
  requests : ∀ entry ∈ history, (world.calls[entry.ticket]?).map (·.request) = some entry.request
  answers : ∀ ticket request stage outcome, world.calls[ticket]? = some ⟨request, stage⟩ →
    stage.answer = some outcome → ∃ before after,
      history = before ++ ⟨ticket, request, true⟩ :: after ∧
        request.answer outcome = answerAfter codec options files before request
  realTime : ∀ before after first second, labels = before ++ after → .take first ∈ before →
    .send second ∈ after → [first, second].Sublist (history.map (·.ticket) ++ world.queue)
  depth : queueDepth world ≤ walletDbQueueCapacity
  holds : WalletStore.tables ⟨.notOpened, files⟩ |>.holds.Sound → world.state.tables.holds.Sound

theorem walletDb_serial (fresh : options.fresh = .empty)
    (path : WalletDbPath codec options (.initial ⟨.notOpened, files⟩) labels world) :
    ∃ history, WalletDbSerial codec options files labels world history := by
  obtain ⟨history, record⟩ := Actor.exists_recorded path
  refine ⟨history, record.state, record.order, record.distinct, ?_, ?_, ?_,
    Actor.queue_length_le path, ?_⟩
  · intro entry member
    obtain ⟨stage, known, -⟩ := record.served entry member
    rw [known,Option.map_some]
  · intro ticket request stage outcome called answered
    obtain ⟨before, after, placed, same⟩ :=
      record.answered ticket request stage outcome called answered
    exact ⟨before, after, placed, by rw [answerAfter,← same]; rfl⟩
  · rintro before after first second rfl taken sent
    exact Actor.taken_precedes path record taken sent
  · intro sound
    rw [record.state]
    exact Actor.replay_invariant (fun store : WalletStore WalletTables => store.tables.holds.Sound)
      (fun entry _ store sound => holds_settle fresh sound entry.request entry.kept) sound

/-- The creations of a run draw owners of their own that nothing used before, and extractions
under the name of such an owner spend what its creation locked. -/
structure WalletDbOwners (files : WalletDbFiles WalletTables) (world : WalletDbWorld) : Prop where
  distinct : ∀ (first second : Nat) (firstCall secondCall : Actor.Call WalletDbRequest _) owner,
    world.calls[first]? = some firstCall → world.calls[second]? = some secondCall →
    firstCall.request.creates = some owner → secondCall.request.creates = some owner →
    first = second
  unused : ∀ call ∈ world.calls, ∀ owner, call.request.creates = some owner →
    ¬(WalletStore.tables ⟨.notOpened, files⟩).pczt.Owns owner
  spends : ∀ creation ∈ world.calls, ∀ extraction ∈ world.calls,
    ∀ fault unlock cleanup owner inputs txId fault' pczt,
    creation.request = .createPczt fault unlock cleanup owner inputs txId →
    extraction.request = .extractAndStorePczt fault' pczt →
    pendingPcztLockOwner pczt = .ok (some owner) → inputs ⊆ pczt.inputs

/-- What a creation that was called holds in a world. -/
structure PcztHeld (world : WalletDbWorld) (stage : Actor.Stage (Except StorageError WalletDbReply))
    (unlock : Unlock) (cleanup : StepFault ReleaseStep) (owner : LockOwner)
    (inputs : List OutputRef) : Prop where
  covered : unlock = .released → world.state.tables.pczt.Leases owner inputs
  received : ∀ pczt lockOwner, stage = .returned (some (.ok (.pczt pczt lockOwner))) →
    lockOwner = owner ∧ pendingPcztLockOwner pczt = .ok (some owner) ∧ pczt.inputs = inputs
  withdrawn : unlock = .released → cleanup = none → world.unconfirmed = none →
    (∀ pczt lockOwner, stage ≠ .returned (some (.ok (.pczt pczt lockOwner)))) →
    ¬world.state.tables.pczt.Owns owner

section Pczt

variable {store : WalletStore WalletTables} {request : WalletDbRequest}

theorem not_owns_empty (owner : LockOwner) : ¬WalletTables.empty.pczt.Owns owner := by
  rintro (⟨input, held⟩ | ⟨row, stored, -⟩)
  · cases held
  · cases stored

theorem leases_settle (fresh : options.fresh = .empty)
    (leases : store.tables.pczt.Leases owner items) (respects : request.Respects owner items)
    (kept : Bool) :
    ((walletDbService codec options).settle request kept store).tables.pczt.Leases owner items := by
  obtain same | gone | ⟨-, done⟩ := settle_tables fresh request kept store
  · exact same ▸ leases
  · exact gone ▸ .of_not_owns (not_owns_empty owner)
  · exact done ▸ WalletDbRequest.leases_effect leases respects kept

theorem not_owns_settle (fresh : options.fresh = .empty) (free : ¬store.tables.pczt.Owns owner)
    (others : request.creates ≠ some owner) (kept : Bool) :
    ¬((walletDbService codec options).settle request kept store).tables.pczt.Owns owner := by
  obtain same | gone | ⟨-, done⟩ := settle_tables fresh request kept store
  · exact same ▸ free
  · exact gone ▸ not_owns_empty owner
  · exact done ▸ WalletDbRequest.not_owns_effect free others kept

/-- A creation whose answer was abandoned, or failed, leaves its owner with nothing. -/
theorem not_owns_settle_abandoned (fresh : options.fresh = .empty)
    (free : ¬store.tables.pczt.Owns owner)
    (abandoned : kept = true → ∀ pczt lockOwner,
      ((walletDbService codec options).run (.createPczt fault .released none owner inputs txId)
        store).1 ≠ some (.ok (.pczt pczt lockOwner))) :
    ¬((walletDbService codec options).settle (.createPczt fault .released none owner inputs txId)
      kept store).tables.pczt.Owns owner := by
  obtain same | gone | ⟨⟨db, opened, stored⟩, done⟩ :=
    settle_tables fresh (.createPczt fault .released none owner inputs txId) kept store
  · exact same ▸ free
  · exact gone ▸ not_owns_empty owner
  · rw [done]
    refine WalletDbRequest.not_owns_of_abandoned free fun isKept => ?_
    have unanswered := abandoned isKept
    rw [run_createPczt opened stored] at unanswered
    cases answered : (createPczt codec fault .released owner inputs txId store.tables.pczt).1 with
    | error error => exact ⟨error, rfl⟩
    | ok created => exact absurd (by rw [answered]; rfl) (unanswered created.1 created.2)

theorem run_createPczt_ok
    (answered :
      ((walletDbService codec options).run (.createPczt fault unlock cleanup owner inputs txId)
      store).1 = some (.ok (.pczt pczt lockOwner))) :
    lockOwner = owner ∧ pendingPcztLockOwner pczt = .ok (some owner) ∧ pczt.inputs = inputs := by
  obtain unopened | ⟨db, opened, stored, -⟩ :=
    withDb_cases (WalletDbRequest.onPczt (createPczt codec fault unlock owner inputs txId)) store
  · simp [walletDbService,WalletDbRequest.run,unopened,Except.map] at answered
  · rw [run_createPczt opened stored] at answered
    obtain ⟨error, result⟩ | ⟨error, -, result⟩ | ⟨error, released, reason, -, result⟩ |
      ⟨pending, -, result⟩ :=
        createPczt_cases codec fault unlock owner inputs txId store.tables.pczt <;>
      rw [result] at answered <;> cases answered
    exact ⟨rfl, pendingPcztLockOwner_asBytes owner inputs txId, rfl⟩

/-- Requests that create nothing for the owner leave it with nothing. -/
theorem not_owns_replay {history : List (Actor.Entry WalletDbRequest)}
    (fresh : options.fresh = .empty) (free : ¬store.tables.pczt.Owns owner)
    (others : ∀ entry ∈ history, entry.request.creates ≠ some owner) :
    ¬(Actor.replay (walletDbService codec options) store history).tables.pczt.Owns owner :=
  Actor.replay_invariant (fun store : WalletStore WalletTables => ¬store.tables.pczt.Owns owner)
    (fun entry member _ free => not_owns_settle fresh free (others entry member) entry.kept) free

end Pczt

section Creation

variable {world : WalletDbWorld} {ticket : Nat} {history : List (Actor.Entry WalletDbRequest)}

/-- No other request of the history creates the owner of a creation. -/
theorem ticket_of_creates
    (record : Actor.Recorded (walletDbService codec options) ⟨.notOpened, files⟩ labels world
      history)
    (owners : WalletDbOwners files world)
    (called : world.calls[ticket]? =
      some ⟨.createPczt fault unlock cleanup owner inputs txId, stage⟩)
    (member : entry ∈ history) (creates : entry.request.creates = some owner) :
    entry.ticket = ticket := by
  obtain ⟨stage, known, -⟩ := record.served entry member
  exact owners.distinct _ _ _ _ owner known called creates rfl

theorem request_of_ticket
    (record : Actor.Recorded (walletDbService codec options) ⟨.notOpened, files⟩ labels world
      history)
    (called : world.calls[ticket]? = some ⟨request, stage⟩) (member : entry ∈ history)
    (own : entry.ticket = ticket) : entry.request = request := by
  subst own
  obtain ⟨stage, known, -⟩ := record.served entry member
  rw [called] at known
  exact (congrArg Actor.Call.request (Option.some.inj known)).symm

/-- The requests around the creation do not create its owner. -/
theorem apart_of_served
    (record : Actor.Recorded (walletDbService codec options) ⟨.notOpened, files⟩ labels world
      (before ++ entry :: after))
    (owners : WalletDbOwners files world)
    (called : world.calls[entry.ticket]? =
      some ⟨.createPczt fault unlock cleanup owner inputs txId, stage⟩) :
    ∀ other ∈ before ++ after, other.request.creates ≠ some owner := by
  intro other inside creates
  have member : other ∈ before ++ entry :: after := by
    rcases List.mem_append.mp inside with earlier | later
    · exact List.mem_append_left _ earlier
    · exact List.mem_append_right _ (List.mem_cons_of_mem _ later)
  have ticket := ticket_of_creates record owners called member creates
  have distinct := record.distinct.of_append_left
  rw [List.map_append,List.map_cons] at distinct
  refine (List.nodup_cons.mp (List.nodup_middle.mp distinct)).1 ?_
  rw [← List.map_append,← ticket]
  exact List.mem_map_of_mem inside

/-- A creation whose caller got no PCZT holds nothing once the actor is past it. -/
theorem not_owns_of_unanswered (fresh : options.fresh = .empty)
    (record : Actor.Recorded (walletDbService codec options) ⟨.notOpened, files⟩ labels world
      history)
    (owners : WalletDbOwners files world)
    (called : world.calls[ticket]? =
      some ⟨.createPczt fault .released none owner inputs txId, stage⟩)
    (idle : world.unconfirmed = none)
    (unanswered : ∀ pczt lockOwner, stage ≠ .returned (some (.ok (.pczt pczt lockOwner)))) :
    ¬world.state.tables.pczt.Owns owner := by
  have unused := owners.unused _ (List.mem_of_getElem? called) owner rfl
  rw [record.state]
  by_cases served : ∃ entry ∈ history, entry.ticket = ticket
  · obtain ⟨⟨number, request, kept⟩, member, rfl⟩ := served
    obtain rfl := request_of_ticket record called member rfl
    obtain ⟨before, after, rfl⟩ := List.append_of_mem member
    have apart := apart_of_served record owners called
    have free : ¬(Actor.replay (walletDbService codec options) ⟨.notOpened, files⟩
        before).tables.pczt.Owns owner :=
      not_owns_replay fresh unused fun other inside => apart other (List.mem_append_left _ inside)
    rw [Actor.replay_append_cons]
    refine not_owns_replay fresh ?_ fun other inside => apart other (List.mem_append_right _ inside)
    refine not_owns_settle_abandoned fresh free fun isKept pczt lockOwner answered => ?_
    subst isKept
    -- An answer that was kept is one the actor waits for, or one the caller has.
    obtain ⟨undo, waiting⟩ | returned := record.confirmed before _ _ after rfl _ _ answered rfl
    · rw [idle] at waiting
      cases waiting
    · rw [called] at returned
      cases returned
      exact unanswered pczt lockOwner rfl
  · push Not at served
    exact not_owns_replay fresh unused fun entry member creates =>
      served entry member (ticket_of_creates record owners called member creates)

end Creation

def sampleWalletDbOptions : WalletDbOptions WalletTables := walletDbOptions "wallet.db" fun _ => ⟨0⟩

def noFiles : WalletDbFiles WalletTables := ⟨none, false, false⟩

/-- A caller opens the database and another gives up on a creation that waits in the queue. -/
def abandonedCreation : List (Actor.Label WalletDbRequest) :=
  [.call (.openOrCreate none), .send 0, .serve 0, .take 0,
    .call (.createPczt none .released none ⟨1⟩ [sampleOutput 0] 7), .send 1, .drop 1, .serve 1]

/-- The actor creates the PCZT all the same, and undoes it. -/
theorem abandonedCreation_runs : ∃ world : WalletDbWorld,
    WalletDbPath Wire.Hex.reference sampleWalletDbOptions
      (.initial ⟨.notOpened, noFiles⟩) abandonedCreation world ∧
      world.unconfirmed = none ∧ world.calls =
        [⟨.openOrCreate none, .returned (some (.ok .done))⟩,
          ⟨.createPczt none .released none ⟨1⟩ [sampleOutput 0] 7, .dropped⟩] :=
  ⟨_, .cons (.call _) <| .cons (.send rfl (by decide)) <| .cons (.serve rfl rfl rfl) <|
    .cons (.take rfl) <| .cons (.call _) <| .cons (.send rfl (by decide)) <|
    .cons (.drop rfl id) <| .cons (.serveDropped rfl rfl rfl) .nil, rfl, rfl⟩

theorem abandonedCreation_serial : ∃ world history,
    WalletDbSerial Wire.Hex.reference sampleWalletDbOptions noFiles abandonedCreation world
      history := by
  obtain ⟨world, path, -⟩ := abandonedCreation_runs
  obtain ⟨history, serial⟩ := walletDb_serial rfl path
  exact ⟨world, history, serial⟩

/-- However a run of the actor goes on without new calls and without callers who give up, it takes
boundedly many steps, can go on until everybody has an answer, and loses no caller. -/
theorem walletDb_catches_up {world later : WalletDbWorld}
    (path : WalletDbPath codec options (.initial ⟨.notOpened, files⟩) labels world)
    (onward : WalletDbPath codec options world labels' later)
    (inner : ∀ label ∈ labels', label.Internal) :
    labels'.length ≤ world.weight ∧
      (later.AtRest ∨ ∃ label next, label.Internal ∧
        Actor.Step (walletDbService codec options) walletDbQueueCapacity later label next) ∧
      ∀ (ticket : Nat) request stage, world.calls[ticket]? = some ⟨request, stage⟩ →
        stage ≠ .dropped → ∃ stage, later.calls[ticket]? = some ⟨request, stage⟩ ∧
          stage ≠ .dropped ∧ (later.AtRest → ∃ outcome, stage = .returned outcome) := by
  obtain ⟨history, record⟩ := Actor.exists_recorded (path.append onward)
  refine ⟨Actor.length_le_weight onward inner, ?_, fun ticket request stage called staying => ?_⟩
  · by_cases resting : later.AtRest
    · exact .inl resting
    · exact .inr (Actor.progress record (by decide) resting)
  · obtain ⟨stage, called, staying⟩ := Actor.waits onward inner called staying
    refine ⟨stage, called, staying, fun resting => ?_⟩
    have finished := resting.1 _ (List.mem_of_getElem? called)
    cases stage with
    | returned outcome => exact ⟨outcome, rfl⟩
    | dropped => exact absurd rfl staying
    | sending | queued | replied => cases finished

/-- A caller that waits for the database to open gets its answer. -/
theorem opening_answered : ∃ later : WalletDbWorld, later.AtRest ∧
    ∃ outcome, later.calls[0]? = some ⟨.openOrCreate none, .returned outcome⟩ := by
  have path : ∃ world : WalletDbWorld, WalletDbPath Wire.Hex.reference sampleWalletDbOptions
      (.initial ⟨.notOpened, noFiles⟩) [.call (.openOrCreate none), .send 0] world ∧
      world.calls[0]? = some ⟨.openOrCreate none, .queued⟩ ∧
      ∃ later, WalletDbPath Wire.Hex.reference sampleWalletDbOptions world
        [.serve 0, .take 0] later ∧ later.AtRest := by
    refine ⟨_, .cons (.call _) (.cons (.send rfl (by decide)) .nil), rfl, _,
      .cons (.serve rfl rfl rfl) (.cons (.take rfl) .nil), ?_, rfl, rfl⟩
    rintro call member
    cases List.mem_singleton.mp member
    trivial
  obtain ⟨world, path, called, later, onward, resting⟩ := path
  obtain ⟨-, -, waits⟩ := walletDb_catches_up path onward (by simp [Actor.Label.Internal])
  obtain ⟨stage, called, -, answered⟩ := waits 0 _ _ called nofun
  obtain ⟨outcome, rfl⟩ := answered resting
  exact ⟨later, resting, outcome, called⟩

end Zally
