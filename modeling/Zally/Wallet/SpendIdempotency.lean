import Zally.Async.Machine
import Zally.Wallet.Spend

/-! One payment for each idempotency key: what a later call with the key does after a call
that was cut or failed anywhere. -/
namespace Zally.Spend

open Async Async.Program

/-- The ledger before and after one answered call. A statement that failed leaves the
ledger as it was. -/
def LedgerStep (before : IdempotencyLedger) : SpendEvent → IdempotencyLedger → Prop
  | ⟨.findIdempotentSubmission key, .ok found⟩, after =>
    found = before.findIdempotentSubmission key ∧ after = before
  | ⟨.recordIdempotentSubmission key txId, .ok ()⟩, after =>
    before.recordIdempotentSubmission key txId = .ok after
  | ⟨.recordIdempotentSubmission key txId, .error .idempotencyKeyConflict⟩, after =>
    before.recordIdempotentSubmission key txId = .error .idempotencyKeyConflict ∧ after = before
  | _, after => after = before

/-- Calls of any number of threads over one ledger that is never rebuilt. -/
abbrev LedgerPath (before : IdempotencyLedger) (world : List (Nat × SpendEvent))
    (after : IdempotencyLedger) : Prop := Path LedgerStep before (world.map Prod.snd) after

/-- The node took the broadcast transaction. -/
def Takes : SpendEvent → Prop
  | ⟨.broadcastTransaction _, reply⟩ => reply.taken = true
  | _ => False

/-- The ledger holds the key: the write was carried out, or met a row of another call. -/
def RecordsKey (key : IdempotencyKey) : SpendEvent → Prop
  | ⟨.recordIdempotentSubmission recorded _, answer⟩ =>
    recorded = key ∧ (answer = .ok () ∨ answer = .error .idempotencyKeyConflict)
  | _ => False

theorem LedgerStep.extends (moves : LedgerStep before event after) : before.Extends after := by
  unfold LedgerStep at moves
  split at moves
  · obtain ⟨-, rfl⟩ := moves
    exact .refl _
  · exact IdempotencyLedger.extends_of_record moves
  · obtain ⟨-, rfl⟩ := moves
    exact .refl _
  · subst moves
    exact .refl _

/-- No history of calls takes a row out of the ledger. -/
theorem extends_of_path (path : Path LedgerStep before events after) : before.Extends after :=
  path.related IdempotencyLedger.Extends .refl .trans fun _ _ _ => LedgerStep.extends

theorem LedgerStep.holds_of_recordsKey (moves : LedgerStep before event after)
    (records : RecordsKey key event) : ∃ txId, after key = some txId := by
  unfold RecordsKey at records
  split at records
  · obtain ⟨rfl, rfl | rfl⟩ := records
    · exact ⟨_, IdempotencyLedger.found_of_record moves⟩
    · obtain ⟨conflict, rfl⟩ := moves
      obtain ⟨prior, found, -⟩ := IdempotencyLedger.found_of_conflict conflict
      exact ⟨prior, found⟩
  · exact records.elim

/-- A key some call recorded is in the ledger from then on. -/
theorem LedgerPath.holds_of_recordsKey (path : LedgerPath before world after)
    (member : event ∈ world.map Prod.snd) (records : RecordsKey key event) :
    ∃ txId, after key = some txId := by
  obtain ⟨earlier, later, split⟩ := List.append_of_mem member
  rw [LedgerPath,split,Path.append_iff] at path
  obtain ⟨middle, -, path⟩ := path
  cases path with
  | cons moves path =>
    obtain ⟨txId, found⟩ := moves.holds_of_recordsKey records
    exact ⟨txId, extends_of_path path key txId found⟩

theorem spends_findVisibleTip {command : SpendCommand} (isTip : command = .findVisibleTip) :
    command.spends = false := by
  subst isTip
  rfl

/-- A call that finds its key recorded neither builds nor submits. -/
theorem spends_nothing_of_held (held : before key = some txId)
    (path : LedgerPath before world after)
    (run : Runs (Request.program wallet request) (localTrace thread world) outcome)
    (sameKey : request.idempotency = key) :
    ∀ event ∈ localTrace thread world, event.command.spends = false := by
  rcases request.runs_program run with empty | ⟨answer, rest, trace, -, tips⟩
  · simp [empty]
  rw [sameKey] at trace
  rw [trace]
  have looked : (thread, ⟨.findIdempotentSubmission key, answer⟩) ∈ world :=
    mem_localTrace.mp (by simp [trace])
  obtain ⟨earlier, later, rfl⟩ := List.append_of_mem looked
  rw [LedgerPath,List.map_append,Path.append_iff] at path
  obtain ⟨middle, first, second⟩ := path
  have found : middle key = some txId := extends_of_path first key txId held
  have answered : answer ≠ .ok none := by
    rintro rfl
    cases second with
    | cons moves _ =>
      have absent : none = middle key := moves.1
      simp [found] at absent
  intro event member
  rcases List.mem_cons.mp member with rfl | member
  · rfl
  · exact spends_findVisibleTip (tips answered event member)

/-- Whatever any later call with the key does, it neither builds nor submits: the later
calls start from a ledger that the first call's trace and any other activity led to. -/
def LaterCallsSpendNothing (key : IdempotencyKey) (trace : List SpendEvent) : Prop :=
  ∀ (before middle after : IdempotencyLedger) (world later : List (Nat × SpendEvent))
    (first second : Nat) (wallet : SpendWallet) (request : Request)
    (outcome : Option (Except WalletError SendOutcome)),
    LedgerPath before world middle → localTrace first world = trace →
    LedgerPath middle later after → request.idempotency = key →
    Runs (request.program wallet) (localTrace second later) outcome →
    ∀ event ∈ localTrace second later, event.command.spends = false

theorem laterCallsSpendNothing_of_recordsKey (member : event ∈ trace)
    (records : RecordsKey key event) : LaterCallsSpendNothing key trace := by
  rintro before middle after world later first second wallet request outcome path rfl rest
    sameKey run
  obtain ⟨txId, held⟩ := path.holds_of_recordsKey
    (List.mem_map.mpr ⟨_, mem_localTrace.mp member, rfl⟩) records
  exact spends_nothing_of_held held rest run sameKey

/-- A call that missed and recorded nothing leaves an empty ledger empty. -/
theorem ledgerStep_empty (past : PastLookup key event.command)
    (unrecorded : ¬RecordsKey key event) :
    LedgerStep .empty event .empty := by
  rcases event with ⟨command, answer⟩
  cases command with
  | findIdempotentSubmission other => exact past.elim
  | recordIdempotentSubmission other txId =>
    cases answer with
    | ok value => exact absurd ⟨past, .inl rfl⟩ unrecorded
    | error error =>
      cases error with
      | idempotencyKeyConflict => exact absurd ⟨past, .inr rfl⟩ unrecorded
      | _ => rfl
  | _ => rfl

theorem takes_spends (takes : Takes event) : event.command.spends = true := by
  rcases event with ⟨command, answer⟩
  cases command <;> first | rfl | exact takes.elim

/-- A call cut or failed anywhere keeps later calls with its key from paying again exactly
when the node took none of its transactions or its ledger write was carried out. -/
theorem idempotent_send_iff (wallet : SpendWallet) (request : Request)
    (trace : List SpendEvent) (outcome : Option (Except WalletError SendOutcome))
    (run : Runs (request.program wallet) trace outcome) :
    ((∃ event ∈ trace, Takes event) → LaterCallsSpendNothing request.idempotency trace) ↔
      ((∃ event ∈ trace, Takes event) →
        ∃ event ∈ trace, RecordsKey request.idempotency event) := by
  constructor
  · rintro blocked ⟨taken, member, takes⟩
    by_contra unrecorded
    -- The same environment answers the call again: its own trace is a later call's run.
    have path : LedgerPath .empty (trace.map (Prod.mk 0)) .empty := by
      rw [LedgerPath,map_snd_map]
      refine Path.stutter fun event member => ?_
      rcases request.runs_program run with rfl | ⟨answer, rest, rfl, past, tips⟩
      · simp at member
      rcases List.mem_cons.mp member with rfl | member'
      · have missed : answer = .ok none := by
          by_contra answered
          rcases List.mem_cons.mp ‹taken ∈ _› with rfl | inRest
          · exact takes
          · have spends := takes_spends takes
            simp [spends_findVisibleTip (tips answered taken inRest)] at spends
        subst missed
        exact ⟨rfl, rfl⟩
      · exact ledgerStep_empty (past event member') fun records => unrecorded ⟨event, member, records⟩
    have quiet := blocked ⟨taken, member, takes⟩ .empty .empty .empty _ (trace.map (Prod.mk 0))
      0 0 wallet request outcome path (localTrace_map 0 trace) path rfl (by simpa using run)
    have spends := takes_spends takes
    rw [localTrace_map] at quiet
    simp [quiet taken member] at spends
  · rintro recorded taken
    obtain ⟨event, member, records⟩ := recorded taken
    exact laterCallsSpendNothing_of_recordsKey member records

/-! A wallet and an environment in which a plan of two transactions fails half way. -/

def sampleKey : IdempotencyKey := ⟨"withdrawal-1"⟩

def sampleRequest : Request := .sendPayment {
  accountId := ⟨0⟩
  idempotency := sampleKey
  recipient := .unifiedAddress "u1" .mainnet
  amountZat := ⟨5⟩
  memo := none
  targetExpiryHeight := none }

def samplePrepared (byte : UInt8) : PreparedTransaction where
  txId := .ofNat 256 byte.toNat
  rawBytes := [byte]
  transparentInputs := []
  txExpiryHeight := 140

/-- The lookup misses and the storage builds `prepared`. -/
def sampleBuild (prepared : List PreparedTransaction) : List SpendEvent := [
  ⟨.findIdempotentSubmission sampleKey, .ok none⟩,
  ⟨.unsealSeed, .ok []⟩,
  ⟨.preparePayment ⟨⟨0⟩, "u1", ⟨5⟩, none, none⟩ [], .ok prepared⟩,
  ⟨.findVisibleTip, .ok (some 100)⟩,
  ⟨.currentUnixMs, 0⟩]

/-- The first transaction of two is accepted, the second fails. -/
def partialTrace : List SpendEvent :=
  sampleBuild [samplePrepared 1, samplePrepared 2] ++
  (sampleBroadcast 1 (.accepted 1) ++ [⟨.recordSuccess, ()⟩] ++
  (sampleBroadcast 2 (.failed ⟨.clientError⟩ false) ++
  [⟨.clearPendingBroadcastInputsForMined [2], .ok 0⟩]))

/-- A plan of one transaction is accepted and recorded. -/
def completeTrace (byte : UInt8) : List SpendEvent :=
  sampleBuild [samplePrepared byte] ++
  (sampleBroadcast byte (.accepted (.ofNat 256 byte.toNat)) ++ [⟨.recordSuccess, ()⟩,
  ⟨.recordIdempotentSubmission sampleKey (.ofNat 256 byte.toNat), .ok ()⟩])

theorem partialTrace_runs : Runs (sampleRequest.program sampleWallet) partialTrace
    (some (.error (.submitter (.indexer ⟨.clientError⟩)))) := by
  repeat' apply Runs.await
  exact Runs.done

theorem completeTrace_runs : Runs (sampleRequest.program sampleWallet) (completeTrace 3)
    (some (.ok ⟨⟨3, ⟨0⟩, 140⟩, ⟨3, 100⟩⟩)) := by
  repeat' apply Runs.await
  exact Runs.done

theorem partialTrace_ledger : LedgerPath .empty (partialTrace.map (Prod.mk 0)) .empty := by
  rw [LedgerPath,map_snd_map]
  refine .cons ⟨rfl, rfl⟩ ?_
  iterate 12 refine .cons rfl ?_
  exact .nil

theorem completeTrace_ledger : LedgerPath .empty ((completeTrace 3).map (Prod.mk 1))
    (Function.update IdempotencyLedger.empty sampleKey (some 3)) := by
  rw [LedgerPath,map_snd_map]
  refine .cons ⟨rfl, rfl⟩ ?_
  iterate 8 refine .cons rfl ?_
  exact .cons rfl .nil

/-- The node took the first transaction of a plan, the call failed on the second, and the
later call with the key builds and submits a new payment. -/
theorem partial_plan_pays_again :
    ¬∀ (wallet : SpendWallet) (request : Request) (trace : List SpendEvent)
      (outcome : Option (Except WalletError SendOutcome)),
      Runs (request.program wallet) trace outcome → (∃ event ∈ trace, Takes event) →
      LaterCallsSpendNothing request.idempotency trace := by
  intro always
  have taken : ∃ event ∈ partialTrace, Takes event :=
    ⟨⟨.broadcastTransaction [1], .accepted 1⟩, by simp [partialTrace,sampleBroadcast], rfl⟩
  have quiet := always _ _ _ _ partialTrace_runs taken .empty .empty _ _ _ 0 1 sampleWallet
    sampleRequest _ partialTrace_ledger (localTrace_map 0 _) completeTrace_ledger rfl
    (by rw [localTrace_map]; exact completeTrace_runs)
  rw [localTrace_map] at quiet
  exact absurd (quiet ⟨.broadcastTransaction [3], .accepted 3⟩
    (by simp [completeTrace,sampleBroadcast])) (by decide)

theorem complete_plan_never_pays_again : LaterCallsSpendNothing sampleKey (completeTrace 3) :=
  (idempotent_send_iff sampleWallet sampleRequest _ _ completeTrace_runs).mpr
    (fun _ => ⟨⟨.recordIdempotentSubmission sampleKey 3, .ok ()⟩,
      by simp [completeTrace,sampleBroadcast], rfl, .inl rfl⟩)
    ⟨⟨.broadcastTransaction [3], .accepted 3⟩, by simp [completeTrace,sampleBroadcast], rfl⟩

end Zally.Spend
