import Zally.Wallet.SpendIdempotency

/-! Concurrent calls with one idempotency key: the ledger is read before the payment is
built and written after it was submitted. -/
namespace Zally.Spend

open Async Async.Program

abbrev World := List (Nat × SpendEvent)

def Request.accountId : Request → AccountId
  | .sendPayment plan => plan.accountId
  | .shieldTransparentFunds plan => plan.accountId

/-- Any number of calls for one account and key, each cut anywhere, interleaved in any
order over a ledger that is not rebuilt. -/
structure SharesKey (key : IdempotencyKey) (accountId : AccountId) (world : World) : Prop where
  ledger : ∃ before after, LedgerPath before world after
  calls : ∀ thread, ∃ wallet request outcome, Request.idempotency request = key ∧
    request.accountId = accountId ∧ Runs (request.program wallet) (localTrace thread world) outcome

def SpendCommand.submits : SpendCommand → Bool
  | .broadcastTransaction _ => true
  | _ => false

def Submits (thread : Nat) (world : World) : Prop :=
  ∃ event ∈ localTrace thread world, SpendCommand.submits event.command = true

def AtMostOneSubmits (world : World) : Prop :=
  ∀ first second, Submits first world → Submits second world → first = second

def Misses (key : IdempotencyKey) (thread : Nat) (world : World) : Prop :=
  ⟨.findIdempotentSubmission key, .ok none⟩ ∈ localTrace thread world

def Records (key : IdempotencyKey) (thread : Nat) (world : World) : Prop :=
  ∃ event ∈ localTrace thread world, RecordsKey key event

def SpendCommand.looksUp (key : IdempotencyKey) : SpendCommand → Prop
  | .findIdempotentSubmission looked => looked = key
  | _ => False

/-- A lookup step is exclusive when every other call that missed before it has recorded
the key, or ended without handing anything to the submitter. -/
def ExclusiveLookup (key : IdempotencyKey) (earlier : World) (thread : Nat) (later : World) : Prop :=
  ∀ other, other ≠ thread → Misses key other earlier →
    Records key other earlier ∨ (¬Submits other earlier ∧ localTrace other later = [])

/-- Every lookup step after `earlier` is exclusive. -/
def ExclusiveLookupsFrom (key : IdempotencyKey) (earlier : World) : World → Prop
  | [] => True
  | (thread, event) :: later =>
    (SpendCommand.looksUp key event.command → ExclusiveLookup key earlier thread later) ∧
      ExclusiveLookupsFrom key (earlier ++ [(thread, event)]) later

/-- Every lookup step of a run is exclusive. -/
def ExclusiveLookups (key : IdempotencyKey) (world : World) : Prop :=
  ExclusiveLookupsFrom key [] world

theorem ExclusiveLookupsFrom.at_split
    (exclusive : ExclusiveLookupsFrom key start (earlier ++ (thread, event) :: later))
    (looks : SpendCommand.looksUp key event.command) :
    ExclusiveLookup key (start ++ earlier) thread later := by
  induction earlier generalizing start with
  | nil => simpa using exclusive.1 looks
  | cons step earlier ih => simpa using ih exclusive.2

theorem ExclusiveLookups.at_split
    (exclusive : ExclusiveLookups key (earlier ++ (thread, event) :: later))
    (looks : SpendCommand.looksUp key event.command) :
    ExclusiveLookup key earlier thread later := by
  simpa using ExclusiveLookupsFrom.at_split exclusive looks

/-- Only a call that missed its lookup submits. -/
theorem misses_of_submits (shares : SharesKey key accountId world)
    (submits : Submits thread world) : Misses key thread world := by
  obtain ⟨wallet, request, outcome, rfl, -, run⟩ := shares.calls thread
  obtain ⟨event, member, broadcast⟩ := submits
  rcases request.runs_program run with empty | ⟨answer, rest, trace, -, tips⟩
  · simp [empty] at member
  · rw [trace] at member
    have missed : answer = .ok none := by
      by_contra answered
      rcases List.mem_cons.mp member with rfl | member
      · simp [SpendCommand.submits] at broadcast
      · simp [tips answered event member,SpendCommand.submits] at broadcast
    subst missed
    simp [Misses,trace]

/-- A call that missed before an exclusive lookup that also misses submits nothing. -/
theorem not_submits_of_exclusive_miss
    (path : LedgerPath before (earlier ++ (thread, ⟨.findIdempotentSubmission key, .ok none⟩) :: later)
      after)
    (exclusive : ExclusiveLookup key earlier thread later) (different : other ≠ thread)
    (missed : Misses key other earlier) :
    ¬Submits other (earlier ++ (thread, ⟨.findIdempotentSubmission key, .ok none⟩) :: later) := by
  rcases exclusive other different missed with ⟨event, member, records⟩ | ⟨silent, ended⟩
  · rw [LedgerPath,List.map_append,Path.append_iff] at path
    obtain ⟨middle, first, second⟩ := path
    obtain ⟨txId, held⟩ := LedgerPath.holds_of_recordsKey first
      (List.mem_map.mpr ⟨_, mem_localTrace.mp member, rfl⟩) records
    cases second with
    | cons moves _ =>
      have absent : none = middle key := moves.1
      simp [held] at absent
  · rintro ⟨event, member, broadcast⟩
    rw [localTrace_append,localTrace_cons_other (Ne.symm different),ended,List.append_nil] at member
    exact silent ⟨event, member, broadcast⟩

/-- When every lookup step is exclusive, the submitter is handed the transactions of one
payment at most. -/
theorem at_most_one_submits_of_exclusive_lookups (key : IdempotencyKey) (accountId : AccountId)
    (world : World) (shares : SharesKey key accountId world)
    (exclusive : ExclusiveLookups key world) : AtMostOneSubmits world := by
  intro first second firstSubmits secondSubmits
  by_contra different
  obtain ⟨before, after, path⟩ := shares.ledger
  have firstMissed := mem_localTrace.mp (misses_of_submits shares firstSubmits)
  have secondMissed := mem_localTrace.mp (misses_of_submits shares secondSubmits)
  obtain ⟨earlier, later, rfl⟩ := List.append_of_mem secondMissed
  rcases List.mem_append.mp firstMissed with inEarlier | inRest
  · exact not_submits_of_exclusive_miss path (exclusive.at_split rfl)
      different (mem_localTrace.mpr inEarlier) firstSubmits
  rcases List.mem_cons.mp inRest with same | inLater
  · exact different (congrArg Prod.fst same)
  -- The first call looked up last: the roles are swapped.
  obtain ⟨between, rest, rfl⟩ := List.append_of_mem inLater
  have split : earlier ++ (second, ⟨.findIdempotentSubmission key, .ok none⟩) ::
      (between ++ (first, ⟨.findIdempotentSubmission key, .ok none⟩) :: rest) =
      (earlier ++ (second, ⟨.findIdempotentSubmission key, .ok none⟩) :: between) ++
        (first, ⟨.findIdempotentSubmission key, .ok none⟩) :: rest := by simp
  rw [split] at path secondSubmits exclusive
  exact not_submits_of_exclusive_miss path (exclusive.at_split rfl)
    (Ne.symm different) (mem_localTrace.mpr (by simp)) secondSubmits

/-- The second of two racing calls: its payment is submitted, its ledger write is refused. -/
def conflictTrace (byte : UInt8) : List SpendEvent :=
  sampleBuild [samplePrepared byte] ++
  (sampleBroadcast byte (.accepted (.ofNat 256 byte.toNat)) ++ [⟨.recordSuccess, ()⟩,
  ⟨.recordIdempotentSubmission sampleKey (.ofNat 256 byte.toNat), .error .idempotencyKeyConflict⟩])

/-- Both calls look the key up before either submits. -/
def raceWorld : World :=
  (0, ⟨.findIdempotentSubmission sampleKey, .ok none⟩) ::
  (1, ⟨.findIdempotentSubmission sampleKey, .ok none⟩) ::
  ((completeTrace 3).tail.map (Prod.mk 0) ++ (conflictTrace 4).tail.map (Prod.mk 1))

theorem conflictTrace_runs : Runs (sampleRequest.program sampleWallet) (conflictTrace 4)
    (some (.error (.storage .idempotencyKeyConflict))) := by
  repeat' apply Runs.await
  exact Runs.done

theorem raceWorld_sharesKey : SharesKey sampleKey ⟨0⟩ raceWorld where
  ledger := by
    refine ⟨.empty, Function.update IdempotencyLedger.empty sampleKey (some 3), ?_⟩
    refine .cons ⟨rfl, rfl⟩ (.cons ⟨rfl, rfl⟩ ?_)
    iterate 8 refine .cons rfl ?_
    refine .cons rfl ?_
    iterate 8 refine .cons rfl ?_
    exact .cons ⟨rfl, rfl⟩ .nil
  calls
    | 0 => ⟨sampleWallet, sampleRequest, _, rfl, rfl, completeTrace_runs⟩
    | 1 => ⟨sampleWallet, sampleRequest, _, rfl, rfl, conflictTrace_runs⟩
    | thread + 2 => ⟨sampleWallet, sampleRequest, none, rfl, rfl, .cut⟩

/-- Two calls that race on one key both submit a payment. -/
theorem racing_calls_both_submit :
    ¬∀ (key : IdempotencyKey) (accountId : AccountId) (world : World),
      SharesKey key accountId world → AtMostOneSubmits world := by
  intro always
  have same := always _ _ _ raceWorld_sharesKey 0 1
    ⟨⟨.broadcastTransaction [3], .accepted 3⟩, mem_localTrace.mpr (by
      simp [raceWorld,completeTrace,sampleBuild,sampleBroadcast]), rfl⟩
    ⟨⟨.broadcastTransaction [4], .accepted 4⟩, mem_localTrace.mpr (by
      simp [raceWorld,conflictTrace,sampleBuild,sampleBroadcast]), rfl⟩
  exact absurd same (by decide)

/-- The second call starts when the first has recorded the key. -/
def sequentialWorld : World :=
  (completeTrace 3).map (Prod.mk 0) ++
  [(1, ⟨.findIdempotentSubmission sampleKey, .ok (some 3)⟩), (1, ⟨.findVisibleTip, .ok (some 101)⟩)]

theorem sequentialWorld_exclusive : ExclusiveLookups sampleKey sequentialWorld := by
  refine ⟨fun _ other _ missed => absurd missed List.not_mem_nil, ?_⟩
  iterate 9 refine ⟨False.elim, ?_⟩
  refine ⟨fun _ other _ missed => .inl ?_, False.elim, trivial⟩
  have owner := mem_localTrace.mp missed
  simp only [List.nil_append,List.cons_append,List.mem_cons,Prod.mk.injEq,List.not_mem_nil,
    or_false] at owner
  obtain rfl : other = 0 := by
    by_contra different
    simp [different] at owner
  exact ⟨⟨.recordIdempotentSubmission sampleKey 3, .ok ()⟩, mem_localTrace.mpr (by simp),
    rfl, .inl rfl⟩

theorem sequential_calls_submit_once : AtMostOneSubmits sequentialWorld := by
  refine at_most_one_submits_of_exclusive_lookups sampleKey ⟨0⟩ _ ⟨?_, ?_⟩
    sequentialWorld_exclusive
  · refine ⟨.empty, Function.update IdempotencyLedger.empty sampleKey (some 3), ?_⟩
    refine .cons ⟨rfl, rfl⟩ ?_
    iterate 8 refine .cons rfl ?_
    exact .cons rfl (.cons ⟨rfl, rfl⟩ (.cons rfl .nil))
  · intro thread
    match thread with
    | 0 => exact ⟨sampleWallet, sampleRequest, _, rfl, rfl, completeTrace_runs⟩
    | 1 => exact ⟨sampleWallet, sampleRequest, some (.ok ⟨⟨3, ⟨0⟩, 0⟩, ⟨3, 101⟩⟩), rfl, rfl,
        .await (.await .done)⟩
    | thread + 2 => exact ⟨sampleWallet, sampleRequest, none, rfl, rfl, .cut⟩

end Zally.Spend
