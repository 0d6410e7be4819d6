import Zally.Async.Shared
import Zally.Storage.PcztLedger
import Zally.Wallet.Spend

/-! A send that builds its transaction as a PCZT, together with the storage that locks the inputs
and the other callers of that storage: what the send has locked when it returns. -/
namespace Zally.Spend

open Async Async.Program Async.Sharing

/-- The PCZT tables, the failures that abandonments were answered with, and how the locks of failed
creations were given back. -/
structure PcztWorld where
  store : PcztState
  refused : List StorageError
  unlocks : List Unlock

/-- The call builds, changes or ends a PCZT. -/
def OnPczt : SpendCommand → Prop
  | .createPczt _ _ | .proveWithSeed _ _ | .signWithSeed _ _ | .extractAndStorePczt _
  | .abandonPczt _ => True
  | _ => False

def failures : Except StorageError Unit → List StorageError
  | .error error => [error]
  | .ok () => []

def unlocksOf (unlock : Unlock) : Except StorageError α → List Unlock
  | .error _ => [unlock]
  | .ok _ => []

/-- What the storage and the roles do with a call. `read` is the upstream parser; proving and
signing leave the lock owner and the inputs alone. -/
inductive ServesPczt (codec : Wire.Hex.Codec) (read : List UInt8 → Pczt) (owner : LockOwner)
    (inputs : List OutputRef) (txId : TxId) : PcztWorld → SpendEvent → PcztWorld → Prop where
  | create {result : Except StorageError (List UInt8)}
      (ran : runPcztCreation codec .acknowledges fault unlock cleanup owner inputs txId
        world.store =
        (some (result.map read), after)) :
      ServesPczt codec read owner inputs txId world ⟨.createPczt request target, result⟩
        ⟨after, world.refused, world.unlocks ++ unlocksOf unlock result⟩
  | prove {result : Except PcztError PcztBytes} (keeps : ∀ proven, result = .ok proven →
        read proven.bytes = read pczt.bytes ∧ proven.network = pczt.network) :
      ServesPczt codec read owner inputs txId world ⟨.proveWithSeed pczt seed, result⟩ world
  | sign {result : Except PcztError PcztBytes} (keeps : ∀ signed, result = .ok signed →
        read signed.bytes = read pczt.bytes ∧ signed.network = pczt.network) :
      ServesPczt codec read owner inputs txId world ⟨.signWithSeed pczt seed, result⟩ world
  | extract {result : Except StorageError PreparedTransaction}
      (ran : Zally.extractAndStorePczt fault (read bytes) world.store =
        (result.map PreparedTransaction.txId, after)) :
      ServesPczt codec read owner inputs txId world ⟨.extractAndStorePczt bytes, result⟩
        ⟨after, world.refused, world.unlocks⟩
  | abandon (ran : Zally.abandonPczt fault (read bytes) world.store = (result, after)) :
      ServesPczt codec read owner inputs txId world ⟨.abandonPczt bytes, result⟩
        ⟨after, world.refused ++ failures result, world.unlocks⟩
  | other (off : ¬OnPczt event.command) : ServesPczt codec read owner inputs txId world event world

/-- Any other call on the tables: none draws the same owner, and none extracts under its name a
transaction that spares what it locks. -/
def OtherCalls (codec : Wire.Hex.Codec) (owner : LockOwner) (inputs : List OutputRef)
    (world after : PcztWorld) : Prop :=
  ∃ op : PcztOp, op.creates ≠ some owner ∧ op.Respects owner inputs ∧
    after = { world with store := op.run codec world.store }

def pcztSharing (codec : Wire.Hex.Codec) (read : List UInt8 → Pczt) (owner : LockOwner)
    (inputs : List OutputRef)
    (txId : TxId) : Sharing SpendCommand SpendCommand.Answer PcztWorld where
  serves := ServesPczt codec read owner inputs txId
  others := OtherCalls codec owner inputs

/-- The owner has no lock and no row. -/
def Free (owner : LockOwner) (world : PcztWorld) : Prop := ¬world.store.Owns owner

/-- The owner's locks are covered by rows and lie among the inputs. -/
def Held (owner : LockOwner) (inputs : List OutputRef) (world : PcztWorld) : Prop :=
  world.store.Leases owner inputs

/-- The inputs of a failed creation were not all given back, as the error says. -/
def Stranded (codec : Wire.Hex.Codec) (owner : LockOwner) (inputs : List OutputRef)
    (error : WalletError) (world : PcztWorld) : Prop :=
  ∃ released reason, ∃ buildError : StorageError, .failed released reason ∈ world.unlocks ∧
    error = .ofStorage (releaseFailed codec buildError reason) ∧
    ∀ input, world.store.locks input = some owner → input ∈ inputs ∧ input ∉ released

/-- What a failed creation leaves its owner. -/
def Unbuilt (codec : Wire.Hex.Codec) (owner : LockOwner) (inputs : List OutputRef)
    (error : WalletError) (world : PcztWorld) : Prop :=
  Free owner world ∨ Stranded codec owner inputs error world

/-- The owner has nothing left, or the error is the one its abandonment was refused with, or the one
its creation failed to give the inputs back with. -/
def Released (codec : Wire.Hex.Codec) (owner : LockOwner) (inputs : List OutputRef)
    (error : WalletError) (world : PcztWorld) : Prop :=
  Unbuilt codec owner inputs error world ∨
    Held owner inputs world ∧ ∃ refusal ∈ world.refused, error = .ofStorage refusal

/-- The bytes are the PCZT of this owner, for the wallet's network. -/
structure Ours (read : List UInt8 → Pczt) (owner : LockOwner) (inputs : List OutputRef)
    (txId : TxId) (wallet : SpendWallet) (pczt : PcztBytes) : Prop where
  content : read pczt.bytes = ⟨some owner.asBytes, inputs, txId⟩
  network : pczt.network = wallet.network

section Calls

variable {codec : Wire.Hex.Codec} {read : List UInt8 → Pczt} {owner : LockOwner}
  {inputs : List OutputRef} {txId : TxId}

theorem stable_free : (pcztSharing codec read owner inputs txId).Stable (Free owner) := by
  rintro world after ⟨op, others, -, rfl⟩ free
  exact PcztState.not_owns_run free others

theorem stable_held : (pcztSharing codec read owner inputs txId).Stable (Held owner inputs) := by
  rintro world after ⟨op, -, respects, rfl⟩ held
  exact PcztState.Leases.run held respects

theorem stable_refused {error : WalletError} : (pcztSharing codec read owner inputs txId).Stable
    fun world => ∃ refusal ∈ world.refused, error = .ofStorage refusal := by
  rintro world after ⟨op, -, -, rfl⟩ refused
  exact refused

theorem stable_stranded (error : WalletError) :
    (pcztSharing codec read owner inputs txId).Stable (Stranded codec owner inputs error) := by
  rintro world after ⟨op, others, -, rfl⟩ ⟨released, reason, buildError, partly, told, left⟩
  exact ⟨released, reason, buildError, partly, told,
    fun input held => left input (PcztState.held_of_run others held)⟩

theorem stable_unbuilt (error : WalletError) :
    (pcztSharing codec read owner inputs txId).Stable (Unbuilt codec owner inputs error) :=
  stable_or stable_free (stable_stranded error)

theorem stable_released (error : WalletError) :
    (pcztSharing codec read owner inputs txId).Stable (Released codec owner inputs error) :=
  stable_or (stable_unbuilt error) fun world after others both =>
    ⟨stable_held world after others both.1, stable_refused world after others both.2⟩

/-- A release that succeeds frees a covered owner. -/
theorem free_of_abandon {pczt : Pczt} (named : pczt = ⟨some owner.asBytes, inputs, txId⟩)
    (leases : state.Leases owner inputs) (ran : Zally.abandonPczt fault pczt state = (.ok (), after)) :
    ¬after.Owns owner := by
  subst named
  rcases abandonPczt_cases fault ⟨some owner.asBytes, inputs, txId⟩ state with
    ⟨error, failed⟩ | ⟨other, parsed, released⟩
  · rw [ran] at failed
    cases failed
  · rw [pendingPcztLockOwner_asBytes] at parsed
    obtain rfl := Option.some.inj (Except.ok.inj parsed)
    exact not_owns_of_release leases.covered (released.symm.trans ran)

/-- An extraction that succeeds frees its owner: the transaction takes the inputs, and the rows
are deleted. -/
theorem free_of_extract {pczt : Pczt} (named : pczt = ⟨some owner.asBytes, inputs, txId⟩)
    (leases : state.Leases owner inputs)
    (ran : Zally.extractAndStorePczt fault pczt state = (.ok extracted, after)) :
    ¬after.Owns owner := by
  subst named
  have gone : after = ⟨Lease.revoke state.locks inputs, state.pending.delete owner⟩ := by
    unfold Zally.extractAndStorePczt at ran
    rw [pendingPcztLockOwner_asBytes] at ran
    split at ran
    · cases ran
    rename_i found stored
    simp only [Outcome.bind_ok_iff] at stored
    obtain ⟨-, -, named, parsed, -, -, -, -, returned⟩ := stored
    obtain rfl := Except.ok.inj parsed
    obtain rfl := Except.ok.inj returned
    split at ran
    · cases ran
    · dsimp only at ran
      split at ran
      · cases ran
      · exact (Prod.mk.inj ran).2.symm
  rw [gone]
  rintro (⟨input, held⟩ | ⟨row, stored, same⟩)
  · obtain ⟨spared, held⟩ := Lease.revoke_eq_some_iff.mp held
    exact spared (leases input held).2
  · exact (mem_delete.mp stored).2 same

/-- The answer of a creation: the inputs are locked for the PCZT, or nothing is, or what could not
be given back. -/
theorem created_of_serves {result : Except StorageError (List UInt8)} (free : Free owner world)
    (served : ServesPczt codec read owner inputs txId world ⟨.createPczt request target, result⟩
      after) :
    Ends (fun raw world => Held owner inputs world ∧ read raw = ⟨some owner.asBytes, inputs, txId⟩)
      (fun error => Unbuilt codec owner inputs (.ofStorage error)) result after := by
  cases served with
  | other off => exact absurd trivial off
  | create ran =>
    rename_i fault unlock cleanup store
    obtain ⟨created, locked, answered⟩ | ⟨unanswered, withdrawn⟩ :=
      runPcztCreation_cases codec .acknowledges fault unlock cleanup owner inputs txId world.store
    · rw [ran] at answered
      obtain ⟨same, rfl⟩ := Prod.mk.inj answered
      cases result with
      | ok raw => exact ⟨locked.leases (.of_not_owns free) fun _ => List.Subset.refl inputs,
          Except.ok.inj (Option.some.inj same)⟩
      | error error => cases Option.some.inj same
    rw [ran] at unanswered withdrawn
    cases result with
    | ok raw => exact absurd rfl (unanswered _)
    | error error =>
      cases withdrawn with
      | unchanged => exact .inl free
      | rolledBack => exact .inl (PcztState.not_owns_mono free
          (fun _ => PcztState.held_of_rolledBack) fun _ => id)
      | unreleased partly told =>
        rename_i released reason
        obtain ⟨buildError, same⟩ := told _ rfl
        obtain rfl := Except.error.inj same
        refine .inr ⟨released, reason, buildError, ?_, rfl, fun input held => ?_⟩
        · rw [partly]
          exact List.mem_append_right _ List.mem_cons_self
        · obtain ⟨held, kept⟩ := Lease.release_eq_some_iff.mp held
          obtain ⟨member, -⟩ | ⟨-, before⟩ := Lease.acquire_eq_some_iff.mp held
          · exact ⟨member, fun given => kept ⟨given, rfl⟩⟩
          · exact absurd (.inl ⟨input, before⟩) free

end Calls

section Sends

variable {codec : Wire.Hex.Codec} {read : List UInt8 → Pczt} {owner : LockOwner}
  {inputs : List OutputRef} {txId : TxId} {before : PcztWorld → Prop}

theorem ensures_check (stable : (pcztSharing codec read owner inputs txId).Stable before)
    (result : Except WalletError α) : (pcztSharing codec read owner inputs txId).Ensures before
      (check result).run (Ends (fun _ => before) fun _ => before) := by
  cases result <;> exact Ensures.done stable fun _ => id

/-- Calls that are not about PCZTs leave a stable property alone. -/
theorem ensures_off {program : SpendProgram α}
    (stable : (pcztSharing codec read owner inputs txId).Stable before)
    (off : program.Within fun command => ¬OnPczt command) :
    (pcztSharing codec read owner inputs txId).Ensures before program fun _ => before := by
  refine Ensures.of_within off stable fun state event next apart holds served => ?_
  cases served with
  | other => exact holds
  | _ => exact absurd trivial apart

theorem ensures_fallible_off {program : SpendM α}
    (stable : (pcztSharing codec read owner inputs txId).Stable before)
    (off : program.run.Within fun command => ¬OnPczt command) :
    (pcztSharing codec read owner inputs txId).Ensures before program.run
      (Ends (fun _ => before) fun _ => before) :=
  (ensures_off stable off).mono (fun _ => id) fun result _ holds => by cases result <;> exact holds

theorem ensures_proposePczt (wallet : SpendWallet) (plan : ProposalPlan)
    (target : Option BlockHeight) : (pcztSharing codec read owner inputs txId).Ensures (Free owner)
      (proposePczt wallet plan target).run
      (Ends (fun pczt world => Held owner inputs world ∧ Ours read owner inputs txId wallet pczt)
        (Unbuilt codec owner inputs)) := by
  have checked (result : Except WalletError Unit) :
      (pcztSharing codec read owner inputs txId).Ensures (Free owner) (check result).run
        (Ends (fun _ => Free owner) (Unbuilt codec owner inputs)) :=
    (ensures_check stable_free result).mono (fun _ => id) fun ended _ free => by
      cases ended with
      | ok done => exact free
      | error error => exact .inl free
  refine Ensures.bind_fallible (checked _) stable_unbuilt fun _ => ?_
  have created : (pcztSharing codec read owner inputs txId).Ensures (Free owner)
      (Fallible.call WalletError.ofStorage
        (ask (.createPczt (storageProposalRequest wallet plan) target))).run
      (Ends (fun raw world => Held owner inputs world ∧
        read raw = ⟨some owner.asBytes, inputs, txId⟩) (Unbuilt codec owner inputs)) := by
    refine Ensures.call (fun _ => stable_and_given stable_held) (fun _ => stable_unbuilt _) ?_
    refine Ensures.perform stable_free (fun answer => ?_) fun world answer after free served => ?_
    · cases answer with
      | ok raw => exact stable_and_given stable_held
      | error error => exact stable_unbuilt _
    · exact created_of_serves free served
  refine Ensures.bind_fallible created stable_unbuilt fun raw => ?_
  exact Ensures.done (stable_and_given stable_held) fun world both => ⟨both.1, both.2, rfl⟩

/-- A role of the library, asked for this PCZT with the unsealed seed. -/
theorem ensures_role {wallet : SpendWallet} (pczt : PcztBytes)
    {ask : SeedMaterial → SpendProgram (Except PcztError PcztBytes)}
    (asked : ∀ seed, (pcztSharing codec read owner inputs txId).Ensures (Held owner inputs)
      (ask seed)
      (Ends (fun changed world => Held owner inputs world ∧ Ours read owner inputs txId wallet changed)
        fun _ => Held owner inputs)) :
    (pcztSharing codec read owner inputs txId).Ensures (Held owner inputs)
      (do
        check (validatePcztNetwork pczt.network wallet.network)
        let seed ← unsealSeed
        Fallible.call .pczt (ask seed) : SpendM PcztBytes).run
      (Ends (fun changed world => Held owner inputs world ∧ Ours read owner inputs txId wallet changed)
        fun _ => Held owner inputs) := by
  refine Ensures.bind_fallible (ensures_check stable_held _) (fun _ => stable_held) fun _ => ?_
  refine Ensures.bind_fallible (ensures_fallible_off stable_held ?_) (fun _ => stable_held)
    fun seed => ?_
  · exact Fallible.within_call (within_ask id)
  · exact Ensures.call (fun _ => stable_and_given stable_held) (fun _ => stable_held) (asked seed)

theorem ends_of_keeps {wallet : SpendWallet} {pczt : PcztBytes} {result : Except PcztError PcztBytes}
    (ours : Ours read owner inputs txId wallet pczt) (held : Held owner inputs world)
    (keeps : ∀ changed, result = .ok changed →
      read changed.bytes = read pczt.bytes ∧ changed.network = pczt.network) :
    Ends (fun changed world => Held owner inputs world ∧ Ours read owner inputs txId wallet changed)
      (fun _ => Held owner inputs) result world := by
  cases result with
  | error error => exact held
  | ok changed =>
    obtain ⟨same, network⟩ := keeps changed rfl
    exact ⟨held, same.trans ours.content, network.trans ours.network⟩

theorem stable_role (wallet : SpendWallet) (result : Except PcztError PcztBytes) :
    (pcztSharing codec read owner inputs txId).Stable
      (Ends (fun changed world => Held owner inputs world ∧ Ours read owner inputs txId wallet changed)
        (fun _ => Held owner inputs) result) := by
  cases result with
  | ok changed => exact stable_and_given stable_held
  | error error => exact stable_held

theorem ensures_provePczt {wallet : SpendWallet} {pczt : PcztBytes}
    (ours : Ours read owner inputs txId wallet pczt) :
    (pcztSharing codec read owner inputs txId).Ensures (Held owner inputs)
    (provePczt wallet pczt).run
      (Ends (fun proven world => Held owner inputs world ∧ Ours read owner inputs txId wallet proven)
        fun _ => Held owner inputs) := by
  refine ensures_role pczt fun seed => Ensures.perform stable_held (stable_role wallet) ?_
  intro world answer after held served
  cases served with
  | other off => exact absurd trivial off
  | prove keeps => exact ends_of_keeps ours held keeps

theorem ensures_signPczt {wallet : SpendWallet} {pczt : PcztBytes}
    (ours : Ours read owner inputs txId wallet pczt) :
    (pcztSharing codec read owner inputs txId).Ensures (Held owner inputs)
    (signPczt wallet pczt).run
      (Ends (fun signed world => Held owner inputs world ∧ Ours read owner inputs txId wallet signed)
        fun _ => Held owner inputs) := by
  refine ensures_role pczt fun seed => Ensures.perform stable_held (stable_role wallet) ?_
  intro world answer after held served
  cases served with
  | other off => exact absurd trivial off
  | sign keeps => exact ends_of_keeps ours held keeps

/-- An extraction that fails may have taken the inputs already; the rows still stand. -/
theorem ensures_extract {wallet : SpendWallet} {pczt : PcztBytes}
    (ours : Ours read owner inputs txId wallet pczt) :
    (pcztSharing codec read owner inputs txId).Ensures (Held owner inputs)
      (Fallible.call WalletError.ofStorage (ask (.extractAndStorePczt pczt.bytes))).run
      (Ends (fun _ => Free owner) fun _ => Held owner inputs) := by
  refine Ensures.call (fun _ => stable_free) (fun _ => stable_held) ?_
  refine Ensures.perform stable_held (fun answer => ?_) fun world answer after held served => ?_
  · cases answer with
    | ok prepared => exact stable_free
    | error error => exact stable_held
  cases served with
  | other off => exact absurd trivial off
  | extract ran =>
    rename_i fault stored
    cases answer with
    | ok prepared => exact free_of_extract ours.content held ran
    | error error =>
      have respects : (PcztOp.extract fault (read pczt.bytes)).Respects owner inputs := fun _ => by
        rw [ours.content]
        exact List.Subset.refl inputs
      have kept : (PcztOp.run codec world.store (.extract fault (read pczt.bytes))).Leases owner
        inputs := PcztState.Leases.run held respects
      rw [PcztOp.run,ran] at kept
      exact kept

theorem ensures_abandonPczt {wallet : SpendWallet} {pczt : PcztBytes}
    (ours : Ours read owner inputs txId wallet pczt) :
    (pcztSharing codec read owner inputs txId).Ensures (Held owner inputs)
    (abandonPczt wallet pczt).run
      (Ends (fun _ => Free owner) fun error world => Held owner inputs world ∧
        ∃ refusal ∈ world.refused, error = .ofStorage refusal) := by
  have stable (error : WalletError) : (pcztSharing codec read owner inputs txId).Stable fun world =>
      Held owner inputs world ∧ ∃ refusal ∈ world.refused, error = .ofStorage refusal :=
    fun world after others both =>
      ⟨stable_held world after others both.1, stable_refused world after others both.2⟩
  rw [abandonPczt,validatePcztNetwork,if_pos ours.network]
  refine Ensures.call (fun _ => stable_free) (fun _ => stable _) ?_
  refine Ensures.perform stable_held (fun answer => ?_) fun world answer after held served => ?_
  · cases answer with
    | ok done => exact stable_free
    | error error => exact stable _
  cases served with
  | other off => exact absurd trivial off
  | abandon ran =>
    rename_i fault stored
    cases answer with
    | ok done => exact free_of_abandon ours.content held ran
    | error error =>
      have respects : (PcztOp.abandon fault (read pczt.bytes)).Respects owner inputs := trivial
      have kept : (PcztOp.run codec world.store (.abandon fault (read pczt.bytes))).Leases owner
        inputs := PcztState.Leases.run held respects
      rw [PcztOp.run,ran] at kept
      exact ⟨kept, error, List.mem_append_right _ List.mem_cons_self, rfl⟩

/-- A role that fails gives the inputs back, or its caller is told why they could not be. -/
theorem ensures_orAbandon {wallet : SpendWallet} {pczt : PcztBytes} {role : SpendM α}
    {returned : α → PcztWorld → Prop} (ours : Ours read owner inputs txId wallet pczt)
    (stable : ∀ value, (pcztSharing codec read owner inputs txId).Stable (returned value))
    (ran : (pcztSharing codec read owner inputs txId).Ensures (Held owner inputs) role.run
      (Ends returned fun _ => Held owner inputs)) :
    (pcztSharing codec read owner inputs txId).Ensures (Held owner inputs)
    (orAbandon wallet pczt role).run
      (Ends returned (Released codec owner inputs)) := by
  rw [orAbandon,Fallible.run_lift_bind]
  refine Ensures.bind ran fun result => ?_
  cases result with
  | ok value => exact Ensures.done (stable value) fun _ => id
  | error error =>
    change (pcztSharing codec read owner inputs txId).Ensures (Held owner inputs)
      (ExceptT.lift (abandonPcztAfterError wallet pczt error) >>= fun told => throw told : SpendM α).run _
    rw [Fallible.run_lift_bind]
    have told : (pcztSharing codec read owner inputs txId).Ensures (Held owner inputs)
        (abandonPcztAfterError wallet pczt error) (Released codec owner inputs) := by
      refine Ensures.bind (ensures_abandonPczt ours) fun cleanup => ?_
      cases cleanup with
      | ok done => exact Ensures.done (stable_released error) fun _ free => .inl (.inl free)
      | error refusal => exact Ensures.done (stable_released refusal) fun _ both => .inr both
    exact Ensures.bind told fun reported => Ensures.done (stable_released reported) fun _ => id

/-- A transaction is handed on only once nothing of its PCZT is locked any more. -/
theorem ensures_prepareSend (wallet : SpendWallet) (plan : SendPaymentPlan) (target : BlockHeight) :
    (pcztSharing codec read owner inputs txId).Ensures (Free owner)
      (prepareSendWithTargetExpiry wallet plan target).run
      (Ends (fun _ => Free owner) (Released codec owner inputs)) := by
  have free (error : WalletError) (world : PcztWorld) (none : Free owner world) :
      Released codec owner inputs error world := .inl (.inl none)
  have tip : (pcztSharing codec read owner inputs txId).Ensures (Free owner) visibleTipOrZero.run
      (Ends (fun _ => Free owner) (Released codec owner inputs)) :=
    (ensures_fallible_off stable_free (within_visibleTipOrZero id)).mono (fun _ => id)
      fun result world none => by
        cases result with
        | ok value => exact none
        | error error => exact free error world none
  refine Ensures.bind_fallible tip stable_released fun visibleTip => ?_
  split
  · exact Ensures.done (stable_released _) (free _)
  have proposal : (pcztSharing codec read owner inputs txId).Ensures (Free owner)
      (proposePczt wallet ⟨plan.accountId, plan.recipient, plan.amountZat, plan.memo, none⟩
        (some target)).run
      (Ends (fun pczt world => Held owner inputs world ∧ Ours read owner inputs txId wallet pczt)
        (Released codec owner inputs)) :=
    (ensures_proposePczt wallet _ (some target)).mono (fun _ => id) fun result world ended => by
      cases result with
      | ok pczt => exact ended
      | error error => exact .inl ended
  have both (pczt : PcztBytes) : (pcztSharing codec read owner inputs txId).Stable fun world =>
      Held owner inputs world ∧ Ours read owner inputs txId wallet pczt :=
    stable_and_given stable_held
  refine Ensures.bind_fallible proposal stable_released fun proposed => ?_
  refine Ensures.given fun proposedOurs => ?_
  refine Ensures.bind_fallible (ensures_orAbandon proposedOurs both (ensures_provePczt proposedOurs))
    stable_released fun proven => ?_
  refine Ensures.given fun provenOurs => ?_
  refine Ensures.bind_fallible (ensures_orAbandon provenOurs both (ensures_signPczt provenOurs))
    stable_released fun signed => ?_
  refine Ensures.given fun signedOurs => ?_
  refine Ensures.bind_fallible (ensures_orAbandon signedOurs (fun _ => stable_free)
    (ensures_extract signedOurs)) stable_released fun prepared => ?_
  split
  · exact Ensures.done (stable_released _) (free _)
  · exact Ensures.done stable_free fun _ => id

theorem released_of_free {result : Except WalletError α} (free : Free owner world) :
    Ends (fun _ => Free owner) (Released codec owner inputs) result world := by
  cases result with
  | ok value => exact free
  | error error => exact .inl (.inl free)

theorem ensures_preparePayment (wallet : SpendWallet) (plan : SendPaymentPlan) :
    (pcztSharing codec read owner inputs txId).Ensures (Free owner) (preparePayment wallet plan).run
      (Ends (fun _ => Free owner) (Released codec owner inputs)) := by
  rw [preparePayment]
  split
  · exact ensures_prepareSend wallet plan _
  · refine (ensures_off stable_free ?_).mono (fun _ => id) fun _ _ => released_of_free
    exact Fallible.within_bind (Fallible.within_call (within_ask id)) fun _ =>
      Fallible.within_call (within_ask id)

theorem ensures_submitPlan (wallet : SpendWallet) (operation : String) (accountId : AccountId)
    (key : IdempotencyKey) (prepared : List PreparedTransaction) :
    (pcztSharing codec read owner inputs txId).Ensures (Free owner)
      (submitPlan wallet operation accountId key prepared).run
      (Ends (fun _ => Free owner) (Released codec owner inputs)) := by
  have off : (submitPlan wallet operation accountId key prepared).run.Within
      fun command => ¬OnPczt command := by
    refine Fallible.within_bind (Fallible.within_call (within_ask id)) fun _ => ?_
    refine Fallible.within_bind
      ((broadcastCall_submitAndRecordPending wallet _ prepared).mono ?_) fun _ => ?_
    · intro command call
      cases command <;> first | exact id | exact call.elim
    · exact Fallible.within_bind (Fallible.within_call (within_ask id)) fun _ => trivial
  exact (ensures_off stable_free off).mono (fun _ => id) fun _ _ => released_of_free

theorem ensures_sendPayment (wallet : SpendWallet) (plan : SendPaymentPlan) :
    (pcztSharing codec read owner inputs txId).Ensures (Free owner) (sendPayment wallet plan).run
      (Ends (fun _ => Free owner) (Released codec owner inputs)) := by
  have checked (result : Except WalletError Unit) :
      (pcztSharing codec read owner inputs txId).Ensures (Free owner) (check result).run
        (Ends (fun _ => Free owner) (Released codec owner inputs)) :=
    (ensures_check stable_free result).mono (fun _ => id) fun ended _ free => by
      cases ended <;> exact released_of_free free
  refine Ensures.bind_fallible (checked _) stable_released fun _ => ?_
  refine Ensures.bind_fallible (checked _) stable_released fun _ => ?_
  refine Ensures.bind_fallible (checked _) stable_released fun _ => ?_
  refine Ensures.bind_fallible (checked _) stable_released fun _ => ?_
  have lookup : (pcztSharing codec read owner inputs txId).Ensures (Free owner)
      (Fallible.call WalletError.ofStorage
        (ask (.findIdempotentSubmission plan.idempotency))).run
      (Ends (fun _ => Free owner) (Released codec owner inputs)) :=
    (ensures_off stable_free (Fallible.within_call (within_ask id))).mono (fun _ => id)
      fun _ _ => released_of_free
  refine Ensures.bind_fallible lookup stable_released fun prior => ?_
  cases prior with
  | some priorTxId =>
    have off : (priorOutcome priorTxId).run.Within fun command => ¬OnPczt command :=
      (within_priorOutcome priorTxId).mono fun command same => by rw [same]; exact id
    exact (ensures_off stable_free off).mono (fun _ => id) fun _ _ => released_of_free
  | none =>
    refine Ensures.bind_fallible (ensures_preparePayment wallet plan) stable_released ?_
    exact fun prepared => ensures_submitPlan wallet _ _ _ prepared

end Sends

section Sample

def releasedInput : OutputRef := ⟨1, .shielded .orchard, 0⟩

/-- Every text is read as the PCZT of one owner. -/
def samplePcztRead (_ : List UInt8) : Pczt := ⟨some (LockOwner.asBytes ⟨5⟩), [releasedInput], 9⟩

def sampleTargetedPlan : SendPaymentPlan where
  accountId := ⟨1⟩
  idempotency := ⟨"invoice-7"⟩
  recipient := .unifiedAddress "u1sample" .mainnet
  amountZat := ⟨1000⟩
  memo := none
  targetExpiryHeight := some 20

def samplePcztWorld : PcztWorld := ⟨⟨Lease.Table.empty, .empty⟩, [], []⟩

/-- The proof fails, and the PCZT is abandoned. -/
def sampleSendTrace : List SpendEvent :=
  [⟨.findIdempotentSubmission ⟨"invoice-7"⟩, .ok none⟩, ⟨.findVisibleTip, .ok (some 10)⟩,
    ⟨.createPczt ⟨⟨1⟩, "u1sample", ⟨1000⟩, none, none⟩ (some 20), .ok [7]⟩,
    ⟨.unsealSeed, .ok [1]⟩, ⟨.proveWithSeed ⟨[7], .mainnet⟩ [1], .error .proverUnavailable⟩,
    ⟨.abandonPczt [7], .ok ()⟩]

/-- The creation is acknowledged. -/
def sampleCreate (state : PcztState) : Option (Except StorageError Pczt) × PcztState :=
  runPcztCreation Wire.Hex.reference .acknowledges none .released none ⟨5⟩ [releasedInput] 9 state

def sampleLocked : PcztWorld := ⟨(sampleCreate samplePcztWorld.store).2, [], []⟩

def sampleAbandoned : PcztWorld :=
  ⟨(Zally.abandonPczt none (samplePcztRead [7]) sampleLocked.store).2, [], []⟩

end Sample

end Zally.Spend
