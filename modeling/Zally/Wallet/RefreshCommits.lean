import Zally.Wallet.RefreshRewind

/-! What one refresh walk leaves in the storage, for every answer of the source. -/
namespace Zally.Refresh

open Async Async.Program Outcome

/-- A receiver's outputs as the walk may record them, with the outpoints it has seen. -/
structure BatchValid (epoch : ChainEpoch) (scriptPubKeyBytes : List UInt8) (seen : List OutPoint)
    (utxos : List TransparentUtxo) : Prop where
  visible : ∀ utxo ∈ utxos, utxo.confirmedAtHeight ≤ epoch.visibleTip
  scripts : ∀ utxo ∈ utxos, utxo.scriptPubKeyBytes = scriptPubKeyBytes
  distinct : (utxos.map TransparentUtxo.outPoint).Nodup
  fresh : ∀ utxo ∈ utxos, utxo.outPoint ∉ seen

theorem validateTransparentUtxo_ok_iff :
    validateTransparentUtxo texts epoch receiver seen utxo = .ok row ↔
      (utxo.confirmedAtHeight ≤ epoch.visibleTip ∧ utxo.outPoint ∉ seen ∧
        utxo.scriptPubKeyBytes = receiver.scriptPubKeyBytes) ∧ row = utxo.row := by
  unfold validateTransparentUtxo
  by_cases above : utxo.confirmedAtHeight > epoch.visibleTip
  · simp [above,malformed,Nat.not_le.mpr above]
  by_cases repeated : utxo.outPoint ∈ seen
  · simp [above,repeated,malformed]
  by_cases foreign : utxo.scriptPubKeyBytes ≠ receiver.scriptPubKeyBytes
  · simp [above,repeated,foreign,malformed]
  · have same : utxo.scriptPubKeyBytes = receiver.scriptPubKeyBytes := not_not.mp foreign
    simp [above,repeated,same,Nat.not_lt.mp above,eq_comm]

theorem batchValid_cons_iff : BatchValid epoch scriptPubKeyBytes seen (utxo :: utxos) ↔
    (utxo.confirmedAtHeight ≤ epoch.visibleTip ∧ utxo.outPoint ∉ seen ∧
      utxo.scriptPubKeyBytes = scriptPubKeyBytes) ∧
    BatchValid epoch scriptPubKeyBytes (utxo.outPoint :: seen) utxos := by
  constructor
  · rintro ⟨visible, scripts, distinct, fresh⟩
    rw [List.forall_mem_cons] at visible scripts fresh
    rw [List.map_cons,List.nodup_cons] at distinct
    refine ⟨⟨visible.1, fresh.1, scripts.1⟩, visible.2, scripts.2, distinct.2, ?_⟩
    intro other member
    rw [List.mem_cons,not_or]
    refine ⟨fun same => distinct.1 ?_, fresh.2 other member⟩
    rw [← same]
    exact List.mem_map_of_mem member
  · rintro ⟨⟨visible, fresh, script⟩, rest⟩
    refine ⟨List.forall_mem_cons.mpr ⟨visible, rest.visible⟩,
      List.forall_mem_cons.mpr ⟨script, rest.scripts⟩, ?_, List.forall_mem_cons.mpr ⟨fresh, ?_⟩⟩
    · rw [List.map_cons,List.nodup_cons]
      refine ⟨fun member => ?_, rest.distinct⟩
      obtain ⟨other, isOther, same⟩ := List.mem_map.mp member
      exact rest.fresh other isOther (same ▸ List.mem_cons_self)
    · exact fun other member seen => rest.fresh other member (List.mem_cons_of_mem _ seen)

/-- A batch validates exactly when it is valid; its rows are the outputs' and its outpoints
join the seen ones. -/
theorem validateTransparentUtxoBatch_ok_iff :
    validateTransparentUtxoBatch texts epoch receiver utxos seen = .ok batch ↔
      BatchValid epoch receiver.scriptPubKeyBytes seen utxos ∧ batch =
        (utxos.map TransparentUtxo.row, (utxos.map TransparentUtxo.outPoint).reverse ++ seen) := by
  induction utxos generalizing seen batch with
  | nil =>
    rw [validateTransparentUtxoBatch]
    constructor
    · intro ok
      exact ⟨⟨by simp, by simp, by simp, by simp⟩, (Except.ok.inj ok).symm⟩
    · rintro ⟨-, rfl⟩
      rfl
  | cons utxo utxos ih =>
    rw [validateTransparentUtxoBatch,batchValid_cons_iff]
    constructor
    · intro valid
      obtain ⟨row, first, valid⟩ := bind_ok_iff.mp valid
      obtain ⟨later, rest, valid⟩ := bind_ok_iff.mp valid
      obtain ⟨passes, rfl⟩ := validateTransparentUtxo_ok_iff.mp first
      obtain ⟨others, rfl⟩ := ih.mp rest
      refine ⟨⟨passes, others⟩, ?_⟩
      rw [← Except.ok.inj valid]
      simp
    · rintro ⟨⟨passes, others⟩, rfl⟩
      refine bind_ok_iff.mpr ⟨_, validateTransparentUtxo_ok_iff.mpr ⟨passes, rfl⟩,
        bind_ok_iff.mpr ⟨_, ih.mpr ⟨others, rfl⟩, ?_⟩⟩
      simp [pure,Except.pure]

/-- The rows that an event of a walk commits. -/
def committedBy : RefreshEvent → List TransparentUtxoRow
  | ⟨.recordTransparentUtxos _ rows, .ok _⟩ => rows
  | _ => []

def committed (trace : List RefreshEvent) : List TransparentUtxoRow := trace.flatMap committedBy

def outPoints (trace : List RefreshEvent) : List OutPoint :=
  (committed trace).map TransparentUtxoRow.outPoint

@[simp] theorem committed_append : committed (before ++ after) =
    committed before ++ committed after := List.flatMap_append

theorem committed_quiet (quiet : committedBy event = []) :
    committed (event :: trace) = committed trace := by
  rw [committed,List.flatMap_cons,quiet,committed,List.nil_append]

/-- One receiver of the walk: its outputs are read, validated and recorded, or the walk ends. -/
theorem runs_refreshReceivers
    (run : Runs (refreshReceivers texts epoch minScannedHeight (receiver :: receivers) seen
      utxoCount).run trace outcome) :
    (committed trace = [] ∧ (∀ total, outcome ≠ some (.ok total)) ∧
      (trace = [] ∨ ∃ answer, trace = [⟨.transparentUtxos epoch receiver.scriptPubKeyBytes, answer⟩])) ∨
    ∃ utxos, BatchValid epoch receiver.scriptPubKeyBytes seen utxos ∧ ∃ answer rest,
      trace = ⟨.transparentUtxos epoch receiver.scriptPubKeyBytes, .ok utxos⟩ ::
        ⟨.recordTransparentUtxos minScannedHeight (utxos.map TransparentUtxo.row), answer⟩ :: rest ∧
      (((∃ error, answer = .error error) ∧ rest = [] ∧ ∀ total, outcome ≠ some (.ok total)) ∨
        ∃ recorded, answer = .ok recorded ∧
          Runs (refreshReceivers texts epoch minScannedHeight receivers
            ((utxos.map TransparentUtxo.outPoint).reverse ++ seen)
            (saturatingAddU64 utxoCount recorded)).run rest outcome) := by
  simp only [refreshReceivers,Fallible.run_call_bind,ask,perform_bind] at run
  rcases runs_await_iff.mp run with ⟨rfl, rfl⟩ | ⟨answer, rest, rfl, fetched⟩
  · exact .inl ⟨rfl, by simp, .inl rfl⟩
  cases answer with
  | error error =>
    obtain ⟨rfl, failed⟩ := Fallible.runs_thrown fetched
    exact .inl ⟨rfl, failed, .inr ⟨_, rfl⟩⟩
  | ok utxos =>
    cases valid : validateTransparentUtxoBatch texts epoch receiver utxos seen with
    | error error =>
      simp only [valid] at fetched
      obtain ⟨rfl, failed⟩ := Fallible.runs_thrown fetched
      exact .inl ⟨rfl, failed, .inr ⟨_, rfl⟩⟩
    | ok batch =>
      obtain ⟨isValid, rfl⟩ := validateTransparentUtxoBatch_ok_iff.mp valid
      simp only [valid,storage,Fallible.run_call_bind,perform_bind] at fetched
      rcases runs_await_iff.mp fetched with ⟨rfl, rfl⟩ | ⟨answer, rest, rfl, recorded⟩
      · exact .inl ⟨rfl, by simp, .inr ⟨_, rfl⟩⟩
      refine .inr ⟨utxos, isValid, answer, rest, rfl, ?_⟩
      cases answer with
      | error error =>
        obtain ⟨rfl, failed⟩ := Fallible.runs_thrown recorded
        exact .inl ⟨⟨error, rfl⟩, rfl, failed⟩
      | ok count => exact .inr ⟨count, rfl, recorded⟩

/-- A committed row is that of an output that was fetched for a receiver and recorded next. -/
def FetchedFor (epoch : ChainEpoch) (receivers : List TransparentReceiverRow)
    (trace : List RefreshEvent) (row : TransparentUtxoRow) : Prop :=
  ∃ before receiver utxos minScannedHeight count after, receiver ∈ receivers ∧
    trace = before ++ ⟨.transparentUtxos epoch receiver.scriptPubKeyBytes, .ok utxos⟩ ::
      ⟨.recordTransparentUtxos minScannedHeight (utxos.map TransparentUtxo.row), .ok count⟩ :: after ∧
    row ∈ utxos.map TransparentUtxo.row ∧
    row.scriptPubKeyBytes = receiver.scriptPubKeyBytes ∧ row.minedHeight ≤ epoch.visibleTip

/-- The storage counts the rows it is given. -/
def Counts (trace : List RefreshEvent) : Prop :=
  ∀ minScannedHeight rows count, ⟨.recordTransparentUtxos minScannedHeight rows, .ok count⟩ ∈ trace →
    count = min rows.length u64Max

/-- What a walk over receivers has committed when it ends or is cut. -/
structure Walked (epoch : ChainEpoch) (receivers : List TransparentReceiverRow)
    (seen : List OutPoint) (utxoCount : Nat) (trace : List RefreshEvent)
    (outcome : Option (Except WalletError Nat)) : Prop where
  pinned : ∀ other scriptPubKeyBytes answer,
    ⟨.transparentUtxos other scriptPubKeyBytes, answer⟩ ∈ trace → other = epoch
  distinct : (outPoints trace).Nodup
  fresh : ∀ outPoint ∈ outPoints trace, outPoint ∉ seen
  fetched : ∀ row ∈ committed trace, FetchedFor epoch receivers trace row
  refused : ∀ before scriptPubKeyBytes utxos after,
    trace = before ++ ⟨.transparentUtxos epoch scriptPubKeyBytes, .ok utxos⟩ :: after →
    ¬ BatchValid epoch scriptPubKeyBytes (outPoints before ++ seen) utxos →
    after = [] ∧ ∀ total, outcome ≠ some (.ok total)
  counted : Counts trace → utxoCount ≤ u64Max → ∀ total, outcome = some (.ok total) →
    total = min (utxoCount + (committed trace).length) u64Max

theorem BatchValid.congr (same : ∀ outPoint, outPoint ∈ others → outPoint ∈ seen)
    (valid : BatchValid epoch scriptPubKeyBytes seen utxos) :
    BatchValid epoch scriptPubKeyBytes others utxos :=
  ⟨valid.visible, valid.scripts, valid.distinct,
    fun utxo member before => valid.fresh utxo member (same _ before)⟩

/-- A walk that commits nothing and does not finish: at most one fetch was answered. -/
theorem Walked.of_nothing (nothing : committed trace = [])
    (pinned : ∀ other scriptPubKeyBytes answer,
      ⟨.transparentUtxos other scriptPubKeyBytes, answer⟩ ∈ trace → other = epoch)
    (unfinished : ∀ total, outcome ≠ some (.ok total))
    (ends : ∀ before scriptPubKeyBytes utxos after,
      trace = before ++ ⟨.transparentUtxos epoch scriptPubKeyBytes, .ok utxos⟩ :: after →
      ¬ BatchValid epoch scriptPubKeyBytes (outPoints before ++ seen) utxos → after = []) :
    Walked epoch receivers seen utxoCount trace outcome where
  pinned := pinned
  distinct := by simp [outPoints,nothing]
  fresh := by simp [outPoints,nothing]
  fetched := by simp [nothing]
  refused before script utxos after split invalid := ⟨ends _ _ _ _ split invalid, unfinished⟩
  counted _ _ total finished := absurd finished (unfinished total)

/-- The outpoints of a recorded batch come before those of the rest of the walk. -/
theorem outPoints_recorded {utxos : List TransparentUtxo} {count : Nat} :
    outPoints (⟨.transparentUtxos epoch scriptPubKeyBytes, .ok utxos⟩ ::
      ⟨.recordTransparentUtxos minScannedHeight (utxos.map TransparentUtxo.row), .ok count⟩ :: rest) =
      utxos.map TransparentUtxo.outPoint ++ outPoints rest := by
  simp only [outPoints,committed,List.flatMap_cons,committedBy,List.nil_append,List.map_append,
    List.map_map]
  rfl

theorem committed_recorded {utxos : List TransparentUtxo} {count : Nat} :
    committed (⟨.transparentUtxos epoch scriptPubKeyBytes, .ok utxos⟩ ::
      ⟨.recordTransparentUtxos minScannedHeight (utxos.map TransparentUtxo.row), .ok count⟩ :: rest) =
      utxos.map TransparentUtxo.row ++ committed rest := rfl

/-- A recorded receiver and the walk over the others. -/
theorem Walked.cons {utxos : List TransparentUtxo} {count : Nat}
    (valid : BatchValid epoch receiver.scriptPubKeyBytes seen utxos)
    (walked : Walked epoch receivers ((utxos.map TransparentUtxo.outPoint).reverse ++ seen)
      (saturatingAddU64 utxoCount count) rest outcome) :
    Walked epoch (receiver :: receivers) seen utxoCount
      (⟨.transparentUtxos epoch receiver.scriptPubKeyBytes, .ok utxos⟩ ::
        ⟨.recordTransparentUtxos minScannedHeight (utxos.map TransparentUtxo.row), .ok count⟩ :: rest)
      outcome where
  pinned other script answer member := by
    rcases List.mem_cons.mp member with same | member
    · cases same
      rfl
    rcases List.mem_cons.mp member with same | member
    · cases same
    · exact walked.pinned other script answer member
  distinct := by
    rw [outPoints_recorded]
    refine List.nodup_append.mpr ⟨valid.distinct, walked.distinct, ?_⟩
    rintro outPoint first other second rfl
    exact walked.fresh outPoint second (List.mem_append_left _ (List.mem_reverse.mpr first))
  fresh outPoint member := by
    rw [outPoints_recorded] at member
    rcases List.mem_append.mp member with first | later
    · obtain ⟨utxo, isFetched, rfl⟩ := List.mem_map.mp first
      exact valid.fresh utxo isFetched
    · exact fun before => walked.fresh outPoint later (List.mem_append_right _ before)
  fetched row member := by
    rw [committed_recorded] at member
    rcases List.mem_append.mp member with first | later
    · obtain ⟨utxo, isFetched, rfl⟩ := List.mem_map.mp first
      exact ⟨[], receiver, utxos, _, count, rest, List.mem_cons_self, rfl, first,
        valid.scripts utxo isFetched, valid.visible utxo isFetched⟩
    · obtain ⟨before, other, others, floor, count', after, isListed, rfl, row⟩ :=
        walked.fetched row later
      exact ⟨_ :: _ :: before, other, others, floor, count', after,
        List.mem_cons_of_mem _ isListed, rfl, row⟩
  refused before script others after split invalid := by
    rcases before with _ | ⟨first, _ | ⟨second, before⟩⟩
    · obtain ⟨same, -⟩ := List.cons.inj split
      cases same
      exact absurd valid invalid
    · obtain ⟨-, same⟩ := List.cons.inj split
      cases (List.cons.inj same).1
    · obtain ⟨rfl, tail⟩ := List.cons.inj split
      obtain ⟨rfl, remaining⟩ := List.cons.inj tail
      refine walked.refused before script others after remaining fun again => invalid ?_
      refine again.congr fun outPoint member => ?_
      rw [outPoints_recorded] at member
      simpa [or_comm,or_assoc,or_left_comm] using member
  counted counts bounded total finished := by
    have batch : count = min (utxos.map TransparentUtxo.row).length u64Max :=
      counts _ _ _ (List.mem_cons_of_mem _ List.mem_cons_self)
    have later := walked.counted (fun floor rows answer member => counts floor rows answer
      (List.mem_cons_of_mem _ (List.mem_cons_of_mem _ member))) (Nat.min_le_right ..) total finished
    rw [committed_recorded,List.length_append,later,batch]
    unfold saturatingAddU64
    omega

theorem walked_of_runs
    (run : Runs (refreshReceivers texts epoch minScannedHeight receivers seen utxoCount).run trace
      outcome) :
    Walked epoch receivers seen utxoCount trace outcome := by
  induction receivers generalizing seen utxoCount trace with
  | nil =>
    obtain ⟨rfl, ended⟩ := runs_done_iff.mp run
    refine ⟨by simp, List.nodup_nil, by simp [outPoints,committed], by simp [committed], ?_, ?_⟩
    · intro before script utxos after split
      simp at split
    · rintro - bounded total rfl
      rcases ended with ended | ended
      · cases ended
      · obtain rfl := Except.ok.inj (Option.some.inj ended)
        simp [committed,bounded]
  | cons receiver receivers ih =>
    rcases runs_refreshReceivers run with
      ⟨nothing, unfinished, short⟩ | ⟨utxos, valid, answer, rest, rfl, rested⟩
    · refine .of_nothing nothing (fun other script answer member => ?_) unfinished
        fun before script utxos after split _ => ?_
      · rcases short with rfl | ⟨answer, rfl⟩
        · cases member
        · cases List.mem_singleton.mp member
          rfl
      have length := congrArg List.length split
      rcases short with rfl | ⟨answer, rfl⟩
      · simp at length
      · simp only [List.length_append,List.length_cons,List.length_nil] at length
        exact List.length_eq_zero_iff.mp (by omega)
    rcases rested with ⟨⟨error, rfl⟩, rfl, unfinished⟩ | ⟨count, rfl, again⟩
    · refine .of_nothing rfl (fun other script answer member => ?_) unfinished
        fun before script others after split invalid => ?_
      · rcases List.mem_cons.mp member with same | member
        · cases same
          rfl
        · cases List.mem_singleton.mp member
      rcases before with _ | ⟨first, _ | ⟨second, before⟩⟩
      · cases (List.cons.inj split).1
        exact absurd valid invalid
      · cases (List.cons.inj (List.cons.inj split).2).1
      · simp at split
    · exact .cons valid (ih again)

theorem putTransparentUtxos_ok (bounded : count ≤ u64Max)
    (put : putTransparentUtxos library fault count rows recorded = .ok written) :
    written = (min (count + rows.length) u64Max,
      rows.foldl library.putReceivedTransparentUtxo recorded) := by
  induction rows generalizing count recorded with
  | nil =>
    rw [putTransparentUtxos] at put
    rw [← Except.ok.inj put]
    simp [bounded]
  | cons row rows ih =>
    rw [putTransparentUtxos] at put
    obtain ⟨output, known, put⟩ := bind_ok_iff.mp put
    obtain ⟨-, put⟩ := check_bind_ok_iff.mp put
    obtain rfl : row = output := by
      unfold transparentUtxoRowToOutput at known
      by_cases recognizes : library.recognized row.scriptPubKeyBytes = true
      · rw [if_pos recognizes] at known
        exact Except.ok.inj known
      · rw [if_neg recognizes] at known
        cases known
    rw [ih (Nat.min_le_right ..) put]
    refine Prod.ext ?_ rfl
    change min (min (count + 1) u64Max + rows.length) u64Max = min (count + (rows.length + 1)) u64Max
    omega

/-- A write that goes through puts its rows and counts them; one that fails changes nothing. -/
theorem recordTransparentUtxos_cases
    (written : recordTransparentUtxos library fault floor rows store = (answer, after)) :
    (∃ error, answer = .error error ∧ after = store) ∨
      answer = .ok (min rows.length u64Max) ∧
        after = { store with
          recorded := rows.foldl library.putReceivedTransparentUtxo store.recorded } := by
  unfold recordTransparentUtxos at written
  cases put : guardedPut library fault floor rows store with
  | error error =>
    rw [put] at written
    cases written
    exact .inl ⟨error, rfl, rfl⟩
  | ok pair =>
    rw [put] at written
    cases written
    obtain ⟨-, put⟩ := check_bind_ok_iff.mp put
    obtain ⟨-, put⟩ := check_bind_ok_iff.mp put
    obtain ⟨-, put⟩ := check_bind_ok_iff.mp put
    obtain ⟨result, put, committed⟩ := bind_ok_iff.mp put
    obtain ⟨-, same⟩ := check_bind_ok_iff.mp committed
    cases same
    rw [putTransparentUtxos_ok (Nat.zero_le _) put,Nat.zero_add]
    exact .inr ⟨rfl, rfl⟩

/-- The storage serves one command of a walk, whatever fails in it. -/
def Serves (library : UtxoLibrary) (before : UtxoStore) (event : RefreshEvent)
    (after : UtxoStore) : Prop := ∃ fault, Answers library fault before event after

theorem serves_cases (serves : Serves library before event after) :
    (∃ floor rows, event = ⟨.recordTransparentUtxos floor rows, .ok (min rows.length u64Max)⟩ ∧
      after = { before with
        recorded := rows.foldl library.putReceivedTransparentUtxo before.recorded }) ∨
    (∀ floor rows count, event ≠ ⟨.recordTransparentUtxos floor rows, .ok count⟩) ∧
      committedBy event = [] ∧ after = before := by
  obtain ⟨fault, answers⟩ := serves
  rcases event with ⟨command, answer⟩
  cases command with
  | recordTransparentUtxos floor rows =>
    rcases recordTransparentUtxos_cases answers with ⟨error, rfl, rfl⟩ | ⟨rfl, rfl⟩
    · exact .inr ⟨fun _ _ _ same => (by cases same), rfl, rfl⟩
    · exact .inl ⟨floor, rows, rfl, rfl⟩
  | fullyScannedHeight => exact .inr ⟨fun _ _ _ same => (by cases same), rfl, answers.2⟩
  | _ => exact .inr ⟨fun _ _ _ same => (by cases same), rfl, answers⟩

theorem counts_of_path (path : Path (Serves library) start trace final) : Counts trace := by
  induction path with
  | nil => simp [Counts]
  | cons serves path ih =>
    intro floor rows count member
    rcases List.mem_cons.mp member with rfl | member
    · rcases serves_cases serves with ⟨floor', rows', same, -⟩ | ⟨other, -, -⟩
      · cases same
        rfl
      · exact absurd rfl (other floor rows count)
    · exact ih floor rows count member

/-- The storage holds exactly the committed rows on top of what it held. -/
theorem recorded_of_path (path : Path (Serves library) start trace final) :
    final.recorded = (committed trace).foldl library.putReceivedTransparentUtxo start.recorded := by
  induction path with
  | nil => rfl
  | cons serves path ih =>
    rcases serves_cases serves with ⟨floor, rows, rfl, rfl⟩ | ⟨-, nothing, rfl⟩
    · rw [ih]
      exact (List.foldl_append ..).symm
    · rw [ih,committed_quiet nothing]

variable {library : UtxoLibrary}

/-- What the library keeps of an output under others: all of it, or all but the mined height, which
is then one that was put for its transaction. -/
def KeptUnder (rows : List TransparentUtxoRow) (outPoint : OutPoint)
    (before after : Option TransparentUtxoRow) : Prop :=
  after = before ∨ ∃ latest ∈ rows, latest.txId = outPoint.txId ∧
    after = before.map (·.atHeight latest.minedHeight)

/-- Rows of one height leave a row of their transaction as it was put. -/
theorem KeptUnder.same_height {row : TransparentUtxoRow}
    (kept : KeptUnder rows row.outPoint (some row) after)
    (same : ∀ other ∈ rows, other.txId = row.txId → other.minedHeight = row.minedHeight) :
    after = some row := by
  obtain rfl | ⟨latest, member, ofTransaction, rfl⟩ := kept
  · rfl
  · rw [same latest member ofTransaction]
    rfl

theorem foldl_put_other (laws : library.Upserts) {rows : List TransparentUtxoRow}
    {recorded : OutPoint → Option TransparentUtxoRow}
    (other : outPoint ∉ rows.map TransparentUtxoRow.outPoint) :
    KeptUnder rows outPoint (recorded outPoint)
      (rows.foldl library.putReceivedTransparentUtxo recorded outPoint) := by
  induction rows generalizing recorded with
  | nil => exact .inl rfl
  | cons row rows ih =>
    rw [List.map_cons,List.mem_cons,not_or] at other
    rw [List.foldl_cons]
    have put := laws.other recorded row outPoint other.1
    have later : KeptUnder rows outPoint (library.putReceivedTransparentUtxo recorded row outPoint)
        (rows.foldl library.putReceivedTransparentUtxo
          (library.putReceivedTransparentUtxo recorded row) outPoint) := ih other.2
    obtain kept | ⟨latest, member, same, kept⟩ := later <;> rw [kept]
    · obtain unchanged | ⟨same, moved⟩ := put
      · exact .inl unchanged
      · exact .inr ⟨row, List.mem_cons_self, same.symm, moved⟩
    · refine .inr ⟨latest, List.mem_cons_of_mem _ member, same, ?_⟩
      obtain unchanged | ⟨-, moved⟩ := put
      · rw [unchanged]
      · rw [moved,Option.map_map]
        rfl

theorem foldl_put_self (laws : library.Upserts) {rows : List TransparentUtxoRow}
    {recorded : OutPoint → Option TransparentUtxoRow}
    (distinct : (rows.map TransparentUtxoRow.outPoint).Nodup) (member : row ∈ rows) :
    KeptUnder rows row.outPoint (some row)
      (rows.foldl library.putReceivedTransparentUtxo recorded row.outPoint) := by
  induction rows generalizing recorded with
  | nil => cases member
  | cons first rows ih =>
    rw [List.map_cons,List.nodup_cons] at distinct
    rw [List.foldl_cons]
    have later {before after : Option TransparentUtxoRow} :
        KeptUnder rows row.outPoint before after →
          KeptUnder (first :: rows) row.outPoint before after :=
      Or.imp_right fun ⟨latest, among, kept⟩ => ⟨latest, List.mem_cons_of_mem _ among, kept⟩
    rcases List.mem_cons.mp member with rfl | member
    · have kept : KeptUnder rows row.outPoint
          (library.putReceivedTransparentUtxo recorded row row.outPoint)
          (rows.foldl library.putReceivedTransparentUtxo
            (library.putReceivedTransparentUtxo recorded row) row.outPoint) :=
        foldl_put_other laws distinct.1
      rw [laws.self] at kept
      exact later kept
    · exact later (ih distinct.2 member)

/-- The reads before the first receiver. -/
def opening (epoch : ChainEpoch) (floor : Option BlockHeight)
    (receivers : List TransparentReceiverRow) (startedAtMs : Nat) : List RefreshEvent := [
  ⟨.currentEpoch, .ok epoch⟩, ⟨.fullyScannedHeight, .ok floor⟩,
  ⟨.listTransparentReceivers, .ok receivers⟩, ⟨.currentUnixMs, startedAtMs⟩]

/-- A refresh stops in its reads, or walks over the receivers it has read and, when the walk
returns a total, reads the clock and reports it. -/
theorem runs_refreshTransparentUtxosInner
    (run : Runs (refreshTransparentUtxosInner wallet).run trace outcome) :
    (committed trace = [] ∧ (∀ epoch script answer, ⟨.transparentUtxos epoch script, answer⟩ ∉ trace) ∧
      ∀ result, outcome ≠ some (.ok result)) ∨
    ∃ epoch floor receivers startedAtMs walk closing walked,
      trace = opening epoch floor receivers startedAtMs ++ (walk ++ closing) ∧
      Runs (refreshReceivers wallet.texts epoch floor receivers [] 0).run walk walked ∧
      (closing = [] ∨ (∃ total, walked = some (.ok total)) ∧
        ∃ completedAtMs, closing = [⟨.currentUnixMs, completedAtMs⟩]) ∧
      ∀ result, outcome = some (.ok result) → walked = some (.ok result.utxoCount) := by
  unfold refreshTransparentUtxosInner pinChainEpoch at run
  split at run
  · obtain ⟨rfl, failed⟩ := Fallible.runs_thrown run
    exact .inl ⟨rfl, by simp, failed⟩
  simp only [storage,Fallible.run_call_bind,ask,perform_bind] at run
  rcases runs_await_iff.mp run with ⟨rfl, rfl⟩ | ⟨pinned, rest, rfl, afterPin⟩
  · exact .inl ⟨rfl, by simp, by simp⟩
  cases pinned with
  | error error =>
    obtain ⟨rfl, failed⟩ := Fallible.runs_thrown afterPin
    exact .inl ⟨rfl, by simp, failed⟩
  | ok epoch =>
  rcases runs_await_iff.mp afterPin with ⟨rfl, rfl⟩ | ⟨floor, rest, rfl, afterFloor⟩
  · exact .inl ⟨rfl, by simp, by simp⟩
  cases floor with
  | error error =>
    obtain ⟨rfl, failed⟩ := Fallible.runs_thrown afterFloor
    exact .inl ⟨rfl, by simp, failed⟩
  | ok floor =>
  rcases runs_await_iff.mp afterFloor with ⟨rfl, rfl⟩ | ⟨listed, rest, rfl, afterList⟩
  · exact .inl ⟨rfl, by simp, by simp⟩
  cases listed with
  | error error =>
    obtain ⟨rfl, failed⟩ := Fallible.runs_thrown afterList
    exact .inl ⟨rfl, by simp, failed⟩
  | ok receivers =>
  rcases runs_await_iff.mp afterList with ⟨rfl, rfl⟩ | ⟨startedAtMs, rest, rfl, walking⟩
  · exact .inl ⟨rfl, by simp, by simp⟩
  right
  change Runs (ExceptT.run (refreshReceivers wallet.texts epoch floor receivers [] 0 >>= _)) rest
    outcome at walking
  rcases Fallible.runs_bind_iff.mp walking with
    ⟨rfl, cut⟩ | ⟨error, rfl, failed⟩ | ⟨rfl, error, failed⟩ | ⟨total, walk, closing, rfl, walk', closes⟩
  · exact ⟨epoch, floor, receivers, startedAtMs, rest, [], none, by simp [opening], cut, .inl rfl,
      by simp⟩
  · exact ⟨epoch, floor, receivers, startedAtMs, rest, [], _, by simp [opening], failed, .inl rfl,
      by simp⟩
  · exact ⟨epoch, floor, receivers, startedAtMs, rest, [], _, by simp [opening], failed, .inl rfl,
      by simp⟩
  refine ⟨epoch, floor, receivers, startedAtMs, walk, closing, _, rfl, walk', ?_⟩
  rcases runs_await_iff.mp closes with ⟨rfl, rfl⟩ | ⟨completedAtMs, rest, rfl, finished⟩
  · exact ⟨.inl rfl, by simp⟩
  obtain ⟨rfl, ended⟩ := runs_done_iff.mp finished
  refine ⟨.inr ⟨⟨total, rfl⟩, completedAtMs, rfl⟩, fun result ok => ?_⟩
  rcases ended with rfl | rfl
  · cases ok
  · obtain rfl := Except.ok.inj (Option.some.inj ok)
    rfl

/-- The epoch that a walk pins and the receivers that it lists. -/
def Reads (trace : List RefreshEvent) (epoch : ChainEpoch) (receivers : List TransparentReceiverRow) :
    Prop :=
  ⟨.currentEpoch, .ok epoch⟩ ∈ trace ∧ ⟨.listTransparentReceivers, .ok receivers⟩ ∈ trace

/-- A receiver's outputs that are not valid end the walk, and nothing of them is committed. -/
def EndsAtInvalid (trace : List RefreshEvent)
    (outcome : Option (Except WalletError TransparentUtxoRefreshOutcome)) : Prop :=
  ∀ before epoch scriptPubKeyBytes utxos after,
    trace = before ++ ⟨.transparentUtxos epoch scriptPubKeyBytes, .ok utxos⟩ :: after →
    ¬ BatchValid epoch scriptPubKeyBytes (outPoints before) utxos →
    after = [] ∧ ∀ result, outcome ≠ some (.ok result)

/-- What a walk commits, and how it ends at a receiver whose outputs are not valid. -/
structure Commits (trace : List RefreshEvent)
    (outcome : Option (Except WalletError TransparentUtxoRefreshOutcome)) : Prop where
  distinct : (outPoints trace).Nodup
  fetched : ∀ row ∈ committed trace, ∃ epoch receivers, Reads trace epoch receivers ∧
    FetchedFor epoch receivers trace row
  refused : EndsAtInvalid trace outcome
  counted : Counts trace → ∀ result, outcome = some (.ok result) →
    result.utxoCount = min (committed trace).length u64Max

/-- A read of a receiver's outputs happens in the walk. -/
theorem split_in_walk {first closing : List RefreshEvent} (reads : event ∉ first)
    (closes : event ∉ closing) (split : first ++ (walk ++ closing) = before ++ event :: after) :
    ∃ walked rest, before = first ++ walked ∧ after = rest ++ closing ∧
      walk = walked ++ event :: rest := by
  obtain ⟨walked, rfl, inner⟩ : ∃ walked, before = first ++ walked ∧
      walk ++ closing = walked ++ event :: after := by
    rcases List.append_eq_append_iff.mp split with ⟨walked, rfl, inner⟩ | ⟨others, rfl, inner⟩
    · exact ⟨walked, rfl, inner⟩
    cases others with
    | nil => exact ⟨[], by simp, inner.symm⟩
    | cons other others =>
      obtain ⟨rfl, -⟩ := List.cons.inj inner
      exact absurd (List.mem_append_right _ List.mem_cons_self) reads
  rcases List.append_eq_append_iff.mp inner with ⟨others, -, closed⟩ | ⟨rest, rfl, closed⟩
  · rw [closed] at closes
    exact absurd (List.mem_append_right _ List.mem_cons_self) closes
  cases rest with
  | nil =>
    rw [List.nil_append] at closed
    exact absurd (closed ▸ List.mem_cons_self) closes
  | cons other rest =>
    obtain ⟨rfl, rfl⟩ := List.cons.inj closed
    exact ⟨walked, rest, rfl, rfl, rfl⟩

theorem commits_of_nothing (nothing : committed trace = [])
    (unread : ∀ epoch script answer, ⟨.transparentUtxos epoch script, answer⟩ ∉ trace)
    (failed : ∀ result, outcome ≠ some (.ok result)) : Commits trace outcome where
  distinct := by simp [outPoints,nothing]
  fetched := by simp [nothing]
  refused before epoch script utxos after split _ :=
    absurd (split ▸ List.mem_append_right _ List.mem_cons_self) (unread epoch script (.ok utxos))
  counted _ result ok := absurd ok (failed result)

theorem committed_closing {closing : List RefreshEvent}
    (closes : closing = [] ∨ ∃ completedAtMs, closing = [⟨.currentUnixMs, completedAtMs⟩]) :
    committed (opening epoch floor receivers startedAtMs ++ (walk ++ closing)) = committed walk := by
  rw [committed_append,committed_append]
  rcases closes with rfl | ⟨completedAtMs, rfl⟩
  · exact List.append_nil _
  · exact List.append_nil _

theorem commits_of_runs (run : Runs (refreshTransparentUtxosInner wallet).run trace outcome) :
    Commits trace outcome := by
  rcases runs_refreshTransparentUtxosInner run with
    ⟨nothing, unread, failed⟩ | ⟨epoch, floor, receivers, startedAtMs, walk, closing, walked, rfl,
      walk', closes, total⟩
  · exact commits_of_nothing nothing unread failed
  have walks := walked_of_runs walk'
  have closed : closing = [] ∨ ∃ completedAtMs, closing = [⟨.currentUnixMs, completedAtMs⟩] := by
    rcases closes with none | ⟨-, clock⟩
    · exact .inl none
    · exact .inr clock
  have same : committed (opening epoch floor receivers startedAtMs ++ (walk ++ closing)) =
      committed walk := committed_closing closed
  refine ⟨?_, ?_, ?_, ?_⟩
  · rw [outPoints,same]
    exact walks.distinct
  · intro row member
    rw [same] at member
    obtain ⟨before, receiver, utxos, frontier, count, after, isListed, rfl, isRow⟩ :=
      walks.fetched row member
    refine ⟨epoch, receivers, ⟨by simp [opening], by simp [opening]⟩,
      opening epoch floor receivers startedAtMs ++ before, receiver, utxos, frontier, count,
      after ++ closing, isListed, by simp, isRow⟩
  · intro before other script utxos after split invalid
    have unread : (⟨.transparentUtxos other script, .ok utxos⟩ : RefreshEvent) ∉ closing := by
      rcases closed with rfl | ⟨completedAtMs, rfl⟩ <;> simp
    obtain ⟨earlier, rest, rfl, rfl, rfl⟩ := split_in_walk (by simp [opening]) unread split
    obtain rfl : other = epoch := walks.pinned other script _
      (List.mem_append_right _ List.mem_cons_self)
    obtain ⟨rfl, unfinished⟩ := walks.refused earlier script utxos rest rfl
      fun valid => invalid (valid.congr fun outPoint member => List.mem_append_left _ member)
    have failed : ∀ result, outcome ≠ some (.ok result) :=
      fun result ok => unfinished _ (total result ok)
    rcases closes with rfl | ⟨⟨finished, ended⟩, -⟩
    · exact ⟨rfl, failed⟩
    · exact absurd ended (unfinished finished)
  · intro counts result ok
    rw [same,walks.counted (fun frontier rows count member => counts frontier rows count
      (List.mem_append_right _ (List.mem_append_left _ member))) (Nat.zero_le _) _ (total result ok),
      Nat.zero_add]

/-- One walk over any receivers, whatever the source and the storage answer: it commits distinct
outpoints, each fetched for a listed receiver at or below the pinned tip; outputs that are not
valid end it; what it committed stays, and its count is the number of rows. What stays may take the
mined height of another row that was committed for its transaction, where that has another. -/
theorem refresh_commits (wallet : RefreshWallet) (library : UtxoLibrary) (laws : library.Upserts)
    (trace : List RefreshEvent) (start final : UtxoStore)
    (outcome : Option (Except WalletError TransparentUtxoRefreshOutcome))
    (run : Runs (refreshTransparentUtxosInner wallet).run trace outcome)
    (path : Path (Serves library) start trace final) :
    (outPoints trace).Nodup ∧
    (∀ row ∈ committed trace, ∃ epoch receivers, Reads trace epoch receivers ∧
      FetchedFor epoch receivers trace row) ∧
    EndsAtInvalid trace outcome ∧
    (∀ row ∈ committed trace,
      KeptUnder (committed trace) row.outPoint (some row) (final.recorded row.outPoint) ∧
      ((∀ other ∈ committed trace, other.txId = row.txId → other.minedHeight = row.minedHeight) →
        final.recorded row.outPoint = some row)) ∧
    (∀ outPoint ∉ outPoints trace,
      KeptUnder (committed trace) outPoint (start.recorded outPoint) (final.recorded outPoint)) ∧
    ∀ result, outcome = some (.ok result) →
      result.utxoCount = min (committed trace).length u64Max := by
  have commits := commits_of_runs run
  refine ⟨commits.distinct, commits.fetched, commits.refused, ?_, ?_,
    commits.counted (counts_of_path path)⟩
  · intro row member
    rw [recorded_of_path path]
    have kept : KeptUnder (committed trace) row.outPoint (some row)
        ((committed trace).foldl library.putReceivedTransparentUtxo start.recorded row.outPoint) :=
      foldl_put_self laws commits.distinct member
    exact ⟨kept, kept.same_height⟩
  · intro outPoint other
    rw [recorded_of_path path]
    exact foldl_put_other laws other

def sampleWalk : List RefreshEvent :=
  opening sampleEpoch none [⟨⟨7⟩, [1]⟩] 0 ++
    ([⟨.transparentUtxos sampleEpoch [1], .ok [sampleUtxo]⟩, sampleWrite none (.ok 1)] ++
      [⟨.currentUnixMs, 0⟩])

/-- One receiver with one output. -/
theorem sampleWalk_commits :
    Runs (refreshTransparentUtxosInner sampleWallet).run sampleWalk (some (.ok ⟨1, 1, 0⟩)) ∧
    sampleUtxo.row ∈ committed sampleWalk ∧
    ∃ final, Path (Serves sampleLibrary) (sampleStore none) sampleWalk final ∧
      final.recorded sampleUtxo.outPoint = some sampleUtxo.row := by
  have run : Runs (refreshTransparentUtxosInner sampleWallet).run sampleWalk
      (some (.ok ⟨1, 1, 0⟩)) := by
    repeat' apply Runs.await
    exact .done
  have path : Path (Serves sampleLibrary) (sampleStore none) sampleWalk
      ⟨none, sampleLibrary.putReceivedTransparentUtxo (fun _ => none) sampleUtxo.row⟩ :=
    .cons ⟨none, rfl⟩ (.cons ⟨none, .inr rfl, rfl⟩ (.cons ⟨none, rfl⟩ (.cons ⟨none, rfl⟩
      (.cons ⟨none, rfl⟩ (.cons ⟨none, rfl⟩ (.cons ⟨none, rfl⟩ .nil))))))
  have row : sampleUtxo.row ∈ committed sampleWalk := List.mem_cons_self
  obtain ⟨-, -, -, kept, -, -⟩ := refresh_commits _ _ sampleLibrary_upserts _ _ _ _ run path
  refine ⟨run, row, _, path, (kept _ row).2 fun other member _ => ?_⟩
  rw [List.mem_singleton.mp member]

end Zally.Refresh
