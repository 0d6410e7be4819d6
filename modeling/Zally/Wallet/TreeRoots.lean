import Mathlib.Data.List.Induction
import Zally.Tree.Checkpointed
import Zally.Wallet.SyncTrace

/-! The comparison of the wallet's tree roots with an honest source's, after any sequence
of scanned chunks. -/
namespace Zally.Sync

open Async Async.Program PositionTree

/-- The commitments each block of the chain appends to the tree of a pool. -/
structure ChainLeaves (Leaf : Type) where
  commitments : ShieldedPool → BlockHeight → List Leaf
  genesis : ∀ pool, commitments pool 0 = []

namespace ChainLeaves

variable {Leaf : Type} (chain : ChainLeaves Leaf)

/-- The leaves of the tree after the block at `height`. -/
def upTo (pool : ShieldedPool) (height : BlockHeight) : List Leaf :=
  (List.range (height + 1)).flatMap (chain.commitments pool)

def between (pool : ShieldedPool) (fromHeight toHeight : BlockHeight) : List Leaf :=
  (List.range' fromHeight (toHeight + 1 - fromHeight)).flatMap (chain.commitments pool)

theorem upTo_between (pool : ShieldedPool) (ordered : fromHeight ≤ toHeight) :
    chain.upTo pool (fromHeight - 1) ++ chain.between pool fromHeight toHeight =
      chain.upTo pool toHeight := by
  unfold upTo between
  cases fromHeight with
  | zero => simp [List.range_eq_range',chain.genesis pool]
  | succ before =>
    have split : List.range' 0 (before + 1) ++ List.range' (0 + (before + 1)) (toHeight - before) =
        List.range' 0 (before + 1 + (toHeight - before)) := List.range'_append_1
    rw [Nat.zero_add] at split
    have whole : before + 1 + (toHeight - before) = toHeight + 1 := by
      have := Nat.le_of_succ_le_succ (Nat.le_succ_of_le ordered)
      omega
    rw [Nat.succ_sub_one,Nat.succ_eq_add_one,Nat.add_sub_add_right,← List.flatMap_append,
      List.range_eq_range',List.range_eq_range',split,whole]

theorem upTo_succ_between (pool : ShieldedPool) (below : height < higher) :
    chain.upTo pool height ++ chain.between pool (height + 1) higher = chain.upTo pool higher :=
  chain.upTo_between pool below

theorem upTo_prefix (pool : ShieldedPool) (ordered : height ≤ higher) :
    chain.upTo pool height <+: chain.upTo pool higher := by
  rcases Nat.eq_or_lt_of_le ordered with rfl | below
  · exact List.prefix_rfl
  · exact ⟨_, chain.upTo_succ_between pool below⟩

/-- Two heights see the same leaf where both have one. -/
theorem upTo_agree (pool : ShieldedPool) {position : Nat}
    (found : (chain.upTo pool height)[position]? = some leaf)
    (inside : position < (chain.upTo pool other).length) :
    (chain.upTo pool other)[position]? = some leaf := by
  have has := (List.getElem?_eq_some_iff.mp found).1
  rcases Nat.le_total height other with below | above
  · obtain ⟨rest, joined⟩ := chain.upTo_prefix pool below
    rw [← joined,List.getElem?_append_left has,found]
  · obtain ⟨rest, joined⟩ := chain.upTo_prefix pool above
    rw [← joined,List.getElem?_append_left inside] at found
    exact found

/-- The trees after two heights are equal when no block between them adds a leaf. -/
theorem upTo_eq_iff (pool : ShieldedPool) (ordered : height ≤ higher) :
    chain.upTo pool height = chain.upTo pool higher ↔
      ∀ block, height < block → block ≤ higher → chain.commitments pool block = [] := by
  rcases Nat.eq_or_lt_of_le ordered with rfl | below
  · simp only [true_iff]
    intro block above inside
    exact absurd (Nat.lt_of_lt_of_le above inside) (Nat.lt_irrefl _)
  rw [← chain.upTo_succ_between pool below,List.self_eq_append_right]
  simp only [between,List.flatMap_eq_nil_iff,List.mem_range'_1]
  constructor
  · intro empty block above inside
    exact empty block ⟨above, by rw [Nat.add_sub_cancel' (Nat.le_succ_of_le below)]; exact Nat.lt_succ_of_le inside⟩
  · intro empty block inside
    rw [Nat.add_sub_cancel' (Nat.le_succ_of_le below)] at inside
    exact empty block inside.1 (Nat.le_of_lt_succ inside.2)

end ChainLeaves

/-- A chunk the storage scanned, and the leaves the scan put into the tree of each pool. -/
structure ScannedChunk (Leaf : Type) where
  fromHeight : BlockHeight
  scannedTo : BlockHeight
  ordered : fromHeight ≤ scannedTo
  inserted : ShieldedPool → List Leaf

/-- The scan put the leaves of the chain. -/
def ScannedChunk.Correct (chain : ChainLeaves Leaf) (chunk : ScannedChunk Leaf) : Prop :=
  ∀ pool, chunk.inserted pool = chain.between pool chunk.fromHeight chunk.scannedTo

/-- The scan put a leaf that the chain does not have at its place. -/
def ScannedChunk.WrongIn (chain : ChainLeaves Leaf) (chunk : ScannedChunk Leaf)
    (pool : ShieldedPool) : Prop :=
  ∃ (index : Nat) (leaf : Leaf), (chunk.inserted pool)[index]? = some leaf ∧
    (chain.between pool chunk.fromHeight chunk.scannedTo)[index]? ≠ some leaf

/-- The tree of a pool after the scans: each inserts the frontier of the block before it,
which the source reported, its own leaves, and a checkpoint at its last block. -/
def walletTree (chain : ChainLeaves Leaf) (chunks : List (ScannedChunk Leaf))
    (pool : ShieldedPool) : Checkpointed Leaf :=
  chunks.foldl (fun tree chunk => tree.insert (chain.upTo pool (chunk.fromHeight - 1))
    (chunk.inserted pool) chunk.scannedTo) .empty

/-- The root at the latest checkpoint, unless it commits no leaf. -/
def checkpointRootOfScannedLeaves (root : List Leaf → RootBytes) (tree : Checkpointed Leaf) :
    Option RootBytes :=
  match tree.latest with
  | some ⟨_, size + 1⟩ => some (root (tree.contents (size + 1)))
  | _ => none

/-- `commitment_tree_roots`: the roots of the wallet's trees. -/
def walletRoots (root : ShieldedPool → List Leaf → RootBytes) (trees : ShieldedPool → Checkpointed Leaf) :
    CommitmentTreeRoots where
  sapling := checkpointRootOfScannedLeaves (root .sapling) (trees .sapling)
  orchard := checkpointRootOfScannedLeaves (root .orchard) (trees .orchard)
  ironwood := checkpointRootOfScannedLeaves (root .ironwood) (trees .ironwood)

/-- `tree_state_roots` of an honest tree state: every pool has one. -/
def chainRoots (root : ShieldedPool → List Leaf → RootBytes) (chain : ChainLeaves Leaf) (height : BlockHeight) :
    CommitmentTreeRoots where
  sapling := some (root .sapling (chain.upTo .sapling height))
  orchard := some (root .orchard (chain.upTo .orchard height))
  ironwood := some (root .ironwood (chain.upTo .ironwood height))

/-- The answers of an honest source and of a storage that holds `trees`. -/
def Truthful (root : ShieldedPool → List Leaf → RootBytes) (chain : ChainLeaves Leaf)
    (trees : ShieldedPool → Checkpointed Leaf) : SyncEvent → Prop
  | ⟨.commitmentTreeRoots, answer⟩ => answer = .ok (walletRoots root trees)
  | ⟨.treeStateAt _ height, answer⟩ => ∃ treeState, answer = .ok treeState ∧
      treeState.height = height
  | ⟨.treeStateRoots treeState, answer⟩ => answer = .ok (chainRoots root chain treeState.height)
  | _ => True

theorem walletRoots_get (root : ShieldedPool → List Leaf → RootBytes)
    (trees : ShieldedPool → Checkpointed Leaf) (pool : ShieldedPool) :
    (walletRoots root trees).get pool = checkpointRootOfScannedLeaves (root pool) (trees pool) := by
  cases pool <;> rfl

theorem chainRoots_get (root : ShieldedPool → List Leaf → RootBytes) (chain : ChainLeaves Leaf)
    (height : BlockHeight) (pool : ShieldedPool) :
    (chainRoots root chain height).get pool = some (root pool (chain.upTo pool height)) := by
  cases pool <;> rfl

theorem rootCheck_mismatch_iff (wallet chain : CommitmentTreeRoots) :
    rootCheck wallet chain = .mismatch ↔ ∃ pool, rootMatch wallet chain pool = some false := by
  have pools : (∃ pool, rootMatch wallet chain pool = some false) ↔
      rootMatch wallet chain .sapling = some false ∨ rootMatch wallet chain .orchard = some false ∨
        rootMatch wallet chain .ironwood = some false := by
    constructor
    · rintro ⟨pool, found⟩
      cases pool <;> simp [found]
    · rintro (found | found | found) <;> exact ⟨_, found⟩
  rw [pools]
  unfold rootCheck
  generalize rootMatch wallet chain .sapling = sapling
  generalize rootMatch wallet chain .orchard = orchard
  generalize rootMatch wallet chain .ironwood = ironwood
  rcases sapling with _ | _ | _ <;> rcases orchard with _ | _ | _ <;>
    rcases ironwood with _ | _ | _ <;> simp

theorem runs_chainStateAt_truthful {root : ShieldedPool → List Leaf → RootBytes}
    (run : Runs (chainStateAt epoch height).run trace (some outcome))
    (truthful : ∀ event ∈ trace, Truthful root chain trees event) :
    ∃ treeState : TreeStateArtifact, outcome = .ok treeState ∧ treeState.height = height := by
  rcases Fallible.runs_bind_some run with ⟨error, rfl, failed⟩ | ⟨treeState, first, rest, rfl, got, resumed⟩
  · obtain ⟨reply, rfl, ended⟩ := Fallible.runs_call_some failed
    obtain ⟨treeState, rfl, -⟩ := truthful ⟨.treeStateAt epoch height, reply⟩ (by simp)
    cases ended
  · obtain ⟨reply, rfl, ended⟩ := Fallible.runs_call_some got
    obtain ⟨honest, rfl, anchored⟩ := truthful ⟨.treeStateAt epoch height, reply⟩ (by simp)
    obtain rfl : treeState = honest := by simpa [Except.mapError] using ended
    rw [if_neg (not_not.mpr anchored)] at resumed
    obtain ⟨-, finished⟩ := runs_done_iff.mp resumed
    exact ⟨treeState, by simpa using finished, anchored⟩

/-- With honest answers the comparison returns what the roots of both sides say. -/
theorem runs_verify_truthful {root : ShieldedPool → List Leaf → RootBytes}
    (run : Runs (verifyTreeRoots epoch height).run trace (some outcome))
    (truthful : ∀ event ∈ trace, Truthful root chain trees event) :
    outcome = .ok (if rootCheck (walletRoots root trees) (chainRoots root chain height) = .mismatch
      then some height else none) := by
  rcases Fallible.runs_bind_some run with ⟨error, rfl, failed⟩ | ⟨wallet, first, rest, rfl, got, fetching⟩
  · obtain ⟨reply, rfl, ended⟩ := Fallible.runs_call_some failed
    obtain rfl : reply = .ok (walletRoots root trees) :=
      truthful ⟨.commitmentTreeRoots, reply⟩ (by simp)
    cases ended
  obtain ⟨reply, rfl, ended⟩ := Fallible.runs_call_some got
  obtain rfl : reply = .ok (walletRoots root trees) :=
    truthful ⟨.commitmentTreeRoots, reply⟩ (by simp)
  obtain rfl : wallet = walletRoots root trees := by simpa [Except.mapError] using ended
  have later := fun event member => truthful event (List.mem_append_right _ member)
  rcases Fallible.runs_bind_some fetching with ⟨error, rfl, failed⟩ | ⟨treeState, second, tail, rfl, fetched, decoding⟩
  · obtain ⟨treeState, ended, -⟩ := runs_chainStateAt_truthful failed later
    cases ended
  obtain ⟨anchor, found, anchored⟩ := runs_chainStateAt_truthful fetched
    fun event member => later event (List.mem_append_left _ member)
  obtain rfl : treeState = anchor := by simpa using found
  have last := fun event member => later event (List.mem_append_right _ member)
  rcases Fallible.runs_bind_some decoding with ⟨error, rfl, failed⟩ | ⟨roots, third, logged, rfl, decoded, logging⟩
  · obtain ⟨reply, rfl, ended⟩ := Fallible.runs_call_some failed
    obtain rfl : reply = .ok (chainRoots root chain treeState.height) :=
      last ⟨.treeStateRoots treeState, reply⟩ (by simp)
    cases ended
  obtain ⟨reply, rfl, ended⟩ := Fallible.runs_call_some decoded
  obtain rfl : reply = .ok (chainRoots root chain treeState.height) :=
    last ⟨.treeStateRoots treeState, reply⟩ (by simp)
  obtain rfl : roots = chainRoots root chain height := by
    simpa [Except.mapError,anchored] using ended
  rcases runs_await_iff.mp logging with ⟨-, cut⟩ | ⟨⟨⟩, final, rfl, finished⟩
  · cases cut
  · obtain ⟨-, returned⟩ := runs_done_iff.mp finished
    simpa using returned

/-! Histories of scans. -/

theorem walletTree_concat (chain : ChainLeaves Leaf) (chunks : List (ScannedChunk Leaf))
    (last : ScannedChunk Leaf) (pool : ShieldedPool) :
    walletTree chain (chunks ++ [last]) pool = (walletTree chain chunks pool).insert
      (chain.upTo pool (last.fromHeight - 1)) (last.inserted pool) last.scannedTo := by
  simp [walletTree]

/-- The latest checkpoint stands at the highest end of a chunk. -/
theorem latest_walletTree (chain : ChainLeaves Leaf) (chunks : List (ScannedChunk Leaf))
    (pool : ShieldedPool) (scanned : chunks ≠ []) :
    ∃ checkpoint, (walletTree chain chunks pool).latest = some checkpoint ∧
      (∃ chunk ∈ chunks, checkpoint.height = chunk.scannedTo) ∧
      ∀ chunk ∈ chunks, chunk.scannedTo ≤ checkpoint.height := by
  induction chunks using List.reverseRecOn with
  | nil => exact absurd rfl scanned
  | append_singleton chunks last ih =>
    rw [walletTree_concat,Checkpointed.latest_insert]
    rcases List.eq_nil_or_concat' chunks with rfl | ⟨_, _, nonempty⟩
    · exact ⟨_, rfl, ⟨last, by simp, rfl⟩, by simp⟩
    obtain ⟨checkpoint, latest, ⟨chunk, member, reached⟩, highest⟩ := ih (by simp [nonempty])
    rw [latest]
    simp only [Option.any_some,decide_eq_true_eq]
    by_cases below : last.scannedTo < checkpoint.height
    · rw [if_pos below]
      refine ⟨checkpoint, rfl, ⟨chunk, by simp [member], reached⟩, ?_⟩
      exact List.forall_mem_append.mpr ⟨highest, by simpa using Nat.le_of_lt below⟩
    · rw [if_neg below]
      refine ⟨_, rfl, ⟨last, by simp, rfl⟩, ?_⟩
      have above := Nat.le_of_not_lt below
      exact List.forall_mem_append.mpr
        ⟨fun chunk member => (highest chunk member).trans above, by simp⟩

/-- A tree all of whose leaves are the chain's, up to its latest checkpoint. -/
structure TracksChain (chain : ChainLeaves Leaf) (pool : ShieldedPool) (tree : Checkpointed Leaf) :
    Prop where
  agrees : ∀ position leaf, tree.leafAt position = some leaf →
    ∃ height, (chain.upTo pool height)[position]? = some leaf
  whole : ∀ checkpoint, tree.latest = some checkpoint →
    checkpoint.size = (chain.upTo pool checkpoint.height).length ∧ tree.Covers checkpoint.size

/-- A correct scan keeps the tree on the chain, wherever its chunk lies. -/
theorem TracksChain.insert {chain : ChainLeaves Leaf} (tracks : TracksChain chain pool tree)
    {chunk : ScannedChunk Leaf} (correct : chunk.Correct chain) :
    TracksChain chain pool (tree.insert (chain.upTo pool (chunk.fromHeight - 1))
      (chunk.inserted pool) chunk.scannedTo) := by
  have joined := chain.upTo_between pool chunk.ordered
  rw [← correct pool] at joined
  constructor
  · intro position leaf found
    rcases Checkpointed.leafAt_insert_cases found with ⟨above, run⟩ | frontier | earlier
    · exact ⟨chunk.scannedTo, by rw [← joined,List.getElem?_append_right above,run]⟩
    · exact ⟨_, frontier⟩
    · exact tracks.agrees position leaf earlier
  · intro checkpoint latest
    rw [Checkpointed.latest_insert] at latest
    split at latest
    · obtain ⟨size, covers⟩ := tracks.whole checkpoint latest
      exact ⟨size, covers.insert _ _ _⟩
    · obtain rfl := Option.some.inj latest
      exact ⟨by rw [← joined,List.length_append], Checkpointed.covers_insert _ _ _ _⟩

theorem tracks_walletTree {chain : ChainLeaves Leaf} {chunks : List (ScannedChunk Leaf)}
    (correct : ∀ chunk ∈ chunks, chunk.Correct chain) (pool : ShieldedPool) :
    TracksChain chain pool (walletTree chain chunks pool) := by
  induction chunks using List.reverseRecOn with
  | nil => exact ⟨nofun, nofun⟩
  | append_singleton chunks last ih =>
    rw [walletTree_concat]
    exact (ih fun chunk member => correct chunk (List.mem_append_left _ member)).insert
      (correct last (by simp))

/-- The leaves under the latest checkpoint of a tree on the chain are the chain's there. -/
theorem TracksChain.contents {chain : ChainLeaves Leaf} (tracks : TracksChain chain pool tree)
    (latest : tree.latest = some checkpoint) :
    tree.contents checkpoint.size = chain.upTo pool checkpoint.height := by
  obtain ⟨size, covers⟩ := tracks.whole checkpoint latest
  rw [size] at covers ⊢
  apply Checkpointed.contents_eq covers
  intro position leaf below found
  obtain ⟨height, there⟩ := tracks.agrees position leaf found
  exact chain.upTo_agree pool there below

/-- The leaves that the root of a tree commits. -/
def scannedLeaves (tree : Checkpointed Leaf) : List Leaf :=
  match tree.latest with
  | some checkpoint => tree.contents checkpoint.size
  | none => []

theorem checkpointRoot_eq {tree : Checkpointed Leaf} (root : List Leaf → RootBytes)
    (latest : tree.latest = some checkpoint) : checkpointRootOfScannedLeaves root tree =
      if checkpoint.size = 0 then none else some (root (scannedLeaves tree)) := by
  rcases checkpoint with ⟨height, _ | size⟩ <;>
    simp [checkpointRootOfScannedLeaves,scannedLeaves,latest]

/-- A pool mismatches when the wallet has leaves and their root is not the chain's. -/
theorem rootMatch_false_iff {trees : ShieldedPool → Checkpointed Leaf}
    (latest : (trees pool).latest = some checkpoint)
    (root : ShieldedPool → List Leaf → RootBytes) (chain : ChainLeaves Leaf)
    (height : BlockHeight) :
    rootMatch (walletRoots root trees) (chainRoots root chain height) pool = some false ↔
      checkpoint.size ≠ 0 ∧
        root pool (scannedLeaves (trees pool)) ≠ root pool (chain.upTo pool height) := by
  rw [rootMatch,walletRoots_get,chainRoots_get,checkpointRoot_eq _ latest]
  by_cases empty : checkpoint.size = 0 <;> simp [empty]

/-- No two of the compared lists of leaves share a root without being equal. -/
def CollisionFree (root : ShieldedPool → List Leaf → RootBytes) (chain : ChainLeaves Leaf)
    (trees : ShieldedPool → Checkpointed Leaf) (height : BlockHeight) : Prop :=
  ∀ pool, root pool (scannedLeaves (trees pool)) = root pool (chain.upTo pool height) →
    scannedLeaves (trees pool) = chain.upTo pool height

/-- After correct scans, the comparison at the end of the last chunk agrees exactly when
no pool gained a leaf between there and the highest scanned block. -/
theorem correct_scans_match_iff {root : ShieldedPool → List Leaf → RootBytes}
    {chain : ChainLeaves Leaf} {chunks : List (ScannedChunk Leaf)} {last : ScannedChunk Leaf}
    (correct : ∀ chunk ∈ chunks ++ [last], chunk.Correct chain)
    (free : CollisionFree root chain (walletTree chain (chunks ++ [last])) last.scannedTo) :
    rootCheck (walletRoots root (walletTree chain (chunks ++ [last])))
        (chainRoots root chain last.scannedTo) ≠ .mismatch ↔
      ∀ chunk ∈ chunks, ∀ pool block, last.scannedTo < block → block ≤ chunk.scannedTo →
        chain.commitments pool block = [] := by
  have pools : ∀ pool,
      rootMatch (walletRoots root (walletTree chain (chunks ++ [last])))
        (chainRoots root chain last.scannedTo) pool ≠ some false ↔
      ∀ chunk ∈ chunks, ∀ block, last.scannedTo < block → block ≤ chunk.scannedTo →
        chain.commitments pool block = [] := by
    intro pool
    obtain ⟨checkpoint, latest, ⟨top, member, reached⟩, highest⟩ :=
      latest_walletTree chain (chunks ++ [last]) pool (by simp)
    have tracks := tracks_walletTree correct pool
    have leaves : scannedLeaves (walletTree chain (chunks ++ [last]) pool) =
        chain.upTo pool checkpoint.height := by
      rw [← tracks.contents latest]
      simp [scannedLeaves,latest]
    have above := highest last (by simp)
    have size := (tracks.whole checkpoint latest).1
    rw [Ne,rootMatch_false_iff latest]
    have equal : ¬(checkpoint.size ≠ 0 ∧
        root pool (scannedLeaves (walletTree chain (chunks ++ [last]) pool)) ≠
          root pool (chain.upTo pool last.scannedTo)) ↔
        chain.upTo pool last.scannedTo = chain.upTo pool checkpoint.height := by
      by_cases empty : checkpoint.size = 0
      · have none : chain.upTo pool checkpoint.height = [] :=
          List.length_eq_zero_iff.mp (size.symm.trans empty)
        have fewer := chain.upTo_prefix pool above
        rw [none,List.prefix_nil] at fewer
        simp [empty,fewer,none]
      · simp only [ne_eq,empty,not_false_eq_true,true_and,not_not]
        constructor
        · intro same
          exact (free pool same).symm.trans leaves
        · intro same
          rw [leaves,same]
    rw [equal,chain.upTo_eq_iff pool above]
    constructor
    · intro empty chunk among block passed inside
      exact empty block passed (inside.trans (highest chunk (List.mem_append_left _ among)))
    · intro empty block passed inside
      rw [reached] at inside
      rcases List.mem_append.mp member with among | itself
      · exact empty top among block passed inside
      · obtain rfl : top = last := by simpa using itself
        exact absurd (Nat.lt_of_lt_of_le passed inside) (Nat.lt_irrefl _)
  rw [Ne,rootCheck_mismatch_iff,not_exists]
  constructor
  · intro agree chunk member pool block passed inside
    exact (pools pool).mp (agree pool) chunk member block passed inside
  · intro empty pool
    exact (pools pool).mpr fun chunk member block => empty chunk member pool block

/-- A wrong leaf in the highest chunk shows in the comparison at its end. -/
theorem wrong_leaf_mismatches {root : ShieldedPool → List Leaf → RootBytes}
    {chain : ChainLeaves Leaf} {chunks : List (ScannedChunk Leaf)} {last : ScannedChunk Leaf}
    (highest : ∀ chunk ∈ chunks, chunk.scannedTo ≤ last.scannedTo)
    (wrong : last.WrongIn chain pool)
    (free : CollisionFree root chain (walletTree chain (chunks ++ [last])) last.scannedTo) :
    rootCheck (walletRoots root (walletTree chain (chunks ++ [last])))
      (chainRoots root chain last.scannedTo) = .mismatch := by
  obtain ⟨index, leaf, put, differs⟩ := wrong
  let frontier := chain.upTo pool (last.fromHeight - 1)
  have tree := walletTree_concat chain chunks last pool
  have latest : (walletTree chain (chunks ++ [last]) pool).latest =
      some ⟨last.scannedTo, frontier.length + (last.inserted pool).length⟩ := by
    rw [tree,Checkpointed.latest_insert]
    rcases List.eq_nil_or_concat' chunks with rfl | ⟨_, _, nonempty⟩
    · rfl
    · obtain ⟨checkpoint, found, ⟨chunk, member, reached⟩, -⟩ :=
        latest_walletTree chain chunks pool (by simp [nonempty])
      have below := highest chunk member
      rw [found,if_neg (by simpa [reached] using below)]
  have inside := (List.getElem?_eq_some_iff.mp put).1
  rw [rootCheck_mismatch_iff]
  refine ⟨pool, (rootMatch_false_iff latest root chain last.scannedTo).mpr ⟨by simp only []; omega, ?_⟩⟩
  intro collides
  have same := free pool collides
  -- The leaf the scan put is in the committed leaves, at a place the chain fills differently.
  have committed : (scannedLeaves (walletTree chain (chunks ++ [last]) pool))[frontier.length + index]? =
      some leaf := by
    simp only [scannedLeaves,latest]
    rw [Checkpointed.getElem?_contents _ (by omega),tree]
    · exact Checkpointed.leafAt_insert_run _ _ _ put
    · rw [tree]
      exact Checkpointed.covers_insert _ _ _ _
  rw [same,← chain.upTo_between pool last.ordered,List.getElem?_append_right (Nat.le_add_right ..),
    Nat.add_sub_cancel_left] at committed
  exact differs committed

/-- Verification is exact after the last of a sequence of scans: a correct history matches
and a wrong leaf in the highest chunk is reported, exactly when a correct history leaves no
leaf between the end of its last chunk and its highest block. -/
theorem verify_exact_iff {root : ShieldedPool → List Leaf → RootBytes} {chain : ChainLeaves Leaf}
    {chunks : List (ScannedChunk Leaf)} {last : ScannedChunk Leaf}
    (run : Runs (verifyTreeRoots epoch last.scannedTo).run trace (some outcome))
    (truthful : ∀ event ∈ trace,
      Truthful root chain (walletTree chain (chunks ++ [last])) event)
    (free : CollisionFree root chain (walletTree chain (chunks ++ [last])) last.scannedTo) :
    (((∀ chunk ∈ chunks ++ [last], chunk.Correct chain) → outcome = .ok none) ∧
      ∀ pool, (∀ chunk ∈ chunks, chunk.scannedTo ≤ last.scannedTo) → last.WrongIn chain pool →
        outcome = .ok (some last.scannedTo)) ↔
    ((∀ chunk ∈ chunks ++ [last], chunk.Correct chain) →
      ∀ chunk ∈ chunks, ∀ pool block, last.scannedTo < block → block ≤ chunk.scannedTo →
        chain.commitments pool block = []) := by
  have returned := runs_verify_truthful run truthful
  constructor
  · rintro ⟨matched, -⟩ correct
    apply (correct_scans_match_iff correct free).mp
    intro mismatch
    rw [matched correct,if_pos mismatch] at returned
    cases returned
  · intro quiet
    constructor
    · intro correct
      rw [returned,if_neg ((correct_scans_match_iff correct free).mpr (quiet correct))]
    · intro pool highest wrong
      rw [returned,if_pos (wrong_leaf_mismatches highest wrong free)]

/-! A chain of two blocks that each add one Orchard leaf. -/

def sampleChain : ChainLeaves Nat where
  commitments pool height := if pool = .orchard ∧ 0 < height ∧ height ≤ 2 then [height] else []
  genesis pool := by simp

def sampleRoot (_ : ShieldedPool) (leaves : List Nat) : RootBytes :=
  .ofNat 256 (leaves.foldl (fun root leaf => root * 16 + leaf) 0)

/-- The scan of one block with the leaves of the chain. -/
def blockChunk (height : BlockHeight) : ScannedChunk Nat where
  fromHeight := height
  scannedTo := height
  ordered := le_rfl
  inserted pool := sampleChain.between pool height height

/-- The comparison after block `height`, on the answers of the samples. -/
def verifyTrace (chunks : List (ScannedChunk Nat)) (height : BlockHeight) : List SyncEvent :=
  let wallet := walletRoots sampleRoot (walletTree sampleChain chunks)
  let chain := chainRoots sampleRoot sampleChain height
  [⟨.commitmentTreeRoots, .ok wallet⟩,
    ⟨.treeStateAt (sampleEpoch 2) height, .ok (sampleTreeState height)⟩,
    ⟨.treeStateRoots (sampleTreeState height), .ok chain⟩,
    ⟨.traceRootCheck height (rootCheck wallet chain), ()⟩]

theorem verifyTrace_runs (chunks : List (ScannedChunk Nat)) (height : BlockHeight) :
    Runs (verifyTreeRoots (sampleEpoch 2) height).run (verifyTrace chunks height)
      (some (.ok (if rootCheck (walletRoots sampleRoot (walletTree sampleChain chunks))
        (chainRoots sampleRoot sampleChain height) = .mismatch then some height else none))) := by
  have anchored := runs_chainStateAt_ok (sampleEpoch 2) (sampleTreeState height)
  apply Runs.await
  refine Fallible.runs_bind_iff.mpr (.inr (.inr (.inr ⟨_, _, _, rfl, anchored, ?_⟩)))
  apply Runs.await
  apply Runs.await
  exact Runs.done

theorem verifyTrace_truthful (chunks : List (ScannedChunk Nat)) (height : BlockHeight) :
    ∀ event ∈ verifyTrace chunks height,
      Truthful sampleRoot sampleChain (walletTree sampleChain chunks) event := by
  simp [verifyTrace,Truthful,sampleTreeState]

theorem blockChunk_correct (height : BlockHeight) : (blockChunk height).Correct sampleChain :=
  fun _ => rfl

/-- Scanning the tip first makes the correct scan below it report a divergence. -/
theorem tip_first_scan_diverges :
    Runs (verifyTreeRoots (sampleEpoch 2) 1).run
      (verifyTrace [blockChunk 2, blockChunk 1] 1) (some (.ok (some 1))) ∧
    (∀ event ∈ verifyTrace [blockChunk 2, blockChunk 1] 1,
      Truthful sampleRoot sampleChain (walletTree sampleChain [blockChunk 2, blockChunk 1]) event) ∧
    ∀ chunk ∈ [blockChunk 2, blockChunk 1], chunk.Correct sampleChain := by
  refine ⟨?_, verifyTrace_truthful _ _, ?_⟩
  · have run := verifyTrace_runs [blockChunk 2, blockChunk 1] 1
    rwa [if_pos (by decide)] at run
  · simp [blockChunk_correct]

theorem linear_scan_exact_iff : ∃ outcome,
    Runs (verifyTreeRoots (sampleEpoch 2) 2).run (verifyTrace [blockChunk 1, blockChunk 2] 2)
      (some outcome) ∧
    ((((∀ chunk ∈ [blockChunk 1, blockChunk 2], chunk.Correct sampleChain) → outcome = .ok none) ∧
      ∀ pool, (∀ chunk ∈ [blockChunk 1], chunk.scannedTo ≤ 2) →
        (blockChunk 2).WrongIn sampleChain pool → outcome = .ok (some 2)) ↔
    ((∀ chunk ∈ [blockChunk 1, blockChunk 2], chunk.Correct sampleChain) →
      ∀ chunk ∈ [blockChunk 1], ∀ pool block, 2 < block → block ≤ chunk.scannedTo →
        sampleChain.commitments pool block = [])) := by
  have free : CollisionFree sampleRoot sampleChain
      (walletTree sampleChain ([blockChunk 1] ++ [blockChunk 2])) (blockChunk 2).scannedTo := by
    intro pool _
    cases pool <;> decide
  exact ⟨_, verifyTrace_runs _ 2, verify_exact_iff (verifyTrace_runs _ _) (verifyTrace_truthful _ _) free⟩

end Zally.Sync
