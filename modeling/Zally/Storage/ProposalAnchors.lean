import Mathlib.Logic.Function.Basic
import Zally.Storage.Error
import Zally.Wallet.SyncPort

/-! The checkpoints that a proposal's anchors need. The scans leave them where notes are, so those
of other anchors are added from the tree sizes that the scans recorded for each block. -/
namespace Zally.Anchors

/-- Where a checkpoint stands: in front of the first leaf, or behind a leaf. -/
inductive TreeCheckpoint where
  | treeEmpty
  | atPosition (position : Nat)
  deriving DecidableEq

namespace TreeCheckpoint

/-- The leaves in front of it. -/
def size : TreeCheckpoint → Nat
  | treeEmpty => 0
  | atPosition position => position + 1

def ofSize : Nat → TreeCheckpoint
  | 0 => treeEmpty
  | position + 1 => atPosition position

@[simp] theorem size_ofSize (treeSize : Nat) : (ofSize treeSize).size = treeSize := by
  cases treeSize <;> rfl

end TreeCheckpoint

variable {Tree : Type}

/-- The commitment trees of a library, and the calls that the storage makes of them. -/
structure TreeLibrary (Tree : Type) where
  rootAtCheckpointId : ShieldedPool → Tree → BlockHeight → Except String (Option RootBytes)
  addCheckpoint : Tree → BlockHeight → TreeCheckpoint → Except String Tree

/-- What a tree stands for: the sizes at its checkpoints, and the roots of its first leaves. -/
structure TreeView (Tree : Type) where
  sizeAt : Tree → BlockHeight → Option Nat
  rootOf : ShieldedPool → Tree → Nat → Option RootBytes

/-- What the library documents of its calls, where they answer: a checkpoint that is there gives the
root of the leaves in front of it, one that is not gives nothing, and one that is added changes
nothing else. A root whose nodes the tree lacks is an error. -/
structure TreeLibrary.Lawful (library : TreeLibrary Tree) (view : TreeView Tree) : Prop where
  root_present : ∀ pool tree height size found, view.sizeAt tree height = some size →
    library.rootAtCheckpointId pool tree height = .ok found →
    ∃ root, found = some root ∧ view.rootOf pool tree size = some root
  root_absent : ∀ pool tree height found, view.sizeAt tree height = none →
    library.rootAtCheckpointId pool tree height = .ok found → found = none
  adds : ∀ tree height checkpoint after, library.addCheckpoint tree height checkpoint = .ok after →
    view.sizeAt after = Function.update (view.sizeAt tree) height (some checkpoint.size) ∧
      ∀ pool, view.rootOf pool after = view.rootOf pool tree

/-- The sizes of the trees after a scanned block. -/
structure BlockMetadata where
  treeSize : ShieldedPool → Option Nat

abbrev Trees (Tree : Type) := ShieldedPool → Tree

inductive AnchorStep where
  | blockMetadata (step : Nat)
  | withTreeMut (step : Nat) (pool : ShieldedPool)
  deriving DecidableEq

section Calls

variable (library : TreeLibrary Tree)

def ensureProposalTreeCheckpoint (pool : ShieldedPool) (tree : Tree) (anchorHeight : BlockHeight)
    (treeSize : Nat) : Except String Tree := do
  let found ← library.rootAtCheckpointId pool tree anchorHeight
  if found.isNone then library.addCheckpoint tree anchorHeight (.ofSize treeSize) else pure tree

/-- The trees of a step's anchor, each in a transaction of its own. -/
def ensureTrees (fault : StepFault AnchorStep) (step : Nat) (anchorHeight : BlockHeight)
    (metadata : BlockMetadata) : List ShieldedPool → Trees Tree →
      Except StorageError Unit × Trees Tree
  | [], trees => (.ok (), trees)
  | pool :: pools, trees =>
    match (do
      failsAt fault (.withTreeMut step pool)
      match metadata.treeSize pool with
      | some treeSize =>
        (ensureProposalTreeCheckpoint library pool (trees pool) anchorHeight treeSize).mapError
          mapSqliteError
      | none => pure (trees pool)) with
    | .error error => (.error error, trees)
    | .ok tree =>
      ensureTrees fault step anchorHeight metadata pools (Function.update trees pool tree)

def metadataUnavailable (anchorHeight : BlockHeight) : StorageError :=
  .sqliteFailed ("proposal anchor block metadata is unavailable at height " ++
    toString anchorHeight) .notRetryable

/-- The loop of `ensure_proposal_anchors`, from the `step`-th step on. -/
def ensureSteps (fault : StepFault AnchorStep) (blockMetadata : BlockHeight → Option BlockMetadata)
    (policyAnchor : BlockHeight) : Nat → List (Option BlockHeight) → Trees Tree →
      Except StorageError Unit × Trees Tree
  | _, [], trees => (.ok (), trees)
  | step, anchor :: anchors, trees =>
    let anchorHeight := anchor.getD policyAnchor
    match failsAt fault (.blockMetadata step), blockMetadata anchorHeight with
    | .error error, _ => (.error error, trees)
    | .ok (), none => (.error (metadataUnavailable anchorHeight), trees)
    | .ok (), some metadata =>
      match ensureTrees library fault step anchorHeight metadata [.sapling, .orchard, .ironwood]
        trees with
      | (.error error, trees) => (.error error, trees)
      | (.ok (), trees) => ensureSteps fault blockMetadata policyAnchor (step + 1) anchors trees

/-- A step without an anchor of its own has that of the confirmations policy. -/
def ensureProposalAnchors (fault : StepFault AnchorStep)
    (blockMetadata : BlockHeight → Option BlockMetadata) (policyAnchor : BlockHeight)
    (anchors : List (Option BlockHeight)) (trees : Trees Tree) :
    Except StorageError Unit × Trees Tree :=
  ensureSteps library fault blockMetadata policyAnchor 0 anchors trees

end Calls

/-- The chain's own trees: their sizes after each block, and the roots of their first leaves. -/
structure ChainTrees where
  size : ShieldedPool → BlockHeight → Nat
  root : ShieldedPool → Nat → RootBytes

/-- Every root that the tree can give is the chain's, and so is every checkpoint. -/
structure OnChain (view : TreeView Tree) (chain : ChainTrees) (pool : ShieldedPool) (tree : Tree) :
    Prop where
  roots : ∀ size root, view.rootOf pool tree size = some root → root = chain.root pool size
  sizes : ∀ height size, view.sizeAt tree height = some size → size = chain.size pool height

/-- The same leaves under more checkpoints, the new ones among `heights`. -/
structure Extends (view : TreeView Tree) (heights : List BlockHeight) (tree larger : Tree) :
    Prop where
  roots : ∀ pool, view.rootOf pool larger = view.rootOf pool tree
  sizes : ∀ height, height ∉ heights ∨ (view.sizeAt tree height).isSome →
    view.sizeAt larger height = view.sizeAt tree height

theorem Extends.refl (view : TreeView Tree) (heights : List BlockHeight) (tree : Tree) :
    Extends view heights tree tree := ⟨fun _ => rfl, fun _ _ => rfl⟩

theorem Extends.trans {view : TreeView Tree} {tree larger largest : Tree}
    (first : Extends view heights tree larger) (second : Extends view heights larger largest) :
    Extends view heights tree largest where
  roots pool := (second.roots pool).trans (first.roots pool)
  sizes height known := by
    have kept := first.sizes height known
    rw [← kept] at known ⊢
    exact second.sizes height known

theorem Extends.mono {view : TreeView Tree} {tree larger : Tree}
    (extended : Extends view heights tree larger) (among : heights ⊆ more) :
    Extends view more tree larger where
  roots := extended.roots
  sizes height known :=
    extended.sizes height (known.imp_left fun outside inside => outside (among inside))

/-- What the scans recorded of a block: the sizes of the chain's trees after it. -/
def Records (chain : ChainTrees) (blockMetadata : BlockHeight → Option BlockMetadata) : Prop :=
  ∀ height metadata, blockMetadata height = some metadata → ∀ pool size,
    metadata.treeSize pool = some size → size = chain.size pool height

section Trees

variable {library : TreeLibrary Tree} {view : TreeView Tree} {chain : ChainTrees}
  {pool : ShieldedPool} {tree : Tree} {trees : Trees Tree}
  {blockMetadata : BlockHeight → Option BlockMetadata} {fault : StepFault AnchorStep}

/-- A tree that the library refuses: a root that it cannot read, or a checkpoint that it cannot
add. -/
def Refuses (library : TreeLibrary Tree) (pool : ShieldedPool) (tree : Tree) (height : BlockHeight)
    (reason : String) : Prop :=
  library.rootAtCheckpointId pool tree height = .error reason ∨
    ∃ checkpoint, library.addCheckpoint tree height checkpoint = .error reason

/-- The root at a checkpoint of a tree on the chain is the chain's at that height. -/
theorem OnChain.rootAt (lawful : library.Lawful view) (onChain : OnChain view chain pool tree)
    (answered : library.rootAtCheckpointId pool tree height = .ok (some root)) :
    root = chain.root pool (chain.size pool height) := by
  cases found : view.sizeAt tree height with
  | none => cases lawful.root_absent pool tree height _ found answered
  | some size =>
    obtain ⟨given, same, read⟩ := lawful.root_present pool tree height size _ found answered
    obtain rfl := Option.some.inj same
    obtain rfl := onChain.sizes height size found
    exact onChain.roots _ _ read

/-- At a checkpoint that is there a tree gives a root or fails. -/
theorem rootAt_ne_none (lawful : library.Lawful view) (present : (view.sizeAt tree height).isSome) :
    library.rootAtCheckpointId pool tree height ≠ .ok none := by
  intro answered
  obtain ⟨size, found⟩ := Option.isSome_iff_exists.mp present
  obtain ⟨root, absent, -⟩ := lawful.root_present _ _ _ _ _ found answered
  cases absent

theorem isSome_of_rootAt (lawful : library.Lawful view)
    (answered : library.rootAtCheckpointId pool tree height = .ok (some root)) :
    (view.sizeAt tree height).isSome := by
  cases found : view.sizeAt tree height with
  | none => cases lawful.root_absent _ _ _ _ found answered
  | some size => rfl

theorem sizeAt_eq_none (lawful : library.Lawful view)
    (absent : library.rootAtCheckpointId pool tree height = .ok none) :
    view.sizeAt tree height = none :=
  Option.not_isSome_iff_eq_none.mp fun present => rootAt_ne_none lawful present absent

/-- A checkpoint of the chain's size keeps the tree on the chain. -/
theorem OnChain.adds (lawful : library.Lawful view) (onChain : OnChain view chain pool tree)
    (added : library.addCheckpoint tree height (.ofSize (chain.size pool height)) = .ok larger) :
    OnChain view chain pool larger := by
  obtain ⟨sizes, roots⟩ := lawful.adds tree height _ larger added
  refine ⟨by rw [roots]; exact onChain.roots, fun other size found => ?_⟩
  rw [sizes,TreeCheckpoint.size_ofSize] at found
  by_cases same : other = height
  · subst same
    rw [Function.update_self] at found
    exact (Option.some.inj found).symm
  · rw [Function.update_of_ne same] at found
    exact onChain.sizes other size found

/-- What is added where nothing is leaves every other checkpoint. -/
theorem Extends.adds (lawful : library.Lawful view) (absent : view.sizeAt tree height = none)
    (added : library.addCheckpoint tree height checkpoint = .ok larger) :
    Extends view [height] tree larger := by
  obtain ⟨sizes, roots⟩ := lawful.adds tree height _ larger added
  refine ⟨roots, fun other known => ?_⟩
  have apart : other ≠ height := by
    rintro rfl
    rcases known with outside | there
    · exact outside List.mem_cons_self
    · rw [absent] at there
      cases there
  rw [sizes,Function.update_of_ne apart]

/-- The checkpoint of an anchor is there already, or is added, or the library refuses the tree. -/
theorem ensureProposalTreeCheckpoint_cases (lawful : library.Lawful view)
    (onChain : OnChain view chain pool tree) (height : BlockHeight) :
    (∃ reason, ensureProposalTreeCheckpoint library pool tree height (chain.size pool height) =
        .error reason ∧ Refuses library pool tree height reason) ∨
      ∃ larger, ensureProposalTreeCheckpoint library pool tree height (chain.size pool height) =
        .ok larger ∧ OnChain view chain pool larger ∧ Extends view [height] tree larger ∧
          (view.sizeAt larger height).isSome := by
  unfold ensureProposalTreeCheckpoint
  cases read : library.rootAtCheckpointId pool tree height with
  | error reason => exact .inl ⟨reason, rfl, .inl read⟩
  | ok found =>
    cases found with
    | some root =>
      exact .inr ⟨tree, rfl, onChain, .refl view _ tree, isSome_of_rootAt lawful read⟩
    | none =>
      change (∃ reason, library.addCheckpoint tree height _ = _ ∧ _) ∨
        ∃ larger, library.addCheckpoint tree height _ = _ ∧ _
      cases added : library.addCheckpoint tree height (.ofSize (chain.size pool height)) with
      | error reason => exact .inl ⟨reason, rfl, .inr ⟨_, added⟩⟩
      | ok larger =>
        have sizes := (lawful.adds tree height _ larger added).1
        refine .inr ⟨larger, rfl, onChain.adds lawful added,
          .adds lawful (sizeAt_eq_none lawful read) added, ?_⟩
        rw [sizes,Function.update_self]
        rfl

/-- What a preparation does to the trees: they stay on the chain, under more checkpoints. -/
structure Grows (view : TreeView Tree) (chain : ChainTrees) (heights : List BlockHeight)
    (before after : Trees Tree) : Prop where
  onChain : ∀ pool, OnChain view chain pool (after pool)
  extended : ∀ pool, Extends view heights (before pool) (after pool)

theorem Grows.refl (onChain : ∀ pool, OnChain view chain pool (trees pool)) :
    Grows view chain heights trees trees := ⟨onChain, fun pool => .refl view heights (trees pool)⟩

theorem Grows.trans (first : Grows view chain heights before middle)
    (second : Grows view chain heights middle after) : Grows view chain heights before after :=
  ⟨second.onChain, fun pool => (first.extended pool).trans (second.extended pool)⟩

theorem Grows.mono (grown : Grows view chain heights before after) (among : heights ⊆ more) :
    Grows view chain more before after :=
  ⟨grown.onChain, fun pool => (grown.extended pool).mono among⟩

theorem Grows.update (onChain : ∀ pool, OnChain view chain pool (trees pool))
    (larger : OnChain view chain pool grown) (extended : Extends view heights (trees pool) grown) :
    Grows view chain heights trees (Function.update trees pool grown) := by
  have each : ∀ other, OnChain view chain other (Function.update trees pool grown other) ∧
      Extends view heights (trees other) (Function.update trees pool grown other) := by
    intro other
    by_cases same : other = pool
    · subst same
      rw [Function.update_self]
      exact ⟨larger, extended⟩
    · rw [Function.update_of_ne same]
      exact ⟨onChain other, .refl view heights _⟩
  exact ⟨fun other => (each other).1, fun other => (each other).2⟩

theorem failsAt_error [DecidableEq σ] {fault : StepFault σ}
    (failed : failsAt fault step = .error error) : fault = some (step, error) := by
  unfold failsAt at failed
  split at failed
  · split at failed
    · rename_i same
      cases failed
      rw [same]
    · cases failed
  · cases failed

/-- Why a preparation of `trees` fails: a step did, the library refused one of the trees with the
checkpoints added so far, or the block of an anchor was not scanned. -/
def Failed (library : TreeLibrary Tree) (view : TreeView Tree) (fault : StepFault AnchorStep)
    (blockMetadata : BlockHeight → Option BlockMetadata) (heights : List BlockHeight)
    (trees : Trees Tree) (error : StorageError) : Prop :=
  (∃ failing, fault = some (failing, error)) ∨
  (∃ height ∈ heights, ∃ pool tree reason, Extends view heights (trees pool) tree ∧
    Refuses library pool tree height reason ∧ error = mapSqliteError reason) ∨
  ∃ height ∈ heights, blockMetadata height = none ∧ error = metadataUnavailable height

theorem Failed.mono (failed : Failed library view fault blockMetadata heights trees error)
    (among : heights ⊆ more) : Failed library view fault blockMetadata more trees error := by
  obtain stepped | ⟨height, member, pool, tree, reason, extended, refused⟩ |
      ⟨height, member, why⟩ :=
    failed
  · exact .inl stepped
  · exact .inr (.inl ⟨height, among member, pool, tree, reason, extended.mono among, refused⟩)
  · exact .inr (.inr ⟨height, among member, why⟩)

theorem Failed.after (grown : Grows view chain heights before trees)
    (failed : Failed library view fault blockMetadata heights trees error) :
    Failed library view fault blockMetadata heights before error :=
  failed.imp_right fun refused => refused.imp_left
    fun ⟨height, member, pool, tree, reason, extended, why⟩ =>
      ⟨height, member, pool, tree, reason, (grown.extended pool).trans extended, why⟩

/-- A scanned anchor has a checkpoint in every pool whose size was recorded. -/
def HasAnchor (view : TreeView Tree) (blockMetadata : BlockHeight → Option BlockMetadata)
    (trees : Trees Tree) (height : BlockHeight) : Prop :=
  ∃ metadata, blockMetadata height = some metadata ∧ ∀ pool size,
    metadata.treeSize pool = some size → (view.sizeAt (trees pool) height).isSome

theorem isSome_of_grows (present : (view.sizeAt (trees pool) height).isSome)
    (grown : Grows view chain heights trees after) : (view.sizeAt (after pool) height).isSome := by
  rwa [(grown.extended pool).sizes height (.inr present)]

theorem HasAnchor.grows (has : HasAnchor view blockMetadata trees height)
    (grown : Grows view chain heights trees after) : HasAnchor view blockMetadata after height := by
  obtain ⟨metadata, recorded, present⟩ := has
  exact ⟨metadata, recorded, fun pool size found => isSome_of_grows (present pool size found) grown⟩

/-- How the trees of one anchor end. -/
def TreesEnd (library : TreeLibrary Tree) (view : TreeView Tree) (fault : StepFault AnchorStep)
    (blockMetadata : BlockHeight → Option BlockMetadata) (height : BlockHeight)
    (metadata : BlockMetadata) (pools : List ShieldedPool) (before after : Trees Tree) :
    Except StorageError Unit → Prop
  | .ok () => ∀ pool ∈ pools, ∀ size, metadata.treeSize pool = some size →
      (view.sizeAt (after pool) height).isSome
  | .error error => Failed library view fault blockMetadata [height] before error

theorem ensureTrees_grows (lawful : library.Lawful view)
    (onChain : ∀ pool, OnChain view chain pool (trees pool)) (records : Records chain blockMetadata)
    (recorded : blockMetadata height = some metadata)
    (ran : ensureTrees library fault step height metadata pools trees = (result, after)) :
    Grows view chain [height] trees after ∧
      TreesEnd library view fault blockMetadata height metadata pools trees after result := by
  induction pools generalizing trees with
  | nil =>
    obtain ⟨rfl, rfl⟩ := Prod.mk.inj ran
    exact ⟨.refl onChain, nofun⟩
  | cons pool pools ih =>
    -- the tree of the pool, once its transaction went through
    have onward {tree : Tree} (whole : OnChain view chain pool tree)
        (extended : Extends view [height] (trees pool) tree)
        (present : ∀ size, metadata.treeSize pool = some size → (view.sizeAt tree height).isSome)
        (rest : ensureTrees library fault step height metadata pools
          (Function.update trees pool tree) = (result, after)) :
        Grows view chain [height] trees after ∧ TreesEnd library view fault blockMetadata height
          metadata (pool :: pools) trees after result := by
      have grown := Grows.update onChain whole extended
      obtain ⟨later, ended⟩ := ih grown.onChain rest
      refine ⟨grown.trans later, ?_⟩
      cases result with
      | error error => exact Failed.after grown ended
      | ok done =>
        refine List.forall_mem_cons.mpr ⟨fun size found => isSome_of_grows ?_ later, ended⟩
        rw [Function.update_self]
        exact present size found
    rw [ensureTrees] at ran
    cases failed : failsAt fault (.withTreeMut step pool) with
    | error error =>
      rw [failed] at ran
      obtain ⟨rfl, rfl⟩ := Prod.mk.inj ran
      exact ⟨.refl onChain, .inl ⟨_, failsAt_error failed⟩⟩
    | ok done =>
      rw [failed] at ran
      cases known : metadata.treeSize pool with
      | none =>
        simp only [bind,Except.bind,known] at ran
        exact onward (onChain pool) (.refl view _ _)
          (fun size found => by cases known.symm.trans found) ran
      | some treeSize =>
        obtain rfl := records height metadata recorded pool treeSize known
        simp only [bind,Except.bind,known] at ran
        obtain ⟨reason, ensured, refused⟩ | ⟨larger, ensured, whole, extended, present⟩ :=
          ensureProposalTreeCheckpoint_cases lawful (onChain pool) height
        · rw [ensured] at ran
          obtain ⟨rfl, rfl⟩ := Prod.mk.inj ran
          exact ⟨.refl onChain, .inr (.inl ⟨height, List.mem_cons_self, pool, trees pool, reason,
            .refl view _ _, refused, rfl⟩)⟩
        · rw [ensured] at ran
          exact onward whole extended (fun _ _ => present) ran

/-- How a preparation ends. -/
def Ends (library : TreeLibrary Tree) (view : TreeView Tree) (fault : StepFault AnchorStep)
    (blockMetadata : BlockHeight → Option BlockMetadata) (heights : List BlockHeight)
    (before after : Trees Tree) : Except StorageError Unit → Prop
  | .ok () => ∀ height ∈ heights, HasAnchor view blockMetadata after height
  | .error error => Failed library view fault blockMetadata heights before error

theorem ensureSteps_grows (lawful : library.Lawful view)
    (onChain : ∀ pool, OnChain view chain pool (trees pool)) (records : Records chain blockMetadata)
    (ran : ensureSteps library fault blockMetadata policyAnchor step anchors trees =
      (result, after)) :
    Grows view chain (anchors.map (·.getD policyAnchor)) trees after ∧
      Ends library view fault blockMetadata (anchors.map (·.getD policyAnchor)) trees after
        result := by
  induction anchors generalizing step trees with
  | nil =>
    obtain ⟨rfl, rfl⟩ := Prod.mk.inj ran
    exact ⟨.refl onChain, nofun⟩
  | cons anchor anchors ih =>
    rw [ensureSteps] at ran
    rw [List.map_cons]
    generalize anchor.getD policyAnchor = height at ran ⊢
    have first : [height] ⊆ height :: anchors.map (·.getD policyAnchor) :=
      List.cons_subset_cons _ (List.nil_subset _)
    have others := List.subset_cons_self height (anchors.map (·.getD policyAnchor))
    cases failed : failsAt fault (.blockMetadata step) with
    | error error =>
      rw [failed] at ran
      obtain ⟨rfl, rfl⟩ := Prod.mk.inj ran
      exact ⟨.refl onChain, .inl ⟨_, failsAt_error failed⟩⟩
    | ok done =>
      rw [failed] at ran
      cases recorded : blockMetadata height with
      | none =>
        simp only [recorded] at ran
        obtain ⟨rfl, rfl⟩ := Prod.mk.inj ran
        exact ⟨.refl onChain, .inr (.inr ⟨height, List.mem_cons_self, recorded, rfl⟩)⟩
      | some metadata =>
        simp only [recorded] at ran
        cases ensured : ensureTrees library fault step height metadata
            [.sapling, .orchard, .ironwood] trees with
        | mk answer middle =>
        obtain ⟨grown, ended⟩ := ensureTrees_grows lawful onChain records recorded ensured
        simp only [ensured] at ran
        cases answer with
        | error error =>
          obtain ⟨rfl, rfl⟩ := Prod.mk.inj ran
          exact ⟨grown.mono first, Failed.mono ended first⟩
        | ok done =>
          obtain ⟨later, rest⟩ := ih grown.onChain ran
          refine ⟨(grown.mono first).trans (later.mono others), ?_⟩
          have has : HasAnchor view blockMetadata middle height :=
            ⟨metadata, recorded, fun pool => ended pool (by cases pool <;> simp)⟩
          cases result with
          | ok done => exact List.forall_mem_cons.mpr ⟨has.grows later, rest⟩
          | error error => exact Failed.after (grown.mono first) (Failed.mono rest others)

/-- The trees from `start` on, under scans and preparations in any order; what the scans recorded
by a preparation is of the chain. -/
inductive Reached (library : TreeLibrary Tree) (chain : ChainTrees)
    (scans : Trees Tree → Trees Tree → Prop) (start : Trees Tree) : Trees Tree → Prop
  | start : Reached library chain scans start start
  | scan : Reached library chain scans start before → scans before after →
      Reached library chain scans start after
  | prepare {blockMetadata : BlockHeight → Option BlockMetadata} {fault : StepFault AnchorStep}
      {anchors : List (Option BlockHeight)} :
      Reached library chain scans start before → Records chain blockMetadata →
      ensureProposalAnchors library fault blockMetadata policyAnchor anchors before =
        (result, after) → Reached library chain scans start after

/-- What is relied on from a scan: it keeps trees of the chain's leaves and sizes such trees. -/
def ScansChain (view : TreeView Tree) (chain : ChainTrees)
    (scans : Trees Tree → Trees Tree → Prop) : Prop :=
  ∀ before after, scans before after → (∀ pool, OnChain view chain pool (before pool)) →
    ∀ pool, OnChain view chain pool (after pool)

theorem Reached.onChain {start : Trees Tree} (lawful : library.Lawful view)
    (keeps : ScansChain view chain scans) (sound : ∀ pool, OnChain view chain pool (start pool))
    (reached : Reached library chain scans start trees) :
    ∀ pool, OnChain view chain pool (trees pool) := by
  induction reached with
  | start => exact sound
  | scan earlier scanned ih => exact keeps _ _ scanned ih
  | prepare earlier records ran ih => exact (ensureSteps_grows lawful ih records ran).1.onChain

/-- Scans of the chain and preparations of proposals, in any order, failed ones included, from trees
of the chain: whatever root a tree gives after a further preparation is the chain's at that height.
The preparation takes no root away, and adds none at a height that no anchor names. If it succeeds,
no anchor lacks its root in a pool whose size was recorded, and if not, a step failed, the library
refused a tree, or an anchor's block was not scanned. -/
theorem anchors_onChain {start : Trees Tree} {anchors : List (Option BlockHeight)}
    {result : Except StorageError Unit} (lawful : library.Lawful view)
    (keeps : ScansChain view chain scans) (sound : ∀ pool, OnChain view chain pool (start pool))
    (reached : Reached library chain scans start trees) (records : Records chain blockMetadata)
    (ran : ensureProposalAnchors library fault blockMetadata policyAnchor anchors trees =
      (result, after)) :
    (∀ pool height root, library.rootAtCheckpointId pool (after pool) height = .ok (some root) →
      root = chain.root pool (chain.size pool height)) ∧
    (∀ pool height root, library.rootAtCheckpointId pool (trees pool) height = .ok (some root) →
      library.rootAtCheckpointId pool (after pool) height ≠ .ok none) ∧
    (∀ pool, ∀ height ∉ anchors.map (·.getD policyAnchor),
      library.rootAtCheckpointId pool (trees pool) height = .ok none →
      ∀ root, library.rootAtCheckpointId pool (after pool) height ≠ .ok (some root)) ∧
    match result with
    | .ok () => ∀ height ∈ anchors.map (·.getD policyAnchor), ∃ metadata,
        blockMetadata height = some metadata ∧ ∀ pool size, metadata.treeSize pool = some size →
          library.rootAtCheckpointId pool (after pool) height ≠ .ok none
    | .error error => Failed library view fault blockMetadata (anchors.map (·.getD policyAnchor))
        trees error := by
  obtain ⟨grown, ended⟩ := ensureSteps_grows lawful (reached.onChain lawful keeps sound) records ran
  refine ⟨fun pool height root => (grown.onChain pool).rootAt lawful,
    fun pool height root answered => ?_, fun pool height other absent root answered => ?_, ?_⟩
  · exact rootAt_ne_none lawful (isSome_of_grows (isSome_of_rootAt lawful answered) grown)
  · have kept := (grown.extended pool).sizes height (.inl other)
    have present := isSome_of_rootAt lawful answered
    rw [kept,sizeAt_eq_none lawful absent] at present
    cases present
  · cases result with
    | error error => exact ended
    | ok done =>
      intro height member
      obtain ⟨metadata, recorded, present⟩ := ended height member
      exact ⟨metadata, recorded, fun pool size found =>
        rootAt_ne_none lawful (present pool size found)⟩

end Trees

section Sample

/-- Leaves with the sizes at their checkpoints. -/
structure LeafTree where
  leaves : List Nat
  sizeAt : BlockHeight → Option Nat

/-- A root that tells a few small leaves apart. -/
def leafRoot (leaves : List Nat) : RootBytes :=
  BitVec.ofNat 256 (leaves.foldl (fun root leaf => 1000 * root + leaf + 1) 0)

def LeafTree.rootOf (tree : LeafTree) (size : Nat) : Option RootBytes :=
  if size ≤ tree.leaves.length then some (leafRoot (tree.leaves.take size)) else none

def leafLibrary : TreeLibrary LeafTree where
  rootAtCheckpointId _ tree height :=
    match tree.sizeAt height with
    | none => .ok none
    | some size => match tree.rootOf size with
      | none => .error "tree is incomplete"
      | some root => .ok (some root)
  addCheckpoint tree height checkpoint :=
    .ok { tree with sizeAt := Function.update tree.sizeAt height (some checkpoint.size) }

def leafView : TreeView LeafTree := ⟨LeafTree.sizeAt, fun _ => LeafTree.rootOf⟩

theorem leafLibrary_lawful : leafLibrary.Lawful leafView where
  root_present pool tree height size found present answered := by
    change tree.sizeAt height = some size at present
    simp only [leafLibrary,present] at answered
    split at answered
    · cases answered
    · rename_i root read
      exact ⟨root, (Except.ok.inj answered).symm, read⟩
  root_absent pool tree height found absent answered := by
    change tree.sizeAt height = none at absent
    simp only [leafLibrary,absent] at answered
    exact (Except.ok.inj answered).symm
  adds tree height checkpoint after added := by
    obtain rfl := Except.ok.inj added
    exact ⟨rfl, fun pool => rfl⟩

/-- One leaf in each block. -/
def leafChain : ChainTrees where
  size _ height := height
  root _ size := leafRoot (List.range size)

/-- Two scanned blocks, of which only the second was checkpointed. -/
def scannedTree : LeafTree := ⟨[0, 1], fun height => if height = 2 then some 2 else none⟩

def leafMetadata (height : BlockHeight) : Option BlockMetadata :=
  if height ≤ 2 then some ⟨fun _ => some height⟩ else none

theorem scannedTree_onChain (pool : ShieldedPool) :
    OnChain leafView leafChain pool scannedTree where
  roots size root read := by
    change (if size ≤ 2 then some (leafRoot ([0, 1].take size)) else none) = some root at read
    split at read
    · rename_i within
      obtain rfl := Option.some.inj read
      match size, within with
      | 0, _ | 1, _ | 2, _ => rfl
    · cases read
  sizes height size found := by
    change (if height = 2 then some 2 else none) = some size at found
    split at found
    · rename_i last
      rw [last]
      exact (Option.some.inj found).symm
    · cases found

/-- The scan of the two blocks. -/
def scansBoth (_ after : Trees LeafTree) : Prop := after = fun _ => scannedTree

def unscanned : Trees LeafTree := fun _ => ⟨[], fun _ => none⟩

theorem unscanned_onChain (pool : ShieldedPool) :
    OnChain leafView leafChain pool (unscanned pool) where
  roots size root read := by
    change (if size ≤ 0 then some (leafRoot ([].take size)) else none) = some root at read
    split at read
    · rename_i within
      obtain rfl := Option.some.inj read
      obtain rfl := Nat.le_zero.mp within
      rfl
    · cases read
  sizes height size found := by cases found

/-- A proposal whose second step takes the anchor of the policy, the block under the tip. -/
theorem samplePreparation_onChain : ∃ after,
    ensureProposalAnchors leafLibrary none leafMetadata 1 [some 2, none] (fun _ => scannedTree) =
      (.ok (), after) ∧
    leafLibrary.rootAtCheckpointId .orchard scannedTree 1 = .ok none ∧
    leafLibrary.rootAtCheckpointId .orchard (after .orchard) 1 = .ok (some (leafRoot [0])) ∧
    ∀ pool height root, leafLibrary.rootAtCheckpointId pool (after pool) height = .ok (some root) →
      root = leafChain.root pool (leafChain.size pool height) := by
  have records : Records leafChain leafMetadata := by
    intro height metadata recorded pool size found
    unfold leafMetadata at recorded
    split at recorded
    · obtain rfl := Option.some.inj recorded
      exact (Option.some.inj found).symm
    · cases recorded
  have ran : ensureProposalAnchors leafLibrary none leafMetadata 1 [some 2, none]
      (fun _ => scannedTree) = (.ok (), _) := rfl
  have keeps : ScansChain leafView leafChain scansBoth := by
    rintro before after rfl sound
    exact scannedTree_onChain
  have reached : Reached leafLibrary leafChain scansBoth unscanned _ := .scan .start rfl
  obtain ⟨onChain, -⟩ :=
    anchors_onChain leafLibrary_lawful keeps unscanned_onChain reached records ran
  exact ⟨_, ran, rfl, rfl, onChain⟩

end Sample
end Zally.Anchors
