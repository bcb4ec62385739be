import ElementsDrivechain.Anchors.NodeRun

/-!
# Scenarios

A parent node that has the whole tree of parent blocks and tells the truth about the chain of its
tip.  A node that talks to it performs a list of *scenes*: the parent chain is reorganised between
two calls, a call is made, or the parent chain is reorganised while a call is made.

* `ParentNode.sees_world` : the answers are true of the chain of the tip.
* `ParentNode.run_play` : **every scenario is a run**.
-/

namespace ElementsDrivechain

/-- A parent node that knows all parent blocks. -/
structure ParentNode where
  /-- The tree of parent blocks. -/
  parents : Forest Uint256
  chainwork : Uint256 → Uint256
  /-- The parent blocks that commit to a sidechain block. -/
  commits : Uint256 → List Uint256

namespace ParentNode

variable (node : ParentNode) (tip : Uint256)

/-- The active block at a height. -/
def activeAt (height : ℕ) : Option Uint256 :=
  (node.parents.ancestry tip).find? (node.parents.height · = height)

/-- The header of a parent block. -/
def header (hash : Uint256) : AuthenticatedHeader where
  height := node.parents.height hash
  chainwork := node.chainwork hash
  hashPrevBlock := (node.parents.parent hash).getD 0
  medianTimePast := 0
  blockProof := 1

/-- The edge that ends in a parent block. -/
def edge (bmm : Uint256) : DrivechainBmmBlockContext :=
  let parent := (node.parents.parent bmm).getD 0
  { parentHash := parent
    parentChainwork := node.chainwork parent
    parentHeight := node.parents.height parent
    bmmBlockHash := bmm
    bmmChainwork := node.chainwork bmm
    bmmHeight := node.parents.height bmm }

/-- What is found out about a sidechain block: the edge of the active chain that commits to it. -/
def bmmReads (b : Uint256) : BmmReads :=
  match (node.commits b).find? (· ∈ node.parents.ancestry tip) with
  | none => { found := (.PARENT_REJECTED, {}) }
  | some bmm =>
    { found := (.VALID, node.edge bmm)
      activeParentHash := node.activeAt tip (node.edge bmm).parentHeight
      activeSuccessorHash := node.activeAt tip (node.edge bmm).bmmHeight }

/-- The answers under a tip. -/
def world : NodeWorld where
  anchorReads anchor :=
    { activeParentHash := node.activeAt tip anchor.parentHeight
      activeSuccessorHash := node.activeAt tip anchor.bmmHeight
      parent := some (node.header anchor.parentBlockHash)
      successor := some (node.header anchor.bmmBlockHash)
      pinned := true }
  bmmReads := node.bmmReads tip
  bestBlockHash := some tip
  replayEpoch := 1

variable {node tip}

theorem activeAt_eq_some {height : ℕ} {hash : Uint256} (h : node.activeAt tip height = some hash) :
    ActiveAt node.parents tip height hash :=
  ⟨List.mem_of_find?_eq_some h, by simpa using List.find?_some h⟩

theorem sees_world : Sees node.parents {tip} (node.world tip) where
  anchor_parent _ _ h := ⟨tip, rfl, activeAt_eq_some h⟩
  anchor_successor _ _ h := ⟨tip, rfl, activeAt_eq_some h⟩
  bmm_parent b hash h := by
    refine ⟨tip, rfl, ?_⟩
    change hash ∈ (node.bmmReads tip b).activeParentHash at h
    change ActiveAt node.parents tip (node.bmmReads tip b).context.parentHeight hash
    unfold bmmReads at h ⊢
    split at h
    · exact absurd h nofun
    · exact activeAt_eq_some h
  bmm_successor b hash h := by
    refine ⟨tip, rfl, ?_⟩
    change hash ∈ (node.bmmReads tip b).activeSuccessorHash at h
    change ActiveAt node.parents tip (node.bmmReads tip b).context.bmmHeight hash
    unfold bmmReads at h ⊢
    split at h
    · exact absurd h nofun
    · exact activeAt_eq_some h
  best _ h := (Option.some.inj h).symm

end ParentNode

/-! ### Scenes -/

/-- What happens in a scenario. -/
inductive Scene
  | reorganised (parentTip : Uint256)
  | call (call : NodeCall)
  /-- The parent chain is reorganised behind the given number of answers. -/
  | torn (call : NodeCall) (answers : ℕ) (parentTip : Uint256)
deriving DecidableEq

namespace ParentNode

variable (node : ParentNode)

/-- What happens in a scene. -/
def event (s : NodeState) : Scene → NodeEvent
  | .reorganised parentTip => .reorganised parentTip
  | .call call => .call call .fixed (.const (node.world s.parentTip))
  | .torn call answers parentTip =>
    .call call (.changing parentTip)
      fun n => if n < answers then node.world s.parentTip else node.world parentTip

/-- The node behind a scene. -/
def after (s : NodeState) (scene : Scene) : NodeState :=
  match node.event s scene with
  | .reorganised parentTip => { s with parentTip := parentTip, settled := false }
  | .released => { s with loop := none }
  | .call call view worlds => (s.performed worlds call).observed view

/-- The call of a scene can be made. -/
def Possible (s : NodeState) : Scene → Prop
  | .reorganised _ => True
  | .call call => call.Allowed s
  | .torn call _ _ => call.Allowed s

instance (s : NodeState) : DecidablePred (Possible s)
  | .reorganised _ => isTrue trivial
  | .call call => inferInstanceAs (Decidable (call.Allowed s))
  | .torn call _ _ => inferInstanceAs (Decidable (call.Allowed s))

/-- The node behind a list of scenes, if the calls can be made. -/
def play : NodeState → List Scene → Option NodeState
  | s, [] => some s
  | s, scene :: scenes => if Possible s scene then play (node.after s scene) scenes else none

variable {node}

theorem nodeStep_after {s : NodeState} {scene : Scene} (h : Possible s scene) :
    NodeStep node.parents s (node.event s scene) (node.after s scene) := by
  cases scene with
  | reorganised parentTip => exact .reorganised parentTip
  | call call => exact .call h fun _ => sees_world
  | torn call answers parentTip =>
    refine .call h fun n => ?_
    change Sees node.parents Set.univ (if n < answers then _ else _)
    split_ifs
    · exact sees_world.mono (Set.subset_univ _)
    · exact sees_world.mono (Set.subset_univ _)

/-- **Every scenario is a run.** -/
theorem run_play {scenes : List Scene} {s t : NodeState} (h : node.play s scenes = some t) :
    ∃ events, Run (NodeStep node.parents) s events t ∧
      ∀ e ∈ events, ∃ u, ∃ scene ∈ scenes, e = node.event u scene := by
  induction scenes generalizing s with
  | nil =>
    obtain rfl := Option.some.inj h
    exact ⟨[], .nil, nofun⟩
  | cons scene scenes ih =>
    rw [play] at h
    split_ifs at h with hpossible
    obtain ⟨events, hrun, hevents⟩ := ih h
    refine ⟨[node.event s scene] ++ events, .append (.snoc .nil (nodeStep_after hpossible)) hrun,
      ?_⟩
    intro e he
    obtain he | he := List.mem_append.1 he
    · exact ⟨s, scene, List.mem_cons_self, List.mem_singleton.1 he⟩
    · obtain ⟨u, scene', hmem, he⟩ := hevents e he
      exact ⟨u, scene', List.mem_cons_of_mem _ hmem, he⟩

end ParentNode

end ElementsDrivechain
