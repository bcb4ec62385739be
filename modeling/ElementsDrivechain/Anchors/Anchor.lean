import ElementsDrivechain.Foundations.Forest
import ElementsDrivechain.Replay.Environment

/-!
# Anchors of sidechain blocks in the parent chain

A sidechain block commits to a parent block `P`, and the successor `Q` of `P` commits to the
sidechain block.  The node records the edge `P → Q` with the block as its *anchor*.  A parent
reorganisation may take `P` or `Q` off the active parent chain; the node then has to find out, and
it tells a block that has left the chain from a parent node that cannot answer.

Parent blocks form a forest: a block commits to its predecessor.  The active parent chain is the
ancestry of its tip.

* `anchorStatus_eq_active` : an active anchor has both ends at their heights.
* `DrivechainAnchor.OnChain.precedes` : on one chain, an anchor that follows another lies above it.
-/

namespace ElementsDrivechain

/-- The edge of the parent chain that a sidechain block is bound to. -/
structure DrivechainAnchor where
  version : ℕ := 1
  /-- The block `P`. -/
  parentBlockHash : Uint256
  /-- Its successor `Q`. -/
  bmmBlockHash : Uint256
  parentChainwork : Uint256
  bmmChainwork : Uint256
  parentHeight : ℕ
  bmmHeight : ℕ
  parentMedianTimePast : ℕ
deriving DecidableEq

namespace DrivechainAnchor

/-- The version of anchors that are written. -/
def CURRENT_VERSION : ℕ := 1

/-- Heights are 32-bit numbers, so the successor of the largest one is zero. -/
def IsSane (anchor : DrivechainAnchor) : Prop :=
  anchor.version = CURRENT_VERSION ∧
    anchor.parentBlockHash ≠ 0 ∧
    anchor.bmmBlockHash ≠ 0 ∧
    anchor.parentChainwork ≠ 0 ∧
    anchor.bmmChainwork ≠ 0 ∧
    anchor.bmmHeight = (anchor.parentHeight + 1) % 2 ^ 32 ∧
    anchor.parentChainwork.toArith < anchor.bmmChainwork.toArith ∧
    anchor.parentMedianTimePast ≤ 2 ^ 32 - 1
deriving Decidable

/-- The anchor could follow another one on one parent chain, as far as heights and work tell. -/
def Follows (anchor previous : DrivechainAnchor) : Prop :=
  (anchor.IsSane ∧ previous.IsSane ∧ previous.bmmHeight ≤ anchor.parentHeight) ∧
    if anchor.parentHeight = previous.bmmHeight then
      anchor.parentBlockHash = previous.bmmBlockHash ∧
        anchor.parentChainwork = previous.bmmChainwork
    else previous.bmmChainwork.toArith < anchor.parentChainwork.toArith
deriving Decidable

theorem Follows.height_le {anchor previous : DrivechainAnchor} (h : anchor.Follows previous) :
    previous.bmmHeight ≤ anchor.parentHeight := h.1.2.2

end DrivechainAnchor

/-! ### Is an anchor active -/

/-- What the parent chain says of an anchor. -/
inductive DrivechainAnchorStatus
  | ACTIVE
  | ORPHANED
  | UNAVAILABLE
deriving DecidableEq

/-- The work grows by the proof of the successor. -/
def CheckParentChainworkStep (parent successor : AuthenticatedHeader) : Prop :=
  successor.blockProof ≠ 0 ∧
    successor.chainwork.toArith = (parent.chainwork.toArith + successor.blockProof) % 2 ^ 256
deriving Decidable

/-- The answers to the questions about one anchor.  Each is given at a moment of its own. -/
structure AnchorReads where
  /-- The active block at the height of `P`. -/
  activeParentHash : Option Uint256 := none
  /-- The active block at the height of `Q`. -/
  activeSuccessorHash : Option Uint256 := none
  parent : Option AuthenticatedHeader := none
  successor : Option AuthenticatedHeader := none
  /-- The replay reaches `Q`. -/
  pinned : Bool := false

/-- The headers are those of the anchor. -/
def AuthenticContext (anchor : DrivechainAnchor) (parent successor : AuthenticatedHeader) : Prop :=
  parent.height = anchor.parentHeight ∧ successor.height = anchor.bmmHeight ∧
    successor.hashPrevBlock = anchor.parentBlockHash ∧
    parent.chainwork = anchor.parentChainwork ∧ successor.chainwork = anchor.bmmChainwork ∧
    parent.medianTimePast = anchor.parentMedianTimePast ∧ CheckParentChainworkStep parent successor
deriving Decidable

/-- The verdict of `IsDrivechainAnchorActive`.  Only another block at one of the two heights makes
an anchor orphaned; whatever else is wrong leaves it undecided. -/
def anchorStatus (anchor : DrivechainAnchor) (reads : AnchorReads) : DrivechainAnchorStatus :=
  if ¬anchor.IsSane then .UNAVAILABLE
  else
    match reads.activeParentHash with
    | none => .UNAVAILABLE
    | some activeParentHash =>
      if activeParentHash ≠ anchor.parentBlockHash then .ORPHANED
      else
        match reads.activeSuccessorHash with
        | none => .UNAVAILABLE
        | some activeSuccessorHash =>
          if activeSuccessorHash ≠ anchor.bmmBlockHash then .ORPHANED
          else
            match reads.parent, reads.successor with
            | some parent, some successor =>
              if reads.pinned = true ∧ AuthenticContext anchor parent successor then .ACTIVE
              else .UNAVAILABLE
            | _, _ => .UNAVAILABLE

/-- **An active anchor has both ends at their heights.** -/
theorem anchorStatus_eq_active {anchor : DrivechainAnchor} {reads : AnchorReads}
    (h : anchorStatus anchor reads = .ACTIVE) :
    reads.activeParentHash = some anchor.parentBlockHash ∧
      reads.activeSuccessorHash = some anchor.bmmBlockHash := by
  unfold anchorStatus at h
  split_ifs at h
  cases hparent : reads.activeParentHash with
  | none => simp [hparent] at h
  | some activeParentHash =>
    simp only [hparent] at h
    split_ifs at h with hne
    cases hsuccessor : reads.activeSuccessorHash with
    | none => simp [hsuccessor] at h
    | some activeSuccessorHash =>
      simp only [hsuccessor] at h
      split_ifs at h with hne'
      exact ⟨congrArg some (not_not.1 hne), congrArg some (not_not.1 hne')⟩

/-! ### Snapshots -/

/-- Anchors found active under one parent tip and one epoch of the replay. -/
structure DrivechainAnchorSnapshot where
  parentTip : Uint256
  epoch : ℕ
  activeAnchors : List DrivechainAnchor := []
deriving DecidableEq

namespace DrivechainAnchorSnapshot

variable (snapshot : DrivechainAnchorSnapshot)

/-- The snapshot was made in the given epoch. -/
def EpochMatches (epoch : ℕ) : Prop := snapshot.epoch ≠ 0 ∧ snapshot.epoch = epoch
deriving Decidable

/-- It was made under the given tip, too. -/
def Matches (parentTip : Uint256) (epoch : ℕ) : Prop :=
  snapshot.parentTip ≠ 0 ∧ snapshot.parentTip = parentTip ∧ snapshot.EpochMatches epoch
deriving Decidable

/-- The anchor is known to be active in the given epoch. -/
def Contains (anchor : DrivechainAnchor) (epoch : ℕ) : Prop :=
  snapshot.EpochMatches epoch ∧ anchor.IsSane ∧ anchor ∈ snapshot.activeAnchors
deriving Decidable

/-- Add an anchor that was found active. -/
def add (anchor : DrivechainAnchor) (status : DrivechainAnchorStatus) :
    Option DrivechainAnchorSnapshot :=
  if status ≠ .ACTIVE ∨ ¬anchor.IsSane ∨ snapshot.parentTip = 0 ∨
      ¬snapshot.EpochMatches snapshot.epoch then none
  else some { snapshot with activeAnchors := anchor :: snapshot.activeAnchors }

end DrivechainAnchorSnapshot

/-! ### The edge a block is committed in -/

/-- How the search for the commitment to a block ends. -/
inductive DrivechainBmmStatus
  | VALID
  | INVALID
  | PARENT_REJECTED
  | UNAVAILABLE
deriving DecidableEq

/-- A parent block and its successor. -/
structure DrivechainBmmBlockContext where
  parentHash : Uint256 := 0
  parentChainwork : Uint256 := 0
  parentHeight : ℕ := 0
  parentMedianTimePast : ℕ := 0
  /-- The value that the successor commits to for the sidechain block. -/
  criticalHash : Uint256 := 0
  /-- The successor. -/
  bmmBlockHash : Uint256 := 0
  bmmChainwork : Uint256 := 0
  bmmHeight : ℕ := 0
deriving DecidableEq

/-- The anchor for an edge. -/
def makeDrivechainAnchor (context : DrivechainBmmBlockContext) : DrivechainAnchor where
  parentBlockHash := context.parentHash
  bmmBlockHash := context.bmmBlockHash
  parentChainwork := context.parentChainwork
  bmmChainwork := context.bmmChainwork
  parentHeight := context.parentHeight
  bmmHeight := context.bmmHeight
  parentMedianTimePast := context.parentMedianTimePast

/-- The verdict of `GetDrivechainBmmBlockStatus` from what was found for the block and from the last
two answers of the parent node.  However the edge was found, its second end is one level above the
first, and both ends are read again from the active chain before the edge is called valid. -/
def bmmStatus (found : DrivechainBmmStatus × DrivechainBmmBlockContext)
    (activeParentHash activeSuccessorHash : Option Uint256) : DrivechainBmmStatus :=
  if found.1 = .VALID ∧ ¬(found.2.bmmHeight = found.2.parentHeight + 1 ∧
      activeParentHash = some found.2.parentHash ∧
      activeSuccessorHash = some found.2.bmmBlockHash) then .UNAVAILABLE
  else found.1

theorem bmmStatus_eq_valid {found : DrivechainBmmStatus × DrivechainBmmBlockContext}
    {activeParentHash activeSuccessorHash : Option Uint256}
    (h : bmmStatus found activeParentHash activeSuccessorHash = .VALID) :
    found.2.bmmHeight = found.2.parentHeight + 1 ∧
      activeParentHash = some found.2.parentHash ∧
      activeSuccessorHash = some found.2.bmmBlockHash := by
  unfold bmmStatus at h
  split_ifs at h with hc
  exact not_not.1 fun hn => hc ⟨h, hn⟩

/-- An orphaned anchor may be replaced by one that follows that of the predecessor. -/
def IsDrivechainAnchorReplacementAllowed (oldStatus : DrivechainAnchorStatus)
    (oldAnchor replacement : DrivechainAnchor) (predecessorAnchor : Option DrivechainAnchor) :
    Prop :=
  oldStatus = .ORPHANED ∧ oldAnchor.IsSane ∧ replacement.IsSane ∧ oldAnchor ≠ replacement ∧
    ∀ predecessor ∈ predecessorAnchor, replacement.Follows predecessor
deriving Decidable

/-! ### The active parent chain -/

/-- Both ends of the anchor are on the chain of the parent tip, at the recorded heights. -/
structure DrivechainAnchor.OnChain (parents : Forest Uint256) (parentTip : Uint256)
    (anchor : DrivechainAnchor) : Prop where
  parent_mem : anchor.parentBlockHash ∈ parents.ancestry parentTip
  bmm_mem : anchor.bmmBlockHash ∈ parents.ancestry parentTip
  parent_height : parents.height anchor.parentBlockHash = anchor.parentHeight
  bmm_height : parents.height anchor.bmmBlockHash = anchor.bmmHeight

instance (parents : Forest Uint256) (parentTip : Uint256) :
    DecidablePred (DrivechainAnchor.OnChain parents parentTip) := fun anchor =>
  decidable_of_iff (anchor.parentBlockHash ∈ parents.ancestry parentTip ∧
      anchor.bmmBlockHash ∈ parents.ancestry parentTip ∧
      parents.height anchor.parentBlockHash = anchor.parentHeight ∧
      parents.height anchor.bmmBlockHash = anchor.bmmHeight)
    ⟨fun ⟨hp, hq, hph, hqh⟩ => ⟨hp, hq, hph, hqh⟩, fun ⟨hp, hq, hph, hqh⟩ => ⟨hp, hq, hph, hqh⟩⟩

namespace DrivechainAnchor.OnChain

variable {parents : Forest Uint256} {parentTip : Uint256} {anchor previous : DrivechainAnchor}

theorem precedes (h : anchor.OnChain parents parentTip) (h' : previous.OnChain parents parentTip)
    (hfollows : anchor.Follows previous) :
    previous.bmmBlockHash ∈ parents.ancestry anchor.parentBlockHash := by
  refine Forest.mem_of_height_le h'.bmm_mem h.parent_mem ?_
  rw [h'.bmm_height, h.parent_height]
  exact hfollows.height_le

theorem parent_mem_bmm (h : anchor.OnChain parents parentTip)
    (hheight : anchor.bmmHeight = anchor.parentHeight + 1) :
    anchor.parentBlockHash ∈ parents.ancestry anchor.bmmBlockHash := by
  refine Forest.mem_of_height_le h.parent_mem h.bmm_mem ?_
  rw [h.parent_height, h.bmm_height, hheight]
  exact Nat.le_succ _

end DrivechainAnchor.OnChain

end ElementsDrivechain
