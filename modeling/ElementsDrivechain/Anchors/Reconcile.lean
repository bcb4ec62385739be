import ElementsDrivechain.Anchors.Chainstate

/-!
# Anchor reconciliation

Before it looks for a better branch, a node checks that the parent chain still supports what it has.
One *pass* asks for the anchors of blocks, each block once: it disconnects the tip while its anchor
is orphaned, binds orphaned blocks off the active chain to a new edge where the parent chain has
one, and sorts the blocks it may switch to into those the parent chain supports and the others.

The order of the source is kept, with its early exits: a pass may stop at once because the startup
snapshot is out of date, it may stall and go on, or fail on the local disk.
-/

namespace ElementsDrivechain

open Effects

/-! ### Snapshots -/

/-- There is time left, and the epoch is that of the snapshot. -/
def CheckDrivechainAnchorSnapshotEpoch (snapshot : DrivechainAnchorSnapshot) (w : NodeWorld) :
    Prop :=
  w.deadline = true ∧ snapshot.EpochMatches w.replayEpoch
deriving Decidable

/-- The snapshot, if there is one, may still be used. -/
def SnapshotUsable (snapshot : Option DrivechainAnchorSnapshot) (w : NodeWorld) : Prop :=
  ∀ σ ∈ snapshot, CheckDrivechainAnchorSnapshotEpoch σ w
deriving Decidable

/-- The tip the snapshot was made under is still the best parent block. -/
def SnapshotTipCurrent (snapshot : DrivechainAnchorSnapshot) (w : NodeWorld) : Prop :=
  ∃ tip ∈ w.bestBlockHash, tip ≠ 0 ∧ snapshot.Matches tip w.replayEpoch
deriving Decidable

/-- The snapshot is current, before and after the tip of the parent chain is read. -/
def checkDrivechainAnchorSnapshot (snapshot : DrivechainAnchorSnapshot) : Node Bool := do
  let before ← world
  let now ← world
  let after ← world
  return decide (CheckDrivechainAnchorSnapshotEpoch snapshot before ∧
    SnapshotTipCurrent snapshot now ∧ CheckDrivechainAnchorSnapshotEpoch snapshot after)

/-! ### Verdicts -/

/-- The verdict on a block that has not been asked for in this pass. -/
def freshStatus (snapshot : Option DrivechainAnchorSnapshot) (w : NodeWorld) (e : CBlockIndex) :
    DrivechainAnchorStatus :=
  if e.nHeight = 0 then .ACTIVE
  else
    match e.drivechainAnchor with
    | none => .UNAVAILABLE
    | some anchor =>
      if ∃ σ ∈ snapshot, σ.Contains anchor w.replayEpoch then .ACTIVE
      else anchorStatus anchor (w.anchorReads anchor)

/-- Remember a verdict. -/
def remember (b : Uint256) (status : DrivechainAnchorStatus) : Node Unit :=
  modify fun s => { s with statusCache := s.statusCache.insert b status }

/-- The verdict on the anchor of a block.  A remembered verdict does not outlive the snapshot. -/
def getStatus (b : Uint256) : Node DrivechainAnchorStatus := do
  let check ← world
  let lookup ← world
  let s ← get
  let status :=
    if ¬SnapshotUsable s.chain.anchorSnapshot check then .UNAVAILABLE
    else (s.statusCache[b]?).getD (freshStatus s.chain.anchorSnapshot lookup (s.chain.block b))
  remember b status
  return status

/-! ### Disconnecting -/

/-- Disconnect the tip. -/
def disconnectTip : Node Unit := do
  let w ← world
  failIf (w.disconnectTip = false) "DisconnectTip(): Failed to read block"
  onChain fun c => { c with tip := c.tip.bind fun t => (c.block t).pprev }

/-- Disconnect the tip while its anchor is orphaned; the number bounds how often. -/
def disconnectOrphaned : ℕ → Node Unit
  | 0 => pure ()
  | n + 1 => do
    let s ← get
    match s.chain.tip with
    | none => pure ()
    | some anchoredTip =>
      if (s.chain.block anchoredTip).nHeight = 0 then pure ()
      else do
        let checked ← getStatus anchoredTip
        match checked with
        | .ACTIVE => pure ()
        | .UNAVAILABLE => stall
        | .ORPHANED => do
          onChain (·.suppress anchoredTip)
          disconnectTip
          modify fun s => { s with blocksDisconnected := true }
          disconnectOrphaned n

/-- The block that disconnecting has uncovered is a candidate. -/
def Chainstate.readmitTip (c : Chainstate) : Chainstate :=
  { c with setBlockIndexCandidates :=
      match c.tip with
      | none => c.setBlockIndexCandidates
      | some newTip =>
        if (c.block newTip).IsValid ∧ (c.block newTip).haveNumChainTxs = true then
          c.setBlockIndexCandidates.insert newTip
        else c.setBlockIndexCandidates }

/-! ### Binding orphaned blocks to a new edge -/

/-- Only a stored block off the active chain may be bound anew. -/
def Chainstate.Reanchorable (c : Chainstate) (candidate : Uint256) : Prop :=
  candidate ∉ c.active ∧ (c.block candidate).drivechainAnchor ≠ none ∧
    (c.block candidate).IsValid ∧ (c.block candidate).haveNumChainTxs = true
deriving Decidable

/-- The anchor that a new anchor of the block has to follow, when the block has a predecessor above
genesis; nothing at all when that predecessor does not have an active anchor. -/
def predecessorAnchor (candidate : Uint256) : Node (Option (Option DrivechainAnchor)) := do
  let s ← get
  match (s.chain.block candidate).pprev with
  | none => return some none
  | some prev =>
    if (s.chain.block prev).nHeight = 0 then return some none
    else
      match (s.chain.block prev).drivechainAnchor with
      | none => return none
      | some anchor => do
        let status ← getStatus prev
        return if status = .ACTIVE then some (some anchor) else none

/-- Bind a block to the edge it was found in, if that is allowed. -/
def replaceAnchor (candidate : Uint256) (predecessor : Option DrivechainAnchor) : Node Unit := do
  let disk ← world
  failIf (disk.readBlock = false)
    "Failed to read drivechain block while replacing an orphaned BIP301 anchor"
  let derived ← world
  if derived.criticalHash = false then stall
  else do
    let w ← world
    let reads := w.bmmReads candidate
    match reads.status with
    | .UNAVAILABLE => stall
    | .INVALID => pure ()
    | .PARENT_REJECTED => pure ()
    | .VALID => do
      let s ← get
      let replacement := makeDrivechainAnchor reads.context
      if ∃ oldAnchor ∈ (s.chain.block candidate).drivechainAnchor,
          IsDrivechainAnchorReplacementAllowed .ORPHANED oldAnchor replacement predecessor then do
        onChain (·.setAnchor candidate replacement)
        remember candidate .ACTIVE
        modify fun s => { s with anchorsReplaced := true }
      else pure ()

/-- Bind an orphaned block off the active chain to a new edge, if there is one. -/
def reanchor (candidate : Uint256) : Node Unit := do
  let s ← get
  if s.chain.Reanchorable candidate then do
    let oldStatus ← getStatus candidate
    if oldStatus = .ORPHANED then do
      let predecessor ← predecessorAnchor candidate
      match predecessor with
      | none => pure ()
      | some predecessor => replaceAnchor candidate predecessor
    else pure ()
  else pure ()

/-! ### Which candidates the parent chain supports -/

/-- The first verdict on a list of blocks that is not active. -/
def chainStatus : List Uint256 → Node DrivechainAnchorStatus
  | [] => return .ACTIVE
  | cursor :: rest => do
    let checked ← getStatus cursor
    match checked with
    | .ACTIVE => chainStatus rest
    | .ORPHANED => return .ORPHANED
    | .UNAVAILABLE => return .UNAVAILABLE

/-- Drop a block from both sets. -/
def Chainstate.forget (c : Chainstate) (b : Uint256) : Chainstate :=
  { c with
    setBlockIndexCandidates := c.setBlockIndexCandidates.erase b
    suppressedCandidates := c.suppressedCandidates.erase b }

/-- Sort a block into one of the two sets, or drop it from both. -/
def reconsider (candidate : Uint256) : Node Unit := do
  let s ← get
  if candidate ∈ s.chain.active then
    onChain fun c => { c with suppressedCandidates := c.suppressedCandidates.erase candidate }
  else if ¬((s.chain.block candidate).IsValid ∧
      (s.chain.block candidate).haveNumChainTxs = true) then
    onChain (·.forget candidate)
  else do
    let status ← chainStatus (s.chain.branch candidate)
    match status with
    | .ACTIVE =>
      onChain fun c => if c.WorseThanTip candidate then c else c.makeCandidate candidate
    | .ORPHANED => onChain (·.suppress candidate)
    | .UNAVAILABLE => do
      onChain (·.suppress candidate)
      stall

/-! ### The pass -/

/-- The blocks a pass looks at. -/
def Chainstate.reconsidered (c : Chainstate) : List Uint256 :=
  (c.suppressedCandidates ∪ c.setBlockIndexCandidates).toList

/-- The same blocks, ancestors first. -/
def Chainstate.reanchorCandidates (c : Chainstate) : List Uint256 :=
  c.reconsidered.insertionSort fun a b => (c.block a).nHeight ≤ (c.block b).nHeight

/-- Disconnect what is orphaned, and make the uncovered block a candidate. -/
def disconnectPhase : Node Unit := do
  let s ← get
  disconnectOrphaned ((s.chain.tip.map fun t => (s.chain.block t).nHeight).getD 0)
  modify fun s =>
    if s.blocksDisconnected = true then { s with chain := s.chain.readmitTip } else s

/-- Bind what can be bound anew, and write the new anchors to disk. -/
def reanchorPhase (candidates : List Uint256) : Node Unit := do
  candidates.forM reanchor
  let s ← get
  let w ← world
  failIf (s.anchorsReplaced = true ∧ w.writeBlockIndexDB = false)
    "Failed to atomically persist replacement drivechain anchors"

/-- The pass behind the check of the snapshot. -/
def reconcilePass : Node Unit := do
  disconnectPhase
  let s ← get
  reanchorPhase s.chain.reanchorCandidates
  let w ← world
  (s.chain.reconsidered.insertionSort fun a b => w.address a ≤ w.address b).forM reconsider

/-- A pass, unless the snapshot is out of date. -/
def reconcileDrivechainAnchors : Node Unit := do
  let s ← get
  match s.chain.anchorSnapshot with
  | none => reconcilePass
  | some snapshot => do
    let usable ← checkDrivechainAnchorSnapshot snapshot
    if usable = true then reconcilePass else stall

/-! ### Preparing a snapshot -/

/-- The blocks whose anchors a pass may ask for: the tip, and the branches of the two sets down to
their first block on the active chain. -/
def Chainstate.snapshotBlocks (c : Chainstate) : List Uint256 :=
  let path (b : Uint256) : List Uint256 :=
    c.branch b ++ ((c.blocks.ancestry b).find? (· ∈ c.active)).toList
  ((c.tip.toList ++ c.setBlockIndexCandidates.toList ++ c.suppressedCandidates.toList).flatMap
    path).dedup

/-- The anchors that a snapshot is made for. -/
def Chainstate.snapshotAnchors (c : Chainstate) : List DrivechainAnchor :=
  (c.snapshotBlocks.filter fun b => 0 < (c.block b).nHeight).filterMap
    fun b => (c.block b).drivechainAnchor

/-- Add an anchor to a snapshot when it is active. -/
def warmAnchor (snapshot : DrivechainAnchorSnapshot) (anchor : DrivechainAnchor) :
    Node DrivechainAnchorSnapshot := do
  let check ← world
  failIf (check.deadline = false) "parent validation deadline exceeded"
  failIf (¬snapshot.EpochMatches check.replayEpoch)
    "parent replay changed while authenticating anchor snapshot"
  if snapshot.Contains anchor snapshot.epoch then return snapshot
  else do
    let w ← world
    match anchorStatus anchor (w.anchorReads anchor) with
    | .UNAVAILABLE => throw "cannot authenticate complete anchor snapshot"
    | .ORPHANED => return snapshot
    | .ACTIVE =>
      match snapshot.add anchor .ACTIVE with
      | none => throw "authenticated anchor snapshot contains malformed identity"
      | some snapshot => return snapshot

/-- Make a snapshot of anchors that all are active. -/
def warmDrivechainAnchorSnapshot (anchors : List DrivechainAnchor) :
    Node DrivechainAnchorSnapshot := do
  let start ← world
  failIf (start.deadline = false) "parent validation deadline exceeded"
  failIf (start.replayEpoch = 0) "anchor snapshot requires authenticated parent replay"
  let now ← world
  match now.bestBlockHash with
  | none => throw "parent getbestblockhash returned a noncanonical tip"
  | some tip => do
    failIf (tip = 0) "parent getbestblockhash returned a noncanonical tip"
    let snapshot ← anchors.foldlM warmAnchor { parentTip := tip, epoch := start.replayEpoch }
    let current ← checkDrivechainAnchorSnapshot snapshot
    failIf (current = false) "active parent tip changed during anchor snapshot use"
    return snapshot

/-- The snapshot at hand is current and has all the anchors. -/
def snapshotReusable (previous : Option DrivechainAnchorSnapshot)
    (anchors : List DrivechainAnchor) : Node Bool :=
  match previous with
  | none => return false
  | some σ => do
    let current ← checkDrivechainAnchorSnapshot σ
    let w ← world
    return decide (current = true ∧ ∀ anchor ∈ anchors, σ.Contains anchor w.replayEpoch)

/-- Make a snapshot before the first pass, when it is worth it. -/
def prepareDrivechainAnchorSnapshot : Node Unit := do
  let s ← get
  let anchors := s.chain.snapshotAnchors
  if anchors.length ≤ 1 then onChain fun c => { c with anchorSnapshot := none }
  else do
    let reusable ← snapshotReusable s.chain.anchorSnapshot anchors
    if reusable = true then pure ()
    else do
      let prepared ← warmDrivechainAnchorSnapshot anchors
      onChain fun c => { c with anchorSnapshot := some prepared }

end ElementsDrivechain
