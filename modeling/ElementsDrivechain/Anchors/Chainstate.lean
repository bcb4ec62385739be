import ElementsDrivechain.Anchors.BlockIndex

/-!
# The chainstate of a slot network

The active chain is the ancestry of its tip.  Beside it the node keeps the blocks it may switch to,
in two sets: the candidates, and the candidates that the parent chain currently does not support.

What the parent node and the local disk answer is a stream of *worlds*, one for each question, as
for the replay: whatever holds for every stream holds for every interleaving with the parent chain.
-/

namespace ElementsDrivechain

open Effects

/-- The state of the active chain. -/
structure Chainstate where
  blocks : BlockMap
  tip : Option Uint256
  /-- The blocks the node may switch to. -/
  setBlockIndexCandidates : OrdSet Uint256
  /-- Candidates that the parent chain does not support at the moment. -/
  suppressedCandidates : OrdSet Uint256 := ∅
  anchorSnapshot : Option DrivechainAnchorSnapshot := none
  /-- The next sequence number. -/
  nBlockSequenceId : ℤ := 1

namespace Chainstate

variable (s : Chainstate)

/-- What is known of a block. -/
def block (b : Uint256) : CBlockIndex := s.blocks.block b

/-- The active chain, tip first. -/
def active : List Uint256 := s.blocks.forest.chain s.tip

/-- A block and its ancestors down to the active chain. -/
def branch (b : Uint256) : List Uint256 := s.blocks.forest.branch s.tip b

/-- A block sorts below the tip. -/
def WorseThanTip (b : Uint256) : Prop := ∃ t ∈ s.tip, s.blocks.Worse b t

instance (b : Uint256) : Decidable (s.WorseThanTip b) :=
  match h : s.tip with
  | none => isFalse (by simp [WorseThanTip, h])
  | some t => decidable_of_iff (s.blocks.Worse b t) (by simp [WorseThanTip, h])

/-- The block and its ancestors have their data and none of them has failed. -/
def Complete (b : Uint256) : Prop :=
  ∀ a ∈ s.blocks.ancestry b, (s.block a).haveData = true ∧ (s.block a).failed = false
deriving Decidable

/-- Every complete block that does not sort below the tip is in one of the two sets. -/
def Tracked : Prop :=
  ∀ b, s.Complete b → ¬s.WorseThanTip b →
    b ∈ s.setBlockIndexCandidates ∨ b ∈ s.suppressedCandidates

/-! ### Chainstates over one tree -/

section SameTree

variable {s} {s' : Chainstate} {b : Uint256} (h : s.blocks.SameTree s'.blocks)
  (htip : s'.tip = s.tip)
include h htip

theorem active_eq_of_sameTree : s'.active = s.active := by
  rw [active, h.forest, htip, active]

theorem worseThanTip_iff_of_sameTree : s'.WorseThanTip b ↔ s.WorseThanTip b := by
  simp only [WorseThanTip, htip, h.worse_iff]

end SameTree

/-! ### Operations -/

/-- A block is a candidate unless it sorts below the tip. -/
def tryAddBlockIndexCandidate (b : Uint256) : Chainstate :=
  if s.WorseThanTip b then s
  else { s with setBlockIndexCandidates := s.setBlockIndexCandidates.insert b }

/-- Drop the candidates that sort below the tip. -/
def pruneBlockIndexCandidates : Chainstate :=
  { s with setBlockIndexCandidates :=
      s.setBlockIndexCandidates.filter fun b => ¬s.WorseThanTip b }

/-- Take a block out of the candidates until the parent chain supports it. -/
def suppress (b : Uint256) : Chainstate :=
  { s with
    setBlockIndexCandidates := s.setBlockIndexCandidates.erase b
    suppressedCandidates := s.suppressedCandidates.insert b }

/-- Make a block a candidate that the parent chain supports. -/
def makeCandidate (b : Uint256) : Chainstate :=
  { s with
    setBlockIndexCandidates := s.setBlockIndexCandidates.insert b
    suppressedCandidates := s.suppressedCandidates.erase b }

/-- Bind a block to an anchor. -/
def setAnchor (b : Uint256) (anchor : DrivechainAnchor) : Chainstate :=
  { s with blocks := s.blocks.modify b (·.withAnchor anchor) fun _ => rfl }

/-- Enter a block above its predecessor. -/
def addToBlockIndex (hash prev : Uint256) : Chainstate :=
  { s with blocks := s.blocks.addToBlockIndex hash prev }

/-- The data of a block has arrived; its ancestors have theirs. -/
def receivedBlockTransactions (b : Uint256) : Chainstate :=
  let received : Chainstate :=
    { s with
      blocks := s.blocks.modify b (fun e =>
        { e with
          haveData := true
          validTransactions := true
          haveNumChainTxs := true
          nSequenceId := s.nBlockSequenceId }) fun _ => rfl
      nBlockSequenceId := s.nBlockSequenceId + 1 }
  received.tryAddBlockIndexCandidate b

/-- A node that has stored its first block and connected nothing. -/
def loadGenesisBlock (hash : Uint256) : Chainstate :=
  receivedBlockTransactions
    { blocks := .ofGenesis hash, tip := none, setBlockIndexCandidates := ∅ } hash

/-- Mark blocks as failed. -/
def markFailed (bs : List Uint256) : Chainstate :=
  { s with blocks := bs.foldl (fun m b =>
      m.modify b (fun e => { e with failed := true }) fun _ => rfl) s.blocks }

/-- A block has been found invalid: it and its descendants have failed. -/
def invalidBlockFound (b : Uint256) : Chainstate :=
  let failed := s.markFailed
    (s.blocks.entries.keys.filter fun x => b ∈ s.blocks.ancestry x)
  { failed with setBlockIndexCandidates := failed.setBlockIndexCandidates.erase b }

end Chainstate

/-- A block that others may be accepted on. -/
def IsDrivechainHeaderAuthenticated (e : CBlockIndex) : Prop :=
  e.failed = false ∧ e.haveNumChainTxs = true ∧
    (e.nHeight = 0 ∨ ∃ anchor ∈ e.drivechainAnchor, anchor.IsSane)
deriving Decidable

/-! ### The outside -/

/-- What is found out about the edge a block is committed in. -/
structure BmmReads where
  found : DrivechainBmmStatus × DrivechainBmmBlockContext := (.UNAVAILABLE, {})
  /-- The active blocks at the two heights, read again at the end. -/
  activeParentHash : Option Uint256 := none
  activeSuccessorHash : Option Uint256 := none

/-- What the search has found, if it still holds at the end. -/
def BmmReads.status (reads : BmmReads) : DrivechainBmmStatus :=
  bmmStatus reads.found reads.activeParentHash reads.activeSuccessorHash

/-- The edge that was found. -/
def BmmReads.context (reads : BmmReads) : DrivechainBmmBlockContext := reads.found.2

/-- How a block fares in checks that may also end without a verdict on the block. -/
inductive CheckVerdict
  | passed
  | invalid
  | undecided
deriving DecidableEq

/-- How a block fares in `ConnectBlock`, beside its anchor. -/
inductive ConnectVerdict
  | connected
  | invalid (mutated : Bool)
  | failed (error : String)
deriving DecidableEq

/-- What the parent node and the local disk answer at one moment.  Unless said otherwise the parent
node does not answer and the local disk works. -/
structure NodeWorld where
  /-- The answers about an anchor. -/
  anchorReads : DrivechainAnchor → AnchorReads := fun _ => {}
  /-- The answers about the edge a block is committed in. -/
  bmmReads : Uint256 → BmmReads := fun _ => {}
  /-- The tip of the parent chain. -/
  bestBlockHash : Option Uint256 := none
  /-- The epoch of the replay that readers may use, or zero. -/
  replayEpoch : ℕ := 0
  /-- There is time left. -/
  deadline : Bool := true
  /-- The block can be read. -/
  readBlock : Bool := true
  /-- The checkpoint of the withdrawals can be derived. -/
  criticalHash : Bool := true
  disconnectTip : Bool := true
  writeBlockIndexDB : Bool := true
  /-- The block passes the checks that do not ask the parent chain. -/
  checkBlock : CheckVerdict := .passed
  /-- Its deposits pass the checks before it is stored. -/
  preflightDeposits : CheckVerdict := .passed
  writeBlock : Bool := true
  /-- Its peg-ins are old enough. -/
  peginsRipe : Bool := true
  connectBlock : ConnectVerdict := .connected
  /-- Where blocks are kept in memory, which is the order of a set of pointers. -/
  address : Uint256 → ℕ := fun _ => 0

/-! ### Calls -/

/-- A call in progress. -/
structure Activation where
  chain : Chainstate
  /-- The verdicts of the pass on the anchors of blocks. -/
  statusCache : OrdMap Uint256 DrivechainAnchorStatus := ∅
  blocksDisconnected : Bool := false
  anchorsReplaced : Bool := false
  /-- The parent node did not answer. -/
  stalled : Bool := false
  invalidFound : Bool := false
  worlds : Stream' NodeWorld

/-- The programs of the chainstate. -/
abbrev Node := EStateM String Activation

/-- The world of the next question. -/
def world : Node NodeWorld := fun s => .ok s.worlds.head { s with worlds := s.worlds.tail }

/-- Change the chainstate. -/
def onChain (f : Chainstate → Chainstate) : Node Unit :=
  modify fun s => { s with chain := f s.chain }

/-- Give up for the time being. -/
def stall : Node Unit := modify fun s => { s with stalled := true }

end ElementsDrivechain
