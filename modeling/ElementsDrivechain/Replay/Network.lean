import ElementsDrivechain.Replay.Store

/-!
# The pinned network

The constants that tie a sidechain to its parent chain: the slot and the proposal that created it,
the parent block that the replay starts from with what is known there, and the thresholds of the
votes.  They are checked for consistency before anything is replayed, and blocks at the pinned
heights are compared with them.
-/

namespace ElementsDrivechain

open Fallible

/-- The parent block that the replay starts from, and what is pinned of the chain up to it. -/
structure DrivechainParentCheckpoint where
  activeProposalDescription : Bytes := []
  activeProposalHash : Option Uint256 := none
  proposalHeight : ℕ := 0
  proposalBlockHash : Uint256 := 0
  activationHeight : ℕ := 0
  activationBlockHash : Uint256 := 0
  height : ℕ
  hash : Uint256
  chainwork : Uint256
  ctipTxid : Uint256 := 0
  ctipVout : ℕ := COutPoint.NULL_INDEX
  ctipValue : ℤ := 0
  /-- The compiled-in checkpoint lies above the genesis block. -/
  height_pos : 0 < height

/-- The constants of a network with a slot and a proposal. -/
structure DrivechainNetwork where
  slot : UInt8
  proposalDescription : Bytes
  proposalHash : Uint256
  protocolManifestHash : Uint256
  parentGenesisBlockHash : Uint256
  checkpoint : DrivechainParentCheckpoint
  unusedSlotProposalMaxAge : ℕ
  unusedSlotActivationThreshold : ℕ
  usedSlotProposalMaxAge : ℕ
  usedSlotActivationThreshold : ℕ
  withdrawalBundleMaxAge : ℕ
  withdrawalBundleInclusionThreshold : ℕ
  treasuryOpcode : TreasuryOpcode
  m6Rule : DrivechainM6ReplayRule
  m6WithdrawalValidation : Bool
  replayVersion : ℕ
  bootstrapStateCommitment : Uint256
  peginMinDepth : ℕ
  /-- The network is the one whose peg-ins need only one confirmation from some height on. -/
  alphaPeginOneConfirmationUpgrade : Bool := false

/-- The replay version that the rules are frozen for. -/
def PARENT_REPLAY_VERSION : ℕ := 5

/-- The parameters of the replay for a slot and a proposal. -/
def DrivechainNetwork.replayParameters (N : DrivechainNetwork) (slot : UInt8)
    (proposalHash : Uint256) : ReplayParameters where
  sidechainSlot := slot.toNat
  requiredActiveProposal := proposalHash
  unusedSlotProposalMaxAge := N.unusedSlotProposalMaxAge
  unusedSlotActivationThreshold := N.unusedSlotActivationThreshold
  usedSlotProposalMaxAge := N.usedSlotProposalMaxAge
  usedSlotActivationThreshold := N.usedSlotActivationThreshold
  withdrawalBundleMaxAge := N.withdrawalBundleMaxAge
  withdrawalBundleInclusionThreshold := N.withdrawalBundleInclusionThreshold
  treasuryOpcode := N.treasuryOpcode
  m6Rule := N.m6Rule

/-- The parameters of the replay for the configured slot. -/
abbrev DrivechainNetwork.parameters (N : DrivechainNetwork) : ReplayParameters :=
  N.replayParameters N.slot N.proposalHash

/-! ### The state at the checkpoint -/

/-- A slot that is active at the checkpoint. -/
structure BootstrapSlot where
  slot : UInt8
  active : Uint256
  ctipTxid : Uint256
  ctipVout : ℕ
  ctipValue : ℤ

/-- The slots that are active at the checkpoint of the frozen replay version: none. -/
def SLOTS : List BootstrapSlot := []

/-- Add one slot to the state at the checkpoint of the given configured slot. -/
def bootstrapSlot (configuredSlot : UInt8) (state : DrivechainParentReplayState)
    (slot : BootstrapSlot) : Except String DrivechainParentReplayState := do
  rejectIf (slot.slot = configuredSlot) "parent replay bootstrap contains an invalid global slot"
  rejectIf (slot.active = 0) "parent replay bootstrap contains a null active proposal"
  rejectIf (slot.ctipTxid = 0 ∧ (slot.ctipVout ≠ COutPoint.NULL_INDEX ∨ slot.ctipValue ≠ 0))
    "parent replay bootstrap has a malformed absent CTIP"
  rejectIf (slot.slot ∈ state.otherSlots) "parent replay bootstrap repeats a global slot"
  let other : DrivechainOtherSlotReplayState :=
    if slot.ctipTxid = 0 then { activeProposalHash := slot.active }
    else
      { activeProposalHash := slot.active
        ctip := some { hash := slot.ctipTxid, n := slot.ctipVout }
        ctipValue := slot.ctipValue }
  return { state with otherSlots := state.otherSlots.insert slot.slot other }

/-- The state at the checkpoint. -/
def bootstrapState (configuredSlot : UInt8) (slots : List BootstrapSlot) :
    Except String DrivechainParentReplayState :=
  slots.foldlM (bootstrapSlot configuredSlot) {}

/-- The hashes of records that the replay compares or commits to. -/
structure ReplayHashing where
  state : DrivechainParentReplayState → Uint256
  storeIdentity : DrivechainNetwork → Uint256
  bootstrap : DrivechainParentCheckpoint → List BootstrapSlot → Uint256

/-! ### Consistency of the constants -/

/-- There is no treasury, or one with money in it. -/
def IsCanonicalDrivechainParentCheckpointCtip (txid : Uint256) (vout : ℕ) (value : ℤ) : Prop :=
  (txid = 0 ∧ vout = COutPoint.NULL_INDEX ∧ value = 0) ∨
    (txid ≠ 0 ∧ vout ≠ COutPoint.NULL_INDEX ∧ 0 < value ∧ MoneyRange value)
deriving Decidable

/-- Nothing is pinned of a proposal at the checkpoint. -/
def DrivechainParentCheckpoint.ProposalAbsent (c : DrivechainParentCheckpoint) : Prop :=
  c.activeProposalDescription = [] ∧ c.activeProposalHash.getD 0 = 0 ∧ c.proposalHeight = 0 ∧
    c.proposalBlockHash = 0 ∧ c.activationHeight = 0 ∧ c.activationBlockHash = 0
deriving Decidable

/-- The proposal that is pinned at the checkpoint is complete. -/
def DrivechainParentCheckpoint.ProposalPresent (H : ParentHashing)
    (c : DrivechainParentCheckpoint) : Prop :=
  c.activeProposalDescription ≠ [] ∧ c.activeProposalHash.getD 0 ≠ 0 ∧
    H.hash c.activeProposalDescription = c.activeProposalHash.getD 0 ∧ c.proposalBlockHash ≠ 0 ∧
    c.activationBlockHash ≠ 0 ∧ c.proposalHeight < c.activationHeight ∧
    c.activationHeight ≤ c.height
deriving Decidable

/-- The fields of a checkpoint fit together. -/
def IsCanonicalDrivechainParentCheckpointIdentity (H : ParentHashing)
    (c : DrivechainParentCheckpoint) : Prop :=
  IsCanonicalDrivechainParentCheckpointCtip c.ctipTxid c.ctipVout c.ctipValue ∧
    if c.ProposalAbsent then c.ctipTxid = 0 else c.ProposalPresent H
deriving Decidable

/-- The constants of the network are complete and fit together. -/
def LaunchIdentityComplete (N : DrivechainNetwork) (H : ParentHashing) : Prop :=
  N.proposalDescription ≠ [] ∧ N.proposalHash ≠ 0 ∧
    H.hash N.proposalDescription = N.proposalHash ∧ N.protocolManifestHash ≠ 0 ∧
    IsCanonicalDrivechainParentCheckpointIdentity H N.checkpoint ∧ N.checkpoint.chainwork ≠ 0 ∧
    N.unusedSlotProposalMaxAge ≠ 0 ∧ N.unusedSlotActivationThreshold ≠ 0 ∧
    N.unusedSlotActivationThreshold < N.unusedSlotProposalMaxAge ∧
    N.usedSlotProposalMaxAge ≠ 0 ∧ N.usedSlotActivationThreshold ≠ 0 ∧
    N.usedSlotActivationThreshold < N.usedSlotProposalMaxAge ∧
    N.withdrawalBundleMaxAge ≠ 0 ∧ N.withdrawalBundleInclusionThreshold ≠ 0 ∧
    N.withdrawalBundleInclusionThreshold < N.withdrawalBundleMaxAge ∧
    N.m6WithdrawalValidation ∧ N.replayVersion = PARENT_REPLAY_VERSION
deriving Decidable

/-- A parent block is pinned. -/
def HasPinnedDrivechainParentState (N : DrivechainNetwork) : Prop := N.checkpoint.hash ≠ 0
deriving Decidable

/-! ### Milestones -/

/-- The coinbase carries the expected message exactly once. -/
def blockContainsExactDrivechainMessage (block : CBlock) (expectedPayload : Bytes) :
    Except String Unit := do
  rejectIf (¬∃ tx ∈ block.vtx.head?, tx.IsCoinBase)
    "pinned parent identity block has no coinbase transaction"
  let found := block.coinbaseOutputs.countP fun output =>
    extractSingleOpReturnPush output.scriptPubKey = some expectedPayload
  rejectIf (found ≠ 1)
    s!"pinned parent identity block contains {found} copies of its expected drivechain message"

section Milestone

variable (N : DrivechainNetwork) (H : ParentHashing) (height : ℕ) (block : CBlock)
  (state : DrivechainParentReplayState)

/-- The block at a pinned height is the pinned one. -/
def requireBlockHash (expected : Uint256) : Except String Unit :=
  rejectIf (H.blockHash block ≠ expected)
    (s!"authenticated parent milestone height {height} hashes to {(H.blockHash block).getHex}, " ++
      s!"expected {expected.getHex}")

/-- At the height of the pinned proposal, it is proposed. -/
def checkProposalMilestone : Except String Unit := do
  requireBlockHash H height block N.checkpoint.proposalBlockHash
  blockContainsExactDrivechainMessage block
    (M1_TAG ++ [N.slot] ++ N.checkpoint.activeProposalDescription)
  rejectIf (¬∃ proposal ∈ state.pendingProposals[N.checkpoint.activeProposalHash.getD 0]?,
      proposal.proposalHeight = height ∧ proposal.votes = 0)
    "authenticated parent proposal milestone did not derive the expected pending proposal state"

/-- At the height of its activation, it becomes active. -/
def checkActivationMilestone : Except String Unit := do
  requireBlockHash H height block N.checkpoint.activationBlockHash
  blockContainsExactDrivechainMessage block
    (M2_TAG ++ [N.slot] ++ (N.checkpoint.activeProposalHash.getD 0).data)
  rejectIf (state.activeProposalHash ≠ N.checkpoint.activeProposalHash.getD 0 ∨
      N.checkpoint.activeProposalHash.getD 0 ∈ state.pendingProposals)
    "authenticated parent activation milestone did not derive the expected active proposal state"

/-- At the checkpoint, the active proposal and the treasury output are the pinned ones. -/
def checkCheckpointMilestone : Except String Unit := do
  requireBlockHash H height block N.checkpoint.hash
  let ctipMatches : Bool :=
    if N.checkpoint.ctipTxid = 0 then state.ctip = none ∧ state.ctipValue = 0
    else state.ctip = some { hash := N.checkpoint.ctipTxid, n := N.checkpoint.ctipVout } ∧
      state.ctipValue = N.checkpoint.ctipValue
  let proposal :=
    if N.checkpoint.activeProposalDescription = [] then 0
    else N.checkpoint.activeProposalHash.getD 0
  rejectIf (state.activeProposalHash ≠ proposal ∨ ¬ctipMatches)
    "authenticated parent checkpoint milestone did not derive the asserted active proposal and CTIP"

/-- Compare the block at a pinned height, and the state after it, with what is pinned. -/
def checkDrivechainParentReplayMilestone : Except String Unit := do
  let postActivation := N.checkpoint.activeProposalDescription ≠ []
  if postActivation ∧ height = N.checkpoint.proposalHeight then
    checkProposalMilestone N H height block state
  if postActivation ∧ height = N.checkpoint.activationHeight then
    checkActivationMilestone N H height block state
  if height = N.checkpoint.height then
    checkCheckpointMilestone N H height block state

end Milestone

end ElementsDrivechain
