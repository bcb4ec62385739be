import ElementsDrivechain.Parent.State

/-!
# Proposals and votes

How the coinbase messages of a parent block change the replayed state: proposing and acknowledging
sidechains (M1, M2), proposing withdrawal bundles (M3), voting on them (M4), and the expiry of both
after the messages of the block.
-/

namespace ElementsDrivechain

open Fallible

/-- A bundle that was proposed in a block. -/
structure DrivechainWithdrawalProposalIdentity where
  sidechainSlot : UInt8
  m6id : Uint256
deriving DecidableEq

/-- What the messages of a block have done so far. -/
structure MessageLoop where
  state : DrivechainParentReplayState
  /-- What the M4 of this block did, slot by slot. -/
  effectiveM4Actions : OrdMap UInt8 DrivechainM4Action := ∅
  /-- The bundles proposed in this block. -/
  derivedProposals : List DrivechainWithdrawalProposalIdentity := []

/-- Votes are sixteen-bit counters; a full one is left as it is. -/
def MAX_VOTES : ℕ := 65535

/-! ### One vote -/

/-- Vote for the bundle `m6id` and thereby against the others; `effective` is what is reported when
the counter of the bundle is full. -/
def applyM4Upvote (pending : List DrivechainPendingWithdrawal) (m6id : Uint256)
    (effective : DrivechainM4Action) :
    Except String (List DrivechainPendingWithdrawal × DrivechainM4Action) :=
  let target := pending.findIdx (·.m6id = m6id)
  match pending[target]? with
  | none => throw s!"M4 upvote references missing withdrawal bundle {m6id.getHex}"
  | some entry =>
    if entry.votes = MAX_VOTES then return (pending, effective)
    else
      return (pending.mapIdx fun i entry =>
          if i = target then { entry with votes := entry.votes + 1 }
          else { entry with votes := entry.votes - 1 },
        { type := .UPVOTE, m6id := m6id })

/-- Vote against every bundle; the flag says whether any counter changed. -/
def applyM4Alarm (pending : List DrivechainPendingWithdrawal) (effective : DrivechainM4Action) :
    List DrivechainPendingWithdrawal × DrivechainM4Action × Bool :=
  let changed := pending.any fun entry => 0 < entry.votes
  (pending.map fun entry => { entry with votes := entry.votes - 1 },
    if changed then { type := .ALARM, m6id := 0 } else effective, changed)

/-- Store the counters of a slot and, if the vote was effective, the action. -/
def MessageLoop.recordVote (L : MessageLoop) (configuredSlot slot : UInt8)
    (pending : List DrivechainPendingWithdrawal) (action : DrivechainM4Action) (effective : Bool) :
    MessageLoop :=
  { L with
    state := updateSlot L.state configuredSlot slot fun data =>
      { data with pendingWithdrawals := pending }
    effectiveM4Actions :=
      if effective then L.effectiveM4Actions.insertIfNew slot action else L.effectiveM4Actions }

theorem MessageLoop.state_recordVote (L : MessageLoop) (configuredSlot slot : UInt8)
    (pending : List DrivechainPendingWithdrawal) (action : DrivechainM4Action) (effective : Bool) :
    (L.recordVote configuredSlot slot pending action effective).state =
      updateSlot L.state configuredSlot slot fun data =>
        { data with pendingWithdrawals := pending } :=
  rfl

/-- One entry of an explicit vote vector. -/
def applyExplicitVote (configuredSlot : UInt8) (L : MessageLoop) (slotVote : UInt8 × ℕ) :
    Except String MessageLoop :=
  let slot := slotVote.1
  let vote := slotVote.2
  let pending := (slotState L.state configuredSlot slot).pendingWithdrawals
  if vote = M4_ABSTAIN then return L
  else if vote = M4_ALARM then
    let (pending, action, effective) := applyM4Alarm pending {}
    return L.recordVote configuredSlot slot pending action effective
  else
    match pending[vote]? with
    | none => throw s!"M4 vote index {vote} is absent for sidechain slot {slot}"
    | some entry => do
      let (pending, action) ← applyM4Upvote pending entry.m6id {}
      return L.recordVote configuredSlot slot pending action (action.type = .UPVOTE)

/-- The first bundle with the most votes, and the most votes among the others. -/
def leaderAndSecond (first : DrivechainPendingWithdrawal)
    (rest : List DrivechainPendingWithdrawal) : DrivechainPendingWithdrawal × ℕ :=
  rest.foldl (fun (leader, second) entry =>
    if entry.votes > leader.votes then (entry, max second leader.votes)
    else (leader, max second entry.votes)) (first, 0)

/-- Vote for the bundle of a slot that leads by fifty, if there is one. -/
def applyLeadingVote (configuredSlot : UInt8) (L : MessageLoop) (slot : UInt8) :
    Except String MessageLoop :=
  match (slotState L.state configuredSlot slot).pendingWithdrawals with
  | [] => return L
  | first :: rest =>
    let (leader, second) := leaderAndSecond first rest
    if leader.votes ≥ second ∧ leader.votes - second ≥ 50 ∧ leader.votes < MAX_VOTES then do
      let (pending, action) ← applyM4Upvote (first :: rest) leader.m6id {}
      return L.recordVote configuredSlot slot pending action true
    else return L

/-- Repeat for one slot what the M4 of the previous block did to it. -/
def applyRepeatedVote (configuredSlot : UInt8) (L : MessageLoop)
    (slotAction : UInt8 × DrivechainM4Action) : Except String MessageLoop := do
  let slot := slotAction.1
  let previous := slotAction.2
  rejectIf ((slotState L.state configuredSlot slot).activeProposalHash = 0)
    s!"RepeatPrevious references inactive sidechain slot {slot}"
  let pending := (slotState L.state configuredSlot slot).pendingWithdrawals
  match previous.type with
  | .UPVOTE =>
    let (pending, action) ← applyM4Upvote pending previous.m6id {}
    return L.recordVote configuredSlot slot pending action (action.type = .UPVOTE)
  | .ALARM =>
    let (pending, action, effective) := applyM4Alarm pending {}
    return L.recordVote configuredSlot slot pending action effective

/-! ### The messages -/

/-- M1: a new proposal starts without votes. -/
def applyProposal (configuredSlot : UInt8) (height : ℕ) (L : MessageLoop)
    (message : DrivechainParentMessage) : MessageLoop :=
  { L with
    state := updateSlot L.state configuredSlot message.slot fun data =>
      { data with
        pendingProposals :=
          data.pendingProposals.insertIfNew message.proposalHash
            { proposalHeight := height, votes := 0 } } }

/-- The age limit of a proposal, which depends on whether its slot is in use. -/
def ReplayParameters.proposalMaxAge (P : ReplayParameters) (used : Bool) : ℕ :=
  if used then P.usedSlotProposalMaxAge else P.unusedSlotProposalMaxAge

/-- The number of votes a proposal has to exceed. -/
def ReplayParameters.activationThreshold (P : ReplayParameters) (used : Bool) : ℕ :=
  if used then P.usedSlotActivationThreshold else P.unusedSlotActivationThreshold

/-- The configured slot got a new active proposal: it may not lose the required one, and the first
activation of the required one is recorded. -/
def activateConfigured (P : ReplayParameters) (height : ℕ) (blockHash : Uint256)
    (state : DrivechainParentReplayState) : Except String DrivechainParentReplayState := do
  let active := state.activeProposalHash
  let proposal := active.getHex
  let slot := P.sidechainSlot
  rejectIf (state.requiredProposalActivated ∧ active ≠ P.requiredActiveProposal)
    s!"parent slot {slot} was replaced by proposal {proposal}"
  if ¬state.requiredProposalActivated ∧ active = P.requiredActiveProposal then
    return { state with
      requiredProposalActivated := true
      requiredActivationHeight := height
      requiredActivationBlockHash := blockHash }
  else return state

/-- M2: a vote for a pending proposal, which becomes active when it has enough. -/
def applyAck (P : ReplayParameters) (height : ℕ) (blockHash : Uint256) (L : MessageLoop)
    (message : DrivechainParentMessage) : Except String MessageLoop :=
  let configuredSlot := P.configuredSlot
  -- looking the proposal up creates the slot
  let state := updateSlot L.state configuredSlot message.slot id
  let data := slotState state configuredSlot message.slot
  match data.pendingProposals[message.proposalHash]? with
  | none => return { L with state := state }
  | some proposal =>
    if proposal.proposalHeight = height then return { L with state := state }
    else do
      rejectIf (proposal.proposalHeight > height) "M2 proposal height is ahead of replay height"
      let votes := (proposal.votes + 1) % 2 ^ 32
      let used := data.activeProposalHash ≠ 0
      let age := height - proposal.proposalHeight
      if votes > P.activationThreshold used ∧ age ≤ P.proposalMaxAge used then
        let state := updateSlot state configuredSlot message.slot fun data =>
          { data with
            activeProposalHash := message.proposalHash
            pendingProposals := data.pendingProposals.erase message.proposalHash }
        if message.slot = configuredSlot then
          let state ← activateConfigured P height blockHash state
          return { L with state := state }
        else return { L with state := state }
      else
        return { L with
          state := updateSlot state configuredSlot message.slot fun data =>
            { data with
              pendingProposals := data.pendingProposals.insert message.proposalHash
                { proposal with votes := votes } } }

/-- M3: a bundle enters the queue of an active slot with one vote. -/
def applyWithdrawalProposal (configuredSlot : UInt8) (height : ℕ) (L : MessageLoop)
    (message : DrivechainParentMessage) : Except String MessageLoop := do
  let slot := message.slot
  let bundle := message.proposalHash.getHex
  let data := slotState L.state configuredSlot slot
  rejectIf (data.activeProposalHash = 0)
    s!"M3 proposes a withdrawal for inactive sidechain slot {slot}"
  rejectIf (∃ entry ∈ data.pendingWithdrawals, entry.m6id = message.proposalHash)
    s!"M3 withdrawal bundle {bundle} is already pending for slot {slot}"
  return { L with
    state := updateSlot L.state configuredSlot slot fun data =>
      { data with
        pendingWithdrawals := data.pendingWithdrawals ++
          [{ m6id := message.proposalHash, proposalHeight := height, votes := 1 }] }
    derivedProposals := L.derivedProposals ++
      [{ sidechainSlot := slot, m6id := message.proposalHash }] }

/-- M4: votes on the pending bundles of all active slots. -/
def applyWithdrawalAck (configuredSlot : UInt8) (L : MessageLoop)
    (message : DrivechainParentMessage) : Except String MessageLoop :=
  let activeSlots := activeDrivechainSlots L.state configuredSlot
  match message.m4Encoding with
  | .NONE => throw "two-byte M4 contains no value requiring two-byte encoding"
  | .EXPLICIT => do
    let votes := message.m4Votes.length
    let active := activeSlots.length
    rejectIf (votes ≠ active) s!"M4 vote vector has {votes} entries for {active} active sidechains"
    (activeSlots.zip message.m4Votes).foldlM (applyExplicitVote configuredSlot) L
  | .LEADING_BY_50 => activeSlots.foldlM (applyLeadingVote configuredSlot) L
  | .REPEAT_PREVIOUS =>
    L.state.previousM4Actions.toList.foldlM (applyRepeatedVote configuredSlot) L

/-- One coinbase message. -/
def applyMessage (P : ReplayParameters) (height : ℕ) (blockHash : Uint256) (L : MessageLoop)
    (message : DrivechainParentMessage) : Except String MessageLoop :=
  match message.type with
  | .BMM_ACCEPT => return L
  | .PROPOSAL => return applyProposal P.configuredSlot height L message
  | .ACK => applyAck P height blockHash L message
  | .WITHDRAWAL_PROPOSAL => applyWithdrawalProposal P.configuredSlot height L message
  | .WITHDRAWAL_ACK => applyWithdrawalAck P.configuredSlot L message
  | .NONE => throw "unhandled BIP300 parent coinbase message"

/-! ### Expiry -/

/-- A proposal is dropped when it is too old or can no longer get enough votes. -/
def ProposalExpired (P : ReplayParameters) (used : Bool) (height : ℕ)
    (proposal : DrivechainPendingProposal) : Prop :=
  let age := height - proposal.proposalHeight
  let misses := age - proposal.votes
  let maxFails := P.proposalMaxAge used - P.activationThreshold used
  age > P.proposalMaxAge used ∨ (age > maxFails ∧ misses ≥ maxFails)
deriving Decidable

/-- Check the pending proposals of a slot and drop the expired ones. -/
def expireProposals (P : ReplayParameters) (height : ℕ) (slot : UInt8)
    (pending : OrdMap Uint256 DrivechainPendingProposal) (used : Bool) :
    Except String (OrdMap Uint256 DrivechainPendingProposal) := do
  pending.toList.forM fun (_, proposal) => do
    rejectIf (height < proposal.proposalHeight)
      s!"parent proposal height is ahead of replay height for slot {slot}"
    rejectIf (proposal.votes > height - proposal.proposalHeight)
      s!"parent proposal has more votes than elapsed blocks for slot {slot}"
  return pending.filter fun _ proposal => ¬ProposalExpired P used height proposal

/-- Expire the proposals of one slot. -/
def expireSlotProposals (P : ReplayParameters) (height : ℕ) (state : DrivechainParentReplayState)
    (slot : UInt8) : Except String DrivechainParentReplayState := do
  let data := slotState state P.configuredSlot slot
  let kept ← expireProposals P height slot data.pendingProposals (data.activeProposalHash ≠ 0)
  return updateSlot state P.configuredSlot slot fun data => { data with pendingProposals := kept }

/-- Drop the bundles of one slot that are older than their maximum age. -/
def expireSlotWithdrawals (P : ReplayParameters) (height : ℕ) (state : DrivechainParentReplayState)
    (slot : UInt8) : Except String DrivechainParentReplayState := do
  rejectIf (∃ entry ∈ (slotState state P.configuredSlot slot).pendingWithdrawals,
      height < entry.proposalHeight) "M3 proposal height is ahead of replay height"
  return updateSlot state P.configuredSlot slot fun data =>
    { data with
      pendingWithdrawals := data.pendingWithdrawals.filter fun entry =>
        ¬(height - entry.proposalHeight > P.withdrawalBundleMaxAge) }

end ElementsDrivechain
