import ElementsDrivechain.Parent.Treasury

/-!
# Replaying one parent block

The whole transition of the replayed state by one parent block, from its phases: the checks of the
parameters and of the state it begins with, the coinbase messages, expiry, the treasury
transactions, and the removal of slots that have become empty.
-/

namespace ElementsDrivechain

open Fallible

/-! ### Checks before the block -/

/-- The parameters are usable. -/
def ReplayParameters.Valid (P : ReplayParameters) : Prop :=
  ¬(P.sidechainSlot < 0 ∨ P.sidechainSlot > 255 ∨ P.requiredActiveProposal = 0 ∨
    P.unusedSlotProposalMaxAge = 0 ∨ P.unusedSlotActivationThreshold = 0 ∨
    P.unusedSlotActivationThreshold ≥ P.unusedSlotProposalMaxAge ∨
    P.usedSlotProposalMaxAge = 0 ∨ P.usedSlotActivationThreshold = 0 ∨
    P.usedSlotActivationThreshold ≥ P.usedSlotProposalMaxAge ∨
    P.withdrawalBundleMaxAge = 0 ∨ P.withdrawalBundleInclusionThreshold = 0 ∨
    P.withdrawalBundleInclusionThreshold ≥ P.withdrawalBundleMaxAge)
deriving Decidable

/-- The checks of the state a block begins with. -/
def checkInitialState (P : ReplayParameters) (block : CBlock)
    (state : DrivechainParentReplayState) : Except String Unit := do
  rejectIf ((state.requiredProposalActivated ∧
        state.activeProposalHash ≠ P.requiredActiveProposal) ∨
      (state.activeProposalHash = 0 ∧ state.ctip.isSome))
    "parent-state replay began with an inconsistent active proposal"
  rejectIf (¬∃ coinbase ∈ block.vtx.head?, coinbase.IsCoinBase)
    "parent-state replay block has no coinbase transaction"
  rejectIf (CtipMalformed state.ctip state.ctipValue)
    "parent-state replay began with malformed CTIP state"
  state.otherSlots.toList.forM fun (slot, data) =>
    rejectIf (slot = P.configuredSlot ∨ (data.activeProposalHash = 0 ∧ data.ctip.isSome) ∨
      CtipMalformed data.ctip data.ctipValue)
      "parent-state replay began with malformed global slot state"
  state.previousM4Actions.toList.forM fun (slot, action) =>
    rejectIf (action.type = .ALARM ∧ action.m6id ≠ 0)
      s!"parent-state replay has malformed prior M4 action for slot {slot}"

/-! ### The coinbase -/

/-- The messages read so far, with what has to be unique among them. -/
structure MessageScan where
  messages : List DrivechainParentMessage := []
  /-- The slots and hashes of the proposals. -/
  m1Messages : List (UInt8 × Uint256) := []
  /-- The slots that were acknowledged. -/
  m2Slots : List UInt8 := []
  m7Slots : List UInt8 := []
  /-- The commitments of the M7 messages. -/
  acceptedBmmRequests : OrdMap UInt8 Uint256 := ∅
  sawM4 : Bool := false

/-- Add one message. -/
def MessageScan.push (scan : MessageScan) (message : DrivechainParentMessage) : MessageScan :=
  { messages := scan.messages ++ [message]
    m1Messages := if message.type = .PROPOSAL
      then (message.slot, message.proposalHash) :: scan.m1Messages else scan.m1Messages
    m2Slots := if message.type = .ACK then message.slot :: scan.m2Slots else scan.m2Slots
    m7Slots := if message.type = .BMM_ACCEPT then message.slot :: scan.m7Slots else scan.m7Slots
    acceptedBmmRequests := if message.type = .BMM_ACCEPT
      then scan.acceptedBmmRequests.insertIfNew message.slot message.proposalHash
      else scan.acceptedBmmRequests
    sawM4 := scan.sawM4 || message.type = .WITHDRAWAL_ACK }

/-- Read one coinbase output. -/
def scanOutput (H : ParentHashing) (scan : MessageScan) (output : CTxOut) :
    Except String MessageScan :=
  let message := parseDrivechainParentMessage H output.scriptPubKey
  if message.type = .NONE then return scan
  else do
    rejectIf (message.type = .PROPOSAL ∧ (message.slot, message.proposalHash) ∈ scan.m1Messages)
      "parent block contains a duplicate M1 proposal message"
    rejectIf (message.type = .ACK ∧ message.slot ∈ scan.m2Slots)
      "parent block contains multiple M2 ACK messages for one slot"
    rejectIf (message.type = .WITHDRAWAL_ACK ∧ scan.sawM4)
      "parent block contains multiple M4 withdrawal ACK messages"
    rejectIf (message.type = .BMM_ACCEPT ∧ message.slot ∈ scan.m7Slots)
      "parent block contains multiple M7 commitments for one slot"
    return scan.push message

/-- Read the coinbase. -/
def scanCoinbase (H : ParentHashing) (block : CBlock) : Except String MessageScan :=
  block.coinbaseOutputs.foldlM (scanOutput H) {}

/-- Check the M8 request of a transaction, if it has one, against the accepted ones. -/
def checkM8 (block : CBlock) (scan : MessageScan) (transaction : CTransaction) :
    Except String Unit :=
  match extractDrivechainM8BmmRequest transaction with
  | none => return ()
  | some request => do
    let slot := request.slot
    rejectIf (scan.acceptedBmmRequests[slot]? ≠ some request.sidechainBlockHash)
      s!"BIP301 M8 for slot {slot} was not accepted by this block's M7"
    rejectIf (request.previousMainchainBlockHash ≠ block.hashPrevBlock)
      s!"BIP301 M8 for slot {slot} references an expired parent block"

/-! ### The transition -/

/-- Everything up to the treasury transactions: the state they start from, and the bundles that
were proposed. -/
def applyMessages (P : ReplayParameters) (H : ParentHashing) (block : CBlock) (height : ℕ)
    (state : DrivechainParentReplayState) :
    Except String (DrivechainParentReplayState × List DrivechainWithdrawalProposalIdentity) := do
  rejectIf (¬P.Valid) "invalid slot or proposal identity for parent-state replay"
  checkInitialState P block state
  let scan ← scanCoinbase H block
  block.transactions.forM (checkM8 block scan)
  let L ← scan.messages.foldlM (applyMessage P height (H.blockHash block)) { state := state }
  -- without an M4 the next repetition repeats nothing
  let state := { L.state with previousM4Actions := L.effectiveM4Actions }
  let state ←
    (P.configuredSlot :: state.otherSlots.keys).foldlM (expireSlotProposals P height) state
  let state ← (activeDrivechainSlots state P.configuredSlot).foldlM
    (expireSlotWithdrawals P height) state
  return (state, L.derivedProposals)

/-- The deposits of the block may be minted. -/
def requiredProposalActive (P : ReplayParameters) (state : DrivechainParentReplayState) : Bool :=
  state.requiredProposalActivated && state.activeProposalHash = P.requiredActiveProposal

/-- The treasury transactions of a block. -/
def applyTransactions (P : ReplayParameters) (H : ParentHashing) (block : CBlock) (height : ℕ)
    (state : DrivechainParentReplayState) : Except String TreasuryLoop :=
  block.transactions.foldlM
    (applyTreasuryTransaction P H height (H.blockHash block) (requiredProposalActive P state))
    { state := state }

/-- A slot with nothing left to remember. -/
def SlotEmpty (state : DrivechainParentReplayState) (slot : UInt8)
    (data : DrivechainOtherSlotReplayState) : Prop :=
  data.activeProposalHash = 0 ∧ data.pendingProposals = ∅ ∧ data.pendingWithdrawals = [] ∧
    data.ctip = none ∧ data.ctipValue = 0 ∧ slot ∉ state.previousM4Actions
deriving Decidable

/-- Forget the empty slots. -/
def pruneSlots (state : DrivechainParentReplayState) : DrivechainParentReplayState :=
  { state with otherSlots := state.otherSlots.filter fun slot data => ¬SlotEmpty state slot data }

/-- What an accepted block leaves behind. -/
structure BlockResult where
  state : DrivechainParentReplayState
  deposits : List DrivechainMintableDeposit
  successfulWithdrawals : List DrivechainSuccessfulWithdrawal
  withdrawalProposals : List DrivechainWithdrawalProposalIdentity

/-- The transition of the replayed state by one parent block. -/
def applyDrivechainParentBlockState (P : ReplayParameters) (H : ParentHashing) (block : CBlock)
    (height : ℕ) (state : DrivechainParentReplayState) : Except String BlockResult := do
  let (state, proposals) ← applyMessages P H block height state
  let T ← applyTransactions P H block height state
  let state := pruneSlots T.state
  rejectIf (state.requiredProposalActivated ∧
      state.activeProposalHash ≠ P.requiredActiveProposal)
    "parent slot no longer has the required active proposal"
  return {
    state := state
    deposits := T.deposits
    successfulWithdrawals := T.derivedWithdrawals
    withdrawalProposals := proposals }

end ElementsDrivechain
