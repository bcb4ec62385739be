import ElementsDrivechain.Parent.VoteEffects

/-!
# The persistent tip

The record of the replayed state that a node keeps on disk, and the sanity check that the store
applies to every such record it reads or is asked to write.
-/

namespace ElementsDrivechain

/-- The persistent tip of the replay. -/
structure DrivechainParentReplayTip where
  height : ℕ
  hash : Uint256
  state : DrivechainParentReplayState
deriving DecidableEq

/-- The checks of the data of one slot; they are the same for the configured slot and for the
others. -/
def SaneSlot (height : ℕ) (data : DrivechainOtherSlotReplayState) : Prop :=
  (data.ctip = none → data.ctipValue = 0) ∧ (data.ctip.isSome → data.activeProposalHash ≠ 0) ∧
  MoneyRange data.ctipValue ∧
  (∀ proposal ∈ data.pendingProposals.toList, proposal.1 ≠ 0 ∧
    proposal.2.proposalHeight ≤ height ∧
    proposal.2.votes ≤ height - proposal.2.proposalHeight) ∧
  (∀ withdrawal ∈ data.pendingWithdrawals, withdrawal.proposalHeight ≤ height ∧
    withdrawal.votes ≤ height - withdrawal.proposalHeight + 2) ∧
  (data.pendingWithdrawals.map (·.m6id)).Nodup ∧
  (data.activeProposalHash = 0 → data.pendingWithdrawals = [])
deriving Decidable

/-- The record of the required activation is complete or absent. -/
def SaneActivation (height : ℕ) (state : DrivechainParentReplayState) : Prop :=
  (state.requiredProposalActivated = true → state.activeProposalHash ≠ 0 ∧
    state.requiredActivationBlockHash ≠ 0 ∧ state.requiredActivationHeight ≤ height) ∧
  (state.requiredProposalActivated = false → state.requiredActivationHeight = 0 ∧
    state.requiredActivationBlockHash = 0)
deriving Decidable

/-- The remembered actions belong to active slots.  The configured slot is not in the map of the
others, so at most one action may be missing there. -/
def SaneActions (state : DrivechainParentReplayState) : Prop :=
  (∀ action ∈ state.previousM4Actions.toList,
    (action.2.type = .ALARM → action.2.m6id = 0) ∧
    ((state.otherSlots[action.1]?.map (·.activeProposalHash)).getD state.activeProposalHash) ≠ 0) ∧
  (state.previousM4Actions.toList.filter fun action => action.1 ∉ state.otherSlots).length ≤ 1
deriving Decidable

/-- The check of a tip. -/
def IsSaneTip (tip : DrivechainParentReplayTip) : Prop :=
  tip.hash ≠ 0 ∧ SaneActivation tip.height tip.state ∧
  SaneSlot tip.height tip.state.configuredData ∧
  (∀ slot ∈ tip.state.otherSlots.toList, SaneSlot tip.height slot.2) ∧
  (tip.state.ctip.toList ++ tip.state.otherSlots.toList.filterMap (·.2.ctip)).Nodup ∧
  SaneActions tip.state

instance : DecidablePred IsSaneTip := fun _ => inferInstanceAs (Decidable (_ ∧ _))

end ElementsDrivechain
