import ElementsDrivechain.Parent.Apply
import ElementsDrivechain.Parent.VoteEffects

/-!
# What the messages of a block can do

Every coinbase message other than M4 changes the data of the one slot it names, in one of five
ways; an M4 is a ballot.  From this case distinction the file derives what the whole message phase
of an accepted block, with the expiry that ends it, has done to each slot.

* `applyMessage_cases` : a message is a move or a ballot.
* `applyMessages_done` : the message phase of an accepted block.
-/

namespace ElementsDrivechain

open Fallible

/-! ### One message -/

/-- How a message other than M4 changes the data of the slot it names. -/
inductive SlotMessage (height : ℕ) (m : DrivechainParentMessage) :
    DrivechainOtherSlotReplayState → DrivechainOtherSlotReplayState → Prop
  /-- An accepted commitment, or an acknowledgement of nothing that is pending. -/
  | idle (d : DrivechainOtherSlotReplayState) (htype : m.type = .BMM_ACCEPT ∨ m.type = .ACK) :
      SlotMessage height m d d
  | propose (d : DrivechainOtherSlotReplayState) (htype : m.type = .PROPOSAL) :
      SlotMessage height m d
        { d with
          pendingProposals := d.pendingProposals.insertIfNew m.proposalHash
            { proposalHeight := height, votes := 0 } }
  | vote (d : DrivechainOtherSlotReplayState) (p : DrivechainPendingProposal) (votes : ℕ)
      (htype : m.type = .ACK) (hp : d.pendingProposals[m.proposalHash]? = some p) :
      SlotMessage height m d
        { d with
          pendingProposals := d.pendingProposals.insert m.proposalHash { p with votes := votes } }
  | activate (d : DrivechainOtherSlotReplayState) (htype : m.type = .ACK)
      (hp : m.proposalHash ∈ d.pendingProposals) :
      SlotMessage height m d
        { d with
          activeProposalHash := m.proposalHash
          pendingProposals := d.pendingProposals.erase m.proposalHash }
  | bundle (d : DrivechainOtherSlotReplayState) (htype : m.type = .WITHDRAWAL_PROPOSAL)
      (hactive : d.activeProposalHash ≠ 0)
      (hnew : ∀ entry ∈ d.pendingWithdrawals, entry.m6id ≠ m.proposalHash) :
      SlotMessage height m d
        { d with
          pendingWithdrawals := d.pendingWithdrawals ++
            [{ m6id := m.proposalHash, proposalHeight := height, votes := 1 }] }

/-- The record of the required activation either stays or is made now. -/
def RequiredStep (height : ℕ) (blockHash : Uint256) (s s' : DrivechainParentReplayState) : Prop :=
  (s'.requiredProposalActivated = s.requiredProposalActivated ∧
    s'.requiredActivationHeight = s.requiredActivationHeight ∧
    s'.requiredActivationBlockHash = s.requiredActivationBlockHash) ∨
  (s.requiredProposalActivated = false ∧ s'.requiredProposalActivated = true ∧
    s'.requiredActivationHeight = height ∧ s'.requiredActivationBlockHash = blockHash)

namespace RequiredStep

variable {height : ℕ} {blockHash : Uint256} {s t u : DrivechainParentReplayState} {cfg : UInt8}

theorem of_sameFrame (h : SameFrame cfg s t) : RequiredStep height blockHash s t :=
  .inl ⟨h.1, h.2, h.3⟩

theorem of_updateSlot {slot : UInt8}
    {f : DrivechainOtherSlotReplayState → DrivechainOtherSlotReplayState} :
    RequiredStep height blockHash s (updateSlot s cfg slot f) :=
  of_sameFrame SameFrame.updateSlot

theorem trans (h : RequiredStep height blockHash s t) (h' : RequiredStep height blockHash t u) :
    RequiredStep height blockHash s u := by
  rcases h with ⟨ha, hb, hc⟩ | ⟨ha, hb, hc, hd⟩ <;> rcases h' with ⟨ha', hb', hc'⟩ | h'
  · exact .inl ⟨ha'.trans ha, hb'.trans hb, hc'.trans hc⟩
  · exact .inr ⟨ha ▸ h'.1, h'.2⟩
  · exact .inr ⟨ha, ha'.trans hb, hb'.trans hc, hc'.trans hd⟩
  · rw [hb] at h'; simp at h'

end RequiredStep

/-- The effect of a message other than M4. -/
structure MessageMoved (P : ReplayParameters) (height : ℕ) (blockHash : Uint256) (L : MessageLoop)
    (m : DrivechainParentMessage) (L' : MessageLoop) : Prop where
  slot : SlotMessage height m (slotState L.state P.configuredSlot m.slot)
    (slotState L'.state P.configuredSlot m.slot)
  other (s : UInt8) : s ≠ m.slot →
    slotState L'.state P.configuredSlot s = slotState L.state P.configuredSlot s
  derivedProposals : L'.derivedProposals = L.derivedProposals ++
    if m.type = .WITHDRAWAL_PROPOSAL then [{ sidechainSlot := m.slot, m6id := m.proposalHash }]
    else []
  effectiveM4Actions : L'.effectiveM4Actions = L.effectiveM4Actions
  mem_otherSlots : P.configuredSlot ∈ L'.state.otherSlots ↔ P.configuredSlot ∈ L.state.otherSlots
  required : RequiredStep height blockHash L.state L'.state

section Message

variable {P : ReplayParameters} {height : ℕ} {blockHash : Uint256} {L L' : MessageLoop}
  {m : DrivechainParentMessage}

theorem MessageMoved.of_updateSlot
    {f : DrivechainOtherSlotReplayState → DrivechainOtherSlotReplayState}
    (hslot : SlotMessage height m (slotState L.state P.configuredSlot m.slot)
      (f (slotState L.state P.configuredSlot m.slot)))
    (htype : m.type ≠ .WITHDRAWAL_PROPOSAL) :
    MessageMoved P height blockHash L m
      { L with state := updateSlot L.state P.configuredSlot m.slot f } where
  slot := by simpa using hslot
  other s hs := slotState_updateSlot_of_ne hs
  derivedProposals := by simp [htype]
  effectiveM4Actions := rfl
  mem_otherSlots := SameFrame.updateSlot.mem_otherSlots
  required := .of_updateSlot

theorem activateConfigured_step {s s' : DrivechainParentReplayState}
    (h : activateConfigured P height blockHash s = .ok s') :
    RequiredStep height blockHash s s' ∧ s'.otherSlots = s.otherSlots ∧
      ∀ cfg slot, slotState s' cfg slot = slotState s cfg slot := by
  simp only [activateConfigured, bind_eq_ok, rejectIf_eq_ok] at h
  obtain ⟨_, -, h⟩ := h
  split_ifs at h with hnew
  · obtain rfl := pure_eq_ok.1 h
    exact ⟨.inr ⟨by simpa using hnew.1, rfl, rfl, rfl⟩, rfl, fun _ _ => rfl⟩
  · obtain rfl := pure_eq_ok.1 h
    exact ⟨.inl ⟨rfl, rfl, rfl⟩, rfl, fun _ _ => rfl⟩

theorem applyAck_moved (htype : m.type = .ACK) (h : applyAck P height blockHash L m = .ok L') :
    MessageMoved P height blockHash L m L' := by
  have hne : m.type ≠ .WITHDRAWAL_PROPOSAL := by simp [htype]
  have htouch : MessageMoved P height blockHash L m
      { L with state := updateSlot L.state P.configuredSlot m.slot id } :=
    .of_updateSlot (.idle _ (.inr htype)) hne
  simp only [applyAck, slotState_updateSlot_self, id_eq, updateSlot_updateSlot] at h
  split at h
  · rw [← pure_eq_ok.1 h]; exact htouch
  · case h_2 p hp =>
    have hmem : m.proposalHash ∈ (slotState L.state P.configuredSlot m.slot).pendingProposals := by
      rw [Std.ExtTreeMap.mem_iff_isSome_getElem?, hp]; rfl
    have hactivate : MessageMoved P height blockHash L m
        { L with
          state := updateSlot L.state P.configuredSlot m.slot fun data =>
            { data with
              activeProposalHash := m.proposalHash
              pendingProposals := data.pendingProposals.erase m.proposalHash } } :=
      .of_updateSlot (.activate _ htype hmem) hne
    split_ifs at h <;> simp only [pure_eq_ok, bind_eq_ok, rejectIf_eq_ok] at h
    · rw [← h]; exact htouch
    · -- the activation of a proposal in the configured slot is recorded
      obtain ⟨_, -, s', hs', rfl⟩ := h
      obtain ⟨hstep, hothers, hslots⟩ := activateConfigured_step hs'
      exact
        { slot := by rw [hslots]; exact hactivate.slot
          other := fun s hs => by rw [hslots]; exact hactivate.other s hs
          derivedProposals := hactivate.derivedProposals
          effectiveM4Actions := hactivate.effectiveM4Actions
          mem_otherSlots := by rw [hothers]; exact hactivate.mem_otherSlots
          required := hactivate.required.trans hstep }
    · obtain ⟨_, -, rfl⟩ := h
      exact hactivate
    · obtain ⟨_, -, rfl⟩ := h
      exact .of_updateSlot (.vote _ p _ htype hp) hne

theorem applyWithdrawalProposal_moved (htype : m.type = .WITHDRAWAL_PROPOSAL)
    (h : applyWithdrawalProposal P.configuredSlot height L m = .ok L') :
    MessageMoved P height blockHash L m L' := by
  simp only [applyWithdrawalProposal, bind_eq_ok, rejectIf_eq_ok, pure_eq_ok, not_exists,
    not_and] at h
  obtain ⟨_, hactive, _, hnew, rfl⟩ := h
  exact
    { slot := by
        rw [slotState_updateSlot_self]
        exact .bundle _ htype hactive hnew
      other := fun s hs => slotState_updateSlot_of_ne hs
      derivedProposals := by simp [htype]
      effectiveM4Actions := rfl
      mem_otherSlots := SameFrame.updateSlot.mem_otherSlots
      required := .of_updateSlot }

/-- **A message is a move of its slot or a ballot.** -/
theorem applyMessage_cases (h : applyMessage P height blockHash L m = .ok L') :
    MessageMoved P height blockHash L m L' ∨
      (m.type = .WITHDRAWAL_ACK ∧ applyWithdrawalAck P.configuredSlot L m = .ok L') := by
  simp only [applyMessage] at h
  split at h
  · case h_1 htype =>
    rw [← pure_eq_ok.1 h]
    exact .inl ⟨.idle _ (.inl htype), fun _ _ => rfl, by simp [htype], rfl, .rfl,
      .inl ⟨rfl, rfl, rfl⟩⟩
  · case h_2 htype =>
    rw [← pure_eq_ok.1 h]
    exact .inl (.of_updateSlot (.propose _ htype) (by simp [htype]))
  · case h_3 htype => exact .inl (applyAck_moved htype h)
  · case h_4 htype => exact .inl (applyWithdrawalProposal_moved htype h)
  · case h_5 htype => exact .inr ⟨htype, h⟩
  · exact absurd h throw_ne_ok

end Message

/-! ### The coinbase -/

theorem parseDrivechainParentMessage_proposal {H : ParentHashing} {script : CScript}
    (h : (parseDrivechainParentMessage H script).type = .PROPOSAL) :
    ∃ description, (parseDrivechainParentMessage H script).proposalHash = H.hash description := by
  unfold parseDrivechainParentMessage at h ⊢
  split at h
  · simp at h
  · simp only at h ⊢
    split_ifs at h ⊢ with h₁ h₂ h₃ h₄ h₅ h₆
    any_goals simp at h
    · exact ⟨_, rfl⟩
    · unfold parseM4 at h
      split_ifs at h

/-- The messages of an accepted coinbase: they are what its outputs say, and at most one is an
M4. -/
structure Scanned (H : ParentHashing) (block : CBlock) (messages : List DrivechainParentMessage) :
    Prop where
  source (m : DrivechainParentMessage) : m ∈ messages →
    ∃ output ∈ block.coinbaseOutputs, m = parseDrivechainParentMessage H output.scriptPubKey
  single : messages.Pairwise fun a b => ¬(a.type = .WITHDRAWAL_ACK ∧ b.type = .WITHDRAWAL_ACK)

theorem Scanned.hash {H : ParentHashing} {block : CBlock}
    {messages : List DrivechainParentMessage} (h : Scanned H block messages)
    {m : DrivechainParentMessage} (hm : m ∈ messages) (htype : m.type = .PROPOSAL) :
    ∃ description, m.proposalHash = H.hash description := by
  obtain ⟨output, -, rfl⟩ := h.source m hm
  exact parseDrivechainParentMessage_proposal htype

theorem scanCoinbase_scanned {H : ParentHashing} {block : CBlock} {scan : MessageScan}
    (h : scanCoinbase H block = .ok scan) : Scanned H block scan.messages := by
  suffices Scanned H block scan.messages ∧
      (scan.sawM4 = false → ∀ m ∈ scan.messages, m.type ≠ .WITHDRAWAL_ACK) from this.1
  unfold scanCoinbase at h
  refine foldlM_invariant h
    ⟨⟨by simp, .nil⟩, by simp⟩ ?_
  rintro output houtput u v ⟨hu, hsaw⟩ hstep
  simp only [scanOutput] at hstep
  split_ifs at hstep
  · rw [← pure_eq_ok.1 hstep]; exact ⟨hu, hsaw⟩
  · simp only [bind_eq_ok, rejectIf_eq_ok, pure_eq_ok] at hstep
    obtain ⟨_, -, _, -, _, hm4, _, -, rfl⟩ := hstep
    refine ⟨⟨fun m hm => ?_, ?_⟩, fun hs m hm => ?_⟩
    · rcases List.mem_append.1 hm with hm | hm
      · exact hu.source m hm
      · exact ⟨output, houtput, List.mem_singleton.1 hm⟩
    · refine List.pairwise_append.2 ⟨hu.single, List.pairwise_singleton _ _, ?_⟩
      rintro a ha b hb ⟨hta, htb⟩
      obtain rfl := List.mem_singleton.1 hb
      refine hsaw (Bool.eq_false_iff.2 fun hsaw => hm4 ⟨htb, hsaw⟩) a ha hta
    · simp only [MessageScan.push, Bool.or_eq_false_iff, decide_eq_false_iff_not] at hs
      rcases List.mem_append.1 hm with hm | hm
      · exact hsaw hs.1 m hm
      · obtain rfl := List.mem_singleton.1 hm
        exact hs.2

/-- **Induction over the messages of a block.**  A property of the loop holds after all messages
when it holds before the first, every move keeps it, and the one ballot keeps it. -/
@[elab_as_elim]
theorem messages_induction {P : ReplayParameters} {H : ParentHashing} {block : CBlock} {height : ℕ}
    {blockHash : Uint256} {messages : List DrivechainParentMessage}
    {s : DrivechainParentReplayState} {L : MessageLoop} {motive : MessageLoop → Prop}
    (h : messages.foldlM (applyMessage P height blockHash) { state := s } = .ok L)
    (hscan : Scanned H block messages) (hcfg : P.configuredSlot ∉ s.otherSlots)
    (init : motive { state := s })
    (move : ∀ m ∈ messages, ∀ L L', motive L → MessageMoved P height blockHash L m L' → motive L')
    (ballot : ∀ m ∈ messages, m.type = .WITHDRAWAL_ACK → ∀ L L', motive L →
      L.effectiveM4Actions = ∅ → Balloted P.configuredSlot L L' → motive L') : motive L := by
  suffices motive L ∧ P.configuredSlot ∉ L.state.otherSlots from this.1
  have hinv := foldlM_induction (motive := fun done L => (motive L ∧
    P.configuredSlot ∉ L.state.otherSlots) ∧
    ((∀ m ∈ done, m.type ≠ .WITHDRAWAL_ACK) → L.effectiveM4Actions = ∅)) h
    ⟨⟨init, hcfg⟩, fun _ => rfl⟩ ?_
  · exact hinv.1
  rintro done m L L' hpre ⟨⟨hL, hmem⟩, heff⟩ hstep
  have hm : m ∈ messages := hpre.subset (by simp)
  rcases applyMessage_cases hstep with hmove | ⟨htype, hack⟩
  · refine ⟨⟨move m hm L L' hL hmove, fun hc => hmem (hmove.mem_otherSlots.1 hc)⟩, fun hd => ?_⟩
    rw [hmove.effectiveM4Actions]
    exact heff fun a ha => hd a (List.mem_append_left _ ha)
  · have hnone : L.effectiveM4Actions = ∅ := by
      refine heff fun a ha hta => ?_
      have hpair := hscan.single.sublist hpre.sublist
      exact (List.pairwise_append.1 hpair).2.2 a ha m (by simp) ⟨hta, htype⟩
    have hb := applyWithdrawalAck_balloted hmem hnone hack
    refine ⟨⟨ballot m hm htype L L' hL hnone hb, fun hc => hmem (hb.frame.mem_otherSlots.1 hc)⟩,
      fun hd => ?_⟩
    exact absurd htype (hd m (by simp))

end ElementsDrivechain
