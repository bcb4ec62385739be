import ElementsDrivechain.Parent.MessageEffects

/-!
# The message phase of a block

What the messages of an accepted block and the expiry after them have done, slot by slot, before
its transactions are looked at.

* `applyMessages_done`, `applyMessages_queues`, `applyMessages_proposals`.
-/

namespace ElementsDrivechain

open Fallible

variable {P : ReplayParameters} {height : ℕ} {s t : DrivechainParentReplayState}
  {m : DrivechainParentMessage} {d d' : DrivechainOtherSlotReplayState} {cfg : UInt8} {ack : Prop}
  {L L' : MessageLoop} {H : ParentHashing} {block : CBlock}
  {proposals : List DrivechainWithdrawalProposalIdentity}

/-! ### The parts of the phase -/

theorem applyMessages_eq_ok (h : applyMessages P H block height s = .ok (t, proposals)) :
    P.Valid ∧ checkInitialState P block s = .ok () ∧
      ∃ messages L u, Scanned H block messages ∧
        messages.foldlM (applyMessage P height (H.blockHash block)) { state := s } = .ok L ∧
        (P.configuredSlot :: L.state.otherSlots.keys).foldlM (expireSlotProposals P height)
          { L.state with previousM4Actions := L.effectiveM4Actions } = .ok u ∧
        (activeDrivechainSlots u P.configuredSlot).foldlM (expireSlotWithdrawals P height) u =
          .ok t ∧ proposals = L.derivedProposals := by
  simp only [applyMessages, bind_eq_ok, rejectIf_eq_ok, not_not, pure_eq_ok, Prod.mk.injEq] at h
  obtain ⟨_, hvalid, _, hinit, scan, hscan, _, -, L, hL, u, hu, t', ht, rfl, rfl⟩ := h
  exact ⟨hvalid, hinit, scan.messages, L, u, scanCoinbase_scanned hscan, hL, hu, ht, rfl⟩

theorem checkInitialState_not_mem (h : checkInitialState P block s = .ok ()) :
    P.configuredSlot ∉ s.otherSlots := by
  simp only [checkInitialState, bind_eq_ok, rejectIf_eq_ok] at h
  obtain ⟨_, -, _, -, _, -, _, hslots, -⟩ := h
  intro hmem
  obtain ⟨data, hdata⟩ := Option.isSome_iff_exists.1 (Std.ExtTreeMap.mem_iff_isSome_getElem?.1 hmem)
  have hcheck := forM_eq_ok.1 hslots (P.configuredSlot, data)
    (Std.ExtTreeMap.mem_toList_iff_getElem?_eq_some.2 hdata)
  simp at hcheck

/-! ### Expiry -/

/-- Expiring the proposals of some slots changes nothing but their pending proposals, of which it
keeps some; those it keeps in the slots it visits are not ahead of the block and have no more votes
than blocks have passed. -/
structure ProposalsExpired (cfg : UInt8) (height : ℕ) (slots : List UInt8)
    (s t : DrivechainParentReplayState) : Prop where
  frame : SameFrame cfg s t
  slot (slot : UInt8) : slotState t cfg slot =
    { slotState s cfg slot with
      pendingProposals := (slotState t cfg slot).pendingProposals }
  kept (slot : UInt8) (hash : Uint256) (p : DrivechainPendingProposal) :
    (slotState t cfg slot).pendingProposals[hash]? = some p →
      (slotState s cfg slot).pendingProposals[hash]? = some p ∧
      (slot ∈ slots → p.proposalHeight ≤ height ∧ p.votes ≤ height - p.proposalHeight)

theorem expireProposals_kept {slot : UInt8}
    {pending kept : OrdMap Uint256 DrivechainPendingProposal} {used : Bool}
    (h : expireProposals P height slot pending used = .ok kept) {hash : Uint256}
    {p : DrivechainPendingProposal} (hp : kept[hash]? = some p) :
    pending[hash]? = some p ∧ p.proposalHeight ≤ height ∧
      p.votes ≤ height - p.proposalHeight := by
  simp only [expireProposals, bind_eq_ok, pure_eq_ok] at h
  obtain ⟨_, hcheck, rfl⟩ := h
  rw [Std.ExtTreeMap.getElem?_filter', Option.filter_eq_some_iff] at hp
  have hc := forM_eq_ok.1 hcheck (hash, p)
    (Std.ExtTreeMap.mem_toList_iff_getElem?_eq_some.2 hp.1)
  simp only [bind_eq_ok, rejectIf_eq_ok, not_lt] at hc
  obtain ⟨_, hheight, hvotes⟩ := hc
  exact ⟨hp.1, hheight, by simpa using hvotes⟩

theorem expireSlotProposals_fold {slots : List UInt8}
    (h : slots.foldlM (expireSlotProposals P height) s = .ok t) :
    ProposalsExpired P.configuredSlot height slots s t := by
  refine foldlM_induction h
    ⟨.refl _, fun _ => rfl, fun _ _ _ hp => ⟨hp, by simp⟩⟩ ?_
  intro done slot t u _ ht hstep
  simp only [expireSlotProposals, bind_eq_ok, pure_eq_ok] at hstep
  obtain ⟨kept, hkept, rfl⟩ := hstep
  refine ⟨ht.frame.trans .updateSlot, fun slot' => ?_, fun slot' hash p hp => ?_⟩
  · rw [slotState_updateSlot]
    split_ifs with hs
    · subst hs
      exact congrArg (fun data => { data with pendingProposals := kept }) (ht.slot slot')
    · exact ht.slot slot'
  · rw [slotState_updateSlot] at hp
    split_ifs at hp with hs
    · subst hs
      obtain ⟨hold, hbound⟩ := expireProposals_kept hkept hp
      exact ⟨(ht.kept slot' hash p hold).1, fun _ => hbound⟩
    · obtain ⟨hold, hbound⟩ := ht.kept slot' hash p hp
      refine ⟨hold, fun hmem => hbound ?_⟩
      simpa [hs] using hmem

/-- Expiring the withdrawals of some slots keeps part of each queue, and in the slots it visits
nothing that is older than allowed. -/
structure WithdrawalsExpired (P : ReplayParameters) (height : ℕ) (slots : List UInt8)
    (s t : DrivechainParentReplayState) : Prop where
  frame : SameFrame P.configuredSlot s t
  slot (slot : UInt8) : slotState t P.configuredSlot slot =
    { slotState s P.configuredSlot slot with
      pendingWithdrawals := (slotState t P.configuredSlot slot).pendingWithdrawals }
  kept (slot : UInt8) : (slotState t P.configuredSlot slot).pendingWithdrawals.Sublist
    (slotState s P.configuredSlot slot).pendingWithdrawals
  fresh (slot : UInt8) : slot ∈ slots →
    ∀ e ∈ (slotState t P.configuredSlot slot).pendingWithdrawals,
      e.proposalHeight ≤ height ∧ height - e.proposalHeight ≤ P.withdrawalBundleMaxAge

theorem expireSlotWithdrawals_fold {slots : List UInt8}
    (h : slots.foldlM (expireSlotWithdrawals P height) s = .ok t) :
    WithdrawalsExpired P height slots s t := by
  refine foldlM_induction h
    ⟨.refl _, fun _ => rfl, fun _ => .refl _, by simp⟩ ?_
  intro done slot t u _ ht hstep
  simp only [expireSlotWithdrawals, bind_eq_ok, rejectIf_eq_ok, pure_eq_ok, not_exists, not_and,
    not_lt] at hstep
  obtain ⟨_, hahead, rfl⟩ := hstep
  refine ⟨ht.frame.trans .updateSlot, fun slot' => ?_, fun slot' => ?_, fun slot' hmem e he => ?_⟩
  · rw [slotState_updateSlot]
    split_ifs with hs
    · subst hs
      generalize List.filter _ (slotState t P.configuredSlot slot').pendingWithdrawals = kept
      exact congrArg (fun data => { data with pendingWithdrawals := kept }) (ht.slot slot')
    · exact ht.slot slot'
  · rw [slotState_updateSlot]
    split_ifs with hs
    · subst hs
      exact List.filter_sublist.trans (ht.kept slot')
    · exact ht.kept slot'
  · rw [slotState_updateSlot] at he
    split_ifs at he with hs
    · subst hs
      obtain ⟨he, hage⟩ := List.mem_filter.1 he
      exact ⟨hahead e he, by simpa using hage⟩
    · exact ht.fresh slot' (by simpa [hs] using hmem) e he

/-! ### Treasuries and the required activation -/

theorem SlotMessage.ctip_eq (h : SlotMessage height m d d') :
    d'.ctip = d.ctip ∧ d'.ctipValue = d.ctipValue := by
  cases h <;> exact ⟨rfl, rfl⟩

/-- The message phase leaves the treasuries alone and records the required activation at most
once. -/
structure MessagesDone (P : ReplayParameters) (height : ℕ) (blockHash : Uint256)
    (s t : DrivechainParentReplayState) : Prop where
  not_mem : P.configuredSlot ∉ t.otherSlots
  ctip (slot : UInt8) :
    (slotState t P.configuredSlot slot).ctip = (slotState s P.configuredSlot slot).ctip
  ctipValue (slot : UInt8) :
    (slotState t P.configuredSlot slot).ctipValue = (slotState s P.configuredSlot slot).ctipValue
  required : RequiredStep height blockHash s t

theorem applyMessages_done (h : applyMessages P H block height s = .ok (t, proposals)) :
    MessagesDone P height (H.blockHash block) s t := by
  obtain ⟨-, hinit, messages, L, u, hscan, hL, hu, ht, -⟩ := applyMessages_eq_ok h
  have hcfg := checkInitialState_not_mem hinit
  have hloop : MessagesDone P height (H.blockHash block) s L.state := by
    refine messages_induction hL hscan hcfg
      ⟨hcfg, fun _ => rfl, fun _ => rfl, .inl ⟨rfl, rfl, rfl⟩⟩ ?_ ?_
    · intro m _ L L' hL hm
      have hslot : ∀ slot, (slotState L'.state P.configuredSlot slot).ctip =
            (slotState L.state P.configuredSlot slot).ctip ∧
          (slotState L'.state P.configuredSlot slot).ctipValue =
            (slotState L.state P.configuredSlot slot).ctipValue := by
        intro slot
        by_cases hs : slot = m.slot
        · subst hs; exact hm.slot.ctip_eq
        · rw [hm.other slot hs]; exact ⟨rfl, rfl⟩
      exact ⟨fun hc => hL.not_mem (hm.mem_otherSlots.1 hc),
        fun slot => (hslot slot).1.trans (hL.ctip slot),
        fun slot => (hslot slot).2.trans (hL.ctipValue slot), hL.required.trans hm.required⟩
    · intro m _ _ L L' hL _ hb
      refine ⟨fun hc => hL.not_mem (hb.frame.mem_otherSlots.1 hc), fun slot => ?_, fun slot => ?_,
        hL.required.trans (.of_sameFrame hb.frame)⟩
      · rw [hb.slot slot]; exact hL.ctip slot
      · rw [hb.slot slot]; exact hL.ctipValue slot
  have hexp := expireSlotProposals_fold hu
  have hwit := expireSlotWithdrawals_fold ht
  refine ⟨fun hc => hloop.not_mem ?_, fun slot => ?_, fun slot => ?_, ?_⟩
  · exact hexp.frame.mem_otherSlots.1 (hwit.frame.mem_otherSlots.1 hc)
  · rw [hwit.slot slot, hexp.slot slot]; exact hloop.ctip slot
  · rw [hwit.slot slot, hexp.slot slot]; exact hloop.ctipValue slot
  · have hset : RequiredStep height (H.blockHash block) L.state
        { L.state with previousM4Actions := L.effectiveM4Actions } := .inl ⟨rfl, rfl, rfl⟩
    exact ((hloop.required.trans hset).trans (.of_sameFrame hexp.frame)).trans
      (.of_sameFrame hwit.frame)

/-! ### Queues -/

/-- Where the bundles of a queue come from: each was there before the block and has gained at most
the vote that the recorded action names, or was proposed in the block. -/
def QueueOrigin (height : ℕ) (action : Option DrivechainM4Action) (proposed : Uint256 → Prop)
    (before after : List DrivechainPendingWithdrawal) : Prop :=
  ∀ e' ∈ after,
    (∃ e ∈ before, e'.m6id = e.m6id ∧ e'.proposalHeight = e.proposalHeight ∧
      e'.votes ≤ e.votes + upvotes action e.m6id) ∨
    (e'.proposalHeight = height ∧ proposed e'.m6id ∧ e'.votes ≤ 1 + upvotes action e'.m6id)

namespace QueueOrigin

variable {action : Option DrivechainM4Action} {proposed : Uint256 → Prop}
  {before mid after : List DrivechainPendingWithdrawal}

theorem refl (queue : List DrivechainPendingWithdrawal) :
    QueueOrigin height action proposed queue queue :=
  fun e he => .inl ⟨e, he, rfl, rfl, Nat.le_add_right _ _⟩

theorem subset (h : QueueOrigin height action proposed before mid)
    (hsub : after ⊆ mid) : QueueOrigin height action proposed before after :=
  fun e he => h e (hsub he)

theorem mono {proposed' : Uint256 → Prop} (h : QueueOrigin height action proposed before after)
    (hp : ∀ m6id, proposed m6id → proposed' m6id) :
    QueueOrigin height action proposed' before after := by
  intro e he
  rcases h e he with hold | ⟨hheight, hprop, hvotes⟩
  · exact .inl hold
  · exact .inr ⟨hheight, hp _ hprop, hvotes⟩

theorem voted (h : QueueOrigin height none proposed before mid) (hv : Voted action mid after) :
    QueueOrigin height action proposed before after := by
  intro e' he'
  obtain ⟨e, he, hid, hheight, hvotes⟩ := Matching.exists_of_mem_right hv he'
  rcases h e he with ⟨b, hb, hid', hheight', hvotes'⟩ | ⟨hheight', hprop, hvotes'⟩
  · refine .inl ⟨b, hb, hid.trans hid', hheight.trans hheight', ?_⟩
    rw [hid'] at hvotes
    simp only [upvotes_none] at hvotes'
    omega
  · refine .inr ⟨hheight.trans hheight', hid ▸ hprop, ?_⟩
    rw [hid]
    simp only [upvotes_none] at hvotes'
    omega

end QueueOrigin

/-- A message other than M4 leaves the queue of its slot alone, or is an M3 and appends a new
bundle to it. -/
theorem SlotMessage.queue (h : SlotMessage height m d d') :
    (m.type ≠ .WITHDRAWAL_PROPOSAL ∧ d'.pendingWithdrawals = d.pendingWithdrawals) ∨
    (m.type = .WITHDRAWAL_PROPOSAL ∧ (∀ e ∈ d.pendingWithdrawals, e.m6id ≠ m.proposalHash) ∧
      d'.pendingWithdrawals = d.pendingWithdrawals ++
        [{ m6id := m.proposalHash, proposalHeight := height, votes := 1 }]) := by
  cases h with
  | idle htype => exact .inl ⟨by rcases htype with h | h <;> simp [h], rfl⟩
  | propose htype => exact .inl ⟨by simp [htype], rfl⟩
  | vote p votes htype => exact .inl ⟨by simp [htype], rfl⟩
  | activate htype => exact .inl ⟨by simp [htype], rfl⟩
  | bundle htype _ hnew => exact .inr ⟨htype, hnew, rfl⟩

/-- No bundle is pending twice for one slot. -/
def QueuesNodup (cfg : UInt8) (s : DrivechainParentReplayState) : Prop :=
  ∀ slot, ((queue s cfg slot).map (·.m6id)).Nodup

/-- The queues while the messages of a block are applied. -/
structure QueueLoop (cfg : UInt8) (height : ℕ) (ack : Prop) (s : DrivechainParentReplayState)
    (L : MessageLoop) : Prop where
  nodup : QueuesNodup cfg L.state
  origin (slot : UInt8) : QueueOrigin height L.effectiveM4Actions[slot]?
    (fun m6id => { sidechainSlot := slot, m6id := m6id } ∈ L.derivedProposals)
    (queue s cfg slot) (queue L.state cfg slot)
  pending (p : DrivechainWithdrawalProposalIdentity) : p ∈ L.derivedProposals →
    ∃ e ∈ queue L.state cfg p.sidechainSlot, e.m6id = p.m6id
  proposals_nodup : L.derivedProposals.Nodup
  action (slot : UInt8) (a : DrivechainM4Action) : L.effectiveM4Actions[slot]? = some a →
    a.WellFormed ∧ ack

theorem QueueLoop.init (h : QueuesNodup cfg s) : QueueLoop cfg height ack s { state := s } where
  nodup := h
  origin _ := .refl _
  pending p hp := by simp at hp
  proposals_nodup := .nil
  action slot a ha := by simp at ha

theorem QueueLoop.move {blockHash : Uint256} (h : QueueLoop P.configuredSlot height ack s L)
    (hm : MessageMoved P height blockHash L m L') : QueueLoop P.configuredSlot height ack s L' := by
  have hother : ∀ slot, slot ≠ m.slot →
      queue L'.state P.configuredSlot slot = queue L.state P.configuredSlot slot :=
    fun slot hs => by rw [queue, hm.other slot hs]
  rcases hm.slot.queue with ⟨htype, hqueue⟩ | ⟨htype, hnew, hqueue⟩
  · have hall : ∀ slot, queue L'.state P.configuredSlot slot =
        queue L.state P.configuredSlot slot := by
      intro slot
      by_cases hs : slot = m.slot
      · rw [hs]; exact hqueue
      · exact hother slot hs
    have hprop : L'.derivedProposals = L.derivedProposals := by
      rw [hm.derivedProposals, if_neg htype, List.append_nil]
    exact
      { nodup := fun slot => by rw [hall]; exact h.nodup slot
        origin := fun slot => by
          rw [hall, hm.effectiveM4Actions, hprop]; exact h.origin slot
        pending := fun p hp => by rw [hall]; exact h.pending p (hprop ▸ hp)
        proposals_nodup := by rw [hprop]; exact h.proposals_nodup
        action := fun slot a ha => h.action slot a (hm.effectiveM4Actions ▸ ha) }
  · have hprop : L'.derivedProposals = L.derivedProposals ++
        [{ sidechainSlot := m.slot, m6id := m.proposalHash }] := by
      rw [hm.derivedProposals, if_pos htype]
    have hsub : ∀ slot, queue L.state P.configuredSlot slot ⊆
        queue L'.state P.configuredSlot slot := by
      intro slot
      by_cases hs : slot = m.slot
      · subst hs
        change _ ⊆ (slotState L'.state P.configuredSlot m.slot).pendingWithdrawals
        rw [hqueue]
        exact List.subset_append_left _ _
      · rw [hother slot hs]; exact List.Subset.refl _
    refine
      { nodup := fun slot => ?_
        origin := fun slot => ?_
        pending := fun p hp => ?_
        proposals_nodup := ?_
        action := fun slot a ha => h.action slot a (hm.effectiveM4Actions ▸ ha) }
    · by_cases hs : slot = m.slot
      · subst hs
        rw [queue, hqueue, List.map_append, List.nodup_append]
        refine ⟨h.nodup m.slot, by simp, ?_⟩
        rintro a ha b hb rfl
        obtain ⟨e, he, rfl⟩ := List.mem_map.1 ha
        exact hnew e he (by simpa using hb)
      · rw [hother slot hs]; exact h.nodup slot
    · rw [hm.effectiveM4Actions, hprop]
      by_cases hs : slot = m.slot
      · subst hs
        rw [queue.eq_1 L'.state, hqueue]
        intro e he
        rcases List.mem_append.1 he with he | he
        · exact (h.origin m.slot).mono (fun _ hp => List.mem_append_left _ hp) e he
        · obtain rfl := List.mem_singleton.1 he
          exact .inr ⟨rfl, by simp, Nat.le_add_right _ _⟩
      · rw [hother slot hs]
        exact (h.origin slot).mono fun _ hp => List.mem_append_left _ hp
    · rw [hprop] at hp
      rcases List.mem_append.1 hp with hp | hp
      · obtain ⟨e, he, heq⟩ := h.pending p hp
        exact ⟨e, hsub _ he, heq⟩
      · obtain rfl := List.mem_singleton.1 hp
        refine ⟨{ m6id := m.proposalHash, proposalHeight := height, votes := 1 }, ?_, rfl⟩
        rw [queue, hqueue]
        exact List.mem_append_right _ (List.mem_singleton_self _)
    · rw [hprop, List.nodup_append]
      refine ⟨h.proposals_nodup, by simp, ?_⟩
      rintro a ha b hb rfl
      obtain rfl := List.mem_singleton.1 hb
      obtain ⟨e, he, hid⟩ := h.pending _ ha
      exact hnew e he hid

theorem QueueLoop.ballot (h : QueueLoop cfg height ack s L) (hnone : L.effectiveM4Actions = ∅)
    (hb : Balloted cfg L L') (hack : ack) : QueueLoop cfg height ack s L' where
  nodup slot := by rw [(hb.voted slot).map_m6id]; exact h.nodup slot
  origin slot := by
    have horigin := h.origin slot
    rw [hnone] at horigin
    rw [hb.derivedProposals]
    exact QueueOrigin.voted (by simpa using horigin) (hb.voted slot)
  pending p hp := by
    obtain ⟨e, he, hid⟩ := h.pending p (hb.derivedProposals ▸ hp)
    obtain ⟨e', he', hid', -⟩ := Matching.exists_of_mem_left (hb.voted _) he
    exact ⟨e', he', hid'.trans hid⟩
  proposals_nodup := by rw [hb.derivedProposals]; exact h.proposals_nodup
  action slot a ha := ⟨(hb.action slot a ha).1, hack⟩

/-- The block carries an M4. -/
def CarriesM4 (H : ParentHashing) (block : CBlock) : Prop :=
  ∃ output ∈ block.coinbaseOutputs,
    (parseDrivechainParentMessage H output.scriptPubKey).type = .WITHDRAWAL_ACK

/-- The queues after the message phase. -/
structure QueuesDone (P : ReplayParameters) (H : ParentHashing) (block : CBlock) (height : ℕ)
    (s : DrivechainParentReplayState) (proposals : List DrivechainWithdrawalProposalIdentity)
    (t : DrivechainParentReplayState) : Prop where
  nodup : QueuesNodup P.configuredSlot t
  origin (slot : UInt8) : QueueOrigin height t.previousM4Actions[slot]?
    (fun m6id => { sidechainSlot := slot, m6id := m6id } ∈ proposals)
    (queue s P.configuredSlot slot) (queue t P.configuredSlot slot)
  fresh (slot : UInt8) : (slotState t P.configuredSlot slot).activeProposalHash ≠ 0 →
    ∀ e ∈ queue t P.configuredSlot slot,
      e.proposalHeight ≤ height ∧ height - e.proposalHeight ≤ P.withdrawalBundleMaxAge
  proposals_nodup : proposals.Nodup
  action (slot : UInt8) (a : DrivechainM4Action) : t.previousM4Actions[slot]? = some a →
    a.WellFormed ∧ CarriesM4 H block

theorem applyMessages_queues (h : applyMessages P H block height s = .ok (t, proposals))
    (hs : QueuesNodup P.configuredSlot s) : QueuesDone P H block height s proposals t := by
  obtain ⟨-, hinit, messages, L, u, hscan, hL, hu, ht, rfl⟩ := applyMessages_eq_ok h
  have hcfg := checkInitialState_not_mem hinit
  have hloop : QueueLoop P.configuredSlot height (CarriesM4 H block) s L := by
    refine messages_induction hL hscan hcfg (.init hs) (fun m _ L L' hL hm => hL.move hm) ?_
    intro m hm htype L L' hL hnone hb
    obtain ⟨output, houtput, rfl⟩ := hscan.source m hm
    exact hL.ballot hnone hb ⟨output, houtput, htype⟩
  have hexp := expireSlotProposals_fold hu
  have hwit := expireSlotWithdrawals_fold ht
  have hqueue : ∀ slot, queue u P.configuredSlot slot = queue L.state P.configuredSlot slot := by
    intro slot
    rw [queue, hexp.slot slot]
    rfl
  have hactions : t.previousM4Actions = L.effectiveM4Actions := by
    rw [hwit.frame.previousM4Actions, hexp.frame.previousM4Actions]
  have hcfgu : P.configuredSlot ∉ u.otherSlots := fun hc =>
    (applyMessages_done h).not_mem (hwit.frame.mem_otherSlots.2 hc)
  refine
    { nodup := fun slot => ?_
      origin := fun slot => ?_
      fresh := fun slot hactive e he => ?_
      proposals_nodup := hloop.proposals_nodup
      action := fun slot a ha => hloop.action slot a (hactions ▸ ha) }
  · have hsub := (hwit.kept slot).map (·.m6id)
    refine List.Nodup.sublist hsub ?_
    rw [← queue, hqueue]
    exact hloop.nodup slot
  · rw [hactions]
    exact (hloop.origin slot).subset (hqueue slot ▸ (hwit.kept slot).subset)
  · refine hwit.fresh slot ((mem_activeDrivechainSlots hcfgu).2 ?_) e he
    rwa [hwit.slot slot] at hactive

/-! ### Proposals and active slots -/

/-- Proposals have hashes, and a slot without an active proposal has no pending bundle. -/
structure SlotsSound (cfg : UInt8) (s : DrivechainParentReplayState) : Prop where
  key (slot : UInt8) (hash : Uint256) : hash ∈ (slotState s cfg slot).pendingProposals → hash ≠ 0
  idle (slot : UInt8) : (slotState s cfg slot).activeProposalHash = 0 → queue s cfg slot = []

/-- A message keeps the data of a sound slot sound, and an active slot active. -/
theorem SlotMessage.sound (h : SlotMessage height m d d')
    (hhash : m.type = .PROPOSAL → m.proposalHash ≠ 0)
    (hkey : ∀ hash, hash ∈ d.pendingProposals → hash ≠ 0)
    (hidle : d.activeProposalHash = 0 → d.pendingWithdrawals = []) :
    (∀ hash, hash ∈ d'.pendingProposals → hash ≠ 0) ∧
      (d'.activeProposalHash = 0 → d'.pendingWithdrawals = []) ∧
      (d.activeProposalHash ≠ 0 → d'.activeProposalHash ≠ 0) := by
  cases h with
  | idle => exact ⟨hkey, hidle, id⟩
  | propose htype =>
    refine ⟨fun hash hmem => ?_, hidle, id⟩
    rcases Std.ExtTreeMap.mem_insertIfNew.1 hmem with heq | hmem
    · rw [← Std.LawfulEqOrd.eq_of_compare heq]; exact hhash htype
    · exact hkey hash hmem
  | vote p votes htype hp =>
    refine ⟨fun hash hmem => ?_, hidle, id⟩
    rcases Std.ExtTreeMap.mem_insert.1 hmem with heq | hmem
    · rw [← Std.LawfulEqOrd.eq_of_compare heq]
      exact hkey _ (Std.ExtTreeMap.mem_iff_isSome_getElem?.2 (by rw [hp]; rfl))
    · exact hkey hash hmem
  | activate htype hp =>
    refine ⟨fun hash hmem => hkey hash (Std.ExtTreeMap.mem_erase.1 hmem).2, fun h0 => ?_,
      fun _ => hkey _ hp⟩
    exact absurd h0 (hkey _ hp)
  | bundle htype hactive => exact ⟨hkey, fun h0 => absurd h0 hactive, id⟩

/-- The proposals and active slots after the message phase. -/
structure ProposalsDone (P : ReplayParameters) (height : ℕ) (s t : DrivechainParentReplayState) :
    Prop extends SlotsSound P.configuredSlot t where
  bounds (slot : UInt8) (hash : Uint256) (p : DrivechainPendingProposal) :
    (slotState t P.configuredSlot slot).pendingProposals[hash]? = some p →
      p.proposalHeight ≤ height ∧ p.votes ≤ height - p.proposalHeight
  active (slot : UInt8) : (slotState s P.configuredSlot slot).activeProposalHash ≠ 0 →
    (slotState t P.configuredSlot slot).activeProposalHash ≠ 0
  action (slot : UInt8) (a : DrivechainM4Action) : t.previousM4Actions[slot]? = some a →
    (slotState t P.configuredSlot slot).activeProposalHash ≠ 0

/-- The proposals and active slots while the messages of a block are applied. -/
structure ProposalLoop (cfg : UInt8) (s : DrivechainParentReplayState) (L : MessageLoop) :
    Prop extends SlotsSound cfg L.state where
  active (slot : UInt8) : (slotState s cfg slot).activeProposalHash ≠ 0 →
    (slotState L.state cfg slot).activeProposalHash ≠ 0
  action (slot : UInt8) (a : DrivechainM4Action) : L.effectiveM4Actions[slot]? = some a →
    (slotState L.state cfg slot).activeProposalHash ≠ 0

theorem ProposalLoop.move {blockHash : Uint256} (h : ProposalLoop P.configuredSlot s L)
    (hm : MessageMoved P height blockHash L m L')
    (hhash : m.type = .PROPOSAL → m.proposalHash ≠ 0) : ProposalLoop P.configuredSlot s L' := by
  have hslot : ∀ slot,
      (∀ hash, hash ∈ (slotState L'.state P.configuredSlot slot).pendingProposals → hash ≠ 0) ∧
      ((slotState L'.state P.configuredSlot slot).activeProposalHash = 0 →
        queue L'.state P.configuredSlot slot = []) ∧
      ((slotState L.state P.configuredSlot slot).activeProposalHash ≠ 0 →
        (slotState L'.state P.configuredSlot slot).activeProposalHash ≠ 0) := by
    intro slot
    by_cases hs : slot = m.slot
    · subst hs; exact hm.slot.sound hhash (h.key m.slot) (h.idle m.slot)
    · rw [queue, hm.other slot hs]; exact ⟨h.key slot, h.idle slot, id⟩
  exact
    { key := fun slot => (hslot slot).1
      idle := fun slot => (hslot slot).2.1
      active := fun slot ha => (hslot slot).2.2 (h.active slot ha)
      action := fun slot a ha => (hslot slot).2.2 (h.action slot a (hm.effectiveM4Actions ▸ ha)) }

theorem ProposalLoop.ballot (h : ProposalLoop cfg s L) (hb : Balloted cfg L L') :
    ProposalLoop cfg s L' where
  key slot hash hmem := h.key slot hash (by rwa [hb.slot slot] at hmem)
  idle slot h0 := by
    have hv := hb.voted slot
    rw [hb.slot slot] at h0
    have hnil : (slotState L.state cfg slot).pendingWithdrawals = [] := h.idle slot h0
    rw [hnil] at hv
    exact hv.eq_nil
  active slot ha := by rw [hb.slot slot]; exact h.active slot ha
  action slot a ha := by rw [hb.slot slot]; exact (hb.action slot a ha).2

theorem applyMessages_proposals (h : applyMessages P H block height s = .ok (t, proposals))
    (hhash : ∀ description, H.hash description ≠ 0) (hs : SlotsSound P.configuredSlot s) :
    ProposalsDone P height s t := by
  obtain ⟨-, hinit, messages, L, u, hscan, hL, hu, ht, rfl⟩ := applyMessages_eq_ok h
  have hloop : ProposalLoop P.configuredSlot s L := by
    refine messages_induction hL hscan
      (checkInitialState_not_mem hinit)
      { hs with active := fun _ ha => ha, action := fun _ _ ha => by simp at ha } ?_
      (fun m _ _ L L' hL _ hb => hL.ballot hb)
    intro m hm L L' hL hmove
    refine hL.move hmove fun htype => ?_
    obtain ⟨description, hd⟩ := hscan.hash hm htype
    rw [hd]
    exact hhash description
  have hexp := expireSlotProposals_fold hu
  have hwit := expireSlotWithdrawals_fold ht
  have hslot : ∀ slot, (slotState t P.configuredSlot slot).activeProposalHash =
        (slotState L.state P.configuredSlot slot).activeProposalHash ∧
      (slotState t P.configuredSlot slot).pendingProposals =
        (slotState u P.configuredSlot slot).pendingProposals := by
    intro slot
    rw [hwit.slot slot]
    refine ⟨?_, rfl⟩
    simp only
    rw [hexp.slot slot]
    rfl
  refine
    { key := fun slot hash hmem => ?_
      idle := fun slot h0 => ?_
      bounds := fun slot hash p hp => ?_
      active := fun slot ha => ?_
      action := fun slot a ha => ?_ }
  · rw [(hslot slot).2] at hmem
    obtain ⟨p, hp⟩ := Option.isSome_iff_exists.1 (Std.ExtTreeMap.mem_iff_isSome_getElem?.1 hmem)
    refine hloop.key slot hash (Std.ExtTreeMap.mem_iff_isSome_getElem?.2 ?_)
    have hold := (hexp.kept slot hash p hp).1
    exact Option.isSome_iff_exists.2 ⟨p, hold⟩
  · rw [(hslot slot).1] at h0
    have hnil := hloop.idle slot h0
    have hsub := hwit.kept slot
    rw [hexp.slot slot] at hsub
    exact List.eq_nil_of_subset_nil (hnil ▸ hsub.subset)
  · rw [(hslot slot).2] at hp
    obtain ⟨hold, hbound⟩ := hexp.kept slot hash p hp
    refine hbound ?_
    -- a slot that is nowhere in the state has no pending proposals
    have hold' : (slotState L.state P.configuredSlot slot).pendingProposals[hash]? = some p := hold
    refine mem_of_slotState_ne fun hempty => ?_
    rw [hempty] at hold'
    simp at hold'
  · rw [(hslot slot).1]; exact hloop.active slot ha
  · rw [(hslot slot).1]
    refine hloop.action slot a ?_
    rw [← ha, hwit.frame.previousM4Actions, hexp.frame.previousM4Actions]

end ElementsDrivechain
