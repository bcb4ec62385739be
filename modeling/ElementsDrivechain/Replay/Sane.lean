import ElementsDrivechain.Parent.Steps
import ElementsDrivechain.Replay.Tip

/-!
# Every replayed tip is sane

The store refuses to write a tip that fails its sanity check.  This file shows that the check
never fails on a tip that the replay itself has produced.  The check alone is not inductive: a
block can only keep vote counts below ages because it keeps the queues free of duplicates, slots
without an active proposal empty, and every treasury output traceable to the transaction that
created it.

* `ReplaySound.apply` : an accepted block keeps the invariant.
* `ReplaySound.isSaneTip` : the invariant implies the check.
* `isSaneTip_of_replayRun` : every accepted block of a run leaves a sane tip.
-/

namespace ElementsDrivechain

open Fallible

/-! ### Treasuries -/

/-- Each recorded treasury output carries a sum of money, belongs to an active slot, and was
created for that slot by one of the given transactions. -/
structure TreasurySound (P : ReplayParameters) (H : ParentHashing) (txs : List CTransaction)
    (s : DrivechainParentReplayState) : Prop where
  money (slot : UInt8) : MoneyRange (slotState s P.configuredSlot slot).ctipValue
  none (slot : UInt8) : (slotState s P.configuredSlot slot).ctip = none →
    (slotState s P.configuredSlot slot).ctipValue = 0
  active (slot : UInt8) (o : COutPoint) : (slotState s P.configuredSlot slot).ctip = some o →
    (slotState s P.configuredSlot slot).activeProposalHash ≠ 0
  /-- Every treasury output was made by a transaction of the chain. -/
  origin (slot : UInt8) (o : COutPoint) : (slotState s P.configuredSlot slot).ctip = some o →
    ∃ tx ∈ txs, H.txid tx = o.hash ∧ CreatesTreasury P.treasuryOpcode tx slot o.n

namespace TreasurySound

variable {P : ReplayParameters} {H : ParentHashing} {txs : List CTransaction}
  {s t : DrivechainParentReplayState} {T T' : TreasuryLoop} {tx : CTransaction}

theorem init : TreasurySound P H [] {} where
  money slot := by rw [slotState_empty]; exact moneyRange_zero
  none slot _ := by rw [slotState_empty]
  active slot o ho := by rw [slotState_empty] at ho; simp at ho
  origin slot o ho := by rw [slotState_empty] at ho; simp at ho

/-- The invariant only looks at treasuries and at which slots are active. -/
theorem congr (h : TreasurySound P H txs s)
    (hctip : ∀ slot, (slotState t P.configuredSlot slot).ctip =
      (slotState s P.configuredSlot slot).ctip)
    (hvalue : ∀ slot, (slotState t P.configuredSlot slot).ctipValue =
      (slotState s P.configuredSlot slot).ctipValue)
    (hactive : ∀ slot, (slotState s P.configuredSlot slot).activeProposalHash ≠ 0 →
      (slotState t P.configuredSlot slot).activeProposalHash ≠ 0) :
    TreasurySound P H txs t where
  money slot := by rw [hvalue]; exact h.money slot
  none slot hn := by rw [hvalue]; exact h.none slot (hctip slot ▸ hn)
  active slot o ho := hactive slot (h.active slot o (hctip slot ▸ ho))
  origin slot o ho := h.origin slot o (hctip slot ▸ ho)

theorem step (h : TreasurySound P H txs T.state) (hdone : TransactionDone P H T tx T') :
    TreasurySound P H (txs ++ [tx]) T'.state := by
  have hslot : ∀ slot, (∃ n, (slotState T.state P.configuredSlot slot).activeProposalHash ≠ 0 ∧
        CreatesTreasury P.treasuryOpcode tx slot n) ∨
      ((slotState T'.state P.configuredSlot slot).ctip =
          (slotState T.state P.configuredSlot slot).ctip ∧
        (slotState T'.state P.configuredSlot slot).ctipValue =
          (slotState T.state P.configuredSlot slot).ctipValue) := by
    intro slot
    by_cases hn : ∃ n, (slotState T.state P.configuredSlot slot).activeProposalHash ≠ 0 ∧
        CreatesTreasury P.treasuryOpcode tx slot n
    · exact .inl hn
    · exact .inr (hdone.untouched slot fun hact n hc => hn ⟨n, hact, hc⟩)
  refine ⟨fun slot => ?_, fun slot hnone => ?_, fun slot o ho => ?_, fun slot o ho => ?_⟩
  · rcases hslot slot with ⟨n, hact, hc⟩ | ⟨-, hv⟩
    · obtain ⟨-, hv, hmoney, -⟩ := hdone.created slot n hact hc
      rw [hv]; exact hmoney
    · rw [hv]; exact h.money slot
  · rcases hslot slot with ⟨n, hact, hc⟩ | ⟨hctip, hv⟩
    · rw [(hdone.created slot n hact hc).1] at hnone; simp at hnone
    · rw [hv]; exact h.none slot (hctip ▸ hnone)
  · rw [hdone.active]
    rcases hslot slot with ⟨n, hact, -⟩ | ⟨hctip, -⟩
    · exact hact
    · exact h.active slot o (hctip ▸ ho)
  · rcases hslot slot with ⟨n, hact, hc⟩ | ⟨hctip, -⟩
    · rw [(hdone.created slot n hact hc).1] at ho
      obtain rfl := Option.some_inj.1 ho
      exact ⟨tx, by simp, rfl, hc⟩
    · obtain ⟨tx', htx', hrest⟩ := h.origin slot o (hctip ▸ ho)
      exact ⟨tx', List.mem_append_left _ htx', hrest⟩

end TreasurySound

/-! ### The invariant -/

/-- The inductive invariant of the replay before the block of height `next`, after the given
transactions. -/
structure ReplaySound (P : ReplayParameters) (H : ParentHashing) (txs : List CTransaction)
    (next : ℕ) (s : DrivechainParentReplayState) : Prop extends
    SlotsSound P.configuredSlot s, TreasurySound P H txs s where
  not_mem : P.configuredSlot ∉ s.otherSlots
  queues : QueuesNodup P.configuredSlot s
  /-- A proposal has no more votes than blocks since. -/
  proposals (slot : UInt8) (hash : Uint256) (p : DrivechainPendingProposal) :
    (slotState s P.configuredSlot slot).pendingProposals[hash]? = some p →
      p.proposalHeight < next ∧ p.votes < next - p.proposalHeight
  votes (slot : UInt8) (e : DrivechainPendingWithdrawal) : e ∈ queue s P.configuredSlot slot →
    e.proposalHeight < next ∧ e.votes ≤ next - e.proposalHeight + 1
  actions (slot : UInt8) (a : DrivechainM4Action) : s.previousM4Actions[slot]? = some a →
    a.WellFormed ∧ (slotState s P.configuredSlot slot).activeProposalHash ≠ 0
  /-- Where and when the sidechain became active. -/
  activated : s.requiredProposalActivated = true → s.activeProposalHash ≠ 0 ∧
    s.requiredActivationBlockHash ≠ 0 ∧ s.requiredActivationHeight < next
  notActivated : s.requiredProposalActivated = false → s.requiredActivationHeight = 0 ∧
    s.requiredActivationBlockHash = 0

theorem ReplaySound.empty {P : ReplayParameters} {H : ParentHashing} {next : ℕ} :
    ReplaySound P H [] next {} where
  toTreasurySound := .init
  key slot hash hmem := by rw [slotState_empty] at hmem; simp at hmem
  idle slot _ := by rw [queue, slotState_empty]
  not_mem := by simp
  queues slot := by rw [queue, slotState_empty]; simp
  proposals slot hash p hp := by rw [slotState_empty] at hp; simp at hp
  votes slot e he := by rw [queue, slotState_empty] at he; simp at he
  actions slot a ha := by simp at ha
  activated h := by simp at h
  notActivated _ := ⟨rfl, rfl⟩

/-- **An accepted block keeps the invariant.** -/
theorem ReplaySound.apply {P : ReplayParameters} {H : ParentHashing} {txs : List CTransaction}
    {next : ℕ} {s : DrivechainParentReplayState} {block : CBlock} {r : BlockResult}
    (h : ReplaySound P H txs next s)
    (happ : applyDrivechainParentBlockState P H block next s = .ok r)
    (hhash : ∀ description, H.hash description ≠ 0) (hblock : H.blockHash block ≠ 0) :
    ReplaySound P H (txs ++ block.transactions) (next + 1) r.state := by
  obtain ⟨t, T, hphases⟩ := applyDrivechainParentBlockState_eq_ok happ
  have hmsg := applyMessages_done hphases.messages
  have hqueues := applyMessages_queues hphases.messages h.queues
  have hprop := applyMessages_proposals hphases.messages hhash h.toSlotsSound
  have htrans := hphases.transactionsDone
  have htreasury : TreasurySound P H (txs ++ block.transactions) r.state := by
    have ht : TreasurySound P H txs t :=
      h.toTreasurySound.congr hmsg.ctip hmsg.ctipValue hprop.active
    obtain ⟨hT, -⟩ := transactions_induction
      (motive := fun done U => TreasurySound P H (txs ++ done) U.state) hphases.transactions
      hmsg.not_mem (by simpa using ht) fun done tx U V _ hU hsound hstep => by
        rw [← List.append_assoc]
        exact hsound.step (applyTreasuryTransaction_done hU hstep)
    refine hT.congr (fun slot => ?_) (fun slot => ?_) (fun slot => ?_) <;>
      rw [hphases.state, slotState_pruneSlots]
    exact id
  have hactive : ∀ slot, (slotState r.state P.configuredSlot slot).activeProposalHash =
      (slotState t P.configuredSlot slot).activeProposalHash := htrans.active
  refine
    { toTreasurySound := htreasury
      key := fun slot hash hmem => hprop.key slot hash (htrans.pendingProposals slot ▸ hmem)
      idle := fun slot h0 => ?_
      not_mem := fun hc => hmsg.not_mem (htrans.frame.mem_otherSlots.1 hc)
      queues := fun slot => (hqueues.nodup slot).sublist ((htrans.sublist slot).map _)
      proposals := fun slot hash p hp => ?_
      votes := fun slot e he => ?_
      actions := fun slot a ha => ?_
      activated := fun hact => ?_
      notActivated := fun hact => ?_ }
  · have hnil := hprop.idle slot (hactive slot ▸ h0)
    exact List.eq_nil_of_subset_nil (hnil ▸ (htrans.sublist slot).subset)
  · obtain ⟨hheight, hvotes⟩ := hprop.bounds slot hash p (htrans.pendingProposals slot ▸ hp)
    omega
  · -- a bundle gains at most one vote in a block, and a new one starts with one
    have het := (htrans.sublist slot).subset he
    rcases hqueues.origin slot e het with ⟨e₀, he₀, -, hheight, hvotes⟩ | ⟨hheight, -, hvotes⟩
    · have hold := h.votes slot e₀ he₀
      have hup := upvotes_le_one t.previousM4Actions[slot]? e₀.m6id
      omega
    · have hup := upvotes_le_one t.previousM4Actions[slot]? e.m6id
      omega
  · rw [htrans.frame.previousM4Actions] at ha
    exact ⟨(hqueues.action slot a ha).1, hactive slot ▸ hprop.action slot a ha⟩
  · have hvalid := (applyMessages_eq_ok hphases.messages).1
    have hreq : P.requiredActiveProposal ≠ 0 := fun h0 => hvalid (.inr (.inr (.inl h0)))
    refine ⟨by rw [hphases.required hact]; exact hreq, ?_⟩
    rw [htrans.frame.requiredActivationBlockHash, htrans.frame.requiredActivationHeight]
    rw [htrans.frame.requiredProposalActivated] at hact
    rcases hmsg.required with ⟨hsame, hheight, hhash⟩ | ⟨-, -, hheight, hhash⟩
    · obtain ⟨-, hh, hn⟩ := h.activated (hsame ▸ hact)
      rw [hheight, hhash]
      exact ⟨hh, by omega⟩
    · rw [hheight, hhash]
      exact ⟨hblock, by omega⟩
  · rw [htrans.frame.requiredActivationBlockHash, htrans.frame.requiredActivationHeight]
    rw [htrans.frame.requiredProposalActivated] at hact
    rcases hmsg.required with ⟨hsame, hheight, hhash⟩ | ⟨-, htrue, -⟩
    · rw [hheight, hhash]; exact h.notActivated (hsame ▸ hact)
    · rw [htrue] at hact; simp at hact

/-! ### The check -/

/-- No two slots share a treasury output when equal transaction ids mean equal transactions. -/
theorem TreasurySound.injective {P : ReplayParameters} {H : ParentHashing}
    {txs : List CTransaction} {s : DrivechainParentReplayState} (h : TreasurySound P H txs s)
    (htxid : ∀ tx ∈ txs, ∀ tx' ∈ txs, H.txid tx = H.txid tx' → tx = tx') {slot slot' : UInt8}
    {o : COutPoint} (ho : (slotState s P.configuredSlot slot).ctip = some o)
    (ho' : (slotState s P.configuredSlot slot').ctip = some o) : slot = slot' := by
  obtain ⟨tx, htx, hid, output, hout, hslot⟩ := h.origin slot o ho
  obtain ⟨tx', htx', hid', output', hout', hslot'⟩ := h.origin slot' o ho'
  obtain rfl := htxid tx htx tx' htx' (hid.trans hid'.symm)
  obtain rfl : output = output' := by simpa [hout] using hout'
  simpa [hslot] using hslot'

section Check

variable {P : ReplayParameters} {H : ParentHashing} {txs : List CTransaction} {height : ℕ}
  {s : DrivechainParentReplayState}

variable (h : ReplaySound P H txs (height + 1) s)

include h

theorem ReplaySound.saneSlot (slot : UInt8) :
    SaneSlot height (slotState s P.configuredSlot slot) := by
  refine ⟨h.none slot, fun hsome => ?_, h.money slot, fun p hp => ?_, fun e he => ?_,
    h.queues slot, h.idle slot⟩
  · obtain ⟨o, ho⟩ := Option.isSome_iff_exists.1 hsome
    exact h.active slot o ho
  · have hget := Std.ExtTreeMap.mem_toList_iff_getElem?_eq_some.1 (show (p.1, p.2) ∈ _ from hp)
    have hbound := h.proposals slot p.1 p.2 hget
    refine ⟨h.key slot p.1 (Std.ExtTreeMap.mem_iff_isSome_getElem?.2 (by rw [hget]; rfl)), ?_, ?_⟩
    · omega
    · omega
  · have hbound := h.votes slot e he
    omega

/-- The entries of the other slots are the data of slots other than the configured one. -/
theorem ReplaySound.otherSlot {slot : UInt8} {data : DrivechainOtherSlotReplayState}
    (hmem : (slot, data) ∈ s.otherSlots.toList) :
    slot ≠ P.configuredSlot ∧ slotState s P.configuredSlot slot = data := by
  have hget := Std.ExtTreeMap.mem_toList_iff_getElem?_eq_some.1 hmem
  have hne : slot ≠ P.configuredSlot := by
    rintro rfl
    exact h.not_mem (Std.ExtTreeMap.mem_iff_isSome_getElem?.2 (by rw [hget]; rfl))
  exact ⟨hne, slotState_of_getElem? hne hget⟩

theorem ReplaySound.nodup_ctips
    (htxid : ∀ tx ∈ txs, ∀ tx' ∈ txs, H.txid tx = H.txid tx' → tx = tx') :
    (s.ctip.toList ++ s.otherSlots.toList.filterMap (·.2.ctip)).Nodup := by
  rw [List.nodup_append]
  refine ⟨by cases s.ctip <;> simp, ?_, ?_⟩
  · rw [List.Nodup, List.pairwise_filterMap]
    refine List.Pairwise.imp_of_mem ?_ Std.ExtTreeMap.distinct_keys_toList
    rintro ⟨slot, data⟩ ⟨slot', data'⟩ hmem hmem' hne o ho o' ho' rfl
    obtain ⟨-, rfl⟩ := h.otherSlot hmem
    obtain ⟨-, rfl⟩ := h.otherSlot hmem'
    obtain rfl := h.toTreasurySound.injective htxid ho ho'
    simp at hne
  · rintro o ho o' ho' rfl
    obtain ⟨⟨slot, data⟩, hmem, hctip⟩ := List.mem_filterMap.1 ho'
    obtain ⟨hne, rfl⟩ := h.otherSlot hmem
    have hcfg : (slotState s P.configuredSlot P.configuredSlot).ctip = some o := by
      rw [slotState_configured]
      simpa [DrivechainParentReplayState.configuredData] using ho
    exact hne (h.toTreasurySound.injective htxid hctip hcfg)

theorem ReplaySound.saneActions : SaneActions s := by
  -- an action of a slot that is not among the others is one of the configured slot
  have habsent : ∀ slot a, (slot, a) ∈ s.previousM4Actions.toList → slot ∉ s.otherSlots →
      slot = P.configuredSlot := by
    intro slot a hmem hnot
    by_contra hne
    have hact := (h.actions slot a (Std.ExtTreeMap.mem_toList_iff_getElem?_eq_some.1 hmem)).2
    rw [slotState_of_ne hne, Std.ExtTreeMap.getD_eq_fallback hnot] at hact
    exact hact rfl
  constructor
  · rintro ⟨slot, a⟩ hmem
    obtain ⟨hwf, hact⟩ := h.actions slot a (Std.ExtTreeMap.mem_toList_iff_getElem?_eq_some.1 hmem)
    refine ⟨hwf, ?_⟩
    cases hdata : s.otherSlots[slot]? with
    | none =>
      have hnot : slot ∉ s.otherSlots := by
        rw [Std.ExtTreeMap.mem_iff_isSome_getElem?, hdata]; simp
      obtain rfl := habsent slot a hmem hnot
      simpa [DrivechainParentReplayState.configuredData] using hact
    | some data =>
      have hne := (h.otherSlot (Std.ExtTreeMap.mem_toList_iff_getElem?_eq_some.2 hdata)).1
      rw [slotState_of_getElem? hne hdata] at hact
      exact hact
  · have hpair : (s.previousM4Actions.toList.filter fun a => a.1 ∉ s.otherSlots).Pairwise
        fun a b => ¬compare a.1 b.1 = .eq :=
      List.Pairwise.filter _ Std.ExtTreeMap.distinct_keys_toList
    have hcfg : ∀ a ∈ s.previousM4Actions.toList.filter fun a => a.1 ∉ s.otherSlots,
        a.1 = P.configuredSlot := by
      rintro ⟨slot, a⟩ hmem
      obtain ⟨hmem, hnot⟩ := List.mem_filter.1 hmem
      exact habsent slot a hmem (by simpa using hnot)
    generalize s.previousM4Actions.toList.filter (fun a => a.1 ∉ s.otherSlots) = l at hpair hcfg
    obtain _ | ⟨a, _ | ⟨b, l⟩⟩ := l
    · simp
    · simp
    · have hne := (List.pairwise_cons.1 hpair).1 b (by simp)
      rw [hcfg a (by simp), hcfg b (by simp)] at hne
      simp at hne

theorem ReplaySound.isSaneTip {hash : Uint256} (hhash : hash ≠ 0)
    (htxid : ∀ tx ∈ txs, ∀ tx' ∈ txs, H.txid tx = H.txid tx' → tx = tx') :
    IsSaneTip { height := height, hash := hash, state := s } := by
  refine ⟨hhash, ⟨fun hact => ?_, h.notActivated⟩, ?_, ?_, h.nodup_ctips htxid, h.saneActions⟩
  · obtain ⟨hne, hh, hlt⟩ := h.activated hact
    exact ⟨hne, hh, by simpa [Nat.lt_succ_iff] using hlt⟩
  · simpa using h.saneSlot P.configuredSlot
  · rintro ⟨slot, data⟩ hmem
    obtain ⟨-, rfl⟩ := h.otherSlot hmem
    exact h.saneSlot slot

end Check

section Run

variable {P : ReplayParameters} {H : ParentHashing} {first : ℕ} {ls : List AppliedBlock}
  {p : ReplayPoint}

theorem replaySound_of_replayRun (hrun : ReplayRun P H (.empty first) ls p)
    (hhash : ∀ description, H.hash description ≠ 0)
    (hblock : ∀ a ∈ ls, H.blockHash a.block ≠ 0) :
    ReplaySound P H (runTransactions ls) p.next p.state := by
  induction hrun with
  | nil => exact .empty
  | @snoc ls p p' a hrun hstep ih =>
    obtain ⟨hheight, happ, rfl⟩ := hstep
    rw [hheight] at happ ⊢
    rw [runTransactions_append, runTransactions_singleton]
    exact (ih fun b hb => hblock b (List.mem_append_left _ hb)).apply happ hhash
      (hblock a (by simp))

/-- **Every accepted block leaves a sane tip**: the check that guards the persistent store never
fails on what the replay produces. -/
theorem isSaneTip_of_replayRun (hrun : ReplayRun P H (.empty first) ls p)
    (hhash : ∀ description, H.hash description ≠ 0)
    (hblock : ∀ a ∈ ls, H.blockHash a.block ≠ 0)
    (htxid : ∀ tx ∈ runTransactions ls, ∀ tx' ∈ runTransactions ls,
      H.txid tx = H.txid tx' → tx = tx') :
    ∀ a ∈ ls, IsSaneTip
      { height := a.height, hash := H.blockHash a.block, state := a.result.state } := by
  intro a ha
  obtain ⟨ls₁, ls₂, rfl⟩ := List.append_of_mem ha
  rw [List.append_cons] at hrun hblock htxid
  obtain ⟨p', hrun', -⟩ := hrun.split
  obtain ⟨_, -, happ⟩ := Run.snoc_iff.1 hrun'
  have hsound := replaySound_of_replayRun hrun' hhash fun b hb =>
    hblock b (List.mem_append_left _ hb)
  rw [happ.next] at hsound
  refine hsound.isSaneTip (hblock a (by simp)) fun tx htx tx' htx' => ?_
  rw [runTransactions_append] at htxid
  exact htxid tx (List.mem_append_left _ htx) tx' (List.mem_append_left _ htx')

theorem isSaneTip_sample :
    Sample.run.length = 7 ∧ ∀ a ∈ Sample.run, IsSaneTip
      { height := a.height, hash := Sample.hashing.blockHash a.block, state := a.result.state } :=
  ⟨by decide +kernel, isSaneTip_of_replayRun Sample.replayRun_run
    (fun _ => (by decide : Uint256.ofByte 7 ≠ 0)) (by decide +kernel) (by decide +kernel)⟩

end Run

end ElementsDrivechain
