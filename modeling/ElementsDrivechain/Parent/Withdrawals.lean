import ElementsDrivechain.Parent.Run

/-!
# Authorised withdrawals

A withdrawal bundle is paid only after it was proposed, stayed pending without interruption, and
collected the votes of enough blocks.  This file follows every pending bundle back through the run
to the block that proposed it, and every payment back to one such bundle.

* `blockQueues` : the effect of an accepted block.
* `withdrawals_authorised` : every payment of a run goes back to a proposal of its own.
-/

namespace ElementsDrivechain

open Fallible

/-! ### One block -/

/-- What the transactions of a block have paid so far, when they started from `t`. -/
structure WithdrawalsDone (P : ReplayParameters) (height : ℕ) (blockHash : Uint256)
    (t : DrivechainParentReplayState) (T : TreasuryLoop) : Prop
    extends TransactionsDone P t T.state where
  block (w : DrivechainSuccessfulWithdrawal) : w ∈ T.derivedWithdrawals →
    w.blockHeight = height ∧ w.blockHash = blockHash
  approved (w : DrivechainSuccessfulWithdrawal) : w ∈ T.derivedWithdrawals →
    (slotState t P.configuredSlot w.sidechainSlot).activeProposalHash ≠ 0 ∧
    ∃ e ∈ queue t P.configuredSlot w.sidechainSlot, e.m6id = w.m6id ∧
      P.withdrawalBundleInclusionThreshold < e.votes
  gone (w : DrivechainSuccessfulWithdrawal) : w ∈ T.derivedWithdrawals →
    ∀ e ∈ queue T.state P.configuredSlot w.sidechainSlot, e.m6id ≠ w.m6id
  nodup : (T.derivedWithdrawals.map fun w => (w.sidechainSlot, w.m6id)).Nodup
  queues : QueuesNodup P.configuredSlot T.state

/-- Nothing with the erased id is left in a list without repetitions. -/
theorem ne_of_mem_eraseP {pending : List DrivechainPendingWithdrawal} {m6id : Uint256}
    (h : (pending.map (·.m6id)).Nodup) {e : DrivechainPendingWithdrawal}
    (he : e ∈ pending.eraseP (·.m6id = m6id)) : e.m6id ≠ m6id := by
  induction pending with
  | nil => simp at he
  | cons first rest ih =>
    rw [List.map_cons, List.nodup_cons] at h
    by_cases hfirst : first.m6id = m6id
    · rw [List.eraseP_cons_of_pos (by simpa using hfirst)] at he
      exact fun heq => h.1 (List.mem_map.2 ⟨e, he, heq.trans hfirst.symm⟩)
    · rw [List.eraseP_cons_of_neg (by simpa using hfirst)] at he
      rcases List.mem_cons.1 he with rfl | he
      · exact hfirst
      · exact ih h.2 he

section Block

variable {P : ReplayParameters} {H : ParentHashing} {block : CBlock} {height : ℕ}
  {s t : DrivechainParentReplayState} {r : BlockResult} {T : TreasuryLoop}

theorem WithdrawalsDone.step {blockHash : Uint256} {requiredActive : Bool} {U V : TreasuryLoop}
    {tx : CTransaction} (h : WithdrawalsDone P height blockHash t U)
    (hcfg : P.configuredSlot ∉ U.state.otherSlots)
    (hstep : applyTreasuryTransaction P H height blockHash requiredActive U tx = .ok V) :
    WithdrawalsDone P height blockHash t V := by
  have hdone := applyTreasuryTransaction_done hcfg hstep
  have hqueues : QueuesNodup P.configuredSlot V.state := fun slot =>
    (h.queues slot).sublist ((hdone.sublist slot).map (·.m6id))
  have hall := h.toTransactionsDone.trans hdone.toTransactionsDone
  have hold : ∀ w ∈ U.derivedWithdrawals,
      ∀ e ∈ queue V.state P.configuredSlot w.sidechainSlot,
        e.m6id ≠ w.m6id :=
    fun w hw e he => h.gone w hw e ((hdone.sublist _).subset he)
  obtain ⟨changes, hch, hd | ⟨c, approved, rfl, hw⟩⟩ := applyTreasuryTransaction_cases hcfg hstep
  · have heq := hd.derivedWithdrawals
    exact
      { hall with
        block := fun w hw => h.block w (heq ▸ hw)
        approved := fun w hw => h.approved w (heq ▸ hw)
        gone := fun w hw => hold w (heq ▸ hw)
        nodup := heq ▸ h.nodup
        queues := hqueues }
  · have hmem : ∀ w, w ∈ V.derivedWithdrawals ↔ w ∈ U.derivedWithdrawals ∨
        w = { sidechainSlot := c.slot, m6id := approved.m6id, blockHeight := height,
              blockHash := blockHash } := by
      intro w
      rw [hw.derivedWithdrawals, List.mem_append, List.mem_singleton]
    refine
      { hall with
        block := fun w hmemw => ?_
        approved := fun w hmemw => ?_
        gone := fun w hmemw => ?_
        nodup := ?_
        queues := hqueues }
    · rcases (hmem w).1 hmemw with hmemw | rfl
      · exact h.block w hmemw
      · exact ⟨rfl, rfl⟩
    · rcases (hmem w).1 hmemw with hmemw | rfl
      · exact h.approved w hmemw
      · refine ⟨?_, approved, (h.sublist c.slot).subset hw.pending, rfl, hw.votes⟩
        rw [← h.active]
        exact hch.active c (by simp)
    · rcases (hmem w).1 hmemw with hmemw | rfl
      · exact hold w hmemw
      · intro e he
        rw [queue, hw.slot, if_pos rfl] at he
        exact ne_of_mem_eraseP (h.queues c.slot) he
    · rw [hw.derivedWithdrawals, List.map_append, List.nodup_append]
      refine ⟨h.nodup, by simp, ?_⟩
      rintro a ha b hb rfl
      obtain ⟨w, hmemw, rfl⟩ := List.mem_map.1 ha
      -- the bundle is still pending, so it was not paid before
      have heq : w.sidechainSlot = c.slot ∧ w.m6id = approved.m6id := by simpa using hb
      refine h.gone w hmemw approved ?_ heq.2.symm
      rw [heq.1]
      exact hw.pending

theorem applyTransactions_withdrawals (h : applyTransactions P H block height t = .ok T)
    (hcfg : P.configuredSlot ∉ t.otherSlots) (ht : QueuesNodup P.configuredSlot t) :
    WithdrawalsDone P height (H.blockHash block) t T := by
  refine (transactions_induction
    (motive := fun _ U => WithdrawalsDone P height (H.blockHash block) t U) h hcfg
    ⟨.refl t, by simp, by simp, by simp, by simp, ht⟩ ?_).1
  intro done tx U V _ hU hdone hstep
  exact hdone.step hU hstep

/-- What an accepted block does to the pending bundles: where those that are left come from, and
where those that were paid come from. -/
structure BlockQueues (P : ReplayParameters) (H : ParentHashing) (block : CBlock) (height : ℕ)
    (s : DrivechainParentReplayState) (r : BlockResult) : Prop where
  nodup : QueuesNodup P.configuredSlot r.state
  origin (slot : UInt8) : QueueOrigin height r.state.previousM4Actions[slot]?
    (fun m6id => { sidechainSlot := slot, m6id := m6id } ∈ r.withdrawalProposals)
    (queue s P.configuredSlot slot) (queue r.state P.configuredSlot slot)
  action (slot : UInt8) (a : DrivechainM4Action) : r.state.previousM4Actions[slot]? = some a →
    CarriesM4 H block
  paid (w : DrivechainSuccessfulWithdrawal) : w ∈ r.successfulWithdrawals →
    w.blockHeight = height ∧ w.blockHash = H.blockHash block ∧
    ∃ e, QueueOrigin height r.state.previousM4Actions[w.sidechainSlot]?
        (fun m6id => { sidechainSlot := w.sidechainSlot, m6id := m6id } ∈ r.withdrawalProposals)
        (queue s P.configuredSlot w.sidechainSlot) [e] ∧
      e.m6id = w.m6id ∧ P.withdrawalBundleInclusionThreshold < e.votes ∧
      e.proposalHeight ≤ height ∧ height - e.proposalHeight ≤ P.withdrawalBundleMaxAge
  gone (w : DrivechainSuccessfulWithdrawal) : w ∈ r.successfulWithdrawals →
    ∀ e ∈ queue r.state P.configuredSlot w.sidechainSlot, e.m6id ≠ w.m6id
  paid_nodup : (r.successfulWithdrawals.map fun w => (w.sidechainSlot, w.m6id)).Nodup
  proposals_nodup : r.withdrawalProposals.Nodup

/-- **The effect of an accepted block on the pending bundles.** -/
theorem blockQueues (h : applyDrivechainParentBlockState P H block height s = .ok r)
    (hs : QueuesNodup P.configuredSlot s) : BlockQueues P H block height s r := by
  obtain ⟨t, T, hphases⟩ := applyDrivechainParentBlockState_eq_ok h
  have hmessages := applyMessages_queues hphases.messages hs
  have hcfg := (applyMessages_done hphases.messages).not_mem
  have hpaid := applyTransactions_withdrawals hphases.transactions hcfg hmessages.nodup
  have hactions : r.state.previousM4Actions = t.previousM4Actions :=
    hphases.transactionsDone.frame.previousM4Actions
  have hqueue : ∀ slot, queue r.state P.configuredSlot slot =
      queue T.state P.configuredSlot slot := by
    intro slot
    rw [hphases.state, queue, slotState_pruneSlots]
  refine
    { nodup := fun slot => by rw [hqueue]; exact hpaid.queues slot
      origin := fun slot => ?_
      action := fun slot a ha => (hmessages.action slot a (hactions ▸ ha)).2
      paid := fun w hw => ?_
      gone := fun w hw e he => ?_
      paid_nodup := by rw [hphases.successfulWithdrawals]; exact hpaid.nodup
      proposals_nodup := hmessages.proposals_nodup }
  · rw [hqueue, hactions]
    exact (hmessages.origin slot).subset (hpaid.sublist slot).subset
  · rw [hphases.successfulWithdrawals] at hw
    obtain ⟨hheight, hhash⟩ := hpaid.block w hw
    obtain ⟨hactive, e, he, hid, hvotes⟩ := hpaid.approved w hw
    rw [hactions]
    exact ⟨hheight, hhash, e, (hmessages.origin _).subset (by simpa using he), hid, hvotes,
      hmessages.fresh _ hactive e he⟩
  · rw [hphases.successfulWithdrawals] at hw
    exact hpaid.gone w hw e (hqueue _ ▸ he)

end Block

/-! ### The history of a bundle -/

instance (H : ParentHashing) (block : CBlock) : Decidable (CarriesM4 H block) :=
  inferInstanceAs (Decidable (∃ output ∈ block.coinbaseOutputs, _))

/-- The block carries an M4, explicit or not, that has voted for the bundle. -/
def Upvoted (H : ParentHashing) (a : AppliedBlock) (slot : UInt8) (m6id : Uint256) : Prop :=
  CarriesM4 H a.block ∧
    a.result.state.previousM4Actions[slot]? = some { type := .UPVOTE, m6id := m6id }
deriving Decidable

/-- How many blocks from height `first` to height `last` have voted for the bundle. -/
def upvoteCount (H : ParentHashing) (ls : List AppliedBlock) (slot : UInt8) (m6id : Uint256)
    (first last : ℕ) : ℕ :=
  ls.countP fun a => first ≤ a.height ∧ a.height ≤ last ∧ Upvoted H a slot m6id

/-- The bundle was proposed in the block of height `h`. -/
def Proposed (ls : List AppliedBlock) (slot : UInt8) (m6id : Uint256) (h : ℕ) : Prop :=
  ∃ a ∈ ls, a.height = h ∧
    { sidechainSlot := slot, m6id := m6id } ∈ a.result.withdrawalProposals

/-- The bundle that was proposed at height `h` is pending after every block from there on, up to
the one before height `last`. -/
def PendingUntil (P : ReplayParameters) (ls : List AppliedBlock) (slot : UInt8) (m6id : Uint256)
    (h last : ℕ) : Prop :=
  ∀ a ∈ ls, h ≤ a.height → a.height < last →
    ∃ e ∈ queue a.result.state P.configuredSlot slot, e.m6id = m6id ∧ e.proposalHeight = h

/-- The payment goes back to the proposal of height `h`. -/
structure Authorised (P : ReplayParameters) (H : ParentHashing) (ls : List AppliedBlock)
    (w : DrivechainSuccessfulWithdrawal) (h : ℕ) : Prop where
  proposed : Proposed ls w.sidechainSlot w.m6id h
  le : h ≤ w.blockHeight
  age : w.blockHeight - h ≤ P.withdrawalBundleMaxAge
  pending : PendingUntil P ls w.sidechainSlot w.m6id h w.blockHeight
  votes : P.withdrawalBundleInclusionThreshold ≤
    upvoteCount H ls w.sidechainSlot w.m6id h w.blockHeight
  /-- So many votes take as many blocks. -/
  length : P.withdrawalBundleInclusionThreshold - 1 ≤ w.blockHeight - h

section History

variable {P : ReplayParameters} {H : ParentHashing} {ls : List AppliedBlock} {a : AppliedBlock}
  {slot : UInt8} {m6id : Uint256} {h first last : ℕ}

theorem upvoteCount_append (ls ls' : List AppliedBlock) :
    upvoteCount H (ls ++ ls') slot m6id first last =
      upvoteCount H ls slot m6id first last + upvoteCount H ls' slot m6id first last :=
  List.countP_append

theorem upvoteCount_singleton (m6id : Uint256) (hfirst : first ≤ a.height) (hlast : a.height ≤ last)
    (hcarries : ∀ action, a.result.state.previousM4Actions[slot]? = some action →
      CarriesM4 H a.block) :
    upvotes a.result.state.previousM4Actions[slot]? m6id ≤
      upvoteCount H [a] slot m6id first last := by
  unfold upvotes
  split_ifs with haction
  · have hup : Upvoted H a slot m6id := ⟨hcarries _ haction, haction⟩
    simp [upvoteCount, hfirst, hlast, hup]
  · exact Nat.zero_le _

theorem upvoteCount_mono {last' : ℕ} (hle : last ≤ last') :
    upvoteCount H ls slot m6id first last ≤ upvoteCount H ls slot m6id first last' := by
  refine List.countP_mono_left fun b _ hb => ?_
  simp only [decide_eq_true_eq] at hb ⊢
  exact ⟨hb.1, hb.2.1.trans hle, hb.2.2⟩

theorem upvoteCount_le (hheights : (ls.map (·.height)).Pairwise (· < ·)) :
    upvoteCount H ls slot m6id first last ≤ last + 1 - first := by
  have hrange : (List.range' first (last + 1 - first)).length = last + 1 - first :=
    List.length_range'
  rw [upvoteCount, List.countP_eq_length_filter, ← List.length_map (·.height), ← hrange]
  refine (List.subperm_of_subset ?_ fun n hn => ?_).length_le
  · exact ((hheights.imp fun h => ne_of_lt h).sublist (List.filter_sublist.map _))
  · obtain ⟨b, hb, rfl⟩ := List.mem_map.1 hn
    have hb := (List.mem_filter.1 hb).2
    simp only [decide_eq_true_eq] at hb
    rw [List.mem_range'_1]
    omega

theorem Proposed.append (hp : Proposed ls slot m6id h) (a : AppliedBlock) :
    Proposed (ls ++ [a]) slot m6id h := by
  obtain ⟨b, hb, hrest⟩ := hp
  exact ⟨b, List.mem_append_left _ hb, hrest⟩

theorem PendingUntil.append (hp : PendingUntil P ls slot m6id h last) (ha : last ≤ a.height) :
    PendingUntil P (ls ++ [a]) slot m6id h last := by
  intro b hb hh hlast
  rcases List.mem_append.1 hb with hb | hb
  · exact hp b hb hh hlast
  · obtain rfl := List.mem_singleton.1 hb
    omega

theorem Authorised.append {w : DrivechainSuccessfulWithdrawal} (hauth : Authorised P H ls w h)
    (ha : w.blockHeight < a.height) : Authorised P H (ls ++ [a]) w h where
  proposed := hauth.proposed.append a
  le := hauth.le
  age := hauth.age
  pending := hauth.pending.append ha.le
  votes := by
    rw [upvoteCount_append]
    exact hauth.votes.trans (Nat.le_add_right _ _)
  length := hauth.length

end History

/-! ### Runs -/

/-- A payment with the height of the proposal it goes back to. -/
abbrev MatchedPayment := DrivechainSuccessfulWithdrawal × ℕ

/-- The proposal that a payment is matched with. -/
def MatchedPayment.proposal (m : MatchedPayment) : UInt8 × Uint256 × ℕ :=
  (m.1.sidechainSlot, m.1.m6id, m.2)

/-- The payments of a run. -/
def payments (ls : List AppliedBlock) : List DrivechainSuccessfulWithdrawal :=
  ls.flatMap (·.result.successfulWithdrawals)

/-- What the run so far says about the pending and the paid bundles. -/
structure WithdrawalHistory (P : ReplayParameters) (H : ParentHashing) (ls : List AppliedBlock)
    (p : ReplayPoint) (matched : List MatchedPayment) : Prop where
  nodup : QueuesNodup P.configuredSlot p.state
  /-- A pending bundle was proposed, has been pending since, and has the votes it was given. -/
  pending (slot : UInt8) (e : DrivechainPendingWithdrawal) :
    e ∈ queue p.state P.configuredSlot slot →
    Proposed ls slot e.m6id e.proposalHeight ∧
      PendingUntil P ls slot e.m6id e.proposalHeight p.next ∧
      e.votes ≤ 1 + upvoteCount H ls slot e.m6id e.proposalHeight p.next
  complete : matched.map Prod.fst = payments ls
  authorised (m : MatchedPayment) : m ∈ matched → m.1.blockHeight < p.next ∧
    Authorised P H ls m.1 m.2
  matched_nodup : (matched.map MatchedPayment.proposal).Nodup
  /-- What was paid is not pending any more. -/
  paid (m : MatchedPayment) : m ∈ matched →
    ∀ e ∈ queue p.state P.configuredSlot m.1.sidechainSlot,
      ¬(e.m6id = m.1.m6id ∧ e.proposalHeight = m.2)

section Step

variable {P : ReplayParameters} {H : ParentHashing} {ls : List AppliedBlock} {p : ReplayPoint}
  {matched : List MatchedPayment} {a : AppliedBlock} {slot : UInt8}
  {e : DrivechainPendingWithdrawal}

/-- The history of a bundle that the next block has found in the queue or put there. -/
theorem WithdrawalHistory.entry (h : WithdrawalHistory P H ls p matched)
    (hheight : a.height = p.next) (hbounds : ∀ b ∈ ls, b.height < p.next)
    (hcarries : ∀ (slot : UInt8) action, a.result.state.previousM4Actions[slot]? = some action →
      CarriesM4 H a.block)
    (horigin : QueueOrigin a.height a.result.state.previousM4Actions[slot]?
      (fun m6id => { sidechainSlot := slot, m6id := m6id } ∈ a.result.withdrawalProposals)
      (queue p.state P.configuredSlot slot) [e]) :
    Proposed (ls ++ [a]) slot e.m6id e.proposalHeight ∧
      PendingUntil P (ls ++ [a]) slot e.m6id e.proposalHeight a.height ∧
      e.votes ≤ 1 + upvoteCount H (ls ++ [a]) slot e.m6id e.proposalHeight a.height ∧
      e.proposalHeight ≤ a.height := by
  rcases horigin e (by simp) with ⟨b, hb, hid, hprop, hvotes⟩ | ⟨hprop, hnew, hvotes⟩
  · obtain ⟨hproposed, hpending, hcount⟩ := h.pending slot b hb
    have hle : b.proposalHeight ≤ a.height := by
      obtain ⟨c, hc, hch, -⟩ := hproposed
      have := hbounds c hc
      omega
    rw [hid, hprop]
    rw [← hheight] at hpending hcount
    refine ⟨hproposed.append a, hpending.append le_rfl, ?_, hle⟩
    have hup := upvoteCount_singleton b.m6id hle le_rfl (hcarries slot)
    rw [upvoteCount_append]
    omega
  · have hup := upvoteCount_singleton e.m6id hprop.le le_rfl (hcarries slot)
    refine ⟨⟨a, by simp, hprop.symm, hnew⟩, fun b _ hfirst hlast => ?_, ?_, hprop.le⟩
    · omega
    · rw [upvoteCount_append]
      omega

/-- A bundle that the next block has found in the queue or put there is not one that was paid
before. -/
theorem WithdrawalHistory.not_paid (h : WithdrawalHistory P H ls p matched)
    (hheight : a.height = p.next)
    (horigin : QueueOrigin a.height a.result.state.previousM4Actions[slot]?
      (fun m6id => { sidechainSlot := slot, m6id := m6id } ∈ a.result.withdrawalProposals)
      (queue p.state P.configuredSlot slot) [e])
    {m : MatchedPayment} (hm : m ∈ matched) (hslot : m.1.sidechainSlot = slot) :
    ¬(e.m6id = m.1.m6id ∧ e.proposalHeight = m.2) := by
  rintro ⟨hid, hprop⟩
  rcases horigin e (by simp) with ⟨b, hb, hid', hprop', -⟩ | ⟨hprop', -, -⟩
  · subst hslot
    exact h.paid m hm b hb ⟨hid'.symm.trans hid, hprop'.symm.trans hprop⟩
  · obtain ⟨hlt, hauth⟩ := h.authorised m hm
    have := hauth.le
    omega

/-- **The next block keeps the history.** -/
theorem WithdrawalHistory.apply {q : ReplayPoint} (h : WithdrawalHistory P H ls p matched)
    (hheights : ((ls ++ [a]).map (·.height)).Pairwise (· < ·))
    (hbounds : ∀ b ∈ ls, b.height < p.next) (hstep : Applies P H p a q) :
    ∃ matched', WithdrawalHistory P H (ls ++ [a]) q (matched ++ matched') := by
  obtain ⟨hheight, happ, rfl⟩ := hstep
  have hblock := blockQueues happ h.nodup
  -- each payment of the block goes back to a bundle that was pending or is new
  have hpaid : ∀ w ∈ a.result.successfulWithdrawals, ∃ n, Authorised P H (ls ++ [a]) w n ∧
      ∀ m ∈ matched, m.proposal ≠ MatchedPayment.proposal (w, n) := by
    intro w hw
    obtain ⟨hwheight, -, e, horigin, hid, hvotes, hle, hage⟩ := hblock.paid w hw
    obtain ⟨hproposed, hpending, hcount, -⟩ :=
      h.entry hheight hbounds (fun _ _ => hblock.action _ _) horigin
    rw [hid] at hproposed hpending hcount
    have hupper : upvoteCount H (ls ++ [a]) w.sidechainSlot w.m6id e.proposalHeight a.height ≤
        a.height + 1 - e.proposalHeight := upvoteCount_le hheights
    refine ⟨e.proposalHeight, ⟨hproposed, ?_, ?_, ?_, ?_, ?_⟩, fun m hm heq => ?_⟩
    · rwa [hwheight]
    · rwa [hwheight]
    · rwa [hwheight]
    · rw [hwheight]; omega
    · rw [hwheight]; omega
    · obtain ⟨hs, hm6id, hn⟩ : m.1.sidechainSlot = w.sidechainSlot ∧ m.1.m6id = w.m6id ∧
          m.2 = e.proposalHeight := by simpa [MatchedPayment.proposal] using heq
      exact h.not_paid hheight horigin hm hs ⟨hid.trans hm6id.symm, hn.symm⟩
  choose! n hn using hpaid
  refine ⟨a.result.successfulWithdrawals.map fun w => (w, n w), ?_⟩
  refine
    { nodup := hblock.nodup
      pending := fun slot e he => ?_
      complete := ?_
      authorised := fun m hm => ?_
      matched_nodup := ?_
      paid := fun m hm e he => ?_ }
  · obtain ⟨hproposed, hpending, hcount, hle⟩ := h.entry hheight hbounds
      (fun _ _ => hblock.action _ _) ((hblock.origin slot).subset (by simpa using he))
    refine ⟨hproposed, fun b hb hfirst hlast => ?_, hcount.trans ?_⟩
    · rcases List.mem_append.1 hb with hb' | hb'
      · exact hpending b hb hfirst (by rw [hheight]; exact hbounds b hb')
      · obtain rfl := List.mem_singleton.1 hb'
        exact ⟨e, he, rfl, rfl⟩
    · exact Nat.add_le_add_left (upvoteCount_mono (Nat.le_succ _)) 1
  · rw [List.map_append, h.complete, payments, payments, List.flatMap_append]
    simp [Function.comp_def]
  · rcases List.mem_append.1 hm with hm | hm
    · obtain ⟨hlt, hauth⟩ := h.authorised m hm
      exact ⟨by simp only; omega, hauth.append (by omega)⟩
    · obtain ⟨w, hw, rfl⟩ := List.mem_map.1 hm
      refine ⟨?_, (hn w hw).1⟩
      simp only
      rw [(hblock.paid w hw).1]
      omega
  · rw [List.map_append, List.nodup_append]
    refine ⟨h.matched_nodup, ?_, ?_⟩
    · have hpairs := hblock.paid_nodup
      rw [List.map_map]
      refine List.Nodup.of_map (fun t : UInt8 × Uint256 × ℕ => (t.1, t.2.1)) ?_
      rw [List.map_map]
      exact hpairs
    · rintro t ht t' ht' rfl
      obtain ⟨m, hm, rfl⟩ := List.mem_map.1 ht
      obtain ⟨m', hm', heq⟩ := List.mem_map.1 ht'
      obtain ⟨w, hw, rfl⟩ := List.mem_map.1 hm'
      exact (hn w hw).2 m hm heq.symm
  · rcases List.mem_append.1 hm with hm | hm
    · exact h.not_paid hheight ((hblock.origin _).subset (by simpa using he)) hm rfl
    · obtain ⟨w, hw, rfl⟩ := List.mem_map.1 hm
      exact fun hc => hblock.gone w hw e he hc.1

end Step

theorem withdrawalHistory_of_replayRun {P : ReplayParameters} {H : ParentHashing} {first : ℕ}
    {ls : List AppliedBlock} {p : ReplayPoint} (hrun : ReplayRun P H (.empty first) ls p) :
    ∃ matched, WithdrawalHistory P H ls p matched := by
  induction hrun with
  | nil =>
    refine ⟨[], ⟨fun slot => ?_, fun slot e he => ?_, rfl, by simp, .nil, by simp⟩⟩
    · simp [queue, ReplayPoint.empty, slotState_empty]
    · simp [queue, ReplayPoint.empty, slotState_empty] at he
  | @snoc ls p q a hrun hstep ih =>
    obtain ⟨matched, h⟩ := ih
    obtain ⟨matched', h'⟩ := h.apply (heights_of_replayRun (hrun.snoc hstep)).1
      (fun b hb => ((heights_of_replayRun hrun).2.2 b hb).2) hstep
    exact ⟨_, h'⟩

/-- **Every payment of a run goes back to a proposal of its own**: it was proposed for the same
slot, young enough, pending ever since, and voted for by enough blocks; and no proposal is paid
twice. -/
theorem withdrawals_authorised {P : ReplayParameters} {H : ParentHashing} {first : ℕ}
    {ls : List AppliedBlock} {p : ReplayPoint} (hrun : ReplayRun P H (.empty first) ls p) :
    ∃ matched : List MatchedPayment, matched.map Prod.fst = payments ls ∧
      (∀ m ∈ matched, Authorised P H ls m.1 m.2) ∧
      (matched.map MatchedPayment.proposal).Nodup := by
  obtain ⟨matched, h⟩ := withdrawalHistory_of_replayRun hrun
  exact ⟨matched, h.complete, fun m hm => (h.authorised m hm).2, h.matched_nodup⟩

open Sample

theorem withdrawals_authorised_sample :
    (payments run).length = 1 ∧
    ∃ matched : List MatchedPayment, matched.map Prod.fst = payments run ∧
      (∀ m ∈ matched, Authorised parameters hashing run m.1 m.2) ∧
      (matched.map MatchedPayment.proposal).Nodup :=
  ⟨by decide +kernel, withdrawals_authorised replayRun_run⟩

end ElementsDrivechain
