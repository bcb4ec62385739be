import ElementsDrivechain.Ecx.Thread

/-!
# Disconnecting blocks of the exchange

Nothing is kept of the trackers when a block is connected.  Disconnecting it finds out how many
entries it appended by appending them once more to an empty inbox, and finds the singleton before
it as the first input of the transaction that made the one after it.

* `Advances.disconnect` : **a block that was connected can be disconnected**, and everything is as
  it was.
* `exchange_connect_disconnect` : the same for a chain of blocks, last block first.
-/

namespace ElementsDrivechain

open Fallible

/-! ### Views that agree -/

namespace CCoinsView

variable {v w : CCoinsView} {o : COutPoint} {coin : Coin}

theorem Agree.spendCoin (h : v.Agree w) (p : COutPoint) :
    (v.spendCoin p).Agree (w.spendCoin p) := by
  intro o hb hc
  by_cases ho : o = p
  · subst ho
    rw [spendCoin_self, spendCoin_self]
  · rw [spendCoin_of_ne ho, spendCoin_of_ne ho, h o hb hc]

theorem Agree.addCoin (h : v.Agree w) (p : COutPoint) (coin : Coin) :
    (v.addCoin p coin).Agree (w.addCoin p coin) := by
  intro o hb hc
  by_cases hspendable : IsUnspendable coin.out.scriptPubKey
  · simp only [CCoinsView.addCoin, dif_pos hspendable, h o hb hc]
  by_cases ho : o = p
  · subst ho
    rw [addCoin_self hspendable, addCoin_self hspendable]
  · rw [addCoin_of_ne ho, addCoin_of_ne ho, h o hb hc]

theorem Agree.removeOutputs (h : v.Agree w) (hash : Uint256) (i : ℕ) (outs : List Child.CTxOut) :
    (removeOutputs hash i outs v).Agree (removeOutputs hash i outs w) := by
  induction outs generalizing i v w with
  | nil => exact h
  | cons out outs ih =>
    unfold CCoinsView.removeOutputs
    split_ifs
    · exact ih h (i + 1)
    · exact ih (h.spendCoin _) (i + 1)

theorem Agree.restoreInputs (h : v.Agree w) (inputs : List Child.CTxIn)
    (undo : List (Option Coin)) :
    (v.restoreInputs inputs undo).Agree (w.restoreInputs inputs undo) := by
  induction inputs generalizing undo with
  | nil => exact h
  | cons input inputs ih =>
    obtain _ | ⟨_ | coin, undo⟩ := undo
    · exact h
    · exact ih undo
    · exact (ih undo).addCoin _ _

theorem Agree.disconnectTransactions (h : v.Agree w) (txs : List Child.CTransaction)
    (undos : List (List (Option Coin))) :
    (v.disconnectTransactions txs undos).Agree (w.disconnectTransactions txs undos) := by
  induction txs generalizing undos with
  | nil => exact h
  | cons tx txs ih =>
    obtain _ | ⟨undo, undos⟩ := undos
    · exact h
    · have hremoved := (ih undos).removeOutputs tx.hash 0 tx.vout
      simp only [CCoinsView.disconnectTransactions, undoCoins]
      split_ifs
      · exact hremoved
      · exact hremoved.restoreInputs _ _

end CCoinsView

namespace Ecx

open CCoinsView

section Undo

variable {N : ExchangeNetwork} {s s' : ExchangeChain} {b : ChainBlock} {ls : List ChainBlock}
  {t : Trackers} {cursors : Cursors} {oldest : ℕ} {expected : Expected}
  {seen spent view undone : CCoinsView} {index : Child.CBlockIndex}

/-! ### One block -/

/-- The entries that were appended to an inbox can be appended to an empty one. -/
theorem Appendable.from_empty {height : ℤ} {p : ℕ} {forced deposits : InboxTracker}
    {sources : List (Child.CTransaction × Sources)}
    (h : Appendable height p forced deposits sources) (root root' : Uint256) :
    Appendable height p { root := root } { root := root' } sources where
  parentHeight := h.parentHeight
  orderWork := h.orderWork
  forcedCount := by
    have := h.forcedCount
    change 0 + _ < _
    omega
  depositCount := by
    have := h.depositCount
    change 0 + _ < _
    omega

theorem count_sub {before after : UInt64} {n : ℕ} (h : after.toNat = before.toNat + n) :
    after - UInt64.ofNat n = before := by
  have hlt := after.toNat_lt
  have hadd : after = before + UInt64.ofNat n := by
    refine UInt64.toNat_inj.1 ?_
    rw [UInt64.toNat_add, UInt64.toNat_ofNat', h]
    omega
  rw [hadd, UInt64.add_sub_cancel]

theorem activation_ne_max (h : consensusConfigured N.toExchangeCrypto N.consensus = .ok ()) :
    N.consensus.activationHeight ≠ INT_MAX := by
  simp only [consensusConfigured, bind_eq_ok, rejectIf_eq_ok] at h
  obtain ⟨_, hmax, -⟩ := h
  exact hmax

section OneBlock

variable (h : Advances N s b s' t cursors oldest expected seen spent)

include h

/-- The singleton after a block is one of its transactions, or that before it. -/
theorem Advances.outpoint_cases :
    expected.state.outpoint = t.state.outpoint ∨
      ∃ tx ∈ b.block.vtx, expected.state.outpoint = ⟨tx.hash, 0⟩ := by
  obtain ⟨coin, -, -, -, -, hnext⟩ := h.follows.coin
  obtain ⟨-, heq⟩ | ⟨before, tx, after, successor, hvtx, -, -, -, -, hmoves⟩ :=
    deriveNext_cases hnext
  · exact .inl (by rw [heq])
  · exact .inr ⟨tx, by simp [hvtx], by rw [hmoves.next]⟩

/-- What is assumed of the ids of a chain holds of the rest of the chain. -/
theorem Advances.distinctIds
    (hids : DistinctIds t.state.outpoint.hash (blockTransactions (b :: ls)))
    (hreserved : ¬IsReserved t.state.outpoint) :
    DistinctIds expected.state.outpoint.hash (blockTransactions ls) ∧
      ¬IsReserved expected.state.outpoint := by
  obtain ⟨hnodup, hrecords⟩ := hids
  rw [blockTransactions, List.flatMap_cons] at hnodup hrecords
  rw [List.map_append] at hnodup
  have hrest : ∀ tx ∈ blockTransactions ls, ¬IsReserved ⟨tx.hash, 0⟩ :=
    fun tx htx => hrecords tx (List.mem_append_right _ htx)
  obtain ⟨hfirst, hnodup⟩ := List.nodup_cons.1 hnodup
  rw [List.nodup_append] at hnodup
  rcases h.outpoint_cases with heq | ⟨tx, htx, heq⟩
  · rw [heq]
    refine ⟨⟨List.nodup_cons.2 ⟨fun hmem => hfirst ?_, hnodup.2.1⟩, hrest⟩, hreserved⟩
    exact List.mem_append_right _ hmem
  · rw [heq]
    refine ⟨⟨List.nodup_cons.2 ⟨fun hmem => ?_, hnodup.2.1⟩, hrest⟩, ?_⟩
    · exact hnodup.2.2 _ (List.mem_map_of_mem htx) _ hmem rfl
    · exact hrecords tx (List.mem_append_left _ htx)

theorem Advances.restoreInboxes (hforced : index.hashForcedInboxRoot = t.forced.root)
    (hdeposits : index.hashDepositInboxRoot = t.deposits.root) (view : CCoinsView) :
    restoreInboxes N b.block index view b.height expected.forced expected.deposits =
      .ok (t.forced, t.deposits) := by
  obtain ⟨sources, hsources, happendable, hf, hd⟩ := h.follows.sources
  have hcount := InboxTracker.toNat_count_appendAllForced (N := N) happendable.forcedCount
  have hcount' := InboxTracker.toNat_count_appendAllDeposits (N := N) happendable.depositCount
  rw [← hf] at hcount
  rw [← hd] at hcount'
  have hbefore : (⟨index.hashForcedInboxRoot, expected.forced.count - UInt64.ofNat
      (forcedEntries b.height b.block.ecxParentHeight.toNat sources).length⟩ : InboxTracker) =
        t.forced :=
    congrArg₂ InboxTracker.mk hforced (count_sub hcount)
  have hbefore' : (⟨index.hashDepositInboxRoot, expected.deposits.count - UInt64.ofNat
      (depositEntries b.height b.block.ecxParentHeight.toNat sources).length⟩ : InboxTracker) =
        t.deposits :=
    congrArg₂ InboxTracker.mk hdeposits (count_sub hcount')
  refine bind_eq_ok.2 ⟨_, deriveInboxNext_eq_ok.2 ⟨sources, hsources, happendable.from_empty _ _,
    rfl⟩, bind_eq_ok.2 ⟨(), rejectIf_eq_ok.2 ?_, ?_⟩⟩
  · rw [hcount, hcount']
    exact not_or.2 ⟨Nat.not_lt.2 (Nat.le_add_left _ _), Nat.not_lt.2 (Nat.le_add_left _ _)⟩
  · dsimp only [InboxScan.after]
    rw [hbefore, hbefore']
    refine bind_eq_ok.2 ⟨_, deriveInboxNext_eq_ok.2 ⟨sources, hsources, happendable, rfl⟩,
      bind_eq_ok.2 ⟨(), rejectIf_eq_ok.2 ?_, rfl⟩⟩
    exact not_or.2 ⟨not_not.2 hf.symm, not_not.2 hd.symm⟩

theorem Advances.priorOutpoint (hids : (t.state.outpoint.hash :: b.block.vtx.map (·.hash)).Nodup) :
    priorOutpoint b.block.vtx expected.state = .ok t.state.outpoint := by
  rw [List.nodup_cons] at hids
  obtain ⟨coin, -, -, -, -, hnext⟩ := h.follows.coin
  obtain ⟨-, heq⟩ | ⟨before, tx, after, successor, hvtx, -, -, -, -, hmoves⟩ :=
    deriveNext_cases hnext
  · -- the transaction of the singleton stands in an earlier block
    have hnone : b.block.vtx.find? (fun tx => tx.hash = t.state.outpoint.hash) = none := by
      refine List.find?_eq_none.2 fun tx htx heq => hids.1 ?_
      exact List.mem_map.2 ⟨tx, htx, by simpa using heq⟩
    rw [Ecx.priorOutpoint, heq, hnone]
    split_ifs <;> rfl
  · have hnew : expected.state.outpoint = ⟨tx.hash, 0⟩ := by rw [hmoves.next]
    have hfind : b.block.vtx.find? (fun u => u.hash = tx.hash) = some tx := by
      rw [List.find?_eq_some_iff_append]
      refine ⟨by simp, before, after, hvtx, fun u hu => ?_⟩
      have hnodup := hids.2
      rw [hvtx, List.map_append, List.nodup_append] at hnodup
      simpa using hnodup.2.2 u.hash (List.mem_map_of_mem hu) tx.hash (by simp)
    rw [Ecx.priorOutpoint, hnew, if_neg (by simp), hfind]
    exact orReject_eq_ok.2 hmoves.input

/-- Once its transactions are disconnected, the view is that in which the trackers of the block were
stored. -/
theorem Advances.agree_undone (hview : s'.view.Agree view)
    (hundone : (view.disconnectTransactions b.block.vtx b.undos).Agree undone) :
    (setTrackers N seen expected.state expected.forced expected.deposits b.height).Agree
      undone := by
  rw [← disconnect_connectTransactions h.transactions]
  exact ((h.after.trans hview).disconnectTransactions _ _).trans hundone

/-- The trackers of a block that is disconnected are read, and agree with its header. -/
theorem Advances.disconnect_eq (hpos : Position N s t cursors oldest)
    (hstored : Stored N expected.trackers b.height undone) :
    disconnectExchangeState N b.block s.tip undone b.height none =
      if b.height = N.consensus.activationHeight then
        .ok (((undone.spendCoin EXCHANGE_TRACKER_OUTPOINT).spendCoin
          FORCED_INBOX_TRACKER_OUTPOINT).spendCoin DEPOSIT_INBOX_TRACKER_OUTPOINT)
      else restoreTrackers N b.block s.tip undone b.height expected.state expected.forced
        expected.deposits := by
  have hactive : ActiveAt b.height N.consensus := by
    rw [h.height]
    exact hpos.active (activation_ne_max h.configured)
  have hparent : ¬(b.block.ecxParentHeight = 0 ∨
      ∃ supplied ∈ (none : Option ℕ), supplied ≠ b.block.ecxParentHeight.toNat) := by
    simpa using h.committed.parentHeight
  obtain ⟨hstate, hforced, hdeposits, -⟩ := h.committedBy
  rw [disconnectExchangeState, if_neg (not_not.2 hactive), rejectIf_of_not hparent,
    hstored.getTracker h.readable, hstored.getForcedTracker h.readable,
    hstored.getDepositTracker h.readable]
  have hroot : ¬expected.trackers.state.root ≠ b.block.hashExchangeStateRoot :=
    not_not.2 hstate.symm
  have hroots : ¬(expected.trackers.forced.root ≠ b.block.hashForcedInboxRoot ∨
      expected.trackers.deposits.root ≠ b.block.hashDepositInboxRoot) := by
    simp [Expected.trackers, hforced, hdeposits]
  change (rejectIf (expected.trackers.state.root ≠ _) _ >>= fun _ =>
    rejectIf (expected.trackers.forced.root ≠ _ ∨ expected.trackers.deposits.root ≠ _) _ >>=
      fun _ => _) = _
  rw [rejectIf_of_not hroot, rejectIf_of_not hroots]
  rfl

theorem Advances.restoreTrackers (hsynced : Synced N s t index)
    (hids : (t.state.outpoint.hash :: b.block.vtx.map (·.hash)).Nodup)
    (hcoin : undone.accessCoin t.state.outpoint = seen.accessCoin t.state.outpoint) :
    restoreTrackers N b.block s.tip undone b.height expected.state expected.forced
      expected.deposits = .ok (setTrackers N undone t.state t.forced t.deposits s.height) := by
  obtain ⟨coin, hseen, -, -, hroot, -⟩ := h.follows.coin
  have hcommitted := hsynced.committed
  have hheight : b.height - 1 = s.height := by
    have := h.height
    omega
  have hprior : ({ outpoint := t.state.outpoint, root := stateRoot N t.state.outpoint coin.out } :
      ExchangeStateTracker) = t.state := by rw [hroot]
  simp only [Ecx.restoreTrackers, bind_eq_ok, orReject_eq_ok, rejectIf_eq_ok, pure_eq_ok]
  refine ⟨index, hsynced.tip, (), ?_, (), ?_, _, h.restoreInboxes hsynced.forced hsynced.deposits _,
    _, h.priorOutpoint hids, coin, hcoin.trans hseen, (), ?_, ?_⟩
  · simp [hcommitted.exchangeState, hcommitted.exchangeStateRoot]
  · simp [hcommitted.forcedInbox, hcommitted.depositInbox, hcommitted.forcedInboxRoot,
      hcommitted.depositInboxRoot]
  · rw [hroot, hsynced.state, not_not]
  · rw [hprior, hheight]

/-- **A block that was connected can be disconnected**, after its transactions, and everything is as
it was before the block. -/
theorem Advances.disconnect (hpos : Position N s t cursors oldest)
    (hids : (t.state.outpoint.hash :: b.block.vtx.map (·.hash)).Nodup)
    (hreserved : ¬IsReserved t.state.outpoint) (hview : s'.view.Agree view)
    (hundone : (view.disconnectTransactions b.block.vtx b.undos).Agree undone) :
    ∃ restored, disconnectExchangeState N b.block s.tip undone b.height none = .ok restored ∧
      s.view.Agree restored := by
  have hagree := h.agree_undone hview hundone
  have hstored : Stored N expected.trackers b.height undone :=
    (stored_setTrackers (t := expected.trackers) h.readable.index).agree hagree
  have hother (o : COutPoint) (ho : ¬IsExchangeStateInternalOutpoint o)
      (hb : ¬IsBmmStateInternalOutpoint o) (hc : ¬IsCtipStateInternalOutpoint o) :
      undone.accessCoin o = seen.accessCoin o := by
    have hset : (setTrackers N seen expected.state expected.forced expected.deposits
        b.height).accessCoin o = seen.accessCoin o :=
      setTrackers_of_not_exchange (t := expected.trackers) ho
    rw [← hagree o hb hc, hset]
  rw [h.disconnect_eq hpos hstored]
  cases hpos with
  | start hheight =>
    have hactivation : b.height = N.consensus.activationHeight := by rw [h.height, hheight]
    rw [if_pos hactivation]
    refine ⟨_, rfl, h.before.trans fun o hb hc => ?_⟩
    by_cases ho : IsExchangeStateInternalOutpoint o
    · rw [h.activation hactivation o ho]
      obtain ⟨h₁, h₂, h₃⟩ := outpoints_ne
      rcases ho with rfl | rfl | rfl
      · rw [spendCoin_of_ne h₂, spendCoin_of_ne h₁, spendCoin_self]
      · rw [spendCoin_of_ne h₃, spendCoin_self]
      · rw [spendCoin_self]
    · rw [← hother o ho hb hc]
      simp only [IsExchangeStateInternalOutpoint, not_or] at ho
      rw [spendCoin_of_ne ho.2.2, spendCoin_of_ne ho.2.1,
        spendCoin_of_ne ho.1]
  | @synced _ index hsynced =>
    have hlater : b.height ≠ N.consensus.activationHeight := by
      have := h.height
      have := hsynced.active
      omega
    simp only [IsReserved, not_or] at hreserved
    rw [if_neg hlater, h.restoreTrackers hsynced hids
      (hother _ hreserved.1 hreserved.2.1 hreserved.2.2)]
    refine ⟨_, rfl, fun o hb hc => ?_⟩
    by_cases ho : IsExchangeStateInternalOutpoint o
    · have hrestored : Stored N t s.height
          (setTrackers N undone t.state t.forced t.deposits s.height) :=
        stored_setTrackers hsynced.readable.index
      rcases ho with rfl | rfl | rfl
      · rw [hsynced.stored.state, hrestored.state]
      · rw [hsynced.stored.forced, hrestored.forced]
      · rw [hsynced.stored.deposits, hrestored.deposits]
    · rw [setTrackers_of_not_exchange ho, hother o ho hb hc, h.before o hb hc]

/-- **A block is disconnected**, after its transactions.  The records of the mining and of the
deposits are restored by others, before and after it. -/
def Disconnects (N : ExchangeNetwork) (view : CCoinsView)
    (b : ChainBlock × Option Child.CBlockIndex) (view' : CCoinsView) : Prop :=
  ∃ undone restored, (view.disconnectTransactions b.1.block.vtx b.1.undos).Agree undone ∧
    disconnectExchangeState N b.1.block b.2 undone b.1.height none = .ok restored ∧
    restored.Agree view'

/-- A block that was connected can be disconnected, and that brings the view back. -/
theorem Advances.disconnects (hpos : Position N s t cursors oldest)
    (hids : (t.state.outpoint.hash :: b.block.vtx.map (·.hash)).Nodup)
    (hreserved : ¬IsReserved t.state.outpoint) (hview : s'.view.Agree view) :
    (∃ restored, Disconnects N view (b, s.tip) restored) ∧
      ∀ restored, Disconnects N view (b, s.tip) restored → s.view.Agree restored := by
  constructor
  · obtain ⟨restored, hrestored, -⟩ := h.disconnect hpos hids hreserved hview (.refl _)
    exact ⟨restored, _, restored, .refl _, hrestored, .refl _⟩
  · rintro restored' ⟨undone, restored, hundone, hrestored, hagree⟩
    obtain ⟨r, hr, hview'⟩ := h.disconnect hpos hids hreserved hview hundone
    obtain rfl := Except.ok.inj (hr.symm.trans hrestored)
    exact hview'.trans hagree

end OneBlock

/-! ### Chains -/

/-- Some blocks, each with the tip that it was put on. -/
def withPrevious (tip : Option Child.CBlockIndex) :
    List ChainBlock → List (ChainBlock × Option Child.CBlockIndex)
  | [] => []
  | b :: ls => (b, tip) :: withPrevious (some b.index) ls

theorem DistinctIds.first_block {first : Uint256}
    (h : DistinctIds first (blockTransactions (b :: ls))) :
    (first :: b.block.vtx.map (·.hash)).Nodup := by
  have hids := h.ids
  rw [blockTransactions, List.flatMap_cons, List.map_append, ← List.cons_append] at hids
  exact hids.of_append_left

/-- Blocks that were connected can be disconnected, last block first, and however that is done, the
view is brought back. -/
theorem disconnects_of_run (hmax : N.consensus.activationHeight ≠ INT_MAX)
    (hpos : Position N s t cursors oldest) (hreserved : ¬IsReserved t.state.outpoint)
    (hids : DistinctIds t.state.outpoint.hash (blockTransactions ls))
    (h : Run (Connects N) s ls s') (hview : s'.view.Agree view) :
    (∃ restored, Run (Disconnects N) view (withPrevious s.tip ls).reverse restored) ∧
      ∀ restored, Run (Disconnects N) view (withPrevious s.tip ls).reverse restored →
        s.view.Agree restored := by
  induction ls generalizing s t cursors oldest with
  | nil =>
    obtain rfl := Run.nil_iff.1 h
    refine ⟨⟨view, .nil⟩, fun restored hrun => ?_⟩
    obtain rfl := Run.nil_iff.1 hrun
    exact hview
  | cons b ls ih =>
    obtain ⟨mid, hb, hrest⟩ := Run.cons_iff.1 h
    obtain ⟨expected, seen, spent, hadvances⟩ := connects_advances hmax hpos hb
    obtain ⟨hids', hreserved'⟩ := hadvances.distinctIds hids hreserved
    obtain ⟨⟨current, hcurrent⟩, hmid⟩ := ih hadvances.position hreserved' hids' hrest
    rw [hadvances.synced.tip] at hcurrent hmid
    simp only [withPrevious, List.reverse_cons, Run.snoc_iff]
    constructor
    · obtain ⟨⟨restored, hrestored⟩, -⟩ :=
        hadvances.disconnects hpos hids.first_block hreserved (hmid current hcurrent)
      exact ⟨restored, current, hcurrent, hrestored⟩
    · rintro restored ⟨current, hcurrent, hrestored⟩
      exact (hadvances.disconnects hpos hids.first_block hreserved (hmid current hcurrent)).2 _
        hrestored

/-- **Disconnecting blocks in reverse order restores the trackers.**  Of any blocks that were
connected one after the other, at or after the activation, let all but the first be disconnected,
last block first.  Once its transactions are undone, the first can be disconnected too, whatever
became of the records of others; its three records are those from before it was connected, with
their heights, and there are none if it was the activation.  Nothing else remains of the blocks
either. -/
theorem exchange_connect_disconnect {current : CCoinsView}
    (hmax : N.consensus.activationHeight ≠ INT_MAX)
    (hpos : Position N s t cursors oldest) (hreserved : ¬IsReserved t.state.outpoint)
    (hids : DistinctIds t.state.outpoint.hash (blockTransactions (b :: ls)))
    (h : Run (Connects N) s (b :: ls) s') (hview : s'.view.Agree view)
    (hundo : Run (Disconnects N) view (withPrevious (some b.index) ls).reverse current)
    (hundone : (current.disconnectTransactions b.block.vtx b.undos).Agree undone) :
    ∃ restored, disconnectExchangeState N b.block s.tip undone b.height none = .ok restored ∧
      s.view.Agree restored ∧
      (∀ o, IsExchangeStateInternalOutpoint o → restored.accessCoin o = s.view.accessCoin o) ∧
      (b.height = N.consensus.activationHeight →
        ∀ o, IsExchangeStateInternalOutpoint o → restored.accessCoin o = none) ∧
      (b.height ≠ N.consensus.activationHeight → Stored N t (b.height - 1) restored) := by
  obtain ⟨mid, hb, hrest⟩ := Run.cons_iff.1 h
  obtain ⟨expected, seen, spent, hadvances⟩ := connects_advances hmax hpos hb
  obtain ⟨hids', hreserved'⟩ := hadvances.distinctIds hids hreserved
  obtain ⟨-, hmid⟩ := disconnects_of_run hmax hadvances.position hreserved' hids' hrest hview
  rw [hadvances.synced.tip] at hmid
  obtain ⟨restored, hrestored, hview'⟩ :=
    hadvances.disconnect hpos hids.first_block hreserved (hmid current hundo) hundone
  refine ⟨restored, hrestored, hview', fun o ho => (hview'.eq_of_exchange ho).symm,
    fun hactivation o ho => ?_, fun hlater => ?_⟩
  · rw [← hview'.eq_of_exchange ho, hadvances.before.eq_of_exchange ho]
    exact hadvances.activation hactivation o ho
  · have hheight := hadvances.height
    cases hpos with
    | start hstart => exact absurd (hheight.trans hstart) hlater
    | synced hsynced =>
      rw [hheight, add_sub_cancel_right]
      exact hsynced.stored.agree hview'

end Undo

open Ecx.Sample

/-- Three blocks are connected, the last two are disconnected, and so can be the first. -/
theorem exchange_connect_disconnect_activation :
    ∃ b ls s' current, Run (Connects exchangeNetwork) exchangeStart (b :: ls) s' ∧
      ls.length = 2 ∧
      Run (Disconnects exchangeNetwork) s'.view (withPrevious (some b.index) ls).reverse
        current ∧
      ∃ restored, disconnectExchangeState exchangeNetwork b.block none
        (current.disconnectTransactions b.block.vtx b.undos) b.height none = .ok restored := by
  obtain ⟨⟨s', _ | ⟨b, ls⟩⟩, hbs, hlength⟩ :=
    Option.map_eq_some_iff.1 length_extendAll_exchangeBlocks
  · cases hlength
  have hrun := run_extendAll hbs
  have hpos : Position exchangeNetwork exchangeStart
      (genesisTrackers exchangeNetwork) {} 0 := .start (by decide)
  have hreserved : ¬IsReserved (genesisTrackers exchangeNetwork).state.outpoint := by
    decide +kernel
  have hids : DistinctIds (genesisTrackers exchangeNetwork).state.outpoint.hash
      (blockTransactions (b :: ls)) := by
    rw [blockTransactions_extendAll hbs]
    exact freshIds_exchangeBlocks.toDistinctIds
  obtain ⟨⟨_, hundo⟩, -⟩ := disconnects_of_run (by decide) hpos hreserved hids hrun (.refl _)
  rw [withPrevious, List.reverse_cons] at hundo
  obtain ⟨current, hcurrent, -⟩ := Run.snoc_iff.1 hundo
  obtain ⟨restored, hrestored, -⟩ :=
    exchange_connect_disconnect (by decide) hpos hreserved hids hrun (.refl _) hcurrent (.refl _)
  exact ⟨b, ls, s', current, hrun, by simpa using hlength, hcurrent, restored, hrestored⟩

end Ecx

end ElementsDrivechain
