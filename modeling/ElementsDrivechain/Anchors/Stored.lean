import ElementsDrivechain.Anchors.NodeRun

/-!
# The blocks a node has stored

A block enters the index on top of a stored block, and gets its data once.  So the ancestors of a
stored block are stored, and the node never works with a block whose data it does not have: the
chain, the candidates and the branch it is working towards are stored.

* `untouched_of_moves` : accepting blocks does not touch the stored ones.
* `NodeStep.stored` : **every step keeps what is known of the data.**
-/

namespace ElementsDrivechain

open Effects Relation

variable {Says : Verdicts}

/-! ### The data of blocks -/

/-- Blocks are stored on top of stored blocks, and the node works with stored blocks only. -/
structure Stored (c : Chainstate) : Prop where
  /-- Stored transactions have been checked, with those of all ancestors. -/
  data : ∀ b, (c.block b).haveData = true →
    (c.block b).validTransactions = true ∧ (c.block b).haveNumChainTxs = true
  chainTxs : ∀ b, (c.block b).haveNumChainTxs = true → (c.block b).haveData = true
  /-- Predecessors are stored. -/
  predecessor : ∀ b p, (c.block b).pprev = some p → (c.block p).haveData = true
  tip : ∀ t ∈ c.tip, (c.block t).haveData = true
  /-- The candidates are stored. -/
  sets : ∀ b, b ∈ c.setBlockIndexCandidates ∨ b ∈ c.suppressedCandidates →
    (c.block b).haveData = true

namespace Stored

variable {c c' : Chainstate} {b x : Uint256}

theorem mem_of_haveData (h : (c.block b).haveData = true) : b ∈ c.blocks := by
  by_contra hb
  rw [Chainstate.block, BlockMap.block, Std.ExtTreeMap.getD_eq_fallback hb] at h
  cases h

theorem ancestor (h : Stored c) (hb : (c.block b).haveData = true)
    (hx : x ∈ c.blocks.ancestry b) : (c.block x).haveData = true := by
  unfold BlockMap.ancestry at hx
  induction b using c.blocks.forest.induction with
  | root b hp =>
    rw [Forest.ancestry_root hp, List.mem_singleton] at hx
    exact hx ▸ hb
  | child b p hp ih =>
    obtain rfl | ⟨q, hq, hx⟩ := Forest.mem_ancestry.1 hx
    · exact hb
    · obtain rfl : p = q := Option.some.inj (hp.symm.trans hq)
      exact ih (h.predecessor b p hp) hx

theorem active (h : Stored c) (hb : b ∈ c.active) : (c.block b).haveData = true := by
  cases htip : c.tip with
  | none => simp [Chainstate.active, htip, Forest.chain] at hb
  | some t =>
    rw [Chainstate.active, htip, Forest.chain_some] at hb
    exact h.ancestor (h.tip t htip) hb

/-- A stored block is eligible when it is off the chain and has not failed. -/
theorem eligible (h : Stored c) (hb : c.Complete b) (hoff : b ∉ c.active) : c.Eligible b := by
  obtain ⟨hdata, hfailed⟩ := hb b (Forest.self_mem_ancestry b)
  obtain ⟨hvalid, hchain⟩ := h.data b hdata
  exact ⟨hoff, ⟨hfailed, hvalid⟩, hchain⟩

/-- New flags and anchors do not matter, nor does another stored tip with other stored candidates.
-/
theorem of_same (h : Stored c)
    (hblock : ∀ b, (c'.block b).toBlockPosition = (c.block b).toBlockPosition ∧
      (c'.block b).haveData = (c.block b).haveData ∧
      (c'.block b).validTransactions = (c.block b).validTransactions ∧
      (c'.block b).haveNumChainTxs = (c.block b).haveNumChainTxs)
    (htip : ∀ t ∈ c'.tip, (c.block t).haveData = true)
    (hsets : ∀ b, b ∈ c'.setBlockIndexCandidates ∨ b ∈ c'.suppressedCandidates →
      (c.block b).haveData = true) : Stored c' where
  data b := by
    rw [(hblock b).2.1, (hblock b).2.2.1, (hblock b).2.2.2]
    exact h.data b
  chainTxs b := by
    rw [(hblock b).2.1, (hblock b).2.2.2]
    exact h.chainTxs b
  predecessor b p := by
    rw [(hblock b).1, (hblock p).2.1]
    exact h.predecessor b p
  tip t ht := (hblock t).2.1.trans (htip t ht)
  sets b hb := (hblock b).2.1.trans (hsets b hb)

theorem of_flagged (h : Stored c) (hflagged : c.blocks.Flagged c'.blocks)
    (htip : ∀ t ∈ c'.tip, (c.block t).haveData = true)
    (hsets : ∀ b, b ∈ c'.setBlockIndexCandidates ∨ b ∈ c'.suppressedCandidates →
      (c.block b).haveData = true) : Stored c' :=
  h.of_same (fun b => ⟨hflagged.sameTree.position b, hflagged.haveData, hflagged.validTransactions,
    hflagged.haveNumChainTxs⟩) htip hsets

end Stored

/-! ### Accepting blocks -/

section Accept

variable {c c' : Chainstate} {hash prev x : Uint256} {anchor : DrivechainAnchor}

theorem block_store : ((c.receivedBlockTransactions hash).setAnchor hash anchor).block x =
    if x = hash then
      { c.block hash with
        haveData := true
        validTransactions := true
        haveNumChainTxs := true
        nSequenceId := c.nBlockSequenceId
        drivechainAnchor := some anchor }
    else c.block x := by
  have hblocks : (c.receivedBlockTransactions hash).blocks =
      c.blocks.modify hash (fun e =>
        { e with
          haveData := true
          validTransactions := true
          haveNumChainTxs := true
          nSequenceId := c.nBlockSequenceId }) fun _ => rfl := by
    unfold Chainstate.receivedBlockTransactions Chainstate.tryAddBlockIndexCandidate
    simp only
    split_ifs <;> rfl
  rw [Rebound.block_setAnchor, Chainstate.block, Chainstate.block, hblocks, BlockMap.block_modify,
    BlockMap.block_modify, if_pos rfl]
  split_ifs <;> rfl

theorem mem_candidates_store (h : x ∈
    ((c.receivedBlockTransactions hash).setAnchor hash anchor).setBlockIndexCandidates) :
    x = hash ∨ x ∈ c.setBlockIndexCandidates := by
  change x ∈ (c.receivedBlockTransactions hash).setBlockIndexCandidates at h
  unfold Chainstate.receivedBlockTransactions Chainstate.tryAddBlockIndexCandidate at h
  simp only at h
  split_ifs at h
  · exact .inr h
  · exact OrdSet.mem_insert_iff.1 h

/-- Accepting a block leaves the chain, the suppressed blocks and the snapshot alone. -/
theorem AcceptMove.frame (h : AcceptMove c c') :
    c'.tip = c.tip ∧ c'.suppressedCandidates = c.suppressedCandidates ∧
      c'.anchorSnapshot = c.anchorSnapshot := by
  cases h with
  | enter => exact ⟨rfl, rfl, rfl⟩
  | reject => exact ⟨rfl, rfl, rfl⟩
  | store =>
    change (Chainstate.receivedBlockTransactions c _).tip = _ ∧
      (Chainstate.receivedBlockTransactions c _).suppressedCandidates = _ ∧
      (Chainstate.receivedBlockTransactions c _).anchorSnapshot = _
    unfold Chainstate.receivedBlockTransactions Chainstate.tryAddBlockIndexCandidate
    simp only
    split_ifs <;> exact ⟨rfl, rfl, rfl⟩

theorem AcceptMove.block_stored (h : AcceptMove c c') (hx : (c.block x).haveData = true) :
    c'.block x = c.block x := by
  have hmem := Stored.mem_of_haveData hx
  cases h with
  | @enter hash _ hnew hprev _ =>
    have hne : x ≠ hash := fun he => hnew (he ▸ hmem)
    exact (BlockMap.block_addToBlockIndex hnew hprev).trans (if_neg hne)
  | reject _ hdata =>
    rw [Chainstate.block_markFailed, if_neg]
    rw [List.mem_singleton]
    rintro rfl
    exact absurd (hx.symm.trans hdata) nofun
  | store _ hdata _ =>
    rw [block_store, if_neg]
    rintro rfl
    exact absurd (hx.symm.trans hdata) nofun

theorem AcceptMove.ancestry_stored (h : AcceptMove c c') (hstored : Stored c)
    (hx : (c.block x).haveData = true) : c'.blocks.ancestry x = c.blocks.ancestry x := by
  refine Forest.ancestry_congr fun y hy => ?_
  change (c'.block y).pprev = (c.block y).pprev
  rw [h.block_stored (hstored.ancestor hx hy)]

theorem AcceptMove.stored (h : AcceptMove c c') (hstored : Stored c) : Stored c' := by
  have htip : ∀ t ∈ c'.tip, (c'.block t).haveData = true := by
    rw [h.frame.1]
    intro t ht
    rw [h.block_stored (hstored.tip t ht)]
    exact hstored.tip t ht
  have hsupp : ∀ b ∈ c'.suppressedCandidates, (c'.block b).haveData = true := by
    rw [h.frame.2.1]
    intro b hb
    rw [h.block_stored (hstored.sets b (.inr hb))]
    exact hstored.sets b (.inr hb)
  have hkept : ∀ b ∈ c.setBlockIndexCandidates, (c'.block b).haveData = true := by
    intro b hb
    rw [h.block_stored (hstored.sets b (.inl hb))]
    exact hstored.sets b (.inl hb)
  cases h with
  | @enter hash prev hnew hprev hauthenticated =>
    have hblock : ∀ y, (c.addToBlockIndex hash prev).block y = if y = hash then _ else _ :=
      fun y => BlockMap.block_addToBlockIndex hnew hprev
    have hdata : (c.block prev).haveData = true := hstored.chainTxs prev hauthenticated.2.1
    refine ⟨fun b => ?_, fun b => ?_, fun b p hp => ?_, htip,
      fun b hb => hb.elim (hkept b) (hsupp b)⟩
    · rw [hblock]
      split_ifs
      · nofun
      · exact hstored.data b
    · rw [hblock]
      split_ifs
      · nofun
      · exact hstored.chainTxs b
    · have hpdata : (c.block p).haveData = true := by
        rw [hblock] at hp
        split_ifs at hp
        · obtain rfl := Option.some.inj hp
          exact hdata
        · exact hstored.predecessor b p hp
      have hne : p ≠ hash := fun he => hnew (he ▸ Stored.mem_of_haveData hpdata)
      rw [hblock, if_neg hne]
      exact hpdata
  | reject =>
    exact hstored.of_flagged (Chainstate.flagged_markFailed _) hstored.tip hstored.sets
  | @store hash anchor _ _ _ =>
    refine ⟨fun b => ?_, fun b => ?_, fun b p hp => ?_, htip, fun b hb => ?_⟩
    · rw [block_store]
      split_ifs
      · exact fun _ => ⟨rfl, rfl⟩
      · exact hstored.data b
    · rw [block_store]
      split_ifs
      · exact fun _ => rfl
      · exact hstored.chainTxs b
    · have hpdata : (c.block p).haveData = true := by
        rw [block_store] at hp
        split_ifs at hp with hb
        · exact hstored.predecessor hash p hp
        · exact hstored.predecessor b p hp
      rw [block_store]
      split_ifs
      · rfl
      · exact hpdata
    · obtain hb | hb := hb
      · obtain rfl | hb := mem_candidates_store hb
        · rw [block_store, if_pos rfl]
        · exact hkept b hb
      · exact hsupp b hb

/-- The chain after blocks have been accepted: nothing on it has changed. -/
structure Untouched (c c' : Chainstate) : Prop where
  stored : Stored c'
  tip : c'.tip = c.tip
  suppressed : c'.suppressedCandidates = c.suppressedCandidates
  anchorSnapshot : c'.anchorSnapshot = c.anchorSnapshot
  block : ∀ x, (c.block x).haveData = true → c'.block x = c.block x
  ancestry : ∀ x, (c.block x).haveData = true → c'.blocks.ancestry x = c.blocks.ancestry x

theorem untouched_of_moves (hstored : Stored c) (h : ReflTransGen AcceptMove c c') :
    Untouched c c' := by
  induction h with
  | refl => exact ⟨hstored, rfl, rfl, rfl, fun _ _ => rfl, fun _ _ => rfl⟩
  | tail _ hmove ih =>
    obtain ⟨htip, hsuppressed, hsnapshot⟩ := hmove.frame
    refine ⟨hmove.stored ih.stored, htip.trans ih.tip, hsuppressed.trans ih.suppressed,
      hsnapshot.trans ih.anchorSnapshot, fun x hx => ?_, fun x hx => ?_⟩
    · exact (hmove.block_stored (by rw [ih.block x hx, hx])).trans (ih.block x hx)
    · exact (hmove.ancestry_stored ih.stored (by rw [ih.block x hx, hx])).trans (ih.ancestry x hx)

theorem Untouched.active_eq (h : Untouched c c') (hstored : Stored c) : c'.active = c.active := by
  unfold Chainstate.active
  rw [h.tip]
  cases htip : c.tip with
  | none => rfl
  | some t => exact h.ancestry t (hstored.tip t htip)

end Accept

/-! ### Passes and activation -/

section Activation

variable {c c' : Chainstate} {m b : Uint256}

theorem PassKept.sameTree (h : PassKept Says c c') : c.blocks.SameTree c'.blocks := by
  refine ⟨fun b => ?_, fun b => ?_⟩
  · change (c'.block b).toBlockPosition = (c.block b).toBlockPosition
    obtain ⟨anchor, hb⟩ := h.block b
    rw [hb]
  · change (c'.block b).nSequenceId = (c.block b).nSequenceId
    obtain ⟨anchor, hb⟩ := h.block b
    rw [hb]

theorem PassKept.stored (h : PassKept Says c c') (hstored : Stored c) : Stored c' := by
  refine hstored.of_same (fun b => ?_) (fun t ht => hstored.active (h.tip t ht)) fun b hb => ?_
  · obtain ⟨anchor, hb⟩ := h.block b
    rw [hb]
    exact ⟨rfl, rfl, rfl, rfl⟩
  · obtain hb | hb := h.known b hb
    · exact hstored.active hb
    · exact hstored.sets b hb

theorem Discarded.stored (h : Discarded c c') (hstored : Stored c) : Stored c' := by
  refine hstored.of_flagged h.flagged ?_ fun b hb => ?_
  · rw [h.tip]
    exact hstored.tip
  · rw [h.suppressed] at hb
    exact hstored.sets b (hb.imp_left (h.candidate b))

theorem ActivateMove.stored {oldTip : Option Uint256} (h : ActivateMove oldTip m c c')
    (hm : (c.block m).haveData = true) (hstored : Stored c) : Stored c' := by
  cases h with
  | disconnect htip _ _ =>
    exact hstored.of_same (fun _ => ⟨rfl, rfl, rfl, rfl⟩) (fun p hp => hstored.predecessor _ p hp)
      hstored.sets
  | connect hb _ _ =>
    refine hstored.of_same (fun _ => ⟨rfl, rfl, rfl, rfl⟩) (fun t ht => ?_) fun x hx => ?_
    · obtain rfl := Option.some.inj ht
      exact hstored.ancestor hm hb
    · exact hstored.sets x (hx.imp_left fun hx => (OrdSet.mem_filter_iff.1 hx).1)

theorem flagged_invalidBlockFound : c.blocks.Flagged (c.invalidBlockFound b).blocks :=
  Chainstate.flagged_markFailed _

/-- A step keeps what is known of the data, and the block it works towards has its own. -/
theorem StepDone.stored {oldTip : Option Uint256} {t : Activation} (h : StepDone oldTip m c t)
    (hm : (c.block m).haveData = true) (hstored : Stored c) :
    Stored t.chain ∧ (t.chain.block m).haveData = true := by
  refine h.invariant ⟨hstored, hm⟩ ?_ ?_ ?_
  · rintro c c' ⟨hc, hm⟩ hmove
    refine ⟨hmove.stored hm hc, ?_⟩
    rw [Chainstate.block, hmove.blocks]
    exact hm
  · rintro c b ⟨hc, hm⟩ _ _
    refine ⟨hc.of_flagged flagged_invalidBlockFound hc.tip fun x hx => ?_,
      flagged_invalidBlockFound.haveData.trans hm⟩
    exact hc.sets x (hx.imp_left fun hx => (OrdSet.mem_erase_iff.1 hx).2)
  · rintro c b ⟨hc, hm⟩ hb _
    refine ⟨hc.of_same (fun _ => ⟨rfl, rfl, rfl, rfl⟩) hc.tip fun x hx => ?_, hm⟩
    obtain hx | hx := hx
    · exact hc.sets x (.inl (OrdSet.mem_erase_iff.1 hx).2)
    · obtain rfl | hx := OrdSet.mem_insert_iff.1 hx
      · exact hc.ancestor hm hb
      · exact hc.sets x (.inr hx)

end Activation

/-! ### The node -/

/-- The node works with stored blocks only. -/
structure NodeState.Stored (s : NodeState) : Prop where
  chain : ElementsDrivechain.Stored s.chain
  mostWork : ∀ loop ∈ s.loop, ∀ m ∈ loop.mostWork, (s.chain.block m).haveData = true

theorem Chosen.discarded {loop : ActivationLoop} {c c₁ : Chainstate} {r : Option Uint256}
    (h : Chosen loop c r c₁) : Discarded c c₁ := by
  cases h with
  | kept => exact .refl c
  | found _ h => exact h.toDiscarded

theorem Chosen.stored {loop : ActivationLoop} {c c₁ : Chainstate} {r : Option Uint256}
    (h : Chosen loop c r c₁) (hstored : Stored c)
    (hm : ∀ m ∈ loop.mostWork, (c.block m).haveData = true) :
    Stored c₁ ∧ ∀ m ∈ r, (c₁.block m).haveData = true := by
  have hstored' := h.discarded.stored hstored
  refine ⟨hstored', fun m hr => ?_⟩
  cases h with
  | kept h => exact hm m (h.trans hr)
  | found _ h => exact hstored'.sets m (.inl (h.mem m hr))

theorem block_loadGenesisBlock (genesis b : Uint256) :
    (Chainstate.loadGenesisBlock genesis).block b =
      if b = genesis then
        { nChainWork := getBlockProof
          haveData := true
          validTransactions := true
          haveNumChainTxs := true
          nSequenceId := 1 }
      else {} := by
  have hgenesis : ∀ x, (BlockMap.ofGenesis genesis).block x =
      if x = genesis then { nChainWork := getBlockProof } else {} := by
    intro x
    refine Maps.getD_insert.trans ?_
    split_ifs
    · rfl
    · exact Std.ExtTreeMap.getD_empty
  change ((BlockMap.ofGenesis genesis).modify genesis _ _).block b = _
  rw [BlockMap.block_modify, hgenesis, hgenesis, if_pos rfl]
  split_ifs <;> rfl

theorem mem_candidates_loadGenesisBlock {genesis b : Uint256} :
    b ∈ (Chainstate.loadGenesisBlock genesis).setBlockIndexCandidates ↔ b = genesis := by
  change b ∈ (∅ : OrdSet Uint256).insert genesis ↔ _
  rw [OrdSet.mem_insert_iff, or_iff_left Std.ExtTreeSet.not_mem_empty]

theorem stored_loadGenesisBlock (genesis : Uint256) : Stored (.loadGenesisBlock genesis) := by
  refine ⟨fun b => ?_, fun b => ?_, fun b p hp => ?_, nofun, fun b hb => ?_⟩
  · rw [block_loadGenesisBlock]
    split_ifs
    · exact fun _ => ⟨rfl, rfl⟩
    · nofun
  · rw [block_loadGenesisBlock]
    split_ifs
    · exact fun _ => rfl
    · nofun
  · rw [block_loadGenesisBlock] at hp
    split_ifs at hp
  · obtain hb | hb := hb
    · rw [block_loadGenesisBlock, if_pos (mem_candidates_loadGenesisBlock.1 hb)]
    · exact absurd hb Std.ExtTreeSet.not_mem_empty

theorem NodeMove.stored {Holds : DrivechainAnchorSnapshot → Prop} {s s' : NodeState}
    (h : NodeMove Says Holds s s') (hs : s.Stored) : s'.Stored := by
  cases h with
  | accepted hidle h =>
    refine ⟨(untouched_of_moves hs.chain h).stored, fun loop hl => ?_⟩
    cases hidle.symm.trans hl
  | prepared _ _ =>
    exact ⟨hs.chain.of_same (fun _ => ⟨rfl, rfl, rfl, rfl⟩) hs.chain.tip hs.chain.sets, hs.mostWork⟩
  | reconciled hidle h =>
    cases h with
    | done h =>
      refine ⟨h.toPassKept.stored hs.chain, fun loop hl m hm => ?_⟩
      simp only at hl
      split_ifs at hl
      · cases hl
      · obtain rfl := Option.some.inj hl
        cases hm
    | idle => exact ⟨hs.chain, nofun⟩
    | failed h =>
      refine ⟨h.stored hs.chain, fun loop hl => ?_⟩
      cases hidle.symm.trans hl
  | activated hloop h =>
    have hm := hs.mostWork _ hloop
    cases h with
    | idle hchosen h => exact ⟨h ▸ (hchosen.stored hs.chain hm).1, nofun⟩
    | step hchosen h hnext =>
      obtain ⟨hstored, hdata⟩ := hchosen.stored hs.chain hm
      obtain ⟨hstored', hdata'⟩ := h.stored (hdata _ rfl) hstored
      refine ⟨hstored', fun l hl m' hm' => ?_⟩
      obtain ⟨-, hmost | ⟨hmost, -⟩⟩ := hnext l hl
      · cases hmost.symm.trans hm'
      · obtain rfl := Option.some.inj (hmost.symm.trans hm')
        exact hdata'

/-- **Every step keeps what is known of the data.** -/
theorem NodeStep.stored {parents : Forest Uint256} {s s' : NodeState} {e : NodeEvent}
    (h : NodeStep parents s e s') (hs : s.Stored) : s'.Stored :=
  h.invariant hs (fun _ hmove => hmove.stored hs) (fun _ _ hs => ⟨hs.chain, hs.mostWork⟩)
    ⟨hs.chain, nofun⟩

theorem stored_initial (genesis parentTip : Uint256) :
    (NodeState.initial genesis parentTip).Stored :=
  ⟨stored_loadGenesisBlock genesis, nofun⟩

end ElementsDrivechain
