import ElementsDrivechain.Anchors.Pass

/-!
# A pass under fixed answers

When the answers about anchors do not change during a pass, the pass does what they say: it
disconnects exactly the orphaned end of the chain, binds only orphaned blocks off the chain anew,
and leaves no candidate off the chain that the parent chain does not support.  Nothing is ever
marked as failed.

A block that the pass itself has bound to another edge is active because the parent node found the
block committed in that edge; its new anchor is not asked for again.

* `reconcile_safe` : **every pass is safe.**
-/

namespace ElementsDrivechain

open Effects

variable (answer : DrivechainAnchor → DrivechainAnchorStatus)

/-- The answer about the anchor of a block. -/
def blockAnswer (e : CBlockIndex) : DrivechainAnchorStatus :=
  if e.nHeight = 0 then .ACTIVE
  else
    match e.drivechainAnchor with
    | none => .UNAVAILABLE
    | some anchor => answer anchor

/-- Whenever it is asked for, an anchor gets the same answer. -/
def AnswersFixed (snapshot : Option DrivechainAnchorSnapshot) (worlds : Stream' NodeWorld) : Prop :=
  ∀ n e, freshStatus snapshot (worlds.get n) e = blockAnswer answer e

/-- The block is found committed in the edge. -/
def ValidEdge (worlds : Stream' NodeWorld) (b : Uint256) (anchor : DrivechainAnchor) : Prop :=
  ∃ n, ((worlds.get n).bmmReads b).status = .VALID ∧
    anchor = makeDrivechainAnchor ((worlds.get n).bmmReads b).context

/-- Edges that blocks are found committed in are answered active. -/
def EdgesActive (worlds : Stream' NodeWorld) : Prop :=
  ∀ b anchor, ValidEdge worlds b anchor → answer anchor = .ACTIVE

/-- The snapshot expires on the way. -/
def Expired (snapshot : Option DrivechainAnchorSnapshot) (worlds : Stream' NodeWorld) : Prop :=
  ∃ n, ¬SnapshotUsable snapshot (worlds.get n)

section Statement

variable (worlds : Stream' NodeWorld) (c c' : Chainstate)

/-- The block has another anchor now, the edge it was found committed in. -/
def BoundAnew (b : Uint256) (old new : CBlockIndex) : Prop :=
  ∃ anchor, new.drivechainAnchor = some anchor ∧ old.drivechainAnchor ≠ some anchor ∧
    ValidEdge worlds b anchor

/-- The block is answered active, or has been bound anew. -/
def FoundActive (b : Uint256) : Prop :=
  blockAnswer answer (c'.block b) = .ACTIVE ∨ BoundAnew worlds b (c.block b) (c'.block b)

/-- Only orphaned blocks are disconnected, from the end of the chain; only orphaned blocks off the
chain are bound anew, and no block fails. -/
structure PassSafe : Prop where
  /-- The chain has lost its orphaned end. -/
  disconnected : ∃ dropped, c.active = dropped ++ c'.active ∧
    ∀ b ∈ dropped, blockAnswer answer (c.block b) = .ORPHANED
  /-- Only orphaned blocks off the chain are bound anew. -/
  replaced : ∀ b, (c'.block b).drivechainAnchor ≠ (c.block b).drivechainAnchor →
    b ∉ c'.active ∧ blockAnswer answer (c.block b) = .ORPHANED ∧
      ∃ old new, (c.block b).drivechainAnchor = some old ∧
        (c'.block b).drivechainAnchor = some new ∧ old ≠ new ∧ new.IsSane ∧
        ((c.block b).nHeight = 1 ∨
          ∃ p previous, (c.block b).pprev = some p ∧ FoundActive answer worlds c c' p ∧
            (c'.block p).drivechainAnchor = some previous ∧ new.Follows previous)
  /-- No block fails. -/
  failed : ∀ b, (c'.block b).failed = (c.block b).failed

/-- The tip is active, or the pass has stalled at it; the candidates off the chain are supported. -/
structure PassEnded (t : Activation) : Prop where
  tip : ∀ b ∈ t.chain.tip, (t.chain.block b).nHeight ≠ 0 →
    blockAnswer answer (t.chain.block b) = .ACTIVE ∨
      t.stalled = true ∧ (blockAnswer answer (t.chain.block b) = .UNAVAILABLE ∨
        Expired c.anchorSnapshot worlds)
  /-- Candidates off the chain have branches that were found active. -/
  candidates : ∀ b ∈ t.chain.setBlockIndexCandidates, b ∉ t.chain.active →
    ∀ x ∈ t.chain.branch b, FoundActive answer worlds c t.chain x
  candidates_active : EdgesActive answer worlds → ∀ b ∈ t.chain.setBlockIndexCandidates,
    b ∉ t.chain.active → ∀ x ∈ t.chain.branch b, blockAnswer answer (t.chain.block x) = .ACTIVE

end Statement

section Proof

variable {answer} {worlds : Stream' NodeWorld} {c c' : Chainstate} {b : Uint256}

theorem FoundActive.active (h : FoundActive answer worlds c c' b)
    (hedges : EdgesActive answer worlds) : blockAnswer answer (c'.block b) = .ACTIVE := by
  obtain h | ⟨anchor, hnew, -, hvalid⟩ := h
  · exact h
  · unfold blockAnswer
    split_ifs
    · rfl
    · rw [hnew]
      exact hedges b anchor hvalid

variable (answer worlds c) in
/-- What a pass can say of a block. -/
def PassSays (b : Uint256) (e : CBlockIndex) (status : DrivechainAnchorStatus) : Prop :=
  status = blockAnswer answer e ∨
    status = .UNAVAILABLE ∧ Expired c.anchorSnapshot worlds ∨
    status = .ACTIVE ∧ BoundAnew worlds b (c.block b) e

theorem PassSays.orphaned {e : CBlockIndex} (h : PassSays answer worlds c b e .ORPHANED) :
    blockAnswer answer e = .ORPHANED := by
  obtain h | ⟨h, -⟩ | ⟨h, -⟩ := h
  · exact h.symm
  · exact absurd h nofun
  · exact absurd h nofun

theorem PassSays.unavailable {e : CBlockIndex} (h : PassSays answer worlds c b e .UNAVAILABLE) :
    blockAnswer answer e = .UNAVAILABLE ∨ Expired c.anchorSnapshot worlds := by
  obtain h | ⟨-, h⟩ | ⟨h, -⟩ := h
  · exact .inl h.symm
  · exact .inr h
  · exact absurd h nofun

theorem PassSays.active {e : CBlockIndex} (h : PassSays answer worlds c b e .ACTIVE) :
    blockAnswer answer e = .ACTIVE ∨ BoundAnew worlds b (c.block b) e := by
  obtain h | ⟨h, -⟩ | ⟨-, h⟩ := h
  · exact .inl h.symm
  · exact absurd h nofun
  · exact .inr h

/-- Of a block that has kept its anchor, a pass says what is answered. -/
theorem PassSays.active_unchanged (h : PassSays answer worlds c b (c.block b) .ACTIVE) :
    blockAnswer answer (c.block b) = .ACTIVE := by
  obtain h | ⟨anchor, hnew, hold, -⟩ := h.active
  · exact h
  · exact absurd hnew hold

theorem passStart_of_answersFixed (h : AnswersFixed answer c.anchorSnapshot worlds) :
    PassStart (PassSays answer worlds c) c { chain := c, worlds := worlds } where
  pass :=
    { sound := ⟨fun n _ e => .inl (h n e), fun n hn _ _ => .inr (.inl ⟨rfl, n, hn⟩)⟩
      snapshot_eq := rfl
      remembered := by simp }
  edges n b anchor hvalid hanchor hold := .inr (.inr ⟨rfl, anchor, rfl, hold, n, hvalid, hanchor⟩)
  chain := rfl
  blocksDisconnected := rfl
  stalled := rfl

theorem PassKept.passSafe (h : PassKept (PassSays answer worlds c) c c') :
    PassSafe answer worlds c c' where
  disconnected := by
    have hforest : c'.blocks.forest = c.blocks.forest := by
      ext b p
      · change (c'.block b).pprev = some p ↔ (c.block b).pprev = some p
        obtain ⟨anchor, hb⟩ := h.block b
        rw [hb]
      · change (c'.block b).nHeight = (c.block b).nHeight
        obtain ⟨anchor, hb⟩ := h.block b
        rw [hb]
    have hsuffix : c'.active <:+ c.active := by
      rw [Chainstate.active, hforest]
      exact Forest.chain_suffix h.tip
    obtain ⟨dropped, hdropped⟩ := hsuffix
    refine ⟨dropped, hdropped.symm, fun b hb => ?_⟩
    have hnodup : (dropped ++ c'.active).Nodup := hdropped ▸ Forest.nodup_chain _
    have hoff : b ∉ c'.active := fun hon => List.disjoint_of_nodup_append hnodup hb hon
    have hon : b ∈ c.active := hdropped ▸ List.mem_append_left _ hb
    exact (h.orphaned b hon hoff).2.orphaned
  replaced := by
    intro b hb
    obtain ⟨hoff, horphaned, old, new, hold, hnew, hne, hsane, hprev⟩ :=
      h.replaced b fun heq => hb (congrArg _ heq)
    refine ⟨hoff, horphaned.orphaned, old, new, hold, hnew, hne, hsane, ?_⟩
    cases hp : (c.block b).pprev with
    | none =>
      -- the first block is never orphaned
      have hzero : (c.block b).nHeight = 0 := c.blocks.nHeight_root b hp
      have hanswer := horphaned.orphaned
      rw [blockAnswer, if_pos hzero] at hanswer
      cases hanswer
    | some p =>
      have hheight : (c.block b).nHeight = (c.block p).nHeight + 1 := c.blocks.nHeight_pprev b p hp
      by_cases hzero : (c.block p).nHeight = 0
      · exact .inl (by rw [hheight, hzero])
      · obtain ⟨hactive, previous, hprevious, hfollows⟩ := hprev p hp hzero
        exact .inr ⟨p, previous, rfl, hactive.active, hprevious, hfollows⟩
  failed := by
    intro b
    obtain ⟨anchor, hb⟩ := h.block b
    rw [hb]

theorem PassDone.passEnded {t : Activation} (h : PassDone (PassSays answer worlds c) c t) :
    PassEnded answer worlds c t where
  tip := by
    intro b hb hheight
    have hon : b ∈ t.chain.active := by
      rw [Chainstate.active_tip hb]
      exact List.mem_cons_self
    rw [h.active_block b hon] at hheight ⊢
    exact (h.settled b hb hheight).imp (·.active_unchanged) fun hst => ⟨hst.1, hst.2.unavailable⟩
  candidates b hb hoff x hx := (h.supported b hb hoff x hx).active
  candidates_active hedges b hb hoff x hx :=
    FoundActive.active (h.supported b hb hoff x hx).active hedges

end Proof

/-- **Every pass is safe.**  Whether it ends or fails, it disconnects nothing but an orphaned end of
the chain, binds nothing anew but orphaned blocks off the chain, in good order, and marks nothing as
failed.  At its end the tip is active or the pass has stalled, and every candidate off the chain is
supported all the way down.  A pass whose snapshot is not current changes nothing. -/
theorem reconcile_safe {answer : DrivechainAnchor → DrivechainAnchorStatus} (c : Chainstate)
    (worlds : Stream' NodeWorld) (hfixed : AnswersFixed answer c.anchorSnapshot worlds) :
    Triple (· = { chain := c, worlds := worlds }) reconcileDrivechainAnchors
      (fun _ t => PassSafe answer worlds c t.chain ∧
        (SnapshotCurrent c.anchorSnapshot worlds → PassEnded answer worlds c t) ∧
        (¬SnapshotCurrent c.anchorSnapshot worlds → t.chain = c ∧ t.stalled = true))
      (fun t => PassSafe answer worlds c t.chain) := by
  rintro _ rfl
  have hstart := (passStart_of_answersFixed hfixed).checked
  rw [reconcileDrivechainAnchors_eq]
  split_ifs with hcurrent
  · refine reconcilePass_triple.mono (fun s hs => hs) (fun _ t ht => ?_) (fun t ht => ht.passSafe) _
      hstart
    exact ⟨ht.toPassKept.passSafe, fun _ => ht.passEnded, fun hn => absurd hcurrent hn⟩
  · have hchain := hstart.chain
    refine ⟨?_, fun hn => absurd hn hcurrent, fun _ => ⟨hchain, rfl⟩⟩
    refine ⟨⟨[], by rw [hchain, List.nil_append], nofun⟩, fun b hb => ?_, fun b => by rw [hchain]⟩
    rw [hchain] at hb
    exact absurd rfl hb

/-- Under one world for ever, without a snapshot, the answers are those of that world. -/
theorem answersFixed_const (w : NodeWorld) :
    AnswersFixed (fun anchor => anchorStatus anchor (w.anchorReads anchor)) none
      (Stream'.const w) := by
  intro n e
  unfold freshStatus blockAnswer
  cases e.drivechainAnchor with
  | none => rfl
  | some anchor => simp [Stream'.const, Stream'.get]

namespace Sample

/-- The anchor of the block. -/
def anchor : DrivechainAnchor where
  parentBlockHash := .ofByte 16
  bmmBlockHash := .ofByte 17
  parentChainwork := .ofByte 1
  bmmChainwork := .ofByte 2
  parentHeight := 5
  bmmHeight := 6
  parentMedianTimePast := 0

/-- A chain of one block above the first one. -/
def oneBlock : Chainstate :=
  let known := (Chainstate.loadGenesisBlock (.ofByte 1)).addToBlockIndex (.ofByte 2) (.ofByte 1)
  let stored := (known.receivedBlockTransactions (.ofByte 2)).setAnchor (.ofByte 2) anchor
  { stored with tip := some (.ofByte 2) }.pruneBlockIndexCandidates

/-- Another block is active at the height of `P`. -/
def reorganised : NodeWorld where
  anchorReads _ := { activeParentHash := some (.ofByte 18) }

/-- Another successor of `P` is active and commits to the block, but its header cannot be read. -/
def recommitted : NodeWorld where
  anchorReads _ :=
    { activeParentHash := some (.ofByte 16), activeSuccessorHash := some (.ofByte 18) }
  bmmReads _ :=
    { found := (.VALID,
        { parentHash := .ofByte 16
          parentChainwork := .ofByte 1
          parentHeight := 5
          bmmBlockHash := .ofByte 18
          bmmChainwork := .ofByte 2
          bmmHeight := 6 })
      activeParentHash := some (.ofByte 16)
      activeSuccessorHash := some (.ofByte 18) }

end Sample

open Sample

/-- An orphaned block is disconnected and stays out of the candidates. -/
theorem reconcile_safe_oneBlock :
    (∃ t ∈ returned reconcileDrivechainAnchors
        { chain := oneBlock, worlds := .const reorganised },
      t.chain.tip = some (.ofByte 1) ∧ .ofByte 2 ∉ t.chain.setBlockIndexCandidates) ∧
    Triple (· = { chain := oneBlock, worlds := .const reorganised })
      reconcileDrivechainAnchors
      (fun _ t => PassSafe (fun anchor => anchorStatus anchor (reorganised.anchorReads anchor))
          (.const reorganised) oneBlock t.chain ∧
        (SnapshotCurrent oneBlock.anchorSnapshot (.const reorganised) →
          PassEnded (fun anchor => anchorStatus anchor (reorganised.anchorReads anchor))
            (.const reorganised) oneBlock t) ∧
        (¬SnapshotCurrent oneBlock.anchorSnapshot (.const reorganised) →
          t.chain = oneBlock ∧ t.stalled = true))
      (fun t => PassSafe (fun anchor => anchorStatus anchor (reorganised.anchorReads anchor))
        (.const reorganised) oneBlock t.chain) :=
  ⟨by decide +kernel, reconcile_safe _ _ (answersFixed_const _)⟩

/-- The tip stays a candidate although the parent node does not answer for its anchor, and a block
that the pass has bound anew becomes one although the parent node does not answer for the new
anchor. -/
theorem candidates_unavailable :
    (∀ w, AnswersFixed (fun anchor => anchorStatus anchor (w.anchorReads anchor))
        oneBlock.anchorSnapshot (.const w) ∧
      SnapshotCurrent oneBlock.anchorSnapshot (.const w)) ∧
    (∃ t ∈ returned reconcileDrivechainAnchors { chain := oneBlock, worlds := .const {} },
      .ofByte 2 ∈ t.chain.setBlockIndexCandidates ∧
      blockAnswer (fun anchor => anchorStatus anchor {}) (t.chain.block (.ofByte 2)) =
        .UNAVAILABLE) ∧
    ∃ t ∈ returned reconcileDrivechainAnchors
        { chain := oneBlock, worlds := .const recommitted },
      .ofByte 2 ∈ t.chain.setBlockIndexCandidates ∧ .ofByte 2 ∉ t.chain.active ∧
      blockAnswer (fun anchor => anchorStatus anchor (recommitted.anchorReads anchor))
        (t.chain.block (.ofByte 2)) = .UNAVAILABLE :=
  ⟨fun w => ⟨answersFixed_const w, nofun⟩, by decide +kernel, by decide +kernel⟩

end ElementsDrivechain
