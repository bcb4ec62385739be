import ElementsDrivechain.Anchors.Scenario
import ElementsDrivechain.Anchors.Stored

/-!
# The chain is anchored in one parent chain

A pass stops at the first active anchor from the tip, and an anchor is compared with the one below
it by heights and work only.  What holds for the deeper blocks is an invariant of the node: blocks
are connected only after a pass has found their whole branch on one parent chain, so that on the
active chain the edges lie above each other in the tree of parent blocks.  An active tip then takes
its ancestors with it.

The invariant needs a pass to be answered from one parent chain.  A pass during which the parent
chain changes may find the tip on one parent chain and a candidate above it on another one.

* `Chainstate.supported_of_linked` : an active tip takes its ancestors with it.
* `NodeStep.anchored` : **every step keeps the invariant**, if passes are answered from one chain.
* `active_onParentChain` : **the active chain is anchored in the parent chain.**
-/

namespace ElementsDrivechain

open Effects Relation

variable {s : NodeState} {t : Activation} {oldTip : Option Uint256}

variable (parents : Forest Uint256) (parentTip : Uint256)

/-- The block is the first one, or its anchor is on the chain of the parent tip. -/
def OnParentChain (e : CBlockIndex) : Prop :=
  e.nHeight ≠ 0 → ∃ anchor, e.drivechainAnchor = some anchor ∧ anchor.OnChain parents parentTip
deriving Decidable

namespace Chainstate

variable (c : Chainstate)

/-- A block and all its ancestors are anchored in the chain of the parent tip. -/
def Supported (b : Uint256) : Prop :=
  ∀ x ∈ c.blocks.ancestry b, OnParentChain parents parentTip (c.block x)

/-- The edge of a block is an edge of the parent tree, above the edge of the predecessor. -/
def Linked (b : Uint256) : Prop :=
  (c.block b).nHeight ≠ 0 → ∃ anchor, (c.block b).drivechainAnchor = some anchor ∧
    parents.height anchor.parentBlockHash = anchor.parentHeight ∧
    parents.height anchor.bmmBlockHash = anchor.bmmHeight ∧
    anchor.parentBlockHash ∈ parents.ancestry anchor.bmmBlockHash ∧
    ∀ p, (c.block b).pprev = some p → (c.block p).nHeight ≠ 0 →
      ∃ previous, (c.block p).drivechainAnchor = some previous ∧
        previous.bmmBlockHash ∈ parents.ancestry anchor.parentBlockHash

/-- What the node has connected and what it may switch to is anchored in the chain of the parent
tip, and so is what it works towards. -/
structure Backed (goal : Option Uint256) : Prop where
  tip : ∀ t ∈ c.tip, c.Supported parents parentTip t
  candidate : ∀ b ∈ c.setBlockIndexCandidates, c.Supported parents parentTip b
  goal : ∀ m ∈ goal, c.Supported parents parentTip m

end Chainstate

variable {parents parentTip} {c c' : Chainstate} {b x m : Uint256}

namespace Chainstate

theorem Supported.ancestor (h : c.Supported parents parentTip b) (hx : x ∈ c.blocks.ancestry b) :
    c.Supported parents parentTip x :=
  fun y hy => h y (Forest.mem_ancestry_trans hx hy)

/-- **A supported block above linked ancestors takes them with it.** -/
theorem supported_of_linked (hlinked : ∀ x ∈ c.blocks.ancestry b, c.Linked parents x)
    (hb : OnParentChain parents parentTip (c.block b)) : c.Supported parents parentTip b := by
  unfold Supported BlockMap.ancestry
  unfold BlockMap.ancestry at hlinked
  induction b using c.blocks.forest.induction with
  | root b hp =>
    intro x hx
    rw [Forest.ancestry_root hp, List.mem_singleton] at hx
    exact hx ▸ hb
  | child b p hp ih =>
    rw [Forest.ancestry_parent hp] at hlinked ⊢
    intro x hx
    obtain rfl | hx := List.mem_cons.1 hx
    · exact hb
    refine ih (fun y hy => hlinked y (List.mem_cons_of_mem b hy)) (fun hpheight => ?_) x hx
    have hbheight : (c.block b).nHeight ≠ 0 := by
      have := c.blocks.nHeight_pprev b p hp
      change (c.block b).nHeight = (c.block p).nHeight + 1 at this
      omega
    -- both ends of the edge below are ancestors of the first end of the edge above
    obtain ⟨anchor, hanchor, -, -, -, hbelow⟩ := hlinked b List.mem_cons_self hbheight
    obtain ⟨anchor', hanchor', hon⟩ := hb hbheight
    obtain rfl : anchor = anchor' := Option.some.inj (hanchor.symm.trans hanchor')
    obtain ⟨previous, hprevious, habove⟩ := hbelow p hp hpheight
    obtain ⟨previous', hprevious', hpparent, hpbmm, hedge, -⟩ :=
      hlinked p (List.mem_cons_of_mem b (Forest.self_mem_ancestry p)) hpheight
    obtain rfl : previous = previous' := Option.some.inj (hprevious.symm.trans hprevious')
    have hbmm := Forest.mem_ancestry_trans hon.parent_mem habove
    exact ⟨previous, hprevious, Forest.mem_ancestry_trans hbmm hedge, hbmm, hpparent, hpbmm⟩

theorem linked_of_supported (h : c.Supported parents parentTip b) (hfits : c.AnchorFits b) :
    c.Linked parents b := by
  intro hheight
  obtain ⟨anchor, hanchor, hstep, hfollows⟩ := hfits hheight
  obtain ⟨anchor', hanchor', hon⟩ := h b (Forest.self_mem_ancestry b) hheight
  obtain rfl : anchor = anchor' := Option.some.inj (hanchor.symm.trans hanchor')
  refine ⟨anchor, hanchor, hon.parent_height, hon.bmm_height, hon.parent_mem_bmm hstep, ?_⟩
  intro p hp hpheight
  obtain ⟨previous, hprevious, hfollow⟩ := hfollows p hp hpheight
  obtain ⟨previous', hprevious', hon'⟩ := h p (Forest.parent_mem_ancestry hp) hpheight
  obtain rfl : previous = previous' := Option.some.inj (hprevious.symm.trans hprevious')
  exact ⟨previous, hprevious, hon.precedes hon' hfollow⟩

/-! ### Frames -/

theorem Supported.of_block (h : c.Supported parents parentTip b)
    (hancestry : c'.blocks.ancestry b = c.blocks.ancestry b)
    (hblock : ∀ x ∈ c.blocks.ancestry b, (c'.block x).nHeight = (c.block x).nHeight ∧
      (c'.block x).drivechainAnchor = (c.block x).drivechainAnchor) :
    c'.Supported parents parentTip b := by
  intro x hx
  rw [hancestry] at hx
  obtain ⟨hheight, hanchor⟩ := hblock x hx
  rw [OnParentChain, hheight, hanchor]
  exact h x hx

theorem Supported.of_flagged (h : c.Supported parents parentTip b)
    (hflagged : c.blocks.Flagged c'.blocks) : c'.Supported parents parentTip b := by
  refine h.of_block hflagged.sameTree.ancestry fun x _ => ⟨?_, hflagged.drivechainAnchor⟩
  exact congrArg BlockPosition.nHeight (hflagged.sameTree.position x)

theorem Linked.of_block (h : c.Linked parents b)
    (hb : (c'.block b).toBlockPosition = (c.block b).toBlockPosition ∧
      (c'.block b).drivechainAnchor = (c.block b).drivechainAnchor)
    (hp : ∀ p, (c.block b).pprev = some p → (c'.block p).nHeight = (c.block p).nHeight ∧
      (c'.block p).drivechainAnchor = (c.block p).drivechainAnchor) : c'.Linked parents b := by
  intro hheight
  rw [hb.1] at hheight
  obtain ⟨anchor, hanchor, hparent, hbmm, hedge, hbelow⟩ := h hheight
  refine ⟨anchor, hb.2.trans hanchor, hparent, hbmm, hedge, fun p hpprev hpheight => ?_⟩
  rw [hb.1] at hpprev
  rw [(hp p hpprev).1] at hpheight
  obtain ⟨previous, hprevious, habove⟩ := hbelow p hpprev hpheight
  exact ⟨previous, (hp p hpprev).2.trans hprevious, habove⟩

theorem Linked.of_flagged (h : c.Linked parents b) (hflagged : c.blocks.Flagged c'.blocks) :
    c'.Linked parents b :=
  h.of_block ⟨hflagged.sameTree.position b, hflagged.drivechainAnchor⟩ fun p _ =>
    ⟨congrArg BlockPosition.nHeight (hflagged.sameTree.position p), hflagged.drivechainAnchor⟩

end Chainstate

/-- Every block of the active chain lies above its predecessor. -/
def LinkedChain (parents : Forest Uint256) (c : Chainstate) : Prop :=
  ∀ b ∈ c.active, c.Linked parents b

section Pass

/-- Whatever is called active is on the chain of the parent tip. -/
def SaysOnChain (parents : Forest Uint256) (parentTip _b : Uint256) (e : CBlockIndex)
    (status : DrivechainAnchorStatus) : Prop :=
  status = .ACTIVE → OnParentChain parents parentTip e

/-- The anchors of the snapshot are on the chain of its tip. -/
def SnapshotOnChain (parents : Forest Uint256) (snapshot : DrivechainAnchorSnapshot) : Prop :=
  ∀ anchor ∈ snapshot.activeAnchors, anchor.OnChain parents snapshot.parentTip

/-- A pass that is answered from one parent chain calls nothing else active. -/
theorem passStart_onChain {worlds : Stream' NodeWorld}
    (hsees : ∀ n, Sees parents {parentTip} (worlds.get n))
    (hsnapshot : ∀ σ ∈ s.chain.anchorSnapshot, SnapshotOnChain parents σ)
    (hcurrent : SnapshotCurrent s.chain.anchorSnapshot worlds) :
    PassStart (SaysOnChain parents parentTip) s.chain (s.start worlds) := by
  have htip : ∀ σ ∈ s.chain.anchorSnapshot, σ.parentTip = parentTip := by
    intro σ hσ
    obtain ⟨-, ⟨tip, hbest, -, hmatches⟩, -⟩ := hcurrent σ hσ
    exact hmatches.2.1.trans ((hsees 1).best tip hbest)
  have hfresh : ∀ n b e, SaysOnChain parents parentTip b e
      (freshStatus s.chain.anchorSnapshot (worlds.get n) e) := by
    intro n b e hactive hheight
    rw [freshStatus, if_neg hheight] at hactive
    cases hanchor : e.drivechainAnchor with
    | none => simp [hanchor] at hactive
    | some anchor =>
      simp only [hanchor] at hactive
      refine ⟨anchor, rfl, ?_⟩
      split_ifs at hactive with hcontains
      · obtain ⟨σ, hσ, hcontains⟩ := hcontains
        exact htip σ hσ ▸ hsnapshot σ hσ anchor hcontains.2.2
      · exact (hsees n).onChain_of_active hactive
  refine ⟨⟨⟨hfresh, fun _ _ _ _ => nofun⟩, rfl, fun b status hb => ?_⟩, ?_, rfl, rfl, rfl⟩
  · simp [NodeState.start] at hb
  · rintro n b _ hvalid rfl - - -
    exact ⟨_, rfl, (hsees n).onChain_of_valid hvalid⟩

variable {Says : Verdicts}

theorem PassKept.active_subset (h : PassKept Says c c') (hx : x ∈ c'.active) : x ∈ c.active := by
  rw [Chainstate.active, h.sameTree.forest] at hx
  exact (Forest.chain_suffix h.tip).subset hx

theorem PassKept.block_pprev (h : PassKept Says c c') {p : Uint256} (hb : b ∈ c'.active)
    (hp : (c'.block b).pprev = some p) : c'.block p = c.block p :=
  h.active_block p (Forest.mem_chain_trans hb (Forest.parent_mem_ancestry hp))

theorem PassKept.linkedChain (h : PassKept Says c c') (hlinked : LinkedChain parents c) :
    LinkedChain parents c' := by
  intro b hb
  have hblock := h.active_block b hb
  refine (hlinked b (h.active_subset hb)).of_block (by rw [hblock]; exact ⟨rfl, rfl⟩) fun p hp => ?_
  rw [h.block_pprev hb (by rw [hblock]; exact hp)]
  exact ⟨rfl, rfl⟩

theorem PassKept.supported (h : PassKept Says c c')
    (hsupported : ∀ t ∈ c.tip, c.Supported parents parentTip t) :
    ∀ t ∈ c'.tip, c'.Supported parents parentTip t := by
  intro t ht x hx
  have hx' : x ∈ c'.active := Chainstate.mem_active.2 ⟨t, ht, hx⟩
  rw [h.active_block x hx']
  obtain ⟨t₀, ht₀, hx₀⟩ := Chainstate.mem_active.1 (h.active_subset hx')
  exact hsupported t₀ ht₀ x hx₀

/-- **Behind a pass that has not stalled everything is anchored in the parent chain.** -/
theorem PassDone.backed (h : PassDone (SaysOnChain parents parentTip) c t)
    (hlinked : LinkedChain parents c) (hstalled : t.stalled = false) :
    t.chain.Backed parents parentTip none := by
  have htip : ∀ t' ∈ t.chain.tip, t.chain.Supported parents parentTip t' := by
    intro t' ht'
    have hmem : ∀ x ∈ t.chain.blocks.ancestry t', x ∈ t.chain.active :=
      fun x hx => Chainstate.mem_active.2 ⟨t', ht', hx⟩
    refine Chainstate.supported_of_linked
      (fun x hx => h.toPassKept.linkedChain hlinked x (hmem x hx)) fun hheight => ?_
    have hblock := h.active_block t' (hmem t' (Forest.self_mem_ancestry t'))
    rw [hblock] at hheight ⊢
    obtain hactive | ⟨hn, -⟩ := h.settled t' ht' hheight
    · exact hactive rfl hheight
    · exact absurd (hstalled.symm.trans hn) nofun
  refine ⟨htip, fun b hb x hx => ?_, nofun⟩
  by_cases hactive : x ∈ t.chain.active
  · obtain ⟨t', ht', hx'⟩ := Chainstate.mem_active.1 hactive
    exact htip t' ht' x hx'
  · have hoff : b ∉ t.chain.active := fun hb' => hactive (Forest.mem_chain_trans hb' hx)
    exact h.supported b hb hoff x (Forest.mem_branch.2 ⟨hx, hactive⟩) rfl

end Pass

/-! ### Activation -/

/-- What is kept while the node works towards a block. -/
structure Climbing (parents : Forest Uint256) (parentTip : Uint256) (goal : Option Uint256)
    (c : Chainstate) : Prop extends c.Backed parents parentTip goal where
  linked : LinkedChain parents c

theorem ActivateMove.climbing (h : ActivateMove oldTip m c c')
    (hc : Climbing parents parentTip (some m) c) : Climbing parents parentTip (some m) c' := by
  cases h with
  | @disconnect t _ htip _ _ =>
    have hbelow : ∀ p, (c.block t).pprev = some p → p ∈ c.blocks.ancestry t :=
      fun p hp => Forest.parent_mem_ancestry hp
    refine ⟨⟨fun p hp => ?_, hc.candidate, hc.goal⟩, fun x hx => ?_⟩
    · exact (hc.tip t htip).ancestor (hbelow p hp)
    · obtain ⟨p, hp, hx⟩ := Chainstate.mem_active.1 hx
      exact hc.linked x (Chainstate.mem_active.2
        ⟨t, htip, Forest.mem_ancestry_trans (hbelow p hp) hx⟩)
  | @connect b hb htip hanchor =>
    have hsupported : c.Supported parents parentTip b := (hc.goal m rfl).ancestor hb
    refine ⟨⟨fun t ht => ?_, fun x hx => ?_, hc.goal⟩, fun x hx => ?_⟩
    · obtain rfl := Option.some.inj ht
      exact hsupported
    · exact hc.candidate x (OrdSet.mem_filter_iff.1 hx).1
    · obtain ⟨t, ht, hx⟩ := Chainstate.mem_active.1 hx
      obtain rfl := Option.some.inj ht
      obtain rfl | ⟨p, hp, hx⟩ := Forest.mem_ancestry.1 hx
      · exact Chainstate.linked_of_supported hsupported hanchor
      · exact hc.linked x (Chainstate.mem_active.2 ⟨p, htip.trans hp, hx⟩)

theorem Climbing.of_flagged {goal : Option Uint256} (hc : Climbing parents parentTip goal c)
    (hflagged : c.blocks.Flagged c'.blocks) (htip : c'.tip = c.tip)
    (hcandidate : ∀ b ∈ c'.setBlockIndexCandidates, b ∈ c.setBlockIndexCandidates) :
    Climbing parents parentTip goal c' := by
  refine ⟨⟨fun t ht => ?_, fun b hb => ?_, fun m hm => ?_⟩, fun b hb => ?_⟩
  · exact (hc.tip t (htip ▸ ht)).of_flagged hflagged
  · exact (hc.candidate b (hcandidate b hb)).of_flagged hflagged
  · exact (hc.goal m hm).of_flagged hflagged
  · rw [Chainstate.active_eq_of_sameTree hflagged.sameTree htip] at hb
    exact (hc.linked b hb).of_flagged hflagged

theorem StepDone.climbing (h : StepDone oldTip m c t) (hc : Climbing parents parentTip (some m) c) :
    Climbing parents parentTip (some m) t.chain := by
  refine h.invariant hc (fun _ _ hc hmove => hmove.climbing hc) ?_ ?_
  · intro c b hc _ _
    exact hc.of_flagged flagged_invalidBlockFound rfl fun x hx => (OrdSet.mem_erase_iff.1 hx).2
  · intro c b hc _ _
    exact hc.of_flagged (.refl _) rfl fun x hx => (OrdSet.mem_erase_iff.1 hx).2

theorem StepDone.anchorSnapshot (h : StepDone oldTip m c t) :
    t.chain.anchorSnapshot = c.anchorSnapshot := by
  refine h.invariant rfl ?_ ?_ ?_
  · intro c₁ c₂ hc hmove
    rw [← hc]
    cases hmove <;> rfl
  · exact fun _ _ hc _ _ => hc
  · exact fun _ _ hc _ _ => hc

theorem Chosen.climbing {loop : ActivationLoop} {r : Option Uint256} (h : Chosen loop c r c')
    (hc : Climbing parents parentTip loop.mostWork c) : Climbing parents parentTip r c' := by
  cases h with
  | kept h => exact h ▸ hc
  | found _ h =>
    refine Climbing.of_flagged ⟨⟨hc.tip, hc.candidate, fun m hm => ?_⟩, hc.linked⟩ h.flagged h.tip
      h.candidate
    exact hc.candidate m (h.candidate m (h.mem m hm))

/-! ### The node -/

/-- The chain a node has, and what it may switch to. -/
structure NodeState.Anchored (parents : Forest Uint256) (s : NodeState) : Prop where
  stored : s.Stored
  linked : LinkedChain parents s.chain
  snapshot : ∀ σ ∈ s.chain.anchorSnapshot, SnapshotOnChain parents σ
  /-- The loop works with what the last pass has found on one parent chain. -/
  loop : ∀ loop ∈ s.loop, ∃ parentTip, (s.settled = true → parentTip = s.parentTip) ∧
    s.chain.Backed parents parentTip loop.mostWork
  settled : s.settled = true → ∀ t ∈ s.chain.tip, s.chain.Supported parents s.parentTip t

theorem NodeMove.anchored {s' : NodeState} (h : NodeMove (SaysOnChain parents s.parentTip)
      (fun σ => σ.parentTip = s.parentTip ∧ SnapshotOnChain parents σ) s s')
    (hs : s.Anchored parents) : s'.Anchored parents := by
  have hstored := h.stored hs.stored
  cases h with
  | accepted hidle h =>
    have hu := untouched_of_moves hs.stored.chain h
    refine ⟨hstored, fun b hb => ?_, ?_, fun loop hl => ?_, fun hsettled t ht => ?_⟩
    · rw [hu.active_eq hs.stored.chain] at hb
      have hblock := hu.block b (hs.stored.chain.active hb)
      refine (hs.linked b hb).of_block (by rw [hblock]; exact ⟨rfl, rfl⟩) fun p hp => ?_
      rw [hu.block p (hs.stored.chain.predecessor b p hp)]
      exact ⟨rfl, rfl⟩
    · rw [hu.anchorSnapshot]
      exact hs.snapshot
    · cases hidle.symm.trans hl
    · rw [hu.tip] at ht
      have hdata := hs.stored.chain.tip t ht
      refine (hs.settled hsettled t ht).of_block (hu.ancestry t hdata) fun x hx => ?_
      rw [hu.block x (hs.stored.chain.ancestor hdata hx)]
      exact ⟨rfl, rfl⟩
  | prepared hidle h =>
    refine ⟨hstored, hs.linked, fun σ hσ => ?_, fun loop hl => ?_, hs.settled⟩
    · obtain rfl | h := h
      · exact hs.snapshot σ hσ
      · exact (h σ hσ).2
    · cases hidle.symm.trans hl
  | reconciled hidle h =>
    cases h with
    | @done t h =>
      refine ⟨hstored, h.toPassKept.linkedChain hs.linked, ?_, fun loop hl => ?_,
        fun hsettled => ?_⟩
      · rw [h.anchorSnapshot]
        exact hs.snapshot
      · simp only at hl
        split_ifs at hl with hstalled
        · cases hl
        · obtain rfl := Option.some.inj hl
          exact ⟨s.parentTip, fun _ => rfl, h.backed hs.linked (by simpa using hstalled)⟩
      · cases hstalled : t.stalled with
        | false => exact (h.backed hs.linked hstalled).tip
        | true =>
          refine h.toPassKept.supported (hs.settled ?_)
          simpa [hstalled] using hsettled
    | idle => exact ⟨hstored, hs.linked, hs.snapshot, nofun, hs.settled⟩
    | failed h =>
      refine ⟨hstored, h.linkedChain hs.linked, ?_, fun loop hl => ?_, fun hsettled => ?_⟩
      · rw [h.anchorSnapshot]
        exact hs.snapshot
      · cases hidle.symm.trans hl
      · exact h.supported (hs.settled hsettled)
  | activated hloop h =>
    obtain ⟨parentTip, htip, hbacked⟩ := hs.loop _ hloop
    have hclimbing : Climbing parents parentTip _ s.chain := ⟨hbacked, hs.linked⟩
    cases h with
    | idle hchosen h =>
      have hc := hchosen.climbing hclimbing
      rw [← h] at hc
      refine ⟨hstored, hc.linked, ?_, nofun, fun hsettled => htip hsettled ▸ hc.tip⟩
      rw [h, hchosen.discarded.anchorSnapshot]
      exact hs.snapshot
    | step hchosen h hnext =>
      have hc := h.climbing (hchosen.climbing hclimbing)
      refine ⟨hstored, hc.linked, ?_, fun l hl => ?_, fun hsettled => htip hsettled ▸ hc.tip⟩
      · rw [h.anchorSnapshot, hchosen.discarded.anchorSnapshot]
        exact hs.snapshot
      · refine ⟨parentTip, htip, hc.tip, hc.candidate, fun m' hm' => ?_⟩
        obtain ⟨-, hmost | ⟨hmost, -⟩⟩ := hnext l hl
        · cases hmost.symm.trans hm'
        · exact hc.goal m' (hmost.symm.trans hm')

/-- The parent chain does not change while the node compares its anchors with it. -/
def NodeEvent.ParentSteady : NodeEvent → Prop
  | .call .reconcile view _ => view = .fixed
  | .call .prepareSnapshot view _ => view = .fixed
  | _ => True

theorem additive_onChain :
    Additive (Sees parents {parentTip})
      (fun σ => σ.parentTip = parentTip ∧ SnapshotOnChain parents σ) where
  new w hw tip htip epoch := ⟨hw.best tip htip, nofun⟩
  add w hw σ anchor hσ hactive := by
    refine ⟨hσ.1, fun a ha => ?_⟩
    obtain rfl | ha := List.mem_cons.1 ha
    · exact hσ.1 ▸ hw.onChain_of_active hactive
    · exact hσ.2 a ha

/-- **Every step keeps the invariant**, if the parent chain is steady during passes. -/
theorem NodeStep.anchored {s' : NodeState} {e : NodeEvent} (h : NodeStep parents s e s')
    (hsteady : e.ParentSteady) (hs : s.Anchored parents) : s'.Anchored parents := by
  have hparent : ∀ s : NodeState, ∀ tip, s.Anchored parents →
      NodeState.Anchored parents { s with parentTip := tip, settled := false } := by
    intro s tip hs
    refine ⟨⟨hs.stored.chain, hs.stored.mostWork⟩, hs.linked, hs.snapshot, fun loop hl => ?_, nofun⟩
    obtain ⟨parentTip, -, hbacked⟩ := hs.loop loop hl
    exact ⟨parentTip, nofun, hbacked⟩
  cases h with
  | reorganised tip => exact hparent s tip hs
  | released => exact ⟨⟨hs.stored.chain, nofun⟩, hs.linked, hs.snapshot, nofun, hs.settled⟩
  | @call call view worlds hallowed hseen =>
    have hfixed : call = .prepareSnapshot ∨ call = .reconcile →
        ∀ n, Sees parents {s.parentTip} (worlds.get n) := by
      rintro (rfl | rfl)
      all_goals
        obtain rfl : view = .fixed := hsteady
        exact hseen
    have hperformed : (s.performed worlds call).Anchored parents :=
      (NodeState.performed_move hallowed additive_onChain (fun hc => hfixed (.inl hc))
        fun hc => passStart_onChain (hfixed (.inr hc)) hs.snapshot).anchored hs
    cases view with
    | fixed => exact hperformed
    | changing tip => exact hparent _ tip hperformed

theorem anchored_initial (genesis tip : Uint256) :
    (NodeState.initial genesis tip).Anchored parents := by
  refine ⟨stored_initial genesis tip, fun b hb => ?_, nofun, nofun, nofun⟩
  obtain ⟨t, ht, -⟩ := Chainstate.mem_active.1 hb
  exact absurd ht nofun

/-- **The active chain is anchored in the parent chain**: after every run in which the parent chain
is steady during passes, if a pass has ended without a stall and the parent chain has not changed
since. -/
theorem active_onParentChain {genesis tip : Uint256} {events : List NodeEvent}
    (hrun : Run (NodeStep parents) (.initial genesis tip) events s)
    (hsteady : ∀ e ∈ events, e.ParentSteady) (hsettled : s.settled = true) :
    ∀ b ∈ s.chain.active, OnParentChain parents s.parentTip (s.chain.block b) := by
  have hanchored : s.Anchored parents := by
    refine hrun.history (fun _ => anchored_initial genesis tip)
      (fun events s e s' _ ih hstep hsteady => ?_) hsteady
    refine hstep.anchored (hsteady e (by simp)) (ih fun e he => hsteady e ?_)
    exact List.mem_append_left _ he
  intro b hb
  obtain ⟨t, ht, hb⟩ := Chainstate.mem_active.1 hb
  exact hanchored.settled hsettled t ht b hb

/-! ### Two parent chains -/

namespace Sample

/-- Two parent chains above one first block: blocks, their predecessors and heights. -/
def parentTable : List (Uint256 × Uint256 × ℕ) :=
  [(.ofByte 17, .ofByte 16, 1), (.ofByte 18, .ofByte 17, 2), (.ofByte 19, .ofByte 18, 3),
    (.ofByte 20, .ofByte 19, 4), (.ofByte 21, .ofByte 20, 5),
    (.ofByte 33, .ofByte 16, 1), (.ofByte 34, .ofByte 33, 2), (.ofByte 35, .ofByte 34, 3),
    (.ofByte 36, .ofByte 35, 4), (.ofByte 37, .ofByte 36, 5), (.ofByte 38, .ofByte 37, 6)]

/-- Each of the two chains commits to one sidechain block. -/
def twoChains : ParentNode where
  parents := .ofTable parentTable (by decide +kernel)
  chainwork hash := .ofByte (.ofNat (Forest.tableHeight parentTable hash + 1))
  commits b :=
    if b = .ofByte 2 then [.ofByte 18] else if b = .ofByte 3 then [.ofByte 36] else []

/-- The first block above genesis arrives, is connected and is found anchored. -/
def oneBlockConnected : List Scene :=
  [.call .reconcile, .call .activate, .call (.acceptBlock (.ofByte 2) (.ofByte 1)),
    .call .reconcile, .call .activate, .call .reconcile, .call .activate]

/-- A second block arrives while the other parent chain is ahead.  The parent chain of the first one
takes the lead again, and loses it during a pass: the pass finds both blocks anchored, each on its
own chain. -/
def tornPass : List Scene :=
  [.reorganised (.ofByte 36), .call (.acceptBlock (.ofByte 3) (.ofByte 2)),
    .reorganised (.ofByte 21), .torn .reconcile 2 (.ofByte 38), .call .activate, .call .reconcile]

end Sample

open Sample

/-- The chain of one block is anchored in the parent chain. -/
theorem active_onParentChain_oneBlock :
    ∃ s ∈ twoChains.play (.initial (.ofByte 1) (.ofByte 18)) oneBlockConnected,
      .ofByte 2 ∈ s.chain.active ∧
      ∀ b ∈ s.chain.active,
        OnParentChain twoChains.parents s.parentTip (s.chain.block b) := by
  obtain ⟨s, hs, hsettled, hmem⟩ : ∃ s ∈ twoChains.play (.initial (.ofByte 1) (.ofByte 18))
      oneBlockConnected, s.settled = true ∧ .ofByte 2 ∈ s.chain.active := by
    decide +kernel
  obtain ⟨events, hrun, hevents⟩ := ParentNode.run_play hs
  refine ⟨s, hs, hmem, active_onParentChain hrun (fun e he => ?_) hsettled⟩
  obtain ⟨u, scene, hscene, rfl⟩ := hevents e he
  have hcall : ∀ scene ∈ oneBlockConnected, ∃ call, scene = .call call := by
    simp [oneBlockConnected]
  obtain ⟨call, rfl⟩ := hcall scene hscene
  cases call <;> trivial

/-- A pass during which the parent chain changes leaves a block anchored in the wrong chain, and the
next pass does not find it. -/
theorem torn_pass_not_onParentChain :
    ∃ events s, Run (NodeStep twoChains.parents) (.initial (.ofByte 1) (.ofByte 18)) events s ∧
      s.settled = true ∧
      ∃ b ∈ s.chain.active,
        ¬OnParentChain twoChains.parents s.parentTip (s.chain.block b) := by
  obtain ⟨s, hs, hsettled, hb⟩ : ∃ s ∈ twoChains.play (.initial (.ofByte 1) (.ofByte 18))
      (oneBlockConnected ++ tornPass), s.settled = true ∧ ∃ b ∈ s.chain.active,
        ¬OnParentChain twoChains.parents s.parentTip (s.chain.block b) := by
    decide +kernel
  obtain ⟨events, hrun, -⟩ := ParentNode.run_play hs
  exact ⟨events, s, hrun, hsettled, hb⟩

end ElementsDrivechain
