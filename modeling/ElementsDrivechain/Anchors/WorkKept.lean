import Mathlib.Order.WithBot
import ElementsDrivechain.Anchors.Scenario
import ElementsDrivechain.Anchors.Stored

/-!
# The work of the active chain

A step towards a better branch first disconnects down to the fork and only then asks the parent
chain for the blocks of the branch.  When the parent node does not answer there, the block is
suppressed and the call returns where it stands: at the fork, or at a block of the new branch with
less work than the chain that has been given up.

So a round keeps the work of the active chain when it extends that chain, or when, at every question
of the call, the blocks of the new branch can be connected up to one with no less work: they can be
read, the parent chain commits to them in the edge of their anchor, and their peg-ins are old
enough.  A pass keeps it when it does not find the anchor of the tip orphaned.

* `connectTip_steady` : a block connects when it can be connected.
* `tipWork_kept` : **a run of supported events keeps the work.**
* `work_lost_to_unavailable_parent` : a call that loses work, while nothing is orphaned or invalid.
-/

namespace ElementsDrivechain

open Effects Relation

/-! ### Work -/

/-- The work of the chain below a tip. -/
def BlockMap.work (m : BlockMap) : Option Uint256 → WithBot ℕ
  | none => ⊥
  | some t => (m.block t).nChainWork

/-- The work of the active chain. -/
def Chainstate.tipWork (c : Chainstate) : WithBot ℕ := c.blocks.work c.tip

variable {c c' : Chainstate} {b m : Uint256} {oldTip : Option Uint256} {old : WithBot ℕ}

theorem BlockMap.SameTree.work_eq {m m' : BlockMap} (h : m.SameTree m') (tip : Option Uint256) :
    m'.work tip = m.work tip := by
  cases tip with
  | none => rfl
  | some t => rw [work, work, h.position]

theorem Chainstate.tipWork_eq_of_sameTree (h : c.blocks.SameTree c'.blocks)
    (htip : c'.tip = c.tip) : c'.tipWork = c.tipWork := by
  rw [tipWork, htip, h.work_eq, tipWork]

theorem BlockMap.work_pprev_lt (m : BlockMap) (b : Uint256) :
    m.work (m.block b).pprev < m.work (some b) := by
  cases hp : (m.block b).pprev with
  | none => exact WithBot.bot_lt_coe _
  | some p => exact WithBot.coe_lt_coe.2 (m.nChainWork_pprev b p hp)

theorem Chainstate.BetterThan.work_le (h : c.BetterThan oldTip) :
    c.blocks.work oldTip ≤ c.tipWork := by
  cases oldTip with
  | none => exact bot_le
  | some old =>
    obtain ⟨t, htip, hlt⟩ := h old rfl
    rw [tipWork, htip]
    exact WithBot.coe_le_coe.2 hlt.le

/-! ### Blocks that connect -/

/-- Nothing that the node finds out keeps a block from being connected. -/
@[mk_iff] structure BlockMap.Connectable (m : BlockMap) (b : Uint256) (w : NodeWorld) : Prop where
  readBlock : w.readBlock = true
  criticalHash : w.criticalHash = true
  peginsRipe : w.peginsRipe = true
  /-- `ConnectBlock` finds nothing else that is wrong with the block. -/
  connectBlock : w.connectBlock = .connected
  committed : (m.block b).nHeight ≠ 0 → (w.bmmReads b).status = .VALID
  /-- The block is bound to the edge it is committed in now. -/
  anchor : (m.block b).nHeight ≠ 0 →
    (m.block b).drivechainAnchor = some (makeDrivechainAnchor (w.bmmReads b).context)
  /-- The anchor could follow that of the predecessor. -/
  ordered : ∀ anchor ∈ (m.block b).drivechainAnchor, anchor.IsSane ∧
    ∀ p ∈ (m.block b).pprev,
      (0 < (m.block p).nHeight → (m.block p).drivechainAnchor ≠ none) ∧
      ∀ previous ∈ (m.block p).drivechainAnchor, anchor.Follows previous

instance (m : BlockMap) (b : Uint256) (w : NodeWorld) : Decidable (m.Connectable b w) :=
  decidable_of_iff _ (m.connectable_iff b w).symm

theorem BlockMap.Connectable.of_flagged {m m' : BlockMap} {w : NodeWorld} (h : m.Connectable b w)
    (hflagged : m.Flagged m') : m'.Connectable b w := by
  have hposition := hflagged.sameTree.position
  refine ⟨h.readBlock, h.criticalHash, h.peginsRipe, h.connectBlock, ?_, ?_, ?_⟩
  · rw [hposition]
    exact h.committed
  · rw [hposition, hflagged.drivechainAnchor]
    exact h.anchor
  · simp only [hposition, hflagged.drivechainAnchor]
    exact h.ordered

section Connect

variable {Good : NodeWorld → Prop} {E : Activation → Prop}

theorem connectAnchor_steady {w : NodeWorld} (h : ∀ w, Good w → c.blocks.Connectable b w)
    (hw : Good w) (hheight : (c.block b).nHeight ≠ 0) :
    Triple (Steady Good c) (connectAnchor b (w.bmmReads b).context) (fun _ => Steady Good c) E := by
  have hanchor := (h w hw).anchor hheight
  obtain ⟨hsane, hordered⟩ := (h w hw).ordered _ hanchor
  refine .bind_and world_steady fun derived hderived => ?_
  refine .bind (.failIf_pass (by simp [(h derived hderived).criticalHash])) fun _ => ?_
  refine get_again fun s hs => ?_
  obtain rfl := hs.chain
  refine .bind (.failIf_pass (not_not.2 hsane)) fun _ => ?_
  refine .bind (.failIf_pass ?_) fun _ => ?_
  · rw [Chainstate.block, hanchor]
    simp
  refine .bind (.failIf_pass (not_not.2 hanchor)) fun _ => ?_
  refine .bind (.failIf_pass ?_) fun _ => .failIf_pass ?_
  · rintro ⟨p, hp, hpos, hnone⟩
    exact (hordered p hp).1 hpos hnone
  · rintro ⟨p, hp, previous, hprevious, hnot⟩
    exact hnot ((hordered p hp).2 previous hprevious)

theorem connectChecked_steady (h : ∀ w, Good w → c.blocks.Connectable b w) :
    Triple (Steady Good c) (connectChecked b)
      (fun outcome s => Steady Good { c with tip := some b } s ∧ outcome = .connected) E := by
  refine .bind_and world_steady fun w hw => ?_
  simp only [(h w hw).connectBlock]
  refine .bind (onChain_triple fun s hs => ?_) fun _ => .pure fun s hs => ⟨hs, rfl⟩
  obtain rfl := hs.chain
  exact ⟨rfl, hs.worlds⟩

/-- **A block connects** if nothing the node may find out keeps it from that. -/
theorem connectTip_steady (h : ∀ w, Good w → c.blocks.Connectable b w) :
    Triple (Steady Good c) (connectTip b)
      (fun outcome s => Steady Good { c with tip := some b } s ∧ outcome = .connected) E := by
  have hblock : ∀ context : Option DrivechainBmmBlockContext,
      (∀ x ∈ context, Triple (Steady Good c) (connectAnchor b x) (fun _ => Steady Good c) E) →
      Triple (Steady Good c) (connectTipBlock b context)
        (fun outcome s => Steady Good { c with tip := some b } s ∧ outcome = .connected) E := by
    intro context hcontext
    refine .bind_and world_steady fun parent hparent => ?_
    rw [if_neg (by simp [(h parent hparent).peginsRipe])]
    cases context with
    | none => exact connectChecked_steady h
    | some context =>
      exact .bind (hcontext context rfl) fun _ => connectChecked_steady h
  refine .bind_and world_steady fun disk hdisk => ?_
  refine .bind (.failIf_pass (by simp [(h disk hdisk).readBlock])) fun _ => ?_
  refine get_again fun s hs => ?_
  obtain rfl := hs.chain
  refine .ite (fun _ => hblock none nofun) fun hheight => ?_
  refine .bind_and world_steady fun derived hderived => ?_
  refine .bind (.failIf_pass (by simp [(h derived hderived).criticalHash])) fun _ => ?_
  refine .bind_and world_steady fun w hw => ?_
  simp only [(h w hw).committed hheight]
  refine hblock _ fun x hx => ?_
  obtain rfl := Option.some.inj hx
  exact connectAnchor_steady h hw hheight

end Connect

/-! ### A step towards a branch -/

/-- At every moment of a switch to a branch the tip can be disconnected, and the blocks of the
branch can be connected as long as there is less work than before. -/
def SwitchReady (c : Chainstate) (m : Uint256) (w : NodeWorld) : Prop :=
  w.disconnectTip = true ∧ ∀ b ∈ c.branch m, c.blocks.work (c.block b).pprev < c.tipWork →
    c.blocks.Connectable b w
deriving Decidable

/-- A step towards a branch extends the active chain; or the branch has no less work, and at every
question on the way the answers allow the switch. -/
def StepSupported (c : Chainstate) (worlds : Stream' NodeWorld) (m : Uint256) : Prop :=
  c.findFork m = c.tip ∨
    c.tipWork ≤ c.blocks.work (some m) ∧ ∀ n, SwitchReady c m (worlds.get n)

theorem Chainstate.tipWork_invalidBlockFound : (c.invalidBlockFound b).tipWork = c.tipWork :=
  tipWork_eq_of_sameTree flagged_invalidBlockFound.sameTree rfl

/-- Connecting along a path that climbs from the tip loses no work. -/
theorem connectPath_tipWork (l : List Uint256) (c : Chainstate)
    (h : c.blocks.forest.Climbs c.tip l) (hold : old ≤ c.tipWork) :
    Triple (Unchanged c) (connectPath oldTip l) (fun _ s => old ≤ s.chain.tipWork)
      (fun s => old ≤ s.chain.tipWork) := by
  have hstay : ∀ s : Activation, s.chain.tipWork = c.tipWork → old ≤ s.chain.tipWork :=
    fun s hs => hold.trans hs.ge
  induction l generalizing c with
  | nil => exact .pure fun s hs => hstay s (congrArg _ hs)
  | cons b rest ih =>
    obtain ⟨hpprev, hclimbs⟩ := h
    refine .bind (connectTip_triple.mono (fun _ hs => hs) (fun _ _ hs => hs)
      fun s hs => hstay s (congrArg _ hs)) fun outcome => ?_
    cases outcome with
    | invalid =>
      refine .modify fun s hs => hstay _ ?_
      obtain hs | hs := hs
      · exact congrArg _ hs
      · exact (congrArg _ hs).trans Chainstate.tipWork_invalidBlockFound
    | stalled =>
      refine stall_triple fun s hs => hstay _ ?_
      obtain hs | hs := hs
      · exact congrArg _ hs
      · exact (congrArg Chainstate.tipWork hs).trans rfl
    | connected =>
      have hlt : c.tipWork ≤ (c.connected b).tipWork := by
        rw [Chainstate.tipWork, ← hpprev]
        exact (c.blocks.work_pprev_lt b).le
      refine .bind (Q := fun _ => Unchanged (c.connected b)) (onChain_triple fun s hs => ?_)
        fun _ => get_triple fun s hs => .ite (fun _ => .pure ?_) fun _ => ?_
      · change s.chain.pruneBlockIndexCandidates = _
        rw [hs.1, Chainstate.connected]
      · rintro _ rfl
        rw [hs]
        exact hold.trans hlt
      · refine (ih (c.connected b) hclimbs (hold.trans hlt) fun s hs => ?_).pre ?_
        · exact (hold.trans hlt).trans hs.ge
        · rintro _ rfl
          exact hs

/-- **Connecting along a path reaches the work of the old tip** if the blocks up to one that has it
can be connected. -/
theorem connectPath_reaches (Good : NodeWorld → Prop) (l : List Uint256) (c : Chainstate)
    (h : c.blocks.forest.Climbs c.tip l) (hwork : c.blocks.work oldTip = old)
    (htarget : old ≤ c.tipWork ∨ ∃ x ∈ l, old ≤ c.blocks.work (some x))
    (hgood : ∀ b ∈ l, c.blocks.work (c.block b).pprev < old →
      ∀ w, Good w → c.blocks.Connectable b w) :
    Triple (Steady Good c) (connectPath oldTip l) (fun _ s => old ≤ s.chain.tipWork)
      (fun s => old ≤ s.chain.tipWork) := by
  induction l generalizing c with
  | nil =>
    refine .pure fun s hs => ?_
    rw [hs.chain]
    simpa using htarget
  | cons b rest ih =>
    by_cases hold : old ≤ c.tipWork
    · exact (connectPath_tipWork (b :: rest) c h hold).pre fun s hs => hs.chain
    obtain ⟨hpprev, hclimbs⟩ := h
    have hless : c.blocks.work (c.block b).pprev < old := by
      refine lt_of_eq_of_lt ?_ (not_le.1 hold)
      exact congrArg c.blocks.work hpprev
    refine .bind (connectTip_steady (hgood b List.mem_cons_self hless)) fun outcome =>
      Triple.assume ?_
    rintro rfl
    refine .bind (Q := fun _ => Steady Good (c.connected b)) (onChain_triple fun s hs => ?_)
      fun _ => get_triple fun s hs => .ite (fun hbetter => .pure ?_) fun _ => ?_
    · refine ⟨?_, hs.worlds⟩
      change s.chain.pruneBlockIndexCandidates = _
      rw [hs.chain, Chainstate.connected]
    · rintro _ rfl
      refine hwork.ge.trans ?_
      have hle := hbetter.work_le
      rwa [hs.chain] at hle ⊢
    · refine (ih (c.connected b) hclimbs hwork ?_
        fun x hx => hgood x (List.mem_cons_of_mem _ hx)).pre ?_
      · obtain htarget | ⟨x, hx, hwork⟩ := htarget
        · exact absurd htarget hold
        · obtain rfl | hx := List.mem_cons.1 hx
          · exact .inl hwork
          · exact .inr ⟨x, hx, hwork⟩
      · rintro _ rfl
        exact hs

theorem disconnectTo_steady {Good : NodeWorld → Prop} (fork : Option Uint256)
    (hgood : ∀ w, Good w → w.disconnectTip = true) (n : ℕ) :
    Triple (fun s => ∀ k, Good (s.worlds.get k)) (disconnectTo fork n)
      (fun _ s => ∀ k, Good (s.worlds.get k)) (fun _ => False) := by
  induction n with
  | zero => exact .pure fun s hs => hs
  | succ n ih =>
    refine get_again fun s hs => ?_
    refine .ite (fun _ => .pure fun s hs => hs) fun _ => .bind ?_ fun _ => ih
    refine .bind (world_triple (Q := fun w s => (∀ k, Good (s.worlds.get k)) ∧ Good w)
      fun s hs => ⟨fun k => hs (k + 1), hs 0⟩) fun w => .assume fun hw => ?_
    refine .bind (.failIf_pass (by simp [hgood w hw])) fun _ => ?_
    exact onChain_triple fun s hs => hs

theorem disconnectTo_spec {s t : Activation}
    (h : disconnectTo (s.chain.findFork m) s.chain.active.length s = .ok () t) :
    t.chain.blocks = s.chain.blocks ∧ t.chain.tip = s.chain.findFork m := by
  have hstart : Descending s.chain.tip m s.chain (s.chain.findFork m) s.chain.active.length s :=
    ⟨.refl, fun f hf => by simpa using List.find?_some hf,
      fun t ht => ⟨t, ht, Forest.self_mem_ancestry t⟩, le_rfl⟩
  have htriple := disconnectTo_triple s.chain.active.length s hstart
  rw [h] at htriple
  exact ⟨blocks_of_moves htriple.1, htriple.2⟩

theorem disconnectTo_tip (n : ℕ) (s : Activation) : disconnectTo s.chain.tip n s = .ok () s := by
  cases n with
  | zero => rfl
  | succ n =>
    rw [disconnectTo, get_bind, if_pos (.inr rfl)]
    rfl

theorem Chainstate.findFork_of_mem (h : m ∈ c.active) : c.findFork m = some m := by
  obtain ⟨l, hl⟩ : ∃ l, c.blocks.ancestry m = m :: l := by
    unfold BlockMap.ancestry
    cases hp : c.blocks.forest.parent m with
    | none => exact ⟨_, Forest.ancestry_root hp⟩
    | some p => exact ⟨_, Forest.ancestry_parent hp⟩
  rw [findFork, hl, List.find?_cons_of_pos (by simpa using h)]

/-- **A step that is supported keeps the work.** -/
theorem StepSupported.tipWork_le {s : Activation} (h : StepSupported s.chain s.worlds m) :
    s.chain.tipWork ≤ (final (activateBestChainStep m) s).chain.tipWork := by
  have hclimbs : s.chain.blocks.forest.Climbs (s.chain.findFork m) (s.chain.branch m).reverse :=
    Forest.climbs_branch _ _
  have hfinal : ∀ {t}, disconnectTo (s.chain.findFork m) s.chain.active.length s = .ok () t →
      final (activateBestChainStep m) s =
        final (connectPath s.chain.tip (s.chain.branch m).reverse) t := by
    intro t ht
    unfold final
    rw [activateBestChainStep, get_bind, bind_of_ok ht]
  obtain hfork | ⟨hmore, hready⟩ := h
  · rw [hfork] at hfinal hclimbs
    rw [hfinal (disconnectTo_tip _ s)]
    exact (connectPath_tipWork _ s.chain hclimbs le_rfl).final rfl
  have hsteady := disconnectTo_steady (s.chain.findFork m)
    (fun w (hw : SwitchReady s.chain m w) => hw.1) s.chain.active.length s hready
  cases hto : disconnectTo (s.chain.findFork m) s.chain.active.length s with
  | error e t =>
    rw [hto] at hsteady
    exact hsteady.elim
  | ok _ t =>
    rw [hto] at hsteady
    obtain ⟨hblocks, htip⟩ := disconnectTo_spec hto
    rw [hfinal hto]
    refine (connectPath_reaches (SwitchReady s.chain m) _ t.chain ?_ ?_ ?_ ?_).final
      ⟨rfl, hsteady⟩
    · rw [hblocks, htip]
      exact hclimbs
    · rw [hblocks, Chainstate.tipWork]
    · by_cases hm : m ∈ s.chain.active
      · left
        refine hmore.trans_eq ?_
        rw [Chainstate.tipWork, hblocks, htip, Chainstate.findFork_of_mem hm]
      · refine .inr ⟨m, ?_, hblocks ▸ hmore⟩
        exact List.mem_reverse.2 (Forest.mem_branch.2 ⟨Forest.self_mem_ancestry m, hm⟩)
    · intro b hb hless w hw
      rw [Chainstate.block, hblocks] at hless
      rw [hblocks]
      exact hw.2 b (List.mem_reverse.1 hb) hless

/-! ### Rounds -/

/-- The candidates a round may work towards: the one it has chosen before, or one whose branch can
be used and which is not worse than a complete one. -/
def ActivationLoop.AimsAt (loop : ActivationLoop) (c : Chainstate) (m : Uint256) : Prop :=
  loop.mostWork = some m ∨ loop.mostWork = none ∧ m ∈ c.setBlockIndexCandidates ∧
    (∀ x ∈ c.branch m, ¬c.Unusable x) ∧
    ∀ g ∈ c.setBlockIndexCandidates, c.Complete g → ¬c.blocks.Worse m g

/-- The step of a round is supported, whichever candidate it works towards. -/
def RoundSupported (loop : ActivationLoop) (c : Chainstate) (worlds : Stream' NodeWorld) : Prop :=
  ∀ m, loop.AimsAt c m → StepSupported c worlds m

theorem StepSupported.of_discarded {worlds : Stream' NodeWorld} (h : StepSupported c worlds m)
    (hdiscarded : Discarded c c') : StepSupported c' worlds m := by
  have hflagged := hdiscarded.flagged
  have htree := hflagged.sameTree
  have hwork : c'.tipWork = c.tipWork := Chainstate.tipWork_eq_of_sameTree htree hdiscarded.tip
  have hfork : c'.findFork m = c.findFork m := by
    rw [Chainstate.findFork, Chainstate.findFork, htree.ancestry,
      Chainstate.active_eq_of_sameTree htree hdiscarded.tip]
  refine h.imp (fun h => by rw [hfork, h, hdiscarded.tip]) fun ⟨hmore, hready⟩ => ⟨?_, fun n => ?_⟩
  · rwa [hwork, htree.work_eq]
  · refine ⟨(hready n).1, fun b hb hless => ?_⟩
    rw [Chainstate.branch, htree.forest, hdiscarded.tip] at hb
    rw [Chainstate.block, htree.work_eq, htree.position, hwork] at hless
    exact ((hready n).2 b hb hless).of_flagged hflagged

variable {loop : ActivationLoop} {s : Activation}

theorem Chosen.aimsAt (h : Chosen loop c (some m) c') : loop.AimsAt c m := by
  cases h with
  | kept h => exact .inl h
  | found hnone h =>
    have hflagged := h.flagged
    refine .inr ⟨hnone, h.candidate m (h.mem m rfl), fun x hx hunusable => ?_, fun g hg hgood => ?_⟩
    · rw [Chainstate.branch, ← hflagged.sameTree.forest, ← h.tip] at hx
      refine h.usable m rfl x hx (hunusable.imp (fun hfailed => ?_) hflagged.haveData.trans)
      by_contra hnot
      have hsound := hflagged.failed (Bool.eq_false_of_not_eq_true hnot)
      cases hfailed.symm.trans hsound
    · rw [← hflagged.sameTree.worse_iff]
      refine h.best m rfl g ?_
      by_contra hdropped
      exact h.dropped g hg hdropped hgood

/-- **A round that is supported keeps the work.** -/
theorem RoundSupported.tipWork_le (h : RoundSupported loop s.chain s.worlds) :
    s.chain.tipWork ≤ (final (activateBestChain loop) s).chain.tipWork := by
  have hworlds : Triple (fun u => u.worlds = s.worlds) (chooseMostWork loop)
      (fun _ u => u.worlds = s.worlds) (fun u => s.chain.tipWork ≤ u.chain.tipWork) := by
    unfold chooseMostWork
    cases loop.mostWork with
    | some m => exact .pure fun u hu => hu
    | none => exact fun u hu => hu
  refine Triple.final (P := fun u : Activation => u.chain = s.chain ∧ u.worlds = s.worlds)
    (E := fun u : Activation => s.chain.tipWork ≤ u.chain.tipWork) ?_ ⟨rfl, rfl⟩
  refine .bind (chooseMostWork_triple.and hworlds) fun chosen => ?_
  have hkept : ∀ u : Activation, Chosen loop s.chain chosen u.chain ∧ u.worlds = s.worlds →
      s.chain.tipWork ≤ u.chain.tipWork := fun u hu =>
    (Chainstate.tipWork_eq_of_sameTree hu.1.discarded.flagged.sameTree hu.1.discarded.tip).ge
  cases chosen with
  | none => exact .pure hkept
  | some m =>
    refine get_triple fun u hu => .ite (fun _ => .pure ?_) fun _ => ?_
    · rintro _ rfl
      exact hkept _ hu
    · refine .bind (Triple.final_iff.2 ?_) fun _ => get_triple fun v hv => ?_
      · rintro _ rfl
        refine (hkept _ hu).trans (StepSupported.tipWork_le ?_)
        rw [hu.2]
        exact (h m hu.1.aimsAt).of_discarded hu.1.discarded
      · refine .ite (fun _ => .pure ?_) fun _ => .pure ?_
        · rintro _ rfl
          exact hv
        · rintro _ rfl
          exact hv

section Pass

variable {worlds : Stream' NodeWorld}

/-- A pass that does not find the tip orphaned leaves it where it is. -/
theorem PassKept.tip_eq (h : PassKept (OrphanedAnswered c worlds) c c')
    (htip : ∀ t ∈ c.tip, ∀ n, freshStatus c.anchorSnapshot (worlds.get n) (c.block t) ≠ .ORPHANED) :
    c'.tip = c.tip := by
  cases hc : c.tip with
  | none =>
    rw [Option.eq_none_iff_forall_not_mem]
    intro t ht
    have := h.tip t ht
    rw [Chainstate.active_eq_nil.2 hc] at this
    exact absurd this List.not_mem_nil
  | some t =>
    have hmem : t ∈ c'.active :=
      h.mem_active (Chainstate.mem_active.2 ⟨t, hc, Forest.self_mem_ancestry t⟩) (htip t hc)
    obtain ⟨t', ht', hbelow⟩ := Chainstate.mem_active.1 hmem
    obtain ⟨t'', ht'', habove⟩ := Chainstate.mem_active.1 (h.tip t' ht')
    obtain rfl := Option.some.inj (hc.symm.trans ht'')
    have hsame : c'.blocks.ancestry t' = c.blocks.ancestry t' := h.sameTree.ancestry
    rw [hsame] at hbelow
    rw [ht', Forest.eq_of_mem_of_height habove (Forest.height_le_of_mem hbelow)]

theorem PassKept.tipWork_eq (h : PassKept (OrphanedAnswered c worlds) c c')
    (htip : ∀ t ∈ c.tip, ∀ n, freshStatus c.anchorSnapshot (worlds.get n) (c.block t) ≠ .ORPHANED) :
    c'.tipWork = c.tipWork :=
  Chainstate.tipWork_eq_of_sameTree h.sameTree (h.tip_eq htip)

end Pass

/-! ### Runs -/

/-- What keeps the work: a pass does not find the tip orphaned, and a round is supported. -/
def NodeEvent.Supported (s : NodeState) : NodeEvent → Prop
  | .call .reconcile _ worlds => ∀ t ∈ s.chain.tip, ∀ n,
      freshStatus s.chain.anchorSnapshot (worlds.get n) (s.chain.block t) ≠ .ORPHANED
  | .call .activate _ worlds => ∀ loop ∈ s.loop, RoundSupported loop s.chain worlds
  | _ => True

section Node

variable {s s' : NodeState} {worlds : Stream' NodeWorld}

theorem NodeState.tipWork_reconciled (h : ∀ t ∈ s.chain.tip, ∀ n,
      freshStatus s.chain.anchorSnapshot (worlds.get n) (s.chain.block t) ≠ .ORPHANED) :
    (s.reconciled worlds).chain.tipWork = s.chain.tipWork := by
  have hended : ReconcileEnded (OrphanedAnswered s.chain worlds) s (s.reconciled worlds) :=
    reconciled_spec fun _ => passStart_orphanedAnswered s
  revert hended
  generalize s.reconciled worlds = s'
  intro hended
  cases hended with
  | done hdone => exact hdone.toPassKept.tipWork_eq h
  | idle => rfl
  | failed hkept => exact hkept.tipWork_eq h

theorem NodeState.chain_activated (s : NodeState) (worlds : Stream' NodeWorld)
    (loop : ActivationLoop) :
    (s.activated worlds loop).chain = (final (activateBestChain loop) (s.start worlds)).chain := by
  unfold activated final
  cases activateBestChain loop (s.start worlds) <;> rfl

/-- **A supported event keeps the work.** -/
theorem NodeStep.tipWork_le {parents : Forest Uint256} {e : NodeEvent}
    (h : NodeStep parents s e s') (hs : s.Stored) (hsupported : e.Supported s) :
    s.chain.tipWork ≤ s'.chain.tipWork := by
  cases h with
  | reorganised => exact le_rfl
  | released => exact le_rfl
  | @call call view worlds hallowed _ =>
    have hchain : ((s.performed worlds call).observed view).chain =
        (s.performed worlds call).chain := by
      cases view <;> rfl
    rw [hchain]
    cases call with
    | acceptBlock hash prev =>
      have h := untouched_of_moves hs.chain
        ((acceptBlock_moves s.chain hash prev).final (s := s.start worlds) rfl)
      refine le_of_eq ?_
      change _ = (final (acceptBlock hash prev) (s.start worlds)).chain.tipWork
      rw [Chainstate.tipWork, Chainstate.tipWork, h.tip]
      cases htip : s.chain.tip with
      | none => rfl
      | some t =>
        exact congrArg (fun e : CBlockIndex => (e.nChainWork : WithBot ℕ))
          (h.block t (hs.chain.tip t htip)).symm
    | prepareSnapshot =>
      obtain ⟨snapshot, hsnapshot, -⟩ :=
        (prepareDrivechainAnchorSnapshot_triple (c := s.chain) additive_true).final
          (s := s.start worlds) ⟨rfl, fun _ => trivial⟩
      refine le_of_eq ?_
      change _ = (final prepareDrivechainAnchorSnapshot (s.start worlds)).chain.tipWork
      rw [hsnapshot]
      rfl
    | reconcile => exact (NodeState.tipWork_reconciled hsupported).ge
    | activate =>
      obtain ⟨loop, hloop⟩ := Option.ne_none_iff_exists'.1 hallowed
      rw [NodeState.performed, hloop]
      simp only [NodeState.chain_activated]
      exact RoundSupported.tipWork_le (s := s.start worlds) (hsupported loop hloop)

end Node

/-- **A run of supported events keeps the work**: the active chain of a node never has less work
than before, as long as passes do not find the tip orphaned and rounds are supported. -/
theorem tipWork_kept {parents : Forest Uint256} {genesis tip : Uint256}
    {before events : List NodeEvent} {s s' : NodeState}
    (hreached : Run (NodeStep parents) (.initial genesis tip) before s)
    (hrun : Run (fun s e s' => NodeStep parents s e s' ∧ e.Supported s) s events s') :
    s.chain.tipWork ≤ s'.chain.tipWork := by
  have hs : s.Stored := hreached.invariant (stored_initial genesis tip)
    fun _ _ _ hs hstep => hstep.stored hs
  have hinvariant : s'.Stored ∧ s.chain.tipWork ≤ s'.chain.tipWork :=
    hrun.invariant ⟨hs, le_rfl⟩ fun _ _ _ ⟨ht, hle⟩ ⟨hstep, hsupported⟩ =>
      ⟨hstep.stored ht, hle.trans (hstep.tipWork_le ht hsupported)⟩
  exact hinvariant.2

/-! ### A call that loses work -/

namespace Sample

/-- A parent chain of five blocks. -/
def lineTable : List (Uint256 × Uint256 × ℕ) :=
  [(.ofByte 17, .ofByte 16, 1), (.ofByte 18, .ofByte 17, 2), (.ofByte 19, .ofByte 18, 3),
    (.ofByte 20, .ofByte 19, 4)]

/-- It commits to a block, and then to two blocks of another branch. -/
def line : ParentNode where
  parents := .ofTable lineTable (by decide +kernel)
  chainwork hash := .ofByte (.ofNat (Forest.tableHeight lineTable hash + 1))
  commits b :=
    if b = .ofByte 2 then [.ofByte 18]
    else if b = .ofByte 3 then [.ofByte 19]
    else if b = .ofByte 4 then [.ofByte 20]
    else []

/-- A block is connected; then two blocks of another branch arrive, and a pass is made. -/
def overtaken : List Scene :=
  [.call .reconcile, .call .activate, .call (.acceptBlock (.ofByte 2) (.ofByte 1)),
    .call .reconcile, .call .activate, .call (.acceptBlock (.ofByte 3) (.ofByte 1)),
    .call (.acceptBlock (.ofByte 4) (.ofByte 3))]

/-- A parent node that does not answer. -/
def silent : NodeWorld := {}

theorem sees_silent (parents : Forest Uint256) (tips : Set Uint256) : Sees parents tips silent where
  anchor_parent _ _ h := absurd h nofun
  anchor_successor _ _ h := absurd h nofun
  bmm_parent _ _ h := absurd h nofun
  bmm_successor _ _ h := absurd h nofun
  best _ h := absurd h nofun

end Sample

open Sample

/-- The node switches to the better branch, and has more work behind the call. -/
theorem tipWork_kept_overtaken :
    ∃ s ∈ line.play (.initial (.ofByte 1) (.ofByte 20)) overtaken,
      ∃ events s', Run (fun s e s' => NodeStep line.parents s e s' ∧ e.Supported s) s events s' ∧
        s.chain.tip = some (.ofByte 2) ∧ s'.chain.tip = some (.ofByte 4) ∧
          s.chain.tipWork ≤ s'.chain.tipWork := by
  obtain ⟨s, hs, htip, hpass, hidle, hloop, hround, htip'⟩ :
      ∃ s ∈ line.play (.initial (.ofByte 1) (.ofByte 20)) overtaken,
        s.chain.tip = some (.ofByte 2) ∧
        (∀ t ∈ s.chain.tip, freshStatus s.chain.anchorSnapshot (line.world s.parentTip)
          (s.chain.block t) ≠ .ORPHANED) ∧
        ParentNode.Possible s (.call .reconcile) ∧
        ParentNode.Possible (line.after s (.call .reconcile)) (.call .activate) ∧
        (∀ loop ∈ (line.after s (.call .reconcile)).loop,
          let c := (line.after s (.call .reconcile)).chain
          ∀ m ∈ loop.mostWork.toList ++ c.setBlockIndexCandidates.toList,
            c.findFork m = c.tip ∨ c.tipWork ≤ c.blocks.work (some m) ∧ SwitchReady c m
              (line.world (line.after s (.call .reconcile)).parentTip)) ∧
        (line.after (line.after s (.call .reconcile)) (.call .activate)).chain.tip =
          some (.ofByte 4) := by
    decide +kernel
  obtain ⟨before, hreached, -⟩ := ParentNode.run_play hs
  have hsupported : NodeEvent.Supported (line.after s (.call .reconcile))
      (line.event (line.after s (.call .reconcile)) (.call .activate)) := by
    intro loop hmem m haims
    refine (hround loop hmem m ?_).imp_right fun ⟨hmore, hready⟩ => ⟨hmore, fun _ => hready⟩
    rw [List.mem_append, Option.mem_toList, Std.ExtTreeSet.mem_toList]
    exact haims.imp_right fun haims => haims.2.1
  have hrun : Run (fun s e s' => NodeStep line.parents s e s' ∧ e.Supported s) s _ _ :=
    (Run.nil.snoc ⟨ParentNode.nodeStep_after hidle, fun t ht _ => hpass t ht⟩).snoc
      ⟨ParentNode.nodeStep_after hloop, hsupported⟩
  exact ⟨s, hs, _, _, hrun, htip, htip', tipWork_kept hreached hrun⟩

/-- **A parent node that becomes unavailable costs work.**  The pass of a call finds every anchor of
the active chain active.  Then the parent node does not answer any more: the call disconnects the
active chain, cannot connect the better branch and returns at the fork. -/
theorem work_lost_to_unavailable_parent :
    ∃ events s, Run (NodeStep line.parents) (.initial (.ofByte 1) (.ofByte 20)) events s ∧
      s.loop = none ∧
      ∃ s₁ s₂, NodeStep line.parents s
          (.call .reconcile .fixed (.const (line.world s.parentTip))) s₁ ∧
        NodeStep line.parents s₁ (.call .activate .fixed (.const silent)) s₂ ∧
        s₂.loop = none ∧
        (∀ b ∈ s.chain.active,
          freshStatus s.chain.anchorSnapshot (line.world s.parentTip) (s.chain.block b) =
            .ACTIVE ∧
          freshStatus s.chain.anchorSnapshot silent (s.chain.block b) ≠ .ORPHANED) ∧
        (∀ b, (silent.bmmReads b).status = .UNAVAILABLE) ∧
        (∀ b ∈ s₂.chain.blocks.entries.keys, (s₂.chain.block b).failed = false) ∧
        s₂.chain.tipWork < s.chain.tipWork := by
  obtain ⟨s, hs, hidle, hanchors, hloop, hdone, hvalid, hlost⟩ :
      ∃ s ∈ line.play (.initial (.ofByte 1) (.ofByte 20)) overtaken, s.loop = none ∧
        (∀ b ∈ s.chain.active,
          freshStatus s.chain.anchorSnapshot (line.world s.parentTip) (s.chain.block b) =
            .ACTIVE ∧
          freshStatus s.chain.anchorSnapshot silent (s.chain.block b) ≠ .ORPHANED) ∧
        let s₁ := s.performed (.const (line.world s.parentTip)) .reconcile
        let s₂ := s₁.performed (.const silent) .activate
        s₁.loop ≠ none ∧ s₂.loop = none ∧
          (∀ b ∈ s₂.chain.blocks.entries.keys, (s₂.chain.block b).failed = false) ∧
          s₂.chain.tipWork < s.chain.tipWork := by
    decide +kernel
  obtain ⟨events, hrun, -⟩ := ParentNode.run_play hs
  exact ⟨events, s, hrun, hidle, _, _, .call hidle fun _ => ParentNode.sees_world,
    .call hloop fun _ => sees_silent _ _, hdone, hanchors, fun _ => rfl, hvalid, hlost⟩

end ElementsDrivechain
