import ElementsDrivechain.Anchors.Scenario
import ElementsDrivechain.Anchors.Stored

/-!
# The candidates of a node are complete

A complete block that does not sort below the tip belongs into one of the two sets of candidates.
Candidates that sort below a tip are forgotten, and a block that sorts below the tip when it arrives
never becomes a candidate.  That does no harm as long as the tip gets better; but a pass makes it
worse again and does not look for the blocks that were forgotten under the better tip.

So a node knows the complete blocks that sort below none of the tips it has ever had.  After a pass
its candidates are complete if every other complete block is known too, or sorts below a block of
the active chain that the parent node never calls orphaned during the pass.

* `NodeMove.tracking` : **every call keeps track of the blocks.**
* `candidates_tracked` : **after a pass that uncovers no forgotten block the candidates are
  complete**, and the best branch that the parent chain supports is selected.
-/

namespace ElementsDrivechain

open Effects Relation

variable {g : Uint256} {s : NodeState} {worlds : Stream' NodeWorld}

/-- A block sorts below none of the given blocks. -/
def BlockMap.Tops (m : BlockMap) (held : List Uint256) (b : Uint256) : Prop :=
  ∀ h ∈ held, ¬m.Worse b h

/-- Of the complete blocks that do not sort below the tip, the node knows those that sort below none
of the given blocks. -/
structure Tracks (held : List Uint256) (c : Chainstate) : Prop where
  /-- The given blocks are stored. -/
  haveData : ∀ h ∈ held, (c.block h).haveData = true
  /-- The tip can be connected. -/
  tip_complete : ∀ t ∈ c.tip, c.Complete t
  known : ∀ b, c.Complete b → c.blocks.Tops held b → ¬c.WorseThanTip b →
    b ∈ c.setBlockIndexCandidates ∨ b ∈ c.suppressedCandidates ∧ b ∉ c.active

/-- The ancestors of a block that could be candidates are candidates. -/
def ClosedBelow (held : List Uint256) (c : Chainstate) (g : Uint256) : Prop :=
  ∀ b ∈ c.blocks.ancestry g, c.blocks.Tops held b → ¬c.WorseThanTip b →
    b ∈ c.setBlockIndexCandidates

/-- What is kept while the node works towards a block. -/
structure Tracking (held : List Uint256) (goal : Option Uint256) (c : Chainstate) : Prop
    extends Tracks held c where
  /-- Below a candidate that can be connected nothing is missing. -/
  candidate : ∀ g ∈ c.setBlockIndexCandidates, c.Complete g → ClosedBelow held c g
  goal_complete : ∀ m ∈ goal, c.Complete m
  goal_closed : ∀ m ∈ goal, ClosedBelow held c m

variable {held : List Uint256} {goal : Option Uint256} {c c' : Chainstate} {b x m : Uint256}

theorem BlockMap.Tops.of_sameTree {m m' : BlockMap} (htree : m.SameTree m') :
    m'.Tops held b ↔ m.Tops held b := by
  simp only [Tops, htree.worse_iff]

theorem BlockMap.tops_append {m : BlockMap} {held' : List Uint256} :
    m.Tops (held' ++ held) b ↔ m.Tops held' b ∧ m.Tops held b := by
  simp only [Tops, List.mem_append, or_imp, forall_and]

/-! ### Another tip -/

theorem Tracks.hold (h : Tracks held c) (hstored : Stored c) :
    Tracks (c.tip.toList ++ held) c := by
  refine ⟨fun t ht => ?_, h.tip_complete, fun b hb htops hworse => ?_⟩
  · obtain ht | ht := List.mem_append.1 ht
    · exact hstored.tip t (Option.mem_toList.1 ht)
    · exact h.haveData t ht
  · exact h.known b hb (BlockMap.tops_append.1 htops).2 hworse

theorem ClosedBelow.hold {held' : List Uint256} (h : ClosedBelow held c g) :
    ClosedBelow (held' ++ held) c g :=
  fun b hb htops hworse => h b hb (BlockMap.tops_append.1 htops).2 hworse

theorem Tracking.hold (h : Tracking held goal c) (hstored : Stored c) :
    Tracking (c.tip.toList ++ held) goal c :=
  ⟨h.toTracks.hold hstored, fun g hg hcomplete => (h.candidate g hg hcomplete).hold,
    h.goal_complete, fun m hm => (h.goal_closed m hm).hold⟩

/-! ### Flags -/

/-- Blocks have failed, and candidates that are not complete any more have been taken out. -/
structure Taken (c c' : Chainstate) : Prop where
  flagged : c.blocks.Flagged c'.blocks
  tip : c'.tip = c.tip
  suppressed : c'.suppressedCandidates = c.suppressedCandidates
  candidate : ∀ b ∈ c'.setBlockIndexCandidates, b ∈ c.setBlockIndexCandidates
  dropped : ∀ b ∈ c.setBlockIndexCandidates, c'.Complete b → b ∈ c'.setBlockIndexCandidates
  tip_complete : ∀ t ∈ c.tip, c.Complete t → c'.Complete t

theorem Discarded.taken (h : Discarded c c') : Taken c c' where
  flagged := h.flagged
  tip := h.tip
  suppressed := h.suppressed
  candidate := h.candidate
  dropped b hb hcomplete := by
    by_contra hn
    exact h.dropped b hb hn (hcomplete.of_flagged h.flagged)
  tip_complete t _ := h.complete t

theorem taken_invalidBlockFound (hcomplete : (c.block b).haveData = true)
    (htip : c.tip = (c.block b).pprev) : Taken c (c.invalidBlockFound b) := by
  have hblock : ∀ x, (c.invalidBlockFound b).block x =
      if x ∈ c.blocks.entries.keys.filter fun x => b ∈ c.blocks.ancestry x then
        { c.block x with failed := true } else c.block x :=
    fun x => Chainstate.block_markFailed _
  have hancestry : ∀ x, (c.invalidBlockFound b).blocks.ancestry x = c.blocks.ancestry x :=
    fun x => flagged_invalidBlockFound.sameTree.ancestry
  refine ⟨flagged_invalidBlockFound, rfl, rfl, fun x hx => (OrdSet.mem_erase_iff.1 hx).2,
    fun x hx hx' => OrdSet.mem_erase_iff.2 ⟨?_, hx⟩, fun t ht ht' a ha => ?_⟩
  · -- the invalid block is in the index, so that it has failed now
    rintro rfl
    obtain ⟨-, hfailed⟩ := hx' x (Forest.self_mem_ancestry x)
    rw [hblock, if_pos] at hfailed
    · exact absurd hfailed nofun
    · rw [List.mem_filter]
      refine ⟨?_, decide_eq_true (Forest.self_mem_ancestry x)⟩
      exact Std.ExtTreeMap.mem_keys.2 (Stored.mem_of_haveData hcomplete)
  · -- the chain does not contain the invalid block
    rw [hancestry] at ha
    rw [hblock, if_neg]
    · exact ht' a ha
    · rw [List.mem_filter]
      rintro ⟨-, hb⟩
      have hmem : b ∈ c.blocks.ancestry t := Forest.mem_ancestry_trans ha (of_decide_eq_true hb)
      refine Chainstate.tip_not_mem_below (c := c) (t := b) ?_
      rw [← htip, ht]
      exact hmem

section Taken

variable (h : Taken c c')
include h

theorem Taken.active_eq : c'.active = c.active :=
  Chainstate.active_eq_of_sameTree h.flagged.sameTree h.tip

theorem Tracks.taken (hc : Tracks held c) : Tracks held c' := by
  refine ⟨fun t ht => h.flagged.haveData.trans (hc.haveData t ht), fun t ht => ?_, ?_⟩
  · rw [h.tip] at ht
    exact h.tip_complete t ht (hc.tip_complete t ht)
  · intro b hb htops hworse
    rw [BlockMap.Tops.of_sameTree h.flagged.sameTree] at htops
    rw [Chainstate.worseThanTip_iff_of_sameTree h.flagged.sameTree h.tip] at hworse
    rw [h.suppressed, h.active_eq]
    exact (hc.known b (hb.of_flagged h.flagged) htops hworse).imp_left fun hmem =>
      h.dropped b hmem hb

theorem ClosedBelow.taken (hg : ClosedBelow held c g) (hcomplete : c'.Complete g) :
    ClosedBelow held c' g := by
  intro b hb htops hworse
  rw [h.flagged.sameTree.ancestry] at hb
  rw [BlockMap.Tops.of_sameTree h.flagged.sameTree] at htops
  rw [Chainstate.worseThanTip_iff_of_sameTree h.flagged.sameTree h.tip] at hworse
  refine h.dropped b (hg b hb htops hworse) (hcomplete.ancestor ?_)
  rw [h.flagged.sameTree.ancestry]
  exact hb

theorem Tracking.taken {goal' : Option Uint256} (hc : Tracking held goal c)
    (hgoal : ∀ m ∈ goal', c'.Complete m ∧ ClosedBelow held c m) : Tracking held goal' c' where
  toTracks := hc.toTracks.taken h
  candidate g hg hcomplete :=
    (hc.candidate g (h.candidate g hg) (hcomplete.of_flagged h.flagged)).taken h hcomplete
  goal_complete m hm := (hgoal m hm).1
  goal_closed m hm := (hgoal m hm).2.taken h (hgoal m hm).1

end Taken

/-! ### Activation -/

theorem Chainstate.not_worseThanTip_of_connected (htip : c.tip = (c.block b).pprev)
    (h : ¬c.blocks.Worse x b) : ¬c.WorseThanTip x := by
  rintro ⟨t, ht, hworse⟩
  have hp : (c.block b).pprev = some t := htip.symm.trans ht
  obtain rfl | htb := BlockMap.worse_of_mem_ancestry (Forest.parent_mem_ancestry hp)
  · exact h hworse
  · exact h (hworse.trans htb)

theorem Chainstate.mem_active_connected (htip : c.tip = (c.block b).pprev)
    (h : x ∈ (c.connected b).active) : x = b ∨ x ∈ c.active := by
  obtain ⟨t, ht, hx⟩ := mem_active.1 h
  obtain rfl := Option.some.inj ht
  refine (Forest.mem_ancestry.1 hx).imp_right ?_
  rintro ⟨p, hp, hx⟩
  exact mem_active.2 ⟨p, htip.trans hp, hx⟩

theorem Tracking.connected (hc : Tracking held (some m) c) (hb : b ∈ c.blocks.ancestry m)
    (htip : c.tip = (c.block b).pprev) : Tracking held (some m) (c.connected b) := by
  have hworse : ∀ x, ¬(c.connected b).WorseThanTip x → ¬c.blocks.Worse x b :=
    fun x hx hworse => hx ⟨b, rfl, hworse⟩
  have hmem : ∀ x, x ∈ c.setBlockIndexCandidates → ¬(c.connected b).WorseThanTip x →
      x ∈ (c.connected b).setBlockIndexCandidates :=
    fun x hx hn => OrdSet.mem_filter_iff.2 ⟨hx, decide_eq_true hn⟩
  have hclosed : ∀ g, ClosedBelow held c g → ClosedBelow held (c.connected b) g :=
    fun g hg x hx htops hn => hmem x (hg x hx htops
      (Chainstate.not_worseThanTip_of_connected htip (hworse x hn))) hn
  refine ⟨⟨hc.haveData, fun t ht => ?_, fun x hx htops hn => ?_⟩, fun g hg hcomplete => ?_,
    hc.goal_complete, fun g hg => hclosed g (hc.goal_closed g hg)⟩
  · obtain rfl := Option.some.inj ht
    exact (hc.goal_complete m rfl).ancestor hb
  · have hn' := Chainstate.not_worseThanTip_of_connected htip (hworse x hn)
    obtain hcand | ⟨hsupp, hoff⟩ := hc.known x hx htops hn'
    · exact .inl (hmem x hcand hn)
    · by_cases hxb : x = b
      · subst hxb
        exact .inl (hmem x (hc.goal_closed m rfl x hb htops hn') hn)
      · refine .inr ⟨hsupp, fun hon => ?_⟩
        exact hoff ((Chainstate.mem_active_connected htip hon).resolve_left hxb)
  · exact hclosed g (hc.candidate g (OrdSet.mem_filter_iff.1 hg).1 hcomplete)

theorem Tracking.disconnected {t old : Uint256} (hc : Tracking held goal c) (htip : c.tip = some t)
    (hold : old ∈ held) (hmem : t ∈ c.blocks.ancestry old) :
    Tracking held goal (c.disconnected t) := by
  have hworse : ∀ x, c.blocks.Tops held x → ¬c.WorseThanTip x := by
    rintro x htops ⟨t', ht', hx⟩
    obtain rfl := Option.some.inj (htip.symm.trans ht')
    obtain rfl | hlt := BlockMap.worse_of_mem_ancestry hmem
    · exact htops t hold hx
    · exact htops old hold (hx.trans hlt)
  have hbelow : ∀ p, (c.block t).pprev = some p → p ∈ c.blocks.ancestry t :=
    fun p hp => Forest.parent_mem_ancestry hp
  refine ⟨⟨hc.haveData, fun p hp => ?_, fun x hx htops _ => ?_⟩, fun g hg hcomplete => ?_,
    hc.goal_complete, fun g hg => ?_⟩
  · exact (hc.tip_complete t htip).ancestor (hbelow p hp)
  · refine (hc.known x hx htops (hworse x htops)).imp_right (And.imp_right fun hoff hon => hoff ?_)
    obtain ⟨p, hp, hxp⟩ := Chainstate.mem_active.1 hon
    exact Chainstate.mem_active.2 ⟨t, htip, Forest.mem_ancestry_trans (hbelow p hp) hxp⟩
  · exact fun x hx htops _ => hc.candidate g hg hcomplete x hx htops (hworse x htops)
  · exact fun x hx htops _ => hc.goal_closed g hg x hx htops (hworse x htops)

theorem Tracks.suppress (hc : Tracks held c) (hoff : b ∉ c.active) :
    Tracks held (c.suppress b) := by
  refine ⟨hc.haveData, hc.tip_complete, fun x hx htops hworse => ?_⟩
  by_cases hxb : x = b
  · subst hxb
    exact .inr ⟨OrdSet.mem_insert_iff.2 (.inl rfl), hoff⟩
  · obtain hcand | ⟨hsupp, hx'⟩ := hc.known x hx htops hworse
    · exact .inl (OrdSet.mem_erase_iff.2 ⟨hxb, hcand⟩)
    · exact .inr ⟨OrdSet.mem_insert_iff.2 (.inr hsupp), hx'⟩

theorem Tracking.moves {oldTip : Option Uint256} (hc : Tracking held (some m) c)
    (hold : ∀ old ∈ oldTip, old ∈ held) (h : ReflTransGen (ActivateMove oldTip m) c c') :
    Tracking held (some m) c' := by
  induction h with
  | refl => exact hc
  | tail _ hmove ih =>
    cases hmove with
    | disconnect htip ho hmem => exact ih.disconnected htip (hold _ ho) hmem
    | connect hb htip _ => exact ih.connected hb htip

/-- Behind a step the node still knows the blocks; if it goes on, it goes on towards a block. -/
theorem StepDone.tracking {oldTip : Option Uint256} {t : Activation} (h : StepDone oldTip m c t)
    (hold : ∀ old ∈ oldTip, old ∈ held) (hc : Tracking held (some m) c) :
    Tracks held t.chain ∧ (t.stalled = false → Tracking held none t.chain ∧
      (t.invalidFound = false → Tracking held (some m) t.chain)) := by
  obtain ⟨c', hmoves, hended⟩ := h
  have hc' : Tracking held (some m) c' := hc.moves hold hmoves
  have hforget : ∀ {c : Chainstate}, Tracking held (some m) c → Tracking held none c :=
    fun h => ⟨h.toTracks, h.candidate, nofun, nofun⟩
  cases hended with
  | done h =>
    rw [h]
    exact ⟨hc'.toTracks, fun _ => ⟨hforget hc', fun _ => hc'⟩⟩
  | @invalid b hb htip h hfound =>
    have hdata : (c'.block b).haveData = true :=
      (hc'.goal_complete m rfl b hb).1
    have htaken := taken_invalidBlockFound hdata htip
    rw [h]
    refine ⟨hc'.toTracks.taken htaken, fun _ => ⟨hc'.taken htaken nofun, fun hn => ?_⟩⟩
    exact absurd (hfound.symm.trans hn) nofun
  | suppressed hb htip h hstalled =>
    rw [h]
    refine ⟨hc'.toTracks.suppress ?_, fun hn => absurd (hstalled.symm.trans hn) nofun⟩
    rw [Chainstate.active, htip]
    exact Chainstate.tip_not_mem_below

theorem FoundMostWork.found_complete {r : Option Uint256} (h : FoundMostWork c r c')
    (hm : r = some m) (htip : ∀ t ∈ c.tip, c.Complete t) : c'.Complete m := by
  intro a ha
  by_cases hactive : a ∈ c'.active
  · obtain ⟨t, ht, hat⟩ := Chainstate.mem_active.1 hactive
    rw [h.tip] at ht
    exact h.complete t (htip t ht) a hat
  · have husable := h.usable m hm a (Forest.mem_branch.2 ⟨ha, hactive⟩)
    simpa [Chainstate.Unusable, and_comm] using husable

theorem Chosen.tracking {loop : ActivationLoop} {r : Option Uint256} (h : Chosen loop c r c')
    (hc : Tracking held loop.mostWork c) : Tracking held r c' := by
  cases h with
  | kept h => exact h ▸ hc
  | found _ h =>
    refine hc.taken h.toDiscarded.taken fun m hm => ?_
    have hcomplete := h.found_complete hm hc.tip_complete
    exact ⟨hcomplete, hc.candidate m (h.candidate m (h.mem m hm)) (hcomplete.of_flagged h.flagged)⟩

/-! ### Accepting blocks -/

theorem BlockMap.worse_iff_of_block {m m' : BlockMap} {x y : Uint256} (hx : m'.block x = m.block x)
    (hy : m'.block y = m.block y) : m'.Worse x y ↔ m.Worse x y := by
  simp only [Worse, cBlockIndexWorkComparator, hx, hy]

/-- A stored block becomes a candidate unless it sorts below the tip. -/
theorem mem_candidates_store_self {hash : Uint256} {anchor : DrivechainAnchor}
    (h : ¬((c.receivedBlockTransactions hash).setAnchor hash anchor).WorseThanTip hash) :
    hash ∈ ((c.receivedBlockTransactions hash).setAnchor hash anchor).setBlockIndexCandidates := by
  have htree : (c.receivedBlockTransactions hash).blocks.SameTree
      ((c.receivedBlockTransactions hash).setAnchor hash anchor).blocks := by
    change BlockMap.SameTree _ (BlockMap.modify _ hash (·.withAnchor anchor) fun _ => rfl)
    exact BlockMap.sameTree_modify fun _ => rfl
  rw [Chainstate.worseThanTip_iff_of_sameTree htree rfl] at h
  change hash ∈ (c.receivedBlockTransactions hash).setBlockIndexCandidates
  unfold Chainstate.receivedBlockTransactions Chainstate.tryAddBlockIndexCandidate at h ⊢
  simp only at h ⊢
  split_ifs at h ⊢ with hworse
  · exact absurd hworse h
  · exact OrdSet.mem_insert_iff.2 (.inl rfl)

theorem AcceptMove.mem_candidates (h : AcceptMove c c') (hx : x ∈ c.setBlockIndexCandidates) :
    x ∈ c'.setBlockIndexCandidates := by
  cases h with
  | enter => exact hx
  | reject => exact hx
  | store =>
    change x ∈ (Chainstate.receivedBlockTransactions c _).setBlockIndexCandidates
    unfold Chainstate.receivedBlockTransactions Chainstate.tryAddBlockIndexCandidate
    simp only
    split_ifs
    · exact hx
    · exact OrdSet.mem_insert_iff.2 (.inr hx)

/-- A block that has its data after a move had it before, or has been stored by the move. -/
theorem AcceptMove.new_candidate (h : AcceptMove c c') (hx : (c'.block x).haveData = true)
    (hold : (c.block x).haveData ≠ true) (hworse : ¬c'.WorseThanTip x) :
    x ∈ c'.setBlockIndexCandidates := by
  cases h with
  | @enter hash prev hnew hprev _ =>
    rw [Chainstate.block, Chainstate.addToBlockIndex, BlockMap.block_addToBlockIndex hnew hprev]
      at hx
    split_ifs at hx
    exact absurd hx hold
  | reject =>
    exact absurd ((Chainstate.flagged_markFailed _).haveData.symm.trans hx) hold
  | @store hash anchor _ _ _ =>
    rw [block_store] at hx
    split_ifs at hx with hxh
    · subst hxh
      exact mem_candidates_store_self hworse
    · exact absurd hx hold

theorem AcceptMove.tracks (h : AcceptMove c c') (hstored : Stored c) (hc : Tracks held c) :
    Tracks held c' := by
  have hu := untouched_of_moves hstored (.single h)
  have hcomplete : ∀ x, (c.block x).haveData = true → (c'.Complete x ↔ c.Complete x) := by
    intro x hx
    unfold Chainstate.Complete
    rw [hu.ancestry x hx]
    refine forall₂_congr fun a ha => ?_
    rw [hu.block a (hstored.ancestor hx ha)]
  have hworse : ∀ x y, (c.block x).haveData = true → (c.block y).haveData = true →
      (c'.blocks.Worse x y ↔ c.blocks.Worse x y) :=
    fun x y hx hy => BlockMap.worse_iff_of_block (hu.block x hx) (hu.block y hy)
  refine ⟨fun t ht => ?_, fun t ht => ?_, fun x hx htops hn => ?_⟩
  · rw [hu.block t (hc.haveData t ht)]
    exact hc.haveData t ht
  · rw [hu.tip] at ht
    exact (hcomplete t (hstored.tip t ht)).2 (hc.tip_complete t ht)
  · by_cases hdata : (c.block x).haveData = true
    · have htops' : c.blocks.Tops held x :=
        fun t ht hxt => htops t ht ((hworse x t hdata (hc.haveData t ht)).2 hxt)
      have hn' : ¬c.WorseThanTip x := by
        rintro ⟨t, ht, hxt⟩
        exact hn ⟨t, hu.tip.trans ht, (hworse x t hdata (hstored.tip t ht)).2 hxt⟩
      rw [hu.suppressed, hu.active_eq hstored]
      exact (hc.known x ((hcomplete x hdata).1 hx) htops' hn').imp_left h.mem_candidates
    · exact .inl (h.new_candidate (hx x (Forest.self_mem_ancestry x)).1 hdata hn)

theorem Tracks.accepted (hc : Tracks held c) (hstored : Stored c)
    (h : ReflTransGen AcceptMove c c') : Tracks held c' := by
  induction h with
  | refl => exact hc
  | tail hmoves hmove ih => exact hmove.tracks (untouched_of_moves hstored hmoves).stored ih

section Pass

variable {Says : Verdicts} {t : Activation}

theorem PassKept.complete_iff (h : PassKept Says c c') : c'.Complete b ↔ c.Complete b := by
  unfold Chainstate.Complete
  rw [h.sameTree.ancestry]
  refine forall₂_congr fun a _ => ?_
  obtain ⟨anchor, ha⟩ := h.block a
  rw [ha]

theorem PassKept.tip_complete (h : PassKept Says c c') (hc : ∀ t ∈ c.tip, c.Complete t) :
    ∀ t ∈ c'.tip, c'.Complete t := by
  intro t ht
  obtain ⟨t₀, ht₀, hmem⟩ := Chainstate.mem_active.1 (h.tip t ht)
  exact h.complete_iff.2 ((hc t₀ ht₀).ancestor hmem)

/-- A block of the chain that does not sort below the tip is the tip. -/
theorem Chainstate.tip_of_mem_active (hb : b ∈ c.active) (hworse : ¬c.WorseThanTip b) :
    c.tip = some b := by
  obtain ⟨t, ht, hbt⟩ := mem_active.1 hb
  obtain rfl | hlt := BlockMap.worse_of_mem_ancestry hbt
  · exact ht
  · exact absurd ⟨t, ht, hlt⟩ hworse

/-- **A pass keeps a complete block that the node knows**; the tip has to be a candidate, unless the
pass uncovers it. -/
theorem PassDone.kept_complete (h : PassDone Says c t) (hstored : Stored c) (hb : c.Complete b)
    (hworse : ¬t.chain.WorseThanTip b)
    (hknown : b ∈ c.setBlockIndexCandidates ∨
      c.Known b ∧ ¬(t.chain.tip = some b ∧ c.tip = some b)) :
    b ∈ t.chain.setBlockIndexCandidates ∨
      b ∈ t.chain.suppressedCandidates ∧ b ∉ t.chain.active := by
  have hstored' := h.toPassKept.stored hstored
  have hb' : t.chain.Complete b := h.toPassKept.complete_iff.2 hb
  by_cases hactive : b ∈ t.chain.active
  · have htip := Chainstate.tip_of_mem_active hactive hworse
    obtain ⟨hdata, hfailed⟩ := hb' b (Forest.self_mem_ancestry b)
    obtain ⟨hvalid, htxs⟩ := hstored'.data b hdata
    refine .inl (h.tip_candidate b htip ⟨hfailed, hvalid⟩ htxs fun hsame => ?_)
    exact hknown.resolve_right fun hn => hn.2 ⟨htip, hsame.symm.trans htip⟩
  · have hknown' : c.Known b := hknown.elim (fun hcand => .inr (.inl hcand)) And.left
    exact (h.kept b (hstored'.eligible hb' hactive) hknown').imp_right fun hsupp => ⟨hsupp, hactive⟩

/-- Behind a pass that has not stalled, the ancestors of a candidate are candidates. -/
theorem PassDone.closedBelow (h : PassDone Says c t) (hstored : Stored c)
    (hstalled : t.stalled = false)
    (hknown : ∀ b, t.chain.Complete b → t.chain.blocks.Tops held b → ¬t.chain.WorseThanTip b →
      b ∈ t.chain.setBlockIndexCandidates ∨
        b ∈ t.chain.suppressedCandidates ∧ b ∉ t.chain.active)
    (hg : g ∈ t.chain.setBlockIndexCandidates) (hcomplete : t.chain.Complete g) :
    ClosedBelow held t.chain g := by
  intro b hb htops hworse
  have hstored' := h.toPassKept.stored hstored
  have hb' := hcomplete.ancestor hb
  obtain hcand | ⟨hsupp, hoff⟩ := hknown b hb' htops hworse
  · exact hcand
  -- the branch of the candidate is active, and the block is on it
  have hgoff : g ∉ t.chain.active := fun hon => hoff (Chainstate.mem_active_trans hon hb)
  have hverdict := h.verdicts hstalled
  obtain ⟨hactive, -⟩ | ⟨-, hn⟩ :=
    hverdict g (hstored'.eligible hcomplete hgoff) (h.known g (.inl hg))
  · obtain ⟨-, hcand⟩ | ⟨⟨x, hx, horphaned⟩, -⟩ :=
      hverdict b (hstored'.eligible hb' hoff) (h.known b (.inr hsupp))
    · exact hcand hworse
    · obtain ⟨hxb, hxoff⟩ := Forest.mem_branch.1 hx
      have hxg := hactive x (Forest.mem_branch.2 ⟨Forest.mem_ancestry_trans hb hxb, hxoff⟩)
      exact absurd (hxg.symm.trans horphaned) nofun
  · exact absurd hg hn

theorem PassDone.tracks (h : PassDone Says c t) (hstored : Stored c) (hc : Tracks held c)
    (hold : ∀ t₀ ∈ c.tip, t₀ ∈ held) : Tracks held t.chain := by
  refine ⟨fun x hx => ?_, h.toPassKept.tip_complete hc.tip_complete, fun b hb htops hworse => ?_⟩
  · obtain ⟨anchor, hx'⟩ := h.block x
    rw [hx']
    exact hc.haveData x hx
  · rw [BlockMap.Tops.of_sameTree h.toPassKept.sameTree] at htops
    rw [h.toPassKept.complete_iff] at hb
    have hworse' : ¬c.WorseThanTip b := fun ⟨t₀, ht₀, hlt⟩ => htops t₀ (hold t₀ ht₀) hlt
    refine h.kept_complete hstored hb hworse ?_
    refine (hc.known b hb htops hworse').imp_right fun ⟨hsupp, hoff⟩ => ⟨.inr (.inr hsupp), ?_⟩
    rintro ⟨-, htip⟩
    exact hoff (Chainstate.mem_active.2 ⟨b, htip, Forest.self_mem_ancestry b⟩)

end Pass

/-! ### The node -/

/-- The node knows the complete blocks that sort below none of its tips. -/
structure NodeState.Tracking (s : NodeState) : Prop where
  stored : s.Stored
  /-- The tip is among the tips the node has had. -/
  held : ∀ t ∈ s.chain.tip, t ∈ s.held
  tracks : s.failed = false → Tracks s.held s.chain
  loop : s.failed = false → ∀ loop ∈ s.loop,
    ElementsDrivechain.Tracking s.held loop.mostWork s.chain

theorem NodeMove.tracking {Says : Verdicts} {Holds : DrivechainAnchorSnapshot → Prop}
    {s' : NodeState} (h : NodeMove Says Holds s s') (hs : s.Tracking) : s'.Tracking := by
  have hstored := h.stored hs.stored
  have hheld : ∀ (c : Chainstate), ∀ t ∈ c.tip, t ∈ c.tip.toList ++ s.held :=
    fun c t ht => List.mem_append_left _ (Option.mem_toList.2 ht)
  cases h with
  | accepted hidle h =>
    have hu := untouched_of_moves hs.stored.chain h
    refine ⟨hstored, fun t ht => hs.held t (hu.tip ▸ ht), fun hf => ?_, fun _ loop hl => ?_⟩
    · exact (hs.tracks hf).accepted hs.stored.chain h
    · exact absurd (hidle.symm.trans hl) nofun
  | prepared hidle _ =>
    refine ⟨hstored, hs.held, fun hf => ?_, fun _ loop hl => absurd (hidle.symm.trans hl) nofun⟩
    exact ⟨(hs.tracks hf).haveData, (hs.tracks hf).tip_complete, (hs.tracks hf).known⟩
  | reconciled hidle h =>
    cases h with
    | @done t h =>
      have htracks : s.failed = false → Tracks s.held t.chain :=
        fun hf => h.tracks hs.stored.chain (hs.tracks hf) hs.held
      refine ⟨hstored, hheld t.chain, fun hf => (htracks hf).hold hstored.chain,
        fun hf loop hl => ?_⟩
      simp only at hl
      split_ifs at hl with hstalled
      · exact absurd hl nofun
      · obtain rfl := Option.some.inj hl
        refine Tracking.hold ⟨htracks hf, fun g hg hcomplete => ?_, nofun, nofun⟩ hstored.chain
        exact h.closedBelow hs.stored.chain (by simpa using hstalled) (htracks hf).known hg
          hcomplete
    | idle => exact ⟨hstored, hheld s.chain, fun hf => (hs.tracks hf).hold hstored.chain, nofun⟩
    | @failed t h => exact ⟨hstored, hheld t.chain, nofun, nofun⟩
  | activated hloop h =>
    cases h with
    | idle hchosen h =>
      refine ⟨hstored, hheld _, fun hf => ?_, nofun⟩
      have hc := hchosen.tracking (hs.loop hf _ hloop)
      rw [← h] at hc
      exact hc.toTracks.hold hstored.chain
    | step hchosen h hnext =>
      have hstep := fun hf : s.failed = false =>
        h.tracking (fun old ho => hs.held old (hchosen.discarded.tip.symm.trans ho))
          (hchosen.tracking (hs.loop hf _ hloop))
      refine ⟨hstored, hheld _, fun hf => (hstep hf).1.hold hstored.chain, fun hf l hl => ?_⟩
      obtain ⟨hstalled, hmost | ⟨hmost, hfound⟩⟩ := hnext l hl
      · rw [hmost]
        exact ((hstep hf).2 hstalled).1.hold hstored.chain
      · rw [hmost]
        exact (((hstep hf).2 hstalled).2 hfound).hold hstored.chain

theorem NodeStep.tracking {parents : Forest Uint256} {s' : NodeState} {e : NodeEvent}
    (h : NodeStep parents s e s') (hs : s.Tracking) : s'.Tracking := by
  refine h.invariant hs (fun _ hmove => hmove.tracking hs) (fun s tip hs => ?_) ?_
  · exact ⟨⟨hs.stored.chain, hs.stored.mostWork⟩, hs.held, hs.tracks, hs.loop⟩
  · exact ⟨⟨hs.stored.chain, nofun⟩, hs.held, hs.tracks, fun _ => nofun⟩

theorem tracking_initial (genesis tip : Uint256) : (NodeState.initial genesis tip).Tracking := by
  refine ⟨stored_initial genesis tip, nofun, fun _ => ⟨nofun, nofun, fun b hb _ _ => ?_⟩,
    fun _ => nofun⟩
  obtain ⟨hdata, -⟩ := hb b (Forest.self_mem_ancestry b)
  refine .inl (mem_candidates_loadGenesisBlock.2 ?_)
  by_contra hne
  rw [NodeState.initial, block_loadGenesisBlock, if_neg hne] at hdata
  exact absurd hdata nofun

/-- A block of the active chain that every answer leaves there keeps a block below the tip. -/
def KeptBelow (c : Chainstate) (worlds : Stream' NodeWorld) (b : Uint256) : Prop :=
  ∃ a ∈ c.active, c.blocks.Worse b a ∧
    ∀ n, freshStatus c.anchorSnapshot (worlds.get n) (c.block a) ≠ .ORPHANED

/-- Before a pass, the node has not forgotten a complete block below one of its former tips that the
answers of the pass could uncover. -/
structure Sheltered (held : List Uint256) (c : Chainstate) (worlds : Stream' NodeWorld) : Prop where
  /-- A complete block below a former tip is known, or stays below the chain. -/
  known : ∀ b, c.Complete b → (∃ h ∈ held, c.blocks.Worse b h) → c.Known b ∨ KeptBelow c worlds b
  /-- The tip itself is a candidate if the node has had a better one. -/
  tip : ∀ t ∈ c.tip, (∃ h ∈ held, c.blocks.Worse t h) → t ∈ c.setBlockIndexCandidates

theorem Chainstate.Complete.mem_keys (hb : c.Complete b) : b ∈ c.blocks.entries.keys :=
  Std.ExtTreeMap.mem_keys.2 (Stored.mem_of_haveData (hb b (Forest.self_mem_ancestry b)).1)

instance (c : Chainstate) (b : Uint256) : Decidable (c.Known b) :=
  inferInstanceAs (Decidable (_ ∨ _))

/-- The anchors of a branch have all been found active in the pass. -/
def Activation.BranchActive (t : Activation) (b : Uint256) : Prop :=
  ∀ x ∈ t.chain.branch b, t.statusCache[x]? = some .ACTIVE

/-- The best complete branch that the parent chain supports is the one that is selected. -/
def Activation.BestSelected (t : Activation) : Prop :=
  (∀ m ∈ t.chain.findMostWorkChain.1, t.chain.Complete m ∧ t.BranchActive m) ∧
    ∀ b, t.chain.Complete b → t.BranchActive b →
      ∃ m ∈ t.chain.findMostWorkChain.1, ¬t.chain.blocks.Worse m b

section Select

variable {Says : Verdicts} {t : Activation} (h : PassDone Says c t) (hstored : Stored c)
  (hstalled : t.stalled = false) (htip : ∀ t' ∈ t.chain.tip, t.chain.Complete t')
  (hkept : ∀ b, t.chain.Complete b → ¬t.chain.WorseThanTip b →
    b ∈ t.chain.setBlockIndexCandidates ∨ b ∈ t.chain.suppressedCandidates ∧ b ∉ t.chain.active)

include h hstored hstalled htip hkept

/-- A branch that is found active is no better than one of the candidates. -/
theorem PassDone.candidate_of_branchActive (hb : t.chain.Complete b)
    (hactive : t.BranchActive b) :
    ∃ g ∈ t.chain.setBlockIndexCandidates, t.chain.Complete g ∧ ¬t.chain.blocks.Worse g b := by
  by_cases hworse : t.chain.WorseThanTip b
  · -- the tip is a candidate
    obtain ⟨t', ht', hlt⟩ := hworse
    have hself : ¬t.chain.WorseThanTip t' := by
      rintro ⟨t'', ht'', hlt''⟩
      obtain rfl := Option.some.inj (ht'.symm.trans ht'')
      exact BlockMap.not_worse_self hlt''
    obtain hcand | ⟨-, hoff⟩ := hkept t' (htip t' ht') hself
    · exact ⟨t', hcand, htip t' ht', hlt.asymm⟩
    · exact absurd (Chainstate.mem_active.2 ⟨t', ht', Forest.self_mem_ancestry t'⟩) hoff
  · refine ⟨b, ?_, hb, BlockMap.not_worse_self⟩
    obtain hcand | ⟨hsupp, hoff⟩ := hkept b hb hworse
    · exact hcand
    · have heligible := (h.toPassKept.stored hstored).eligible hb hoff
      obtain ⟨-, hcand⟩ | ⟨⟨x, hx, horphaned⟩, -⟩ :=
        h.verdicts hstalled b heligible (h.known b (.inr hsupp))
      · exact hcand hworse
      · exact absurd ((hactive x hx).symm.trans horphaned) nofun

theorem PassDone.bestSelected : t.BestSelected := by
  have hfound := findMostWorkChain_spec t.chain
  refine ⟨fun m hm => ?_, fun b hb hactive => ?_⟩
  · have hcomplete := (hfound.found_complete hm htip).of_flagged hfound.flagged
    have hmem := hfound.candidate m (hfound.mem m hm)
    refine ⟨hcomplete, ?_⟩
    by_cases hon : m ∈ t.chain.active
    · intro x hx
      rw [Chainstate.branch, Forest.branch_of_mem hon] at hx
      exact absurd hx List.not_mem_nil
    · have heligible := (h.toPassKept.stored hstored).eligible hcomplete hon
      obtain ⟨hm', -⟩ | ⟨-, hn⟩ := h.verdicts hstalled m heligible (h.known m (.inl hmem))
      · exact hm'
      · exact absurd hmem hn
  · obtain ⟨g, hg, hcomplete, hgb⟩ :=
      h.candidate_of_branchActive hstored hstalled htip hkept hb hactive
    have hg' : g ∈ t.chain.findMostWorkChain.2.setBlockIndexCandidates := by
      by_contra hn
      exact hfound.dropped g hg hn hcomplete
    cases hr : t.chain.findMostWorkChain.1 with
    | none => exact absurd hg' (hfound.exhausted hr g)
    | some m =>
      have hmg := hfound.best m hr g hg'
      rw [hfound.flagged.sameTree.worse_iff] at hmg
      exact ⟨m, rfl, BlockMap.not_worse_trans hmg hgb⟩

end Select

theorem Tracks.known_of_sheltered (hc : Tracks held c) (hold : ∀ t ∈ c.tip, t ∈ held)
    (hsheltered : Sheltered held c worlds) (hb : c.Complete b) (hbelow : ¬KeptBelow c worlds b) :
    b ∈ c.setBlockIndexCandidates ∨ c.Known b ∧ c.tip ≠ some b := by
  by_cases htops : c.blocks.Tops held b
  · have hworse' : ¬c.WorseThanTip b := fun ⟨t, ht, hlt⟩ => htops t (hold t ht) hlt
    refine (hc.known b hb htops hworse').imp_right fun ⟨hsupp, hoff⟩ => ⟨.inr (.inr hsupp), ?_⟩
    exact fun htip => hoff (Chainstate.mem_active.2 ⟨b, htip, Forest.self_mem_ancestry b⟩)
  · have hworse : ∃ h ∈ held, c.blocks.Worse b h := by simpa [BlockMap.Tops] using htops
    by_cases htip : c.tip = some b
    · exact .inl (hsheltered.tip b htip hworse)
    · exact .inr ⟨(hsheltered.known b hb hworse).resolve_right hbelow, htip⟩

/-- What stays on the chain stays below the tip. -/
theorem KeptBelow.worseThanTip (h : KeptBelow c worlds b) (htree : c.blocks.SameTree c'.blocks)
    (hkept : ∀ a ∈ c.active, (∀ n, freshStatus c.anchorSnapshot (worlds.get n) (c.block a) ≠
      .ORPHANED) → a ∈ c'.active) : c'.WorseThanTip b := by
  obtain ⟨a, ha, hba, hanswers⟩ := h
  obtain ⟨t, ht, hat⟩ := Chainstate.mem_active.1 (hkept a ha hanswers)
  refine ⟨t, ht, ?_⟩
  have hba' := htree.worse_iff.2 hba
  obtain rfl | hlt := BlockMap.worse_of_mem_ancestry hat
  · exact hba'
  · exact hba'.trans hlt

/-- **After a pass that uncovers no forgotten block the candidates are complete**, and if the pass
has not stalled, the best branch that the parent chain supports is selected. -/
theorem candidates_tracked {parents : Forest Uint256} {genesis tip : Uint256}
    {events : List NodeEvent} {t : Activation}
    (hrun : Run (NodeStep parents) (.initial genesis tip) events s) (hdisk : s.failed = false)
    (hsheltered : Sheltered s.held s.chain worlds)
    (hpass : t ∈ returned reconcileDrivechainAnchors (s.start worlds)) :
    t.chain.Tracked ∧ (t.stalled = false → t.BestSelected) := by
  have hs : s.Tracking := hrun.invariant (tracking_initial genesis tip)
    fun _ _ _ hs hstep => hstep.tracking hs
  have htracks := hs.tracks hdisk
  obtain hdone | ⟨hchain, hstalled⟩ :=
    reconcile_triple.returned (passStart_orphanedAnswered s) hpass
  · have hkept : ∀ b, t.chain.Complete b → ¬t.chain.WorseThanTip b →
        b ∈ t.chain.setBlockIndexCandidates ∨
          b ∈ t.chain.suppressedCandidates ∧ b ∉ t.chain.active := by
      intro b hb hworse
      rw [hdone.toPassKept.complete_iff] at hb
      refine hdone.kept_complete hs.stored.chain hb hworse ?_
      refine (htracks.known_of_sheltered hs.held hsheltered hb ?_).imp_right (And.imp_right ?_)
      · exact fun hbelow => hworse (hbelow.worseThanTip
          hdone.toPassKept.sameTree fun _ => hdone.toPassKept.mem_active)
      · exact fun hne htips => hne htips.2
    refine ⟨fun b hb hworse => (hkept b hb hworse).imp_right And.left, fun hstalled => ?_⟩
    exact hdone.bestSelected hs.stored.chain hstalled
      (hdone.toPassKept.tip_complete htracks.tip_complete) hkept
  · refine ⟨fun b hb hworse => ?_, fun hn => absurd (hstalled.symm.trans hn) nofun⟩
    rw [hchain] at hb hworse ⊢
    have hbelow : ¬KeptBelow s.chain worlds b :=
      fun h => hworse (h.worseThanTip (.refl _) fun _ ha _ => ha)
    obtain hcand | ⟨hon | hsets, htip⟩ := htracks.known_of_sheltered hs.held hsheltered hb hbelow
    · exact .inl hcand
    · exact absurd (Chainstate.tip_of_mem_active hon hworse) htip
    · exact hsets

/-! ### A block that is forgotten -/

namespace Sample

/-- A parent chain of three blocks that forks above its last one. -/
def forkTable : List (Uint256 × Uint256 × ℕ) :=
  [(.ofByte 17, .ofByte 16, 1), (.ofByte 18, .ofByte 17, 2),
    (.ofByte 19, .ofByte 18, 3), (.ofByte 20, .ofByte 19, 4),
    (.ofByte 35, .ofByte 18, 3), (.ofByte 36, .ofByte 35, 4), (.ofByte 37, .ofByte 36, 5)]

/-- One branch commits to a sidechain block, the common part commits to another one. -/
def fork : ParentNode where
  parents := .ofTable forkTable (by decide +kernel)
  chainwork hash := .ofByte (.ofNat (Forest.tableHeight forkTable hash + 1))
  commits b :=
    if b = .ofByte 2 then [.ofByte 20] else if b = .ofByte 3 then [.ofByte 18] else []

/-- A block is connected, and the parent branch that commits to it is given up. -/
def orphaned : List Scene :=
  [.call .reconcile, .call .activate, .call (.acceptBlock (.ofByte 2) (.ofByte 1)),
    .call .reconcile, .call .activate, .reorganised (.ofByte 37)]

/-- The same, but another block of equal work has arrived behind the first one. -/
def orphanedBesides : List Scene :=
  [.call .reconcile, .call .activate, .call (.acceptBlock (.ofByte 2) (.ofByte 1)),
    .call .reconcile, .call .activate, .call (.acceptBlock (.ofByte 3) (.ofByte 1)),
    .reorganised (.ofByte 37)]

end Sample

open Sample

/-- The pass falls back to the first block, and nothing better is left. -/
theorem candidates_tracked_orphaned :
    ∃ s ∈ fork.play (.initial (.ofByte 1) (.ofByte 20)) orphaned,
      ∃ t ∈ returned reconcileDrivechainAnchors (s.start (.const (fork.world s.parentTip))),
        s.chain.tip = some (.ofByte 2) ∧ t.chain.tip = some (.ofByte 1) ∧ t.chain.Tracked ∧
          t.BestSelected := by
  obtain ⟨s, hs, t, ht, hdisk, hknown, hcand, hstalled, htip, htip'⟩ :
      ∃ s ∈ fork.play (.initial (.ofByte 1) (.ofByte 20)) orphaned,
        ∃ t ∈ returned reconcileDrivechainAnchors (s.start (.const (fork.world s.parentTip))),
          s.failed = false ∧
            (∀ b ∈ s.chain.blocks.entries.keys, s.chain.Complete b → s.chain.Known b) ∧
            (∀ t ∈ s.chain.tip, t ∈ s.chain.setBlockIndexCandidates) ∧ t.stalled = false ∧
            s.chain.tip = some (.ofByte 2) ∧ t.chain.tip = some (.ofByte 1) := by
    decide +kernel
  obtain ⟨events, hrun, -⟩ := ParentNode.run_play hs
  have h := candidates_tracked hrun hdisk
    ⟨fun b hb _ => .inl (hknown b hb.mem_keys hb), fun t ht _ => hcand t ht⟩ ht
  exact ⟨s, hs, t, ht, htip, htip', h.1, h.2 hstalled⟩

/-- A block that arrived behind the orphaned one is complete, anchored in the parent chain and
better than the tip, but it is in neither set, and the node stays at its first block. -/
theorem forgotten_block_not_tracked :
    ∃ events s t, Run (NodeStep fork.parents) (.initial (.ofByte 1) (.ofByte 20)) events s ∧
      s.failed = false ∧
      t ∈ returned reconcileDrivechainAnchors (s.start (.const (fork.world s.parentTip))) ∧
      t.stalled = false ∧ ¬t.chain.Tracked ∧
      ∃ b m, t.chain.Complete b ∧ t.chain.branch b = [b] ∧
        (∃ anchor ∈ (t.chain.block b).drivechainAnchor,
          anchorStatus anchor ((fork.world s.parentTip).anchorReads anchor) = .ACTIVE) ∧
        t.chain.findMostWorkChain.1 = some m ∧ t.chain.blocks.Worse m b := by
  obtain ⟨s, hs, t, ht, hdisk, hstalled, hcomplete, hworse, hcand, hsupp, hbranch, hanchor, hm,
      hmb⟩ :
      ∃ s ∈ fork.play (.initial (.ofByte 1) (.ofByte 20)) orphanedBesides,
        ∃ t ∈ returned reconcileDrivechainAnchors (s.start (.const (fork.world s.parentTip))),
          s.failed = false ∧ t.stalled = false ∧ t.chain.Complete (.ofByte 3) ∧
          ¬t.chain.WorseThanTip (.ofByte 3) ∧ .ofByte 3 ∉ t.chain.setBlockIndexCandidates ∧
          .ofByte 3 ∉ t.chain.suppressedCandidates ∧ t.chain.branch (.ofByte 3) = [.ofByte 3] ∧
          (∃ anchor ∈ (t.chain.block (.ofByte 3)).drivechainAnchor,
            anchorStatus anchor ((fork.world s.parentTip).anchorReads anchor) = .ACTIVE) ∧
          t.chain.findMostWorkChain.1 = some (.ofByte 1) ∧
          t.chain.blocks.Worse (.ofByte 1) (.ofByte 3) := by
    decide +kernel
  obtain ⟨events, hrun, -⟩ := ParentNode.run_play hs
  refine ⟨events, s, t, hrun, hdisk, ht, hstalled, fun htracked => ?_,
    .ofByte 3, .ofByte 1, hcomplete, hbranch, hanchor, hm, hmb⟩
  exact (htracked _ hcomplete hworse).elim hcand hsupp

end ElementsDrivechain
