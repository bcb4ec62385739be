import ElementsDrivechain.Anchors.Reconcile

/-!
# What the parts of a pass do

The verdicts of a pass depend on the worlds it meets.  The results of this file are stated for any
relation `Says` between blocks and verdicts that contains all the verdicts these worlds can give:
an instance of it says what an active or an orphaned anchor means.

* `disconnectPhase_triple`, `reanchorPhase_triple` : the first two parts.
* `chainStatus_triple` : the questions about one branch, for the third.
-/

namespace ElementsDrivechain

open Effects

variable {b x t : Uint256} {Q : Unit → Activation → Prop} {status : DrivechainAnchorStatus}
  {c : Chainstate}

/-! ### Verdicts -/

/-- What may be said of the anchors of blocks, with what is stored of them. -/
abbrev Verdicts := Uint256 → CBlockIndex → DrivechainAnchorStatus → Prop

/-- Every verdict the worlds can give is among those that may be said. -/
structure Sound (Says : Verdicts) (snapshot : Option DrivechainAnchorSnapshot)
    (worlds : Stream' NodeWorld) : Prop where
  /-- A fresh answer may be said. -/
  fresh : ∀ n b e, Says b e (freshStatus snapshot (worlds.get n) e)
  /-- When a snapshot has expired, every block is unavailable. -/
  expired : ∀ n, ¬SnapshotUsable snapshot (worlds.get n) → ∀ b e, Says b e .UNAVAILABLE

/-- A block that is bound to another edge of the parent chain may be called active. -/
def EdgesSound (Says : Verdicts) (blocks : BlockMap) (worlds : Stream' NodeWorld) : Prop :=
  ∀ n b anchor, ((worlds.get n).bmmReads b).status = .VALID →
    anchor = makeDrivechainAnchor ((worlds.get n).bmmReads b).context →
    (blocks.block b).drivechainAnchor ≠ some anchor →
    Says b ((blocks.block b).withAnchor anchor) .ACTIVE

theorem Sound.tail {Says : Verdicts} {snapshot : Option DrivechainAnchorSnapshot}
    {worlds : Stream' NodeWorld} (h : Sound Says snapshot worlds) :
    Sound Says snapshot worlds.tail :=
  ⟨fun n => h.fresh (n + 1), fun n => h.expired (n + 1)⟩

theorem EdgesSound.tail {Says : Verdicts} {blocks : BlockMap} {worlds : Stream' NodeWorld}
    (h : EdgesSound Says blocks worlds) :
    EdgesSound Says blocks worlds.tail :=
  fun n => h (n + 1)

namespace Activation

variable (s : Activation)

/-- The verdict on a block. -/
def verdict (b : Uint256) : DrivechainAnchorStatus :=
  if ¬SnapshotUsable s.chain.anchorSnapshot s.worlds.head then .UNAVAILABLE
  else (s.statusCache[b]?).getD
    (freshStatus s.chain.anchorSnapshot s.worlds.tail.head (s.chain.block b))

/-- The call after a verdict. -/
def asked (b : Uint256) (status : DrivechainAnchorStatus) : Activation :=
  { s with statusCache := s.statusCache.insert b status, worlds := s.worlds.tail.tail }

end Activation

theorem getStatus_eq (s : Activation) (b : Uint256) :
    getStatus b s = .ok (s.verdict b) (s.asked b (s.verdict b)) := rfl

section Rules

variable {α : Type} {P E : Activation → Prop}

theorem world_triple {Q : NodeWorld → Activation → Prop}
    (h : ∀ s, P s → Q s.worlds.head { s with worlds := s.worlds.tail }) : Triple P world Q E := h

theorem onChain_triple {f : Chainstate → Chainstate}
    (h : ∀ s, P s → Q () { s with chain := f s.chain }) : Triple P (onChain f) Q E := h

theorem stall_triple (h : ∀ s, P s → Q () { s with stalled := true }) : Triple P stall Q E := h

theorem get_triple {f : Activation → Node α} {Q : α → Activation → Prop}
    (h : ∀ s₀, P s₀ → Triple (· = s₀) (f s₀) Q E) :
    Triple P (get >>= f) Q E :=
  fun s hs => h s hs s rfl

theorem get_again {f : Activation → Node α} {Q : α → Activation → Prop}
    (h : ∀ s₀, P s₀ → Triple P (f s₀) Q E) : Triple P (get >>= f) Q E :=
  get_triple fun s hs => (h s hs).pre (by rintro _ rfl; exact hs)

end Rules

/-- What is known during a pass: the worlds to come are sound, and so is what is remembered. -/
structure PassState (Says : Verdicts) (snapshot : Option DrivechainAnchorSnapshot)
    (s : Activation) : Prop where
  sound : Sound Says snapshot s.worlds
  snapshot_eq : s.chain.anchorSnapshot = snapshot
  /-- What is remembered was said of the block as it is. -/
  remembered : ∀ b status, s.statusCache[b]? = some status → Says b (s.chain.block b) status

namespace PassState

variable {Says : Verdicts} {snapshot : Option DrivechainAnchorSnapshot} {s : Activation}

theorem verdict (h : PassState Says snapshot s) (b : Uint256) :
    Says b (s.chain.block b) (s.verdict b) := by
  unfold Activation.verdict
  rw [h.snapshot_eq]
  split_ifs with husable
  · cases hcached : s.statusCache[b]? with
    | none => exact h.sound.fresh 1 b _
    | some status => exact h.remembered b status hcached
  · exact h.sound.expired 0 husable b _

theorem asked (h : PassState Says snapshot s) (b : Uint256) :
    PassState Says snapshot (s.asked b (s.verdict b)) where
  sound := h.sound.tail.tail
  snapshot_eq := h.snapshot_eq
  remembered := by
    intro x status hx
    rw [Activation.asked, Maps.getElem?_insert] at hx
    split_ifs at hx with hxb
    · obtain rfl := hxb
      obtain rfl := Option.some.inj hx
      exact h.verdict x
    · exact h.remembered x status hx

theorem world (h : PassState Says snapshot s) :
    PassState Says snapshot { s with worlds := s.worlds.tail } :=
  ⟨h.sound.tail, h.snapshot_eq, h.remembered⟩

end PassState

section Disconnect

variable (Says : Verdicts) (c₀ : Chainstate)

/-- The block is on the chain or in one of the two sets. -/
def Chainstate.Known (c : Chainstate) (b : Uint256) : Prop :=
  b ∈ c.active ∨ b ∈ c.setBlockIndexCandidates ∨ b ∈ c.suppressedCandidates

/-- The chain has lost some blocks from its end, all of them orphaned. -/
structure Dropped (c : Chainstate) : Prop where
  blocks : c.blocks = c₀.blocks
  anchorSnapshot : c.anchorSnapshot = c₀.anchorSnapshot
  tip : ∀ t ∈ c.tip, t ∈ c₀.active
  /-- What the chain has lost is orphaned. -/
  orphaned : ∀ b ∈ c₀.active, b ∉ c.active →
    (c₀.block b).nHeight ≠ 0 ∧ Says b (c₀.block b) .ORPHANED
  known : ∀ b, b ∈ c.setBlockIndexCandidates ∨ b ∈ c.suppressedCandidates → c₀.Known b

/-- The blocks that the chain has lost are suppressed. -/
structure Disconnected (c : Chainstate) : Prop extends Dropped Says c₀ c where
  candidate_kept : ∀ b ∈ c₀.setBlockIndexCandidates, (b ∈ c₀.active → b ∈ c.active) →
    b ∈ c.setBlockIndexCandidates
  suppressed : ∀ b, b ∈ c.suppressedCandidates ↔
    b ∈ c₀.suppressedCandidates ∨ b ∈ c₀.active ∧ b ∉ c.active

/-- All the time in the loop. -/
structure DisconnectLoop (s : Activation) : Prop where
  pass : PassState Says c₀.anchorSnapshot s
  edges : EdgesSound Says c₀.blocks s.worlds
  chain : Disconnected Says c₀ s.chain
  started : s.blocksDisconnected = false → s.chain = c₀
  moved : s.blocksDisconnected = true → s.chain.tip ≠ c₀.tip

/-- The loop at its head. -/
structure Disconnecting (n : ℕ) (s : Activation) : Prop extends DisconnectLoop Says c₀ s where
  stalled : s.stalled = false
  /-- So many rounds are enough. -/
  bound : ∀ t ∈ s.chain.tip, (c₀.block t).nHeight ≤ n

/-- Where the loop ends: the tip is supported, or the pass has stalled at it. -/
structure DisconnectDone (s : Activation) : Prop extends DisconnectLoop Says c₀ s where
  settled : ∀ t ∈ s.chain.tip, (c₀.block t).nHeight ≠ 0 →
    s.stalled = false ∧ Says t (c₀.block t) .ACTIVE ∨
      s.stalled = true ∧ Says t (c₀.block t) .UNAVAILABLE

variable {Says c₀}

theorem Chainstate.mem_active : x ∈ c.active ↔ ∃ t ∈ c.tip, x ∈ c.blocks.ancestry t := by
  unfold active
  cases c.tip with
  | none => simp [Forest.chain]
  | some t => simp [BlockMap.ancestry]

theorem Chainstate.mem_active_trans {y : Uint256} (hx : x ∈ c.active)
    (hy : y ∈ c.blocks.ancestry x) : y ∈ c.active :=
  Forest.mem_chain_trans hx hy

theorem Dropped.block_eq (h : Dropped Says c₀ c) (b : Uint256) : c.block b = c₀.block b := by
  rw [Chainstate.block, h.blocks, Chainstate.block]

theorem Chainstate.active_tip (h : c.tip = some t) :
    c.active = t :: (c.blocks.forest.chain (c.block t).pprev) := by
  unfold active
  rw [h, Forest.chain_some]
  cases hp : (c.block t).pprev with
  | none => exact Forest.ancestry_root hp
  | some p => exact Forest.ancestry_parent hp

theorem Chainstate.tip_not_mem_below : t ∉ c.blocks.forest.chain (c.block t).pprev := by
  cases hp : (c.block t).pprev with
  | none => exact List.not_mem_nil
  | some p =>
    intro hmem
    have hle : (c.block t).nHeight ≤ (c.block p).nHeight := Forest.height_le_of_mem hmem
    have heq : (c.block t).nHeight = (c.block p).nHeight + 1 := c.blocks.nHeight_pprev t p hp
    omega

theorem Dropped.known_suppress (h : Dropped Says c₀ c) (ht : t ∈ c₀.active) (b : Uint256)
    (hb : b ∈ (c.suppress t).setBlockIndexCandidates ∨
      b ∈ (c.suppress t).suppressedCandidates) : c₀.Known b := by
  obtain hb | hb := hb
  · exact h.known b (.inl (OrdSet.mem_erase_iff.1 hb).2)
  · obtain rfl | hb := OrdSet.mem_insert_iff.1 hb
    · exact .inl ht
    · exact h.known b (.inr hb)

theorem Disconnected.drop (h : Disconnected Says c₀ c) (htip : c.tip = some t)
    (hheight : (c₀.block t).nHeight ≠ 0) (horphaned : Says t (c₀.block t) .ORPHANED) :
    Disconnected Says c₀ { c.suppress t with tip := (c.block t).pprev } := by
  have hactive := Chainstate.active_tip htip
  have hmem : ∀ b, b ∈ c.active ↔ b = t ∨ b ∈ c.blocks.forest.chain (c.block t).pprev := by
    simp [hactive]
  have hnot : t ∉ c.blocks.forest.chain (c.block t).pprev := Chainstate.tip_not_mem_below
  have ht₀ : t ∈ c₀.active := h.tip t htip
  refine ⟨⟨h.blocks, h.anchorSnapshot, ?_, ?_, h.known_suppress ht₀⟩, ?_, ?_⟩
  · intro p hp
    refine Chainstate.mem_active_trans ht₀ ?_
    rw [← h.blocks]
    exact Forest.parent_mem_ancestry hp
  · intro b hb hdropped
    change b ∉ c.blocks.forest.chain (c.block t).pprev at hdropped
    by_cases hbt : b = t
    · exact hbt ▸ ⟨hheight, horphaned⟩
    · exact h.orphaned b hb fun hbc => hdropped (((hmem b).1 hbc).resolve_left hbt)
  · intro b hb hstay
    change _ → b ∈ c.blocks.forest.chain (c.block t).pprev at hstay
    have hne : b ≠ t := by
      rintro rfl
      exact hnot (hstay ht₀)
    refine OrdSet.mem_erase_iff.2 ⟨hne, h.candidate_kept b hb fun hactive => ?_⟩
    exact (hmem b).2 (.inr (hstay hactive))
  · intro b
    change b ∈ c.suppressedCandidates.insert t ↔
      _ ∨ _ ∧ b ∉ c.blocks.forest.chain (c.block t).pprev
    rw [OrdSet.mem_insert_iff, h.suppressed, hmem]
    grind

theorem Disconnecting.settled {n : ℕ} {s : Activation} {stalled : Bool}
    (hs : Disconnecting Says c₀ n s) (htip : s.chain.tip = some t)
    (hstatus : stalled = false ∧ s.verdict t = .ACTIVE ∨
      stalled = true ∧ s.verdict t = .UNAVAILABLE) :
    DisconnectDone Says c₀ { s.asked t (s.verdict t) with stalled := stalled } := by
  have hasked := hs.pass.asked t
  have hverdict := hs.pass.verdict t
  rw [hs.chain.block_eq] at hverdict
  refine ⟨⟨⟨hasked.sound, hasked.snapshot_eq, hasked.remembered⟩, hs.edges.tail.tail,
    hs.chain, hs.started, hs.moved⟩, ?_⟩
  intro t' ht' _
  obtain rfl : t = t' := Option.some.inj (htip.symm.trans ht')
  obtain ⟨hflag, hst⟩ | ⟨hflag, hst⟩ := hstatus <;> rw [hst] at hverdict
  · exact .inl ⟨hflag, hverdict⟩
  · exact .inr ⟨hflag, hverdict⟩

theorem disconnectOrphaned_triple (n : ℕ) :
    Triple (Disconnecting Says c₀ n) (disconnectOrphaned n)
      (fun _ => DisconnectDone Says c₀) (fun s => Dropped Says c₀ s.chain) := by
  -- by induction on the bound; it is at least the height of the tip
  induction n with
  | zero =>
    refine .pure fun s hs => ⟨hs.toDisconnectLoop, ?_⟩
    intro t ht hheight
    have := hs.bound t ht
    omega
  | succ n ih =>
    refine get_triple fun s hs => ?_
    have hblock := hs.chain.block_eq
    cases htip : s.chain.tip with
    | none =>
      refine .pure ?_
      rintro _ rfl
      exact ⟨hs.toDisconnectLoop, by simp [htip]⟩
    | some t =>
      simp only [hblock]
      refine .ite (fun hzero => .pure ?_) fun hheight => ?_
      · rintro _ rfl
        refine ⟨hs.toDisconnectLoop, ?_⟩
        intro t' ht' hheight
        obtain rfl : t = t' := Option.some.inj (htip.symm.trans ht')
        exact absurd hzero hheight
      refine .step (getStatus_eq s t) ?_
      cases hst : s.verdict t with
      | ACTIVE =>
        refine .pure ?_
        rintro _ rfl
        have := hs.settled htip (.inl ⟨rfl, hst⟩)
        rwa [hst, ← hs.stalled] at this
      | UNAVAILABLE =>
        refine stall_triple ?_
        rintro _ rfl
        have := hs.settled htip (.inr ⟨rfl, hst⟩)
        rwa [hst] at this
      | ORPHANED =>
        have hverdict := hs.pass.verdict t
        have hasked := hs.pass.asked t
        rw [hblock] at hverdict
        rw [hst] at hverdict hasked
        have hkept : Dropped Says c₀ (s.chain.suppress t) :=
          ⟨hs.chain.blocks, hs.chain.anchorSnapshot, hs.chain.tip, hs.chain.orphaned,
            hs.chain.known_suppress (hs.chain.tip t htip)⟩
        -- the block goes to the suppressed candidates before it is disconnected
        refine .step rfl ?_
        refine .bind (Q := fun _ u => u =
          { s.asked t .ORPHANED with
            chain := { s.chain.suppress t with tip := (s.chain.block t).pprev }
            worlds := s.worlds.tail.tail.tail }) ?_ fun _ => ?_
        · refine .step rfl (.guard (by rintro _ rfl; exact hkept) fun _ => onChain_triple ?_)
          rintro _ rfl
          simp [htip, Activation.asked, Chainstate.suppress, Chainstate.block]
        refine .step rfl (ih.pre ?_)
        rintro _ rfl
        refine ⟨⟨⟨hasked.sound.tail, hasked.snapshot_eq, hasked.remembered⟩,
          hs.edges.tail.tail.tail, hs.chain.drop htip hheight hverdict, nofun, ?_⟩, hs.stalled, ?_⟩
        · intro _ hsame
          -- the new tip is lower than the first one
          have ht₀ : t ∈ c₀.active := hs.chain.tip t htip
          change (s.chain.block t).pprev = c₀.tip at hsame
          rw [Chainstate.active, ← hsame, ← hs.chain.blocks] at ht₀
          exact Chainstate.tip_not_mem_below ht₀
        · intro p hp
          have hlt : (s.chain.block t).nHeight = (s.chain.block p).nHeight + 1 :=
            s.chain.blocks.nHeight_pprev t p hp
          have hbound := hs.bound t htip
          rw [hblock, hblock] at hlt
          omega

variable (Says c₀) in
/-- Where a pass begins. -/
structure PassStart (s : Activation) : Prop where
  pass : PassState Says c₀.anchorSnapshot s
  edges : EdgesSound Says c₀.blocks s.worlds
  chain : s.chain = c₀
  blocksDisconnected : s.blocksDisconnected = false
  stalled : s.stalled = false

variable (Says c₀) in
/-- After the first part of a pass. -/
structure AfterDisconnect (s : Activation) : Prop where
  pass : PassState Says c₀.anchorSnapshot s
  edges : EdgesSound Says c₀.blocks s.worlds
  chain : Disconnected Says c₀ s.chain
  same : s.chain.tip = c₀.tip → s.chain = c₀
  readmitted : ∀ t, s.chain.tip = some t → s.chain.tip ≠ c₀.tip → (c₀.block t).IsValid →
    (c₀.block t).haveNumChainTxs = true → t ∈ s.chain.setBlockIndexCandidates
  settled : ∀ t ∈ s.chain.tip, (c₀.block t).nHeight ≠ 0 →
    s.stalled = false ∧ Says t (c₀.block t) .ACTIVE ∨
      s.stalled = true ∧ Says t (c₀.block t) .UNAVAILABLE

theorem Chainstate.mem_readmitTip :
    b ∈ c.readmitTip.setBlockIndexCandidates ↔ b ∈ c.setBlockIndexCandidates ∨
      c.tip = some b ∧ (c.block b).IsValid ∧ (c.block b).haveNumChainTxs = true := by
  unfold readmitTip
  cases c.tip with
  | none => simp
  | some t =>
    simp only [Option.some.injEq]
    split_ifs with hvalid
    · rw [OrdSet.mem_insert_iff, or_comm]
      refine or_congr_right ⟨?_, fun h => h.1.symm⟩
      rintro rfl
      exact ⟨rfl, hvalid⟩
    · refine ⟨.inl, ?_⟩
      rintro (hb | ⟨rfl, hb⟩)
      · exact hb
      · exact absurd hb hvalid

theorem Disconnected.readmitTip (h : Disconnected Says c₀ c) :
    Disconnected Says c₀ c.readmitTip where
  blocks := h.blocks
  anchorSnapshot := h.anchorSnapshot
  tip := h.tip
  orphaned := h.orphaned
  known := by
    rintro b (hb | hb)
    · obtain hb | ⟨htip, -⟩ := Chainstate.mem_readmitTip.1 hb
      · exact h.known b (.inl hb)
      · exact .inl (h.tip b htip)
    · exact h.known b (.inr hb)
  candidate_kept := fun b hb hstay =>
    Chainstate.mem_readmitTip.2 (.inl (h.candidate_kept b hb hstay))
  suppressed := h.suppressed

/-- **The first part of a pass.** -/
theorem disconnectPhase_triple :
    Triple (PassStart Says c₀) disconnectPhase
      (fun _ => AfterDisconnect Says c₀) (fun s => Dropped Says c₀ s.chain) := by
  refine get_triple fun s ⟨hpass, hedges, hchain, hstart, hstalled⟩ => ?_
  refine .bind (Q := fun _ => DisconnectDone Says c₀)
    ((disconnectOrphaned_triple _).pre ?_) fun _ => .modify ?_
  · rintro _ rfl
    refine ⟨⟨hpass, hedges, ?_, fun _ => hchain, fun h => ?_⟩, hstalled, ?_⟩
    · rw [hchain]
      refine ⟨⟨rfl, rfl, ?_, fun b hb hnot => absurd hb hnot, fun b hb => .inr hb⟩,
        fun b hb _ => hb, fun b => ?_⟩
      · intro t ht
        rw [Chainstate.active_tip ht]
        exact List.mem_cons_self
      · exact ⟨.inl, fun h => h.elim id fun h => absurd h.1 h.2⟩
    · rw [hstart] at h
      exact absurd h Bool.false_ne_true
    · intro t ht
      rw [Option.mem_def.1 ht, hchain]
      exact le_rfl
  · intro s' hs'
    split_ifs with hmoved
    · refine ⟨⟨hs'.pass.sound, hs'.pass.snapshot_eq, hs'.pass.remembered⟩, hs'.edges,
        hs'.chain.readmitTip, fun h => absurd h (hs'.moved hmoved), ?_, hs'.settled⟩
      intro t htip _ hvalid hchaintx
      have hblock : s'.chain.block t = c₀.block t := by
        rw [Chainstate.block, hs'.chain.blocks, Chainstate.block]
      exact Chainstate.mem_readmitTip.2 (.inr ⟨htip, hblock ▸ hvalid, hblock ▸ hchaintx⟩)
    · have hsame := hs'.started (by simpa using hmoved)
      refine ⟨hs'.pass, hs'.edges, hs'.chain, fun _ => hsame, ?_, hs'.settled⟩
      intro t _ hne
      exact absurd (congrArg Chainstate.tip hsame) hne

end Disconnect

/-! ### Binding orphaned blocks to a new edge -/

/-- Two chainstates differ in the anchors of blocks off the active chain only. -/
structure Rebound (c₁ c : Chainstate) : Prop where
  block : ∀ b, ∃ anchor, c.block b = { c₁.block b with drivechainAnchor := anchor }
  /-- Blocks on the chain keep their anchors. -/
  active : ∀ b ∈ c₁.active, c.block b = c₁.block b
  tip : c.tip = c₁.tip
  candidates : c.setBlockIndexCandidates = c₁.setBlockIndexCandidates
  suppressed : c.suppressedCandidates = c₁.suppressedCandidates
  anchorSnapshot : c.anchorSnapshot = c₁.anchorSnapshot

namespace Rebound

variable {c₁ c : Chainstate} {b x y : Uint256}

theorem refl (c : Chainstate) : Rebound c c :=
  ⟨fun b => ⟨(c.block b).drivechainAnchor, rfl⟩, fun _ _ => rfl, rfl, rfl, rfl, rfl⟩

theorem sameTree (h : Rebound c₁ c) : c₁.blocks.SameTree c.blocks := by
  refine ⟨fun b => ?_, fun b => ?_⟩
  · change (c.block b).toBlockPosition = (c₁.block b).toBlockPosition
    obtain ⟨anchor, hb⟩ := h.block b
    rw [hb]
  · change (c.block b).nSequenceId = (c₁.block b).nSequenceId
    obtain ⟨anchor, hb⟩ := h.block b
    rw [hb]

theorem active_eq (h : Rebound c₁ c) : c.active = c₁.active :=
  Chainstate.active_eq_of_sameTree h.sameTree h.tip

theorem position (h : Rebound c₁ c) :
    (c.block b).toBlockPosition = (c₁.block b).toBlockPosition := h.sameTree.position b

theorem block_setAnchor {anchor : DrivechainAnchor} :
    (c.setAnchor b anchor).block x = if x = b then (c.block b).withAnchor anchor else c.block x :=
  BlockMap.block_modify

theorem setAnchor (h : Rebound c₁ c) (hoff : b ∉ c₁.active) (anchor : DrivechainAnchor) :
    Rebound c₁ (c.setAnchor b anchor) where
  block := by
    intro x
    rw [block_setAnchor]
    split_ifs with hx
    · obtain ⟨_, hb⟩ := h.block b
      exact ⟨some anchor, by rw [hb, hx, CBlockIndex.withAnchor]⟩
    · exact h.block x
  active := by
    intro x hx
    have hne : x ≠ b := fun he => hoff (he ▸ hx)
    rw [block_setAnchor, if_neg hne]
    exact h.active x hx
  tip := h.tip
  candidates := h.candidates
  suppressed := h.suppressed
  anchorSnapshot := h.anchorSnapshot

end Rebound

section Reanchor

variable (Says : Verdicts) (c₁ : Chainstate)

/-- The pass has a verdict on the block, and it is not that its anchor is orphaned. -/
def Decided (cache : OrdMap Uint256 DrivechainAnchorStatus) (b : Uint256) : Prop :=
  ∃ status, cache[b]? = some status ∧ status ≠ .ORPHANED

/-- What is known of a block that is bound to a new anchor. -/
structure Replacement (c : Chainstate) (cache : OrdMap Uint256 DrivechainAnchorStatus)
    (b : Uint256) : Prop where
  offChain : b ∉ c₁.active
  orphaned : Says b (c₁.block b) .ORPHANED
  anchors : ∃ old new, (c₁.block b).drivechainAnchor = some old ∧
    (c.block b).drivechainAnchor = some new ∧ old ≠ new ∧ new.IsSane ∧
    ∀ p, (c₁.block b).pprev = some p → (c₁.block p).nHeight ≠ 0 →
      Decided cache p ∧ Says p (c.block p) .ACTIVE ∧
        ∃ previous, (c.block p).drivechainAnchor = some previous ∧ new.Follows previous

/-- While blocks are bound anew. -/
structure Reanchoring (stalled : Bool) (s : Activation) : Prop where
  pass : PassState Says c₁.anchorSnapshot s
  edges : EdgesSound Says c₁.blocks s.worlds
  rebound : Rebound c₁ s.chain
  /-- A block with a new anchor was orphaned, and its verdict is remembered. -/
  replacement : ∀ b, s.chain.block b ≠ c₁.block b →
    Replacement Says c₁ s.chain s.statusCache b ∧ Decided s.statusCache b
  stalled_mono : stalled = true → s.stalled = true

variable {Says c₁} {s : Activation} {b x : Uint256} {stalled : Bool}

theorem Activation.asked_statusCache :
    (s.asked b status).statusCache[x]? = if x = b then some status else s.statusCache[x]? :=
  Maps.getElem?_insert

theorem Activation.verdict_of_cached (h : s.statusCache[b]? = some status) :
    s.verdict b = status ∨ s.verdict b = .UNAVAILABLE := by
  unfold verdict
  split_ifs
  · exact .inl (by rw [h, Option.getD_some])
  · exact .inr rfl

theorem Decided.asked (h : Decided s.statusCache x) :
    Decided (s.asked b (s.verdict b)).statusCache x := by
  obtain ⟨status, hcached, hne⟩ := h
  rw [Decided, Activation.asked_statusCache]
  split_ifs with hx
  · obtain rfl := hx
    refine ⟨_, rfl, ?_⟩
    obtain hv | hv := s.verdict_of_cached hcached <;> rw [hv]
    · exact hne
    · decide
  · exact ⟨status, hcached, hne⟩

theorem Reanchoring.asked (h : Reanchoring Says c₁ stalled s) :
    Reanchoring Says c₁ stalled (s.asked b (s.verdict b)) where
  pass := h.pass.asked b
  edges := h.edges.tail.tail
  rebound := h.rebound
  replacement := by
    intro x hx
    obtain ⟨⟨hoff, horphaned, old, new, hold, hnew, hne, hsane, hprev⟩, hdecided⟩ :=
      h.replacement x hx
    refine ⟨⟨hoff, horphaned, old, new, hold, hnew, hne, hsane, fun p hp hheight => ?_⟩,
      hdecided.asked⟩
    obtain ⟨hdec, hrest⟩ := hprev p hp hheight
    exact ⟨hdec.asked, hrest⟩
  stalled_mono := h.stalled_mono

theorem Reanchoring.world (h : Reanchoring Says c₁ stalled s) :
    Reanchoring Says c₁ stalled { s with worlds := s.worlds.tail } :=
  ⟨h.pass.world, h.edges.tail, h.rebound, fun b hb => h.replacement b hb, h.stalled_mono⟩

theorem Reanchoring.stall (h : Reanchoring Says c₁ stalled s) :
    Reanchoring Says c₁ stalled { s with stalled := true } :=
  ⟨⟨h.pass.sound, h.pass.snapshot_eq, h.pass.remembered⟩, h.edges, h.rebound,
    fun b hb => h.replacement b hb, fun _ => rfl⟩

/-- The block may be bound anew: it is off the chain, orphaned, and the anchor it has to follow is
the active one of its predecessor. -/
structure MayReplace (candidate : Uint256) (predecessor : Option DrivechainAnchor)
    (s : Activation) : Prop where
  offChain : candidate ∉ s.chain.active
  orphaned : s.statusCache[candidate]? = some .ORPHANED
  predecessor : ∀ p, (s.chain.block candidate).pprev = some p → (s.chain.block p).nHeight ≠ 0 →
    s.statusCache[p]? = some .ACTIVE ∧ (s.chain.block p).drivechainAnchor = predecessor ∧
      predecessor ≠ none

/-- **An orphaned block off the chain is bound to a new edge.** -/
theorem Reanchoring.replace (h : Reanchoring Says c₁ stalled s) {candidate : Uint256}
    {predecessor : Option DrivechainAnchor} (hmay : MayReplace candidate predecessor s)
    {old replacement : DrivechainAnchor}
    (hold : (s.chain.block candidate).drivechainAnchor = some old)
    (hallowed : IsDrivechainAnchorReplacementAllowed .ORPHANED old replacement predecessor)
    (hsaid : (c₁.block candidate).drivechainAnchor ≠ some replacement →
      Says candidate ((c₁.block candidate).withAnchor replacement) .ACTIVE) :
    Reanchoring Says c₁ stalled
      { s with
        chain := s.chain.setAnchor candidate replacement
        statusCache := s.statusCache.insert candidate .ACTIVE
        anchorsReplaced := true } := by
  have hoff : candidate ∉ c₁.active := h.rebound.active_eq ▸ hmay.offChain
  have hdecided_ne : ∀ {y}, Decided s.statusCache y → y ≠ candidate := by
    rintro y ⟨status, hcached, hne⟩ rfl
    rw [hmay.orphaned] at hcached
    exact hne (Option.some.inj hcached).symm
  have hblock : ∀ {y}, y ≠ candidate →
      (s.chain.setAnchor candidate replacement).block y = s.chain.block y := by
    intro y hy
    rw [Rebound.block_setAnchor, if_neg hy]
  have hdecided : ∀ {y}, Decided s.statusCache y →
      Decided (s.statusCache.insert candidate .ACTIVE) y := by
    rintro y hy
    have hne := hdecided_ne hy
    obtain ⟨status, hcached, hst⟩ := hy
    exact ⟨status, by rw [Maps.getElem?_insert, if_neg hne, hcached], hst⟩
  -- the block had its first anchor until now
  have hfirst : s.chain.block candidate = c₁.block candidate := by
    by_contra hne
    exact hdecided_ne (h.replacement candidate hne).2 rfl
  refine ⟨⟨h.pass.sound, h.pass.snapshot_eq, ?_⟩, h.edges, h.rebound.setAnchor hoff replacement, ?_,
    h.stalled_mono⟩
  · intro y status hy
    rw [Maps.getElem?_insert] at hy
    split_ifs at hy with hyc
    · obtain rfl := Option.some.inj hy
      change Says y ((s.chain.setAnchor candidate replacement).block y) _
      rw [Rebound.block_setAnchor, if_pos hyc, hfirst, hyc]
      refine hsaid ?_
      rw [← hfirst, hold]
      exact fun h => hallowed.2.2.2.1 (Option.some.inj h)
    · change Says y ((s.chain.setAnchor candidate replacement).block y) _
      rw [hblock hyc]
      exact h.pass.remembered y status hy
  · intro y hy
    by_cases hyc : y = candidate
    · -- the block that is bound anew
      obtain rfl := hyc
      refine ⟨⟨hoff, ?_, old, replacement, hfirst ▸ hold, ?_, hallowed.2.2.2.1, hallowed.2.2.1, ?_⟩,
        .ACTIVE, by rw [Maps.getElem?_insert, if_pos rfl], nofun⟩
      · exact hfirst ▸ h.pass.remembered y .ORPHANED hmay.orphaned
      · change ((s.chain.setAnchor y replacement).block y).drivechainAnchor = _
        rw [Rebound.block_setAnchor, if_pos rfl, CBlockIndex.withAnchor]
      · intro p hp hheight
        rw [← hfirst] at hp
        have hpos : (s.chain.block p).nHeight = (c₁.block p).nHeight := by rw [h.rebound.position]
        obtain ⟨hactive, hanchor, hsome⟩ := hmay.predecessor p hp (hpos ▸ hheight)
        have hdec : Decided s.statusCache p := ⟨.ACTIVE, hactive, nofun⟩
        obtain ⟨previous, hprevious⟩ := Option.ne_none_iff_exists'.1 hsome
        change _ ∧ Says p ((s.chain.setAnchor y replacement).block p) _ ∧
          ∃ previous, ((s.chain.setAnchor y replacement).block p).drivechainAnchor = _ ∧ _
        rw [hblock (hdecided_ne hdec)]
        exact ⟨hdecided hdec, h.pass.remembered p .ACTIVE hactive, previous,
          hanchor.trans hprevious, hallowed.2.2.2.2 previous hprevious⟩
    · -- another one was decided before, and so was its predecessor
      change (s.chain.setAnchor candidate replacement).block y ≠ _ at hy
      rw [hblock hyc] at hy
      obtain ⟨⟨hoff', horphaned, old', new, hold', hnew, hne, hsane, hprev⟩, hdec⟩ :=
        h.replacement y hy
      refine ⟨⟨hoff', horphaned, old', new, hold', ?_, hne, hsane, ?_⟩, hdecided hdec⟩
      · change ((s.chain.setAnchor candidate replacement).block y).drivechainAnchor = _
        rw [hblock hyc, hnew]
      · intro p hp hheight
        obtain ⟨hdecp, hsaidp, hfollows⟩ := hprev p hp hheight
        change _ ∧ Says p ((s.chain.setAnchor candidate replacement).block p) _ ∧
          ∃ previous, ((s.chain.setAnchor candidate replacement).block p).drivechainAnchor = _ ∧ _
        rw [hblock (hdecided_ne hdecp)]
        exact ⟨hdecided hdecp, hsaidp, hfollows⟩

/-- The block is orphaned and off the chain. -/
structure OrphanedOffChain (candidate : Uint256) (s : Activation) : Prop where
  offChain : candidate ∉ s.chain.active
  orphaned : s.statusCache[candidate]? = some .ORPHANED

variable (Says c₁ stalled) in
theorem predecessorAnchor_triple (candidate : Uint256) :
    Triple (fun s => Reanchoring Says c₁ stalled s ∧ OrphanedOffChain candidate s)
      (predecessorAnchor candidate)
      (fun r s => Reanchoring Says c₁ stalled s ∧
        ∀ predecessor, r = some predecessor → MayReplace candidate predecessor s)
      (Reanchoring Says c₁ stalled) := by
  refine get_triple fun s hs => ?_
  obtain ⟨hs, hoff, horphaned⟩ := hs
  cases hprev : (s.chain.block candidate).pprev with
  | none =>
    refine .pure ?_
    rintro _ rfl
    refine ⟨hs, fun predecessor _ => ⟨hoff, horphaned, fun p hp => ?_⟩⟩
    rw [hprev] at hp
    cases hp
  | some prev =>
    have hpos : (s.chain.block candidate).nHeight = (s.chain.block prev).nHeight + 1 :=
      s.chain.blocks.nHeight_pprev candidate prev hprev
    have hne : candidate ≠ prev := by
      rintro rfl
      omega
    refine .ite (fun hzero => .pure ?_) fun hheight => ?_
    · rintro _ rfl
      refine ⟨hs, fun predecessor _ => ⟨hoff, horphaned, fun p hp hheight => ?_⟩⟩
      obtain rfl : prev = p := Option.some.inj (hprev.symm.trans hp)
      exact absurd hzero hheight
    cases hanchor : (s.chain.block prev).drivechainAnchor with
    | none =>
      refine .pure ?_
      rintro _ rfl
      refine ⟨hs, fun predecessor h => ?_⟩
      cases h
    | some anchor =>
      refine .step (getStatus_eq s prev) (.pure ?_)
      rintro _ rfl
      refine ⟨hs.asked, fun predecessor hpred => ⟨hoff, ?_, fun p hp _ => ?_⟩⟩
      · rw [Activation.asked_statusCache, if_neg hne]
        exact horphaned
      · obtain rfl : prev = p := Option.some.inj (hprev.symm.trans hp)
        split_ifs at hpred with hactive
        obtain rfl := Option.some.inj hpred
        rw [Activation.asked_statusCache, if_pos rfl, hactive]
        exact ⟨rfl, hanchor, Option.some_ne_none _⟩

variable (Says c₁ stalled) in
theorem replaceAnchor_triple (candidate : Uint256) (predecessor : Option DrivechainAnchor) :
    Triple (fun s => Reanchoring Says c₁ stalled s ∧ MayReplace candidate predecessor s)
      (replaceAnchor candidate predecessor)
      (fun _ => Reanchoring Says c₁ stalled) (Reanchoring Says c₁ stalled) := by
  have hworld : ∀ s, Reanchoring Says c₁ stalled s ∧ MayReplace candidate predecessor s →
      Reanchoring Says c₁ stalled { s with worlds := s.worlds.tail } ∧
        MayReplace candidate predecessor { s with worlds := s.worlds.tail } :=
    fun s hs => ⟨hs.1.world, hs.2.offChain, hs.2.orphaned, hs.2.predecessor⟩
  refine .bind (world_triple (Q := fun _ s => Reanchoring Says c₁ stalled s ∧
    MayReplace candidate predecessor s) hworld) fun disk => ?_
  refine .bind (.failIf fun s hs => hs.1) fun _ => ?_
  refine .bind (world_triple (Q := fun _ s => Reanchoring Says c₁ stalled s ∧
    MayReplace candidate predecessor s) fun s hs => hworld s hs.1) fun derived => ?_
  refine .ite (fun _ => stall_triple fun s hs => hs.1.stall) fun _ => ?_
  refine .bind (world_triple (Q := fun w s => (Reanchoring Says c₁ stalled s ∧
    MayReplace candidate predecessor s) ∧ ((w.bmmReads candidate).status = .VALID →
      ∀ anchor, anchor = makeDrivechainAnchor (w.bmmReads candidate).context →
        (c₁.block candidate).drivechainAnchor ≠ some anchor →
        Says candidate ((c₁.block candidate).withAnchor anchor) .ACTIVE)) ?_) fun w => ?_
  · intro s hs
    exact ⟨hworld s hs, fun hvalid anchor => hs.1.edges 0 candidate anchor hvalid⟩
  simp only
  cases hstatus : (w.bmmReads candidate).status with
  | UNAVAILABLE => exact stall_triple fun s hs => hs.1.1.stall
  | INVALID => exact .pure fun s hs => hs.1.1
  | PARENT_REJECTED => exact .pure fun s hs => hs.1.1
  | VALID =>
    refine get_triple fun s ⟨⟨hs, hmay⟩, hsaid⟩ => ?_
    refine .ite ?_ fun _ => .pure (by rintro _ rfl; exact hs)
    rintro ⟨old, hold, hallowed⟩
    have hreplace := hs.replace hmay hold hallowed (hsaid rfl _ rfl)
    generalize makeDrivechainAnchor (w.bmmReads candidate).context = replacement at hreplace ⊢
    refine .step rfl (.step rfl (.modify ?_))
    rintro _ rfl
    exact hreplace

variable (Says c₁ stalled) in
theorem reanchor_triple (candidate : Uint256) :
    Triple (Reanchoring Says c₁ stalled) (reanchor candidate)
      (fun _ => Reanchoring Says c₁ stalled) (Reanchoring Says c₁ stalled) := by
  refine get_triple fun s hs => ?_
  refine .ite (fun hcan => ?_) fun _ => .pure (by rintro _ rfl; exact hs)
  refine .step (getStatus_eq s candidate) ?_
  refine .ite (fun hstatus => ?_) fun _ => .pure (by rintro _ rfl; exact hs.asked)
  refine .bind ((predecessorAnchor_triple Says c₁ stalled candidate).pre ?_) fun predecessor => ?_
  · rintro _ rfl
    exact ⟨hs.asked, hcan.1, by rw [Activation.asked_statusCache, if_pos rfl, hstatus]⟩
  · cases predecessor with
    | none => exact .pure fun s hs => hs.1
    | some predecessor =>
      exact (replaceAnchor_triple Says c₁ stalled candidate predecessor).pre fun s hs =>
        ⟨hs.1, hs.2 _ rfl⟩

/-- **The second part of a pass.** -/
theorem reanchorPhase_triple (candidates : List Uint256) :
    Triple (Reanchoring Says c₁ stalled) (reanchorPhase candidates)
      (fun _ => Reanchoring Says c₁ stalled) (Reanchoring Says c₁ stalled) := by
  refine .bind (.forM (I := fun _ => Reanchoring Says c₁ stalled)
    fun _ candidate _ => reanchor_triple Says c₁ stalled candidate) fun _ => ?_
  refine get_again fun s _ => ?_
  refine .bind (world_triple (Q := fun _ => Reanchoring Says c₁ stalled) fun _ hs => hs.world)
    fun w => ?_
  exact (Triple.failIf fun s hs => hs).mono (fun s hs => hs) (fun _ s hs => hs.1)
    fun s hs => hs

end Reanchor

/-! ### Which candidates the parent chain supports -/

section Supported

variable {Says : Verdicts} {snapshot : Option DrivechainAnchorSnapshot} {s s' : Activation}
  {b : Uint256} {E : Activation → Prop}

/-- A verdict that is not a withdrawal was remembered already, or is new. -/
theorem Activation.verdict_extends (h : s.verdict b ≠ .UNAVAILABLE)
    (hx : s.statusCache[x]? = some status) :
    (s.asked b (s.verdict b)).statusCache[x]? = some status := by
  rw [asked_statusCache]
  split_ifs with hxb
  · obtain rfl := hxb
    exact congrArg some ((s.verdict_of_cached hx).resolve_right h)
  · exact hx

/-- The questions about a branch: they change nothing but what is remembered. -/
structure BranchAsked (Says : Verdicts) (snapshot : Option DrivechainAnchorSnapshot)
    (s : Activation) (l : List Uint256) (status : DrivechainAnchorStatus) (s' : Activation) :
    Prop where
  pass : PassState Says snapshot s'
  chain : s'.chain = s.chain
  stalled : s'.stalled = s.stalled
  /-- An active branch has active blocks only. -/
  active : status = .ACTIVE → ∀ x ∈ l, s'.statusCache[x]? = some .ACTIVE
  /-- An orphaned branch has an orphaned block. -/
  orphaned : status = .ORPHANED → ∃ x ∈ l, s'.statusCache[x]? = some .ORPHANED
  extends_cache : status ≠ .UNAVAILABLE → ∀ (x : Uint256) v, s.statusCache[x]? = some v →
    s'.statusCache[x]? = some v

theorem chainStatus_triple (l : List Uint256) (hs : PassState Says snapshot s) :
    Triple (· = s) (chainStatus l) (BranchAsked Says snapshot s l) E := by
  induction l generalizing s with
  | nil =>
    refine .pure ?_
    rintro _ rfl
    exact ⟨hs, rfl, rfl, fun _ x hx => absurd hx List.not_mem_nil, nofun, fun _ x v hx => hx⟩
  | cons b l ih =>
    refine .step (getStatus_eq s b) ?_
    have hasked := hs.asked b
    have hstop : s.verdict b ≠ .ACTIVE →
        BranchAsked Says snapshot s (b :: l) (s.verdict b) (s.asked b (s.verdict b)) := by
      intro hstop
      refine ⟨hasked, rfl, rfl, fun hactive => absurd hactive hstop, ?_,
        fun hne x v hx => Activation.verdict_extends hne hx⟩
      · intro horphaned
        exact ⟨b, List.mem_cons_self, by rw [Activation.asked_statusCache, if_pos rfl, horphaned]⟩
    cases hst : s.verdict b with
    | ORPHANED =>
      rw [hst] at hstop
      exact .pure (by rintro _ rfl; exact hstop nofun)
    | UNAVAILABLE =>
      rw [hst] at hstop
      exact .pure (by rintro _ rfl; exact hstop nofun)
    | ACTIVE =>
      rw [hst] at hasked
      refine (ih hasked).mono (fun u hu => hu) (fun status u hu => ?_) fun _ h => h
      have hnew : (s.asked b .ACTIVE).statusCache[b]? = some .ACTIVE := by
        rw [Activation.asked_statusCache, if_pos rfl]
      refine ⟨hu.pass, hu.chain, hu.stalled, ?_, ?_, ?_⟩
      · rintro rfl
        intro x hx
        obtain rfl | hx := List.mem_cons.1 hx
        · exact hu.extends_cache nofun x _ hnew
        · exact hu.active rfl x hx
      · intro horphaned
        obtain ⟨x, hx, hcached⟩ := hu.orphaned horphaned
        exact ⟨x, List.mem_cons_of_mem _ hx, hcached⟩
      · intro hne x v hx
        refine hu.extends_cache hne x v ?_
        rw [← hst]
        exact Activation.verdict_extends (by rw [hst]; nofun) hx

end Supported

end ElementsDrivechain
