import ElementsDrivechain.Anchors.PassPhases

/-!
# A whole pass

The last part of a pass sorts the candidates; together with the first two parts this gives what a
pass does from its beginning to its end.

* `Sorted.reconsider_triple` : one candidate.
* `reconcilePass_triple`, `reconcile_triple` : **a pass**, for every stream of worlds.
-/

namespace ElementsDrivechain

open Effects

section Sorting

variable (Says : Verdicts) (c₂ : Chainstate)

/-- A stored block off the chain that has not failed. -/
structure Chainstate.Eligible (c : Chainstate) (b : Uint256) : Prop where
  offChain : b ∉ c.active
  isValid : (c.block b).IsValid
  haveNumChainTxs : (c.block b).haveNumChainTxs = true

/-- The candidates that have been looked at so far. -/
structure Sorted (stalled : Bool) (done : List Uint256) (s : Activation) : Prop where
  pass : PassState Says c₂.anchorSnapshot s
  blocks : s.chain.blocks = c₂.blocks
  tip : s.chain.tip = c₂.tip
  stalled_mono : stalled = true → s.stalled = true
  /-- What has not been looked at is where it was. -/
  candidate_untouched : ∀ b, b ∉ done ∨ b ∈ c₂.active →
    (b ∈ s.chain.setBlockIndexCandidates ↔ b ∈ c₂.setBlockIndexCandidates)
  /-- No block has come from elsewhere. -/
  source : ∀ b, b ∈ s.chain.setBlockIndexCandidates ∨ b ∈ s.chain.suppressedCandidates →
    b ∈ c₂.setBlockIndexCandidates ∨ b ∈ c₂.suppressedCandidates
  /-- A candidate off the chain has an active branch. -/
  supported : ∀ b ∈ done, b ∉ c₂.active → b ∈ s.chain.setBlockIndexCandidates →
    ∀ x ∈ c₂.branch b, Says x (c₂.block x) .ACTIVE
  /-- No eligible block is lost. -/
  kept : ∀ b, c₂.Eligible b → b ∈ c₂.setBlockIndexCandidates ∨ b ∈ c₂.suppressedCandidates →
    b ∈ s.chain.setBlockIndexCandidates ∨ b ∈ s.chain.suppressedCandidates
  /-- In a pass that does not stall, the verdicts on the branch decide. -/
  verdicts : s.stalled = false → ∀ b ∈ done, c₂.Eligible b →
    (∀ x ∈ c₂.branch b, s.statusCache[x]? = some .ACTIVE) ∧
        (¬c₂.WorseThanTip b → b ∈ s.chain.setBlockIndexCandidates) ∨
      (∃ x ∈ c₂.branch b, s.statusCache[x]? = some .ORPHANED) ∧
        b ∉ s.chain.setBlockIndexCandidates

variable {Says c₂} {stalled : Bool} {done : List Uint256} {s : Activation} {a b : Uint256}

section Step

variable (h : Sorted Says c₂ stalled done s)

include h

theorem Sorted.active_eq : s.chain.active = c₂.active := by
  rw [Chainstate.active, h.blocks, h.tip, Chainstate.active]

theorem Sorted.branch_eq : s.chain.branch b = c₂.branch b := by
  rw [Chainstate.branch, h.blocks, h.tip, Chainstate.branch]

theorem Sorted.block_eq : s.chain.block b = c₂.block b := by
  rw [Chainstate.block, h.blocks, Chainstate.block]

theorem Sorted.worseThanTip_iff : s.chain.WorseThanTip b ↔ c₂.WorseThanTip b := by
  rw [Chainstate.WorseThanTip, h.blocks, h.tip, Chainstate.WorseThanTip]

/-- One more candidate has been looked at: nothing changes for the others. -/
theorem Sorted.step {s' : Activation} (hpass : PassState Says c₂.anchorSnapshot s')
    (hblocks : s'.chain.blocks = s.chain.blocks) (htip : s'.chain.tip = s.chain.tip)
    (hstalled : s.stalled = true → s'.stalled = true)
    (hcand : ∀ b ≠ a, b ∈ s'.chain.setBlockIndexCandidates ↔ b ∈ s.chain.setBlockIndexCandidates)
    (hsupp : ∀ b ≠ a, b ∈ s'.chain.suppressedCandidates ↔ b ∈ s.chain.suppressedCandidates)
    (hcache : s'.stalled = false → ∀ (x : Uint256) v, s.statusCache[x]? = some v →
      s'.statusCache[x]? = some v) (hactive : a ∈ c₂.active →
      (a ∈ s'.chain.setBlockIndexCandidates ↔ a ∈ s.chain.setBlockIndexCandidates))
    (hsource : a ∈ c₂.setBlockIndexCandidates ∨ a ∈ c₂.suppressedCandidates)
    (hsupported : a ∉ c₂.active → a ∈ s'.chain.setBlockIndexCandidates →
      ∀ x ∈ c₂.branch a, Says x (c₂.block x) .ACTIVE) (hkept : c₂.Eligible a →
      a ∈ s'.chain.setBlockIndexCandidates ∨ a ∈ s'.chain.suppressedCandidates)
    (hverdict : s'.stalled = false → c₂.Eligible a →
      (∀ x ∈ c₂.branch a, s'.statusCache[x]? = some .ACTIVE) ∧
          (¬c₂.WorseThanTip a → a ∈ s'.chain.setBlockIndexCandidates) ∨
        (∃ x ∈ c₂.branch a, s'.statusCache[x]? = some .ORPHANED) ∧
          a ∉ s'.chain.setBlockIndexCandidates) :
    Sorted Says c₂ stalled (done ++ [a]) s' where
  pass := hpass
  blocks := hblocks.trans h.blocks
  tip := htip.trans h.tip
  stalled_mono := fun hs => hstalled (h.stalled_mono hs)
  candidate_untouched := by
    intro b hb
    by_cases hba : b = a
    · obtain rfl := hba
      have hb' : b ∈ c₂.active := hb.resolve_left (by simp)
      rw [hactive hb']
      exact h.candidate_untouched b (.inr hb')
    · rw [hcand b hba]
      refine h.candidate_untouched b (hb.imp_left fun hnot hmem => hnot ?_)
      exact List.mem_append_left _ hmem
  source := by
    intro b hb
    by_cases hba : b = a
    · exact hba ▸ hsource
    · rw [hcand b hba, hsupp b hba] at hb
      exact h.source b hb
  supported := by
    intro b hb hoff hmem
    by_cases hba : b = a
    · obtain rfl := hba
      exact hsupported hoff hmem
    · refine h.supported b ?_ hoff ((hcand b hba).1 hmem)
      exact (List.mem_append.1 hb).resolve_right (by simpa using hba)
  kept := by
    intro b heligible hmem
    by_cases hba : b = a
    · obtain rfl := hba
      exact hkept heligible
    · rw [hcand b hba, hsupp b hba]
      exact h.kept b heligible hmem
  verdicts := by
    intro hs' b hb heligible
    by_cases hba : b = a
    · obtain rfl := hba
      exact hverdict hs' heligible
    · have hs : s.stalled = false := by
        by_contra hne
        rw [hstalled (by simpa using hne)] at hs'
        exact absurd hs' nofun
      rw [hcand b hba]
      have hdone := (List.mem_append.1 hb).resolve_right (by simpa using hba)
      obtain ⟨hact, hin⟩ | ⟨⟨x, hx, horph⟩, hout⟩ := h.verdicts hs b hdone heligible
      · exact .inl ⟨fun x hx => hcache hs' x _ (hact x hx), hin⟩
      · exact .inr ⟨⟨x, hx, hcache hs' x _ horph⟩, hout⟩

variable {u : Activation} {status : DrivechainAnchorStatus} (hoff : a ∉ c₂.active)
  (hsource : a ∈ c₂.setBlockIndexCandidates ∨ a ∈ c₂.suppressedCandidates)
  (hu : BranchAsked Says c₂.anchorSnapshot s (c₂.branch a) status u)

include hoff hsource hu

/-- Whatever the verdict, suppressing the block is a step when a withdrawn verdict stalls. -/
theorem Sorted.suppress {flag : Bool}
    (hflag : flag = false → u.stalled = false ∧ status = .ORPHANED)
    (hmono : u.stalled = true → flag = true) :
    Sorted Says c₂ stalled (done ++ [a])
      { u with chain := u.chain.suppress a, stalled := flag } := by
  obtain ⟨chain, _⟩ := u
  obtain rfl : chain = s.chain := hu.chain
  refine h.step ⟨hu.pass.sound, hu.pass.snapshot_eq, hu.pass.remembered⟩ rfl rfl
    (fun hs => hmono (hu.stalled.trans hs)) (fun b hb => ?_) (fun b hb => ?_) ?_
    (fun hn => absurd hn hoff) hsource (fun _ hmem => ?_) (fun _ => ?_)
    (fun hs _ => .inr ⟨?_, ?_⟩)
  · exact OrdSet.mem_erase_iff.trans (and_iff_right hb)
  · exact OrdSet.mem_insert_iff.trans (or_iff_right hb)
  · intro hs x v hx
    exact hu.extends_cache (by rw [(hflag hs).2]; nofun) x v hx
  · exact absurd rfl (OrdSet.mem_erase_iff.1 hmem).1
  · exact .inr (OrdSet.mem_insert_iff.2 (.inl rfl))
  · exact hu.orphaned (hflag hs).2
  · exact fun hmem => (OrdSet.mem_erase_iff.1 hmem).1 rfl

end Step

theorem Sorted.reconsider_triple {E : Activation → Prop} (a : Uint256)
    (hsource : a ∈ c₂.setBlockIndexCandidates ∨ a ∈ c₂.suppressedCandidates) :
    Triple (Sorted Says c₂ stalled done) (reconsider a)
      (fun _ => Sorted Says c₂ stalled (done ++ [a])) E := by
  refine get_triple fun s h => ?_
  have hactive : a ∈ s.chain.active ↔ a ∈ c₂.active := by rw [h.active_eq]
  refine .ite (fun hon => onChain_triple ?_) fun hoff => ?_
  · -- a block of the active chain is no longer suppressed
    rintro _ rfl
    have hon' := hactive.1 hon
    refine h.step ⟨h.pass.sound, h.pass.snapshot_eq, h.pass.remembered⟩ rfl rfl (fun hs => hs)
      (fun b _ => Iff.rfl) (fun b hb => ?_) (fun _ x v hx => hx) (fun _ => Iff.rfl) hsource
      (fun hn => absurd hon' hn) (fun he => absurd hon' he.offChain)
      (fun _ he => absurd hon' he.offChain)
    rw [OrdSet.mem_erase_iff, and_iff_right hb]
  rw [hactive] at hoff
  refine .ite (fun hinvalid => onChain_triple ?_) fun hvalid => ?_
  · -- a failed block is in neither set
    rintro _ rfl
    have hnot : ¬c₂.Eligible a := by
      intro he
      rw [h.block_eq] at hinvalid
      exact hinvalid ⟨he.isValid, he.haveNumChainTxs⟩
    refine h.step ⟨h.pass.sound, h.pass.snapshot_eq, h.pass.remembered⟩ rfl rfl (fun hs => hs)
      (fun b hb => ?_) (fun b hb => ?_) (fun _ x v hx => hx) (fun hn => absurd hn hoff) hsource
      (fun _ hmem => ?_) (fun he => absurd he hnot) (fun _ he => absurd he hnot)
    · exact OrdSet.mem_erase_iff.trans (and_iff_right hb)
    · exact OrdSet.mem_erase_iff.trans (and_iff_right hb)
    · exact absurd rfl (OrdSet.mem_erase_iff.1 hmem).1
  refine .bind (chainStatus_triple _ h.pass) fun status => ?_
  rw [h.branch_eq]
  cases status with
  | ORPHANED =>
    refine onChain_triple fun u hu => ?_
    exact h.suppress hoff hsource hu (fun hs => ⟨hs, rfl⟩) fun hs => hs
  | UNAVAILABLE =>
    refine .bind (onChain_triple (Q := fun _ v => ∃ u, BranchAsked Says c₂.anchorSnapshot s
      (c₂.branch a) .UNAVAILABLE u ∧ v = { u with chain := u.chain.suppress a })
      fun u hu => ⟨u, hu, rfl⟩) fun _ => stall_triple ?_
    rintro _ ⟨u, hu, rfl⟩
    exact h.suppress hoff hsource hu nofun fun _ => rfl
  | ACTIVE =>
    refine onChain_triple ?_
    rintro ⟨chain, _⟩ hu
    obtain rfl : chain = s.chain := hu.chain
    have hsaid : ∀ x ∈ c₂.branch a, Says x (c₂.block x) .ACTIVE := by
      intro x hx
      have := hu.pass.remembered x .ACTIVE (hu.active rfl x hx)
      rwa [h.block_eq] at this
    have hextends := hu.extends_cache nofun
    by_cases hw : c₂.WorseThanTip a
    · -- it stays where it is
      rw [if_pos (h.worseThanTip_iff.2 hw)]
      refine h.step hu.pass rfl rfl hu.stalled.trans (fun b _ => Iff.rfl) (fun b _ => Iff.rfl)
        (fun _ => hextends) (fun _ => Iff.rfl) hsource (fun _ _ => hsaid)
        (fun he => h.kept a he hsource)
        fun _ _ => .inl ⟨hu.active rfl, fun hn => absurd hw hn⟩
    · rw [if_neg fun hn => hw (h.worseThanTip_iff.1 hn)]
      refine h.step ⟨hu.pass.sound, hu.pass.snapshot_eq, hu.pass.remembered⟩ rfl rfl
        hu.stalled.trans (fun b hb => ?_) (fun b hb => ?_) (fun _ => hextends)
        (fun hn => absurd hn hoff) hsource (fun _ _ => hsaid) (fun _ => .inl ?_)
        fun _ _ => .inl ⟨hu.active rfl, fun _ => ?_⟩
      · exact OrdSet.mem_insert_iff.trans (or_iff_right hb)
      · exact OrdSet.mem_erase_iff.trans (and_iff_right hb)
      · exact OrdSet.mem_insert_iff.2 (.inl rfl)
      · exact OrdSet.mem_insert_iff.2 (.inl rfl)

end Sorting

/-! ### From beginning to end -/

section Whole

variable (Says : Verdicts) (c₀ : Chainstate)

/-- A block off the chain that was orphaned and follows the active anchor of its predecessor. -/
structure Replaced (c : Chainstate) (b : Uint256) : Prop where
  offChain : b ∉ c.active
  orphaned : Says b (c₀.block b) .ORPHANED
  /-- The new anchor follows that of the predecessor, which is active. -/
  anchors : ∃ old new, (c₀.block b).drivechainAnchor = some old ∧
    (c.block b).drivechainAnchor = some new ∧ old ≠ new ∧ new.IsSane ∧
    ∀ p, (c₀.block b).pprev = some p → (c₀.block p).nHeight ≠ 0 →
      Says p (c.block p) .ACTIVE ∧
        ∃ previous, (c.block p).drivechainAnchor = some previous ∧ new.Follows previous

/-- What even a failed pass keeps to: it drops orphaned blocks from the end of the chain and binds
orphaned blocks off the chain anew. -/
structure PassKept (c : Chainstate) : Prop where
  /-- Blocks keep all but their anchors. -/
  block : ∀ b, ∃ anchor, c.block b = { c₀.block b with drivechainAnchor := anchor }
  /-- Those on the chain keep their anchors, too. -/
  active_block : ∀ b ∈ c.active, c.block b = c₀.block b
  /-- The chain has only lost blocks at its end. -/
  tip : ∀ t ∈ c.tip, t ∈ c₀.active
  anchorSnapshot : c.anchorSnapshot = c₀.anchorSnapshot
  orphaned : ∀ b ∈ c₀.active, b ∉ c.active →
    (c₀.block b).nHeight ≠ 0 ∧ Says b (c₀.block b) .ORPHANED
  replaced : ∀ b, c.block b ≠ c₀.block b → Replaced Says c₀ c b
  /-- The candidates are blocks the node had. -/
  known : ∀ b, b ∈ c.setBlockIndexCandidates ∨ b ∈ c.suppressedCandidates → c₀.Known b

/-- After a pass that ran to its end. -/
structure PassDone (s : Activation) : Prop extends PassKept Says c₀ s.chain where
  /-- The tip is active, or the parent node did not answer for it. -/
  settled : ∀ t ∈ s.chain.tip, (c₀.block t).nHeight ≠ 0 →
    Says t (c₀.block t) .ACTIVE ∨ s.stalled = true ∧ Says t (c₀.block t) .UNAVAILABLE
  /-- A candidate off the chain has an active branch. -/
  supported : ∀ b ∈ s.chain.setBlockIndexCandidates, b ∉ s.chain.active →
    ∀ x ∈ s.chain.branch b, Says x (s.chain.block x) .ACTIVE
  /-- The tip stays a candidate, and a new tip becomes one. -/
  tip_candidate : ∀ t ∈ s.chain.tip, (s.chain.block t).IsValid →
    (s.chain.block t).haveNumChainTxs = true →
    (s.chain.tip = c₀.tip → t ∈ c₀.setBlockIndexCandidates) →
    t ∈ s.chain.setBlockIndexCandidates
  /-- No eligible block is lost. -/
  kept : ∀ b, s.chain.Eligible b → c₀.Known b →
    b ∈ s.chain.setBlockIndexCandidates ∨ b ∈ s.chain.suppressedCandidates
  /-- In a pass that does not stall, the verdicts on the branch decide. -/
  verdicts : s.stalled = false → ∀ b, s.chain.Eligible b → c₀.Known b →
    (∀ x ∈ s.chain.branch b, s.statusCache[x]? = some .ACTIVE) ∧
        (¬s.chain.WorseThanTip b → b ∈ s.chain.setBlockIndexCandidates) ∨
      (∃ x ∈ s.chain.branch b, s.statusCache[x]? = some .ORPHANED) ∧
        b ∉ s.chain.setBlockIndexCandidates

variable {Says c₀}

theorem Chainstate.mem_reconsidered {c : Chainstate} {b : Uint256} :
    b ∈ c.reconsidered ↔ b ∈ c.suppressedCandidates ∨ b ∈ c.setBlockIndexCandidates := by
  rw [reconsidered, Std.ExtTreeSet.mem_toList, Std.ExtTreeSet.mem_union_iff]

theorem Dropped.passKept {c : Chainstate} (h : Dropped Says c₀ c) : PassKept Says c₀ c where
  block b := ⟨(c₀.block b).drivechainAnchor, h.block_eq b⟩
  active_block b _ := h.block_eq b
  tip := h.tip
  anchorSnapshot := h.anchorSnapshot
  orphaned := h.orphaned
  replaced b hb := absurd (h.block_eq b) hb
  known := h.known

theorem Reanchoring.passKept {c₁ : Chainstate} {stalled : Bool} {s : Activation}
    (h₁ : Dropped Says c₀ c₁) (h : Reanchoring Says c₁ stalled s) : PassKept Says c₀ s.chain where
  block := by
    intro b
    rw [← h₁.block_eq]
    exact h.rebound.block b
  active_block := by
    intro b hb
    rw [h.rebound.active_eq] at hb
    rw [h.rebound.active b hb, h₁.block_eq]
  tip := by
    rw [h.rebound.tip]
    exact h₁.tip
  anchorSnapshot := h.rebound.anchorSnapshot.trans h₁.anchorSnapshot
  orphaned := by
    rw [h.rebound.active_eq]
    exact h₁.orphaned
  replaced := by
    intro b hb
    rw [← h₁.block_eq] at hb
    obtain ⟨⟨hoff, horphaned, hanchors⟩, -⟩ := h.replacement b hb
    simp only [h₁.block_eq] at horphaned hanchors
    obtain ⟨old, new, hold, hnew, hne, hsane, hprev⟩ := hanchors
    refine ⟨h.rebound.active_eq ▸ hoff, horphaned, old, new, hold, hnew, hne, hsane, ?_⟩
    exact fun p hp hheight => (hprev p hp hheight).2
  known := by
    rw [h.rebound.candidates, h.rebound.suppressed]
    exact h₁.known

/-- Sorting the candidates changes neither the blocks nor the chain. -/
theorem PassKept.sorted {c c' : Chainstate} (h : PassKept Says c₀ c)
    (hblocks : c'.blocks = c.blocks) (htip : c'.tip = c.tip)
    (hsnapshot : c'.anchorSnapshot = c.anchorSnapshot)
    (hsets : ∀ b, b ∈ c'.setBlockIndexCandidates ∨ b ∈ c'.suppressedCandidates →
      b ∈ c.setBlockIndexCandidates ∨ b ∈ c.suppressedCandidates) : PassKept Says c₀ c' := by
  have hblock : ∀ b, c'.block b = c.block b := by
    intro b
    rw [Chainstate.block, hblocks, Chainstate.block]
  have hactive : c'.active = c.active :=
    Chainstate.active_eq_of_sameTree (hblocks ▸ .refl _) htip
  refine ⟨?_, ?_, ?_, hsnapshot.trans h.anchorSnapshot, ?_, ?_,
    fun b hb => h.known b (hsets b hb)⟩
  · simpa only [hblock] using h.block
  · simpa only [hblock, hactive] using h.active_block
  · simpa only [htip] using h.tip
  · simpa only [hactive] using h.orphaned
  · intro b hb
    rw [hblock] at hb
    obtain ⟨hoff, horphaned, hanchors⟩ := h.replaced b hb
    refine ⟨hactive ▸ hoff, horphaned, ?_⟩
    simpa only [hblock] using hanchors

theorem passDone {s₁ s₂ s : Activation} {l : List Uint256} (h₁ : AfterDisconnect Says c₀ s₁)
    (h₂ : Reanchoring Says s₁.chain s₁.stalled s₂) (hl : l.Perm s₁.chain.reconsidered)
    (h : Sorted Says s₂.chain s₂.stalled l s) : PassDone Says c₀ s := by
  have hre := h₂.rebound
  have hactive : s.chain.active = s₁.chain.active := h.active_eq.trans hre.active_eq
  have htip : s.chain.tip = s₁.chain.tip := h.tip.trans hre.tip
  -- the blocks the pass looked at
  have hknown : ∀ b, b ∉ s.chain.active → c₀.Known b → b ∈ l := by
    intro b hoff hb
    rw [hactive] at hoff
    rw [hl.mem_iff, Chainstate.mem_reconsidered, h₁.chain.suppressed]
    by_cases hon : b ∈ c₀.active
    · exact .inl (.inr ⟨hon, hoff⟩)
    · obtain hb | hb | hb := hb
      · exact absurd hb hon
      · exact .inr (h₁.chain.candidate_kept b hb fun hn => absurd hn hon)
      · exact .inl (.inl hb)
  have hsource : ∀ b, b ∈ l ↔
      b ∈ s₂.chain.setBlockIndexCandidates ∨ b ∈ s₂.chain.suppressedCandidates := by
    intro b
    rw [hl.mem_iff, Chainstate.mem_reconsidered, hre.candidates, hre.suppressed, or_comm]
  have heligible : ∀ b, s.chain.Eligible b → s₂.chain.Eligible b := by
    rintro b ⟨hoff, hvalid, hchaintx⟩
    rw [h.block_eq] at hvalid hchaintx
    exact ⟨h.active_eq ▸ hoff, hvalid, hchaintx⟩
  have hkept : PassKept Says c₀ s.chain := (h₂.passKept h₁.chain.toDropped).sorted h.blocks h.tip
    h.pass.snapshot_eq h.source
  refine
    { toPassKept := hkept, settled := ?_, supported := ?_, tip_candidate := ?_, kept := ?_,
      verdicts := ?_ }
  · rw [htip]
    intro t ht hheight
    refine (h₁.settled t ht hheight).imp (fun h => h.2) fun hst => ⟨?_, hst.2⟩
    exact h.stalled_mono (h₂.stalled_mono hst.1)
  · intro b hb hoff x hx
    rw [h.branch_eq] at hx
    rw [h.block_eq]
    exact h.supported b ((hsource b).2 (h.source b (.inl hb))) (h.active_eq ▸ hoff) hb x hx
  · intro t ht hvalid hchaintx hfirst
    have hton : t ∈ s.chain.active := by
      rw [Chainstate.active_tip ht]
      exact List.mem_cons_self
    rw [hkept.active_block t hton] at hvalid hchaintx
    rw [htip] at ht hfirst
    rw [h.candidate_untouched t (.inr (h.active_eq ▸ hton)), hre.candidates]
    by_cases hsame : s₁.chain.tip = c₀.tip
    · rw [h₁.same hsame]
      exact hfirst hsame
    · exact h₁.readmitted t ht hsame hvalid hchaintx
  · intro b he hb
    exact h.kept b (heligible b he) ((hsource b).1 (hknown b he.offChain hb))
  · intro hs b he hb
    rw [h.branch_eq, h.worseThanTip_iff]
    exact h.verdicts hs b (hknown b he.offChain hb) (heligible b he)

/-- **A pass**, whatever worlds it meets. -/
theorem reconcilePass_triple :
    Triple (PassStart Says c₀) reconcilePass (fun _ => PassDone Says c₀)
      (fun s => PassKept Says c₀ s.chain) := by
  refine .bind (disconnectPhase_triple.mono (fun s hs => hs) (fun _ s hs => hs)
    fun s hs => hs.passKept) fun _ => get_triple fun s₁ h₁ => ?_
  refine .bind (Q := fun _ => Reanchoring Says s₁.chain s₁.stalled)
    ((reanchorPhase_triple _).mono ?_ (fun _ _ h => h)
      fun s hs => hs.passKept h₁.chain.toDropped) fun _ =>
    Triple.bind (Q := fun _ => Reanchoring Says s₁.chain s₁.stalled)
      (world_triple fun _ h => h.world) fun w => ?_
  · rintro _ rfl
    refine ⟨?_, ?_, .refl _, fun b hb => absurd rfl hb, id⟩
    · rw [h₁.pass.snapshot_eq]
      exact h₁.pass
    · rw [h₁.chain.blocks]
      exact h₁.edges
  · intro s₂ h₂
    have hperm := List.perm_insertionSort (fun a b => w.address a ≤ w.address b)
      s₁.chain.reconsidered
    have hsource : ∀ b ∈ s₁.chain.reconsidered.insertionSort fun a b => w.address a ≤ w.address b,
        b ∈ s₂.chain.setBlockIndexCandidates ∨ b ∈ s₂.chain.suppressedCandidates := by
      intro b hb
      rw [h₂.rebound.candidates, h₂.rebound.suppressed, or_comm]
      exact Chainstate.mem_reconsidered.1 (hperm.mem_iff.1 hb)
    have hsort := Triple.forM (I := Sorted Says s₂.chain s₂.stalled) (f := reconsider)
      (E := fun s => PassKept Says c₀ s.chain) fun done a hpre =>
        Sorted.reconsider_triple a (hsource a (hpre.subset (by simp)))
    refine hsort.mono (fun s hs => ?_) (fun _ s h => passDone h₁ h₂ hperm h) (fun _ h => h) s₂ rfl
    obtain rfl : s₂ = s := hs
    refine ⟨?_, rfl, rfl, id, fun _ _ => Iff.rfl, fun b hb => hb, nofun, fun b _ hb => hb, nofun⟩
    rw [h₂.pass.snapshot_eq]
    exact h₂.pass

/-- The snapshot, if there is one, passes the check that a pass begins with. -/
def SnapshotCurrent (snapshot : Option DrivechainAnchorSnapshot) (worlds : Stream' NodeWorld) :
    Prop :=
  ∀ σ ∈ snapshot, CheckDrivechainAnchorSnapshotEpoch σ (worlds.get 0) ∧
    SnapshotTipCurrent σ (worlds.get 1) ∧ CheckDrivechainAnchorSnapshotEpoch σ (worlds.get 2)
deriving Decidable

/-- The call behind the check of the snapshot. -/
def Activation.checked (s : Activation) : Activation :=
  match s.chain.anchorSnapshot with
  | none => s
  | some _ => { s with worlds := s.worlds.tail.tail.tail }

/-- A call is a pass if the snapshot is current, and otherwise nothing but a stall. -/
theorem reconcileDrivechainAnchors_eq (s : Activation) :
    reconcileDrivechainAnchors s =
      if SnapshotCurrent s.chain.anchorSnapshot s.worlds then reconcilePass s.checked
      else .ok () { s.checked with stalled := true } := by
  change (match s.chain.anchorSnapshot with
    | none => reconcilePass
    | some snapshot => do
      let usable ← checkDrivechainAnchorSnapshot snapshot
      if usable = true then reconcilePass else stall) s = _
  unfold Activation.checked
  cases s.chain.anchorSnapshot with
  | none => rw [if_pos (by simp [SnapshotCurrent])]
  | some snapshot =>
    have hcurrent : SnapshotCurrent (some snapshot) s.worlds ↔ decide
        (CheckDrivechainAnchorSnapshotEpoch snapshot (s.worlds.get 0) ∧
          SnapshotTipCurrent snapshot (s.worlds.get 1) ∧
          CheckDrivechainAnchorSnapshotEpoch snapshot (s.worlds.get 2)) = true := by
      simp [SnapshotCurrent]
    change (if decide (CheckDrivechainAnchorSnapshotEpoch snapshot (s.worlds.get 0) ∧
      SnapshotTipCurrent snapshot (s.worlds.get 1) ∧
      CheckDrivechainAnchorSnapshotEpoch snapshot (s.worlds.get 2)) = true
        then reconcilePass else stall) _ = _
    by_cases hc : SnapshotCurrent (some snapshot) s.worlds
    · rw [if_pos hc, if_pos (hcurrent.1 hc)]
    · rw [if_neg hc, if_neg fun hn => hc (hcurrent.2 hn)]
      rfl

theorem PassStart.checked {s : Activation} (h : PassStart Says c₀ s) :
    PassStart Says c₀ s.checked := by
  unfold Activation.checked
  cases s.chain.anchorSnapshot with
  | none => exact h
  | some snapshot =>
    exact ⟨⟨h.pass.sound.tail.tail.tail, h.pass.snapshot_eq, h.pass.remembered⟩,
      h.edges.tail.tail.tail, h.chain, h.blocksDisconnected, h.stalled⟩

/-- **Reconciliation**: a pass, or a stall that changes nothing. -/
theorem reconcile_triple :
    Triple (PassStart Says c₀) reconcileDrivechainAnchors
      (fun _ s => PassDone Says c₀ s ∨ s.chain = c₀ ∧ s.stalled = true)
      (fun s => PassKept Says c₀ s.chain) := by
  intro s hs
  rw [reconcileDrivechainAnchors_eq]
  split_ifs
  · exact reconcilePass_triple.mono (fun s hs => hs) (fun _ s hs => .inl hs) (fun s hs => hs) _
      hs.checked
  · exact .inr ⟨hs.checked.chain, rfl⟩

end Whole

end ElementsDrivechain
