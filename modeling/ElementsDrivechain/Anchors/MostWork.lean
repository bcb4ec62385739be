import ElementsDrivechain.Anchors.Activate

/-!
# The candidate with the most work

Candidates whose branch has failed or misses data are taken out until the best one that is left can
be connected.  What is taken out could never be connected, so that nothing is lost.

* `findMostWorkChain_spec` : **what is found is the best candidate that can be connected.**
-/

namespace ElementsDrivechain

/-! ### Blocks that have failed -/

/-- Some blocks have been marked as failed. -/
def BlockMap.Flagged (m m' : BlockMap) : Prop :=
  ∀ b, m'.block b = m.block b ∨ m'.block b = { m.block b with failed := true }

namespace BlockMap.Flagged

variable {m m' m'' : BlockMap} {b : Uint256}

theorem refl (m : BlockMap) : m.Flagged m := fun _ => .inl rfl

theorem trans (h : m.Flagged m') (h' : m'.Flagged m'') : m.Flagged m'' := by
  intro b
  obtain hb | hb := h b <;> obtain hb' | hb' := h' b <;> rw [hb', hb]
  · exact .inl rfl
  · exact .inr rfl
  · exact .inr rfl
  · exact .inr rfl

theorem sameTree (h : m.Flagged m') : m.SameTree m' := by
  constructor
  all_goals
    intro b
    obtain hb | hb := h b <;> rw [hb]

theorem haveData (h : m.Flagged m') : (m'.block b).haveData = (m.block b).haveData := by
  obtain hb | hb := h b <;> rw [hb]

theorem haveNumChainTxs (h : m.Flagged m') :
    (m'.block b).haveNumChainTxs = (m.block b).haveNumChainTxs := by
  obtain hb | hb := h b <;> rw [hb]

theorem validTransactions (h : m.Flagged m') :
    (m'.block b).validTransactions = (m.block b).validTransactions := by
  obtain hb | hb := h b <;> rw [hb]

theorem drivechainAnchor (h : m.Flagged m') :
    (m'.block b).drivechainAnchor = (m.block b).drivechainAnchor := by
  obtain hb | hb := h b <;> rw [hb]

theorem failed (h : m.Flagged m') (hb : (m'.block b).failed = false) :
    (m.block b).failed = false := by
  obtain hb' | hb' := h b
  · rwa [hb'] at hb
  · rw [hb'] at hb
    exact absurd hb nofun

end BlockMap.Flagged

namespace Chainstate

variable {c c' : Chainstate} {b x : Uint256}

theorem block_markFailed (bs : List Uint256) : (c.markFailed bs).block x =
    if x ∈ bs then { c.block x with failed := true } else c.block x := by
  unfold markFailed block
  induction bs using List.reverseRecOn with
  | nil => rfl
  | append_singleton bs b ih =>
    simp only [List.foldl_append, List.foldl_cons, List.foldl_nil, BlockMap.block_modify,
      List.mem_append, List.mem_singleton] at ih ⊢
    by_cases hxb : x = b
    · subst hxb
      rw [if_pos rfl, if_pos (.inr rfl), ih]
      split_ifs <;> rfl
    · rw [if_neg hxb, ih]
      simp only [hxb, or_false]

theorem flagged_markFailed (bs : List Uint256) : c.blocks.Flagged (c.markFailed bs).blocks := by
  intro x
  have h := block_markFailed (c := c) (x := x) bs
  split_ifs at h
  · exact .inr h
  · exact .inl h

/-- A block that is complete after others have failed was complete before. -/
theorem Complete.of_flagged (h : c.blocks.Flagged c'.blocks) (hb : c'.Complete b) :
    c.Complete b := by
  intro a ha
  rw [← h.sameTree.ancestry] at ha
  obtain ⟨hdata, hfailed⟩ := hb a ha
  exact ⟨h.haveData.symm.trans hdata, h.failed hfailed⟩

theorem Complete.ancestor (h : c.Complete b) (hx : x ∈ c.blocks.ancestry b) : c.Complete x :=
  fun a ha => h a (Forest.mem_ancestry_trans hx ha)

theorem not_complete_of_unusable (hx : x ∈ c.blocks.ancestry b) (h : c.Unusable x) :
    ¬c.Complete b := by
  intro hb
  obtain ⟨hdata, hfailed⟩ := hb x hx
  obtain h | h := h
  · rw [hfailed] at h
    exact absurd h nofun
  · rw [hdata] at h
    exact absurd h nofun

end Chainstate

section Best

variable {c : Chainstate} {a b : Uint256}

theorem foldl_better {l : List Uint256} {first : Option Uint256}
    (h : l.foldl c.better first = some a) :
    (a ∈ l ∨ first = some a) ∧ (∀ b ∈ l, ¬c.blocks.Worse a b) ∧
      ∀ b ∈ first, ¬c.blocks.Worse a b := by
  induction l generalizing first with
  | nil =>
    obtain rfl : first = some a := h
    refine ⟨.inr rfl, nofun, fun b hb => ?_⟩
    obtain rfl := Option.some.inj hb
    exact BlockMap.not_worse_self
  | cons x l ih =>
    obtain ⟨hmem, hl, hfirst⟩ := ih h
    -- the better one of the first two is not worse than either
    have hbetter : ∀ y ∈ c.better first x, ¬c.blocks.Worse y x ∧
        (∀ z ∈ first, ¬c.blocks.Worse y z) ∧ (y = x ∨ first = some y) := by
      intro y hy
      unfold Chainstate.better at hy
      cases first with
      | none =>
        obtain rfl := Option.some.inj hy
        exact ⟨BlockMap.not_worse_self, nofun, .inl rfl⟩
      | some z =>
        simp only at hy
        split_ifs at hy with hworse
        · obtain rfl := Option.some.inj hy
          refine ⟨BlockMap.not_worse_self, fun z' hz' => ?_, .inl rfl⟩
          obtain rfl := Option.some.inj hz'
          exact hworse.asymm
        · obtain rfl := Option.some.inj hy
          refine ⟨hworse, fun z' hz' => ?_, .inr rfl⟩
          obtain rfl := Option.some.inj hz'
          exact BlockMap.not_worse_self
    obtain ⟨y, hy⟩ : ∃ y, c.better first x = some y := by
      unfold Chainstate.better
      cases first with
      | none => exact ⟨x, rfl⟩
      | some z =>
        simp only
        split_ifs
        · exact ⟨x, rfl⟩
        · exact ⟨z, rfl⟩
    obtain ⟨hyx, hyfirst, hysource⟩ := hbetter y hy
    have hay := hfirst y hy
    refine ⟨?_, ?_, fun z hz => BlockMap.not_worse_trans hay (hyfirst z hz)⟩
    · obtain hmem | hmem := hmem
      · exact .inl (List.mem_cons_of_mem _ hmem)
      · obtain rfl : y = a := Option.some.inj (hy.symm.trans hmem)
        refine hysource.imp_left ?_
        rintro rfl
        exact List.mem_cons_self
    · intro b hb
      obtain rfl | hb := List.mem_cons.1 hb
      · exact BlockMap.not_worse_trans hay hyx
      · exact hl b hb

theorem bestCandidate_eq_some (h : c.bestCandidate = some a) :
    a ∈ c.setBlockIndexCandidates ∧ ∀ b ∈ c.setBlockIndexCandidates, ¬c.blocks.Worse a b := by
  obtain ⟨hmem, hbest, -⟩ := foldl_better h
  simp only [Std.ExtTreeSet.mem_toList] at hmem hbest
  obtain hmem | hmem := hmem
  · exact ⟨hmem, hbest⟩
  · cases hmem

theorem bestCandidate_eq_none (h : c.bestCandidate = none) (b : Uint256) :
    b ∉ c.setBlockIndexCandidates := by
  have hsome : ∀ (l : List Uint256) x, ∃ y, l.foldl c.better (some x) = some y := by
    intro l
    induction l with
    | nil => exact fun x => ⟨x, rfl⟩
    | cons z l ih =>
      intro x
      rw [List.foldl_cons, Chainstate.better]
      split_ifs
      · exact ih z
      · exact ih x
  rw [← Std.ExtTreeSet.mem_toList]
  unfold Chainstate.bestCandidate at h
  cases hl : c.setBlockIndexCandidates.toList with
  | nil => exact List.not_mem_nil
  | cons x l =>
    obtain ⟨y, hy⟩ := hsome l x
    rw [hl, List.foldl_cons] at h
    exact absurd (hy.symm.trans h) nofun

end Best

/-! ### Taking out what cannot be connected -/

/-- Candidates that cannot be connected have been taken out. -/
structure Discarded (c c' : Chainstate) : Prop where
  /-- Blocks may have been marked as failed. -/
  flagged : c.blocks.Flagged c'.blocks
  tip : c'.tip = c.tip
  suppressed : c'.suppressedCandidates = c.suppressedCandidates
  anchorSnapshot : c'.anchorSnapshot = c.anchorSnapshot
  candidate : ∀ b ∈ c'.setBlockIndexCandidates, b ∈ c.setBlockIndexCandidates
  /-- What was taken out cannot be connected. -/
  dropped : ∀ b ∈ c.setBlockIndexCandidates, b ∉ c'.setBlockIndexCandidates → ¬c.Complete b
  complete : ∀ b, c.Complete b → c'.Complete b

namespace Discarded

variable {c c' c'' : Chainstate}

theorem refl (c : Chainstate) : Discarded c c :=
  ⟨.refl _, rfl, rfl, rfl, fun _ hb => hb, fun _ hb hn => absurd hb hn, fun _ hb => hb⟩

theorem trans (h : Discarded c c') (h' : Discarded c' c'') : Discarded c c'' where
  flagged := h.flagged.trans h'.flagged
  tip := h'.tip.trans h.tip
  suppressed := h'.suppressed.trans h.suppressed
  anchorSnapshot := h'.anchorSnapshot.trans h.anchorSnapshot
  candidate b hb := h.candidate b (h'.candidate b hb)
  dropped := by
    intro b hb hn
    by_cases hb' : b ∈ c'.setBlockIndexCandidates
    · exact fun hcomplete => h'.dropped b hb' hn (h.complete b hcomplete)
    · exact h.dropped b hb hb'
  complete b hb := h'.complete b (h.complete b hb)

end Discarded

theorem discarded_discardBranch {c : Chainstate} {new test : Uint256}
    (htest : test ∈ c.branch new) (hunusable : c.Unusable test) :
    Discarded c (c.discardBranch new test) := by
  set above := (c.branch new).takeWhile (· ≠ test) with habove
  have hbelow : ∀ x ∈ test :: above, test ∈ c.blocks.ancestry x := by
    intro x hx
    obtain rfl | hx := List.mem_cons.1 hx
    · exact Forest.self_mem_ancestry x
    · exact Forest.mem_ancestry_of_mem_takeWhile htest hx
  have hblocks : (c.discardBranch new test).blocks =
      if (c.block test).failed = true then (c.markFailed above).blocks else c.blocks := by
    unfold Chainstate.discardBranch
    simp only [← habove]
    split_ifs <;> rfl
  have hmem : ∀ b, b ∈ (c.discardBranch new test).setBlockIndexCandidates ↔
      b ∈ c.setBlockIndexCandidates ∧ b ∉ test :: above := by
    intro b
    change b ∈ c.setBlockIndexCandidates.filter _ ↔ _
    rw [OrdSet.mem_filter_iff, decide_eq_true_iff]
  have hsame : ∀ {α : Type} (f : Chainstate → α), (∀ bs, f (c.markFailed bs) = f c) →
      f (if (c.block test).failed = true then c.markFailed above else c) = f c := by
    intro α f hf
    split_ifs
    · exact hf above
    · rfl
  refine ⟨?_, hsame Chainstate.tip fun _ => rfl, hsame Chainstate.suppressedCandidates fun _ => rfl,
    hsame Chainstate.anchorSnapshot fun _ => rfl, fun b hb => ((hmem b).1 hb).1,
    fun b hb hn => ?_, fun b hb => ?_⟩
  · rw [hblocks]
    split_ifs
    · exact Chainstate.flagged_markFailed above
    · exact .refl _
  · have hdiscarded : b ∈ test :: above := by
      by_contra hkept
      exact hn ((hmem b).2 ⟨hb, hkept⟩)
    exact Chainstate.not_complete_of_unusable (hbelow b hdiscarded) hunusable
  · -- a complete block has no ancestor that is marked now
    have hnot : ∀ a ∈ c.blocks.ancestry b, a ∉ above := by
      intro a ha habove
      refine Chainstate.not_complete_of_unusable ?_ hunusable hb
      exact Forest.mem_ancestry_trans ha (hbelow a (List.mem_cons_of_mem _ habove))
    have hblock : ∀ a ∈ c.blocks.ancestry b, (c.discardBranch new test).block a = c.block a := by
      intro a ha
      unfold Chainstate.block
      rw [hblocks]
      split_ifs
      · exact (Chainstate.block_markFailed above).trans (if_neg (hnot a ha))
      · rfl
    have hflagged : c.blocks.Flagged (c.discardBranch new test).blocks := by
      rw [hblocks]
      split_ifs
      · exact Chainstate.flagged_markFailed above
      · exact .refl _
    intro a ha
    rw [hflagged.sameTree.ancestry] at ha
    rw [hblock a ha]
    exact hb a ha

/-- A candidate has been found, unless there is none. -/
structure FoundMostWork (c : Chainstate) (found : Option Uint256) (c' : Chainstate) : Prop
    extends Discarded c c' where
  mem : ∀ m ∈ found, m ∈ c'.setBlockIndexCandidates
  /-- No candidate is better. -/
  best : ∀ m ∈ found, ∀ b ∈ c'.setBlockIndexCandidates, ¬c'.blocks.Worse m b
  /-- Its branch can be connected. -/
  usable : ∀ m ∈ found, ∀ x ∈ c'.branch m, ¬c'.Unusable x
  exhausted : found = none → ∀ b, b ∉ c'.setBlockIndexCandidates

theorem findMostWork_spec (n : ℕ) (c : Chainstate) (hn : c.setBlockIndexCandidates.size ≤ n) :
    FoundMostWork c (Chainstate.findMostWork n c).1 (Chainstate.findMostWork n c).2 := by
  induction n generalizing c with
  | zero =>
    refine ⟨.refl c, nofun, nofun, nofun, fun _ b hb => ?_⟩
    change b ∈ c.setBlockIndexCandidates at hb
    have hempty : c.setBlockIndexCandidates.size = 0 := Nat.le_zero.1 hn
    rw [← Std.ExtTreeSet.length_toList, List.length_eq_zero_iff] at hempty
    rw [← Std.ExtTreeSet.mem_toList, hempty] at hb
    exact List.not_mem_nil hb
  | succ n ih =>
    rw [Chainstate.findMostWork]
    cases hbest : c.bestCandidate with
    | none => exact ⟨.refl c, nofun, nofun, nofun, fun _ => bestCandidate_eq_none hbest⟩
    | some new =>
      obtain ⟨hmem, hmax⟩ := bestCandidate_eq_some hbest
      simp only
      cases htest : (c.branch new).find? (c.Unusable ·) with
      | none =>
        refine ⟨.refl c, fun m hm => ?_, fun m hm => ?_, fun m hm x hx => ?_, nofun⟩ <;>
          obtain rfl := Option.some.inj hm
        · exact hmem
        · exact hmax
        · simpa using List.find?_eq_none.1 htest x hx
      | some test =>
        have hbranch := List.mem_of_find?_eq_some htest
        have hunusable : c.Unusable test := by simpa using List.find?_some htest
        have hdiscarded := discarded_discardBranch hbranch hunusable
        -- the candidate that was tried is out
        have hnew : new ∈ test :: (c.branch new).takeWhile (· ≠ test) := by
          by_cases hne : new = test
          · exact hne ▸ List.mem_cons_self
          · refine List.mem_cons_of_mem _ ?_
            have hoff : new ∉ c.blocks.forest.chain c.tip := by
              intro hon
              rw [Chainstate.branch, Forest.branch_of_mem hon] at hbranch
              exact List.not_mem_nil hbranch
            unfold Chainstate.branch
            cases hp : c.blocks.forest.parent new with
            | none =>
              rw [Forest.branch_root hoff hp, List.takeWhile_cons_of_pos (by simpa using hne)]
              exact List.mem_cons_self
            | some p =>
              rw [Forest.branch_parent hoff hp, List.takeWhile_cons_of_pos (by simpa using hne)]
              exact List.mem_cons_self
        have hsize : (c.discardBranch new test).setBlockIndexCandidates.size <
            c.setBlockIndexCandidates.size :=
          OrdSet.size_filter_lt hmem (decide_eq_false (not_not.2 hnew))
        obtain ⟨hrest, hin, hbest, husable, hexhausted⟩ :=
          ih (c.discardBranch new test) (by omega)
        exact ⟨hdiscarded.trans hrest, hin, hbest, husable, hexhausted⟩

/-- **What is found is the best candidate that can be connected.** -/
theorem findMostWorkChain_spec (c : Chainstate) :
    FoundMostWork c c.findMostWorkChain.1 c.findMostWorkChain.2 :=
  findMostWork_spec _ c le_rfl

end ElementsDrivechain
