import ElementsDrivechain.Anchors.Anchor
import ElementsDrivechain.Foundations.Maps

/-!
# The block index

The blocks a node knows, as a tree.  A block keeps its place in the tree for ever; what the node
finds out about it changes: whether its transactions are stored, whether it or an ancestor has
failed, and the edge of the parent chain it is bound to.

Blocks are named by their hashes, which also stand for their addresses in memory.

* `BlockMap.Worse.trans`, `BlockMap.not_worse_trans` : the order is total.
* `BlockMap.worse_of_mem_ancestry` : an ancestor is worse.
-/

namespace ElementsDrivechain

/-- The place of a block in the tree. -/
structure BlockPosition where
  /-- The predecessor. -/
  pprev : Option Uint256 := none
  nHeight : ℕ := 0
  /-- The work of the chain up to the block. -/
  nChainWork : ℕ := 0
deriving DecidableEq

/-- What is known of a block. -/
structure CBlockIndex extends BlockPosition where
  /-- The order of arrival. -/
  nSequenceId : ℤ := 0
  /-- The block or one of its ancestors has been found invalid. -/
  failed : Bool := false
  /-- Its transactions have been checked. -/
  validTransactions : Bool := false
  /-- Its transactions are stored. -/
  haveData : Bool := false
  /-- The transactions of all its ancestors have been checked as well. -/
  haveNumChainTxs : Bool := false
  /-- The edge of the parent chain that the block is bound to. -/
  drivechainAnchor : Option DrivechainAnchor := none
deriving DecidableEq

/-- Checked up to its transactions and not failed. -/
def CBlockIndex.IsValid (e : CBlockIndex) : Prop := e.failed = false ∧ e.validTransactions = true
deriving Decidable

/-- The block bound to an anchor. -/
def CBlockIndex.withAnchor (e : CBlockIndex) (anchor : DrivechainAnchor) : CBlockIndex :=
  { e with drivechainAnchor := some anchor }

/-- All valid signed blocks have the same weight, and the blocks of a slot network are signed. -/
def getBlockProof : ℕ := 1

/-- The index.  A hash that is not in it stands for a block of which nothing is known. -/
structure BlockMap where
  entries : OrdMap Uint256 CBlockIndex
  /-- Predecessors are known, and heights and work grow from them. -/
  pprev_mem : ∀ b p, (entries.getD b {}).pprev = some p → p ∈ entries
  nHeight_root : ∀ b, (entries.getD b {}).pprev = none → (entries.getD b {}).nHeight = 0
  nHeight_pprev : ∀ b p, (entries.getD b {}).pprev = some p →
    (entries.getD b {}).nHeight = (entries.getD p {}).nHeight + 1
  nChainWork_pprev : ∀ b p, (entries.getD b {}).pprev = some p →
    (entries.getD p {}).nChainWork < (entries.getD b {}).nChainWork

namespace BlockMap

variable (m : BlockMap)

instance : Membership Uint256 BlockMap := ⟨fun m b => b ∈ m.entries⟩

instance (b : Uint256) : Decidable (b ∈ m) := inferInstanceAs (Decidable (b ∈ m.entries))

/-- What is known of a block. -/
def block (b : Uint256) : CBlockIndex := m.entries.getD b {}

/-- The tree. -/
def forest : Forest Uint256 where
  parent b := (m.block b).pprev
  height b := (m.block b).nHeight
  height_parent := m.nHeight_pprev

/-- A block and its ancestors. -/
def ancestry (b : Uint256) : List Uint256 := m.forest.ancestry b

/-- The index of a node that knows its first block only. -/
def ofGenesis (hash : Uint256) : BlockMap :=
  have hposition : ∀ b, (((∅ : OrdMap Uint256 CBlockIndex).insert hash
      { nChainWork := getBlockProof }).getD b {}).pprev = none := by
    intro b
    rw [Maps.getD_insert]
    split_ifs <;> simp
  { entries := (∅ : OrdMap Uint256 CBlockIndex).insert hash { nChainWork := getBlockProof }
    pprev_mem := fun b p h => absurd ((hposition b).symm.trans h) nofun
    nHeight_root := by
      intro b _
      rw [Maps.getD_insert]
      split_ifs <;> simp
    nHeight_pprev := fun b p h => absurd ((hposition b).symm.trans h) nofun
    nChainWork_pprev := fun b p h => absurd ((hposition b).symm.trans h) nofun }

/-! ### New knowledge about a block -/

/-- Change what is known of a block, but not its place. -/
def modify (b : Uint256) (f : CBlockIndex → CBlockIndex)
    (hf : ∀ e, (f e).toBlockPosition = e.toBlockPosition) : BlockMap :=
  have hblock : ∀ x, ((m.entries.insert b (f (m.block b))).getD x {}).toBlockPosition =
      (m.entries.getD x {}).toBlockPosition := by
    intro x
    rw [Maps.getD_insert]
    split_ifs with h
    · rw [hf, h, block]
    · rfl
  { entries := m.entries.insert b (f (m.block b))
    pprev_mem := by
      intro x p hp
      rw [hblock] at hp
      exact Std.ExtTreeMap.mem_insert.2 (.inr (m.pprev_mem x p hp))
    nHeight_root := by
      intro x hx
      rw [hblock] at hx
      simpa only [hblock] using m.nHeight_root x hx
    nHeight_pprev := by
      intro x p hp
      rw [hblock] at hp
      simpa only [hblock] using m.nHeight_pprev x p hp
    nChainWork_pprev := by
      intro x p hp
      rw [hblock] at hp
      simpa only [hblock] using m.nChainWork_pprev x p hp }

variable {m} {b x y : Uint256} {f : CBlockIndex → CBlockIndex}
  {hf : ∀ e, (f e).toBlockPosition = e.toBlockPosition}

theorem block_modify : (m.modify b f hf).block x = if x = b then f (m.block b) else m.block x :=
  Maps.getD_insert

@[simp] theorem toBlockPosition_modify :
    ((m.modify b f hf).block x).toBlockPosition = (m.block x).toBlockPosition := by
  rw [block_modify]
  split_ifs with h
  · rw [hf, h]
  · rfl

/-! ### A new block -/

variable (m) in
/-- Enter a block above its predecessor. -/
def addToBlockIndex (hash prev : Uint256) : BlockMap :=
  if h : hash ∉ m ∧ prev ∈ m then
    have hne : ∀ {p}, p ∈ m.entries → p ≠ hash := fun hp he => h.1 (he ▸ hp)
    { entries := m.entries.insert hash
        { pprev := some prev
          nHeight := (m.block prev).nHeight + 1
          nChainWork := (m.block prev).nChainWork + getBlockProof }
      pprev_mem := by
        intro x p hp
        rw [Maps.getD_insert] at hp
        split_ifs at hp with hx
        · obtain rfl : prev = p := Option.some.inj hp
          exact Std.ExtTreeMap.mem_insert.2 (.inr h.2)
        · exact Std.ExtTreeMap.mem_insert.2 (.inr (m.pprev_mem x p hp))
      nHeight_root := by
        intro x hx
        rw [Maps.getD_insert] at hx ⊢
        split_ifs at hx ⊢
        exact m.nHeight_root x hx
      nHeight_pprev := by
        intro x p hp
        rw [Maps.getD_insert] at hp
        rw [Maps.getD_insert, Maps.getD_insert]
        split_ifs at hp ⊢ with hx hpne hpne
        · obtain rfl : prev = p := Option.some.inj hp
          exact absurd hpne (hne h.2)
        · obtain rfl : prev = p := Option.some.inj hp
          rfl
        · exact absurd hpne (hne (m.pprev_mem x p hp))
        · exact m.nHeight_pprev x p hp
      nChainWork_pprev := by
        intro x p hp
        rw [Maps.getD_insert] at hp
        rw [Maps.getD_insert, Maps.getD_insert]
        split_ifs at hp ⊢ with hpne hx hx
        · obtain rfl : prev = p := Option.some.inj hp
          exact absurd hpne (hne h.2)
        · exact absurd hpne (hne (m.pprev_mem x p hp))
        · obtain rfl : prev = p := Option.some.inj hp
          exact Nat.lt_succ_self _
        · exact m.nChainWork_pprev x p hp }
  else m

section Add

variable {hash prev : Uint256} (hnew : hash ∉ m) (hprev : prev ∈ m)
include hnew hprev

theorem block_addToBlockIndex : (m.addToBlockIndex hash prev).block x =
    if x = hash then
      { pprev := some prev
        nHeight := (m.block prev).nHeight + 1
        nChainWork := (m.block prev).nChainWork + getBlockProof }
    else m.block x := by
  rw [addToBlockIndex, dif_pos ⟨hnew, hprev⟩]
  exact Maps.getD_insert

theorem mem_addToBlockIndex : x ∈ m.addToBlockIndex hash prev ↔ x = hash ∨ x ∈ m := by
  rw [addToBlockIndex, dif_pos ⟨hnew, hprev⟩]
  change x ∈ m.entries.insert hash _ ↔ _
  rw [Std.ExtTreeMap.mem_insert, Std.LawfulEqCmp.compare_eq_iff_eq, eq_comm]
  rfl

end Add

/-! ### Which branch is better -/

variable (m)

/-- Less work is worse, then having been received later, then the higher address. -/
def cBlockIndexWorkComparator (pa pb : Uint256) : Bool :=
  if (m.block pa).nChainWork > (m.block pb).nChainWork then false
  else if (m.block pa).nChainWork < (m.block pb).nChainWork then true
  else if (m.block pa).nSequenceId < (m.block pb).nSequenceId then false
  else if (m.block pa).nSequenceId > (m.block pb).nSequenceId then true
  else compare pa pb = .gt

/-- One block sorts below another. -/
def Worse (pa pb : Uint256) : Prop := m.cBlockIndexWorkComparator pa pb = true
deriving Decidable

/-- The order of the comparator as a comparison. -/
def workOrder : Uint256 → Uint256 → Ordering :=
  compareLex (compareOn fun b => (m.block b).nChainWork)
    (compareLex (fun a b => compareOn (fun c => (m.block c).nSequenceId) b a)
      fun a b => compare b a)

instance : Std.TransCmp m.workOrder :=
  inferInstanceAs (Std.TransCmp (compareLex _ (compareLex _ _)))

variable {m} {z : Uint256}

theorem worse_iff : m.Worse x y ↔ m.workOrder x y = .lt := by
  have hgt : compare x y = .gt ↔ compare y x = .lt := Std.OrientedCmp.gt_iff_lt
  rw [Worse, cBlockIndexWorkComparator, workOrder, compareLex, Ordering.then_eq_lt, compareLex,
    Ordering.then_eq_lt, compareOn, compareOn, compare_lt_iff_lt, compare_eq_iff_eq,
    compare_lt_iff_lt, compare_eq_iff_eq]
  split_ifs <;> grind

theorem not_worse_self : ¬m.Worse x x := by
  have hself : m.workOrder x x = .eq := Std.ReflCmp.compare_self
  rw [worse_iff, hself]
  decide

theorem Worse.trans (h : m.Worse x y) (h' : m.Worse y z) : m.Worse x z :=
  worse_iff.2 (Std.TransCmp.lt_trans (worse_iff.1 h) (worse_iff.1 h'))

theorem not_worse_trans (h : ¬m.Worse x y) (h' : ¬m.Worse y z) : ¬m.Worse x z := by
  rw [worse_iff, ← Ordering.isGE_iff_ne_lt] at h h' ⊢
  exact Std.TransCmp.isGE_trans h h'

theorem Worse.asymm (h : m.Worse x y) : ¬m.Worse y x := fun h' => not_worse_self (h.trans h')

/-- The order depends on nothing but work and sequence numbers. -/
theorem worse_congr {m' : BlockMap} (hwork : ∀ b, (m'.block b).nChainWork = (m.block b).nChainWork)
    (hseq : ∀ b, (m'.block b).nSequenceId = (m.block b).nSequenceId) :
    m'.Worse x y ↔ m.Worse x y := by
  simp only [Worse, cBlockIndexWorkComparator, hwork, hseq]

theorem nChainWork_lt_of_mem_ancestry (h : y ∈ m.ancestry x) :
    y = x ∨ (m.block y).nChainWork < (m.block x).nChainWork := by
  unfold ancestry at h
  induction x using m.forest.induction with
  | root x hp =>
    rw [Forest.ancestry_root hp, List.mem_singleton] at h
    exact .inl h
  | child x p hp ih =>
    obtain rfl | ⟨q, hq, hy⟩ := Forest.mem_ancestry.1 h
    · exact .inl rfl
    · obtain rfl : p = q := Option.some.inj (hp.symm.trans hq)
      have hlt := m.nChainWork_pprev x p hp
      change (m.block p).nChainWork < (m.block x).nChainWork at hlt
      obtain rfl | hlt' := ih hy
      · exact .inr hlt
      · exact .inr (hlt'.trans hlt)

theorem worse_of_mem_ancestry (h : y ∈ m.ancestry x) : y = x ∨ m.Worse y x := by
  refine (nChainWork_lt_of_mem_ancestry h).imp_right fun hlt => ?_
  rw [Worse, cBlockIndexWorkComparator, if_neg (by omega), if_pos hlt]

/-! ### Indexes of one tree -/

/-- Two indexes differ in nothing that the tree and the order depend on. -/
structure SameTree (m m' : BlockMap) : Prop where
  position : ∀ b, (m'.block b).toBlockPosition = (m.block b).toBlockPosition
  nSequenceId : ∀ b, (m'.block b).nSequenceId = (m.block b).nSequenceId

namespace SameTree

variable {m' m'' : BlockMap}

theorem refl (m : BlockMap) : SameTree m m := ⟨fun _ => rfl, fun _ => rfl⟩

theorem forest (h : SameTree m m') : m'.forest = m.forest := by
  ext b p
  · change (m'.block b).pprev = some p ↔ (m.block b).pprev = some p
    rw [h.position]
  · change (m'.block b).nHeight = (m.block b).nHeight
    rw [h.position]

theorem ancestry (h : SameTree m m') : m'.ancestry x = m.ancestry x := by
  rw [BlockMap.ancestry, h.forest, BlockMap.ancestry]

theorem worse_iff (h : SameTree m m') : m'.Worse x y ↔ m.Worse x y :=
  worse_congr (fun b => by rw [h.position]) h.nSequenceId

end SameTree

theorem sameTree_modify (hseq : ∀ e, (f e).nSequenceId = e.nSequenceId) :
    SameTree m (m.modify b f hf) where
  position x := toBlockPosition_modify
  nSequenceId x := by
    rw [block_modify]
    split_ifs with hx
    · rw [hseq, hx]
    · rfl

end BlockMap

end ElementsDrivechain
