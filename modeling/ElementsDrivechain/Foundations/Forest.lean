import Mathlib.Data.List.TakeWhile
import Mathlib.Data.Nat.Notation

/-!
# Forests given by parent pointers

Every node points to its parent, or is a root, and lies one level above its parent.  The nodes on
the way from a node to its root are its *ancestry*; two nodes of one ancestry are related, the lower
one being an ancestor of the higher one.

* `Forest.mem_of_height_le` : of two nodes of one ancestry the lower is an ancestor of the higher.
* `Forest.mem_branch` : a branch holds exactly the ancestors that are not on the chain.
* `Forest.climbs_branch` : a branch climbs from its fork with the chain.
* `Forest.ancestry_congr` : an ancestry depends on nothing but the nodes in it.
-/

namespace ElementsDrivechain

/-- Nodes that point to their parents, each one level above its parent. -/
@[ext] structure Forest (κ : Type*) where
  parent : κ → Option κ
  height : κ → ℕ
  height_parent : ∀ x p, parent x = some p → height x = height p + 1

namespace Forest

variable {κ : Type*} (F : Forest κ) {x y z p : κ}

/-- The first nodes on the way from a node to its root. -/
def walk : ℕ → κ → List κ
  | 0, _ => []
  | n + 1, x =>
    x :: match F.parent x with
      | none => []
      | some p => walk n p

/-- A node, its parent, and so on up to its root. -/
def ancestry (x : κ) : List κ := F.walk (F.height x + 1) x

variable {F}

theorem walk_eq_walk {n m : ℕ} (hn : F.height x < n) (hm : F.height x < m) :
    F.walk n x = F.walk m x := by
  induction n generalizing x m with
  | zero => omega
  | succ n ih =>
    obtain _ | m := m
    · omega
    rw [walk, walk]
    cases hp : F.parent x with
    | none => rfl
    | some p =>
      have hheight := F.height_parent x p hp
      exact congrArg (x :: ·) (ih (by omega) (by omega))

theorem ancestry_root (h : F.parent x = none) : F.ancestry x = [x] := by
  rw [ancestry, walk, h]

theorem ancestry_parent (h : F.parent x = some p) : F.ancestry x = x :: F.ancestry p := by
  have hheight := F.height_parent x p h
  rw [ancestry, walk, h]
  exact congrArg (x :: ·) (walk_eq_walk (by omega) (by omega))

/-- Induction from the roots upwards. -/
theorem induction {motive : κ → Prop} (root : ∀ x, F.parent x = none → motive x)
    (child : ∀ x p, F.parent x = some p → motive p → motive x) (x : κ) : motive x := by
  induction hn : F.height x generalizing x with
  | zero =>
    cases hp : F.parent x with
    | none => exact root x hp
    | some p => exact absurd (F.height_parent x p hp) (by omega)
  | succ n ih =>
    cases hp : F.parent x with
    | none => exact root x hp
    | some p =>
      have hheight := F.height_parent x p hp
      exact child x p hp (ih p (by omega))

theorem mem_ancestry : y ∈ F.ancestry x ↔ y = x ∨ ∃ p, F.parent x = some p ∧ y ∈ F.ancestry p := by
  cases hp : F.parent x with
  | none => simp [ancestry_root hp]
  | some p => simp [ancestry_parent hp]

theorem mem_ancestry_parent (h : F.parent x = some p) :
    y ∈ F.ancestry x ↔ y = x ∨ y ∈ F.ancestry p := by
  rw [ancestry_parent h, List.mem_cons]

theorem self_mem_ancestry (x : κ) : x ∈ F.ancestry x := mem_ancestry.2 (.inl rfl)

theorem parent_mem_ancestry (h : F.parent x = some p) : p ∈ F.ancestry x :=
  mem_ancestry.2 (.inr ⟨p, h, self_mem_ancestry p⟩)

theorem mem_ancestry_trans (hy : y ∈ F.ancestry x) (hz : z ∈ F.ancestry y) : z ∈ F.ancestry x := by
  induction x using F.induction with
  | root x hp =>
    rw [ancestry_root hp, List.mem_singleton] at hy
    exact hy ▸ hz
  | child x p hp ih =>
    obtain rfl | hy := (mem_ancestry_parent hp).1 hy
    · exact hz
    · exact (mem_ancestry_parent hp).2 (.inr (ih hy))

theorem height_le_of_mem (h : y ∈ F.ancestry x) : F.height y ≤ F.height x := by
  induction x using F.induction with
  | root x hp =>
    rw [ancestry_root hp, List.mem_singleton] at h
    rw [h]
  | child x p hp ih =>
    have hheight := F.height_parent x p hp
    obtain rfl | hy := (mem_ancestry_parent hp).1 h
    · exact le_rfl
    · exact (ih hy).trans (by omega)

/-- An ancestor at the same height is the node itself. -/
theorem eq_of_mem_of_height (h : y ∈ F.ancestry x) (hheight : F.height x ≤ F.height y) : y = x := by
  obtain rfl | ⟨p, hp, hy⟩ := mem_ancestry.1 h
  · rfl
  · have := F.height_parent x p hp
    have := height_le_of_mem hy
    omega

/-- **Of two nodes of one ancestry the lower is an ancestor of the higher.** -/
theorem mem_of_height_le (hy : y ∈ F.ancestry x) (hz : z ∈ F.ancestry x)
    (h : F.height y ≤ F.height z) : y ∈ F.ancestry z := by
  induction x using F.induction with
  | root x hp =>
    rw [ancestry_root hp, List.mem_singleton] at hy hz
    rw [hy, hz]
    exact self_mem_ancestry x
  | child x p hp ih =>
    obtain rfl | hz' := (mem_ancestry_parent hp).1 hz
    · exact hy
    · have hzp := height_le_of_mem hz'
      have hpx := F.height_parent x p hp
      obtain rfl | hy' := (mem_ancestry_parent hp).1 hy
      · omega
      · exact ih hy' hz'

/-- An ancestry depends on nothing but the nodes in it. -/
theorem ancestry_congr {G : Forest κ} (h : ∀ y ∈ F.ancestry x, G.parent y = F.parent y) :
    G.ancestry x = F.ancestry x := by
  induction x using F.induction with
  | root x hp =>
    rw [ancestry_root hp, ancestry_root ((h x (self_mem_ancestry x)).trans hp)]
  | child x p hp ih =>
    rw [ancestry_parent hp, ancestry_parent ((h x (self_mem_ancestry x)).trans hp)]
    rw [ih fun y hy => h y ((mem_ancestry_parent hp).2 (.inr hy))]

theorem ancestry_suffix (h : y ∈ F.ancestry x) : F.ancestry y <:+ F.ancestry x := by
  induction x using F.induction with
  | root x hp =>
    rw [ancestry_root hp, List.mem_singleton] at h
    exact h ▸ List.suffix_rfl
  | child x p hp ih =>
    obtain rfl | hy := (mem_ancestry_parent hp).1 h
    · exact List.suffix_rfl
    · rw [ancestry_parent hp]
      exact (ih hy).trans (List.suffix_cons _ _)

theorem nodup_ancestry (x : κ) : (F.ancestry x).Nodup := by
  induction x using F.induction with
  | root x hp =>
    rw [ancestry_root hp]
    exact List.pairwise_singleton _ x
  | child x p hp ih =>
    rw [ancestry_parent hp]
    refine List.nodup_cons.2 ⟨fun hmem => ?_, ih⟩
    have hle := height_le_of_mem hmem
    have hheight := F.height_parent x p hp
    omega

/-! ### A chain and the branches off it -/

variable (F)

/-- The ancestry of a distinguished node, if there is one. -/
def chain : Option κ → List κ
  | none => []
  | some t => F.ancestry t

variable {F} {tip : Option κ}

@[simp] theorem chain_some {t : κ} : F.chain (some t) = F.ancestry t := rfl

theorem mem_chain_trans (hx : x ∈ F.chain tip) (hy : y ∈ F.ancestry x) : y ∈ F.chain tip := by
  cases tip with
  | none => exact absurd hx List.not_mem_nil
  | some t => exact mem_ancestry_trans hx hy

theorem chain_suffix {tip' : Option κ} (h : ∀ t ∈ tip', t ∈ F.chain tip) :
    F.chain tip' <:+ F.chain tip := by
  cases tip' with
  | none => exact List.nil_suffix
  | some t =>
    cases tip with
    | none => exact absurd (h t rfl) List.not_mem_nil
    | some u => exact ancestry_suffix (h t rfl)

theorem nodup_chain (tip : Option κ) : (F.chain tip).Nodup := by
  cases tip with
  | none => exact List.nodup_nil
  | some t => exact nodup_ancestry t

variable (F) in
/-- Each node is a child of the one before it, the first one of a given node. -/
def Climbs : Option κ → List κ → Prop
  | _, [] => True
  | below, x :: l => F.parent x = below ∧ Climbs (some x) l

theorem climbs_snoc {below : Option κ} {l : List κ} :
    F.Climbs below (l ++ [x]) ↔ F.Climbs below l ∧ F.parent x = l.getLast?.or below := by
  induction l generalizing below with
  | nil => simp [Climbs]
  | cons y l ih =>
    rw [List.cons_append, Climbs, Climbs, ih, and_assoc, List.getLast?_cons]
    cases l.getLast? with
    | none => simp
    | some z => simp

variable (F) [DecidableEq κ]

/-- The nodes on the way from a node to a chain. -/
def branch (tip : Option κ) (x : κ) : List κ := (F.ancestry x).takeWhile (· ∉ F.chain tip)

variable {F}

/-- **A branch holds exactly the ancestors that are not on the chain.** -/
theorem mem_branch : y ∈ F.branch tip x ↔ y ∈ F.ancestry x ∧ y ∉ F.chain tip := by
  constructor
  · intro h
    exact ⟨(List.takeWhile_sublist _).subset h, by simpa using List.mem_takeWhile_imp h⟩
  · rintro ⟨hy, hoff⟩
    unfold branch
    induction x using F.induction with
    | root x hp =>
      rw [ancestry_root hp] at hy ⊢
      obtain rfl := List.mem_singleton.1 hy
      simp [hoff]
    | child x p hp ih =>
      have hx : x ∉ F.chain tip := fun hx => hoff (mem_chain_trans hx hy)
      rw [ancestry_parent hp, List.takeWhile_cons_of_pos (by simpa using hx)]
      obtain rfl | hy' := (mem_ancestry_parent hp).1 hy
      · exact List.mem_cons_self
      · exact List.mem_cons_of_mem _ (ih hy')

theorem branch_of_mem (h : x ∈ F.chain tip) : F.branch tip x = [] := by
  rw [List.eq_nil_iff_forall_not_mem]
  intro y hy
  obtain ⟨hmem, hoff⟩ := mem_branch.1 hy
  exact hoff (mem_chain_trans h hmem)

theorem branch_parent (hoff : x ∉ F.chain tip) (hp : F.parent x = some p) :
    F.branch tip x = x :: F.branch tip p := by
  rw [branch, ancestry_parent hp, List.takeWhile_cons_of_pos (by simpa using hoff), branch]

theorem branch_root (hoff : x ∉ F.chain tip) (hp : F.parent x = none) : F.branch tip x = [x] := by
  rw [branch, ancestry_root hp, List.takeWhile_cons_of_pos (by simpa using hoff),
    List.takeWhile_nil]

/-- The nodes of a branch above one of its nodes descend from it. -/
theorem mem_ancestry_of_mem_takeWhile (hz : z ∈ F.branch tip x)
    (hy : y ∈ (F.branch tip x).takeWhile (· ≠ z)) : z ∈ F.ancestry y := by
  have hoff : x ∉ F.chain tip := by
    intro hon
    rw [branch_of_mem hon] at hz
    exact List.not_mem_nil hz
  induction x using F.induction with
  | root x hp =>
    rw [branch_root hoff hp, List.mem_singleton] at hz
    rw [branch_root hoff hp, hz, List.takeWhile_cons_of_neg (by simp)] at hy
    exact absurd hy List.not_mem_nil
  | child x p hp ih =>
    have hzx := (mem_branch.1 hz).1
    rw [branch_parent hoff hp] at hz hy
    by_cases hxz : x = z
    · rw [hxz, List.takeWhile_cons_of_neg (by simp)] at hy
      exact absurd hy List.not_mem_nil
    · rw [List.takeWhile_cons_of_pos (by simpa using hxz)] at hy
      obtain rfl | hy := List.mem_cons.1 hy
      · exact hzx
      · have hz' := (List.mem_cons.1 hz).resolve_left (Ne.symm hxz)
        refine ih hz' hy fun hon => ?_
        rw [branch_of_mem hon] at hz'
        exact List.not_mem_nil hz'

/-- **A branch climbs from its fork.** -/
theorem climbs_branch (tip : Option κ) (x : κ) :
    F.Climbs ((F.ancestry x).find? (· ∈ F.chain tip)) (F.branch tip x).reverse := by
  by_cases hoff : x ∈ F.chain tip
  · rw [branch_of_mem hoff]
    trivial
  induction x using F.induction with
  | root x hp =>
    rw [branch_root hoff hp, ancestry_root hp, List.find?_cons_of_neg (by simpa using hoff)]
    exact ⟨hp, trivial⟩
  | child x p hp ih =>
    rw [branch_parent hoff hp, ancestry_parent hp, List.find?_cons_of_neg (by simpa using hoff),
      List.reverse_cons, climbs_snoc, List.getLast?_reverse, hp]
    by_cases hpon : p ∈ F.chain tip
    · rw [branch_of_mem hpon]
      refine ⟨trivial, ?_⟩
      cases hpp : F.parent p with
      | none => simp [ancestry_root hpp, hpon]
      | some q => simp [ancestry_parent hpp, hpon]
    · refine ⟨ih hpon, ?_⟩
      cases hpp : F.parent p with
      | none => rw [branch_root hpon hpp]; rfl
      | some q => rw [branch_parent hpon hpp]; rfl

/-! ### Finite forests -/

/-- The height a table of nodes, parents and heights gives to a node; a node without an entry is a
root. -/
def tableHeight (table : List (κ × κ × ℕ)) (x : κ) : ℕ :=
  ((table.find? (·.1 = x)).map (·.2.2)).getD 0

/-- The forest of a table in which every node is one level above its parent. -/
def ofTable (table : List (κ × κ × ℕ)) (h : ∀ e ∈ table, e.2.2 = tableHeight table e.2.1 + 1) :
    Forest κ where
  parent x := (table.find? (·.1 = x)).map (·.2.1)
  height := tableHeight table
  height_parent := by
    intro x p hp
    obtain ⟨e, he, rfl⟩ := Option.map_eq_some_iff.1 hp
    rw [tableHeight, he]
    exact h e (List.mem_of_find?_eq_some he)

end Forest

end ElementsDrivechain
