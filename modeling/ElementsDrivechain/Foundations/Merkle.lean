import Mathlib.Data.Nat.Bitwise
import Mathlib.Data.Set.Function
import Mathlib.Tactic.Ring

/-!
# Merkle trees that are filled from the left

A perfect binary tree of hashes over a sequence of leaves, all but finitely many of which are empty.
Three ways to work with it are compared with its root: a *frontier* that keeps one node for each
binary digit of the number of leaves, the list of the nodes of one level after the other, and the
path from one leaf to the root.

Nothing is assumed of the function that hashes two nodes.  That a root determines its leaves is
proved under the assumption that this function tells the pairs apart that occur in the trees at
hand; on all pairs it cannot.

* `Merkle.carry_frontier` : appending to a frontier appends a leaf.
* `Merkle.foldFrontier_frontier` : **the root of a frontier is the root of the tree.**
* `Merkle.climb_path` : **a path leads to the root.**
* `Merkle.eq_of_climb_eq` : **a path that leads to a node starts in the tree.**
* `Merkle.eq_of_root_eq` : **a root determines its leaves.**
-/

namespace ElementsDrivechain.Merkle

variable {α : Type*} (node : α → α → α)

/-! ### Perfect trees -/

/-- The root of the perfect tree of a depth over a sequence of leaves. -/
def root : ℕ → (ℕ → α) → α
  | 0, f => f 0
  | d + 1, f => node (root d f) (root d fun i => f (i + 2 ^ d))

/-- The level above: neighbours are hashed together. -/
def lift (f : ℕ → α) (i : ℕ) : α := node (f (2 * i)) (f (2 * i + 1))

/-- A level of a tree, counted from the leaves. -/
def level (f : ℕ → α) : ℕ → ℕ → α
  | 0 => f
  | k + 1 => lift node (level f k)

variable {node} {f : ℕ → α} {d : ℕ}

theorem root_succ : root node (d + 1) f = root node d (lift node f) := by
  induction d generalizing f with
  | zero => rfl
  | succ d ih =>
    rw [root, ih, ih, root]
    congr 2
    funext i
    simp only [lift]
    congr 2 <;> ring

theorem level_lift (k : ℕ) : level node (lift node f) k = level node f (k + 1) := by
  induction k with
  | zero => rfl
  | succ k ih => rw [level, ih]; rfl

/-- The root is the only node that counts at its level. -/
theorem root_eq_level : root node d f = level node f d 0 := by
  induction d generalizing f with
  | zero => rfl
  | succ d ih => rw [root_succ, ih, level_lift]

/-! ### Empty trees -/

variable (node) in
/-- The root of the empty tree of a height. -/
def emptyRoot (empty : α) : ℕ → α
  | 0 => empty
  | h + 1 => node (emptyRoot empty h) (emptyRoot empty h)

variable {empty : α}

/-- The sequence of some leaves followed by empty ones. -/
def padded (empty : α) (l : List α) (i : ℕ) : α := l.getD i empty

theorem padded_append_empty {l : List α} : padded empty (l ++ [empty]) = padded empty l := by
  funext i
  obtain hi | hi := lt_or_ge i l.length
  · exact List.getD_append _ _ _ _ hi
  · rw [padded, List.getD_append_right _ _ _ _ hi, padded, List.getD_eq_default _ _ hi]
    cases i - l.length <;> rfl

theorem root_padded_nil : root node d (padded empty []) = emptyRoot node empty d := by
  induction d with
  | zero => rfl
  | succ d ih =>
    rw [emptyRoot, ← ih]
    rfl

/-- Behind the leaves everything is empty. -/
theorem padded_shift {l : List α} {n : ℕ} (h : l.length ≤ n) :
    (fun i => padded empty l (i + n)) = padded empty [] := by
  funext i
  exact List.getD_eq_default _ _ (by omega)

/-- Leaves that are not empty are determined by their sequence. -/
theorem eq_of_padded_eq {l l' : List α} (hl : ∀ x ∈ l, x ≠ empty) (hl' : ∀ x ∈ l', x ≠ empty)
    {n : ℕ} (hn : l.length ≤ n) (hn' : l'.length ≤ n)
    (h : ∀ i < n, padded empty l i = padded empty l' i) : l = l' := by
  have hlength : ∀ {a b : List α}, (∀ x ∈ b, x ≠ empty) → b.length ≤ n →
      (∀ i < n, padded empty a i = padded empty b i) → ¬a.length < b.length := by
    intro a b hb hbn hab hlt
    have hi := hab a.length (hlt.trans_le hbn)
    rw [padded, List.getD_eq_default _ _ le_rfl, padded, List.getD_eq_getElem _ _ hlt] at hi
    exact hb _ (List.getElem_mem hlt) hi.symm
  have heq : l.length = l'.length :=
    le_antisymm (not_lt.1 (hlength hl hn fun i hi => (h i hi).symm)) (not_lt.1 (hlength hl' hn' h))
  refine List.ext_getElem heq fun i hi hi' => ?_
  have := h i (hi.trans_le hn)
  rwa [padded, List.getD_eq_getElem _ _ hi, padded, List.getD_eq_getElem _ _ hi'] at this

/-! ### One level after the other -/

variable (node) in
/-- The nodes above a level; the last one may have an empty neighbour. -/
def nextLayer (empty : α) : List α → List α
  | [] => []
  | [a] => [node a empty]
  | a :: b :: l => node a b :: nextLayer empty l

theorem padded_nextLayer (l : List α) :
    padded (node empty empty) (nextLayer node empty l) = lift node (padded empty l) := by
  funext i
  induction l using nextLayer.induct generalizing i with
  | case1 => rfl
  | case2 a =>
    cases i with
    | zero => rfl
    | succ i => rfl
  | case3 a b l ih =>
    cases i with
    | zero => rfl
    | succ i => exact ih i

theorem length_nextLayer (l : List α) : (nextLayer node empty l).length = (l.length + 1) / 2 := by
  induction l using nextLayer.induct with
  | case1 => simp [nextLayer]
  | case2 a => simp [nextLayer]
  | case3 a b l ih =>
    rw [nextLayer, List.length_cons, ih, List.length_cons, List.length_cons]
    omega

/-! ### Frontiers -/

variable (node) in
/-- The pairs of a level hashed together; a last node without a neighbour is left out. -/
def pairUp : List α → List α
  | [] => []
  | [_] => []
  | a :: b :: l => node a b :: pairUp l

/-- The last node of a level when it has no neighbour; the mark `zero` stands for no node. -/
def unpaired (zero : α) : List α → α
  | [] => zero
  | [a] => a
  | _ :: _ :: l => unpaired zero l

variable {zero : α}

variable (node) in
theorem length_pairUp (l : List α) : (pairUp node l).length = l.length / 2 := by
  induction l using pairUp.induct with
  | case1 => simp [pairUp]
  | case2 a => simp [pairUp]
  | case3 a b l ih =>
    rw [pairUp, List.length_cons, ih, List.length_cons, List.length_cons]
    omega

theorem unpaired_of_even (l : List α) (h : l.length % 2 = 0) : unpaired zero l = zero := by
  induction l using pairUp.induct with
  | case1 => rfl
  | case2 a => simp at h
  | case3 a b l ih => exact ih (by simp only [List.length_cons] at h; omega)

variable (node zero empty) in
/-- A new last node that has no neighbour. -/
theorem append_of_even (x : α) (l : List α) (h : l.length % 2 = 0) :
    pairUp node (l ++ [x]) = pairUp node l ∧ unpaired zero (l ++ [x]) = x ∧
      nextLayer node empty (l ++ [x]) = pairUp node l ++ [node x empty] := by
  induction l using pairUp.induct with
  | case1 => exact ⟨rfl, rfl, rfl⟩
  | case2 a => simp at h
  | case3 a b l ih =>
    obtain ⟨hpair, hlast, hnext⟩ := ih (by simp only [List.length_cons] at h; omega)
    exact ⟨congrArg (node a b :: ·) hpair, hlast, congrArg (node a b :: ·) hnext⟩

variable (node zero empty) in
/-- A new last node beside one that had no neighbour. -/
theorem append_of_odd (x : α) (l : List α) (h : l.length % 2 = 1) :
    pairUp node (l ++ [x]) = pairUp node l ++ [node (unpaired zero l) x] ∧
      unpaired zero (l ++ [x]) = zero ∧
      nextLayer node empty (l ++ [x]) = pairUp node l ++ [node (unpaired zero l) x] := by
  induction l using pairUp.induct with
  | case1 => simp at h
  | case2 a => exact ⟨rfl, rfl, rfl⟩
  | case3 a b l ih =>
    obtain ⟨hpair, hlast, hnext⟩ := ih (by simp only [List.length_cons] at h; omega)
    exact ⟨congrArg (node a b :: ·) hpair, hlast, congrArg (node a b :: ·) hnext⟩

variable (node) in
/-- The nodes without a neighbour, level by level from the leaves upwards. -/
def frontier (zero : α) : ℕ → List α → List α
  | 0, _ => []
  | d + 1, l => unpaired zero l :: frontier zero d (pairUp node l)

variable (node) in
/-- Append a node to a frontier: while a level is occupied its node is taken out and the new one
becomes their common parent. -/
def carry (zero : α) : ℕ → α → List α → List α
  | _, _, [] => []
  | occupied, x, f :: fs =>
    if occupied % 2 = 1 then zero :: carry zero (occupied / 2) (node f x) fs else x :: fs

variable (node) in
/-- The root of a frontier from a level upwards, above the last node of that level. -/
def foldFrontier (empty : α) (count : ℕ) : ℕ → α → List α → α
  | _, x, [] => x
  | k, x, f :: fs => foldFrontier empty count (k + 1)
      (if count.testBit k then node f x else node x (emptyRoot node empty k)) fs

theorem frontier_nil : frontier node zero d [] = List.replicate d zero := by
  induction d with
  | zero => rfl
  | succ d ih => rw [List.replicate_succ, ← ih]; rfl

theorem length_frontier (l : List α) : (frontier node zero d l).length = d := by
  induction d generalizing l with
  | zero => rfl
  | succ d ih => rw [frontier, List.length_cons, ih]

theorem length_carry (occupied : ℕ) (x : α) (fs : List α) :
    (carry node zero occupied x fs).length = fs.length := by
  induction fs generalizing occupied x with
  | nil => rfl
  | cons f fs ih =>
    rw [carry]
    split_ifs
    · rw [List.length_cons, ih, List.length_cons]
    · rfl

variable (node zero d) in
/-- **Appending to a frontier appends a leaf.** -/
theorem carry_frontier (l : List α) (x : α) :
    carry node zero l.length x (frontier node zero d l) = frontier node zero d (l ++ [x]) := by
  induction d generalizing l x with
  | zero => rfl
  | succ d ih =>
    rw [frontier, frontier, carry]
    split_ifs with h
    · obtain ⟨hpair, hlast, -⟩ := append_of_odd node zero zero x l h
      rw [hpair, hlast, ← length_pairUp node, ih]
    · obtain ⟨hpair, hlast, -⟩ := append_of_even node zero zero x l (by omega)
      rw [hpair, hlast]

/-- A level that has no node without a neighbour is marked. -/
theorem frontier_getD (d : ℕ) (l : List α) (k : ℕ) (h : l.length.testBit k = false) :
    (frontier node zero d l).getD k zero = zero := by
  induction d generalizing l k with
  | zero => rfl
  | succ d ih =>
    cases k with
    | zero => exact unpaired_of_even l (by simpa [Nat.testBit_zero] using h)
    | succ k =>
      rw [frontier, List.getD_cons_succ]
      refine ih _ _ ?_
      rw [length_pairUp, ← Nat.testBit_succ]
      exact h

/-- **The root of a frontier is the root of the tree** with one more node behind the leaves. -/
theorem foldFrontier_frontier {count k : ℕ} (l : List α) (x : α) (hl : l.length < 2 ^ d)
    (hcount : ∀ j, count.testBit (k + j) = l.length.testBit j) :
    foldFrontier node empty count k x (frontier node zero d l) =
      root node d (padded (emptyRoot node empty k) (l ++ [x])) := by
  induction d generalizing l x k with
  | zero =>
    obtain rfl : l = [] := by simpa using hl
    rfl
  | succ d ih =>
    have hbit : count.testBit k = decide (l.length % 2 = 1) := by
      rw [← Nat.add_zero k, hcount, Nat.testBit_zero]
    rw [frontier, foldFrontier, ih (pairUp node l), root_succ, ← padded_nextLayer, hbit]
    · congr 2
      by_cases h : l.length % 2 = 1
      · rw [(append_of_odd node _ zero x l h).2.2, decide_eq_true h, if_pos rfl]
      · rw [(append_of_even node _ zero x l (by omega)).2.2, decide_eq_false h]
        rfl
    · rw [length_pairUp]
      omega
    · intro j
      rw [length_pairUp, ← Nat.testBit_succ, ← hcount]
      congr 1
      omega

/-! ### Paths -/

variable (node) in
/-- From a node upwards: the digits of its position tell on which side the neighbours are. -/
def climb : ℕ → α → List α → α
  | _, x, [] => x
  | i, x, s :: ss => climb (i / 2) (if i % 2 = 0 then node x s else node s x) ss

/-- **A path of neighbours leads to the node above.** -/
theorem climb_path (node : α → α → α) (f : ℕ → α) (i n k : ℕ) :
    climb node i (level node f k i)
      ((List.range n).map fun j => level node f (k + j) (i / 2 ^ j ^^^ 1)) =
      level node f (k + n) (i / 2 ^ n) := by
  induction n generalizing i k with
  | zero => simp [climb]
  | succ n ih =>
    have hup : (if i % 2 = 0 then node (level node f k i) (level node f k (i ^^^ 1))
        else node (level node f k (i ^^^ 1)) (level node f k i)) =
      level node f (k + 1) (i / 2) := by
      rw [level, lift]
      split_ifs with h
      · congr 2
        · omega
        · rw [Nat.xor_one_of_even (Nat.even_iff.2 h)]
          omega
      · have hodd : i % 2 = 1 := by omega
        congr 2
        · rw [Nat.xor_one_of_odd (Nat.odd_iff.2 hodd)]
          omega
        · omega
    rw [List.range_succ_eq_map, List.map_cons, List.map_map, climb, Nat.add_zero, Nat.pow_zero,
      Nat.div_one, hup]
    have hrest : ((fun j => level node f (k + j) (i / 2 ^ j ^^^ 1)) ∘ Nat.succ) =
        fun j => level node f (k + 1 + j) (i / 2 / 2 ^ j ^^^ 1) := by
      funext j
      simp only [Function.comp, Nat.succ_eq_add_one, Nat.div_div_eq_div_mul, pow_succ']
      congr 1
      omega
    rw [hrest, ih, Nat.div_div_eq_div_mul, ← pow_succ']
    congr 1
    omega

variable (node) in
/-- The pairs that are hashed on the way up. -/
def climbPairs : ℕ → α → List α → List (α × α)
  | _, _, [] => []
  | i, x, s :: ss =>
    (if i % 2 = 0 then (x, s) else (s, x)) ::
      climbPairs (i / 2) (if i % 2 = 0 then node x s else node s x) ss

variable (node) in
/-- Two neighbours in the tree of depth `d`, below one node. -/
def Siblings (d : ℕ) (f : ℕ → α) (p : α × α) : Prop :=
  ∃ k < d, ∃ i < 2 ^ (d - k - 1), p = (level node f k (2 * i), level node f k (2 * i + 1))

/-- **A path that leads to the root of a tree starts in the tree**, unless a pair on it has the hash
of other neighbours in the tree. -/
theorem eq_of_climb_eq {i k : ℕ} {x : α} {ss : List α} (hi : i < 2 ^ ss.length)
    (h : climb node i x ss = level node f (k + ss.length) 0) :
    x = level node f k i ∨ ∃ p ∈ climbPairs node i x ss, ∃ q, Siblings node (k + ss.length) f q ∧
      q ≠ p ∧ node q.1 q.2 = node p.1 p.2 := by
  induction ss generalizing i k x with
  | nil =>
    obtain rfl : i = 0 := by simpa using hi
    exact .inl h
  | cons s ss ih =>
    rw [List.length_cons, pow_succ] at hi
    rw [List.length_cons, ← Nat.add_assoc, Nat.add_right_comm] at h ⊢
    obtain hup | ⟨p, hp, hq⟩ := ih (show i / 2 < 2 ^ ss.length by omega) h
    · -- the node above is one of the tree: compare what it is the hash of
      by_cases hpair : (level node f k (2 * (i / 2)), level node f k (2 * (i / 2) + 1)) =
          if i % 2 = 0 then (x, s) else (s, x)
      · left
        split_ifs at hpair with hside
        · rw [← (Prod.mk.inj hpair).1]
          congr 1
          omega
        · rw [← (Prod.mk.inj hpair).2]
          congr 1
          omega
      · have hlt : i / 2 < 2 ^ (k + 1 + ss.length - k - 1) := by
          rw [show k + 1 + ss.length - k - 1 = ss.length by omega]
          omega
        refine .inr ⟨_, List.mem_cons_self, _, ⟨k, by omega, i / 2, hlt, rfl⟩, hpair, ?_⟩
        rw [level, lift] at hup
        rw [← hup]
        split_ifs <;> rfl
    · exact .inr ⟨p, List.mem_cons_of_mem _ hp, hq⟩

/-! ### Binding -/

variable (node) in
/-- The pairs that are hashed in a tree. -/
def Pairs : ℕ → (ℕ → α) → Set (α × α)
  | 0, _ => ∅
  | d + 1, f =>
    insert (root node d f, root node d fun i => f (i + 2 ^ d))
      (Pairs d f ∪ Pairs d fun i => f (i + 2 ^ d))

/-- **A root determines its leaves**, if no two pairs that occur have the same hash. -/
theorem eq_of_root_eq {g : ℕ → α}
    (hinj : Set.InjOn (fun p : α × α => node p.1 p.2) (Pairs node d f ∪ Pairs node d g))
    (h : root node d f = root node d g) : ∀ i < 2 ^ d, f i = g i := by
  induction d generalizing f g with
  | zero =>
    intro i hi
    obtain rfl : i = 0 := by simpa using hi
    exact h
  | succ d ih =>
    have hpair := hinj (.inl (Set.mem_insert _ _)) (.inr (Set.mem_insert _ _)) h
    obtain ⟨hleft, hright⟩ := Prod.mk.inj hpair
    intro i hi
    obtain hlt | hge := lt_or_ge i (2 ^ d)
    · refine ih (hinj.mono ?_) hleft i hlt
      exact Set.union_subset_union (fun p hp => .inr (.inl hp)) fun p hp => .inr (.inl hp)
    · have hi' : i - 2 ^ d < 2 ^ d := by
        rw [pow_succ] at hi
        omega
      have := ih (hinj.mono ?_) hright (i - 2 ^ d) hi'
      · simpa only [Nat.sub_add_cancel hge] using this
      · exact Set.union_subset_union (fun p hp => .inr (.inr hp)) fun p hp => .inr (.inr hp)

end ElementsDrivechain.Merkle
