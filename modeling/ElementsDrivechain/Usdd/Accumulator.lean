import ElementsDrivechain.Foundations.Fallible
import ElementsDrivechain.Foundations.Merkle
import ElementsDrivechain.Parent.Primitives

/-!
# The accumulator of withdrawals

Withdrawals to the foreign chain are leaves of a Merkle tree of depth 64 that only grows.  A state
of the accumulator keeps the number of leaves, the root and one node for each binary digit one of
that number; it is stored beside each block.

The single SHA-256 is a parameter.

* `appendAll_empty_eq_ok` : **appending leaves to the empty state gives the state that describes
  them**; there is one as long as their number fits.
* `Describes.isSane` : a state that describes leaves is sane.
* `deserialize_serialize` : **a sane state is read back as it was written.**
-/

namespace ElementsDrivechain.Usdd

/-- A hash of the accumulator. -/
abbrev WithdrawalHash := Uint256

/-- The version of stored states. -/
def WITHDRAWAL_ACCUMULATOR_VERSION : UInt8 := 1
/-- The depth of the tree. -/
def WITHDRAWAL_ACCUMULATOR_DEPTH : ℕ := 64
/-- Hashed in front of a leaf. -/
def WITHDRAWAL_LEAF_PREFIX : UInt8 := 0x00
/-- Hashed in front of a node. -/
def WITHDRAWAL_NODE_PREFIX : UInt8 := 0x01

variable (sha256 : Bytes → WithdrawalHash)

/-! ### Nodes -/

/-- The bytes that are hashed for a node. -/
def withdrawalNodePreimage (left right : WithdrawalHash) : Bytes :=
  WITHDRAWAL_NODE_PREFIX :: (left.data ++ right.data)

/-- A node over two others. -/
def withdrawalNode (left right : WithdrawalHash) : WithdrawalHash :=
  sha256 (withdrawalNodePreimage left right)

/-- The leaf that stands for no withdrawal. -/
def withdrawalEmptyLeaf : WithdrawalHash := sha256 [WITHDRAWAL_LEAF_PREFIX]

/-- The root of the tree of a height that has only empty leaves. -/
def withdrawalEmptyRoot (height : ℕ) : WithdrawalHash :=
  Merkle.emptyRoot (withdrawalNode sha256) (withdrawalEmptyLeaf sha256) height

/-- The root over some leaves, followed by empty ones. -/
def withdrawalRoot (leaves : List WithdrawalHash) : WithdrawalHash :=
  Merkle.root (withdrawalNode sha256) WITHDRAWAL_ACCUMULATOR_DEPTH
    (Merkle.padded (withdrawalEmptyLeaf sha256) leaves)

/-! ### States -/

/-- A state of the accumulator. -/
@[ext]
structure WithdrawalAccumulatorState where
  count : ℕ
  root : WithdrawalHash
  /-- The nodes that wait for a neighbour, from the leaves upwards; zero where there is none. -/
  frontier : List WithdrawalHash
  count_lt : count < 2 ^ 64
  size_frontier : frontier.length = WITHDRAWAL_ACCUMULATOR_DEPTH
deriving DecidableEq

namespace WithdrawalAccumulatorState

/-- The root that follows from the number of leaves and the frontier. -/
def computeWithdrawalAccumulatorRoot (state : WithdrawalAccumulatorState) : WithdrawalHash :=
  Merkle.foldFrontier (withdrawalNode sha256) (withdrawalEmptyLeaf sha256) state.count 0
    (withdrawalEmptyRoot sha256 0) state.frontier

/-- The state with no leaf. -/
def empty : WithdrawalAccumulatorState where
  count := 0
  root := withdrawalEmptyRoot sha256 WITHDRAWAL_ACCUMULATOR_DEPTH
  frontier := List.replicate WITHDRAWAL_ACCUMULATOR_DEPTH 0
  count_lt := by decide
  size_frontier := List.length_replicate

/-- Only occupied levels have a node, and the root follows from the rest. -/
def IsSane (state : WithdrawalAccumulatorState) : Prop :=
  (∀ level < WITHDRAWAL_ACCUMULATOR_DEPTH, state.count.testBit level = false →
    state.frontier.getD level 0 = 0) ∧
  state.root = state.computeWithdrawalAccumulatorRoot sha256

instance : DecidablePred (IsSane sha256) := fun _ => inferInstanceAs (Decidable (_ ∧ _))

/-- Append a leaf. -/
def append (state : WithdrawalAccumulatorState) (leaf : WithdrawalHash) :
    Except String WithdrawalAccumulatorState :=
  if h : state.count = 2 ^ 64 - 1 then .error "USDD withdrawal accumulator count overflow"
  else
    let next : WithdrawalAccumulatorState :=
      { state with
        count := state.count + 1
        frontier := Merkle.carry (withdrawalNode sha256) 0 state.count leaf state.frontier
        count_lt := by have := state.count_lt; omega
        size_frontier := (Merkle.length_carry _ _ _).trans state.size_frontier }
    .ok { next with root := next.computeWithdrawalAccumulatorRoot sha256 }

/-- Append leaves in order. -/
def appendAll (state : WithdrawalAccumulatorState) (leaves : List WithdrawalHash) :
    Except String WithdrawalAccumulatorState :=
  leaves.foldlM (append sha256) state

/-! ### The stored form -/

/-- The nodes of the occupied levels. -/
def serializeFrontier (count : ℕ) : ℕ → List WithdrawalHash → Bytes
  | _, [] => []
  | level, node :: rest =>
    (if count.testBit level then node.data else []) ++ serializeFrontier count (level + 1) rest

/-- The bytes of a state. -/
def serialize (state : WithdrawalAccumulatorState) : Bytes :=
  [WITHDRAWAL_ACCUMULATOR_VERSION] ++ (writeLE 8 state.count ++ (state.root.data ++
    serializeFrontier state.count 0 state.frontier))

/-- Read a hash. -/
def readHash : Reader WithdrawalHash := Reader.uint256

/-- Read the node of a level; a level that is not occupied has none, and is zero. -/
def readNode (occupied : Bool) : Reader WithdrawalHash := if occupied then readHash else pure 0

/-- Read the nodes of the levels from one upwards. -/
def readFrontier (count : ℕ) : ℕ → (n : ℕ) → Reader { l : List WithdrawalHash // l.length = n }
  | _, 0 => pure ⟨[], rfl⟩
  | level, n + 1 => do
    let node ← readNode (count.testBit level)
    let rest ← readFrontier count (level + 1) n
    pure ⟨node :: rest.1, by rw [List.length_cons, rest.2]⟩

/-- Read a state; only sane ones are accepted. -/
def deserialize : Reader WithdrawalAccumulatorState := do
  let version ← Reader.take 1
  Reader.refuseIf (version.1 ≠ [WITHDRAWAL_ACCUMULATOR_VERSION])
    "unsupported USDD withdrawal accumulator version"
  let count ← Reader.take 8
  let root ← readHash
  let frontier ← readFrontier (readLE count.1) 0 WITHDRAWAL_ACCUMULATOR_DEPTH
  let state : WithdrawalAccumulatorState :=
    { count := readLE count.1
      root := root
      frontier := frontier.1
      count_lt := (readLE_lt count.1).trans_eq (by rw [count.2]; norm_num)
      size_frontier := frontier.2 }
  Reader.refuseIf (¬state.IsSane sha256) "malformed USDD withdrawal accumulator state"
  pure state

/-! ### States that describe leaves -/

/-- A state describes a sequence of leaves: it has the number of them, the root of their tree and
the nodes of the tree that wait for a neighbour. -/
structure Describes (state : WithdrawalAccumulatorState) (leaves : List WithdrawalHash) : Prop where
  count : state.count = leaves.length
  root : state.root = withdrawalRoot sha256 leaves
  frontier : state.frontier =
    Merkle.frontier (withdrawalNode sha256) 0 WITHDRAWAL_ACCUMULATOR_DEPTH leaves

variable {sha256} {state state' : WithdrawalAccumulatorState} {leaves : List WithdrawalHash}

theorem Describes.length_lt (h : Describes sha256 state leaves) : leaves.length < 2 ^ 64 :=
  h.count ▸ state.count_lt

theorem Describes.unique (h : Describes sha256 state leaves) (h' : Describes sha256 state' leaves) :
    state = state' :=
  WithdrawalAccumulatorState.ext (h.count.trans h'.count.symm) (h.root.trans h'.root.symm)
    (h.frontier.trans h'.frontier.symm)

variable (sha256) in
theorem exists_describes (h : leaves.length < 2 ^ 64) : ∃ state, Describes sha256 state leaves :=
  ⟨⟨leaves.length, withdrawalRoot sha256 leaves, _, h, Merkle.length_frontier leaves⟩,
    rfl, rfl, rfl⟩

theorem computeWithdrawalAccumulatorRoot_of_frontier (hcount : state.count = leaves.length)
    (hfrontier : state.frontier =
      Merkle.frontier (withdrawalNode sha256) 0 WITHDRAWAL_ACCUMULATOR_DEPTH leaves) :
    state.computeWithdrawalAccumulatorRoot sha256 = withdrawalRoot sha256 leaves := by
  have hlt : leaves.length < 2 ^ WITHDRAWAL_ACCUMULATOR_DEPTH := hcount ▸ state.count_lt
  rw [computeWithdrawalAccumulatorRoot, hcount, hfrontier,
    Merkle.foldFrontier_frontier leaves _ hlt fun j => by rw [Nat.zero_add], withdrawalRoot]
  congr 1
  exact Merkle.padded_append_empty

/-- **A state that describes leaves is sane.** -/
theorem Describes.isSane (h : Describes sha256 state leaves) : state.IsSane sha256 := by
  constructor
  · intro level _ hlevel
    rw [h.frontier]
    exact Merkle.frontier_getD _ leaves level (h.count ▸ hlevel)
  · rw [h.root, computeWithdrawalAccumulatorRoot_of_frontier h.count h.frontier]

theorem describes_empty : Describes sha256 (empty sha256) [] := by
  refine ⟨rfl, ?_, Merkle.frontier_nil.symm⟩
  rw [withdrawalRoot, Merkle.root_padded_nil, empty, withdrawalEmptyRoot]

/-- Appending to a state that describes leaves describes one leaf more. -/
theorem Describes.append_eq_ok (h : Describes sha256 state leaves) {leaf : WithdrawalHash} :
    state.append sha256 leaf = .ok state' ↔ Describes sha256 state' (leaves ++ [leaf]) := by
  by_cases hroom : state.count = 2 ^ 64 - 1
  · rw [append, dif_pos hroom]
    refine ⟨nofun, fun h' => ?_⟩
    have hlt := h'.length_lt
    rw [List.length_append, ← h.count, hroom] at hlt
    simp at hlt
  · rw [append, dif_neg hroom, Except.ok.injEq]
    have hcount : state.count + 1 = (leaves ++ [leaf]).length := by simp [h.count]
    have hfrontier : Merkle.carry (withdrawalNode sha256) 0 state.count leaf state.frontier =
        Merkle.frontier (withdrawalNode sha256) 0 WITHDRAWAL_ACCUMULATOR_DEPTH
          (leaves ++ [leaf]) := by
      rw [h.count, h.frontier, Merkle.carry_frontier]
    constructor
    · rintro rfl
      exact ⟨hcount, computeWithdrawalAccumulatorRoot_of_frontier hcount hfrontier, hfrontier⟩
    · intro h'
      refine Describes.unique ⟨hcount, ?_, hfrontier⟩ h'
      exact computeWithdrawalAccumulatorRoot_of_frontier hcount hfrontier

/-- Appending leaves to a state that describes leaves describes them all. -/
theorem Describes.appendAll_eq_ok (h : Describes sha256 state leaves) {more : List WithdrawalHash} :
    state.appendAll sha256 more = .ok state' ↔ Describes sha256 state' (leaves ++ more) := by
  induction more generalizing state leaves with
  | nil =>
    rw [appendAll, Fallible.foldlM_nil_eq_ok, List.append_nil]
    exact ⟨fun heq => heq ▸ h, h.unique⟩
  | cons leaf more ih =>
    have hassoc : leaves ++ leaf :: more = (leaves ++ [leaf]) ++ more := by simp
    rw [appendAll, Fallible.foldlM_cons_eq_ok, hassoc]
    constructor
    · rintro ⟨next, hnext, hrest⟩
      exact (ih (h.append_eq_ok.1 hnext)).1 hrest
    · intro h'
      have hlt : (leaves ++ [leaf]).length < 2 ^ 64 := by
        have := h'.length_lt
        rw [List.length_append] at this
        omega
      obtain ⟨next, hnext⟩ := exists_describes sha256 hlt
      exact ⟨next, h.append_eq_ok.2 hnext, (ih hnext).2 h'⟩

/-- **Appending leaves to the empty state gives the state that describes them.** -/
theorem appendAll_empty_eq_ok :
    (empty sha256).appendAll sha256 leaves = .ok state ↔ Describes sha256 state leaves :=
  describes_empty.appendAll_eq_ok

/-! ### Reading what was written -/

theorem readHash_append (hash : WithdrawalHash) (rest : Bytes) :
    readHash (hash.data ++ rest) = .ok (hash, rest) :=
  Reader.Reads.uint256 hash rest

theorem readFrontier_append {count : ℕ} {nodes : List WithdrawalHash} {level n : ℕ}
    (hn : nodes.length = n)
    (hzero : ∀ k, count.testBit (level + k) = false → nodes.getD k 0 = 0) (rest : Bytes) :
    readFrontier count level n (serializeFrontier count level nodes ++ rest) =
      .ok (⟨nodes, hn⟩, rest) := by
  subst hn
  induction nodes generalizing level with
  | nil => rfl
  | cons node nodes ih =>
    have hnode : readNode (count.testBit level)
        ((if count.testBit level then node.data else []) ++
          (serializeFrontier count (level + 1) nodes ++ rest)) =
        .ok (node, serializeFrontier count (level + 1) nodes ++ rest) := by
      by_cases hbit : count.testBit level = true
      · rw [if_pos hbit, hbit]
        exact readHash_append node _
      · obtain rfl : node = 0 := hzero 0 (by simpa using hbit)
        rw [if_neg hbit, Bool.eq_false_of_not_eq_true hbit]
        rfl
    have hrest := @ih (level + 1) fun k hk =>
      hzero (k + 1) (by rwa [← Nat.add_assoc, Nat.add_right_comm])
    change readFrontier count level (nodes.length + 1) _ = _
    rw [serializeFrontier, List.append_assoc, readFrontier, Reader.bind_of_eq_ok hnode,
      Reader.bind_of_eq_ok hrest]
    rfl

/-- **A sane state is read back as it was written**, whatever follows it. -/
theorem deserialize_serialize (h : state.IsSane sha256)
    (rest : Bytes) : deserialize sha256 (state.serialize ++ rest) = .ok (state, rest) := by
  have hcount : readLE (writeLE 8 state.count) = state.count :=
    readLE_writeLE (state.count_lt.trans_eq (by norm_num))
  have hfrontier : readFrontier (readLE (writeLE 8 state.count)) 0 WITHDRAWAL_ACCUMULATOR_DEPTH
      (serializeFrontier state.count 0 state.frontier ++ rest) =
      .ok (⟨state.frontier, state.size_frontier⟩, rest) := by
    rw [hcount]
    refine readFrontier_append state.size_frontier (fun k hk => ?_) rest
    obtain hlt | hge := lt_or_ge k WITHDRAWAL_ACCUMULATOR_DEPTH
    · exact h.1 k hlt (by rwa [Nat.zero_add] at hk)
    · exact List.getD_eq_default _ _ (state.size_frontier.trans_le hge)
  rw [serialize, List.append_assoc, List.append_assoc, List.append_assoc, deserialize,
    Reader.bind_of_eq_ok (Reader.take_append (n := 1) rfl _),
    Reader.bind_of_eq_ok (Reader.refuseIf_of_not (by simp) _),
    Reader.bind_of_eq_ok (Reader.take_append (length_writeLE 8 _) _),
    Reader.bind_of_eq_ok (readHash_append _ _), Reader.bind_of_eq_ok hfrontier]
  have hstate : ∀ hlt hsize, (⟨readLE (writeLE 8 state.count), state.root, state.frontier, hlt,
      hsize⟩ : WithdrawalAccumulatorState) = state := fun _ _ =>
    WithdrawalAccumulatorState.ext hcount rfl rfl
  rw [hstate, Reader.bind_of_eq_ok (Reader.refuseIf_of_not (not_not.2 h) _)]
  rfl

end WithdrawalAccumulatorState

end ElementsDrivechain.Usdd
