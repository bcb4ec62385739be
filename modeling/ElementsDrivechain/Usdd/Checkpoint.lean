import ElementsDrivechain.Usdd.ChainClaims

/-!
# The checkpoint of a block

The hash that the parent chain is asked to commit to for a block of the sidechain binds the block
and the step that the accumulator of withdrawals takes with it.

What a root or a checkpoint determines is proved under the assumption that the hash tells apart the
byte strings that are hashed on the way.  It cannot tell apart all byte strings.

* `leaves_eq_of_root_eq` : **a root determines the leaves.**
* `exists_criticalHash` : **a block after a chain has a checkpoint**, unless its digest is zero.
* `history_eq_of_criticalHash_eq` : **a checkpoint determines the block and the withdrawals.**
-/

namespace ElementsDrivechain.Usdd

open Fallible

/-- The version of checkpoints. -/
def WITHDRAWAL_BIP301_CHECKPOINT_VERSION : ℕ := 1

/-- The text `Elements/USDD/BIP301-checkpoint/v1`. -/
def WITHDRAWAL_BIP301_CHECKPOINT_DOMAIN : Bytes :=
  [0x45, 0x6c, 0x65, 0x6d, 0x65, 0x6e, 0x74, 0x73, 0x2f, 0x55, 0x53, 0x44, 0x44, 0x2f, 0x42, 0x49,
    0x50, 0x33, 0x30, 0x31, 0x2d, 0x63, 0x68, 0x65, 0x63, 0x6b, 0x70, 0x6f, 0x69, 0x6e, 0x74, 0x2f,
    0x76, 0x31]

/-- The bytes that are hashed for a checkpoint: the network, the slot, the block, and the number of
leaves and the root before and after it. -/
def withdrawalCheckpointPreimage (elementsGenesis : Uint256) (sidechainSlot : UInt8)
    (blockHash : Uint256) (previousCount : ℕ) (previousRoot : WithdrawalHash) (nextCount : ℕ)
    (nextRoot : WithdrawalHash) : Bytes :=
  WITHDRAWAL_BIP301_CHECKPOINT_DOMAIN ++ (writeBE 4 WITHDRAWAL_BIP301_CHECKPOINT_VERSION ++
    (elementsGenesis.displayBytes.data ++ ([sidechainSlot] ++ (blockHash.displayBytes.data ++
      (writeBE 8 previousCount ++ (previousRoot.data ++ (writeBE 8 nextCount ++
        nextRoot.data)))))))

variable (sha256 : Bytes → WithdrawalHash)

/-- The checkpoint of a block that takes the accumulator from one state to another. -/
def computeWithdrawalBip301CriticalHash (elementsGenesis : Uint256) (sidechainSlot : UInt8)
    (blockHash : Uint256) (previous next : WithdrawalAccumulatorState) : Except String Uint256 := do
  rejectIf (elementsGenesis = 0 ∨ blockHash = 0)
    "USDD BIP301 checkpoint has a null network or block hash"
  rejectIf (¬previous.IsSane sha256 ∨ ¬next.IsSane sha256 ∨ next.count < previous.count ∨
      ¬(next.count = previous.count ↔ next.root = previous.root))
    "USDD BIP301 checkpoint has a malformed accumulator transition"
  let criticalHash := (sha256 (withdrawalCheckpointPreimage elementsGenesis sidechainSlot blockHash
    previous.count previous.root next.count next.root)).displayBytes
  rejectIf (criticalHash = 0) "USDD BIP301 checkpoint unexpectedly produced a null hash"
  pure criticalHash

/-- The checkpoint of a block, and the accumulator after it. -/
def deriveWithdrawalBip301CriticalHash (block : Child.CBlock) (elementsGenesis : Uint256)
    (sidechainSlot : UInt8) (previous : WithdrawalAccumulatorState) :
    Except String (WithdrawalAccumulatorState × Uint256) := do
  let applied ← applyEthereumWithdrawals sha256 block elementsGenesis previous
  let criticalHash ← computeWithdrawalBip301CriticalHash sha256 elementsGenesis sidechainSlot
    block.hash previous applied.1
  pure (applied.1, criticalHash)

/-! ### What is hashed -/

/-- The byte strings that are hashed for the tree over some leaves. -/
def treePreimages (leaves : List WithdrawalHash) : Set Bytes :=
  { b | b = [WITHDRAWAL_LEAF_PREFIX] ∨
    ∃ p ∈ Merkle.Pairs (withdrawalNode sha256) WITHDRAWAL_ACCUMULATOR_DEPTH
      (Merkle.padded (withdrawalEmptyLeaf sha256) leaves), b = withdrawalNodePreimage p.1 p.2 }

/-- The byte strings that are hashed for an accumulator of claims. -/
def accumulatorPreimages (claims : List EthereumWithdrawalClaim) : Set Bytes :=
  { b | ∃ claim ∈ claims, b = claim.leafPreimage } ∪
    treePreimages sha256 (claims.map (computeWithdrawalLeaf sha256))

/-- The byte strings that are hashed for the checkpoint of a block after a chain. -/
def historyPreimages (elementsGenesis : Uint256) (sidechainSlot : UInt8)
    (blocks : List Child.CBlock) (block : Child.CBlock) : Set Bytes :=
  let old := (chainClaims sha256 elementsGenesis blocks).map (·.leaf)
  let all := (chainClaims sha256 elementsGenesis (blocks ++ [block])).map (·.leaf)
  claimPreimages (chainClaims sha256 elementsGenesis (blocks ++ [block])) ∪
    (treePreimages sha256 old ∪ treePreimages sha256 all ∪
      {withdrawalCheckpointPreimage elementsGenesis sidechainSlot block.hash old.length
        (withdrawalRoot sha256 old) all.length (withdrawalRoot sha256 all)})

variable {sha256}

/-! ### Roots -/

theorem withdrawalNodePreimage_inj {left right left' right' : WithdrawalHash}
    (h : withdrawalNodePreimage left right = withdrawalNodePreimage left' right') :
    left = left' ∧ right = right' := by
  obtain ⟨hleft, hright⟩ := Uint256.append_inj (List.cons.inj h).2
  exact ⟨hleft, Uint256.data_injective hright⟩

/-- **A root determines the leaves**, if none of them is the empty leaf. -/
theorem leaves_eq_of_root_eq {leaves leaves' : List WithdrawalHash}
    (hinj : Set.InjOn sha256 (treePreimages sha256 leaves ∪ treePreimages sha256 leaves'))
    (hlength : leaves.length < 2 ^ 64) (hlength' : leaves'.length < 2 ^ 64)
    (hleaves : ∀ x ∈ leaves, x ≠ withdrawalEmptyLeaf sha256)
    (hleaves' : ∀ x ∈ leaves', x ≠ withdrawalEmptyLeaf sha256)
    (h : withdrawalRoot sha256 leaves = withdrawalRoot sha256 leaves') : leaves = leaves' := by
  refine Merkle.eq_of_padded_eq hleaves hleaves' hlength.le hlength'.le
    (Merkle.eq_of_root_eq (fun p hp q hq heq => ?_) h)
  have hmem : ∀ {p : WithdrawalHash × WithdrawalHash}, p ∈
      Merkle.Pairs (withdrawalNode sha256) WITHDRAWAL_ACCUMULATOR_DEPTH
        (Merkle.padded (withdrawalEmptyLeaf sha256) leaves) ∪
      Merkle.Pairs (withdrawalNode sha256) WITHDRAWAL_ACCUMULATOR_DEPTH
        (Merkle.padded (withdrawalEmptyLeaf sha256) leaves') →
      withdrawalNodePreimage p.1 p.2 ∈
        treePreimages sha256 leaves ∪ treePreimages sha256 leaves' := by
    rintro p (hp | hp)
    · exact .inl (.inr ⟨p, hp, rfl⟩)
    · exact .inr (.inr ⟨p, hp, rfl⟩)
  obtain ⟨hleft, hright⟩ := withdrawalNodePreimage_inj (hinj (hmem hp) (hmem hq) heq)
  exact Prod.ext hleft hright

theorem computeWithdrawalLeaf_ne_empty {S : Set Bytes} (hinj : Set.InjOn sha256 S)
    (hempty : [WITHDRAWAL_LEAF_PREFIX] ∈ S) {claim : EthereumWithdrawalClaim}
    (hclaim : claim.leafPreimage ∈ S) :
    computeWithdrawalLeaf sha256 claim ≠ withdrawalEmptyLeaf sha256 := by
  intro heq
  have := (List.cons.inj (hinj hclaim hempty heq)).2
  simp [WITHDRAWAL_LEAF_DOMAIN] at this

/-- **A root determines the leaves of the claims.** -/
theorem claimLeaves_eq_of_root_eq {claims claims' : List EthereumWithdrawalClaim}
    (hinj : Set.InjOn sha256
      (accumulatorPreimages sha256 claims ∪ accumulatorPreimages sha256 claims'))
    (hlength : claims.length < 2 ^ 64) (hlength' : claims'.length < 2 ^ 64)
    (h : withdrawalRoot sha256 (claims.map (computeWithdrawalLeaf sha256)) =
      withdrawalRoot sha256 (claims'.map (computeWithdrawalLeaf sha256))) :
    claims.map (computeWithdrawalLeaf sha256) = claims'.map (computeWithdrawalLeaf sha256) := by
  have hempty : [WITHDRAWAL_LEAF_PREFIX] ∈
      accumulatorPreimages sha256 claims ∪ accumulatorPreimages sha256 claims' :=
    .inl (.inr (.inl rfl))
  refine leaves_eq_of_root_eq (hinj.mono (Set.union_subset_union (fun _ => .inr) fun _ => .inr))
    (by simpa using hlength) (by simpa using hlength') (fun x hx => ?_) (fun x hx => ?_) h
  · obtain ⟨claim, hclaim, rfl⟩ := List.mem_map.1 hx
    exact computeWithdrawalLeaf_ne_empty hinj hempty (.inl (.inl ⟨claim, hclaim, rfl⟩))
  · obtain ⟨claim, hclaim, rfl⟩ := List.mem_map.1 hx
    exact computeWithdrawalLeaf_ne_empty hinj hempty (.inr (.inl ⟨claim, hclaim, rfl⟩))

/-! ### Checkpoints -/

variable {elementsGenesis : Uint256} {sidechainSlot : UInt8} {blocks blocks' : List Child.CBlock}
  {block block' : Child.CBlock} {previous previous' next next' : WithdrawalAccumulatorState}
  {old old' : List EthereumWithdrawalClaim} {criticalHash : Uint256}

theorem withdrawalCheckpointPreimage_inj {blockHash blockHash' : Uint256} {m m' n n' : ℕ}
    {r r' q q' : WithdrawalHash} (hm : m < 2 ^ 64) (hm' : m' < 2 ^ 64) (hn : n < 2 ^ 64)
    (hn' : n' < 2 ^ 64)
    (h : withdrawalCheckpointPreimage elementsGenesis sidechainSlot blockHash m r n q =
      withdrawalCheckpointPreimage elementsGenesis sidechainSlot blockHash' m' r' n' q') :
    blockHash = blockHash' ∧ r = r' ∧ q = q' := by
  have h := List.append_cancel_left (List.append_cancel_left (List.append_cancel_left
    (List.append_cancel_left h)))
  obtain ⟨hblock, h⟩ := Uint256.append_inj h
  obtain ⟨-, h⟩ := writeBE_append_inj (hm.trans_eq (by norm_num)) (hm'.trans_eq (by norm_num)) h
  obtain ⟨hr, h⟩ := Uint256.append_inj h
  obtain ⟨-, h⟩ := writeBE_append_inj (hn.trans_eq (by norm_num)) (hn'.trans_eq (by norm_num)) h
  exact ⟨Uint256.displayBytes_injective hblock, hr, Uint256.data_injective h⟩

theorem displayBytes_eq_zero {u : Uint256} : u.displayBytes = 0 ↔ u = 0 := by
  have hzero : (0 : Uint256).displayBytes = 0 := by decide
  exact ⟨fun h => Uint256.displayBytes_injective (h.trans hzero.symm), fun h => h ▸ hzero⟩

theorem deriveWithdrawalBip301CriticalHash_eq_ok
    (hchain : applyChain sha256 elementsGenesis blocks = .ok (previous, old)) :
    deriveWithdrawalBip301CriticalHash sha256 block elementsGenesis sidechainSlot previous =
        .ok (next, criticalHash) ↔
      next.Describes sha256
        ((chainClaims sha256 elementsGenesis (blocks ++ [block])).map (·.leaf)) ∧
      elementsGenesis ≠ 0 ∧ block.hash ≠ 0 ∧
      (next.count = previous.count ↔ next.root = previous.root) ∧
      criticalHash = (sha256 (withdrawalCheckpointPreimage elementsGenesis sidechainSlot block.hash
        previous.count previous.root next.count next.root)).displayBytes ∧ criticalHash ≠ 0 := by
  obtain ⟨rfl, hprevious⟩ := (applyChain_eq_ok (genesis_ne_zero_of_applyChain hchain)).1 hchain
  have happly : elementsGenesis ≠ 0 → ∀ next claims,
      applyEthereumWithdrawals sha256 block elementsGenesis previous = .ok (next, claims) ↔
      claims = claimsFrom sha256 elementsGenesis.displayBytes
        (chainClaims sha256 elementsGenesis blocks).length (burnsOf block) ∧
      next.Describes sha256
        ((chainClaims sha256 elementsGenesis (blocks ++ [block])).map (·.leaf)) := by
    intro hgenesis next claims
    rw [applyEthereumWithdrawals_eq_ok hgenesis hprevious, List.length_map, chainClaims_snoc,
      List.map_append]
    refine and_congr_right fun heq => ?_
    rw [heq]
  simp only [deriveWithdrawalBip301CriticalHash, computeWithdrawalBip301CriticalHash, bind_eq_ok,
    rejectIf_eq_ok, pure_eq_ok, Prod.mk.injEq, not_or, not_not]
  constructor
  · rintro ⟨⟨next, claims⟩, happlied, _, ⟨_, ⟨hgenesis, hhash⟩, _, ⟨-, -, -, hiff⟩, _, hnull, rfl⟩,
      rfl, rfl⟩
    exact ⟨((happly hgenesis _ _).1 happlied).2, hgenesis, hhash, hiff, rfl, hnull⟩
  · rintro ⟨hnext, hgenesis, hhash, hiff, rfl, hnull⟩
    have hcount : ¬next.count < previous.count := by
      rw [hnext.count, hprevious.count, chainClaims_snoc, List.map_append, List.length_append]
      omega
    exact ⟨(next, _), (happly hgenesis next _).2 ⟨rfl, hnext⟩, _, ⟨(), ⟨hgenesis, hhash⟩, (),
      ⟨hprevious.isSane, hnext.isSane, hcount, hiff⟩, (), hnull, rfl⟩, rfl, rfl⟩

theorem chainLeaf_ne_empty {S : Set Bytes} (hinj : Set.InjOn sha256 S)
    (hempty : [WITHDRAWAL_LEAF_PREFIX] ∈ S)
    (hclaims : claimPreimages (chainClaims sha256 elementsGenesis blocks) ⊆ S) :
    ∀ x ∈ (chainClaims sha256 elementsGenesis blocks).map (·.leaf),
      x ≠ withdrawalEmptyLeaf sha256 := by
  intro x hx
  obtain ⟨claim, hclaim, rfl⟩ := List.mem_map.1 hx
  obtain ⟨burn, -, i, rfl⟩ := mem_chainClaims hclaim
  exact computeWithdrawalLeaf_ne_empty hinj hempty (hclaims ⟨_, hclaim, .inl rfl⟩)

theorem claimPreimages_chainClaims_subset :
    claimPreimages (chainClaims sha256 elementsGenesis blocks) ⊆
      claimPreimages (chainClaims sha256 elementsGenesis (blocks ++ [block])) := by
  rintro b ⟨claim, hclaim, hb⟩
  refine ⟨claim, ?_, hb⟩
  rw [chainClaims_snoc]
  exact List.mem_append_left _ hclaim

theorem eq_of_chainLeaf_eq {S : Set Bytes} (hinj : Set.InjOn sha256 S)
    (hS : claimPreimages (chainClaims sha256 elementsGenesis blocks) ⊆ S)
    (hS' : claimPreimages (chainClaims sha256 elementsGenesis blocks') ⊆ S)
    (h : (chainClaims sha256 elementsGenesis blocks).map (·.leaf) =
      (chainClaims sha256 elementsGenesis blocks').map (·.leaf)) :
    chainClaims sha256 elementsGenesis blocks = chainClaims sha256 elementsGenesis blocks' := by
  have hlength := congrArg List.length h
  rw [List.length_map, List.length_map] at hlength
  refine List.ext_getElem hlength fun i hi hi' => ?_
  have hleaf : (chainClaims sha256 elementsGenesis blocks)[i].leaf =
      (chainClaims sha256 elementsGenesis blocks')[i].leaf := by
    simpa [hi, hi'] using congrArg (·[i]?) h
  have hmem := List.getElem_mem hi
  have hmem' := List.getElem_mem hi'
  obtain ⟨burn, -, heq⟩ := chainClaims_getElem hi
  obtain ⟨burn', -, heq'⟩ := chainClaims_getElem hi'
  rw [heq, heq'] at hleaf
  rw [heq] at hmem ⊢
  rw [heq'] at hmem' ⊢
  have hpre := hinj (hS ⟨_, hmem, .inl rfl⟩) (hS' ⟨_, hmem', .inl rfl⟩) hleaf
  obtain ⟨-, hasset, hvault, hburn, -, hamount, hrecipient⟩ :=
    EthereumWithdrawalClaim.leafPreimage_inj hpre
  obtain ⟨-, htxid, hvout⟩ := withdrawalBurnIdPreimage_inj
    (hinj (hS ⟨_, hmem, .inr rfl⟩) (hS' ⟨_, hmem', .inr rfl⟩) hburn)
  obtain ⟨⟩ := burn
  obtain ⟨⟩ := burn'
  simp_all [Burn.claim]

/-- **A block after a chain has a checkpoint**, unless the digest is zero. -/
theorem exists_criticalHash (hgenesis : elementsGenesis ≠ 0) (hhash : block.hash ≠ 0)
    (hchain : applyChain sha256 elementsGenesis blocks = .ok (previous, old))
    (hroom : previous.count + (burnsOf block).length < 2 ^ 64)
    (hinj : Set.InjOn sha256 (historyPreimages sha256 elementsGenesis sidechainSlot blocks block)) :
    ∃ next : WithdrawalAccumulatorState, next.Describes sha256
        ((chainClaims sha256 elementsGenesis (blocks ++ [block])).map (·.leaf)) ∧
      ((∃ r, deriveWithdrawalBip301CriticalHash sha256 block elementsGenesis sidechainSlot
          previous = .ok r) ↔
        sha256 (withdrawalCheckpointPreimage elementsGenesis sidechainSlot block.hash
          previous.count previous.root next.count next.root) ≠ 0) := by
  obtain ⟨rfl, hprevious⟩ := (applyChain_eq_ok fun _ => hgenesis).1 hchain
  have hlength : ((chainClaims sha256 elementsGenesis (blocks ++ [block])).map
      (·.leaf)).length < 2 ^ 64 := by
    rw [hprevious.count, List.length_map] at hroom
    rwa [List.length_map, chainClaims_snoc, List.length_append, length_claimsFrom]
  obtain ⟨next, hnext⟩ := WithdrawalAccumulatorState.exists_describes sha256 hlength
  have hiff : next.count = previous.count ↔ next.root = previous.root := by
    have hempty : [WITHDRAWAL_LEAF_PREFIX] ∈
        historyPreimages sha256 elementsGenesis sidechainSlot blocks block :=
      .inr (.inl (.inl (.inl rfl)))
    have hall : claimPreimages (chainClaims sha256 elementsGenesis (blocks ++ [block])) ⊆
        historyPreimages sha256 elementsGenesis sidechainSlot blocks block := fun _ => .inl
    rw [hnext.count, hprevious.count, hnext.root, hprevious.root]
    constructor
    · intro heq
      rw [chainClaims_snoc] at heq ⊢
      rw [List.length_map, List.length_map, List.length_append] at heq
      have hnew : claimsFrom sha256 elementsGenesis.displayBytes
          (chainClaims sha256 elementsGenesis blocks).length (burnsOf block) = [] :=
        List.eq_nil_of_length_eq_zero (by omega)
      rw [hnew, List.append_nil]
    · intro heq
      refine congrArg List.length (leaves_eq_of_root_eq (hinj.mono ?_) hlength hprevious.length_lt
        (chainLeaf_ne_empty hinj hempty hall) (chainLeaf_ne_empty hinj hempty
          (claimPreimages_chainClaims_subset.trans hall)) heq)
      rintro b (hb | hb)
      · exact .inr (.inl (.inr hb))
      · exact .inr (.inl (.inl hb))
  refine ⟨next, hnext, ?_⟩
  rw [ne_eq, ← displayBytes_eq_zero]
  constructor
  · rintro ⟨⟨next', criticalHash⟩, h⟩
    obtain ⟨hnext', -, -, -, rfl, hnull⟩ := (deriveWithdrawalBip301CriticalHash_eq_ok hchain).1 h
    rwa [hnext.unique hnext']
  · intro hnull
    exact ⟨(next, _), (deriveWithdrawalBip301CriticalHash_eq_ok hchain).2
      ⟨hnext, hgenesis, hhash, hiff, rfl, hnull⟩⟩

/-- **A checkpoint determines the block and the withdrawals** up to it. -/
theorem history_eq_of_criticalHash_eq
    (hchain : applyChain sha256 elementsGenesis blocks = .ok (previous, old))
    (hchain' : applyChain sha256 elementsGenesis blocks' = .ok (previous', old'))
    (hderive : deriveWithdrawalBip301CriticalHash sha256 block elementsGenesis sidechainSlot
      previous = .ok (next, criticalHash))
    (hderive' : deriveWithdrawalBip301CriticalHash sha256 block' elementsGenesis sidechainSlot
      previous' = .ok (next', criticalHash))
    (hinj : Set.InjOn sha256 (historyPreimages sha256 elementsGenesis sidechainSlot blocks block ∪
      historyPreimages sha256 elementsGenesis sidechainSlot blocks' block')) :
    block.hash = block'.hash ∧ old = old' ∧
      chainClaims sha256 elementsGenesis (blocks ++ [block]) =
        chainClaims sha256 elementsGenesis (blocks' ++ [block']) := by
  obtain ⟨hnext, -, -, -, rfl, -⟩ := (deriveWithdrawalBip301CriticalHash_eq_ok hchain).1 hderive
  obtain ⟨hnext', -, -, -, hdigest, -⟩ :=
    (deriveWithdrawalBip301CriticalHash_eq_ok hchain').1 hderive'
  obtain ⟨rfl, hprevious⟩ := (applyChain_eq_ok (genesis_ne_zero_of_applyChain hchain)).1 hchain
  obtain ⟨rfl, hprevious'⟩ := (applyChain_eq_ok (genesis_ne_zero_of_applyChain hchain')).1 hchain'
  rw [hprevious.count, hprevious'.count, hprevious.root, hprevious'.root, hnext.count, hnext'.count,
    hnext.root, hnext'.root] at hdigest
  have hpre := hinj (.inl (.inr (.inr rfl))) (.inr (.inr (.inr rfl)))
    (Uint256.displayBytes_injective hdigest)
  obtain ⟨hhash, hold, hall⟩ := withdrawalCheckpointPreimage_inj hprevious.length_lt
    hprevious'.length_lt hnext.length_lt hnext'.length_lt hpre
  have hempty : [WITHDRAWAL_LEAF_PREFIX] ∈
      historyPreimages sha256 elementsGenesis sidechainSlot blocks block ∪
        historyPreimages sha256 elementsGenesis sidechainSlot blocks' block' :=
    .inl (.inr (.inl (.inl (.inl rfl))))
  have hclaims : claimPreimages (chainClaims sha256 elementsGenesis (blocks ++ [block])) ⊆
      historyPreimages sha256 elementsGenesis sidechainSlot blocks block ∪
        historyPreimages sha256 elementsGenesis sidechainSlot blocks' block' :=
    fun _ hb => .inl (.inl hb)
  have hclaims' : claimPreimages (chainClaims sha256 elementsGenesis (blocks' ++ [block'])) ⊆
      historyPreimages sha256 elementsGenesis sidechainSlot blocks block ∪
        historyPreimages sha256 elementsGenesis sidechainSlot blocks' block' :=
    fun _ hb => .inr (.inl hb)
  have hsub := claimPreimages_chainClaims_subset.trans hclaims
  have hsub' := claimPreimages_chainClaims_subset.trans hclaims'
  refine ⟨hhash, eq_of_chainLeaf_eq hinj hsub hsub' ?_, eq_of_chainLeaf_eq hinj hclaims hclaims' ?_⟩
  · refine leaves_eq_of_root_eq (hinj.mono ?_) hprevious.length_lt hprevious'.length_lt
      (chainLeaf_ne_empty hinj hempty hsub) (chainLeaf_ne_empty hinj hempty hsub') hold
    exact Set.union_subset_union (fun _ hb => .inr (.inl (.inl hb)))
      fun _ hb => .inr (.inl (.inl hb))
  · refine leaves_eq_of_root_eq (hinj.mono ?_) hnext.length_lt hnext'.length_lt
      (chainLeaf_ne_empty hinj hempty hclaims) (chainLeaf_ne_empty hinj hempty hclaims') hall
    exact Set.union_subset_union (fun _ hb => .inr (.inl (.inr hb)))
      fun _ hb => .inr (.inl (.inr hb))

variable (sha256) in
/-- **Accumulators and checkpoints bind their withdrawals**, if the hash tells apart what is hashed
for them: a root determines the leaves, appending leaves changes the root, a block after a chain has
a checkpoint exactly if its digest is not zero, and a checkpoint determines the block and the
withdrawals up to it. -/
theorem withdrawals_bound :
    (∀ claims claims' s s',
      (WithdrawalAccumulatorState.empty sha256).appendAll sha256
        (claims.map (computeWithdrawalLeaf sha256)) = .ok s →
      (WithdrawalAccumulatorState.empty sha256).appendAll sha256
        (claims'.map (computeWithdrawalLeaf sha256)) = .ok s' →
      Set.InjOn sha256
        (accumulatorPreimages sha256 claims ∪ accumulatorPreimages sha256 claims') →
      s.root = s'.root →
      claims.map (computeWithdrawalLeaf sha256) = claims'.map (computeWithdrawalLeaf sha256)) ∧
    (∀ claims more s s', more ≠ [] →
      (WithdrawalAccumulatorState.empty sha256).appendAll sha256
        (claims.map (computeWithdrawalLeaf sha256)) = .ok s →
      s.appendAll sha256 (more.map (computeWithdrawalLeaf sha256)) = .ok s' →
      Set.InjOn sha256
        (accumulatorPreimages sha256 claims ∪ accumulatorPreimages sha256 (claims ++ more)) →
      s.root ≠ s'.root) ∧
    (∀ elementsGenesis sidechainSlot blocks block previous old,
      elementsGenesis ≠ 0 → Child.CBlock.hash block ≠ 0 →
      applyChain sha256 elementsGenesis blocks = .ok (previous, old) →
      previous.count + (burnsOf block).length < 2 ^ 64 →
      Set.InjOn sha256 (historyPreimages sha256 elementsGenesis sidechainSlot blocks block) →
      ∃ next : WithdrawalAccumulatorState, next.Describes sha256
          ((chainClaims sha256 elementsGenesis (blocks ++ [block])).map (·.leaf)) ∧
        ((∃ r, deriveWithdrawalBip301CriticalHash sha256 block elementsGenesis sidechainSlot
            previous = .ok r) ↔
          sha256 (withdrawalCheckpointPreimage elementsGenesis sidechainSlot block.hash
            previous.count previous.root next.count next.root) ≠ 0)) ∧
    ∀ elementsGenesis sidechainSlot blocks blocks' block block' previous previous' old old' next
        next' criticalHash,
      applyChain sha256 elementsGenesis blocks = .ok (previous, old) →
      applyChain sha256 elementsGenesis blocks' = .ok (previous', old') →
      deriveWithdrawalBip301CriticalHash sha256 block elementsGenesis sidechainSlot previous =
        .ok (next, criticalHash) →
      deriveWithdrawalBip301CriticalHash sha256 block' elementsGenesis sidechainSlot previous' =
        .ok (next', criticalHash) →
      Set.InjOn sha256 (historyPreimages sha256 elementsGenesis sidechainSlot blocks block ∪
        historyPreimages sha256 elementsGenesis sidechainSlot blocks' block') →
      block.hash = block'.hash ∧ old = old' ∧
        chainClaims sha256 elementsGenesis (blocks ++ [block]) =
          chainClaims sha256 elementsGenesis (blocks' ++ [block']) := by
  simp only [WithdrawalAccumulatorState.appendAll_empty_eq_ok]
  refine ⟨fun claims claims' s s' hs hs' hinj hroot => ?_,
    fun claims more s s' hne hs hs' hinj hroot => ?_, ?_, ?_⟩
  · rw [hs.root, hs'.root] at hroot
    exact claimLeaves_eq_of_root_eq hinj (by simpa using hs.length_lt)
      (by simpa using hs'.length_lt)
      hroot
  · rw [hs.appendAll_eq_ok, ← List.map_append] at hs'
    rw [hs.root, hs'.root] at hroot
    have hlength := congrArg List.length (claimLeaves_eq_of_root_eq hinj
      (by simpa using hs.length_lt) (by simpa using hs'.length_lt) hroot)
    rw [List.length_map, List.length_map, List.length_append] at hlength
    exact hne (List.eq_nil_of_length_eq_zero (by omega))
  · intro elementsGenesis sidechainSlot blocks block previous old
    exact exists_criticalHash
  · intro elementsGenesis sidechainSlot blocks blocks' block block' previous previous' old old' next
      next' criticalHash
    exact history_eq_of_criticalHash_eq

namespace Sample

/-- A stand-in for the hash: nodes count how far they are above their leftmost leaf, and the digest
of a checkpoint is chosen. -/
def chainHash (checkpoint : UInt8) : Bytes → WithdrawalHash
  | [0] => Uint256.ofByte 1
  | 0 :: _ :: _ => Uint256.ofByte 101
  | 1 :: left :: _ => Uint256.ofByte (left + 1)
  | 0x58 :: _ => Uint256.ofByte 202
  | _ => Uint256.ofByte checkpoint

/-- The root of an empty tree. -/
def emptyNode (k : ℕ) : WithdrawalHash := Uint256.ofByte (UInt8.ofNat (1 + k))

/-- The root of a tree with one leaf. -/
def spineNode (k : ℕ) : WithdrawalHash := Uint256.ofByte (UInt8.ofNat (101 + k))

variable {c : UInt8} {d : ℕ}

theorem withdrawalNode_ofByte (b : ℕ) (right : WithdrawalHash) :
    withdrawalNode (chainHash c) (Uint256.ofByte (UInt8.ofNat b)) right =
      Uint256.ofByte (UInt8.ofNat (b + 1)) := by
  rw [UInt8.ofNat_add]
  rfl

theorem root_nil : Merkle.root (withdrawalNode (chainHash c)) d
    (Merkle.padded (withdrawalEmptyLeaf (chainHash c)) []) = emptyNode d := by
  induction d with
  | zero => rfl
  | succ d ih => exact (congrArg₂ _ ih rfl).trans (withdrawalNode_ofByte _ _)

theorem root_single : Merkle.root (withdrawalNode (chainHash c)) d
    (Merkle.padded (withdrawalEmptyLeaf (chainHash c)) [Uint256.ofByte 101]) = spineNode d := by
  induction d with
  | zero => rfl
  | succ d ih => exact (congrArg₂ _ ih rfl).trans (withdrawalNode_ofByte _ _)

theorem mem_pairs_nil {p : WithdrawalHash × WithdrawalHash}
    (h : p ∈ Merkle.Pairs (withdrawalNode (chainHash c)) d
      (Merkle.padded (withdrawalEmptyLeaf (chainHash c)) [])) :
    ∃ k < d, p = (emptyNode k, emptyNode k) := by
  induction d with
  | zero => exact h.elim
  | succ d ih =>
    rw [Merkle.Pairs, Merkle.padded_shift (by simp), root_nil] at h
    obtain rfl | h | h := h
    · exact ⟨d, by omega, rfl⟩
    · obtain ⟨k, hk, rfl⟩ := ih h
      exact ⟨k, by omega, rfl⟩
    · obtain ⟨k, hk, rfl⟩ := ih h
      exact ⟨k, by omega, rfl⟩

theorem mem_pairs_single {p : WithdrawalHash × WithdrawalHash}
    (h : p ∈ Merkle.Pairs (withdrawalNode (chainHash c)) d
      (Merkle.padded (withdrawalEmptyLeaf (chainHash c)) [Uint256.ofByte 101])) :
    ∃ k < d, p = (emptyNode k, emptyNode k) ∨ p = (spineNode k, emptyNode k) := by
  induction d with
  | zero => exact h.elim
  | succ d ih =>
    rw [Merkle.Pairs, Merkle.padded_shift (by simp [Nat.one_le_two_pow]), root_nil,
      root_single] at h
    obtain rfl | h | h := h
    · exact ⟨d, by omega, .inr rfl⟩
    · obtain ⟨k, hk, h⟩ := ih h
      exact ⟨k, by omega, h⟩
    · obtain ⟨k, hk, rfl⟩ := mem_pairs_nil h
      exact ⟨k, by omega, .inl rfl⟩

/-- The claim to the burn of the block. -/
def burnClaim (c : UInt8) : EthereumWithdrawalClaim :=
  Burn.claim (chainHash c) (Uint256.ofByte 1).displayBytes
    ⟨(Uint256.ofByte 4).displayBytes, 0, (Uint256.ofByte 2).displayBytes, Uint256.ofByte 3, 5,
      recipient⟩ 0

theorem chainClaims_burnBlock :
    chainClaims (chainHash c) (Uint256.ofByte 1) ([] ++ [burnBlock]) = [burnClaim c] := by
  have hburns : burnsOf burnBlock = [⟨(Uint256.ofByte 4).displayBytes, 0,
      (Uint256.ofByte 2).displayBytes, Uint256.ofByte 3, 5, recipient⟩] := by
    decide +kernel
  simp [chainClaims, claimsFrom, hburns, burnClaim]

/-- The byte strings that are hashed for the checkpoint of the block. -/
theorem mem_historyPreimages {b : Bytes}
    (h : b ∈ historyPreimages (chainHash c) (Uint256.ofByte 1) 24 [] burnBlock) :
    b = (burnClaim c).leafPreimage ∨
      b = withdrawalBurnIdPreimage (burnClaim c).elementsGenesis (burnClaim c).burnTxidDisplay
        (burnClaim c).burnVout ∨
      b = [0] ∨ (∃ k < 64, b = withdrawalNodePreimage (emptyNode k) (emptyNode k)) ∨
      (∃ k < 64, b = withdrawalNodePreimage (spineNode k) (emptyNode k)) ∨
      b = withdrawalCheckpointPreimage (Uint256.ofByte 1) 24 burnBlock.hash 0 (emptyNode 64) 1
        (spineNode 64) := by
  have hleaf : [burnClaim c].map (·.leaf) = [Uint256.ofByte 101] := rfl
  have hnil : (chainClaims (chainHash c) (Uint256.ofByte 1) []).map (·.leaf) = [] := rfl
  rw [historyPreimages, chainClaims_burnBlock, hleaf, hnil] at h
  obtain ⟨claim, hclaim, h⟩ | (⟨rfl | ⟨p, hp, rfl⟩⟩ | ⟨rfl | ⟨p, hp, rfl⟩⟩) | h := h
  · obtain rfl := List.mem_singleton.1 hclaim
    exact h.imp_right .inl
  · exact .inr (.inr (.inl rfl))
  · obtain ⟨k, hk, rfl⟩ := mem_pairs_nil hp
    exact .inr (.inr (.inr (.inl ⟨k, hk, rfl⟩)))
  · exact .inr (.inr (.inl rfl))
  · obtain ⟨k, hk, rfl | rfl⟩ := mem_pairs_single hp
    · exact .inr (.inr (.inr (.inl ⟨k, hk, rfl⟩)))
    · exact .inr (.inr (.inr (.inr (.inl ⟨k, hk, rfl⟩))))
  · rw [withdrawalRoot, withdrawalRoot, root_nil, root_single] at h
    exact .inr (.inr (.inr (.inr (.inr h))))

/-- The byte string with a digest, among those that are hashed for the checkpoint of the block. -/
def preimageOf (c : UInt8) (hash : WithdrawalHash) : Bytes :=
  let v := hash.data.headD 0
  if v = c then withdrawalCheckpointPreimage (Uint256.ofByte 1) 24 burnBlock.hash 0 (emptyNode 64) 1
    (spineNode 64)
  else if v = 1 then [0]
  else if v = 101 then (burnClaim c).leafPreimage
  else if v = 202 then withdrawalBurnIdPreimage (burnClaim c).elementsGenesis
    (burnClaim c).burnTxidDisplay (burnClaim c).burnVout
  else if v < 101 then withdrawalNodePreimage (Uint256.ofByte (v - 1)) (Uint256.ofByte (v - 1))
  else withdrawalNodePreimage (Uint256.ofByte (v - 1)) (Uint256.ofByte (v - 101))

theorem injOn_chainHash (hc : c = 0 ∨ c = 203) :
    Set.InjOn (chainHash c)
      (historyPreimages (chainHash c) (Uint256.ofByte 1) 24 [] burnBlock) := by
  have hempty : ∀ k < 64, preimageOf c (chainHash c
      (withdrawalNodePreimage (emptyNode k) (emptyNode k))) =
      withdrawalNodePreimage (emptyNode k) (emptyNode k) := by
    obtain rfl | rfl := hc <;> decide +kernel
  have hspine : ∀ k < 64, preimageOf c (chainHash c
      (withdrawalNodePreimage (spineNode k) (emptyNode k))) =
      withdrawalNodePreimage (spineNode k) (emptyNode k) := by
    obtain rfl | rfl := hc <;> decide +kernel
  refine Set.LeftInvOn.injOn (show Set.LeftInvOn (preimageOf c) _ _ from fun b hb => ?_)
  obtain rfl | rfl | rfl | ⟨k, hk, rfl⟩ | ⟨k, hk, rfl⟩ | rfl := mem_historyPreimages hb
  · obtain rfl | rfl := hc <;> rfl
  · obtain rfl | rfl := hc <;> rfl
  · obtain rfl | rfl := hc <;> rfl
  · exact hempty k hk
  · exact hspine k hk
  · obtain rfl | rfl := hc <;> rfl

end Sample

open Usdd.Sample

theorem withdrawals_bound_burnBlock :
    ∃ r, deriveWithdrawalBip301CriticalHash (chainHash 203) burnBlock
      (Uint256.ofByte 1) 24 (WithdrawalAccumulatorState.empty (chainHash 203)) = .ok r := by
  obtain ⟨next, -, hiff⟩ := (withdrawals_bound (chainHash 203)).2.2.1 (Uint256.ofByte 1) 24 []
    burnBlock _ _ (by decide) (by decide) rfl (by decide +kernel)
    (injOn_chainHash (.inr rfl))
  exact hiff.2 (show Uint256.ofByte 203 ≠ 0 by decide)

/-- A block whose digest is zero has no checkpoint, although the hash tells apart all that is hashed
for it. -/
theorem null_digest_refused :
    Set.InjOn (chainHash 0)
        (historyPreimages (chainHash 0) (Uint256.ofByte 1) 24 [] burnBlock) ∧
      applyChain (chainHash 0) (Uint256.ofByte 1) [] =
        .ok (WithdrawalAccumulatorState.empty (chainHash 0), []) ∧
      burnBlock.hash ≠ 0 ∧
      ∀ r, deriveWithdrawalBip301CriticalHash (chainHash 0) burnBlock
        (Uint256.ofByte 1) 24 (WithdrawalAccumulatorState.empty (chainHash 0)) ≠ .ok r := by
  have hinj := injOn_chainHash (.inl rfl)
  have hchain : applyChain (chainHash 0) (Uint256.ofByte 1) [] =
      .ok (WithdrawalAccumulatorState.empty (chainHash 0), []) := rfl
  obtain ⟨next, -, hiff⟩ := exists_criticalHash (by decide) (by decide) hchain
    (by decide +kernel) hinj
  refine ⟨hinj, hchain, by decide, fun r hr => hiff.1 ⟨r, hr⟩ ?_⟩
  rfl

end ElementsDrivechain.Usdd
