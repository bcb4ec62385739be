import ElementsDrivechain.Usdd.Accumulator

/-!
# Claims and their inclusion proofs

A claim is one burn that the foreign vault may be asked to pay.  Its leaf in the accumulator commits
to everything the vault needs, and a proof of 64 neighbours leads from the leaf to the root.

* `buildWithdrawalInclusionProof_eq_ok` : **every claim of a canonical sequence has a proof.**
* `accumulator_describes_leaves` : **an accumulator that was filled from the empty one** has the
  root of the tree, is sane, survives storage and agrees with the proofs.
* `inclusion_proof_sound` : **only the claims of the chain have proofs**, or a collision is found.
-/

namespace ElementsDrivechain.Usdd

/-- The version that a leaf commits to. -/
def WITHDRAWAL_PROTOCOL_VERSION : ℕ := 1

/-- Hashed in front of the id of a burn. -/
def WITHDRAWAL_BURN_ID_DOMAIN : Bytes :=
  [0x58, 0x11, 0xf3, 0xff, 0x8b, 0x8f, 0x31, 0xfb, 0x49, 0xff, 0xb9, 0x1a, 0xfa, 0xb1, 0x31, 0x97,
    0xc3, 0xd7, 0x2e, 0x92, 0x65, 0x49, 0xae, 0x29, 0xdb, 0xda, 0x46, 0xc6, 0x99, 0x8a, 0x3e, 0x45]

/-- Hashed in front of a claim. -/
def WITHDRAWAL_LEAF_DOMAIN : Bytes :=
  [0xa2, 0x04, 0x23, 0x80, 0x92, 0x68, 0x79, 0x09, 0x8c, 0x0f, 0x42, 0x3f, 0x49, 0xe3, 0xa0, 0x7a,
    0x12, 0x48, 0xed, 0x08, 0x53, 0x57, 0x93, 0xa4, 0xa1, 0xc4, 0xaf, 0xe6, 0x2d, 0x99, 0x88, 0x69]

/-- An address of the foreign chain. -/
structure EthereumAddress where
  /-- The bytes of the address. -/
  data : Bytes
  size_data : data.length = 20
deriving DecidableEq

theorem EthereumAddress.data_injective : Function.Injective EthereumAddress.data := by
  rintro ⟨a, ha⟩ ⟨b, hb⟩ rfl
  rfl

/-- One explicit burn output that is destined for the foreign chain. -/
structure EthereumWithdrawalClaim where
  elementsGenesis : WithdrawalHash
  assetId : WithdrawalHash
  vaultId : WithdrawalHash
  burnTxidDisplay : WithdrawalHash
  burnVout : UInt32
  burnId : WithdrawalHash
  /-- The number of the claim, from the beginning of the chain. -/
  claimIndex : UInt64
  amountUsdtMicro : UInt64
  recipient : EthereumAddress
  leaf : WithdrawalHash := 0
deriving DecidableEq

/-! ### Hashes -/

/-- The bytes that are hashed for the identity of a burn. -/
def withdrawalBurnIdPreimage (elementsGenesis txidDisplay : WithdrawalHash) (vout : UInt32) :
    Bytes :=
  WITHDRAWAL_BURN_ID_DOMAIN ++ (elementsGenesis.data ++ (txidDisplay.data ++
    writeBE 4 vout.toNat))

/-- The bytes that are hashed for a leaf. -/
def EthereumWithdrawalClaim.leafPreimage (claim : EthereumWithdrawalClaim) : Bytes :=
  WITHDRAWAL_LEAF_PREFIX :: (WITHDRAWAL_LEAF_DOMAIN ++ (writeBE 4 WITHDRAWAL_PROTOCOL_VERSION ++
    (claim.elementsGenesis.data ++ (claim.assetId.data ++ (claim.vaultId.data ++
      (claim.burnId.data ++ (writeBE 8 claim.claimIndex.toNat ++
        (writeBE 8 claim.amountUsdtMicro.toNat ++ claim.recipient.data))))))))

theorem withdrawalBurnIdPreimage_inj {genesis genesis' txid txid' : WithdrawalHash}
    {vout vout' : UInt32} (h : withdrawalBurnIdPreimage genesis txid vout =
      withdrawalBurnIdPreimage genesis' txid' vout') :
    genesis = genesis' ∧ txid = txid' ∧ vout = vout' := by
  obtain ⟨hgenesis, h⟩ := Uint256.append_inj (List.append_cancel_left h)
  obtain ⟨htxid, h⟩ := Uint256.append_inj h
  obtain ⟨hvout, -⟩ := writeBE_append_inj (a := []) (b := []) vout.toNat_lt vout'.toNat_lt
    (by simpa using h)
  exact ⟨hgenesis, htxid, UInt32.toNat_inj.1 hvout⟩

/-- Two claims agree on all that the vault is told. -/
def EthereumWithdrawalClaim.Agrees (claim claim' : EthereumWithdrawalClaim) : Prop :=
  claim.elementsGenesis = claim'.elementsGenesis ∧ claim.assetId = claim'.assetId ∧
    claim.vaultId = claim'.vaultId ∧ claim.burnId = claim'.burnId ∧
    claim.claimIndex = claim'.claimIndex ∧ claim.amountUsdtMicro = claim'.amountUsdtMicro ∧
    claim.recipient = claim'.recipient

/-- The leaves of two claims are hashes of the same bytes only if the claims agree. -/
theorem EthereumWithdrawalClaim.leafPreimage_inj {claim claim' : EthereumWithdrawalClaim}
    (h : claim.leafPreimage = claim'.leafPreimage) : claim.Agrees claim' := by
  have h := List.append_cancel_left (List.append_cancel_left (List.cons.inj h).2)
  obtain ⟨hgenesis, h⟩ := Uint256.append_inj h
  obtain ⟨hasset, h⟩ := Uint256.append_inj h
  obtain ⟨hvault, h⟩ := Uint256.append_inj h
  obtain ⟨hburn, h⟩ := Uint256.append_inj h
  obtain ⟨hindex, h⟩ := writeBE_append_inj claim.claimIndex.toNat_lt claim'.claimIndex.toNat_lt h
  obtain ⟨hamount, h⟩ :=
    writeBE_append_inj claim.amountUsdtMicro.toNat_lt claim'.amountUsdtMicro.toNat_lt h
  exact ⟨hgenesis, hasset, hvault, hburn, UInt64.toNat_inj.1 hindex, UInt64.toNat_inj.1 hamount,
    EthereumAddress.data_injective h⟩

variable (sha256 : Bytes → WithdrawalHash)

/-- The id of a burn. -/
def computeWithdrawalBurnId (elementsGenesis txidDisplay : WithdrawalHash) (vout : UInt32) :
    WithdrawalHash :=
  sha256 (withdrawalBurnIdPreimage elementsGenesis txidDisplay vout)

/-- The leaf of a claim. -/
def computeWithdrawalLeaf (claim : EthereumWithdrawalClaim) : WithdrawalHash :=
  sha256 claim.leafPreimage

/-! ### Inclusion proofs -/

/-- The neighbours on the way from a claim to the root, from the leaf upwards. -/
structure WithdrawalInclusionProof where
  claim : EthereumWithdrawalClaim
  siblings : List WithdrawalHash
  size_siblings : siblings.length = WITHDRAWAL_ACCUMULATOR_DEPTH

/-- The claims are numbered from zero, and their leaves are theirs. -/
def CanonicalClaims (claims : List EthereumWithdrawalClaim) : Prop :=
  ∀ (i : ℕ) (h : i < claims.length), claims[i].claimIndex.toNat = i ∧
    claims[i].leaf = computeWithdrawalLeaf sha256 claims[i]

instance (claims : List EthereumWithdrawalClaim) : Decidable (CanonicalClaims sha256 claims) :=
  inferInstanceAs (Decidable (∀ (i : ℕ) (_ : i < claims.length), _ ∧ _))

/-- The neighbours of a position on the way up, and the level where the way ends. -/
def collectSiblings : (level n : ℕ) → List WithdrawalHash → ℕ →
    List WithdrawalHash × List WithdrawalHash
  | _, 0, layer, _ => ([], layer)
  | level, n + 1, layer, position =>
    let empty := withdrawalEmptyRoot sha256 level
    let above := collectSiblings (level + 1) n
      (Merkle.nextLayer (withdrawalNode sha256) empty layer) (position / 2)
    (layer.getD (position ^^^ 1) empty :: above.1, above.2)

theorem length_collectSiblings (level n : ℕ) (layer : List WithdrawalHash) (position : ℕ) :
    (collectSiblings sha256 level n layer position).1.length = n := by
  induction n generalizing level layer position with
  | zero => rfl
  | succ n ih => rw [collectSiblings, List.length_cons, ih]

/-- Build the proof of the claim at an index, and check it. -/
def buildWithdrawalInclusionProof (claims : List EthereumWithdrawalClaim) (index : ℕ) :
    Except String (WithdrawalInclusionProof × WithdrawalHash) := do
  let claim ← Fallible.orReject claims[index]?
    "USDD withdrawal proof index is outside the claim prefix"
  Fallible.rejectIf (¬CanonicalClaims sha256 claims) "noncanonical USDD withdrawal claim prefix"
  let collected := collectSiblings sha256 0 WITHDRAWAL_ACCUMULATOR_DEPTH
    (claims.map (·.leaf)) index
  -- The first claim is on the way to the root, so the last level is not empty.
  let root := collected.2.headD 0
  let verified := Merkle.climb (withdrawalNode sha256) index claim.leaf collected.1
  Fallible.rejectIf (verified ≠ root) "internally inconsistent USDD withdrawal proof"
  pure (⟨claim, collected.1, length_collectSiblings ..⟩, root)

variable {sha256}

variable (sha256) in
/-- The neighbours on the way up and the level where it ends are those of the tree. -/
theorem collectSiblings_eq {f : ℕ → WithdrawalHash} (level n : ℕ) {layer : List WithdrawalHash}
    (position : ℕ) (hlayer : Merkle.padded (withdrawalEmptyRoot sha256 level) layer =
      Merkle.level (withdrawalNode sha256) f level) (hne : layer ≠ []) :
    (collectSiblings sha256 level n layer position).1 =
      (List.range n).map (fun j =>
        Merkle.level (withdrawalNode sha256) f (level + j) (position / 2 ^ j ^^^ 1)) ∧
    (collectSiblings sha256 level n layer position).2.headD 0 =
      Merkle.level (withdrawalNode sha256) f (level + n) 0 := by
  induction n generalizing level layer position with
  | zero =>
    obtain ⟨first, rest, rfl⟩ := List.exists_cons_of_ne_nil hne
    exact ⟨rfl, congrFun hlayer 0⟩
  | succ n ih =>
    have hnext : Merkle.padded (withdrawalEmptyRoot sha256 (level + 1))
        (Merkle.nextLayer (withdrawalNode sha256) (withdrawalEmptyRoot sha256 level) layer) =
        Merkle.level (withdrawalNode sha256) f (level + 1) := by
      rw [Merkle.level, ← hlayer]
      exact Merkle.padded_nextLayer layer
    have hne' : Merkle.nextLayer (withdrawalNode sha256) (withdrawalEmptyRoot sha256 level) layer ≠
        [] := by
      rw [← List.length_pos_iff, Merkle.length_nextLayer]
      have := List.length_pos_iff.2 hne
      omega
    obtain ⟨hsiblings, htop⟩ := ih (level + 1) (position / 2) hnext hne'
    simp only [collectSiblings, hsiblings, htop]
    constructor
    · rw [List.range_succ_eq_map, List.map_cons, List.map_map, Nat.pow_zero, Nat.div_one]
      refine congrArg₂ List.cons (congrFun hlayer _) (List.map_congr_left fun j _ => ?_)
      rw [Function.comp_apply, Nat.succ_eq_add_one, Nat.div_div_eq_div_mul, ← pow_succ',
        Nat.add_right_comm, Nat.add_assoc]
    · rw [Nat.add_right_comm, Nat.add_assoc]

/-- **Every claim of a canonical sequence has a proof**, and the proof leads from its leaf to the
root over all leaves. -/
theorem buildWithdrawalInclusionProof_eq_ok {claims : List EthereumWithdrawalClaim}
    (hclaims : CanonicalClaims sha256 claims) {index : ℕ} {claim : EthereumWithdrawalClaim}
    (hindex : claims[index]? = some claim) :
    ∃ proof, buildWithdrawalInclusionProof sha256 claims index =
        .ok (proof, withdrawalRoot sha256 (claims.map (·.leaf))) ∧ proof.claim = claim ∧
      Merkle.climb (withdrawalNode sha256) index claim.leaf proof.siblings =
        withdrawalRoot sha256 (claims.map (·.leaf)) := by
  obtain ⟨hlt, hget⟩ := List.getElem?_eq_some_iff.1 hindex
  have hleaf : (claims.map (·.leaf)).getD index (withdrawalEmptyLeaf sha256) = claim.leaf := by
    rw [List.getD_eq_getElem _ _ (by simpa using hlt), List.getElem_map, hget]
  have hbound : index < 2 ^ WITHDRAWAL_ACCUMULATOR_DEPTH :=
    (hclaims index hlt).1 ▸ UInt64.toNat_lt _
  have hne : claims.map (·.leaf) ≠ [] := by
    simpa using List.ne_nil_of_mem (List.mem_of_getElem? hindex)
  obtain ⟨hsiblings, htop⟩ :=
    collectSiblings_eq (f := Merkle.padded (withdrawalEmptyLeaf sha256) (claims.map (·.leaf)))
      sha256 0 WITHDRAWAL_ACCUMULATOR_DEPTH index rfl hne
  rw [Nat.zero_add, ← Merkle.root_eq_level] at htop
  have hclimb : Merkle.climb (withdrawalNode sha256) index claim.leaf
      (collectSiblings sha256 0 WITHDRAWAL_ACCUMULATOR_DEPTH (claims.map (·.leaf)) index).1 =
      withdrawalRoot sha256 (claims.map (·.leaf)) := by
    have hpath := Merkle.climb_path (withdrawalNode sha256)
      (Merkle.padded (withdrawalEmptyLeaf sha256) (claims.map (·.leaf))) index
      WITHDRAWAL_ACCUMULATOR_DEPTH 0
    rw [Nat.zero_add, Nat.div_eq_of_lt hbound, ← Merkle.root_eq_level, ← hsiblings] at hpath
    rw [← hleaf]
    exact hpath
  refine ⟨⟨claim, _, length_collectSiblings sha256 0 _ _ index⟩, ?_, rfl, hclimb⟩
  simp only [buildWithdrawalInclusionProof, htop, Fallible.bind_eq_ok, Fallible.orReject_eq_ok,
    Fallible.rejectIf_eq_ok, Fallible.pure_eq_ok]
  exact ⟨claim, hindex, (), not_not.2 hclaims, (), not_not.2 hclimb, rfl⟩

variable (sha256) in
/-- **An accumulator that was filled from the empty one** by leaves, as many as there is room for,
has the root of the tree whose first leaves they are and whose other leaves are empty; it is sane,
it is read back as it was stored, and each claim with one of the leaves has a proof that leads to
its root. -/
theorem accumulator_describes_leaves (leaves : List WithdrawalHash) :
    ((∃ s, (WithdrawalAccumulatorState.empty sha256).appendAll sha256 leaves = .ok s) ↔
      leaves.length < 2 ^ 64) ∧
    ∀ s, (WithdrawalAccumulatorState.empty sha256).appendAll sha256 leaves = .ok s →
      s.count = leaves.length ∧
      s.root = Merkle.root (withdrawalNode sha256) 64
        (Merkle.padded (withdrawalEmptyLeaf sha256) leaves) ∧
      s.IsSane sha256 ∧
      (∀ rest, WithdrawalAccumulatorState.deserialize sha256 (s.serialize ++ rest) =
        .ok (s, rest)) ∧
      ∀ claims, CanonicalClaims sha256 claims → claims.map (·.leaf) = leaves →
        ∀ index claim, claims[index]? = some claim →
          ∃ proof, buildWithdrawalInclusionProof sha256 claims index = .ok (proof, s.root) ∧
            proof.claim = claim ∧ proof.siblings.length = 64 ∧
            Merkle.climb (withdrawalNode sha256) index claim.leaf proof.siblings = s.root := by
  simp only [WithdrawalAccumulatorState.appendAll_empty_eq_ok]
  constructor
  · exact ⟨fun ⟨_, h⟩ => h.length_lt, WithdrawalAccumulatorState.exists_describes sha256⟩
  · intro s h
    refine ⟨h.count, h.root, h.isSane, WithdrawalAccumulatorState.deserialize_serialize h.isSane,
      ?_⟩
    rintro claims hclaims rfl index claim hindex
    obtain ⟨proof, hproof, hclaim, hclimb⟩ := buildWithdrawalInclusionProof_eq_ok hclaims hindex
    rw [h.root]
    exact ⟨proof, hproof, hclaim, proof.size_siblings, hclimb⟩

section Soundness

variable (sha256)

/-- The byte strings that are hashed to check a proof. -/
def WithdrawalInclusionProof.preimages (proof : WithdrawalInclusionProof) (index : ℕ) :
    List Bytes :=
  proof.claim.leafPreimage :: (Merkle.climbPairs (withdrawalNode sha256) index
    (computeWithdrawalLeaf sha256 proof.claim) proof.siblings).map
      fun p => withdrawalNodePreimage p.1 p.2

/-- A byte string that is hashed in the tree over some claims. -/
inductive TreePreimage (claims : List EthereumWithdrawalClaim) : Bytes → Prop
  | empty : TreePreimage claims [WITHDRAWAL_LEAF_PREFIX]
  | leaf {claim : EthereumWithdrawalClaim} : claim ∈ claims → TreePreimage claims claim.leafPreimage
  | node {p : WithdrawalHash × WithdrawalHash} :
    Merkle.Siblings (withdrawalNode sha256) WITHDRAWAL_ACCUMULATOR_DEPTH
      (Merkle.padded (withdrawalEmptyLeaf sha256) (claims.map (·.leaf))) p →
    TreePreimage claims (withdrawalNodePreimage p.1 p.2)

variable {sha256}

/-- **Only the claims of the chain have proofs.**  Whatever neighbours are put together: if they
lead from a claim at an index to the root of the accumulator, then the claim agrees with that of the
chain at the index on all that the vault is told, or two byte strings have the same hash, one that
is hashed to check the proof and another that is hashed in the tree. -/
theorem inclusion_proof_sound {claims : List EthereumWithdrawalClaim}
    {s : WithdrawalAccumulatorState} {index : ℕ} (hclaims : CanonicalClaims sha256 claims)
    (happend : (WithdrawalAccumulatorState.empty sha256).appendAll sha256 (claims.map (·.leaf)) =
      .ok s)
    (hindex : index < 2 ^ 64) (proof : WithdrawalInclusionProof)
    (haccepts : Merkle.climb (withdrawalNode sha256) index
      (computeWithdrawalLeaf sha256 proof.claim) proof.siblings = s.root) :
    (∃ claim, claims[index]? = some claim ∧ claim.Agrees proof.claim) ∨
    ∃ b ∈ proof.preimages sha256 index, ∃ b', TreePreimage sha256 claims b' ∧ b' ≠ b ∧
      sha256 b' = sha256 b := by
  have hroot := (WithdrawalAccumulatorState.appendAll_empty_eq_ok.1 happend).root
  rw [hroot, withdrawalRoot, Merkle.root_eq_level, ← proof.size_siblings,
    ← Nat.zero_add proof.siblings.length] at haccepts
  obtain hleaf | ⟨p, hp, q, hq, hne, hcollide⟩ :=
    Merkle.eq_of_climb_eq (by rwa [proof.size_siblings]) haccepts
  · -- the leaf is that of the tree at the index
    change _ = (claims.map (·.leaf)).getD index _ at hleaf
    by_cases hlt : index < claims.length
    · have hgenuine : sha256 claims[index].leafPreimage = sha256 proof.claim.leafPreimage := by
        rw [List.getD_eq_getElem _ _ (by simpa using hlt), List.getElem_map,
          (hclaims index hlt).2] at hleaf
        exact hleaf.symm
      by_cases hsame : claims[index].leafPreimage = proof.claim.leafPreimage
      · exact .inl ⟨_, List.getElem?_eq_getElem hlt,
          EthereumWithdrawalClaim.leafPreimage_inj hsame⟩
      · exact .inr ⟨_, List.mem_cons_self, _, .leaf (List.getElem_mem hlt), hsame, hgenuine⟩
    · rw [List.getD_eq_default _ _ (by simpa using hlt)] at hleaf
      exact .inr ⟨_, List.mem_cons_self, _, .empty,
        by simp [EthereumWithdrawalClaim.leafPreimage, WITHDRAWAL_LEAF_DOMAIN], hleaf.symm⟩
  · rw [Nat.zero_add, proof.size_siblings] at hq
    refine .inr ⟨_, List.mem_cons_of_mem _ (List.mem_map_of_mem hp), _, .node hq, ?_, hcollide⟩
    intro heq
    obtain ⟨hleft, hright⟩ := Uint256.append_inj (List.cons.inj heq).2
    exact hne (Prod.ext hleft (Uint256.data_injective hright))

end Soundness

namespace Sample

/-- Some address. -/
def recipient : EthereumAddress :=
  ⟨List.replicate 20 6, List.length_replicate⟩

/-- The claim to an output of one transaction. -/
def claimAt (vout : UInt32) : EthereumWithdrawalClaim :=
  let claim : EthereumWithdrawalClaim :=
    { elementsGenesis := Uint256.ofByte 1
      assetId := Uint256.ofByte 2
      vaultId := Uint256.ofByte 3
      burnTxidDisplay := Uint256.ofByte 4
      burnVout := vout
      burnId := computeWithdrawalBurnId Sample.polynomialHash (Uint256.ofByte 1)
        (Uint256.ofByte 4) vout
      claimIndex := vout.toUInt64
      amountUsdtMicro := 5
      recipient := recipient }
  { claim with leaf := computeWithdrawalLeaf Sample.polynomialHash claim }

/-- The first claims of a chain. -/
def claims : List EthereumWithdrawalClaim := [claimAt 0, claimAt 1, claimAt 2]

theorem canonicalClaims_claims : CanonicalClaims Sample.polynomialHash claims := by decide +kernel

end Sample

open Usdd.Sample

theorem accumulator_describes_leaves_sample :
    ∃ s, (WithdrawalAccumulatorState.empty Sample.polynomialHash).appendAll Sample.polynomialHash
        (claims.map (·.leaf)) = .ok s ∧ s.count = 3 ∧
      ∃ proof, buildWithdrawalInclusionProof Sample.polynomialHash claims 1 =
        .ok (proof, s.root) := by
  obtain ⟨hroom, hall⟩ := accumulator_describes_leaves Sample.polynomialHash
    (claims.map (·.leaf))
  obtain ⟨s, hs⟩ := hroom.2 (by decide)
  obtain ⟨hcount, -, -, -, hproofs⟩ := hall s hs
  obtain ⟨proof, hproof, -⟩ := hproofs claims canonicalClaims_claims rfl 1 _ rfl
  exact ⟨s, hs, hcount, proof, hproof⟩

theorem inclusion_proof_sound_sample : ∃ (s : WithdrawalAccumulatorState) (proof : _),
    buildWithdrawalInclusionProof Sample.polynomialHash claims 1 = .ok (proof, s.root) ∧
    ((∃ claim, claims[1]? = some claim ∧ claim.Agrees proof.claim) ∨
      ∃ b ∈ proof.preimages Sample.polynomialHash 1, ∃ b',
        TreePreimage Sample.polynomialHash claims b' ∧ b' ≠ b ∧
          Sample.polynomialHash b' = Sample.polynomialHash b) := by
  have hclaims := canonicalClaims_claims
  obtain ⟨s, hs⟩ := WithdrawalAccumulatorState.exists_describes Sample.polynomialHash
    (by decide : (claims.map (·.leaf)).length < 2 ^ 64)
  obtain ⟨proof, hproof, hclaim, hclimb⟩ := buildWithdrawalInclusionProof_eq_ok hclaims
    (rfl : claims[1]? = some (claimAt 1))
  refine ⟨s, proof, hs.root ▸ hproof, inclusion_proof_sound hclaims
    (WithdrawalAccumulatorState.appendAll_empty_eq_ok.2 hs) (by decide) proof ?_⟩
  have hleaf := (hclaims 1 (by decide)).2
  rw [hclaim, hs.root]
  exact (congrArg (Merkle.climb _ _ · _) hleaf.symm).trans hclimb

end ElementsDrivechain.Usdd
