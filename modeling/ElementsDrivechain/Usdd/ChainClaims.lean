import ElementsDrivechain.Usdd.Burns
import Mathlib.Data.List.Nodup

/-!
# The claims of a chain

What the claims of a chain say about its outputs: each is for one burn, none is for the same burn as
another, and its amount is what the output burned.

That no two claims have the same identity or the same leaf rests on the hash: it is assumed that it
tells apart the byte strings that were hashed for these claims.

* `canonicalClaims_chainClaims` : the claims are numbered without gaps.
* `chainClaims_origin` : **the amount of a claim is the amount that its output burned.**
* `nodup_chainClaims` : **no burn is claimed twice.**
* `chain_accumulation` : the accumulator of a chain and its claims.
-/

namespace ElementsDrivechain.Usdd

open Fallible

variable {sha256 : Bytes → WithdrawalHash} {elementsGenesis : Uint256} {blocks : List Child.CBlock}

/-! ### Burns and their outputs -/

theorem burnAt_eq_some {txidDisplay : WithdrawalHash} {site : Child.CTxOut × ℕ} {burn : Burn}
    (h : burnAt txidDisplay site = some burn) :
    burn.txidDisplay = txidDisplay ∧ burn.vout = UInt32.ofNat site.2 ∧
      ∃ asset value, site.1.nAsset = .explicit asset ∧ burn.assetId = asset.displayBytes ∧
        site.1.nValue = .explicit value ∧
        (burn.amountUsdtMicro.toNat * USDD_UNITS_PER_USDT_MICRO : ℤ) = value := by
  unfold burnAt at h
  simp only [Option.bind_eq_bind, Option.bind_eq_some_iff, Option.pure_def, Option.some.injEq] at h
  obtain ⟨⟨asset, amount⟩, hamount, ⟨vaultId, recipient⟩, -, rfl⟩ := h
  refine ⟨rfl, rfl, ?_⟩
  unfold burnAmount at hamount
  split_ifs at hamount
  split at hamount
  · rename_i hasset hvalue _
    simp only at hamount
    split_ifs at hamount with hbad
    obtain ⟨rfl, rfl⟩ := Prod.mk.inj (Option.some.inj hamount)
    simp only [not_or, not_not] at hbad
    exact ⟨_, _, hasset, rfl, hvalue, hbad.2.2.2.2.2⟩
  · cases hamount

theorem mem_burns {burn : Burn} (h : burn ∈ blocks.flatMap burnsOf) :
    ∃ block ∈ blocks, ∃ tx ∈ block.vtx, ∃ output, tx.vout[burn.vout.toNat]? = some output ∧
      burn.txidDisplay = tx.hash.displayBytes ∧
      ∃ asset value, output.nAsset = .explicit asset ∧ burn.assetId = asset.displayBytes ∧
        output.nValue = .explicit value ∧
        (burn.amountUsdtMicro.toNat * USDD_UNITS_PER_USDT_MICRO : ℤ) = value := by
  simp only [burnsOf, List.mem_flatMap, List.mem_filterMap] at h
  obtain ⟨block, hblock, tx, htx, ⟨output, i⟩, hsite, hburn⟩ := h
  obtain ⟨htxid, hvout, hrest⟩ := burnAt_eq_some hburn
  have hget := List.mem_zipIdx_iff_getElem?.1 hsite
  have hlt : i < 2 ^ 32 := (List.getElem?_eq_some_iff.1 hget).1.trans tx.vout_length_lt
  refine ⟨block, hblock, tx, htx, output, ?_, htxid, hrest⟩
  rwa [hvout, UInt32.toNat_ofNat_of_lt' hlt]

theorem pairwise_burns (tx : Child.CTransaction) :
    (tx.vout.zipIdx.filterMap (burnAt tx.hash.displayBytes)).Pairwise fun b b' =>
      b.vout ≠ b'.vout := by
  have hsorted : tx.vout.zipIdx.Pairwise fun site site' => site.2 < site'.2 := by
    rw [← List.pairwise_map (f := Prod.snd) (R := (· < ·)), List.zipIdx_map_snd]
    exact List.pairwise_lt_range'
  have hindex : ∀ site ∈ tx.vout.zipIdx, site.2 < 2 ^ 32 := fun site hsite =>
    (List.getElem?_eq_some_iff.1 (List.mem_zipIdx_iff_getElem?.1 hsite)).1.trans tx.vout_length_lt
  rw [List.pairwise_filterMap]
  refine hsorted.imp_of_mem fun {site site'} hsite hsite' hlt burn hburn burn' hburn' heq => ?_
  rw [(burnAt_eq_some hburn).2.1, (burnAt_eq_some hburn').2.1, ← UInt32.toNat_inj,
    UInt32.toNat_ofNat_of_lt' (hindex site hsite),
    UInt32.toNat_ofNat_of_lt' (hindex site' hsite')] at heq
  omega

/-- No two burns are at the same output, if no two transactions have the same id. -/
theorem nodup_burns (h : ((blocks.flatMap (·.vtx)).map (·.hash)).Nodup) :
    ((blocks.flatMap burnsOf).map fun burn => (burn.txidDisplay, burn.vout)).Nodup := by
  have htxid : ∀ {tx : Child.CTransaction} {key : WithdrawalHash × UInt32},
      key ∈ (tx.vout.zipIdx.filterMap (burnAt tx.hash.displayBytes)).map
        (fun burn => (burn.txidDisplay, burn.vout)) → key.1 = tx.hash.displayBytes := by
    intro tx key hkey
    obtain ⟨burn, hburn, rfl⟩ := List.mem_map.1 hkey
    obtain ⟨site, -, hsite⟩ := List.mem_filterMap.1 hburn
    exact (burnAt_eq_some hsite).1
  have hflat : blocks.flatMap burnsOf = (blocks.flatMap (·.vtx)).flatMap fun tx =>
      tx.vout.zipIdx.filterMap (burnAt tx.hash.displayBytes) := List.flatMap_assoc.symm
  rw [hflat, List.map_flatMap, List.nodup_flatMap]
  constructor
  · intro tx _
    refine List.pairwise_map.2 ((pairwise_burns tx).imp fun hne heq => hne ?_)
    exact (Prod.mk.inj heq).2
  · refine (List.pairwise_map.1 h).imp fun hne key hkey hkey' => hne ?_
    exact Uint256.displayBytes_injective ((htxid hkey).symm.trans (htxid hkey'))

/-! ### Claims -/

/-- The byte strings that are hashed for the identities and the leaves of some claims. -/
def claimPreimages (claims : List EthereumWithdrawalClaim) : Set Bytes :=
  { b | ∃ claim ∈ claims, b = claim.leafPreimage ∨
    b = withdrawalBurnIdPreimage claim.elementsGenesis claim.burnTxidDisplay claim.burnVout }

theorem chainClaims_getElem {i : ℕ} (h : i < (chainClaims sha256 elementsGenesis blocks).length) :
    ∃ burn, (blocks.flatMap burnsOf)[i]? = some burn ∧
      (chainClaims sha256 elementsGenesis blocks)[i] =
        burn.claim sha256 elementsGenesis.displayBytes i := by
  rw [chainClaims, length_claimsFrom] at h
  refine ⟨_, List.getElem?_eq_getElem h, ?_⟩
  simp [chainClaims, claimsFrom]

theorem mem_chainClaims {claim : EthereumWithdrawalClaim}
    (h : claim ∈ chainClaims sha256 elementsGenesis blocks) :
    ∃ burn ∈ blocks.flatMap burnsOf, ∃ i,
      claim = burn.claim sha256 elementsGenesis.displayBytes i := by
  obtain ⟨i, hi, rfl⟩ := List.getElem_of_mem h
  obtain ⟨burn, hburn, heq⟩ := chainClaims_getElem hi
  exact ⟨burn, List.mem_of_getElem? hburn, i, heq⟩

/-- The claims are numbered without gaps, and their leaves are theirs. -/
theorem canonicalClaims_chainClaims
    (h : (chainClaims sha256 elementsGenesis blocks).length < 2 ^ 64) :
    CanonicalClaims sha256 (chainClaims sha256 elementsGenesis blocks) := by
  intro i hi
  obtain ⟨burn, -, heq⟩ := chainClaims_getElem hi
  rw [heq]
  exact ⟨UInt64.toNat_ofNat_of_lt' (hi.trans h), rfl⟩

/-- **The amount of a claim is the amount that its output burned.** -/
theorem chainClaims_origin {claim : EthereumWithdrawalClaim}
    (h : claim ∈ chainClaims sha256 elementsGenesis blocks) :
    ∃ block ∈ blocks, ∃ tx ∈ block.vtx, ∃ output, tx.vout[claim.burnVout.toNat]? = some output ∧
      claim.burnTxidDisplay = tx.hash.displayBytes ∧
      ∃ asset value, output.nAsset = .explicit asset ∧ claim.assetId = asset.displayBytes ∧
        output.nValue = .explicit value ∧
        (claim.amountUsdtMicro.toNat * USDD_UNITS_PER_USDT_MICRO : ℤ) = value := by
  obtain ⟨burn, hburn, i, rfl⟩ := mem_chainClaims h
  exact mem_burns hburn

/-- **No burn is claimed twice.** -/
theorem nodup_chainClaims (hlength : (chainClaims sha256 elementsGenesis blocks).length < 2 ^ 64)
    (htxids : ((blocks.flatMap (·.vtx)).map (·.hash)).Nodup)
    (hinj : Set.InjOn sha256 (claimPreimages (chainClaims sha256 elementsGenesis blocks))) :
    ((chainClaims sha256 elementsGenesis blocks).map (·.burnId)).Nodup ∧
      ((chainClaims sha256 elementsGenesis blocks).map (·.leaf)).Nodup := by
  have hmem : ∀ {i : ℕ} (hi : i < (chainClaims sha256 elementsGenesis blocks).length),
      (chainClaims sha256 elementsGenesis blocks)[i] ∈ chainClaims sha256 elementsGenesis blocks :=
    fun hi => List.getElem_mem hi
  have hcanonical := canonicalClaims_chainClaims hlength
  constructor <;>
    refine List.pairwise_map.2 (List.pairwise_iff_getElem.2 fun i j hi hj hlt heq => ?_)
  · obtain ⟨burn, hburn, hi'⟩ := chainClaims_getElem hi
    obtain ⟨burn', hburn', hj'⟩ := chainClaims_getElem hj
    have hpre : withdrawalBurnIdPreimage elementsGenesis.displayBytes burn.txidDisplay burn.vout =
        withdrawalBurnIdPreimage elementsGenesis.displayBytes burn'.txidDisplay burn'.vout := by
      refine hinj ⟨_, hmem hi, .inr (by rw [hi']; rfl)⟩ ⟨_, hmem hj, .inr (by rw [hj']; rfl)⟩ ?_
      rwa [hi', hj'] at heq
    obtain ⟨-, htxid, hvout⟩ := withdrawalBurnIdPreimage_inj hpre
    have hsites := List.pairwise_iff_getElem.1 (List.pairwise_map.1 (nodup_burns htxids))
    obtain ⟨hi₀, rfl⟩ := List.getElem?_eq_some_iff.1 hburn
    obtain ⟨hj₀, rfl⟩ := List.getElem?_eq_some_iff.1 hburn'
    exact hsites i j hi₀ hj₀ hlt (Prod.ext htxid hvout)
  · have hpre := hinj ⟨_, hmem hi, .inl rfl⟩ ⟨_, hmem hj, .inl rfl⟩
      (((hcanonical i hi).2.symm.trans heq).trans (hcanonical j hj).2)
    have hindex := (EthereumWithdrawalClaim.leafPreimage_inj hpre).2.2.2.2.1
    have : i = j := by rw [← (hcanonical i hi).1, ← (hcanonical j hj).1, hindex]
    omega

variable (sha256 elementsGenesis blocks) in
/-- **The accumulator of a chain and its claims.**  Block by block, the accumulator becomes the one
that the leaves of all burns give when they are appended in order, as long as there is room; the
claims are numbered from zero without gaps; each claims the amount that its output burned; and no
two of them claim the same burn, if transaction ids are distinct and the hash tells apart what is
hashed for the claims. -/
theorem chain_accumulation :
    (∀ state claims, applyChain sha256 elementsGenesis blocks = .ok (state, claims) →
      claims = chainClaims sha256 elementsGenesis blocks ∧
      (WithdrawalAccumulatorState.empty sha256).appendAll sha256 (claims.map (·.leaf)) =
        .ok state ∧
      (∀ (i : ℕ) (h : i < claims.length), claims[i].claimIndex.toNat = i) ∧
      (∀ claim ∈ claims, ∃ block ∈ blocks, ∃ tx ∈ block.vtx, ∃ output,
        tx.vout[claim.burnVout.toNat]? = some output ∧
        claim.burnTxidDisplay = tx.hash.displayBytes ∧
        ∃ asset value, output.nAsset = .explicit asset ∧ claim.assetId = asset.displayBytes ∧
          output.nValue = .explicit value ∧
          (claim.amountUsdtMicro.toNat * USDD_UNITS_PER_USDT_MICRO : ℤ) = value) ∧
      (((blocks.flatMap (·.vtx)).map (·.hash)).Nodup →
        Set.InjOn sha256 (claimPreimages claims) →
        (claims.map (·.burnId)).Nodup ∧ (claims.map (·.leaf)).Nodup)) ∧
    (elementsGenesis ≠ 0 → ∀ state,
      (WithdrawalAccumulatorState.empty sha256).appendAll sha256
        ((chainClaims sha256 elementsGenesis blocks).map (·.leaf)) = .ok state →
      applyChain sha256 elementsGenesis blocks =
        .ok (state, chainClaims sha256 elementsGenesis blocks)) := by
  simp only [WithdrawalAccumulatorState.appendAll_empty_eq_ok]
  constructor
  · intro state claims h
    obtain ⟨rfl, hstate⟩ := (applyChain_eq_ok (genesis_ne_zero_of_applyChain h)).1 h
    have hlength : (chainClaims sha256 elementsGenesis blocks).length < 2 ^ 64 := by
      simpa using hstate.length_lt
    exact ⟨rfl, hstate, fun i hi => (canonicalClaims_chainClaims hlength i hi).1,
      fun claim hclaim => chainClaims_origin hclaim, nodup_chainClaims hlength⟩
  · intro hgenesis state hstate
    exact (applyChain_eq_ok fun _ => hgenesis).2 ⟨rfl, hstate⟩

namespace Sample

/-- The script that burns five units for a vault and a recipient. -/
def burnScript : CScript :=
  [OP_RETURN, WITHDRAWAL_SCRIPT_PUSH_SIZE] ++ WITHDRAWAL_MAGIC ++ [1] ++ (Uint256.ofByte 3).data ++
    List.replicate 20 6 ++ writeBE 8 5

/-- An output with that script. -/
def burnOutput : Child.CTxOut where
  nAsset := .explicit (Uint256.ofByte 2)
  nValue := .explicit 500
  scriptPubKey := burnScript

/-- A block with one burn. -/
def burnBlock : Child.CBlock where
  hash := Uint256.ofByte 9
  vtx := [{ vin := [], vout := [burnOutput], hash := Uint256.ofByte 4 }]

/-- A block with two more burns. -/
def laterBlock : Child.CBlock where
  hash := Uint256.ofByte 10
  vtx := [{ vin := [], vout := [burnOutput, burnOutput], hash := Uint256.ofByte 5 }]

theorem injOn_claimPreimages {claims : List EthereumWithdrawalClaim}
    (h : ((claims.flatMap fun claim => [claim.leafPreimage, withdrawalBurnIdPreimage
      claim.elementsGenesis claim.burnTxidDisplay claim.burnVout]).map sha256).Nodup) :
    Set.InjOn sha256 (claimPreimages claims) := by
  have hmem : ∀ b ∈ claimPreimages claims, b ∈ claims.flatMap fun claim => [claim.leafPreimage,
      withdrawalBurnIdPreimage claim.elementsGenesis claim.burnTxidDisplay claim.burnVout] := by
    rintro b ⟨claim, hclaim, hb⟩
    exact List.mem_flatMap.2 ⟨claim, hclaim, by simpa using hb⟩
  exact fun b hb b' hb' => List.inj_on_of_nodup_map h (hmem b hb) (hmem b' hb')

end Sample

open Usdd.Sample

/-- Two blocks give three claims. -/
theorem chain_accumulation_sample :
    let blocks := [burnBlock, laterBlock]
    ∃ state claims, applyChain Sample.polynomialHash (Uint256.ofByte 1) blocks =
        .ok (state, claims) ∧ claims.length = 3 ∧
      (claims.map (·.burnId)).Nodup ∧ (claims.map (·.leaf)).Nodup := by
  intro blocks
  obtain ⟨hall, hroom⟩ := chain_accumulation Sample.polynomialHash (Uint256.ofByte 1) blocks
  have hlength : (chainClaims Sample.polynomialHash (Uint256.ofByte 1) blocks).length = 3 := by
    decide +kernel
  obtain ⟨state, hstate⟩ := WithdrawalAccumulatorState.exists_describes Sample.polynomialHash
    (show ((chainClaims Sample.polynomialHash (Uint256.ofByte 1) blocks).map
      (·.leaf)).length < 2 ^ 64 by rw [List.length_map, hlength]; decide)
  have happly := hroom (by decide) state
    (WithdrawalAccumulatorState.appendAll_empty_eq_ok.2 hstate)
  obtain ⟨-, -, -, -, hnodup⟩ := hall state _ happly
  exact ⟨state, _, happly, hlength, hnodup (by decide +kernel)
    (injOn_claimPreimages (by decide +kernel))⟩

end ElementsDrivechain.Usdd
