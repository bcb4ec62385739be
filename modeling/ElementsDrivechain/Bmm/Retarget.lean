import Mathlib.Data.Nat.Log
import ElementsDrivechain.Bmm.State

/-!
# The difficulty of the next header

A compact target has a size in bytes and a mantissa of 23 bits.  Packing a target drops the bits
that do not fit the mantissa, so that the target read back is never higher.

The product of a target and a timespan is computed in 256 bits.  Under the rules of the public
signet it fits: at the limit, and with four times the timespan, it stays just below `2 ^ 256`.

* `setCompact_getCompact_le` : **a packed target is not above the target.**
* `expectedNextBits_exact` : **the next difficulty is computed without overflow.**
-/

namespace ElementsDrivechain

/-! ### Packing a target -/

theorem setCompact_pack {word size : ℕ} (hword : word < 2 ^ 23) (hsize : size < 2 ^ 8) :
    setCompact (UInt32.ofNat (word + size * 2 ^ 24)) =
      { value := if size ≤ 3 then word / 256 ^ (3 - size) else word * 256 ^ (size - 3) % 2 ^ 256
        negative := false
        overflow :=
          let nWord := if size ≤ 3 then word / 256 ^ (3 - size) else word
          nWord ≠ 0 ∧
            (34 < size ∨ (0xff < nWord ∧ 33 < size) ∨ (0xffff < nWord ∧ 32 < size)) } := by
  have hnat : (UInt32.ofNat (word + size * 2 ^ 24)).toNat = word + size * 2 ^ 24 :=
    UInt32.toNat_ofNat_of_lt' (by change _ < 2 ^ 32; omega)
  have hdiv : (word + size * 2 ^ 24) / 2 ^ 24 = size := by omega
  have hmod : (word + size * 2 ^ 24) % 2 ^ 23 = word := by omega
  have hsign : (word + size * 2 ^ 24) / 2 ^ 23 % 2 = 0 := by omega
  unfold setCompact
  simp only [hnat, hdiv, hmod, hsign]
  congr 1
  · split_ifs <;> rfl
  · simp

theorem lt_two_pow_bytes (target : ℕ) :
    target < 2 ^ (8 * (((if target = 0 then 0 else Nat.log2 target + 1) + 7) / 8)) := by
  split_ifs with h
  · simp [h]
  · exact (Nat.lt_log2_self).trans_le (Nat.pow_le_pow_right (by decide) (by omega))

theorem mantissa_lt {target nSize : ℕ} (h : target < 2 ^ (8 * nSize)) :
    (if nSize ≤ 3 then target * 256 ^ (3 - nSize) else target / 256 ^ (nSize - 3)) < 2 ^ 24 := by
  have hpow : ∀ k, (256 : ℕ) ^ k = 2 ^ (8 * k) := fun k => by rw [pow_mul]; rfl
  split_ifs with hsmall
  · have hsum : 8 * nSize + 8 * (3 - nSize) = 24 := by omega
    calc target * 256 ^ (3 - nSize) < 2 ^ (8 * nSize) * 256 ^ (3 - nSize) :=
          Nat.mul_lt_mul_of_pos_right h (Nat.pow_pos (by decide))
      _ = 2 ^ 24 := by rw [hpow, ← pow_add, hsum]
  · have hsum : 8 * nSize = 24 + 8 * (nSize - 3) := by omega
    rw [hpow, Nat.div_lt_iff_lt_mul (Nat.two_pow_pos _), ← pow_add, ← hsum]
    exact h

/-- **A packed target is not above the target**, and is neither negative nor too large. -/
theorem setCompact_getCompact_le {target : ℕ} (h : target < 2 ^ 256) :
    (setCompact (getCompact target)).value ≤ target ∧
      (setCompact (getCompact target)).negative = false ∧
      (setCompact (getCompact target)).overflow = false := by
  set nSize := ((if target = 0 then 0 else Nat.log2 target + 1) + 7) / 8 with hnSize
  set nCompact := if nSize ≤ 3 then target * 256 ^ (3 - nSize) else target / 256 ^ (nSize - 3)
    with hnCompact
  have hbytes : target < 2 ^ (8 * nSize) := lt_two_pow_bytes target
  have hmantissa : nCompact < 2 ^ 24 := mantissa_lt hbytes
  have hsize : nSize ≤ 32 := by
    have hlog : target ≠ 0 → Nat.log2 target < 256 := fun hne => (Nat.log2_lt hne).2 h
    rw [hnSize]
    split_ifs with hzero
    · decide
    · have := hlog hzero
      omega
  have hpacked : getCompact target =
      if nCompact / 2 ^ 23 % 2 = 1 then UInt32.ofNat (nCompact / 256 + (nSize + 1) * 2 ^ 24)
      else UInt32.ofNat (nCompact + nSize * 2 ^ 24) := rfl
  have hsmall : nSize ≤ 3 → nCompact / 256 ^ (3 - nSize) = target := by
    intro hle
    rw [hnCompact, if_pos hle, Nat.mul_div_cancel _ (Nat.pow_pos (by decide))]
  have hlarge : 3 ≤ nSize → nCompact * 256 ^ (nSize - 3) ≤ target := by
    intro hle
    rw [hnCompact]
    split_ifs with hle'
    · simp [le_antisymm hle' hle]
    · exact Nat.div_mul_le_self _ _
  rw [hpacked]
  split_ifs with hsign
  · -- the mantissa has lost a byte, and the size has one more
    rw [setCompact_pack (by omega) (by omega)]
    refine ⟨?_, rfl, ?_⟩
    · dsimp only
      split_ifs with hle
      · have hpow : 256 * 256 ^ (3 - (nSize + 1)) = 256 ^ (3 - nSize) := by
          rw [← pow_succ']
          congr 1
          omega
        rw [Nat.div_div_eq_div_mul, hpow, hsmall (by omega)]
      · have hpow : 256 ^ (nSize + 1 - 3) = 256 * 256 ^ (nSize - 3) := by
          rw [← pow_succ']
          congr 1
          omega
        calc nCompact / 256 * 256 ^ (nSize + 1 - 3) % 2 ^ 256
            ≤ nCompact / 256 * 256 ^ (nSize + 1 - 3) := Nat.mod_le _ _
          _ = nCompact / 256 * 256 * 256 ^ (nSize - 3) := by rw [hpow, Nat.mul_assoc]
          _ ≤ nCompact * 256 ^ (nSize - 3) :=
              Nat.mul_le_mul_right _ (Nat.div_mul_le_self _ _)
          _ ≤ target := hlarge (by omega)
    · have hword : nCompact / 256 ≤ 0xffff := by omega
      have hdiv : nCompact / 256 / 256 ^ (3 - (nSize + 1)) ≤ 0xffff :=
        (Nat.div_le_self _ _).trans hword
      simp only [decide_eq_false_iff_not]
      split_ifs <;> omega
  · rw [setCompact_pack (by omega) (by omega)]
    refine ⟨?_, rfl, ?_⟩
    · dsimp only
      split_ifs with hle
      · exact (hsmall hle).le
      · exact (Nat.mod_le _ _).trans (hlarge (by omega))
    · simp only [decide_eq_false_iff_not]
      omega

/-! ### The next difficulty -/

/-- The time of a difficulty period, bounded on both sides. -/
def clampedTimespan (C : BmmConsensus) (previous : BmmL1State) : ℕ :=
  (min (C.targetTimespan * 4 : ℤ) (max (C.targetTimespan / 4 : ℤ)
    ((previous.blockTime.toNat : ℤ) - previous.periodStartTime.toNat))).toNat

theorem clampedTimespan_le (C : BmmConsensus) (previous : BmmL1State) :
    clampedTimespan C previous ≤ C.targetTimespan * 4 := by
  unfold clampedTimespan
  omega

theorem powLimit_mul_lt :
    layerTwoLabsBmmConsensus.powLimit.toArith * (layerTwoLabsBmmConsensus.targetTimespan * 4) <
      2 ^ 256 := by
  decide +kernel

/-- **The next difficulty is computed without overflow.**  At a retarget height it is the packed
form of the smaller one of the limit and the scaled target; elsewhere it does not change.  The
target it stands for is not above the limit. -/
theorem expectedNextBits_exact (state : BmmL1State)
    (htarget : (setCompact state.nBits).value ≤ layerTwoLabsBmmConsensus.powLimit.toArith) :
    let C := layerTwoLabsBmmConsensus
    let target := (setCompact state.nBits).value
    let timespan := clampedTimespan C state
    timespan < 2 ^ 32 ∧ target * timespan < 2 ^ 256 ∧
      (expectedNextBits C state =
        if (state.height.toNat + 1) % C.difficultyAdjustmentInterval = 0 then
          getCompact (min C.powLimit.toArith (target * timespan / C.targetTimespan))
        else state.nBits) ∧
      (setCompact (expectedNextBits C state)).value ≤ C.powLimit.toArith ∧
      ((state.height.toNat + 1) % C.difficultyAdjustmentInterval = 0 →
        (setCompact (expectedNextBits C state)).negative = false ∧
          (setCompact (expectedNextBits C state)).overflow = false) := by
  intro C target timespan
  have htimespan : timespan ≤ C.targetTimespan * 4 := clampedTimespan_le C state
  have hproduct : target * timespan < 2 ^ 256 :=
    (Nat.mul_le_mul htarget htimespan).trans_lt powLimit_mul_lt
  have hbits : expectedNextBits C state =
      if (state.height.toNat + 1) % C.difficultyAdjustmentInterval = 0 then
        getCompact (min C.powLimit.toArith (target * timespan / C.targetTimespan))
      else state.nBits := by
    change (if _ ≠ 0 then _ else getCompact
      (min (target * timespan % 2 ^ 256 / C.targetTimespan) C.powLimit.toArith)) = _
    rw [Nat.mod_eq_of_lt hproduct, min_comm, ite_not]
  have hlimit : min C.powLimit.toArith (target * timespan / C.targetTimespan) < 2 ^ 256 :=
    (min_le_left _ _).trans_lt (by decide +kernel)
  have hpacked := setCompact_getCompact_le hlimit
  refine ⟨htimespan.trans_lt (by decide), hproduct, hbits, ?_, fun hretarget => ?_⟩
  · rw [hbits]
    split_ifs
    · exact hpacked.1.trans (min_le_left _ _)
    · exact htarget
  · rw [hbits, if_pos hretarget]
    exact hpacked.2

/-- At a retarget height of the public signet. -/
theorem expectedNextBits_exact_sample :
    ∃ state, ValidState layerTwoLabsBmmConsensus state ∧
      (state.height.toNat + 1) % layerTwoLabsBmmConsensus.difficultyAdjustmentInterval = 0 ∧
      expectedNextBits layerTwoLabsBmmConsensus state =
        getCompact (min layerTwoLabsBmmConsensus.powLimit.toArith
          ((setCompact state.nBits).value * clampedTimespan layerTwoLabsBmmConsensus state /
            layerTwoLabsBmmConsensus.targetTimespan)) := by
  have hretarget : ((8063 : UInt32).toNat + 1) %
      layerTwoLabsBmmConsensus.difficultyAdjustmentInterval = 0 := by decide
  let state : BmmL1State := { layerTwoLabsInitialBmmState with height := 8063 }
  have h := (expectedNextBits_exact state (by decide +kernel)).2.2.1
  rw [if_pos hretarget] at h
  exact ⟨state, by decide, hretarget, h⟩

end ElementsDrivechain
