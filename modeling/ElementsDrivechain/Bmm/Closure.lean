import ElementsDrivechain.Bmm.Proof
import ElementsDrivechain.Foundations.Matching

/-!
# The state of the parent chain stays valid

An accepted proof leads from a valid state to a valid state, which its record gives back.

* `ValidState.extend` : one more header keeps a state valid.
* `bmm_state_closure` : **what an accepted proof makes of a valid state.**
-/

namespace ElementsDrivechain

variable {V : BmmVerifier} {C : BmmConsensus} {state next : BmmL1State} {header : CMerkleBlock}
  {headers : List CMerkleBlock}

theorem HeaderExtends.nBits_ne_zero (h : HeaderExtends V C state header) : header.nBits ≠ 0 := by
  intro hzero
  have hwork := Fallible.rejectIf_eq_ok.1 h.work
  rw [hzero] at hwork
  exact hwork (.inr (.inl setCompact_zero))

theorem HeaderExtends.nTime_ne_zero (h : HeaderExtends V C state header) : header.nTime ≠ 0 := by
  have := UInt32.lt_iff_toNat_lt.1 h.nTime
  intro hzero
  rw [hzero] at this
  exact absurd this (by simp)

theorem toNat_height_add_one (h : state.height.toNat + 1 < 2 ^ 32) :
    (state.height + 1).toNat = state.height.toNat + 1 := by
  rw [UInt32.toNat_add]
  exact Nat.mod_eq_of_lt h

/-- **One more header keeps a state valid.** -/
theorem ValidState.extend (hstate : ValidState C state)
    (hinterval : C.difficultyAdjustmentInterval < 2 ^ 32) (h : HeaderExtends V C state header)
    (hheight : state.height.toNat + 1 < 2 ^ 32) (hhash : V.hashing.headerHash header.header ≠ 0) :
    ValidState C (state.extend V C header) := by
  have htoNat := toNat_height_add_one hheight
  have hmod := Nat.mod_eq_of_lt hinterval
  have hlt := hstate.height_lt
  have hle := hstate.period_le
  have hpos := hstate.interval
  rw [hmod] at hlt
  refine ⟨hhash, ?_, h.nTime_ne_zero, h.nBits_ne_zero, hpos, ?_, ?_, ?_, ?_, ?_, ?_⟩
  · change state.height + 1 ≠ 0
    intro hzero
    rw [hzero] at htoNat
    exact absurd htoNat (by simp)
  all_goals unfold BmmL1State.extend; dsimp only
  · split_ifs
    · exact le_rfl
    · omega
  · split_ifs with hcrossed
    · exact hcrossed
    · exact hstate.period_dvd
  · rw [hmod]
    split_ifs with hcrossed
    · rwa [Nat.sub_self]
    · -- the next period would begin exactly where this one is full
      rw [htoNat] at hcrossed ⊢
      refine lt_of_le_of_ne (by omega) fun hfull => hcrossed ?_
      have hsum : state.height.toNat + 1 =
          state.periodStartHeight.toNat + C.difficultyAdjustmentInterval := by omega
      rw [hsum, Nat.add_mod_right, hstate.period_dvd]
  · split_ifs
    · exact h.nTime_ne_zero
    · exact hstate.periodStartTime
  · simp [hstate.length]
  · simp

/-- Where the difficulty period begins after some headers, the first of which has the given height:
at the last boundary among them, or where it began before. -/
def periodStart (C : BmmConsensus) (start : ℕ × UInt32) (height : ℕ) (headers : List CMerkleBlock) :
    ℕ × UInt32 :=
  ((headers.zipIdx height).filter fun p => p.2 % C.difficultyAdjustmentInterval = 0).getLast?.elim
    start fun p => (p.2, p.1.nTime)

theorem periodStart_concat (start : ℕ × UInt32) (height : ℕ) :
    periodStart C start height (headers ++ [header]) =
      if (height + headers.length) % C.difficultyAdjustmentInterval = 0
      then (height + headers.length, header.nTime) else periodStart C start height headers := by
  unfold periodStart
  rw [List.zipIdx_append, List.filter_append]
  split_ifs with hcrossed <;> simp [hcrossed]

/-- What a chain of headers makes of a valid state. -/
structure Advanced (C : BmmConsensus) (state : BmmL1State) (headers : List CMerkleBlock)
    (next : BmmL1State) : Prop where
  valid : ValidState C next
  height : next.height.toNat = state.height.toNat + headers.length
  /-- The times of the last eleven headers. -/
  recentTimes : next.recentTimes =
    (state.recentTimes ++ headers.map (·.nTime)).drop headers.length
  period : (next.periodStartHeight.toNat, next.periodStartTime) =
    periodStart C (state.periodStartHeight.toNat, state.periodStartTime) (state.height.toNat + 1)
      headers

/-- **A chain of headers advances a valid state.** -/
theorem HeaderChain.advanced (hchain : HeaderChain V C state headers next)
    (hstate : ValidState C state) (hinterval : C.difficultyAdjustmentInterval < 2 ^ 32)
    (hheight : state.height.toNat + headers.length < 2 ^ 32)
    (hhashes : ∀ header ∈ headers, V.hashing.headerHash header.header ≠ 0) :
    Advanced C state headers next := by
  revert hheight hhashes
  refine Run.history hchain ?_ ?_
  · exact fun _ _ => ⟨hstate, rfl, by simp, rfl⟩
  · rintro headers mid header _ - ih ⟨hextends, rfl⟩ hheight hhashes
    rw [List.length_append, List.length_singleton] at hheight
    have hmid := ih (by omega) fun h hh => hhashes h (List.mem_append_left _ hh)
    have htoNat : (mid.height + 1).toNat = state.height.toNat + 1 + headers.length := by
      rw [toNat_height_add_one (by rw [hmid.height]; omega), hmid.height]
      omega
    refine ⟨hmid.valid.extend hinterval hextends (by rw [hmid.height]; omega)
      (hhashes header (by simp)), ?_, ?_, ?_⟩
    · change (mid.height + 1).toNat = _
      rw [htoNat, List.length_append, List.length_singleton]
      omega
    · change mid.recentTimes.tail ++ [header.nTime] = _
      have hlength := hstate.length
      have hdrop : (state.recentTimes ++ headers.map (·.nTime) ++ [header.nTime]).drop
          (headers.length + 1) =
            (state.recentTimes ++ headers.map (·.nTime)).drop (headers.length + 1) ++
              [header.nTime] := by
        refine List.drop_append_of_le_length ?_
        rw [List.length_append, List.length_map, hlength]
        omega
      rw [hmid.recentTimes, List.tail_drop, ← hdrop]
      simp
    · rw [periodStart_concat, ← htoNat, ← hmid.period]
      simp only [BmmL1State.extend]
      split_ifs <;> rfl

theorem verifyBmmProofEntries_advanced {proof : BmmProof} {criticalHash parentHash : Uint256}
    (h : verifyBmmProofEntries V C proof criticalHash parentHash = .ok next)
    (hinterval : C.difficultyAdjustmentInterval < 2 ^ 32)
    (hheight : proof.previousState.height.toNat + proof.entries.length < 2 ^ 32)
    (hhashes : ∀ entry ∈ proof.entries, ∀ header,
      V.codec.merkleBlock entry.coinbaseProof = some header →
        V.hashing.headerHash header.header ≠ 0) :
    ∃ headers, List.Forall₂ (fun entry header =>
        V.codec.merkleBlock entry.coinbaseProof = some header) proof.entries headers ∧
      Advanced C proof.previousState headers next := by
  obtain ⟨hvalid, headers, hentries, hchain⟩ := verifyBmmProofEntries_eq_ok h
  refine ⟨headers, hentries, HeaderChain.advanced hchain hvalid hinterval ?_ ?_⟩
  · rwa [← hentries.length_eq]
  · intro header hheader
    obtain ⟨entry, hentry, hmerkle⟩ := Matching.exists_of_mem_right hentries hheader
    exact hhashes entry hentry header hmerkle

theorem decode_bmmStateCoin (h : ValidState layerTwoLabsBmmConsensus state) (peggedAsset : Uint256)
    (height : ℤ) :
    bmmStateFormat.decode peggedAsset (bmmStateCoin peggedAsset state height) = .ok state :=
  (RecordFormat.decode_coin (bmmStateFormat_spells h.length)).2
    ⟨Fallible.rejectIf_eq_ok.2 (not_not.2 h), rfl⟩

theorem getBmmState_setBmmState (h : ValidState layerTwoLabsBmmConsensus state)
    (peggedAsset : Uint256) (view : CCoinsView) (height : ℤ) :
    getBmmState peggedAsset (setBmmState peggedAsset view state height) = .ok (some state) := by
  rw [getBmmState, setBmmState, bmmStateCoin,
    CCoinsView.setRecord_self (bmmStateFormat_spells h.length)]
  exact congrArg (some <$> ·) (decode_bmmStateCoin h peggedAsset height)

/-- **The state of the parent chain is closed under accepted proofs.**  The state after an accepted
proof is valid, its window of times is the last eleven of the old window and the times of the
headers, its height has grown by the number of the entries, its difficulty period begins at the last
boundary that was crossed, and its record is read back as it was written. -/
theorem bmm_state_closure (V : BmmVerifier) (proof : BmmProof) (criticalHash parentHash : Uint256)
    (next : BmmL1State)
    (h : verifyBmmProofEntries V layerTwoLabsBmmConsensus proof criticalHash parentHash = .ok next)
    (hheight : proof.previousState.height.toNat + proof.entries.length < 2 ^ 32)
    (hhashes : ∀ entry ∈ proof.entries, ∀ header,
      V.codec.merkleBlock entry.coinbaseProof = some header →
        V.hashing.headerHash header.header ≠ 0) :
    ∃ headers : List CMerkleBlock,
      List.Forall₂ (fun entry header => V.codec.merkleBlock entry.coinbaseProof = some header)
        proof.entries headers ∧
      ValidState layerTwoLabsBmmConsensus next ∧
      next.recentTimes.length = 11 ∧
      next.recentTimes <:+ proof.previousState.recentTimes ++ headers.map (·.nTime) ∧
      next.height.toNat = proof.previousState.height.toNat + proof.entries.length ∧
      (next.periodStartHeight.toNat, next.periodStartTime) =
        periodStart layerTwoLabsBmmConsensus
          (proof.previousState.periodStartHeight.toNat, proof.previousState.periodStartTime)
          (proof.previousState.height.toNat + 1) headers ∧
      (∀ peggedAsset height,
        bmmStateFormat.decode peggedAsset (bmmStateCoin peggedAsset next height) = .ok next) ∧
      ∀ peggedAsset view height,
        getBmmState peggedAsset (setBmmState peggedAsset view next height) = .ok (some next) := by
  obtain ⟨headers, hentries, hnext⟩ :=
    verifyBmmProofEntries_advanced h (by decide) hheight hhashes
  refine ⟨headers, hentries, hnext.valid, hnext.valid.length, ?_, ?_, hnext.period,
    decode_bmmStateCoin hnext.valid, getBmmState_setBmmState hnext.valid⟩
  · rw [hnext.recentTimes]
    exact List.drop_suffix _ _
  · rw [hnext.height, hentries.length_eq]

/-! ### A small parent chain -/

namespace Sample

/-- A parent coinbase that commits to a sidechain block. -/
def bmmCoinbase : CTransaction where
  vin := [{ prevout := ⟨0, COutPoint.NULL_INDEX⟩ }]
  vout := [{ nValue := 0
             scriptPubKey := Native.singlePushScript
              (M7_TAG ++ [24] ++ (Uint256.ofByte 9).data.reverse) }]

/-- The block of the coinbase, after the given one. -/
def bmmHeader (previous : Uint256) : CMerkleBlock where
  header := { hashPrevBlock := previous, hashMerkleRoot := .ofByte 5, nTime := 1784826605,
              nBits := 0x1e0376cc }
  txn := { nTransactions := 1, vBits := [true], vHash := [.ofByte 5] }
  nTime_lt := (by decide : 1784826605 < 2 ^ 32)
  nBits_lt := layerTwoLabsBits_lt

/-- The parent chain goes on with that block. -/
def bmmVerifier (previous : Uint256) : BmmVerifier where
  hashing := { txid := fun _ => .ofByte 5, headerHash := fun _ => .ofByte 7,
               hash := fun _ => .ofByte 8 }
  codec := { transaction := fun _ => some bmmCoinbase
             merkleBlock := fun _ => some (bmmHeader previous) }
  checkSignetSolution _ _ := .ok ()

/-- A proof with one header. -/
def bmmProof (previous : BmmL1State) : BmmProof where
  previousState := previous
  entries := [{ coinbaseTx := [1], coinbaseProof := [2] }]

/-- The state two headers before the difficulty changes. -/
def boundaryState : BmmL1State := { layerTwoLabsInitialBmmState with height := 8062 }

/-- The header with which it changes. -/
def boundaryHeader : CMerkleBlock :=
  { bmmHeader (.ofByte 7) with
    header := { (bmmHeader (.ofByte 7)).header with nBits := 0x1e00ddb3 }
    nBits_lt := (by decide : 0x1e00ddb3 < 2 ^ 32) }

/-- The parent chain goes on with two headers. -/
def boundaryVerifier : BmmVerifier :=
  { bmmVerifier boundaryState.blockHash with
    codec := {
      transaction := fun _ => some bmmCoinbase
      merkleBlock := fun bytes =>
        some (if bytes = [2] then bmmHeader boundaryState.blockHash else boundaryHeader) } }

/-- A proof of both. -/
def boundaryProof : BmmProof where
  previousState := boundaryState
  entries := [{ coinbaseTx := [1], coinbaseProof := [2] },
    { coinbaseTx := [1], coinbaseProof := [3] }]

end Sample

open Sample

/-- Two headers take the state into the next difficulty period. -/
theorem bmm_state_closure_boundary :
    ∃ next, verifyBmmProofEntries boundaryVerifier layerTwoLabsBmmConsensus
        boundaryProof (.ofByte 9) (.ofByte 7) = .ok next ∧
      ValidState layerTwoLabsBmmConsensus next ∧ next.height = 8064 ∧
      next.periodStartHeight = 8064 := by
  obtain ⟨next, hnext, hheight, hperiod⟩ : ∃ next, verifyBmmProofEntries boundaryVerifier
      layerTwoLabsBmmConsensus boundaryProof (.ofByte 9) (.ofByte 7) = .ok next ∧
        next.height = 8064 ∧ next.periodStartHeight = 8064 :=
    ⟨(boundaryState.extend boundaryVerifier layerTwoLabsBmmConsensus
      (bmmHeader boundaryState.blockHash)).extend boundaryVerifier
        layerTwoLabsBmmConsensus boundaryHeader, by decide +kernel, by decide, by decide⟩
  obtain ⟨-, -, hvalid, -⟩ := bmm_state_closure _ _ _ _ next hnext (by decide) (by
    rintro entry - header -
    exact (by decide : Uint256.ofByte 7 ≠ 0))
  exact ⟨next, hnext, hvalid, hheight, hperiod⟩

end ElementsDrivechain
