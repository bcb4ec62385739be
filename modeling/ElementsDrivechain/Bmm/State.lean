import Mathlib.Data.List.Sort
import ElementsDrivechain.Child.Records
import ElementsDrivechain.Parent.MerkleProof

/-!
# The state of the parent chain on the public signet

On the networks without a slot, the sidechain keeps the tip of the parent chain in a record of its
own: the last authenticated header, where its difficulty period began, and the times of the last
eleven headers.

* `bmmStateFormat_spells` : **a state with eleven times is read back as it was written.**
-/

namespace ElementsDrivechain

open Fallible

/-! ### Compact targets -/

/-- A target, with what can be wrong about its compact form. -/
structure CompactTarget where
  value : ℕ
  negative : Bool
  overflow : Bool

/-- The target of a compact form. -/
def setCompact (nCompact : UInt32) : CompactTarget :=
  let nSize := nCompact.toNat / 2 ^ 24
  let mantissa := nCompact.toNat % 2 ^ 23
  let nWord := if nSize ≤ 3 then mantissa / 256 ^ (3 - nSize) else mantissa
  { value := if nSize ≤ 3 then nWord else nWord * 256 ^ (nSize - 3) % 2 ^ 256
    negative := nWord ≠ 0 ∧ nCompact.toNat / 2 ^ 23 % 2 = 1
    overflow := nWord ≠ 0 ∧
      (34 < nSize ∨ (0xff < nWord ∧ 33 < nSize) ∨ (0xffff < nWord ∧ 32 < nSize)) }

theorem setCompact_zero : (setCompact 0).value = 0 := rfl

/-- The compact form of a target. -/
def getCompact (target : ℕ) : UInt32 :=
  let nSize := ((if target = 0 then 0 else Nat.log2 target + 1) + 7) / 8
  let nCompact := if nSize ≤ 3 then target * 256 ^ (3 - nSize) else target / 256 ^ (nSize - 3)
  -- the top bit of the mantissa is a sign
  if nCompact / 2 ^ 23 % 2 = 1 then UInt32.ofNat (nCompact / 256 + (nSize + 1) * 2 ^ 24)
  else UInt32.ofNat (nCompact + nSize * 2 ^ 24)

/-! ### The state -/

/-- The tip of the parent chain. -/
structure BmmL1State where
  blockHash : Uint256
  height : UInt32 := 0
  blockTime : UInt32 := 0
  nBits : UInt32 := 0
  /-- Where the difficulty period began. -/
  periodStartHeight : UInt32 := 0
  periodStartTime : UInt32 := 0
  /-- The times of the last eleven headers. -/
  recentTimes : List UInt32 := []
deriving DecidableEq

/-- The slot of the public sidechain. -/
def BMM_SIDECHAIN_SLOT : UInt8 := 24
/-- No more headers fit into a proof. -/
def MAX_BMM_PROOF_ENTRIES : ℕ := 128
/-- No longer proof is read. -/
def MAX_BMM_PROOF_BYTES : ℕ := 1000000

/-- The rules of the parent chain. -/
structure BmmConsensus where
  powLimit : Uint256
  targetTimespan : ℕ := 14 * 24 * 60 * 60
  targetSpacing : ℕ := 10 * 60
  sidechainSlot : UInt8 := BMM_SIDECHAIN_SLOT
  maxEntries : ℕ := MAX_BMM_PROOF_ENTRIES
  maxProofBytes : ℕ := MAX_BMM_PROOF_BYTES
  requireSignetSolution : Bool := true

/-- After so many blocks the target changes. -/
def BmmConsensus.difficultyAdjustmentInterval (C : BmmConsensus) : ℕ :=
  C.targetTimespan / C.targetSpacing

/-- The rules of the public signet. -/
def layerTwoLabsBmmConsensus : BmmConsensus where
  powLimit := .ofNat 0x00000377ae000000000000000000000000000000000000000000000000000000

/-- The state that the public signet starts from. -/
def layerTwoLabsInitialBmmState : BmmL1State where
  blockHash := .ofNat 0x0000031bb69e844ed1ebd48cc0ab6cee90de29fb98ff7fb439d49b0b19747665
  height := 6400
  blockTime := 1784826005
  nBits := 0x1e0376cc
  periodStartHeight := 6048
  periodStartTime := 1784614805
  recentTimes := [1784820005, 1784820605, 1784821205, 1784821805, 1784822405, 1784823005,
    1784823605, 1784824205, 1784824805, 1784825405, 1784826005]

theorem layerTwoLabsBits_lt : 0x1e0376cc < 2 ^ 32 := by decide

/-- A state makes sense. -/
structure ValidState (C : BmmConsensus) (state : BmmL1State) : Prop where
  blockHash : state.blockHash ≠ 0
  height : state.height ≠ 0
  blockTime : state.blockTime ≠ 0
  nBits : state.nBits ≠ 0
  interval : 0 < C.difficultyAdjustmentInterval
  period_le : state.periodStartHeight.toNat ≤ state.height.toNat
  period_dvd : state.periodStartHeight.toNat % C.difficultyAdjustmentInterval = 0
  height_lt : state.height.toNat - state.periodStartHeight.toNat <
    C.difficultyAdjustmentInterval % 2 ^ 32
  periodStartTime : state.periodStartTime ≠ 0
  /-- Eleven times, of which the last is that of the tip. -/
  length : state.recentTimes.length = 11
  last : state.recentTimes.getLast? = some state.blockTime

instance (C : BmmConsensus) (state : BmmL1State) : Decidable (ValidState C state) :=
  decidable_of_iff
    (state.blockHash ≠ 0 ∧ state.height ≠ 0 ∧ state.blockTime ≠ 0 ∧ state.nBits ≠ 0 ∧
      0 < C.difficultyAdjustmentInterval ∧
      state.periodStartHeight.toNat ≤ state.height.toNat ∧
      state.periodStartHeight.toNat % C.difficultyAdjustmentInterval = 0 ∧
      state.height.toNat - state.periodStartHeight.toNat <
        C.difficultyAdjustmentInterval % 2 ^ 32 ∧
      state.periodStartTime ≠ 0 ∧ state.recentTimes.length = 11 ∧
      state.recentTimes.getLast? = some state.blockTime)
    ⟨fun ⟨h₁, h₂, h₃, h₄, h₅, h₆, h₇, h₈, h₉, h₁₀, h₁₁⟩ =>
      ⟨h₁, h₂, h₃, h₄, h₅, h₆, h₇, h₈, h₉, h₁₀, h₁₁⟩,
     fun h => ⟨h.1, h.2, h.3, h.4, h.5, h.6, h.7, h.8, h.9, h.10, h.11⟩⟩

/-- Reject a state that makes no sense. -/
def checkState (C : BmmConsensus) (state : BmmL1State) : Except String Unit :=
  rejectIf (¬ValidState C state) "BMM parent-chain state is malformed"

/-- The median of some times. -/
def medianTimePast (times : List UInt32) : UInt32 :=
  (times.insertionSort (· ≤ ·)).getD (times.length / 2) 0

/-- The difficulty that the next header has to state. -/
def expectedNextBits (C : BmmConsensus) (previous : BmmL1State) : UInt32 :=
  if (previous.height.toNat + 1) % C.difficultyAdjustmentInterval ≠ 0 then previous.nBits
  else
    let elapsed : ℤ := (previous.blockTime.toNat : ℤ) - previous.periodStartTime.toNat
    let timespan : ℤ :=
      min (C.targetTimespan * 4 : ℤ) (max (C.targetTimespan / 4 : ℤ) elapsed)
    let next := (setCompact previous.nBits).value * timespan.toNat % 2 ^ 256 / C.targetTimespan
    getCompact (min next C.powLimit.toArith)

/-! ### The record -/

/-- The marker of the record. -/
def BMM_STATE_MARKER : Bytes :=
  [0x64, 0x72, 0x69, 0x76, 0x65, 0x63, 0x68, 0x61, 0x69, 0x6e, 0x2d, 0x62, 0x6d, 0x6d, 0x2d, 0x76,
    0x31]

/-- A word in four bytes. -/
def writeWord (n : UInt32) : Bytes := writeLE 4 n.toNat

/-- Read a 32-bit number. -/
def readWord : Reader UInt32 := UInt32.ofNat <$> Reader.number 4

theorem readWord_reads (n : UInt32) : readWord.Reads n (writeWord n) := by
  have h : Reader.Reads readWord (UInt32.ofNat n.toNat) (writeWord n) :=
    (Reader.Reads.number (n.toNat_lt.trans_eq (by norm_num))).map
  rwa [UInt32.ofNat_toNat] at h

namespace BmmL1State

/-- The bytes of a state. -/
def serialize (state : BmmL1State) : Bytes :=
  state.blockHash.data ++ (writeWord state.height ++ (writeWord state.blockTime ++
    (writeWord state.nBits ++ (writeWord state.periodStartHeight ++
      (writeWord state.periodStartTime ++ (writeCompactSize state.recentTimes.length ++
        state.recentTimes.flatMap writeWord))))))

/-- Read a state. -/
def deserialize : Reader BmmL1State := do
  let blockHash ← Reader.uint256
  let height ← readWord
  let blockTime ← readWord
  let nBits ← readWord
  let periodStartHeight ← readWord
  let periodStartTime ← readWord
  let count ← Reader.compactSize
  let recentTimes ← readWord.list count
  return {
    blockHash := blockHash
    height := height
    blockTime := blockTime
    nBits := nBits
    periodStartHeight := periodStartHeight
    periodStartTime := periodStartTime
    recentTimes := recentTimes }

end BmmL1State

/-- The record of the state. -/
def bmmStateFormat : RecordFormat BmmL1State where
  what := "BMM state"
  undecodable := "persisted BMM state payload cannot be decoded"
  marker := BMM_STATE_MARKER
  serialize := BmmL1State.serialize
  deserialize := BmmL1State.deserialize
  check := checkState layerTwoLabsBmmConsensus

/-- **A state with a window of times is read back as it was written.** -/
theorem bmmStateFormat_spells {state : BmmL1State} (h : state.recentTimes.length = 11) :
    bmmStateFormat.Spells state where
  marker := by decide
  length := by
    simp [bmmStateFormat, BmmL1State.serialize, writeWord, writeCompactSize, h,
      state.blockHash.size_data, List.length_flatMap]
  reads := by
    have hcount : Reader.compactSize.Reads state.recentTimes.length
        (writeCompactSize state.recentTimes.length) :=
      Reader.Reads.compactSize (by omega)
    have htimes := Reader.Reads.list fun time (_ : time ∈ state.recentTimes) => readWord_reads time
    change BmmL1State.deserialize.Reads state state.serialize
    unfold BmmL1State.deserialize BmmL1State.serialize
    refine (Reader.Reads.uint256 state.blockHash).bind ?_
    refine (readWord_reads state.height).bind ?_
    refine (readWord_reads state.blockTime).bind ?_
    refine (readWord_reads state.nBits).bind ?_
    refine (readWord_reads state.periodStartHeight).bind ?_
    refine (readWord_reads state.periodStartTime).bind ?_
    refine hcount.bind ?_
    rw [← List.append_nil (state.recentTimes.flatMap writeWord)]
    exact htimes.bind (Reader.Reads.pure state)

variable (peggedAsset : Uint256)

/-- The coin of a state. -/
def bmmStateCoin (state : BmmL1State) (height : ℤ) : Coin :=
  bmmStateFormat.coin peggedAsset state height

/-- The stored state, if there is one. -/
def getBmmState (view : CCoinsView) : Except String (Option BmmL1State) :=
  match view.accessCoin BMM_STATE_OUTPOINT with
  | none => .ok none
  | some coin => some <$> bmmStateFormat.decode peggedAsset coin

/-- Store a state. -/
def setBmmState (view : CCoinsView) (state : BmmL1State) (height : ℤ) : CCoinsView :=
  view.setRecord BMM_STATE_OUTPOINT (bmmStateCoin peggedAsset state height)

end ElementsDrivechain
