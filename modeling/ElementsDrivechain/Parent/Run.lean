import ElementsDrivechain.Foundations.Trace
import ElementsDrivechain.Parent.MessagePhase
import ElementsDrivechain.Parent.TreasuryEffects

/-!
# Runs of the replay

A run applies parent blocks at consecutive heights, each to the state the one before left behind.
A block that is refused leaves the state as it was, so a run is a list of accepted blocks.

* `applyDrivechainParentBlockState_eq_ok` : the phases of an accepted block.
* `transactions_induction` : induction over the transactions of a block.
* `slotState_pruneSlots` : forgetting empty slots changes no slot.
-/

namespace ElementsDrivechain

open Fallible

/-! ### The end of a block -/

section Prune

variable {s : DrivechainParentReplayState} {cfg : UInt8}

theorem SlotEmpty.eq_default {slot : UInt8} {data : DrivechainOtherSlotReplayState}
    (h : SlotEmpty s slot data) : data = {} := by
  obtain ⟨h₁, h₂, h₃, h₄, h₅, -⟩ := h
  cases data
  simp_all

theorem slotState_pruneSlots (slot : UInt8) :
    slotState (pruneSlots s) cfg slot = slotState s cfg slot := by
  unfold slotState
  split_ifs with hs
  · rfl
  · rw [pruneSlots, Std.ExtTreeMap.getD_eq_getD_getElem?, Std.ExtTreeMap.getElem?_filter',
      Std.ExtTreeMap.getD_eq_getD_getElem?]
    cases hdata : s.otherSlots[slot]? with
    | none => rfl
    | some data =>
      by_cases hempty : SlotEmpty s slot data
      · have hnone : (some data).filter (fun data => ¬SlotEmpty s slot data) = none := by
          simp [Option.filter, hempty]
        rw [hnone, hempty.eq_default]
        rfl
      · simp [Option.filter, hempty]

theorem SameFrame.pruneSlots (h : cfg ∉ s.otherSlots) : SameFrame cfg s (pruneSlots s) where
  requiredProposalActivated := rfl
  requiredActivationHeight := rfl
  requiredActivationBlockHash := rfl
  previousM4Actions := rfl
  mem_otherSlots := by
    refine ⟨fun hmem => ?_, fun hmem => absurd hmem h⟩
    exact Std.ExtTreeMap.mem_of_mem_filter hmem

end Prune

/-! ### The phases of a block -/

section Block

variable {P : ReplayParameters} {H : ParentHashing} {block : CBlock} {height : ℕ}
  {s : DrivechainParentReplayState} {r : BlockResult}

/-- The phases of an accepted block. -/
structure BlockPhases (P : ReplayParameters) (H : ParentHashing) (block : CBlock) (height : ℕ)
    (s : DrivechainParentReplayState) (r : BlockResult) (t : DrivechainParentReplayState)
    (T : TreasuryLoop) : Prop where
  /-- The messages lead to `t`. -/
  messages : applyMessages P H block height s = .ok (t, r.withdrawalProposals)
  /-- The transactions lead on to `T`. -/
  transactions : applyTransactions P H block height t = .ok T
  state : r.state = pruneSlots T.state
  deposits : r.deposits = T.deposits
  successfulWithdrawals : r.successfulWithdrawals = T.derivedWithdrawals
  /-- The required proposal, once active, still is. -/
  required : r.state.requiredProposalActivated →
    r.state.activeProposalHash = P.requiredActiveProposal

theorem applyDrivechainParentBlockState_eq_ok
    (h : applyDrivechainParentBlockState P H block height s = .ok r) :
    ∃ t T, BlockPhases P H block height s r t T := by
  simp only [applyDrivechainParentBlockState, bind_eq_ok, rejectIf_eq_ok, pure_eq_ok, not_and,
    not_not] at h
  obtain ⟨⟨t, proposals⟩, hmessages, T, hT, _, hrequired, rfl⟩ := h
  exact ⟨t, T, hmessages, hT, rfl, rfl, rfl, hrequired⟩

/-- **Induction over the transactions of a block.** -/
theorem transactions_induction {t : DrivechainParentReplayState} {T : TreasuryLoop}
    {motive : List CTransaction → TreasuryLoop → Prop}
    (h : applyTransactions P H block height t = .ok T) (hcfg : P.configuredSlot ∉ t.otherSlots)
    (init : motive [] { state := t })
    (step : ∀ done tx U V, done ++ [tx] <+: block.transactions →
      P.configuredSlot ∉ U.state.otherSlots → motive done U →
      applyTreasuryTransaction P H height (H.blockHash block) (requiredProposalActive P t) U tx =
        .ok V → motive (done ++ [tx]) V) :
    motive block.transactions T ∧ P.configuredSlot ∉ T.state.otherSlots := by
  refine foldlM_induction h ⟨init, hcfg⟩ ?_
  rintro done tx U V hpre ⟨hU, hmem⟩ hstep
  refine ⟨step done tx U V hpre hmem hU hstep, fun hc => hmem ?_⟩
  exact (applyTreasuryTransaction_done hmem hstep).frame.mem_otherSlots.1 hc

theorem TransactionsDone.refl (t : DrivechainParentReplayState) : TransactionsDone P t t :=
  ⟨.refl _, fun _ => rfl, fun _ => rfl, fun _ => .refl _⟩

theorem TransactionsDone.trans {t u v : DrivechainParentReplayState} (h : TransactionsDone P t u)
    (h' : TransactionsDone P u v) : TransactionsDone P t v where
  frame := h.frame.trans h'.frame
  active slot := (h'.active slot).trans (h.active slot)
  pendingProposals slot := (h'.pendingProposals slot).trans (h.pendingProposals slot)
  sublist slot := (h'.sublist slot).trans (h.sublist slot)

/-- The transactions of an accepted block, with the pruning after them. -/
theorem BlockPhases.transactionsDone {t : DrivechainParentReplayState} {T : TreasuryLoop}
    (h : BlockPhases P H block height s r t T) : TransactionsDone P t r.state := by
  have hcfg := (applyMessages_done h.messages).not_mem
  obtain ⟨hT, hmem⟩ := transactions_induction
    (motive := fun _ U => TransactionsDone P t U.state) h.transactions hcfg
    (.refl t)
    fun _ _ _ _ _ hU hdone hstep =>
      hdone.trans (applyTreasuryTransaction_done hU hstep).toTransactionsDone
  rw [h.state]
  exact
    { frame := hT.frame.trans (.pruneSlots hmem)
      active := fun slot => by rw [slotState_pruneSlots]; exact hT.active slot
      pendingProposals := fun slot => by
        rw [slotState_pruneSlots]; exact hT.pendingProposals slot
      sublist := fun slot => by
        rw [queue, slotState_pruneSlots]; exact hT.sublist slot }

end Block

/-! ### Runs -/

/-- An accepted block, its height and what it left behind. -/
structure AppliedBlock where
  block : CBlock
  height : ℕ
  result : BlockResult

/-- A point of a run: the height of the next block, and the state it meets. -/
structure ReplayPoint where
  next : ℕ
  state : DrivechainParentReplayState

/-- The next block is accepted. -/
structure Applies (P : ReplayParameters) (H : ParentHashing) (p : ReplayPoint) (a : AppliedBlock)
    (p' : ReplayPoint) : Prop where
  /-- It has the next height. -/
  height : a.height = p.next
  applied : applyDrivechainParentBlockState P H a.block a.height p.state = .ok a.result
  /-- The run goes on after it. -/
  next : p' = { next := a.height + 1, state := a.result.state }

/-- Performing accepted blocks one after the other. -/
abbrev ReplayRun (P : ReplayParameters) (H : ParentHashing) :
    ReplayPoint → List AppliedBlock → ReplayPoint → Prop :=
  Run (Applies P H)

/-- The point before the first block, at the given height: nothing is proposed, active or
pending. -/
def ReplayPoint.empty (height : ℕ) : ReplayPoint where
  next := height
  state := {}

/-- The blocks of a run have ascending heights, from that of its beginning to below that of its
end. -/
theorem heights_of_replayRun {P : ReplayParameters} {H : ParentHashing} {p p' : ReplayPoint}
    {ls : List AppliedBlock} (hrun : ReplayRun P H p ls p') :
    (ls.map (·.height)).Pairwise (· < ·) ∧ p.next ≤ p'.next ∧
      ∀ a ∈ ls, p.next ≤ a.height ∧ a.height < p'.next := by
  induction hrun with
  | nil => exact ⟨.nil, le_rfl, by simp⟩
  | @snoc ls q q' a _ hstep ih =>
    obtain ⟨hpair, hle, hbounds⟩ := ih
    have hnext : q'.next = q.next + 1 := by rw [hstep.next, hstep.height]
    refine ⟨?_, by omega, fun b hb => ?_⟩
    · rw [List.map_append, List.pairwise_append]
      refine ⟨hpair, List.pairwise_singleton _ _, fun h hh h' hh' => ?_⟩
      obtain ⟨b, hb, rfl⟩ := List.mem_map.1 hh
      obtain rfl : h' = a.height := by simpa using hh'
      rw [hstep.height]
      exact (hbounds b hb).2
    · rcases List.mem_append.1 hb with hb | hb
      · have := hbounds b hb
        omega
      · obtain rfl := List.mem_singleton.1 hb
        have := hstep.height
        omega

theorem slotState_empty (cfg slot : UInt8) :
    slotState ({} : DrivechainParentReplayState) cfg slot = {} := by
  unfold slotState
  split_ifs
  · rfl
  · simp

/-! ### Replaying a list of blocks -/

/-- Replay the given blocks as far as they are accepted. -/
def replay (P : ReplayParameters) (H : ParentHashing) : ReplayPoint → List CBlock →
    List AppliedBlock
  | _, [] => []
  | p, block :: blocks =>
    match applyDrivechainParentBlockState P H block p.next p.state with
    | .error _ => []
    | .ok r => { block := block, height := p.next, result := r } ::
        replay P H { next := p.next + 1, state := r.state } blocks

/-- The point after a list of accepted blocks. -/
def ReplayPoint.after (p : ReplayPoint) (ls : List AppliedBlock) : ReplayPoint :=
  (ls.getLast?.map fun a => { next := a.height + 1, state := a.result.state }).getD p

theorem ReplayPoint.after_cons (p : ReplayPoint) (a : AppliedBlock) (ls : List AppliedBlock) :
    p.after (a :: ls) =
      ReplayPoint.after { next := a.height + 1, state := a.result.state } ls := by
  cases ls with
  | nil => rfl
  | cons b ls =>
    rw [after, after, List.getLast?_cons_cons, List.getLast?_eq_some_getLast (by simp)]
    rfl

theorem ReplayRun.eq_after {P : ReplayParameters} {H : ParentHashing} {p p' : ReplayPoint}
    {ls : List AppliedBlock} (hrun : ReplayRun P H p ls p') : p' = p.after ls := by
  cases hrun with
  | nil => rfl
  | snoc _ hstep => rw [hstep.next]; simp [ReplayPoint.after]

theorem replayRun_replay (P : ReplayParameters) (H : ParentHashing) (p : ReplayPoint)
    (blocks : List CBlock) :
    ReplayRun P H p (replay P H p blocks) (p.after (replay P H p blocks)) := by
  induction blocks generalizing p with
  | nil => exact .nil
  | cons block blocks ih =>
    unfold replay
    split
    · exact .nil
    · case h_2 r hr =>
      rw [ReplayPoint.after_cons]
      have hfirst : ReplayRun P H p [{ block := block, height := p.next, result := r }]
          { next := p.next + 1, state := r.state } := .snoc .nil ⟨rfl, hr, rfl⟩
      exact hfirst.append (ih _)

/-! ### A small network

Parameters, hashes and blocks for the concrete cases of the results that follow: slot 24 is
proposed and activated, receives a deposit, and pays a withdrawal. -/

namespace Sample

/-- Hashes that tell the blocks and transactions below apart. -/
def hashing : ParentHashing where
  txid tx := .ofByte (UInt8.ofNat (8 * tx.nLockTime + tx.vin.length + 1))
  headerHash header := .ofByte (UInt8.ofNat (header.nNonce % 255 + 1))
  hash _ := .ofByte 7

/-- The constants of the small network. -/
def parameters : ReplayParameters where
  sidechainSlot := 24
  requiredActiveProposal := .ofByte 7
  unusedSlotProposalMaxAge := 4
  unusedSlotActivationThreshold := 1
  usedSlotProposalMaxAge := 4
  usedSlotActivationThreshold := 1
  withdrawalBundleMaxAge := 5
  withdrawalBundleInclusionThreshold := 1
  treasuryOpcode := .NOP8
  m6Rule := .SEQUENTIAL_M6

/-- An output that carries one message. -/
def message (payload : Bytes) : CTxOut where
  nValue := 0
  scriptPubKey := OP_RETURN :: UInt8.ofNat payload.length :: payload

/-- A treasury output of slot 24. -/
def treasury (value : ℤ) : CTxOut where
  nValue := value
  scriptPubKey := [0xb7, 0x01, 24, 0x51]

/-- The block with the given number after the one with the number before. -/
def block (number : ℕ) (messages : List Bytes) (transactions : List CTransaction) : CBlock where
  hashPrevBlock := .ofByte (UInt8.ofNat number)
  nNonce := number
  vtx := { vin := [{ prevout := { hash := 0, n := COutPoint.NULL_INDEX } }]
           vout := messages.map message } :: transactions

/-- Pays 1000 into the treasury. -/
def deposit : CTransaction where
  vin := [{ prevout := { hash := .ofByte 200, n := 0 } }]
  vout := [treasury 1000, message [1, 2, 3]]
  nLockTime := 1

/-- Takes 600 out of the treasury, of which 100 are the fee. -/
def withdrawal : CTransaction where
  vin := [{ prevout := { hash := .ofByte 10, n := 0 } }]
  vout := [treasury 400, { nValue := 500, scriptPubKey := [0x51] }]
  nLockTime := 2

/-- Proposes the sidechain. -/
def propose : CBlock := block 1 [M1_TAG ++ [24, 0]] []
/-- Acknowledges the proposal. -/
def acknowledge (number : ℕ) : CBlock :=
  block number [M2_TAG ++ [24] ++ (Uint256.ofByte 7).data] []
/-- Holds the deposit. -/
def depositBlock : CBlock := block 4 [] [deposit]
/-- Proposes the bundle of the withdrawal. -/
def bundleBlock : CBlock := block 5 [M3_TAG ++ [24] ++ (Uint256.ofByte 17).data] []
/-- Votes for the bundle. -/
def voteBlock : CBlock := block 6 [M4_TAG ++ [1, 0]] []
/-- Pays the bundle. -/
def withdrawalBlock : CBlock := block 7 [] [withdrawal]

/-- The whole chain. -/
def chain : List CBlock :=
  [propose, acknowledge 2, acknowledge 3, depositBlock, bundleBlock, voteBlock, withdrawalBlock]

/-- Its replay from height ten on. -/
def run : List AppliedBlock := replay parameters hashing (.empty 10) chain

theorem replayRun_run :
    ReplayRun parameters hashing (.empty 10) run ((ReplayPoint.empty 10).after run) :=
  replayRun_replay ..

end Sample

end ElementsDrivechain
