import ElementsDrivechain.Parent.Run

/-!
# The transactions of a run

A run of the replay seen transaction by transaction.  Each accepted transaction after a coinbase is
a *step*, with what the loop over the block had recorded before and after it.  Between two steps,
whether they belong to one block or to two, no treasury changes.

* `blockSteps_spec` : the steps of an accepted block account for its transactions and for all it
  emits.
* `linked_runSteps` : the steps of a run are linked.
-/

namespace ElementsDrivechain

open Fallible

/-! ### Steps -/

/-- One accepted transaction, with the loop before and after it. -/
structure TreasuryStep where
  transaction : CTransaction
  before : TreasuryLoop
  after : TreasuryLoop

namespace TreasuryStep

/-- The deposits that the transaction has added. -/
def deposits (step : TreasuryStep) : List DrivechainMintableDeposit :=
  step.after.deposits.drop step.before.deposits.length

/-- The withdrawals that the transaction has added. -/
def withdrawals (step : TreasuryStep) : List DrivechainSuccessfulWithdrawal :=
  step.after.derivedWithdrawals.drop step.before.derivedWithdrawals.length

/-- The step is one of a block with the given height and hash. -/
structure Accepted (P : ReplayParameters) (H : ParentHashing) (height : ℕ) (blockHash : Uint256)
    (requiredActive : Bool) (step : TreasuryStep) : Prop where
  /-- The configured slot is kept apart from the others. -/
  not_mem : P.configuredSlot ∉ step.before.state.otherSlots
  applied : applyTreasuryTransaction P H height blockHash requiredActive step.before
    step.transaction = .ok step.after

end TreasuryStep

/-- The transactions of a list that are accepted one after the other, up to the first that is
not. -/
def treasurySteps (P : ReplayParameters) (H : ParentHashing) (height : ℕ) (blockHash : Uint256)
    (requiredActive : Bool) : TreasuryLoop → List CTransaction → List TreasuryStep
  | _, [] => []
  | T, tx :: txs =>
    match applyTreasuryTransaction P H height blockHash requiredActive T tx with
    | .error _ => []
    | .ok T' => { transaction := tx, before := T, after := T' } ::
        treasurySteps P H height blockHash requiredActive T' txs

/-- The steps of a block. -/
def blockSteps (P : ReplayParameters) (H : ParentHashing) (block : CBlock) (height : ℕ)
    (state : DrivechainParentReplayState) : List TreasuryStep :=
  match applyMessages P H block height state with
  | .error _ => []
  | .ok (t, _) => treasurySteps P H height (H.blockHash block) (requiredProposalActive P t)
      { state := t } block.transactions

/-- The steps of a run that begins in the given state. -/
def runSteps (P : ReplayParameters) (H : ParentHashing) :
    DrivechainParentReplayState → List AppliedBlock → List TreasuryStep
  | _, [] => []
  | state, a :: ls => blockSteps P H a.block a.height state ++ runSteps P H a.result.state ls

/-- The transactions, coinbases apart, of the blocks of a run. -/
def runTransactions (ls : List AppliedBlock) : List CTransaction :=
  ls.flatMap (·.block.transactions)

@[simp] theorem runTransactions_append (ls ls' : List AppliedBlock) :
    runTransactions (ls ++ ls') = runTransactions ls ++ runTransactions ls' :=
  List.flatMap_append

@[simp] theorem runTransactions_singleton (a : AppliedBlock) :
    runTransactions [a] = a.block.transactions := by
  simp [runTransactions]

/-! ### Links -/

/-- Every slot has the same treasury in both states. -/
def SameTreasuries (cfg : UInt8) (s t : DrivechainParentReplayState) : Prop :=
  ∀ slot, (slotState t cfg slot).ctip = (slotState s cfg slot).ctip ∧
    (slotState t cfg slot).ctipValue = (slotState s cfg slot).ctipValue

namespace SameTreasuries

variable {cfg : UInt8} {s t u : DrivechainParentReplayState}

theorem refl (cfg : UInt8) (s : DrivechainParentReplayState) : SameTreasuries cfg s s :=
  fun _ => ⟨rfl, rfl⟩

theorem trans (h : SameTreasuries cfg s t) (h' : SameTreasuries cfg t u) :
    SameTreasuries cfg s u :=
  fun slot => ⟨(h' slot).1.trans (h slot).1, (h' slot).2.trans (h slot).2⟩

theorem pruneSlots : SameTreasuries cfg s (pruneSlots s) :=
  fun slot => by rw [slotState_pruneSlots]; exact ⟨rfl, rfl⟩

theorem of_messages {P : ReplayParameters} {height : ℕ} {blockHash : Uint256}
    (h : MessagesDone P height blockHash s t) : SameTreasuries P.configuredSlot s t :=
  fun slot => ⟨h.ctip slot, h.ctipValue slot⟩

end SameTreasuries

/-- The steps lead from the treasuries of `s` to those of `t`, each taking up the treasuries where
the one before left them. -/
inductive Linked (cfg : UInt8) :
    DrivechainParentReplayState → List TreasuryStep → DrivechainParentReplayState → Prop
  | nil {s t : DrivechainParentReplayState} (h : SameTreasuries cfg s t) : Linked cfg s [] t
  | cons {s t : DrivechainParentReplayState} {step : TreasuryStep} {steps : List TreasuryStep}
      (h : SameTreasuries cfg s step.before.state) (rest : Linked cfg step.after.state steps t) :
      Linked cfg s (step :: steps) t

namespace Linked

variable {cfg : UInt8} {s t u : DrivechainParentReplayState} {steps steps' : List TreasuryStep}

theorem same_left (hs : SameTreasuries cfg s t) (h : Linked cfg t steps u) :
    Linked cfg s steps u := by
  cases h with
  | nil h => exact .nil (hs.trans h)
  | cons h rest => exact .cons (hs.trans h) rest

theorem same_right (h : Linked cfg s steps t) (ht : SameTreasuries cfg t u) :
    Linked cfg s steps u := by
  induction h with
  | nil h => exact .nil (h.trans ht)
  | cons h _ ih => exact .cons h (ih ht)

theorem append (h : Linked cfg s steps t) (h' : Linked cfg t steps' u) :
    Linked cfg s (steps ++ steps') u := by
  induction h with
  | nil h => exact h'.same_left h
  | cons h _ ih => exact .cons h (ih h')

end Linked

/-! ### The steps of a block -/

section Block

variable {P : ReplayParameters} {H : ParentHashing} {height : ℕ} {blockHash : Uint256}
  {requiredActive : Bool}

theorem TreasuryStep.Accepted.emitted {step : TreasuryStep}
    (h : step.Accepted P H height blockHash requiredActive) :
    step.after.deposits = step.before.deposits ++ step.deposits ∧
      step.after.derivedWithdrawals = step.before.derivedWithdrawals ++ step.withdrawals := by
  obtain ⟨changes, -, hcases⟩ := applyTreasuryTransaction_cases h.not_mem h.applied
  unfold TreasuryStep.deposits TreasuryStep.withdrawals
  rcases hcases with hd | ⟨c, approved, -, hw⟩
  · rw [hd.derivedWithdrawals]
    rcases hd.deposits with hdep | ⟨c, -, address, -, -, -, -, -, hdep⟩ <;> simp [hdep]
  · simp [hw.deposits, hw.derivedWithdrawals]

/-- The steps of a list of transactions that are all accepted. -/
structure StepsSpec (P : ReplayParameters) (H : ParentHashing) (height : ℕ) (blockHash : Uint256)
    (requiredActive : Bool) (T : TreasuryLoop) (txs : List CTransaction)
    (steps : List TreasuryStep) (T' : TreasuryLoop) : Prop where
  transactions : steps.map (·.transaction) = txs
  accepted (step : TreasuryStep) : step ∈ steps →
    step.Accepted P H height blockHash requiredActive
  linked : Linked P.configuredSlot T.state steps T'.state
  deposits : T'.deposits = T.deposits ++ steps.flatMap (·.deposits)
  withdrawals : T'.derivedWithdrawals = T.derivedWithdrawals ++ steps.flatMap (·.withdrawals)
  /-- The same slots are active all the time. -/
  active (slot : UInt8) : (slotState T'.state P.configuredSlot slot).activeProposalHash =
      (slotState T.state P.configuredSlot slot).activeProposalHash ∧
    ∀ step ∈ steps, (slotState step.before.state P.configuredSlot slot).activeProposalHash =
      (slotState T.state P.configuredSlot slot).activeProposalHash

theorem treasurySteps_spec {T T' : TreasuryLoop} {txs : List CTransaction}
    (hcfg : P.configuredSlot ∉ T.state.otherSlots)
    (h : txs.foldlM (applyTreasuryTransaction P H height blockHash requiredActive) T = .ok T') :
    StepsSpec P H height blockHash requiredActive T txs
      (treasurySteps P H height blockHash requiredActive T txs) T' := by
  induction txs generalizing T with
  | nil =>
    rw [← foldlM_nil_eq_ok.1 h]
    exact ⟨rfl, by simp [treasurySteps], .nil (.refl _ _), by simp [treasurySteps],
      by simp [treasurySteps], by simp [treasurySteps]⟩
  | cons tx txs ih =>
    obtain ⟨U, hU, hrest⟩ := foldlM_cons_eq_ok.1 h
    have hstep : TreasuryStep.Accepted P H height blockHash requiredActive
        { transaction := tx, before := T, after := U } := ⟨hcfg, hU⟩
    have hdone := applyTreasuryTransaction_done hcfg hU
    have hcfg' : P.configuredSlot ∉ U.state.otherSlots := fun hc =>
      hcfg (hdone.frame.mem_otherSlots.1 hc)
    have hspec := ih hcfg' hrest
    have hsteps : treasurySteps P H height blockHash requiredActive T (tx :: txs) =
        { transaction := tx, before := T, after := U } ::
          treasurySteps P H height blockHash requiredActive U txs := by
      rw [treasurySteps, hU]
    rw [hsteps]
    refine ⟨by rw [List.map_cons, hspec.transactions], ?_, .cons (.refl _ _) hspec.linked, ?_, ?_,
      fun slot => ?_⟩
    · intro step hmem
      rcases List.mem_cons.1 hmem with rfl | hmem
      · exact hstep
      · exact hspec.accepted step hmem
    · rw [hspec.deposits, hstep.emitted.1, List.flatMap_cons, List.append_assoc]
    · rw [hspec.withdrawals, hstep.emitted.2, List.flatMap_cons, List.append_assoc]
    · rw [← hdone.active slot]
      obtain ⟨hend, hbefore⟩ := hspec.active slot
      exact ⟨hend, List.forall_mem_cons.2 ⟨(hdone.active slot).symm, hbefore⟩⟩

variable {block : CBlock} {s t : DrivechainParentReplayState} {r : BlockResult} {T : TreasuryLoop}

/-- **The steps of an accepted block** are its transactions, and they emit what the block emits. -/
theorem BlockPhases.steps (h : BlockPhases P H block height s r t T) :
    StepsSpec P H height (H.blockHash block) (requiredProposalActive P t) { state := t }
      block.transactions (blockSteps P H block height s) T := by
  have hsteps : blockSteps P H block height s = treasurySteps P H height (H.blockHash block)
      (requiredProposalActive P t) { state := t } block.transactions := by
    rw [blockSteps, h.messages]
  rw [hsteps]
  exact treasurySteps_spec (applyMessages_done h.messages).not_mem h.transactions

/-- The steps of an accepted block, without its phases. -/
structure BlockStepsSpec (P : ReplayParameters) (H : ParentHashing) (block : CBlock) (height : ℕ)
    (s : DrivechainParentReplayState) (r : BlockResult) : Prop where
  transactions : (blockSteps P H block height s).map (·.transaction) = block.transactions
  accepted : ∃ requiredActive, ∀ step ∈ blockSteps P H block height s,
    step.Accepted P H height (H.blockHash block) requiredActive
  linked : Linked P.configuredSlot s (blockSteps P H block height s) r.state
  deposits : r.deposits = (blockSteps P H block height s).flatMap (·.deposits)
  withdrawals : r.successfulWithdrawals = (blockSteps P H block height s).flatMap (·.withdrawals)
  /-- The same slots are active before every step and after the block. -/
  active (slot : UInt8) (step : TreasuryStep) : step ∈ blockSteps P H block height s →
    (slotState step.before.state P.configuredSlot slot).activeProposalHash =
      (slotState r.state P.configuredSlot slot).activeProposalHash

theorem blockSteps_spec (h : applyDrivechainParentBlockState P H block height s = .ok r) :
    BlockStepsSpec P H block height s r := by
  obtain ⟨t, T, hphases⟩ := applyDrivechainParentBlockState_eq_ok h
  have hspec := hphases.steps
  refine ⟨hspec.transactions, ⟨_, hspec.accepted⟩, ?_, ?_, ?_, fun slot step hstep => ?_⟩
  · rw [hphases.state]
    exact (hspec.linked.same_right .pruneSlots).same_left
      (.of_messages (applyMessages_done hphases.messages))
  · rw [hphases.deposits, hspec.deposits]; rfl
  · rw [hphases.successfulWithdrawals, hspec.withdrawals]; rfl
  · rw [hphases.state, slotState_pruneSlots, (hspec.active slot).1]
    exact (hspec.active slot).2 step hstep

end Block

/-! ### The steps of a run -/

section Run

variable {P : ReplayParameters} {H : ParentHashing} {p p' : ReplayPoint} {ls : List AppliedBlock}

theorem runSteps_append (p : ReplayPoint) (ls ls' : List AppliedBlock) :
    runSteps P H p.state (ls ++ ls') =
      runSteps P H p.state ls ++ runSteps P H (p.after ls).state ls' := by
  induction ls generalizing p with
  | nil => rfl
  | cons a ls ih =>
    rw [List.cons_append, runSteps, runSteps, ReplayPoint.after_cons, List.append_assoc]
    exact congrArg _ (ih { next := a.height + 1, state := a.result.state })

theorem runSteps_snoc (hrun : ReplayRun P H p ls p') (a : AppliedBlock) :
    runSteps P H p.state (ls ++ [a]) =
      runSteps P H p.state ls ++ blockSteps P H a.block a.height p'.state := by
  rw [runSteps_append, ← hrun.eq_after]
  simp [runSteps]

/-- **The steps of a run are linked.** -/
theorem linked_runSteps (hrun : ReplayRun P H p ls p') :
    Linked P.configuredSlot p.state (runSteps P H p.state ls) p'.state := by
  induction hrun with
  | nil => exact .nil (.refl _ _)
  | snoc hrun hstep ih =>
    rw [runSteps_snoc hrun, hstep.next]
    exact ih.append (blockSteps_spec hstep.applied).linked

theorem map_transaction_runSteps (hrun : ReplayRun P H p ls p') :
    (runSteps P H p.state ls).map (·.transaction) = runTransactions ls := by
  induction hrun with
  | nil => rfl
  | snoc hrun hstep ih =>
    rw [runSteps_snoc hrun, List.map_append, ih, runTransactions_append, runTransactions_singleton,
      (blockSteps_spec hstep.applied).transactions]

theorem flatMap_deposits_runSteps (hrun : ReplayRun P H p ls p') :
    ls.flatMap (·.result.deposits) = (runSteps P H p.state ls).flatMap (·.deposits) := by
  induction hrun with
  | nil => rfl
  | snoc hrun hstep ih =>
    rw [runSteps_snoc hrun, List.flatMap_append, List.flatMap_append, ih, List.flatMap_singleton,
      (blockSteps_spec hstep.applied).deposits]

theorem flatMap_withdrawals_runSteps (hrun : ReplayRun P H p ls p') :
    ls.flatMap (·.result.successfulWithdrawals) =
      (runSteps P H p.state ls).flatMap (·.withdrawals) := by
  induction hrun with
  | nil => rfl
  | snoc hrun hstep ih =>
    rw [runSteps_snoc hrun, List.flatMap_append, List.flatMap_append, ih, List.flatMap_singleton,
      (blockSteps_spec hstep.applied).withdrawals]

theorem accepted_runSteps (hrun : ReplayRun P H p ls p') :
    ∀ step ∈ runSteps P H p.state ls, ∃ height blockHash requiredActive,
      step.Accepted P H height blockHash requiredActive := by
  induction hrun with
  | nil => simp [runSteps]
  | snoc hrun hstep ih =>
    rw [runSteps_snoc hrun]
    intro step hmem
    rcases List.mem_append.1 hmem with hmem | hmem
    · exact ih step hmem
    · obtain ⟨requiredActive, hacc⟩ := (blockSteps_spec hstep.applied).accepted
      exact ⟨_, _, _, hacc step hmem⟩

end Run

end ElementsDrivechain
