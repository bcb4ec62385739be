import Mathlib.Algebra.BigOperators.Group.List.Basic
import ElementsDrivechain.Parent.Steps

/-!
# The treasury ledger

The value recorded for the treasury of the configured slot, followed through a run.  Each accepted
transaction leaves it as it is, raises it and possibly emits the deposit of the difference, or
lowers it and emits one withdrawal.  Summing up, the sidechain can never be asked to mint more than
the treasury holds and has paid out.

* `TreasuryStep.Accepted.moves` : the three things an accepted transaction can do.
* `ledger_balanced` : the ledger of every run balances.
-/

namespace ElementsDrivechain

variable {s t : DrivechainParentReplayState} {P : ReplayParameters} {H : ParentHashing}
  {steps : List TreasuryStep}

/-- The value recorded for the treasury of the configured slot. -/
def treasuryValue (s : DrivechainParentReplayState) : ℤ :=
  if s.ctip.isSome then s.ctipValue else 0

/-- What a transaction adds to the treasury of the configured slot. -/
def TreasuryStep.delta (step : TreasuryStep) : ℤ :=
  treasuryValue step.after.state - treasuryValue step.before.state

/-- The transactions that raise the treasury of the configured slot. -/
def increases (steps : List TreasuryStep) : List TreasuryStep := steps.filter (0 < ·.delta)

/-- The transactions that lower it. -/
def decreases (steps : List TreasuryStep) : List TreasuryStep := steps.filter (·.delta < 0)

/-- By how much they raise it in all. -/
def totalIncrease (steps : List TreasuryStep) : ℤ := ((increases steps).map (·.delta)).sum

/-- By how much they lower it in all. -/
def totalDecrease (steps : List TreasuryStep) : ℤ := ((decreases steps).map (-·.delta)).sum

/-! ### One transaction -/

/-- What a transaction can do to the treasury of the configured slot. -/
inductive TreasuryStep.Moves (slot : UInt8) (step : TreasuryStep) : Prop
  | idle (hdelta : step.delta = 0) (hdeposits : step.deposits = [])
      (hwithdrawals : step.withdrawals.filter (·.sidechainSlot = slot) = [])
  | increase (hdelta : 0 < step.delta)
      (hdeposits : step.deposits = [] ∨ ∃ d, step.deposits = [d] ∧ d.value = step.delta)
      (hwithdrawals : step.withdrawals.filter (·.sidechainSlot = slot) = [])
  | decrease (hdelta : step.delta < 0) (hdeposits : step.deposits = [])
      (hwithdrawals : ∃ w, step.withdrawals.filter (·.sidechainSlot = slot) = [w])

section Step

variable {P : ReplayParameters} {H : ParentHashing} {height : ℕ} {blockHash : Uint256}
  {requiredActive : Bool} {step : TreasuryStep}

theorem treasuryValue_eq (h : ¬CtipMalformed s.ctip s.ctipValue) :
    treasuryValue s = s.ctipValue := by
  unfold treasuryValue
  split_ifs with hsome
  · rfl
  · exact (ctipValue_eq_zero h (by simpa using hsome)).symm

theorem moneyRange_treasuryValue (h : ¬CtipMalformed s.ctip s.ctipValue) :
    MoneyRange (treasuryValue s) := by
  unfold CtipMalformed at h
  unfold treasuryValue
  split_ifs with hsome
  · simp_all
  · exact moneyRange_zero

theorem SameTreasuries.configured {cfg : UInt8} (h : SameTreasuries cfg s t) :
    t.ctip = s.ctip ∧ t.ctipValue = s.ctipValue := by
  simpa [DrivechainParentReplayState.configuredData] using h cfg

theorem SameTreasuries.treasuryValue {cfg : UInt8} (h : SameTreasuries cfg s t) :
    ElementsDrivechain.treasuryValue t = ElementsDrivechain.treasuryValue s := by
  obtain ⟨hctip, hvalue⟩ := h.configured
  rw [ElementsDrivechain.treasuryValue, hctip, hvalue]
  rfl

theorem TreasuryStep.Accepted.wellFormed (h : step.Accepted P H height blockHash requiredActive)
    (hwf : ¬CtipMalformed step.before.state.ctip step.before.state.ctipValue) :
    ¬CtipMalformed step.after.state.ctip step.after.state.ctipValue := by
  have hdone := applyTreasuryTransaction_done h.not_mem h.applied
  by_cases hcreates : ∃ n, step.before.state.activeProposalHash ≠ 0 ∧
      CreatesTreasury P.treasuryOpcode step.transaction P.configuredSlot n
  · obtain ⟨n, hact, hn⟩ := hcreates
    obtain ⟨hctip, hvalue, hmoney, -⟩ := hdone.created P.configuredSlot n
      (by simpa [DrivechainParentReplayState.configuredData] using hact) hn
    simp only [slotState_configured, DrivechainParentReplayState.configuredData] at hctip hvalue
    rw [hctip, hvalue]
    simp [CtipMalformed, hmoney]
  · have hsame := hdone.untouched P.configuredSlot fun hact n hn => hcreates ⟨n, by
      simpa [DrivechainParentReplayState.configuredData] using hact, hn⟩
    simp only [slotState_configured, DrivechainParentReplayState.configuredData] at hsame
    rw [hsame.1, hsame.2]
    exact hwf

/-- The difference that a transaction makes, in terms of the recorded values. -/
theorem TreasuryStep.Accepted.delta_eq (h : step.Accepted P H height blockHash requiredActive)
    (hwf : ¬CtipMalformed step.before.state.ctip step.before.state.ctipValue) :
    step.delta = step.after.state.ctipValue - step.before.state.ctipValue := by
  rw [TreasuryStep.delta, treasuryValue_eq hwf, treasuryValue_eq (h.wellFormed hwf)]

/-- **An accepted transaction leaves the treasury as it is, raises it or lowers it.** -/
theorem TreasuryStep.Accepted.moves (h : step.Accepted P H height blockHash requiredActive)
    (hwf : ¬CtipMalformed step.before.state.ctip step.before.state.ctipValue) :
    step.Moves P.configuredSlot := by
  obtain ⟨changes, hch, hcases⟩ := applyTreasuryTransaction_cases h.not_mem h.applied
  have hdelta := h.delta_eq hwf
  have hold : ∀ c ∈ changes, c.slot = P.configuredSlot →
      c.oldValue = step.before.state.ctipValue := by
    intro c hc hs
    have := (hch.oldValue c hc).1
    rwa [hs, slotState_configured] at this
  rcases hcases with hd | ⟨c, approved, rfl, hw⟩
  · have hwithdrawals : step.withdrawals.filter (·.sidechainSlot = P.configuredSlot) = [] := by
      rw [TreasuryStep.withdrawals, hd.derivedWithdrawals]
      simp
    by_cases hs : P.configuredSlot ∈ changes.map (·.slot)
    · obtain ⟨c, hc, hs⟩ := List.mem_map.1 hs
      have hnew : step.after.state.ctipValue = c.newValue := by
        have := congrArg (·.ctipValue) (hd.replaced c hc)
        rwa [hs, slotState_configured] at this
      have hinc := hd.increase c hc
      rw [hold c hc hs] at hinc
      refine .increase (by omega) ?_ hwithdrawals
      rcases hd.deposits with hdep | ⟨c', hc', address, hs', -, -, -, -, hdep⟩
      · exact .inl (by simp [TreasuryStep.deposits, hdep])
      · obtain rfl := hch.eq_of_slot_eq hc' hc (hs'.trans hs.symm)
        refine .inr ⟨_, by simp [TreasuryStep.deposits, hdep]; rfl, ?_⟩
        rw [hdelta, hnew, ← hold c' hc hs]
        rfl
    · have hsame := hd.other P.configuredSlot hs
      simp only [slotState_configured] at hsame
      have hvalue : step.after.state.ctipValue = step.before.state.ctipValue :=
        congrArg (·.ctipValue) hsame
      refine .idle (by omega) ?_ hwithdrawals
      rcases hd.deposits with hdep | ⟨c', hc', address, hs', -⟩
      · simp [TreasuryStep.deposits, hdep]
      · exact absurd (List.mem_map.2 ⟨c', hc', hs'⟩) hs
  · have hdeposits : step.deposits = [] := by simp [TreasuryStep.deposits, hw.deposits]
    have hslot := hw.slot P.configuredSlot
    by_cases hs : P.configuredSlot = c.slot
    · rw [if_pos hs, slotState_configured] at hslot
      have hnew : step.after.state.ctipValue = c.newValue := congrArg (·.ctipValue) hslot
      have hdec := hw.decrease
      rw [hold c (by simp) hs.symm] at hdec
      refine .decrease (by omega) hdeposits
        ⟨{ sidechainSlot := c.slot, m6id := approved.m6id, blockHeight := height,
           blockHash := blockHash }, ?_⟩
      simp [TreasuryStep.withdrawals, hw.derivedWithdrawals, hs]
    · rw [if_neg hs, slotState_configured, slotState_configured] at hslot
      have hvalue : step.after.state.ctipValue = step.before.state.ctipValue :=
        congrArg (·.ctipValue) hslot
      refine .idle (by omega) hdeposits ?_
      simp [TreasuryStep.withdrawals, hw.derivedWithdrawals, Ne.symm hs]

end Step

/-! ### Lists of transactions -/

/-- Raising and lowering add up to the sum of all differences. -/
theorem sum_delta (steps : List TreasuryStep) :
    (steps.map (·.delta)).sum = totalIncrease steps - totalDecrease steps := by
  unfold totalIncrease totalDecrease increases decreases
  induction steps with
  | nil => rfl
  | cons step steps ih =>
    rw [List.map_cons, List.sum_cons, ih]
    rcases lt_trichotomy step.delta 0 with hlt | heq | hgt
    · rw [List.filter_cons_of_neg (by simpa using hlt.le), List.filter_cons_of_pos (by simpa)]
      simp only [List.map_cons, List.sum_cons]
      omega
    · rw [List.filter_cons_of_neg (by simp [heq]), List.filter_cons_of_neg (by simp [heq]), heq]
      omega
    · rw [List.filter_cons_of_pos (by simpa), List.filter_cons_of_neg (by simpa using hgt.le)]
      simp only [List.map_cons, List.sum_cons]
      omega

/-- The accepted transactions between two states with well-formed treasuries. -/
structure LedgerSteps (slot : UInt8) (s : DrivechainParentReplayState) (steps : List TreasuryStep)
    (t : DrivechainParentReplayState) : Prop where
  wellFormed : ¬CtipMalformed t.ctip t.ctipValue
  moves (step : TreasuryStep) : step ∈ steps → step.Moves slot
  /-- Every value on the way is a sum of money. -/
  money (step : TreasuryStep) : step ∈ steps →
    MoneyRange (treasuryValue step.before.state) ∧ MoneyRange (treasuryValue step.after.state)
  /-- The differences add up. -/
  value : treasuryValue t = treasuryValue s + (steps.map (·.delta)).sum

theorem Linked.ledgerSteps (h : Linked P.configuredSlot s steps t)
    (hacc : ∀ step ∈ steps, ∃ height blockHash requiredActive,
      step.Accepted P H height blockHash requiredActive) (hwf : ¬CtipMalformed s.ctip s.ctipValue) :
    LedgerSteps P.configuredSlot s steps t := by
  induction h with
  | nil hsame =>
    obtain ⟨hctip, hvalue⟩ := hsame.configured
    exact ⟨by rwa [hctip, hvalue], by simp, by simp, by simp [hsame.treasuryValue]⟩
  | @cons s t step steps hsame _ ih =>
    obtain ⟨height, blockHash, requiredActive, hstep⟩ := hacc step List.mem_cons_self
    obtain ⟨hctip, hvalue⟩ := hsame.configured
    have hbefore : ¬CtipMalformed step.before.state.ctip step.before.state.ctipValue := by
      rwa [hctip, hvalue]
    have hafter := hstep.wellFormed hbefore
    have hrest := ih (fun u hu => hacc u (List.mem_cons_of_mem _ hu)) hafter
    refine ⟨hrest.wellFormed, List.forall_mem_cons.2 ⟨hstep.moves hbefore, hrest.moves⟩,
      List.forall_mem_cons.2 ⟨⟨moneyRange_treasuryValue hbefore, moneyRange_treasuryValue hafter⟩,
        hrest.money⟩, ?_⟩
    rw [hrest.value, List.map_cons, List.sum_cons, TreasuryStep.delta, ← hsame.treasuryValue]
    omega

/-! ### Runs -/

/-- The ledger of a run from `s` to `t` with the given transactions, deposits and withdrawals. -/
structure LedgerBalanced (slot : UInt8) (s : DrivechainParentReplayState)
    (steps : List TreasuryStep) (t : DrivechainParentReplayState)
    (deposits : List DrivechainMintableDeposit)
    (withdrawals : List DrivechainSuccessfulWithdrawal) : Prop where
  /-- The value is the one at the beginning, plus all increases, minus all decreases. -/
  value : treasuryValue t = treasuryValue s + totalIncrease steps - totalDecrease steps
  /-- The deposits are matched with some of the increases, each of its own amount. -/
  depositsMatched : ∃ matched, matched.Sublist (increases steps) ∧
    List.Forall₂ (fun step d => step.deposits = [d] ∧ d.value = step.delta) matched deposits
  /-- The withdrawals of the slot are matched with all of the decreases. -/
  withdrawalsMatched : List.Forall₂
    (fun step w => step.withdrawals.filter (·.sidechainSlot = slot) = [w])
    (decreases steps) (withdrawals.filter (·.sidechainSlot = slot))
  /-- Every value on the way is a sum of money. -/
  money : MoneyRange (treasuryValue s) ∧ MoneyRange (treasuryValue t) ∧ ∀ step ∈ steps,
    MoneyRange (treasuryValue step.before.state) ∧ MoneyRange (treasuryValue step.after.state)
  /-- What may be minted is covered by the treasury and by what it has paid out. -/
  solvent : (deposits.map (·.value)).sum ≤ treasuryValue t + totalDecrease steps

/-- Deposits that are matched with some of the increases are at most the increases. -/
theorem sum_deposits_le {matched : List TreasuryStep} {deposits : List DrivechainMintableDeposit}
    (hsub : matched.Sublist (increases steps))
    (hmatch : List.Forall₂ (fun step d => step.deposits = [d] ∧ d.value = step.delta) matched
      deposits) : (deposits.map (·.value)).sum ≤ totalIncrease steps := by
  rw [← Matching.map_eq_map hmatch fun _ _ h => h.2.symm]
  refine (hsub.map (·.delta)).sum_le_sum fun d hd => ?_
  obtain ⟨step, hstep, rfl⟩ := List.mem_map.1 hd
  exact le_of_lt (by simpa using (List.mem_filter.1 hstep).2)

theorem Applies.wellFormed {p p' : ReplayPoint} {a : AppliedBlock} (h : Applies P H p a p') :
    ¬CtipMalformed a.result.state.ctip a.result.state.ctipValue := by
  obtain ⟨t, T, hphases⟩ := applyDrivechainParentBlockState_eq_ok h.applied
  obtain ⟨-, hinit, -⟩ := applyMessages_eq_ok hphases.messages
  simp only [checkInitialState, Fallible.bind_eq_ok, Fallible.rejectIf_eq_ok] at hinit
  obtain ⟨_, -, _, -, _, hwf, -⟩ := hinit
  have hspec := blockSteps_spec h.applied
  obtain ⟨requiredActive, hacc⟩ := hspec.accepted
  exact (hspec.linked.ledgerSteps (fun step hstep => ⟨_, _, _, hacc step hstep⟩) hwf).wellFormed

theorem LedgerSteps.depositsMatched {slot : UInt8} (h : LedgerSteps slot s steps t) :
    ∃ matched, matched.Sublist (increases steps) ∧
      List.Forall₂ (fun step d => step.deposits = [d] ∧ d.value = step.delta) matched
        (steps.flatMap (·.deposits)) := by
  refine Matching.flatMap_matched fun step hstep => ?_
  cases h.moves step hstep with
  | idle _ hd _ => exact .inl hd
  | increase hdelta hd _ => exact hd.imp_right fun hd => ⟨hdelta, hd⟩
  | decrease _ hd _ => exact .inl hd

/-- Each withdrawal of the slot belongs to the decrease that emitted it. -/
theorem LedgerSteps.withdrawalsMatched {slot : UInt8} (h : LedgerSteps slot s steps t) :
    List.Forall₂ (fun step w => step.withdrawals.filter (·.sidechainSlot = slot) = [w])
      (decreases steps) ((steps.flatMap (·.withdrawals)).filter (·.sidechainSlot = slot)) := by
  rw [List.filter_flatMap]
  refine (Matching.flatMap_matched_filter (R := fun _ _ => True) fun step hstep => ?_).imp
    fun _ _ h => h.1
  cases h.moves step hstep with
  | idle hdelta _ hw => exact .inl ⟨by omega, hw⟩
  | increase hdelta _ hw => exact .inl ⟨by omega, hw⟩
  | decrease hdelta _ hw => exact .inr ⟨hdelta, by simpa using hw⟩

/-- **The ledger of every run balances**, from any accepted block to any later one. -/
theorem ledger_balanced {p₀ p : ReplayPoint} {earlier later : List AppliedBlock} {a : AppliedBlock}
    (hrun : ReplayRun P H p₀ (earlier ++ a :: later) p) :
    LedgerBalanced P.configuredSlot a.result.state (runSteps P H a.result.state later) p.state
      (later.flatMap (·.result.deposits)) (later.flatMap (·.result.successfulWithdrawals)) := by
  rw [List.append_cons] at hrun
  obtain ⟨q, hfirst, hlater⟩ := hrun.split
  obtain ⟨_, -, happ⟩ := Run.snoc_iff.1 hfirst
  obtain rfl := happ.next
  have hsteps : LedgerSteps P.configuredSlot a.result.state
      (runSteps P H a.result.state later) p.state :=
    (linked_runSteps hlater).ledgerSteps (accepted_runSteps hlater) happ.wellFormed
  have hdeposits : later.flatMap (·.result.deposits) =
      (runSteps P H a.result.state later).flatMap (·.deposits) := flatMap_deposits_runSteps hlater
  have hwithdrawals : later.flatMap (·.result.successfulWithdrawals) =
      (runSteps P H a.result.state later).flatMap (·.withdrawals) :=
    flatMap_withdrawals_runSteps hlater
  have hvalue : treasuryValue p.state = treasuryValue a.result.state +
      totalIncrease (runSteps P H a.result.state later) -
      totalDecrease (runSteps P H a.result.state later) := by
    rw [hsteps.value, sum_delta]
    omega
  have hstart := moneyRange_treasuryValue happ.wellFormed
  rw [hdeposits, hwithdrawals]
  refine ⟨hvalue, hsteps.depositsMatched, hsteps.withdrawalsMatched,
    ⟨hstart, moneyRange_treasuryValue hsteps.wellFormed, hsteps.money⟩, ?_⟩
  obtain ⟨matched, hsub, hmatch⟩ := hsteps.depositsMatched
  have hle := sum_deposits_le hsub hmatch
  have hnonneg := hstart.nonneg
  omega

open Sample

theorem ledger_balanced_sample :
    ∃ a later, run = a :: later ∧
      LedgerBalanced 24 a.result.state
        (runSteps parameters hashing a.result.state later)
        ((ReplayPoint.empty 10).after run).state
        (later.flatMap (·.result.deposits)) (later.flatMap (·.result.successfulWithdrawals)) := by
  obtain ⟨a, later, hrun⟩ : ∃ a later, run = a :: later :=
    List.exists_cons_of_ne_nil (by decide +kernel)
  have hreplay := replayRun_run
  refine ⟨a, later, hrun, ?_⟩
  generalize (ReplayPoint.empty 10).after run = p at hreplay ⊢
  rw [hrun] at hreplay
  exact @ledger_balanced parameters _ _ p [] later a hreplay

end ElementsDrivechain
