import Mathlib.Data.List.Chain
import ElementsDrivechain.Parent.Steps

/-!
# The chain of treasury outputs

The replay remembers only the latest treasury output of a slot.  On a parent chain where no output
is spent twice, or before it exists, this is enough: the treasury outputs of a slot form one chain,
in which each is spent by the transaction that creates the next, and the latest is unspent.

* `Linked.ctipChain` : successive treasury outputs are linked.
* `Linked.current` : the latest treasury output was created in the run and not spent since.
* `ctip_linear` : linearity for every active slot of every run.
-/

namespace ElementsDrivechain

/-- No output is spent twice, or before the transaction that creates it. -/
structure CausalChain (H : ParentHashing) (txs : List CTransaction) : Prop where
  once : txs.Pairwise fun tx tx' => ∀ o, Spends tx o → ¬Spends tx' o
  later : txs.Pairwise fun tx tx' => ∀ o, Spends tx o → o.hash ≠ H.txid tx'
  self : ∀ tx ∈ txs, ∀ o, Spends tx o → o.hash ≠ H.txid tx

theorem CausalChain.spender_unique {H : ParentHashing} {txs : List CTransaction}
    (h : CausalChain H txs) {tx tx' : CTransaction} (htx : tx ∈ txs) (htx' : tx' ∈ txs)
    {o : COutPoint} (ho : Spends tx o) (ho' : Spends tx' o) : tx = tx' := by
  let R : CTransaction → CTransaction → Prop :=
    fun tx tx' => ∀ o, Spends tx o → Spends tx' o → tx = tx'
  have : Std.Symm R := ⟨fun _ _ hs o ho ho' => (hs o ho' ho).symm⟩
  have hpair : txs.Pairwise R := h.once.imp fun hno o ho ho' => absurd ho' (hno o ho)
  exact hpair.forall_of_forall (fun _ _ _ _ _ => rfl) htx htx' o ho ho'

/-! ### One transaction -/

section Step

variable {P : ReplayParameters} {H : ParentHashing} {slot : UInt8} {step : TreasuryStep}

/-- What a transaction can do to the treasury output of a slot. -/
inductive CtipMove (P : ReplayParameters) (H : ParentHashing) (slot : UInt8)
    (step : TreasuryStep) : Prop
  | keep
      (ctip : (slotState step.after.state P.configuredSlot slot).ctip =
        (slotState step.before.state P.configuredSlot slot).ctip)
      (value : (slotState step.after.state P.configuredSlot slot).ctipValue =
        (slotState step.before.state P.configuredSlot slot).ctipValue)
      (unspent : (slotState step.before.state P.configuredSlot slot).activeProposalHash ≠ 0 →
        ∀ o, (slotState step.before.state P.configuredSlot slot).ctip = some o →
        ¬Spends step.transaction o)
  | replace (n : ℕ)
      (creates : CreatesTreasury P.treasuryOpcode step.transaction slot n)
      (ctip : (slotState step.after.state P.configuredSlot slot).ctip =
        some { hash := H.txid step.transaction, n := n })
      (value : (slotState step.after.state P.configuredSlot slot).ctipValue =
        step.transaction.outputValue n)
      (spent : ∀ o, (slotState step.before.state P.configuredSlot slot).ctip = some o →
        Spends step.transaction o)

/-- **A transaction keeps the treasury output of a slot or spends and replaces it.** -/
theorem TreasuryStep.Accepted.ctipMove {height : ℕ} {blockHash : Uint256} {requiredActive : Bool}
    (h : step.Accepted P H height blockHash requiredActive) (slot : UInt8) :
    CtipMove P H slot step := by
  have hdone := applyTreasuryTransaction_done h.not_mem h.applied
  by_cases hcreates : ∃ n,
      (slotState step.before.state P.configuredSlot slot).activeProposalHash ≠ 0 ∧
      CreatesTreasury P.treasuryOpcode step.transaction slot n
  · obtain ⟨n, hact, hn⟩ := hcreates
    obtain ⟨hctip, hvalue, -, -⟩ := hdone.created slot n hact hn
    exact .replace n hn hctip hvalue fun o ho => (hdone.spends slot o hact ho).2 ⟨n, hn⟩
  · obtain ⟨hctip, hvalue⟩ := hdone.untouched slot fun hact n hn => hcreates ⟨n, hact, hn⟩
    refine .keep hctip hvalue fun hact o ho hs => ?_
    obtain ⟨n, hn⟩ := (hdone.spends slot o hact ho).1 hs
    exact hcreates ⟨n, hact, hn⟩

end Step

/-! ### Linked transactions -/

/-- The transactions that replace the treasury output of a slot. -/
def ctipSteps (cfg slot : UInt8) (steps : List TreasuryStep) : List TreasuryStep :=
  steps.filter fun step =>
    (slotState step.after.state cfg slot).ctip ≠ (slotState step.before.state cfg slot).ctip

section Linked

variable {cfg slot : UInt8} {s t : DrivechainParentReplayState} {steps : List TreasuryStep}

/-- The treasury outputs of a slot along linked transactions. -/
structure CtipChain (cfg slot : UInt8) (s : DrivechainParentReplayState)
    (steps : List TreasuryStep) (t : DrivechainParentReplayState) : Prop where
  first : ∀ step ∈ (ctipSteps cfg slot steps).head?,
    (slotState step.before.state cfg slot).ctip = (slotState s cfg slot).ctip
  link : (ctipSteps cfg slot steps).IsChain fun step step' =>
    (slotState step'.before.state cfg slot).ctip = (slotState step.after.state cfg slot).ctip
  last : (slotState t cfg slot).ctip =
    ((ctipSteps cfg slot steps).getLast?.map fun step =>
      (slotState step.after.state cfg slot).ctip).getD (slotState s cfg slot).ctip

/-- **Successive treasury outputs are linked.** -/
theorem Linked.ctipChain (h : Linked cfg s steps t) (slot : UInt8) :
    CtipChain cfg slot s steps t := by
  induction h with
  | nil hsame => exact ⟨by simp [ctipSteps], .nil, (hsame slot).1⟩
  | @cons s t step steps hsame _ ih =>
    have hbefore := (hsame slot).1
    by_cases hkeep : (slotState step.after.state cfg slot).ctip =
        (slotState step.before.state cfg slot).ctip
    · have hsteps : ctipSteps cfg slot (step :: steps) = ctipSteps cfg slot steps :=
        List.filter_cons_of_neg (by simpa using hkeep)
      have hafter := hkeep.trans hbefore
      exact ⟨by rw [hsteps, ← hafter]; exact ih.first, by rw [hsteps]; exact ih.link,
        by rw [hsteps, ← hafter]; exact ih.last⟩
    · have hsteps : ctipSteps cfg slot (step :: steps) = step :: ctipSteps cfg slot steps :=
        List.filter_cons_of_pos (by simpa using hkeep)
      refine ⟨?_, ?_, ?_⟩
      · rw [hsteps]
        simpa using hbefore
      · rw [hsteps]
        exact ih.link.cons fun step' hstep' => ih.first step' hstep'
      · rw [hsteps, ih.last]
        cases hlist : ctipSteps cfg slot steps with
        | nil => rfl
        | cons step' rest =>
          rw [List.getLast?_cons_cons, List.getLast?_eq_some_getLast (by simp)]
          rfl

/-- The treasury output at the end of linked transactions, when the slot has never been left
without an active proposal: it was there from the beginning, or it was created on the way, and no
transaction since then has spent it. -/
theorem Linked.current {P : ReplayParameters} {H : ParentHashing} {o : COutPoint}
    (h : Linked P.configuredSlot s steps t)
    (hmove : ∀ step ∈ steps, CtipMove P H slot step)
    (hactive : ∀ step ∈ steps,
      (slotState step.before.state P.configuredSlot slot).ctip = none ∨
      (slotState step.before.state P.configuredSlot slot).activeProposalHash ≠ 0)
    (ho : (slotState t P.configuredSlot slot).ctip = some o) :
    ((slotState s P.configuredSlot slot).ctip = some o ∧
      (slotState t P.configuredSlot slot).ctipValue =
        (slotState s P.configuredSlot slot).ctipValue ∧
      ∀ step ∈ steps, ¬Spends step.transaction o) ∨
    ∃ l₁ step l₂, steps = l₁ ++ step :: l₂ ∧ H.txid step.transaction = o.hash ∧
      CreatesTreasury P.treasuryOpcode step.transaction slot o.n ∧
      (slotState t P.configuredSlot slot).ctipValue = step.transaction.outputValue o.n ∧
      ∀ step' ∈ l₂, ¬Spends step'.transaction o := by
  induction h with
  | nil hsame =>
    obtain ⟨hctip, hvalue⟩ := hsame slot
    exact .inl ⟨hctip.symm.trans ho, hvalue, by simp⟩
  | @cons s t step steps hsame _ ih =>
    rcases ih (fun u hu => hmove u (List.mem_cons_of_mem _ hu))
      (fun u hu => hactive u (List.mem_cons_of_mem _ hu)) ho with
      ⟨hctip, hvalue, hunspent⟩ | ⟨l₁, c, l₂, rfl, hrest⟩
    · obtain ⟨hbefore, hbeforeValue⟩ := hsame slot
      cases hmove step List.mem_cons_self with
      | keep hkeep hkeepValue hno =>
        have hcurrent := hkeep.symm.trans hctip
        refine .inl ⟨hbefore.symm.trans hcurrent, hvalue.trans (hkeepValue.trans hbeforeValue),
          List.forall_mem_cons.2 ⟨hno ?_ o hcurrent, hunspent⟩⟩
        rcases hactive step List.mem_cons_self with hnone | hact
        · rw [hcurrent] at hnone; simp at hnone
        · exact hact
      | replace n hcreates hnew hnewValue hspent =>
        obtain rfl := Option.some_inj.1 (hnew.symm.trans hctip)
        exact .inr ⟨[], step, steps, rfl, rfl, hcreates, hvalue.trans hnewValue, hunspent⟩
    · exact .inr ⟨step :: l₁, c, l₂, rfl, hrest⟩

theorem Linked.none {P : ReplayParameters} {H : ParentHashing}
    (h : Linked P.configuredSlot s steps t)
    (hmove : ∀ step ∈ steps, CtipMove P H slot step)
    (ht : (slotState t P.configuredSlot slot).ctip = none) :
    (slotState s P.configuredSlot slot).ctip = none ∧
      ∀ step ∈ steps, (slotState step.before.state P.configuredSlot slot).ctip = none := by
  induction h with
  | nil hsame => exact ⟨(hsame slot).1.symm.trans ht, by simp⟩
  | @cons s t step steps hsame _ ih =>
    obtain ⟨hafter, hrest⟩ := ih (fun u hu => hmove u (List.mem_cons_of_mem _ hu)) ht
    cases hmove step List.mem_cons_self with
    | keep hkeep _ _ =>
      have hbefore := hkeep.symm.trans hafter
      exact ⟨(hsame slot).1.symm.trans hbefore, List.forall_mem_cons.2 ⟨hbefore, hrest⟩⟩
    | replace n _ hnew _ _ => rw [hnew] at hafter; simp at hafter

end Linked

section Run

variable {P : ReplayParameters} {H : ParentHashing} {p p' : ReplayPoint} {ls : List AppliedBlock}
  {slot : UInt8}

theorem ctipMove_runSteps (hrun : ReplayRun P H p ls p') (slot : UInt8) :
    ∀ step ∈ runSteps P H p.state ls, CtipMove P H slot step := by
  intro step hstep
  obtain ⟨_, _, _, hacc⟩ := accepted_runSteps hrun step hstep
  exact hacc.ctipMove slot

/-- At the beginning of an accepted block only active slots have a treasury output. -/
theorem Applies.active_of_ctip {a : AppliedBlock} (h : Applies P H p a p') (slot : UInt8) :
    (slotState p.state P.configuredSlot slot).ctip = none ∨
      (slotState p.state P.configuredSlot slot).activeProposalHash ≠ 0 := by
  obtain ⟨t, T, hphases⟩ := applyDrivechainParentBlockState_eq_ok h.applied
  obtain ⟨-, hinit, -⟩ := applyMessages_eq_ok hphases.messages
  simp only [checkInitialState, Fallible.bind_eq_ok, Fallible.rejectIf_eq_ok] at hinit
  obtain ⟨_, hconfigured, _, -, _, -, _, hothers, -⟩ := hinit
  have hdata : ∀ data : DrivechainOtherSlotReplayState,
      ¬(data.activeProposalHash = 0 ∧ data.ctip.isSome) →
      data.ctip = none ∨ data.activeProposalHash ≠ 0 := by
    intro data hno
    cases hctip : data.ctip with
    | none => exact .inl rfl
    | some o => exact .inr fun hact => hno ⟨hact, by rw [hctip]; rfl⟩
  by_cases hs : slot = P.configuredSlot
  · rw [hs, slotState_configured]
    exact hdata _ (not_or.1 hconfigured).2
  · rw [slotState_of_ne hs]
    cases hget : p.state.otherSlots[slot]? with
    | none => exact .inl (by rw [Std.ExtTreeMap.getD_eq_getD_getElem?, hget]; rfl)
    | some data =>
      have hcheck := Fallible.forM_eq_ok.1 hothers (slot, data)
        (Std.ExtTreeMap.mem_toList_iff_getElem?_eq_some.2 hget)
      rw [Fallible.rejectIf_eq_ok, not_or, not_or] at hcheck
      rw [Std.ExtTreeMap.getD_eq_getD_getElem?, hget]
      exact hdata data hcheck.2.1

/-- A slot that is active in the end, or has no treasury output then, was active whenever it had
one. -/
theorem active_runSteps (hrun : ReplayRun P H p ls p')
    (hend : (slotState p'.state P.configuredSlot slot).ctip = none ∨
      (slotState p'.state P.configuredSlot slot).activeProposalHash ≠ 0) :
    ∀ step ∈ runSteps P H p.state ls,
      (slotState step.before.state P.configuredSlot slot).ctip = none ∨
      (slotState step.before.state P.configuredSlot slot).activeProposalHash ≠ 0 := by
  induction hrun with
  | nil => simp [runSteps]
  | @snoc ls q q' a hrun hstep ih =>
    have hspec := blockSteps_spec hstep.applied
    obtain ⟨requiredActive, hacc⟩ := hspec.accepted
    rw [runSteps_snoc hrun]
    refine fun step hmem => (List.mem_append.1 hmem).elim
      (ih (hstep.active_of_ctip slot) step) fun hmem => ?_
    rw [hstep.next] at hend
    rcases hend with hnone | hactive
    · have hmoves : ∀ step ∈ blockSteps P H a.block a.height q.state, CtipMove P H slot step :=
        fun step hs => (hacc step hs).ctipMove slot
      exact .inl ((hspec.linked.none hmoves hnone).2 step hmem)
    · exact .inr (by rw [hspec.active slot step hmem]; exact hactive)

/-- The treasury outputs of a slot form one chain: the first replaces none, each is spent exactly
by the transaction that creates the next, and the last, which is the recorded one, is an unspent
output of a transaction of the run, with the script of the slot and the recorded value. -/
structure CtipLinear (P : ReplayParameters) (H : ParentHashing) (ls : List AppliedBlock)
    (s : DrivechainParentReplayState) (slot : UInt8) (steps : List TreasuryStep) : Prop where
  creates : ∀ step ∈ steps, step.transaction ∈ runTransactions ls ∧
    ∃ n, CreatesTreasury P.treasuryOpcode step.transaction slot n ∧
      (slotState step.after.state P.configuredSlot slot).ctip =
        some { hash := H.txid step.transaction, n := n }
  first : ∀ step ∈ steps.head?, (slotState step.before.state P.configuredSlot slot).ctip = none
  link : steps.IsChain fun step step' =>
    (slotState step'.before.state P.configuredSlot slot).ctip =
      (slotState step.after.state P.configuredSlot slot).ctip ∧
    ∀ o, (slotState step.after.state P.configuredSlot slot).ctip = some o →
      ∀ tx ∈ runTransactions ls, Spends tx o ↔ tx = step'.transaction
  last : (slotState s P.configuredSlot slot).ctip =
    steps.getLast?.bind fun step => (slotState step.after.state P.configuredSlot slot).ctip
  current : ∀ o, (slotState s P.configuredSlot slot).ctip = some o →
    (∀ tx ∈ runTransactions ls, ¬Spends tx o) ∧
    ∃ tx ∈ runTransactions ls, H.txid tx = o.hash ∧
      CreatesTreasury P.treasuryOpcode tx slot o.n ∧
      (slotState s P.configuredSlot slot).ctipValue = tx.outputValue o.n

theorem mem_runTransactions_of_mem (hrun : ReplayRun P H p ls p') {step : TreasuryStep}
    (hstep : step ∈ runSteps P H p.state ls) : step.transaction ∈ runTransactions ls := by
  rw [← map_transaction_runSteps hrun]
  exact List.mem_map_of_mem hstep

theorem current_unspent {first : ℕ} (hrun : ReplayRun P H (.empty first) ls p')
    (hchain : CausalChain H (runTransactions ls))
    (hactive : (slotState p'.state P.configuredSlot slot).activeProposalHash ≠ 0)
    {o : COutPoint} (ho : (slotState p'.state P.configuredSlot slot).ctip = some o) :
    (∀ tx ∈ runTransactions ls, ¬Spends tx o) ∧
    ∃ tx ∈ runTransactions ls, H.txid tx = o.hash ∧
      CreatesTreasury P.treasuryOpcode tx slot o.n ∧
      (slotState p'.state P.configuredSlot slot).ctipValue = tx.outputValue o.n := by
  rcases (linked_runSteps hrun).current (ctipMove_runSteps hrun slot)
    (active_runSteps hrun (.inr hactive)) ho with ⟨hstart, -⟩ | ⟨l₁, step, l₂, hsteps, htxid,
      hcreates, hvalue, hunspent⟩
  · rw [ReplayPoint.empty, slotState_empty] at hstart
    simp at hstart
  · have htxs : runTransactions ls =
        l₁.map (·.transaction) ++ step.transaction :: l₂.map (·.transaction) := by
      rw [← map_transaction_runSteps hrun, hsteps, List.map_append, List.map_cons]
    refine ⟨fun tx htx hs => ?_, step.transaction, by simp [htxs], htxid, hcreates, hvalue⟩
    have hlater := hchain.later
    have hself := hchain.self tx htx o hs
    rw [htxs] at htx hlater
    -- before the creation the output does not exist, and afterwards nobody spends it
    rcases List.mem_append.1 htx with htx | htx
    · exact (List.pairwise_append.1 hlater).2.2 tx htx _ List.mem_cons_self o hs htxid.symm
    · rcases List.mem_cons.1 htx with rfl | htx
      · exact hself htxid.symm
      · obtain ⟨step', hstep', rfl⟩ := List.mem_map.1 htx
        exact hunspent step' hstep' hs

/-- The transactions that replace the treasury output of a slot form one chain. -/
theorem ctipLinear_of_active {first : ℕ} (hrun : ReplayRun P H (.empty first) ls p')
    (hchain : CausalChain H (runTransactions ls))
    (hactive : (slotState p'.state P.configuredSlot slot).activeProposalHash ≠ 0) :
    CtipLinear P H ls p'.state slot
      (ctipSteps P.configuredSlot slot (runSteps P H (ReplayPoint.empty first).state ls)) := by
  have hlinked := (linked_runSteps hrun).ctipChain slot
  have hempty : (slotState (ReplayPoint.empty first).state P.configuredSlot slot).ctip = none := by
    rw [ReplayPoint.empty, slotState_empty]
  have hreplace : ∀ step ∈ ctipSteps P.configuredSlot slot
      (runSteps P H (ReplayPoint.empty first).state ls),
      step.transaction ∈ runTransactions ls ∧
      (∃ n, CreatesTreasury P.treasuryOpcode step.transaction slot n ∧
        (slotState step.after.state P.configuredSlot slot).ctip =
          some { hash := H.txid step.transaction, n := n }) ∧
      ∀ o, (slotState step.before.state P.configuredSlot slot).ctip = some o →
        Spends step.transaction o := by
    intro step hstep
    obtain ⟨hmem, hne⟩ := List.mem_filter.1 hstep
    refine ⟨mem_runTransactions_of_mem hrun hmem, ?_⟩
    cases ctipMove_runSteps hrun slot step hmem with
    | keep hkeep _ _ => simp [hkeep] at hne
    | replace n hcreates hctip _ hspent => exact ⟨⟨n, hcreates, hctip⟩, hspent⟩
  refine ⟨fun step hstep => ⟨(hreplace step hstep).1, (hreplace step hstep).2.1⟩,
    fun step hstep => (hlinked.first step hstep).trans hempty, ?_, ?_,
    fun o ho => current_unspent hrun hchain hactive ho⟩
  · refine hlinked.link.imp_of_mem_tail_imp fun step step' _ hstep' hlink => ⟨hlink, ?_⟩
    obtain ⟨htx', -, hspent⟩ := hreplace step' (List.mem_of_mem_tail hstep')
    intro o ho tx htx
    have hspends := hspent o (hlink.trans ho)
    exact ⟨fun hs => hchain.spender_unique htx htx' hs hspends, fun heq => heq ▸ hspends⟩
  · rw [hlinked.last, hempty]
    cases (ctipSteps P.configuredSlot slot
      (runSteps P H (ReplayPoint.empty first).state ls)).getLast? <;> rfl

/-- **The treasury outputs of every active slot form one chain.**  A transaction creates a treasury
output of an active slot exactly if it spends the current one, where there is one, and it never
creates two. -/
theorem ctip_linear {first : ℕ} (hrun : ReplayRun P H (.empty first) ls p')
    (hchain : CausalChain H (runTransactions ls)) :
    (∀ slot, (slotState p'.state P.configuredSlot slot).activeProposalHash ≠ 0 →
      CtipLinear P H ls p'.state slot
        (ctipSteps P.configuredSlot slot (runSteps P H (ReplayPoint.empty first).state ls))) ∧
    ∀ step ∈ runSteps P H (ReplayPoint.empty first).state ls, ∀ slot,
      (slotState step.before.state P.configuredSlot slot).activeProposalHash ≠ 0 →
      (∀ o, (slotState step.before.state P.configuredSlot slot).ctip = some o →
        (Spends step.transaction o ↔
          ∃ n, CreatesTreasury P.treasuryOpcode step.transaction slot n)) ∧
      ∀ n n', CreatesTreasury P.treasuryOpcode step.transaction slot n →
        CreatesTreasury P.treasuryOpcode step.transaction slot n' → n = n' := by
  refine ⟨fun slot hactive => ctipLinear_of_active hrun hchain hactive,
    fun step hstep slot hactive => ?_⟩
  obtain ⟨_, _, _, hacc⟩ := accepted_runSteps hrun step hstep
  have hdone := applyTreasuryTransaction_done hacc.not_mem hacc.applied
  exact ⟨fun o => hdone.spends slot o hactive, fun n n' => hdone.unique slot n n' hactive⟩

open Sample

theorem ctip_linear_sample :
    (slotState ((ReplayPoint.empty 10).after run).state 24 24).activeProposalHash ≠ 0 ∧
    CtipLinear parameters hashing run
      ((ReplayPoint.empty 10).after run).state 24
      (ctipSteps 24 24 (runSteps parameters hashing {} run)) := by
  have hactive : (slotState ((ReplayPoint.empty 10).after run).state 24
      24).activeProposalHash ≠ 0 := by decide +kernel
  have htxs : runTransactions run = [deposit, withdrawal] := by decide +kernel
  have hchain : CausalChain hashing (runTransactions run) := by
    rw [htxs]
    refine ⟨?_, ?_, ?_⟩ <;> simp [Spends, deposit, withdrawal] <;> decide
  exact ⟨hactive, (ctip_linear replayRun_run hchain).1 24 hactive⟩

end Run

end ElementsDrivechain
