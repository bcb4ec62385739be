import ElementsDrivechain.Parent.Ledger

/-!
# The deposits of a run

Every deposit that a run emits names the treasury output that its transaction created, so two
deposits name different outputs as long as transaction ids cannot be made to refer to each other in
a circle.

* `TreasuryStep.Accepted.depositOf` : every emitted deposit is the deposit of its transaction.
-/

namespace ElementsDrivechain

/-! ### One deposit -/

/-- The deposit of a transaction: the treasury output it has created, with the amount it adds. -/
structure DepositOf (H : ParentHashing) (height : ℕ) (blockHash : Uint256) (step : TreasuryStep)
    (d : DrivechainMintableDeposit) : Prop where
  ctip : step.after.state.ctip = some d.outpoint
  txid : d.outpoint.hash = H.txid step.transaction
  /-- The output after the treasury output exists; it holds the address. -/
  index : d.outpoint.n + 1 < step.transaction.vout.length
  blockHash : d.blockHash = blockHash
  blockHeight : d.blockHeight = height
  pos : 0 < d.value
  money : MoneyRange d.value
  address : d.address ≠ [] ∧ d.address.length ≤ 128
  /-- The treasury output that was there before is spent. -/
  spends (o : COutPoint) : step.before.state.ctip = some o → Spends step.transaction o

theorem moneyRange_of_wellFormed {ctip : Option COutPoint} {value : ℤ}
    (h : ¬CtipMalformed ctip value) : MoneyRange value := by
  cases ctip with
  | none => rw [ctipValue_eq_zero h rfl]; exact moneyRange_zero
  | some o =>
    unfold CtipMalformed at h
    push Not at h
    exact h.1 rfl

section Step

variable {P : ReplayParameters} {H : ParentHashing} {height : ℕ} {blockHash : Uint256}
  {requiredActive : Bool} {step : TreasuryStep}

theorem TreasuryStep.Accepted.deposits_eq (h : step.Accepted P H height blockHash requiredActive) :
    step.deposits = [] ∨ ∃ d, step.deposits = [d] := by
  obtain ⟨changes, -, hd | ⟨c, approved, -, hw⟩⟩ :=
    applyTreasuryTransaction_cases h.not_mem h.applied
  · rcases hd.deposits with heq | ⟨c, -, address, -, -, -, -, -, heq⟩
    · exact .inl (by simp [TreasuryStep.deposits, heq])
    · exact .inr ⟨_, by rw [TreasuryStep.deposits, heq]; exact List.drop_left⟩
  · exact .inl (by simp [TreasuryStep.deposits, hw.deposits])

/-- **Every emitted deposit is the deposit of its transaction.** -/
theorem TreasuryStep.Accepted.depositOf (h : step.Accepted P H height blockHash requiredActive)
    {d : DrivechainMintableDeposit} (hd : d ∈ step.deposits) :
    DepositOf H height blockHash step d := by
  obtain ⟨changes, hch, hcases⟩ := applyTreasuryTransaction_cases h.not_mem h.applied
  rw [TreasuryStep.deposits] at hd
  rcases hcases with hdep | ⟨c, approved, rfl, hw⟩
  · rcases hdep.deposits with heq | ⟨c, hc, address, hs, -, hne, hlen, hindex, heq⟩
    · simp [heq] at hd
    · obtain rfl : d = ElementsDrivechain.depositOf H height blockHash step.transaction c address :=
        by simpa [heq] using hd
      have hctip : step.after.state.ctip =
          some { hash := H.txid step.transaction, n := c.outputIndex } := by
        have := congrArg (·.ctip) (hdep.replaced c hc)
        rwa [hs, slotState_configured] at this
      have hinc := hdep.increase c hc
      have hold : MoneyRange c.oldValue := by
        rw [(hch.oldValue c hc).1]
        exact moneyRange_of_wellFormed (hch.wellFormed _ (hch.active c hc))
      have hspends := hch.spends c hc
      rw [hs, slotState_configured] at hspends
      exact ⟨hctip, rfl, hindex, rfl, rfl, Int.sub_pos_of_lt hinc,
        (hch.creates c hc).2.2.sub hold hinc.le, ⟨hne, hlen⟩, hspends⟩
  · simp [hw.deposits] at hd

end Step

/-! ### The order of transaction ids -/

/-- A rank of ids by which every transaction comes after those whose outputs it spends, as it is
when nobody can make two ids depend on each other. -/
def Acyclic (H : ParentHashing) (rank : Uint256 → ℕ) (txs : List CTransaction) : Prop :=
  ∀ tx ∈ txs, ∀ input ∈ tx.vin, rank input.prevout.hash < rank (H.txid tx)

/-- The treasury output of the configured slot is at least as recent as the given id. -/
def Covers (rank : Uint256 → ℕ) (s : DrivechainParentReplayState) (id : Uint256) : Prop :=
  ∃ o, s.ctip = some o ∧ rank id ≤ rank o.hash

section Order

variable {P : ReplayParameters} {H : ParentHashing} {rank : Uint256 → ℕ} {step : TreasuryStep}
  {steps : List TreasuryStep} {s t : DrivechainParentReplayState}

theorem SameTreasuries.covers {cfg : UInt8} (h : SameTreasuries cfg s t) {id : Uint256}
    (hs : Covers rank s id) : Covers rank t id := by
  obtain ⟨o, ho, hle⟩ := hs
  exact ⟨o, h.configured.1.trans ho, hle⟩

/-- A transaction replaces the treasury output by a more recent one or leaves it. -/
theorem TreasuryStep.Accepted.covers {height : ℕ} {blockHash : Uint256} {requiredActive : Bool}
    (h : step.Accepted P H height blockHash requiredActive)
    (hrank : Acyclic H rank [step.transaction]) {id : Uint256}
    (hs : Covers rank step.before.state id) : Covers rank step.after.state id := by
  have hdone := applyTreasuryTransaction_done h.not_mem h.applied
  obtain ⟨o, ho, hle⟩ := hs
  have ho' : (slotState step.before.state P.configuredSlot P.configuredSlot).ctip = some o := by
    rw [slotState_configured]; exact ho
  by_cases hcreates : ∃ n,
      (slotState step.before.state P.configuredSlot P.configuredSlot).activeProposalHash ≠ 0 ∧
      CreatesTreasury P.treasuryOpcode step.transaction P.configuredSlot n
  · obtain ⟨n, hact, hn⟩ := hcreates
    have hctip := (hdone.created P.configuredSlot n hact hn).1
    rw [slotState_configured] at hctip
    obtain ⟨input, hinput, rfl⟩ := (hdone.spends P.configuredSlot o hact ho').2 ⟨n, hn⟩
    exact ⟨_, hctip, hle.trans (hrank _ (by simp) input hinput).le⟩
  · have hsame := hdone.untouched P.configuredSlot fun hact n hn => hcreates ⟨n, hact, hn⟩
    rw [slotState_configured, slotState_configured] at hsame
    exact ⟨o, hsame.1.trans ho, hle⟩

/-- The deposits of linked transactions, and what they add to the outputs covered before. -/
structure DepositsOrdered (rank : Uint256 → ℕ) (s : DrivechainParentReplayState)
    (deposits : List DrivechainMintableDeposit) (t : DrivechainParentReplayState) : Prop where
  /-- What was covered stays covered. -/
  keeps (id : Uint256) : Covers rank s id → Covers rank t id
  /-- Every deposit is more recent than what was covered before. -/
  later (d : DrivechainMintableDeposit) : d ∈ deposits → ∀ id, Covers rank s id →
    rank id < rank d.outpoint.hash
  /-- Every deposit is covered afterwards. -/
  covered (d : DrivechainMintableDeposit) : d ∈ deposits → Covers rank t d.outpoint.hash
  ordered : deposits.Pairwise fun d d' => rank d.outpoint.hash < rank d'.outpoint.hash

theorem Linked.depositsOrdered (h : Linked P.configuredSlot s steps t)
    (hacc : ∀ step ∈ steps, ∃ height blockHash requiredActive,
      step.Accepted P H height blockHash requiredActive)
    (hrank : Acyclic H rank (steps.map (·.transaction))) :
    DepositsOrdered rank s (steps.flatMap (·.deposits)) t := by
  induction h with
  | nil hsame => exact ⟨fun _ => hsame.covers, by simp, by simp, .nil⟩
  | @cons s t step steps hsame _ ih =>
    obtain ⟨height, blockHash, requiredActive, hstep⟩ := hacc step List.mem_cons_self
    have hrest := ih (fun u hu => hacc u (List.mem_cons_of_mem _ hu))
      fun tx htx => hrank tx (List.mem_cons_of_mem _ htx)
    have hkeep : ∀ id, Covers rank s id → Covers rank step.after.state id := fun id hid =>
      hstep.covers (fun tx htx => hrank tx (by simp_all)) (hsame.covers hid)
    -- the transaction has at most one deposit, and it is the new treasury output
    have hnew : ∀ d ∈ step.deposits, Covers rank step.after.state d.outpoint.hash ∧
        ∀ id, Covers rank s id → rank id < rank d.outpoint.hash := by
      intro d hd
      have hof := hstep.depositOf hd
      refine ⟨⟨_, hof.ctip, le_rfl⟩, fun id hid => ?_⟩
      obtain ⟨o, ho, hle⟩ := hsame.covers hid
      obtain ⟨input, hinput, rfl⟩ := hof.spends o ho
      rw [hof.txid]
      exact hle.trans_lt (hrank _ (by simp) input hinput)
    have hsingle : step.deposits.Pairwise
        fun d d' => rank d.outpoint.hash < rank d'.outpoint.hash := by
      rcases hstep.deposits_eq with heq | ⟨d, heq⟩ <;> simp [heq]
    rw [List.flatMap_cons]
    refine ⟨fun id hid => hrest.keeps id (hkeep id hid), fun d hd id hid => ?_, fun d hd => ?_, ?_⟩
    · rcases List.mem_append.1 hd with hd | hd
      · exact (hnew d hd).2 id hid
      · exact hrest.later d hd id (hkeep id hid)
    · rcases List.mem_append.1 hd with hd | hd
      · exact hrest.keeps _ (hnew d hd).1
      · exact hrest.covered d hd
    · refine List.pairwise_append.2 ⟨hsingle, hrest.ordered, fun d hd d' hd' => ?_⟩
      exact hrest.later d' hd' _ (hnew d hd).1

end Order

end ElementsDrivechain
