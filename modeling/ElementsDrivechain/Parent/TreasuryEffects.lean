import ElementsDrivechain.Foundations.Matching
import ElementsDrivechain.Parent.Treasury

/-!
# What a transaction can do to the treasuries

The loop over the transactions of a block looks at the inputs and outputs of each of them.  This
file says once what an accepted transaction has done: which treasury outputs it replaces, that it
spends the old one exactly when it creates the new one, and what it emits.

* `ctipChanges_spec` : the list of replacements is sound and complete.
* `applyTreasuryTransaction_done` : the effect of an accepted transaction.
-/

namespace ElementsDrivechain

open Fallible

/-- The transaction has the output as one of its inputs. -/
def Spends (tx : CTransaction) (outpoint : COutPoint) : Prop :=
  ∃ input ∈ tx.vin, input.prevout = outpoint

/-- Output `n` of the transaction is a treasury output of the slot. -/
def CreatesTreasury (opcode : TreasuryOpcode) (tx : CTransaction) (slot : UInt8) (n : ℕ) : Prop :=
  ∃ output, tx.vout[n]? = some output ∧ extractTreasurySlot output.scriptPubKey opcode = some slot

section Loops

variable {s : DrivechainParentReplayState} {cfg : UInt8}

/-- The owners collected from a list of slots. -/
structure Owners (s : DrivechainParentReplayState) (cfg : UInt8) (slots : List UInt8)
    (owners : OrdMap COutPoint UInt8) : Prop where
  sound (o : COutPoint) (slot : UInt8) : owners[o]? = some slot →
    slot ∈ slots ∧ (slotState s cfg slot).ctip = some o
  complete (slot : UInt8) (o : COutPoint) : slot ∈ slots → (slotState s cfg slot).ctip = some o →
    owners[o]? = some slot
  wellFormed (slot : UInt8) : slot ∈ slots →
    ¬CtipMalformed (slotState s cfg slot).ctip (slotState s cfg slot).ctipValue

theorem collectOwner_fold {slots : List UInt8} {owners : OrdMap COutPoint UInt8}
    (h : slots.foldlM (collectOwner s cfg) ∅ = .ok owners) : Owners s cfg slots owners := by
  refine foldlM_induction h ⟨by simp, by simp, by simp⟩ ?_
  intro done slot u v _ hu hstep
  simp only [collectOwner, bind_eq_ok, rejectIf_eq_ok] at hstep
  obtain ⟨_, hwf, hstep⟩ := hstep
  have hwfs : ∀ slot' ∈ done ++ [slot],
      ¬CtipMalformed (slotState s cfg slot').ctip (slotState s cfg slot').ctipValue := by
    intro slot' hmem
    rcases List.mem_append.1 hmem with hmem | hmem
    · exact hu.wellFormed slot' hmem
    · rw [List.mem_singleton.1 hmem]; exact hwf
  split at hstep
  · case h_1 hnone =>
    rw [← pure_eq_ok.1 hstep]
    refine ⟨fun o slot' ho => ?_, fun slot' o hmem ho => ?_, hwfs⟩
    · exact ⟨List.mem_append_left _ (hu.sound o slot' ho).1, (hu.sound o slot' ho).2⟩
    · rcases List.mem_append.1 hmem with hmem | hmem
      · exact hu.complete slot' o hmem ho
      · rw [List.mem_singleton.1 hmem, hnone] at ho
        simp at ho
  · case h_2 ctip hctip =>
    simp only [bind_eq_ok, rejectIf_eq_ok, pure_eq_ok] at hstep
    obtain ⟨_, hfresh, rfl⟩ := hstep
    refine ⟨fun o slot' ho => ?_, fun slot' o hmem ho => ?_, hwfs⟩
    · rw [Std.ExtTreeMap.getElem?_insert] at ho
      split_ifs at ho with hcmp
      · obtain rfl := Std.LawfulEqOrd.eq_of_compare hcmp
        obtain rfl := Option.some_inj.1 ho
        exact ⟨by simp, hctip⟩
      · exact ⟨List.mem_append_left _ (hu.sound o slot' ho).1, (hu.sound o slot' ho).2⟩
    · rw [Std.ExtTreeMap.getElem?_insert]
      rcases List.mem_append.1 hmem with hmem | hmem
      · have hold := hu.complete slot' o hmem ho
        split_ifs with hcmp
        · obtain rfl := Std.LawfulEqOrd.eq_of_compare hcmp
          exact absurd (Std.ExtTreeMap.mem_iff_isSome_getElem?.2 (by rw [hold]; rfl)) hfresh
        · exact hold
      · obtain rfl := List.mem_singleton.1 hmem
        obtain rfl : ctip = o := by simpa [hctip] using ho
        simp

theorem countSpend_fold {owners : OrdMap COutPoint UInt8} {inputs : List CTxIn}
    {spends : OrdMap UInt8 ℕ} (h : inputs.foldlM (countSpend owners) ∅ = .ok spends)
    (slot : UInt8) : spends.getD slot 0 =
      inputs.countP (fun input => owners[input.prevout]? = some slot) := by
  refine foldlM_induction h (by simp) ?_
  intro done input u v _ hu hstep
  rw [List.countP_append, List.countP_singleton]
  simp only [countSpend] at hstep
  split at hstep
  · case h_1 hnone => rw [← pure_eq_ok.1 hstep, hu]; simp [hnone]
  · case h_2 slot' hslot' =>
    simp only [bind_eq_ok, rejectIf_eq_ok, pure_eq_ok] at hstep
    obtain ⟨_, -, rfl⟩ := hstep
    rw [Std.ExtTreeMap.getD_insert]
    by_cases hs : slot' = slot
    · subst hs; simp [hslot', hu]
    · simp [hs, hslot', hu]

/-- The treasury outputs collected from the front of the outputs of a transaction. -/
structure Created (opcode : TreasuryOpcode) (active : List UInt8) (outputs : List (CTxOut × ℕ))
    (created : OrdMap UInt8 ℕ) : Prop where
  sound (slot : UInt8) (n : ℕ) : created[slot]? = some n → slot ∈ active ∧
    ∃ output, (output, n) ∈ outputs ∧ MoneyRange output.nValue ∧
      extractTreasurySlot output.scriptPubKey opcode = some slot
  complete (output : CTxOut) (n : ℕ) (slot : UInt8) : (output, n) ∈ outputs → slot ∈ active →
    extractTreasurySlot output.scriptPubKey opcode = some slot → created[slot]? = some n

theorem collectTreasuryOutput_fold {opcode : TreasuryOpcode} {active : List UInt8}
    {outputs : List (CTxOut × ℕ)} {created : OrdMap UInt8 ℕ}
    (h : outputs.foldlM (collectTreasuryOutput opcode active) ∅ = .ok created) :
    Created opcode active outputs created := by
  refine foldlM_induction h ⟨by simp, by simp⟩ ?_
  rintro done ⟨output, n⟩ u v _ hu hstep
  have hold : ∀ slot k, u[slot]? = some k → slot ∈ active ∧
      ∃ o, (o, k) ∈ done ++ [(output, n)] ∧ MoneyRange o.nValue ∧
        extractTreasurySlot o.scriptPubKey opcode = some slot := by
    intro slot k hk
    obtain ⟨hactive, o, ho, hrest⟩ := hu.sound slot k hk
    exact ⟨hactive, o, List.mem_append_left _ ho, hrest⟩
  simp only [collectTreasuryOutput] at hstep
  split at hstep
  · case h_1 hnone =>
    rw [← pure_eq_ok.1 hstep]
    refine ⟨hold, fun o k slot hmem hactive hslot => ?_⟩
    rcases List.mem_append.1 hmem with hmem | hmem
    · exact hu.complete o k slot hmem hactive hslot
    · obtain ⟨rfl, rfl⟩ := Prod.mk.inj (List.mem_singleton.1 hmem)
      simp [hnone] at hslot
  · case h_2 slot' hslot' =>
    split_ifs at hstep with hactive'
    · simp only [bind_eq_ok, rejectIf_eq_ok, not_not, pure_eq_ok] at hstep
      obtain ⟨_, hmoney, _, hfresh, rfl⟩ := hstep
      refine ⟨fun slot k hk => ?_, fun o k slot hmem hactive hslot => ?_⟩
      · rw [Std.ExtTreeMap.getElem?_insert] at hk
        split_ifs at hk with hcmp
        · obtain rfl := Std.LawfulEqOrd.eq_of_compare hcmp
          obtain rfl := Option.some_inj.1 hk
          exact ⟨hactive', output, by simp, hmoney, hslot'⟩
        · exact hold slot k hk
      · rw [Std.ExtTreeMap.getElem?_insert]
        rcases List.mem_append.1 hmem with hmem | hmem
        · have hk := hu.complete o k slot hmem hactive hslot
          split_ifs with hcmp
          · obtain rfl := Std.LawfulEqOrd.eq_of_compare hcmp
            exact absurd (Std.ExtTreeMap.mem_iff_isSome_getElem?.2 (by rw [hk]; rfl)) hfresh
          · exact hk
        · obtain ⟨rfl, rfl⟩ := Prod.mk.inj (List.mem_singleton.1 hmem)
          obtain rfl : slot' = slot := by simpa [hslot'] using hslot
          simp
    · rw [← pure_eq_ok.1 hstep]
      refine ⟨hold, fun o k slot hmem hactive hslot => ?_⟩
      rcases List.mem_append.1 hmem with hmem | hmem
      · exact hu.complete o k slot hmem hactive hslot
      · obtain ⟨rfl, rfl⟩ := Prod.mk.inj (List.mem_singleton.1 hmem)
        obtain rfl : slot' = slot := by simpa [hslot'] using hslot
        exact absurd hactive hactive'

end Loops

/-! ### The replacements of a transaction -/

/-- The replacements that a transaction makes in a state: one for each active slot of which it
creates a treasury output, and then it spends the old one if there is one. -/
structure ChangesTreasuries (P : ReplayParameters) (s : DrivechainParentReplayState)
    (tx : CTransaction) (changes : List CtipChange) : Prop where
  nodup : (changes.map (·.slot)).Nodup
  active (c : CtipChange) : c ∈ changes →
    (slotState s P.configuredSlot c.slot).activeProposalHash ≠ 0
  creates (c : CtipChange) : c ∈ changes →
    CreatesTreasury P.treasuryOpcode tx c.slot c.outputIndex ∧
      c.newValue = tx.outputValue c.outputIndex ∧ MoneyRange c.newValue
  spends (c : CtipChange) : c ∈ changes → ∀ o,
    (slotState s P.configuredSlot c.slot).ctip = some o → Spends tx o
  oldValue (c : CtipChange) : c ∈ changes →
    c.oldValue = (slotState s P.configuredSlot c.slot).ctipValue ∧ c.newValue ≠ c.oldValue
  /-- Every treasury output of an active slot is a replacement, so there is only one for a slot. -/
  complete (slot : UInt8) (n : ℕ) :
    (slotState s P.configuredSlot slot).activeProposalHash ≠ 0 →
    CreatesTreasury P.treasuryOpcode tx slot n →
    ∃ c ∈ changes, c.slot = slot ∧ c.outputIndex = n
  /-- Whoever spends a current treasury output replaces it. -/
  replaced (slot : UInt8) (o : COutPoint) :
    (slotState s P.configuredSlot slot).activeProposalHash ≠ 0 →
    (slotState s P.configuredSlot slot).ctip = some o → Spends tx o →
    ∃ c ∈ changes, c.slot = slot
  wellFormed (slot : UInt8) : (slotState s P.configuredSlot slot).activeProposalHash ≠ 0 →
    ¬CtipMalformed (slotState s P.configuredSlot slot).ctip
      (slotState s P.configuredSlot slot).ctipValue

theorem CTransaction.outputValue_eq {tx : CTransaction} {n : ℕ} {output : CTxOut}
    (h : tx.vout[n]? = some output) : tx.outputValue n = output.nValue := by
  simp [CTransaction.outputValue, h]

theorem ctipValue_eq_zero {ctip : Option COutPoint} {value : ℤ} (h : ¬CtipMalformed ctip value)
    (hnone : ctip = none) : value = 0 := by
  unfold CtipMalformed at h
  push Not at h
  exact h.2 hnone

theorem ctipChanges_spec {P : ReplayParameters} {s : DrivechainParentReplayState}
    {tx : CTransaction} {changes : List CtipChange} (hcfg : P.configuredSlot ∉ s.otherSlots)
    (h : ctipChanges P s tx = .ok changes) : ChangesTreasuries P s tx changes := by
  simp only [ctipChanges, bind_eq_ok] at h
  obtain ⟨owners, howners, spends, hspends, created, hcreated, _, hreplaced, hchanges⟩ := h
  have hactive : ∀ slot, slot ∈ activeDrivechainSlots s P.configuredSlot ↔
      (slotState s P.configuredSlot slot).activeProposalHash ≠ 0 :=
    fun slot => mem_activeDrivechainSlots hcfg
  replace howners := collectOwner_fold howners
  replace hcreated := collectTreasuryOutput_fold hcreated
  replace hspends := countSpend_fold hspends
  replace hchanges := mapM_eq_ok.1 hchanges
  -- the treasury of an active slot is spent exactly when its count is not zero
  have hspent : ∀ slot o, slot ∈ activeDrivechainSlots s P.configuredSlot →
      (slotState s P.configuredSlot slot).ctip = some o →
      (spends.getD slot 0 ≠ 0 ↔ Spends tx o) := by
    intro slot o hslot ho
    rw [hspends, ← Nat.pos_iff_ne_zero, List.countP_pos_iff]
    constructor
    · rintro ⟨input, hinput, howner⟩
      have hctip := (howners.sound _ slot (by simpa using howner)).2
      exact ⟨input, hinput, by simpa [ho, eq_comm] using hctip⟩
    · rintro ⟨input, hinput, rfl⟩
      exact ⟨input, hinput, by simpa using howners.complete slot _ hslot ho⟩
  -- each replacement comes from one created output
  have hchange : ∀ (created : UInt8 × ℕ) (c : CtipChange),
      ctipChange s P.configuredSlot spends tx created = .ok c →
      created = (c.slot, c.outputIndex) ∧
      ((slotState s P.configuredSlot c.slot).ctip.isSome → spends.getD c.slot 0 ≠ 0) ∧
      c.oldValue = (if (slotState s P.configuredSlot c.slot).ctip.isSome
        then (slotState s P.configuredSlot c.slot).ctipValue else 0) ∧
      c.newValue = tx.outputValue c.outputIndex ∧ c.newValue ≠ c.oldValue := by
    rintro ⟨slot, n⟩ c hok
    simp only [ctipChange, bind_eq_ok, rejectIf_eq_ok, pure_eq_ok, not_and] at hok
    obtain ⟨_, hspend, _, hne, rfl⟩ := hok
    exact ⟨rfl, hspend, rfl, rfl, hne⟩
  have hmade : ∀ c ∈ changes, created[c.slot]? = some c.outputIndex ∧
      ctipChange s P.configuredSlot spends tx (c.slot, c.outputIndex) = .ok c := by
    intro c hc
    obtain ⟨a, ha, hok⟩ := Matching.exists_of_mem_right hchanges hc
    obtain rfl := (hchange a c hok).1
    exact ⟨Std.ExtTreeMap.mem_toList_iff_getElem?_eq_some.1 ha, hok⟩
  have hlisted : ∀ slot n, created[slot]? = some n →
      ∃ c ∈ changes, c.slot = slot ∧ c.outputIndex = n := by
    intro slot n hn
    obtain ⟨c, hc, hok⟩ := Matching.exists_of_mem_left hchanges
      (Std.ExtTreeMap.mem_toList_iff_getElem?_eq_some.2 hn)
    have heq := (hchange _ c hok).1
    exact ⟨c, hc, (congrArg Prod.fst heq).symm, (congrArg Prod.snd heq).symm⟩
  have hslots : changes.map (·.slot) = created.keys := by
    rw [← Std.ExtTreeMap.map_fst_toList_eq_keys]
    exact (Matching.map_eq_map hchanges fun a c hok => by rw [(hchange a c hok).1]).symm
  have hcreates : ∀ c ∈ changes, c.slot ∈ activeDrivechainSlots s P.configuredSlot ∧
      ∃ output, tx.vout[c.outputIndex]? = some output ∧ MoneyRange output.nValue ∧
        extractTreasurySlot output.scriptPubKey P.treasuryOpcode = some c.slot := by
    intro c hc
    obtain ⟨hact, output, hmem, hrest⟩ := hcreated.sound _ _ (hmade c hc).1
    exact ⟨hact, output, List.mk_mem_zipIdx_iff_getElem?.1 hmem, hrest⟩
  refine
    { nodup := by rw [hslots]; exact Std.ExtTreeMap.nodup_keys
      active := fun c hc => (hactive _).1 (hcreates c hc).1
      creates := fun c hc => ?_
      spends := fun c hc o ho => ?_
      oldValue := fun c hc => ?_
      complete := fun slot n hact hn => ?_
      replaced := fun slot o hact ho hs => ?_
      wellFormed := fun slot hact => howners.wellFormed slot ((hactive slot).2 hact) }
  · obtain ⟨-, output, hout, hmoney, hslot⟩ := hcreates c hc
    obtain ⟨-, -, -, hnew, -⟩ := hchange _ c (hmade c hc).2
    refine ⟨⟨output, hout, hslot⟩, hnew, ?_⟩
    rw [hnew, CTransaction.outputValue_eq hout]
    exact hmoney
  · obtain ⟨-, hspend, -⟩ := hchange _ c (hmade c hc).2
    exact (hspent c.slot o (hcreates c hc).1 ho).1 (hspend (by rw [ho]; rfl))
  · obtain ⟨-, -, hold, -, hne⟩ := hchange _ c (hmade c hc).2
    refine ⟨?_, hne⟩
    rw [hold]
    split_ifs with hsome
    · rfl
    · have hwf := howners.wellFormed c.slot (hcreates c hc).1
      exact (ctipValue_eq_zero hwf (by simpa using hsome)).symm
  · obtain ⟨output, hout, hslot⟩ := hn
    exact hlisted slot n (hcreated.complete output n slot (List.mk_mem_zipIdx_iff_getElem?.2 hout)
      ((hactive slot).2 hact) hslot)
  · have hslot := (hactive slot).2 hact
    have hcheck := forM_eq_ok.1 hreplaced (o, slot)
      (Std.ExtTreeMap.mem_toList_iff_getElem?_eq_some.2 (howners.complete slot o hslot ho))
    rw [rejectIf_eq_ok, not_and, not_not] at hcheck
    obtain ⟨n, hn⟩ := Option.isSome_iff_exists.1
      (Std.ExtTreeMap.mem_iff_isSome_getElem?.1 (hcheck ((hspent slot o hslot ho).2 hs)))
    obtain ⟨c, hc, hcs, -⟩ := hlisted slot n hn
    exact ⟨c, hc, hcs⟩

/-! ### Deposits and withdrawals -/

/-- The deposit that the increase of the configured slot's treasury emits. -/
def depositOf (H : ParentHashing) (height : ℕ) (blockHash : Uint256) (tx : CTransaction)
    (c : CtipChange) (address : Bytes) : DrivechainMintableDeposit where
  outpoint := { hash := H.txid tx, n := c.outputIndex }
  blockHash := blockHash
  blockHeight := height
  value := c.newValue - c.oldValue
  address := address

/-- The effect of a transaction that pays into treasuries (or touches none). -/
structure Deposited (P : ReplayParameters) (H : ParentHashing) (height : ℕ) (blockHash : Uint256)
    (requiredActive : Bool) (T : TreasuryLoop) (tx : CTransaction) (changes : List CtipChange)
    (T' : TreasuryLoop) : Prop where
  frame : SameFrame P.configuredSlot T.state T'.state
  replaced (c : CtipChange) : c ∈ changes → slotState T'.state P.configuredSlot c.slot =
    replaceCtip H tx c (slotState T.state P.configuredSlot c.slot)
  other (slot : UInt8) : slot ∉ changes.map (·.slot) →
    slotState T'.state P.configuredSlot slot = slotState T.state P.configuredSlot slot
  derivedWithdrawals : T'.derivedWithdrawals = T.derivedWithdrawals
  increase (c : CtipChange) : c ∈ changes → c.oldValue < c.newValue
  deposits : T'.deposits = T.deposits ∨ ∃ c ∈ changes, ∃ address, c.slot = P.configuredSlot ∧
    requiredActive = true ∧ address ≠ [] ∧ address.length ≤ 128 ∧
    c.outputIndex + 1 < tx.vout.length ∧
    T'.deposits = T.deposits ++ [depositOf H height blockHash tx c address]

/-- The effect of a transaction that pays an approved bundle. -/
structure Withdrawn (P : ReplayParameters) (H : ParentHashing) (height : ℕ) (blockHash : Uint256)
    (T : TreasuryLoop) (tx : CTransaction) (c : CtipChange) (approved : DrivechainPendingWithdrawal)
    (T' : TreasuryLoop) : Prop where
  decrease : c.newValue < c.oldValue
  pending : approved ∈ queue T.state P.configuredSlot c.slot
  votes : P.withdrawalBundleInclusionThreshold < approved.votes
  state : T'.state = updateSlot T.state P.configuredSlot c.slot fun data =>
    replaceCtip H tx c
      { data with
        pendingWithdrawals := data.pendingWithdrawals.eraseP (·.m6id = approved.m6id) }
  deposits : T'.deposits = T.deposits
  derivedWithdrawals : T'.derivedWithdrawals = T.derivedWithdrawals ++
    [{ sidechainSlot := c.slot, m6id := approved.m6id, blockHeight := height,
       blockHash := blockHash }]

section Transaction

variable {P : ReplayParameters} {H : ParentHashing} {height : ℕ} {blockHash : Uint256}
  {requiredActive : Bool} {T T' : TreasuryLoop} {tx : CTransaction} {changes : List CtipChange}

theorem applyM5_fold (hnodup : (changes.map (·.slot)).Nodup)
    (h : changes.foldlM (applyM5 P H height blockHash requiredActive tx) T = .ok T') :
    Deposited P H height blockHash requiredActive T tx changes T' := by
  refine foldlM_induction h
    ⟨.refl _, by simp, fun _ _ => rfl, rfl, by simp, .inl rfl⟩ ?_
  intro done c U V hpre hU hstep
  have hnew : c.slot ∉ done.map (·.slot) := by
    have hd := hnodup.sublist (hpre.sublist.map (·.slot))
    rw [List.map_append, List.map_singleton] at hd
    exact fun hmem => (List.nodup_append.1 hd).2.2 _ hmem _ (by simp) rfl
  simp only [applyM5] at hstep
  split at hstep
  · exact absurd hstep throw_ne_ok
  case h_2 address haddress =>
  simp only [bind_eq_ok, rejectIf_eq_ok, pure_eq_ok, not_or, not_le] at hstep
  obtain ⟨_, ⟨hdelta, -⟩, rfl⟩ := hstep
  refine
    { frame := hU.frame.trans .updateSlot
      replaced := fun c' hc' => ?_
      other := fun slot hslot => ?_
      derivedWithdrawals := hU.derivedWithdrawals
      increase := fun c' hc' => ?_
      deposits := ?_ }
  · rcases List.mem_append.1 hc' with hc' | hc'
    · have hne : c'.slot ≠ c.slot := fun he => hnew (he ▸ List.mem_map_of_mem hc')
      rw [slotState_updateSlot_of_ne hne]
      exact hU.replaced c' hc'
    · obtain rfl := List.mem_singleton.1 hc'
      rw [slotState_updateSlot_self, hU.other _ hnew]
  · rw [List.map_append, List.mem_append, not_or] at hslot
    rw [slotState_updateSlot_of_ne (by simpa using hslot.2)]
    exact hU.other slot hslot.1
  · rcases List.mem_append.1 hc' with hc' | hc'
    · exact hU.increase c' hc'
    · obtain rfl := List.mem_singleton.1 hc'
      omega
  · simp only
    split_ifs with hemit
    · -- only one replacement is of the configured slot, so nothing was emitted before
      obtain ⟨hcfg, hactive, haddr, hlen⟩ := hemit
      refine .inr ⟨c, by simp, address, hcfg, hactive, haddr, hlen, ?_, ?_⟩
      · by_contra hge
        rw [List.getElem?_eq_none (not_lt.1 hge)] at haddress
        simp at haddress
      · rcases hU.deposits with hd | ⟨c', hc', _, hcfg', -⟩
        · rw [hd]; rfl
        · exact absurd (hcfg.trans hcfg'.symm ▸ List.mem_map_of_mem hc') hnew
    · rcases hU.deposits with hd | ⟨c', hc', rest⟩
      · exact .inl hd
      · exact .inr ⟨c', List.mem_append_left _ hc', rest⟩

theorem applyM6_withdrawn {c : CtipChange} (hdec : c.newValue < c.oldValue)
    (h : applyM6 P H height blockHash tx T c = .ok T') :
    ∃ approved, Withdrawn P H height blockHash T tx c approved T' := by
  simp only [applyM6, bind_eq_ok, rejectIf_eq_ok] at h
  obtain ⟨_, -, ⟨m6id, slot⟩, -, _, hslot, h⟩ := h
  split at h
  · exact absurd h throw_ne_ok
  case h_2 approved happroved =>
  simp only [bind_eq_ok, rejectIf_eq_ok, pure_eq_ok, not_le] at h
  obtain ⟨_, hvotes, _, -, rfl⟩ := h
  obtain rfl : approved.m6id = m6id := by simpa using List.find?_some happroved
  obtain rfl : slot = c.slot := not_not.1 hslot
  exact ⟨approved, hdec, List.mem_of_find?_eq_some happroved, hvotes, rfl, rfl, rfl⟩

/-- **An accepted transaction pays into treasuries or takes one approved bundle out.** -/
theorem applyTreasuryTransaction_cases (hcfg : P.configuredSlot ∉ T.state.otherSlots)
    (h : applyTreasuryTransaction P H height blockHash requiredActive T tx = .ok T') :
    ∃ changes, ChangesTreasuries P T.state tx changes ∧
      (Deposited P H height blockHash requiredActive T tx changes T' ∨
        ∃ c approved, changes = [c] ∧ Withdrawn P H height blockHash T tx c approved T') := by
  simp only [applyTreasuryTransaction, bind_eq_ok] at h
  obtain ⟨changes, hchanges, h⟩ := h
  have hspec := ctipChanges_spec hcfg hchanges
  refine ⟨changes, hspec, ?_⟩
  split_ifs at h with hdec
  · exact .inl (applyM5_fold hspec.nodup h)
  · split at h
    · case h_1 c =>
      have hlt : c.newValue < c.oldValue := by
        by_contra hge
        simp [hge] at hdec
      obtain ⟨approved, hw⟩ := applyM6_withdrawn hlt h
      exact .inr ⟨c, approved, rfl, hw⟩
    · exact absurd h throw_ne_ok

/-- What transactions leave alone: which slots are active and their proposals; and bundles only
leave the queues. -/
structure TransactionsDone (P : ReplayParameters) (t u : DrivechainParentReplayState) : Prop where
  frame : SameFrame P.configuredSlot t u
  active (slot : UInt8) : (slotState u P.configuredSlot slot).activeProposalHash =
    (slotState t P.configuredSlot slot).activeProposalHash
  pendingProposals (slot : UInt8) : (slotState u P.configuredSlot slot).pendingProposals =
    (slotState t P.configuredSlot slot).pendingProposals
  sublist (slot : UInt8) : (queue u P.configuredSlot slot).Sublist (queue t P.configuredSlot slot)

/-- What every accepted transaction does to the slots, whether it deposits or withdraws. -/
structure TransactionDone (P : ReplayParameters) (H : ParentHashing) (T : TreasuryLoop)
    (tx : CTransaction) (T' : TreasuryLoop) : Prop extends
    TransactionsDone P T.state T'.state where
  /-- A slot of which the transaction creates no treasury output keeps its own. -/
  untouched (slot : UInt8) :
    ((slotState T.state P.configuredSlot slot).activeProposalHash ≠ 0 →
      ∀ n, ¬CreatesTreasury P.treasuryOpcode tx slot n) →
    (slotState T'.state P.configuredSlot slot).ctip =
        (slotState T.state P.configuredSlot slot).ctip ∧
      (slotState T'.state P.configuredSlot slot).ctipValue =
        (slotState T.state P.configuredSlot slot).ctipValue
  /-- An active slot takes the treasury output that the transaction creates. -/
  created (slot : UInt8) (n : ℕ) :
    (slotState T.state P.configuredSlot slot).activeProposalHash ≠ 0 →
    CreatesTreasury P.treasuryOpcode tx slot n →
    (slotState T'.state P.configuredSlot slot).ctip = some { hash := H.txid tx, n := n } ∧
      (slotState T'.state P.configuredSlot slot).ctipValue = tx.outputValue n ∧
      MoneyRange (tx.outputValue n) ∧
      tx.outputValue n ≠ (slotState T.state P.configuredSlot slot).ctipValue
  /-- It spends the old treasury output exactly when it creates a new one. -/
  spends (slot : UInt8) (o : COutPoint) :
    (slotState T.state P.configuredSlot slot).activeProposalHash ≠ 0 →
    (slotState T.state P.configuredSlot slot).ctip = some o →
    (Spends tx o ↔ ∃ n, CreatesTreasury P.treasuryOpcode tx slot n)
  unique (slot : UInt8) (n n' : ℕ) :
    (slotState T.state P.configuredSlot slot).activeProposalHash ≠ 0 →
    CreatesTreasury P.treasuryOpcode tx slot n → CreatesTreasury P.treasuryOpcode tx slot n' →
    n = n'

theorem ChangesTreasuries.eq_of_slot_eq {s : DrivechainParentReplayState}
    (h : ChangesTreasuries P s tx changes) {c c' : CtipChange} (hc : c ∈ changes)
    (hc' : c' ∈ changes) (hs : c.slot = c'.slot) : c = c' :=
  List.inj_on_of_nodup_map h.nodup hc hc' hs

theorem Withdrawn.slot {c : CtipChange} {approved : DrivechainPendingWithdrawal}
    (h : Withdrawn P H height blockHash T tx c approved T') (slot : UInt8) :
    slotState T'.state P.configuredSlot slot =
      if slot = c.slot then
        replaceCtip H tx c { slotState T.state P.configuredSlot slot with
          pendingWithdrawals := (queue T.state P.configuredSlot slot).eraseP
            (·.m6id = approved.m6id) }
      else slotState T.state P.configuredSlot slot := by
  rw [h.state, slotState_updateSlot]
  split_ifs with hs
  · subst hs; rfl
  · rfl

theorem applyTreasuryTransaction_done (hcfg : P.configuredSlot ∉ T.state.otherSlots)
    (h : applyTreasuryTransaction P H height blockHash requiredActive T tx = .ok T') :
    TransactionDone P H T tx T' := by
  obtain ⟨changes, hch, hcases⟩ := applyTreasuryTransaction_cases hcfg h
  -- both kinds of transaction change a slot by a replacement or not at all
  have hslot : ∀ slot, (slot ∉ changes.map (·.slot) ∧
        slotState T'.state P.configuredSlot slot = slotState T.state P.configuredSlot slot) ∨
      ∃ c ∈ changes, ∃ queue', c.slot = slot ∧
        queue'.Sublist (queue T.state P.configuredSlot slot) ∧
        slotState T'.state P.configuredSlot slot = replaceCtip H tx c
          { slotState T.state P.configuredSlot slot with pendingWithdrawals := queue' } := by
    intro slot
    rcases hcases with hd | ⟨c, approved, rfl, hw⟩
    · by_cases hs : slot ∈ changes.map (·.slot)
      · obtain ⟨c, hc, rfl⟩ := List.mem_map.1 hs
        exact .inr ⟨c, hc, _, rfl, .refl _, hd.replaced c hc⟩
      · exact .inl ⟨hs, hd.other slot hs⟩
    · by_cases hs : slot = c.slot
      · exact .inr ⟨c, by simp, _, hs.symm, List.eraseP_sublist, by rw [hw.slot, if_pos hs]⟩
      · exact .inl ⟨by simpa using hs, by rw [hw.slot, if_neg hs]⟩
  have hframe : SameFrame P.configuredSlot T.state T'.state := by
    rcases hcases with hd | ⟨c, approved, -, hw⟩
    · exact hd.frame
    · rw [hw.state]; exact .updateSlot
  refine
    { frame := hframe
      active := fun slot => ?_
      pendingProposals := fun slot => ?_
      sublist := fun slot => ?_
      untouched := fun slot hno => ?_
      created := fun slot n hact hn => ?_
      spends := fun slot o hact ho => ⟨fun hs => ?_, fun ⟨n, hn⟩ => ?_⟩
      unique := fun slot n n' hact hn hn' => ?_ }
  · rcases hslot slot with ⟨-, heq⟩ | ⟨c, -, _, -, -, heq⟩
    · rw [heq]
    · rw [heq]; rfl
  · rcases hslot slot with ⟨-, heq⟩ | ⟨c, -, _, -, -, heq⟩
    · rw [heq]
    · rw [heq]; rfl
  · rcases hslot slot with ⟨-, heq⟩ | ⟨c, -, _, -, hsub, heq⟩
    · rw [queue, heq]
    · rw [queue, heq]; exact hsub
  · rcases hslot slot with ⟨-, heq⟩ | ⟨c, hc, _, rfl, -, -⟩
    · rw [heq]; exact ⟨rfl, rfl⟩
    · exact absurd (hch.creates c hc).1 (hno (hch.active c hc) _)
  · obtain ⟨c, hc, rfl, rfl⟩ := hch.complete slot n hact hn
    rcases hslot c.slot with ⟨hnot, -⟩ | ⟨c', hc', _, hs, -, heq⟩
    · exact absurd (List.mem_map_of_mem hc) hnot
    · obtain rfl := hch.eq_of_slot_eq hc' hc hs
      obtain ⟨-, hnew, hmoney⟩ := hch.creates c' hc
      obtain ⟨hold, hne⟩ := hch.oldValue c' hc
      rw [heq, ← hnew, ← hold]
      exact ⟨rfl, rfl, hmoney, hne⟩
  · obtain ⟨c, hc, rfl⟩ := hch.replaced slot o hact ho hs
    exact ⟨_, (hch.creates c hc).1⟩
  · obtain ⟨c, hc, rfl, -⟩ := hch.complete slot n hact hn
    exact hch.spends c hc o ho
  · obtain ⟨c, hc, rfl, rfl⟩ := hch.complete slot n hact hn
    obtain ⟨c', hc', hs, rfl⟩ := hch.complete c.slot n' hact hn'
    rw [hch.eq_of_slot_eq hc' hc hs]

end Transaction

end ElementsDrivechain
