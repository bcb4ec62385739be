import ElementsDrivechain.Peg.Chainstate

/-!
# The peg is solvent

Whatever blocks are connected and disconnected, in whatever order, the active chain claims every
deposit at most once, pays it in full to its address, and mints nothing beside the deposits.  The
deposits are those that the replay of one parent chain has emitted: nodes may have replayed it to
different heights when they checked a claim.

* `PegInvariant.perform` : the marks are those of the active chain, after every event.
* `PegInvariant.disconnect_clean` : the last block can be disconnected whatever the parent chain has
  become.
* `peg_solvent` : after every run the peg is solvent.
* `peg_reorganizes` : after every run, disconnecting blocks takes back exactly their marks.
-/

namespace ElementsDrivechain

/-! ### Runs -/

/-- The active chain, first block first, and the marks of the chainstate. -/
structure PegState where
  active : List ChildBlock := []
  peginSpent : Finset PeginKey := ∅

/-- What happens to the active chain. -/
inductive PegEvent
  /-- A block is connected, or refused. -/
  | connect (env : ℕ → TxEnvironment) (block : ChildBlock)
  /-- The last block is disconnected, unless its undo is not clean; `otherwiseClean` is the answer
  for all but the peg-ins. -/
  | disconnect (parent : ℕ → ℕ → Session) (otherwiseClean : Bool)

section Run

variable (C : PegParameters) (H : ParentHashing)

/-- The state after an event.  A block that is refused leaves everything as it was. -/
def PegEvent.perform (s : PegState) : PegEvent → PegState
  | connect env block =>
    match connectBlock C H env block s.peginSpent with
    | .ok marks => { active := s.active ++ [block], peginSpent := marks }
    | .error _ => s
  | disconnect parent otherwiseClean =>
    match s.active.getLast? with
    | none => s
    | some block =>
      let undone := disconnectBlock C H parent block s.peginSpent
      if undone.1 = true ∧ otherwiseClean = true then
        { active := s.active.dropLast, peginSpent := undone.2 }
      else s

/-- The events happen one after another. -/
abbrev PegRun : PegState → List PegEvent → PegState → Prop :=
  Run fun s e s' => s' = e.perform C H s

/-- A node in the given state confirms a claim only when it has replayed a part of the given
blocks. -/
def AgainstChain (ls : List AppliedBlock) (parent : Session) : Prop :=
  ∀ claim, (depositStatus C.toDrivechainNetwork H parent claim).1 = .VALID →
    ∃ store done, done <+: ls ∧ parent.replay.store = some store ∧
      OneChain C.toDrivechainNetwork H done parent.replay.cache.tip store.records

/-- All verdicts of an event are against the given blocks. -/
def PegEvent.AgainstChain (ls : List AppliedBlock) : PegEvent → Prop
  | connect env _ => ∀ i j, ElementsDrivechain.AgainstChain C H ls ((env i).parent j)
  | disconnect _ _ => True

end Run

/-! ### Solvency -/

/-- The peg-in inputs of a chain. -/
def peginInputs (active : List ChildBlock) : List Child.InputAt := active.flatMap (·.pegins)

/-- What a peg-in input is worth. -/
def mintedValue (x : Child.InputAt) : ℤ :=
  ((getPeginOutputFromWitness x.stack).explicitValue).getD 0

/-- The one peg-in input of the transaction claims the deposit and pays it to its address. -/
structure PaysDeposit (C : PegParameters) (tx : Child.CTransaction) (x : Child.InputAt)
    (d : DrivechainMintableDeposit) : Prop where
  pegins : tx.pegins = [x]
  outpoint : d.outpoint = x.input.prevout
  value : d.value = mintedValue x
  claim : ∃ deposit, DepositTransaction C tx x deposit ∧ deposit.value = d.value ∧
    deposit.address = d.address ∧ deposit.mainchainBlockHash = d.blockHash

/-- **Solvency**: every parent output is claimed once at most, every transaction with a peg-in
input pays one of the deposits, and no more is minted than was deposited. -/
structure PegSolvent (C : PegParameters) (deposits : List DrivechainMintableDeposit)
    (active : List ChildBlock) : Prop where
  /-- No deposit is claimed twice. -/
  once : ((peginInputs active).map (·.input.prevout)).Nodup
  /-- Every peg-in pays a deposit. -/
  pays : ∀ block ∈ active, ∀ tx ∈ block.vtx, ∀ x ∈ tx.pegins,
    ∃ d ∈ deposits, PaysDeposit C tx x d
  /-- No more is minted than was deposited. -/
  backed : ((peginInputs active).map mintedValue).sum ≤ (deposits.map (·.value)).sum

/-! ### What a confirmed claim says -/

variable {deposits : List DrivechainMintableDeposit} {events : List PegEvent}

section Confirmed

variable {C : PegParameters} {H : ParentHashing} {ls : List AppliedBlock} {parent : Session}
  {env : TxEnvironment} {tx : Child.CTransaction} {nHeight : ℤ} {x : Child.InputAt}

/-- A confirmed claim is that of a deposit of the chain. -/
theorem AgainstChain.deposit (h : AgainstChain C H ls parent) {claim : DepositClaim}
    (hvalid : (depositStatus C.toDrivechainNetwork H parent claim).1 = .VALID) :
    ∃ d ∈ ls.flatMap (·.result.deposits), d.outpoint = claim.outpoint ∧
      d.blockHash = claim.mainchainBlockHash ∧ d.value = claim.value ∧
      d.address = claim.address := by
  obtain ⟨store, done, ⟨rest, rfl⟩, hstore, hchain⟩ := h claim hvalid
  obtain ⟨v, hv⟩ := depositStatus_returns C.toDrivechainNetwork H claim parent
  have hstatus : v.1 = .VALID := by
    rwa [depositStatus, hv] at hvalid
  rcases depositStatus_cases hv (by simp [hstatus]) with ⟨hinvalid, -⟩ | ⟨-, -, -, hanswered⟩
  · simp [hstatus] at hinvalid
  · rw [hstatus] at hanswered
    cases hanswered with
    | valid hstore' hread hnone =>
      obtain rfl := Option.some.inj (hstore.symm.trans hstore')
      obtain ⟨hd, houtpoint⟩ := (hchain.records.deposits _ _).1 hread
      rw [List.flatMap_append]
      exact ⟨_, List.mem_append_left _ hd, houtpoint, (depositRefusal_eq_none.1 hnone).1⟩

theorem AcceptedPegin.paysDeposit (h : AcceptedPegin C H env tx nHeight x)
    (hchain : AgainstChain C H ls (env.parent x.index)) (hx : x ∈ tx.pegins)
    (hnodup : (tx.pegins.map (·.key C)).Nodup) :
    ∃ d ∈ ls.flatMap (·.result.deposits), PaysDeposit C tx x d := by
  obtain ⟨deposit, htx, hvalid⟩ := h
  obtain ⟨d, hd, houtpoint, hblock, hvalue, haddress⟩ := hchain.deposit hvalid
  have hpegins : tx.pegins = [x] := by
    have hall : ∀ y ∈ tx.pegins, y = x := fun y hy =>
      htx.only y (Child.CTransaction.mem_pegins.1 hy).1 (Child.CTransaction.mem_pegins.1 hy).2
    have hreplicate := List.eq_replicate_of_mem hall
    rw [hreplicate, List.map_replicate, List.nodup_replicate] at hnodup
    have hpos := List.length_pos_of_mem hx
    rw [hreplicate, le_antisymm hnodup hpos]
    rfl
  refine ⟨d, hd, hpegins, houtpoint, ?_, deposit, htx, hvalue.symm, haddress.symm, hblock.symm⟩
  rw [mintedValue, Child.CTxOut.explicitValue, getPeginOutput_of_native htx.native]
  exact hvalue

end Confirmed

section Invariant

variable {C : PegParameters} {H : ParentHashing} {ls : List AppliedBlock} {s : PegState}
  {block : ChildBlock}

/-- The invariant of a run: the marks are those of the active chain, and every peg-in of the chain
pays a deposit. -/
structure PegInvariant (C : PegParameters) (deposits : List DrivechainMintableDeposit)
    (s : PegState) : Prop where
  marked : Marked C ∅ (peginInputs s.active) s.peginSpent
  coinbase : ∀ block ∈ s.active, ∀ tx ∈ block.vtx.head?, tx.IsCoinBase
  pays : ∀ block ∈ s.active, ∀ tx ∈ block.vtx, ∀ x ∈ tx.pegins,
    ∃ d ∈ deposits, PaysDeposit C tx x d

theorem PegInvariant.connect {env : ℕ → TxEnvironment} {marks : Finset PeginKey}
    (h : PegInvariant C (ls.flatMap (·.result.deposits)) s)
    (hchain : ∀ i j, AgainstChain C H ls ((env i).parent j))
    (hblock : BlockAccepted C H env block s.peginSpent marks) :
    PegInvariant C (ls.flatMap (·.result.deposits))
      { active := s.active ++ [block], peginSpent := marks } where
  marked := by
    rw [peginInputs, List.flatMap_append, List.flatMap_singleton]
    exact h.marked.append hblock.marked
  coinbase := by
    intro b hb
    rcases List.mem_append.1 hb with hb | hb
    · exact h.coinbase b hb
    · rw [List.mem_singleton.1 hb]
      exact hblock.coinbase
  pays := by
    intro b hb
    rcases List.mem_append.1 hb with hb | hb
    · exact h.pays b hb
    · rw [List.mem_singleton.1 hb]
      intro tx htx x hx
      obtain ⟨i, haccepted⟩ := hblock.accepted tx htx x hx
      -- the peg-ins of the transaction are among those of the block
      have hsub : tx.pegins.Sublist block.pegins := by
        obtain ⟨before, after, hvtx⟩ := List.append_of_mem htx
        rw [ChildBlock.pegins, hvtx, List.flatMap_append, List.flatMap_cons]
        exact (List.sublist_append_left ..).trans (List.sublist_append_right ..)
      exact haccepted.paysDeposit (hchain i x.index) hx (hblock.marked.nodup.sublist (hsub.map _))

theorem pegins_eq_tail (h : ∀ tx ∈ block.vtx.head?, tx.IsCoinBase) :
    block.pegins = block.vtx.tail.flatMap (·.pegins) := by
  unfold ChildBlock.pegins
  cases hvtx : block.vtx with
  | nil => rfl
  | cons tx txs =>
    rw [List.flatMap_cons, (h tx (by simp [hvtx])).pegins_eq_nil]
    rfl

theorem PegInvariant.disconnect {parent : ℕ → ℕ → Session} (h : PegInvariant C deposits s)
    (hlast : s.active.getLast? = some block)
    (hclean : (disconnectBlock C H parent block s.peginSpent).1 = true) :
    PegInvariant C deposits
      { active := s.active.dropLast
        peginSpent := (disconnectBlock C H parent block s.peginSpent).2 } := by
  obtain ⟨before, hactive⟩ : ∃ before, s.active = before ++ [block] :=
    List.getLast?_eq_some_iff.1 hlast
  have hpegins := pegins_eq_tail (h.coinbase block (by simp [hactive]))
  have hinputs : peginInputs s.active = peginInputs before ++ block.pegins := by
    simp [peginInputs, hactive]
  have hmarked := h.marked
  rw [hinputs] at hmarked
  have hnodup := hmarked.nodup
  rw [List.map_append, List.nodup_append] at hnodup
  refine ⟨⟨?_, by simp, ?_⟩, fun b hb => h.coinbase b (List.mem_of_mem_dropLast hb),
    fun b hb => h.pays b (List.mem_of_mem_dropLast hb)⟩
  · simp only [hactive, List.dropLast_concat]
    exact hnodup.1
  · -- the marks of the block are apart from those of the blocks before
    simp only [hactive, List.dropLast_concat]
    rw [(disconnectBlock_spec C H parent block s.peginSpent).eq hclean, ← hpegins, hmarked.eq]
    ext key
    simp only [List.map_append, Finset.mem_sdiff, Finset.mem_union, List.mem_toFinset,
      List.mem_append, Finset.notMem_empty, false_or]
    constructor
    · rintro ⟨hkey | hkey, hnot⟩
      · exact hkey
      · exact absurd hkey hnot
    · exact fun hkey => ⟨.inl hkey, fun hkey' => hnodup.2.2 key hkey key hkey' rfl⟩

/-- **Every event keeps the invariant.** -/
theorem PegInvariant.perform (h : PegInvariant C (ls.flatMap (·.result.deposits)) s)
    {e : PegEvent} (hchain : e.AgainstChain C H ls) :
    PegInvariant C (ls.flatMap (·.result.deposits)) (e.perform C H s) := by
  cases e with
  | connect env block =>
    simp only [PegEvent.perform]
    cases hconnect : connectBlock C H env block s.peginSpent with
    | ok marks => exact h.connect hchain (connectBlock_spec hconnect)
    | error e => exact h
  | disconnect parent otherwiseClean =>
    simp only [PegEvent.perform]
    cases hlast : s.active.getLast? with
    | none => exact h
    | some block =>
      dsimp only
      split_ifs with hclean
      · exact h.disconnect hlast hclean.1
      · exact h

theorem PaysDeposit.key_eq {tx : Child.CTransaction} {x : Child.InputAt}
    {d : DrivechainMintableDeposit} (h : PaysDeposit C tx x d) :
    x.key C = (x.input.prevout.hash, x.input.prevout) := by
  obtain ⟨deposit, hdeposit, -⟩ := h.claim
  exact getPeginSpentKey_of_native hdeposit.native

theorem PegInvariant.exists_deposit (h : PegInvariant C deposits s) {x : Child.InputAt}
    (hx : x ∈ peginInputs s.active) : ∃ d ∈ deposits, ∃ tx, PaysDeposit C tx x d := by
  simp only [peginInputs, ChildBlock.pegins, List.mem_flatMap] at hx
  obtain ⟨block, hblock, tx, htx, hx⟩ := hx
  obtain ⟨d, hd, hpays⟩ := h.pays block hblock tx htx x hx
  exact ⟨d, hd, tx, hpays⟩

/-- **The last block can always be disconnected**, also after the parent chain has lost its
deposits. -/
theorem PegInvariant.disconnect_clean (h : PegInvariant C deposits s) (parent : ℕ → ℕ → Session)
    (hlast : s.active.getLast? = some block) :
    (disconnectBlock C H parent block s.peginSpent).1 = true := by
  obtain ⟨before, hactive⟩ : ∃ before, s.active = before ++ [block] :=
    List.getLast?_eq_some_iff.1 hlast
  have hpegins := pegins_eq_tail (h.coinbase block (by simp [hactive]))
  have hsub : block.pegins.Sublist (peginInputs s.active) := by
    simp [peginInputs, hactive]
  refine disconnectBlock_clean C H parent ?_ ?_ <;> rw [← hpegins]
  · exact h.marked.nodup.sublist (hsub.map _)
  · intro x hx
    obtain ⟨d, -, tx, hpays⟩ := h.exists_deposit (hsub.subset hx)
    obtain ⟨deposit, hdeposit, -⟩ := hpays.claim
    refine ⟨isDrivechainDeposit_of_native hdeposit.native, ?_⟩
    rw [h.marked.eq]
    exact Finset.mem_union_right _
      (List.mem_toFinset.2 (List.mem_map_of_mem (hsub.subset hx)))

/-- A chain with just its own marks. -/
def PegState.ofChain (C : PegParameters) (active : List ChildBlock) : PegState where
  active := active
  peginSpent := ((peginInputs active).map (·.key C)).toFinset

theorem PegInvariant.eq_ofChain (h : PegInvariant C deposits s) : s = .ofChain C s.active := by
  have hmarks : s.peginSpent = ((peginInputs s.active).map (·.key C)).toFinset := by
    ext key
    simp [h.marked.eq]
  rw [PegState.ofChain, ← hmarks]

/-- Blocks are disconnected from the last one down, each with its own marks. -/
theorem PegInvariant.disconnects {before after : List ChildBlock} {parents : List (ℕ → ℕ → Session)}
    (h : PegInvariant C deposits s) (hactive : s.active = before ++ after)
    (hlength : parents.length = after.length) :
    PegRun C H s (parents.map fun parent => .disconnect parent true) (.ofChain C before) := by
  induction parents generalizing s after with
  | nil =>
    obtain rfl : after = [] := List.eq_nil_of_length_eq_zero hlength.symm
    rw [List.append_nil] at hactive
    rw [h.eq_ofChain, hactive]
    exact .nil
  | cons parent parents ih =>
    rcases List.eq_nil_or_concat' after with rfl | ⟨after, block, rfl⟩
    · simp at hlength
    · rw [← List.append_assoc] at hactive
      have hlast : s.active.getLast? = some block := by rw [hactive, List.getLast?_concat]
      have hclean := h.disconnect_clean (H := H) parent hlast
      have hdrop : s.active.dropLast = before ++ after := by rw [hactive, List.dropLast_concat]
      refine .cons (by simp only [PegEvent.perform, hlast, hclean, and_self, if_true])
        (ih (h.disconnect hlast hclean) hdrop ?_)
      simpa using hlength

theorem PegInvariant.of_run (hrun : PegRun C H {} events s)
    (hagainst : ∀ e ∈ events, e.AgainstChain C H ls) :
    PegInvariant C (ls.flatMap (·.result.deposits)) s := by
  refine hrun.history (fun _ => ?_) ?_ hagainst
  · exact ⟨.nil, by simp, by simp⟩
  · rintro events s e _ - ih rfl hall
    exact (ih fun e he => hall e (List.mem_append_left _ he)).perform (hall e (by simp))

/-- **The peg is solvent after every run.**  Whatever blocks are connected and disconnected, as
long as claims are only confirmed by parts of one parent chain: no parent output is claimed twice
by the active chain, every transaction with a peg-in input has just the one and pays exactly the
deposit to its address, and what the peg-ins mint is at most what was deposited. -/
theorem peg_solvent {tip : DrivechainParentReplayTip}
    (hchain : ParentChain C.parameters H (seedTip C.checkpoint.height C.checkpoint.hash) ls tip)
    (hrun : PegRun C H {} events s) (hagainst : ∀ e ∈ events, e.AgainstChain C H ls) :
    PegSolvent C (ls.flatMap (·.result.deposits)) s.active := by
  have hinv := PegInvariant.of_run hrun hagainst
  have honce : ((peginInputs s.active).map (·.input.prevout)).Nodup := by
    have hkeys : (peginInputs s.active).map (·.key C) =
        ((peginInputs s.active).map (·.input.prevout)).map fun o => (o.hash, o) := by
      rw [List.map_map]
      refine List.map_congr_left fun x hx => ?_
      obtain ⟨d, -, tx, hpays⟩ := hinv.exists_deposit hx
      exact hpays.key_eq
    exact List.Nodup.of_map _ (hkeys ▸ hinv.marked.nodup)
  refine ⟨honce, hinv.pays, Matching.sum_le_sum_of_keys (·.input.prevout) (·.outpoint) honce
    (fun x hx => ?_) fun d hd => ?_⟩
  · obtain ⟨d, hd, tx, hpays⟩ := hinv.exists_deposit hx
    exact ⟨d, hd, hpays.outpoint, hpays.value⟩
  · exact (ParentChain.deposit_money hchain hd).1.le

/-- **A reorganisation of the child chain takes back exactly what it disconnects.**  After any run
the marks of the node are those of its active chain, and any number of its last blocks can be
disconnected, whatever the parent chain has become since: the chain below them is left with just
its own marks. -/
theorem peg_reorganizes {before after : List ChildBlock} {parents : List (ℕ → ℕ → Session)}
    (hrun : PegRun C H {} events s) (hagainst : ∀ e ∈ events, e.AgainstChain C H ls)
    (hactive : s.active = before ++ after) (hlength : parents.length = after.length) :
    s = .ofChain C (before ++ after) ∧
      PegRun C H s (parents.map fun parent => .disconnect parent true) (.ofChain C before) := by
  have hinv := PegInvariant.of_run hrun hagainst
  exact ⟨hactive ▸ hinv.eq_ofChain, hinv.disconnects hactive hlength⟩

end Invariant

/-! ### A claim on the small network -/

namespace Sample

/-- A network with one valid address. -/
def pegParameters : PegParameters where
  toDrivechainNetwork := network
  peggedAsset := .ofByte 9
  scriptForDestination address := if address = [1, 2, 3] then some [0x52] else none
  parentTxid _ := none
  childTxid _ := 0

/-- Claims the deposit of the small network. -/
def claimTransaction : Child.CTransaction where
  vin := [{ prevout := { hash := .ofByte 10, n := 0 }, isPegin := true, index_le := by decide }]
  peginWitness := [[[0xe8, 0x03, 0, 0, 0, 0, 0, 0], (Uint256.ofByte 9).data,
    (Uint256.ofByte 2).data, [0x51], DRIVECHAIN_DEPOSIT_MARKER, (Uint256.ofByte 10).data,
    (Uint256.ofByte 5).data, [1, 2, 3]]]
  vout := [{ nAsset := .explicit (.ofByte 9), nValue := .explicit 1000, scriptPubKey := [0x52] }]

/-- A block that claims the deposit. -/
def claimBlock : ChildBlock where
  nHeight := 1
  vtx := [.emptyCoinbase 0, claimTransaction]

/-- A node that has replayed the small network up to the deposit. -/
def claimEnvironment (_ : ℕ) : TxEnvironment where
  accessCoin _ := none
  parent _ := depositSession upToDeposit.2
  verifyDeterministicDeposit _ := .error ""
  hasValidFee := true
  verifyAmounts _ := true
  feesInRange := true
  otherChecks := .ok ()

/-- The claim is connected, and a second one is refused. -/
def claimState : PegState :=
  (PegEvent.connect claimEnvironment claimBlock).perform pegParameters hashing
    ((PegEvent.connect claimEnvironment claimBlock).perform pegParameters hashing {})

theorem run_claim :
    PegRun pegParameters hashing {}
      [.connect claimEnvironment claimBlock, .connect claimEnvironment claimBlock] claimState :=
  .snoc (.snoc .nil rfl) rfl

theorem againstChain_claim :
    PegEvent.AgainstChain pegParameters hashing upToDeposit.1
      (.connect claimEnvironment claimBlock) := by
  intro i j claim _
  have hchain := oneChain_upToDeposit .nil
  rw [List.append_nil] at hchain
  exact ⟨_, _, List.prefix_rfl, rfl, hchain⟩

end Sample

open Sample

theorem peg_solvent_sample :
    (peginInputs claimState.active).map mintedValue = [1000] ∧
      PegSolvent pegParameters (upToDeposit.1.flatMap (·.result.deposits))
        claimState.active := by
  refine ⟨by decide +kernel, peg_solvent parentChain_upToDeposit run_claim ?_⟩
  simp only [List.mem_cons, List.not_mem_nil, or_false, or_self, forall_eq]
  exact againstChain_claim

theorem peg_reorganizes_sample :
    claimState.active.length = 1 ∧
    claimState = .ofChain pegParameters ([] ++ claimState.active) ∧
      PegRun pegParameters hashing claimState
        ([fun _ _ => depositSession beyondDeposit.2].map (.disconnect · true))
        (.ofChain pegParameters []) := by
  have hlength : claimState.active.length = 1 := by decide +kernel
  exact ⟨hlength, peg_reorganizes run_claim (List.forall_mem_cons.2
    ⟨againstChain_claim, List.forall_mem_singleton.2 againstChain_claim⟩) rfl
    hlength.symm⟩

end ElementsDrivechain
