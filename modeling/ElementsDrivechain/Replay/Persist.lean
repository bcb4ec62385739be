import ElementsDrivechain.Foundations.Maps
import ElementsDrivechain.Parent.Deposits
import ElementsDrivechain.Parent.Serialization
import ElementsDrivechain.Parent.Withdrawals
import ElementsDrivechain.Replay.Sane
import ElementsDrivechain.Replay.Store

/-!
# Persisting the replay

Each accepted parent block is handed to the store with the tip it extends, what it emitted and the
edge to its predecessor.  The store has checks of its own.  This file compares the two: of the
blocks that the replay accepts, the store refuses exactly those whose merged-mining commitment for
the configured slot is the null hash.

* `PersistRun.held` : the store holds the tip of the replay and nothing that comes after it.
* `append_succeeds_iff` : which accepted blocks are persisted.
-/

namespace ElementsDrivechain

open Fallible

/-! ### Handing a block to the store -/

/-- The edge from the previous parent block to an accepted one above the checkpoint. -/
def replayedEdge (P : ReplayParameters) (H : ParentHashing) (checkpointHeight : ℕ)
    (parentHash : Uint256) (block : CBlock) (height : ℕ) :
    Option (Uint256 × DrivechainReplayedBmmEdge) :=
  if height > checkpointHeight then
    let commitment := extractCanonicalDrivechainBmmCommitmentInBlock block P.sidechainSlot
    some (parentHash,
      { successorHash := H.blockHash block
        parentHeight := height - 1
        successorHeight := height
        hasCanonicalCommitment := commitment.isOk
        committedSidechainHash := commitment.toOption.getD 0 })
  else none

/-- An accepted block as it is handed to the store. -/
def appendOf (P : ReplayParameters) (H : ParentHashing) (checkpointHeight : ℕ)
    (tip : DrivechainParentReplayTip) (a : AppliedBlock) : ReplayAppend where
  previous := tip
  next := { height := a.height, hash := H.blockHash a.block, state := a.result.state }
  deposits := a.result.deposits
  edge := replayedEdge P H checkpointHeight tip.hash a.block a.height
  successfulWithdrawals := a.result.successfulWithdrawals
  withdrawalProposals := a.result.withdrawalProposals

/-- The block is the next one of the parent chain and is accepted on top of the tip. -/
structure Extends (P : ReplayParameters) (H : ParentHashing) (tip : DrivechainParentReplayTip)
    (a : AppliedBlock) : Prop where
  previous : a.block.hashPrevBlock = tip.hash
  height : a.height = tip.height + 1
  applied : applyDrivechainParentBlockState P H a.block a.height tip.state = .ok a.result

/-- The tip of the replay in memory, and the store. -/
structure PersistPoint where
  tip : DrivechainParentReplayTip
  store : DrivechainParentReplayStore

/-- An accepted block is persisted. -/
structure Persists (P : ReplayParameters) (H : ParentHashing)
    (stateHash : DrivechainParentReplayState → Uint256) (checkpointHeight : ℕ) (p : PersistPoint)
    (a : AppliedBlock) (p' : PersistPoint) : Prop extends Extends P H p.tip a where
  appended : p.store.append stateHash true (appendOf P H checkpointHeight p.tip a) = .ok p'.store
  tip : p'.tip = { height := a.height, hash := H.blockHash a.block, state := a.result.state }

/-- Persisting accepted blocks one after the other. -/
abbrev PersistRun (P : ReplayParameters) (H : ParentHashing)
    (stateHash : DrivechainParentReplayState → Uint256) (checkpointHeight : ℕ) :
    PersistPoint → List AppliedBlock → PersistPoint → Prop :=
  Run (Persists P H stateHash checkpointHeight)

/-- The tip that a store is seeded with: nothing is proposed, active or pending. -/
def seedTip (height : ℕ) (hash : Uint256) : DrivechainParentReplayTip where
  height := height
  hash := hash
  state := {}

/-- A freshly seeded store that allows bundles to be proposed again. -/
def PersistPoint.seed (identity : Uint256) (height : ℕ) (hash : Uint256) : PersistPoint where
  tip := seedTip height hash
  store :=
    (DrivechainParentReplayStore.reset
      { schemaVersion := storeSchemaVersion .ALLOW_REPROPOSAL } identity (seedTip height hash)
      .written).2

/-! ### Assumptions on hashes -/

/-- The hashes on the given blocks are not null and have neither collisions nor cycles. -/
structure HashesSound (H : ParentHashing) (rank : Uint256 → ℕ) (blocks : List CBlock) : Prop where
  hash (description : Bytes) : H.hash description ≠ 0
  block : ∀ b ∈ blocks, H.blockHash b ≠ 0
  txid : ∀ tx ∈ blocks.flatMap (·.transactions), H.txid tx ≠ 0
  injective : ∀ tx ∈ blocks.flatMap (·.transactions), ∀ tx' ∈ blocks.flatMap (·.transactions),
    H.txid tx = H.txid tx' → tx = tx'
  /-- A block ranks above its predecessor. -/
  header : ∀ b ∈ blocks, rank b.hashPrevBlock < rank (H.blockHash b)
  /-- A transaction ranks above those that it spends. -/
  acyclic : Acyclic H rank (blocks.flatMap (·.transactions))

theorem HashesSound.mono {H : ParentHashing} {rank : Uint256 → ℕ} {blocks blocks' : List CBlock}
    (h : HashesSound H rank blocks) (hsub : blocks' ⊆ blocks) : HashesSound H rank blocks' := by
  have htxs : blocks'.flatMap (·.transactions) ⊆ blocks.flatMap (·.transactions) := by
    intro tx htx
    obtain ⟨b, hb, htx⟩ := List.mem_flatMap.1 htx
    exact List.mem_flatMap.2 ⟨b, hsub hb, htx⟩
  exact ⟨h.hash, fun b hb => h.block b (hsub hb), fun tx htx => h.txid tx (htxs htx),
    fun tx htx tx' htx' => h.injective tx (htxs htx) tx' (htxs htx'),
    fun b hb => h.header b (hsub hb), fun tx htx => h.acyclic tx (htxs htx)⟩

/-- The only merged-mining commitment of the block for the configured slot is the null hash. -/
def NullCommitment (P : ReplayParameters) (checkpointHeight : ℕ) (a : AppliedBlock) : Prop :=
  checkpointHeight < a.height ∧
    extractCanonicalDrivechainBmmCommitmentInBlock a.block P.sidechainSlot = .ok 0

/-! ### What the store holds -/

/-- The store holds the tip, and no record that could collide with one of a later block: its edges
start below the tip, its deposits are covered by the treasury output of the tip, and its payments
are not above the tip. -/
structure Held (rank : Uint256 → ℕ) (p : PersistPoint) : Prop where
  isOpen : p.store.isOpen = true
  schemaVersion : p.store.schemaVersion = REPROPOSAL_SCHEMA_VERSION
  /-- The layout is recorded. -/
  identity : ∃ identity ∈ p.store.records.identity,
    identity.schemaVersion = p.store.schemaVersion
  tip : p.store.records.tip = some p.tip
  /-- The recorded edges begin below the tip. -/
  edges (hash : Uint256) : hash ∈ p.store.records.edges → rank hash < rank p.tip.hash
  /-- The recorded deposits are behind the treasuries. -/
  deposits (o : COutPoint) : o ∈ p.store.records.deposits → Covers rank p.tip.state o.hash
  occurrences (k : WithdrawalOccurrenceKey) : k ∈ p.store.records.occurrences →
    k.height ≤ p.tip.height

section Step

variable {P : ReplayParameters} {H : ParentHashing} {rank : Uint256 → ℕ}
  {stateHash : DrivechainParentReplayState → Uint256} {checkpointHeight : ℕ} {p p' : PersistPoint}
  {a : AppliedBlock}

theorem Extends.depositsOrdered (h : Extends P H p.tip a)
    (hhashes : HashesSound H rank [a.block]) :
    DepositsOrdered rank p.tip.state a.result.deposits a.result.state := by
  have hspec := blockSteps_spec h.applied
  obtain ⟨requiredActive, hacc⟩ := hspec.accepted
  rw [hspec.deposits]
  refine hspec.linked.depositsOrdered (fun step hstep => ⟨_, _, _, hacc step hstep⟩) ?_
  rw [hspec.transactions]
  simpa using hhashes.acyclic

/-- **A persisted block keeps what the store holds.** -/
theorem Held.step (h : Held rank p) (hstep : Persists P H stateHash checkpointHeight p a p')
    (hhashes : HashesSound H rank [a.block]) (hqueues : QueuesNodup P.configuredSlot p.tip.state) :
    Held rank p' := by
  obtain ⟨haccepts, -, hstore⟩ := DrivechainParentReplayStore.append_eq_ok.1 hstep.appended
  have hordered := hstep.toExtends.depositsOrdered hhashes
  have hblock := blockQueues hstep.applied hqueues
  have hheader : rank p.tip.hash < rank (H.blockHash a.block) := by
    rw [← hstep.previous]
    exact hhashes.header _ (by simp)
  obtain ⟨tip', store'⟩ := p'
  obtain rfl : store' = _ := hstore
  obtain rfl : tip' = _ := hstep.tip
  refine ⟨h.isOpen, h.schemaVersion, h.identity, rfl, fun hash hmem => ?_, fun o ho => ?_,
    fun k hk => ?_⟩
  · have hold : hash ∈ p.store.records.edges ∨ hash = p.tip.hash := by
      simp only [DrivechainParentReplayStore.appended, appendOf, replayedEdge] at hmem
      split_ifs at hmem
      · rcases Std.ExtTreeMap.mem_insert.1 hmem with heq | hmem
        · exact .inr (Std.LawfulEqOrd.eq_of_compare heq).symm
        · exact .inl hmem
      · exact .inl hmem
    rcases hold with hmem | rfl
    · exact (h.edges hash hmem).trans hheader
    · exact hheader
  · rcases Maps.mem_foldl_insert.1 ho with ho | ⟨d, hd, rfl⟩
    · exact hordered.keeps _ (h.deposits o ho)
    · exact hordered.covered d hd
  · have hschema := h.schemaVersion
    simp only [DrivechainParentReplayStore.appended, appendOf, if_pos hschema] at hk
    rcases Maps.mem_foldl_insert.1 hk with hk | ⟨w, hw, rfl⟩
    · have := h.occurrences k hk
      have := hstep.height
      simp only
      omega
    · exact (hblock.paid w hw).1.le

end Step

/-! ### Which blocks the store accepts -/

section Accepts

variable {P : ReplayParameters} {H : ParentHashing} {rank : Uint256 → ℕ} {p : PersistPoint}
  {a : AppliedBlock} {txs : List CTransaction}

theorem Extends.saneDeposit (h : Extends P H p.tip a) (hhashes : HashesSound H rank [a.block])
    (hsize : ∀ tx ∈ a.block.transactions, tx.vout.length ≤ MAX_SIZE)
    {d : DrivechainMintableDeposit} (hd : d ∈ a.result.deposits) :
    IsSaneDeposit d ∧ d.blockHeight = a.height ∧ d.blockHash = H.blockHash a.block := by
  have hspec := blockSteps_spec h.applied
  obtain ⟨requiredActive, hacc⟩ := hspec.accepted
  rw [hspec.deposits] at hd
  obtain ⟨step, hstep, hd⟩ := List.mem_flatMap.1 hd
  have hof := (hacc step hstep).depositOf hd
  have htx : step.transaction ∈ a.block.transactions := by
    rw [← hspec.transactions]
    exact List.mem_map_of_mem hstep
  have hindex : d.outpoint.n ≠ COutPoint.NULL_INDEX := by
    have hlen := hsize _ htx
    have hlt := hof.index
    unfold MAX_SIZE at hlen
    unfold COutPoint.NULL_INDEX
    omega
  refine ⟨⟨?_, hindex, ?_, hof.pos, hof.money, hof.address⟩, hof.blockHeight, hof.blockHash⟩
  · rw [hof.txid]
    exact hhashes.txid _ (by simpa using htx)
  · rw [hof.blockHash]
    exact hhashes.block _ (by simp)

/-- The edge of an accepted block is refused only for its null commitment. -/
theorem Held.saneEdge_iff (checkpointHeight : ℕ) (h : Held rank p) (hext : Extends P H p.tip a)
    (hhashes : HashesSound H rank [a.block]) (htip : p.tip.hash ≠ 0)
    (hheight : a.height ≤ MAX_HEIGHT) :
    (∀ e ∈ replayedEdge P H checkpointHeight p.tip.hash a.block a.height,
      IsSaneEdge e.1 e.2 ∧ e.2.parentHeight = p.tip.height ∧ e.2.successorHeight = a.height ∧
      e.2.successorHash = H.blockHash a.block ∧ e.1 = p.tip.hash ∧
      e.1 ∉ p.store.records.edges) ↔ ¬NullCommitment P checkpointHeight a := by
  have hnew : p.tip.hash ∉ p.store.records.edges := fun hmem =>
    lt_irrefl _ (h.edges _ hmem)
  have hblock : H.blockHash a.block ≠ 0 := hhashes.block _ (by simp)
  have hmax : p.tip.height ≠ MAX_HEIGHT := by have := hext.height; omega
  have hsucc : a.height = p.tip.height + 1 := hext.height
  unfold replayedEdge NullCommitment
  split_ifs with habove
  · simp only [Option.mem_def, Option.some.injEq, forall_eq', IsSaneEdge, hsucc]
    cases extractCanonicalDrivechainBmmCommitmentInBlock a.block P.sidechainSlot with
    | error e => simp [htip, hblock, hmax, hnew, Except.isOk, Except.toBool]
    | ok commitment =>
      have hlt : checkpointHeight < p.tip.height + 1 := by omega
      simp [htip, hblock, hmax, hnew, hlt, Except.isOk, Except.toBool, Except.toOption]
  · simp [habove]

theorem Held.accepts_iff (stateHash : DrivechainParentReplayState → Uint256)
    (checkpointHeight : ℕ) (h : Held rank p) (hext : Extends P H p.tip a)
    (hsound : ReplaySound P H txs (p.tip.height + 1) p.tip.state)
    (hsane : IsSaneTip p.tip) (hnext : IsSaneTip
      { height := a.height, hash := H.blockHash a.block, state := a.result.state })
    (hhashes : HashesSound H rank [a.block])
    (hsize : ∀ tx ∈ a.block.transactions, tx.vout.length ≤ MAX_SIZE)
    (hheight : a.height ≤ MAX_HEIGHT) :
    p.store.Accepts stateHash (appendOf P H checkpointHeight p.tip a) ↔
      ¬NullCommitment P checkpointHeight a := by
  have hordered := hext.depositsOrdered hhashes
  have hblock := blockQueues hext.applied hsound.queues
  have hedge := h.saneEdge_iff checkpointHeight hext hhashes hsane.1 hheight
  refine ⟨fun haccepts => hedge.1 haccepts.edge, fun hnull => ?_⟩
  refine
    { isOpen := h.isOpen
      previous := hsane
      next := hnext
      height := ⟨?_, hext.height⟩
      schema := h.identity
      tip := ⟨p.tip, h.tip, rfl, rfl, rfl⟩
      deposits := ⟨?_, fun d hd => ?_⟩
      edge := hedge.2 hnull
      withdrawals := ⟨?_, fun w hw => ?_⟩
      proposals := ⟨?_, fun q _ hschema => ?_⟩ }
  · have := hext.height
    simp only [appendOf]
    omega
  · rw [List.Nodup, List.pairwise_map]
    exact hordered.ordered.imp fun hlt heq => by rw [heq] at hlt; exact lt_irrefl _ hlt
  · obtain ⟨hdsane, hdheight, hdhash⟩ := hext.saneDeposit hhashes hsize hd
    refine ⟨hdsane, hdheight, hdhash, fun hmem => ?_⟩
    exact lt_irrefl _ (hordered.later d hd _ (h.deposits _ hmem))
  · refine List.Nodup.of_map (fun k : SuccessfulWithdrawalKey => (k.sidechainSlot, k.m6id)) ?_
    rw [List.map_map]
    exact hblock.paid_nodup
  · obtain ⟨hwheight, hwhash, -⟩ := hblock.paid w hw
    refine ⟨?_, hwheight, hwhash, fun hschema => ?_, fun hmem => ?_⟩
    · rw [IsSaneSuccessfulWithdrawal, hwhash]
      exact hhashes.block _ (by simp)
    · rw [h.schemaVersion] at hschema
      simp [SCHEMA_VERSION, REPROPOSAL_SCHEMA_VERSION] at hschema
    · have hle := h.occurrences _ hmem
      have := hext.height
      simp only at hle
      omega
  · refine hblock.proposals_nodup.map_on fun q _ q' _ heq => ?_
    cases q; cases q'
    simp_all [DrivechainWithdrawalProposalIdentity.key]
  · rw [h.schemaVersion] at hschema
    simp [SCHEMA_VERSION, REPROPOSAL_SCHEMA_VERSION] at hschema

end Accepts

section Run

variable {P : ReplayParameters} {H : ParentHashing} {rank : Uint256 → ℕ}
  {stateHash : DrivechainParentReplayState → Uint256} {checkpointHeight : ℕ} {identity : Uint256}
  {height : ℕ} {hash : Uint256} {ls : List AppliedBlock} {p : PersistPoint}

theorem isSaneTip_seedTip (hhash : hash ≠ 0) : IsSaneTip (seedTip height hash) := by
  simp [IsSaneTip, seedTip, hhash, SaneActivation, SaneSlot, SaneActions, moneyRange_zero,
    DrivechainParentReplayState.configuredData]
  exact List.nodup_nil

theorem seed_store (hhash : hash ≠ 0) :
    (PersistPoint.seed identity height hash).store =
      { schemaVersion := REPROPOSAL_SCHEMA_VERSION
        records :=
          { identity := some { schemaVersion := REPROPOSAL_SCHEMA_VERSION, identity := identity }
            tip := some (seedTip height hash) } } := by
  simp only [PersistPoint.seed, DrivechainParentReplayStore.reset, isSaneTip_seedTip hhash]
  rfl

theorem runTransactions_eq (ls : List AppliedBlock) :
    runTransactions ls = (ls.map (·.block)).flatMap (·.transactions) := by
  simp [runTransactions, List.flatMap_map]

section Reached

variable (hrun : PersistRun P H stateHash checkpointHeight (.seed identity height hash) ls p)

include hrun

theorem PersistRun.replayRun :
    ReplayRun P H (.empty (height + 1)) ls { next := p.tip.height + 1, state := p.tip.state } := by
  induction hrun with
  | nil => exact .nil
  | snoc _ hstep ih =>
    refine ih.snoc ⟨hstep.height, hstep.applied, ?_⟩
    rw [hstep.tip]

theorem PersistRun.replaySound (hhashes : HashesSound H rank (ls.map (·.block))) :
    ReplaySound P H (runTransactions ls) (p.tip.height + 1) p.tip.state :=
  replaySound_of_replayRun hrun.replayRun hhashes.hash
    fun _ ha => hhashes.block _ (List.mem_map_of_mem ha)

theorem PersistRun.isSaneTip (hhash : hash ≠ 0) (hhashes : HashesSound H rank (ls.map (·.block))) :
    IsSaneTip p.tip := by
  have hsound := hrun.replaySound hhashes
  have htip : p.tip.hash ≠ 0 := by
    cases hrun with
    | nil => exact hhash
    | snoc _ hstep =>
      rw [hstep.tip]
      exact hhashes.block _ (by simp)
  refine hsound.isSaneTip htip ?_
  rw [runTransactions_eq]
  exact hhashes.injective

/-- **The store holds the tip of the replay and nothing that comes after it.** -/
theorem PersistRun.held (hhash : hash ≠ 0) (hhashes : HashesSound H rank (ls.map (·.block))) :
    Held rank p := by
  induction hrun with
  | nil =>
    refine ⟨?_, ?_, ?_, ?_, ?_, ?_, ?_⟩ <;> rw [seed_store hhash] <;> simp [PersistPoint.seed]
  | @snoc ls q q' a hrun hstep ih =>
    have hold : HashesSound H rank (ls.map (·.block)) := hhashes.mono (by simp)
    exact (ih hold).step hstep (hhashes.mono (by simp)) (PersistRun.replaySound hrun hold).queues

end Reached

/-- **Of the blocks that the replay accepts, exactly those are persisted that do not commit to the
null hash.** -/
theorem append_succeeds_iff {a : AppliedBlock}
    (hrun : PersistRun P H stateHash checkpointHeight (.seed identity height hash) ls p)
    (hext : Extends P H p.tip a) (hhash : hash ≠ 0)
    (hhashes : HashesSound H rank ((ls ++ [a]).map (·.block)))
    (hsize : ∀ tx ∈ a.block.transactions, tx.vout.length ≤ MAX_SIZE)
    (hheight : a.height ≤ MAX_HEIGHT) :
    (∃ store', p.store.append stateHash true (appendOf P H checkpointHeight p.tip a) =
      .ok store') ↔ ¬NullCommitment P checkpointHeight a := by
  have hold : HashesSound H rank (ls.map (·.block)) := hhashes.mono (by simp)
  have hnew : HashesSound H rank [a.block] := hhashes.mono (by simp)
  have hsound := hrun.replaySound hold
  have hnext : IsSaneTip
      { height := a.height, hash := H.blockHash a.block, state := a.result.state } := by
    have happ := hext.applied
    rw [hext.height] at happ ⊢
    refine (hsound.apply happ hhashes.hash (hnew.block _ (by simp))).isSaneTip
      (hnew.block _ (by simp)) ?_
    rw [← runTransactions_singleton a, ← runTransactions_append, runTransactions_eq]
    exact hhashes.injective
  rw [← (hrun.held hhash hold).accepts_iff stateHash checkpointHeight hext hsound
    (hrun.isSaneTip hhash hold) hnext hnew hsize hheight]
  constructor
  · rintro ⟨store', happend⟩
    exact (DrivechainParentReplayStore.append_eq_ok.1 happend).1
  · intro haccepts
    exact ⟨_, DrivechainParentReplayStore.append_eq_ok.2 ⟨haccepts, rfl, rfl⟩⟩

end Run

/-! ### The null commitment -/

/-- The ids of the small network are ranked by their first byte. -/
def Sample.rank (id : Uint256) : ℕ := (id.data.headD 0).toNat

/-- The first block of the small network with a commitment to the null hash for its slot. -/
def Sample.nullBlock : CBlock := Sample.block 1 [M7_TAG ++ [24] ++ (0 : Uint256).data] []

theorem Sample.hashesSound {blocks : List CBlock}
    (h : ∀ b ∈ blocks, hashing.blockHash b ≠ 0 ∧ b.transactions = [] ∧
      rank b.hashPrevBlock < rank (hashing.blockHash b)) :
    HashesSound hashing rank blocks := by
  have hnil : blocks.flatMap (·.transactions) = [] :=
    List.flatMap_eq_nil_iff.2 fun b hb => (h b hb).2.1
  refine ⟨fun _ => (by decide : Uint256.ofByte 7 ≠ 0), fun b hb => (h b hb).1, ?_, ?_,
    fun b hb => (h b hb).2.2, ?_⟩
  · simp [hnil]
  · simp [hnil]
  · simp [hnil, Acyclic]

theorem Sample.exists_extends (block : CBlock)
    (hprev : block.hashPrevBlock = .ofByte 1)
    (hok : (applyDrivechainParentBlockState parameters hashing block 10 {}).isOk) :
    ∃ a : AppliedBlock, a.block = block ∧ a.height = 10 ∧
      Extends parameters hashing (seedTip 9 (.ofByte 1)) a := by
  cases happ : applyDrivechainParentBlockState parameters hashing block 10 {} with
  | error e => rw [happ] at hok; simp [Except.isOk, Except.toBool] at hok
  | ok r => exact ⟨{ block := block, height := 10, result := r }, rfl, rfl, ⟨hprev, rfl, happ⟩⟩

open Sample

theorem append_refuses_nullBlock :
    ∃ a : AppliedBlock, a.block = nullBlock ∧
      Extends parameters hashing (seedTip 9 (.ofByte 1)) a ∧
      HashesSound hashing rank [a.block] ∧
      ∃ e, (PersistPoint.seed 0 9 (.ofByte 1)).store.append (fun _ => 0) true
        (appendOf parameters hashing 9 (seedTip 9 (.ofByte 1)) a) = .error e := by
  obtain ⟨a, hblock, hheight, hext⟩ := exists_extends nullBlock
    (by decide) (by decide +kernel)
  refine ⟨a, hblock, hext, hashesSound ?_, ?_⟩
  · rw [hblock]
    decide +kernel
  · cases happ : (PersistPoint.seed 0 9 (.ofByte 1)).store.append (fun _ => 0) true
        (appendOf parameters hashing 9 (seedTip 9 (.ofByte 1)) a) with
    | error e => exact ⟨e, rfl⟩
    | ok store' =>
      have hedge := (DrivechainParentReplayStore.append_eq_ok.1 happ).1.edge
      simp only [appendOf, hblock, hheight] at hedge
      exact absurd hedge (by decide +kernel)

theorem append_succeeds_sample :
    ∃ a : AppliedBlock, a.block = propose ∧
      ((∃ store', (PersistPoint.seed 0 9 (.ofByte 1)).store.append (fun _ => 0) true
        (appendOf parameters hashing 9 (seedTip 9 (.ofByte 1)) a) = .ok store') ↔
      ¬NullCommitment parameters 9 a) := by
  obtain ⟨a, hblock, hheight, hext⟩ := exists_extends propose
    (by decide) (by decide +kernel)
  have hrun : PersistRun parameters hashing (fun _ => 0) 9
      (.seed 0 9 (.ofByte 1)) [] (.seed 0 9 (.ofByte 1)) := .nil
  have hhashes : HashesSound hashing rank (([] ++ [a]).map AppliedBlock.block) := by
    refine hashesSound ?_
    simp only [List.nil_append, List.map_cons, List.map_nil, hblock]
    decide +kernel
  refine ⟨a, hblock, append_succeeds_iff hrun hext (by decide) hhashes ?_ ?_⟩
  · rw [hblock]
    decide +kernel
  · rw [hheight]
    decide

end ElementsDrivechain
