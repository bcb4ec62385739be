import ElementsDrivechain.Replay.Persist

/-!
# What the store holds

The records of a store that was seeded and extended block by block are those of its blocks: every
deposit under its outpoint, every edge under the hash it starts from, every payment under its key
and height, and of the payments of a bundle the first one under its key.  Nothing is overwritten,
because a block that repeats a key is refused; no assumption on hashes is needed.

* `PersistRun.parentChain`, `PersistRun.recordsOf` : a persisted run is a chain, and the store holds
  its records.
-/

namespace ElementsDrivechain

/-- Consecutive parent blocks: each names the one before as its predecessor, lies one above it and
is applied to the state it left behind. -/
abbrev ParentChain (P : ReplayParameters) (H : ParentHashing) :
    DrivechainParentReplayTip → List AppliedBlock → DrivechainParentReplayTip → Prop :=
  Run fun tip a tip' => Extends P H tip a ∧
    tip' = { height := a.height, hash := H.blockHash a.block, state := a.result.state }

/-- The records are those of the given blocks. -/
structure RecordsOf (P : ReplayParameters) (H : ParentHashing) (checkpointHeight : ℕ)
    (ls : List AppliedBlock) (records : ReplayRecords) : Prop where
  /-- The deposits of the blocks. -/
  deposits (o : COutPoint) (d : DrivechainMintableDeposit) : records.deposits[o]? = some d ↔
    d ∈ ls.flatMap (·.result.deposits) ∧ d.outpoint = o
  /-- An edge for each block above the checkpoint. -/
  edges (hash : Uint256) (edge : DrivechainReplayedBmmEdge) : records.edges[hash]? = some edge ↔
    ∃ a ∈ ls, replayedEdge P H checkpointHeight a.block.hashPrevBlock a.block a.height =
      some (hash, edge)
  /-- The first payment of each bundle. -/
  successfulWithdrawals (k : SuccessfulWithdrawalKey) : records.successfulWithdrawals[k]? =
    (ls.flatMap (·.result.successfulWithdrawals)).find? (·.key = k)
  /-- All payments. -/
  occurrences (k : WithdrawalOccurrenceKey) (w : DrivechainSuccessfulWithdrawal) :
    records.occurrences[k]? = some w ↔ w ∈ ls.flatMap (·.result.successfulWithdrawals) ∧
      k = { withdrawal := w.key, height := w.blockHeight }

section Records

variable {P : ReplayParameters} {H : ParentHashing}
  {stateHash : DrivechainParentReplayState → Uint256} {checkpointHeight : ℕ} {identity : Uint256}
  {height : ℕ} {hash : Uint256} {ls : List AppliedBlock} {p q : PersistPoint} {a : AppliedBlock}

/-- The first payments after a block: a bundle that was paid before keeps its first payment. -/
theorem getElem?_appended_successfulWithdrawals {store : DrivechainParentReplayStore}
    {block : ReplayAppend} (hnodup : (block.successfulWithdrawals.map (·.key)).Nodup)
    (k : SuccessfulWithdrawalKey) :
    (store.appended block).successfulWithdrawals[k]? =
      store.records.successfulWithdrawals[k]?.or
        (block.successfulWithdrawals.find? (·.key = k)) := by
  have hfold : (store.appended block).successfulWithdrawals =
      (block.successfulWithdrawals.filter (·.key ∉ store.records.successfulWithdrawals)).foldl
        (fun m w => m.insert w.key w) store.records.successfulWithdrawals := by
    rw [List.foldl_filter]
    simp only [DrivechainParentReplayStore.appended, decide_eq_true_eq, ite_not]
  have hsub : ((block.successfulWithdrawals.filter
      (·.key ∉ store.records.successfulWithdrawals)).map (·.key)).Nodup :=
    hnodup.sublist (List.filter_sublist.map _)
  refine Option.ext fun w => ?_
  rw [hfold, Maps.getElem?_foldl_insert hsub (by simp), Option.or_eq_some_iff]
  simp only [List.mem_filter, decide_eq_true_eq]
  refine or_congr_right ?_
  rw [Maps.find?_key_eq_some hnodup]
  simp only [Std.ExtTreeMap.mem_iff_isSome_getElem?, Option.not_isSome_iff_eq_none]
  constructor
  · rintro ⟨v, ⟨hv, hnew⟩, rfl, rfl⟩
    exact ⟨hnew, hv, rfl⟩
  · rintro ⟨hnew, hw, rfl⟩
    exact ⟨w, ⟨hw, hnew⟩, rfl, rfl⟩

/-- The payments after a block, under the layout that keeps them all. -/
theorem getElem?_appended_occurrences {store : DrivechainParentReplayStore} {block : ReplayAppend}
    (haccepts : store.Accepts stateHash block)
    (hschema : store.schemaVersion = REPROPOSAL_SCHEMA_VERSION) (k : WithdrawalOccurrenceKey)
    (w : DrivechainSuccessfulWithdrawal) :
    (store.appended block).occurrences[k]? = some w ↔ store.records.occurrences[k]? = some w ∨
      (w ∈ block.successfulWithdrawals ∧
        k = { withdrawal := w.key, height := w.blockHeight }) := by
  have hnodup : (block.successfulWithdrawals.map fun w =>
      ({ withdrawal := w.key, height := w.blockHeight } : WithdrawalOccurrenceKey)).Nodup := by
    refine List.Nodup.of_map (·.withdrawal) ?_
    rw [List.map_map]
    exact haccepts.withdrawals.1
  have hnew := fun w hw => (haccepts.withdrawals.2 w hw).2.2.2.2
  simp only [DrivechainParentReplayStore.appended, if_pos hschema]
  rw [Maps.getElem?_foldl_insert (g := fun w => w) hnodup hnew]
  refine or_congr_right ⟨?_, ?_⟩
  · rintro ⟨v, hv, rfl, rfl⟩
    exact ⟨hv, rfl⟩
  · rintro ⟨hw, rfl⟩
    exact ⟨w, hw, rfl, rfl⟩

/-- **A persisted block adds its records.** -/
theorem RecordsOf.step (h : RecordsOf P H checkpointHeight ls p.store.records)
    (hschema : p.store.schemaVersion = REPROPOSAL_SCHEMA_VERSION)
    (hstep : Persists P H stateHash checkpointHeight p a q) :
    RecordsOf P H checkpointHeight (ls ++ [a]) q.store.records := by
  obtain ⟨haccepts, -, hstore⟩ := DrivechainParentReplayStore.append_eq_ok.1 hstep.appended
  rw [hstore]
  refine ⟨fun o d => ?_, fun hash edge => ?_, fun k => ?_, fun k w => ?_⟩
  · have hfold := Maps.getElem?_foldl_insert (g := fun d => d) (k := o) (v := d)
      haccepts.deposits.1 fun d hd => (haccepts.deposits.2 d hd).2.2.2
    rw [List.flatMap_append, List.mem_append]
    simp only [DrivechainParentReplayStore.appended, List.flatMap_singleton]
    rw [hfold, h.deposits]
    constructor
    · rintro (⟨hd, ho⟩ | ⟨d, hd, ho, rfl⟩)
      · exact ⟨.inl hd, ho⟩
      · exact ⟨.inr hd, ho⟩
    · rintro ⟨hd | hd, ho⟩
      · exact .inl ⟨hd, ho⟩
      · exact .inr ⟨d, hd, ho, rfl⟩
  · have hnew := haccepts.edge
    simp only [DrivechainParentReplayStore.appended, List.mem_append, List.mem_singleton,
      or_and_right, exists_or, exists_eq_left]
    simp only [appendOf] at hnew ⊢
    rw [hstep.previous, ← h.edges]
    cases hedge : replayedEdge P H checkpointHeight p.tip.hash a.block a.height with
    | none => simp
    | some e =>
      rw [hedge] at hnew
      have he : e.1 ∉ p.store.records.edges := (hnew e rfl).2.2.2.2.2
      simp only [Option.elim_some, Maps.getElem?_insert, @eq_comm _ hash, Option.some.injEq]
      split_ifs with hhash
      · have hnone : p.store.records.edges[hash]? = none :=
          Std.ExtTreeMap.getElem?_eq_none (hhash ▸ he)
        simp [hnone, Prod.ext_iff, hhash]
      · simp [Prod.ext_iff, hhash]
  · rw [getElem?_appended_successfulWithdrawals haccepts.withdrawals.1, h.successfulWithdrawals,
      List.flatMap_append, List.find?_append]
    simp [appendOf]
  · rw [getElem?_appended_occurrences haccepts hschema, h.occurrences, List.flatMap_append,
      List.mem_append, or_and_right]
    simp [appendOf]

variable (hrun : PersistRun P H stateHash checkpointHeight (.seed identity height hash) ls p)

include hrun

theorem PersistRun.schemaVersion (hhash : hash ≠ 0) :
    p.store.schemaVersion = REPROPOSAL_SCHEMA_VERSION := by
  induction hrun with
  | nil => rw [seed_store hhash]
  | snoc _ hstep ih =>
    rw [(DrivechainParentReplayStore.append_eq_ok.1 hstep.appended).2.2]
    exact ih

theorem PersistRun.parentChain : ParentChain P H (seedTip height hash) ls p.tip := by
  induction hrun with
  | nil => exact .nil
  | snoc _ hstep ih => exact ih.snoc ⟨hstep.toExtends, hstep.tip⟩

/-- **The store holds the records of the chain**, and its tip. -/
theorem PersistRun.recordsOf (hhash : hash ≠ 0) :
    RecordsOf P H checkpointHeight ls p.store.records ∧ p.store.records.tip = some p.tip ∧
      p.store.isOpen = true := by
  induction hrun with
  | nil =>
    rw [seed_store hhash]
    refine ⟨⟨?_, ?_, ?_, ?_⟩, rfl, rfl⟩ <;> simp
  | snoc hrun hstep ih =>
    refine ⟨ih.1.step (PersistRun.schemaVersion hrun hhash) hstep, ?_, ?_⟩
    · rw [(DrivechainParentReplayStore.append_eq_ok.1 hstep.appended).2.2, hstep.tip]
      rfl
    · rw [(DrivechainParentReplayStore.append_eq_ok.1 hstep.appended).2.2]
      exact ih.2.2

end Records

end ElementsDrivechain
