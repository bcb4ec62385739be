import ElementsDrivechain.Ecx.Template

/-!
# Sources of the bond inbox in block templates

The selection of a miner does not look at the markers of the bond inbox either.  The next block
refuses a template with a transaction that has the magic bytes of a marker and is no source, or with
more sources than one block may have.

* `template_bond_sources_iff` : **the bond inbox accepts every template exactly if the transactions
  of the mempool with its magic bytes are sources that one block may have.**
-/

namespace ElementsDrivechain.Ecx

open Fallible

/-- The selected transactions with the magic bytes of a marker, with their places behind the
coinbase. -/
def templateSources (vtx : List Child.CTransaction) : List (Child.CTransaction × ℕ) :=
  (vtx.zipIdx 1).filter fun source => HasBondMarker source.1

/-- The sources of a template are among the selected transactions. -/
theorem bondSources_cons {coinbase : Child.CTransaction} (h : ¬HasBondMarker coinbase)
    (vtx : List Child.CTransaction) : bondSources (coinbase :: vtx) = templateSources vtx := by
  rw [bondSources, List.zipIdx_cons, List.filter_cons_of_neg (by simpa using h)]
  rfl

/-- The refunds of a transaction are not possible too early. -/
def RefundsInTime (N : BondNetwork) (parentHeight : ℕ) (tx : Child.CTransaction) : Prop :=
  ∀ output ∈ tx.vout, ∀ marker ∈
    (parseCanonicalBondInboxMarker N output.scriptPubKey false).toOption, marker.kind = 1 →
      parentHeight + N.frozen.bondInboxRefundMinimumParentBlocks ≤
        marker.refundNotBeforeParentHeight
deriving Decidable

/-- The transactions with the magic bytes of a marker are sources that one block may have. -/
structure BondSourcesFit (P : RelayNetwork) (parentHeight : ℕ)
    (transactions : List Child.CTransaction) : Prop where
  /-- Every source is canonical, and refunds are not possible too early. -/
  canonical : ∀ tx ∈ transactions.filter (HasBondMarker ·), P.drivechainSlot = false ∧
    isCanonicalBondInboxSourceTransaction P.toBondNetwork tx = .ok () ∧
      RefundsInTime P.toBondNetwork parentHeight tx
  /-- There are no more than a block may have. -/
  entries : (transactions.filter (HasBondMarker ·)).length ≤
    P.frozen.bondInboxMaxEntriesPerSidechainBlock
  witnessBytes : ((transactions.filter (HasBondMarker ·)).map
    fun tx => (P.serializeWitness tx).length).sum ≤
      P.frozen.bondInboxMaxUniqueSourceWitnessBytesPerSidechainBlock
  transactionBytes : ((transactions.filter (HasBondMarker ·)).map
    fun tx => (P.serialize tx).length).sum ≤
      P.frozen.bondInboxMaxUniqueSourceTransactionBytesPerSidechainBlock

section BondTemplate

variable {C : PegParameters} {P : RelayNetwork} {chain : ExchangeChain}
  {budget count sidechainHeight parentHeight : ℕ} {template : Child.CBlock}
  {coinbase : Child.CTransaction} {snapshot : BondV2CapitalSnapshot}
  {vtx transactions : List Child.CTransaction}

/-- The marker of a source is neither that of a forced action nor that of a deposit. -/
theorem CanonicalSource.isEmpty {N : BondNetwork} {successor : Bool} {tx : Child.CTransaction}
    {output : Child.CTxOut × ℕ} {marker : ParsedBondInboxMarker} {s : Sources}
    (h : CanonicalSource N successor tx output marker)
    (hs : scanSources N.toExchangeNetwork tx = .ok s) : s.IsEmpty := by
  obtain ⟨payload, hpush, -⟩ := h.push
  have hsingle := (bondPush_eq_some hpush).1
  have honly : ∀ {i : ℕ} {o : Child.CTxOut}, tx.vout[i]? = some o →
      o.scriptPubKey.head? = some OP_RETURN → o.scriptPubKey = output.1.scriptPubKey := by
    intro i o ho hreturn
    have hmem : (o, i) ∈ returnOutputs tx :=
      List.mem_filter.2 ⟨List.mk_mem_zipIdx_iff_getElem?.2 ho, decide_eq_true hreturn⟩
    rw [h.returns, List.mem_singleton] at hmem
    rw [← hmem]
  refine isEmpty_of_scanSources hs (fun ho hparse => ?_) fun ho hparse => ?_
  · obtain ⟨hreturn, hisSome, -⟩ := parseForcedOutput_spec hparse
    rw [honly ho hreturn, forcedPush, hsingle] at hisSome
    exact absurd hisSome (by simp [OP_PUSHDATA1, OP_PUSHDATA2])
  · obtain ⟨hreturn, hisSome, -⟩ := parseDepositOutput_spec hparse
    rw [honly ho hreturn, depositPush, hsingle] at hisSome
    exact absurd hisSome (by simp [OP_PUSHDATA2, DEPOSIT_PAYLOAD_SIZE])

theorem distinctSources_of_nodup {N : BondNetwork} {sources : List (Child.CTransaction × ℕ)}
    (h : ((sources.map (·.1)).map N.witnessHash).Nodup) :
    distinctSources N sources =
      (sources.map (·.1)).map fun tx => (N.witnessHash tx, sourceFacts N tx) := by
  induction sources using List.reverseRecOn with
  | nil => rfl
  | append_singleton sources source ih =>
    rw [List.map_append, List.map_append, List.nodup_append] at h
    rw [distinctSources_concat, ih h.1, addUnique, if_neg]
    · simp
    · rw [Option.not_isSome_iff_eq_none, List.find?_eq_none]
      rintro e he heq
      obtain ⟨tx, htx, rfl⟩ := List.mem_map.1 he
      exact h.2.2 _ (List.mem_map_of_mem htx) _ (List.mem_singleton_self _) (of_decide_eq_true heq)

theorem map_fst_templateSources (vtx : List Child.CTransaction) :
    (templateSources vtx).map (·.1) = vtx.filter (HasBondMarker ·) := by
  conv_rhs => rw [← List.zipIdx_map_fst 1 vtx, List.filter_map]
  rfl

/-- Sources of a mempool that one block may have are acceptable in every block. -/
theorem BondSourcesFit.acceptable (context : BondContext)
    (h : BondSourcesFit P context.parentHeight transactions)
    (hwtxids : (transactions.map P.witnessHash).Nodup) (hvtx : vtx.Subperm transactions)
    (hsize : transactions.length ≤ UINT32_MAX) (hparent : context.parentHeight ≤ UINT32_MAX)
    (hroom : count + P.frozen.bondInboxMaxEntriesPerSidechainBlock ≤ UINT64_MAX) :
    AcceptableSources P.toBondNetwork context count (templateSources vtx) := by
  have hfst := map_fst_templateSources vtx
  have hindex : ∀ s ∈ templateSources vtx, s.2 ≤ vtx.length := by
    intro s hs
    have := (List.mem_zipIdx (List.mem_of_mem_filter hs)).2.1
    omega
  generalize templateSources vtx = sources at hfst hindex ⊢
  have hfilter : (sources.map (·.1)).Subperm (transactions.filter (HasBondMarker ·)) :=
    hfst ▸ hvtx.filter _
  have hmem : ∀ s ∈ sources, s.1 ∈ transactions.filter (HasBondMarker ·) :=
    fun s hs => hfilter.subset (List.mem_map_of_mem hs)
  have hdistinct : ((sources.map (·.1)).map P.witnessHash).Nodup := by
    obtain ⟨l, hperm, hsublist⟩ := hfilter
    exact (hperm.map _).nodup_iff.1
      (hwtxids.sublist ((hsublist.trans List.filter_sublist).map _))
  have hlength : sources.length ≤ P.frozen.bondInboxMaxEntriesPerSidechainBlock := by
    simpa using hfilter.length_le.trans h.entries
  have hinclusion := P.frozen.inclusion_lt
  have hdelay := P.frozen.refund_lt
  simp only [UINT32_MAX] at hparent
  refine {
    canonical := fun s hs => (h.canonical s.1 (hmem s hs)).2.1
    consistent := fun s hs s' hs' heq => ?_
    witnessBytes := ?_
    transactionBytes := ?_
    deadline := fun _ => by simp only [UINT64_MAX]; omega
    refund := fun s hs output houtput marker hparse hkind => ?_
    entries := hlength
    room := ?_
    index := fun s hs => (hindex s hs).trans (hvtx.length_le.trans hsize) }
  · have hsame := List.inj_on_of_nodup_map hwtxids (List.mem_of_mem_filter (hmem s hs))
      (List.mem_of_mem_filter (hmem s' hs')) heq
    rw [hsame]
  · rw [sourcesWitnessBytes, distinctSources_of_nodup hdistinct, List.map_map]
    exact (Lists.sum_map_le_of_subperm _ hfilter).trans h.witnessBytes
  · rw [sourcesTransactionBytes, distinctSources_of_nodup hdistinct, List.map_map]
    exact (Lists.sum_map_le_of_subperm _ hfilter).trans h.transactionBytes
  · have := (h.canonical s.1 (hmem s hs)).2.2 output houtput marker (toOption_eq_some.2 hparse)
      hkind
    exact le_min (by simp only [UINT64_MAX]; omega) this
  · omega

theorem appendBondInbox_template_iff (hcoinbase : ¬HasBondMarker coinbase)
    (hsnapshot : HasPredecessor sidechainHeight parentHeight snapshot) :
    (∃ snapshot', appendBondInboxSourcesForBlock P.toBondNetwork
      { template with vtx := coinbase :: vtx } sidechainHeight parentHeight snapshot =
        .ok snapshot') ↔
      AcceptableSources P.toBondNetwork ⟨template.hash, sidechainHeight, parentHeight⟩
        snapshot.nodeBondInbox.count (templateSources vtx) := by
  rw [← bondSources_cons hcoinbase]
  constructor
  · rintro ⟨snapshot', h⟩
    exact (appendBondInboxSourcesForBlock_eq_ok.1 h).2.1
  · intro h
    exact ⟨_, appendBondInboxSourcesForBlock_eq_ok.2 ⟨hsnapshot, h, rfl⟩⟩

/-- Canonical sources of a mempool that are acceptable together are sources one block may have. -/
theorem Mempool.bondSourcesFit (mempool : Mempool P chain) {context : BondContext}
    (hcanonical : ∀ tx ∈ mempool.transactions.filter (HasBondMarker ·),
      isCanonicalBondInboxSourceTransaction P.toBondNetwork tx = .ok () ∧
        RefundsInTime P.toBondNetwork parentHeight tx)
    (hacc : AcceptableSources P.toBondNetwork context count
      (templateSources (mempool.transactions.filter (HasBondMarker ·)))) :
    BondSourcesFit P parentHeight mempool.transactions := by
  have hfst := map_fst_templateSources (mempool.transactions.filter (HasBondMarker ·))
  rw [List.filter_filter] at hfst
  simp only [Bool.and_self] at hfst
  have hdistinct : ((mempool.transactions.filter (HasBondMarker ·)).map P.witnessHash).Nodup :=
    mempool.wtxids.sublist (List.filter_sublist.map _)
  rw [← hfst] at hdistinct
  refine ⟨fun tx htx => ⟨?_, hcanonical tx htx⟩, ?_, ?_, ?_⟩
  · obtain ⟨output, marker, h⟩ := canonical_of_isCanonical (hcanonical tx htx).1
    by_contra hslot
    exact h.not_isStandardTx_of_slot (by simpa using hslot)
      (mempool.admitted tx (List.mem_of_mem_filter htx)).standard
  · rw [← hfst, List.length_map]
    exact hacc.entries
  · have := hacc.witnessBytes
    rwa [sourcesWitnessBytes, distinctSources_of_nodup hdistinct, List.map_map, hfst] at this
  · have := hacc.transactionBytes
    rwa [sourcesTransactionBytes, distinctSources_of_nodup hdistinct, List.map_map, hfst] at this

/-- **Every template is accepted by the bond inbox exactly if the transactions of the mempool with
its magic bytes are sources that one block may have**: each of them is canonical, which takes a
network without a slot, and the bytes, the number and the refunds of all of them are within their
bounds. -/
theorem template_bond_sources_iff (mempool : Mempool P chain)
    (hactive : ActiveAt P.consensus.activationHeight P.consensus) (hbudget : 2 ≤ budget)
    (hsize : mempool.transactions.length ≤ UINT32_MAX) (hcoinbase : ¬HasBondMarker coinbase)
    (hsnapshot : HasPredecessor sidechainHeight parentHeight snapshot)
    (hparent : parentHeight ≤ UINT32_MAX)
    (hroom : snapshot.nodeBondInbox.count + P.frozen.bondInboxMaxEntriesPerSidechainBlock ≤
      UINT64_MAX) :
    (∀ candidates : Candidates, candidates.transactions ⊆ mempool.transactions →
      ∃ snapshot', appendBondInboxSourcesForBlock P.toBondNetwork { template with
        vtx := coinbase ::
          (addPackageTxs C P.drivechainSlot P.toExchangeNetwork budget candidates).vtx }
        sidechainHeight parentHeight snapshot = .ok snapshot') ↔
      BondSourcesFit P parentHeight mempool.transactions := by
  simp only [appendBondInbox_template_iff hcoinbase hsnapshot]
  constructor
  · intro hall
    -- transactions with few markers of the other inboxes are selected together
    have htogether : ∀ vtx ⊆ mempool.transactions, (vtx.map (·.hash)).Nodup → ∀ sources,
        blockSources P.toExchangeNetwork vtx = .ok sources → markerCount sources ≤ budget →
        AcceptableSources P.toBondNetwork ⟨template.hash, sidechainHeight, parentHeight⟩
          snapshot.nodeBondInbox.count (templateSources vtx) := by
      intro vtx hsubset hnodup sources hsources hcount
      have := hall { packages := vtx.map ([·]) } (by rwa [transactions_singletons])
      rwa [addPackageTxs_singletons hactive hnodup hsources hcount] at this
    -- each of them alone in a block has to be canonical
    have hcanonical : ∀ tx ∈ mempool.transactions.filter (HasBondMarker ·),
        isCanonicalBondInboxSourceTransaction P.toBondNetwork tx = .ok () ∧
          RefundsInTime P.toBondNetwork parentHeight tx := by
      intro tx htx
      obtain ⟨hmem, hmarker⟩ := List.mem_filter.1 htx
      have hsingle : [tx] ⊆ mempool.transactions := by simpa using hmem
      obtain ⟨sources, hsources⟩ := mempool.exists_blockSources hsingle
      have hacc := htogether [tx] hsingle (by simp) sources hsources
        ((markerCount_le hsources).trans hbudget)
      have hself : (tx, 1) ∈ templateSources [tx] :=
        List.mem_filter.2 ⟨by simp, hmarker⟩
      refine ⟨hacc.canonical _ hself, fun output houtput marker hparse hkind => ?_⟩
      exact (hacc.refund _ hself output houtput marker (toOption_eq_some.1 hparse) hkind).trans
        (min_le_right _ _)
    have hsubset : mempool.transactions.filter (HasBondMarker ·) ⊆ mempool.transactions :=
      List.filter_subset_self _
    obtain ⟨sources, hsources⟩ := mempool.exists_blockSources hsubset
    -- then they have no other markers, and one block may take them all
    have hempty : NoMarkers sources := by
      intro x hx
      obtain ⟨hmem, hs⟩ := of_mem_blockSources hsources hx
      obtain ⟨output, marker, h⟩ := canonical_of_isCanonical (hcanonical _ hmem).1
      exact h.isEmpty hs
    exact mempool.bondSourcesFit hcanonical <|
      htogether _ hsubset (mempool.txids.sublist (List.filter_sublist.map _)) sources hsources
        ((markerCount_of_noMarkers hempty).trans_le (Nat.zero_le _))
  · intro hfit candidates hsubset
    exact BondSourcesFit.acceptable ⟨template.hash, sidechainHeight, parentHeight⟩ hfit
      mempool.wtxids (mempool.subperm hsubset) hsize hparent hroom

end BondTemplate

namespace Sample

/-- A transaction with the magic bytes of the bond inbox, and nothing else of a source. -/
def magicTransaction : Child.CTransaction := dataTransaction BOND_MAGIC

/-- The capital after the activation. -/
def bondSnapshot : BondV2CapitalSnapshot where
  nodeBondInbox := { head := .ofByte 50 }

theorem hasPredecessor_bondSnapshot : HasPredecessor 2 101 bondSnapshot where
  sidechainHeight := by decide
  parentHeight := by decide
  head := by decide
  count := by decide

/-- A mempool with two sources, where there is no slot. -/
def bondMempool : Mempool (relayNetwork false)
    { view := [41, 42].foldl userCoins CCoinsView.empty, tip := none, height := 1 } where
  transactions := [bondSource false 41, bondSource false 42]
  admitted := List.forall_mem_cons.2 ⟨⟨by decide +kernel, by decide +kernel, by decide +kernel⟩,
    List.forall_mem_singleton.2 ⟨by decide +kernel, by decide +kernel, by decide +kernel⟩⟩
  txids := by decide
  wtxids := by decide

end Sample

open Ecx.Sample

/-- A block with two sources is accepted. -/
theorem template_bond_sources_two :
    ∃ snapshot', appendBondInboxSourcesForBlock (relayNetwork false).toBondNetwork
      { minerTemplate with vtx := minerCoinbase ::
        (addPackageTxs ElementsDrivechain.Sample.pegParameters false
          (relayNetwork false).toExchangeNetwork MAX_COMBINED_UNCONSUMED
          { packages := [[bondSource false 42], [bondSource false 41]] }).vtx }
      2 101 bondSnapshot = .ok snapshot' :=
  (template_bond_sources_iff bondMempool (by decide) (by decide) (by decide) (by decide)
    hasPredecessor_bondSnapshot (by decide) (by decide)).2
      ⟨by decide +kernel, by decide +kernel, by decide +kernel, by decide +kernel⟩ _
      (by simp [Candidates.transactions, bondMempool])

/-- A transaction that is admitted to the mempool, and that no block may contain. -/
theorem template_bond_sources_magic :
    isStandardTx minerNetwork magicTransaction = .ok () ∧
    isWitnessStandard minerNetwork minerChain.view magicTransaction = true ∧
    checkSourceTransactionPolicy minerNetwork.toExchangeNetwork magicTransaction
      (minerChain.height + 1) = .ok () ∧
    (∀ input ∈ magicTransaction.vin,
      (minerChain.view.accessCoin input.prevout).isSome) ∧
    (addPackageTxs ElementsDrivechain.Sample.pegParameters true
      minerNetwork.toExchangeNetwork MAX_COMBINED_UNCONSUMED
      { packages := [[magicTransaction]] }).vtx.map (·.hash) =
        [magicTransaction.hash] ∧
    HasPredecessor 2 101 bondSnapshot ∧
    appendBondInboxSourcesForBlock minerNetwork.toBondNetwork
      { minerTemplate with vtx := [minerCoinbase, magicTransaction] } 2 101
      bondSnapshot =
        .error ("invalid ECX bond-inbox source transaction: " ++
          "not an exact minimal-PUSHDATA2 ECX bond-inbox marker") :=
  ⟨by decide +kernel, by decide +kernel, by decide +kernel, by decide +kernel, by decide +kernel,
    hasPredecessor_bondSnapshot, by decide +kernel⟩

end ElementsDrivechain.Ecx
