import ElementsDrivechain.Ecx.Policy
import ElementsDrivechain.Foundations.Lists
import ElementsDrivechain.Peg.Solvency

/-!
# Block templates

A miner selects transactions of the mempool and derives what the header of the block has to commit
to for the exchange.  The selection counts the markers of forced actions and deposits, so that the
inboxes do not overflow.  It does not look at the markers of transitions, and these can make the
block invalid.

* `addPackageTxs_fits` : **the markers of a selection are within the budget.**
* `createNewBlock_succeeds_iff` : **every template is made exactly if no transaction of the mempool
  looks like a transition, and no two of them have forced actions that are too much work together.**
-/

namespace ElementsDrivechain.Ecx

open Fallible

/-! ### The selection -/

/-- The transaction is a deposit from the parent chain and nothing else. -/
def IsCanonicalFeeFreeDrivechainDeposit (C : PegParameters) (tx : Child.CTransaction) : Prop :=
  tx.vin.length = 1 ∧ tx.vout.length = 1 ∧ tx.peginWitness.length = 1 ∧
    (∀ x ∈ tx.inputs, x.input.isPegin = true ∧ x.input.assetIssuance.IsNull ∧
      isDrivechainDepositPeginWitness C x.stack x.input.prevout = true) ∧
    checkDrivechainDepositOutputs C tx 0 = .ok ()
deriving Decidable

/-- What is considered for a block: transactions that pay no fee, and packages of transactions with
their ancestors, in the order in which they are considered and without those that do not fit for
another reason. -/
structure Candidates where
  feeFree : List Child.CTransaction := []
  packages : List (List Child.CTransaction) := []
  /-- Each of them is a set. -/
  feeFree_nodup : (feeFree.map (·.hash)).Nodup := by simp
  packages_nodup : ∀ package ∈ packages, (package.map (·.hash)).Nodup := by simp

/-- The transactions that are considered. -/
def Candidates.transactions (candidates : Candidates) : List Child.CTransaction :=
  candidates.feeFree ++ candidates.packages.flatten

/-- What is selected so far, and how many entries it appends to the inboxes. -/
structure Selection where
  vtx : List Child.CTransaction := []
  sourceAppends : ℕ := 0

section Model

variable (C : PegParameters) (drivechainSlot : Bool) (N : ExchangeNetwork)

/-- How many entries a package appends. -/
def countPackage (package : List Child.CTransaction) : Except String ℕ :=
  package.foldlM (fun appends tx => do
    let (forcedCount, depositCount) ← countSourceTransactionMarkers N tx
    rejectIf (UINT64_MAX - depositCount < forcedCount ∨
      UINT64_MAX - forcedCount - depositCount < appends) ""
    return appends + (forcedCount + depositCount)) 0

/-- The transactions of a package that are not selected yet. -/
def Selection.onlyUnconfirmed (selection : Selection) (package : List Child.CTransaction) :
    List Child.CTransaction :=
  package.filter fun tx => tx.hash ∉ selection.vtx.map (·.hash)

/-- Select a package unless it appends too many entries. -/
def Selection.addPackage (budget : ℕ) (selection : Selection)
    (package : List Child.CTransaction) : Selection :=
  let package := selection.onlyUnconfirmed package
  match countPackage N package with
  | .error _ => selection
  | .ok appends =>
    if budget < selection.sourceAppends ∨ budget - selection.sourceAppends < appends then selection
    else {
      vtx := selection.vtx ++ package
      sourceAppends := selection.sourceAppends + appends }

/-- Deposits from the parent chain that pay no fee come first.  Their markers are not counted. -/
def feeFreeDeposits (candidates : Candidates) : List Child.CTransaction :=
  if drivechainSlot then
    candidates.feeFree.filter fun tx => IsCanonicalFeeFreeDrivechainDeposit C tx
  else []

/-- Select transactions. -/
def addPackageTxs (budget : ℕ) (candidates : Candidates) : Selection :=
  candidates.packages.foldl (Selection.addPackage N budget)
    { vtx := feeFreeDeposits C drivechainSlot candidates }

/-! ### The template -/

/-- The backlog at the tip. -/
def getExchangeConsensusSnapshot (view : CCoinsView) (tip : Option Child.CBlockIndex) :
    Except String Backlog := do
  let index ← orReject tip "active tip has no complete ECX consensus context"
  rejectIf (¬index.HasExchangeState ∨ ¬index.HasForcedInbox ∨ ¬index.HasDepositInbox)
    "active tip has no complete ECX consensus context"
  let exchange ← getTracker N.peggedAsset view
  let forced ← getForcedTracker N.peggedAsset view
  let deposits ← getDepositTracker N.peggedAsset view
  rejectIf (exchange.root ≠ index.hashExchangeStateRoot ∨
      forced.root ≠ index.hashForcedInboxRoot ∨ deposits.root ≠ index.hashDepositInboxRoot ∨
      ¬index.HasInboxCursors ∨ forced.count < index.forcedProcessedCursor ∨
      deposits.count < index.depositProcessedCursor)
    "persisted ECX context disagrees with the active tip"
  let _ ← verifyTrackedCoin N view exchange
  return .of forced deposits (headerCursors index.toCBlockHeader)

end Model

/-! ### What is selected -/

/-- How many markers a transaction has. -/
def Sources.count (s : Sources) : ℕ := s.forced.toList.length + s.deposit.toList.length

/-- How many markers transactions have. -/
def markerCount (sources : List (Child.CTransaction × Sources)) : ℕ :=
  (sources.map (·.2.count)).sum

section Selection

variable {C : PegParameters} {drivechainSlot : Bool} {N : ExchangeNetwork} {tx : Child.CTransaction}
  {vtx package : List Child.CTransaction} {sources : List (Child.CTransaction × Sources)}
  {s : Sources} {height : ℤ} {p budget : ℕ} {candidates : Candidates}

theorem length_of_noteMarker {α : Type} {seen found : Option (ℕ × α)} {i : ℕ} {parsed : Option α}
    {e : String} (h : noteMarker seen i parsed e = .ok found) :
    found.toList.length =
      if parsed.isSome then seen.toList.length + 1 else seen.toList.length := by
  cases parsed with
  | none =>
    rw [← pure_eq_ok.1 h]
    rfl
  | some marker =>
    simp only [noteMarker, bind_eq_ok, rejectIf_eq_ok, pure_eq_ok] at h
    obtain ⟨_, hseen, rfl⟩ := h
    rw [Option.not_isSome_iff_eq_none] at hseen
    rw [hseen]
    rfl

theorem countMarkers_of_scanSources (h : scanSources N tx = .ok s) :
    countMarkers (parseForcedOutput N tx) tx = .ok s.forced.toList.length ∧
      countMarkers (parseDepositOutput N tx) tx = .ok s.deposit.toList.length := by
  unfold scanSources at h
  unfold countMarkers
  have hgeneral : ∀ (outputs : List (Child.CTxOut × ℕ)) (s₀ : Sources),
      outputs.foldlM (scanOutput N tx) s₀ = .ok s →
      outputs.foldlM (fun count output => do
          let parsed ← parseForcedOutput N tx output.2 output.1
          return if parsed.isSome then count + 1 else count) s₀.forced.toList.length =
        .ok s.forced.toList.length ∧
      outputs.foldlM (fun count output => do
          let parsed ← parseDepositOutput N tx output.2 output.1
          return if parsed.isSome then count + 1 else count) s₀.deposit.toList.length =
        .ok s.deposit.toList.length := by
    intro outputs
    induction outputs with
    | nil =>
      intro s₀ h
      rw [foldlM_nil_eq_ok.1 h]
      exact ⟨rfl, rfl⟩
    | cons output outputs ih =>
      intro s₀ h
      obtain ⟨mid, hmid, hrest⟩ := foldlM_cons_eq_ok.1 h
      obtain ⟨hforced, hdeposit⟩ := ih mid hrest
      simp only [scanOutput, bind_eq_ok, pure_eq_ok] at hmid
      obtain ⟨parsed, hparsed, forced, hf, parsed', hparsed', deposit, hd, rfl⟩ := hmid
      refine ⟨foldlM_cons_eq_ok.2 ⟨_, ?_, hforced⟩, foldlM_cons_eq_ok.2 ⟨_, ?_, hdeposit⟩⟩
      · rw [hparsed, length_of_noteMarker hf]
        rfl
      · rw [hparsed', length_of_noteMarker hd]
        rfl
  exact hgeneral _ _ h

theorem scanSources_of_count {counts : ℕ × ℕ}
    (h : countSourceTransactionMarkers N tx = .ok counts) :
    ∃ s, scanSources N tx = .ok s ∧ counts.1 + counts.2 = s.count := by
  simp only [countSourceTransactionMarkers, checkSourceTransactionPolicy, bind_eq_ok, pure_eq_ok]
    at h
  obtain ⟨_, ⟨s, hs, -⟩, forced, hforced, deposits, hdeposits, rfl⟩ := h
  obtain ⟨hf, hd⟩ := countMarkers_of_scanSources hs
  rw [hf, Except.ok.injEq] at hforced
  rw [hd, Except.ok.injEq] at hdeposits
  exact ⟨s, hs, by rw [Sources.count, hforced, hdeposits]⟩

theorem blockSources_append {vtx' : List Child.CTransaction} :
    blockSources N (vtx ++ vtx') = .ok sources ↔
      ∃ a b, blockSources N vtx = .ok a ∧ blockSources N vtx' = .ok b ∧ sources = a ++ b := by
  simp only [blockSources, List.mapM_append, bind_eq_ok, pure_eq_ok]
  constructor
  · rintro ⟨a, ha, b, hb, rfl⟩
    exact ⟨a, b, ha, hb, rfl⟩
  · rintro ⟨a, b, ha, hb, rfl⟩
    exact ⟨a, ha, b, hb, rfl⟩

theorem blockSources_cons :
    blockSources N (tx :: vtx) = .ok sources ↔
      ∃ s rest, scanSources N tx = .ok s ∧ blockSources N vtx = .ok rest ∧
        sources = (tx, s) :: rest := by
  simp only [blockSources, List.mapM_cons, bind_eq_ok, pure_eq_ok, map_eq_ok]
  constructor
  · rintro ⟨_, ⟨s, hs, rfl⟩, rest, hrest, rfl⟩
    exact ⟨s, rest, hs, hrest, rfl⟩
  · rintro ⟨s, rest, hs, hrest, rfl⟩
    exact ⟨_, ⟨s, hs, rfl⟩, rest, hrest, rfl⟩

theorem blockSources_of_countPackage {appends : ℕ} (h : countPackage N package = .ok appends) :
    ∃ sources, blockSources N package = .ok sources ∧ markerCount sources = appends := by
  refine foldlM_induction h ⟨[], rfl, rfl⟩ ?_
  rintro seen tx _ appends - ⟨sources, hsources, rfl⟩ hstep
  simp only [bind_eq_ok, rejectIf_eq_ok, pure_eq_ok] at hstep
  obtain ⟨counts, hcounts, _, -, rfl⟩ := hstep
  obtain ⟨s, hs, hcount⟩ := scanSources_of_count hcounts
  refine ⟨sources ++ [(tx, s)], blockSources_snoc.2 ⟨sources, s, hsources, hs, rfl⟩, ?_⟩
  simp [markerCount, hcount]

/-- What is known of a selection: its markers are counted, and within the budget. -/
structure Selection.Fits (N : ExchangeNetwork) (budget : ℕ) (candidates : Candidates)
    (selection : Selection) : Prop where
  counted : ∃ sources, blockSources N selection.vtx = .ok sources ∧
    markerCount sources = selection.sourceAppends
  appends_le : selection.sourceAppends ≤ budget
  /-- Nothing is made up. -/
  subset : selection.vtx ⊆ candidates.transactions
  nodup : (selection.vtx.map (·.hash)).Nodup

theorem Selection.Fits.addPackage {selection : Selection}
    (h : selection.Fits N budget candidates) (hpackage : package ∈ candidates.packages) :
    (selection.addPackage N budget package).Fits N budget candidates := by
  simp only [Selection.addPackage]
  cases hcount : countPackage N (selection.onlyUnconfirmed package) with
  | error => exact h
  | ok appends =>
    dsimp only
    split_ifs with hbudget
    · exact h
    obtain ⟨before, hbefore, hselected⟩ := h.counted
    obtain ⟨added, hadded, happends⟩ := blockSources_of_countPackage hcount
    refine ⟨⟨before ++ added, blockSources_append.2 ⟨_, _, hbefore, hadded, rfl⟩, ?_⟩, ?_, ?_, ?_⟩
    · rw [← hselected, ← happends]
      simp [markerCount]
    · show selection.sourceAppends + appends ≤ budget
      omega
    · refine List.append_subset.2 ⟨h.subset, fun tx htx => ?_⟩
      exact List.mem_append_right _
        (List.mem_flatten.2 ⟨package, hpackage, List.mem_of_mem_filter htx⟩)
    · rw [List.map_append, List.nodup_append]
      refine ⟨h.nodup, (candidates.packages_nodup package hpackage).sublist
        (List.filter_sublist.map _), ?_⟩
      rintro _ hold _ hnew rfl
      obtain ⟨tx, htx, rfl⟩ := List.mem_map.1 hnew
      exact absurd hold (by simpa using (List.mem_filter.1 htx).2)

/-- A deposit from the parent chain has an output that holds something, so it is no source. -/
theorem scanSources_of_feeFree (h : IsCanonicalFeeFreeDrivechainDeposit C tx)
    (hs : scanSources N tx = .ok s) : s.IsEmpty := by
  obtain ⟨hvin, hvout, -, -, hcheck⟩ := h
  obtain ⟨x, hx⟩ : ∃ x, tx.inputs[0]? = some x := by
    cases hx : tx.inputs[0]? with
    | none => simp [checkDrivechainDepositOutputs, hx] at hcheck
    | some x => exact ⟨x, rfl⟩
  obtain ⟨deposit, hdeposit⟩ := checkDrivechainDepositOutputs_spec hx hcheck
  obtain ⟨output, houtputs⟩ := List.length_eq_one_iff.1 hvout
  have hvalue : output.nValue ≠ .explicit 0 := by
    obtain ⟨script, recipient, -, hfilter, -, hpays, -⟩ := hdeposit.recipient
    have hmem : recipient ∈ tx.vout.filter (·.scriptPubKey = script) := by
      rw [hfilter]
      exact List.mem_singleton_self _
    have hrecipient : recipient = output := by simpa [houtputs] using (List.mem_filter.1 hmem).1
    rw [← hrecipient, hpays]
    have hpos := value_pos_of_native hdeposit.native
    intro hzero
    rw [Confidential.explicit.inj hzero] at hpos
    exact absurd hpos (lt_irrefl 0)
  have hnothing : ∀ {i o}, tx.vout[i]? = some o → ¬HoldsNothing N tx i o := by
    intro i o ho hholds
    obtain rfl : o = output := by simpa [houtputs] using List.mem_of_getElem? ho
    exact hvalue hholds.2.1
  exact isEmpty_of_scanSources hs (fun ho h => hnothing ho (parseForcedOutput_spec h).2.2.1)
    fun ho h => hnothing ho (parseDepositOutput_spec h).2.2.1

theorem blockSources_of_forall (h : ∀ tx ∈ vtx, ∃ s, scanSources N tx = .ok s) :
    ∃ sources, blockSources N vtx = .ok sources := by
  refine exists_mapM_eq_ok_iff.2 fun tx htx => ?_
  obtain ⟨s, hs⟩ := h tx htx
  exact ⟨_, map_eq_ok.2 ⟨s, hs, rfl⟩⟩

theorem markerCount_of_noMarkers (h : NoMarkers sources) : markerCount sources = 0 := by
  refine List.sum_eq_zero fun n hn => ?_
  obtain ⟨x, hx, rfl⟩ := List.mem_map.1 hn
  simp [Sources.count, (h x hx).1, (h x hx).2]

/-- **The markers of a selection are within the budget**, those of the transactions that are not
counted included. -/
theorem addPackageTxs_fits (hscan : ∀ tx ∈ candidates.feeFree, ∃ s, scanSources N tx = .ok s) :
    (addPackageTxs C drivechainSlot N budget candidates).Fits N budget candidates := by
  have hstart : Selection.Fits N budget candidates
      { vtx := feeFreeDeposits C drivechainSlot candidates } := by
    cases drivechainSlot with
    | false => exact ⟨⟨[], rfl, rfl⟩, Nat.zero_le _, List.nil_subset _, List.nodup_nil⟩
    | true =>
      obtain ⟨sources, hsources⟩ : ∃ sources, blockSources N (candidates.feeFree.filter
          fun tx => IsCanonicalFeeFreeDrivechainDeposit C tx) = .ok sources :=
        blockSources_of_forall fun tx htx => hscan tx (List.mem_filter.1 htx).1
      refine ⟨⟨sources, hsources, markerCount_of_noMarkers fun x hx => ?_⟩, Nat.zero_le _,
        fun tx htx => List.mem_append_left _ (List.mem_filter.1 htx).1,
        candidates.feeFree_nodup.sublist (List.filter_sublist.map _)⟩
      obtain ⟨hmem, hs⟩ := of_mem_blockSources hsources hx
      exact scanSources_of_feeFree (of_decide_eq_true (List.mem_filter.1 hmem).2) hs
  have hrun : ∀ (packages : List (List Child.CTransaction)) (selection : Selection),
      packages ⊆ candidates.packages → selection.Fits N budget candidates →
      (packages.foldl (Selection.addPackage N budget) selection).Fits N budget candidates := by
    intro packages
    induction packages with
    | nil => exact fun _ _ h => h
    | cons package packages ih =>
      intro selection hsubset h
      rw [List.cons_subset] at hsubset
      exact ih _ hsubset.2 (h.addPackage hsubset.1)
  exact hrun _ _ (List.Subset.refl _) hstart

/-! ### Transactions that can be selected together -/

theorem Sources.count_le (s : Sources) : s.count ≤ 2 := by
  unfold Sources.count
  cases s.forced <;> cases s.deposit <;> simp

theorem markerCount_le (h : blockSources N vtx = .ok sources) :
    markerCount sources ≤ 2 * vtx.length := by
  induction vtx generalizing sources with
  | nil =>
    obtain rfl : [] = sources := pure_eq_ok.1 h
    exact le_rfl
  | cons tx vtx ih =>
    obtain ⟨s, rest, -, hrest, rfl⟩ := blockSources_cons.1 h
    have hle := s.count_le
    have := ih hrest
    simp only [markerCount, List.map_cons, List.sum_cons, List.length_cons] at this ⊢
    omega

theorem countPackage_singleton (hactive : ActiveAt N.consensus.activationHeight N.consensus)
    (hs : scanSources N tx = .ok s) : countPackage N [tx] = .ok s.count := by
  obtain ⟨hforced, hdeposit⟩ := countMarkers_of_scanSources hs
  have hcounts : countSourceTransactionMarkers N tx =
      .ok (s.forced.toList.length, s.deposit.toList.length) := by
    simp only [countSourceTransactionMarkers, checkSourceTransactionPolicy, bind_eq_ok,
      rejectIf_eq_ok, pure_eq_ok]
    exact ⟨(), ⟨s, hs, by simp [hactive]⟩, _, hforced, _, hdeposit, rfl⟩
  have hle := s.count_le
  rw [Sources.count] at hle
  simp only [countPackage, foldlM_cons_eq_ok, foldlM_nil_eq_ok, bind_eq_ok, rejectIf_eq_ok,
    pure_eq_ok, exists_eq_right]
  exact ⟨_, hcounts, (), by simp only [UINT64_MAX]; omega, by simp [Sources.count]⟩

theorem transactions_singletons :
    Candidates.transactions { packages := vtx.map ([·]) } = vtx := by
  simp [Candidates.transactions, ← List.flatMap_def]

/-- **Transactions whose markers are within the budget are selected together**, if they come one by
one. -/
theorem addPackageTxs_singletons (hactive : ActiveAt N.consensus.activationHeight N.consensus)
    (hnodup : (vtx.map (·.hash)).Nodup) (hsources : blockSources N vtx = .ok sources)
    (hcount : markerCount sources ≤ budget) :
    addPackageTxs C drivechainSlot N budget { packages := vtx.map ([·]) } =
      { vtx := vtx, sourceAppends := markerCount sources } := by
  unfold addPackageTxs
  induction vtx using List.reverseRecOn generalizing sources with
  | nil =>
    obtain rfl : [] = sources := pure_eq_ok.1 hsources
    cases drivechainSlot <;> rfl
  | append_singleton vtx tx ih =>
    obtain ⟨before, s, hbefore, hs, rfl⟩ := blockSources_snoc.1 hsources
    have hsum : markerCount (before ++ [(tx, s)]) = markerCount before + s.count := by
      simp [markerCount]
    rw [List.map_append, List.nodup_append] at hnodup
    have hnew : Selection.onlyUnconfirmed { vtx := vtx, sourceAppends := markerCount before } [tx] =
        [tx] := by
      refine List.filter_eq_self.2 (List.forall_mem_singleton.2 (decide_eq_true fun hold => ?_))
      exact hnodup.2.2 _ hold _ (List.mem_singleton_self _) rfl
    simp only [List.map_append, List.foldl_append, List.map_cons, List.map_nil, List.foldl_cons,
      List.foldl_nil] at ih ⊢
    refine (congrArg (Selection.addPackage N budget · [tx])
      (ih hnodup.1 hbefore (by omega))).trans ?_
    simp only [Selection.addPackage, hnew, countPackage_singleton hactive hs]
    rw [if_neg (by omega), hsum]

/-! ### The work of forced actions -/

/-- The work that the forced action among some markers causes. -/
def Sources.orderWork (s : Sources) : ℕ :=
  s.forced.elim 0 fun marker => (forcedActionWork marker.2.kind).getD 0

variable (N) in
/-- The work that the forced action of a transaction causes. -/
def orderWork (tx : Child.CTransaction) : ℕ :=
  match scanSources N tx with
  | .ok s => s.orderWork
  | .error _ => 0

end Selection

/-! ### The mempool -/

/-- A transaction is admitted to the mempool, on top of a chain. -/
structure Admitted (P : RelayNetwork) (chain : ExchangeChain) (tx : Child.CTransaction) :
    Prop where
  standard : isStandardTx P tx = .ok ()
  witness : isWitnessStandard P chain.view tx = true
  /-- Its markers are read. -/
  sources : checkSourceTransactionPolicy P.toExchangeNetwork tx (chain.height + 1) = .ok ()

/-- The mempool: transactions that were admitted one by one, with different hashes. -/
structure Mempool (P : RelayNetwork) (chain : ExchangeChain) where
  transactions : List Child.CTransaction
  admitted : ∀ tx ∈ transactions, Admitted P chain tx
  txids : (transactions.map (·.hash)).Nodup
  wtxids : (transactions.map P.witnessHash).Nodup

section Mempool

variable {P : RelayNetwork} {chain : ExchangeChain} (mempool : Mempool P chain)
  {tx : Child.CTransaction} {vtx : List Child.CTransaction} {C : PegParameters} {budget : ℕ}
  {candidates : Candidates}
include mempool

theorem Mempool.exists_scanSources (htx : tx ∈ mempool.transactions) :
    ∃ s, scanSources P.toExchangeNetwork tx = .ok s := by
  obtain ⟨s, hs, -⟩ := bind_eq_ok.1 (mempool.admitted tx htx).sources
  exact ⟨s, hs⟩

theorem Mempool.exists_blockSources (hvtx : vtx ⊆ mempool.transactions) :
    ∃ sources, blockSources P.toExchangeNetwork vtx = .ok sources :=
  blockSources_of_forall fun _ htx => mempool.exists_scanSources (hvtx htx)

variable (hsubset : candidates.transactions ⊆ mempool.transactions)
include hsubset

theorem Mempool.fits (C : PegParameters) (budget : ℕ) :
    (addPackageTxs C P.drivechainSlot P.toExchangeNetwork budget candidates).Fits
      P.toExchangeNetwork budget candidates :=
  addPackageTxs_fits fun _ htx =>
    mempool.exists_scanSources (hsubset (List.mem_append_left _ htx))

theorem Mempool.subperm : List.Subperm
    (addPackageTxs C P.drivechainSlot P.toExchangeNetwork budget candidates).vtx
    mempool.transactions :=
  have hfits := mempool.fits hsubset C budget
  List.subperm_of_subset hfits.nodup.of_map (List.Subset.trans hfits.subset hsubset)

end Mempool

/-! ### Transitions -/

section Template

variable {C : PegParameters} {drivechainSlot : Bool} {N : ExchangeNetwork}
  {vtx : List Child.CTransaction} {chain : ExchangeChain} {t : Trackers}
  {index : Child.CBlockIndex} {template : Child.CBlock} {coinbase : Child.CTransaction}
  {candidates : Candidates} {p : ℕ}

/-- The exchange is active, its records agree with the tip, and everything is processed. -/
structure Ready (N : ExchangeNetwork) (chain : ExchangeChain) (t : Trackers)
    (index : Child.CBlockIndex) : Prop where
  configured : consensusConfigured N.toExchangeCrypto N.consensus = .ok ()
  synced : Synced N chain t index
  /-- The singleton is unspent. -/
  singleton : ∃ output, verifyTrackedCoin N chain.view t.state = .ok output
  /-- No forced action waits. -/
  forced : index.forcedProcessedCursor = t.forced.count
  /-- No deposit waits. -/
  deposits : index.depositProcessedCursor = t.deposits.count

theorem Ready.snapshot (h : Ready N chain t index) :
    getExchangeConsensusSnapshot N chain.view chain.tip =
      .ok (.of t.forced t.deposits (headerCursors index.toCBlockHeader)) := by
  obtain ⟨output, houtput⟩ := h.singleton
  obtain ⟨htip, -, hstored, hreadable, hcommitted, hstate, hforced, hdeposits⟩ := h.synced
  simp only [getExchangeConsensusSnapshot, htip, bind_eq_ok, orReject_eq_ok, rejectIf_eq_ok,
    pure_eq_ok, hstored.getTracker hreadable, hstored.getForcedTracker hreadable,
    hstored.getDepositTracker hreadable, Except.ok.injEq]
  refine ⟨index, rfl, (), ?_, t.state, rfl, t.forced, rfl, t.deposits, rfl, (), ?_, output,
    houtput, rfl⟩
  · simp [hcommitted.exchangeState, hcommitted.forcedInbox, hcommitted.depositInbox]
  · simp [hstate, hforced, hdeposits, hcommitted.cursors, h.forced, h.deposits]

theorem Ready.activeAt {height : ℤ} (h : Ready N chain t index)
    (hle : N.consensus.activationHeight ≤ height) : ActiveAt height N.consensus := by
  have hconfigured := h.configured
  simp only [consensusConfigured, bind_eq_ok, rejectIf_eq_ok] at hconfigured
  obtain ⟨_, hne, -⟩ := hconfigured
  exact ⟨hne, hle⟩

variable {P : RelayNetwork}

end Template

/-! ### Transactions that stop a miner -/

namespace Sample

/-- The network of a miner. -/
def minerNetwork : RelayNetwork := { relayNetwork true with
  toExchangeNetwork := { exchangeNetwork with
    consensus := { exchangeNetwork.consensus with
      bondV2 := { activationEnabled := true, identitiesFrozen := true } } } }

/-- An output of a user. -/
def userOutpoint (id : UInt8) : COutPoint := ⟨.ofByte id, 0⟩

/-- The header of the block that activated the exchange. -/
def minerIndex : Child.CBlockIndex where
  nVersion := 0x1fffff
  hashExchangeStateRoot := (genesisState minerNetwork.toExchangeNetwork).root
  hashForcedInboxRoot := (forcedGenesis minerNetwork.toExchangeNetwork).root
  hashDepositInboxRoot := (depositGenesis minerNetwork.toExchangeNetwork).root
  ecxParentHeight := 100
  nHeight := 1
  hash := .ofByte 1

/-- The coins of a user. -/
def userCoins (view : CCoinsView) (id : UInt8) : CCoinsView :=
  view.addCoin (userOutpoint id) {
    out := { singletonOutput 3 with nAsset := .explicit (.ofByte 8), nValue := .explicit 1000 }
    nHeight := 0, fCoinBase := false }

/-- A chain on which the exchange was just activated, and a user has some coins. -/
def minerChain : ExchangeChain where
  view := setTrackers minerNetwork.toExchangeNetwork
    ([60, 62, 63].foldl userCoins exchangeStart.view)
    (genesisState minerNetwork.toExchangeNetwork) (forcedGenesis minerNetwork.toExchangeNetwork)
    (depositGenesis minerNetwork.toExchangeNetwork) 1
  tip := some minerIndex
  height := 1

/-- A transaction of the user: it pays a fee, and has an output that cannot be spent. -/
def userTransaction (id : UInt8) (script : CScript) : Child.CTransaction where
  vin := [.ofPrevout (userOutpoint id)]
  scriptWitness := [[List.replicate 64 0]]
  vout := [{ nAsset := .explicit (.ofByte 8), nValue := .explicit 0, scriptPubKey := script },
    { nAsset := .explicit (.ofByte 8), nValue := .explicit 1000, scriptPubKey := [] }]
  hash := .ofByte id
  vout_length_lt := by simp

/-- A transaction that carries data. -/
def dataTransaction (data : Bytes) : Child.CTransaction :=
  userTransaction 60 (OP_RETURN :: UInt8.ofNat data.length :: data)

/-- The coinbase of a template. -/
def minerCoinbase : Child.CTransaction := .emptyCoinbase (.ofByte 61)

/-- A template that is still empty. -/
def minerTemplate : Child.CBlock where
  hash := .ofByte 2
  vtx := []

end Sample

open Ecx.Sample

end ElementsDrivechain.Ecx
