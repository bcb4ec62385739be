import ElementsDrivechain.Bmm.State
import ElementsDrivechain.Ecx.Sources

/-!
# The inboxes of the exchange

Each inbox is a chain of hashes.  A block appends the entries of its markers, in the order of its
transactions; an entry commits to its place in the chain, to its source and to the heights at which
it was appended.

* `deriveInboxNext_eq_ok` : **the inboxes after a block are those before it with the entries of the
  block appended.**
-/

namespace ElementsDrivechain.Ecx

open Fallible

/-! ### Entries -/

/-- An entry of the inbox of forced actions. -/
structure ForcedEntry where
  kind : UInt8
  body : Bytes
  sourceTxid : Uint256
  sourceVout : ℕ
  sidechainHeight : ℕ
  parentHeight : ℕ
deriving DecidableEq

/-- An entry of the inbox of deposits. -/
structure DepositEntry where
  sourceTxid : Uint256
  depositVout : ℕ
  markerVout : ℕ
  /-- The output that holds the deposit. -/
  output : Child.CTxOut
  trader : Bytes
  sidechainHeight : ℕ
  parentHeight : ℕ
deriving DecidableEq

section Append

variable (C : ExchangeCrypto) (consensus : ExchangeConsensus)

/-- What an entry commits to first: the chain, and its place in the inbox. -/
def InboxTracker.placeBytes (tracker : InboxTracker) (sidechainHeight parentHeight : ℕ) : Bytes :=
  1 :: (consensus.chainId.data ++ (writeBE 8 tracker.count.toNat ++ (tracker.root.data ++
    (writeBE 8 sidechainHeight ++ writeBE 8 parentHeight))))

/-- What an entry commits to. -/
def ForcedEntry.payload (tracker : InboxTracker) (entry : ForcedEntry) : Bytes :=
  tracker.placeBytes consensus entry.sidechainHeight entry.parentHeight ++
    (entry.sourceTxid.data ++ (writeBE 4 entry.sourceVout ++ (entry.kind :: entry.body)))

/-- What an entry commits to. -/
def DepositEntry.payload (tracker : InboxTracker) (entry : DepositEntry) : Bytes :=
  tracker.placeBytes consensus entry.sidechainHeight entry.parentHeight ++
    (entry.sourceTxid.data ++ (writeBE 4 entry.depositVout ++ (writeBE 4 entry.markerVout ++
      ((txOutHash C entry.output).data ++ entry.trader))))

/-- The step from one head of an inbox to the next. -/
def InboxTracker.stepPayload (tracker : InboxTracker) (entryHash : Uint256) : Bytes :=
  tracker.root.data ++ (writeBE 8 tracker.count.toNat ++ entryHash.data)

/-- Append the hash of an entry. -/
def InboxTracker.append (tracker : InboxTracker) (stepTag : String) (entryHash : Uint256) :
    InboxTracker where
  root := taggedHash C stepTag (tracker.stepPayload entryHash)
  count := tracker.count + 1

/-- Appends a forced action. -/
def InboxTracker.appendForced (tracker : InboxTracker) (entry : ForcedEntry) : InboxTracker :=
  tracker.append C "ECX/forced-inbox-step/v1"
    (taggedHash C "ECX/forced-action-entry/v1" (entry.payload consensus tracker))

/-- Appends a deposit. -/
def InboxTracker.appendDeposit (tracker : InboxTracker) (entry : DepositEntry) : InboxTracker :=
  tracker.append C "ECX/deposit-inbox-step/v1"
    (taggedHash C "ECX/deposit-event/v1" (entry.payload C consensus tracker))

end Append

/-! ### Blocks -/

/-- The work that a forced action causes. -/
def forcedActionWork (kind : UInt8) : Option ℕ :=
  if kind = 0 then some 1
  else if kind = 1 then some MAX_FORCED_TRANCHE_ORDER_WORK
  else if kind = 2 then some 0
  else none

/-- The work that the forced actions of a block cause, which is bounded. -/
def computeForcedTrancheOrderWork (kinds : List UInt8) : Except String ℕ :=
  kinds.foldlM (fun orderWork kind => do
    let actionWork ← orReject (forcedActionWork kind) "unknown ECX forced-action kind"
    rejectIf (MAX_FORCED_TRANCHE_ORDER_WORK - orderWork < actionWork)
      "parent-height tranche exceeds the 64-operation budget"
    return orderWork + actionWork) 0

/-- The largest value of a word of 64 bits. -/
def UINT64_MAX : ℕ := 2 ^ 64 - 1

/-- The state of the walk over the transactions of a block. -/
structure InboxScan where
  forced : InboxTracker
  deposits : InboxTracker
  /-- The height of the parent chain, once it was looked up. -/
  parentHeight : Option ℕ := none
  forcedKinds : List UInt8 := []
  forcedAppends : ℕ := 0
  depositAppends : ℕ := 0
deriving DecidableEq

/-- The output that a marker of a deposit refers to. -/
def depositOutput (tx : Child.CTransaction) (deposit : DepositPayload) : Child.CTxOut :=
  tx.vout[deposit.depositVout]?.getD { nAsset := .null, nValue := .null, scriptPubKey := [] }

/-- The entry of a forced action of a transaction. -/
def forcedEntry (tx : Child.CTransaction) (height : ℤ) (parentHeight : ℕ)
    (marker : ℕ × ForcedActionPayload) : ForcedEntry where
  kind := marker.2.kind
  body := marker.2.body
  sourceTxid := tx.hash
  sourceVout := marker.1
  sidechainHeight := height.toNat
  parentHeight := parentHeight

/-- The entry of a deposit of a transaction. -/
def depositEntry (tx : Child.CTransaction) (height : ℤ) (parentHeight : ℕ)
    (marker : ℕ × DepositPayload) : DepositEntry where
  sourceTxid := tx.hash
  depositVout := marker.2.depositVout
  markerVout := marker.1
  output := depositOutput tx marker.2
  trader := marker.2.trader
  sidechainHeight := height.toNat
  parentHeight := parentHeight

section Derive

variable (N : ExchangeNetwork)

/-- The height of the parent chain, which is given or that of the stored state. -/
def resolveAuthenticatedParentHeight (view : CCoinsView) (supplied : Option ℕ) :
    Except String ℕ :=
  match supplied with
  | some height => do
    rejectIf (height = 0) "ECX inbox event parent height must be nonzero"
    return height
  | none => do
    let state ← getBmmState N.peggedAsset view
    let state ← orReject state "ECX inbox event requires the authenticated BMM parent height"
    rejectIf (state.height = 0) ""
    return state.height.toNat

namespace InboxScan

/-- Look the height of the parent chain up, the first time that it is needed. -/
def resolve (scan : InboxScan) (view : CCoinsView) (supplied : Option ℕ) (sources : Sources) :
    Except String InboxScan :=
  if sources.IsEmpty ∨ scan.parentHeight.isSome then pure scan
  else do
    let parentHeight ← resolveAuthenticatedParentHeight N view supplied
    return { scan with parentHeight := some parentHeight }

/-- Append the forced action of a transaction, if it has one. -/
def takeForced (scan : InboxScan) (tx : Child.CTransaction) (height : ℤ) :
    Option (ℕ × ForcedActionPayload) → Except String InboxScan
  | none => pure scan
  | some marker => do
    rejectIf (scan.forced.count.toNat = UINT64_MAX) "ECX forced inbox index overflow"
    let _ ← (computeForcedTrancheOrderWork (scan.forcedKinds ++ [marker.2.kind])).mapError
      ("ECX forced-action source tranche is overweight: " ++ ·)
    return { scan with
      forced := scan.forced.appendForced N.toExchangeCrypto N.consensus
        (forcedEntry tx height (scan.parentHeight.getD 0) marker)
      forcedKinds := scan.forcedKinds ++ [marker.2.kind]
      forcedAppends := scan.forcedAppends + 1 }

/-- Append the deposit of a transaction, if it has one. -/
def takeDeposit (scan : InboxScan) (tx : Child.CTransaction) (height : ℤ) :
    Option (ℕ × DepositPayload) → Except String InboxScan
  | none => pure scan
  | some marker => do
    rejectIf (scan.deposits.count.toNat = UINT64_MAX) "ECX deposit inbox index overflow"
    return { scan with
      deposits := scan.deposits.appendDeposit N.toExchangeCrypto N.consensus
        (depositEntry tx height (scan.parentHeight.getD 0) marker)
      depositAppends := scan.depositAppends + 1 }

/-- Append the entries of a transaction. -/
def transaction (view : CCoinsView) (height : ℤ) (supplied : Option ℕ) (scan : InboxScan)
    (tx : Child.CTransaction) : Except String InboxScan := do
  let sources ← scanSources N tx
  let scan ← scan.resolve N view supplied sources
  let scan ← scan.takeForced N tx height sources.forced
  scan.takeDeposit N tx height sources.deposit

end InboxScan

/-- The inboxes after a block. -/
def deriveInboxNext (vtx : List Child.CTransaction) (view : CCoinsView) (height : ℤ)
    (supplied : Option ℕ) (previousForced previousDeposits : InboxTracker) :
    Except String InboxScan :=
  vtx.foldlM (InboxScan.transaction N view height supplied)
    { forced := previousForced, deposits := previousDeposits }

/-- The markers of the transactions of a block. -/
def blockSources (vtx : List Child.CTransaction) :
    Except String (List (Child.CTransaction × Sources)) :=
  vtx.mapM fun tx => (tx, ·) <$> scanSources N tx

end Derive

/-- The entries that sources append to the inbox of forced actions. -/
def forcedEntries (height : ℤ) (parentHeight : ℕ) (sources : List (Child.CTransaction × Sources)) :
    List ForcedEntry :=
  sources.flatMap fun s => s.2.forced.toList.map (forcedEntry s.1 height parentHeight)

/-- The entries that sources append to the inbox of deposits. -/
def depositEntries (height : ℤ) (parentHeight : ℕ)
    (sources : List (Child.CTransaction × Sources)) : List DepositEntry :=
  sources.flatMap fun s => s.2.deposit.toList.map (depositEntry s.1 height parentHeight)

/-! ### What a block appends -/

section Spec

variable {N : ExchangeNetwork} {view : CCoinsView} {height : ℤ} {p : ℕ} {scan scan' : InboxScan}
  {tx : Child.CTransaction} {sources : List (Child.CTransaction × Sources)}

/-- Append entries to the inbox of forced actions. -/
def InboxTracker.appendAllForced (N : ExchangeNetwork) (tracker : InboxTracker)
    (entries : List ForcedEntry) : InboxTracker :=
  entries.foldl (InboxTracker.appendForced N.toExchangeCrypto N.consensus) tracker

/-- Append entries to the inbox of deposits. -/
def InboxTracker.appendAllDeposits (N : ExchangeNetwork) (tracker : InboxTracker)
    (entries : List DepositEntry) : InboxTracker :=
  entries.foldl (InboxTracker.appendDeposit N.toExchangeCrypto N.consensus) tracker

theorem toNat_count_succ {n : UInt64} (h : n.toNat + 1 < 2 ^ 64) : (n + 1).toNat = n.toNat + 1 := by
  rw [UInt64.toNat_add, UInt64.toNat_one, Nat.mod_eq_of_lt h]

theorem InboxTracker.toNat_count_foldl {ε : Type} {append : InboxTracker → ε → InboxTracker}
    (happend : ∀ tracker entry, (append tracker entry).count = tracker.count + 1)
    (entries : List ε) (tracker : InboxTracker)
    (h : tracker.count.toNat + entries.length < 2 ^ 64) :
    (entries.foldl append tracker).count.toNat = tracker.count.toNat + entries.length := by
  induction entries generalizing tracker with
  | nil => rfl
  | cons entry entries ih =>
    have hcount : (append tracker entry).count.toNat = tracker.count.toNat + 1 := by
      rw [happend]
      exact toNat_count_succ (by simp at h; omega)
    rw [List.foldl_cons, ih _ (by rw [hcount]; simp at h ⊢; omega), hcount, List.length_cons]
    omega

theorem InboxTracker.toNat_count_appendAllForced {tracker : InboxTracker}
    {entries : List ForcedEntry} (h : tracker.count.toNat + entries.length < 2 ^ 64) :
    (tracker.appendAllForced N entries).count.toNat = tracker.count.toNat + entries.length :=
  toNat_count_foldl (fun _ _ => rfl) entries tracker h

theorem InboxTracker.toNat_count_appendAllDeposits {tracker : InboxTracker}
    {entries : List DepositEntry} (h : tracker.count.toNat + entries.length < 2 ^ 64) :
    (tracker.appendAllDeposits N entries).count.toNat = tracker.count.toNat + entries.length :=
  toNat_count_foldl (fun _ _ => rfl) entries tracker h

theorem forcedEntries_append (sources sources' : List (Child.CTransaction × Sources)) :
    forcedEntries height p (sources ++ sources') =
      forcedEntries height p sources ++ forcedEntries height p sources' :=
  List.flatMap_append

theorem depositEntries_append (sources sources' : List (Child.CTransaction × Sources)) :
    depositEntries height p (sources ++ sources') =
      depositEntries height p sources ++ depositEntries height p sources' :=
  List.flatMap_append

/-- None of the transactions has a marker. -/
def NoMarkers (sources : List (Child.CTransaction × Sources)) : Prop := ∀ s ∈ sources, s.2.IsEmpty
deriving Decidable

theorem noMarkers_append {sources' : List (Child.CTransaction × Sources)} :
    NoMarkers (sources ++ sources') ↔ NoMarkers sources ∧ NoMarkers sources' :=
  List.forall_mem_append

theorem noMarkers_singleton {s : Sources} : NoMarkers [(tx, s)] ↔ s.IsEmpty :=
  List.forall_mem_singleton

/-- The walk over transactions that have the given sources. -/
def InboxScan.after (N : ExchangeNetwork) (height : ℤ) (p : ℕ) (forced deposits : InboxTracker)
    (sources : List (Child.CTransaction × Sources)) : InboxScan where
  forced := forced.appendAllForced N (forcedEntries height p sources)
  deposits := deposits.appendAllDeposits N (depositEntries height p sources)
  parentHeight := if NoMarkers sources then none else some p
  forcedKinds := (forcedEntries height p sources).map (·.kind)
  forcedAppends := (forcedEntries height p sources).length
  depositAppends := (depositEntries height p sources).length

/-- The entries of some sources can be appended. -/
@[mk_iff] structure Appendable (height : ℤ) (p : ℕ) (forced deposits : InboxTracker)
    (sources : List (Child.CTransaction × Sources)) : Prop where
  /-- The parent height is known where it is needed. -/
  parentHeight : ¬NoMarkers sources → p ≠ 0
  /-- The orders are not too much work. -/
  orderWork : ∃ work, computeForcedTrancheOrderWork
    ((forcedEntries height p sources).map (·.kind)) = .ok work
  /-- The inboxes do not overflow. -/
  forcedCount : forced.count.toNat + (forcedEntries height p sources).length < 2 ^ 64
  depositCount : deposits.count.toNat + (depositEntries height p sources).length < 2 ^ 64

variable {forced deposits : InboxTracker}

theorem computeForcedTrancheOrderWork_append {kinds kinds' : List UInt8} {work : ℕ}
    (h : computeForcedTrancheOrderWork (kinds ++ kinds') = .ok work) :
    ∃ work', computeForcedTrancheOrderWork kinds = .ok work' := by
  obtain ⟨work', hwork', -⟩ := foldlM_append_eq_ok.1 h
  exact ⟨work', hwork'⟩

theorem Appendable.append_left {sources' : List (Child.CTransaction × Sources)}
    (h : Appendable height p forced deposits (sources ++ sources')) :
    Appendable height p forced deposits sources where
  parentHeight := fun hne => h.parentHeight (mt (fun hall => (noMarkers_append.1 hall).1) hne)
  orderWork := by
    obtain ⟨work, hwork⟩ := h.orderWork
    rw [forcedEntries_append, List.map_append] at hwork
    exact computeForcedTrancheOrderWork_append hwork
  forcedCount := by
    have := h.forcedCount
    rw [forcedEntries_append, List.length_append] at this
    omega
  depositCount := by
    have := h.depositCount
    rw [depositEntries_append, List.length_append] at this
    omega

/-- The height of the parent chain is known once a transaction has a marker. -/
theorem InboxScan.resolve_after {s : Sources} :
    (InboxScan.after N height p forced deposits sources).resolve N view (some p) s = .ok scan' ↔
      (NoMarkers sources → ¬s.IsEmpty → p ≠ 0) ∧
      scan' = { InboxScan.after N height p forced deposits sources with
        parentHeight := if NoMarkers sources ∧ s.IsEmpty then none else some p } := by
  unfold resolve
  by_cases hempty : s.IsEmpty
  · rw [if_pos (.inl hempty), pure_eq_ok, eq_comm]
    simp [after, hempty]
  by_cases hall : NoMarkers sources
  · have hnone : (after N height p forced deposits sources).parentHeight = none := if_pos hall
    rw [if_neg (by simp [hempty, hnone])]
    simp only [resolveAuthenticatedParentHeight, bind_eq_ok, rejectIf_eq_ok, pure_eq_ok]
    simp [hall, hempty, eq_comm]
  · have hsome : (after N height p forced deposits sources).parentHeight = some p := if_neg hall
    rw [if_pos (.inr (by simp [hsome])), pure_eq_ok, eq_comm]
    simp [after, hall]

/-- A forced action is appended if the inbox has room for it and the work stays in its bounds. -/
theorem InboxScan.takeForced_eq_ok {marker : Option (ℕ × ForcedActionPayload)} :
    scan.takeForced N tx height marker = .ok scan' ↔
      (∀ m ∈ marker, scan.forced.count.toNat ≠ UINT64_MAX ∧
        ∃ work, computeForcedTrancheOrderWork (scan.forcedKinds ++ [m.2.kind]) = .ok work) ∧
      scan' = { scan with
        forced := scan.forced.appendAllForced N
          (marker.toList.map (forcedEntry tx height (scan.parentHeight.getD 0)))
        forcedKinds := scan.forcedKinds ++ marker.toList.map (·.2.kind)
        forcedAppends := scan.forcedAppends + marker.toList.length } := by
  cases marker with
  | none =>
    rw [takeForced, pure_eq_ok, eq_comm]
    simp [InboxTracker.appendAllForced]
  | some m =>
    have hmap : ∀ {x : Except String ℕ} {e : String → String},
        (∃ a, x.mapError e = .ok a) ↔ ∃ a, x = .ok a := by
      intro x e
      cases x <;> simp [Except.mapError]
    simp only [takeForced, bind_eq_ok, rejectIf_eq_ok, pure_eq_ok, exists_and_right, exists_const,
      hmap]
    simp [InboxTracker.appendAllForced, and_assoc, eq_comm]

theorem InboxScan.takeDeposit_eq_ok {marker : Option (ℕ × DepositPayload)} :
    scan.takeDeposit N tx height marker = .ok scan' ↔
      (∀ m ∈ marker, scan.deposits.count.toNat ≠ UINT64_MAX) ∧
      scan' = { scan with
        deposits := scan.deposits.appendAllDeposits N
          (marker.toList.map (depositEntry tx height (scan.parentHeight.getD 0)))
        depositAppends := scan.depositAppends + marker.toList.length } := by
  cases marker with
  | none =>
    rw [takeDeposit, pure_eq_ok, eq_comm]
    simp [InboxTracker.appendAllDeposits]
  | some m =>
    simp only [takeDeposit, bind_eq_ok, rejectIf_eq_ok, pure_eq_ok]
    simp [InboxTracker.appendAllDeposits, eq_comm]

theorem InboxTracker.appendAllForced_append (tracker : InboxTracker)
    (entries entries' : List ForcedEntry) :
    tracker.appendAllForced N (entries ++ entries') =
      (tracker.appendAllForced N entries).appendAllForced N entries' :=
  List.foldl_append

theorem InboxTracker.appendAllDeposits_append (tracker : InboxTracker)
    (entries entries' : List DepositEntry) :
    tracker.appendAllDeposits N (entries ++ entries') =
      (tracker.appendAllDeposits N entries).appendAllDeposits N entries' :=
  List.foldl_append

@[simp] theorem forcedEntries_singleton (s : Sources) :
    forcedEntries height p [(tx, s)] = s.forced.toList.map (forcedEntry tx height p) :=
  List.append_nil _

@[simp] theorem depositEntries_singleton (s : Sources) :
    depositEntries height p [(tx, s)] = s.deposit.toList.map (depositEntry tx height p) :=
  List.append_nil _

/-- The height of the parent chain does not matter for a transaction without markers. -/
theorem entries_of_resolved (tx : Child.CTransaction) (height : ℤ) (p : ℕ)
    (sources : List (Child.CTransaction × Sources)) (s : Sources) :
    s.forced.toList.map (forcedEntry tx height
        ((if NoMarkers sources ∧ s.IsEmpty then none else some p : Option ℕ).getD 0)) =
      s.forced.toList.map (forcedEntry tx height p) ∧
    s.deposit.toList.map (depositEntry tx height
        ((if NoMarkers sources ∧ s.IsEmpty then none else some p : Option ℕ).getD 0)) =
      s.deposit.toList.map (depositEntry tx height p) := by
  obtain ⟨forced, deposit⟩ := s
  cases forced <;> cases deposit <;> simp [Sources.IsEmpty]

/-- The entries of one more transaction can be appended if the inboxes have room for them. -/
theorem appendable_snoc (h : Appendable height p forced deposits sources) (s : Sources) :
    Appendable height p forced deposits (sources ++ [(tx, s)]) ↔
      (NoMarkers sources → ¬s.IsEmpty → p ≠ 0) ∧
      (∀ m ∈ s.forced,
        (forced.appendAllForced N (forcedEntries height p sources)).count.toNat ≠ UINT64_MAX ∧
        ∃ work, computeForcedTrancheOrderWork
          ((forcedEntries height p sources).map (·.kind) ++ [m.2.kind]) = .ok work) ∧
      ∀ m ∈ s.deposit,
        (deposits.appendAllDeposits N (depositEntries height p sources)).count.toNat ≠
          UINT64_MAX := by
  obtain ⟨hparent, hwork, hforced, hdeposits⟩ := h
  rw [InboxTracker.toNat_count_appendAllForced hforced,
    InboxTracker.toNat_count_appendAllDeposits hdeposits, appendable_iff, noMarkers_append,
    noMarkers_singleton, forcedEntries_append, depositEntries_append, forcedEntries_singleton,
    depositEntries_singleton, List.map_append, List.length_append, List.length_append]
  have hp : (¬(NoMarkers sources ∧ s.IsEmpty) → p ≠ 0) ↔
      (NoMarkers sources → ¬s.IsEmpty → p ≠ 0) := by
    refine ⟨fun h hall hne => h fun h' => hne h'.2, fun h hne => ?_⟩
    by_cases hall : NoMarkers sources
    · exact h hall fun hempty => hne ⟨hall, hempty⟩
    · exact hparent hall
  have hf : (∃ work, computeForcedTrancheOrderWork ((forcedEntries height p sources).map (·.kind) ++
        (s.forced.toList.map (forcedEntry tx height p)).map (·.kind)) = .ok work) ∧
      forced.count.toNat + ((forcedEntries height p sources).length +
        (s.forced.toList.map (forcedEntry tx height p)).length) < 2 ^ 64 ↔
      ∀ m ∈ s.forced,
        forced.count.toNat + (forcedEntries height p sources).length ≠ UINT64_MAX ∧
        ∃ work, computeForcedTrancheOrderWork
          ((forcedEntries height p sources).map (·.kind) ++ [m.2.kind]) = .ok work := by
    cases s.forced with
    | none => simpa using ⟨hwork, hforced⟩
    | some m =>
      have hroom : forced.count.toNat + ((forcedEntries height p sources).length + 1) < 2 ^ 64 ↔
          forced.count.toNat + (forcedEntries height p sources).length ≠ UINT64_MAX := by
        rw [UINT64_MAX]
        omega
      simp only [Option.toList_some, List.map_singleton, List.length_singleton, hroom,
        Option.mem_some_iff, forall_eq']
      exact and_comm
  have hd : deposits.count.toNat + ((depositEntries height p sources).length +
        (s.deposit.toList.map (depositEntry tx height p)).length) < 2 ^ 64 ↔
      ∀ m ∈ s.deposit,
        deposits.count.toNat + (depositEntries height p sources).length ≠ UINT64_MAX := by
    cases s.deposit with
    | none => simpa using hdeposits
    | some m =>
      simp only [Option.toList_some, List.map_singleton, List.length_singleton,
        Option.mem_some_iff, forall_eq', UINT64_MAX]
      omega
  rw [hp, ← hf, ← hd, and_assoc]

/-- One more transaction is walked over if its entries can be appended. -/
theorem InboxScan.transaction_after {s : Sources}
    (happendable : Appendable height p forced deposits sources) (hs : scanSources N tx = .ok s) :
    (InboxScan.after N height p forced deposits sources).transaction N view height (some p) tx =
        .ok scan' ↔
      Appendable height p forced deposits (sources ++ [(tx, s)]) ∧
      scan' = InboxScan.after N height p forced deposits (sources ++ [(tx, s)]) := by
  obtain ⟨hf, hd⟩ := entries_of_resolved tx height p sources s
  have hkinds : (s.forced.toList.map (forcedEntry tx height p)).map (·.kind) =
      s.forced.toList.map (·.2.kind) := List.map_map
  have hafter : InboxScan.after N height p forced deposits (sources ++ [(tx, s)]) = {
      forced := (forced.appendAllForced N (forcedEntries height p sources)).appendAllForced N
        (s.forced.toList.map (forcedEntry tx height p))
      deposits := (deposits.appendAllDeposits N
        (depositEntries height p sources)).appendAllDeposits N
          (s.deposit.toList.map (depositEntry tx height p))
      parentHeight := if NoMarkers sources ∧ s.IsEmpty then none else some p
      forcedKinds := (forcedEntries height p sources).map (·.kind) ++
        s.forced.toList.map (·.2.kind)
      forcedAppends := (forcedEntries height p sources).length + s.forced.toList.length
      depositAppends := (depositEntries height p sources).length + s.deposit.toList.length } := by
    simp only [after, forcedEntries_append, depositEntries_append, forcedEntries_singleton,
      depositEntries_singleton, InboxTracker.appendAllForced_append,
      InboxTracker.appendAllDeposits_append, noMarkers_append, noMarkers_singleton,
      List.map_append, hkinds, List.length_append, List.length_map]
  rw [appendable_snoc (N := N) happendable, hafter]
  simp only [transaction, hs, bind_eq_ok, Except.ok.injEq, exists_eq_left', resolve_after,
    takeForced_eq_ok, takeDeposit_eq_ok, and_assoc, exists_and_left, exists_eq_left, hf, hd]
  rfl

theorem blockSources_snoc {vtx : List Child.CTransaction} :
    blockSources N (vtx ++ [tx]) = .ok sources ↔ ∃ before s, blockSources N vtx = .ok before ∧
      scanSources N tx = .ok s ∧ sources = before ++ [(tx, s)] := by
  simp only [blockSources, List.mapM_append, List.mapM_cons, List.mapM_nil, bind_eq_ok, pure_eq_ok,
    map_eq_ok]
  constructor
  · rintro ⟨before, hbefore, _, ⟨_, ⟨s, hs, rfl⟩, _, rfl, rfl⟩, rfl⟩
    exact ⟨before, s, hbefore, hs, rfl⟩
  · rintro ⟨before, s, hbefore, hs, rfl⟩
    exact ⟨before, hbefore, _, ⟨_, ⟨s, hs, rfl⟩, _, rfl, rfl⟩, rfl⟩

theorem of_mem_blockSources {vtx : List Child.CTransaction} {x : Child.CTransaction × Sources}
    (h : blockSources N vtx = .ok sources) (hx : x ∈ sources) :
    x.1 ∈ vtx ∧ scanSources N x.1 = .ok x.2 := by
  have hall := mapM_eq_ok.1 h
  clear h
  induction hall with
  | nil => cases hx
  | cons hfirst _ ih =>
    rcases List.mem_cons.1 hx with rfl | hx
    · obtain ⟨s, hs, rfl⟩ := map_eq_ok.1 hfirst
      exact ⟨List.mem_cons_self, hs⟩
    · exact ⟨List.mem_cons_of_mem _ (ih hx).1, (ih hx).2⟩

/-- **The inboxes after a block are those before it with the entries of the block appended**, if
they can be. -/
theorem deriveInboxNext_eq_ok {vtx : List Child.CTransaction} :
    deriveInboxNext N vtx view height (some p) forced deposits = .ok scan ↔
      ∃ sources, blockSources N vtx = .ok sources ∧
        Appendable height p forced deposits sources ∧
        scan = InboxScan.after N height p forced deposits sources := by
  induction vtx using List.reverseRecOn generalizing scan with
  | nil =>
    have hnil : Appendable height p forced deposits [] := by
      simp [appendable_iff, NoMarkers, forcedEntries, depositEntries, forced.count.toNat_lt,
        deposits.count.toNat_lt, computeForcedTrancheOrderWork]
    have hafter : InboxScan.after N height p forced deposits [] =
        { forced := forced, deposits := deposits } := by
      simp [InboxScan.after, NoMarkers, forcedEntries, depositEntries,
        InboxTracker.appendAllForced, InboxTracker.appendAllDeposits]
    rw [deriveInboxNext, List.foldlM_nil, pure_eq_ok]
    constructor
    · rintro rfl
      exact ⟨[], rfl, hnil, hafter.symm⟩
    · rintro ⟨_, hsources, -, rfl⟩
      obtain rfl := pure_eq_ok.1 hsources
      exact hafter.symm
  | append_singleton vtx tx ih =>
    have hsnoc : deriveInboxNext N (vtx ++ [tx]) view height (some p) forced deposits = .ok scan ↔
        ∃ u, deriveInboxNext N vtx view height (some p) forced deposits = .ok u ∧
          u.transaction N view height (some p) tx = .ok scan := by
      simp [deriveInboxNext]
    rw [hsnoc]
    constructor
    · rintro ⟨u, hu, hscan⟩
      obtain ⟨before, hbefore, happendable, rfl⟩ := ih.1 hu
      obtain ⟨s, hs, -⟩ := bind_eq_ok.1 hscan
      obtain ⟨happendable, rfl⟩ := (InboxScan.transaction_after happendable hs).1 hscan
      exact ⟨_, blockSources_snoc.2 ⟨before, s, hbefore, hs, rfl⟩, happendable, rfl⟩
    · rintro ⟨_, hsources, happendable, rfl⟩
      obtain ⟨before, s, hbefore, hs, rfl⟩ := blockSources_snoc.1 hsources
      refine ⟨_, ih.2 ⟨before, hbefore, happendable.append_left, rfl⟩, ?_⟩
      exact (InboxScan.transaction_after happendable.append_left hs).2 ⟨happendable, rfl⟩

end Spec

end ElementsDrivechain.Ecx
