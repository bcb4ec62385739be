import ElementsDrivechain.Ecx.Chain

/-!
# The thread of the singleton

The singleton is an unspent output that every transition spends and makes anew.  Followed through
all transactions of a chain, it is a thread: each of its outputs is spent by one input of one
transaction, whose first output is the next one.

* `singleton_thread` : **on every chain the singleton is a thread that ends in the unspent output
  of the tracker**, and the next block is never refused because of the tracker.
-/

namespace ElementsDrivechain.Ecx

open Fallible CCoinsView

/-! ### The thread -/

/-- The transactions of some blocks. -/
def blockTransactions (ls : List ChainBlock) : List Child.CTransaction :=
  ls.flatMap (·.block.vtx)

/-- The ids of transactions are distinct, and none of them is that of a record. -/
structure DistinctIds (first : Uint256) (txs : List Child.CTransaction) : Prop where
  /-- No two transactions have the same id. -/
  ids : (first :: txs.map (·.hash)).Nodup
  /-- No transaction makes the outpoint of a record. -/
  records : ∀ tx ∈ txs, ¬IsReserved ⟨tx.hash, 0⟩

/-- The ids of transactions are distinct, and none of them is that of a record or of an output of
the parent chain. -/
structure FreshIds (first : Uint256) (txs : List Child.CTransaction) : Prop
    extends DistinctIds first txs where
  /-- Peg-ins name outputs of the parent chain. -/
  pegins : ∀ tx ∈ txs, ∀ input ∈ tx.vin, input.isPegin = true →
    input.prevout.hash ∉ first :: txs.map (·.hash)

theorem DistinctIds.append_left {first : Uint256} {txs txs' : List Child.CTransaction}
    (h : DistinctIds first (txs ++ txs')) : DistinctIds first txs where
  ids := by
    have hids := h.ids
    rw [List.map_append, ← List.cons_append] at hids
    exact hids.of_append_left
  records tx htx := h.records tx (List.mem_append_left _ htx)

theorem FreshIds.append_left {first : Uint256} {txs txs' : List Child.CTransaction}
    (h : FreshIds first (txs ++ txs')) : FreshIds first txs where
  toDistinctIds := h.toDistinctIds.append_left
  pegins tx htx input hinput hpegin hmem := by
    refine h.pegins tx (List.mem_append_left _ htx) input hinput hpegin ?_
    rw [List.map_append, ← List.cons_append]
    exact List.mem_append_left _ hmem

/-- **The thread of the singleton** through some transactions: the outpoints that it was at, and
the output that it is.  Each of them was spent by one input of one transaction, its first, and the
first output of that transaction is the next one. -/
inductive Thread (N : ExchangeNetwork) (start : ExchangeStateTracker) (output : Child.CTxOut) :
    List Child.CTransaction → List COutPoint → ExchangeStateTracker → Child.CTxOut → Prop
  | start : Thread N start output [] [] start output
  | stay {txs : List Child.CTransaction} {past : List COutPoint} {state : ExchangeStateTracker}
      {out : Child.CTxOut} {tx : Child.CTransaction} :
      Thread N start output txs past state out → (∀ o ∈ past, ¬Names tx o) →
      ¬Names tx state.outpoint → Thread N start output (txs ++ [tx]) past state out
  | move {txs : List Child.CTransaction} {past : List COutPoint}
      {state next : ExchangeStateTracker} {out successor : Child.CTxOut}
      {tx : Child.CTransaction} :
      Thread N start output txs past state out → (∀ o ∈ past, ¬Names tx o) →
      NamesOnce tx state.outpoint → Moves N tx state out next successor →
      next.outpoint ∉ past ++ [state.outpoint] →
      Thread N start output (txs ++ [tx]) (past ++ [state.outpoint]) next successor

/-- An output that can be the singleton, and that holds what another one holds. -/
structure IsSingleton (N : ExchangeNetwork) (state : ExchangeStateTracker)
    (first out : Child.CTxOut) : Prop where
  isOpen : IsOpen out
  p2tr : IsP2TR out.scriptPubKey
  root : stateRoot N state.outpoint out = state.root
  /-- The asset and the value are those of the first singleton. -/
  asset : out.nAsset = first.nAsset
  value : out.nValue = first.nValue

/-- The thread through some transactions, and what is unspent of it in a view. -/
structure Threaded (N : ExchangeNetwork) (start : ExchangeStateTracker) (first : Child.CTxOut)
    (txs : List Child.CTransaction) (past : List COutPoint) (state : ExchangeStateTracker)
    (out : Child.CTxOut) (view : CCoinsView) : Prop where
  thread : Thread N start first txs past state out
  /-- The last singleton is unspent. -/
  unspent : ∃ coin, view.accessCoin state.outpoint = some coin ∧ coin.out = out
  /-- The others are spent. -/
  spent : ∀ o ∈ past, view.accessCoin o = none
  singleton : IsSingleton N state first out
  /-- Every outpoint of the thread is one of a transaction. -/
  known : ∀ o ∈ past ++ [state.outpoint],
    o.hash ∈ start.outpoint.hash :: txs.map (·.hash) ∧ ¬IsReserved o ∧ ¬o.IsNull

section Transactions

variable {N : ExchangeNetwork} {start state next : ExchangeStateTracker}
  {first out successor : Child.CTxOut} {txs txs' : List Child.CTransaction} {past : List COutPoint}
  {view view' : CCoinsView} {tx : Child.CTransaction} {height : ℤ} {undo : List (Option Coin)}
  {undos : List (List (Option Coin))} {o : COutPoint}

theorem not_isUnspendable_of_isP2TR {script : CScript} (h : IsP2TR script) :
    ¬IsUnspendable script := by
  obtain ⟨hlength, hfirst, -⟩ := h
  rintro (hreturn | hlong | hempty)
  · rw [List.head?_eq_getElem?, hfirst] at hreturn
    exact absurd hreturn (by decide)
  · rw [hlength, MAX_SCRIPT_SIZE] at hlong
    omega
  · simp [hempty] at hlength

section Step

variable (h : Threaded N start first txs past state out view)

include h

theorem Threaded.of_eq (heq : ∀ o, ¬IsReserved o → view'.accessCoin o = view.accessCoin o) :
    Threaded N start first txs past state out view' := by
  have hknown : ∀ o ∈ past ++ [state.outpoint], ¬IsReserved o := fun o ho => (h.known o ho).2.1
  refine { h with unspent := ?_, spent := fun o ho => ?_ }
  · rw [heq _ (hknown _ (by simp))]
    exact h.unspent
  · rw [heq _ (hknown _ (by simp [ho]))]
    exact h.spent o ho

theorem Threaded.known_snoc (tx : Child.CTransaction) :
    ∀ o ∈ past ++ [state.outpoint], o.hash ∈ start.outpoint.hash :: (txs ++ [tx]).map (·.hash) ∧
      ¬IsReserved o ∧ ¬o.IsNull := by
  intro o ho
  obtain ⟨hhash, hrest⟩ := h.known o ho
  refine ⟨?_, hrest⟩
  rw [List.map_append, ← List.cons_append]
  exact List.mem_append_left _ hhash

variable (hfresh : FreshIds start.outpoint.hash (txs ++ [tx]))

include hfresh

/-- An outpoint of the thread that a transaction names is one that it spends. -/
theorem Threaded.spent_of_names (ho : o ∈ past ++ [state.outpoint]) (hnames : Names tx o) :
    o ∈ tx.spent := by
  obtain ⟨input, hinput, rfl⟩ := hnames
  obtain ⟨hhash, -, hnull⟩ := h.known _ ho
  have hcoinbase : ¬tx.IsCoinBase := fun hc => hnull (hc.2 input hinput)
  rw [Child.CTransaction.spent, if_neg hcoinbase, mem_spentOutpoints]
  refine ⟨input, hinput, ?_, rfl⟩
  by_contra hpegin
  refine hfresh.pegins tx (by simp) input hinput (by simpa using hpegin) ?_
  rw [List.map_append, ← List.cons_append]
  exact List.mem_append_left _ hhash

theorem Threaded.created_eq_none (ho : o ∈ past ++ [state.outpoint]) : tx.created o = none := by
  have hne : o.hash ≠ tx.hash := by
    intro heq
    have hids := hfresh.ids
    rw [List.map_append, ← List.cons_append, List.nodup_append] at hids
    exact hids.2.2 _ (h.known o ho).1 _ (by simp) heq
  rw [Child.CTransaction.created, createdOutput, if_neg fun hc => hne hc.1]

theorem Threaded.past_of_updateCoins (hu : view.updateCoins height tx = some (view', undo))
    (ho : o ∈ past) : ¬Names tx o ∧ view'.accessCoin o = none := by
  have ho' : o ∈ past ++ [state.outpoint] := List.mem_append_left _ ho
  constructor
  · intro hnames
    obtain ⟨_, -, hspent, -, -⟩ := updateCoins_eq_some hu
    have hsome := (hspent o (h.spent_of_names hfresh ho' hnames)).1
    rw [h.spent o ho] at hsome
    cases hsome
  · rw [updateCoins_accessCoin hu, h.created_eq_none hfresh ho', h.spent o ho]
    simp

theorem Threaded.stay (hu : view.updateCoins height tx = some (view', undo))
    (hnames : ¬Names tx state.outpoint) :
    Threaded N start first (txs ++ [tx]) past state out view' where
  thread := .stay h.thread (fun o ho => (h.past_of_updateCoins hfresh hu ho).1) hnames
  unspent := by
    obtain ⟨coin, hcoin, hout⟩ := h.unspent
    refine ⟨coin, updateCoins_of_not_spent hu hcoin fun hspent => hnames ?_, hout⟩
    unfold Child.CTransaction.spent at hspent
    split_ifs at hspent
    · cases hspent
    · obtain ⟨input, hinput, -, heq⟩ := mem_spentOutpoints.1 hspent
      exact ⟨input, hinput, heq⟩
  spent := fun o ho => (h.past_of_updateCoins hfresh hu ho).2
  singleton := h.singleton
  known := h.known_snoc tx

/-- A transaction that spends the singleton makes the next one. -/
theorem Threaded.move (hu : view.updateCoins height tx = some (view', undo))
    (honce : NamesOnce tx state.outpoint) (hmoves : Moves N tx state out next successor) :
    Threaded N start first (txs ++ [tx]) (past ++ [state.outpoint]) next successor view' := by
  have hnext : next.outpoint = ⟨tx.hash, 0⟩ := by rw [hmoves.next]
  have hcreated : tx.created next.outpoint = some successor := by
    have houtput := hmoves.output
    rw [List.head?_eq_getElem?] at houtput
    simp [Child.CTransaction.created, createdOutput, hnext, houtput,
      spendableOutput, not_isUnspendable_of_isP2TR hmoves.p2tr]
  have hnew : next.outpoint ∉ past ++ [state.outpoint] := by
    intro hmem
    have hnone := h.created_eq_none hfresh hmem
    rw [hcreated] at hnone
    cases hnone
  refine ⟨.move h.thread (fun o ho => (h.past_of_updateCoins hfresh hu ho).1) honce hmoves hnew,
    ?_, ?_, ⟨hmoves.isOpen, hmoves.p2tr, by rw [hmoves.next], hmoves.asset.trans h.singleton.asset,
      hmoves.value.trans h.singleton.value⟩, ?_⟩
  · refine ⟨{ out := successor, nHeight := height, fCoinBase := tx.IsCoinBase }, ?_, rfl⟩
    rw [updateCoins_accessCoin hu, hcreated]
  · simp only [List.mem_append, List.mem_singleton]
    rintro o (ho | rfl)
    · exact (h.past_of_updateCoins hfresh hu ho).2
    · have hspent := h.spent_of_names hfresh (o := state.outpoint) (by simp) honce.names
      rw [updateCoins_accessCoin hu, h.created_eq_none hfresh (by simp)]
      simp [hspent]
  · simp only [List.mem_append, List.mem_singleton]
    rintro o (ho | rfl)
    · exact h.known_snoc tx o (by simpa using ho)
    · rw [hnext]
      exact ⟨by simp, hfresh.records tx (by simp), COutPoint.not_isNull_of_first tx.hash⟩

end Step

theorem Threaded.stayAll (h : Threaded N start first txs past state out view)
    (hfresh : FreshIds start.outpoint.hash (txs ++ txs'))
    (hu : connectTransactions height view txs' = some (view', undos))
    (hnames : ¬AnyNames txs' state.outpoint) :
    Threaded N start first (txs ++ txs') past state out view' := by
  induction txs' generalizing txs view undos with
  | nil =>
    cases hu
    rwa [List.append_nil]
  | cons tx txs' ih =>
    obtain ⟨mid, undo, rest, htx, hrest, -⟩ := connectTransactions_cons.1 hu
    rw [anyNames_cons, not_or] at hnames
    rw [List.append_cons] at hfresh ⊢
    exact ih (h.stay hfresh.append_left htx hnames.1) hfresh hrest hnames.2

theorem connectTransactions_append_cons :
    connectTransactions height view (txs ++ tx :: txs') = some (view', undos) ↔
      ∃ u v undos₁ undo undos₂, connectTransactions height view txs = some (u, undos₁) ∧
        u.updateCoins height tx = some (v, undo) ∧
        connectTransactions height v txs' = some (view', undos₂) ∧
        undos = undos₁ ++ undo :: undos₂ := by
  induction txs generalizing view undos with
  | nil =>
    rw [List.nil_append, connectTransactions_cons]
    constructor
    · rintro ⟨mid, undo, rest, htx, hrest, rfl⟩
      exact ⟨view, mid, [], undo, rest, rfl, htx, hrest, rfl⟩
    · rintro ⟨_, mid, _, undo, rest, hnil, htx, hrest, rfl⟩
      cases hnil
      exact ⟨mid, undo, rest, htx, hrest, rfl⟩
  | cons t txs ih =>
    simp only [List.cons_append, connectTransactions_cons, ih]
    constructor
    · rintro ⟨mid, undo, _, ht, ⟨u, v, undos₁, undo', undos₂, h₁, h₂, h₃, rfl⟩, rfl⟩
      exact ⟨u, v, _, undo', undos₂, ⟨mid, undo, undos₁, ht, h₁, rfl⟩, h₂, h₃, rfl⟩
    · rintro ⟨u, v, _, undo', undos₂, ⟨mid, undo, undos₁, ht, h₁, rfl⟩, h₂, h₃, rfl⟩
      exact ⟨mid, undo, _, ht, ⟨u, v, undos₁, undo', undos₂, h₁, h₂, h₃, rfl⟩, rfl⟩

theorem Threaded.deriveNext (h : Threaded N start first txs past state out view)
    (hfresh : FreshIds start.outpoint.hash (txs ++ txs'))
    (hu : connectTransactions height view txs' = some (view', undos))
    (hnext : deriveNext N txs' state out = .ok next) :
    ∃ past' out', Threaded N start first (txs ++ txs') past' next out' view' ∧
      past'.length ≤ past.length + 1 := by
  obtain ⟨hnames, rfl⟩ | ⟨before, tx, after, successor, rfl, hbefore, honce, hafter, hlater,
    hmoves⟩ := deriveNext_cases hnext
  · exact ⟨past, out, h.stayAll hfresh hu hnames, Nat.le_succ _⟩
  · obtain ⟨u, v, undos₁, undo, undos₂, h₁, h₂, h₃, -⟩ := connectTransactions_append_cons.1 hu
    rw [← List.append_assoc, List.append_cons] at hfresh ⊢
    have hbefore := h.stayAll hfresh.append_left.append_left h₁ hbefore
    have hmoved := hbefore.move hfresh.append_left h₂ honce hmoves
    exact ⟨_, successor, hmoved.stayAll hfresh h₃ hlater, by simp⟩

end Transactions

section Chains

variable {N : ExchangeNetwork} {s s' : ExchangeChain} {b : ChainBlock} {ls : List ChainBlock}
  {t : Trackers} {cursors : Cursors} {oldest : ℕ} {expected : Expected} {seen spent : CCoinsView}
  {first out : Child.CTxOut} {past : List COutPoint}

theorem blockTransactions_snoc :
    blockTransactions (ls ++ [b]) = blockTransactions ls ++ b.block.vtx := by
  simp [blockTransactions]

theorem Threaded.advance
    (hthread : Threaded N (genesisState N) first (blockTransactions ls) past t.state out s.view)
    (hfresh : FreshIds (genesisState N).outpoint.hash (blockTransactions (ls ++ [b])))
    (h : Advances N s b s' t cursors oldest expected seen spent) :
    ∃ past' out', Threaded N (genesisState N) first (blockTransactions (ls ++ [b])) past'
      expected.state out' s'.view ∧ past'.length ≤ past.length + 1 := by
  rw [blockTransactions_snoc] at hfresh ⊢
  have hseen : Threaded N (genesisState N) first (blockTransactions ls) past t.state out
      (setTrackers N seen expected.state expected.forced expected.deposits b.height) := by
    refine hthread.of_eq fun o ho => ?_
    have hset : (setTrackers N seen expected.state expected.forced expected.deposits
        b.height).accessCoin o = seen.accessCoin o :=
      setTrackers_of_not_exchange (t := expected.trackers) fun he => ho (.inl he)
    exact hset.trans (h.before.eq_of_not_reserved ho).symm
  obtain ⟨coin, hcoin, -, -, -, hnext⟩ := h.follows.coin
  obtain ⟨coin', hcoin', hout⟩ := hthread.unspent
  have hreserved := (hthread.known t.state.outpoint (by simp)).2.1
  obtain rfl : coin' = coin := by
    rw [h.before.eq_of_not_reserved hreserved, hcoin] at hcoin'
    exact (Option.some.inj hcoin').symm
  rw [hout] at hnext
  obtain ⟨past', out', hthread', hle⟩ := hseen.deriveNext hfresh h.transactions hnext
  refine ⟨past', out', hthread'.of_eq fun o ho => ?_, hle⟩
  exact (h.after.eq_of_not_reserved ho).symm

theorem threaded_of_run (hmax : N.consensus.activationHeight ≠ INT_MAX)
    (hstart : s.height + 1 = N.consensus.activationHeight)
    (hgenesis : Threaded N (genesisState N) first [] [] (genesisState N) first s.view)
    (hfresh : FreshIds (genesisState N).outpoint.hash (blockTransactions ls))
    (h : Run (Connects N) s ls s') :
    ∃ t cursors oldest past out, Position N s' t cursors oldest ∧
      Threaded N (genesisState N) first (blockTransactions ls) past t.state out s'.view := by
  induction h with
  | nil => exact ⟨_, _, _, [], first, .start hstart, hgenesis⟩
  | snoc hrun hb ih =>
    rw [blockTransactions_snoc] at hfresh
    obtain ⟨t, cursors, oldest, past, out, hpos, hthread⟩ := ih hfresh.append_left
    obtain ⟨expected, seen, spent, hadvances⟩ := connects_advances hmax hpos hb
    rw [← blockTransactions_snoc] at hfresh
    obtain ⟨past', out', hthread', -⟩ := hthread.advance hfresh hadvances
    exact ⟨_, _, _, past', out', hadvances.position, hthread'⟩

theorem threaded_of_activation (hmax : N.consensus.activationHeight ≠ INT_MAX)
    (hstart : s.height + 1 = N.consensus.activationHeight) (h : Connects N s b s') :
    ∃ first, Threaded N (genesisState N) first [] [] (genesisState N) first s.view := by
  obtain ⟨expected, seen, spent, hadvances⟩ := connects_advances hmax (.start hstart) h
  obtain ⟨coin, hcoin, hopen, hp2tr, hroot, -⟩ := hadvances.follows.coin
  obtain ⟨hreserved, hnull⟩ := genesis_of_configured hadvances.configured
  refine ⟨coin.out, .start, ⟨coin, ?_, rfl⟩, by simp, ⟨hopen, hp2tr, hroot, rfl, rfl⟩, ?_⟩
  · exact (hadvances.before.eq_of_not_reserved hreserved).trans hcoin
  · intro o ho
    obtain rfl := List.mem_singleton.1 ho
    exact ⟨List.mem_cons_self, hreserved, hnull⟩

end Chains

/-! ### Refusals -/

/-- What is said when something is wrong with the trackers or with the output of the singleton. -/
def trackerErrors : List String :=
  ["persisted ECX tracker is missing",
    "persisted ECX tracker has invalid asset or value encoding",
    "persisted ECX tracker script is malformed",
    "persisted ECX tracker cannot be decoded",
    "persisted ECX tracker payload is invalid",
    "persisted ECX tracker disagrees with the prior header root",
    "tracked ECX singleton is missing from the UTXO set",
    "ECX state authority must use an explicit asset/value and null nonce",
    "ECX state authority must be a P2TR output",
    "tracked ECX singleton does not match its persisted root",
    "persisted ECX inbox tracker is missing",
    "persisted ECX inbox tracker has invalid asset or value encoding",
    "persisted ECX inbox tracker script is malformed",
    "persisted ECX inbox tracker cannot be decoded",
    "persisted ECX inbox tracker payload is invalid",
    "persisted ECX inbox trackers disagree with the prior header roots"]

section Refusals

variable (N : ExchangeNetwork)

/-- The computation never refuses because of the trackers. -/
def Unrelated {α : Type} (x : Except String α) : Prop := Refuses (· ∉ trackerErrors) x

attribute [local simp] trackerErrors

theorem unrelated_deriveNext (vtx : List Child.CTransaction) (previous : ExchangeStateTracker)
    (output : Child.CTxOut) : Unrelated (deriveNext N vtx previous output) := by
  have hfind : Unrelated (findTransition vtx previous.outpoint) := by
    refine .foldlM (fun found tx => .foldlM (fun found input => ?_) _ _) _ _
    unfold noteSpend
    split_ifs
    · exact .pure _
    · exact .bind (.rejectIf (by simp)) fun _ => .pure _
  have hfollow (transition : Child.CTransaction) :
      Unrelated (followTransition N transition previous output) :=
    .bind (.rejectIf (by simp)) fun _ => .bind (.orReject (by simp)) fun _ =>
    .bind (.rejectIf (by simp)) fun _ => .bind (.rejectIf (by simp)) fun _ =>
    .bind (.rejectIf (by simp)) fun _ => .bind (.rejectIf (by simp)) fun _ =>
    .pure _
  refine .bind hfind fun found => ?_
  split
  · exact .pure _
  · exact .bind (hfollow _) fun _ => .bind (.rejectIf (by simp)) fun _ => .pure _

theorem unrelated_scanSources (tx : Child.CTransaction) : Unrelated (scanSources N tx) := by
  have hsigned (tag : String) (body : Bytes) (n offset : ℕ) :
      Unrelated (verifySignedBody N tag body n offset) :=
    .bind (.rejectIf (by simp)) fun _ => .rejectIf (by simp)
  have hbody (kind : UInt8) (body : Bytes) : Unrelated (validateForcedBody N kind body) := by
    refine .bind (.rejectIf (by simp)) fun _ =>
      .bind (.rejectIf (by simp)) fun _ => ?_
    split_ifs <;> exact .bind (.rejectIf (by simp)) fun _ => hsigned _ _ _ _
  have hforced (i : ℕ) (output : Child.CTxOut) : Unrelated (parseForcedOutput N tx i output) := by
    unfold parseForcedOutput
    split_ifs
    · exact .bind (.orReject (by simp)) fun _ =>
        .bind (.rejectIf (by simp)) fun _ => .bind (hbody _ _) fun _ => .pure _
    · exact .pure _
  have hdeposit (i : ℕ) (output : Child.CTxOut) :
      Unrelated (parseDepositOutput N tx i output) := by
    unfold parseDepositOutput
    split_ifs
    · exact .bind (.orReject (by simp)) fun _ =>
        .bind (.rejectIf (by simp)) fun _ =>
        .bind (.rejectIf (by simp)) fun _ =>
        .bind (.orReject (by simp)) fun _ =>
        .bind (.rejectIf (by simp)) fun _ =>
        .pure _
    · exact .pure _
  have hnote {α : Type} (seen : Option (ℕ × α)) (i : ℕ) (parsed : Option α) {e : String}
      (he : e ∉ trackerErrors) : Unrelated (noteMarker seen i parsed e) := by
    cases parsed with
    | none => exact .pure _
    | some marker => exact .bind (.rejectIf he) fun _ => .pure _
  exact .foldlM (fun sources output => .bind (hforced _ _) fun _ =>
    .bind (hnote _ _ _ (by simp)) fun _ => .bind (hdeposit _ _) fun _ =>
    .bind (hnote _ _ _ (by simp)) fun _ => .pure _) _ _

theorem unrelated_getBmmState (asset : Uint256) (view : CCoinsView) :
    Unrelated (getBmmState asset view) := by
  unfold getBmmState
  split
  · exact .pure _
  · exact .map <| .bind (.rejectIf (by simp [bmmStateFormat, toString])) fun _ =>
      .bind (.orReject (by simp [bmmStateFormat, toString])) fun _ =>
      .bind (.orReject (by simp [bmmStateFormat])) fun _ =>
      .bind (.rejectIf (by simp [bmmStateFormat, toString])) fun _ =>
      .bind (.rejectIf (by simp)) fun _ => .pure _

/-- A reason that is announced as one about forced actions is not about the trackers. -/
theorem overweight_not_mem (e : String) :
    "ECX forced-action source tranche is overweight: " ++ e ∉ trackerErrors := by
  intro hmem
  have hchar : ∀ x ∈ trackerErrors, x.toList[4]? ≠ some 'f' := by simp
  refine hchar _ hmem ?_
  rw [String.toList_append, List.getElem?_append_left (by decide)]
  decide

theorem unrelated_deriveInboxNext (vtx : List Child.CTransaction) (view : CCoinsView) (height : ℤ)
    (supplied : Option ℕ) (forced deposits : InboxTracker) :
    Unrelated (deriveInboxNext N vtx view height supplied forced deposits) := by
  have hparent : Unrelated (resolveAuthenticatedParentHeight N view supplied) := by
    cases supplied with
    | some p => exact .bind (.rejectIf (by simp)) fun _ => .pure _
    | none =>
      exact .bind (unrelated_getBmmState _ _) fun _ =>
        .bind (.orReject (by simp)) fun _ =>
        .bind (.rejectIf (by simp)) fun _ => .pure _
  have hresolve (scan : InboxScan) (sources : Sources) :
      Unrelated (scan.resolve N view supplied sources) := by
    unfold InboxScan.resolve
    split_ifs
    · exact .pure _
    · exact .bind hparent fun _ => .pure _
  have hforced (scan : InboxScan) (tx : Child.CTransaction)
      (marker : Option (ℕ × ForcedActionPayload)) :
      Unrelated (scan.takeForced N tx height marker) := by
    cases marker with
    | none => exact .pure _
    | some marker =>
      exact .bind (.rejectIf (by simp)) fun _ =>
        .bind (.mapError overweight_not_mem) fun _ => .pure _
  have hdeposit (scan : InboxScan) (tx : Child.CTransaction)
      (marker : Option (ℕ × DepositPayload)) :
      Unrelated (scan.takeDeposit N tx height marker) := by
    cases marker with
    | none => exact .pure _
    | some marker => exact .bind (.rejectIf (by simp)) fun _ => .pure _
  exact .foldlM (fun scan tx => .bind (unrelated_scanSources N tx) fun _ =>
    .bind (hresolve _ _) fun _ => .bind (hforced _ _ _) fun _ => hdeposit _ _ _) _ _

theorem unrelated_deriveProcessedCursors (vtx : List Child.CTransaction)
    (previousState nextState : ExchangeStateTracker) (previous : Cursors) (empty : Bool) :
    Unrelated (deriveProcessedCursors vtx previousState nextState previous empty) := by
  have hpayload (script : CScript) : Unrelated (decodeCursorPayload script) := by
    unfold decodeCursorPayload
    split
    · exact .pure _
    · split_ifs
      · exact .pure _
      · exact .bind (.rejectIf (by simp)) fun _ => .pure _
  have hnote (txid : Uint256) (seen : Option CursorMarker) (output : Child.CTxOut) :
      Unrelated (noteCursor txid seen output) := by
    refine .bind (hpayload _) fun cursors => ?_
    cases cursors with
    | none => exact .pure _
    | some cursors => exact .bind (.rejectIf (by simp)) fun _ => .pure _
  refine .bind (.foldlM (fun seen tx => .foldlM (fun seen output => hnote _ _ _) _ _) _ _)
    fun found => ?_
  cases found with
  | none =>
    dsimp only
    split_ifs
    · exact .pure _
    · exact .pure _
    · exact .throw (by simp)
  | some marker =>
    exact .bind (.rejectIf (by simp)) fun _ =>
      .bind (.rejectIf (by simp)) fun _ => .pure _

theorem unrelated_validateInboxLiveness (previous next : Backlog)
    (forcedAppends depositAppends previousOldest current : ℕ) :
    Unrelated (validateInboxLiveness previous next forcedAppends depositAppends previousOldest
      current) := by
  have holdest (pending : ℕ) :
      Unrelated (nextOldestParentHeight pending previousOldest current) := by
    unfold nextOldestParentHeight
    split_ifs
    · exact .pure _
    · exact .bind (.rejectIf (by simp)) fun _ => .pure _
  refine .bind (.rejectIf (by simp)) fun _ =>
    .bind (.rejectIf (by simp)) fun _ =>
    .bind (.rejectIf (by simp)) fun _ => .bind (.rejectIf (by simp)) fun _ => ?_
  split_ifs
  · exact .pure _
  · exact .bind (.rejectIf (by simp)) fun _ => .bind (holdest _) fun _ =>
      .bind (.rejectIf (by simp)) fun _ => .pure _

variable {N}

/-- **The next block is never refused because of the trackers or the output of the singleton.** -/
theorem Synced.unrelated {s : ExchangeChain} {t : Trackers} {index : Child.CBlockIndex}
    {view : CCoinsView} {coin : Coin} (h : Synced N s t index) (hagree : s.view.Agree view)
    (hreserved : ¬IsReserved t.state.outpoint)
    (hcoin : s.view.accessCoin t.state.outpoint = some coin) (hopen : IsOpen coin.out)
    (hp2tr : IsP2TR coin.out.scriptPubKey)
    (hroot : stateRoot N t.state.outpoint coin.out = t.state.root)
    (vtx : List Child.CTransaction) (parentHeight : Option ℕ) :
    Unrelated (expectedForBlock N vtx s.tip view (s.height + 1) parentHeight) := by
  have hlater : s.height + 1 ≠ N.consensus.activationHeight := by
    have := h.active
    omega
  have hstored := h.stored.agree hagree
  have hverify : verifyTrackedCoin N view t.state = .ok coin.out :=
    verifyTrackedCoin_eq_ok.2 ⟨coin, hagree.eq_of_not_reserved hreserved ▸ hcoin, hopen, hp2tr,
      hroot, rfl⟩
  rw [expectedForBlock, if_neg hlater, h.tip]
  refine .bind_of_eq (hstored.getTracker h.readable) <| .bind_of_eq (a := index) rfl <|
    .bind_of_eq (a := ()) (rejectIf_eq_ok.2 ?_) <| .bind_of_eq hverify <|
    .bind (unrelated_deriveNext N _ _ _) fun _ =>
    .bind_of_eq (hstored.getForcedTracker h.readable) <|
    .bind_of_eq (hstored.getDepositTracker h.readable) <|
    .bind_of_eq (a := ()) (rejectIf_eq_ok.2 ?_) <|
    .bind (unrelated_deriveInboxNext N _ _ _ _ _ _) fun _ =>
    .bind (unrelated_deriveProcessedCursors _ _ _ _ _) fun _ =>
    .bind (unrelated_validateInboxLiveness _ _ _ _ _ _) fun _ => .pure _
  · simp [h.committed.exchangeState, h.state]
  · simp [h.committed.forcedInbox, h.committed.depositInbox, h.committed.cursors, h.forced,
      h.deposits]

end Refusals

section Result

variable {N : ExchangeNetwork} {s s' : ExchangeChain} {b : ChainBlock} {ls : List ChainBlock}

/-- **On every chain the singleton is a thread that ends in the unspent output of the tracker.**
After each block the tracker names an unspent output to a public key that holds what the first
singleton held, and whose root is in the header; the thread grew by at most one output; and the
next block is never refused because of the trackers or of that output. -/
theorem singleton_thread (hmax : N.consensus.activationHeight ≠ INT_MAX)
    (hstart : s.height + 1 = N.consensus.activationHeight)
    (hfresh : FreshIds N.consensus.genesisStateOutpoint.hash (blockTransactions (ls ++ [b])))
    (h : Run (Connects N) s (ls ++ [b]) s') :
    ∃ genesisCoin coin t past before prior priorOut,
      s.view.accessCoin N.consensus.genesisStateOutpoint = some genesisCoin ∧
      Stored N t s'.height s'.view ∧
      s'.view.accessCoin t.state.outpoint = some coin ∧
      IsP2TR coin.out.scriptPubKey ∧
      coin.out.nAsset = genesisCoin.out.nAsset ∧ coin.out.nAsset.IsExplicit ∧
      coin.out.nValue = genesisCoin.out.nValue ∧ coin.out.nValue.IsExplicit ∧
      coin.out.nNonce.IsNull ∧
      stateRoot N t.state.outpoint coin.out = b.block.hashExchangeStateRoot ∧
      Thread N (genesisState N) genesisCoin.out (blockTransactions ls) before prior priorOut ∧
      Thread N (genesisState N) genesisCoin.out (blockTransactions (ls ++ [b])) past t.state
        coin.out ∧
      past.length ≤ before.length + 1 ∧
      ∀ view vtx parentHeight, s'.view.Agree view → ∀ e ∈ trackerErrors,
        expectedForBlock N vtx s'.tip view (s'.height + 1) parentHeight ≠ .error e := by
  obtain ⟨m, hrun, hb⟩ := Run.snoc_iff.1 h
  obtain ⟨first, hgenesis⟩ : ∃ first,
      Threaded N (genesisState N) first [] [] (genesisState N) first s.view := by
    obtain _ | ⟨c, ls⟩ := ls
    · obtain rfl := Run.nil_iff.1 hrun
      exact threaded_of_activation hmax hstart hb
    · obtain ⟨_, hc, -⟩ := Run.cons_iff.1 hrun
      exact threaded_of_activation hmax hstart hc
  have hfresh' := hfresh
  rw [blockTransactions_snoc] at hfresh'
  obtain ⟨t, cursors, oldest, before, priorOut, hpos, hthread⟩ :=
    threaded_of_run hmax hstart hgenesis hfresh'.append_left hrun
  obtain ⟨expected, seen, spent, hadvances⟩ := connects_advances hmax hpos hb
  obtain ⟨past, out, hthread', hle⟩ := hthread.advance hfresh hadvances
  obtain ⟨genesisCoin, hgenesisCoin, rfl⟩ := hgenesis.unspent
  obtain ⟨coin, hcoin, rfl⟩ := hthread'.unspent
  obtain ⟨⟨hasset, hvalue, hnonce⟩, hp2tr, hroot, hasset', hvalue'⟩ := id hthread'.singleton
  refine ⟨genesisCoin, coin, expected.trackers, past, before, t.state, priorOut, hgenesisCoin,
    hadvances.synced.stored, hcoin, hp2tr, hasset', hasset, hvalue', hvalue, hnonce,
    hroot.trans hadvances.synced.state.symm, hthread.thread, hthread'.thread, hle, ?_⟩
  have hreserved := (hthread'.known expected.state.outpoint (by simp)).2.1
  intro view vtx parentHeight hagree e he herror
  exact hadvances.synced.unrelated hagree hreserved hcoin hthread'.singleton.isOpen hp2tr hroot vtx
    parentHeight e herror he

end Result

namespace Sample

theorem blockTransactions_extendAll {N : ExchangeNetwork} {s s' : ExchangeChain}
    {bs : List ChainBlock} {txs : List (List Child.CTransaction × UInt32)}
    (h : extendAll N s txs = some (s', bs)) : blockTransactions bs = txs.flatMap (·.1) := by
  induction txs generalizing s bs with
  | nil =>
    cases h
    rfl
  | cons block rest ih =>
    simp only [extendAll, extend, Option.bind_eq_some_iff, Option.map_eq_some_iff] at h
    obtain ⟨_, ⟨_, -, _, -, _, -, rfl⟩, ⟨last, bs'⟩, hrest, heq⟩ := h
    cases heq
    rw [List.flatMap_cons, ← ih hrest]
    rfl

theorem length_extendAll_exchangeBlocks :
    (extendAll exchangeNetwork exchangeStart exchangeBlocks).map (·.2.length) = some 3 := by
  decide +kernel

theorem freshIds_exchangeBlocks :
    FreshIds exchangeNetwork.consensus.genesisStateOutpoint.hash
      (exchangeBlocks.flatMap (·.1)) := by
  refine ⟨⟨by decide +kernel, by decide +kernel⟩, ?_⟩
  have hpegins : ∀ tx ∈ exchangeBlocks.flatMap (·.1), ∀ input ∈ tx.vin, input.isPegin = false := by
    decide +kernel
  intro tx htx input hinput hpegin
  rw [hpegins tx htx input hinput] at hpegin
  cases hpegin

end Sample

open Ecx.Sample

/-- The singleton of the third block is the output that its transition made. -/
theorem singleton_thread_transition :
    ∃ ls b s' t coin, Run (Connects exchangeNetwork) exchangeStart (ls ++ [b]) s' ∧
      blockTransactions (ls ++ [b]) = [depositTransaction, transitionTransaction] ∧
      Stored exchangeNetwork t s'.height s'.view ∧
      s'.view.accessCoin t.state.outpoint = some coin ∧ IsP2TR coin.out.scriptPubKey := by
  obtain ⟨⟨s', bs⟩, hbs, -⟩ := Option.map_eq_some_iff.1 length_extendAll_exchangeBlocks
  have htxs := blockTransactions_extendAll hbs
  obtain ⟨ls, b, rfl⟩ : ∃ ls b, bs = ls ++ [b] := by
    refine (List.eq_nil_or_concat' bs).resolve_left ?_
    rintro rfl
    cases htxs
  have hrun := run_extendAll hbs
  obtain ⟨_, coin, t, _, _, _, _, -, hstored, hcoin, hp2tr, -⟩ := singleton_thread (by decide)
    (by decide) (htxs ▸ freshIds_exchangeBlocks) hrun
  exact ⟨ls, b, s', t, coin, hrun, htxs, hstored, hcoin, hp2tr⟩

end ElementsDrivechain.Ecx
