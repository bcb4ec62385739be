import ElementsDrivechain.Ecx.Exchange
import ElementsDrivechain.Foundations.Trace

/-!
# Chains of blocks of the exchange

Blocks are connected one after the other: first the exchange looks at the block, then the
transactions of the block change the unspent outputs.  The records of the parent chain and of the
treasury may change before and after that.

* `connects_advances` : **every connected block takes the trackers from one value to the next**,
  stores them, and commits to them.
-/

namespace ElementsDrivechain

open Fallible CCoinsView

/-! ### Views that agree -/

namespace CCoinsView

variable {view view' : CCoinsView} {o : COutPoint} {coin : Coin} {height : ℤ}
  {tx : Child.CTransaction} {txs : List Child.CTransaction} {undo : List (Option Coin)}
  {undos : List (List (Option Coin))}

/-- The views differ at most in the records of the parent chain and of the treasury. -/
def Agree (v w : CCoinsView) : Prop :=
  ∀ o, ¬IsBmmStateInternalOutpoint o → ¬IsCtipStateInternalOutpoint o →
    v.accessCoin o = w.accessCoin o

theorem Agree.refl (v : CCoinsView) : v.Agree v := fun _ _ _ => rfl

theorem Agree.trans {u v w : CCoinsView} (h : u.Agree v) (h' : v.Agree w) : u.Agree w :=
  fun o hb hc => (h o hb hc).trans (h' o hb hc)

theorem Agree.eq_of_not_reserved {v w : CCoinsView} (h : v.Agree w) (ho : ¬IsReserved o) :
    v.accessCoin o = w.accessCoin o :=
  h o (fun hb => ho (.inr (.inl hb))) fun hc => ho (.inr (.inr hc))

theorem Agree.eq_of_exchange {v w : CCoinsView} (h : v.Agree w)
    (ho : IsExchangeStateInternalOutpoint o) : v.accessCoin o = w.accessCoin o := by
  refine h o ?_ ?_ <;> rcases ho with rfl | rfl | rfl <;> decide +kernel

theorem updateCoins_of_not_spent (h : view.updateCoins height tx = some (view', undo))
    (hcoin : view.accessCoin o = some coin) (ho : o ∉ tx.spent) :
    view'.accessCoin o = some coin := by
  rw [updateCoins_accessCoin h]
  cases hcreated : tx.created o with
  | none => simp [ho, hcoin]
  | some out =>
    rcases updateCoins_fresh h (o := o) (by simp [hcreated]) with hspent | hnone
    · exact absurd hspent ho
    · rw [hcoin] at hnone
      cases hnone

theorem connectTransactions_cons :
    connectTransactions height view (tx :: txs) = some (view', undos) ↔
      ∃ mid undo rest, view.updateCoins height tx = some (mid, undo) ∧
        connectTransactions height mid txs = some (view', rest) ∧ undos = undo :: rest := by
  simp only [connectTransactions, Option.bind_eq_some_iff, Option.map_eq_some_iff]
  constructor
  · rintro ⟨⟨mid, undo⟩, htx, ⟨_, rest⟩, hrest, heq⟩
    cases heq
    exact ⟨mid, undo, rest, htx, hrest, rfl⟩
  · rintro ⟨mid, undo, rest, htx, hrest, rfl⟩
    exact ⟨(mid, undo), htx, (view', rest), hrest, rfl⟩

theorem connectTransactions_of_not_spent
    (h : connectTransactions height view txs = some (view', undos))
    (hcoin : view.accessCoin o = some coin) (ho : ∀ tx ∈ txs, o ∉ tx.spent) :
    view'.accessCoin o = some coin := by
  induction txs generalizing view undos with
  | nil =>
    cases h
    exact hcoin
  | cons tx txs ih =>
    obtain ⟨mid, undo, rest, htx, hrest, -⟩ := connectTransactions_cons.1 h
    rw [List.forall_mem_cons] at ho
    exact ih hrest (updateCoins_of_not_spent htx hcoin ho.1) ho.2

theorem not_reserved_of_spent (h : connectTransactions height view txs = some (view', undos))
    (htx : tx ∈ txs) (ho : o ∈ tx.spent) : ¬IsReserved o := by
  induction txs generalizing view undos with
  | nil => cases htx
  | cons t txs ih =>
    obtain ⟨mid, undo, rest, ht, hrest, -⟩ := connectTransactions_cons.1 h
    rcases List.mem_cons.1 htx with rfl | htx
    · obtain ⟨_, -, hspent, -, -⟩ := updateCoins_eq_some ht
      exact (hspent o ho).2
    · exact ih hrest htx

theorem connectTransactions_reserved
    (h : connectTransactions height view txs = some (view', undos))
    (hcoin : view.accessCoin o = some coin) (ho : IsReserved o) : view'.accessCoin o = some coin :=
  connectTransactions_of_not_spent h hcoin fun _ htx hspent =>
    not_reserved_of_spent h htx hspent ho

end CCoinsView

namespace Ecx

/-! ### Trackers -/

/-- The three trackers. -/
structure Trackers where
  state : ExchangeStateTracker
  forced : InboxTracker
  deposits : InboxTracker
deriving DecidableEq

/-- The trackers are stored, with a height. -/
structure Stored (N : ExchangeNetwork) (t : Trackers) (height : ℤ) (view : CCoinsView) : Prop where
  state : view.accessCoin EXCHANGE_TRACKER_OUTPOINT =
    some (exchangeTrackerFormat.coin N.peggedAsset t.state height)
  forced : view.accessCoin FORCED_INBOX_TRACKER_OUTPOINT =
    some ((inboxTrackerFormat FORCED_INBOX_TRACKER_MARKER).coin N.peggedAsset t.forced height)
  deposits : view.accessCoin DEPOSIT_INBOX_TRACKER_OUTPOINT =
    some ((inboxTrackerFormat DEPOSIT_INBOX_TRACKER_MARKER).coin N.peggedAsset t.deposits height)

/-- Trackers that can be read once they are stored. -/
structure Readable (t : Trackers) : Prop where
  /-- The index of an output has 32 bits. -/
  index : t.state.outpoint.n < 2 ^ 32
  outpoint : ¬t.state.outpoint.IsNull
  state : t.state.root ≠ 0
  forced : t.forced.root ≠ 0
  deposits : t.deposits.root ≠ 0

section Trackers

variable {N : ExchangeNetwork} {t : Trackers} {height : ℤ} {view view' : CCoinsView} {o : COutPoint}

theorem outpoints_ne : EXCHANGE_TRACKER_OUTPOINT ≠ FORCED_INBOX_TRACKER_OUTPOINT ∧
    EXCHANGE_TRACKER_OUTPOINT ≠ DEPOSIT_INBOX_TRACKER_OUTPOINT ∧
    FORCED_INBOX_TRACKER_OUTPOINT ≠ DEPOSIT_INBOX_TRACKER_OUTPOINT := by decide +kernel

theorem setTrackers_of_not_exchange (ho : ¬IsExchangeStateInternalOutpoint o) :
    (setTrackers N view t.state t.forced t.deposits height).accessCoin o = view.accessCoin o := by
  simp only [IsExchangeStateInternalOutpoint, not_or] at ho
  simp only [setTrackers, setInboxTracker, setTracker, setRecord_of_ne ho.2.2,
    setRecord_of_ne ho.2.1, setRecord_of_ne ho.1]

theorem stored_setTrackers (h : t.state.outpoint.n < 2 ^ 32) :
    Stored N t height (setTrackers N view t.state t.forced t.deposits height) := by
  obtain ⟨h₁, h₂, h₃⟩ := outpoints_ne
  have hforced : (inboxTrackerFormat FORCED_INBOX_TRACKER_MARKER).Spells t.forced :=
    inboxTrackerFormat_spells (by decide) _
  have hdeposits : (inboxTrackerFormat DEPOSIT_INBOX_TRACKER_MARKER).Spells t.deposits :=
    inboxTrackerFormat_spells (by decide) _
  constructor
  · simp only [setTrackers, setInboxTracker, setTracker, setRecord_of_ne h₂,
      setRecord_of_ne h₁]
    exact setRecord_self (exchangeTrackerFormat_spells h)
  · simp only [setTrackers, setInboxTracker, setRecord_of_ne h₃]
    exact setRecord_self hforced
  · exact setRecord_self hdeposits

theorem Stored.of_eq (h : Stored N t height view)
    (heq : ∀ o, IsExchangeStateInternalOutpoint o → view'.accessCoin o = view.accessCoin o) :
    Stored N t height view' where
  state := (heq _ (.inl rfl)).trans h.state
  forced := (heq _ (.inr (.inl rfl))).trans h.forced
  deposits := (heq _ (.inr (.inr rfl))).trans h.deposits

theorem Stored.agree (h : Stored N t height view) (hagree : view.Agree view') :
    Stored N t height view' :=
  h.of_eq fun _ ho => (hagree.eq_of_exchange ho).symm

theorem Stored.connectTransactions (h : Stored N t height view) {height' : ℤ}
    {txs : List Child.CTransaction} {undos : List (List (Option Coin))}
    (hconnect : connectTransactions height' view txs = some (view', undos)) :
    Stored N t height view' where
  state := connectTransactions_reserved hconnect h.state (.inl (.inl rfl))
  forced := connectTransactions_reserved hconnect h.forced (.inl (.inr (.inl rfl)))
  deposits := connectTransactions_reserved hconnect h.deposits (.inl (.inr (.inr rfl)))

variable (h : Stored N t height view) (hr : Readable t)
include h hr

theorem Stored.getTracker : getTracker N.peggedAsset view = .ok t.state := by
  rw [Ecx.getTracker, h.state]
  refine (RecordFormat.decode_coin (exchangeTrackerFormat_spells hr.index)).2 ⟨?_, rfl⟩
  exact rejectIf_eq_ok.2 (not_or.2 ⟨hr.outpoint, hr.state⟩)

theorem Stored.getForcedTracker : getForcedTracker N.peggedAsset view = .ok t.forced := by
  rw [Ecx.getForcedTracker, getInboxTracker, h.forced]
  exact (RecordFormat.decode_coin (inboxTrackerFormat_spells (by decide) _)).2
    ⟨rejectIf_eq_ok.2 hr.forced, rfl⟩

theorem Stored.getDepositTracker : getDepositTracker N.peggedAsset view = .ok t.deposits := by
  rw [Ecx.getDepositTracker, getInboxTracker, h.deposits]
  exact (RecordFormat.decode_coin (inboxTrackerFormat_spells (by decide) _)).2
    ⟨rejectIf_eq_ok.2 hr.deposits, rfl⟩

end Trackers

/-! ### Chains -/

/-- The chainstate of a node, and its tip. -/
structure ExchangeChain where
  view : CCoinsView
  tip : Option Child.CBlockIndex
  /-- The height of the tip. -/
  height : ℤ

/-- A block to be connected. -/
structure ChainBlock where
  block : Child.CBlock
  height : ℤ
  /-- The height of the parent chain, where it is known from elsewhere. -/
  parentHeight : Option ℕ := none
  /-- The block may be a candidate without a proof. -/
  allowIncompleteCandidate : Bool := false
  /-- The proof profile that is remembered of the block. -/
  proofProfile : Option UInt8 := none
  /-- What the transactions spent. -/
  undos : List (List (Option Coin)) := []

namespace ChainBlock

variable (b : ChainBlock)

/-- What is remembered of the block. -/
def index : Child.CBlockIndex := b.block.index b.height b.proofProfile

/-- The height of the parent chain that the block commits to. -/
def committedParentHeight : ℕ := b.block.ecxParentHeight.toNat

end ChainBlock

/-- **A block is connected.**  The exchange looks at it before its transactions are connected. -/
structure Connects (N : ExchangeNetwork) (s : ExchangeChain) (b : ChainBlock) (s' : ExchangeChain) :
    Prop where
  height : b.height = s.height + 1
  /-- The exchange stores its trackers, and then the transactions are connected. -/
  connected : ∃ seen stored spent, s.view.Agree seen ∧
    connectExchangeState N b.block s.tip seen b.height b.parentHeight b.allowIncompleteCandidate =
      .ok stored ∧
    connectTransactions b.height stored b.block.vtx = some (spent, b.undos) ∧
    spent.Agree s'.view
  tip : s'.tip = some b.index
  height' : s'.height = b.height

/-- The trackers are stored, and the tip commits to them. -/
structure Synced (N : ExchangeNetwork) (s : ExchangeChain) (t : Trackers)
    (index : Child.CBlockIndex) : Prop where
  tip : s.tip = some index
  /-- The exchange was active at the tip. -/
  active : N.consensus.activationHeight ≤ s.height
  stored : Stored N t s.height s.view
  readable : Readable t
  /-- The header of the tip carries all commitments. -/
  committed : Committed index.toCBlockHeader
  state : index.hashExchangeStateRoot = t.state.root
  forced : index.hashForcedInboxRoot = t.forced.root
  deposits : index.hashDepositInboxRoot = t.deposits.root

/-- The trackers that the exchange starts from. -/
def genesisTrackers (N : ExchangeNetwork) : Trackers where
  state := genesisState N
  forced := forcedGenesis N
  deposits := depositGenesis N

/-- The trackers, the cursors and the age of the backlog that the next block starts from. -/
inductive Position (N : ExchangeNetwork) (s : ExchangeChain) : Trackers → Cursors → ℕ → Prop
  | start (height : s.height + 1 = N.consensus.activationHeight) :
      Position N s (genesisTrackers N) {} 0
  | synced {t : Trackers} {index : Child.CBlockIndex} (synced : Synced N s t index) :
      Position N s t (headerCursors index.toCBlockHeader)
        index.sourceBacklogOldestParentHeight.toNat

/-- What is expected of a header follows from the trackers before the block. -/
structure Follows (N : ExchangeNetwork) (vtx : List Child.CTransaction) (height : ℤ) (p : ℕ)
    (view : CCoinsView) (t : Trackers) (cursors : Cursors) (oldest : ℕ) (expected : Expected) :
    Prop where
  /-- The singleton is unspent, and the next one is derived from it. -/
  coin : ∃ coin, view.accessCoin t.state.outpoint = some coin ∧ IsOpen coin.out ∧
    IsP2TR coin.out.scriptPubKey ∧ stateRoot N t.state.outpoint coin.out = t.state.root ∧
    deriveNext N vtx t.state coin.out = .ok expected.state
  /-- The inboxes grow by the entries of the block. -/
  sources : ∃ sources, blockSources N vtx = .ok sources ∧
    Appendable height p t.forced t.deposits sources ∧
    expected.forced = t.forced.appendAllForced N (forcedEntries height p sources) ∧
    expected.deposits = t.deposits.appendAllDeposits N (depositEntries height p sources)
  /-- The cursors do not go back. -/
  advanced : cursors.forced.toNat ≤ expected.cursors.forced.toNat ∧
    cursors.deposit.toNat ≤ expected.cursors.deposit.toNat
  /-- The backlog is neither too large nor too old. -/
  live : Live (.of t.forced t.deposits cursors)
    (.of expected.forced expected.deposits expected.cursors) oldest p expected.oldestParentHeight

/-- The trackers that a header commits to. -/
def Expected.trackers (expected : Expected) : Trackers where
  state := expected.state
  forced := expected.forced
  deposits := expected.deposits

/-- **A connected block takes the trackers from one value to the next.**  The block is looked at in
the view `seen`, and `spent` is the view after its transactions. -/
structure Advances (N : ExchangeNetwork) (s : ExchangeChain) (b : ChainBlock) (s' : ExchangeChain)
    (t : Trackers) (cursors : Cursors) (oldest : ℕ) (expected : Expected)
    (seen spent : CCoinsView) : Prop where
  configured : consensusConfigured N.toExchangeCrypto N.consensus = .ok ()
  height : b.height = s.height + 1
  /-- Others may have changed their records before. -/
  before : s.view.Agree seen
  follows : Follows N b.block.vtx b.height b.committedParentHeight seen t cursors oldest expected
  /-- The header commits to what is expected. -/
  committedBy : expected.CommittedBy b.block.toCBlockHeader
  committed : Committed b.block.toCBlockHeader
  readable : Readable expected.trackers
  /-- At the activation nothing is stored before. -/
  activation : b.height = N.consensus.activationHeight →
    ∀ o, IsExchangeStateInternalOutpoint o → seen.accessCoin o = none
  transactions : connectTransactions b.height
    (setTrackers N seen expected.state expected.forced expected.deposits b.height) b.block.vtx =
      some (spent, b.undos)
  /-- Others may change their records afterwards. -/
  after : spent.Agree s'.view
  synced : Synced N s' expected.trackers b.index

section Steps

variable {N : ExchangeNetwork} {s s' : ExchangeChain} {b : ChainBlock} {t : Trackers}
  {cursors : Cursors} {oldest : ℕ} {view view' : CCoinsView} {vtx : List Child.CTransaction}
  {height : ℤ} {p : ℕ} {expected : Expected}

theorem follows_of_activation
    (h : expectedAtActivation N vtx view height (some p) = .ok expected) :
    Follows N vtx height p view (genesisTrackers N) {} 0 expected := by
  simp only [expectedAtActivation, bind_eq_ok, rejectIf_eq_ok, pure_eq_ok, not_not] at h
  obtain ⟨output, hcoin, derived, hderived, _, rfl, _, -, scan, hscan, _, -, cursors, hcursors,
    oldest, hlive, rfl⟩ := h
  obtain ⟨coin, haccess, hopen, hp2tr, hroot, rfl⟩ := verifyTrackedCoin_eq_ok.1 hcoin
  obtain ⟨sources, hsources, happendable, rfl⟩ := deriveInboxNext_eq_ok.1 hscan
  exact {
    coin := ⟨coin, haccess, hopen, hp2tr, hroot, hderived⟩
    sources := ⟨sources, hsources, happendable, rfl, rfl⟩
    advanced := deriveProcessedCursors_mono hcursors
    live := validateInboxLiveness_spec hlive }

theorem follows_of_later {index : Child.CBlockIndex} (hstored : Stored N t height view)
    (hreadable : Readable t) {height' : ℤ}
    (h : expectedAfterActivation N vtx (some index) view height' (some p) = .ok expected) :
    Follows N vtx height' p view t (headerCursors index.toCBlockHeader)
      index.sourceBacklogOldestParentHeight.toNat expected := by
  simp only [expectedAfterActivation, hstored.getTracker hreadable,
    hstored.getForcedTracker hreadable, hstored.getDepositTracker hreadable, bind_eq_ok,
    rejectIf_eq_ok, orReject_eq_ok, pure_eq_ok, Except.ok.injEq, Option.some.injEq,
    exists_eq_left'] at h
  obtain ⟨_, -, output, hcoin, next, hnext, _, -, scan, hscan, cursors, hcursors, oldest, hlive,
    rfl⟩ := h
  obtain ⟨coin, haccess, hopen, hp2tr, hroot, rfl⟩ := verifyTrackedCoin_eq_ok.1 hcoin
  obtain ⟨sources, hsources, happendable, rfl⟩ := deriveInboxNext_eq_ok.1 hscan
  exact {
    coin := ⟨coin, haccess, hopen, hp2tr, hroot, hnext⟩
    sources := ⟨sources, hsources, happendable, rfl, rfl⟩
    advanced := deriveProcessedCursors_mono hcursors
    live := validateInboxLiveness_spec hlive }

/-- What is expected of the next block follows from the position. -/
theorem Position.follows (hpos : Position N s t cursors oldest) (hagree : s.view.Agree view)
    (h : expectedForBlock N vtx s.tip view (s.height + 1) (some p) = .ok expected) :
    Follows N vtx (s.height + 1) p view t cursors oldest expected := by
  cases hpos with
  | start hheight =>
    rw [expectedForBlock, if_pos hheight] at h
    exact follows_of_activation h
  | synced hsynced =>
    have hlater : s.height + 1 ≠ N.consensus.activationHeight := by
      have := hsynced.active
      omega
    rw [expectedForBlock, if_neg hlater, hsynced.tip] at h
    exact follows_of_later (hsynced.stored.agree hagree) hsynced.readable h

theorem Position.active (hpos : Position N s t cursors oldest)
    (hmax : N.consensus.activationHeight ≠ INT_MAX) : ActiveAt (s.height + 1) N.consensus := by
  refine ⟨hmax, ?_⟩
  cases hpos with
  | start hheight => exact hheight.ge
  | synced hsynced =>
    have := hsynced.active
    omega

theorem genesis_of_configured
    (h : consensusConfigured N.toExchangeCrypto N.consensus = .ok ()) :
    ¬IsReserved N.consensus.genesisStateOutpoint ∧ ¬N.consensus.genesisStateOutpoint.IsNull := by
  simp only [consensusConfigured, bind_eq_ok, rejectIf_eq_ok, not_or] at h
  obtain ⟨_, -, _, hreserved, _, ⟨-, hnull, -⟩, -⟩ := h
  exact ⟨hreserved, hnull⟩

theorem COutPoint.not_isNull_of_first (hash : Uint256) : ¬(⟨hash, 0⟩ : COutPoint).IsNull := by
  simp [COutPoint.IsNull, COutPoint.NULL_INDEX]

theorem Position.outpoint (hpos : Position N s t cursors oldest)
    (hconfigured : consensusConfigured N.toExchangeCrypto N.consensus = .ok ()) :
    t.state.outpoint.n < 2 ^ 32 ∧ ¬t.state.outpoint.IsNull := by
  cases hpos with
  | start => exact ⟨N.consensus.genesis_n_lt, (genesis_of_configured hconfigured).2⟩
  | synced hsynced => exact ⟨hsynced.readable.index, hsynced.readable.outpoint⟩

theorem Follows.outpoint (h : Follows N vtx height p view t cursors oldest expected)
    (ht : t.state.outpoint.n < 2 ^ 32 ∧ ¬t.state.outpoint.IsNull) :
    expected.state.outpoint.n < 2 ^ 32 ∧ ¬expected.state.outpoint.IsNull := by
  obtain ⟨coin, -, -, -, -, hnext⟩ := h.coin
  obtain ⟨-, heq⟩ | ⟨_, tx, _, _, -, -, -, -, -, hmoves⟩ := deriveNext_cases hnext
  · rw [heq]
    exact ht
  · rw [hmoves.next]
    exact ⟨(by decide : 0 < 2 ^ 32), COutPoint.not_isNull_of_first tx.hash⟩

/-- **Every connected block takes the trackers from one value to the next.** -/
theorem connects_advances (hmax : N.consensus.activationHeight ≠ INT_MAX)
    (hpos : Position N s t cursors oldest) (h : Connects N s b s') :
    ∃ expected seen spent, Advances N s b s' t cursors oldest expected seen spent := by
  obtain ⟨hheight, ⟨seen, stored, spent, hseen, hconnect, htransactions, hspent⟩, htip,
    hheight'⟩ := h
  have hactive : ActiveAt b.height N.consensus := by
    rw [hheight]
    exact hpos.active hmax
  simp only [connectExchangeState, hactive, not_true, if_false, bind_eq_ok, rejectIf_eq_ok,
    pure_eq_ok, not_not] at hconnect
  obtain ⟨_, hheader, _, hparent, expected, hexpected, _, hcommitted, _, hfresh, rfl⟩ := hconnect
  obtain ⟨hconfigured, hcomplete⟩ := committed_of_check hactive hheader
  have hfollows : Follows N b.block.vtx b.height b.committedParentHeight seen t cursors oldest
      expected := by
    rw [hheight] at hexpected ⊢
    exact hpos.follows hseen hexpected
  obtain ⟨hindex, hnull⟩ := hfollows.outpoint (hpos.outpoint hconfigured)
  obtain ⟨hstate, hforced, hdeposits, -⟩ := id hcommitted
  have hreadable : Readable expected.trackers := {
    index := hindex
    outpoint := hnull
    state := fun h => hcomplete.exchangeStateRoot (hstate.trans h)
    forced := fun h => hcomplete.forcedInboxRoot (hforced.trans h)
    deposits := fun h => hcomplete.depositInboxRoot (hdeposits.trans h) }
  have hstored : Stored N expected.trackers b.height s'.view :=
    ((stored_setTrackers hreadable.index).connectTransactions htransactions).agree hspent
  have hsynced : Synced N s' expected.trackers b.index := {
    tip := htip
    active := hheight' ▸ hactive.2
    stored := hheight' ▸ hstored
    readable := hreadable
    committed := hcomplete
    state := hstate
    forced := hforced
    deposits := hdeposits }
  refine ⟨expected, seen, spent, hconfigured, hheight, hseen, hfollows, hcommitted,
    hcomplete, hreadable, ?_, htransactions, hspent, hsynced⟩
  intro hactivation o ho
  simp only [not_and, not_or] at hfresh
  obtain ⟨h₁, h₂, h₃⟩ := hfresh hactivation
  rcases ho with rfl | rfl | rfl <;> rwa [← Option.not_isSome_iff_eq_none]

theorem Advances.position {seen spent : CCoinsView}
    (h : Advances N s b s' t cursors oldest expected seen spent) :
    Position N s' expected.trackers expected.cursors expected.oldestParentHeight := by
  obtain ⟨-, -, -, hcursor, hcursor', holdest⟩ := h.committedBy
  have hposition := Position.synced h.synced
  have hcursors : headerCursors b.index.toCBlockHeader = expected.cursors :=
    congrArg₂ Cursors.mk hcursor hcursor'
  rw [hcursors] at hposition
  exact holdest ▸ hposition

end Steps

/-! ### A chain of three blocks -/

namespace Sample

/-- Hashes that are good enough to tell a few short strings apart. -/
def exchangeCrypto : ExchangeCrypto where
  sha256 := Sample.polynomialHash
  isFullyValid _ := true
  verifySchnorr _ _ _ := true
  parseIncrementalActivationAnnex _ := none

/-- An output that can be a singleton. -/
def singletonOutput (key : UInt8) : Child.CTxOut where
  nAsset := .explicit (.ofByte 9)
  nValue := .explicit 1
  scriptPubKey := OP_1 :: 0x20 :: List.replicate 32 key

/-- The first singleton of the sample network. -/
def genesisOutpoint : COutPoint := ⟨.ofByte 5, 0⟩

/-- A network whose exchange is active from the first block. -/
def exchangeNetwork : ExchangeNetwork where
  toExchangeCrypto := exchangeCrypto
  consensus := {
    activationHeight := 1
    genesisStateOutpoint := genesisOutpoint
    genesisStateRoot := computeStateUtxoRoot exchangeCrypto (.ofByte 1) genesisOutpoint
      (singletonOutput 1)
    chainId := .ofByte 2
    forcedActionDomain := .ofByte 3
    depositInboxDomain := .ofByte 4
    collateralVaultScript := [OP_1]
    collateralVaultScriptHash := exchangeCrypto.sha256 [OP_1] }
  policyAsset := .ofByte 8
  peggedAsset := .ofByte 8
  hashGenesisBlock := .ofByte 1

/-- The chain before the activation, which holds the first singleton. -/
def exchangeStart : ExchangeChain where
  view := CCoinsView.empty.addCoin genesisOutpoint
    { out := singletonOutput 1, nHeight := 0, fCoinBase := false }
  tip := none
  height := 0

/-- A transaction with a deposit. -/
def depositTransaction : Child.CTransaction where
  vin := []
  vout := [{ nAsset := .commitment [2], nValue := .commitment [3], nNonce := .commitment [4]
             scriptPubKey := [OP_1] },
    { nAsset := .explicit (.ofByte 8), nValue := .explicit 0
      scriptPubKey := OP_RETURN :: 73 :: (DEPOSIT_MAGIC ++ (1 :: ((Uint256.ofByte 2).data ++
        (writeBE 4 0 ++ List.replicate 32 7)))) }]
  outWitness := [{ vchSurjectionproof := [1], vchRangeproof := [1] }]
  hash := .ofByte 6

/-- The marker of a forced action that cancels an order. -/
def cancelScript : CScript :=
  OP_RETURN :: OP_PUSHDATA1 :: 209 :: (FORCED_MAGIC ++ (1 :: 0 :: (writeBE 2 201 ++
    (1 :: ((Uint256.ofByte 2).data ++ (ECX_USDD_MARKET ++ List.replicate 152 0))))))

/-- A transaction that moves the singleton and processes the deposit. -/
def transitionTransaction : Child.CTransaction where
  vin := [.ofPrevout genesisOutpoint]
  vout := [singletonOutput 2,
    { nAsset := .explicit (.ofByte 8), nValue := .explicit 0
      scriptPubKey := OP_RETURN :: 21 :: (CURSOR_MAGIC ++ (1 :: (writeLE 8 0 ++ writeLE 8 1))) }]
  hash := .ofByte 7

/-- Put a block with the given transactions on a chain, and connect it. -/
def extend (N : ExchangeNetwork) (s : ExchangeChain) (vtx : List Child.CTransaction)
    (parentHeight : UInt32) : Option (ExchangeChain × ChainBlock) :=
  (expectedForBlock N vtx s.tip s.view (s.height + 1) (some parentHeight.toNat)).toOption.bind
    fun expected =>
      let block : Child.CBlock := {
        nVersion := 0x1fffff
        hashExchangeStateRoot := expected.state.root
        hashForcedInboxRoot := expected.forced.root
        hashDepositInboxRoot := expected.deposits.root
        ecxParentHeight := parentHeight
        forcedProcessedCursor := expected.cursors.forced
        depositProcessedCursor := expected.cursors.deposit
        sourceBacklogOldestParentHeight := UInt64.ofNat expected.oldestParentHeight
        hash := .ofNat (s.height.toNat + 1)
        vtx := vtx }
      (connectExchangeState N block s.tip s.view (s.height + 1) (some parentHeight.toNat)
        false).toOption.bind fun stored =>
          (connectTransactions (s.height + 1) stored vtx).map fun r =>
            let b : ChainBlock := {
              block := block
              height := s.height + 1
              parentHeight := some parentHeight.toNat
              undos := r.2 }
            ({ view := r.1, tip := some b.index, height := s.height + 1 }, b)

/-- Put several blocks on a chain. -/
def extendAll (N : ExchangeNetwork) : ExchangeChain → List (List Child.CTransaction × UInt32) →
    Option (ExchangeChain × List ChainBlock)
  | s, [] => some (s, [])
  | s, (vtx, parentHeight) :: rest => (extend N s vtx parentHeight).bind fun r =>
    (extendAll N r.1 rest).map fun r' => (r'.1, r.2 :: r'.2)

theorem connects_extend {N : ExchangeNetwork} {s s' : ExchangeChain} {b : ChainBlock}
    {vtx : List Child.CTransaction} {p : UInt32} (h : extend N s vtx p = some (s', b)) :
    Connects N s b s' := by
  simp only [extend, Option.bind_eq_some_iff, Option.map_eq_some_iff,
    toOption_eq_some] at h
  obtain ⟨expected, -, stored, hstored, ⟨spent, undos⟩, hspent, heq⟩ := h
  cases heq
  exact ⟨rfl, ⟨s.view, stored, spent, .refl _, hstored, hspent, .refl _⟩, rfl, rfl⟩

theorem run_extendAll {N : ExchangeNetwork} {s s' : ExchangeChain} {bs : List ChainBlock}
    {txs : List (List Child.CTransaction × UInt32)} (h : extendAll N s txs = some (s', bs)) :
    Run (Connects N) s bs s' := by
  induction txs generalizing s bs with
  | nil =>
    cases h
    exact .nil
  | cons block rest ih =>
    simp only [extendAll, Option.bind_eq_some_iff, Option.map_eq_some_iff] at h
    obtain ⟨⟨mid, b⟩, hb, ⟨last, bs'⟩, hrest, heq⟩ := h
    cases heq
    exact Run.cons_iff.2 ⟨mid, connects_extend hb, ih hrest⟩

/-- The activation, a deposit, and a transition that processes it six blocks of the parent chain
later. -/
def exchangeBlocks : List (List Child.CTransaction × UInt32) :=
  [([], 100), ([depositTransaction], 101), ([transitionTransaction], 107)]

end Sample

end Ecx

end ElementsDrivechain
