import ElementsDrivechain.Child.Block
import ElementsDrivechain.Child.Records

/-!
# The rules of the exchange

The exchange lives in one output of the sidechain, its *singleton*, and in two inboxes: one of
actions that it is forced to take, and one of deposits.  Headers commit to the singleton and to the
inboxes, and the chainstate tracks them in three records.

* `exchangeTrackerFormat_spells`, `inboxTrackerFormat_spells` : **trackers are read back as they
  were written.**
-/

namespace ElementsDrivechain.Ecx

open Fallible

/-! ### Parameters -/

/-- Hashes, signatures and proofs, as far as the rules see them. -/
structure ExchangeCrypto where
  sha256 : Bytes → Uint256
  /-- The bytes are a public key. -/
  isFullyValid : Bytes → Bool
  /-- A public key signed a digest. -/
  verifySchnorr : Bytes → Uint256 → Bytes → Bool
  /-- The program and the public values of the annex of an activation. -/
  parseIncrementalActivationAnnex : Bytes → Option (Bytes × Bytes)

/-- The successor of the exchange that takes part in the rules here. -/
structure BondV2Consensus where
  activationEnabled : Bool := false
  identitiesFrozen : Bool := false
  incrementalActivationProgramId : Uint256 := 0
  incrementalActivationCmr : Uint256 := 0

/-- The largest value of an `int`. -/
def INT_MAX : ℤ := 2 ^ 31 - 1

/-- The parameters of a deployment. -/
structure ExchangeConsensus where
  /-- Never, unless it is set. -/
  activationHeight : ℤ := INT_MAX
  genesisStateOutpoint : COutPoint
  genesisStateRoot : Uint256
  chainId : Uint256
  forcedActionDomain : Uint256
  depositInboxDomain : Uint256
  /-- The script that holds deposits. -/
  collateralVaultScript : CScript
  collateralVaultScriptHash : Uint256
  bondV2 : BondV2Consensus := {}
  /-- The index of an output has 32 bits. -/
  genesis_n_lt : genesisStateOutpoint.n < 2 ^ 32 := by decide

/-- A deployment on a network. -/
structure ExchangeNetwork extends ExchangeCrypto where
  consensus : ExchangeConsensus
  policyAsset : Uint256
  peggedAsset : Uint256
  hashGenesisBlock : Uint256
  /-- The network is one for tests, where a parent chain need not be authenticated. -/
  isEcxRuntimeTestNetwork : Bool := false

/-- So many parent blocks old a backlog may not become. -/
def FORCED_INCLUSION_BLOCKS : ℕ := 6
/-- The entries that may be left unprocessed by a block. -/
def MAX_COMBINED_UNCONSUMED : ℕ := 64
/-- The entries that may be appended while the parent chain stands still. -/
def MAX_COMBINED_SAME_PARENT_APPENDS : ℕ := 64
/-- The entries that the witness of a transition has room for. -/
def MAX_COMBINED_PENDING_WITNESS_ENTRIES : ℕ := 448
/-- The bound on the work of the orders in a block. -/
def MAX_FORCED_TRANCHE_ORDER_WORK : ℕ := 64

/-- The bytes of a tag. -/
def tagBytes (tag : String) : Bytes := tag.toList.map fun c => UInt8.ofNat c.toNat

/-- The hash of a payload under a tag. -/
def taggedHash (C : ExchangeCrypto) (tag : String) (payload : Bytes) : Uint256 :=
  let tagHash := (C.sha256 (tagBytes tag)).data
  C.sha256 (tagHash ++ (tagHash ++ payload))

/-- The exchange is active at a height. -/
def ActiveAt (height : ℤ) (consensus : ExchangeConsensus) : Prop :=
  consensus.activationHeight ≠ INT_MAX ∧ consensus.activationHeight ≤ height
deriving Decidable

/-- The parameters of a deployment are complete. -/
def consensusConfigured (C : ExchangeCrypto) (consensus : ExchangeConsensus) :
    Except String Unit := do
  rejectIf (consensus.activationHeight = INT_MAX) ""
  rejectIf (IsReserved consensus.genesisStateOutpoint)
    "ECX genesis state outpoint collides with a reserved chainstate record"
  rejectIf (consensus.activationHeight ≤ 0 ∨ consensus.genesisStateOutpoint.IsNull ∨
      consensus.genesisStateRoot = 0 ∨ consensus.chainId = 0 ∨ consensus.forcedActionDomain = 0 ∨
      consensus.depositInboxDomain = 0 ∨
      consensus.forcedActionDomain = consensus.depositInboxDomain ∨
      consensus.collateralVaultScript = [] ∨ consensus.collateralVaultScriptHash = 0)
    "ECX activation parameters are incomplete"
  rejectIf (C.sha256 consensus.collateralVaultScript ≠ consensus.collateralVaultScriptHash)
    "ECX collateral vault script hash does not match its frozen bytes"

/-! ### Trackers -/

/-- The singleton: where it is, and the root that commits to it. -/
structure ExchangeStateTracker where
  outpoint : COutPoint
  root : Uint256
deriving DecidableEq

/-- The head of an inbox, and how many entries it has. -/
structure InboxTracker where
  root : Uint256
  count : UInt64 := 0
deriving DecidableEq

/-- The bytes of a tracker of the singleton. -/
def ExchangeStateTracker.serialize (tracker : ExchangeStateTracker) : Bytes :=
  tracker.outpoint.hash.data ++ (writeLE 4 tracker.outpoint.n ++ tracker.root.data)

/-- Reads a tracker of the singleton. -/
def ExchangeStateTracker.deserialize : Reader ExchangeStateTracker := do
  let hash ← Reader.uint256
  let n ← Reader.number 4
  let root ← Reader.uint256
  return { outpoint := { hash := hash, n := n }, root := root }

/-- The bytes of a tracker of an inbox. -/
def InboxTracker.serialize (tracker : InboxTracker) : Bytes :=
  tracker.root.data ++ writeLE 8 tracker.count.toNat

/-- Reads a tracker of an inbox. -/
def InboxTracker.deserialize : Reader InboxTracker := do
  let root ← Reader.uint256
  let count ← Reader.uint64
  return { root := root, count := count }

/-- The bytes of `ecx-state-v1`. -/
def EXCHANGE_TRACKER_MARKER : Bytes := [101, 99, 120, 45, 115, 116, 97, 116, 101, 45, 118, 49]

/-- The bytes of `ecx-forced-v1`. -/
def FORCED_INBOX_TRACKER_MARKER : Bytes :=
  [101, 99, 120, 45, 102, 111, 114, 99, 101, 100, 45, 118, 49]

/-- The bytes of `ecx-deposit-v1`. -/
def DEPOSIT_INBOX_TRACKER_MARKER : Bytes :=
  [101, 99, 120, 45, 100, 101, 112, 111, 115, 105, 116, 45, 118, 49]

/-- The record of the singleton. -/
def exchangeTrackerFormat : RecordFormat ExchangeStateTracker where
  what := "ECX tracker"
  undecodable := "persisted ECX tracker cannot be decoded"
  marker := EXCHANGE_TRACKER_MARKER
  serialize := ExchangeStateTracker.serialize
  deserialize := ExchangeStateTracker.deserialize
  check tracker := rejectIf (tracker.outpoint.IsNull ∨ tracker.root = 0)
    "persisted ECX tracker payload is invalid"

/-- The record of an inbox. -/
def inboxTrackerFormat (marker : Bytes) : RecordFormat InboxTracker where
  what := "ECX inbox tracker"
  undecodable := "persisted ECX inbox tracker cannot be decoded"
  marker := marker
  serialize := InboxTracker.serialize
  deserialize := InboxTracker.deserialize
  check tracker := rejectIf (tracker.root = 0) "persisted ECX inbox tracker payload is invalid"

theorem exchangeTrackerFormat_spells {tracker : ExchangeStateTracker}
    (h : tracker.outpoint.n < 2 ^ 32) : exchangeTrackerFormat.Spells tracker where
  marker := by decide
  length := by
    simp [exchangeTrackerFormat, ExchangeStateTracker.serialize, Uint256.size_data]
  reads := by
    change ExchangeStateTracker.deserialize.Reads tracker tracker.serialize
    unfold ExchangeStateTracker.deserialize ExchangeStateTracker.serialize
    refine (Reader.Reads.uint256 _).bind ((Reader.Reads.number (h.trans_eq (by decide))).bind ?_)
    rw [← List.append_nil tracker.root.data]
    exact (Reader.Reads.uint256 _).bind (Reader.Reads.pure _)

theorem inboxTrackerFormat_spells {marker : Bytes} (h : marker.length < 253)
    (tracker : InboxTracker) : (inboxTrackerFormat marker).Spells tracker where
  marker := h
  length := by
    simp [inboxTrackerFormat, InboxTracker.serialize, Uint256.size_data]
  reads := by
    change InboxTracker.deserialize.Reads tracker tracker.serialize
    unfold InboxTracker.deserialize InboxTracker.serialize
    refine (Reader.Reads.uint256 _).bind ?_
    rw [← List.append_nil (writeLE 8 _)]
    exact (Reader.Reads.uint64 _).bind (Reader.Reads.pure _)

variable (peggedAsset : Uint256)

/-- The stored tracker of the singleton. -/
def getTracker (view : CCoinsView) : Except String ExchangeStateTracker := do
  let coin ← orReject (view.accessCoin EXCHANGE_TRACKER_OUTPOINT) "persisted ECX tracker is missing"
  exchangeTrackerFormat.decode peggedAsset coin

/-- Stores the tracker of the singleton. -/
def setTracker (view : CCoinsView) (tracker : ExchangeStateTracker) (height : ℤ) : CCoinsView :=
  view.setRecord EXCHANGE_TRACKER_OUTPOINT (exchangeTrackerFormat.coin peggedAsset tracker height)

/-- The stored tracker of an inbox. -/
def getInboxTracker (view : CCoinsView) (outpoint : COutPoint) (marker : Bytes) :
    Except String InboxTracker := do
  let coin ← orReject (view.accessCoin outpoint) "persisted ECX inbox tracker is missing"
  (inboxTrackerFormat marker).decode peggedAsset coin

/-- Stores the tracker of an inbox. -/
def setInboxTracker (view : CCoinsView) (outpoint : COutPoint) (marker : Bytes)
    (tracker : InboxTracker) (height : ℤ) : CCoinsView :=
  view.setRecord outpoint ((inboxTrackerFormat marker).coin peggedAsset tracker height)

/-- The stored tracker of the forced actions. -/
def getForcedTracker (view : CCoinsView) : Except String InboxTracker :=
  getInboxTracker peggedAsset view FORCED_INBOX_TRACKER_OUTPOINT FORCED_INBOX_TRACKER_MARKER

/-- The stored tracker of the deposits. -/
def getDepositTracker (view : CCoinsView) : Except String InboxTracker :=
  getInboxTracker peggedAsset view DEPOSIT_INBOX_TRACKER_OUTPOINT DEPOSIT_INBOX_TRACKER_MARKER

/-! ### Roots -/

variable (C : ExchangeCrypto) (consensus : ExchangeConsensus)

/-- The head of the empty inbox of forced actions. -/
def computeForcedInboxGenesis : Uint256 :=
  taggedHash C "ECX/forced-inbox-genesis/v1"
    (consensus.forcedActionDomain.data ++ consensus.chainId.data)

/-- The head of the empty inbox of deposits. -/
def computeDepositInboxGenesis : Uint256 :=
  taggedHash C "ECX/deposit-inbox-genesis/v1"
    (consensus.depositInboxDomain.data ++ consensus.chainId.data)

/-- The bytes of a field that may be committed to. -/
def serializeConfidential {α : Type} (explicit : α → Bytes) : Confidential α → Bytes
  | .null => [0]
  | .explicit value => 1 :: explicit value
  | .commitment point => point

/-- The bytes of an output. -/
def serializeOutput (output : Child.CTxOut) : Bytes :=
  serializeConfidential Uint256.data output.nAsset ++
  (serializeConfidential (fun value => writeBE 8 (value % 2 ^ 64).toNat) output.nValue ++
  (serializeConfidential id output.nNonce ++ serializeBytes output.scriptPubKey))

/-- The hash of an output. -/
def txOutHash (output : Child.CTxOut) : Uint256 := C.sha256 (serializeOutput output)

/-- The root that commits to a singleton and to where it is. -/
def computeStateUtxoRoot (childGenesis : Uint256) (outpoint : COutPoint) (output : Child.CTxOut) :
    Uint256 :=
  taggedHash C "ECX/header-state/v1" (childGenesis.data ++ (outpoint.hash.data ++
    (writeLE 4 outpoint.n ++ (txOutHash C output).data)))

/-! ### Headers -/

open Child.CBlockHeader in
/-- What every header has to satisfy. -/
def checkExchangeStateHeader (header : Child.CBlockHeader) (height : ℤ) : Except String Unit :=
  if ¬ActiveAt height consensus then
    rejectIf (header.HasExchangeState ∨ header.HasForcedInbox ∨ header.HasDepositInbox ∨
        header.HasInboxCursors ∨ header.hashExchangeStateRoot ≠ 0 ∨
        header.hashForcedInboxRoot ≠ 0 ∨ header.hashDepositInboxRoot ≠ 0 ∨
        header.ecxParentHeight ≠ 0 ∨ header.forcedProcessedCursor ≠ 0 ∨
        header.depositProcessedCursor ≠ 0 ∨ header.sourceBacklogOldestParentHeight ≠ 0)
      "ECX header extensions are forbidden before activation"
  else do
    consensusConfigured C consensus
    rejectIf (¬header.HasExchangeState ∨ ¬header.HasForcedInbox ∨ ¬header.HasDepositInbox ∨
        ¬header.HasInboxCursors ∨ header.hashExchangeStateRoot = 0 ∨
        header.hashForcedInboxRoot = 0 ∨ header.hashDepositInboxRoot = 0 ∨
        header.ecxParentHeight = 0)
      "all ECX header extensions are required and nonzero after activation"
    rejectIf (height = consensus.activationHeight ∧
        (header.hashExchangeStateRoot ≠ consensus.genesisStateRoot ∨
          header.hashForcedInboxRoot ≠ computeForcedInboxGenesis C consensus ∨
          header.hashDepositInboxRoot ≠ computeDepositInboxGenesis C consensus ∨
          header.forcedProcessedCursor ≠ 0 ∨ header.depositProcessedCursor ≠ 0 ∨
          header.sourceBacklogOldestParentHeight ≠ 0))
      "ECX activation header does not commit the frozen genesis roots"

/-- The header of an active block carries all commitments. -/
structure Committed (header : Child.CBlockHeader) : Prop where
  exchangeState : header.HasExchangeState
  forcedInbox : header.HasForcedInbox
  depositInbox : header.HasDepositInbox
  cursors : header.HasInboxCursors
  exchangeStateRoot : header.hashExchangeStateRoot ≠ 0
  forcedInboxRoot : header.hashForcedInboxRoot ≠ 0
  depositInboxRoot : header.hashDepositInboxRoot ≠ 0
  parentHeight : header.ecxParentHeight ≠ 0

variable {C consensus}

theorem committed_of_check {header : Child.CBlockHeader} {height : ℤ}
    (hactive : ActiveAt height consensus)
    (h : checkExchangeStateHeader C consensus header height = .ok ()) :
    consensusConfigured C consensus = .ok () ∧ Committed header := by
  rw [checkExchangeStateHeader, if_neg (not_not.2 hactive)] at h
  simp only [bind_eq_ok, rejectIf_eq_ok, not_or, not_not] at h
  obtain ⟨_, hconfigured, _, ⟨h₁, h₂, h₃, h₄, h₅, h₆, h₇, h₈⟩, -⟩ := h
  exact ⟨hconfigured, ⟨h₁, h₂, h₃, h₄, h₅, h₆, h₇, h₈⟩⟩

end ElementsDrivechain.Ecx
