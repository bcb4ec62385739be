import ElementsDrivechain.Ecx.Cursors

/-!
# Connecting blocks of the exchange

The singleton moves when a transaction spends it as its first input: its first output is then the
next singleton.  Connecting a block derives the singleton, the inboxes, the cursors and the age of
the backlog that its header has to commit to, and stores the first three.  Nothing is kept for the
undo: disconnecting a block derives what was there before.

* `deriveNext_cases` : **a block leaves the singleton alone or moves it once.**
-/

namespace ElementsDrivechain.Ecx

open Fallible

/-- The opcode that pushes one. -/
def OP_1 : UInt8 := 0x51

/-- The script pays to a public key of version one. -/
def IsP2TR (script : CScript) : Prop :=
  script.length = 34 ∧ script[0]? = some OP_1 ∧ script[1]? = some 0x20
deriving Decidable

/-- An output that can be a singleton: nothing about it is hidden. -/
def IsOpen (output : Child.CTxOut) : Prop :=
  output.nAsset.IsExplicit ∧ output.nValue.IsExplicit ∧ output.nNonce.IsNull
deriving Decidable

section Model

variable (N : ExchangeNetwork)

/-- The root that commits to an output. -/
def stateRoot (outpoint : COutPoint) (output : Child.CTxOut) : Uint256 :=
  computeStateUtxoRoot N.toExchangeCrypto N.hashGenesisBlock outpoint output

/-- The output of the singleton. -/
def verifyTrackedCoin (view : CCoinsView) (tracker : ExchangeStateTracker) :
    Except String Child.CTxOut := do
  let coin ← orReject (view.accessCoin tracker.outpoint)
    "tracked ECX singleton is missing from the UTXO set"
  rejectIf (¬IsOpen coin.out)
    "ECX state authority must use an explicit asset/value and null nonce"
  rejectIf (¬IsP2TR coin.out.scriptPubKey) "ECX state authority must be a P2TR output"
  rejectIf (stateRoot N tracker.outpoint coin.out ≠ tracker.root)
    "tracked ECX singleton does not match its persisted root"
  return coin.out

/-! ### The singleton -/

/-- Take note of an input that spends an outpoint, of which there is to be only one. -/
def noteSpend (outpoint : COutPoint) (index : ℕ) (found : Option ℕ) (input : Child.CTxIn) :
    Except String (Option ℕ) :=
  if input.prevout ≠ outpoint then pure found
  else do
    rejectIf found.isSome "more than one transaction spends the ECX singleton"
    return some index

/-- The position of the transaction that spends an outpoint. -/
def findTransition (vtx : List Child.CTransaction) (outpoint : COutPoint) :
    Except String (Option ℕ) :=
  vtx.zipIdx.foldlM (fun found tx => tx.1.vin.foldlM (noteSpend outpoint tx.2) found) none

/-- The transaction names an outpoint among its inputs. -/
def Names (tx : Child.CTransaction) (outpoint : COutPoint) : Prop :=
  ∃ input ∈ tx.vin, input.prevout = outpoint
deriving Decidable

/-- Some transaction names an outpoint. -/
def AnyNames (txs : List Child.CTransaction) (outpoint : COutPoint) : Prop :=
  ∃ tx ∈ txs, Names tx outpoint

instance (txs : List Child.CTransaction) (outpoint : COutPoint) :
    Decidable (AnyNames txs outpoint) :=
  List.decidableBEx (fun tx => Names tx outpoint) txs

/-- The singleton after a transaction that spends it. -/
def followTransition (transition : Child.CTransaction) (previous : ExchangeStateTracker)
    (previousOutput : Child.CTxOut) : Except String ExchangeStateTracker := do
  rejectIf (transition.vin.head?.map (·.prevout) ≠ some previous.outpoint)
    "ECX singleton must be transition input zero"
  let successor ← orReject transition.vout.head? "ECX transition has no successor output zero"
  rejectIf (¬IsOpen successor)
    "ECX successor authority must use an explicit asset/value and null nonce"
  rejectIf (successor.nAsset ≠ previousOutput.nAsset)
    "ECX transition changed the state authority asset"
  rejectIf (successor.nValue ≠ previousOutput.nValue)
    "ECX transition changed the state authority value"
  rejectIf (¬IsP2TR successor.scriptPubKey)
    "ECX successor state authority must be a P2TR output"
  return {
    outpoint := ⟨transition.hash, 0⟩
    root := stateRoot N ⟨transition.hash, 0⟩ successor }

/-- The singleton after a block. -/
def deriveNext (vtx : List Child.CTransaction) (previous : ExchangeStateTracker)
    (previousOutput : Child.CTxOut) : Except String ExchangeStateTracker := do
  let transitionIndex ← findTransition vtx previous.outpoint
  match transitionIndex.bind fun i => vtx[i]?.map (i, ·) with
  | none => return previous
  | some (i, transition) =>
    let next ← followTransition N transition previous previousOutput
    rejectIf (AnyNames (vtx.drop (i + 1)) next.outpoint)
      "a block may contain at most one ECX state transition"
    return next

/-! ### What a header commits to -/

/-- What a header has to commit to. -/
structure Expected where
  state : ExchangeStateTracker
  forced : InboxTracker
  deposits : InboxTracker
  cursors : Cursors
  /-- Zero if there is no backlog. -/
  oldestParentHeight : ℕ

/-- The program of the annex of an activation, which stands in a witness of five items. -/
def parseActivationAnnex (stack : Child.CScriptWitness) : Option Bytes :=
  match stack with
  | [_, _, cmr, control, annex] =>
    if cmr.length = 32 ∧ annex.length = 800 ∧ annex.head? = some 0x50 ∧ 33 ≤ control.length ∧
        control.length ≤ 4129 ∧ (control.length - 33) % 32 = 0 ∧
        control.getD 0 0 &&& 0xfe = 0xbe then
      (N.parseIncrementalActivationAnnex annex.tail).map (·.1)
    else none
  | _ => none

/-- The witness is that of the frozen activation. -/
def IsFrozenActivation (stack : Child.CScriptWitness) : Prop :=
  parseActivationAnnex N stack = some N.consensus.bondV2.incrementalActivationProgramId.data ∧
    stack[2]? = some N.consensus.bondV2.incrementalActivationCmr.data
deriving Decidable

/-- The last transaction that moves the singleton is an activation of the successor. -/
def activationSeen (vtx : List Child.CTransaction) (previous next : ExchangeStateTracker) : Bool :=
  vtx.foldl (fun seen tx =>
    match tx.scriptWitness with
    | [] => seen
    | stack :: _ =>
      if tx.vin.head?.map (·.prevout) = some previous.outpoint ∧ tx.hash = next.outpoint.hash then
        decide (IsFrozenActivation N stack)
      else seen) false

/-- The block activates the successor while the inboxes are empty. -/
def emptyIncrementalActivation (vtx : List Child.CTransaction) (index : Child.CBlockIndex)
    (previous next : ExchangeStateTracker) (forced deposits : InboxTracker) : Bool :=
  N.consensus.bondV2.activationEnabled && N.consensus.bondV2.identitiesFrozen &&
    decide (index.ecxBondV2ProofProfile = some 0) &&
    decide (previous.outpoint = N.consensus.genesisStateOutpoint) &&
    decide (forced.count = 0 ∧ deposits.count = 0) && activationSeen N vtx previous next

/-- The cursors of a header. -/
def headerCursors (header : Child.CBlockHeader) : Cursors where
  forced := header.forcedProcessedCursor
  deposit := header.depositProcessedCursor

/-- The singleton before the activation. -/
def genesisState : ExchangeStateTracker where
  outpoint := N.consensus.genesisStateOutpoint
  root := N.consensus.genesisStateRoot

/-- The empty inbox of forced actions. -/
def forcedGenesis : InboxTracker where
  root := computeForcedInboxGenesis N.toExchangeCrypto N.consensus

/-- The empty inbox of deposits. -/
def depositGenesis : InboxTracker where
  root := computeDepositInboxGenesis N.toExchangeCrypto N.consensus

/-- What the header of the activation has to commit to. -/
def expectedAtActivation (vtx : List Child.CTransaction) (view : CCoinsView) (height : ℤ)
    (parentHeight : Option ℕ) : Except String Expected := do
  let genesisOutput ← verifyTrackedCoin N view (genesisState N)
  let derived ← deriveNext N vtx (genesisState N) genesisOutput
  rejectIf (derived ≠ genesisState N) "ECX activation block must carry the frozen genesis state"
  rejectIf ((forcedGenesis N).root = 0 ∨ (depositGenesis N).root = 0)
    "ECX inbox genesis commitment is invalid"
  let scan ← deriveInboxNext N vtx view height parentHeight (forcedGenesis N) (depositGenesis N)
  rejectIf (scan.forcedAppends ≠ 0 ∨ scan.depositAppends ≠ 0)
    "ECX activation block must carry the frozen inbox genesis state"
  let cursors ← deriveProcessedCursors vtx (genesisState N) (genesisState N) {} false
  let oldest ← validateInboxLiveness (.of (forcedGenesis N) (depositGenesis N) {})
    (.of scan.forced scan.deposits cursors) scan.forcedAppends scan.depositAppends 0
    (parentHeight.getD 0)
  return {
    state := genesisState N, forced := scan.forced, deposits := scan.deposits, cursors := cursors,
    oldestParentHeight := oldest }

/-- What the header of a later block has to commit to. -/
def expectedAfterActivation (vtx : List Child.CTransaction)
    (previousIndex : Option Child.CBlockIndex) (view : CCoinsView) (height : ℤ)
    (parentHeight : Option ℕ) : Except String Expected := do
  let previous ← getTracker N.peggedAsset view
  let index ← orReject previousIndex "persisted ECX tracker disagrees with the prior header root"
  rejectIf (¬index.HasExchangeState ∨ index.hashExchangeStateRoot ≠ previous.root)
    "persisted ECX tracker disagrees with the prior header root"
  let previousOutput ← verifyTrackedCoin N view previous
  let next ← deriveNext N vtx previous previousOutput
  let previousForced ← getForcedTracker N.peggedAsset view
  let previousDeposits ← getDepositTracker N.peggedAsset view
  rejectIf (¬index.HasForcedInbox ∨ ¬index.HasDepositInbox ∨ ¬index.HasInboxCursors ∨
      index.hashForcedInboxRoot ≠ previousForced.root ∨
      index.hashDepositInboxRoot ≠ previousDeposits.root)
    "persisted ECX inbox trackers disagree with the prior header roots"
  let scan ← deriveInboxNext N vtx view height parentHeight previousForced previousDeposits
  let cursors ← deriveProcessedCursors vtx previous next (headerCursors index.toCBlockHeader)
    (emptyIncrementalActivation N vtx index previous next previousForced previousDeposits &&
      decide (scan.forcedAppends = 0 ∧ scan.depositAppends = 0))
  let oldest ← validateInboxLiveness
    (.of previousForced previousDeposits (headerCursors index.toCBlockHeader))
    (.of scan.forced scan.deposits cursors) scan.forcedAppends scan.depositAppends
    index.sourceBacklogOldestParentHeight.toNat (parentHeight.getD 0)
  return {
    state := next, forced := scan.forced, deposits := scan.deposits, cursors := cursors,
    oldestParentHeight := oldest }

/-- What the header of a block has to commit to. -/
def expectedForBlock (vtx : List Child.CTransaction) (previous : Option Child.CBlockIndex)
    (view : CCoinsView) (height : ℤ) (parentHeight : Option ℕ) : Except String Expected :=
  if height = N.consensus.activationHeight then
    expectedAtActivation N vtx view height parentHeight
  else expectedAfterActivation N vtx previous view height parentHeight

/-! ### Connecting -/

/-- The header commits to what is expected. -/
def Expected.CommittedBy (expected : Expected) (header : Child.CBlockHeader) : Prop :=
  header.hashExchangeStateRoot = expected.state.root ∧
    header.hashForcedInboxRoot = expected.forced.root ∧
    header.hashDepositInboxRoot = expected.deposits.root ∧
    header.forcedProcessedCursor = expected.cursors.forced ∧
    header.depositProcessedCursor = expected.cursors.deposit ∧
    header.sourceBacklogOldestParentHeight.toNat = expected.oldestParentHeight
deriving Decidable

/-- The height that a header commits to is that of the parent chain. -/
def checkParentHeight (block : Child.CBlock) (view : CCoinsView) (parentHeight : Option ℕ)
    (allowIncompleteCandidate : Bool) : Except String Unit :=
  match parentHeight with
  | some supplied => rejectIf (supplied ≠ block.ecxParentHeight.toNat)
      "ECX supplied parent height disagrees with the committed header height"
  | none =>
    match getBmmState N.peggedAsset view with
    | .ok (some state) => rejectIf (state.height ≠ block.ecxParentHeight ∧
        ¬(allowIncompleteCandidate ∧ block.HasBmmProof ∧ block.hashBmmProof = 0 ∧
          block.bmmProof = []))
        "ECX committed parent height disagrees with authenticated BMM state"
    | .ok none => rejectIf (¬N.isEcxRuntimeTestNetwork)
        "ECX committed parent height has no authenticated BMM state"
    | .error bmmError => rejectIf (¬N.isEcxRuntimeTestNetwork)
        (if bmmError = "" then "ECX committed parent height has no authenticated BMM state"
          else bmmError)

/-- Store the trackers. -/
def setTrackers (view : CCoinsView) (state : ExchangeStateTracker) (forced deposits : InboxTracker)
    (height : ℤ) : CCoinsView :=
  let view := setTracker N.peggedAsset view state height
  let view := setInboxTracker N.peggedAsset view FORCED_INBOX_TRACKER_OUTPOINT
    FORCED_INBOX_TRACKER_MARKER forced height
  setInboxTracker N.peggedAsset view DEPOSIT_INBOX_TRACKER_OUTPOINT
    DEPOSIT_INBOX_TRACKER_MARKER deposits height

/-- Connect a block. -/
def connectExchangeState (block : Child.CBlock) (previous : Option Child.CBlockIndex)
    (view : CCoinsView) (height : ℤ) (parentHeight : Option ℕ) (allowIncompleteCandidate : Bool) :
    Except String CCoinsView := do
  checkExchangeStateHeader N.toExchangeCrypto N.consensus block.toCBlockHeader height
  if ¬ActiveAt height N.consensus then return view
  else
    checkParentHeight N block view parentHeight allowIncompleteCandidate
    let expected ← expectedForBlock N block.vtx previous view height
      (some block.ecxParentHeight.toNat)
    rejectIf (¬expected.CommittedBy block.toCBlockHeader)
      "ECX header roots do not match deterministic singleton and inbox derivation"
    rejectIf (height = N.consensus.activationHeight ∧
        ((view.accessCoin EXCHANGE_TRACKER_OUTPOINT).isSome ∨
          (view.accessCoin FORCED_INBOX_TRACKER_OUTPOINT).isSome ∨
          (view.accessCoin DEPOSIT_INBOX_TRACKER_OUTPOINT).isSome))
      "ECX activation cannot overwrite a reserved chainstate outpoint"
    return setTrackers N view expected.state expected.forced expected.deposits height

/-! ### Disconnecting -/

/-- The inboxes before a block, and a check that the block leads from them to those after it. -/
def restoreInboxes (block : Child.CBlock) (index : Child.CBlockIndex) (view : CCoinsView)
    (height : ℤ) (currentForced currentDeposits : InboxTracker) :
    Except String (InboxTracker × InboxTracker) := do
  let counting ← deriveInboxNext N block.vtx view height (some block.ecxParentHeight.toNat)
    { root := index.hashForcedInboxRoot } { root := index.hashDepositInboxRoot }
  rejectIf (currentForced.count.toNat < counting.forcedAppends ∨
      currentDeposits.count.toNat < counting.depositAppends)
    "ECX inbox count underflow during disconnect"
  let restoredForced : InboxTracker := {
    root := index.hashForcedInboxRoot
    count := currentForced.count - UInt64.ofNat counting.forcedAppends }
  let restoredDeposits : InboxTracker := {
    root := index.hashDepositInboxRoot
    count := currentDeposits.count - UInt64.ofNat counting.depositAppends }
  let rederived ← deriveInboxNext N block.vtx view height (some block.ecxParentHeight.toNat)
    restoredForced restoredDeposits
  rejectIf (rederived.forced ≠ currentForced ∨ rederived.deposits ≠ currentDeposits)
    "ECX inbox undo does not reproduce the disconnected header state"
  return (restoredForced, restoredDeposits)

/-- The outpoint of the singleton before a block. -/
def priorOutpoint (vtx : List Child.CTransaction) (current : ExchangeStateTracker) :
    Except String COutPoint :=
  if current.outpoint.n ≠ 0 then pure current.outpoint
  else match vtx.find? fun tx => tx.hash = current.outpoint.hash with
    | none => pure current.outpoint
    | some tx => orReject (tx.vin.head?.map (·.prevout))
        "ECX transition cannot recover its prior singleton"

/-- The trackers before a block that is not the activation, stored. -/
def restoreTrackers (block : Child.CBlock) (previous : Option Child.CBlockIndex) (view : CCoinsView)
    (height : ℤ) (current : ExchangeStateTracker) (currentForced currentDeposits : InboxTracker) :
    Except String CCoinsView := do
  let index ← orReject previous "prior ECX header state is unavailable during disconnect"
  rejectIf (¬index.HasExchangeState ∨ index.hashExchangeStateRoot = 0)
    "prior ECX header state is unavailable during disconnect"
  rejectIf (¬index.HasForcedInbox ∨ ¬index.HasDepositInbox ∨ index.hashForcedInboxRoot = 0 ∨
      index.hashDepositInboxRoot = 0)
    "prior ECX inbox header state is unavailable during disconnect"
  let restored ← restoreInboxes N block index view height currentForced currentDeposits
  let outpoint ← priorOutpoint block.vtx current
  let coin ← orReject (view.accessCoin outpoint)
    "prior ECX singleton was not restored by transaction undo"
  rejectIf (stateRoot N outpoint coin.out ≠ index.hashExchangeStateRoot)
    "restored ECX singleton disagrees with prior header root"
  return setTrackers N view { outpoint := outpoint, root := stateRoot N outpoint coin.out }
    restored.1 restored.2 (height - 1)

/-- Disconnect a block. -/
def disconnectExchangeState (block : Child.CBlock) (previous : Option Child.CBlockIndex)
    (view : CCoinsView) (height : ℤ) (parentHeight : Option ℕ) : Except String CCoinsView :=
  if ¬ActiveAt height N.consensus then pure view
  else do
    rejectIf (block.ecxParentHeight = 0 ∨
        ∃ supplied ∈ parentHeight, supplied ≠ block.ecxParentHeight.toNat)
      "ECX disconnected block has an inconsistent parent height"
    let current ← getTracker N.peggedAsset view
    rejectIf (current.root ≠ block.hashExchangeStateRoot)
      "persisted ECX tracker disagrees with disconnected header"
    let currentForced ← getForcedTracker N.peggedAsset view
    let currentDeposits ← getDepositTracker N.peggedAsset view
    rejectIf (currentForced.root ≠ block.hashForcedInboxRoot ∨
        currentDeposits.root ≠ block.hashDepositInboxRoot)
      "persisted ECX inbox trackers disagree with disconnected header"
    if height = N.consensus.activationHeight then
      -- the trackers were read above, so there is a coin to spend at each outpoint
      return ((view.spendCoin EXCHANGE_TRACKER_OUTPOINT).spendCoin
        FORCED_INBOX_TRACKER_OUTPOINT).spendCoin DEPOSIT_INBOX_TRACKER_OUTPOINT
    else restoreTrackers N block previous view height current currentForced currentDeposits

end Model

/-! ### The move of the singleton -/

section Singleton

variable {N : ExchangeNetwork} {o : COutPoint} {vtx : List Child.CTransaction}
  {tx : Child.CTransaction} {index : ℕ} {found r : Option ℕ} {previous : ExchangeStateTracker}
  {previousOutput : Child.CTxOut}

@[simp] theorem anyNames_nil : ¬AnyNames [] o := by simp [AnyNames]

@[simp] theorem anyNames_cons : AnyNames (tx :: vtx) o ↔ Names tx o ∨ AnyNames vtx o := by
  simp [AnyNames]

/-- The transaction names an outpoint with exactly one of its inputs. -/
def NamesOnce (tx : Child.CTransaction) (o : COutPoint) : Prop :=
  ∃ before input after, tx.vin = before ++ input :: after ∧ input.prevout = o ∧
    (∀ i ∈ before, i.prevout ≠ o) ∧ ∀ i ∈ after, i.prevout ≠ o

theorem NamesOnce.names (h : NamesOnce tx o) : Names tx o := by
  obtain ⟨before, input, after, hvin, hinput, -⟩ := h
  exact ⟨input, by simp [hvin], hinput⟩

theorem foldlM_noteSpend_of_not {inputs : List Child.CTxIn} (h : ∀ i ∈ inputs, i.prevout ≠ o) :
    inputs.foldlM (noteSpend o index) found = .ok found := by
  induction inputs with
  | nil => rfl
  | cons input inputs ih =>
    have hinput : noteSpend o index found input = .ok found := if_pos (h _ List.mem_cons_self)
    refine foldlM_cons_eq_ok.2 ⟨found, hinput, ih fun i hi => h i (List.mem_cons_of_mem _ hi)⟩

theorem noteSpend_of_eq {input : Child.CTxIn} (h : input.prevout = o) :
    noteSpend o index found input = .ok r ↔ found = none ∧ r = some index := by
  rw [noteSpend, if_neg (not_not.2 h)]
  simp only [bind_eq_ok, rejectIf_eq_ok, pure_eq_ok]
  cases found <;> simp [eq_comm]

theorem foldlM_noteSpend {inputs : List Child.CTxIn} :
    inputs.foldlM (noteSpend o index) found = .ok r ↔
      ((∀ i ∈ inputs, i.prevout ≠ o) ∧ r = found) ∨
      (found = none ∧ r = some index ∧ ∃ before input after, inputs = before ++ input :: after ∧
        input.prevout = o ∧ (∀ i ∈ before, i.prevout ≠ o) ∧ ∀ i ∈ after, i.prevout ≠ o) := by
  constructor
  · intro h
    induction inputs generalizing found with
    | nil => exact .inl ⟨by simp, (foldlM_nil_eq_ok.1 h).symm⟩
    | cons input inputs ih =>
      obtain ⟨u, hu, htail⟩ := foldlM_cons_eq_ok.1 h
      by_cases hinput : input.prevout = o
      · obtain ⟨rfl, rfl⟩ := (noteSpend_of_eq hinput).1 hu
        obtain ⟨hrest, rfl⟩ | ⟨hnone, -⟩ := ih htail
        · exact .inr ⟨rfl, rfl, [], input, inputs, rfl, hinput, by simp, hrest⟩
        · cases hnone
      · obtain rfl : u = found := by
          rw [noteSpend, if_pos hinput] at hu
          exact (pure_eq_ok.1 hu).symm
        obtain ⟨hrest, rfl⟩ | ⟨hnone, hr, before, i, after, rfl, hi, hbefore, hafter⟩ := ih htail
        · exact .inl ⟨List.forall_mem_cons.2 ⟨hinput, hrest⟩, rfl⟩
        · exact .inr ⟨hnone, hr, input :: before, i, after, rfl, hi,
            List.forall_mem_cons.2 ⟨hinput, hbefore⟩, hafter⟩
  · rintro (⟨hnone, rfl⟩ | ⟨rfl, rfl, before, input, after, rfl, hinput, hbefore, hafter⟩)
    · exact foldlM_noteSpend_of_not hnone
    · refine foldlM_append_eq_ok.2 ⟨none, foldlM_noteSpend_of_not hbefore, ?_⟩
      exact foldlM_cons_eq_ok.2 ⟨_, (noteSpend_of_eq hinput).2 ⟨rfl, rfl⟩,
        foldlM_noteSpend_of_not hafter⟩

theorem findTransition_from {k : ℕ}
    (h : (vtx.zipIdx k).foldlM (fun found tx => tx.1.vin.foldlM (noteSpend o tx.2) found) found =
      .ok r) :
    (¬AnyNames vtx o ∧ r = found) ∨
      (found = none ∧ ∃ before tx after, vtx = before ++ tx :: after ∧
        r = some (k + before.length) ∧ ¬AnyNames before o ∧ NamesOnce tx o ∧
        ¬AnyNames after o) := by
  induction vtx generalizing k found with
  | nil => exact .inl ⟨anyNames_nil, (foldlM_nil_eq_ok.1 h).symm⟩
  | cons tx vtx ih =>
    obtain ⟨u, hu, htail⟩ := foldlM_cons_eq_ok.1 h
    obtain ⟨hnone, rfl⟩ | ⟨rfl, rfl, honce⟩ := foldlM_noteSpend.1 hu
    · have htx : ¬Names tx o := fun ⟨i, hi, hio⟩ => hnone i hi hio
      obtain ⟨hrest, rfl⟩ | ⟨rfl, before, t, after, rfl, rfl, hbefore, hrest⟩ := ih htail
      · exact .inl ⟨by simp [htx, hrest], rfl⟩
      · refine .inr ⟨rfl, tx :: before, t, after, rfl, ?_, by simp [htx, hbefore], hrest⟩
        rw [List.length_cons]
        congr 1
        omega
    · obtain ⟨hrest, rfl⟩ | ⟨hnone, -⟩ := ih htail
      · exact .inr ⟨rfl, [], tx, vtx, rfl, rfl, anyNames_nil, honce, hrest⟩
      · cases hnone

/-- A transaction moves the singleton from one output to the next. -/
structure Moves (N : ExchangeNetwork) (tx : Child.CTransaction) (previous : ExchangeStateTracker)
    (previousOutput : Child.CTxOut) (next : ExchangeStateTracker) (successor : Child.CTxOut) :
    Prop where
  /-- It spends the singleton as its first input. -/
  input : tx.vin.head?.map (·.prevout) = some previous.outpoint
  /-- Its first output is the next singleton. -/
  output : tx.vout.head? = some successor
  isOpen : IsOpen successor
  asset : successor.nAsset = previousOutput.nAsset
  value : successor.nValue = previousOutput.nValue
  p2tr : IsP2TR successor.scriptPubKey
  next : next = { outpoint := ⟨tx.hash, 0⟩, root := stateRoot N ⟨tx.hash, 0⟩ successor }

theorem followTransition_eq_ok {next : ExchangeStateTracker} :
    followTransition N tx previous previousOutput = .ok next ↔
      ∃ successor, Moves N tx previous previousOutput next successor := by
  simp only [followTransition, bind_eq_ok, rejectIf_eq_ok, orReject_eq_ok, pure_eq_ok, not_not]
  constructor
  · rintro ⟨_, hinput, successor, houtput, _, hopen, _, hasset, _, hvalue, _, hp2tr, rfl⟩
    exact ⟨successor, hinput, houtput, hopen, hasset, hvalue, hp2tr, rfl⟩
  · rintro ⟨successor, hinput, houtput, hopen, hasset, hvalue, hp2tr, rfl⟩
    exact ⟨(), hinput, successor, houtput, (), hopen, (), hasset, (), hvalue, (), hp2tr, rfl⟩

/-- **A block leaves the singleton alone or moves it once.** -/
theorem deriveNext_cases {next : ExchangeStateTracker}
    (h : deriveNext N vtx previous previousOutput = .ok next) :
    (¬AnyNames vtx previous.outpoint ∧ next = previous) ∨
    ∃ before tx after successor, vtx = before ++ tx :: after ∧
      ¬AnyNames before previous.outpoint ∧ NamesOnce tx previous.outpoint ∧
      ¬AnyNames after previous.outpoint ∧ ¬AnyNames after next.outpoint ∧
      Moves N tx previous previousOutput next successor := by
  obtain ⟨found, hfound, h⟩ := bind_eq_ok.1 h
  obtain ⟨hnone, rfl⟩ | ⟨-, before, tx, after, rfl, rfl, hbefore, honce, hafter⟩ :=
    findTransition_from hfound
  · exact .inl ⟨hnone, (pure_eq_ok.1 h).symm⟩
  · have hget : (some (0 + before.length)).bind (fun i =>
        (before ++ tx :: after)[i]?.map (i, ·)) = some (before.length, tx) := by
      simp
    have hdrop : (before ++ tx :: after).drop (before.length + 1) = after := by
      rw [List.drop_append]
      simp
    rw [hget] at h
    simp only [bind_eq_ok, rejectIf_eq_ok, pure_eq_ok, hdrop] at h
    obtain ⟨_, hfollow, _, hlater, rfl⟩ := h
    obtain ⟨successor, hmoves⟩ := followTransition_eq_ok.1 hfollow
    exact .inr ⟨before, tx, after, successor, rfl, hbefore, honce, hafter, hlater, hmoves⟩

theorem verifyTrackedCoin_eq_ok {view : CCoinsView} {tracker : ExchangeStateTracker}
    {output : Child.CTxOut} :
    verifyTrackedCoin N view tracker = .ok output ↔
      ∃ coin, view.accessCoin tracker.outpoint = some coin ∧ IsOpen coin.out ∧
        IsP2TR coin.out.scriptPubKey ∧ stateRoot N tracker.outpoint coin.out = tracker.root ∧
        coin.out = output := by
  simp only [verifyTrackedCoin, bind_eq_ok, rejectIf_eq_ok, orReject_eq_ok, pure_eq_ok, not_not]
  constructor
  · rintro ⟨coin, hcoin, _, hopen, _, hp2tr, _, hroot, houtput⟩
    exact ⟨coin, hcoin, hopen, hp2tr, hroot, houtput⟩
  · rintro ⟨coin, hcoin, hopen, hp2tr, hroot, houtput⟩
    exact ⟨coin, hcoin, (), hopen, (), hp2tr, (), hroot, houtput⟩

end Singleton

end ElementsDrivechain.Ecx
