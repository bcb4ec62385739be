import ElementsDrivechain.Parent.Apply
import ElementsDrivechain.Replay.Tip

/-!
# The persistent store

A node keeps what it derives from the parent chain in a database: the tip of the replay, the
deposits, the successor of every parent block with its merged-mining commitment, and the
withdrawals that were paid.  The store is only ever seeded and extended by one block at a time, and
it checks both the records it is given and that they fit the ones it holds.

* `append_eq_ok` : an append succeeds exactly when its records are accepted and the database
  takes the batch.
-/

namespace ElementsDrivechain

open Fallible

/-! ### Records -/

/-- The successor of a parent block, with the merged-mining commitment it carries. -/
structure DrivechainReplayedBmmEdge where
  successorHash : Uint256
  parentHeight : ℕ
  successorHeight : ℕ
  /-- The parent block commits to a block of the sidechain. -/
  hasCanonicalCommitment : Bool
  committedSidechainHash : Uint256
deriving DecidableEq

/-- Whether a withdrawal bundle may be proposed again after it was paid. -/
inductive DrivechainWithdrawalHistoryRule
  | UNIQUE_M6ID
  | ALLOW_REPROPOSAL
deriving DecidableEq, Repr

/-- The version of the records of a store. -/
def SCHEMA_VERSION : ℕ := 4
/-- The version with proposals that were made again. -/
def REPROPOSAL_SCHEMA_VERSION : ℕ := 5

/-- The version of the database layout for each rule. -/
def storeSchemaVersion : DrivechainWithdrawalHistoryRule → ℕ
  | .UNIQUE_M6ID => SCHEMA_VERSION
  | .ALLOW_REPROPOSAL => REPROPOSAL_SCHEMA_VERSION

/-- Which network and layout a database belongs to. -/
structure DrivechainReplayStoreIdentity where
  schemaVersion : ℕ
  identity : Uint256
deriving DecidableEq

/-- The key of a paid bundle. -/
structure SuccessfulWithdrawalKey where
  sidechainSlot : UInt8
  m6id : Uint256
deriving DecidableEq

/-- The key of one payment of a bundle. -/
structure WithdrawalOccurrenceKey where
  withdrawal : SuccessfulWithdrawalKey
  height : ℕ
deriving DecidableEq

instance : Ord SuccessfulWithdrawalKey :=
  ⟨compareLex (compareOn SuccessfulWithdrawalKey.sidechainSlot)
    (compareOn SuccessfulWithdrawalKey.m6id)⟩

instance : Std.TransOrd SuccessfulWithdrawalKey :=
  inferInstanceAs (Std.TransCmp (compareLex (compareOn SuccessfulWithdrawalKey.sidechainSlot)
    (compareOn SuccessfulWithdrawalKey.m6id)))

instance : Std.LawfulEqOrd SuccessfulWithdrawalKey :=
  lawfulEqCmp_compareLex fun a b h₁ h₂ => by cases a; cases b; simp_all

instance : Ord WithdrawalOccurrenceKey :=
  ⟨compareLex (compareOn WithdrawalOccurrenceKey.withdrawal)
    (compareOn WithdrawalOccurrenceKey.height)⟩

instance : Std.TransOrd WithdrawalOccurrenceKey :=
  inferInstanceAs (Std.TransCmp (compareLex (compareOn WithdrawalOccurrenceKey.withdrawal)
    (compareOn WithdrawalOccurrenceKey.height)))

instance : Std.LawfulEqOrd WithdrawalOccurrenceKey :=
  lawfulEqCmp_compareLex fun a b h₁ h₂ => by cases a; cases b; simp_all

/-- The key of a payment. -/
def DrivechainSuccessfulWithdrawal.key (withdrawal : DrivechainSuccessfulWithdrawal) :
    SuccessfulWithdrawalKey where
  sidechainSlot := withdrawal.sidechainSlot
  m6id := withdrawal.m6id

/-- The key of a proposed bundle. -/
def DrivechainWithdrawalProposalIdentity.key (proposal : DrivechainWithdrawalProposalIdentity) :
    SuccessfulWithdrawalKey where
  sidechainSlot := proposal.sidechainSlot
  m6id := proposal.m6id

/-- The contents of the database. -/
structure ReplayRecords where
  identity : Option DrivechainReplayStoreIdentity := none
  tip : Option DrivechainParentReplayTip := none
  deposits : OrdMap COutPoint DrivechainMintableDeposit := ∅
  edges : OrdMap Uint256 DrivechainReplayedBmmEdge := ∅
  /-- The first payment of each bundle. -/
  successfulWithdrawals : OrdMap SuccessfulWithdrawalKey DrivechainSuccessfulWithdrawal := ∅
  /-- Every payment of a bundle, under the layout that allows several. -/
  occurrences : OrdMap WithdrawalOccurrenceKey DrivechainSuccessfulWithdrawal := ∅

/-! ### Checks of single records -/

/-- A deposit as it may be stored. -/
def IsSaneDeposit (deposit : DrivechainMintableDeposit) : Prop :=
  deposit.outpoint.hash ≠ 0 ∧ deposit.outpoint.n ≠ COutPoint.NULL_INDEX ∧
    deposit.blockHash ≠ 0 ∧ 0 < deposit.value ∧ MoneyRange deposit.value ∧
    deposit.address ≠ [] ∧ deposit.address.length ≤ 128
deriving Decidable

/-- The largest height that a record can carry. -/
def MAX_HEIGHT : ℕ := 2 ^ 32 - 1

/-- An edge as it may be stored. -/
def IsSaneEdge (parentHash : Uint256) (edge : DrivechainReplayedBmmEdge) : Prop :=
  parentHash ≠ 0 ∧ edge.successorHash ≠ 0 ∧ edge.parentHeight ≠ MAX_HEIGHT ∧
    edge.successorHeight = edge.parentHeight + 1 ∧
    (¬edge.hasCanonicalCommitment ∨ edge.committedSidechainHash ≠ 0)
deriving Decidable

/-- A withdrawal as it may be stored. -/
def IsSaneSuccessfulWithdrawal (withdrawal : DrivechainSuccessfulWithdrawal) : Prop :=
  withdrawal.blockHash ≠ 0
deriving Decidable

/-! ### The store -/

/-- The store: its layout, what is on disk, and whether the database is open. -/
structure DrivechainParentReplayStore where
  schemaVersion : ℕ
  records : ReplayRecords := {}
  isOpen : Bool := true

/-- A block as it is handed to the store. -/
structure ReplayAppend where
  previous : DrivechainParentReplayTip
  next : DrivechainParentReplayTip
  deposits : List DrivechainMintableDeposit
  edge : Option (Uint256 × DrivechainReplayedBmmEdge)
  successfulWithdrawals : List DrivechainSuccessfulWithdrawal
  withdrawalProposals : List DrivechainWithdrawalProposalIdentity

/-- The answers to a request for the stored tip. -/
inductive DrivechainReplayStoreLoadStatus
  | EMPTY
  | LOADED (tip : DrivechainParentReplayTip)
  | CORRUPT (error : String)
  | IDENTITY_MISMATCH (error : String)

/-- How the database answers when a record is read. -/
inductive ReadOutcome
  | answered
  /-- What is stored under the key cannot be decoded. -/
  | malformed
  | failed (error : String)
deriving DecidableEq

namespace DrivechainParentReplayStore

/-- Read the stored tip, if the database is one of this network. -/
def load (store : DrivechainParentReplayStore) (readIdentity readTip : ReadOutcome)
    (identity : Uint256) : DrivechainReplayStoreLoadStatus :=
  if ¬store.isOpen then .CORRUPT "persistent parent replay database is not open"
  else
    match readIdentity, store.records.identity with
    | .failed e, _ => .CORRUPT s!"persistent parent replay load failed: {e}"
    | _, none =>
      if store.records.tip.isSome then
        .CORRUPT "persistent parent replay has a tip but no identity"
      else .EMPTY
    | .malformed, some _ => .CORRUPT "persistent parent replay identity record is malformed"
    | .answered, some stored =>
      if stored.schemaVersion ≠ store.schemaVersion ∨ stored.identity ≠ identity then
        .IDENTITY_MISMATCH
          "persistent parent replay schema or immutable network identity does not match"
      else
        match readTip, store.records.tip with
        | .failed e, _ => .CORRUPT s!"persistent parent replay load failed: {e}"
        | .malformed, some _ => .CORRUPT "persistent parent replay tip record is malformed"
        | _, none => .CORRUPT "persistent parent replay tip is missing or internally inconsistent"
        | .answered, some tip =>
          if IsSaneTip tip then .LOADED tip
          else .CORRUPT "persistent parent replay tip is missing or internally inconsistent"

/-- A tip is loaded from an open database of this network and layout. -/
theorem of_load_eq_loaded {store : DrivechainParentReplayStore} {readIdentity readTip : ReadOutcome}
    {identity : Uint256} {tip : DrivechainParentReplayTip}
    (h : store.load readIdentity readTip identity = .LOADED tip) :
    store.isOpen = true ∧ store.records.identity = some
        { schemaVersion := store.schemaVersion, identity := identity } ∧
      store.records.tip = some tip := by
  unfold load at h
  by_cases hopen : store.isOpen = true
  · rw [if_neg (not_not.2 hopen)] at h
    split at h
    · cases h
    · split_ifs at h
    · cases h
    case h_4 stored hstored =>
      split_ifs at h with hmatch
      obtain ⟨hversion, hidentity⟩ := not_or.1 hmatch
      split at h
      · cases h
      · cases h
      · cases h
      case h_4 tip' htip =>
        split_ifs at h
        cases h
        refine ⟨hopen, ?_, htip⟩
        rw [hstored, ← not_not.1 hversion, ← not_not.1 hidentity]
  · rw [if_pos hopen] at h
    cases h

/-- How the database answers a reset. -/
inductive ResetOutcome
  | written
  /-- It cannot be opened again; its old contents may be gone already. -/
  | openFailed (wiped : Bool)
  | writeFailed
deriving DecidableEq

/-- Wipe the database and seed it with a tip. -/
def reset (store : DrivechainParentReplayStore) (identity : Uint256)
    (seed : DrivechainParentReplayTip) (outcome : ResetOutcome) :
    Except String Unit × DrivechainParentReplayStore :=
  if ¬IsSaneTip seed then
    (throw "refusing to seed persistent parent replay with an invalid tip", store)
  else
    match outcome with
    | .openFailed wiped =>
      (throw "failed to rebuild persistent parent replay database",
        { store with isOpen := false, records := if wiped then {} else store.records })
    | .writeFailed =>
      (throw "failed to atomically seed persistent parent replay",
        { store with isOpen := true, records := {} })
    | .written =>
      (pure (),
        { store with
          isOpen := true
          records :=
            { identity := some { schemaVersion := store.schemaVersion, identity := identity }
              tip := some seed } })

section Append

variable (stateHash : DrivechainParentReplayState → Uint256) (store : DrivechainParentReplayStore)

/-- The records fit together and extend the stored tip. -/
def checkContiguous (block : ReplayAppend) : Except String Unit := do
  rejectIf (¬IsSaneTip block.previous ∨ ¬IsSaneTip block.next ∨
      block.previous.height = MAX_HEIGHT ∨ block.next.height ≠ block.previous.height + 1)
    "refusing a non-contiguous persistent parent replay append"
  rejectIf (¬∃ identity ∈ store.records.identity, identity.schemaVersion = store.schemaVersion)
    "persistent parent replay append uses the wrong schema"
  rejectIf (¬∃ tip ∈ store.records.tip, tip.height = block.previous.height ∧
      tip.hash = block.previous.hash ∧ stateHash tip.state = stateHash block.previous.state)
    "persistent parent replay tip changed before append"

/-- A deposit of the block is new and well formed. -/
def checkDeposit (next : DrivechainParentReplayTip) (deposit : DrivechainMintableDeposit) :
    Except String Unit :=
  rejectIf (¬IsSaneDeposit deposit ∨ deposit.blockHeight ≠ next.height ∨
      deposit.blockHash ≠ next.hash ∨ deposit.outpoint ∈ store.records.deposits)
    "persistent parent replay append contains a duplicate or malformed deposit"

/-- The edge leads from the previous tip to the next one and is new. -/
def checkEdge (block : ReplayAppend) (edge : Uint256 × DrivechainReplayedBmmEdge) :
    Except String Unit :=
  rejectIf (¬IsSaneEdge edge.1 edge.2 ∨ edge.2.parentHeight ≠ block.previous.height ∨
      edge.2.successorHeight ≠ block.next.height ∨ edge.2.successorHash ≠ block.next.hash ∨
      edge.1 ≠ block.previous.hash ∨ edge.1 ∈ store.records.edges)
    "persistent parent replay append contains a duplicate or malformed BMM edge"

/-- A payment of the block is new and well formed. -/
def checkWithdrawal (next : DrivechainParentReplayTip)
    (withdrawal : DrivechainSuccessfulWithdrawal) : Except String Unit :=
  rejectIf (¬IsSaneSuccessfulWithdrawal withdrawal ∨ withdrawal.blockHeight ≠ next.height ∨
      withdrawal.blockHash ≠ next.hash ∨
      (store.schemaVersion = SCHEMA_VERSION ∧
        withdrawal.key ∈ store.records.successfulWithdrawals) ∨
      { withdrawal := withdrawal.key, height := withdrawal.blockHeight } ∈
        store.records.occurrences)
    "persistent parent replay append contains a duplicate or malformed successful withdrawal"

/-- A proposal of the block may be made, which under the older layout depends on the payments. -/
def checkProposal (proposal : DrivechainWithdrawalProposalIdentity) : Except String Unit :=
  rejectIf (store.schemaVersion = SCHEMA_VERSION ∧
      proposal.key ∈ store.records.successfulWithdrawals)
    "M3 re-proposes a withdrawal that already succeeded on the active parent chain"

/-- The records after a block. -/
def appended (block : ReplayAppend) : ReplayRecords :=
  { store.records with
    tip := some block.next
    deposits := block.deposits.foldl (fun m d => m.insert d.outpoint d) store.records.deposits
    edges := block.edge.elim store.records.edges fun e => store.records.edges.insert e.1 e.2
    successfulWithdrawals := block.successfulWithdrawals.foldl
      (fun m w => if w.key ∈ store.records.successfulWithdrawals then m else m.insert w.key w)
      store.records.successfulWithdrawals
    occurrences :=
      if store.schemaVersion = REPROPOSAL_SCHEMA_VERSION then
        block.successfulWithdrawals.foldl
          (fun m w => m.insert { withdrawal := w.key, height := w.blockHeight } w)
          store.records.occurrences
      else store.records.occurrences }

/-- Extend the store by one block; `writes` says whether the database takes the batch. -/
def append (writes : Bool) (block : ReplayAppend) :
    Except String DrivechainParentReplayStore := do
  rejectIf (¬store.isOpen) "persistent parent replay database is not open"
  store.checkContiguous stateHash block
  checkDistinct (·.outpoint)
    "persistent parent replay append contains a duplicate or malformed deposit"
    (store.checkDeposit block.next) block.deposits
  block.edge.toList.forM (store.checkEdge block)
  checkDistinct (·.key)
    "persistent parent replay append contains a duplicate or malformed successful withdrawal"
    (store.checkWithdrawal block.next) block.successfulWithdrawals
  checkDistinct (·.key)
    "persistent parent replay append contains a duplicate M3 proposal identity"
    store.checkProposal block.withdrawalProposals
  rejectIf (¬writes) "failed to atomically append persistent parent replay block"
  return { store with records := store.appended block }

/-- What an append requires. -/
structure Accepts (block : ReplayAppend) : Prop where
  isOpen : store.isOpen = true
  previous : IsSaneTip block.previous
  next : IsSaneTip block.next
  height : block.previous.height ≠ MAX_HEIGHT ∧ block.next.height = block.previous.height + 1
  schema : ∃ identity ∈ store.records.identity, identity.schemaVersion = store.schemaVersion
  /-- The block follows the recorded tip. -/
  tip : ∃ tip ∈ store.records.tip, tip.height = block.previous.height ∧
    tip.hash = block.previous.hash ∧ stateHash tip.state = stateHash block.previous.state
  /-- Its deposits are new. -/
  deposits : (block.deposits.map (·.outpoint)).Nodup ∧ ∀ d ∈ block.deposits, IsSaneDeposit d ∧
    d.blockHeight = block.next.height ∧ d.blockHash = block.next.hash ∧
    d.outpoint ∉ store.records.deposits
  edge : ∀ e ∈ block.edge, IsSaneEdge e.1 e.2 ∧ e.2.parentHeight = block.previous.height ∧
    e.2.successorHeight = block.next.height ∧ e.2.successorHash = block.next.hash ∧
    e.1 = block.previous.hash ∧ e.1 ∉ store.records.edges
  /-- So are its payments. -/
  withdrawals : (block.successfulWithdrawals.map (·.key)).Nodup ∧
    ∀ w ∈ block.successfulWithdrawals, IsSaneSuccessfulWithdrawal w ∧
      w.blockHeight = block.next.height ∧ w.blockHash = block.next.hash ∧
      (store.schemaVersion = SCHEMA_VERSION → w.key ∉ store.records.successfulWithdrawals) ∧
      { withdrawal := w.key, height := w.blockHeight } ∉ store.records.occurrences
  proposals : (block.withdrawalProposals.map (·.key)).Nodup ∧
    ∀ q ∈ block.withdrawalProposals,
      store.schemaVersion = SCHEMA_VERSION → q.key ∉ store.records.successfulWithdrawals

variable {stateHash store} in
/-- **An append succeeds exactly when the store accepts the block** and the database takes it. -/
theorem append_eq_ok {writes : Bool} {block : ReplayAppend}
    {store' : DrivechainParentReplayStore} :
    store.append stateHash writes block = .ok store' ↔ store.Accepts stateHash block ∧
      writes = true ∧ store' = { store with records := store.appended block } := by
  simp only [append, checkContiguous, checkDeposit, checkEdge, checkWithdrawal, checkProposal,
    bind_eq_ok, rejectIf_eq_ok, checkDistinct_eq_ok, forM_eq_ok, pure_eq_ok, not_or, not_and,
    not_not, Option.mem_toList, ne_eq]
  constructor
  · rintro ⟨_, hopen, _, ⟨_, ⟨hprev, hnext, hmax, hheight⟩, _, hschema, htip⟩, _,
      hdeposits, _, hedge, _, hwithdrawals, _, hproposals, _, hwrites, rfl⟩
    exact ⟨⟨hopen, hprev, hnext, ⟨hmax, hheight⟩, hschema, htip, hdeposits, hedge, hwithdrawals,
      hproposals⟩, hwrites, rfl⟩
  · rintro ⟨h, hwrites, rfl⟩
    exact ⟨(), h.isOpen, (), ⟨(), ⟨h.previous, h.next, h.height⟩, (), h.schema, h.tip⟩, (),
      h.deposits, (), h.edge, (), h.withdrawals, (), h.proposals, (), hwrites, rfl⟩

end Append

end DrivechainParentReplayStore

end ElementsDrivechain
