import ElementsDrivechain.Replay.DriverRun

/-!
# The check of a deposit

A block of the sidechain that claims a deposit is checked against the replay of the parent chain.
The check asks the store for the deposit, compares it with the claim and counts its confirmations.
What cannot be decided now is *unavailable* rather than invalid: the replay is busy, not warmed or
damaged, or the claim is checked without an explicit parent block and may be confirmed later.
-/

namespace ElementsDrivechain

open Effects Fallible

/-! ### Reading a deposit -/

/-- The answers to a request for a record. -/
inductive DrivechainReplayStoreReadStatus (α : Type)
  | NOT_FOUND
  | FOUND (record : α)
  | CORRUPT (error : String)

/-- Read the deposit with an outpoint. -/
def DrivechainParentReplayStore.readDeposit (store : DrivechainParentReplayStore)
    (outcome : ReadOutcome) (outpoint : COutPoint) :
    DrivechainReplayStoreReadStatus DrivechainMintableDeposit :=
  if ¬store.isOpen then .CORRUPT "persistent parent replay database is not open"
  else
    match outcome, store.records.deposits[outpoint]? with
    | .failed e, _ => .CORRUPT s!"persistent parent replay deposit read failed: {e}"
    | _, none => .NOT_FOUND
    | .malformed, some _ => .CORRUPT "persistent parent replay deposit record is malformed"
    | .answered, some deposit =>
      if ¬IsSaneDeposit deposit ∨ deposit.outpoint ≠ outpoint then
        .CORRUPT "persistent parent replay deposit record is internally inconsistent"
      else .FOUND deposit

/-! ### The check -/

/-- What is said of a claim. -/
inductive DrivechainDepositStatus
  | VALID
  | INVALID
  | UNAVAILABLE
deriving DecidableEq, Repr

/-- A claim of a deposit, in a block of the sidechain at a height. -/
structure DepositClaim where
  /-- The parent block that the deposit is said to stand in. -/
  mainchainBlockHash : Uint256
  sidechainSlot : ℤ
  outpoint : COutPoint
  value : ℤ
  address : Bytes
  /-- The height of the sidechain block, or minus one. -/
  childHeight : ℤ := -1

/-- A deposit has so many confirmations. -/
def HasRequiredDrivechainDepositDepth (depositHeight confirmedThroughHeight requiredDepth : ℕ) :
    Prop :=
  requiredDepth > 0 ∧ depositHeight ≤ confirmedThroughHeight ∧
    confirmedThroughHeight - depositHeight ≥ requiredDepth - 1
deriving Decidable

/-- From here on one confirmation may be enough. -/
def ALPHA_PEGIN_ONE_CONFIRMATION_HEIGHT : ℤ := 64

section Status

variable (N : DrivechainNetwork) (H : ParentHashing)

/-- The confirmations that a deposit needs. -/
def getDrivechainPeginConfirmationDepth (childHeight : ℤ) : ℕ :=
  if childHeight ≥ ALPHA_PEGIN_ONE_CONFIRMATION_HEIGHT ∧ N.alphaPeginOneConfirmationUpgrade then 1
  else N.peginMinDepth

/-- The number of confirmations that a claim needs. -/
def DepositClaim.requiredDepth (claim : DepositClaim) : ℕ :=
  max 1 (getDrivechainPeginConfirmationDepth N claim.childHeight)

/-- Rejects other slots than that of the network. -/
def checkConfiguredDrivechainSlot (sidechainSlot : ℤ) : Except String Unit :=
  rejectIf (sidechainSlot < 0 ∨ sidechainSlot > 255 ∨ slotByte sidechainSlot ≠ N.slot)
    s!"drivechain sidechain slot must match configured slot {N.slot}, got {sidechainSlot}"

/-- The claim is one for the configured slot, of a positive sum of money and with an address. -/
def checkClaim (claim : DepositClaim) : Except String Unit := do
  checkConfiguredDrivechainSlot N claim.sidechainSlot
  rejectIf (claim.value ≤ 0 ∨ ¬MoneyRange claim.value ∨ claim.address = [] ∨
      claim.address.length > 128)
    "invalid slot, amount, or address for drivechain deposit"

/-- The constants that native deposits rest on are complete. -/
def DepositIdentityComplete : Prop :=
  N.proposalHash ≠ 0 ∧ N.protocolManifestHash ≠ 0 ∧ N.checkpoint.hash ≠ 0 ∧
    N.checkpoint.chainwork ≠ 0 ∧ IsCanonicalDrivechainParentCheckpointIdentity H N.checkpoint ∧
    N.unusedSlotProposalMaxAge ≠ 0 ∧ N.unusedSlotActivationThreshold ≠ 0 ∧
    N.usedSlotProposalMaxAge ≠ 0 ∧ N.usedSlotActivationThreshold ≠ 0 ∧
    N.withdrawalBundleMaxAge ≠ 0 ∧ N.withdrawalBundleInclusionThreshold ≠ 0 ∧
    N.m6WithdrawalValidation ∧ N.replayVersion = PARENT_REPLAY_VERSION
deriving Decidable

/-- The parent height that an answer is bounded by. -/
structure ReplaySnapshot where
  confirmedThroughHeight : ℕ
  /-- The bound is the parent block of the sidechain block that is validated. -/
  explicitTarget : Bool
  /-- The tip of the cache has not been compared with the active parent chain yet. -/
  needsStandaloneTipAuth : Bool

/-- The bound of the calling thread, or the tip of the cache if it has none. -/
def replaySnapshot (budget : DrivechainParentBudgetState) (cache : DrivechainParentReplayCache) :
    ReplaySnapshot :=
  if budget.Active ∧ budget.replaySnapshotAuthenticated then
    { confirmedThroughHeight := budget.replaySnapshotHeight
      explicitTarget := budget.replaySnapshotIsExplicitTarget
      needsStandaloneTipAuth := false }
  else
    { confirmedThroughHeight := cache.tip.height
      explicitTarget := false
      needsStandaloneTipAuth := true }

/-- Why a deposit is not the one that is claimed, or not deep enough. -/
def depositRefusal (state : DrivechainParentReplayState) (confirmedThroughHeight : ℕ)
    (claim : DepositClaim) (deposit : DrivechainMintableDeposit) : Option String :=
  let activationHeight := state.requiredActivationHeight
  let depositHeight := deposit.blockHeight
  let requiredDepth := claim.requiredDepth N
  if deposit.blockHash ≠ claim.mainchainBlockHash ∨ deposit.value ≠ claim.value ∨
      deposit.address ≠ claim.address then
    some "deposit does not exactly match the genesis-replay-derived canonical CTIP increase"
  else if depositHeight < activationHeight then
    some (s!"native deposit at parent height {depositHeight} predates Elements proposal " ++
      s!"activation at height {activationHeight}")
  else if ¬HasRequiredDrivechainDepositDepth depositHeight confirmedThroughHeight requiredDepth
  then
    some
      (s!"deposit at parent height {depositHeight} does not have {requiredDepth} confirmations " ++
        s!"through authenticated parent height {confirmedThroughHeight}")
  else none

/-- Refuse a claim: for good when the bound is explicit, otherwise for now. -/
def refuse (explicitTarget : Bool) (e : String) : Driver (DrivechainDepositStatus × String) :=
  if explicitTarget then pure (.INVALID, e) else throw e

/-- Compare the tip of the cache with the active parent chain. -/
def authenticateTip (cache : DrivechainParentReplayCache) : Driver Unit := do
  requireActiveHash cache.tip.height cache.tip.hash
    "authenticated parent replay cache is stale after a parent reorganization"
  recordDrivechainReplaySnapshot cache.tip.height cache.tip.hash cache.epoch false

/-- Discard cache and store. -/
def discardReplay : Driver Unit :=
  modifyReplay fun r => { r with publishedEpoch := 0, cache := {}, storeRebuildRequired := true }

/-- The verdict on what was read from the store. -/
def depositVerdict (cache : DrivechainParentReplayCache) (snapshot : ReplaySnapshot)
    (claim : DepositClaim) : DrivechainReplayStoreReadStatus DrivechainMintableDeposit →
    Driver (DrivechainDepositStatus × String)
  | .CORRUPT e => do
    discardReplay
    throw e
  | .NOT_FOUND =>
    refuse snapshot.explicitTarget
      (if snapshot.explicitTarget then
        ("deposit is not a genesis-replay-derived canonical CTIP increase before the block's " ++
          "authenticated parent anchor")
      else "deposit is not present in the currently warmed parent replay snapshot")
  | .FOUND deposit =>
    match depositRefusal N cache.tip.state snapshot.confirmedThroughHeight claim deposit with
    | some e => refuse snapshot.explicitTarget e
    | none => do
      -- only a known, exact and sufficiently deep deposit may cause a question to the parent node
      onlyIf snapshot.needsStandaloneTipAuth (authenticateTip cache)
      checkDrivechainParentDeadline
      pure (.VALID, "")

/-- The check of a well-formed claim; it fails when it cannot be decided. -/
def checkDeposit (claim : DepositClaim) : Driver (DrivechainDepositStatus × String) := do
  let budget ← getBudget
  failIf (budget.Active ∧ (← ask (·.busy))) "authenticated parent replay cache is busy warming"
  let r ← getReplay
  failIf (¬ReplayCacheMatchesConfiguredIdentity r.cache N)
    "authenticated parent replay cache is not warmed"
  failIf (budget.Active ∧ budget.replaySnapshotAuthenticated ∧
      budget.replaySnapshotEpoch ≠ r.cache.epoch)
    "authenticated parent replay cache changed during validation"
  let snapshot := replaySnapshot budget r.cache
  requireConfiguredElementsProposalActive r.cache snapshot.confirmedThroughHeight
  match r.store with
  | none => throw "persistent authenticated parent replay index is not open"
  | some store =>
    depositVerdict N r.cache snapshot claim
      (store.readDeposit (← ask (·.readDatabase)) claim.outpoint)

/-- Check a claim.  What cannot be decided is answered as unavailable. -/
def getConfirmedDrivechainDepositStatus (claim : DepositClaim) :
    Driver (DrivechainDepositStatus × String) :=
  match checkClaim N claim with
  | .error e => pure (.INVALID, e)
  | .ok _ =>
    if ¬DepositIdentityComplete N H then
      pure (.UNAVAILABLE,
        "native deposits require a complete immutable parent genesis-replay identity")
    else tryCatch (checkDeposit N claim) fun e => pure (.UNAVAILABLE, e)

end Status

end ElementsDrivechain
