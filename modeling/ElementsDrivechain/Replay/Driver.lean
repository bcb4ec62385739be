import ElementsDrivechain.Replay.Environment
import ElementsDrivechain.Replay.Persist

/-!
# Driving the replay

The programs that bring the replayed state up to a parent block: initialise the cache from the
store or from the checkpoint, rebuild it when the parent chain has been reorganised, then read,
apply and persist one parent block after the other, and announce the cache to the readers.  They
leave at the first question that is not answered as expected, and keep what they have done so far.
-/

namespace ElementsDrivechain

open Effects

/-- Forget the cache. -/
def resetCache : Driver Unit := modifyReplay fun r => { r with cache := {} }

/-- Forget the cache and fail. -/
def drop {α : Type} (e : String) : Driver α := do
  resetCache
  throw e

section Driver

variable (N : DrivechainNetwork) (H : ParentHashing) (R : ReplayHashing)

/-! ### Initialising -/

/-- A cache for the configured network, with an epoch of its own and nothing replayed. -/
def configureDrivechainParentReplayCacheIdentity : Driver Unit :=
  modifyReplay fun r =>
    { r with
      epochCounter := r.epochCounter + 1
      cache := { initialized := true, epoch := r.epochCounter + 1, identity := N.cacheIdentity } }

/-- Open the store, unless that has been done. -/
def openStore : Driver DrivechainParentReplayStore := do
  match (← getReplay).store with
  | some store => pure store
  | none =>
    let wipe ← ask (·.reindex)
    match ← ask (·.openDatabase) with
    | .failed wiped =>
      modifyReplay fun r => { r with disk := if wiped then {} else r.disk }
      throw "Fatal LevelDB error"
    | .opened =>
      let disk := (← getReplay).disk
      let store : DrivechainParentReplayStore :=
        { schemaVersion := storeSchemaVersion .ALLOW_REPROPOSAL
          records := if wipe then {} else disk }
      modifyReplay fun r => { r with store := some store }
      pure store

/-- The stored tip contradicts what is pinned at the checkpoint. -/
def ContradictsCheckpoint (tip : DrivechainParentReplayTip) : Prop :=
  tip.height ≥ N.checkpoint.height ∧
    ((N.checkpoint.activeProposalDescription ≠ [] ∧ tip.state.activeProposalHash = 0) ∨
      (tip.state.requiredProposalActivated ∧
        (tip.state.activeProposalHash ≠ N.proposalHash ∨
          tip.state.requiredActivationBlockHash = 0 ∨
          tip.state.requiredActivationHeight > tip.height)) ∨
      (N.checkpoint.ctipTxid ≠ 0 ∧ tip.state.ctip = none))
deriving Decidable

/-- The tip that the store holds for this network, if it can be used and is not to be rebuilt. -/
def storedTip (rebuild : Bool) (readIdentity readTip : ReadOutcome)
    (store : DrivechainParentReplayStore) : Option DrivechainParentReplayTip :=
  if rebuild then none
  else
    match store.load readIdentity readTip (R.storeIdentity N) with
    | .LOADED tip => if ContradictsCheckpoint N tip then none else some tip
    | _ => none

/-- Move the cache to a tip. -/
def setTip (tip : DrivechainParentReplayTip) : Driver Unit :=
  modifyReplay fun r => { r with cache := { r.cache with tip := tip } }

/-- Start over from a tip, in memory and on disk. -/
def resetReplay (store : DrivechainParentReplayStore) (tip : DrivechainParentReplayTip) :
    Driver Unit := do
  setTip tip
  let reset := store.reset (R.storeIdentity N) tip (← ask (·.resetDatabase))
  modifyReplay fun r => { r with store := some reset.2 }
  match reset.1 with
  | .error e => drop e
  | .ok _ => modifyReplay fun r => { r with storeRebuildRequired := false }

/-- Start over from the checkpoint. -/
def seedReplay (store : DrivechainParentReplayStore) : Driver Unit :=
  if N.bootstrapStateCommitment = 0 ∨
      R.bootstrap N.checkpoint SLOTS ≠ N.bootstrapStateCommitment then
    drop "parent replay bootstrap state does not match its identity commitment"
  else
    match bootstrapState N.slot SLOTS with
    | .error e => drop e
    | .ok state => resetReplay N R store
        { height := N.checkpoint.height, hash := N.checkpoint.hash, state := state }

/-- Load the cache from the store or, when that is not possible or not wanted, seed both. -/
def initializeDrivechainParentReplayCache (forceRebuild : Bool) : Driver Unit :=
  if ¬HasPinnedDrivechainParentState N then pure ()
  else do
    failIf (¬LaunchIdentityComplete N H)
      "native drivechain parent launch identity is incomplete or internally inconsistent"
    let activeGenesis ← readActiveMainchainHash 0
    failIf (activeGenesis ≠ N.parentGenesisBlockHash)
      "mainchain RPC does not serve the pinned parent genesis"
    let header ← readVerifiedMainchainBlock N.checkpoint.hash
    failIf (header.height ≠ N.checkpoint.height ∨ header.chainwork ≠ N.checkpoint.chainwork)
      "authenticated parent launch checkpoint height or chainwork is not pinned value"
    configureDrivechainParentReplayCacheIdentity N
    let store ← openStore
    let readIdentity ← ask (·.readDatabase)
    let readTip ← ask (·.readDatabase)
    match storedTip N R (forceRebuild || (← getReplay).storeRebuildRequired) readIdentity readTip
      store with
    | some tip => setTip tip
    | none => seedReplay N R store

/-! ### Replaying -/

/-- Append a block to the store, when there is one. -/
def appendToStore (store : Option DrivechainParentReplayStore) (writes : Bool)
    (block : ReplayAppend) : Except String DrivechainParentReplayStore :=
  match store with
  | none => .error ""
  | some store => store.append R.state writes block

/-- Read, apply and persist the next parent block.  The cache moves only after the store has
taken the block. -/
def replayNextBlock : Driver Unit := do
  checkDrivechainParentDeadline
  let r ← getReplay
  let height := r.cache.tip.height + 1
  let P := N.replayParameters r.cache.identity.slot r.cache.identity.proposalHash
  let blockHash ← readActiveMainchainHash height
  -- the block hashes to what was asked for, so its own hash is used from here on
  let block ← readAuthenticatedRawMainchainBlock H blockHash
  haltIf (block.hashPrevBlock ≠ r.cache.tip.hash)
    "authenticated parent-state replay is not a contiguous chain"
  let result ← orHalt (applyDrivechainParentBlockState P H block height r.cache.tip.state)
  orHalt (checkDrivechainParentReplayMilestone N H height block result.state)
  checkDrivechainParentDeadline
  let next := appendOf P H N.checkpoint.height r.cache.tip
    { block := block, height := height, result := result }
  let store ← orHalt (appendToStore R r.store (← ask (·.writeBatch)) next)
  modifyReplay fun r => { r with store := some store, cache := { r.cache with tip := next.next } }

/-- Replay the blocks from the cache up to a height. -/
def replayThrough (targetHeight : ℕ) : Driver Unit := do
  let steps := targetHeight - (← getReplay).cache.tip.height
  onlyIf (steps ≠ 0) do
    consumeDrivechainReplayBudget steps
    repeatM (replayNextBlock N H R) steps

/-! ### The driver -/

/-- Initialise the cache when it is not one for the configured network. -/
def warmCache : Driver Unit := do
  onlyIf (¬ReplayCacheMatchesConfiguredIdentity (← getReplay).cache N) do
    failIf (← getBudget).Active "authenticated parent replay cache is not warmed"
    publish 0
    resetCache
    initializeDrivechainParentReplayCache N H R false

/-- The block at a height of the active parent chain is the expected one. -/
def requireActiveHash (height : ℕ) (expected : Uint256) (e : String) : Driver Unit := do
  haltIf ((← readActiveMainchainHash height) ≠ expected) e

/-- Whether a cache above the target is above the active parent chain. -/
def aboveActiveTip (targetHeight cacheHeight : ℕ) : Driver Bool :=
  if cacheHeight > targetHeight then do
    let activeTipHeight ← readActiveMainchainHeight
    pure (decide (cacheHeight > activeTipHeight))
  else pure false

/-- Whether the block of the cache has left the active parent chain. -/
def staleCache (targetHeight : ℕ) : Driver Bool := do
  let tip := (← getReplay).cache.tip
  if ← aboveActiveTip targetHeight tip.height then pure true
  else do
    let activeCacheHash ← readActiveMainchainHash tip.height
    pure (decide (activeCacheHash ≠ tip.hash))

/-- Rebuild the cache when it is stale. -/
def refreshCache (targetHeight : ℕ) : Driver Unit := do
  onlyIf (← staleCache targetHeight) do
    publish 0
    failIf (← getBudget).Active
      "authenticated parent replay cache is stale after a parent reorganization"
    resetCache
    initializeDrivechainParentReplayCache N H R true

/-- The proposal of the configured slot is active in the cache, and was so at the height. -/
def ConfiguredElementsProposalActive (cache : DrivechainParentReplayCache) (targetHeight : ℕ) :
    Prop :=
  cache.tip.state.requiredProposalActivated ∧
    cache.tip.state.activeProposalHash = cache.identity.proposalHash ∧
    cache.tip.state.requiredActivationHeight ≤ targetHeight
deriving Decidable

/-- Fails unless the sidechain is active at a height. -/
def requireConfiguredElementsProposalActive (cache : DrivechainParentReplayCache)
    (targetHeight : ℕ) : Driver Unit :=
  failIf (¬ConfiguredElementsProposalActive cache targetHeight)
    s!"configured Elements slot proposal is not active at parent height {targetHeight}"

/-- Bring the replay up to a parent block and announce it to the readers.  The reads of the active
chain at the end bracket the replay. -/
def ensurePinnedDrivechainParentStateThroughLocked (targetHeight : ℕ) (targetHash : Uint256)
    (requireElementsActive : Bool) : Driver Unit :=
  if ¬HasPinnedDrivechainParentState N then pure ()
  else do
    failIf (targetHeight < N.checkpoint.height)
      (s!"parent height {targetHeight} predates native drivechain launch checkpoint " ++
        s!"{N.checkpoint.height}")
    warmCache N H R
    requireActiveHash N.checkpoint.height N.checkpoint.hash
      "active parent chain no longer contains the pinned drivechain launch checkpoint"
    refreshCache N H R targetHeight
    failIf ((← readActiveMainchainHash targetHeight) ≠ targetHash)
      "requested parent replay target is not active at its claimed height"
    replayThrough N H R targetHeight
    requireActiveHash N.checkpoint.height N.checkpoint.hash
      "parent-chain reorg raced the pinned launch checkpoint check"
    requireActiveHash targetHeight targetHash "parent-chain reorg raced the replay target check"
    let cache := (← getReplay).cache
    requireActiveHash cache.tip.height cache.tip.hash
      "parent-chain reorg raced the replay cache tip check"
    onlyIf requireElementsActive (requireConfiguredElementsProposalActive cache targetHeight)
    checkDrivechainParentDeadline
    publish cache.epoch

/-- Bring the replay up to a parent block, and remember that block for the calling thread. -/
def ensurePinnedDrivechainParentStateThrough (targetHeight : ℕ) (targetHash : Uint256)
    (requireElementsActive : Bool) : Driver Unit := do
  failIf ((← getBudget).Active ∧ (← ask (·.busy)))
    "authenticated parent replay cache is busy warming"
  ensurePinnedDrivechainParentStateThroughLocked N H R targetHeight targetHash
    requireElementsActive
  recordDrivechainReplaySnapshot targetHeight targetHash (← getReplay).cache.epoch true

end Driver

end ElementsDrivechain
