import ElementsDrivechain.Anchors.Reconcile

/-!
# Accepting blocks and activating the best branch

A block is accepted on top of a block whose data is stored, when the parent chain commits to it in
an edge that can follow the anchor of its predecessor.  Behind a pass that has not stalled, the node
looks for the best candidate, disconnects down to the fork and connects towards the candidate until
it is better off than before.

The order of the source is kept, with its early exits.  Connecting a block asks the parent chain
again: a block that is not committed to has failed, and a block for which the answer depends on the
parent chain of the moment is suppressed.
-/

namespace ElementsDrivechain

open Effects

/-! ### Accepting a block -/

/-- Find the edge a block is committed in; `onInvalid` is done when it is not committed to. -/
def authenticateBlock (hash : Uint256) (onInvalid : Node Unit) : Node DrivechainAnchor := do
  let derived ← world
  failIf (derived.criticalHash = false) "cannot derive USDD BIP301 checkpoint"
  let w ← world
  let reads := w.bmmReads hash
  match reads.status with
  | .INVALID => do
    onInvalid
    throw "bad-drivechain-bmm"
  | .PARENT_REJECTED => throw "current authenticated parent P->Q edge rejects sidechain block"
  | .UNAVAILABLE => throw "BIP301 validation is temporarily unavailable for sidechain block"
  | .VALID => do
    let anchor := makeDrivechainAnchor reads.context
    failIf (¬anchor.IsSane)
      "authenticated BIP301 context for sidechain block is internally inconsistent"
    return anchor

/-- The checks of a block that is not in the index yet. -/
def preauthenticate (hash prev : Uint256) : Node DrivechainAnchor := do
  let s ← get
  failIf (prev ∉ s.chain.blocks) "prev-blk-not-found"
  failIf (¬IsDrivechainHeaderAuthenticated (s.chain.block prev))
    "drivechain full block requires authenticated predecessor"
  let w ← world
  failIf (w.checkBlock ≠ .passed) "CheckBlock failed"
  let anchor ← authenticateBlock hash (pure ())
  failIf (0 < (s.chain.block prev).nHeight ∧
      ¬∃ previous ∈ (s.chain.block prev).drivechainAnchor, anchor.Follows previous)
    "bad-drivechain-anchor-sequence"
  let deposits ← world
  failIf (deposits.preflightDeposits ≠ .passed) "bad-drivechain-deposit-witness"
  let header ← world
  failIf (header.checkBlock ≠ .passed) "CheckBlockHeader failed"
  return anchor

/-- The anchor agrees with what is recorded for the block and its predecessor. -/
def checkAnchorContinuity (hash : Uint256) (anchor : DrivechainAnchor) : Node Unit := do
  let s ← get
  let e := s.chain.block hash
  failIf (∃ old ∈ e.drivechainAnchor, old ≠ anchor)
    "sidechain block was previously bound to a different BIP301 anchor"
  failIf (∃ p ∈ e.pprev, 0 < (s.chain.block p).nHeight ∧ (s.chain.block p).drivechainAnchor = none)
    "sidechain block cannot be anchored before its predecessor"
  failIf (∃ p ∈ e.pprev, ∃ previous ∈ (s.chain.block p).drivechainAnchor, ¬anchor.Follows previous)
    "BIP301 anchor for sidechain block does not follow its predecessor's anchor"

/-- Go on when a check is passed; a block that is found invalid has failed. -/
def orMarkFailed (verdict : CheckVerdict) (hash : Uint256) (error : String) : Node Unit :=
  match verdict with
  | .passed => pure ()
  | .invalid => do
    onChain (·.markFailed [hash])
    throw error
  | .undecided => throw error

/-- The edge a block in the index is committed in, unless that has been found out before. -/
def authenticatedAnchor (hash : Uint256) (preauthenticated : Option DrivechainAnchor) :
    Node DrivechainAnchor :=
  match preauthenticated with
  | some anchor => return anchor
  | none => authenticateBlock hash (onChain (·.markFailed [hash]))

/-- Store the data of a block in the index and bind it to its anchor. -/
def storeBlock (hash : Uint256) (preauthenticated : Option DrivechainAnchor) : Node Unit := do
  let w ← world
  orMarkFailed w.checkBlock hash "CheckBlock failed"
  let anchor ← authenticatedAnchor hash preauthenticated
  checkAnchorContinuity hash anchor
  let deposits ← world
  orMarkFailed deposits.preflightDeposits hash "bad-drivechain-deposit-witness"
  let disk ← world
  failIf (disk.writeBlock = false) "Failed to find position to write new block to disk"
  onChain fun c => (c.receivedBlockTransactions hash).setAnchor hash anchor

/-- A block arrives that was asked for. -/
def acceptBlock (hash prev : Uint256) : Node Unit := do
  let s ← get
  if hash ∈ s.chain.blocks then do
    failIf ((s.chain.block hash).failed = true) "duplicate-invalid"
    if (s.chain.block hash).haveData = true then pure () else storeBlock hash none
  else do
    let anchor ← preauthenticate hash prev
    onChain (·.addToBlockIndex hash prev)
    storeBlock hash (some anchor)

/-! ### The best candidate -/

namespace Chainstate

variable (c : Chainstate)

/-- The better one of two candidates. -/
def better (best : Option Uint256) (b : Uint256) : Option Uint256 :=
  match best with
  | none => some b
  | some a => if c.blocks.Worse a b then some b else some a

/-- The last candidate in the order of preference. -/
def bestCandidate : Option Uint256 := c.setBlockIndexCandidates.toList.foldl c.better none

/-- The block cannot be connected: it has failed, or its data is missing. -/
def Unusable (b : Uint256) : Prop := (c.block b).failed = true ∨ (c.block b).haveData = false
deriving Decidable

/-- Take a branch out of the candidates down to a block that cannot be connected.  When that block
has failed, so have the others. -/
def discardBranch (new test : Uint256) : Chainstate :=
  let above := (c.branch new).takeWhile (· ≠ test)
  let marked := if (c.block test).failed = true then c.markFailed above else c
  { marked with
    setBlockIndexCandidates := c.setBlockIndexCandidates.filter (· ∉ test :: above) }

/-- The best candidate whose branch can be connected; the number bounds how many candidates are
tried. -/
def findMostWork : ℕ → Chainstate → Option Uint256 × Chainstate
  | 0, c => (none, c)
  | n + 1, c =>
    match c.bestCandidate with
    | none => (none, c)
    | some new =>
      match (c.branch new).find? (c.Unusable ·) with
      | none => (some new, c)
      | some test => findMostWork n (c.discardBranch new test)

/-- The best candidate that can be connected, and the chainstate without those that cannot. -/
def findMostWorkChain : Option Uint256 × Chainstate :=
  findMostWork c.setBlockIndexCandidates.size c

end Chainstate

/-! ### Connecting -/

/-- How connecting a block ends. -/
inductive ConnectOutcome
  | connected
  | stalled
  | invalid

/-- What `ConnectBlock` asks of the anchor of a block, given the edge it is committed in now. -/
def connectAnchor (b : Uint256) (context : DrivechainBmmBlockContext) : Node Unit := do
  let derived ← world
  failIf (derived.criticalHash = false) "cannot derive USDD BIP301 checkpoint"
  let s ← get
  let e := s.chain.block b
  let activeAnchor := makeDrivechainAnchor context
  failIf (¬activeAnchor.IsSane) "authenticated BIP301 context is internally inconsistent"
  failIf (e.drivechainAnchor = none) "block has no persisted BIP301 anchor"
  failIf (e.drivechainAnchor ≠ some activeAnchor)
    "persisted BIP301 anchor does not exactly match the active parent chain"
  failIf (∃ p ∈ e.pprev, 0 < (s.chain.block p).nHeight ∧ (s.chain.block p).drivechainAnchor = none)
    "persisted BIP301 anchor has an unanchored predecessor"
  failIf (∃ p ∈ e.pprev, ∃ previous ∈ (s.chain.block p).drivechainAnchor,
      ¬activeAnchor.Follows previous)
    "BIP301 anchor does not follow its sidechain predecessor's anchor"

/-- A block has been found invalid while it was being connected. -/
def rejectBlock (b : Uint256) (mutated : Bool) : Node ConnectOutcome := do
  onChain fun c => if mutated = true then c else c.invalidBlockFound b
  return .invalid

/-- `ConnectBlock`, and what follows from its answer. -/
def connectChecked (b : Uint256) : Node ConnectOutcome := do
  let w ← world
  match w.connectBlock with
  | .failed error => throw error
  | .invalid mutated => rejectBlock b mutated
  | .connected => do
    onChain fun c => { c with tip := some b }
    return .connected

/-- The rest of `ConnectTip`, behind the question for the edge. -/
def connectTipBlock (b : Uint256) (context : Option DrivechainBmmBlockContext) :
    Node ConnectOutcome := do
  let parent ← world
  if parent.peginsRipe = false then return .stalled
  else do
    match context with
    | none => pure ()
    | some context => connectAnchor b context
    connectChecked b

/-- Connect the next block of a branch. -/
def connectTip (b : Uint256) : Node ConnectOutcome := do
  let disk ← world
  failIf (disk.readBlock = false) "Failed to read block."
  let s ← get
  if (s.chain.block b).nHeight = 0 then connectTipBlock b none
  else do
    let derived ← world
    failIf (derived.criticalHash = false) "Failed to derive USDD BIP301 checkpoint"
    let w ← world
    let reads := w.bmmReads b
    match reads.status with
    | .INVALID => rejectBlock b false
    | .PARENT_REJECTED => do
      onChain (·.suppress b)
      return .stalled
    | .UNAVAILABLE => do
      onChain (·.suppress b)
      return .stalled
    | .VALID => connectTipBlock b (some reads.context)

/-! ### Towards the best candidate -/

/-- The highest block of a branch that is on the active chain. -/
def Chainstate.findFork (c : Chainstate) (b : Uint256) : Option Uint256 :=
  (c.blocks.ancestry b).find? (· ∈ c.active)

/-- Disconnect the tip until it is the fork; the number bounds how often. -/
def disconnectTo (fork : Option Uint256) : ℕ → Node Unit
  | 0 => pure ()
  | n + 1 => do
    let s ← get
    if s.chain.tip = none ∨ s.chain.tip = fork then pure ()
    else do
      disconnectTip
      disconnectTo fork n

/-- The tip has more work than a block. -/
def Chainstate.BetterThan (c : Chainstate) (oldTip : Option Uint256) : Prop :=
  ∀ old ∈ oldTip, ∃ t ∈ c.tip, (c.block old).nChainWork < (c.block t).nChainWork
deriving Decidable

/-- Connect blocks in order until the node is better off than with its old tip. -/
def connectPath (oldTip : Option Uint256) : List Uint256 → Node Unit
  | [] => pure ()
  | b :: rest => do
    let outcome ← connectTip b
    match outcome with
    | .invalid => modify fun s => { s with invalidFound := true }
    | .stalled => stall
    | .connected => do
      onChain (·.pruneBlockIndexCandidates)
      let s ← get
      if s.chain.BetterThan oldTip then pure () else connectPath oldTip rest

/-- Switch to the branch of a block. -/
def activateBestChainStep (mostWork : Uint256) : Node Unit := do
  let s ← get
  disconnectTo (s.chain.findFork mostWork) s.chain.active.length
  connectPath s.chain.tip (s.chain.branch mostWork).reverse

/-- What the loop of `ActivateBestChain` keeps while it holds the lock. -/
structure ActivationLoop where
  /-- The tip at the beginning. -/
  startingTip : Option Uint256
  /-- The candidate the loop works towards. -/
  mostWork : Option Uint256 := none
deriving DecidableEq

/-- The tip is still worse than the one the loop started with. -/
def Chainstate.Behind (c : Chainstate) (startingTip : Option Uint256) : Prop :=
  c.tip = none ∨ ∃ start ∈ startingTip, ∃ t ∈ c.tip, c.blocks.Worse t start
deriving Decidable

/-- The candidate the loop is working towards, looked for again when there is none. -/
def chooseMostWork (loop : ActivationLoop) : Node (Option Uint256) := do
  match loop.mostWork with
  | some mostWork => return some mostWork
  | none => do
    let s ← get
    onChain fun c => c.findMostWorkChain.2
    return s.chain.findMostWorkChain.1

/-- One round of the loop: what the next round starts from, if there is one. -/
def activateBestChain (loop : ActivationLoop) : Node (Option ActivationLoop) := do
  let chosen ← chooseMostWork loop
  match chosen with
  | none => return none
  | some mostWork => do
    let s ← get
    if s.chain.tip = some mostWork then return none
    else do
      activateBestChainStep mostWork
      let s ← get
      if s.stalled = true ∨ ¬s.chain.Behind loop.startingTip then return none
      else
        return some { loop with mostWork := if s.invalidFound = true then none else some mostWork }

end ElementsDrivechain
