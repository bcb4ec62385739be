import Mathlib.Data.Seq.Basic
import ElementsDrivechain.Foundations.Effects
import ElementsDrivechain.Replay.Network

/-!
# The replay and its environment

A node derives the replayed state in memory and on disk while it asks the parent node for blocks.
The parent node may answer anything at any time: it reorganises, fails or contradicts itself.  The
disk may refuse to open or to write.  All of this is one stream of *worlds*, one for each question;
whatever holds for every stream holds for every behaviour of the outside.

* `observe_triple` : asking changes nothing.
-/

namespace ElementsDrivechain

open Effects

/-- A header with what is checked of its ancestry. -/
structure VerifiedMainchainHeader where
  height : ℕ
  chainwork : Uint256

/-- A header of the active parent chain with all that is checked of it. -/
structure AuthenticatedHeader extends VerifiedMainchainHeader where
  hashPrevBlock : Uint256
  medianTimePast : ℕ
  /-- The work its difficulty stands for, or zero when that is malformed. -/
  blockProof : ℕ

/-- What the parent node says of a block without proof. -/
structure BlockHeaderMetadata where
  hash : Uint256
  height : ℤ
  /-- How many blocks confirm it; not positive when it is not active. -/
  confirmations : ℤ

/-- The reply of the parent node to a question about a block. -/
inductive HeaderReply
  | error (code : ℤ) (message : String)
  | result (metadata : BlockHeaderMetadata)

/-- How the disk answers when the database is opened. -/
inductive OpenOutcome
  | opened
  /-- It cannot be opened; its contents may be gone already. -/
  | failed (wiped : Bool)
deriving DecidableEq

/-- What the parent node and the local disk answer at one moment. -/
structure ParentWorld where
  /-- The hash of the active block at a height. -/
  getblockhash : ℕ → Except String Uint256
  /-- The height of the active tip. -/
  getblockcount : Except String ℕ
  /-- The block with a hash, when its proof of work, its Merkle root and its signature are
  accepted. -/
  getblock : Uint256 → Except String CBlock
  /-- The height and work of the block with a hash, when its ancestry is accepted. -/
  getverifiedheader : Uint256 → Except String VerifiedMainchainHeader
  /-- The same with the rest of what is checked of its header. -/
  getauthenticatedheader : Uint256 → Except String AuthenticatedHeader :=
    fun _ => .error "no connection"
  /-- What is said of the block with a hash, active or not. -/
  getblockheader : Uint256 → Except String HeaderReply := fun _ => .error "no connection"
  /-- Whether there is time left. -/
  deadline : Except String Unit
  /-- Another thread holds the replay. -/
  busy : Bool
  openDatabase : OpenOutcome
  /-- The database is to be wiped when it is opened. -/
  reindex : Bool
  resetDatabase : DrivechainParentReplayStore.ResetOutcome
  /-- Whether the database takes a batch. -/
  writeBatch : Bool
  readDatabase : ReadOutcome

/-! ### The state in memory -/

/-- The constants a cache was derived under. -/
structure ReplayCacheIdentity where
  slot : UInt8 := 0
  proposalHash : Uint256 := 0
  checkpointActiveProposalHash : Uint256 := 0
  checkpointHash : Uint256 := 0
  unusedProposalMaxAge : ℕ := 0
  unusedActivationThreshold : ℕ := 0
  usedProposalMaxAge : ℕ := 0
  usedActivationThreshold : ℕ := 0
  withdrawalBundleMaxAge : ℕ := 0
  withdrawalBundleInclusionThreshold : ℕ := 0
  replayVersion : ℕ := 0
deriving DecidableEq

/-- The constants of the network. -/
def DrivechainNetwork.cacheIdentity (N : DrivechainNetwork) : ReplayCacheIdentity where
  slot := N.slot
  proposalHash := N.proposalHash
  checkpointActiveProposalHash := N.checkpoint.activeProposalHash.getD 0
  checkpointHash := N.checkpoint.hash
  unusedProposalMaxAge := N.unusedSlotProposalMaxAge
  unusedActivationThreshold := N.unusedSlotActivationThreshold
  usedProposalMaxAge := N.usedSlotProposalMaxAge
  usedActivationThreshold := N.usedSlotActivationThreshold
  withdrawalBundleMaxAge := N.withdrawalBundleMaxAge
  withdrawalBundleInclusionThreshold := N.withdrawalBundleInclusionThreshold
  replayVersion := N.replayVersion

/-- The replayed state in memory. -/
structure DrivechainParentReplayCache where
  initialized : Bool := false
  epoch : ℕ := 0
  identity : ReplayCacheIdentity := {}
  /-- The replayed block and the state after it. -/
  tip : DrivechainParentReplayTip := { height := 0, hash := 0, state := {} }

/-- The cache belongs to the network. -/
def ReplayCacheMatchesConfiguredIdentity (cache : DrivechainParentReplayCache)
    (N : DrivechainNetwork) : Prop :=
  cache.initialized ∧ cache.identity = N.cacheIdentity
deriving Decidable

/-- The globals of the replay. -/
structure ParentReplay where
  cache : DrivechainParentReplayCache := {}
  /-- The store, once it has been opened. -/
  store : Option DrivechainParentReplayStore := none
  /-- What is on disk while there is no store. -/
  disk : ReplayRecords := {}
  storeRebuildRequired : Bool := false
  epochCounter : ℕ := 0
  /-- The epoch of the cache that readers may use, or zero. -/
  publishedEpoch : ℕ := 0

/-- The limits of a caller that holds locks, and the parent block its answers are bounded by. -/
structure DrivechainParentBudgetState where
  /-- How deep scopes are nested. -/
  depth : ℕ := 0
  replayStepsRemaining : ℕ := 0
  /-- The snapshot was compared with the active parent chain. -/
  replaySnapshotAuthenticated : Bool := false
  replaySnapshotIsExplicitTarget : Bool := false
  replaySnapshotHeight : ℕ := 0
  replaySnapshotHash : Uint256 := 0
  replaySnapshotEpoch : ℕ := 0

/-- A call in progress: the globals, the limits of the calling thread, and the worlds to come. -/
structure Session where
  replay : ParentReplay
  budget : DrivechainParentBudgetState
  worlds : Stream' ParentWorld

/-- The programs of the replay. -/
abbrev Driver := EStateM String Session

variable {α : Type} {I J : ParentReplay → Prop} {E : Session → Prop}

/-! ### Asking -/

/-- Ask the outside one question. -/
def observe (question : ParentWorld → Except String α) : Driver α := fun s =>
  match question s.worlds.head with
  | .ok a => .ok a { s with worlds := s.worlds.tail }
  | .error e => .error e { s with worlds := s.worlds.tail }

/-- A property of the globals, as one of the call. -/
def On (I : ParentReplay → Prop) (s : Session) : Prop := I s.replay

/-- **Asking changes nothing**, whatever the answer. -/
theorem observe_triple {question : ParentWorld → Except String α} (h : ∀ r, I r → J r) :
    Triple (On I) (observe question) (fun a s => On I s ∧ ∃ w, question w = .ok a) (On J) := by
  intro s hs
  cases hanswer : question s.worlds.head with
  | ok a =>
    simp only [observe, hanswer]
    exact ⟨hs, _, hanswer⟩
  | error e =>
    simp only [observe, hanswer]
    exact h s.replay hs

/-- Ask a question that has an answer at every moment. -/
def ask (question : ParentWorld → α) : Driver α := observe fun w => pure (question w)

theorem ask_triple {question : ParentWorld → α} : Triple (On I) (ask question) (fun _ => On I) E :=
  fun _ hs => hs

/-- The hash of the active parent block at a height. -/
def readActiveMainchainHash (height : ℕ) : Driver Uint256 := observe (·.getblockhash height)

/-- The height of the active parent chain. -/
def readActiveMainchainHeight : Driver ℕ := observe (·.getblockcount)

/-- Fail when the time of the caller is up. -/
def checkDrivechainParentDeadline : Driver Unit := observe (·.deadline)

/-- The verified header of a parent block. -/
def readVerifiedMainchainBlock (hash : Uint256) : Driver VerifiedMainchainHeader :=
  observe (·.getverifiedheader hash)

/-- Read a block and check that it has the requested hash. -/
def readAuthenticatedRawMainchainBlock (H : ParentHashing) (hash : Uint256) : Driver CBlock :=
  observe fun w => do
    let block ← w.getblock hash
    Fallible.rejectIf (H.blockHash block ≠ hash)
      "raw parent block header does not match its requested hash"
    return block

/-! ### The globals -/

/-- Read the globals. -/
def getReplay : Driver ParentReplay := do
  return (← get).replay

theorem getReplay_triple : Triple (On I) getReplay (fun r => On fun r' => I r' ∧ r' = r) E :=
  fun _ hs => ⟨hs, rfl⟩

/-- Read the limits of the calling thread. -/
def getBudget : Driver DrivechainParentBudgetState := do
  return (← get).budget

theorem getBudget_triple : Triple (On I) getBudget (fun _ => On I) E :=
  fun _ hs => hs

/-- Change the globals. -/
def modifyReplay (f : ParentReplay → ParentReplay) : Driver Unit :=
  modify fun s => { s with replay := f s.replay }

theorem modifyReplay_triple {f : ParentReplay → ParentReplay} (h : ∀ r, I r → J (f r)) :
    Triple (On I) (modifyReplay f) (fun _ => On J) E :=
  .modify fun s hs => h s.replay hs

/-- Announce to the readers which cache they may use; none when the epoch is zero. -/
def publish (epoch : ℕ) : Driver Unit := modifyReplay fun r => { r with publishedEpoch := epoch }

/-- Take the cache away from the readers and fail. -/
def halt (e : String) : Driver α := do
  publish 0
  throw e

theorem halt_triple {e : String} {Q : α → Session → Prop}
    (h : ∀ r, I r → J { r with publishedEpoch := 0 }) : Triple (On I) (halt e) Q (On J) :=
  fun s hs => h s.replay hs

/-- Halt when a condition holds. -/
def haltIf (c : Prop) [Decidable c] (e : String) : Driver Unit := if c then halt e else pure ()

/-- Halt when a computation is refused. -/
def orHalt : Except String α → Driver α
  | .ok a => pure a
  | .error e => halt e

section Halt

variable {c : Prop} [Decidable c] {e : String}

theorem haltIf_triple (h : ∀ r, I r → J { r with publishedEpoch := 0 }) :
    Triple (On I) (haltIf c e) (fun _ s => On I s ∧ ¬c) (On J) :=
  .ite (fun _ => halt_triple h) fun hc => .pure fun _ hs => ⟨hs, hc⟩

theorem orHalt_triple {x : Except String α} (h : ∀ r, I r → J { r with publishedEpoch := 0 }) :
    Triple (On I) (orHalt x) (fun a s => On I s ∧ x = .ok a) (On J) := by
  cases x with
  | ok a => exact .pure fun _ hs => ⟨hs, rfl⟩
  | error e => exact halt_triple h

end Halt

/-! ### The budget -/

/-- The caller has set limits. -/
def DrivechainParentBudgetState.Active (budget : DrivechainParentBudgetState) : Prop :=
  budget.depth ≠ 0
deriving Decidable

/-- Spend some of the blocks that a caller with locks may replay. -/
def consumeDrivechainReplayBudget (steps : ℕ) : Driver Unit := do
  let budget ← getBudget
  onlyIf budget.Active do
    checkDrivechainParentDeadline
    failIf (steps > budget.replayStepsRemaining)
      (s!"parent replay needs {steps} uncached blocks; locked validation permits at most " ++
        s!"{budget.replayStepsRemaining} before background warming")
    modify fun s => { s with budget :=
      { s.budget with replayStepsRemaining := s.budget.replayStepsRemaining - steps } }

/-- The new snapshot is remembered in place of the current one. -/
def ShouldReplaceDrivechainReplaySnapshot (currentAuthenticated : Bool) (currentHeight : ℕ)
    (currentExplicitTarget nextExplicitTarget : Bool) (nextHeight : ℕ) : Prop :=
  ¬currentAuthenticated ∨ nextExplicitTarget ∨ (¬currentExplicitTarget ∧ nextHeight ≥ currentHeight)
deriving Decidable

/-- Remember the parent block that the answers to the calling thread are bounded by. -/
def recordDrivechainReplaySnapshot (height : ℕ) (hash : Uint256) (epoch : ℕ)
    (explicitTarget : Bool) : Driver Unit :=
  modify fun s =>
    if s.budget.Active ∧ ShouldReplaceDrivechainReplaySnapshot
        s.budget.replaySnapshotAuthenticated s.budget.replaySnapshotHeight
        s.budget.replaySnapshotIsExplicitTarget explicitTarget height then
      { s with budget :=
        { s.budget with
          replaySnapshotAuthenticated := true
          replaySnapshotIsExplicitTarget := explicitTarget
          replaySnapshotHeight := height
          replaySnapshotHash := hash
          replaySnapshotEpoch := epoch } }
    else s

end ElementsDrivechain
