import ElementsDrivechain.Replay.DriverSound

/-!
# Runs of the driver

A node calls the driver again and again, from the thread that follows the parent chain and from
those that validate blocks.  In between, readers that meet a damaged record or a reorganised chain
take the cache away or discard it, and the node is restarted.

* `ensureLocked_triple` : every exit of the driver keeps the invariant.
* `replay_driver_sound` : after every run, cache and store describe one chain.
-/

namespace ElementsDrivechain

open Effects

section Ensure

variable {N : DrivechainNetwork} {H : ParentHashing} {R : ReplayHashing} {r₀ r : ParentReplay}

/-! ### The driver -/

theorem warmCache_triple (hpinned : HasPinnedDrivechainParentState N) :
    Triple (On (DriverSound N H R r₀)) (warmCache N H R) (fun _ => On (Ready N H R r₀))
      (On (DriverSound N H R r₀)) := by
  refine .bind getReplay_triple fun r => .onlyIf (fun _ => ?_) fun hmatches => ?_
  · refine .bind getBudget_triple fun budget => ?_
    refine .guard (fun _ hs => hs.1) fun _ => ?_
    refine .bind (modifyReplay_triple fun r hr => hr.1.unpublish) fun _ => ?_
    refine .bind (modifyReplay_triple fun r hr => hr.toStoreSound.resetCache) fun _ => ?_
    exact initializeCache_triple hpinned false
  · rintro s ⟨hsound, hr⟩
    refine ⟨hsound, ?_⟩
    rw [hr]
    exact (not_not.1 hmatches).1

theorem requireActiveHash_triple {I : ParentReplay → Prop} (h : ∀ r, I r → Ready N H R r₀ r)
    (height : ℕ) (expected : Uint256) (e : String) :
    Triple (On I) (requireActiveHash height expected e) (fun _ => On I)
      (On (DriverSound N H R r₀)) := by
  refine .bind_and (observe_triple fun r hr => (h r hr).toDriverSound) fun _ _ => ?_
  refine (haltIf_triple fun r hr => (h r hr).toDriverSound.unpublish).mono ?_ ?_ fun _ hs => hs
  · exact fun _ hs => hs
  · exact fun _ _ hs => hs.1

theorem staleCache_triple (target : ℕ) :
    Triple (On (Ready N H R r₀)) (staleCache target) (fun _ => On (Ready N H R r₀))
      (On (DriverSound N H R r₀)) := by
  have hexit : ∀ r r', Ready N H R r₀ r ∧ r = r' → DriverSound N H R r₀ r :=
    fun r _ hr => hr.1.toDriverSound
  refine .bind getReplay_triple fun r => ?_
  have habove : Triple (On fun r' => Ready N H R r₀ r' ∧ r' = r)
      (aboveActiveTip target r.cache.tip.height) (fun _ => On fun r' => Ready N H R r₀ r' ∧ r' = r)
      (On (DriverSound N H R r₀)) := by
    refine .ite (fun _ => ?_) fun _ => .pure fun _ hs => hs
    exact .bind_and (observe_triple (hexit · r)) fun _ _ => .pure fun _ hs => hs
  refine .bind habove fun above => .ite (fun _ => .pure fun _ hs => hs.1) fun _ => ?_
  exact .bind_and (observe_triple (hexit · r)) fun _ _ => .pure fun _ hs => hs.1

theorem refreshCache_triple (hpinned : HasPinnedDrivechainParentState N) (target : ℕ) :
    Triple (On (Ready N H R r₀)) (refreshCache N H R target) (fun _ => On (Ready N H R r₀))
      (On (DriverSound N H R r₀)) := by
  refine .bind (staleCache_triple target) fun stale => .onlyIf (fun _ => ?_) fun _ _ hs => hs
  refine .bind (modifyReplay_triple fun r hr => hr.unpublish) fun _ => ?_
  refine .bind getBudget_triple fun budget => ?_
  refine .guard (fun _ hs => Ready.toDriverSound hs) fun _ => ?_
  refine .bind (modifyReplay_triple fun r hr => hr.toStoreSound.resetCache) fun _ => ?_
  exact initializeCache_triple hpinned true

/-- A cache that has reached the checkpoint has a store, so it may be announced. -/
theorem Ready.publish (h : Ready N H R r₀ r) {target : ℕ} (htarget : N.checkpoint.height ≤ target)
    (hheight : target ≤ r.cache.tip.height) :
    DriverSound N H R r₀ { r with publishedEpoch := r.cache.epoch } := by
  refine { h.toDriverSound with published := h.epoch, usable := fun _ => ?_ }
  by_contra hnone
  have hblank := h.blank h.initialized (by simpa using hnone)
  have hpos := N.checkpoint.height_pos
  rw [hblank] at hheight
  simp only at hheight
  omega

/-- **Every exit of the driver keeps the invariant.** -/
theorem ensureLocked_triple (target : ℕ) (targetHash : Uint256) (requireElementsActive : Bool) :
    Triple (On (DriverSound N H R r₀))
      (ensurePinnedDrivechainParentStateThroughLocked N H R target targetHash
        requireElementsActive)
      (fun _ => On (DriverSound N H R r₀)) (On (DriverSound N H R r₀)) := by
  refine .ite (fun _ => .pure fun _ hs => hs) fun hpinned => ?_
  replace hpinned := not_not.1 hpinned
  refine .check fun htarget => ?_
  refine .bind (warmCache_triple hpinned) fun _ => ?_
  refine .bind (requireActiveHash_triple (fun _ hr => hr) _ _ _) fun _ => ?_
  refine .bind (refreshCache_triple hpinned target) fun _ => ?_
  refine .bind_and (observe_triple fun _ hr => hr.toDriverSound) fun _ _ => ?_
  refine .guard (fun _ hs => Ready.toDriverSound hs) fun _ => ?_
  refine .bind (replayThrough_triple target) fun _ => ?_
  -- the cache has reached the target; the reads that follow only compare
  refine .bind (requireActiveHash_triple (fun _ hr => hr.1) _ _ _) fun _ => ?_
  refine .bind (requireActiveHash_triple (fun _ hr => hr.1) _ _ _) fun _ => ?_
  refine .bind getReplay_triple fun r => ?_
  refine .bind (requireActiveHash_triple (fun _ hr => hr.1.1) _ _ _) fun _ => ?_
  have hexit : ∀ r', (Ready N H R r₀ r' ∧ target ≤ r'.cache.tip.height) ∧ r' = r →
      DriverSound N H R r₀ r' := fun _ hr => hr.1.1.toDriverSound
  refine .bind (Q := fun _ => On fun r' =>
    (Ready N H R r₀ r' ∧ target ≤ r'.cache.tip.height) ∧ r' = r) ?_ fun _ => ?_
  · refine .onlyIf (fun _ => ?_) fun _ _ hs => hs
    exact Triple.mono (.failIf fun s hs => hexit s.replay hs) (fun _ hs => hs)
      (fun _ _ hs => hs.1) fun _ hs => hs
  refine .bind_and (observe_triple hexit) fun _ _ => modifyReplay_triple ?_
  rintro r' ⟨⟨hready, hheight⟩, hr⟩
  subst r'
  exact hready.publish (not_lt.1 htarget) hheight

theorem ensure_triple (target : ℕ) (targetHash : Uint256) (requireElementsActive : Bool) :
    Triple (On (DriverSound N H R r₀))
      (ensurePinnedDrivechainParentStateThrough N H R target targetHash requireElementsActive)
      (fun _ => On (DriverSound N H R r₀)) (On (DriverSound N H R r₀)) := by
  refine .bind getBudget_triple fun budget => .bind ask_triple fun busy => ?_
  refine .check fun _ => ?_
  refine .bind (ensureLocked_triple target targetHash requireElementsActive) fun _ => ?_
  refine .bind getReplay_triple fun r => .modify fun s hs => ?_
  split_ifs <;> exact hs.1

end Ensure

/-! ### Calls -/

/-- What happens to the replay of a node. -/
inductive DriverCall
  /-- A thread with the given limits brings the replay up to a parent block. -/
  | ensure (budget : DrivechainParentBudgetState) (worlds : Stream' ParentWorld)
      (targetHeight : ℕ) (targetHash : Uint256) (requireElementsActive : Bool)
  | initializeCache (budget : DrivechainParentBudgetState) (worlds : Stream' ParentWorld)
      (forceRebuild : Bool)
  /-- A reader sees that the parent chain has been reorganised. -/
  | unpublish
  /-- A reader meets a record that is damaged or not on the active parent chain. -/
  | discard
  | restart

/-- The globals after a call, whether it returned or failed. -/
def Session.after {α : Type} (m : Driver α) (s : Session) : ParentReplay :=
  match m s with
  | .ok _ t => t.replay
  | .error _ t => t.replay

theorem Session.after_of_triple {α : Type} {m : Driver α} {I J : ParentReplay → Prop}
    (h : Triple (On I) m (fun _ => On J) (On J)) {s : Session} (hs : I s.replay) :
    J (s.after m) := by
  have := h s hs
  unfold after
  revert this
  cases m s with
  | ok a t => exact id
  | error e t => exact id

section Run

variable (N : DrivechainNetwork) (H : ParentHashing) (R : ReplayHashing)

/-- The globals after a call. -/
def DriverCall.perform (r : ParentReplay) : DriverCall → ParentReplay
  | ensure budget worlds targetHeight targetHash requireElementsActive =>
    Session.after (ensurePinnedDrivechainParentStateThrough N H R targetHeight targetHash
      requireElementsActive) { replay := r, budget := budget, worlds := worlds }
  | initializeCache budget worlds forceRebuild =>
    Session.after (initializeDrivechainParentReplayCache N H R forceRebuild)
      { replay := r, budget := budget, worlds := worlds }
  | unpublish => { r with publishedEpoch := 0 }
  | discard => { r with publishedEpoch := 0, cache := {}, storeRebuildRequired := true }
  | restart => { disk := r.records }

/-- The runs of the driver. -/
abbrev DriverRun : ParentReplay → List DriverCall → ParentReplay → Prop :=
  Run fun r call r' => r' = call.perform N H R r

/-- Tip and records are those of one chain of parent blocks from the checkpoint on. -/
structure OneChain (ls : List AppliedBlock) (tip : DrivechainParentReplayTip)
    (records : ReplayRecords) : Prop where
  /-- The blocks lead from the checkpoint to the tip. -/
  chain : ParentChain N.parameters H (seedTip N.checkpoint.height N.checkpoint.hash) ls tip
  tip : records.tip = some tip
  /-- The records are those of the blocks. -/
  records : RecordsOf N.parameters H N.checkpoint.height ls records

/-- Cache and store describe one chain: a cache that is announced to the readers, any cache beside
an open store, and what the store holds for this network. -/
structure ReplayConsistent (r : ParentReplay) : Prop where
  /-- What readers may use is one chain. -/
  usable : r.Usable → ∃ store ls, r.store = some store ∧ store.isOpen = true ∧
    OneChain N H ls r.cache.tip store.records
  cache : r.cache.initialized → ∀ store ∈ r.store, ∃ ls, OneChain N H ls r.cache.tip store.records
  /-- So is what is on disk for this network. -/
  disk : r.records.identity = some
      { schemaVersion := REPROPOSAL_SCHEMA_VERSION, identity := R.storeIdentity N } →
    ∃ ls tip, OneChain N H ls tip r.records

/-- A cache that is not replaced only grows. -/
def CacheGrows (r r' : ParentReplay) : Prop :=
  r.cache.initialized → r'.cache.initialized → r'.cache.epoch = r.cache.epoch →
    ∃ more, ParentChain N.parameters H r.cache.tip more r'.cache.tip

end Run

section Theorem

variable {N : DrivechainNetwork} {H : ParentHashing} {R : ReplayHashing} {r₀ r : ParentReplay}
  {ls : List AppliedBlock} {tip : DrivechainParentReplayTip} {store : DrivechainParentReplayStore}

theorem Described.oneChain (h : Described N H R ls tip store)
    (hpinned : HasPinnedDrivechainParentState N) : OneChain N H ls tip store.records where
  chain := h.parentChain
  tip := (h.recordsOf hpinned).2.1
  records := (h.recordsOf hpinned).1

theorem DriverSound.consistent (h : DriverSound N H R r₀ r) : ReplayConsistent N H R r where
  usable := by
    intro husable
    obtain ⟨store, hstore⟩ := Option.isSome_iff_exists.1 (h.usable husable)
    obtain ⟨ls, hdescribed⟩ := h.described husable.1 store hstore
    have hpinned := h.pinned husable.1
    exact ⟨store, ls, hstore, (hdescribed.recordsOf hpinned).2.2, hdescribed.oneChain hpinned⟩
  cache := by
    intro hinit store hstore
    obtain ⟨ls, hdescribed⟩ := h.described hinit store hstore
    exact ⟨ls, hdescribed.oneChain (h.pinned hinit)⟩
  disk := by
    intro hidentity
    obtain ⟨hpinned, ls, tip, hdescribed⟩ := h.disk hidentity
    exact ⟨ls, tip, hdescribed.oneChain hpinned⟩

theorem DriverSound.again (h : DriverSound N H R r₀ r) : DriverSound N H R r r :=
  { h with
    since := h.epoch
    grows := fun _ _ _ => ⟨[], .nil⟩ }

/-- **Every call keeps the invariant**, and a cache that it does not replace only grows. -/
theorem DriverSound.perform (h : DriverSound N H R r₀ r) (call : DriverCall) :
    DriverSound N H R (call.perform N H R r) (call.perform N H R r) ∧
      CacheGrows N H r (call.perform N H R r) := by
  replace h := h.again
  -- all but a restart keep counting the epochs
  have hsince : ∀ r', DriverSound N H R r r' →
      DriverSound N H R r' r' ∧ CacheGrows N H r r' := fun r' h' => ⟨h'.again, h'.grows⟩
  cases call with
  | ensure budget worlds target targetHash active =>
    exact hsince _ (Session.after_of_triple (ensure_triple target targetHash active) h)
  | initializeCache budget worlds forceRebuild =>
    refine hsince _ ?_
    by_cases hpinned : HasPinnedDrivechainParentState N
    · refine Session.after_of_triple (Triple.mono (initializeCache_triple hpinned forceRebuild)
        (fun _ hs => hs) (fun _ _ hs => Ready.toDriverSound hs) fun _ hs => hs) h
    · rw [DriverCall.perform, initializeDrivechainParentReplayCache, if_pos hpinned]
      exact h
  | unpublish => exact hsince _ h.unpublish
  | discard =>
    have hdiscard := h.unpublish.toStoreSound.resetCache
    exact hsince _ { hdiscard with }
  | restart =>
    refine ⟨?_, by simp [CacheGrows, DriverCall.perform]⟩
    exact
      { schemaVersion := by simp [DriverCall.perform]
        disk := h.disk
        published := le_rfl
        since := le_rfl
        epoch := le_rfl
        pinned := by simp [DriverCall.perform]
        identity := by simp [DriverCall.perform]
        blank := by simp [DriverCall.perform]
        described := by simp [DriverCall.perform]
        usable := by simp [DriverCall.perform, ParentReplay.Usable]
        grows := by simp [DriverCall.perform] }

/-- Before the first call, with a disk that does not claim to belong to this network. -/
theorem driverSound_start {disk : ReplayRecords} (hdisk : disk.identity ≠ some
    { schemaVersion := REPROPOSAL_SCHEMA_VERSION, identity := R.storeIdentity N }) :
    DriverSound N H R { disk := disk } { disk := disk } :=
  StoreSound.resetCache (r := { disk := disk })
    ⟨by simp, fun hidentity => absurd hidentity hdisk, le_rfl, le_rfl⟩

/-- **After every run of the driver, cache and store describe one chain.**  Whatever the parent
node and the disk answered on the way, and wherever a call failed: a cache that is announced to the
readers is the replay of one contiguous chain of parent blocks from the checkpoint on, the store
holds the tip and the records of the same chain, and the next call lets the cache only grow or
replaces it. -/
theorem replay_driver_sound {disk : ReplayRecords} {calls : List DriverCall}
    (hrun : DriverRun N H R { disk := disk } calls r) (hdisk : disk.identity ≠ some
      { schemaVersion := REPROPOSAL_SCHEMA_VERSION, identity := R.storeIdentity N }) :
    ReplayConsistent N H R r ∧ ∀ call : DriverCall, CacheGrows N H r (call.perform N H R r) := by
  have hsound : DriverSound N H R r r := by
    refine hrun.invariant (driverSound_start hdisk) ?_
    rintro r call _ hr rfl
    exact (hr.perform call).1
  exact ⟨hsound.consistent, fun call => (hsound.perform call).2⟩

end Theorem

/-! ### A small network -/

namespace Sample

/-- The constants of the small network; its checkpoint lies below its first block. -/
def network : DrivechainNetwork where
  slot := 24
  proposalDescription := [0]
  proposalHash := .ofByte 7
  protocolManifestHash := .ofByte 3
  parentGenesisBlockHash := .ofByte 2
  checkpoint := { height := 9, hash := .ofByte 1, chainwork := .ofByte 1, height_pos := by decide }
  unusedSlotProposalMaxAge := 4
  unusedSlotActivationThreshold := 1
  usedSlotProposalMaxAge := 4
  usedSlotActivationThreshold := 1
  withdrawalBundleMaxAge := 5
  withdrawalBundleInclusionThreshold := 1
  treasuryOpcode := .NOP8
  m6Rule := .SEQUENTIAL_M6
  m6WithdrawalValidation := true
  replayVersion := 5
  bootstrapStateCommitment := .ofByte 5
  peginMinDepth := 1

/-- Hashes for the samples. -/
def replayHashing : ReplayHashing where
  state _ := 0
  storeIdentity _ := 0
  bootstrap _ _ := .ofByte 5

/-- A parent node that serves the chain of the small network. -/
def world : ParentWorld where
  getblockhash height := .ok (.ofByte (if height = 0 then 2 else UInt8.ofNat (height - 8)))
  getblockcount := .ok 16
  getblock hash := (chain.find? (hashing.blockHash · = hash)).elim (.error "not found") .ok
  getverifiedheader _ := .ok { height := 9, chainwork := .ofByte 1 }
  deadline := .ok ()
  busy := false
  openDatabase := .opened
  reindex := false
  resetDatabase := .written
  writeBatch := true
  readDatabase := .answered

/-- Bring the replay of the small network up to the block with the deposit. -/
def call : DriverCall := .ensure {} (Stream'.const world) 13 (.ofByte 5) true

end Sample

open Sample

theorem replay_driver_sound_sample :
    (call.perform network hashing replayHashing {}).Usable ∧
      ReplayConsistent network hashing replayHashing
        (call.perform network hashing replayHashing {}) := by
  have hrun : DriverRun network hashing replayHashing {} [call]
      (call.perform network hashing replayHashing {}) :=
    .snoc .nil rfl
  exact ⟨by decide +kernel, (replay_driver_sound hrun (by decide)).1⟩

end ElementsDrivechain
