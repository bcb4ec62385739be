import ElementsDrivechain.Replay.Driver
import ElementsDrivechain.Replay.Records

/-!
# The driver keeps cache and store together

The replay is held twice, in memory and on disk, and the programs that advance it may leave at any
question that is not answered as expected.  This file shows that no exit separates the two: while
the cache is in use, cache and store describe the same chain of parent blocks from the checkpoint
on, and whatever the store holds for this network is described by one chain.

* `initializeCache_triple`, `replayNextBlock_triple`, `replayThrough_triple` : every exit keeps the
  invariant.
-/

namespace ElementsDrivechain

open Effects Fallible

section Sound

variable (N : DrivechainNetwork) (H : ParentHashing) (R : ReplayHashing)

/-- The tip and the store are those of the given blocks, replayed and persisted from the checkpoint
on. -/
abbrev Described (ls : List AppliedBlock) (tip : DrivechainParentReplayTip)
    (store : DrivechainParentReplayStore) : Prop :=
  PersistRun N.parameters H R.state N.checkpoint.height
    (.seed (R.storeIdentity N) N.checkpoint.height N.checkpoint.hash) ls
    { tip := tip, store := store }

/-- What is on disk. -/
def ParentReplay.records (r : ParentReplay) : ReplayRecords :=
  (r.store.map (·.records)).getD r.disk

/-- An open store with the given records. -/
def storeOf (records : ReplayRecords) : DrivechainParentReplayStore where
  schemaVersion := REPROPOSAL_SCHEMA_VERSION
  records := records

/-- Records that claim to belong to this network are those of some blocks. -/
def DiskSound (records : ReplayRecords) : Prop :=
  records.identity = some
      { schemaVersion := REPROPOSAL_SCHEMA_VERSION, identity := R.storeIdentity N } →
    HasPinnedDrivechainParentState N ∧ ∃ ls tip, Described N H R ls tip (storeOf records)

/-- The cache is the one that is announced to the readers. -/
def ParentReplay.Usable (r : ParentReplay) : Prop :=
  r.cache.initialized ∧ r.publishedEpoch ≠ 0 ∧ r.publishedEpoch = r.cache.epoch
deriving Decidable

variable (r₀ : ParentReplay)

/-- What always holds of the store. -/
structure StoreSound (r : ParentReplay) : Prop where
  schemaVersion : ∀ store ∈ r.store, store.schemaVersion = REPROPOSAL_SCHEMA_VERSION
  /-- What is on disk for this network describes a chain. -/
  disk : DiskSound N H R r.records
  /-- No epoch is published before it began. -/
  published : r.publishedEpoch ≤ r.epochCounter
  since : r₀.cache.epoch ≤ r.epochCounter

/-- The invariant of the driver since the state `r₀`.  A cache without a store is one whose store
could not be opened; nothing has been replayed into it, and it is not announced. -/
structure DriverSound (r : ParentReplay) : Prop extends StoreSound N H R r₀ r where
  epoch : r.cache.epoch ≤ r.epochCounter
  /-- The network has a checkpoint to start from. -/
  pinned : r.cache.initialized → HasPinnedDrivechainParentState N
  /-- The cache belongs to the network. -/
  identity : r.cache.initialized → r.cache.identity = N.cacheIdentity
  /-- A cache without a store is empty. -/
  blank : r.cache.initialized → r.store = none →
    r.cache.tip = ({} : DrivechainParentReplayCache).tip
  /-- The store describes the chain of the cache. -/
  described : r.cache.initialized → ∀ store ∈ r.store, ∃ ls, Described N H R ls r.cache.tip store
  usable : r.Usable → r.store.isSome
  /-- While the epoch stays the same, the chain of the cache only grows. -/
  grows : r₀.cache.initialized → r.cache.initialized → r.cache.epoch = r₀.cache.epoch →
    ∃ more, ParentChain N.parameters H r₀.cache.tip more r.cache.tip

/-- What holds while the cache is being filled: it is empty and belongs to nobody yet. -/
structure Configured (r : ParentReplay) : Prop extends StoreSound N H R r₀ r where
  initialized : r.cache.initialized = true
  pinned : HasPinnedDrivechainParentState N
  identity : r.cache.identity = N.cacheIdentity
  tip : r.cache.tip = ({} : DrivechainParentReplayCache).tip
  /-- Readers may not use the cache yet. -/
  fresh : r.publishedEpoch < r.cache.epoch
  later : r₀.cache.epoch < r.cache.epoch
  epoch : r.cache.epoch ≤ r.epochCounter

/-- The invariant, with a cache for the configured network. -/
structure Ready (r : ParentReplay) : Prop extends DriverSound N H R r₀ r where
  initialized : r.cache.initialized = true

end Sound

section Step

variable {N : DrivechainNetwork} {H : ParentHashing} {R : ReplayHashing} {r₀ r : ParentReplay}
  {ls : List AppliedBlock} {tip : DrivechainParentReplayTip} {store : DrivechainParentReplayStore}

/-! ### Single changes -/

theorem Described.eq_storeOf (h : Described N H R ls tip store)
    (hpinned : HasPinnedDrivechainParentState N) : store = storeOf store.records := by
  have hschema : store.schemaVersion = REPROPOSAL_SCHEMA_VERSION := h.schemaVersion hpinned
  have hopen : store.isOpen = true := (h.recordsOf hpinned).2.2
  obtain ⟨schemaVersion, records, isOpen⟩ := store
  obtain rfl : schemaVersion = _ := hschema
  obtain rfl : isOpen = _ := hopen
  rfl

theorem Described.diskSound (h : Described N H R ls tip store)
    (hpinned : HasPinnedDrivechainParentState N) : DiskSound N H R store.records :=
  fun _ => ⟨hpinned, ls, tip, h.eq_storeOf hpinned ▸ h⟩

theorem diskSound_empty : DiskSound N H R {} := by
  intro h
  simp at h

theorem ParentReplay.records_of_store (h : r.store = some store) : r.records = store.records := by
  simp [ParentReplay.records, h]

theorem ParentReplay.records_of_none (h : r.store = none) : r.records = r.disk := by
  simp [ParentReplay.records, h]

/-- Forgetting the cache keeps the invariant, whatever the cache was. -/
theorem StoreSound.resetCache (h : StoreSound N H R r₀ r) :
    DriverSound N H R r₀ { r with cache := {} } where
  schemaVersion := h.schemaVersion
  disk := h.disk
  published := h.published
  since := h.since
  epoch := Nat.zero_le _
  pinned := by simp
  identity := by simp
  blank := by simp
  described := by simp
  usable := by simp [ParentReplay.Usable]
  grows := by simp

theorem DriverSound.unpublish (h : DriverSound N H R r₀ r) :
    DriverSound N H R r₀ { r with publishedEpoch := 0 } :=
  { h with
    published := Nat.zero_le _
    usable := by simp [ParentReplay.Usable] }

theorem Ready.unpublish (h : Ready N H R r₀ r) : Ready N H R r₀ { r with publishedEpoch := 0 } :=
  { h.toDriverSound.unpublish with initialized := h.initialized }

theorem Configured.ready (h : Configured N H R r₀ r) (hstore : r.store = some store)
    (hdescribed : Described N H R ls tip store) :
    Ready N H R r₀ { r with cache := { r.cache with tip := tip } } where
  schemaVersion := h.schemaVersion
  disk := h.disk
  published := h.published
  since := h.since
  epoch := h.epoch
  pinned := fun _ => h.pinned
  identity := fun _ => h.identity
  blank := by simp [hstore]
  described := by
    intro _ store' hstore'
    obtain rfl : store = store' := by simpa [hstore] using hstore'
    exact ⟨ls, hdescribed⟩
  usable := by simp [hstore]
  grows := fun _ _ heq => absurd heq (ne_of_gt h.later)
  initialized := h.initialized

theorem Configured.driverSound (h : Configured N H R r₀ r) (hstore : r.store = none) :
    DriverSound N H R r₀ r where
  toStoreSound := h.toStoreSound
  epoch := h.epoch
  pinned := fun _ => h.pinned
  identity := fun _ => h.identity
  blank := fun _ _ => h.tip
  described := by simp [hstore]
  usable := fun husable => absurd husable.2.2 (ne_of_lt h.fresh)
  grows := fun _ _ heq => absurd heq (ne_of_gt h.later)

/-- **What is loaded from the store is described by it.** -/
theorem StoreSound.load {readIdentity readTip : ReadOutcome} (h : StoreSound N H R r₀ r)
    (hstore : r.store = some store)
    (hload : store.load readIdentity readTip (R.storeIdentity N) = .LOADED tip) :
    ∃ ls, Described N H R ls tip store := by
  obtain ⟨hopen, hidentity, htip⟩ := DrivechainParentReplayStore.of_load_eq_loaded hload
  have hdisk := h.disk
  rw [ParentReplay.records_of_store hstore] at hdisk
  obtain ⟨hpinned, ls, tip', hdescribed⟩ := hdisk (by rw [hidentity, h.schemaVersion store hstore])
  have htip' : store.records.tip = some tip' := (hdescribed.recordsOf hpinned).2.1
  obtain rfl : tip = tip' := by simpa [htip] using htip'
  have hstoreOf : store = storeOf store.records := by
    have hschema := h.schemaVersion store hstore
    obtain ⟨schemaVersion, records, isOpen⟩ := store
    obtain rfl : schemaVersion = _ := hschema
    obtain rfl : isOpen = true := hopen
    rfl
  exact ⟨ls, hstoreOf ▸ hdescribed⟩

/-! ### Initialising -/

theorem drop_triple {α : Type} {e : String} {I : ParentReplay → Prop} {Q : α → Session → Prop}
    (h : ∀ r, I r → StoreSound N H R r₀ r) : Triple (On I) (drop e) Q (On (DriverSound N H R r₀)) :=
  .bind (modifyReplay_triple fun r hr => (h r hr).resetCache) fun _ => .throw fun _ hs => hs

/-- Opening the store reads what is on disk; when it fails, the cache is empty. -/
theorem openStore_triple :
    Triple (On (Configured N H R r₀)) openStore
      (fun store => On fun r => Configured N H R r₀ r ∧ r.store = some store)
      (On (DriverSound N H R r₀)) := by
  refine .bind getReplay_triple fun r => ?_
  cases hstore : r.store with
  | some store => exact .pure fun s ⟨hs, hr⟩ => ⟨hs, hr ▸ hstore⟩
  | none =>
    refine .bind ask_triple fun wipe => .bind ask_triple fun outcome => ?_
    cases outcome with
    | failed wiped =>
      refine .bind (modifyReplay_triple (J := DriverSound N H R r₀) ?_) fun _ =>
        .throw fun _ hs => hs
      rintro _ ⟨hconf, rfl⟩
      refine Configured.driverSound { hconf with disk := ?_ } hstore
      rw [ParentReplay.records_of_none (by exact hstore)]
      have hdisk := hconf.disk
      rw [ParentReplay.records_of_none hstore] at hdisk
      cases wiped with
      | true => exact diskSound_empty
      | false => exact hdisk
    | opened =>
      refine .bind getReplay_triple fun r' => .bind (modifyReplay_triple ?_) fun _ =>
        .pure fun _ hs => hs
      rintro _ ⟨⟨hconf, rfl⟩, rfl⟩
      refine ⟨{ hconf with schemaVersion := ?_, disk := ?_ }, rfl⟩
      · rintro _ ⟨⟩
        rfl
      · have hdisk := hconf.disk
        rw [ParentReplay.records_of_none hstore] at hdisk
        rw [ParentReplay.records_of_store rfl]
        cases wipe with
        | true => exact diskSound_empty
        | false => exact hdisk

/-- Seeding the store leaves it empty, or as it was, or described by no block at all. -/
theorem StoreSound.reset (h : StoreSound N H R r₀ r) (hpinned : HasPinnedDrivechainParentState N)
    (hstore : r.store = some store) (outcome : DrivechainParentReplayStore.ResetOutcome) :
    let reset := store.reset (R.storeIdentity N)
      (seedTip N.checkpoint.height N.checkpoint.hash) outcome
    StoreSound N H R r₀ { r with store := some reset.2 } ∧
      ∀ u, reset.1 = .ok u →
        Described N H R [] (seedTip N.checkpoint.height N.checkpoint.hash) reset.2 := by
  have hsane : IsSaneTip (seedTip N.checkpoint.height N.checkpoint.hash) :=
    isSaneTip_seedTip hpinned
  have hschema := h.schemaVersion store hstore
  have hdisk := h.disk
  rw [ParentReplay.records_of_store hstore] at hdisk
  -- only what is on disk depends on how the database answered
  have hsound : ∀ store', store'.schemaVersion = store.schemaVersion →
      DiskSound N H R store'.records → StoreSound N H R r₀ { r with store := some store' } := by
    intro store' hschema' hdisk'
    refine ⟨?_, ?_, h.published, h.since⟩
    · rintro _ ⟨⟩
      exact hschema'.trans hschema
    · rwa [ParentReplay.records_of_store rfl]
  cases outcome with
  | written =>
    have hdescribed : Described N H R [] (seedTip N.checkpoint.height N.checkpoint.hash)
        (store.reset (R.storeIdentity N) (seedTip N.checkpoint.height N.checkpoint.hash)
          .written).2 := by
      refine Run.nil_iff.2 ?_
      simp only [PersistPoint.seed, DrivechainParentReplayStore.reset, hsane, not_true, if_false,
        hschema]
      rfl
    exact ⟨hsound _ (by simp [DrivechainParentReplayStore.reset, hsane])
      (hdescribed.diskSound hpinned), fun _ _ => hdescribed⟩
  | openFailed wiped =>
    simp only [DrivechainParentReplayStore.reset, hsane, not_true, if_false, throw_ne_ok]
    refine ⟨hsound _ rfl ?_, by simp⟩
    cases wiped with
    | true => exact diskSound_empty
    | false => exact hdisk
  | writeFailed =>
    simp only [DrivechainParentReplayStore.reset, hsane, not_true, if_false, throw_ne_ok]
    exact ⟨hsound _ rfl diskSound_empty, by simp⟩

/-- Starting over from the checkpoint fills cache and store with the same tip. -/
theorem seedReplay_triple (hpinned : HasPinnedDrivechainParentState N)
    (store : DrivechainParentReplayStore) :
    Triple (On fun r => Configured N H R r₀ r ∧ r.store = some store) (seedReplay N R store)
      (fun _ => On (Ready N H R r₀)) (On (DriverSound N H R r₀)) := by
  refine .ite (fun _ => drop_triple fun r hr => hr.1.toStoreSound) fun _ => ?_
  -- no slot is active at the checkpoint, so the tip is the empty one
  change Triple _ (resetReplay N R store (seedTip N.checkpoint.height N.checkpoint.hash)) _ _
  refine .bind (modifyReplay_triple (J := fun r => ∃ r₁, (Configured N H R r₀ r₁ ∧
    r₁.store = some store) ∧ r = { r₁ with cache := { r₁.cache with
      tip := seedTip N.checkpoint.height N.checkpoint.hash } }) fun r hr => ⟨r, hr, rfl⟩)
    fun _ => .bind ask_triple fun outcome => ?_
  refine .bind (modifyReplay_triple (J := fun r => ∃ r₁, (Configured N H R r₀ r₁ ∧
    r₁.store = some store) ∧ r = { r₁ with
      store := some (store.reset (R.storeIdentity N)
        (seedTip N.checkpoint.height N.checkpoint.hash) outcome).2
      cache := { r₁.cache with tip := seedTip N.checkpoint.height N.checkpoint.hash } }) ?_)
    fun _ => ?_
  · rintro _ ⟨r₁, hr₁, rfl⟩
    exact ⟨r₁, hr₁, rfl⟩
  · cases hreset : (store.reset (R.storeIdentity N)
      (seedTip N.checkpoint.height N.checkpoint.hash) outcome).1 with
    | error e =>
      refine drop_triple ?_
      rintro _ ⟨r₁, ⟨hconf, hstore⟩, rfl⟩
      have hsound := (hconf.toStoreSound.reset hpinned hstore outcome).1
      exact ⟨hsound.schemaVersion, hsound.disk, hsound.published, hsound.since⟩
    | ok u =>
      refine modifyReplay_triple ?_
      rintro _ ⟨r₁, ⟨hconf, hstore⟩, rfl⟩
      obtain ⟨hsound, hdescribed⟩ := hconf.toStoreSound.reset hpinned hstore outcome
      have hconf' : Configured N H R r₀ { r₁ with
          store := some (store.reset (R.storeIdentity N)
            (seedTip N.checkpoint.height N.checkpoint.hash) outcome).2
          storeRebuildRequired := false } :=
        { hconf with
          schemaVersion := hsound.schemaVersion
          disk := hsound.disk }
      exact hconf'.ready rfl (hdescribed u hreset)

theorem load_of_storedTip {rebuild : Bool} {readIdentity readTip : ReadOutcome}
    (h : storedTip N R rebuild readIdentity readTip store = some tip) :
    store.load readIdentity readTip (R.storeIdentity N) = .LOADED tip := by
  unfold storedTip at h
  split_ifs at h
  split at h
  · case h_1 tip' hload =>
    split_ifs at h
    rw [hload, Option.some.inj h]
  · cases h

/-- **Initialising fills the cache from the store, or both from the checkpoint.** -/
theorem initializeCache_triple (hpinned : HasPinnedDrivechainParentState N) (forceRebuild : Bool) :
    Triple (On (DriverSound N H R r₀)) (initializeDrivechainParentReplayCache N H R forceRebuild)
      (fun _ => On (Ready N H R r₀)) (On (DriverSound N H R r₀)) := by
  rw [initializeDrivechainParentReplayCache, if_neg (not_not.2 hpinned)]
  refine .check fun _ => ?_
  refine .bind_and (observe_triple fun _ hr => hr) fun _ _ => ?_
  refine .check fun _ => ?_
  refine .bind_and (observe_triple fun _ hr => hr) fun _ _ => ?_
  refine .check fun _ => ?_
  refine .bind (modifyReplay_triple (J := Configured N H R r₀) ?_) fun _ => ?_
  · intro r hr
    exact ⟨⟨hr.schemaVersion, hr.disk, hr.published.trans (Nat.le_succ _),
      hr.since.trans (Nat.le_succ _)⟩, rfl, hpinned, rfl, rfl, Nat.lt_succ_of_le hr.published,
      Nat.lt_succ_of_le hr.since, le_rfl⟩
  refine .bind openStore_triple fun store => .bind ask_triple fun readIdentity => ?_
  refine .bind ask_triple fun readTip => .bind getReplay_triple fun r => ?_
  cases htip :
      storedTip N R (forceRebuild || r.storeRebuildRequired) readIdentity readTip store with
  | none =>
    exact (seedReplay_triple hpinned store).mono (fun _ hs => hs.1) (fun _ _ => id) fun _ => id
  | some tip =>
    refine modifyReplay_triple ?_
    rintro _ ⟨⟨hconf, hstore⟩, -⟩
    obtain ⟨ls, hdescribed⟩ := hconf.toStoreSound.load hstore (load_of_storedTip htip)
    exact hconf.ready hstore hdescribed

/-! ### Replaying -/

theorem Ready.parameters (h : Ready N H R r₀ r) :
    N.replayParameters r.cache.identity.slot r.cache.identity.proposalHash = N.parameters := by
  rw [h.identity h.initialized]
  rfl

theorem appendToStore_eq_ok {writes : Bool} {block : ReplayAppend}
    {store' : DrivechainParentReplayStore}
    (h : appendToStore R r.store writes block = .ok store') :
    ∃ store, r.store = some store ∧ store.append R.state true block = .ok store' := by
  cases hstore : r.store with
  | none => simp [appendToStore, hstore] at h
  | some store =>
    rw [hstore] at h
    have hwrites := (DrivechainParentReplayStore.append_eq_ok.1 h).2.1
    exact ⟨store, rfl, hwrites ▸ h⟩

/-- A block that the store has taken extends the chain of cache and store. -/
theorem Ready.extend (h : Ready N H R r₀ r) {a : AppliedBlock}
    {store' : DrivechainParentReplayStore} (hstore : r.store = some store)
    (hextends : Extends N.parameters H r.cache.tip a)
    (happend : store.append R.state true
      (appendOf N.parameters H N.checkpoint.height r.cache.tip a) = .ok store') :
    Ready N H R r₀ { r with
      store := some store'
      cache := { r.cache with
        tip :=
          { height := a.height, hash := H.blockHash a.block, state := a.result.state } } } := by
  have hpinned := h.pinned h.initialized
  obtain ⟨ls, hdescribed⟩ := h.described h.initialized store hstore
  have hnext : Described N H R (ls ++ [a])
      { height := a.height, hash := H.blockHash a.block, state := a.result.state } store' :=
    hdescribed.snoc ⟨hextends, happend, rfl⟩
  have hschema : store'.schemaVersion = REPROPOSAL_SCHEMA_VERSION := hnext.schemaVersion hpinned
  refine
    { schemaVersion := ?_
      disk := ?_
      published := h.published
      since := h.since
      epoch := h.epoch
      pinned := h.pinned
      identity := h.identity
      blank := by simp
      described := ?_
      usable := by simp
      grows := fun hinit hinit' heq => ?_
      initialized := h.initialized }
  · rintro _ ⟨⟩
    exact hschema
  · rw [ParentReplay.records_of_store rfl]
    exact hnext.diskSound hpinned
  · rintro - _ ⟨⟩
    exact ⟨_, hnext⟩
  · obtain ⟨more, hmore⟩ := h.grows hinit hinit' heq
    exact ⟨more ++ [a], hmore.snoc ⟨hextends, rfl⟩⟩

/-- **One round of the replay** moves cache and store to the next block, or leaves both where they
are. -/
theorem replayNextBlock_triple (target n : ℕ) :
    Triple (On fun r => Ready N H R r₀ r ∧ r.cache.tip.height + (n + 1) = target)
      (replayNextBlock N H R)
      (fun _ => On fun r => Ready N H R r₀ r ∧ r.cache.tip.height + n = target)
      (On (DriverSound N H R r₀)) := by
  have hexit : ∀ r r', (Ready N H R r₀ r ∧ r.cache.tip.height + (n + 1) = target) ∧ r = r' →
      DriverSound N H R r₀ r := fun r _ hr => hr.1.1.toDriverSound
  have hhalt : ∀ r r', (Ready N H R r₀ r ∧ r.cache.tip.height + (n + 1) = target) ∧ r = r' →
      DriverSound N H R r₀ { r with publishedEpoch := 0 } :=
    fun r r' hr => (hexit r r' hr).unpublish
  refine .bind_and (observe_triple fun r hr => hr.1.toDriverSound) fun _ _ => ?_
  refine .bind getReplay_triple fun r => ?_
  refine .bind_and (observe_triple (hexit · r)) fun blockHash _ => ?_
  refine .bind_and (observe_triple (hexit · r)) fun block hread => ?_
  refine .bind_and (haltIf_triple (hhalt · r)) fun _ hprevious => ?_
  refine .bind_and (orHalt_triple (hhalt · r)) fun result happlied => ?_
  refine .bind_and (orHalt_triple (hhalt · r)) fun _ _ => ?_
  refine .bind_and (observe_triple (hexit · r)) fun _ _ => ?_
  refine .bind ask_triple fun writes => ?_
  refine .bind_and (orHalt_triple (hhalt · r)) fun store' happend => ?_
  refine modifyReplay_triple ?_
  rintro r' ⟨⟨hready, hheight⟩, hr⟩
  subst r'
  rw [hready.parameters] at happlied happend
  obtain ⟨store, hstore, happend⟩ := appendToStore_eq_ok happend
  have hextends : Extends N.parameters H r.cache.tip
      { block := block, height := r.cache.tip.height + 1, result := result } :=
    ⟨not_not.1 hprevious, rfl, happlied⟩
  have hnext := hready.extend hstore hextends happend
  simp only [hready.parameters]
  refine ⟨hnext, ?_⟩
  simp only [appendOf]
  omega

theorem consumeDrivechainReplayBudget_triple {I J : ParentReplay → Prop} (h : ∀ r, I r → J r)
    (steps : ℕ) :
    Triple (On I) (consumeDrivechainReplayBudget steps) (fun _ => On I) (On J) := by
  refine .bind getBudget_triple fun budget => .onlyIf (fun _ => ?_) fun _ _ hs => hs
  refine .bind_and (observe_triple h) fun _ _ => ?_
  refine .guard (fun s hs => h s.replay hs) fun _ => ?_
  exact .modify fun _ hs => hs

/-- Replaying up to a height reaches it, or leaves at a block on the way. -/
theorem replayThrough_triple (target : ℕ) :
    Triple (On (Ready N H R r₀)) (replayThrough N H R target)
      (fun _ => On fun r => Ready N H R r₀ r ∧ target ≤ r.cache.tip.height)
      (On (DriverSound N H R r₀)) := by
  refine .bind getReplay_triple fun r => .onlyIf (fun hpos => ?_) fun hzero => ?_
  · refine .bind (consumeDrivechainReplayBudget_triple (fun r hr => hr.1.toDriverSound) _)
      fun _ => ?_
    -- the number of rounds still to come is the distance to the target
    have hrounds := Triple.repeatM (I := fun n => On fun r =>
      Ready N H R r₀ r ∧ r.cache.tip.height + n = target) (replayNextBlock_triple target)
    refine (hrounds _).mono ?_ ?_ fun _ hs => hs
    · rintro s ⟨hready, hr⟩
      refine ⟨hready, ?_⟩
      rw [hr]
      omega
    · rintro _ s ⟨hready, hheight⟩
      exact ⟨hready, hheight.ge⟩
  · rintro s ⟨hready, hr⟩
    refine ⟨hready, ?_⟩
    rw [hr]
    omega

end Step

end ElementsDrivechain
