import ElementsDrivechain.Replay.DepositStatus

/-!
# Deposit verdicts do not depend on the progress of the replay

Two nodes that validate the same block of the sidechain bound their answers by the same parent
block, but their replays may have gone beyond it, along different branches.  The verdict on a claim
is nevertheless a function of the parent chain up to the bound: later blocks add only deposits
above it, and an activation that was recorded by then is never recorded again.

* `ParentChain.activation`, `ParentChain.deposit_height` : what later blocks cannot change.
* `checkDeposit_triple` : what every answer of the check says.
* `DriverSound.depositStatus` : the check keeps the invariant of the driver.
* `confirmed_on_chain` : what is confirmed is on the chain, in every order of calls and checks.
* `deposit_verdicts_agree` : two nodes give the same verdict.
-/

namespace ElementsDrivechain

open Effects Fallible

/-! ### What later blocks cannot change -/

section Chain

variable {P : ReplayParameters} {H : ParentHashing} {tip tip' u v : DrivechainParentReplayTip}
  {ls : List AppliedBlock} {a : AppliedBlock} {d : DrivechainMintableDeposit}

theorem Extends.requiredStep (h : Extends P H tip a) :
    RequiredStep a.height (H.blockHash a.block) tip.state a.result.state := by
  obtain ⟨t, T, hphases⟩ := applyDrivechainParentBlockState_eq_ok h.applied
  exact (applyMessages_done hphases.messages).required.trans
    (.of_sameFrame hphases.transactionsDone.frame)

theorem Extends.depositOf (h : Extends P H tip a) (hd : d ∈ a.result.deposits) :
    ∃ step, DepositOf H a.height (H.blockHash a.block) step d := by
  have hspec := blockSteps_spec h.applied
  rw [hspec.deposits, List.mem_flatMap] at hd
  obtain ⟨step, hstep, hd⟩ := hd
  obtain ⟨active, haccepted⟩ := hspec.accepted
  exact ⟨step, (haccepted step hstep).depositOf hd⟩

theorem ParentChain.height_le (h : ParentChain P H tip ls tip') : tip.height ≤ tip'.height := by
  refine h.invariant le_rfl ?_
  rintro t a _ ht ⟨hext, rfl⟩
  have := hext.height
  simp only
  omega

/-- **An activation by some block is recorded in the state there**, and later blocks keep it. -/
theorem ParentChain.activation (h : ParentChain P H tip ls tip')
    (hactive : tip'.state.requiredProposalActivated = true)
    (hheight : tip'.state.requiredActivationHeight ≤ tip.height) :
    tip.state.requiredActivationHeight = tip'.state.requiredActivationHeight := by
  induction h with
  | nil => rfl
  | @snoc ls t a u hrun hstep ih =>
    obtain ⟨hext, rfl⟩ := hstep
    simp only at hactive hheight ⊢
    rcases hext.requiredStep with ⟨hactivated, hactivation, -⟩ | ⟨-, -, hactivation, -⟩
    · rw [hactivation]
      exact ih (hactivated ▸ hactive) (hactivation ▸ hheight)
    · -- an activation by this block would lie above the earlier one
      have hle := ParentChain.height_le hrun
      have := hext.height
      omega

/-- The deposits of a chain lie above where it starts and not above where it ends. -/
theorem ParentChain.deposit_height (h : ParentChain P H tip ls tip')
    (hd : d ∈ ls.flatMap (·.result.deposits)) :
    tip.height < d.blockHeight ∧ d.blockHeight ≤ tip'.height := by
  induction h with
  | nil => simp at hd
  | @snoc ls t a u hrun hstep ih =>
    obtain ⟨hext, rfl⟩ := hstep
    have hnext := hext.height
    rw [List.flatMap_append, List.mem_append, List.flatMap_singleton] at hd
    simp only
    rcases hd with hd | hd
    · obtain ⟨hlt, hle⟩ := ih hd
      omega
    · have hle := ParentChain.height_le hrun
      obtain ⟨step, hof⟩ := hext.depositOf hd
      rw [hof.blockHeight]
      omega

theorem ParentChain.deposit_money (h : ParentChain P H tip ls tip')
    (hd : d ∈ ls.flatMap (·.result.deposits)) : 0 < d.value ∧ MoneyRange d.value := by
  induction h with
  | nil => simp at hd
  | snoc hrun hstep ih =>
    rw [List.flatMap_append, List.mem_append, List.flatMap_singleton] at hd
    rcases hd with hd | hd
    · exact ih hd
    · obtain ⟨step, hof⟩ := hstep.1.depositOf hd
      exact ⟨hof.pos, hof.money⟩

theorem ParentChain.end_unique (hu : ParentChain P H tip ls u) (hv : ParentChain P H tip ls v) :
    u = v := by
  induction ls using List.reverseRecOn generalizing u v with
  | nil => rw [← Run.nil_iff.1 hu, ← Run.nil_iff.1 hv]
  | append_singleton ls a ih =>
    obtain ⟨_, -, -, rfl⟩ := Run.snoc_iff.1 hu
    obtain ⟨_, -, -, rfl⟩ := Run.snoc_iff.1 hv
    rfl

end Chain

/-! ### What an answer says -/

/-- What a call returns. -/
def Session.returned {α : Type} (m : Driver α) (s : Session) : Option α :=
  match m s with
  | .ok a _ => some a
  | .error _ _ => none

/-- The globals and the limits of the call. -/
def At (r : ParentReplay) (b : DrivechainParentBudgetState) (s : Session) : Prop :=
  s.replay = r ∧ s.budget = b

section Answer

variable (N : DrivechainNetwork) (r : ParentReplay) (snapshot : ReplaySnapshot)
  (claim : DepositClaim)

/-- What an answer says about cache and store. -/
inductive Answered : DrivechainDepositStatus → Prop
  | valid {store : DrivechainParentReplayStore} {d : DrivechainMintableDeposit}
      (hstore : r.store = some store) (hread : store.records.deposits[claim.outpoint]? = some d)
      (hnone : depositRefusal N r.cache.tip.state snapshot.confirmedThroughHeight claim d = none) :
      Answered .VALID
  | absent {store : DrivechainParentReplayStore} (hexplicit : snapshot.explicitTarget = true)
      (hstore : r.store = some store) (hread : store.records.deposits[claim.outpoint]? = none) :
      Answered .INVALID
  | refused {store : DrivechainParentReplayStore} {d : DrivechainMintableDeposit} {e : String}
      (hexplicit : snapshot.explicitTarget = true) (hstore : r.store = some store)
      (hread : store.records.deposits[claim.outpoint]? = some d)
      (hsome : depositRefusal N r.cache.tip.state snapshot.confirmedThroughHeight claim d =
        some e) :
      Answered .INVALID

variable {N r snapshot claim} {b : DrivechainParentBudgetState} {E : Session → Prop}

theorem At.observe {α : Type} {question : ParentWorld → Except String α} :
    Triple (At r b) (observe question) (fun _ => At r b) (fun _ => True) := by
  intro s hs
  unfold ElementsDrivechain.observe
  cases question s.worlds.head with
  | ok a => exact hs
  | error e => trivial

theorem readDeposit_spec (store : DrivechainParentReplayStore) (outcome : ReadOutcome)
    (o : COutPoint) :
    (∃ e, store.readDeposit outcome o = .CORRUPT e) ∨
      (store.readDeposit outcome o = .NOT_FOUND ∧ store.records.deposits[o]? = none) ∨
      ∃ d, store.readDeposit outcome o = .FOUND d ∧ store.records.deposits[o]? = some d := by
  unfold DrivechainParentReplayStore.readDeposit
  by_cases hopen : ¬store.isOpen
  · exact .inl ⟨_, if_pos hopen⟩
  rw [if_neg hopen]
  cases outcome with
  | failed e => exact .inl ⟨_, rfl⟩
  | malformed =>
    cases store.records.deposits[o]? with
    | none => exact .inr (.inl ⟨rfl, rfl⟩)
    | some d => exact .inl ⟨_, rfl⟩
  | answered =>
    cases store.records.deposits[o]? with
    | none => exact .inr (.inl ⟨rfl, rfl⟩)
    | some d =>
      by_cases hsane : ¬IsSaneDeposit d ∨ d.outpoint ≠ o
      · exact .inl ⟨_, if_pos hsane⟩
      · exact .inr (.inr ⟨d, if_neg hsane, rfl⟩)

/-- **The verdict on what was read.** -/
theorem depositVerdict_triple {store : DrivechainParentReplayStore} (hstore : r.store = some store)
    (outcome : ReadOutcome) :
    Triple (At r b)
      (depositVerdict N r.cache snapshot claim (store.readDeposit outcome claim.outpoint))
      (fun v _ => Answered N r snapshot claim v.1) (fun _ => True) := by
  have hrefuse : ∀ e, (snapshot.explicitTarget = true → Answered N r snapshot claim .INVALID) →
      Triple (At r b) (refuse snapshot.explicitTarget e)
        (fun v _ => Answered N r snapshot claim v.1) (fun _ => True) := by
    intro e hanswered
    exact .ite (fun hexplicit => .pure fun _ _ => hanswered hexplicit) fun _ => .throw fun _ _ =>
      trivial
  rcases readDeposit_spec store outcome claim.outpoint with
    ⟨e, heq⟩ | ⟨heq, hread⟩ | ⟨d, heq, hread⟩ <;> rw [heq]
  · exact fun _ _ => trivial
  · exact hrefuse _ fun hexplicit => .absent hexplicit hstore hread
  · cases hrefusal : depositRefusal N r.cache.tip.state snapshot.confirmedThroughHeight claim d with
    | some e =>
      simp only [depositVerdict, hrefusal]
      exact hrefuse e fun hexplicit => .refused hexplicit hstore hread hrefusal
    | none =>
      simp only [depositVerdict, hrefusal]
      have hanswered : Answered N r snapshot claim .VALID := .valid hstore hread hrefusal
      have hany : ∀ m : Driver Unit, Triple (fun _ => True) m (fun _ _ => True) fun _ => True := by
        intro m s _
        cases m s <;> trivial
      exact .bind ((hany _).mono (fun _ _ => trivial) (fun _ _ hs => hs) fun _ hs => hs) fun _ =>
        .bind (hany _) fun _ => .pure fun _ _ => hanswered

/-- **What every answer of the check says.** -/
theorem checkDeposit_triple (N : DrivechainNetwork) (claim : DepositClaim) :
    Triple (At r b) (checkDeposit N claim)
      (fun v _ => ReplayCacheMatchesConfiguredIdentity r.cache N ∧
        ConfiguredElementsProposalActive r.cache
          (replaySnapshot b r.cache).confirmedThroughHeight ∧
        Answered N r (replaySnapshot b r.cache) claim v.1) (fun _ => True) := by
  refine .bind (Q := fun b' s => At r b s ∧ b' = b) (fun s hs => ⟨hs, hs.2⟩) fun b' => ?_
  refine .assume fun hb => ?_
  subst b'
  refine .bind At.observe fun busy => ?_
  refine .guard (fun _ _ => trivial) fun _ => ?_
  refine .bind (Q := fun r' s => At r b s ∧ r' = r) (fun s hs => ⟨hs, hs.1⟩) fun r' => ?_
  refine .assume fun hr => ?_
  subst r'
  refine .guard (fun _ _ => trivial) fun hmatches => ?_
  refine .guard (fun _ _ => trivial) fun _ => ?_
  refine .guard (fun _ _ => trivial) fun hactive => ?_
  replace hmatches := not_not.1 hmatches
  replace hactive := not_not.1 hactive
  cases hstore : r.store with
  | none => exact .throw fun _ _ => trivial
  | some store =>
    refine .bind At.observe fun outcome => ?_
    exact (depositVerdict_triple hstore outcome).mono (fun _ hs => hs)
      (fun _ _ hanswered => ⟨hmatches, hactive, hanswered⟩) fun _ hs => hs

/-- An answer other than unavailable: the claim is malformed, or the check has answered. -/
theorem depositStatus_cases {H : ParentHashing} {s : Session}
    {v : DrivechainDepositStatus × String}
    (h : s.returned (getConfirmedDrivechainDepositStatus N H claim) = some v)
    (hv : v.1 ≠ .UNAVAILABLE) :
    (v.1 = .INVALID ∧ ∃ e, checkClaim N claim = .error e) ∨
      (checkClaim N claim = .ok () ∧ ReplayCacheMatchesConfiguredIdentity s.replay.cache N ∧
        ConfiguredElementsProposalActive s.replay.cache
          (replaySnapshot s.budget s.replay.cache).confirmedThroughHeight ∧
        Answered N s.replay (replaySnapshot s.budget s.replay.cache) claim v.1) := by
  unfold getConfirmedDrivechainDepositStatus at h
  cases hclaim : checkClaim N claim with
  | error e =>
    rw [hclaim] at h
    obtain rfl : (DrivechainDepositStatus.INVALID, e) = v := Option.some.inj h
    exact .inl ⟨rfl, e, rfl⟩
  | ok _ =>
    rw [hclaim] at h
    by_cases hidentity : ¬DepositIdentityComplete N H
    · simp only [if_pos hidentity] at h
      obtain rfl := Option.some.inj h
      exact absurd rfl hv
    · simp only [if_neg hidentity] at h
      have hcheck := checkDeposit_triple N claim s ⟨rfl, rfl⟩
      simp only [Session.returned, tryCatch, tryCatchThe, MonadExceptOf.tryCatch,
        EStateM.tryCatch] at h
      revert h hcheck
      cases checkDeposit N claim s with
      | ok w t =>
        intro h hcheck
        obtain rfl : w = v := Option.some.inj h
        exact .inr ⟨rfl, hcheck⟩
      | error e t =>
        intro h _
        obtain rfl := Option.some.inj h
        exact absurd rfl hv

theorem depositStatus_returns (N : DrivechainNetwork) (H : ParentHashing) (claim : DepositClaim)
    (s : Session) :
    ∃ v, s.returned (getConfirmedDrivechainDepositStatus N H claim) = some v := by
  unfold getConfirmedDrivechainDepositStatus
  cases checkClaim N claim with
  | error e => exact ⟨_, rfl⟩
  | ok _ =>
    by_cases hidentity : ¬DepositIdentityComplete N H
    · simp only [if_pos hidentity]
      exact ⟨_, rfl⟩
    · simp only [if_neg hidentity, Session.returned, tryCatch, tryCatchThe,
        MonadExceptOf.tryCatch, EStateM.tryCatch]
      cases checkDeposit N claim s <;> exact ⟨_, rfl⟩

end Answer

/-! ### What the check leaves behind -/

section Kept

variable {N : DrivechainNetwork} {H : ParentHashing} {R : ReplayHashing} {r₀ : ParentReplay}

theorem authenticateTip_triple (cache : DrivechainParentReplayCache) :
    Triple (On (DriverSound N H R r₀)) (authenticateTip cache) (fun _ => On (DriverSound N H R r₀))
      (On (DriverSound N H R r₀)) := by
  refine .bind (Q := fun _ => On (DriverSound N H R r₀)) ?_ fun _ => .modify fun s hs => ?_
  · refine .bind_and (observe_triple fun _ hr => hr) fun _ _ => ?_
    exact (haltIf_triple fun _ hr => hr.unpublish).mono (fun _ hs => hs) (fun _ _ hs => hs.1)
      fun _ hs => hs
  · split_ifs <;> exact hs

theorem checkDeposit_sound (claim : DepositClaim) :
    Triple (On (DriverSound N H R r₀)) (checkDeposit N claim)
      (fun _ => On (DriverSound N H R r₀)) (On (DriverSound N H R r₀)) := by
  have hrefuse : ∀ explicitTarget e, Triple (On (DriverSound N H R r₀)) (refuse explicitTarget e)
      (fun _ => On (DriverSound N H R r₀)) (On (DriverSound N H R r₀)) := fun _ _ =>
    .ite (fun _ => .pure fun _ hs => hs) fun _ => .throw fun _ hs => hs
  refine .bind getBudget_triple fun budget => .bind ask_triple fun busy => ?_
  refine .check fun _ => ?_
  refine .bind (Q := fun _ => On (DriverSound N H R r₀)) (fun _ hs => hs) fun r => ?_
  refine .check fun _ => ?_
  refine .check fun _ => ?_
  refine .check fun _ => ?_
  cases r.store with
  | none => exact .throw fun _ hs => hs
  | some store =>
    refine .bind ask_triple fun outcome => ?_
    cases store.readDeposit outcome claim.outpoint with
    | CORRUPT e =>
      refine .bind (modifyReplay_triple fun r hr => ?_) fun _ => .throw fun _ hs => hs
      have hdiscard := hr.unpublish.toStoreSound.resetCache
      exact { hdiscard with }
    | NOT_FOUND => exact hrefuse _ _
    | FOUND d =>
      simp only [depositVerdict]
      split
      · exact hrefuse _ _
      · refine .bind (.onlyIf (fun _ => authenticateTip_triple _) fun _ _ hs => hs) fun _ => ?_
        exact .bind_and (observe_triple fun _ hr => hr) fun _ _ => .pure fun _ hs => hs

/-- **The check keeps the invariant of the driver**, whatever it answers. -/
theorem DriverSound.depositStatus {s : Session} (h : DriverSound N H R r₀ s.replay)
    (claim : DepositClaim) :
    DriverSound N H R r₀ (s.after (getConfirmedDrivechainDepositStatus N H claim)) := by
  refine Session.after_of_triple ?_ h
  unfold getConfirmedDrivechainDepositStatus
  split
  · exact .pure fun _ hs => hs
  · refine .ite (fun _ => .pure fun _ hs => hs) fun _ s hs => ?_
    have hcheck := checkDeposit_sound claim s hs
    simp only [tryCatch, tryCatchThe, MonadExceptOf.tryCatch, EStateM.tryCatch]
    revert hcheck
    cases checkDeposit N claim s <;> exact id

end Kept

/-- What threads do with the replay of a node: they drive it, or check a claim against it. -/
inductive ReplayAction
  | drive (call : DriverCall)
  | check (budget : DrivechainParentBudgetState) (worlds : Stream' ParentWorld)
      (claim : DepositClaim)

/-- The globals after an action. -/
def ReplayAction.perform (N : DrivechainNetwork) (H : ParentHashing) (R : ReplayHashing)
    (r : ParentReplay) : ReplayAction → ParentReplay
  | drive call => call.perform N H R r
  | check budget worlds claim =>
    Session.after (getConfirmedDrivechainDepositStatus N H claim)
      { replay := r, budget := budget, worlds := worlds }

/-! ### The verdict for an explicit bound -/

/-- The answers to the calling thread are bounded by the given parent block. -/
structure ExplicitTarget (b : DrivechainParentBudgetState) (target : DrivechainParentReplayTip) :
    Prop where
  active : b.Active
  authenticated : b.replaySnapshotAuthenticated = true
  isExplicit : b.replaySnapshotIsExplicitTarget = true
  height : b.replaySnapshotHeight = target.height
  hash : b.replaySnapshotHash = target.hash

section Verdict

variable (N : DrivechainNetwork) (H : ParentHashing)

/-- The claim is that of a deposit of the given blocks, deep enough below the tip. -/
def ConfirmedAt (ls : List AppliedBlock) (tip : DrivechainParentReplayTip) (claim : DepositClaim) :
    Prop :=
  ∃ d ∈ ls.flatMap (·.result.deposits), d.outpoint = claim.outpoint ∧
    depositRefusal N tip.state tip.height claim d = none

instance (ls : List AppliedBlock) (tip : DrivechainParentReplayTip) :
    DecidablePred (ConfirmedAt N ls tip) :=
  fun _ => inferInstanceAs (Decidable (∃ d ∈ _, _))

/-- Cache and store describe an extension of the chain of the given blocks, which ends in the
target. -/
structure ExtensionOf (ls : List AppliedBlock) (target : DrivechainParentReplayTip)
    (r : ParentReplay) (store : DrivechainParentReplayStore) : Prop where
  /-- The blocks up to the target. -/
  target : ParentChain N.parameters H (seedTip N.checkpoint.height N.checkpoint.hash) ls target
  opened : r.store = some store
  /-- The chain of the cache goes on from there. -/
  chain : ∃ more, OneChain N H (ls ++ more) r.cache.tip store.records

variable {N H} {ls : List AppliedBlock} {target : DrivechainParentReplayTip} {r : ParentReplay}
  {store : DrivechainParentReplayStore} {claim : DepositClaim} {d : DrivechainMintableDeposit}
  {status : DrivechainDepositStatus} {snapshot : ReplaySnapshot}

theorem depositRefusal_eq_none {state : DrivechainParentReplayState} {height : ℕ} :
    depositRefusal N state height claim d = none ↔
      (d.blockHash = claim.mainchainBlockHash ∧ d.value = claim.value ∧
        d.address = claim.address) ∧ state.requiredActivationHeight ≤ d.blockHeight ∧
      HasRequiredDrivechainDepositDepth d.blockHeight height (claim.requiredDepth N) := by
  unfold depositRefusal
  by_cases hmatches : d.blockHash ≠ claim.mainchainBlockHash ∨ d.value ≠ claim.value ∨
      d.address ≠ claim.address
  · simp only [if_pos hmatches, reduceCtorEq, false_iff]
    tauto
  rw [if_neg hmatches]
  by_cases hearly : d.blockHeight < state.requiredActivationHeight
  · simp only [if_pos hearly, reduceCtorEq, false_iff]
    omega
  rw [if_neg hearly]
  push Not at hmatches hearly
  by_cases hdeep : HasRequiredDrivechainDepositDepth d.blockHeight height (claim.requiredDepth N)
  · simp [hmatches, hearly, hdeep]
  · simp [hdeep]

/-- The records up to the target are those of the blocks up to it. -/
theorem ExtensionOf.deposit_iff (h : ExtensionOf N H ls target r store) (o : COutPoint) :
    (store.records.deposits[o]? = some d ∧ d.blockHeight ≤ target.height) ↔
      d ∈ ls.flatMap (·.result.deposits) ∧ d.outpoint = o := by
  obtain ⟨more, hchain⟩ := h.chain
  obtain ⟨t, hbefore, hafter⟩ := Run.split hchain.chain
  obtain rfl := ParentChain.end_unique hbefore h.target
  rw [hchain.records.deposits, List.flatMap_append, List.mem_append]
  constructor
  · rintro ⟨⟨hd | hd, ho⟩, hheight⟩
    · exact ⟨hd, ho⟩
    · exact absurd (ParentChain.deposit_height hafter hd).1 (not_lt.2 hheight)
  · rintro ⟨hd, ho⟩
    exact ⟨⟨.inl hd, ho⟩, (ParentChain.deposit_height hbefore hd).2⟩

/-- An activation up to the target is the one that is recorded there. -/
theorem ExtensionOf.activation (h : ExtensionOf N H ls target r store)
    (hactive : ConfiguredElementsProposalActive r.cache target.height) :
    target.state.requiredActivationHeight = r.cache.tip.state.requiredActivationHeight := by
  obtain ⟨more, hchain⟩ := h.chain
  obtain ⟨t, hbefore, hafter⟩ := Run.split hchain.chain
  obtain rfl := ParentChain.end_unique hbefore h.target
  exact ParentChain.activation hafter hactive.1 hactive.2.2

/-- **The verdict is a function of the chain up to the target.** -/
theorem ExtensionOf.answered_eq (h : ExtensionOf N H ls target r store)
    (hheight : snapshot.confirmedThroughHeight = target.height)
    (hactive : ConfiguredElementsProposalActive r.cache target.height)
    (hanswered : Answered N r snapshot claim status) :
    status = if ConfirmedAt N ls target claim then .VALID else .INVALID := by
  have hrefusal : ∀ d, depositRefusal N r.cache.tip.state snapshot.confirmedThroughHeight claim d =
      none ↔ depositRefusal N target.state target.height claim d = none := by
    intro d
    rw [depositRefusal_eq_none, depositRefusal_eq_none, h.activation hactive, hheight]
  -- a confirmed deposit is the one that the store holds under the outpoint
  have hheld : ConfirmedAt N ls target claim → ∃ d, store.records.deposits[claim.outpoint]? =
      some d ∧ depositRefusal N target.state target.height claim d = none := by
    rintro ⟨d, hd, ho, hnone⟩
    exact ⟨d, ((h.deposit_iff claim.outpoint).2 ⟨hd, ho⟩).1, hnone⟩
  cases hanswered with
  | @valid store' d hstore hread hnone =>
    obtain rfl : store' = store := Option.some.inj (hstore.symm.trans h.opened)
    replace hnone := (hrefusal d).1 hnone
    have hdeep := (depositRefusal_eq_none.1 hnone).2.2.2.1
    obtain ⟨hd, ho⟩ := (h.deposit_iff claim.outpoint).1 ⟨hread, hdeep⟩
    rw [if_pos ⟨d, hd, ho, hnone⟩]
  | @absent store' _ hstore hread =>
    obtain rfl : store' = store := Option.some.inj (hstore.symm.trans h.opened)
    refine (if_neg fun hconfirmed => ?_).symm
    obtain ⟨d, hd, -⟩ := hheld hconfirmed
    simp [hread] at hd
  | @refused store' d e _ hstore hread hsome =>
    obtain rfl : store' = store := Option.some.inj (hstore.symm.trans h.opened)
    refine (if_neg fun hconfirmed => ?_).symm
    obtain ⟨d', hd', hnone⟩ := hheld hconfirmed
    obtain rfl : d = d' := Option.some.inj (hread.symm.trans hd')
    simp [(hrefusal d).2 hnone] at hsome

theorem ExplicitTarget.confirmedThroughHeight {b : DrivechainParentBudgetState}
    (h : ExplicitTarget b target) (cache : DrivechainParentReplayCache) :
    (replaySnapshot b cache).confirmedThroughHeight = target.height := by
  rw [replaySnapshot, if_pos ⟨h.active, h.authenticated⟩]
  exact h.height

/-- The verdict for an explicit target: whatever has been replayed beyond it, the claim must be
that of a deposit of the chain up to it. -/
theorem depositStatus_explicit {s : Session} {v : DrivechainDepositStatus × String}
    (h : ExtensionOf N H ls target s.replay store) (htarget : ExplicitTarget s.budget target)
    (hreturned : s.returned (getConfirmedDrivechainDepositStatus N H claim) = some v)
    (hv : v.1 ≠ .UNAVAILABLE) :
    v.1 = if checkClaim N claim = .ok () ∧ ConfirmedAt N ls target claim then .VALID
      else .INVALID := by
  rcases depositStatus_cases hreturned hv with ⟨hinvalid, e, he⟩ | ⟨hclaim, -, hactive, hanswered⟩
  · simp [hinvalid, he]
  · have hheight := htarget.confirmedThroughHeight s.replay.cache
    rw [hheight] at hactive
    simp only [h.answered_eq hheight hactive hanswered, hclaim, true_and]

/-- **What is confirmed is on the chain**, however threads drive the replay and check claims in
between, and whatever the parent node and the disk answer: cache and store describe one chain from
the checkpoint on, the claim is that of one of its deposits, made since the activation of the slot,
and the deposit is deep enough below the height that bounds the answer. -/
theorem confirmed_on_chain {R : ReplayHashing} {disk : ReplayRecords}
    {actions : List ReplayAction} {s : Session} {e : String}
    (hrun : Run (fun r a r' => r' = ReplayAction.perform N H R r a) { disk := disk } actions
      s.replay)
    (hdisk : disk.identity ≠ some
      { schemaVersion := REPROPOSAL_SCHEMA_VERSION, identity := R.storeIdentity N })
    (hvalid : s.returned (getConfirmedDrivechainDepositStatus N H claim) = some (.VALID, e)) :
    ∃ store ls, s.replay.store = some store ∧ OneChain N H ls s.replay.cache.tip store.records ∧
      ∃ d ∈ ls.flatMap (·.result.deposits), d.outpoint = claim.outpoint ∧
        (d.blockHash = claim.mainchainBlockHash ∧ d.value = claim.value ∧
          d.address = claim.address) ∧
        s.replay.cache.tip.state.requiredActivationHeight ≤ d.blockHeight ∧
        HasRequiredDrivechainDepositDepth d.blockHeight
          (replaySnapshot s.budget s.replay.cache).confirmedThroughHeight
          (claim.requiredDepth N) := by
  have hsound : DriverSound N H R s.replay s.replay := by
    refine hrun.invariant (driverSound_start hdisk) ?_
    rintro r (call | ⟨budget, worlds, claim⟩) _ hr rfl
    · exact (hr.perform call).1
    · exact (DriverSound.depositStatus (s := { replay := r, budget, worlds }) hr claim).again
  rcases depositStatus_cases hvalid (by simp) with ⟨hinvalid, -⟩ | ⟨-, hmatches, -, hanswered⟩
  · simp at hinvalid
  · cases hanswered with
    | valid hstore hread hnone =>
      obtain ⟨ls, hchain⟩ := hsound.consistent.cache hmatches.1 _ hstore
      obtain ⟨hd, houtpoint⟩ := (hchain.records.deposits _ _).1 hread
      exact ⟨_, ls, hstore, hchain, _, hd, houtpoint, depositRefusal_eq_none.1 hnone⟩

/-- **Deposit verdicts do not depend on how far a node has replayed.**  Two nodes whose caches and
stores describe extensions of the chain ending in the target, and which both answer, give the same
verdict on every claim; and the record of a deposit that is deep enough below the target, with its
amount and its address, is held by both or by neither. -/
theorem deposit_verdicts_agree {s₁ s₂ : Session} {store₁ store₂ : DrivechainParentReplayStore}
    {v₁ v₂ : DrivechainDepositStatus × String}
    (h₁ : ExtensionOf N H ls target s₁.replay store₁)
    (h₂ : ExtensionOf N H ls target s₂.replay store₂)
    (htarget₁ : ExplicitTarget s₁.budget target) (htarget₂ : ExplicitTarget s₂.budget target)
    (hreturned₁ : s₁.returned (getConfirmedDrivechainDepositStatus N H claim) = some v₁)
    (hreturned₂ : s₂.returned (getConfirmedDrivechainDepositStatus N H claim) = some v₂)
    (hv₁ : v₁.1 ≠ .UNAVAILABLE) (hv₂ : v₂.1 ≠ .UNAVAILABLE) :
    v₁.1 = v₂.1 ∧
      (∀ d depth, (store₁.records.deposits[claim.outpoint]? = some d ∧
          HasRequiredDrivechainDepositDepth d.blockHeight target.height depth) ↔
        (store₂.records.deposits[claim.outpoint]? = some d ∧
          HasRequiredDrivechainDepositDepth d.blockHeight target.height depth)) ∧
      (v₁.1 = .VALID → ∃ d, store₁.records.deposits[claim.outpoint]? = some d ∧
        store₂.records.deposits[claim.outpoint]? = some d ∧ d.value = claim.value ∧
        d.address = claim.address) := by
  have hverdict := depositStatus_explicit h₁ htarget₁ hreturned₁ hv₁
  refine ⟨hverdict.trans (depositStatus_explicit h₂ htarget₂ hreturned₂ hv₂).symm,
    fun d depth => ?_, fun hvalid => ?_⟩
  · -- a record that is deep enough lies below the target, where both stores hold the same
    have hsame := (h₁.deposit_iff (d := d) claim.outpoint).trans
      (h₂.deposit_iff claim.outpoint).symm
    constructor
    · rintro ⟨hread, hdeep⟩
      exact ⟨(hsame.1 ⟨hread, hdeep.2.1⟩).1, hdeep⟩
    · rintro ⟨hread, hdeep⟩
      exact ⟨(hsame.2 ⟨hread, hdeep.2.1⟩).1, hdeep⟩
  · by_cases hconfirmed : checkClaim N claim = .ok () ∧ ConfirmedAt N ls target claim
    · obtain ⟨-, d, hd, ho, hnone⟩ := hconfirmed
      obtain ⟨-, hvalue, haddress⟩ := (depositRefusal_eq_none.1 hnone).1
      exact ⟨d, ((h₁.deposit_iff claim.outpoint).2 ⟨hd, ho⟩).1,
        ((h₂.deposit_iff claim.outpoint).2 ⟨hd, ho⟩).1, hvalue, haddress⟩
    · rw [hverdict, if_neg hconfirmed] at hvalid
      simp at hvalid

end Verdict

/-! ### Two nodes of the small network -/

/-- Replay and persist blocks, as far as they are accepted. -/
def persistAll (P : ReplayParameters) (H : ParentHashing)
    (stateHash : DrivechainParentReplayState → Uint256) (checkpointHeight : ℕ) (p : PersistPoint) :
    List CBlock → List AppliedBlock × PersistPoint
  | [] => ([], p)
  | block :: blocks =>
    match applyDrivechainParentBlockState P H block (p.tip.height + 1) p.tip.state with
    | .error _ => ([], p)
    | .ok result =>
      let a : AppliedBlock := { block := block, height := p.tip.height + 1, result := result }
      match p.store.append stateHash true (appendOf P H checkpointHeight p.tip a) with
      | .error _ => ([], p)
      | .ok store =>
        if block.hashPrevBlock = p.tip.hash then
          let tip : DrivechainParentReplayTip :=
            { height := a.height, hash := H.blockHash block, state := result.state }
          let rest :=
            persistAll P H stateHash checkpointHeight { tip := tip, store := store } blocks
          (a :: rest.1, rest.2)
        else ([], p)

theorem persistRun_persistAll (P : ReplayParameters) (H : ParentHashing)
    (stateHash : DrivechainParentReplayState → Uint256) (checkpointHeight : ℕ) (p : PersistPoint)
    (blocks : List CBlock) :
    PersistRun P H stateHash checkpointHeight p
      (persistAll P H stateHash checkpointHeight p blocks).1
      (persistAll P H stateHash checkpointHeight p blocks).2 := by
  induction blocks generalizing p with
  | nil => exact .nil
  | cons block blocks ih =>
    unfold persistAll
    cases happlied : applyDrivechainParentBlockState P H block (p.tip.height + 1) p.tip.state with
    | error e => exact .nil
    | ok result =>
      dsimp only
      cases happended : p.store.append stateHash true (appendOf P H checkpointHeight p.tip
          { block := block, height := p.tip.height + 1, result := result }) with
      | error e => exact .nil
      | ok store =>
        by_cases hprevious : block.hashPrevBlock = p.tip.hash
        · simp only [if_pos hprevious]
          exact Run.append (.snoc .nil ⟨⟨hprevious, rfl, happlied⟩, happended, rfl⟩) (ih _)
        · simp only [if_neg hprevious]
          exact .nil

namespace Sample

/-- The replay of the small network after its first four blocks. -/
def upToDeposit : List AppliedBlock × PersistPoint :=
  persistAll network.parameters hashing replayHashing.state 9
    (.seed (replayHashing.storeIdentity network) 9 (.ofByte 1)) (chain.take 4)

/-- The replay of the whole chain. -/
def beyondDeposit : List AppliedBlock × PersistPoint :=
  persistAll network.parameters hashing replayHashing.state 9 upToDeposit.2 (chain.drop 4)

/-- A call on a node that has replayed up to the given point, bounded by the fourth block. -/
def depositSession (p : PersistPoint) : Session where
  replay :=
    { cache := { initialized := true, epoch := 1, identity := network.cacheIdentity, tip := p.tip }
      store := some p.store
      epochCounter := 1
      publishedEpoch := 1 }
  budget :=
    { depth := 1
      replaySnapshotAuthenticated := true
      replaySnapshotIsExplicitTarget := true
      replaySnapshotHeight := upToDeposit.2.tip.height
      replaySnapshotHash := upToDeposit.2.tip.hash
      replaySnapshotEpoch := 1 }
  worlds := Stream'.const world

/-- A claim of the deposit of the small network. -/
def depositClaim : DepositClaim where
  mainchainBlockHash := .ofByte 5
  sidechainSlot := 24
  outpoint := { hash := .ofByte 10, n := 0 }
  value := 1000
  address := [1, 2, 3]

theorem oneChain_upToDeposit {more : List AppliedBlock} {p : PersistPoint}
    (hrun : PersistRun network.parameters hashing replayHashing.state 9 upToDeposit.2 more p) :
    OneChain network hashing (upToDeposit.1 ++ more) p.tip p.store.records := by
  have hall := Run.append (persistRun_persistAll network.parameters hashing replayHashing.state 9
    (.seed (replayHashing.storeIdentity network) 9 (.ofByte 1)) (chain.take 4)) hrun
  have hrecords := PersistRun.recordsOf hall (by decide)
  exact ⟨PersistRun.parentChain hall, hrecords.2.1, hrecords.1⟩

theorem parentChain_upToDeposit : ParentChain network.parameters hashing
    (seedTip network.checkpoint.height network.checkpoint.hash) upToDeposit.1
    upToDeposit.2.tip := by
  simpa using (oneChain_upToDeposit .nil).chain

end Sample

open Sample

theorem deposit_verdicts_agree_sample :
    Session.returned (getConfirmedDrivechainDepositStatus network hashing
        depositClaim) (depositSession beyondDeposit.2) = some (.VALID, "") ∧
      ∃ d, upToDeposit.2.store.records.deposits[depositClaim.outpoint]? = some d ∧
        beyondDeposit.2.store.records.deposits[depositClaim.outpoint]? = some d ∧
        d.value = 1000 ∧ d.address = [1, 2, 3] := by
  have h₁ : ExtensionOf network hashing upToDeposit.1
      upToDeposit.2.tip (depositSession upToDeposit.2).replay
      upToDeposit.2.store :=
    ⟨parentChain_upToDeposit, rfl, [], oneChain_upToDeposit .nil⟩
  have h₂ : ExtensionOf network hashing upToDeposit.1
      upToDeposit.2.tip (depositSession beyondDeposit.2).replay
      beyondDeposit.2.store :=
    ⟨parentChain_upToDeposit, rfl, beyondDeposit.1,
      oneChain_upToDeposit (persistRun_persistAll ..)⟩
  have hreturned₁ : Session.returned (getConfirmedDrivechainDepositStatus network
      hashing depositClaim) (depositSession upToDeposit.2) =
      some (.VALID, "") := by decide +kernel
  have hreturned₂ : Session.returned (getConfirmedDrivechainDepositStatus network
      hashing depositClaim) (depositSession beyondDeposit.2) =
      some (.VALID, "") := by decide +kernel
  have htarget : ∀ p, ExplicitTarget (depositSession p).budget upToDeposit.2.tip :=
    fun _ => ⟨one_ne_zero, rfl, rfl, rfl, rfl⟩
  exact ⟨hreturned₂, (deposit_verdicts_agree h₁ h₂ (htarget _) (htarget _) hreturned₁ hreturned₂
    (by decide) (by decide)).2.2 rfl⟩

/-- Its check. -/
def Sample.check : ReplayAction := .check {} (Stream'.const world) depositClaim

/-- The replay of the small network was driven up to the deposit, and its claim was checked. -/
def Sample.checkSession : Session where
  replay := [.drive call, check].foldl (ReplayAction.perform network hashing replayHashing) {}
  budget := {}
  worlds := Stream'.const world

theorem confirmed_on_chain_sample :
    ∃ store ls, checkSession.replay.store = some store ∧
      OneChain network hashing ls checkSession.replay.cache.tip
        store.records ∧ ∃ d ∈ ls.flatMap (·.result.deposits), d.value = 1000 := by
  have hrun : Run (fun r a r' => r' = ReplayAction.perform network hashing
      replayHashing r a) {} [.drive call, check]
      checkSession.replay := by
    simp only [checkSession, List.foldl_cons, List.foldl_nil]
    exact .snoc (.snoc .nil rfl) rfl
  have hvalid : checkSession.returned (getConfirmedDrivechainDepositStatus network
      hashing depositClaim) = some (.VALID, "") := by decide +kernel
  obtain ⟨store, ls, hstore, hchain, d, hd, -, hclaim, -⟩ :=
    confirmed_on_chain hrun (by decide) hvalid
  exact ⟨store, ls, hstore, hchain, d, hd, hclaim.2.1⟩

end ElementsDrivechain
