import ElementsDrivechain.Anchors.MostWork
import ElementsDrivechain.Anchors.Moves
import ElementsDrivechain.Anchors.Pass
import ElementsDrivechain.Foundations.Trace

/-!
# Runs of a node

A node performs calls while the parent chain goes its own way.  A call either finds the parent chain
as it was from beginning to end, or the parent chain changes in the meantime and each question may
be answered from another tip.

A pass that has not stalled opens the loop in which the node activates better branches.  The lock is
held until the loop ends or is given up, so that no block is accepted and no other pass is made
before; the parent chain may change at any time.

* `NodeState.reconciled_spec`, `NodeState.activated_spec`,
  `prepareDrivechainAnchorSnapshot_triple` : what the calls do.
* `NodeState.performed_move` : **a call makes one of the moves.**
-/

namespace ElementsDrivechain

open Effects Relation

/-! ### The parent chain -/

/-- The block is on the chain of the parent tip, at a height. -/
def ActiveAt (parents : Forest Uint256) (parentTip : Uint256) (height : ℕ) (hash : Uint256) :
    Prop :=
  hash ∈ parents.ancestry parentTip ∧ parents.height hash = height

/-- Every answer is true of the chain of one of the parent tips; two answers may come from two. -/
structure Sees (parents : Forest Uint256) (tips : Set Uint256) (w : NodeWorld) : Prop where
  anchor_parent : ∀ anchor, ∀ h ∈ (w.anchorReads anchor).activeParentHash,
    ∃ tip ∈ tips, ActiveAt parents tip anchor.parentHeight h
  anchor_successor : ∀ anchor, ∀ h ∈ (w.anchorReads anchor).activeSuccessorHash,
    ∃ tip ∈ tips, ActiveAt parents tip anchor.bmmHeight h
  bmm_parent : ∀ b, ∀ h ∈ (w.bmmReads b).activeParentHash,
    ∃ tip ∈ tips, ActiveAt parents tip (w.bmmReads b).context.parentHeight h
  bmm_successor : ∀ b, ∀ h ∈ (w.bmmReads b).activeSuccessorHash,
    ∃ tip ∈ tips, ActiveAt parents tip (w.bmmReads b).context.bmmHeight h
  best : ∀ h ∈ w.bestBlockHash, h ∈ tips

namespace Sees

variable {parents : Forest Uint256} {tips tips' : Set Uint256} {parentTip : Uint256} {w : NodeWorld}

theorem mono (h : Sees parents tips w) (htips : tips ⊆ tips') : Sees parents tips' w where
  anchor_parent a x hx := (h.anchor_parent a x hx).imp fun _ => And.imp_left (@htips _)
  anchor_successor a x hx := (h.anchor_successor a x hx).imp fun _ => And.imp_left (@htips _)
  bmm_parent b x hx := (h.bmm_parent b x hx).imp fun _ => And.imp_left (@htips _)
  bmm_successor b x hx := (h.bmm_successor b x hx).imp fun _ => And.imp_left (@htips _)
  best x hx := htips (h.best x hx)

theorem onChain_of_active (h : Sees parents {parentTip} w) {anchor : DrivechainAnchor}
    (hactive : anchorStatus anchor (w.anchorReads anchor) = .ACTIVE) :
    anchor.OnChain parents parentTip := by
  obtain ⟨hparent, hsuccessor⟩ := anchorStatus_eq_active hactive
  obtain ⟨_, rfl, hpmem, hpheight⟩ := h.anchor_parent anchor _ hparent
  obtain ⟨_, rfl, hqmem, hqheight⟩ := h.anchor_successor anchor _ hsuccessor
  exact ⟨hpmem, hqmem, hpheight, hqheight⟩

theorem onChain_of_valid (h : Sees parents {parentTip} w) {b : Uint256}
    (hvalid : (w.bmmReads b).status = .VALID) :
    (makeDrivechainAnchor (w.bmmReads b).context).OnChain parents parentTip := by
  obtain ⟨-, hparent, hsuccessor⟩ := bmmStatus_eq_valid hvalid
  obtain ⟨_, rfl, hpmem, hpheight⟩ := h.bmm_parent b _ hparent
  obtain ⟨_, rfl, hqmem, hqheight⟩ := h.bmm_successor b _ hsuccessor
  exact ⟨hpmem, hqmem, hpheight, hqheight⟩

end Sees

/-! ### The node -/

/-- How the parent chain behaves during a call. -/
inductive ParentView
  | fixed
  /-- It changes, and has this tip in the end. -/
  | changing (parentTip : Uint256)
deriving DecidableEq

/-- The calls of a node. -/
inductive NodeCall
  | acceptBlock (hash prev : Uint256)
  | prepareSnapshot
  | reconcile
  | activate
deriving DecidableEq

/-- What happens to a node. -/
inductive NodeEvent
  /-- The parent chain changes between two calls. -/
  | reorganised (parentTip : Uint256)
  /-- The lock is given up behind a pass: nothing is activated behind the pass at startup. -/
  | released
  | call (call : NodeCall) (view : ParentView) (worlds : Stream' NodeWorld)

/-- A node between two calls. -/
structure NodeState where
  chain : Chainstate
  parentTip : Uint256
  /-- The loop behind a pass, while it runs. -/
  loop : Option ActivationLoop := none
  /-- A pass has ended without a stall, and the parent chain has not changed since it began. -/
  settled : Bool := false
  /-- The tips the node has had. -/
  held : List Uint256 := []
  /-- A pass has failed on the local disk. -/
  failed : Bool := false

namespace NodeState

variable (s : NodeState)

/-- A node that has stored its first block. -/
def initial (genesis parentTip : Uint256) : NodeState where
  chain := .loadGenesisBlock genesis
  parentTip := parentTip

/-- A call begins. -/
def start (worlds : Stream' NodeWorld) : Activation := { chain := s.chain, worlds := worlds }

/-- The node behind a pass. -/
def reconciled (worlds : Stream' NodeWorld) : NodeState :=
  match reconcileDrivechainAnchors (s.start worlds) with
  | .ok _ t =>
    { s with
      chain := t.chain
      loop := if t.stalled = true then none else some { startingTip := s.chain.tip }
      settled := s.settled || !t.stalled
      held := t.chain.tip.toList ++ s.held }
  | .error _ t =>
    { s with chain := t.chain, held := t.chain.tip.toList ++ s.held, failed := true }

/-- The node behind a round of the loop. -/
def activated (worlds : Stream' NodeWorld) (loop : ActivationLoop) : NodeState :=
  match activateBestChain loop (s.start worlds) with
  | .ok next t => { s with chain := t.chain, loop := next, held := t.chain.tip.toList ++ s.held }
  | .error _ t => { s with chain := t.chain, loop := none, held := t.chain.tip.toList ++ s.held }

/-- The node behind a call. -/
def performed (worlds : Stream' NodeWorld) : NodeCall → NodeState
  | .acceptBlock hash prev =>
    { s with chain := (final (acceptBlock hash prev) (s.start worlds)).chain }
  | .prepareSnapshot =>
    { s with chain := (final prepareDrivechainAnchorSnapshot (s.start worlds)).chain }
  | .reconcile => s.reconciled worlds
  | .activate =>
    match s.loop with
    | none => s
    | some loop => s.activated worlds loop

/-- The parent chain has been seen to change, or not. -/
def observed : ParentView → NodeState
  | .fixed => s
  | .changing parentTip => { s with parentTip := parentTip, settled := false }

end NodeState

/-- The call can be made: the lock is free, or held by the loop that makes it. -/
def NodeCall.Allowed (s : NodeState) : NodeCall → Prop
  | .activate => s.loop ≠ none
  | _ => s.loop = none

instance (s : NodeState) : DecidablePred (NodeCall.Allowed s)
  | .activate => inferInstanceAs (Decidable (s.loop ≠ none))
  | .acceptBlock _ _ => inferInstanceAs (Decidable (s.loop = none))
  | .prepareSnapshot => inferInstanceAs (Decidable (s.loop = none))
  | .reconcile => inferInstanceAs (Decidable (s.loop = none))

/-- The answers during a call come from the parent chain of the moment. -/
def ParentView.Seen (parents : Forest Uint256) (parentTip : Uint256) (worlds : Stream' NodeWorld) :
    ParentView → Prop
  | .fixed => ∀ n, Sees parents {parentTip} (worlds.get n)
  | .changing _ => ∀ n, Sees parents Set.univ (worlds.get n)

/-- One step of a node. -/
inductive NodeStep (parents : Forest Uint256) (s : NodeState) : NodeEvent → NodeState → Prop
  | reorganised (parentTip : Uint256) :
      NodeStep parents s (.reorganised parentTip)
        { s with parentTip := parentTip, settled := false }
  | released : NodeStep parents s .released { s with loop := none }
  | call {call : NodeCall} {view : ParentView} {worlds : Stream' NodeWorld}
      (hallowed : call.Allowed s) (hseen : view.Seen parents s.parentTip worlds) :
      NodeStep parents s (.call call view worlds) ((s.performed worlds call).observed view)

/-! ### What the calls do -/

/-- The candidate a round works towards: the one of the round before, or the best one. -/
inductive Chosen (loop : ActivationLoop) (c : Chainstate) : Option Uint256 → Chainstate → Prop
  | kept {m : Uint256} (h : loop.mostWork = some m) : Chosen loop c (some m) c
  | found {r : Option Uint256} {c' : Chainstate} (hnone : loop.mostWork = none)
      (h : FoundMostWork c r c') : Chosen loop c r c'

/-- How a round ends: with nothing to do, or with a step. -/
inductive RoundEnded (loop : ActivationLoop) (c : Chainstate) :
    Option ActivationLoop → Activation → Prop
  | idle {r : Option Uint256} {c₁ : Chainstate} {t : Activation} (hchosen : Chosen loop c r c₁)
      (h : t.chain = c₁) : RoundEnded loop c none t
  | step {m : Uint256} {c₁ : Chainstate} {next : Option ActivationLoop} {t : Activation}
      (hchosen : Chosen loop c (some m) c₁) (h : StepDone c₁.tip m c₁ t)
      (hnext : ∀ l ∈ next, t.stalled = false ∧
        (l.mostWork = none ∨ l.mostWork = some m ∧ t.invalidFound = false)) :
      RoundEnded loop c next t

theorem chooseMostWork_triple {c : Chainstate} {loop : ActivationLoop} {E : Activation → Prop} :
    Triple (Unchanged c) (chooseMostWork loop) (fun r t => Chosen loop c r t.chain) E := by
  intro s hs
  obtain rfl : s.chain = c := hs
  cases h : loop.mostWork with
  | some m =>
    simp only [chooseMostWork, h]
    exact .kept h
  | none =>
    simp only [chooseMostWork, h]
    exact .found h (findMostWorkChain_spec s.chain)

theorem activateBestChain_triple {c : Chainstate} {l : ActivationLoop} :
    Triple (Unchanged c) (activateBestChain l) (RoundEnded l c) (RoundEnded l c none) := by
  refine .bind chooseMostWork_triple fun chosen => ?_
  cases chosen with
  | none => exact .pure fun t ht => .idle ht rfl
  | some m =>
    refine get_triple fun t ht => .ite (fun _ => .pure ?_) fun _ => ?_
    · rintro _ rfl
      exact .idle ht rfl
    · refine .bind ((activateBestChainStep_moves t.chain m).mono (by rintro _ rfl; rfl)
        (fun _ u hu => hu) fun u hu => .step ht hu nofun) fun _ => get_triple fun u hu => ?_
      refine .ite (fun _ => .pure ?_) fun hgo => .pure ?_
      · rintro _ rfl
        exact .step ht hu nofun
      · intro v hv
        obtain rfl : u = v := hv.symm
        refine .step ht hu fun l' hl => ?_
        obtain rfl := Option.some.inj hl
        refine ⟨by simpa using (not_or.1 hgo).1, ?_⟩
        cases hfound : u.invalidFound with
        | true => exact .inl (by simp)
        | false => exact .inr ⟨by simp, rfl⟩

theorem NodeState.activated_spec (s : NodeState) (worlds : Stream' NodeWorld)
    (loop : ActivationLoop) : ∃ t next, RoundEnded loop s.chain next t ∧
      s.activated worlds loop =
        { s with chain := t.chain, loop := next, held := t.chain.tip.toList ++ s.held } := by
  have h := activateBestChain_triple (l := loop) (s.start worlds) rfl
  revert h
  unfold activated
  cases activateBestChain loop (s.start worlds) with
  | ok next t => exact fun h => ⟨t, next, h, rfl⟩
  | error e t => exact fun h => ⟨t, none, h, rfl⟩

/-- How a pass ends for the node. -/
inductive ReconcileEnded (Says : Verdicts) (s : NodeState) : NodeState → Prop
  | done {t : Activation} (h : PassDone Says s.chain t) : ReconcileEnded Says s
      { s with
        chain := t.chain
        loop := if t.stalled = true then none else some { startingTip := s.chain.tip }
        settled := s.settled || !t.stalled
        held := t.chain.tip.toList ++ s.held }
  | idle : ReconcileEnded Says s
      { s with loop := none, held := s.chain.tip.toList ++ s.held }
  | failed {t : Activation} (h : PassKept Says s.chain t.chain) : ReconcileEnded Says s
      { s with chain := t.chain, held := t.chain.tip.toList ++ s.held, failed := true }

theorem NodeState.reconciled_spec {Says : Verdicts} {s : NodeState} {worlds : Stream' NodeWorld}
    (hstart : SnapshotCurrent s.chain.anchorSnapshot worlds →
      PassStart Says s.chain (s.start worlds)) : ReconcileEnded Says s (s.reconciled worlds) := by
  unfold reconciled
  rw [reconcileDrivechainAnchors_eq]
  by_cases hcurrent : SnapshotCurrent (s.start worlds).chain.anchorSnapshot (s.start worlds).worlds
  · rw [if_pos hcurrent]
    have h := reconcilePass_triple _ (hstart hcurrent).checked
    revert h
    cases reconcilePass (s.start worlds).checked with
    | ok a t => exact .done
    | error e t => exact .failed
  · rw [if_neg hcurrent]
    have hchain : (s.start worlds).checked.chain = s.chain := by
      unfold Activation.checked
      split <;> rfl
    simp only [hchain, if_pos, Bool.not_true, Bool.or_false]
    exact .idle

theorem passStart_true (s : NodeState) (worlds : Stream' NodeWorld) :
    PassStart (fun _ _ _ => True) s.chain (s.start worlds) :=
  ⟨⟨⟨fun _ _ _ => trivial, fun _ _ _ _ => trivial⟩, rfl, fun _ _ _ => trivial⟩,
    fun _ _ _ _ _ _ => trivial, rfl, rfl, rfl⟩

section Answers

variable {c c' : Chainstate} {worlds : Stream' NodeWorld}

variable (c worlds) in
/-- A block is called orphaned only if that is answered. -/
def OrphanedAnswered (_ : Uint256) (e : CBlockIndex) (status : DrivechainAnchorStatus) : Prop :=
  status = .ORPHANED → ∃ n, freshStatus c.anchorSnapshot (worlds.get n) e = .ORPHANED

theorem passStart_orphanedAnswered (s : NodeState) :
    PassStart (OrphanedAnswered s.chain worlds) s.chain (s.start worlds) where
  pass :=
    { sound := ⟨fun n _ _ h => ⟨n, h⟩, fun _ _ _ _ h => absurd h nofun⟩
      snapshot_eq := rfl
      remembered := by simp [NodeState.start] }
  edges _ _ _ _ _ _ h := absurd h nofun
  chain := rfl
  blocksDisconnected := rfl
  stalled := rfl

/-- A pass leaves a block on the chain that is never answered to be orphaned. -/
theorem PassKept.mem_active {a : Uint256} (h : PassKept (OrphanedAnswered c worlds) c c')
    (ha : a ∈ c.active)
    (hanswers : ∀ n, freshStatus c.anchorSnapshot (worlds.get n) (c.block a) ≠ .ORPHANED) :
    a ∈ c'.active := by
  by_contra hoff
  obtain ⟨n, hn⟩ := (h.orphaned a ha hoff).2 rfl
  exact hanswers n hn

end Answers

section Prepare

variable {Good : NodeWorld → Prop} {Holds : DrivechainAnchorSnapshot → Prop}
  {c : Chainstate} {E : Activation → Prop}

/-- The chainstate is as before, and only good worlds are to come. -/
structure Steady (Good : NodeWorld → Prop) (c : Chainstate) (s : Activation) : Prop where
  chain : s.chain = c
  worlds : ∀ n, Good (s.worlds.get n)

theorem world_steady : Triple (Steady Good c) world (fun w s => Steady Good c s ∧ Good w) E :=
  world_triple fun _ hs => ⟨⟨hs.chain, fun n => hs.worlds (n + 1)⟩, hs.worlds 0⟩

theorem checkDrivechainAnchorSnapshot_triple {σ : DrivechainAnchorSnapshot} :
    Triple (Steady Good c) (checkDrivechainAnchorSnapshot σ) (fun _ => Steady Good c) E := by
  refine .bind_and world_steady fun before _ => ?_
  refine .bind_and world_steady fun now _ => ?_
  exact .bind world_steady fun after => .pure fun s hs => hs.1

/-- What holds of the snapshot at hand when only active anchors are added. -/
structure Additive (Good : NodeWorld → Prop) (Holds : DrivechainAnchorSnapshot → Prop) : Prop where
  /-- It holds of an empty snapshot. -/
  new : ∀ w, Good w → ∀ tip ∈ w.bestBlockHash, ∀ epoch, Holds { parentTip := tip, epoch := epoch }
  /-- An active anchor may be added. -/
  add : ∀ w, Good w → ∀ σ anchor, Holds σ → anchorStatus anchor (w.anchorReads anchor) = .ACTIVE →
    Holds { σ with activeAnchors := anchor :: σ.activeAnchors }

theorem warmAnchor_triple (h : Additive Good Holds) (σ : DrivechainAnchorSnapshot)
    (anchor : DrivechainAnchor) :
    Triple (fun s => Steady Good c s ∧ Holds σ) (warmAnchor σ anchor)
      (fun σ' s => Steady Good c s ∧ Holds σ') (Steady Good c) := by
  refine .assume fun hσ => ?_
  refine .bind_and world_steady fun check _ => ?_
  refine .check fun _ => ?_
  refine .check fun _ => ?_
  refine .ite (fun _ => .pure fun s hs => ⟨hs, hσ⟩) fun _ => ?_
  refine .bind_and world_steady fun w hw => ?_
  cases hstatus : anchorStatus anchor (w.anchorReads anchor) with
  | UNAVAILABLE => exact .throw fun s hs => hs
  | ORPHANED => exact .pure fun s hs => ⟨hs, hσ⟩
  | ACTIVE =>
    simp only
    unfold DrivechainAnchorSnapshot.add
    by_cases hbad : DrivechainAnchorStatus.ACTIVE ≠ .ACTIVE ∨ ¬anchor.IsSane ∨ σ.parentTip = 0 ∨
        ¬σ.EpochMatches σ.epoch
    · rw [if_pos hbad]
      exact .throw fun s hs => hs
    · rw [if_neg hbad]
      exact .pure fun s hs => ⟨hs, h.add w hw σ anchor hσ hstatus⟩

theorem warmDrivechainAnchorSnapshot_triple (h : Additive Good Holds)
    (anchors : List DrivechainAnchor) :
    Triple (Steady Good c) (warmDrivechainAnchorSnapshot anchors)
      (fun σ s => Steady Good c s ∧ Holds σ) (Steady Good c) := by
  refine .bind_and world_steady fun start _ => ?_
  refine .check fun _ => ?_
  refine .check fun _ => ?_
  refine .bind_and world_steady fun now hnow => ?_
  cases htip : now.bestBlockHash with
  | none => exact .throw fun s hs => hs
  | some tip =>
    refine .check fun _ => ?_
    refine .bind (Q := fun σ s => Steady Good c s ∧ Holds σ)
      ((Triple.foldlM (warmAnchor_triple h) anchors _).pre
        fun s hs => ⟨hs, h.new now hnow tip htip _⟩) fun σ => .assume fun hσ => ?_
    refine .bind checkDrivechainAnchorSnapshot_triple fun current => ?_
    refine .bind (.failIf fun _ hs => hs) fun _ => .pure fun s hs => ⟨hs.1, hσ⟩

theorem snapshotReusable_triple {previous : Option DrivechainAnchorSnapshot}
    {anchors : List DrivechainAnchor} :
    Triple (Steady Good c) (snapshotReusable previous anchors) (fun _ => Steady Good c) E := by
  cases previous with
  | none => exact .pure fun s hs => hs
  | some σ =>
    refine .bind checkDrivechainAnchorSnapshot_triple fun current => ?_
    exact .bind world_steady fun w => .pure fun s hs => hs.1

/-- Nothing but the snapshot has changed, and a new one holds active anchors only. -/
def Prepared (Holds : DrivechainAnchorSnapshot → Prop) (c : Chainstate) (s : Activation) : Prop :=
  ∃ snapshot, s.chain = { c with anchorSnapshot := snapshot } ∧
    (snapshot = c.anchorSnapshot ∨ ∀ σ ∈ snapshot, Holds σ)

/-- **Preparing a snapshot.** -/
theorem prepareDrivechainAnchorSnapshot_triple (h : Additive Good Holds) :
    Triple (Steady Good c) prepareDrivechainAnchorSnapshot (fun _ => Prepared Holds c)
      (Prepared Holds c) := by
  have hsame : ∀ s, Steady Good c s → Prepared Holds c s := fun s hs => ⟨_, hs.chain, .inl rfl⟩
  refine get_triple fun s hs => ?_
  refine (?_ : Triple (Steady Good c) _ _ _).pre (by rintro _ rfl; exact hs)
  refine .ite (fun _ => onChain_triple fun u hu => ?_) fun _ => ?_
  · obtain rfl : u.chain = c := hu.chain
    exact ⟨none, rfl, .inr nofun⟩
  refine .bind snapshotReusable_triple fun reusable => ?_
  refine .ite (fun _ => .pure hsame) fun _ => ?_
  refine .bind_and ((warmDrivechainAnchorSnapshot_triple h _).mono (fun _ hs => hs)
    (fun _ _ hs => hs) hsame) fun prepared hprepared =>
      onChain_triple fun u hu => ?_
  obtain rfl : u.chain = c := hu.chain
  refine ⟨some prepared, rfl, .inr fun σ hσ => ?_⟩
  obtain rfl := Option.some.inj hσ
  exact hprepared

end Prepare

/-! ### What a call does to the node -/

/-- What a call can do, when a pass says of blocks what `Says` allows and a new snapshot `Holds`. -/
inductive NodeMove (Says : Verdicts) (Holds : DrivechainAnchorSnapshot → Prop) (s : NodeState) :
    NodeState → Prop
  | accepted {c : Chainstate} (hidle : s.loop = none) (h : ReflTransGen AcceptMove s.chain c) :
      NodeMove Says Holds s { s with chain := c }
  | prepared {snapshot : Option DrivechainAnchorSnapshot} (hidle : s.loop = none)
      (h : snapshot = s.chain.anchorSnapshot ∨ ∀ σ ∈ snapshot, Holds σ) :
      NodeMove Says Holds s { s with chain := { s.chain with anchorSnapshot := snapshot } }
  | reconciled {s' : NodeState} (hidle : s.loop = none) (h : ReconcileEnded Says s s') :
      NodeMove Says Holds s s'
  | activated {loop : ActivationLoop} {next : Option ActivationLoop} {t : Activation}
      (hloop : s.loop = some loop) (h : RoundEnded loop s.chain next t) :
      NodeMove Says Holds s
        { s with chain := t.chain, loop := next, held := t.chain.tip.toList ++ s.held }

/-- **A call makes one of the moves.** -/
theorem NodeState.performed_move {Says : Verdicts} {Good : NodeWorld → Prop}
    {Holds : DrivechainAnchorSnapshot → Prop} {s : NodeState} {worlds : Stream' NodeWorld}
    {call : NodeCall} (hallowed : call.Allowed s) (hadditive : Additive Good Holds)
    (hgood : call = .prepareSnapshot → ∀ n, Good (worlds.get n))
    (hstart : call = .reconcile → SnapshotCurrent s.chain.anchorSnapshot worlds →
      PassStart Says s.chain (s.start worlds)) :
    NodeMove Says Holds s (s.performed worlds call) := by
  cases call with
  | acceptBlock hash prev =>
    exact .accepted hallowed ((acceptBlock_moves s.chain hash prev).final (s := s.start worlds) rfl)
  | prepareSnapshot =>
    obtain ⟨snapshot, hsnapshot, hholds⟩ :=
      (prepareDrivechainAnchorSnapshot_triple (c := s.chain) hadditive).final
        (s := s.start worlds) ⟨rfl, hgood rfl⟩
    rw [performed, hsnapshot]
    exact .prepared hallowed hholds
  | reconcile => exact .reconciled hallowed (reconciled_spec (hstart rfl))
  | activate =>
    obtain ⟨loop, hloop⟩ := Option.ne_none_iff_exists'.1 hallowed
    obtain ⟨t, next, hround, heq⟩ := s.activated_spec worlds loop
    simp only [performed, hloop, heq]
    exact .activated hloop hround

theorem additive_true : Additive (fun _ => True) (fun _ => True) :=
  ⟨fun _ _ _ _ _ => trivial, fun _ _ _ _ _ _ => trivial⟩

theorem NodeStep.invariant {parents : Forest Uint256} {s s' : NodeState} {e : NodeEvent}
    {I : NodeState → Prop} (h : NodeStep parents s e s') (hs : I s)
    (hmove : ∀ s', NodeMove (fun _ _ _ => True) (fun _ => True) s s' → I s')
    (hparent : ∀ s parentTip, I s → I { s with parentTip := parentTip, settled := false })
    (hrelease : I { s with loop := none }) : I s' := by
  cases h with
  | reorganised parentTip => exact hparent s parentTip hs
  | released => exact hrelease
  | @call call view worlds hallowed _ =>
    have hperformed : I (s.performed worlds call) :=
      hmove _ (NodeState.performed_move hallowed additive_true (fun _ _ => trivial)
        fun _ _ => passStart_true s worlds)
    cases view with
    | fixed => exact hperformed
    | changing parentTip => exact hparent _ parentTip hperformed

end ElementsDrivechain
