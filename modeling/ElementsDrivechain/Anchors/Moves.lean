import Mathlib.Logic.Relation
import ElementsDrivechain.Anchors.Activate
import ElementsDrivechain.Anchors.PassPhases

/-!
# What accepting and activating can do to a chainstate

Whatever the worlds answer, a call changes the chainstate by a few kinds of *moves*, each with its
guards.  The invariants of a node are proved for the moves, and never for the programs again.

* `acceptBlock_moves` : accepting a block.
* `activateBestChainStep_moves` : a step towards a candidate.
-/

namespace ElementsDrivechain

open Effects Relation

variable {c c₀ : Chainstate} {hash prev b m : Uint256}

/-! ### Accepting a block -/

/-- What accepting a block can do. -/
inductive AcceptMove (c : Chainstate) : Chainstate → Prop
  | enter {hash prev : Uint256} (hnew : hash ∉ c.blocks) (hprev : prev ∈ c.blocks)
      (hauthenticated : IsDrivechainHeaderAuthenticated (c.block prev)) :
      AcceptMove c (c.addToBlockIndex hash prev)
  | reject {hash : Uint256} (hmem : hash ∈ c.blocks) (hdata : (c.block hash).haveData = false) :
      AcceptMove c (c.markFailed [hash])
  | store {hash : Uint256} {anchor : DrivechainAnchor} (hmem : hash ∈ c.blocks)
      (hdata : (c.block hash).haveData = false) (hfailed : (c.block hash).failed = false) :
      AcceptMove c ((c.receivedBlockTransactions hash).setAnchor hash anchor)

/-- The chainstate is as before. -/
def Unchanged (c : Chainstate) (s : Activation) : Prop := s.chain = c

theorem world_unchanged {E : Activation → Prop} :
    Triple (Unchanged c) world (fun _ => Unchanged c) E :=
  world_triple fun _ hs => hs

theorem authenticateBlock_triple {onInvalid : Node Unit} {E : Activation → Prop}
    (hE : ∀ s, Unchanged c s → E s) (hinvalid : Triple (Unchanged c) onInvalid (fun _ => E) E) :
    Triple (Unchanged c) (authenticateBlock hash onInvalid) (fun _ => Unchanged c) E := by
  refine .bind world_unchanged fun derived => ?_
  refine .guard hE fun _ => ?_
  refine .bind world_unchanged fun w => ?_
  simp only
  cases (w.bmmReads hash).status with
  | INVALID => exact .bind hinvalid fun _ => .throw fun s hs => hs
  | PARENT_REJECTED => exact .throw hE
  | UNAVAILABLE => exact .throw hE
  | VALID =>
    exact .guard hE fun _ => .pure fun s hs => hs

theorem preauthenticate_triple :
    Triple (Unchanged c) (preauthenticate hash prev)
      (fun _ s => Unchanged c s ∧ prev ∈ c.blocks ∧
        IsDrivechainHeaderAuthenticated (c.block prev)) (Unchanged c) := by
  refine get_again fun s hs => ?_
  obtain rfl : s.chain = c := hs
  refine .check fun hprev => ?_
  refine .check fun hauth => ?_
  refine .bind world_unchanged fun w => ?_
  refine .check fun _ => ?_
  refine .bind (authenticateBlock_triple (fun _ hs => hs) (.pure fun _ hs => hs))
    fun anchor => ?_
  refine .check fun _ => ?_
  refine .bind world_unchanged fun deposits => ?_
  refine .check fun _ => ?_
  refine .bind world_unchanged fun header => ?_
  refine .check fun _ => .pure fun s hs => ?_
  exact ⟨hs, not_not.1 hprev, not_not.1 hauth⟩

theorem checkAnchorContinuity_triple {anchor : DrivechainAnchor} {E : Activation → Prop}
    (hE : ∀ s, Unchanged c s → E s) :
    Triple (Unchanged c) (checkAnchorContinuity hash anchor) (fun _ => Unchanged c) E := by
  refine get_again fun s hs => ?_
  obtain rfl : s.chain = c := hs
  refine .guard hE fun _ => ?_
  refine .guard hE fun _ => ?_
  exact (Triple.failIf hE).mono (fun _ hs => hs) (fun _ _ hs => hs.1) fun _ hs => hs

section Store

variable (hmem : hash ∈ c.blocks) (hdata : (c.block hash).haveData = false)
include hmem hdata

theorem markFailed_triple :
    Triple (Unchanged c) (onChain (·.markFailed [hash]))
      (fun _ s => ReflGen AcceptMove c s.chain) (fun s => ReflGen AcceptMove c s.chain) := by
  refine onChain_triple fun s hs => ?_
  obtain rfl : s.chain = c := hs
  exact .single (.reject hmem hdata)

theorem orMarkFailed_triple {verdict : CheckVerdict} {error : String} :
    Triple (Unchanged c) (orMarkFailed verdict hash error) (fun _ => Unchanged c)
      (fun s => ReflGen AcceptMove c s.chain) := by
  cases verdict with
  | passed => exact .pure fun _ hs => hs
  | invalid => exact .bind (markFailed_triple hmem hdata) fun _ => .throw fun _ hs => hs
  | undecided => exact .throw fun s hs => hs ▸ .refl

theorem storeBlock_triple (hfailed : (c.block hash).failed = false)
    (preauthenticated : Option DrivechainAnchor) :
    Triple (Unchanged c) (storeBlock hash preauthenticated)
      (fun _ s => ReflGen AcceptMove c s.chain) (fun s => ReflGen AcceptMove c s.chain) := by
  have hE : ∀ s, Unchanged c s → ReflGen AcceptMove c s.chain := fun s hs => hs ▸ .refl
  refine .bind world_unchanged fun w => ?_
  refine .bind (orMarkFailed_triple hmem hdata) fun _ => ?_
  refine .bind (Q := fun _ => Unchanged c) ?_ fun anchor => ?_
  · cases preauthenticated with
    | some anchor => exact .pure fun _ hs => hs
    | none => exact authenticateBlock_triple hE (markFailed_triple hmem hdata)
  refine .bind (checkAnchorContinuity_triple hE) fun _ => ?_
  refine .bind world_unchanged fun deposits => ?_
  refine .bind (orMarkFailed_triple hmem hdata) fun _ => ?_
  refine .bind world_unchanged fun disk => ?_
  refine .bind (Triple.failIf hE) fun _ => onChain_triple fun s hs => ?_
  obtain rfl : s.chain = c := hs.1
  exact .single (.store hmem hdata hfailed)

end Store

/-- **Accepting a block** makes a few moves, whether it succeeds or not. -/
theorem acceptBlock_moves (c : Chainstate) (hash prev : Uint256) :
    Triple (Unchanged c) (acceptBlock hash prev)
      (fun _ s => ReflTransGen AcceptMove c s.chain)
      (fun s => ReflTransGen AcceptMove c s.chain) := by
  have hE : ∀ s, Unchanged c s → ReflTransGen AcceptMove c s.chain := fun s hs => hs ▸ .refl
  refine get_again fun s hs => ?_
  obtain rfl : s.chain = c := hs
  refine .ite (fun hmem => ?_) fun hnew => ?_
  · refine .guard hE fun hfailed => ?_
    refine .ite (fun _ => .pure hE) fun hdata => ?_
    refine (storeBlock_triple hmem (by simpa using hdata) (by simpa using hfailed) none).mono
      (fun _ hs => hs) (fun _ _ hs => hs.to_reflTransGen) fun _ hs => hs.to_reflTransGen
  · refine .bind_and (preauthenticate_triple.mono (fun _ hs => hs) (fun _ _ hs => hs) hE)
      fun anchor ⟨hprev, hauth⟩ => ?_
    have henter : AcceptMove s.chain (s.chain.addToBlockIndex hash prev) := .enter hnew hprev hauth
    refine .bind (Q := fun _ => Unchanged (s.chain.addToBlockIndex hash prev)) ?_ fun _ => ?_
    · refine onChain_triple fun u hu => ?_
      change u.chain.addToBlockIndex hash prev = _
      rw [hu]
    · have hblock := BlockMap.block_addToBlockIndex (x := hash) hnew hprev
      rw [if_pos rfl] at hblock
      refine (storeBlock_triple ?_ ?_ ?_ (some anchor)).mono (fun _ hs => hs)
        (fun _ _ hs => ?_) fun _ hs => ?_
      · exact (BlockMap.mem_addToBlockIndex hnew hprev).2 (.inl rfl)
      · exact congrArg CBlockIndex.haveData hblock
      · exact congrArg CBlockIndex.failed hblock
      · exact .head henter hs.to_reflTransGen
      · exact .head henter hs.to_reflTransGen

/-! ### Connecting -/

/-- The anchor of a block is one step long and follows the anchor of the predecessor. -/
def Chainstate.AnchorFits (c : Chainstate) (b : Uint256) : Prop :=
  (c.block b).nHeight ≠ 0 → ∃ anchor, (c.block b).drivechainAnchor = some anchor ∧
    anchor.bmmHeight = anchor.parentHeight + 1 ∧
    ∀ p, (c.block b).pprev = some p → (c.block p).nHeight ≠ 0 →
      ∃ previous, (c.block p).drivechainAnchor = some previous ∧ anchor.Follows previous

/-- Connect a block, and forget the candidates that are worse. -/
def Chainstate.connected (c : Chainstate) (b : Uint256) : Chainstate :=
  Chainstate.pruneBlockIndexCandidates { c with tip := some b }

/-- Disconnect a block. -/
def Chainstate.disconnected (c : Chainstate) (t : Uint256) : Chainstate :=
  { c with tip := (c.block t).pprev }

/-- What a step from the old tip towards a candidate can do on its way. -/
inductive ActivateMove (oldTip : Option Uint256) (m : Uint256) (c : Chainstate) : Chainstate → Prop
  | disconnect {t old : Uint256} (htip : c.tip = some t) (hold : oldTip = some old)
      (hmem : t ∈ c.blocks.ancestry old) : ActivateMove oldTip m c (c.disconnected t)
  | connect {b : Uint256} (hb : b ∈ c.blocks.ancestry m) (htip : c.tip = (c.block b).pprev)
      (hanchor : c.AnchorFits b) : ActivateMove oldTip m c (c.connected b)

theorem ActivateMove.blocks {oldTip : Option Uint256} {c' : Chainstate}
    (h : ActivateMove oldTip m c c') : c'.blocks = c.blocks := by
  cases h <;> rfl

/-- How a step ends: on its way, or at a block that is invalid or not supported at the moment. -/
inductive StepEnded (m : Uint256) (c : Chainstate) (s : Activation) : Prop
  | done (h : s.chain = c)
  | invalid {b : Uint256} (hb : b ∈ c.blocks.ancestry m) (htip : c.tip = (c.block b).pprev)
      (h : s.chain = c.invalidBlockFound b) (hfound : s.invalidFound = true)
  | suppressed {b : Uint256} (hb : b ∈ c.blocks.ancestry m) (htip : c.tip = (c.block b).pprev)
      (h : s.chain = c.suppress b) (hstalled : s.stalled = true)

theorem connectAnchor_triple {context : DrivechainBmmBlockContext}
    (hheight : context.bmmHeight = context.parentHeight + 1) :
    Triple (Unchanged c) (connectAnchor b context) (fun _ s => Unchanged c s ∧ c.AnchorFits b)
      (Unchanged c) := by
  refine .bind world_unchanged fun derived => ?_
  refine .check fun _ => ?_
  refine get_again fun s hs => ?_
  obtain rfl : s.chain = c := hs
  refine .check fun _ => ?_
  refine .check fun _ => ?_
  refine .check fun hsame => ?_
  refine .check fun hunanchored => ?_
  refine (Triple.failIf fun _ hs => hs).mono (fun _ hs => hs) (fun _ u hu => ⟨hu.1, ?_⟩)
    fun _ hs => hs
  intro _
  refine ⟨makeDrivechainAnchor context, not_not.1 hsame, hheight, fun p hp hpos => ?_⟩
  cases hprevious : (s.chain.block p).drivechainAnchor with
  | none => exact absurd ⟨p, hp, Nat.pos_of_ne_zero hpos, hprevious⟩ hunanchored
  | some previous =>
    refine ⟨previous, rfl, ?_⟩
    by_contra hnot
    exact hu.2 ⟨p, hp, previous, hprevious, hnot⟩

/-- What connecting a block can lead to. -/
def ConnectResult (c : Chainstate) (b : Uint256) : ConnectOutcome → Activation → Prop
  | .connected, s => s.chain = { c with tip := some b } ∧ c.AnchorFits b
  | .stalled, s => s.chain = c ∨ s.chain = c.suppress b
  | .invalid, s => s.chain = c ∨ s.chain = c.invalidBlockFound b

theorem rejectBlock_triple {mutated : Bool} {E : Activation → Prop} :
    Triple (Unchanged c) (rejectBlock b mutated) (ConnectResult c b) E := by
  refine .bind (onChain_triple (Q := fun _ s => s.chain = c ∨ s.chain = c.invalidBlockFound b)
    fun s hs => ?_) fun _ => .pure fun s hs => hs
  obtain rfl : s.chain = c := hs
  cases mutated with
  | true => exact .inl rfl
  | false => exact .inr rfl

theorem connectChecked_triple (hfits : c.AnchorFits b) :
    Triple (Unchanged c) (connectChecked b) (ConnectResult c b) (Unchanged c) := by
  refine .bind world_unchanged fun w => ?_
  cases w.connectBlock with
  | failed error => exact .throw fun s hs => hs
  | invalid mutated => exact rejectBlock_triple
  | connected =>
    refine .bind (onChain_triple (Q := fun _ => ConnectResult c b .connected)
      fun s hs => ?_) fun _ => .pure fun s hs => hs
    obtain rfl : s.chain = c := hs
    exact ⟨rfl, hfits⟩

theorem connectTipBlock_triple {context : Option DrivechainBmmBlockContext}
    (hnone : context = none → (c.block b).nHeight = 0)
    (hheight : ∀ x ∈ context, x.bmmHeight = x.parentHeight + 1) :
    Triple (Unchanged c) (connectTipBlock b context) (ConnectResult c b) (Unchanged c) := by
  refine .bind world_unchanged fun parent => ?_
  refine .ite (fun _ => .pure fun s hs => .inl hs) fun _ => ?_
  cases context with
  | none => exact connectChecked_triple fun hne => absurd (hnone rfl) hne
  | some context =>
    exact .bind (connectAnchor_triple (hheight context rfl)) fun _ =>
      Triple.assume connectChecked_triple

theorem connectTip_triple :
    Triple (Unchanged c) (connectTip b) (ConnectResult c b) (Unchanged c) := by
  have hsuppress : Triple (Unchanged c) (do
      onChain (·.suppress b)
      return .stalled) (ConnectResult c b) (Unchanged c) := by
    refine .bind (onChain_triple (Q := fun _ s => s.chain = c.suppress b) fun s hs => ?_)
      fun _ => .pure fun s hs => .inr hs
    obtain rfl : s.chain = c := hs
    rfl
  refine .bind world_unchanged fun disk => ?_
  refine .check fun _ => ?_
  refine get_again fun s hs => ?_
  obtain rfl : s.chain = c := hs
  refine .ite (fun hzero => connectTipBlock_triple (fun _ => hzero) nofun) fun _ => ?_
  refine .bind world_unchanged fun derived => ?_
  refine .check fun _ => ?_
  refine .bind world_unchanged fun w => ?_
  simp only
  cases hstatus : (w.bmmReads b).status with
  | INVALID => exact rejectBlock_triple
  | PARENT_REJECTED => exact hsuppress
  | UNAVAILABLE => exact hsuppress
  | VALID =>
    refine connectTipBlock_triple nofun fun x hx => ?_
    obtain rfl := Option.some.inj hx
    exact (bmmStatus_eq_valid hstatus).1

/-! ### Towards a candidate -/

section Step

variable {oldTip : Option Uint256} {m : Uint256}

/-- A step that has begun at a chainstate has ended. -/
def StepDone (oldTip : Option Uint256) (m : Uint256) (c : Chainstate) (s : Activation) : Prop :=
  ∃ c', ReflTransGen (ActivateMove oldTip m) c c' ∧ StepEnded m c' s

/-- What the moves keep, and the two ways to end at a block, holds behind a step. -/
@[elab_as_elim]
theorem StepDone.invariant {I : Chainstate → Prop} {s : Activation} (h : StepDone oldTip m c s)
    (hc : I c) (move : ∀ c c', I c → ActivateMove oldTip m c c' → I c')
    (invalid : ∀ c b, I c → b ∈ c.blocks.ancestry m → c.tip = (c.block b).pprev →
      I (c.invalidBlockFound b))
    (suppressed : ∀ c b, I c → b ∈ c.blocks.ancestry m → c.tip = (c.block b).pprev →
      I (c.suppress b)) : I s.chain := by
  obtain ⟨c', hmoves, hended⟩ := h
  have hc' : I c' := by
    clear hended
    induction hmoves with
    | refl => exact hc
    | tail _ hmove ih => exact move _ _ ih hmove
  cases hended with
  | done h => exact h ▸ hc'
  | invalid hb htip h _ => exact h ▸ invalid c' _ hc' hb htip
  | suppressed hb htip h _ => exact h ▸ suppressed c' _ hc' hb htip

/-- A step is on its way. -/
def OnTheWay (oldTip : Option Uint256) (m : Uint256) (c : Chainstate) (s : Activation) : Prop :=
  ReflTransGen (ActivateMove oldTip m) c s.chain

theorem blocks_of_moves {c' : Chainstate} (h : ReflTransGen (ActivateMove oldTip m) c c') :
    c'.blocks = c.blocks := by
  induction h with
  | refl => rfl
  | tail _ hmove ih => exact hmove.blocks.trans ih

theorem connectPath_triple (l : List Uint256) :
    Triple (fun s => OnTheWay oldTip m c s ∧ c.blocks.forest.Climbs s.chain.tip l ∧
        ∀ b ∈ l, b ∈ c.blocks.ancestry m)
      (connectPath oldTip l) (fun _ => StepDone oldTip m c) (StepDone oldTip m c) := by
  induction l with
  | nil => exact .pure fun s hs => ⟨_, hs.1, .done rfl⟩
  | cons b l ih =>
    rintro s ⟨hway, ⟨hpprev, hclimbs⟩, hmem⟩
    have hblocks := blocks_of_moves hway
    have hb : b ∈ s.chain.blocks.ancestry m := hblocks ▸ hmem b List.mem_cons_self
    have htip : s.chain.tip = (s.chain.block b).pprev := by
      rw [Chainstate.block, hblocks]
      exact hpprev.symm
    have hstay : ∀ u : Activation, u.chain = s.chain → StepDone oldTip m c u :=
      fun u hu => ⟨_, hway, .done hu⟩
    refine Triple.bind (P := Unchanged s.chain) (connectTip_triple.mono (fun _ hu => hu)
      (fun _ _ hu => hu) hstay) (fun outcome => ?_) s rfl
    cases outcome with
    | invalid =>
      refine .modify fun u hu => ?_
      obtain hu | hu := hu
      · exact hstay _ hu
      · exact ⟨_, hway, .invalid hb htip hu rfl⟩
    | stalled =>
      refine stall_triple fun u hu => ?_
      obtain hu | hu := hu
      · exact hstay _ hu
      · exact ⟨_, hway, .suppressed hb htip hu rfl⟩
    | connected =>
      refine .bind (Q := fun _ u => u.chain = s.chain.connected b ∧ s.chain.AnchorFits b)
        (onChain_triple fun u hu => ?_) fun _ => get_triple fun u hu => ?_
      · refine ⟨?_, hu.2⟩
        change u.chain.pruneBlockIndexCandidates = _
        rw [hu.1, Chainstate.connected]
      · obtain ⟨hu, hfits⟩ := hu
        have hmove : OnTheWay oldTip m c u := by
          rw [OnTheWay, hu]
          exact hway.tail (.connect hb htip hfits)
        refine .ite (fun _ => .pure ?_) fun _ => ih.pre ?_
        · rintro _ rfl
          exact ⟨_, hmove, .done rfl⟩
        · rintro _ rfl
          refine ⟨hmove, ?_, fun x hx => hmem x (List.mem_cons_of_mem _ hx)⟩
          rw [hu]
          exact hclimbs

theorem disconnectTip_triple {t : Uint256} (htip : c.tip = some t) :
    Triple (Unchanged c) disconnectTip (fun _ => Unchanged (c.disconnected t)) (Unchanged c) := by
  refine .bind world_unchanged fun w => ?_
  refine .bind (Triple.failIf fun _ hs => hs) fun _ => onChain_triple fun s hs => ?_
  obtain rfl : s.chain = c := hs.1
  simp only [Unchanged, Chainstate.disconnected, htip, Option.bind_some]

/-- While the tip is being disconnected down to a fork that is on the chain. -/
structure Descending (oldTip : Option Uint256) (m : Uint256) (c : Chainstate)
    (fork : Option Uint256) (n : ℕ) (s : Activation) : Prop where
  onTheWay : OnTheWay oldTip m c s
  /-- The fork has not been passed. -/
  fork_mem : ∀ f ∈ fork, f ∈ s.chain.active
  /-- The tip is on the old chain. -/
  tip_mem : ∀ t ∈ s.chain.tip, ∃ old, oldTip = some old ∧ t ∈ s.chain.blocks.ancestry old
  /-- So many steps are enough. -/
  length_le : s.chain.active.length ≤ n

theorem Chainstate.active_eq_nil {c : Chainstate} : c.active = [] ↔ c.tip = none := by
  constructor
  · intro h
    cases htip : c.tip with
    | none => rfl
    | some t =>
      rw [active_tip htip] at h
      exact absurd h nofun
  · intro h
    rw [active, h]
    rfl

theorem Descending.eq_none {fork : Option Uint256} {n : ℕ} {s : Activation}
    (h : Descending oldTip m c fork n s) (htip : s.chain.tip = none) : fork = none := by
  rw [Option.eq_none_iff_forall_not_mem]
  intro f hf
  have := h.fork_mem f hf
  rw [Chainstate.active_eq_nil.2 htip] at this
  exact absurd this List.not_mem_nil

theorem disconnectTo_triple {fork : Option Uint256} (n : ℕ) :
    Triple (Descending oldTip m c fork n) (disconnectTo fork n)
      (fun _ s => OnTheWay oldTip m c s ∧ s.chain.tip = fork) (OnTheWay oldTip m c) := by
  -- by induction on the bound, which is at least the length of the chain
  induction n with
  | zero =>
    refine .pure fun s hs => ⟨hs.onTheWay, ?_⟩
    have htip := Chainstate.active_eq_nil.1 (List.length_eq_zero_iff.1 (Nat.le_zero.1 hs.length_le))
    rw [htip, hs.eq_none htip]
  | succ n ih =>
    refine get_triple fun s hs => .ite (fun hstop => .pure ?_) fun hgo => ?_
    · rintro _ rfl
      refine ⟨hs.onTheWay, ?_⟩
      obtain htip | htip := hstop
      · rw [htip, hs.eq_none htip]
      · exact htip
    · obtain ⟨hsome, hne⟩ := not_or.1 hgo
      obtain ⟨t, htip⟩ := Option.ne_none_iff_exists'.1 hsome
      obtain ⟨old, hold, hmem⟩ := hs.tip_mem t htip
      have hactive := Chainstate.active_tip htip
      refine .bind ((disconnectTip_triple htip).mono (by rintro _ rfl; rfl)
        (fun _ u hu => hu) fun u hu => ?_) fun _ => ih.pre fun u hu => ?_
      · rw [OnTheWay, (hu : u.chain = s.chain)]
        exact hs.onTheWay
      · obtain hu : u.chain = s.chain.disconnected t := hu
        have hactive' : u.chain.active = s.chain.blocks.forest.chain (s.chain.block t).pprev := by
          rw [hu]
          rfl
        refine ⟨?_, fun f hf => ?_, fun p hp => ?_, ?_⟩
        · rw [OnTheWay, hu]
          exact hs.onTheWay.tail (.disconnect htip hold hmem)
        · have hf' := hs.fork_mem f hf
          rw [hactive, List.mem_cons] at hf'
          rw [hactive']
          refine hf'.resolve_left ?_
          rintro rfl
          exact hne (htip.trans hf.symm)
        · rw [hu] at hp ⊢
          exact ⟨old, hold, Forest.mem_ancestry_trans hmem (Forest.parent_mem_ancestry hp)⟩
        · have := hs.length_le
          rw [hactive, List.length_cons] at this
          rw [hactive']
          omega

/-- **A step towards a candidate** makes a few moves, whether it succeeds or not. -/
theorem activateBestChainStep_moves (c : Chainstate) (m : Uint256) :
    Triple (Unchanged c) (activateBestChainStep m) (fun _ => StepDone c.tip m c)
      (StepDone c.tip m c) := by
  refine get_triple fun s hs => ?_
  obtain rfl : s.chain = c := hs
  refine .bind (((disconnectTo_triple (m := m) (c := s.chain) _).pre ?_).mono
    (fun _ hu => hu) (fun _ _ hu => hu) fun u hu => ⟨_, hu, .done rfl⟩) fun _ =>
    (connectPath_triple _).pre fun u hu => ⟨hu.1, ?_, fun b hb => ?_⟩
  · rintro _ rfl
    refine ⟨.refl, fun f hf => ?_, fun t ht => ⟨t, ht, Forest.self_mem_ancestry t⟩, le_rfl⟩
    simpa using List.find?_some hf
  · rw [hu.2]
    exact Forest.climbs_branch _ _
  · exact (Forest.mem_branch.1 (List.mem_reverse.1 hb)).1

end Step

end ElementsDrivechain
