import Mathlib.Data.List.Chain
import ElementsDrivechain.Bmm.Closure

/-!
# Connecting and disconnecting the state of the parent chain

Connecting a block of the public signet checks its proof against the stored state and stores the
state after it.  Nothing is kept for the undo: disconnecting a block checks the proof again, and
stores the state that the proof started from.

* `connect_cases` : the three things that a connection does.
* `disconnect_connect` : a block that was connected can be disconnected.
* `bmm_connect_disconnect` : **disconnecting blocks in reverse order restores the state.**
-/

namespace ElementsDrivechain

open Fallible

/-- The first block of the public sidechain. -/
def PUBLIC_SIDECHAIN_BLOCK_1 : Uint256 :=
  .ofNat 0x942f31cb89241342064af42a0367405eef490061d2ffe259a6f34d4939dee543

/-- The only block that may follow it. -/
def PUBLIC_SIDECHAIN_BLOCK_2 : Uint256 :=
  .ofNat 0xce77dfe3b037f2e62624da0ee5e33ae3c23b8b18ddf3b87a687bb372a8406998

/-- A network of the sidechain. -/
structure BmmNetwork extends BmmVerifier where
  drivechainSlot : Option UInt8 := none
  peggedAsset : Uint256

section Model

variable (N : BmmNetwork) (previous : Option Child.CBlockIndex)

/-- The predecessor is the given block. -/
def PreviousIs (hash : Uint256) : Prop := ∃ index ∈ previous, index.hash = hash
deriving Decidable

/-- A block needs a proof after the given one. -/
def BmmProofRequiredAfter : Prop :=
  N.drivechainSlot = none ∧
    ∃ index ∈ previous, index.hash = PUBLIC_SIDECHAIN_BLOCK_2 ∨ index.HasBmmProof
deriving Decidable

/-- Which headers commit to a proof. -/
def checkBmmHeader (block : Child.CBlock) (allowIncompleteCandidate : Bool) :
    Except String Unit :=
  if N.drivechainSlot.isSome then
    rejectIf (block.HasBmmProof ∨ block.hashBmmProof ≠ 0)
      "historical signet BMM proof is not valid on native Elements"
  else if previous.isNone then pure ()
  else do
    rejectIf (PreviousIs previous PUBLIC_SIDECHAIN_BLOCK_1 ∧ block.hash ≠ PUBLIC_SIDECHAIN_BLOCK_2)
      "public-signet height 2 does not match its immutable checkpoint"
    rejectIf (BmmProofRequiredAfter N previous ∧ ¬block.HasBmmProof)
      "public-signet descendant does not signal deterministic BMM proof"
    rejectIf (BmmProofRequiredAfter N previous ∧ block.hashBmmProof = 0 ∧
      ¬allowIncompleteCandidate) "deterministic BMM header has no proof commitment"
    rejectIf (¬BmmProofRequiredAfter N previous ∧ block.HasBmmProof)
      "deterministic BMM proof cannot activate outside the public-signet checkpoint"

/-- The stored state, or that of the public checkpoint right above it. -/
def getEffectiveBmmState (view : CCoinsView) : Except String BmmL1State := do
  rejectIf N.drivechainSlot.isSome
    "native Elements requires its authenticated parent replay, not signet BMM state"
  match ← getBmmState N.peggedAsset view with
  | some state => return state
  | none =>
    if PreviousIs previous PUBLIC_SIDECHAIN_BLOCK_2 then return layerTwoLabsInitialBmmState
    else throw "authenticated BMM parent-chain state is missing"

/-- The block is that of the public checkpoint. -/
def IsPublicCheckpoint (block : Child.CBlock) : Prop :=
  block.hash = PUBLIC_SIDECHAIN_BLOCK_2 ∧ PreviousIs previous PUBLIC_SIDECHAIN_BLOCK_1
deriving Decidable

/-- A block that is still to be mined has no proof yet. -/
def IsIncompleteCandidate (block : Child.CBlock) : Prop :=
  block.HasBmmProof ∧ block.hashBmmProof = 0 ∧ block.bmmProof = []
deriving Decidable

/-- Connect a block. -/
def connectBmmState (block : Child.CBlock) (view : CCoinsView) (height : ℤ)
    (allowIncompleteCandidate : Bool) : Except String CCoinsView :=
  if N.drivechainSlot.isSome then do
    checkBmmHeader N previous block false
    rejectIf (block.bmmProof ≠ [] ∨ (view.accessCoin BMM_STATE_OUTPOINT).isSome)
      "historical signet BMM state is not valid on native Elements"
    return view
  else if IsPublicCheckpoint previous block then do
    let existing ← getBmmState N.peggedAsset view
    rejectIf existing.isSome "public BMM checkpoint cannot overwrite existing parent-chain state"
    return setBmmState N.peggedAsset view layerTwoLabsInitialBmmState height
  else if ¬BmmProofRequiredAfter N previous ∧ ¬block.HasBmmProof then return view
  else if allowIncompleteCandidate ∧ IsIncompleteCandidate block then return view
  else do
    let previousState ← getEffectiveBmmState N previous view
    let nextState ← verifyBmmProof N.toBmmVerifier layerTwoLabsBmmConsensus block previousState
    return setBmmState N.peggedAsset view nextState height

/-- Disconnect a block. -/
def disconnectBmmState (block : Child.CBlock) (view : CCoinsView) (height : ℤ) :
    Except String CCoinsView :=
  if IsPublicCheckpoint previous block then do
    let current ← getBmmState N.peggedAsset view
    rejectIf (current ≠ some layerTwoLabsInitialBmmState)
      "public BMM checkpoint state is inconsistent during disconnect"
    return view.spendCoin BMM_STATE_OUTPOINT
  else if ¬block.HasBmmProof then return view
  else do
    let proof ← deserializeBmmProof block.bmmProof
    let current ← getBmmState N.peggedAsset view
    let current ← orReject current "cannot disconnect BMM proof without authenticated state"
    let parentHash ← extractSidechainParentHash block
    let expectedNext ← verifyBmmProofEntries N.toBmmVerifier layerTwoLabsBmmConsensus proof
      block.bmmCriticalHash parentHash
    rejectIf (current ≠ expectedNext) "BMM state is inconsistent during disconnect"
    return setBmmState N.peggedAsset view proof.previousState (height - 1)

end Model

/-! ### What is stored -/

variable {N : BmmNetwork} {previous : Option Child.CBlockIndex} {block : Child.CBlock}
  {view view' : CCoinsView} {height : ℤ}

theorem getBmmState_spendCoin :
    getBmmState N.peggedAsset (view.spendCoin BMM_STATE_OUTPOINT) = .ok none := by
  rw [getBmmState, CCoinsView.spendCoin_self]

theorem validState_initial : ValidState layerTwoLabsBmmConsensus layerTwoLabsInitialBmmState := by
  decide

/-- The proof of a block keeps the height in its range and has headers with hashes. -/
def InRange (N : BmmNetwork) (block : Child.CBlock) : Prop :=
  ∀ proof, deserializeBmmProof block.bmmProof = .ok proof →
    proof.previousState.height.toNat + proof.entries.length < 2 ^ 32 ∧
      ∀ entry ∈ proof.entries, ∀ header,
        N.codec.merkleBlock entry.coinbaseProof = some header →
          N.hashing.headerHash header.header ≠ 0

/-- **The three things that a connection does**: it stores the state of the public checkpoint, it
does nothing, or it stores the state after the proof of the block. -/
inductive Connection (N : BmmNetwork) (previous : Option Child.CBlockIndex) (block : Child.CBlock)
    (view : CCoinsView) (height : ℤ) : CCoinsView → Prop
  | checkpoint (h : IsPublicCheckpoint previous block)
      (hview : getBmmState N.peggedAsset view = .ok none) :
      Connection N previous block view height
        (setBmmState N.peggedAsset view layerTwoLabsInitialBmmState height)
  | skip (h : ¬IsPublicCheckpoint previous block) (hproof : ¬block.HasBmmProof) :
      Connection N previous block view height view
  | proof (h : ¬IsPublicCheckpoint previous block) (hproof : block.HasBmmProof) (proof : BmmProof)
      (parentHash : Uint256) (next : BmmL1State)
      (hstate : getEffectiveBmmState N previous view = .ok proof.previousState)
      (hdeserialize : deserializeBmmProof block.bmmProof = .ok proof)
      (hparent : extractSidechainParentHash block = .ok parentHash)
      (hverify : verifyBmmProofEntries N.toBmmVerifier layerTwoLabsBmmConsensus proof
        block.bmmCriticalHash parentHash = .ok next) :
      Connection N previous block view height (setBmmState N.peggedAsset view next height)

theorem connect_cases {allow : Bool} (hslot : N.drivechainSlot = none)
    (hcomplete : ¬(allow = true ∧ IsIncompleteCandidate block))
    (h : connectBmmState N previous block view height allow = .ok view') :
    Connection N previous block view height view' := by
  rw [connectBmmState, hslot, if_neg (by simp)] at h
  split_ifs at h with hcheckpoint hskip
  · simp only [bind_eq_ok, rejectIf_eq_ok, pure_eq_ok] at h
    obtain ⟨existing, hexisting, _, hnone, rfl⟩ := h
    rw [Option.not_isSome_iff_eq_none.1 hnone] at hexisting
    exact .checkpoint hcheckpoint hexisting
  · obtain rfl := pure_eq_ok.1 h
    exact .skip hcheckpoint hskip.2
  · simp only [verifyBmmProof, bind_eq_ok, rejectIf_eq_ok, pure_eq_ok] at h
    obtain ⟨state, hstate, next, ⟨_, hcommit, proof, hproof, _, hprevious, parentHash, hparent,
      hverify⟩, rfl⟩ := h
    obtain rfl := not_not.1 hprevious
    exact .proof hcheckpoint (not_not.1 (not_or.1 hcommit).1) proof parentHash next hstate hproof
      hparent hverify

theorem connectBmmState_of_proof {state next : BmmL1State} (hslot : N.drivechainSlot = none)
    (hcheckpoint : ¬IsPublicCheckpoint previous block) (hproof : block.HasBmmProof)
    (hstate : getEffectiveBmmState N previous view = .ok state)
    (hverify : verifyBmmProof N.toBmmVerifier layerTwoLabsBmmConsensus block state = .ok next) :
    connectBmmState N previous block view height false =
      .ok (setBmmState N.peggedAsset view next height) := by
  rw [connectBmmState, if_neg (by simp [hslot]), if_neg hcheckpoint, if_neg (by simp [hproof]),
    if_neg (by simp)]
  simp only [bind_eq_ok, pure_eq_ok]
  exact ⟨state, hstate, next, hverify, rfl⟩

/-- **A block that was connected can be disconnected**, whatever else has changed.  Then the state
before it is read, or that of the public checkpoint where none was stored. -/
theorem disconnect_connect (hrange : InRange N block)
    (h : Connection N previous block view height view') {current : CCoinsView}
    (hcurrent : getBmmState N.peggedAsset current = getBmmState N.peggedAsset view') :
    ∃ restored, disconnectBmmState N previous block current height = .ok restored ∧
      (getBmmState N.peggedAsset restored = getBmmState N.peggedAsset view ∨
        getBmmState N.peggedAsset view = .ok none ∧
        getBmmState N.peggedAsset restored = .ok (some layerTwoLabsInitialBmmState) ∧
        PreviousIs previous PUBLIC_SIDECHAIN_BLOCK_2) := by
  cases h with
  | checkpoint hcheckpoint hview =>
    rw [getBmmState_setBmmState validState_initial] at hcurrent
    refine ⟨current.spendCoin BMM_STATE_OUTPOINT, ?_, .inl ?_⟩
    · simp [disconnectBmmState, hcheckpoint, hcurrent, rejectIf, bind, Except.bind, pure,
        Except.pure]
    · rw [hview, getBmmState_spendCoin]
  | skip hcheckpoint hproof =>
    refine ⟨current, ?_, .inl hcurrent⟩
    rw [disconnectBmmState, if_neg hcheckpoint, if_pos hproof]
    rfl
  | proof hcheckpoint hproof proof parentHash next hstate hdeserialize hparent hverify =>
    obtain ⟨hheight, hhashes⟩ := hrange proof hdeserialize
    obtain ⟨headers, -, hnext⟩ := verifyBmmProofEntries_advanced hverify (by decide) hheight hhashes
    have hvalid := (verifyBmmProofEntries_eq_ok hverify).1
    rw [getBmmState_setBmmState hnext.valid] at hcurrent
    refine ⟨setBmmState N.peggedAsset current proof.previousState (height - 1), ?_, ?_⟩
    · rw [disconnectBmmState, if_neg hcheckpoint, if_neg (not_not.2 hproof)]
      simp only [bind_eq_ok, rejectIf_eq_ok, orReject_eq_ok, pure_eq_ok]
      exact ⟨proof, hdeserialize, some next, hcurrent, next, rfl, parentHash, hparent, next,
        hverify, (), by simp, rfl⟩
    · rw [getBmmState_setBmmState hvalid]
      simp only [getEffectiveBmmState, bind_eq_ok, rejectIf_eq_ok] at hstate
      obtain ⟨_, -, stored, hstored, hstate⟩ := hstate
      cases stored with
      | some state =>
        obtain rfl := pure_eq_ok.1 hstate
        exact .inl hstored.symm
      | none =>
        split_ifs at hstate with hprevious
        · obtain hinitial := pure_eq_ok.1 hstate
          exact .inr ⟨hstored, by rw [hinitial], hprevious⟩

/-! ### Runs -/

/-- A block with its place in the chain. -/
structure BmmBlock where
  block : Child.CBlock
  previous : Option Child.CBlockIndex
  height : ℤ
  /-- The block may be a candidate without a proof. -/
  allowIncompleteCandidate : Bool := false

namespace BmmBlock

/-- The block has all that it needs. -/
def Complete (b : BmmBlock) : Prop :=
  ¬(b.allowIncompleteCandidate = true ∧ IsIncompleteCandidate b.block)

/-- A block follows another. -/
def Follows (b b' : BmmBlock) : Prop := PreviousIs b'.previous b.block.hash

/-- Nothing but the first public block comes before the second one. -/
def AtCheckpoint (b : BmmBlock) : Prop :=
  b.block.hash = PUBLIC_SIDECHAIN_BLOCK_2 → PreviousIs b.previous PUBLIC_SIDECHAIN_BLOCK_1
deriving Decidable

variable (N) in
/-- Blocks are connected one after the other.  Between two of them the rest of the chainstate may
change. -/
abbrev Connected : CCoinsView → List BmmBlock → CCoinsView → Prop :=
  Run fun view b view' => ∃ connected, b.Complete ∧
    connectBmmState N b.previous b.block view b.height b.allowIncompleteCandidate = .ok connected ∧
    view'.accessCoin BMM_STATE_OUTPOINT = connected.accessCoin BMM_STATE_OUTPOINT

variable (N) in
/-- Blocks are disconnected one after the other. -/
abbrev Disconnected : CCoinsView → List BmmBlock → CCoinsView → Prop :=
  Run fun view b view' => ∃ disconnected,
    disconnectBmmState N b.previous b.block view b.height = .ok disconnected ∧
    view'.accessCoin BMM_STATE_OUTPOINT = disconnected.accessCoin BMM_STATE_OUTPOINT

variable {b b' : BmmBlock} {blocks : List BmmBlock} {final current restored : CCoinsView}

theorem getBmmState_congr {v w : CCoinsView}
    (h : v.accessCoin BMM_STATE_OUTPOINT = w.accessCoin BMM_STATE_OUTPOINT) :
    getBmmState N.peggedAsset v = getBmmState N.peggedAsset w := by
  rw [getBmmState, getBmmState, h]

/-- After the block of the public checkpoint its state is stored. -/
theorem state_of_checkpoint (hslot : N.drivechainSlot = none) (hcheckpoint : b.AtCheckpoint)
    (hhash : b.block.hash = PUBLIC_SIDECHAIN_BLOCK_2) (h : Connected N view [b] view') :
    getBmmState N.peggedAsset view' = .ok (some layerTwoLabsInitialBmmState) := by
  obtain ⟨connected, hcomplete, hconnect, hrecord⟩ := Run.singleton_iff.1 h
  rw [getBmmState_congr hrecord]
  cases connect_cases hslot hcomplete hconnect with
  | checkpoint => exact getBmmState_setBmmState validState_initial _ _ _
  | skip h _ => exact absurd ⟨hhash, hcheckpoint hhash⟩ h
  | proof h _ _ _ _ _ _ _ => exact absurd ⟨hhash, hcheckpoint hhash⟩ h

/-- Two blocks that follow one another have the hash that the second one names. -/
theorem Follows.hash_eq {hash : Uint256} (h : b.Follows b')
    (hprevious : PreviousIs b'.previous hash) : b.block.hash = hash := by
  obtain ⟨index, hindex, hb⟩ := h
  obtain ⟨index', hindex', rfl⟩ := hprevious
  obtain rfl := Option.some.inj (hindex.symm.trans hindex')
  exact hb.symm

/-- The blocks of a run follow one another, and their proofs stay in range. -/
structure WellFormed (N : BmmNetwork) (blocks : List BmmBlock) : Prop where
  /-- Each block is put on the one before. -/
  follows : blocks.IsChain Follows
  checkpoint : ∀ b ∈ blocks, b.AtCheckpoint
  range : ∀ b ∈ blocks, InRange N b.block

/-- The state before the blocks is read again, or that of the public checkpoint where none was
stored. -/
def Restored (N : BmmNetwork) (view : CCoinsView) (blocks : List BmmBlock)
    (restored : CCoinsView) : Prop :=
  getBmmState N.peggedAsset restored = getBmmState N.peggedAsset view ∨
    getBmmState N.peggedAsset view = .ok none ∧
    getBmmState N.peggedAsset restored = .ok (some layerTwoLabsInitialBmmState) ∧
    ∃ b ∈ blocks.head?, PreviousIs b.previous PUBLIC_SIDECHAIN_BLOCK_2

theorem restored_of_disconnected (hslot : N.drivechainSlot = none)
    (hrun : Connected N view blocks final) : ∀ current, WellFormed N blocks →
      Disconnected N current blocks.reverse restored →
      getBmmState N.peggedAsset current = getBmmState N.peggedAsset final →
      Restored N view blocks restored := by
  refine Run.history hrun ?_ ?_
  · intro current _ hundo hcurrent
    obtain rfl := Run.nil_iff.1 hundo
    exact .inl hcurrent
  · rintro blocks before b final hbefore ih ⟨connected, hcomplete, hconnect, hrecord⟩ current
      hblocks hundo hcurrent
    rw [List.reverse_append, List.reverse_singleton, List.singleton_append] at hundo
    obtain ⟨mid, ⟨disconnected, hdisconnect, hmid⟩, hundo⟩ := Run.cons_iff.1 hundo
    obtain ⟨hfollows, -, hlast⟩ := List.isChain_append.1 hblocks.follows
    have hwell : WellFormed N blocks := ⟨hfollows,
      fun x hx => hblocks.checkpoint x (List.mem_append_left _ hx),
      fun x hx => hblocks.range x (List.mem_append_left _ hx)⟩
    obtain ⟨d, hd, hstate⟩ := disconnect_connect (hblocks.range b (by simp))
      (connect_cases hslot hcomplete hconnect) (hcurrent.trans (getBmmState_congr hrecord))
    obtain rfl := Except.ok.inj (hd.symm.trans hdisconnect)
    rw [← getBmmState_congr hmid] at hstate
    rcases hstate with hsame | ⟨hnone, hinitial, hprevious⟩
    · rcases ih mid hwell hundo hsame with h | ⟨h₁, h₂, x, hx, h₃⟩
      · exact .inl h
      · exact .inr ⟨h₁, h₂, x, by simp [Option.mem_def.1 hx], h₃⟩
    · -- a block before this one would be that of the checkpoint, and would have stored its state
      rcases List.eq_nil_or_concat blocks with rfl | ⟨blocks', u, rfl⟩
      · obtain rfl := Run.nil_iff.1 hbefore
        obtain rfl := Run.nil_iff.1 hundo
        exact .inr ⟨hnone, hinitial, b, by simp, hprevious⟩
      · rw [List.concat_eq_append] at hbefore hwell hlast
        have hu : u.block.hash = PUBLIC_SIDECHAIN_BLOCK_2 :=
          Follows.hash_eq (hlast u (by simp) b (by simp)) hprevious
        obtain ⟨_, -, hstep⟩ := Run.snoc_iff.1 hbefore
        have := state_of_checkpoint hslot (hwell.checkpoint u (by simp)) hu
          (Run.singleton_iff.2 hstep)
        rw [hnone] at this
        cases this

theorem WellFormed.tail (h : WellFormed N (b :: blocks)) : WellFormed N blocks where
  follows := (List.isChain_cons.1 h.follows).2
  checkpoint x hx := h.checkpoint x (List.mem_cons_of_mem b hx)
  range x hx := h.range x (List.mem_cons_of_mem b hx)

/-- The first block of a run can be disconnected when all the others have been. -/
theorem disconnect_first (hslot : N.drivechainSlot = none)
    (hrun : Connected N view (b :: blocks) final) (hblocks : WellFormed N (b :: blocks))
    (hundo : Disconnected N final blocks.reverse current) :
    ∃ restored, disconnectBmmState N b.previous b.block current b.height = .ok restored ∧
      getEffectiveBmmState N b.previous restored = getEffectiveBmmState N b.previous view := by
  obtain ⟨mid, hfirst, hrest⟩ := Run.cons_iff.1 hrun
  have hcurrent : getBmmState N.peggedAsset current = getBmmState N.peggedAsset mid := by
    rcases restored_of_disconnected hslot hrest final hblocks.tail hundo rfl with
      h | ⟨hnone, -, x, hx, hprevious⟩
    · exact h
    · have hb : b.block.hash = PUBLIC_SIDECHAIN_BLOCK_2 :=
        Follows.hash_eq ((List.isChain_cons.1 hblocks.follows).1 x hx) hprevious
      have := state_of_checkpoint hslot (hblocks.checkpoint b (by simp)) hb
        (Run.singleton_iff.2 hfirst)
      rw [hnone] at this
      cases this
  obtain ⟨connected, hcomplete, hconnect, hrecord⟩ := hfirst
  obtain ⟨restored, hdisconnect, hstate⟩ := disconnect_connect (hblocks.range b (by simp))
    (connect_cases hslot hcomplete hconnect) (hcurrent.trans (getBmmState_congr hrecord))
  refine ⟨restored, hdisconnect, ?_⟩
  unfold getEffectiveBmmState
  rcases hstate with h | ⟨hnone, hinitial, hprevious⟩
  · rw [h]
  · rw [hnone, hinitial]
    simp [hslot, hprevious, rejectIf, bind, Except.bind]

/-- All blocks of a run can be disconnected. -/
theorem exists_disconnected (hslot : N.drivechainSlot = none)
    (hrun : Connected N view blocks final) (hblocks : WellFormed N blocks) :
    ∃ restored, Disconnected N final blocks.reverse restored := by
  induction blocks generalizing view with
  | nil => exact ⟨final, .nil⟩
  | cons b blocks ih =>
    obtain ⟨_, -, hrest⟩ := Run.cons_iff.1 hrun
    obtain ⟨current, hundo⟩ := ih hrest hblocks.tail
    obtain ⟨restored, hrestored, -⟩ := disconnect_first hslot hrun hblocks hundo
    rw [List.reverse_cons]
    exact ⟨restored, hundo.snoc ⟨restored, hrestored, rfl⟩⟩

end BmmBlock

/-- **Disconnecting blocks in reverse order restores the state.**  Blocks that were connected one
after the other on a network without a slot can all be disconnected, last block first, and the
effective state is then the one that was reported before.  However all but the first have been
disconnected, the first can be disconnected too, with the same result. -/
theorem bmm_connect_disconnect (N : BmmNetwork) (hslot : N.drivechainSlot = none)
    (view final : CCoinsView) (b : BmmBlock) (blocks : List BmmBlock)
    (hrun : BmmBlock.Connected N view (b :: blocks) final)
    (hblocks : BmmBlock.WellFormed N (b :: blocks)) :
    (∃ restored, BmmBlock.Disconnected N final (b :: blocks).reverse restored ∧
      getEffectiveBmmState N b.previous restored = getEffectiveBmmState N b.previous view) ∧
    ∀ current, BmmBlock.Disconnected N final blocks.reverse current →
      ∃ restored, disconnectBmmState N b.previous b.block current b.height = .ok restored ∧
        getEffectiveBmmState N b.previous restored = getEffectiveBmmState N b.previous view := by
  obtain ⟨_, -, hrest⟩ := Run.cons_iff.1 hrun
  obtain ⟨current, hundo⟩ := BmmBlock.exists_disconnected hslot hrest hblocks.tail
  obtain ⟨restored, hrestored, hstate⟩ := BmmBlock.disconnect_first hslot hrun hblocks hundo
  refine ⟨⟨restored, ?_, hstate⟩, fun _ => BmmBlock.disconnect_first hslot hrun hblocks⟩
  rw [List.reverse_cons]
  exact hundo.snoc ⟨restored, hrestored, rfl⟩

/-! ### The height wraps -/

namespace Sample

/-- A network whose parent chain goes on after the given state. -/
def bmmNetwork (state : BmmL1State) : BmmNetwork where
  toBmmVerifier := bmmVerifier state.blockHash
  peggedAsset := .ofByte 1

/-- The block of the public checkpoint. -/
def bmmCheckpointBlock : BmmBlock where
  block := { hash := PUBLIC_SIDECHAIN_BLOCK_2, vtx := [] }
  previous := some { hash := PUBLIC_SIDECHAIN_BLOCK_1, nHeight := 1 }
  height := 2

/-- A block that proves one header after a state. -/
def bmmProofBlock (state : BmmL1State) : BmmBlock where
  block := {
    nVersion := Child.CBlockHeader.BMM_PROOF_HF_MASK
    hash := .ofByte 3
    hashBmmProof := .ofByte 8
    bmmCriticalHash := .ofByte 9
    vtx := [{ vin := []
              vout := [{ nAsset := .null, nValue := .null
                         scriptPubKey := Native.singlePushScript state.blockHash.data }]
              vout_length_lt := (by decide : 1 < 2 ^ 32) }]
    bmmProof := (bmmProof state).serialize }
  previous := some { hash := PUBLIC_SIDECHAIN_BLOCK_2, nHeight := 2 }
  height := 3

/-- A state at the last height that a word holds. -/
def lastBmmState : BmmL1State :=
  { layerTwoLabsInitialBmmState with height := 4294967295, periodStartHeight := 4294967040 }

/-- The chainstate with that state. -/
def lastBmmView : CCoinsView := setBmmState (.ofByte 1) .empty lastBmmState 2

/-- The state after one more header, at height zero. -/
def wrappedBmmState : BmmL1State :=
  lastBmmState.extend (bmmVerifier lastBmmState.blockHash) layerTwoLabsBmmConsensus
    (bmmHeader lastBmmState.blockHash)

end Sample

open Sample

/-- At the last height of a word, the state after one more header cannot be read back. -/
theorem disconnectBmmState_height_wraps :
    let network := bmmNetwork lastBmmState
    let b := bmmProofBlock lastBmmState
    ∃ connected, connectBmmState network b.previous b.block lastBmmView b.height false =
        .ok connected ∧
      disconnectBmmState network b.previous b.block connected b.height =
        .error "BMM parent-chain state is malformed" := by
  intro network b
  refine ⟨setBmmState network.peggedAsset lastBmmView wrappedBmmState b.height,
    ?_, ?_⟩
  · have hstate : getEffectiveBmmState network b.previous lastBmmView =
        .ok lastBmmState := by decide +kernel
    have hverify : verifyBmmProof network.toBmmVerifier layerTwoLabsBmmConsensus b.block
        lastBmmState = .ok wrappedBmmState := by decide +kernel
    exact connectBmmState_of_proof rfl (by decide) (by decide) hstate hverify
  · have hread : getBmmState network.peggedAsset (setBmmState network.peggedAsset
        lastBmmView wrappedBmmState b.height) =
        .error "BMM parent-chain state is malformed" := by decide +kernel
    have hproof : deserializeBmmProof b.block.bmmProof =
        .ok (bmmProof lastBmmState) := by decide +kernel
    rw [disconnectBmmState, if_neg (by decide), if_neg (by decide), hproof]
    simp only [bind, Except.bind]
    rw [hread]

/-- The public checkpoint and the first block with a proof are connected and disconnected. -/
theorem bmm_connect_disconnect_sample :
    let network := bmmNetwork layerTwoLabsInitialBmmState
    let checkpoint := bmmCheckpointBlock
    let b := bmmProofBlock layerTwoLabsInitialBmmState
    ∃ final current, BmmBlock.Connected network .empty [checkpoint, b] final ∧
      BmmBlock.Disconnected network final [b] current ∧
      ∃ restored, disconnectBmmState network checkpoint.previous checkpoint.block current
          checkpoint.height = .ok restored ∧
        getEffectiveBmmState network checkpoint.previous restored =
          .error "authenticated BMM parent-chain state is missing" := by
  intro network checkpoint b
  let first := setBmmState network.peggedAsset .empty layerTwoLabsInitialBmmState 2
  let next := layerTwoLabsInitialBmmState.extend network.toBmmVerifier layerTwoLabsBmmConsensus
    (bmmHeader layerTwoLabsInitialBmmState.blockHash)
  let final := setBmmState network.peggedAsset first next 3
  have hb : connectBmmState network b.previous b.block first b.height false = .ok final :=
    connectBmmState_of_proof rfl (by decide) (by decide) (by decide +kernel :
      getEffectiveBmmState network b.previous first = .ok layerTwoLabsInitialBmmState)
      (by decide +kernel)
  have hrun : BmmBlock.Connected network .empty [checkpoint, b] final :=
    Run.cons_iff.2 ⟨first, ⟨first, by simp [BmmBlock.Complete, checkpoint,
      bmmCheckpointBlock], by rfl, rfl⟩, Run.singleton_iff.2 ⟨final, by
        simp [BmmBlock.Complete, b, bmmProofBlock], hb, rfl⟩⟩
  have hrange : ∀ x ∈ [checkpoint, b], InRange network x.block := by
    intro x hx proof hproof
    rcases List.mem_pair.1 hx with rfl | rfl
    · cases hproof
    · have hsample : deserializeBmmProof b.block.bmmProof =
          .ok (bmmProof layerTwoLabsInitialBmmState) := by decide +kernel
      obtain rfl := Except.ok.inj (hsample.symm.trans hproof)
      refine ⟨by decide, ?_⟩
      rintro entry - header -
      exact (by decide : Uint256.ofByte 7 ≠ 0)
  have hblocks : BmmBlock.WellFormed network [checkpoint, b] :=
    ⟨by simp [BmmBlock.Follows, PreviousIs, checkpoint, b, bmmCheckpointBlock,
      bmmProofBlock], by decide, hrange⟩
  obtain ⟨current, hcurrent, -⟩ := disconnect_connect (hrange b (by simp))
    (connect_cases rfl (by simp) hb) rfl
  have hundo : BmmBlock.Disconnected network final [b] current :=
    Run.singleton_iff.2 ⟨current, hcurrent, rfl⟩
  obtain ⟨-, hfirst⟩ := bmm_connect_disconnect network rfl .empty final checkpoint [b] hrun hblocks
  obtain ⟨restored, hrestored, hstate⟩ := hfirst current hundo
  exact ⟨final, current, hrun, hundo, restored, hrestored, hstate.trans rfl⟩

end ElementsDrivechain
