import Mathlib.Data.List.Sort
import ElementsDrivechain.Parent.Messages

/-!
# The replayed parent state

What a node remembers of the parent chain while it replays it: for every sidechain slot the active
proposal, the pending proposals, the pending withdrawal bundles and the current treasury output
(the *CTIP*) with its value, and for the slot of this sidechain when its required proposal became
active.

The configured slot keeps its data in the top-level fields and every other slot in a map.  The
functions below read and write one slot wherever it is kept; everything later goes through them.

* `slotState_updateSlot` : a slot sees exactly the updates made to it.
* `mem_activeDrivechainSlots` : the list of active slots is what it says.
-/

namespace ElementsDrivechain

/-- An ordered map. -/
abbrev OrdMap (κ ν : Type) [Ord κ] := Std.ExtTreeMap κ ν compare

/-! ### Parameters -/

/-- How many withdrawals of the configured slot one parent block may carry. -/
inductive DrivechainM6ReplayRule
  | SINGLE_CONFIGURED_SLOT_M6
  | SEQUENTIAL_M6
deriving DecidableEq, Repr

/-- The constants of a replay. -/
structure ReplayParameters where
  /-- The slot of this sidechain. -/
  sidechainSlot : ℤ
  /-- The hash of the proposal that has to be active there. -/
  requiredActiveProposal : Uint256
  /-- The age limit of a proposal for a free slot, and the votes it has to exceed. -/
  unusedSlotProposalMaxAge : ℕ
  unusedSlotActivationThreshold : ℕ
  /-- The same for a slot that is in use. -/
  usedSlotProposalMaxAge : ℕ
  usedSlotActivationThreshold : ℕ
  withdrawalBundleMaxAge : ℕ
  /-- The votes a bundle has to exceed to be paid. -/
  withdrawalBundleInclusionThreshold : ℕ
  treasuryOpcode : TreasuryOpcode := .NOP5
  m6Rule : DrivechainM6ReplayRule := .SINGLE_CONFIGURED_SLOT_M6
deriving DecidableEq

/-- The byte of the configured slot. -/
def ReplayParameters.configuredSlot (P : ReplayParameters) : UInt8 := slotByte P.sidechainSlot

/-! ### State -/

/-- A sidechain proposal waiting for acknowledgements. -/
structure DrivechainPendingProposal where
  proposalHeight : ℕ := 0
  votes : ℕ := 0
deriving DecidableEq, Repr

/-- A withdrawal bundle waiting for votes. -/
structure DrivechainPendingWithdrawal where
  m6id : Uint256
  proposalHeight : ℕ := 0
  votes : ℕ := 0
deriving DecidableEq

/-- The two effective votes. -/
inductive DrivechainM4ActionType
  | UPVOTE
  | ALARM
deriving DecidableEq, Repr

/-- What an M4 did to one slot, kept for the message that repeats it. -/
structure DrivechainM4Action where
  type : DrivechainM4ActionType := .ALARM
  m6id : Uint256 := 0
deriving DecidableEq

/-- The data of one slot. -/
structure DrivechainOtherSlotReplayState where
  /-- The hash of the active proposal, zero when there is none. -/
  activeProposalHash : Uint256 := 0
  pendingProposals : OrdMap Uint256 DrivechainPendingProposal := ∅
  /-- Bundles in chronological order, which is the order M4 counts them in. -/
  pendingWithdrawals : List DrivechainPendingWithdrawal := []
  /-- The current treasury output and its value. -/
  ctip : Option COutPoint := none
  ctipValue : ℤ := 0
deriving DecidableEq

/-- The replayed state; the configured slot keeps its data in the top-level fields. -/
structure DrivechainParentReplayState where
  activeProposalHash : Uint256 := 0
  /-- The required proposal has become active, in the block given by the next two fields. -/
  requiredProposalActivated : Bool := false
  requiredActivationHeight : ℕ := 0
  requiredActivationBlockHash : Uint256 := 0
  pendingProposals : OrdMap Uint256 DrivechainPendingProposal := ∅
  pendingWithdrawals : List DrivechainPendingWithdrawal := []
  ctip : Option COutPoint := none
  ctipValue : ℤ := 0
  otherSlots : OrdMap UInt8 DrivechainOtherSlotReplayState := ∅
  /-- What the last M4 did, slot by slot. -/
  previousM4Actions : OrdMap UInt8 DrivechainM4Action := ∅
deriving DecidableEq

/-! ### One slot -/

/-- The treasury output of a slot and its value do not fit together. -/
def CtipMalformed (ctip : Option COutPoint) (ctipValue : ℤ) : Prop :=
  (ctip.isSome ∧ ¬MoneyRange ctipValue) ∨ (ctip = none ∧ ctipValue ≠ 0)
deriving Decidable

/-- The data of the configured slot. -/
def DrivechainParentReplayState.configuredData (state : DrivechainParentReplayState) :
    DrivechainOtherSlotReplayState where
  activeProposalHash := state.activeProposalHash
  pendingProposals := state.pendingProposals
  pendingWithdrawals := state.pendingWithdrawals
  ctip := state.ctip
  ctipValue := state.ctipValue

/-- The data of a slot, wherever it is kept.  A slot that is not in the map is empty. -/
def slotState (state : DrivechainParentReplayState) (configuredSlot slot : UInt8) :
    DrivechainOtherSlotReplayState :=
  if slot = configuredSlot then state.configuredData else state.otherSlots.getD slot {}

/-- The bundles that are pending for a slot. -/
abbrev queue (s : DrivechainParentReplayState) (cfg slot : UInt8) :
    List DrivechainPendingWithdrawal :=
  (slotState s cfg slot).pendingWithdrawals

/-- Replace the data of a slot. -/
def setSlotState (state : DrivechainParentReplayState) (configuredSlot slot : UInt8)
    (data : DrivechainOtherSlotReplayState) : DrivechainParentReplayState :=
  if slot = configuredSlot then
    { state with
      activeProposalHash := data.activeProposalHash
      pendingProposals := data.pendingProposals
      pendingWithdrawals := data.pendingWithdrawals
      ctip := data.ctip
      ctipValue := data.ctipValue }
  else { state with otherSlots := state.otherSlots.insert slot data }

/-- Change the data of a slot.  Naming a slot that is not in the map creates it, as indexing the
map of the other slots does, so even the identity update leaves an entry. -/
def updateSlot (state : DrivechainParentReplayState) (configuredSlot slot : UInt8)
    (f : DrivechainOtherSlotReplayState → DrivechainOtherSlotReplayState) :
    DrivechainParentReplayState :=
  setSlotState state configuredSlot slot (f (slotState state configuredSlot slot))

section Slot

variable {state : DrivechainParentReplayState} {cfg slot slot' : UInt8}
  {data : DrivechainOtherSlotReplayState}
  {f : DrivechainOtherSlotReplayState → DrivechainOtherSlotReplayState}

theorem slotState_setSlotState :
    slotState (setSlotState state cfg slot data) cfg slot' =
      if slot' = slot then data else slotState state cfg slot' := by
  unfold slotState setSlotState
  by_cases h : slot' = slot
  · subst h
    split_ifs <;> simp_all [DrivechainParentReplayState.configuredData]
  · have h' : ¬slot = slot' := fun he => h he.symm
    split_ifs <;>
      simp_all [Std.ExtTreeMap.getD_insert, DrivechainParentReplayState.configuredData]

theorem slotState_updateSlot :
    slotState (updateSlot state cfg slot f) cfg slot' =
      if slot' = slot then f (slotState state cfg slot) else slotState state cfg slot' :=
  slotState_setSlotState

@[simp] theorem slotState_updateSlot_self :
    slotState (updateSlot state cfg slot f) cfg slot = f (slotState state cfg slot) := by
  simp [slotState_updateSlot]

theorem slotState_updateSlot_of_ne (h : slot' ≠ slot) :
    slotState (updateSlot state cfg slot f) cfg slot' = slotState state cfg slot' := by
  simp [slotState_updateSlot, h]

theorem updateSlot_updateSlot
    {g : DrivechainOtherSlotReplayState → DrivechainOtherSlotReplayState} :
    updateSlot (updateSlot state cfg slot f) cfg slot g = updateSlot state cfg slot (g ∘ f) := by
  have h : slotState (updateSlot state cfg slot f) cfg slot = f (slotState state cfg slot) :=
    slotState_updateSlot_self
  rw [updateSlot, h]
  unfold updateSlot setSlotState
  split_ifs
  · rfl
  · simp only [Function.comp_apply]
    congr 1
    refine Std.ExtTreeMap.ext_getElem? fun k => ?_
    simp only [Std.ExtTreeMap.getElem?_insert]
    split_ifs <;> rfl

end Slot

/-- Two states that differ at most in the data of their slots. -/
structure SameFrame (cfg : UInt8) (state state' : DrivechainParentReplayState) : Prop where
  requiredProposalActivated : state'.requiredProposalActivated = state.requiredProposalActivated
  requiredActivationHeight : state'.requiredActivationHeight = state.requiredActivationHeight
  requiredActivationBlockHash :
    state'.requiredActivationBlockHash = state.requiredActivationBlockHash
  previousM4Actions : state'.previousM4Actions = state.previousM4Actions
  /-- The configured slot is kept apart from the others in both or in neither. -/
  mem_otherSlots : cfg ∈ state'.otherSlots ↔ cfg ∈ state.otherSlots

namespace SameFrame

variable {cfg slot : UInt8} {s t u : DrivechainParentReplayState}
  {f : DrivechainOtherSlotReplayState → DrivechainOtherSlotReplayState}

@[refl] theorem refl (s : DrivechainParentReplayState) : SameFrame cfg s s :=
  ⟨rfl, rfl, rfl, rfl, .rfl⟩

theorem trans (h : SameFrame cfg s t) (h' : SameFrame cfg t u) : SameFrame cfg s u where
  requiredProposalActivated := h'.1.trans h.1
  requiredActivationHeight := h'.2.trans h.2
  requiredActivationBlockHash := h'.3.trans h.3
  previousM4Actions := h'.4.trans h.4
  mem_otherSlots := h'.5.trans h.5

theorem updateSlot : SameFrame cfg s (updateSlot s cfg slot f) := by
  unfold ElementsDrivechain.updateSlot setSlotState
  split_ifs with h
  · exact ⟨rfl, rfl, rfl, rfl, .rfl⟩
  · exact ⟨rfl, rfl, rfl, rfl, by simp [h]⟩

end SameFrame

section Configured

variable {state : DrivechainParentReplayState} {cfg : UInt8}

@[simp] theorem slotState_configured : slotState state cfg cfg = state.configuredData := by
  simp [slotState]

theorem slotState_of_ne {slot : UInt8} (h : slot ≠ cfg) :
    slotState state cfg slot = state.otherSlots.getD slot {} := by
  simp [slotState, h]

theorem slotState_of_getElem? {slot : UInt8} {data : DrivechainOtherSlotReplayState}
    (h : slot ≠ cfg) (hdata : state.otherSlots[slot]? = some data) :
    slotState state cfg slot = data := by
  rw [slotState_of_ne h, Std.ExtTreeMap.getD_eq_getD_getElem?, hdata]
  rfl

end Configured

theorem mem_of_slotState_ne {state : DrivechainParentReplayState} {cfg slot : UInt8}
    (h : slotState state cfg slot ≠ {}) : slot ∈ cfg :: state.otherSlots.keys := by
  by_contra hmem
  rw [List.mem_cons, Std.ExtTreeMap.mem_keys, not_or] at hmem
  rw [slotState, if_neg hmem.1] at h
  exact h (Std.ExtTreeMap.getD_eq_fallback hmem.2)

/-! ### Active slots -/

/-- The slots with an active proposal, in ascending order. -/
def activeDrivechainSlots (state : DrivechainParentReplayState) (configuredSlot : UInt8) :
    List UInt8 :=
  ((if state.activeProposalHash ≠ 0 then [configuredSlot] else []) ++
    (state.otherSlots.filter fun _ data => data.activeProposalHash ≠ 0).keys).insertionSort (· ≤ ·)

section Active

variable {state : DrivechainParentReplayState} {cfg slot : UInt8}

theorem mem_keys_filter_otherSlots {p : UInt8 → DrivechainOtherSlotReplayState → Bool} :
    slot ∈ (state.otherSlots.filter p).keys ↔ ∃ data, state.otherSlots[slot]? = some data ∧
      p slot data := by
  rw [Std.ExtTreeMap.mem_keys, Std.ExtTreeMap.mem_iff_isSome_getElem?,
    Std.ExtTreeMap.getElem?_filter', Option.isSome_iff_exists]
  simp [Option.filter_eq_some_iff]

/-- A slot is listed as active exactly when it has an active proposal. -/
theorem mem_activeDrivechainSlots (h : cfg ∉ state.otherSlots) :
    slot ∈ activeDrivechainSlots state cfg ↔ (slotState state cfg slot).activeProposalHash ≠ 0 := by
  unfold activeDrivechainSlots slotState
  rw [List.mem_insertionSort, List.mem_append, mem_keys_filter_otherSlots]
  by_cases hs : slot = cfg
  · subst hs
    have hnone : state.otherSlots[slot]? = none := Std.ExtTreeMap.getElem?_eq_none h
    split_ifs <;> simp_all [DrivechainParentReplayState.configuredData]
  · rw [if_neg hs, Std.ExtTreeMap.getD_eq_getD_getElem?]
    cases state.otherSlots[slot]? <;> split_ifs <;> simp [hs]

theorem nodup_activeDrivechainSlots (h : cfg ∉ state.otherSlots) :
    (activeDrivechainSlots state cfg).Nodup := by
  unfold activeDrivechainSlots
  rw [(List.perm_insertionSort _ _).nodup_iff]
  have hnot : cfg ∉ (state.otherSlots.filter fun _ data => data.activeProposalHash ≠ 0).keys := by
    rw [mem_keys_filter_otherSlots, Std.ExtTreeMap.getElem?_eq_none h]
    simp
  split_ifs
  · exact List.nodup_cons.2 ⟨hnot, Std.ExtTreeMap.nodup_keys⟩
  · exact Std.ExtTreeMap.nodup_keys

end Active

end ElementsDrivechain
