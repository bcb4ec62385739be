import ElementsDrivechain.Deterministic.Evidence

/-!
# The treasury record

The chainstate keeps the latest treasury output in a record.  A deposit is accepted when its
evidence starts from that output, and then replaces it.  Two deposits of the past are accepted
without evidence, as checkpoints; they start the record.

* `Deterministic.Deposit.connect_of_verify` : what connecting a deposit does.
* `Deterministic.Deposit.disconnect_eq` : what disconnecting it does.
-/

namespace ElementsDrivechain.Deterministic

open Fallible

/-! ### The record -/

/-- The bytes of `drivechain-ctip-v1`. -/
def CTIP_STATE_MARKER : Bytes :=
  [100, 114, 105, 118, 101, 99, 104, 97, 105, 110, 45, 99, 116, 105, 112, 45, 118, 49]

namespace CtipState

/-- The bytes of a state. -/
def serialize (state : CtipState) : Bytes :=
  state.outpoint.hash.data ++ (writeLE 4 state.outpoint.n ++ (writeInt64 state.value ++
    writeInt64 state.sequenceNumber))

/-- Read a state. -/
def deserialize : Reader CtipState := do
  let hash ← Reader.uint256
  let n ← Reader.number 4
  let value ← Reader.int64
  let sequenceNumber ← Reader.int64
  return {
    outpoint := { hash := hash, n := n }
    value := value
    sequenceNumber := sequenceNumber }

/-- **A state is read back as it was written.** -/
theorem Fits.reads {state : CtipState} (h : state.Fits) :
    deserialize.Reads state state.serialize := by
  have hvalue : Reader.int64.Reads state.value (writeInt64 state.value) :=
    .int64 ((by decide : (-2 ^ 63 : ℤ) ≤ 0).trans h.value_pos.le) h.value_lt
  have hsequence : Reader.int64.Reads state.sequenceNumber (writeInt64 state.sequenceNumber) :=
    .int64 ((by decide : (-2 ^ 63 : ℤ) ≤ 0).trans h.sequenceNumber_nonneg) h.sequenceNumber_lt
  unfold deserialize serialize
  refine (Reader.Reads.uint256 state.outpoint.hash).bind ?_
  refine (Reader.Reads.number (h.n_lt.trans_eq (by decide))).bind ?_
  refine hvalue.bind ?_
  rw [← List.append_nil (writeInt64 state.sequenceNumber)]
  exact hsequence.bind (Reader.Reads.pure _)

end CtipState

/-- The record of the treasury. -/
def ctipFormat : RecordFormat CtipState where
  what := "drivechain CTIP state"
  undecodable := "persisted drivechain CTIP state payload cannot be decoded"
  marker := CTIP_STATE_MARKER
  serialize := CtipState.serialize
  deserialize := CtipState.deserialize
  check state := rejectIf (state.outpoint.hash = 0 ∨ state.value ≤ 0 ∨ state.sequenceNumber < 0)
    "persisted drivechain CTIP state payload is invalid"

theorem CtipState.Fits.spells {state : CtipState} (h : state.Fits) : ctipFormat.Spells state where
  marker := by decide
  reads := h.reads
  length := by
    simp [ctipFormat, CtipState.serialize, writeInt64, state.outpoint.hash.size_data]

/-! ### The checkpoints -/

/-- A deposit of the past that is accepted without evidence. -/
structure LegacyCheckpoint where
  /-- The transaction that claimed the deposit. -/
  sidechainTxid : Uint256
  parentHash : Uint256
  outpoint : COutPoint
  depositValue : ℤ
  ctipValue : ℤ
  sequenceNumber : ℤ
  destination : Bytes

/-- The two deposits of the past. -/
def LEGACY_CHECKPOINTS : List LegacyCheckpoint :=
  [{ sidechainTxid := .ofNat 0xfeed724d3382997ae6500d8185353e116d557a4f299b58e8f722c1aa400ab730
     parentHash := .ofNat 0x000001d9988239435d51e763fd4231893dad22d7d03048266a5e21361e2db065
     outpoint :=
      ⟨.ofNat 0x7de4aeb747a54bbe6b590d2038f445b9dc995217fb1b4e524c4129cdd0f06bea, 0⟩
     depositValue := 2000
     ctipValue := 14402000
     sequenceNumber := 8
     -- the bytes of "ert1q9263y9nqf2kwjl7hrhsgewefq7859w93z5n8x8"
     destination :=
      [101, 114, 116, 49, 113, 57, 50, 54, 51, 121, 57, 110, 113, 102, 50, 107, 119, 106, 108,
        55, 104, 114, 104, 115, 103, 101, 119, 101, 102, 113, 55, 56, 53, 57, 119, 57, 51, 122,
        53, 110, 56, 120, 56] },
   { sidechainTxid := .ofNat 0x7d78b50fa26e51ca01d1a916820971e46dd6d11e8da7c06571b95d8c6dd4a382
     parentHash := .ofNat 0x00000268748226d792c32914d26f5608a766a13741f3762c35cb053084ac4d1c
     outpoint :=
      ⟨.ofNat 0x010a70b5e1fca8e8433dd2efc7c3b8f0783e98b133bbf03bcbe05cdd29a4edab, 0⟩
     depositValue := 100000
     ctipValue := 14400000
     sequenceNumber := 7
     -- the bytes of "ert1q2d25juv3qvlk90pfsnqed7f9wzzgevp8y2vfmv"
     destination :=
      [101, 114, 116, 49, 113, 50, 100, 50, 53, 106, 117, 118, 51, 113, 118, 108, 107, 57, 48,
        112, 102, 115, 110, 113, 101, 100, 55, 102, 57, 119, 122, 122, 103, 101, 118, 112, 56,
        121, 50, 118, 102, 109, 118] }]

/-- The state that a checkpoint starts. -/
def LegacyCheckpoint.state (checkpoint : LegacyCheckpoint) : CtipState where
  outpoint := checkpoint.outpoint
  value := checkpoint.ctipValue
  sequenceNumber := checkpoint.sequenceNumber

/-- A witness of the older format, without evidence. -/
def IsLegacyDrivechainDepositPeginWitness (stack : Child.CScriptWitness) : Prop :=
  stack.length = 6 ∧ stack.getD 4 [] = ECX_LEGACY_DEPOSIT_MARKER ∧ (stack.getD 5 []).length = 32
deriving Decidable

/-- A claim of a deposit: an input of a transaction in a block at a height. -/
structure Deposit where
  tx : Child.CTransaction
  inputIndex : ℕ := 0
  height : ℤ

namespace Deposit

/-- The parent output that is claimed. -/
def outpoint (d : Deposit) : Option COutPoint := d.tx.vin[d.inputIndex]?.map (·.prevout)

/-- The claim has the witness of a checkpoint. -/
def IsLegacy (d : Deposit) : Prop :=
  ∃ stack ∈ d.tx.peginWitness[d.inputIndex]?, IsLegacyDrivechainDepositPeginWitness stack
deriving Decidable

end Deposit

/-- The checkpoint that a deposit is, if it is one. -/
def findLegacyCheckpoint (d : Deposit) : Option LegacyCheckpoint :=
  if d.IsLegacy then
    LEGACY_CHECKPOINTS.find? fun checkpoint =>
      checkpoint.sidechainTxid = d.tx.hash ∧ some checkpoint.outpoint = d.outpoint
  else none

section Model

variable (N : DepositNetwork)

/-- The coin of the record. -/
def ctipCoin (state : CtipState) (height : ℤ) : Coin := ctipFormat.coin N.peggedAsset state height

/-- The stored state, if there is one. -/
def getCtipState (view : CCoinsView) : Except String (Option CtipState) :=
  match view.accessCoin CTIP_STATE_OUTPOINT with
  | none => .ok none
  | some coin => some <$> ctipFormat.decode N.peggedAsset coin

/-- Store a state. -/
def setCtipState (view : CCoinsView) (state : CtipState) (height : ℤ) : CCoinsView :=
  view.setRecord CTIP_STATE_OUTPOINT (ctipCoin N state height)

/-- A checkpoint needs no evidence, but its witness must have its value. -/
def buildLegacyAuthenticated (d : Deposit) (checkpoint : LegacyCheckpoint) :
    Except String AuthenticatedDeposit := do
  let wrongValue := "historical drivechain checkpoint witness does not match its immutable value"
  let input ← orReject d.tx.vin[d.inputIndex]? wrongValue
  let stack ← orReject d.tx.peginWitness[d.inputIndex]? wrongValue
  let pegin ← orReject (getDrivechainDepositPeginData N.toPegParameters stack input.prevout)
    wrongValue
  rejectIf (pegin.value ≠ checkpoint.depositValue) wrongValue
  let destinationScript ← orReject (N.scriptForDestination checkpoint.destination)
    "historical drivechain checkpoint destination is invalid for this network"
  return {
    outpoint := checkpoint.outpoint
    value := checkpoint.depositValue
    destinationScript := destinationScript }

/-- The check of a claim against the record. -/
def verifyDeterministicDeposit (d : Deposit) (view : CCoinsView) : Except String Unit :=
  match findLegacyCheckpoint d with
  | some checkpoint => do
    let existing ← getCtipState N view
    rejectIf existing.isSome
      "historical drivechain checkpoint cannot overwrite authenticated CTIP state"
    let authenticated ← buildLegacyAuthenticated N d checkpoint
    verifyDepositTransaction N d.tx d.inputIndex authenticated
  | none => do
    rejectIf d.IsLegacy
      "legacy drivechain deposit witness is not an immutable historical checkpoint"
    let parsed ← parseV2Deposit N d.tx d.inputIndex
    let current ← getCtipState N view
    let current ← orReject current "drivechain deposit has no authenticated prior CTIP state"
    rejectIf (current ≠ parsed.previousState)
      "drivechain deposit evidence is stale or does not extend the authenticated CTIP state"
    verifyDepositTransaction N d.tx d.inputIndex parsed.authenticated

/-- Connect a claim. -/
def connectDepositState (d : Deposit) (view : CCoinsView) : Except String CCoinsView :=
  match findLegacyCheckpoint d with
  | some checkpoint => do
    let authenticated ← buildLegacyAuthenticated N d checkpoint
    verifyDepositTransaction N d.tx d.inputIndex authenticated
    return setCtipState N view checkpoint.state d.height
  | none => do
    let parsed ← parseV2Deposit N d.tx d.inputIndex
    let current ← getCtipState N view
    let current ← orReject current
      "cannot connect drivechain deposit over missing authenticated CTIP state"
    rejectIf (current ≠ parsed.previousState)
      "cannot connect drivechain deposit over stale CTIP state"
    return setCtipState N view parsed.nextState d.height

/-- Disconnect a claim. -/
def disconnectDepositState (d : Deposit) (view : CCoinsView) : Except String CCoinsView := do
  let current ← getCtipState N view
  let current ← orReject current
    "cannot disconnect drivechain deposit without authenticated CTIP state"
  match findLegacyCheckpoint d with
  | some checkpoint =>
    rejectIf (current ≠ checkpoint.state)
      "historical drivechain checkpoint CTIP state is inconsistent during disconnect"
    return view.spendCoin CTIP_STATE_OUTPOINT
  | none =>
    let parsed ← parseV2Deposit N d.tx d.inputIndex
    rejectIf (current ≠ parsed.nextState)
      "drivechain deposit CTIP state is inconsistent during disconnect"
    return setCtipState N view parsed.previousState (d.height - 1)

end Model

/-! ### Reading the record -/

variable {N : DepositNetwork} {view view' : CCoinsView} {state : CtipState} {height : ℤ}
  {d : Deposit}

theorem accessCoin_setCtipState (h : state.Fits) :
    (setCtipState N view state height).accessCoin CTIP_STATE_OUTPOINT =
      some (ctipCoin N state height) :=
  CCoinsView.setRecord_self h.spells

theorem getCtipState_eq_some {s : CtipState} (h : state.Fits)
    (hcoin : view.accessCoin CTIP_STATE_OUTPOINT = some (ctipCoin N state height)) :
    getCtipState N view = .ok (some s) ↔ state.outpoint.hash ≠ 0 ∧ state = s := by
  have hcheck : ctipFormat.check state = .ok () ↔ state.outpoint.hash ≠ 0 := by
    change rejectIf _ _ = _ ↔ _
    rw [rejectIf_eq_ok]
    simp [h.value_pos, h.sequenceNumber_nonneg]
  have hdecode : ctipFormat.decode N.peggedAsset (ctipCoin N state height) = .ok s ↔
      ctipFormat.check state = .ok () ∧ state = s := RecordFormat.decode_coin h.spells
  rw [← hcheck, ← hdecode, getCtipState, hcoin]
  change some <$> ctipFormat.decode N.peggedAsset (ctipCoin N state height) = _ ↔ _
  rw [map_eq_ok]
  simp

theorem getCtipState_eq_none :
    getCtipState N view = .ok none ↔ view.accessCoin CTIP_STATE_OUTPOINT = none := by
  unfold getCtipState
  split
  · simp_all
  · next coin hcoin =>
    rw [map_eq_ok]
    simp [hcoin]

theorem hash_ne_zero_of_getCtipState (h : getCtipState N view = .ok (some state)) :
    state.outpoint.hash ≠ 0 := by
  unfold getCtipState at h
  split at h
  · cases h
  · obtain ⟨_, hdecode, hstate⟩ := map_eq_ok.1 h
    obtain rfl := Option.some.inj hstate
    have hcheck : rejectIf _ _ = .ok () := RecordFormat.check_of_decode hdecode
    exact (not_or.1 (rejectIf_eq_ok.1 hcheck)).1

/-! ### What a claim does -/

theorem LegacyCheckpoint.fits {checkpoint : LegacyCheckpoint}
    (h : findLegacyCheckpoint d = some checkpoint) :
    checkpoint.state.Fits ∧ checkpoint.state.outpoint.hash ≠ 0 ∧
      d.outpoint = some checkpoint.state.outpoint := by
  unfold findLegacyCheckpoint at h
  split_ifs at h
  have hfind := List.find?_some h
  have hmem : checkpoint ∈ LEGACY_CHECKPOINTS := List.mem_of_find?_eq_some h
  have hconst : ∀ c ∈ LEGACY_CHECKPOINTS, c.outpoint.n < 2 ^ 32 ∧ 0 < c.ctipValue ∧
      c.ctipValue < 2 ^ 63 ∧ 0 ≤ c.sequenceNumber ∧ c.sequenceNumber < 2 ^ 63 ∧
      c.outpoint.hash ≠ 0 := by decide
  obtain ⟨h₁, h₂, h₃, h₄, h₅, h₆⟩ := hconst checkpoint hmem
  exact ⟨⟨h₁, h₂, h₃, h₄, h₅⟩, h₆, (of_decide_eq_true hfind).2.symm⟩

namespace Deposit

/-- A claim that was checked and connected: a checkpoint starts the record, and a claim with
evidence replaces it. -/
inductive Connection (N : DepositNetwork) (d : Deposit) (view : CCoinsView) : CtipState → Prop
  | checkpoint (checkpoint : LegacyCheckpoint) (hfind : findLegacyCheckpoint d = some checkpoint)
      (hview : view.accessCoin CTIP_STATE_OUTPOINT = none) :
      Connection N d view checkpoint.state
  | claim (parsed : ParsedDeterministicDeposit) (hfind : findLegacyCheckpoint d = none)
      (hparse : parseV2Deposit N d.tx d.inputIndex = .ok parsed)
      (hview : getCtipState N view = .ok (some parsed.previousState))
      (hpays : PaysDeposit N d.tx parsed.authenticated) :
      Connection N d view parsed.nextState

/-- The state that a claim leads to. -/
def next (N : DepositNetwork) (d : Deposit) : CtipState :=
  match findLegacyCheckpoint d with
  | some checkpoint => checkpoint.state
  | none =>
    match parseV2Deposit N d.tx d.inputIndex with
    | .ok parsed => parsed.nextState
    | .error _ => { outpoint := ⟨0, COutPoint.NULL_INDEX⟩ }

/-- **A claim that was checked can be connected.** -/
theorem connect_of_verify (hverify : verifyDeterministicDeposit N d view = .ok ()) :
    Connection N d view (d.next N) ∧
      connectDepositState N d view = .ok (setCtipState N view (d.next N) d.height) := by
  unfold next
  cases hfind : findLegacyCheckpoint d with
  | some checkpoint =>
    simp only [verifyDeterministicDeposit, connectDepositState, hfind, bind_eq_ok, rejectIf_eq_ok,
      pure_eq_ok] at hverify ⊢
    obtain ⟨existing, hexisting, _, hnone, authenticated, hauthenticated, hpays⟩ := hverify
    rw [Option.not_isSome_iff_eq_none.1 hnone] at hexisting
    exact ⟨.checkpoint checkpoint hfind (getCtipState_eq_none.1 hexisting), authenticated,
      hauthenticated, (), hpays, trivial⟩
  | none =>
    simp only [verifyDeterministicDeposit, connectDepositState, hfind, bind_eq_ok, rejectIf_eq_ok,
      orReject_eq_ok, pure_eq_ok] at hverify ⊢
    obtain ⟨_, -, parsed, hparse, _, hcurrent, current, rfl, _, hsame, hpays⟩ := hverify
    obtain rfl := not_not.1 hsame
    rw [hparse]
    exact ⟨.claim parsed hfind hparse hcurrent (verifyDepositTransaction_spec hpays),
      parsed, rfl, _, hcurrent, _, rfl, (), hsame, rfl⟩

variable {next : CtipState}

theorem Connection.fits (h : Connection N d view next) : next.Fits := by
  cases h with
  | checkpoint checkpoint hfind _ => exact (LegacyCheckpoint.fits hfind).1
  | claim parsed _ hparse _ _ =>
    obtain ⟨_, _, hevidence⟩ := parseV2Deposit_spec hparse
    exact hevidence.nextState_fits

theorem Connection.outpoint (h : Connection N d view next) : d.outpoint = some next.outpoint := by
  cases h with
  | checkpoint checkpoint hfind _ => exact (LegacyCheckpoint.fits hfind).2.2
  | claim parsed _ hparse _ _ =>
    obtain ⟨_, _, hevidence⟩ := parseV2Deposit_spec hparse
    exact hevidence.claimed

/-- The record after a claim was disconnected. -/
def undone (N : DepositNetwork) (d : Deposit) : Option Coin :=
  match findLegacyCheckpoint d with
  | some _ => none
  | none =>
    match parseV2Deposit N d.tx d.inputIndex with
    | .ok parsed => some (ctipCoin N parsed.previousState (d.height - 1))
    | .error _ => none

theorem disconnect_record {current restored : CCoinsView}
    (h : disconnectDepositState N d current = .ok restored) :
    restored.accessCoin CTIP_STATE_OUTPOINT = d.undone N := by
  unfold undone
  cases hfind : findLegacyCheckpoint d with
  | some checkpoint =>
    simp only [disconnectDepositState, hfind, bind_eq_ok, pure_eq_ok] at h
    obtain ⟨_, -, _, -, _, -, rfl⟩ := h
    exact CCoinsView.spendCoin_self
  | none =>
    simp only [disconnectDepositState, hfind, bind_eq_ok, pure_eq_ok] at h
    obtain ⟨_, -, _, -, parsed, hparse, _, -, rfl⟩ := h
    obtain ⟨_, _, hevidence⟩ := parseV2Deposit_spec hparse
    rw [accessCoin_setCtipState hevidence.previousState_fits, hparse]

/-- **A claim that was connected can be disconnected** when the record can be read. -/
theorem disconnect_eq {current : CCoinsView} (h : Connection N d view next)
    (hcurrent : getCtipState N current = .ok (some next)) :
    ∃ restored, disconnectDepositState N d current = .ok restored := by
  cases h with
  | checkpoint checkpoint hfind _ =>
    refine ⟨current.spendCoin CTIP_STATE_OUTPOINT, ?_⟩
    simp only [disconnectDepositState, hfind, bind_eq_ok, rejectIf_eq_ok, orReject_eq_ok,
      pure_eq_ok]
    exact ⟨_, hcurrent, _, rfl, by simp⟩
  | claim parsed hfind hparse _ _ =>
    refine ⟨setCtipState N current parsed.previousState (d.height - 1), ?_⟩
    simp only [disconnectDepositState, hfind, bind_eq_ok, rejectIf_eq_ok, orReject_eq_ok,
      pure_eq_ok]
    exact ⟨_, hcurrent, _, rfl, parsed, hparse, by simp⟩

theorem disconnect_state {current restored : CCoinsView}
    (h : disconnectDepositState N d current = .ok restored) :
    ∃ s, getCtipState N current = .ok (some s) := by
  simp only [disconnectDepositState, bind_eq_ok, orReject_eq_ok] at h
  obtain ⟨_, hcurrent, s, rfl, -⟩ := h
  exact ⟨s, hcurrent⟩

end Deposit

end ElementsDrivechain.Deterministic
