import ElementsDrivechain.Parent.Voting

/-!
# Treasury transactions

How the transactions of a parent block move the treasuries of the sidechains.  Each active slot has
at most one current treasury output, its *CTIP*.  A transaction that touches treasuries either pays
into one or more of them (M5) or takes an approved withdrawal bundle out of exactly one (M6).
-/

namespace ElementsDrivechain

open Fallible

/-- A deposit that the sidechain may mint. -/
structure DrivechainMintableDeposit where
  outpoint : COutPoint
  blockHash : Uint256
  blockHeight : ℕ
  /-- The increase of the treasury. -/
  value : ℤ
  /-- The destination as the depositor gave it. -/
  address : Bytes
deriving DecidableEq

/-- A withdrawal bundle that was paid. -/
structure DrivechainSuccessfulWithdrawal where
  sidechainSlot : UInt8
  m6id : Uint256
  blockHeight : ℕ
  blockHash : Uint256
deriving DecidableEq

/-- The eight bytes of a fee, most significant first. -/
def feeBytes (fee : ℤ) : Bytes :=
  (List.range 8).map fun i => UInt8.ofNat (fee.toNat / 256 ^ (7 - i))

/-- Add the payouts of an M6. -/
def addPayout (payout : ℤ) (output : CTxOut) : Except String ℤ := do
  rejectIf (¬MoneyRange output.nValue ∨ output.nValue > MAX_MONEY - payout)
    "BIP300 M6 payout total is outside the money range"
  return payout + output.nValue

/-- The identity and slot of the bundle that a transaction pays from a treasury of the given value:
the id of the transaction without its input and with the fee in place of the treasury output. -/
def computeDrivechainM6Id (H : ParentHashing) (transaction : CTransaction)
    (previousTreasuryValue : ℤ) (opcode : TreasuryOpcode) : Except String (Uint256 × UInt8) :=
  match transaction.vout with
  | [] => throw "BIP300 M6 has no replacement treasury output"
  | treasury :: payouts =>
    match extractTreasurySlot treasury.scriptPubKey opcode with
    | none => throw "BIP300 M6 replacement treasury output is not vout 0"
    | some slot => do
      rejectIf (transaction.vin.length ≠ 1) "BIP300 M6 must contain exactly one treasury input"
      rejectIf (¬MoneyRange previousTreasuryValue ∨ ¬MoneyRange treasury.nValue)
        "BIP300 M6 treasury amount is outside the money range"
      let payout ← payouts.foldlM addPayout 0
      rejectIf (treasury.nValue > previousTreasuryValue ∨
          payout > previousTreasuryValue - treasury.nValue)
        "BIP300 M6 spends more than the previous treasury value"
      let fee := previousTreasuryValue - treasury.nValue - payout
      let blinded : CTransaction :=
        { transaction with
          vin := []
          vout := { nValue := 0, scriptPubKey := OP_RETURN :: 8 :: feeBytes fee } :: payouts }
      return (H.txid blinded, slot)

/-! ### What a transaction does to the treasuries -/

/-- What the transactions of a block have done so far. -/
structure TreasuryLoop where
  state : DrivechainParentReplayState
  deposits : List DrivechainMintableDeposit := []
  derivedWithdrawals : List DrivechainSuccessfulWithdrawal := []
  /-- A withdrawal of the configured slot was paid in this block. -/
  configuredSlotM6Applied : Bool := false

/-- The replacement of one slot's treasury output. -/
structure CtipChange where
  slot : UInt8
  /-- The index of the new treasury output. -/
  outputIndex : ℕ
  oldValue : ℤ
  newValue : ℤ
deriving DecidableEq

/-- Note the current treasury output of one active slot. -/
def collectOwner (state : DrivechainParentReplayState) (configuredSlot : UInt8)
    (owners : OrdMap COutPoint UInt8) (slot : UInt8) : Except String (OrdMap COutPoint UInt8) := do
  let data := slotState state configuredSlot slot
  rejectIf (CtipMalformed data.ctip data.ctipValue) s!"malformed CTIP state for slot {slot}"
  match data.ctip with
  | none => return owners
  | some ctip => do
    rejectIf (ctip ∈ owners) "two drivechain slots share one canonical CTIP"
    return owners.insert ctip slot

/-- Count the input if it spends a treasury. -/
def countSpend (owners : OrdMap COutPoint UInt8) (spends : OrdMap UInt8 ℕ) (input : CTxIn) :
    Except String (OrdMap UInt8 ℕ) :=
  match owners[input.prevout]? with
  | none => return spends
  | some slot => do
    let count := spends.getD slot 0 + 1
    rejectIf (count > 1) s!"parent transaction spends slot {slot} CTIP more than once"
    return spends.insert slot count

/-- Note the output if it is a treasury output of an active slot. -/
def collectTreasuryOutput (opcode : TreasuryOpcode) (activeSlots : List UInt8)
    (created : OrdMap UInt8 ℕ) (output : CTxOut × ℕ) : Except String (OrdMap UInt8 ℕ) :=
  match extractTreasurySlot output.1.scriptPubKey opcode with
  | none => return created
  | some slot =>
    if slot ∉ activeSlots then return created
    else do
      rejectIf (¬MoneyRange output.1.nValue) s!"invalid treasury value for slot {slot}"
      rejectIf (slot ∈ created)
        s!"parent transaction creates multiple treasury outputs for slot {slot}"
      return created.insert slot output.2

/-- The value of an output. -/
def CTransaction.outputValue (transaction : CTransaction) (n : ℕ) : ℤ :=
  (transaction.vout[n]?.map (·.nValue)).getD 0

/-- Compare a new treasury output with the one it replaces. -/
def ctipChange (state : DrivechainParentReplayState) (configuredSlot : UInt8)
    (spends : OrdMap UInt8 ℕ) (transaction : CTransaction) (created : UInt8 × ℕ) :
    Except String CtipChange := do
  let slot := created.1
  let data := slotState state configuredSlot slot
  rejectIf (data.ctip.isSome ∧ spends.getD slot 0 = 0)
    s!"parent transaction creates a parallel treasury output for slot {slot}"
  let oldValue := if data.ctip.isSome then data.ctipValue else 0
  let newValue := transaction.outputValue created.2
  rejectIf (newValue = oldValue) s!"slot {slot} CTIP replacement has zero value delta"
  return { slot := slot, outputIndex := created.2, oldValue := oldValue, newValue := newValue }

/-- The treasuries that a transaction replaces. -/
def ctipChanges (P : ReplayParameters) (state : DrivechainParentReplayState)
    (transaction : CTransaction) : Except String (List CtipChange) := do
  let activeSlots := activeDrivechainSlots state P.configuredSlot
  let owners ← activeSlots.foldlM (collectOwner state P.configuredSlot) ∅
  let spends ← transaction.vin.foldlM (countSpend owners) ∅
  let created ←
    transaction.vout.zipIdx.foldlM (collectTreasuryOutput P.treasuryOpcode activeSlots) ∅
  owners.toList.forM fun (_, slot) =>
    rejectIf (spends.getD slot 0 ≠ 0 ∧ slot ∉ created)
      s!"parent transaction spends slot {slot} CTIP without replacement"
  created.toList.mapM (ctipChange state P.configuredSlot spends transaction)

/-- Record the new treasury output of a slot. -/
def replaceCtip (H : ParentHashing) (transaction : CTransaction) (change : CtipChange)
    (data : DrivechainOtherSlotReplayState) : DrivechainOtherSlotReplayState :=
  { data with
    ctip := some { hash := H.txid transaction, n := change.outputIndex }
    ctipValue := change.newValue }

section Block

variable (P : ReplayParameters) (H : ParentHashing) (height : ℕ) (blockHash : Uint256)

/-- M6: the decrease of one treasury pays an approved bundle. -/
def applyM6 (transaction : CTransaction) (T : TreasuryLoop) (change : CtipChange) :
    Except String TreasuryLoop := do
  let slot := change.slot
  rejectIf (transaction.vin.length ≠ 1 ∨ change.outputIndex ≠ 0)
    "BIP300 M6 must have one input and treasury vout 0"
  let (m6id, m6Slot) ← computeDrivechainM6Id H transaction change.oldValue P.treasuryOpcode
  let bundle := m6id.getHex
  rejectIf (m6Slot ≠ slot) "BIP300 M6 slot changed while deriving its blinded id"
  match (slotState T.state P.configuredSlot slot).pendingWithdrawals.find? (·.m6id = m6id) with
  | none => throw s!"BIP300 M6 {bundle} was never proposed for slot {slot}"
  | some approved => do
    let votes := approved.votes
    let threshold := P.withdrawalBundleInclusionThreshold
    rejectIf (votes ≤ threshold)
      s!"BIP300 M6 {bundle} has {votes} votes, requiring more than {threshold}"
    rejectIf (P.m6Rule = .SINGLE_CONFIGURED_SLOT_M6 ∧ slot = P.configuredSlot ∧
        T.configuredSlotM6Applied)
      s!"parent block contains multiple successful M6 withdrawals for configured slot {slot}"
    return { T with
      state := updateSlot T.state P.configuredSlot slot fun data =>
        replaceCtip H transaction change
          { data with pendingWithdrawals := data.pendingWithdrawals.eraseP (·.m6id = m6id) }
      derivedWithdrawals := T.derivedWithdrawals ++
        [{ sidechainSlot := slot, m6id := m6id, blockHeight := height, blockHash := blockHash }]
      configuredSlotM6Applied := T.configuredSlotM6Applied || slot = P.configuredSlot }

/-- M5: the increase of one treasury, which the sidechain may mint when it is its own. -/
def applyM5 (requiredActive : Bool) (transaction : CTransaction) (T : TreasuryLoop)
    (change : CtipChange) : Except String TreasuryLoop :=
  let slot := change.slot
  match transaction.vout[change.outputIndex + 1]?.bind
      fun output => extractSingleOpReturnPush output.scriptPubKey with
  | none => throw s!"positive CTIP replacement for slot {slot} has no following address"
  | some address => do
    let delta := change.newValue - change.oldValue
    rejectIf (delta ≤ 0 ∨ ¬MoneyRange delta) "parent CTIP increase is outside the money range"
    return { T with
      state := updateSlot T.state P.configuredSlot slot (replaceCtip H transaction change)
      deposits :=
        if slot = P.configuredSlot ∧ requiredActive ∧ address ≠ [] ∧ address.length ≤ 128 then
          T.deposits ++
            [{ outpoint := { hash := H.txid transaction, n := change.outputIndex }
               blockHash := blockHash, blockHeight := height, value := delta, address := address }]
        else T.deposits }

/-- One transaction after the coinbase. -/
def applyTreasuryTransaction (requiredActive : Bool) (T : TreasuryLoop)
    (transaction : CTransaction) : Except String TreasuryLoop := do
  let changes ← ctipChanges P T.state transaction
  let decreases := changes.countP fun change => change.newValue < change.oldValue
  if decreases = 0 then
    changes.foldlM (applyM5 P H height blockHash requiredActive transaction) T
  else
    match changes with
    | [change] => applyM6 P H height blockHash transaction T change
    | _ => throw "parent transaction ambiguously mixes M5 and M6 transitions"

end Block

end ElementsDrivechain
