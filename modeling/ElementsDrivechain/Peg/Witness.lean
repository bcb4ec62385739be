import ElementsDrivechain.Child.Transaction
import ElementsDrivechain.Replay.DepositVerdict

/-!
# Peg-in witnesses

The witness of a peg-in input says what the input is worth and why.  Several formats share the
first items: the native deposits of a slot network, two formats of another network with a deposit
marker, and the proofs of a federated peg.  On a network with a slot only native deposits may be
accepted, and only after the deposit has been found on the parent chain.

* `isValidPeginWitness_spec` : what an accepted witness is.
* `checkDrivechainDepositOutputs_spec` : what accepted outputs are.
-/

namespace ElementsDrivechain

open Fallible

/-! ### Constants -/

/-- The constants of the peg of a network with a slot. -/
structure PegParameters extends DrivechainNetwork where
  peggedAsset : Uint256
  /-- The script of an address, when the address is valid. -/
  scriptForDestination : Bytes → Option CScript
  /-- The id of a serialised transaction of the parent chain. -/
  parentTxid : Bytes → Option Uint256
  /-- The id of a transaction of the sidechain. -/
  childTxid : Child.CTransaction → Uint256

/-- The bytes of `drivechain-deposit-v2`. -/
def DRIVECHAIN_DEPOSIT_MARKER : Bytes :=
  [100, 114, 105, 118, 101, 99, 104, 97, 105, 110, 45, 100, 101, 112, 111, 115, 105, 116, 45, 118,
    50]

/-- The bytes of `drivechain-deposit-v1`. -/
def ECX_LEGACY_DEPOSIT_MARKER : Bytes :=
  [100, 114, 105, 118, 101, 99, 104, 97, 105, 110, 45, 100, 101, 112, 111, 115, 105, 116, 45, 118,
    49]

/-- The same bytes as those of a native deposit; the number of items tells the two apart. -/
def DRIVECHAIN_DEPOSIT_EVIDENCE_MARKER : Bytes := DRIVECHAIN_DEPOSIT_MARKER

/-- The script that anybody can spend. -/
def OP_TRUE_SCRIPT : CScript := [0x51]

/-- No longer item is read. -/
def MAX_BLOCK_SERIALIZED_SIZE : ℕ := 6000000

/-! ### Reading a witness -/

/-- Read an amount from the front of an item. -/
def readAmount (item : Bytes) : Option ℤ :=
  if item.length < 8 then none
  else
    let n := readLE (item.take 8)
    some (if n < 2 ^ 63 then n else n - 2 ^ 64)

/-- The items that all formats share. -/
structure PeginPrefix where
  value : ℤ
  asset : Uint256
  genesisHash : Uint256
  claimScript : CScript

/-- Read the items that all formats share. -/
def readPeginWitnessPrefix (stack : Child.CScriptWitness) : Except String PeginPrefix := do
  rejectIf (stack.length < 4) "Not enough stack items."
  let value ← orReject (readAmount (stack.getD 0 [])) "Could not deserialize value."
  rejectIf (¬MoneyRange value) "Value was not in valid value range."
  rejectIf ((stack.getD 1 []).length ≠ 32) "Asset type was not 32 bytes."
  rejectIf ((stack.getD 2 []).length ≠ 32) "Parent genesis blockhash was not 32 bytes."
  rejectIf ((stack.getD 3 []).length > 100) "Claim script is too large."
  return {
    value := value
    asset := .ofBytes (stack.getD 1 [])
    genesisHash := .ofBytes (stack.getD 2 [])
    claimScript := stack.getD 3 [] }

/-- What a deposit witness says. -/
structure DepositPegin where
  value : ℤ
  claimScript : CScript
  mainchainTxid : Uint256

/-- What a native deposit witness says. -/
structure NativeDepositPegin extends DepositPegin where
  mainchainBlockHash : Uint256
  address : Bytes

section Formats

variable (C : PegParameters)

/-- The shared items of a deposit: a positive amount of the pegged asset, from this parent. -/
def readDepositPrefix (stack : Child.CScriptWitness) : Option PeginPrefix :=
  match readPeginWitnessPrefix stack with
  | .error _ => none
  | .ok p =>
    if p.value ≤ 0 ∨ p.asset ≠ C.peggedAsset ∨ p.genesisHash ≠ C.parentGenesisBlockHash then none
    else some p

/-- A deposit witness of the other network, in one of its two formats. -/
def getDrivechainDepositPeginData (stack : Child.CScriptWitness) (prevout : COutPoint) :
    Option DepositPegin :=
  let legacy := stack.length = 6 ∧ stack.getD 4 [] = ECX_LEGACY_DEPOSIT_MARKER ∧
    (stack.getD 5 []).length = 32
  let deterministic := stack.length = 11 ∧ stack.getD 4 [] = DRIVECHAIN_DEPOSIT_EVIDENCE_MARKER
  if ¬legacy ∧ ¬deterministic then none
  else
    match readDepositPrefix C stack with
    | none => none
    | some p =>
      let txid := if legacy then some (Uint256.ofBytes (stack.getD 5 []))
        else if (stack.getD 5 []).length > MAX_BLOCK_SERIALIZED_SIZE then none
        else C.parentTxid (stack.getD 5 [])
      match txid with
      | none => none
      | some txid =>
        if prevout.hash ≠ txid then none
        else some { value := p.value, claimScript := p.claimScript, mainchainTxid := txid }

/-- A native deposit witness. -/
def nativeDepositPegin (stack : Child.CScriptWitness) (prevout : COutPoint) :
    Option NativeDepositPegin :=
  if stack.length ≠ 8 ∨ stack.getD 4 [] ≠ DRIVECHAIN_DEPOSIT_MARKER ∨
      (stack.getD 0 []).length ≠ 8 ∨ (stack.getD 5 []).length ≠ 32 ∨
      (stack.getD 6 []).length ≠ 32 ∨ stack.getD 7 [] = [] ∨ (stack.getD 7 []).length > 128 then
    none
  else
    match readDepositPrefix C stack with
    | none => none
    | some p =>
      if prevout.hash ≠ .ofBytes (stack.getD 5 []) then none
      else some {
        value := p.value
        claimScript := p.claimScript
        mainchainTxid := .ofBytes (stack.getD 5 [])
        mainchainBlockHash := .ofBytes (stack.getD 6 [])
        address := stack.getD 7 [] }

/-- The witness is one of a deposit, in any of the formats.  A caller that also wants the block and
the address gets an answer from `nativeDepositPegin` only. -/
def isDrivechainDepositPeginWitness (stack : Child.CScriptWitness) (prevout : COutPoint) : Bool :=
  if stack.length = 6 ∨ stack.length = 11 then
    (getDrivechainDepositPeginData C stack prevout).isSome
  else (nativeDepositPegin C stack prevout).isSome

/-- The key under which a peg-in is marked as spent. -/
abbrev PeginKey := Uint256 × COutPoint

/-- Under which key a peg-in is marked as claimed. -/
def getPeginSpentKey (stack : Child.CScriptWitness) (prevout : COutPoint) : PeginKey :=
  if isDrivechainDepositPeginWitness C stack prevout then (prevout.hash, prevout)
  else (.ofBytes (stack.getD 2 []), prevout)

/-- The output that a peg-in input spends. -/
def getPeginOutputFromWitness (stack : Child.CScriptWitness) : Child.CTxOut :=
  if stack.length < 4 then { nAsset := .null, nValue := .null, scriptPubKey := [] }
  else
    { nAsset := .explicit (.ofBytes (stack.getD 1 []))
      nValue := .explicit ((readAmount (stack.getD 0 [])).getD 0)
      scriptPubKey := stack.getD 3 [] }

/-! ### The check of a witness -/

/-- Why a witness is refused, and whether only because the parent chain cannot be consulted. -/
structure PeginRejection where
  err : String
  parentUnavailable : Bool := false

/-- The witness has one of the formats of the other network. -/
def EcxFormat (stack : Child.CScriptWitness) : Prop :=
  (stack.length = 6 ∧ stack.getD 4 [] = ECX_LEGACY_DEPOSIT_MARKER) ∨
    (stack.length = 11 ∧ stack.getD 4 [] = DRIVECHAIN_DEPOSIT_EVIDENCE_MARKER)
deriving Decidable

/-- The answer about a claim of a node in the given state. -/
def depositStatus (N : DrivechainNetwork) (H : ParentHashing) (parent : Session)
    (claim : DepositClaim) : DrivechainDepositStatus × String :=
  (parent.returned (getConfirmedDrivechainDepositStatus N H claim)).getD (.UNAVAILABLE, "")

/-- What a native witness claims. -/
def NativeDepositPegin.claim (deposit : NativeDepositPegin) (prevout : COutPoint)
    (childHeight : ℤ) : DepositClaim where
  mainchainBlockHash := deposit.mainchainBlockHash
  sidechainSlot := C.slot.toNat
  outpoint := prevout
  value := deposit.value
  address := deposit.address
  childHeight := childHeight

/-- The part of the check that native witnesses have for themselves. -/
def checkNativeDeposit (H : ParentHashing) (parent : Session) (p : PeginPrefix)
    (stack : Child.CScriptWitness) (prevout : COutPoint) (childHeight : ℤ) :
    Except PeginRejection Unit :=
  match nativeDepositPegin C stack prevout with
  | none => throw { err := "Invalid drivechain deposit pegin witness." }
  | some deposit => do
    rejectIf (p.genesisHash ≠ C.parentGenesisBlockHash) { err := "Parent genesis block mismatch." }
    rejectIf (p.asset ≠ C.peggedAsset) { err := "Pegin asset is not the pegged asset." }
    rejectIf (p.claimScript ≠ OP_TRUE_SCRIPT)
      { err := "Drivechain deposit claim script must be OP_TRUE." }
    let status := depositStatus C.toDrivechainNetwork H parent
      { deposit.claim C prevout childHeight with value := p.value }
    rejectIf (status.1 ≠ .VALID)
      { err := s!"BIP300 deposit is not confirmed on the mainchain: {status.2}"
        parentUnavailable := status.1 = .UNAVAILABLE }

/-- The check of a witness on a slot network, when the parent chain is asked in the state
`parent`. -/
def isValidPeginWitness (H : ParentHashing) (parent : Session) (stack : Child.CScriptWitness)
    (prevout : COutPoint) (childHeight : ℤ) : Except PeginRejection Unit := do
  rejectIf (EcxFormat stack)
    { err := "ECX deposit evidence is not a native Alpha CTIP witness." }
  let isDrivechainDeposit : Bool := stack.length ≥ 5 ∧ stack.getD 4 [] = DRIVECHAIN_DEPOSIT_MARKER
  let expectedStackSize := if isDrivechainDeposit then 8 else 6
  rejectIf (stack.length ≠ expectedStackSize)
    { err := s!"Peg-in witness has {stack.length} stack items; expected {expectedStackSize}." }
  match readPeginWitnessPrefix stack with
  | .error e => throw { err := e }
  | .ok p =>
    -- a second way of minting the same asset would be outside the treasury of the parent chain
    if isDrivechainDeposit then checkNativeDeposit C H parent p stack prevout childHeight
    else throw { err := "Legacy federated peg-ins are disabled on a Drivechain network." }

/-! ### The check of the outputs -/

/-- The output pays exactly the given amount of the pegged asset, for everybody to see. -/
def PaysExactly (output : Child.CTxOut) (value : ℤ) : Prop :=
  output.nAsset = .explicit C.peggedAsset ∧ output.nValue = .explicit value ∧
    ¬output.nNonce.IsCommitment
deriving Decidable

/-- The check of the output to the address of the deposit. -/
def checkDepositRecipient (tx : Child.CTransaction) (deposit : NativeDepositPegin) :
    Except String Unit :=
  match C.scriptForDestination deposit.address with
  | none => throw "BIP300 deposit commits to an invalid Elements destination address."
  | some expectedScript => do
    rejectIf (∃ output ∈ tx.vout, output.scriptPubKey = expectedScript ∧
        ¬PaysExactly C output deposit.value)
      "The committed deposit recipient must receive the exact explicit pegged-asset amount."
    rejectIf ((tx.vout.filter (·.scriptPubKey = expectedScript)).length ≠ 1)
      "Drivechain deposit transaction must contain exactly one recipient output."

/-- The check of a transaction with a native deposit at the given input. -/
def checkDrivechainDepositOutputs (tx : Child.CTransaction) (peginIndex : ℕ) :
    Except String Unit :=
  match tx.inputs[peginIndex]? with
  | none => throw "Drivechain deposit input or witness index is out of range."
  | some x => do
    rejectIf (peginIndex ≥ tx.peginWitness.length)
      "Drivechain deposit input or witness index is out of range."
    rejectIf (∃ x ∈ tx.inputs, isDrivechainDepositPeginWitness C x.stack x.input.prevout = false ∧
        x.input.isPegin = true)
      "Drivechain deposit transactions cannot mix deposit and legacy pegin inputs."
    -- counted whether or not the input is flagged as a peg-in
    rejectIf ((tx.inputs.filter fun x =>
        isDrivechainDepositPeginWitness C x.stack x.input.prevout).length ≠ 1)
      "Drivechain deposit transactions must contain exactly one drivechain pegin input."
    rejectIf (¬x.input.assetIssuance.IsNull)
      "Drivechain deposit inputs cannot contain an asset issuance."
    match nativeDepositPegin C x.stack x.input.prevout with
    | none => throw "Invalid drivechain deposit witness while checking outputs."
    | some deposit => do
      rejectIf (deposit.claimScript ≠ OP_TRUE_SCRIPT)
        "Drivechain deposit claim script must be OP_TRUE."
      checkDepositRecipient C tx deposit

end Formats

/-! ### What is accepted -/

section Spec

variable {C : PegParameters} {H : ParentHashing} {parent : Session}
  {stack : Child.CScriptWitness} {prevout : COutPoint} {deposit : NativeDepositPegin}
  {p : PeginPrefix} {childHeight : ℤ} {tx : Child.CTransaction}

theorem readPeginWitnessPrefix_eq_ok (h : readPeginWitnessPrefix stack = .ok p) :
    4 ≤ stack.length ∧ readAmount (stack.getD 0 []) = some p.value := by
  simp only [readPeginWitnessPrefix, bind_eq_ok, rejectIf_eq_ok, orReject_eq_ok, not_lt,
    pure_eq_ok] at h
  obtain ⟨_, hlength, value, hvalue, _, -, _, -, _, -, _, -, rfl⟩ := h
  exact ⟨hlength, hvalue⟩

theorem readDepositPrefix_eq_some (h : readDepositPrefix C stack = some p) :
    readPeginWitnessPrefix stack = .ok p := by
  unfold readDepositPrefix at h
  cases hread : readPeginWitnessPrefix stack with
  | error e => simp [hread] at h
  | ok q =>
    simp only [hread] at h
    split_ifs at h
    rw [Option.some.inj h]

section Native

variable (h : nativeDepositPegin C stack prevout = some deposit)

include h

/-- A native witness has eight items, with the amount in the first. -/
theorem nativeDepositPegin_eq_some :
    stack.length = 8 ∧ ∃ p, readPeginWitnessPrefix stack = .ok p ∧ p.value = deposit.value := by
  unfold nativeDepositPegin at h
  cases hread : readDepositPrefix C stack with
  | none => simp [hread] at h
  | some p =>
    simp only [hread] at h
    split_ifs at h with hformat
    push Not at hformat
    exact ⟨hformat.1, p, readDepositPrefix_eq_some hread, by rw [← Option.some.inj h]⟩

theorem value_pos_of_native : 0 < deposit.value := by
  unfold nativeDepositPegin at h
  cases hread : readDepositPrefix C stack with
  | none => simp [hread] at h
  | some p =>
    have hpos : 0 < p.value := by
      unfold readDepositPrefix at hread
      cases hp : readPeginWitnessPrefix stack with
      | error e => simp [hp] at hread
      | ok q =>
        simp only [hp] at hread
        split_ifs at hread with hvalue
        obtain rfl := Option.some.inj hread
        exact not_le.1 fun hle => hvalue (.inl hle)
    simp only [hread] at h
    split_ifs at h
    rw [← Option.some.inj h]
    exact hpos

theorem isDrivechainDeposit_of_native : isDrivechainDepositPeginWitness C stack prevout = true := by
  have hlength := (nativeDepositPegin_eq_some h).1
  simp [isDrivechainDepositPeginWitness, hlength, h]

/-- A native deposit is spent under its outpoint, whatever else its witness says. -/
theorem getPeginSpentKey_of_native :
    getPeginSpentKey C stack prevout = (prevout.hash, prevout) := by
  rw [getPeginSpentKey, if_pos (isDrivechainDeposit_of_native h)]

theorem getPeginOutput_of_native :
    (getPeginOutputFromWitness stack).nValue = .explicit deposit.value := by
  obtain ⟨-, p, hp, hvalue⟩ := nativeDepositPegin_eq_some h
  obtain ⟨hlength, hamount⟩ := readPeginWitnessPrefix_eq_ok hp
  rw [getPeginOutputFromWitness, if_neg (by omega), hamount, hvalue]
  rfl

end Native

/-- **Only native deposits are accepted**, and only those the parent chain confirms. -/
theorem isValidPeginWitness_spec {u : Unit}
    (h : isValidPeginWitness C H parent stack prevout childHeight = .ok u) :
    ∃ deposit, nativeDepositPegin C stack prevout = some deposit ∧
      (depositStatus C.toDrivechainNetwork H parent (deposit.claim C prevout childHeight)).1 =
        .VALID := by
  simp only [isValidPeginWitness, bind_eq_ok, rejectIf_eq_ok] at h
  obtain ⟨_, -, _, -, h⟩ := h
  cases hread : readPeginWitnessPrefix stack with
  | error e => simp [hread] at h
  | ok p =>
    simp only [hread] at h
    split_ifs at h
    unfold checkNativeDeposit at h
    cases hnative : nativeDepositPegin C stack prevout with
    | none => simp [hnative] at h
    | some deposit =>
      simp only [hnative, bind_eq_ok, rejectIf_eq_ok, not_not] at h
      obtain ⟨_, -, _, -, _, -, hstatus⟩ := h
      obtain ⟨-, q, hq, hvalue⟩ := nativeDepositPegin_eq_some hnative
      obtain rfl : p = q := by simpa [hread] using hq
      refine ⟨deposit, rfl, ?_⟩
      rw [hvalue] at hstatus
      exact hstatus

/-- A transaction that claims a deposit: one peg-in input, with a native witness, and one output to
the address of the deposit, with exactly the amount of the deposit. -/
structure DepositTransaction (C : PegParameters) (tx : Child.CTransaction)
    (x : Child.InputAt) (deposit : NativeDepositPegin) : Prop where
  native : nativeDepositPegin C x.stack x.input.prevout = some deposit
  only : ∀ y ∈ tx.inputs, y.input.isPegin = true → y = x
  noIssuance : x.input.assetIssuance.IsNull
  /-- One output pays the address, exactly. -/
  recipient : ∃ script output, C.scriptForDestination deposit.address = some script ∧
    tx.vout.filter (·.scriptPubKey = script) = [output] ∧ PaysExactly C output deposit.value

theorem checkDepositRecipient_spec {u : Unit} (h : checkDepositRecipient C tx deposit = .ok u) :
    ∃ script output, C.scriptForDestination deposit.address = some script ∧
      tx.vout.filter (·.scriptPubKey = script) = [output] ∧
      PaysExactly C output deposit.value := by
  unfold checkDepositRecipient at h
  cases hscript : C.scriptForDestination deposit.address with
  | none => simp [hscript] at h
  | some script =>
    simp only [hscript, bind_eq_ok, rejectIf_eq_ok, not_exists, not_and, not_not] at h
    obtain ⟨_, hpays, hone⟩ := h
    obtain ⟨output, houtput⟩ := List.length_eq_one_iff.1 hone
    have hmem : output ∈ tx.vout.filter (·.scriptPubKey = script) := by simp [houtput]
    simp only [List.mem_filter, decide_eq_true_eq] at hmem
    exact ⟨script, output, rfl, houtput, hpays output hmem.1 hmem.2⟩

/-- **Accepted outputs pay the deposit to its address**, and nothing else is minted beside it. -/
theorem checkDrivechainDepositOutputs_spec {i : ℕ} {u : Unit}
    {x : Child.InputAt} (hx : tx.inputs[i]? = some x)
    (h : checkDrivechainDepositOutputs C tx i = .ok u) :
    ∃ deposit, DepositTransaction C tx x deposit := by
  simp only [checkDrivechainDepositOutputs, hx, bind_eq_ok, rejectIf_eq_ok, not_exists, not_and,
    not_not] at h
  obtain ⟨_, -, _, hmixed, _, hone, _, hissuance, h⟩ := h
  cases hnative : nativeDepositPegin C x.stack x.input.prevout with
  | none => simp [hnative] at h
  | some deposit =>
    simp only [hnative, bind_eq_ok, rejectIf_eq_ok, not_not] at h
    obtain ⟨_, -, hrecipient⟩ := h
    refine ⟨deposit, hnative, fun y hy hpegin => ?_, hissuance,
      checkDepositRecipient_spec hrecipient⟩
    -- both inputs carry a deposit witness, and only one does
    obtain ⟨z, hz⟩ := List.length_eq_one_iff.1 hone
    have hunique : ∀ w ∈ tx.inputs,
        isDrivechainDepositPeginWitness C w.stack w.input.prevout = true →
        w = z := by
      intro w hw hdeposit
      have : w ∈ tx.inputs.filter
          fun x => isDrivechainDepositPeginWitness C x.stack x.input.prevout :=
        List.mem_filter.2 ⟨hw, hdeposit⟩
      simpa [hz] using this
    have hdeposit : isDrivechainDepositPeginWitness C y.stack y.input.prevout = true := by
      by_contra hnot
      exact hmixed y hy (by simpa using hnot) hpegin
    rw [hunique y hy hdeposit, hunique x (List.mem_of_getElem? hx)
      (isDrivechainDeposit_of_native hnative)]

end Spec

end ElementsDrivechain
