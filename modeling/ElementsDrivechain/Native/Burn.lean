import ElementsDrivechain.Child.Transaction
import ElementsDrivechain.Foundations.Fallible
import ElementsDrivechain.Native.Push

/-!
# Burns for native withdrawals

A native withdrawal begins with an output of the sidechain that burns the pegged asset.  Its script
names the parent chain, the destination of the payout there and the fee that the withdrawal pays.

* `parseNativeWithdrawalScript_eq_ok` : **a script is accepted exactly if it was built** from what
  is read from it.
* `parseNativeWithdrawalOutput_eq_ok` : **an output is accepted exactly if it was built** from what
  is read from it.
-/

namespace ElementsDrivechain.Native

open Fallible

/-- No longer destination is accepted. -/
def NATIVE_WITHDRAWAL_MAX_DESTINATION_SIZE : ℕ := 128

/-- A burn of the pegged asset that asks for a payout on the parent chain. -/
structure NativeWithdrawal where
  parentGenesis : Uint256
  destination : CScript
  burnAmount : ℤ
  parentFee : ℤ
  payoutAmount : ℤ
deriving DecidableEq

/-! ### Amounts -/

/-- The eight bytes of a fee. -/
def encodeFee (fee : ℤ) : Bytes := writeBE 8 (fee % 2 ^ 64).toNat

/-- Read a fee of eight bytes. -/
def decodeFee (encoded : Bytes) : Except String ℤ := do
  rejectIf (encoded.length ≠ 8) "native withdrawal parent fee is not eight bytes"
  let value := readBE encoded
  rejectIf ((value : ℤ) > MAX_MONEY) "native withdrawal parent fee is outside the money range"
  pure value

/-- The payout of a burn, which is what is left of it after the fee. -/
def checkAmounts (burnAmount parentFee : ℤ) : Except String ℤ := do
  rejectIf (burnAmount ≤ 0 ∨ ¬MoneyRange burnAmount)
    "native withdrawal burn amount is outside the money range"
  rejectIf (parentFee < 0 ∨ ¬MoneyRange parentFee)
    "native withdrawal parent fee is outside the money range"
  rejectIf (burnAmount ≤ parentFee)
    "native withdrawal burn amount must exceed its parent fee"
  let payoutAmount := burnAmount - parentFee
  rejectIf (payoutAmount ≤ 0 ∨ ¬MoneyRange payoutAmount)
    "native withdrawal payout amount is outside the money range"
  pure payoutAmount

theorem length_encodeFee (fee : ℤ) : (encodeFee fee).length = 8 := length_writeBE _ _

theorem encodeFee_of_moneyRange {fee : ℤ} (h : MoneyRange fee) :
    encodeFee fee = writeBE 8 fee.toNat := by
  have hlt : fee < 2 ^ 64 := h.2.trans_lt (by decide)
  rw [encodeFee, Int.emod_eq_of_lt h.1 hlt]

/-- **Eight bytes are a fee exactly if they are its encoding.** -/
theorem decodeFee_eq_ok {encoded : Bytes} {fee : ℤ} :
    decodeFee encoded = .ok fee ↔ MoneyRange fee ∧ encoded = encodeFee fee := by
  simp only [decodeFee, bind_eq_ok, rejectIf_eq_ok, pure_eq_ok, not_not]
  constructor
  · rintro ⟨_, hlength, _, hmax, rfl⟩
    have hmoney : MoneyRange (readBE encoded : ℤ) := ⟨Int.natCast_nonneg _, not_lt.1 hmax⟩
    refine ⟨hmoney, ?_⟩
    rw [encodeFee_of_moneyRange hmoney, Int.toNat_natCast, ← hlength, writeBE_readBE]
  · rintro ⟨hmoney, rfl⟩
    have hlt : fee.toNat < 256 ^ 8 := by
      have := hmoney.2.trans_lt (show MAX_MONEY < 256 ^ 8 by decide)
      omega
    have hread : (readBE (encodeFee fee) : ℤ) = fee := by
      rw [encodeFee_of_moneyRange hmoney, readBE_writeBE hlt]
      exact Int.toNat_of_nonneg hmoney.1
    exact ⟨(), length_encodeFee fee, (), by rw [hread]; exact not_lt.2 hmoney.2, hread⟩

theorem checkAmounts_eq_ok {burnAmount parentFee payoutAmount : ℤ} :
    checkAmounts burnAmount parentFee = .ok payoutAmount ↔
      MoneyRange burnAmount ∧ MoneyRange parentFee ∧ 0 < payoutAmount ∧
        burnAmount = parentFee + payoutAmount := by
  simp only [checkAmounts, bind_eq_ok, rejectIf_eq_ok, pure_eq_ok, not_or, not_not]
  constructor
  · rintro ⟨_, ⟨-, hburn⟩, _, ⟨-, hfee⟩, _, -, _, ⟨hpos, -⟩, rfl⟩
    exact ⟨hburn, hfee, by omega, by omega⟩
  · rintro ⟨hburn, hfee, hpos, rfl⟩
    have hnonneg := hfee.nonneg
    refine ⟨(), ⟨by omega, hburn⟩, (), ⟨by omega, hfee⟩, (), by omega, (), ⟨by omega, ?_⟩, by omega⟩
    exact hburn.sub hfee (by omega)

/-! ### Scripts -/

/-- The size that a destination may have. -/
def DestinationSize (destination : CScript) : Prop :=
  destination ≠ [] ∧ destination.length ≤ NATIVE_WITHDRAWAL_MAX_DESTINATION_SIZE
deriving Decidable

/-- The script of a burn. -/
def buildNativeWithdrawalScript (parentGenesis : Uint256) (destination : CScript)
    (parentFee : ℤ) : Except String CScript := do
  rejectIf (parentGenesis = 0) "native withdrawal parent genesis is null"
  rejectIf (¬DestinationSize destination)
    "native withdrawal destination size is outside 1..128 bytes"
  rejectIf (parentFee < 0 ∨ ¬MoneyRange parentFee)
    "native withdrawal parent fee is outside the money range"
  pure (OP_RETURN ::
    (pushData parentGenesis.data ++ (pushData destination ++ pushData (encodeFee parentFee))))

/-- The three byte strings that the script of a burn pushes. -/
def readWithdrawalPushes (script : CScript) : Option (Bytes × Bytes × Bytes) := do
  let (opcode, _, rest) ← getOp script
  guard (opcode = OP_RETURN)
  let (genesisBytes, rest) ← getPush rest
  let (destinationBytes, rest) ← getPush rest
  let (feeBytes, rest) ← getPush rest
  guard (rest = [])
  pure (genesisBytes, destinationBytes, feeBytes)

/-- The destination and the fee that the script of a burn names. -/
def parseNativeWithdrawalScript (script : CScript) (expectedParentGenesis : Uint256) :
    Except String (CScript × ℤ) := do
  rejectIf (expectedParentGenesis = 0) "native withdrawal parent genesis is null"
  let (genesisBytes, destination, feeBytes) ← orReject (readWithdrawalPushes script)
    "native withdrawal script is malformed or has trailing bytes"
  rejectIf (genesisBytes.length ≠ 32 ∨ Uint256.ofBytes genesisBytes ≠ expectedParentGenesis)
    "native withdrawal script has the wrong parent genesis"
  rejectIf (¬DestinationSize destination)
    "native withdrawal destination size is outside 1..128 bytes"
  let parentFee ← decodeFee feeBytes
  let canonical ← buildNativeWithdrawalScript expectedParentGenesis destination parentFee
  rejectIf (script ≠ canonical) "native withdrawal script uses a noncanonical push encoding"
  pure (destination, parentFee)

variable {script destination : CScript} {parentGenesis : Uint256} {parentFee : ℤ}

theorem buildNativeWithdrawalScript_eq_ok :
    buildNativeWithdrawalScript parentGenesis destination parentFee = .ok script ↔
      parentGenesis ≠ 0 ∧ DestinationSize destination ∧ MoneyRange parentFee ∧
        OP_RETURN :: (pushData parentGenesis.data ++
          (pushData destination ++ pushData (encodeFee parentFee))) = script := by
  simp only [buildNativeWithdrawalScript, bind_eq_ok, rejectIf_eq_ok, pure_eq_ok, not_or, not_not]
  constructor
  · rintro ⟨_, hgenesis, _, hdestination, _, ⟨-, hfee⟩, rfl⟩
    exact ⟨hgenesis, hdestination, hfee, rfl⟩
  · rintro ⟨hgenesis, hdestination, hfee, rfl⟩
    exact ⟨(), hgenesis, (), hdestination, (), ⟨not_lt.2 hfee.nonneg, hfee⟩, rfl⟩

theorem readWithdrawalPushes_build (genesis destination fee : Bytes)
    (hgenesis : genesis.length < 2 ^ 32) (hdestination : destination.length < 2 ^ 32)
    (hfee : fee.length < 2 ^ 32) :
    readWithdrawalPushes (OP_RETURN :: (pushData genesis ++ (pushData destination ++
      pushData fee))) = some (genesis, destination, fee) := by
  have hlast := getPush_pushData fee [] hfee
  rw [List.append_nil] at hlast
  simp [readWithdrawalPushes, getOp_return, getPush_pushData _ _ hgenesis,
    getPush_pushData _ _ hdestination, hlast]

/-- **A script is accepted exactly if it was built** from what is read from it. -/
theorem parseNativeWithdrawalScript_eq_ok :
    parseNativeWithdrawalScript script parentGenesis = .ok (destination, parentFee) ↔
      buildNativeWithdrawalScript parentGenesis destination parentFee = .ok script := by
  simp only [parseNativeWithdrawalScript, bind_eq_ok, rejectIf_eq_ok, orReject_eq_ok, pure_eq_ok,
    not_not, Prod.mk.injEq]
  constructor
  · rintro ⟨_, -, ⟨_, _, _⟩, -, _, -, _, -, fee, -, canonical, hbuild, _, rfl, rfl, rfl⟩
    exact hbuild
  · intro hbuild
    obtain ⟨hgenesis, hdestination, hfee, rfl⟩ := buildNativeWithdrawalScript_eq_ok.1 hbuild
    have hread := readWithdrawalPushes_build parentGenesis.data destination (encodeFee parentFee)
      (by rw [parentGenesis.size_data]; decide)
      (hdestination.2.trans_lt (by decide)) (by rw [length_encodeFee]; decide)
    refine ⟨(), hgenesis, _, hread, (), ?_, (), hdestination, parentFee,
      decodeFee_eq_ok.2 ⟨hfee, rfl⟩, _, hbuild, (), rfl, rfl, rfl⟩
    simp [parentGenesis.size_data, Uint256.ofBytes]

/-! ### Outputs -/

/-- The output that burns. -/
def buildNativeWithdrawalOutput (peggedAsset parentGenesis : Uint256) (destination : CScript)
    (burnAmount parentFee : ℤ) : Except String Child.CTxOut := do
  rejectIf (peggedAsset = 0) "native withdrawal pegged asset is null"
  let _ ← checkAmounts burnAmount parentFee
  let script ← buildNativeWithdrawalScript parentGenesis destination parentFee
  pure { nAsset := .explicit peggedAsset, nValue := .explicit burnAmount, scriptPubKey := script }

/-- The withdrawal that an output asks for.  An output may have no entry in the witness of its
transaction. -/
def parseNativeWithdrawalOutput (output : Child.CTxOut) (outputWitness : Option Child.CTxOutWitness)
    (expectedPeggedAsset expectedParentGenesis : Uint256) : Except String NativeWithdrawal := do
  rejectIf (expectedPeggedAsset = 0) "native withdrawal pegged asset is null"
  rejectIf (output.nAsset ≠ .explicit expectedPeggedAsset)
    "native withdrawal asset is not the explicit pegged asset"
  let burnAmount ← orReject output.explicitValue "native withdrawal value is not explicit"
  rejectIf (¬output.nNonce.IsNull) "native withdrawal nonce is not null"
  rejectIf (∃ witness ∈ outputWitness, ¬witness.IsNull)
    "native withdrawal output proofs are not empty"
  let (destination, parentFee) ←
    parseNativeWithdrawalScript output.scriptPubKey expectedParentGenesis
  let payoutAmount ← checkAmounts burnAmount parentFee
  pure ⟨expectedParentGenesis, destination, burnAmount, parentFee, payoutAmount⟩

variable {output : Child.CTxOut} {outputWitness : Option Child.CTxOutWitness}
  {peggedAsset : Uint256}

theorem buildNativeWithdrawalOutput_eq_ok {burnAmount : ℤ} :
    buildNativeWithdrawalOutput peggedAsset parentGenesis destination burnAmount parentFee =
        .ok output ↔
      peggedAsset ≠ 0 ∧ (∃ payoutAmount, checkAmounts burnAmount parentFee = .ok payoutAmount) ∧
      ∃ script, buildNativeWithdrawalScript parentGenesis destination parentFee = .ok script ∧
        output = { nAsset := .explicit peggedAsset, nValue := .explicit burnAmount,
                   scriptPubKey := script } := by
  simp only [buildNativeWithdrawalOutput, bind_eq_ok, rejectIf_eq_ok, pure_eq_ok]
  constructor
  · rintro ⟨_, hasset, payout, hpayout, script, hscript, rfl⟩
    exact ⟨hasset, ⟨payout, hpayout⟩, script, hscript, rfl⟩
  · rintro ⟨hasset, ⟨payout, hpayout⟩, script, hscript, rfl⟩
    exact ⟨(), hasset, payout, hpayout, script, hscript, rfl⟩

/-- **An output is accepted exactly if it was built** from what is read from it, and its witness is
empty. -/
theorem parseNativeWithdrawalOutput_eq_ok {w : NativeWithdrawal} :
    parseNativeWithdrawalOutput output outputWitness peggedAsset parentGenesis = .ok w ↔
      buildNativeWithdrawalOutput peggedAsset parentGenesis w.destination w.burnAmount
        w.parentFee = .ok output ∧ (∀ witness ∈ outputWitness, witness.IsNull) ∧
      w.parentGenesis = parentGenesis ∧ w.burnAmount = w.parentFee + w.payoutAmount := by
  rw [buildNativeWithdrawalOutput_eq_ok]
  simp only [parseNativeWithdrawalOutput, bind_eq_ok, rejectIf_eq_ok, orReject_eq_ok, pure_eq_ok,
    not_not, not_exists, not_and]
  constructor
  · rintro ⟨_, hasset, _, hexplicit, burn, hburn, _, hnonce, _, hwitness, ⟨destination, fee⟩,
      hscript, payout, hpayout, rfl⟩
    refine ⟨⟨hasset, ⟨payout, hpayout⟩, _, parseNativeWithdrawalScript_eq_ok.1 hscript, ?_⟩,
      hwitness, rfl, (checkAmounts_eq_ok.1 hpayout).2.2.2⟩
    obtain ⟨asset, value, nonce, script⟩ := output
    obtain rfl : asset = .explicit peggedAsset := hexplicit
    cases nonce with
    | null =>
      cases value with
      | explicit value =>
        obtain rfl : value = burn := Option.some.inj hburn
        rfl
      | null => cases hburn
      | commitment => cases hburn
    | explicit => exact hnonce.elim
    | commitment => exact hnonce.elim
  · rintro ⟨⟨hasset, ⟨payout, hpayout⟩, script, hscript, rfl⟩, hwitness, hgenesis, hburn⟩
    obtain rfl : payout = w.payoutAmount := by
      have := (checkAmounts_eq_ok.1 hpayout).2.2.2
      omega
    refine ⟨(), hasset, (), rfl, w.burnAmount, rfl, (), trivial, (), hwitness, _,
      parseNativeWithdrawalScript_eq_ok.2 hscript, _, hpayout, ?_⟩
    rw [← hgenesis]

end ElementsDrivechain.Native
