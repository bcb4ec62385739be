import Mathlib.Data.UInt
import ElementsDrivechain.Native.Template
import ElementsDrivechain.Parent.Treasury

/-!
# The identity of a withdrawal on both chains

The sidechain names a withdrawal by the hash of its template.  The parent chain sees the completed
transaction, which spends a treasury and pays what remains back into it, and blinds it again to find
the name.

* `m6id_agreement` : **both chains compute the same name.**
-/

namespace ElementsDrivechain.Native

open Fallible

/-- The transaction that pays a withdrawal out of a treasury of the given value. -/
def NativeWithdrawalM6.complete (m6 : NativeWithdrawalM6) (input : CTxIn)
    (treasuryScript : CScript) (treasuryValue : ℤ) : CTransaction :=
  { m6.blindedTransaction with
    vin := [input]
    vout := { nValue := treasuryValue - m6.payoutAmount - m6.parentFee
              scriptPubKey := treasuryScript } :: m6.blindedTransaction.vout.tail }

/-- The replay of the parent chain and the templates spell fees in the same way. -/
theorem feeBytes_eq_encodeFee {fee : ℤ} (h : MoneyRange fee) : feeBytes fee = encodeFee fee := by
  rw [encodeFee_of_moneyRange h]
  simp [feeBytes, writeBE, writeLE, List.range_succ, Nat.div_div_eq_div_mul]

theorem singlePushScript_encodeFee (fee : ℤ) :
    singlePushScript (encodeFee fee) = OP_RETURN :: 8 :: encodeFee fee := by
  rw [singlePushScript, pushData, length_encodeFee]
  rfl

/-- The payouts of a completed template are the reference, which is worth nothing, and the payout.
-/
theorem addPayout_template {payoutAmount : ℤ} (h : MoneyRange payoutAmount)
    (reference destination : CScript) :
    [({ nValue := 0, scriptPubKey := reference } : CTxOut),
      { nValue := payoutAmount, scriptPubKey := destination }].foldlM addPayout 0 =
        .ok payoutAmount := by
  simp only [foldlM_cons_eq_ok, foldlM_nil_eq_ok, addPayout, bind_eq_ok, rejectIf_eq_ok, pure_eq_ok,
    not_or, not_not, not_lt]
  refine ⟨0, ⟨(), ⟨moneyRange_zero, by decide⟩, rfl⟩, payoutAmount, ⟨(), ⟨h, ?_⟩, zero_add _⟩, rfl⟩
  rw [sub_zero]
  exact h.2

/-- **Both chains compute the same name of a withdrawal.**  When the template of a withdrawal is
completed with an input that spends the treasury of its slot, and what remains is paid back, the
parent chain finds the identity that the sidechain gave to the template. -/
theorem m6id_agreement {H : ParentHashing} (hH : H.HashesWireFormat)
    {elementsGenesis burnTxid : Uint256} {slot : UInt8} {burnVout : UInt32} {w : NativeWithdrawal}
    {m6 : NativeWithdrawalM6}
    (hbuild : buildNativeWithdrawalM6 H elementsGenesis slot burnTxid burnVout w = .ok m6)
    {state : DrivechainParentReplayState} {configuredSlot : UInt8} {input : CTxIn} {v : ℤ}
    (hctip : (slotState state configuredSlot slot).ctip = some input.prevout)
    (hvalue : (slotState state configuredSlot slot).ctipValue = v)
    (hwf : ¬CtipMalformed (slotState state configuredSlot slot).ctip
      (slotState state configuredSlot slot).ctipValue)
    {opcode : TreasuryOpcode} {treasuryScript : CScript}
    (hscript : extractTreasurySlot treasuryScript opcode = some slot)
    (hmoney : MoneyRange (v - m6.payoutAmount - m6.parentFee)) :
    computeDrivechainM6Id H (m6.complete input treasuryScript v) v opcode =
      .ok (m6.m6id, slot) := by
  obtain ⟨-, -, -, payout, hpayout, -, rfl⟩ := buildNativeWithdrawalM6_eq_ok.1 hbuild
  obtain ⟨hburn, hfee, hpos, hsum⟩ := checkAmounts_eq_ok.1 hpayout
  have hfeeNonneg := hfee.nonneg
  have hpayoutMoney : MoneyRange payout := by
    have := hburn.2
    exact ⟨hpos.le, by omega⟩
  have hv : MoneyRange v := by
    by_contra hbad
    exact hwf (.inl ⟨by rw [hctip]; rfl, by rwa [hvalue]⟩)
  set treasury := v - payout - w.parentFee with htreasury
  have hle : treasury ≤ v ∧ payout ≤ v - treasury := by omega
  have hremaining : v - treasury - payout = w.parentFee := by omega
  simp only [NativeWithdrawalM6.complete, nativeWithdrawalM6, templateTransaction,
    computeDrivechainM6Id, List.tail_cons, hscript, bind_eq_ok, rejectIf_eq_ok, pure_eq_ok, not_or,
    not_not, not_lt]
  refine ⟨(), rfl, (), ⟨hv, hmoney⟩, payout, addPayout_template hpayoutMoney _ _, (), hle, ?_⟩
  rw [hremaining, feeBytes_eq_encodeFee hfee, ← singlePushScript_encodeFee, hH]
  rfl

/-- A hash that adds up the bytes. -/
def Sample.sumHashing : ParentHashing where
  txid tx := .ofByte tx.serializeNoWitness.sum
  headerHash _ := 0
  hash bytes := .ofByte bytes.sum

/-- The treasury of slot 24 holds five thousand satoshis. -/
def Sample.treasury : DrivechainParentReplayState where
  ctip := some ⟨.ofByte 9, 0⟩
  ctipValue := 5000

open Native.Sample

theorem m6id_agreement_sample :
    ∃ m6, buildNativeWithdrawalM6 sumHashing (.ofByte 3) 24 (.ofByte 4) 0 withdrawal =
        .ok m6 ∧
      computeDrivechainM6Id sumHashing
        (m6.complete { prevout := ⟨.ofByte 9, 0⟩ } [0xb4, 0x01, 24, 0x51] 5000) 5000 .NOP5 =
          .ok (m6.m6id, 24) :=
  ⟨_, rfl, m6id_agreement (fun _ => rfl)
    (rfl : buildNativeWithdrawalM6 sumHashing (.ofByte 3) 24 (.ofByte 4) 0 withdrawal = _)
    (show (slotState treasury 24 24).ctip = _ from rfl) rfl (by decide) (by decide)
    (by decide)⟩

end ElementsDrivechain.Native
