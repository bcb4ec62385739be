import ElementsDrivechain.Native.Burn
import ElementsDrivechain.Parent.Serialization

/-!
# Templates of native withdrawals

A withdrawal is paid on the parent chain by a transaction whose identity is known before its
treasury input and output are: the *template* of the transaction has no input, and its first output
carries the fee in place of the treasury.  Its second output refers to the burn, its third is the
payout.

* `parseNativeWithdrawalM6Commitment_eq_ok` : **a reference is accepted exactly if it was computed**
  from what is read from it.
* `parseNativeWithdrawalM6_eq_ok` : **a template is accepted exactly if it was built** from what is
  read from it.
-/

namespace ElementsDrivechain.Native

open Fallible

/-- The letters `ELWD`. -/
def M6_REFERENCE_MAGIC : Bytes := [0x45, 0x4c, 0x57, 0x44]
/-- The version of references. -/
def M6_REFERENCE_VERSION : UInt8 := 1
/-- Where the genesis stands in a reference. -/
def M6_REFERENCE_GENESIS_OFFSET : ℕ := 5
/-- Where the slot stands. -/
def M6_REFERENCE_SLOT_OFFSET : ℕ := M6_REFERENCE_GENESIS_OFFSET + 32
/-- Where the id of the burning transaction stands. -/
def M6_REFERENCE_TXID_OFFSET : ℕ := M6_REFERENCE_SLOT_OFFSET + 1
/-- Where the index of the burn stands. -/
def M6_REFERENCE_VOUT_OFFSET : ℕ := M6_REFERENCE_TXID_OFFSET + 32
/-- The size of a reference. -/
def NATIVE_WITHDRAWAL_M6_REFERENCE_SIZE : ℕ := 74

/-- The version of the transactions that the node makes for the parent chain. -/
def CURRENT_VERSION : ℕ := 2

/-! ### References to burns -/

/-- The reference to a burn: the sidechain, its slot and the output. -/
def computeNativeWithdrawalM6Commitment (elementsGenesis : Uint256) (sidechainSlot : UInt8)
    (burnTxid : Uint256) (burnVout : UInt32) : Bytes :=
  M6_REFERENCE_MAGIC ++ ([M6_REFERENCE_VERSION] ++ (elementsGenesis.data ++ ([sidechainSlot] ++
    (burnTxid.data ++ writeBE 4 burnVout.toNat))))

/-- The sidechain, the slot and the output that a script refers to. -/
def parseNativeWithdrawalM6Commitment (script : CScript) :
    Except String (Uint256 × UInt8 × Uint256 × UInt32) := do
  let payload ← orReject (extractSingleCanonicalPush script NATIVE_WITHDRAWAL_M6_REFERENCE_SIZE)
    "blinded M6 burn reference is not canonical"
  rejectIf (payload.take 4 ≠ M6_REFERENCE_MAGIC) "blinded M6 burn reference has the wrong domain"
  rejectIf (payload.getD 4 0 ≠ M6_REFERENCE_VERSION)
    "blinded M6 burn reference has an unsupported version"
  let elementsGenesis := Uint256.ofBytes ((payload.drop M6_REFERENCE_GENESIS_OFFSET).take 32)
  let sidechainSlot := payload.getD M6_REFERENCE_SLOT_OFFSET 0
  let burnTxid := Uint256.ofBytes ((payload.drop M6_REFERENCE_TXID_OFFSET).take 32)
  let burnVout := UInt32.ofNat (readBE (payload.drop M6_REFERENCE_VOUT_OFFSET))
  rejectIf (elementsGenesis = 0) "blinded M6 burn reference has a null Elements genesis"
  rejectIf (burnTxid = 0 ∨ burnVout = 0xffffffff)
    "blinded M6 burn reference has an unknown burn outpoint"
  pure (elementsGenesis, sidechainSlot, burnTxid, burnVout)

variable {elementsGenesis burnTxid : Uint256} {sidechainSlot : UInt8} {burnVout : UInt32}

theorem length_computeNativeWithdrawalM6Commitment :
    (computeNativeWithdrawalM6Commitment elementsGenesis sidechainSlot burnTxid burnVout).length =
      NATIVE_WITHDRAWAL_M6_REFERENCE_SIZE := by
  simp [computeNativeWithdrawalM6Commitment, M6_REFERENCE_MAGIC, Uint256.size_data,
    NATIVE_WITHDRAWAL_M6_REFERENCE_SIZE]

theorem reference_split {payload : Bytes}
    (h : payload.length = NATIVE_WITHDRAWAL_M6_REFERENCE_SIZE) :
    payload = payload.take 4 ++ ([payload.getD 4 0] ++
      ((payload.drop M6_REFERENCE_GENESIS_OFFSET).take 32 ++
        ([payload.getD M6_REFERENCE_SLOT_OFFSET 0] ++
          ((payload.drop M6_REFERENCE_TXID_OFFSET).take 32 ++
            payload.drop M6_REFERENCE_VOUT_OFFSET)))) := by
  have hbyte : ∀ n, n < payload.length →
      payload.drop n = [payload.getD n 0] ++ payload.drop (n + 1) := by
    intro n hn
    rw [List.drop_eq_getElem_cons hn, List.getD_eq_getElem?_getD, List.getElem?_eq_getElem hn]
    rfl
  have hfield : ∀ n m, payload.drop n = (payload.drop n).take m ++ payload.drop (n + m) := by
    intro n m
    rw [← List.drop_drop, List.take_append_drop]
  calc payload = payload.take 4 ++ payload.drop 4 := (List.take_append_drop 4 payload).symm
    _ = _ := by
      rw [hbyte 4 (by rw [h]; decide), hfield 5 32, hbyte 37 (by rw [h]; decide), hfield 38 32]
      rfl

theorem reference_fields {magic genesis txid vout : Bytes} {version slot : UInt8}
    (hmagic : magic.length = 4) (hgenesis : genesis.length = 32) (htxid : txid.length = 32)
    (hvout : vout.length = 4) {payload : Bytes}
    (h : payload = magic ++ ([version] ++ (genesis ++ ([slot] ++ (txid ++ vout))))) :
    payload.take 4 = magic ∧ payload.getD 4 0 = version ∧
      (payload.drop M6_REFERENCE_GENESIS_OFFSET).take 32 = genesis ∧
      payload.getD M6_REFERENCE_SLOT_OFFSET 0 = slot ∧
      (payload.drop M6_REFERENCE_TXID_OFFSET).take 32 = txid ∧
      payload.drop M6_REFERENCE_VOUT_OFFSET = vout := by
  have hsize : payload.length = 74 := by simp [h, hmagic, hgenesis, htxid, hvout]
  have hfield : ∀ n, n + 32 ≤ 74 → ((payload.drop n).take 32).length = 32 := by
    intro n hn
    rw [List.length_take, List.length_drop]
    omega
  have hsplit := (reference_split hsize).symm.trans h
  obtain ⟨h₁, hsplit⟩ := List.append_inj hsplit (by simp [hsize, hmagic])
  obtain ⟨h₂, hsplit⟩ := List.append_inj hsplit rfl
  obtain ⟨h₃, hsplit⟩ := List.append_inj hsplit (by rw [hgenesis]; exact hfield _ (by decide))
  obtain ⟨h₄, hsplit⟩ := List.append_inj hsplit rfl
  obtain ⟨h₅, h₆⟩ := List.append_inj hsplit (by rw [htxid]; exact hfield _ (by decide))
  exact ⟨h₁, List.head_eq_of_cons_eq h₂, h₃, List.head_eq_of_cons_eq h₄, h₅, h₆⟩

/-- **A reference is accepted exactly if it was computed** from what is read from it. -/
theorem parseNativeWithdrawalM6Commitment_eq_ok {script : CScript} :
    parseNativeWithdrawalM6Commitment script =
        .ok (elementsGenesis, sidechainSlot, burnTxid, burnVout) ↔
      script = singlePushScript (computeNativeWithdrawalM6Commitment elementsGenesis sidechainSlot
        burnTxid burnVout) ∧
      elementsGenesis ≠ 0 ∧ burnTxid ≠ 0 ∧ burnVout ≠ 0xffffffff := by
  simp only [parseNativeWithdrawalM6Commitment, bind_eq_ok, orReject_eq_ok, rejectIf_eq_ok,
    pure_eq_ok, not_not, not_or, Prod.mk.injEq,
    extractSingleCanonicalPush_eq_some
      (show NATIVE_WITHDRAWAL_M6_REFERENCE_SIZE < 2 ^ 32 by decide)]
  constructor
  · rintro ⟨payload, ⟨hlength, rfl⟩, _, hmagic, _, hversion, _, hgenesis, _, ⟨htxid, hvout⟩, rfl,
      rfl, rfl, rfl⟩
    refine ⟨congrArg singlePushScript ?_, hgenesis, htxid, hvout⟩
    have hsize : payload.length = 74 := hlength
    have hvoutSize : (payload.drop M6_REFERENCE_VOUT_OFFSET).length = 4 := by
      rw [List.length_drop, hsize]; rfl
    have hvoutLt : readBE (payload.drop M6_REFERENCE_VOUT_OFFSET) < 2 ^ 32 :=
      (readBE_lt _).trans_eq (by rw [hvoutSize]; norm_num)
    have hvoutBytes := writeBE_readBE (payload.drop M6_REFERENCE_VOUT_OFFSET)
    rw [hvoutSize] at hvoutBytes
    rw [computeNativeWithdrawalM6Commitment, ← hmagic, ← hversion,
      Uint256.data_ofBytes (by simp [hsize, M6_REFERENCE_GENESIS_OFFSET]),
      Uint256.data_ofBytes (by simp [hsize, M6_REFERENCE_TXID_OFFSET, M6_REFERENCE_SLOT_OFFSET,
        M6_REFERENCE_GENESIS_OFFSET]),
      UInt32.toNat_ofNat_of_lt' hvoutLt, hvoutBytes]
    exact reference_split hlength
  · rintro ⟨rfl, hgenesis, htxid, hvout⟩
    obtain ⟨hmagic, hversion, hgenesisBytes, hslot, htxidBytes, hvoutBytes⟩ :=
      reference_fields rfl elementsGenesis.size_data burnTxid.size_data (length_writeBE 4 _) (rfl :
        computeNativeWithdrawalM6Commitment elementsGenesis sidechainSlot burnTxid burnVout = _)
    have hvoutValue : UInt32.ofNat (readBE (writeBE 4 burnVout.toNat)) = burnVout := by
      rw [readBE_writeBE (burnVout.toNat_lt.trans_eq (by norm_num)), UInt32.ofNat_toNat]
    refine ⟨_, ⟨length_computeNativeWithdrawalM6Commitment, rfl⟩, (), hmagic, (), hversion, ?_⟩
    rw [hgenesisBytes, htxidBytes, hvoutBytes, hslot, hvoutValue, Uint256.ofBytes_data,
      Uint256.ofBytes_data]
    exact ⟨(), hgenesis, (), ⟨htxid, hvout⟩, rfl, rfl, rfl, rfl⟩

/-! ### Templates -/

/-- The template of a withdrawal, and what it says. -/
structure NativeWithdrawalM6 where
  blindedTransaction : CTransaction
  burnCommitment : Bytes
  burnAmount : ℤ
  parentFee : ℤ
  payoutAmount : ℤ
  destination : CScript
  legacySerialization : Bytes
  m6id : Uint256
deriving DecidableEq

/-- The transaction of a template. -/
def templateTransaction (parentFee : ℤ) (burnCommitment : Bytes) (payoutAmount : ℤ)
    (destination : CScript) : CTransaction where
  version := CURRENT_VERSION
  nLockTime := 0
  vin := []
  vout := [
    { nValue := 0, scriptPubKey := singlePushScript (encodeFee parentFee) },
    { nValue := 0, scriptPubKey := singlePushScript burnCommitment },
    { nValue := payoutAmount, scriptPubKey := destination }]

/-- The bytes of a template. -/
def serializeNativeWithdrawalM6Legacy (transaction : CTransaction) : Bytes :=
  transaction.serializeNoWitness

section Hashing

variable (H : ParentHashing) (elementsGenesis : Uint256) (sidechainSlot : UInt8)
  (burnTxid : Uint256) (burnVout : UInt32)

/-- The template with the given amounts and destination. -/
def nativeWithdrawalM6 (burnAmount parentFee payoutAmount : ℤ) (destination : CScript) :
    NativeWithdrawalM6 :=
  let burnCommitment :=
    computeNativeWithdrawalM6Commitment elementsGenesis sidechainSlot burnTxid burnVout
  let blindedTransaction :=
    templateTransaction parentFee burnCommitment payoutAmount destination
  let legacySerialization := serializeNativeWithdrawalM6Legacy blindedTransaction
  { blindedTransaction := blindedTransaction
    burnCommitment := burnCommitment
    burnAmount := burnAmount
    parentFee := parentFee
    payoutAmount := payoutAmount
    destination := destination
    legacySerialization := legacySerialization
    m6id := H.hash legacySerialization }

/-- The template of a withdrawal of a burn.  A withdrawal may leave its payout open as zero. -/
def buildNativeWithdrawalM6 (withdrawal : NativeWithdrawal) :
    Except String NativeWithdrawalM6 := do
  rejectIf (elementsGenesis = 0) "blinded M6 Elements genesis is null"
  rejectIf (burnTxid = 0 ∨ burnVout = 0xffffffff) "blinded M6 burn outpoint is unknown"
  rejectIf (¬DestinationSize withdrawal.destination)
    "blinded M6 destination size is outside 1..128 bytes"
  let payoutAmount ← checkAmounts withdrawal.burnAmount withdrawal.parentFee
  rejectIf (withdrawal.payoutAmount ≠ 0 ∧ withdrawal.payoutAmount ≠ payoutAmount)
    "blinded M6 withdrawal has an inconsistent payout amount"
  pure (nativeWithdrawalM6 H elementsGenesis sidechainSlot burnTxid burnVout withdrawal.burnAmount
    withdrawal.parentFee payoutAmount withdrawal.destination)

/-- The outputs of a transaction that has the shape of a template. -/
def templateOutputs (tx : CTransaction) : Option (CTxOut × CTxOut × CTxOut) :=
  if tx.version ≠ CURRENT_VERSION ∨ tx.nLockTime ≠ 0 ∨ tx.vin ≠ [] then none
  else
    match tx.vout with
    | [feeOutput, commitmentOutput, payoutOutput] =>
      some (feeOutput, commitmentOutput, payoutOutput)
    | _ => none

/-- What a template says, if it is one for the given burn. -/
def parseNativeWithdrawalM6 (blindedTransaction : CTransaction) :
    Except String NativeWithdrawalM6 := do
  rejectIf (elementsGenesis = 0) "blinded M6 Elements genesis is null"
  rejectIf (burnTxid = 0 ∨ burnVout = 0xffffffff) "blinded M6 burn outpoint is unknown"
  let (feeOutput, commitmentOutput, payoutOutput) ← orReject (templateOutputs blindedTransaction)
    "blinded M6 does not have canonical version, inputs, outputs, and locktime"
  rejectIf (feeOutput.nValue ≠ 0 ∨ commitmentOutput.nValue ≠ 0)
    "blinded M6 commitment outputs are not zero-valued"
  let feeBytes ← orReject (extractSingleCanonicalPush feeOutput.scriptPubKey 8)
    "blinded M6 fee commitment is not canonical"
  let parentFee ← decodeFee feeBytes
  let parsed ← parseNativeWithdrawalM6Commitment commitmentOutput.scriptPubKey
  rejectIf (parsed ≠ (elementsGenesis, sidechainSlot, burnTxid, burnVout))
    "blinded M6 burn reference does not match its Elements outpoint"
  let expectedCommitment :=
    computeNativeWithdrawalM6Commitment elementsGenesis sidechainSlot burnTxid burnVout
  rejectIf (¬DestinationSize payoutOutput.scriptPubKey ∨ payoutOutput.nValue ≤ 0 ∨
      ¬MoneyRange payoutOutput.nValue ∨ parentFee > MAX_MONEY - payoutOutput.nValue)
    "blinded M6 payout is outside canonical bounds"
  let burnAmount := parentFee + payoutOutput.nValue
  let checkedPayout ← checkAmounts burnAmount parentFee
  -- The source gives no reason here; the bounds above leave no input that reaches it.
  rejectIf (checkedPayout ≠ payoutOutput.nValue) ""
  let legacySerialization := serializeNativeWithdrawalM6Legacy blindedTransaction
  pure {
    blindedTransaction := blindedTransaction
    burnCommitment := expectedCommitment
    burnAmount := burnAmount
    parentFee := parentFee
    payoutAmount := payoutOutput.nValue
    destination := payoutOutput.scriptPubKey
    legacySerialization := legacySerialization
    m6id := H.hash legacySerialization }

/-- The withdrawal that a template says. -/
def NativeWithdrawalM6.withdrawal (m6 : NativeWithdrawalM6) (parentGenesis : Uint256) :
    NativeWithdrawal :=
  ⟨parentGenesis, m6.destination, m6.burnAmount, m6.parentFee, m6.payoutAmount⟩

end Hashing

theorem templateOutputs_eq_some {tx : CTransaction} {a b c : CTxOut} :
    templateOutputs tx = some (a, b, c) ↔
      tx = { version := CURRENT_VERSION, nLockTime := 0, vin := [], vout := [a, b, c] } := by
  constructor
  · intro h
    obtain ⟨vin, vout, version, lock⟩ := tx
    unfold templateOutputs at h
    split_ifs at h with hshape
    split at h
    · rename_i hvout
      simp only [not_or, not_not] at hshape hvout
      obtain ⟨rfl, rfl, rfl⟩ := hshape
      cases h
      rw [hvout]
    · cases h
  · rintro rfl
    rfl

variable {H : ParentHashing} {m6 : NativeWithdrawalM6}

theorem buildNativeWithdrawalM6_eq_ok {w : NativeWithdrawal} :
    buildNativeWithdrawalM6 H elementsGenesis sidechainSlot burnTxid burnVout w = .ok m6 ↔
      elementsGenesis ≠ 0 ∧ (burnTxid ≠ 0 ∧ burnVout ≠ 0xffffffff) ∧
      DestinationSize w.destination ∧
      ∃ payoutAmount, checkAmounts w.burnAmount w.parentFee = .ok payoutAmount ∧
        (w.payoutAmount ≠ 0 → w.payoutAmount = payoutAmount) ∧
        m6 = nativeWithdrawalM6 H elementsGenesis sidechainSlot burnTxid burnVout w.burnAmount
          w.parentFee payoutAmount w.destination := by
  simp only [buildNativeWithdrawalM6, bind_eq_ok, rejectIf_eq_ok, pure_eq_ok, not_or, not_and,
    not_not]
  constructor
  · rintro ⟨_, hgenesis, _, hburn, _, hdestination, payout, hpayout, _, hsame, rfl⟩
    exact ⟨hgenesis, hburn, hdestination, payout, hpayout, hsame, rfl⟩
  · rintro ⟨hgenesis, hburn, hdestination, payout, hpayout, hsame, rfl⟩
    exact ⟨(), hgenesis, (), hburn, (), hdestination, payout, hpayout, (), hsame, rfl⟩

/-- **A template is accepted exactly if it was built** from what is read from it. -/
theorem parseNativeWithdrawalM6_eq_ok {tx : CTransaction} (parentGenesis : Uint256) :
    parseNativeWithdrawalM6 H elementsGenesis sidechainSlot burnTxid burnVout tx = .ok m6 ↔
      buildNativeWithdrawalM6 H elementsGenesis sidechainSlot burnTxid burnVout
        (m6.withdrawal parentGenesis) = .ok m6 ∧ m6.blindedTransaction = tx := by
  rw [buildNativeWithdrawalM6_eq_ok]
  simp only [parseNativeWithdrawalM6, bind_eq_ok, rejectIf_eq_ok, pure_eq_ok, orReject_eq_ok,
    not_or, not_not, extractSingleCanonicalPush_eq_some (show 8 < 2 ^ 32 by decide),
    decodeFee_eq_ok]
  constructor
  · rintro ⟨_, hgenesis, _, hburn, ⟨fee, commitment, payout⟩, houtputs, _, ⟨hfee₀, hcommitment₀⟩,
      feeBytes, ⟨-, hfeeScript⟩, parentFee, ⟨-, rfl⟩, _, hparsed, _, rfl, _, hbounds,
      checked, hchecked, _, rfl, rfl⟩
    obtain rfl := templateOutputs_eq_some.1 houtputs
    obtain ⟨hreference, -⟩ := parseNativeWithdrawalM6Commitment_eq_ok.1 hparsed
    have htransaction : templateTransaction parentFee (computeNativeWithdrawalM6Commitment
        elementsGenesis sidechainSlot burnTxid burnVout) payout.nValue payout.scriptPubKey =
        { version := CURRENT_VERSION, nLockTime := 0, vin := [],
          vout := [fee, commitment, payout] } := by
      rw [templateTransaction, ← hfeeScript, ← hreference]
      cases fee
      cases commitment
      cases hfee₀
      cases hcommitment₀
      rfl
    refine ⟨⟨hgenesis, hburn, hbounds.1, payout.nValue, hchecked, fun _ => rfl, ?_⟩, rfl⟩
    rw [nativeWithdrawalM6, ← htransaction]
    rfl
  · rintro ⟨⟨hgenesis, hburn, hdestination, payout, hpayout, -, hm6⟩, rfl⟩
    obtain ⟨hburnMoney, hfee, hpos, hsum⟩ := checkAmounts_eq_ok.1 hpayout
    generalize m6.withdrawal parentGenesis = w at hm6 hsum hpayout hfee hburnMoney hdestination
    have hbound : w.parentFee ≤ MAX_MONEY - payout := by
      have := hburnMoney.2
      omega
    have hpayoutMoney : MoneyRange payout := by
      have := hfee.nonneg
      exact ⟨hpos.le, by omega⟩
    subst hm6
    refine ⟨(), hgenesis, (), hburn, _, templateOutputs_eq_some.2 rfl, (), ⟨rfl, rfl⟩, _,
      ⟨length_encodeFee _, rfl⟩, w.parentFee, ⟨hfee, rfl⟩, _,
      parseNativeWithdrawalM6Commitment_eq_ok.2 ⟨rfl, hgenesis, hburn⟩, (), rfl, (),
      ⟨hdestination, not_le.2 hpos, hpayoutMoney, not_lt.2 hbound⟩, payout, ?_, (), rfl, ?_⟩
    · rwa [← hsum]
    · rw [nativeWithdrawalM6, hsum]

/-- A template that was built is accepted, and says what it was built from. -/
theorem parseNativeWithdrawalM6_build {w : NativeWithdrawal}
    (h : buildNativeWithdrawalM6 H elementsGenesis sidechainSlot burnTxid burnVout w = .ok m6) :
    parseNativeWithdrawalM6 H elementsGenesis sidechainSlot burnTxid burnVout
        m6.blindedTransaction = .ok m6 ∧
      m6.withdrawal w.parentGenesis = { w with payoutAmount := w.burnAmount - w.parentFee } := by
  obtain ⟨hgenesis, hburn, hdestination, payout, hpayout, -, rfl⟩ :=
    buildNativeWithdrawalM6_eq_ok.1 h
  have hsum := (checkAmounts_eq_ok.1 hpayout).2.2.2
  constructor
  · rw [parseNativeWithdrawalM6_eq_ok w.parentGenesis, buildNativeWithdrawalM6_eq_ok]
    exact ⟨⟨hgenesis, hburn, hdestination, payout, hpayout, fun _ => rfl, rfl⟩, rfl⟩
  · simp [NativeWithdrawalM6.withdrawal, nativeWithdrawalM6, hsum]

theorem burnAmount_of_parse {tx : CTransaction}
    (h : parseNativeWithdrawalM6 H elementsGenesis sidechainSlot burnTxid burnVout tx = .ok m6) :
    m6.burnAmount = m6.parentFee + m6.payoutAmount := by
  obtain ⟨hbuild, -⟩ := (parseNativeWithdrawalM6_eq_ok 0).1 h
  obtain ⟨-, -, -, payout, hpayout, -, hm6⟩ := buildNativeWithdrawalM6_eq_ok.1 hbuild
  obtain rfl : m6.payoutAmount = payout := congrArg NativeWithdrawalM6.payoutAmount hm6
  exact (checkAmounts_eq_ok.1 hpayout).2.2.2

/-- **The encodings of native withdrawals are exact.**  An output or a template that was built is
read back as what it was built from, the reference to the burn included; one that is accepted is the
one built from what is read from it, so that a withdrawal has one encoding; and what is burned is
the fee and the payout together. -/
theorem native_codecs_exact (H : ParentHashing) :
    (∀ peggedAsset parentGenesis destination burnAmount parentFee output,
      buildNativeWithdrawalOutput peggedAsset parentGenesis destination burnAmount parentFee =
          .ok output →
        ∀ outputWitness : Option Child.CTxOutWitness, (∀ witness ∈ outputWitness, witness.IsNull) →
          parseNativeWithdrawalOutput output outputWitness peggedAsset parentGenesis =
            .ok ⟨parentGenesis, destination, burnAmount, parentFee, burnAmount - parentFee⟩) ∧
    (∀ peggedAsset parentGenesis output outputWitness w,
      parseNativeWithdrawalOutput output outputWitness peggedAsset parentGenesis = .ok w →
        buildNativeWithdrawalOutput peggedAsset parentGenesis w.destination w.burnAmount
          w.parentFee = .ok output ∧
        w.parentGenesis = parentGenesis ∧ w.burnAmount = w.parentFee + w.payoutAmount ∧
        ∀ output' outputWitness',
          parseNativeWithdrawalOutput output' outputWitness' peggedAsset parentGenesis = .ok w →
            output' = output) ∧
    (∀ elementsGenesis sidechainSlot burnTxid burnVout w m6,
      buildNativeWithdrawalM6 H elementsGenesis sidechainSlot burnTxid burnVout w = .ok m6 →
        parseNativeWithdrawalM6 H elementsGenesis sidechainSlot burnTxid burnVout
          m6.blindedTransaction = .ok m6 ∧
        m6.withdrawal w.parentGenesis = { w with payoutAmount := w.burnAmount - w.parentFee } ∧
        ∃ feeOutput commitmentOutput payoutOutput,
          m6.blindedTransaction.vout = [feeOutput, commitmentOutput, payoutOutput] ∧
          parseNativeWithdrawalM6Commitment commitmentOutput.scriptPubKey =
            .ok (elementsGenesis, sidechainSlot, burnTxid, burnVout)) ∧
    (∀ elementsGenesis sidechainSlot burnTxid burnVout tx m6,
      parseNativeWithdrawalM6 H elementsGenesis sidechainSlot burnTxid burnVout tx = .ok m6 →
        (∀ parentGenesis, buildNativeWithdrawalM6 H elementsGenesis sidechainSlot burnTxid burnVout
          (m6.withdrawal parentGenesis) = .ok m6) ∧
        m6.blindedTransaction = tx ∧ m6.legacySerialization = tx.serializeNoWitness ∧
        m6.burnAmount = m6.parentFee + m6.payoutAmount ∧
        ∀ tx' m6', parseNativeWithdrawalM6 H elementsGenesis sidechainSlot burnTxid burnVout tx' =
            .ok m6' → m6'.withdrawal 0 = m6.withdrawal 0 → tx' = tx) := by
  refine ⟨?_, ?_, ?_, ?_⟩
  · intro asset genesis destination burn fee output hbuild witness hwitness
    exact parseNativeWithdrawalOutput_eq_ok.2 ⟨hbuild, hwitness, rfl, by simp⟩
  · intro asset genesis output witness w hparse
    obtain ⟨hbuild, -, hgenesis, hsum⟩ := parseNativeWithdrawalOutput_eq_ok.1 hparse
    refine ⟨hbuild, hgenesis, hsum, fun output' witness' hparse' => ?_⟩
    obtain ⟨hbuild', -⟩ := parseNativeWithdrawalOutput_eq_ok.1 hparse'
    exact Except.ok.inj (hbuild'.symm.trans hbuild)
  · intro genesis slot txid vout w m6 hbuild
    obtain ⟨hparse, hwithdrawal⟩ := parseNativeWithdrawalM6_build hbuild
    obtain ⟨hgenesis, hburn, -, payout, -, -, rfl⟩ := buildNativeWithdrawalM6_eq_ok.1 hbuild
    exact ⟨hparse, hwithdrawal, _, _, _, rfl,
      parseNativeWithdrawalM6Commitment_eq_ok.2 ⟨rfl, hgenesis, hburn⟩⟩
  · intro genesis slot txid vout tx m6 hparse
    have hbuild : ∀ parentGenesis, _ := fun parentGenesis =>
      (parseNativeWithdrawalM6_eq_ok parentGenesis).1 hparse
    obtain ⟨hbuild₀, rfl⟩ := hbuild 0
    refine ⟨fun parentGenesis => (hbuild parentGenesis).1, rfl, ?_, burnAmount_of_parse hparse, ?_⟩
    · obtain ⟨-, -, -, payout, -, -, hm6⟩ := buildNativeWithdrawalM6_eq_ok.1 hbuild₀
      rw [hm6]
      rfl
    · intro tx' m6' hparse' hsame
      obtain ⟨hbuild', rfl⟩ := (parseNativeWithdrawalM6_eq_ok 0).1 hparse'
      rw [hsame] at hbuild'
      rw [Except.ok.inj (hbuild'.symm.trans hbuild₀)]

/-- A withdrawal of a thousand satoshis with a fee of ten. -/
def Sample.withdrawal : NativeWithdrawal where
  parentGenesis := .ofByte 1
  destination := [0x51]
  burnAmount := 1000
  parentFee := 10
  payoutAmount := 0

theorem native_codecs_exact_sample :
    ∃ output m6,
      (buildNativeWithdrawalOutput (.ofByte 2) (.ofByte 1) [0x51] 1000 10 = .ok output ∧
        parseNativeWithdrawalOutput output none (.ofByte 2) (.ofByte 1) =
          .ok { Sample.withdrawal with payoutAmount := 990 }) ∧
      buildNativeWithdrawalM6 ⟨fun _ => 0, fun _ => 0, fun _ => 0⟩ (.ofByte 3) 24 (.ofByte 4) 0
          Sample.withdrawal = .ok m6 ∧
        parseNativeWithdrawalM6 ⟨fun _ => 0, fun _ => 0, fun _ => 0⟩ (.ofByte 3) 24 (.ofByte 4) 0
          m6.blindedTransaction = .ok m6 := by
  obtain ⟨houtput, -, htemplate, -⟩ := native_codecs_exact ⟨fun _ => 0, fun _ => 0, fun _ => 0⟩
  exact ⟨_, _, ⟨rfl, houtput _ _ _ _ _ _ rfl none (by simp)⟩, rfl,
    (htemplate _ _ _ _ Sample.withdrawal _ rfl).1⟩

end ElementsDrivechain.Native
