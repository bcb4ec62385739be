import ElementsDrivechain.Native.Template

/-!
# Templates as byte strings

A template has no inputs, and the general format of transactions cannot tell such a transaction
from one with witnesses.  Templates are therefore stored in the older format without witnesses, and
what is read is first compared with the frame of a template: no inputs and three outputs, with the
sizes their scripts can have.

* `consumeOutput_eq_some` : the frame check steps over one output.
* `deserializeNativeWithdrawalM6Legacy_eq_ok` : **exactly the serialisations of framed transactions
  are read**, each as the transaction it is the serialisation of.
* `nativeWithdrawalM6_legacy_canonical` : the decoder is canonical, and inverts the builder.
-/

namespace ElementsDrivechain

/-! ### Reading transactions -/

/-- Read an input. -/
def CTxIn.read : Reader CTxIn := do
  let hash ← Reader.uint256
  let n ← Reader.number 4
  let scriptSig ← Reader.bytes
  let nSequence ← Reader.number 4
  return {
    prevout := { hash := hash, n := n }, scriptSig := scriptSig,
    nSequence := nSequence }

/-- Read an output. -/
def CTxOut.read : Reader CTxOut := do
  let nValue ← Reader.int64
  let scriptPubKey ← Reader.bytes
  return { nValue := nValue, scriptPubKey := scriptPubKey }

/-- Read a transaction without witnesses. -/
def CTransaction.readNoWitness : Reader CTransaction := do
  let version ← Reader.number 4
  let vin ← CTxIn.read.vector
  let vout ← CTxOut.read.vector
  let nLockTime ← Reader.number 4
  return { version := version, vin := vin, vout := vout, nLockTime := nLockTime }

theorem CTxOut.reads {output : CTxOut} (hvalue : -2 ^ 63 ≤ output.nValue ∧ output.nValue < 2 ^ 63)
    (hscript : output.scriptPubKey.length < 253) :
    Reader.Reads CTxOut.read output output.serialize := by
  unfold CTxOut.read CTxOut.serialize
  refine (Reader.Reads.int64 hvalue.1 hvalue.2).bind ?_
  rw [← List.append_nil (serializeBytes _)]
  exact (Reader.Reads.bytes hscript).bind (Reader.Reads.pure _)

namespace Native

open Fallible

/-- The size of a template with the longest destination. -/
def NATIVE_WITHDRAWAL_MAX_M6_LEGACY_SIZE : ℕ := 251

/-! ### The frame -/

/-- Step over an output with a script of a bounded size. -/
def consumeOutput (bytes : Bytes) (minimumScriptSize maximumScriptSize cursor : ℕ) : Option ℕ :=
  if cursor > bytes.length ∨ bytes.length - cursor < 9 then none
  else
    let scriptSize := (bytes.getD (cursor + 8) 0).toNat
    if scriptSize < minimumScriptSize ∨ scriptSize > maximumScriptSize ∨
        bytes.length - cursor < 9 + scriptSize then
      none
    else some (cursor + (9 + scriptSize))

/-- Step over the three outputs of a template. -/
def consumeOutputs (bytes : Bytes) : Option ℕ := do
  let cursor ← consumeOutput bytes 10 10 6
  let cursor ← consumeOutput bytes 76 76 cursor
  consumeOutput bytes 1 NATIVE_WITHDRAWAL_MAX_DESTINATION_SIZE cursor

/-- Read a template. -/
def deserializeNativeWithdrawalM6Legacy (bytes : Bytes) : Except String CTransaction := do
  rejectIf (bytes.length < 124 ∨ bytes.length > NATIVE_WITHDRAWAL_MAX_M6_LEGACY_SIZE ∨
      bytes.getD 4 0 ≠ 0 ∨ bytes.getD 5 0 ≠ 3)
    "blinded M6 does not have the bounded legacy zero-input/three-output frame"
  rejectIf (¬∃ cursor ∈ consumeOutputs bytes, cursor ≤ bytes.length ∧ bytes.length - cursor = 4)
    "blinded M6 has noncanonical output lengths or trailing bytes"
  match CTransaction.readNoWitness bytes with
  | .ok (transaction, rest) =>
    if rest ≠ [] then throw "blinded M6 legacy serialization has trailing bytes"
    else pure transaction
  | .error e => throw s!"invalid blinded M6 legacy serialization: {e}"

/-- A transaction that has the frame of a template, with fields of the width of their types. -/
structure TemplateFrame (tx : CTransaction) : Prop where
  version : tx.version < 2 ^ 32
  nLockTime : tx.nLockTime < 2 ^ 32
  vin : tx.vin = []
  vout : ∃ fee commitment payout, tx.vout = [fee, commitment, payout] ∧
    fee.scriptPubKey.length = 10 ∧ commitment.scriptPubKey.length = 76 ∧
    1 ≤ payout.scriptPubKey.length ∧ payout.scriptPubKey.length ≤ 128
  nValue : ∀ output ∈ tx.vout, -2 ^ 63 ≤ output.nValue ∧ output.nValue < 2 ^ 63

/-! ### Bytes of an output -/

/-- The bytes of an output whose value has eight bytes and whose script is short. -/
def outputBytes (value script : Bytes) : Bytes := value ++ (UInt8.ofNat script.length :: script)

section Frame

variable {bytes value script rest : Bytes} {minimumScriptSize maximumScriptSize cursor next : ℕ}

theorem drop_eq_getD_cons {n : ℕ} (h : n < bytes.length) :
    bytes.drop n = bytes.getD n 0 :: bytes.drop (n + 1) := by
  rw [List.drop_eq_getElem_cons h, List.getD_eq_getElem?_getD, List.getElem?_eq_getElem h]
  rfl

theorem length_outputBytes (hvalue : value.length = 8) :
    (outputBytes value script).length = 9 + script.length := by
  simp [outputBytes, hvalue]
  omega

/-- **The frame check steps over one output.** -/
theorem consumeOutput_eq_some (hmaximum : maximumScriptSize < 256) :
    consumeOutput bytes minimumScriptSize maximumScriptSize cursor = some next ↔
      ∃ value script, value.length = 8 ∧ minimumScriptSize ≤ script.length ∧
        script.length ≤ maximumScriptSize ∧ cursor ≤ bytes.length ∧
        next = cursor + (9 + script.length) ∧
        bytes.drop cursor = outputBytes value script ++ bytes.drop next := by
  unfold consumeOutput
  constructor
  · intro h
    dsimp only at h
    split_ifs at h with hroom hsize
    simp only [not_or, not_lt, gt_iff_lt] at hroom hsize
    obtain rfl := Option.some.inj h
    generalize hscript : (bytes.getD (cursor + 8) 0).toNat = size at *
    have hlength : (bytes.drop cursor).length = bytes.length - cursor := List.length_drop
    refine ⟨(bytes.drop cursor).take 8, (bytes.drop (cursor + 9)).take size, ?_, ?_, ?_, hroom.1,
      ?_, ?_⟩
    · rw [List.length_take, hlength]; omega
    · rw [List.length_take, List.length_drop]; omega
    · rw [List.length_take, List.length_drop]; omega
    · rw [List.length_take, List.length_drop]; omega
    · have hsizes : ((bytes.drop (cursor + 9)).take size).length = size := by
        rw [List.length_take, List.length_drop]; omega
      have hbyte : UInt8.ofNat size = bytes.getD (cursor + 8) 0 := by
        rw [← hscript, UInt8.ofNat_toNat]
      have hdrop : bytes.drop (cursor + 8) = _ := drop_eq_getD_cons (by omega)
      have hrest : bytes.drop (cursor + 9) =
          (bytes.drop (cursor + 9)).take size ++ bytes.drop (cursor + (9 + size)) := by
        rw [← Nat.add_assoc, ← List.drop_drop (i := size), List.take_append_drop]
      calc bytes.drop cursor
          = (bytes.drop cursor).take 8 ++ bytes.drop (cursor + 8) := by
            rw [← List.drop_drop, List.take_append_drop]
        _ = (bytes.drop cursor).take 8 ++ (bytes.getD (cursor + 8) 0 ::
              ((bytes.drop (cursor + 9)).take size ++ bytes.drop (cursor + (9 + size)))) := by
            rw [hdrop, ← hrest]
        _ = _ := by
            rw [outputBytes, hsizes, hbyte]
            simp
  · rintro ⟨value, script, hvalue, hmin, hmax, hcursor, rfl, hdrop⟩
    have hlength := congrArg List.length hdrop
    rw [List.length_append, length_outputBytes hvalue, List.length_drop,
      List.length_drop] at hlength
    have hbyte : bytes.getD (cursor + 8) 0 = UInt8.ofNat script.length := by
      have hget := congrArg (·[8]?) hdrop
      simp only [outputBytes, List.getElem?_drop, List.append_assoc] at hget
      rw [List.getElem?_append_right (by omega), hvalue] at hget
      rw [List.getD_eq_getElem?_getD, hget]
      rfl
    have hsize : (bytes.getD (cursor + 8) 0).toNat = script.length := by
      rw [hbyte]
      exact UInt8.toNat_ofNat_of_lt' (hmax.trans_lt hmaximum)
    simp only [hsize]
    rw [if_neg (by omega), if_neg (by omega)]

/-- A byte string of the length of a number is the number that it spells. -/
theorem writeLE_readLE_of_length {width : ℕ} (h : bytes.length = width) :
    writeLE width (readLE bytes) = bytes := h ▸ writeLE_readLE bytes

theorem serialize_output (hvalue : value.length = 8) (hscript : script.length < 253) :
    ∃ output : CTxOut, (-2 ^ 63 ≤ output.nValue ∧ output.nValue < 2 ^ 63) ∧
      output.scriptPubKey = script ∧ output.serialize = outputBytes value script := by
  have hlt : readLE value < 2 ^ 64 := (readLE_lt value).trans_eq (by rw [hvalue]; norm_num)
  refine ⟨⟨if readLE value < 2 ^ 63 then (readLE value : ℤ) else readLE value - 2 ^ 64, script⟩,
    ?_, rfl, ?_⟩
  · dsimp only
    split_ifs <;> omega
  · have hmod : ((if readLE value < 2 ^ 63 then (readLE value : ℤ)
        else readLE value - 2 ^ 64) % 2 ^ 64).toNat = readLE value := by
      split_ifs <;> omega
    unfold CTxOut.serialize serializeBytes writeCompactSize outputBytes
    rw [hmod, writeLE_readLE_of_length hvalue, if_pos hscript]
    rfl

theorem outputBytes_of_serialize {output : CTxOut} (hscript : output.scriptPubKey.length < 253) :
    output.serialize = outputBytes (writeLE 8 (output.nValue % 2 ^ 64).toNat)
      output.scriptPubKey := by
  unfold CTxOut.serialize serializeBytes writeCompactSize outputBytes
  rw [if_pos hscript]
  rfl

theorem serializeNoWitness_frame {tx : CTransaction} {fee commitment payout : CTxOut}
    (hvin : tx.vin = []) (hvout : tx.vout = [fee, commitment, payout]) :
    tx.serializeNoWitness = writeLE 4 tx.version ++ (0 :: 3 :: (fee.serialize ++
      (commitment.serialize ++ (payout.serialize ++ writeLE 4 tx.nLockTime)))) := by
  unfold CTransaction.serializeNoWitness writeCompactSize
  simp [hvin, hvout]

theorem TemplateFrame.reads {tx : CTransaction} (h : TemplateFrame tx) :
    Reader.Reads CTransaction.readNoWitness tx tx.serializeNoWitness := by
  obtain ⟨fee, commitment, payout, hvout, hfee, hcommitment, -, hpayout⟩ := h.vout
  have houtputs : ∀ output ∈ tx.vout, Reader.Reads CTxOut.read output output.serialize := by
    intro output houtput
    refine CTxOut.reads (h.nValue output houtput) ?_
    rw [hvout] at houtput
    simp only [List.mem_cons, List.not_mem_nil, or_false] at houtput
    obtain rfl | rfl | rfl := houtput <;> omega
  have hinputs : ∀ input ∈ tx.vin, Reader.Reads CTxIn.read input input.serialize := by
    simp [h.vin]
  unfold CTransaction.readNoWitness CTransaction.serializeNoWitness
  simp only [List.append_assoc]
  refine (Reader.Reads.number h.version).bind ?_
  rw [← List.append_assoc (writeCompactSize tx.vin.length)]
  refine (Reader.Reads.vector (by simp [h.vin]) hinputs).bind ?_
  rw [← List.append_assoc (writeCompactSize tx.vout.length)]
  refine (Reader.Reads.vector (by simp [hvout, MAX_SIZE]) houtputs).bind ?_
  rw [← List.append_nil (writeLE 4 tx.nLockTime)]
  exact (Reader.Reads.number h.nLockTime).bind (Reader.Reads.pure _)

theorem consumeOutputs_eq_some : consumeOutputs bytes = some next ↔
    ∃ v₁ s₁ v₂ s₂ v₃ s₃, v₁.length = 8 ∧ v₂.length = 8 ∧ v₃.length = 8 ∧ s₁.length = 10 ∧
      s₂.length = 76 ∧ 1 ≤ s₃.length ∧ s₃.length ≤ 128 ∧ 6 ≤ bytes.length ∧
      next = 6 + 19 + 85 + (9 + s₃.length) ∧
      bytes.drop 6 = outputBytes v₁ s₁ ++ (outputBytes v₂ s₂ ++
        (outputBytes v₃ s₃ ++ bytes.drop next)) := by
  unfold consumeOutputs
  simp only [Option.bind_eq_bind, Option.bind_eq_some_iff,
    consumeOutput_eq_some (show 10 < 256 by decide),
    consumeOutput_eq_some (show 76 < 256 by decide),
    consumeOutput_eq_some (show NATIVE_WITHDRAWAL_MAX_DESTINATION_SIZE < 256 by decide)]
  constructor
  · rintro ⟨_, ⟨v₁, s₁, hv₁, hmin₁, hmax₁, hstart, rfl, hdrop₁⟩, _, ⟨v₂, s₂, hv₂, hmin₂, hmax₂, -,
      rfl, hdrop₂⟩, v₃, s₃, hv₃, hmin₃, hmax₃, -, rfl, hdrop₃⟩
    have hs₁ : s₁.length = 10 := le_antisymm hmax₁ hmin₁
    have hs₂ : s₂.length = 76 := le_antisymm hmax₂ hmin₂
    refine ⟨v₁, s₁, v₂, s₂, v₃, s₃, hv₁, hv₂, hv₃, hs₁, hs₂, hmin₃, hmax₃, hstart, ?_, ?_⟩
    · rw [hs₁, hs₂]
    · rw [hdrop₁, hdrop₂, hdrop₃]
  · rintro ⟨v₁, s₁, v₂, s₂, v₃, s₃, hv₁, hv₂, hv₃, hs₁, hs₂, hmin₃, hmax₃, hstart, rfl, hdrop⟩
    have hlength := congrArg List.length hdrop
    simp only [List.length_append, length_outputBytes hv₁, length_outputBytes hv₂,
      length_outputBytes hv₃, List.length_drop, hs₁, hs₂] at hlength
    have hdrop₁ : bytes.drop (6 + (9 + s₁.length)) = outputBytes v₂ s₂ ++
        (outputBytes v₃ s₃ ++ bytes.drop (6 + 19 + 85 + (9 + s₃.length))) := by
      rw [← List.drop_drop, hdrop, List.drop_left' (length_outputBytes hv₁)]
    have hdrop₂ : bytes.drop (6 + (9 + s₁.length) + (9 + s₂.length)) =
        outputBytes v₃ s₃ ++ bytes.drop (6 + 19 + 85 + (9 + s₃.length)) := by
      rw [← List.drop_drop, hdrop₁, List.drop_left' (length_outputBytes hv₂)]
    refine ⟨_, ⟨v₁, s₁, hv₁, hs₁.ge, hs₁.le, hstart, rfl, by rw [hdrop, hdrop₁]⟩, _, ⟨v₂, s₂, hv₂,
      hs₂.ge, hs₂.le, by omega, rfl, by rw [hdrop₁, hdrop₂]⟩, v₃, s₃, hv₃, hmin₃, hmax₃, by omega,
      by rw [hs₁, hs₂], hdrop₂⟩

/-- A byte string that passes the checks of the frame is the serialisation of a framed
transaction. -/
theorem exists_templateFrame {cursor : ℕ} (hsize : 124 ≤ bytes.length) (hvin : bytes.getD 4 0 = 0)
    (hvout : bytes.getD 5 0 = 3) (hconsume : consumeOutputs bytes = some cursor)
    (hend : cursor ≤ bytes.length ∧ bytes.length - cursor = 4) :
    ∃ tx, TemplateFrame tx ∧ tx.serializeNoWitness = bytes := by
  obtain ⟨v₁, s₁, v₂, s₂, v₃, s₃, hv₁, hv₂, hv₃, hs₁, hs₂, hmin₃, hmax₃, -, rfl, hdrop⟩ :=
    consumeOutputs_eq_some.1 hconsume
  obtain ⟨fee, hfee, rfl, hfeeBytes⟩ := serialize_output hv₁ (by omega : s₁.length < 253)
  obtain ⟨commitment, hcommitment, rfl, hcommitmentBytes⟩ :=
    serialize_output hv₂ (by omega : s₂.length < 253)
  obtain ⟨payout, hpayout, rfl, hpayoutBytes⟩ := serialize_output hv₃ (by omega : s₃.length < 253)
  generalize hlock : bytes.drop (6 + 19 + 85 + (9 + payout.scriptPubKey.length)) = lock at hdrop
  have hlockLength : lock.length = 4 := by rw [← hlock, List.length_drop]; exact hend.2
  have hversionLength : (bytes.take 4).length = 4 := by rw [List.length_take]; omega
  have hlt : ∀ b : Bytes, b.length = 4 → readLE b < 2 ^ 32 := fun b hb =>
    (readLE_lt b).trans_eq (by rw [hb]; norm_num)
  refine ⟨⟨[], [fee, commitment, payout], readLE (bytes.take 4), readLE lock⟩,
    ⟨hlt _ hversionLength, hlt _ hlockLength, rfl,
    ⟨fee, commitment, payout, rfl, hs₁, hs₂, hmin₃, hmax₃⟩, ?_⟩, ?_⟩
  · intro output houtput
    simp only [List.mem_cons, List.not_mem_nil, or_false] at houtput
    obtain rfl | rfl | rfl := houtput <;> assumption
  · rw [serializeNoWitness_frame rfl rfl, hfeeBytes, hcommitmentBytes, hpayoutBytes,
      writeLE_readLE_of_length hversionLength, writeLE_readLE_of_length hlockLength, ← hdrop]
    calc bytes.take 4 ++ (0 :: 3 :: bytes.drop 6)
        = bytes.take 4 ++ bytes.drop 4 := by
          rw [drop_eq_getD_cons (n := 4) (by omega), drop_eq_getD_cons (n := 5) (by omega), hvin,
            hvout]
      _ = bytes := List.take_append_drop 4 bytes

theorem frame_head {version : Bytes} (hversion : version.length = 4)
    (h : version ++ (0 :: 3 :: rest) = bytes) :
    bytes.getD 4 0 = 0 ∧ bytes.getD 5 0 = 3 ∧ bytes.drop 6 = rest := by
  match version, hversion with
  | [_, _, _, _], _ => exact h ▸ ⟨rfl, rfl, rfl⟩

theorem TemplateFrame.passes {tx : CTransaction} (h : TemplateFrame tx)
    (hbytes : tx.serializeNoWitness = bytes) :
    (124 ≤ bytes.length ∧ bytes.length ≤ 251) ∧ bytes.getD 4 0 = 0 ∧ bytes.getD 5 0 = 3 ∧
      ∃ cursor, consumeOutputs bytes = some cursor ∧ cursor ≤ bytes.length ∧
        bytes.length - cursor = 4 := by
  obtain ⟨fee, commitment, payout, hvout, hfee, hcommitment, hmin, hmax⟩ := h.vout
  rw [serializeNoWitness_frame h.vin hvout, outputBytes_of_serialize (by omega),
    outputBytes_of_serialize (by omega), outputBytes_of_serialize (by omega)] at hbytes
  have hvalue : ∀ output : CTxOut, (writeLE 8 (output.nValue % 2 ^ 64).toNat).length = 8 :=
    fun output => length_writeLE 8 _
  have hlength : ∀ output : CTxOut, (outputBytes (writeLE 8 (output.nValue % 2 ^ 64).toNat)
      output.scriptPubKey).length = 9 + output.scriptPubKey.length :=
    fun output => length_outputBytes (hvalue output)
  obtain ⟨hinputs, houtputs, hdrop⟩ := frame_head (length_writeLE 4 _) hbytes
  have hsize := congrArg List.length hbytes
  simp only [List.length_append, List.length_cons, hlength, length_writeLE] at hsize
  have hrest : bytes.drop (6 + 19 + 85 + (9 + payout.scriptPubKey.length)) =
      writeLE 4 tx.nLockTime := by
    have hskip : ∀ {n : ℕ} {a b : Bytes}, bytes.drop n = a ++ b → ∀ {m : ℕ}, a.length = m →
        bytes.drop (n + m) = b := fun h _ hm => by
      rw [← List.drop_drop, h, List.drop_left' hm]
    have hsplit := hskip (hskip (hskip hdrop (hlength fee)) (hlength commitment)) (hlength payout)
    rwa [hfee, hcommitment] at hsplit
  refine ⟨by omega, hinputs, houtputs, 6 + 19 + 85 + (9 + payout.scriptPubKey.length), ?_,
    by omega⟩
  exact consumeOutputs_eq_some.2 ⟨_, _, _, _, _, _, hvalue fee, hvalue commitment, hvalue payout,
    hfee, hcommitment, hmin, hmax, by omega, rfl, by rw [hdrop, hrest]⟩

/-- **Exactly the serialisations of framed transactions are read**, each as the transaction it is
the serialisation of. -/
theorem deserializeNativeWithdrawalM6Legacy_eq_ok {tx : CTransaction} :
    deserializeNativeWithdrawalM6Legacy bytes = .ok tx ↔
      TemplateFrame tx ∧ serializeNativeWithdrawalM6Legacy tx = bytes := by
  have hread : ∀ tx', TemplateFrame tx' → tx'.serializeNoWitness = bytes →
      (deserializeNativeWithdrawalM6Legacy bytes = .ok tx ↔ tx' = tx) := by
    intro tx' hframe hbytes
    obtain ⟨hsize, hinputs, houtputs, cursor, hcursor, hend⟩ := hframe.passes hbytes
    have hparse : CTransaction.readNoWitness bytes = .ok (tx', []) := by
      rw [← hbytes]
      exact hframe.reads.eq_ok
    have hsmall : ¬(bytes.length < 124 ∨ bytes.length > NATIVE_WITHDRAWAL_MAX_M6_LEGACY_SIZE ∨
        bytes.getD 4 0 ≠ 0 ∨ bytes.getD 5 0 ≠ 3) := by
      simp only [not_or, not_not]
      exact ⟨not_lt.2 hsize.1, not_lt.2 hsize.2, hinputs, houtputs⟩
    have hframed : ¬¬∃ cursor ∈ consumeOutputs bytes, cursor ≤ bytes.length ∧
        bytes.length - cursor = 4 := not_not.2 ⟨cursor, hcursor, hend⟩
    unfold deserializeNativeWithdrawalM6Legacy
    rw [rejectIf_of_not hsmall, rejectIf_of_not hframed, hparse]
    exact pure_eq_ok
  constructor
  · intro h
    have hchecks := h
    simp only [deserializeNativeWithdrawalM6Legacy, bind_eq_ok, rejectIf_eq_ok, not_or, not_not,
      not_lt] at hchecks
    obtain ⟨_, ⟨hsize, -, hinputs, houtputs⟩, _, ⟨cursor, hcursor, hend⟩, -⟩ := hchecks
    obtain ⟨tx', hframe, hbytes⟩ := exists_templateFrame hsize hinputs houtputs hcursor hend
    obtain rfl := (hread tx' hframe hbytes).1 h
    exact ⟨hframe, hbytes⟩
  · rintro ⟨hframe, hbytes⟩
    exact (hread tx hframe hbytes).2 rfl

end Frame

theorem length_singlePushScript {payload : Bytes} (h : payload.length < OP_PUSHDATA1.toNat) :
    (singlePushScript payload).length = payload.length + 2 := by
  simp [singlePushScript, pushData, appendDataSize, h]

/-- The transaction of a template that was built has the frame of a template. -/
theorem templateFrame_build {H : ParentHashing} {elementsGenesis burnTxid : Uint256}
    {sidechainSlot : UInt8} {burnVout : UInt32} {w : NativeWithdrawal} {m6 : NativeWithdrawalM6}
    (h : buildNativeWithdrawalM6 H elementsGenesis sidechainSlot burnTxid burnVout w = .ok m6) :
    TemplateFrame m6.blindedTransaction := by
  obtain ⟨-, -, hdestination, payout, hpayout, -, rfl⟩ := buildNativeWithdrawalM6_eq_ok.1 h
  obtain ⟨hburn, hfee, hpos, hsum⟩ := checkAmounts_eq_ok.1 hpayout
  have hmoney : payout < 2 ^ 63 := by
    have hmax : MAX_MONEY < 2 ^ 63 := by decide
    have := hburn.2
    have := hfee.nonneg
    omega
  refine ⟨(by decide : CURRENT_VERSION < 2 ^ 32), (by decide : 0 < 2 ^ 32), rfl,
    ⟨_, _, _, rfl, ?_, ?_, List.length_pos_of_ne_nil hdestination.1, hdestination.2⟩, ?_⟩
  · rw [length_singlePushScript (by rw [length_encodeFee]; decide), length_encodeFee]
  · have hlength : (computeNativeWithdrawalM6Commitment elementsGenesis sidechainSlot burnTxid
        burnVout).length = 74 := length_computeNativeWithdrawalM6Commitment
    rw [length_singlePushScript (by rw [hlength]; decide), hlength]
  · intro output houtput
    simp only [nativeWithdrawalM6, templateTransaction, List.mem_cons, List.not_mem_nil,
      or_false] at houtput
    obtain rfl | rfl | rfl := houtput <;> dsimp only <;> omega

/-- **The decoder of templates is canonical.**  A byte string is accepted exactly when it is the
serialisation of a transaction without inputs and with three outputs, whose scripts have 10, 76 and
1 to 128 bytes; what is read then is serialised to the same bytes; and a template that was built is
read back from its serialisation. -/
theorem nativeWithdrawalM6_legacy_canonical (H : ParentHashing) :
    (∀ bytes, (∃ tx, deserializeNativeWithdrawalM6Legacy bytes = .ok tx) ↔
      ∃ tx, TemplateFrame tx ∧ serializeNativeWithdrawalM6Legacy tx = bytes) ∧
    (∀ bytes tx, deserializeNativeWithdrawalM6Legacy bytes = .ok tx →
      serializeNativeWithdrawalM6Legacy tx = bytes) ∧
    (∀ tx, TemplateFrame tx →
      deserializeNativeWithdrawalM6Legacy (serializeNativeWithdrawalM6Legacy tx) = .ok tx) ∧
    (∀ elementsGenesis sidechainSlot burnTxid burnVout w m6,
      buildNativeWithdrawalM6 H elementsGenesis sidechainSlot burnTxid burnVout w = .ok m6 →
        deserializeNativeWithdrawalM6Legacy m6.legacySerialization =
          .ok m6.blindedTransaction) := by
  refine ⟨fun bytes => ?_, fun bytes tx h => ?_, fun tx h => ?_, ?_⟩
  · simp only [deserializeNativeWithdrawalM6Legacy_eq_ok]
  · exact (deserializeNativeWithdrawalM6Legacy_eq_ok.1 h).2
  · exact deserializeNativeWithdrawalM6Legacy_eq_ok.2 ⟨h, rfl⟩
  · intro elementsGenesis sidechainSlot burnTxid burnVout w m6 hbuild
    refine deserializeNativeWithdrawalM6Legacy_eq_ok.2 ⟨templateFrame_build hbuild, ?_⟩
    obtain ⟨-, -, -, payout, -, -, rfl⟩ := buildNativeWithdrawalM6_eq_ok.1 hbuild
    rfl

theorem nativeWithdrawalM6_legacy_canonical_sample :
    ∃ m6, buildNativeWithdrawalM6 ⟨fun _ => 0, fun _ => 0, fun _ => 0⟩ (.ofByte 3) 24 (.ofByte 4) 0
        Sample.withdrawal = .ok m6 ∧
      deserializeNativeWithdrawalM6Legacy m6.legacySerialization = .ok m6.blindedTransaction := by
  obtain ⟨-, -, -, hbuilt⟩ :=
    nativeWithdrawalM6_legacy_canonical ⟨fun _ => 0, fun _ => 0, fun _ => 0⟩
  exact ⟨_, rfl, hbuilt (.ofByte 3) 24 (.ofByte 4) 0 Sample.withdrawal _ rfl⟩

end Native

end ElementsDrivechain
