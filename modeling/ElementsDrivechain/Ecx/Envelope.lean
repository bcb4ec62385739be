import ElementsDrivechain.Ecx.Chain

/-!
# Envelopes of withdrawal bundles

The wallet builds the *bundle* that pays a withdrawal on the parent chain, a transaction without
inputs.  One of its outputs commits to the state of the exchange at a *checkpoint*, a block of the
chain.  A block that commits to a bundle carries the bytes of the bundle in an output of its
coinbase, the *envelope*, and every node reads them again with a parser of its own.

* `parseM6_serialize` : **the parser reads what the wallet writes.**
* `withdrawal_envelope_agreement` : **what the wallet builds of a checkpoint is accepted, and no
  bundle is accepted for two checkpoints of a chain.**
-/

namespace ElementsDrivechain.Ecx

open Fallible

/-! ### Bundles -/

/-- The length of a bundle. -/
def MAX_M6_SIZE : ℕ := 100000

/-- The bytes of `PXST` and `ECXM`. -/
def PXST_MAGIC : Bytes := [0x50, 0x58, 0x53, 0x54]
/-- The first bytes of an envelope. -/
def ENVELOPE_MAGIC : Bytes := [0x45, 0x43, 0x58, 0x4d]

/-- A network with withdrawal bundles. -/
structure EnvelopeNetwork extends ExchangeNetwork where
  /-- The double hash, which transaction ids are made with. -/
  hash256 : Bytes → Uint256

/-- The bundle of a withdrawal. -/
structure DrivechainWithdrawalBundle where
  noWitnessBytes : Bytes
  /-- The id of the transaction. -/
  m6id : Uint256
  /-- The bytes with the marker of a witness. -/
  bytes : Bytes
deriving DecidableEq

/-- What an anchor commits to. -/
def anchorPayload (genesis : Uint256) (height : ℕ) (previousHash commitment root : Uint256) :
    Bytes :=
  1 :: 24 :: (genesis.data ++ (writeBE 4 height ++ (previousHash.data ++ (commitment.data ++
    root.data))))

/-- The bytes of an outpoint. -/
def serializeOutPoint (o : COutPoint) : Bytes := o.hash.data ++ writeLE 4 o.n

section Builder

variable (E : EnvelopeNetwork)

/-- The anchor of a payload. -/
def anchorHash (payload : Bytes) : Uint256 :=
  taggedHash E.toExchangeCrypto "ECX/perps-m6-state/v1" payload

/-- The commitment of a bundle to its withdrawal and to the height of its block. -/
def drivechainInputsCommitment (withdrawalOutpoint : COutPoint) (sidechainBlockHeight : ℕ) :
    Uint256 :=
  E.hash256 (writeVector serializeOutPoint [withdrawalOutpoint, ⟨0, sidechainBlockHeight⟩])

/-- The hash of the state that a withdrawal is made in. -/
def buildWithdrawalStateAnchor (childGenesis : Uint256) (checkpointHeight : ℕ)
    (previousChildHash withdrawalCommitment exchangeStateRoot : Uint256) :
    Except String Uint256 := do
  rejectIf (childGenesis = 0 ∨ withdrawalCommitment = 0 ∨ exchangeStateRoot = 0)
    "Cannot create PXST marker with a null consensus commitment"
  return anchorHash E (anchorPayload childGenesis checkpointHeight previousChildHash
    withdrawalCommitment exchangeStateRoot)

/-- The output of a bundle that carries the anchor. -/
def buildWithdrawalStateMarkerScript (anchor : Uint256) : CScript :=
  Native.singlePushScript (PXST_MAGIC ++ (1 :: anchor.data))

/-- The transaction of a bundle. -/
def bundleTransaction (amount mainchainFee : ℤ) (payoutScript : CScript) (commitment : Uint256)
    (stateMarker : Option CScript) : CTransaction where
  version := 2
  vin := []
  vout := [⟨0, Native.singlePushScript (writeBE 8 mainchainFee.toNat)⟩,
    ⟨0, Native.singlePushScript commitment.data⟩, ⟨amount - mainchainFee, payoutScript⟩] ++
      stateMarker.toList.map fun script => ⟨0, script⟩

/-- Builds the transaction that pays a withdrawal out. -/
def buildBundle (amount mainchainFee : ℤ) (payoutScript : CScript)
    (withdrawalOutpoint : COutPoint) (sidechainBlockHeight : ℕ) (stateMarker : Option CScript) :
    Except String DrivechainWithdrawalBundle := do
  rejectIf (¬MoneyRange amount ∨ amount = 0 ∨ ¬MoneyRange mainchainFee ∨ amount ≤ mainchainFee ∨
      payoutScript = [] ∨ MAX_SCRIPT_SIZE < payoutScript.length ∨ withdrawalOutpoint.IsNull)
    "Invalid blinded withdrawal amount, fee, payout, or outpoint"
  let bytes := (bundleTransaction amount mainchainFee payoutScript
    (drivechainInputsCommitment E withdrawalOutpoint sidechainBlockHeight)
    stateMarker).serializeNoWitness
  return {
    noWitnessBytes := bytes
    m6id := E.hash256 bytes
    bytes := bytes.take 4 ++ ([0, 1] ++ bytes.drop 4) }

/-- Build the bundle of a withdrawal that commits to a state of the exchange. -/
def buildDrivechainWithdrawalBundle (amount mainchainFee : ℤ) (payoutScript : CScript)
    (withdrawalOutpoint : COutPoint) (sidechainBlockHeight : ℕ)
    (childGenesis previousChildHash exchangeStateRoot : Uint256) :
    Except String DrivechainWithdrawalBundle := do
  let anchor ← buildWithdrawalStateAnchor E childGenesis sidechainBlockHeight previousChildHash
    (drivechainInputsCommitment E withdrawalOutpoint sidechainBlockHeight) exchangeStateRoot
  buildBundle E amount mainchainFee payoutScript withdrawalOutpoint sidechainBlockHeight
    (some (buildWithdrawalStateMarkerScript anchor))

end Builder

/-! ### Envelopes -/

/-- What an envelope says: the checkpoint, and the bytes of the bundle. -/
structure WithdrawalBundleEnvelopeV1 where
  /-- The block whose state the withdrawal was made in. -/
  checkpointHeight : ℕ
  checkpointBlockHash : Uint256
  /-- The bytes of the bundle. -/
  m6NoWitness : Bytes
deriving DecidableEq

/-- The payload of an envelope. -/
def WithdrawalBundleEnvelopeV1.payload (envelope : WithdrawalBundleEnvelopeV1) : Bytes :=
  ENVELOPE_MAGIC ++ (1 :: (writeLE 4 envelope.checkpointHeight ++
    (envelope.checkpointBlockHash.data ++ (writeLE 4 envelope.m6NoWitness.length ++
      envelope.m6NoWitness))))

/-- The output of the coinbase that carries a bundle. -/
def buildWithdrawalBundleEnvelopeScript (envelope : WithdrawalBundleEnvelopeV1) :
    Except String CScript := do
  rejectIf (envelope.m6NoWitness = [] ∨ MAX_M6_SIZE < envelope.m6NoWitness.length)
    "ECX M6 envelope preimage size is invalid"
  return Native.singlePushScript envelope.payload

/-- The payload of a script that has to be an envelope. -/
def envelopePayload (script : CScript) : Option Bytes :=
  ((singleInstruction script).map (·.2)).filter fun payload =>
    5 ≤ payload.length ∧ payload.take 4 = ENVELOPE_MAGIC

/-- The fields of a payload. -/
def WithdrawalBundleEnvelopeV1.ofPayload (payload : Bytes) : WithdrawalBundleEnvelopeV1 where
  checkpointHeight := readLE (bytesAt payload 5 4)
  checkpointBlockHash := .ofBytes (bytesAt payload 9 32)
  m6NoWitness := payload.drop 45

/-- Take note of the envelope of an output, of which there is to be only one. -/
def noteEnvelope (seen : Option WithdrawalBundleEnvelopeV1) (output : Child.CTxOut) :
    Except String (Option WithdrawalBundleEnvelopeV1) :=
  match envelopePayload output.scriptPubKey with
  | none => pure seen
  | some payload => do
    rejectIf seen.isSome "duplicate ECX M6 envelope"
    rejectIf (payload.getD 4 0 ≠ 1 ∨ payload.length < 45) "malformed ECX M6 envelope"
    let m6Size := readLE (bytesAt payload 41 4)
    rejectIf (m6Size = 0 ∨ MAX_M6_SIZE < m6Size ∨ payload.length ≠ 45 + m6Size)
      "invalid ECX M6 envelope length"
    let parsed := WithdrawalBundleEnvelopeV1.ofPayload payload
    rejectIf (buildWithdrawalBundleEnvelopeScript parsed ≠ .ok output.scriptPubKey)
      "noncanonical ECX M6 envelope script"
    return some parsed

/-! ### The parser of bundles -/

/-- Read a size in its shortest form. -/
def readCompact : Reader ℕ := do
  let first ← Reader.number 1
  if first < 253 then pure first
  else
    let width := if first = 253 then 2 else if first = 254 then 4 else 8
    let value ← Reader.number width
    Reader.refuseIf
      (value < if width = 2 then 253 else if width = 4 then 0x10000 else 0x100000000) ""
    return value

/-- Read the version and the sizes of the two lists. -/
def readM6Start : Reader Unit := Reader.orError (do
  let version ← Reader.number 4
  Reader.refuseIf (version ≠ 2) ""
  let inputCount ← readCompact
  Reader.refuseIf (inputCount ≠ 0) ""
  let outputCount ← readCompact
  Reader.refuseIf (outputCount ≠ 4) "") "ECX M6 preimage has a noncanonical transaction prefix"

/-- Read an output. -/
def readM6TxOut : Reader (ℕ × Bytes) := Reader.orError (do
  let amount ← Reader.number 8
  let scriptSize ← readCompact
  Reader.refuseIf (MAX_SCRIPT_SIZE < scriptSize) ""
  let script ← Reader.take scriptSize
  return (amount, script.1)) "ECX M6 preimage has an invalid output"

/-- Read an output, which may have to hold nothing, and return its script. -/
def readM6Output (zeroValued : Bool) : Reader Bytes := do
  let (amount, script) ← readM6TxOut
  Reader.refuseIf (zeroValued = true ∧ amount ≠ 0)
    "ECX M6 commitment outputs must remain zero-valued"
  return script

/-- Read the end of the transaction. -/
def readM6End : Reader Unit := Reader.orError (do
  let locktime ← Reader.number 4
  Reader.refuseIf (locktime ≠ 0) "")
    "ECX M6 preimage has trailing or noncanonical locktime bytes"

/-- The scripts of a bundle. -/
structure M6Scripts where
  fee : CScript
  commitment : CScript
  payout : CScript
  marker : CScript
deriving DecidableEq

/-- Read a bundle. -/
def readM6 : Reader M6Scripts := do
  readM6Start
  let fee ← readM6Output true
  let commitment ← readM6Output true
  let payout ← readM6Output false
  let marker ← readM6Output true
  readM6End
  return { fee := fee, commitment := commitment, payout := payout, marker := marker }

/-- The scripts of the bytes of a bundle. -/
def parseM6 (raw : Bytes) : Except String M6Scripts := do
  let (scripts, rest) ← readM6 raw
  rejectIf (rest ≠ []) "ECX M6 preimage has trailing or noncanonical locktime bytes"
  return scripts

/-- The commitment and the anchor that the scripts of a bundle carry. -/
def m6Commitments (scripts : M6Scripts) : Except String (Uint256 × Bytes) := do
  rejectIf (scripts.commitment.length ≠ 34 ∨ scripts.commitment.getD 0 0 ≠ OP_RETURN ∨
      scripts.commitment.getD 1 0 ≠ 32 ∨ scripts.marker.length ≠ 39 ∨
      scripts.marker.getD 0 0 ≠ OP_RETURN ∨ scripts.marker.getD 1 0 ≠ 37 ∨
      bytesAt scripts.marker 2 4 ≠ PXST_MAGIC ∨ scripts.marker.getD 6 0 ≠ 1)
    "ECX M6 preimage lacks its canonical commitment or PXST output"
  return (.ofBytes (scripts.commitment.drop 2), scripts.marker.drop 7)

/-! ### The check of a block -/

/-- The blocks of a chain, from the first one on. -/
structure IndexChain where
  blocks : List Child.CBlockIndex
  /-- A height is an `int`. -/
  length_lt : blocks.length < 2 ^ 31
  /-- A block knows its height. -/
  nHeight : ∀ (height : ℕ) (index : Child.CBlockIndex), blocks[height]? = some index →
    index.nHeight = height

/-- The block at a height and the hash of the one before it. -/
def IndexChain.checkpoint (chain : IndexChain) (height : ℕ) :
    Option (Child.CBlockIndex × Uint256) :=
  match height with
  | 0 => none
  | before + 1 => chain.blocks[before + 1]?.bind fun index =>
    chain.blocks[before]?.map fun previous => (index, previous.hash)

section Check

variable (E : EnvelopeNetwork)

/-- The bundle of an envelope belongs to the checkpoint of the envelope. -/
def checkEnvelopeCheckpoint (chain : IndexChain) (block : Child.CBlock)
    (envelope : WithdrawalBundleEnvelopeV1) : Except String Unit := do
  rejectIf (E.hash256 envelope.m6NoWitness ≠ block.hashWithdrawalBundle)
    "ECX M6 envelope does not hash to hashWithdrawalBundle"
  rejectIf (chain.blocks.length ≤ envelope.checkpointHeight)
    "ECX M6 checkpoint is not a prior block"
  let (checkpoint, previousHash) ← orReject (chain.checkpoint envelope.checkpointHeight)
    "ECX M6 checkpoint is not the committed active-chain state"
  rejectIf (checkpoint.hash ≠ envelope.checkpointBlockHash ∨ ¬checkpoint.HasExchangeState ∨
      checkpoint.hashExchangeStateRoot = 0)
    "ECX M6 checkpoint is not the committed active-chain state"
  let scripts ← parseM6 envelope.m6NoWitness
  let (withdrawalCommitment, anchor) ← m6Commitments scripts
  rejectIf (anchor ≠ (anchorHash E (anchorPayload E.hashGenesisBlock envelope.checkpointHeight
      previousHash withdrawalCommitment checkpoint.hashExchangeStateRoot)).data)
    "ECX M6 PXST does not bind the selected active-chain checkpoint"

/-- The bundle that the block before commits to. -/
def IndexChain.bundle (chain : IndexChain) : Uint256 :=
  (chain.blocks.getLast?.map (·.hashWithdrawalBundle)).getD 0

/-- The exchange was active at the block before. -/
def PreviousEcxActive (chain : IndexChain) : Prop :=
  ∃ previous ∈ chain.blocks.getLast?,
    E.consensus.activationHeight ≤ previous.nHeight ∧ previous.HasExchangeState
deriving Decidable

/-- **The check of the envelope of a block** that follows a chain. -/
def checkWithdrawalBundleEnvelope (chain : IndexChain) (block : Child.CBlock) :
    Except String Unit :=
  if (chain.blocks.length : ℤ) < E.consensus.activationHeight then pure ()
  else do
    let coinbase ← orReject (block.vtx.head?.filter fun tx => tx.IsCoinBase)
      "ECX M6 envelope requires a coinbase transaction"
    let envelope ← coinbase.vout.foldlM noteEnvelope none
    if block.hashWithdrawalBundle = chain.bundle ∧
        (block.hashWithdrawalBundle = 0 ∨ PreviousEcxActive E chain) then
      rejectIf envelope.isSome "ECX M6 envelope may appear only when hashWithdrawalBundle changes"
    else if block.hashWithdrawalBundle = 0 then
      rejectIf envelope.isSome
        "ECX M6 envelope exists while clearing the withdrawal bundle commitment"
    else
      let envelope ← orReject envelope
        "withdrawal bundle commitment lacks its ECX M6 envelope"
      checkEnvelopeCheckpoint E chain block envelope

end Check

/-! ### What the parser reads -/

theorem reads_readCompact {size : ℕ} (h : size ≤ 0xffffffff) :
    Reader.Reads readCompact size (writeCompactSize size) := by
  by_cases hshort : size < 253
  · have hfirst : Reader.Reads (Reader.number 1) size (writeCompactSize size) := by
      rw [writeCompactSize, if_pos hshort]
      exact (Reader.Reads.number (hshort.trans (by decide)) :
        Reader.Reads (Reader.number 1) _ (writeLE 1 size))
    rw [← List.append_nil (writeCompactSize _)]
    refine hfirst.bind ?_
    rw [if_pos hshort]
    exact Reader.Reads.pure _
  obtain ⟨first, _, hbytes, hbyte, hlong, rfl, hleast, hsize⟩ :=
    writeCompactSize_long (not_lt.1 hshort) h
  rw [hbytes]
  refine (Reader.Reads.number hbyte).bind ?_
  rw [if_neg hlong, ← List.append_nil (writeLE _ _)]
  exact (Reader.Reads.number hsize).bind ((Reader.Reads.refuseIf hleast).bind (Reader.Reads.pure _))

theorem reads_readM6Start :
    Reader.Reads readM6Start () (writeLE 4 2 ++ (writeCompactSize 0 ++ writeCompactSize 4)) := by
  refine Reader.Reads.orError ?_ _
  have hinputs : Reader.Reads readCompact 0 (writeCompactSize 0) := reads_readCompact (by decide)
  have houtputs : Reader.Reads readCompact 4 (writeCompactSize 4) := reads_readCompact (by decide)
  have hversion : Reader.Reads (Reader.number 4) 2 (writeLE 4 2) := .number (by decide)
  refine hversion.bind ((Reader.Reads.refuseIf (not_not.2 rfl)).bind ?_)
  refine hinputs.bind ((Reader.Reads.refuseIf (not_not.2 rfl)).bind ?_)
  exact houtputs.bind (Reader.Reads.refuseIf (not_not.2 rfl))

theorem reads_readM6Output (zeroValued : Bool) (output : CTxOut)
    (hscript : output.scriptPubKey.length ≤ MAX_SCRIPT_SIZE)
    (hzero : zeroValued = true → output.nValue = 0) :
    Reader.Reads (readM6Output zeroValued) output.scriptPubKey output.serialize := by
  have hamount : (output.nValue % 2 ^ 64).toNat < 256 ^ 8 := by omega
  have hbytes : Reader.Reads (do
      let script ← Reader.take output.scriptPubKey.length
      return ((output.nValue % 2 ^ 64).toNat, script.1))
      ((output.nValue % 2 ^ 64).toNat, output.scriptPubKey) (output.scriptPubKey ++ []) :=
    (Reader.Reads.take rfl).bind (Reader.Reads.pure _)
  rw [List.append_nil] at hbytes
  have htxout : Reader.Reads readM6TxOut
      ((output.nValue % 2 ^ 64).toNat, output.scriptPubKey) output.serialize := by
    refine Reader.Reads.orError ?_ _
    refine (Reader.Reads.number hamount).bind ?_
    refine (reads_readCompact (hscript.trans (by decide))).bind ?_
    exact (Reader.Reads.refuseIf (not_lt.2 hscript)).bind hbytes
  rw [← List.append_nil output.serialize]
  refine htxout.bind ((Reader.Reads.refuseIf ?_).bind (Reader.Reads.pure _))
  rintro ⟨h, hne⟩
  simp [hzero h] at hne

theorem reads_readM6End : Reader.Reads readM6End () (writeLE 4 0) := by
  refine Reader.Reads.orError ?_ _
  rw [← List.append_nil (writeLE 4 0)]
  exact (Reader.Reads.number (by decide)).bind (Reader.Reads.refuseIf (by decide))

theorem singlePushScript_short {payload : Bytes} (h : payload.length < OP_PUSHDATA1.toNat) :
    Native.singlePushScript payload = OP_RETURN :: UInt8.ofNat payload.length :: payload := by
  simp [Native.singlePushScript, Native.pushData, Native.appendDataSize, h]

/-- The marker of an anchor, with the anchor as bytes. -/
def markerScript (anchor : Bytes) : CScript :=
  Native.singlePushScript (PXST_MAGIC ++ (1 :: anchor))

theorem markerScript_eq {anchor : Bytes} (h : anchor.length = 32) :
    markerScript anchor = OP_RETURN :: 37 :: (PXST_MAGIC ++ (1 :: anchor)) := by
  have hlength : (PXST_MAGIC ++ (1 :: anchor)).length = 37 := by simp [PXST_MAGIC, h]
  rw [markerScript, singlePushScript_short (by rw [hlength]; decide), hlength]
  rfl

theorem commitmentScript_eq (commitment : Uint256) :
    Native.singlePushScript commitment.data = OP_RETURN :: 32 :: commitment.data := by
  rw [singlePushScript_short (by rw [commitment.size_data]; decide), commitment.size_data]
  rfl

theorem length_feeScript (fee : ℕ) : (Native.singlePushScript (writeBE 8 fee)).length = 10 := by
  rw [singlePushScript_short (by rw [length_writeBE]; decide)]
  simp

theorem length_commitmentScript (commitment : Uint256) :
    (Native.singlePushScript commitment.data).length = 34 := by
  simp [commitmentScript_eq, commitment.size_data]

theorem length_markerScript (anchor : Uint256) :
    (buildWithdrawalStateMarkerScript anchor).length = 39 := by
  change (markerScript anchor.data).length = 39
  simp [markerScript_eq anchor.size_data, PXST_MAGIC, anchor.size_data]

/-- The scripts of the bundle that the wallet builds. -/
def bundleScripts (mainchainFee : ℤ) (payoutScript : CScript) (commitment anchor : Uint256) :
    M6Scripts where
  fee := Native.singlePushScript (writeBE 8 mainchainFee.toNat)
  commitment := Native.singlePushScript commitment.data
  payout := payoutScript
  marker := buildWithdrawalStateMarkerScript anchor

/-- **The parser reads what the wallet writes.** -/
theorem parseM6_serialize {amount mainchainFee : ℤ} {payoutScript : CScript}
    (hpayout : payoutScript.length ≤ MAX_SCRIPT_SIZE) (commitment anchor : Uint256) :
    parseM6 (bundleTransaction amount mainchainFee payoutScript commitment
      (some (buildWithdrawalStateMarkerScript anchor))).serializeNoWitness =
        .ok (bundleScripts mainchainFee payoutScript commitment anchor) := by
  have hread : Reader.Reads readM6 (bundleScripts mainchainFee payoutScript commitment anchor)
      (bundleTransaction amount mainchainFee payoutScript commitment
        (some (buildWithdrawalStateMarkerScript anchor))).serializeNoWitness := by
    have hfee := reads_readM6Output true ⟨0, Native.singlePushScript (writeBE 8 mainchainFee.toNat)⟩
      (by rw [length_feeScript]; decide) fun _ => rfl
    have hcommitment := reads_readM6Output true ⟨0, Native.singlePushScript commitment.data⟩
      (by rw [length_commitmentScript]; decide) fun _ => rfl
    have hvalue := reads_readM6Output false ⟨amount - mainchainFee, payoutScript⟩ hpayout
      fun h => by cases h
    have hmarker := reads_readM6Output true ⟨0, buildWithdrawalStateMarkerScript anchor⟩
      (by rw [length_markerScript]; decide) fun _ => rfl
    have hall : Reader.Reads readM6
        (bundleScripts mainchainFee payoutScript commitment anchor) _ :=
      reads_readM6Start.bind (hfee.bind (hcommitment.bind (hvalue.bind (hmarker.bind
        (reads_readM6End.bind (Reader.Reads.pure _))))))
    simpa [bundleTransaction, CTransaction.serializeNoWitness] using hall
  rw [parseM6, hread.eq_ok]
  rfl

/-! ### What the commitments of a bundle are -/

theorem eq_cons_cons_of_length {script : Bytes} {n : ℕ} (h : script.length = n + 2) :
    script = script.getD 0 0 :: script.getD 1 0 :: script.drop 2 := by
  match script, h with
  | _ :: _ :: _, _ => rfl

/-- A script that starts with `OP_RETURN` and the size of a short push is that push. -/
theorem eq_singlePushScript {script : CScript} {size : ℕ} (hsize : size < OP_PUSHDATA1.toNat)
    (h : script.length = size + 2) (hreturn : script.getD 0 0 = OP_RETURN)
    (hpush : script.getD 1 0 = UInt8.ofNat size) :
    script = Native.singlePushScript (script.drop 2) := by
  have hlength : (script.drop 2).length = size := by simp [h]
  rw [singlePushScript_short (hlength.trans_lt hsize), hlength, ← hpush, ← hreturn]
  exact eq_cons_cons_of_length h

/-- A script that has the bytes of a marker in their places is a marker. -/
theorem eq_markerScript {script : CScript} (h : script.length = 39)
    (hreturn : script.getD 0 0 = OP_RETURN) (hpush : script.getD 1 0 = 37)
    (hmagic : bytesAt script 2 4 = PXST_MAGIC) (hversion : script.getD 6 0 = 1) :
    script = markerScript (script.drop 7) := by
  have hlast : script.drop 6 = 1 :: script.drop 7 := by
    rw [List.drop_eq_getElem_cons (by omega), ← hversion, List.getD_eq_getElem?_getD,
      List.getElem?_eq_getElem (by omega), Option.getD_some]
  have hpayload : script.drop 2 = PXST_MAGIC ++ (1 :: script.drop 7) := by
    rw [← hlast, ← hmagic, bytesAt, show 6 = 2 + 4 from rfl, ← List.drop_drop,
      List.take_append_drop]
  rw [markerScript, ← hpayload]
  exact eq_singlePushScript (by decide : 37 < _) h hreturn hpush

/-- **The commitments are those of the one form of the two scripts.** -/
theorem m6Commitments_eq_ok {scripts : M6Scripts} {commitment : Uint256} {anchor : Bytes} :
    m6Commitments scripts = .ok (commitment, anchor) ↔
      scripts.commitment = Native.singlePushScript commitment.data ∧
        scripts.marker = markerScript anchor ∧ anchor.length = 32 := by
  constructor
  · intro h
    simp only [m6Commitments, bind_eq_ok, rejectIf_eq_ok, not_or, not_not, ne_eq, exists_const,
      pure_eq_ok, Prod.mk.injEq] at h
    obtain ⟨⟨hsize, hreturn, hpush, hmarker, hmreturn, hmpush, hmagic, hversion⟩, rfl, rfl⟩ := h
    refine ⟨?_, eq_markerScript hmarker hmreturn hmpush hmagic hversion, by simp [hmarker]⟩
    rw [Uint256.data_ofBytes (by simp [hsize])]
    exact eq_singlePushScript (by decide : 32 < _) hsize hreturn hpush
  · rintro ⟨hcommitment, hmarker, hanchor⟩
    rw [commitmentScript_eq] at hcommitment
    rw [markerScript_eq hanchor] at hmarker
    simp [m6Commitments, hcommitment, hmarker, hanchor, commitment.size_data, PXST_MAGIC, bytesAt,
      Uint256.ofBytes_data]
    rfl

/-! ### Reading an envelope -/

theorem bytesAt_append {a b c : Bytes} {offset size : ℕ} (ha : a.length = offset)
    (hb : b.length = size) : bytesAt (a ++ (b ++ c)) offset size = b := by
  subst ha hb
  simp [bytesAt]

theorem singleInstruction_singlePushScript {payload : Bytes} (h : payload.length < 2 ^ 32) :
    ∃ opcode, singleInstruction (Native.singlePushScript payload) = some (opcode, payload) := by
  have hpush := Native.getPush_pushData payload [] h
  rw [List.append_nil, Native.getPush] at hpush
  unfold singleInstruction Native.singlePushScript
  simp only [Native.getOp_return, if_true]
  split at hpush
  · case h_1 opcode data rest hop =>
    rw [hop]
    split_ifs at hpush with hle
    simp_all
  · cases hpush

namespace WithdrawalBundleEnvelopeV1

variable {envelope : WithdrawalBundleEnvelopeV1}

theorem length_payload : envelope.payload.length = 45 + envelope.m6NoWitness.length := by
  simp [payload, ENVELOPE_MAGIC, envelope.checkpointBlockHash.size_data]
  omega

theorem ofPayload_payload (h : envelope.checkpointHeight < 2 ^ 32) :
    ofPayload envelope.payload = envelope := by
  have hheight : bytesAt envelope.payload 5 4 = writeLE 4 envelope.checkpointHeight :=
    @bytesAt_append (ENVELOPE_MAGIC ++ [1]) _ _ _ _ rfl (length_writeLE _ _)
  have hhash : bytesAt envelope.payload 9 32 = envelope.checkpointBlockHash.data := by
    have := @bytesAt_append (ENVELOPE_MAGIC ++ (1 :: writeLE 4 envelope.checkpointHeight))
      envelope.checkpointBlockHash.data
      (writeLE 4 envelope.m6NoWitness.length ++ envelope.m6NoWitness) 9 32
      (by simp [ENVELOPE_MAGIC]) envelope.checkpointBlockHash.size_data
    simpa [payload] using this
  have hrest : envelope.payload.drop 45 = envelope.m6NoWitness := by
    have hlength := @length_payload envelope
    have hsplit : envelope.payload = (ENVELOPE_MAGIC ++ (1 :: (writeLE 4 envelope.checkpointHeight
        ++ (envelope.checkpointBlockHash.data ++ writeLE 4 envelope.m6NoWitness.length)))) ++
          envelope.m6NoWitness := by simp [payload]
    rw [hsplit, List.drop_left' (by
      simp [ENVELOPE_MAGIC, envelope.checkpointBlockHash.size_data])]
  cases envelope
  simp_all [ofPayload, readLE_writeLE, Uint256.ofBytes_data]

theorem m6Size_payload (h : envelope.m6NoWitness.length < 2 ^ 32) :
    readLE (bytesAt envelope.payload 41 4) = envelope.m6NoWitness.length := by
  have := @bytesAt_append (ENVELOPE_MAGIC ++ (1 :: (writeLE 4 envelope.checkpointHeight ++
      envelope.checkpointBlockHash.data))) (writeLE 4 envelope.m6NoWitness.length)
    envelope.m6NoWitness 41 4
    (by simp [ENVELOPE_MAGIC, envelope.checkpointBlockHash.size_data]) (length_writeLE _ _)
  have hsize : bytesAt envelope.payload 41 4 = writeLE 4 envelope.m6NoWitness.length := by
    simpa [payload] using this
  rw [hsize, readLE_writeLE (by omega)]

end WithdrawalBundleEnvelopeV1

/-- **The envelope that was built is the one that is found.** -/
theorem noteEnvelope_build {envelope : WithdrawalBundleEnvelopeV1} {output : Child.CTxOut}
    (hheight : envelope.checkpointHeight < 2 ^ 32)
    (h : buildWithdrawalBundleEnvelopeScript envelope = .ok output.scriptPubKey) :
    noteEnvelope none output = .ok (some envelope) := by
  have hbuilt := h
  simp only [buildWithdrawalBundleEnvelopeScript, bind_eq_ok, rejectIf_eq_ok, not_or, not_lt,
    exists_const, pure_eq_ok] at h
  obtain ⟨⟨hne, hle⟩, hscript⟩ := h
  have hm6 : envelope.m6NoWitness.length ≤ 100000 := hle
  have hpos : 0 < envelope.m6NoWitness.length := List.length_pos_of_ne_nil hne
  have hlength := @WithdrawalBundleEnvelopeV1.length_payload envelope
  obtain ⟨opcode, hop⟩ := @singleInstruction_singlePushScript envelope.payload (by omega)
  have hpayload : envelopePayload output.scriptPubKey = some envelope.payload := by
    rw [envelopePayload, ← hscript, hop]
    simp [Option.filter, WithdrawalBundleEnvelopeV1.payload, ENVELOPE_MAGIC]
  have hversion : envelope.payload.getD 4 0 = 1 := rfl
  have hsize := @WithdrawalBundleEnvelopeV1.m6Size_payload envelope (by omega)
  have hfields := WithdrawalBundleEnvelopeV1.ofPayload_payload hheight
  unfold noteEnvelope
  rw [hpayload]
  simp only [bind_eq_ok, pure_eq_ok, hsize, hfields, hbuilt]
  refine ⟨(), rejectIf_of_not (by simp), (), rejectIf_of_not ?_, (), rejectIf_of_not ?_, (),
    rejectIf_of_not (by simp), trivial⟩
  · rw [not_or]
    exact ⟨not_not.2 hversion, by omega⟩
  · rw [MAX_M6_SIZE]
    omega

theorem noteEnvelope_of_none {output : Child.CTxOut} (seen : Option WithdrawalBundleEnvelopeV1)
    (h : envelopePayload output.scriptPubKey = none) : noteEnvelope seen output = .ok seen := by
  rw [noteEnvelope, h]
  rfl

theorem foldlM_noteEnvelope_of_none {outputs : List Child.CTxOut}
    (seen : Option WithdrawalBundleEnvelopeV1)
    (h : ∀ output ∈ outputs, envelopePayload output.scriptPubKey = none) :
    outputs.foldlM noteEnvelope seen = .ok seen := by
  induction outputs with
  | nil => rfl
  | cons output outputs ih =>
    rw [List.forall_mem_cons] at h
    rw [List.foldlM_cons, noteEnvelope_of_none seen h.1]
    exact ih h.2

/-! ### The checkpoint of an envelope -/

section Agreement

variable {E : EnvelopeNetwork} {chain : IndexChain} {envelope : WithdrawalBundleEnvelopeV1}
  {block : Child.CBlock} {script : CScript} {height : ℕ}

/-- What the anchor of a checkpoint commits to. -/
def checkpointPayload (E : EnvelopeNetwork) (height : ℕ) (index : Child.CBlockIndex)
    (previousHash commitment : Uint256) : Bytes :=
  anchorPayload E.hashGenesisBlock height previousHash commitment index.hashExchangeStateRoot

/-- The bundle of an envelope carries the anchor of the checkpoint of the envelope. -/
structure Anchored (E : EnvelopeNetwork) (chain : IndexChain)
    (envelope : WithdrawalBundleEnvelopeV1) (index : Child.CBlockIndex)
    (previousHash commitment : Uint256) (scripts : M6Scripts) : Prop where
  /-- The checkpoint is on the chain. -/
  checkpoint : chain.checkpoint envelope.checkpointHeight = some (index, previousHash)
  hash : index.hash = envelope.checkpointBlockHash
  hasExchangeState : index.HasExchangeState
  root_ne_zero : index.hashExchangeStateRoot ≠ 0
  parse : parseM6 envelope.m6NoWitness = .ok scripts
  commitmentScript : scripts.commitment = Native.singlePushScript commitment.data
  /-- The bundle carries the anchor of the checkpoint. -/
  marker : scripts.marker = buildWithdrawalStateMarkerScript (anchorHash E
    (checkpointPayload E envelope.checkpointHeight index previousHash commitment))

theorem IndexChain.lt_of_checkpoint {found : Child.CBlockIndex × Uint256}
    (h : chain.checkpoint height = some found) : height < chain.blocks.length := by
  cases height with
  | zero => cases h
  | succ before =>
    simp only [checkpoint, Option.bind_eq_some_iff] at h
    obtain ⟨index, hindex, -⟩ := h
    exact (List.getElem?_eq_some_iff.1 hindex).1

theorem IndexChain.checkpoint_of_part {part : IndexChain} {found : Child.CBlockIndex × Uint256}
    (hpart : part.blocks <+: chain.blocks)
    (h : part.checkpoint height = some found) : chain.checkpoint height = some found := by
  have hlt := IndexChain.lt_of_checkpoint h
  obtain ⟨rest, hrest⟩ := hpart
  cases height with
  | zero => cases h
  | succ before =>
    rw [checkpoint] at h ⊢
    rw [← hrest, List.getElem?_append_left hlt, List.getElem?_append_left (by omega)]
    exact h

/-- **The check of an envelope, as what it says of the bundle.** -/
theorem accepted_envelope :
    checkEnvelopeCheckpoint E chain block envelope = .ok () ↔
      E.hash256 envelope.m6NoWitness = block.hashWithdrawalBundle ∧
        ∃ index previousHash commitment scripts,
          Anchored E chain envelope index previousHash commitment scripts := by
  constructor
  · intro h
    simp only [checkEnvelopeCheckpoint, bind_eq_ok, rejectIf_eq_ok, orReject_eq_ok, not_or, not_not,
      ne_eq, exists_const] at h
    obtain ⟨hhash, -, ⟨index, previousHash⟩, hcheckpoint, ⟨hblock, hstate, hroot⟩, scripts, hparse,
      ⟨commitment, anchor⟩, hcommitments, hanchor⟩ := h
    obtain ⟨hcommitment, hmarker, -⟩ := m6Commitments_eq_ok.1 hcommitments
    refine ⟨hhash, index, previousHash, commitment, scripts, hcheckpoint, hblock, hstate, hroot,
      hparse, hcommitment, ?_⟩
    rw [hmarker, show anchor = _ from hanchor]
    rfl
  · rintro ⟨hhash, index, previousHash, commitment, scripts, h⟩
    have hcommitments : m6Commitments scripts = .ok (commitment, (anchorHash E
        (checkpointPayload E envelope.checkpointHeight index previousHash commitment)).data) :=
      m6Commitments_eq_ok.2 ⟨h.commitmentScript, h.marker, Uint256.size_data _⟩
    have hlt := IndexChain.lt_of_checkpoint h.checkpoint
    simp only [checkEnvelopeCheckpoint, bind_eq_ok, orReject_eq_ok]
    refine ⟨(), rejectIf_of_not (not_not.2 hhash), (), rejectIf_of_not (not_le.2 hlt),
      (index, previousHash), h.checkpoint, (), rejectIf_of_not ?_, scripts, h.parse, _,
      hcommitments, rejectIf_of_not (not_not.2 rfl)⟩
    simp [h.hash, h.hasExchangeState, h.root_ne_zero]

theorem anchorPayload_inj {genesis : Uint256} {h₁ h₂ : ℕ} {p₁ p₂ c₁ c₂ r₁ r₂ : Uint256}
    (hh₁ : h₁ < 2 ^ 32) (hh₂ : h₂ < 2 ^ 32)
    (h : anchorPayload genesis h₁ p₁ c₁ r₁ = anchorPayload genesis h₂ p₂ c₂ r₂) :
    h₁ = h₂ ∧ p₁ = p₂ ∧ c₁ = c₂ ∧ r₁ = r₂ := by
  simp only [anchorPayload, List.cons.injEq, true_and] at h
  obtain ⟨-, h⟩ := Uint256.append_inj h
  obtain ⟨hheight, h⟩ := writeBE_append_inj (by omega) (by omega) h
  obtain ⟨hprevious, h⟩ := Uint256.append_inj h
  obtain ⟨hcommitment, h⟩ := Uint256.append_inj h
  exact ⟨hheight, hprevious, hcommitment, Uint256.data_injective h⟩

theorem singlePushScript_data_inj {u v : Uint256}
    (h : Native.singlePushScript u.data = Native.singlePushScript v.data) : u = v := by
  rw [commitmentScript_eq, commitmentScript_eq] at h
  exact Uint256.data_injective (by simpa using h)

theorem buildWithdrawalStateMarkerScript_inj {u v : Uint256}
    (h : buildWithdrawalStateMarkerScript u = buildWithdrawalStateMarkerScript v) : u = v := by
  have hbytes : markerScript u.data = markerScript v.data := h
  rw [markerScript_eq u.size_data, markerScript_eq v.size_data] at hbytes
  exact Uint256.data_injective (by simpa using hbytes)

/-- The payloads that the anchors of a chain are made of, for one withdrawal. -/
def checkpointPayloads (E : EnvelopeNetwork) (chain : IndexChain) (commitment : Uint256) :
    Set Bytes :=
  {payload | ∃ height index previousHash, chain.checkpoint height = some (index, previousHash) ∧
    payload = checkpointPayload E height index previousHash commitment}

/-- A block is accepted with an envelope. -/
structure AcceptsEnvelope (E : EnvelopeNetwork) (chain : IndexChain) (block : Child.CBlock)
    (envelope : WithdrawalBundleEnvelopeV1) : Prop where
  active : E.consensus.activationHeight ≤ chain.blocks.length
  /-- The coinbase carries the envelope. -/
  carries : ∃ coinbase ∈ block.vtx.head?, coinbase.vout.foldlM noteEnvelope none =
    .ok (some envelope)
  accepted : checkWithdrawalBundleEnvelope E chain block = .ok ()

/-- An envelope is accepted only after its checkpoint was checked. -/
theorem AcceptsEnvelope.checkpoint (h : AcceptsEnvelope E chain block envelope) :
    checkEnvelopeCheckpoint E chain block envelope = .ok () := by
  obtain ⟨coinbase, hhead, hfold⟩ := h.carries
  have hcheck := h.accepted
  rw [checkWithdrawalBundleEnvelope, if_neg (not_lt.2 h.active)] at hcheck
  simp only [bind_eq_ok, orReject_eq_ok, Option.filter_eq_some_iff] at hcheck
  obtain ⟨coinbase', ⟨hhead', -⟩, found, hfound, hcheck⟩ := hcheck
  obtain rfl : coinbase = coinbase' := Option.some.inj (hhead.symm.trans hhead')
  obtain rfl : some envelope = found := Except.ok.inj (hfold.symm.trans hfound)
  split_ifs at hcheck with hsame hnull
  · simp [rejectIf_eq_ok] at hcheck
  · simp [rejectIf_eq_ok] at hcheck
  · simpa [orReject] using hcheck

theorem Anchored.height_unique {part₁ part₂ : IndexChain} {e₁ e₂ : WithdrawalBundleEnvelopeV1}
    {i₁ i₂ : Child.CBlockIndex} {p₁ p₂ c₁ c₂ : Uint256} {s₁ s₂ : M6Scripts}
    (hpart₁ : part₁.blocks <+: chain.blocks) (hpart₂ : part₂.blocks <+: chain.blocks)
    (h₁ : Anchored E part₁ e₁ i₁ p₁ c₁ s₁) (h₂ : Anchored E part₂ e₂ i₂ p₂ c₂ s₂)
    (hm6 : e₁.m6NoWitness = e₂.m6NoWitness)
    (hhash : Set.InjOn (anchorHash E) (checkpointPayloads E chain c₁)) :
    e₁.checkpointHeight = e₂.checkpointHeight := by
  obtain rfl : s₁ = s₂ := by
    have hparse := h₂.parse
    rw [← hm6, h₁.parse] at hparse
    exact Except.ok.inj hparse
  obtain rfl := singlePushScript_data_inj (h₁.commitmentScript.symm.trans h₂.commitmentScript)
  have hcheckpoint₁ := IndexChain.checkpoint_of_part hpart₁ h₁.checkpoint
  have hcheckpoint₂ := IndexChain.checkpoint_of_part hpart₂ h₂.checkpoint
  have hanchor := buildWithdrawalStateMarkerScript_inj (h₁.marker.symm.trans h₂.marker)
  have hpayload := hhash ⟨_, _, _, hcheckpoint₁, rfl⟩ ⟨_, _, _, hcheckpoint₂, rfl⟩ hanchor
  have hlength := chain.length_lt
  have hlt₁ := IndexChain.lt_of_checkpoint hcheckpoint₁
  have hlt₂ := IndexChain.lt_of_checkpoint hcheckpoint₂
  exact (anchorPayload_inj (by omega) (by omega) hpayload).1

/-! ### The bundle that the wallet builds -/

variable {amount mainchainFee : ℤ} {payoutScript : CScript} {outpoint : COutPoint}
  {genesis previousHash root : Uint256} {bundle : DrivechainWithdrawalBundle}

theorem length_writeCompactSize_le (size : ℕ) : (writeCompactSize size).length ≤ 9 := by
  unfold writeCompactSize
  split_ifs <;> simp

theorem length_serialize_le (output : CTxOut) :
    output.serialize.length ≤ 17 + output.scriptPubKey.length := by
  have := length_writeCompactSize_le output.scriptPubKey.length
  simp only [CTxOut.serialize, serializeBytes, List.length_append, length_writeLE]
  omega

theorem length_bundleTransaction_le (hpayout : payoutScript.length ≤ MAX_SCRIPT_SIZE)
    (commitment anchor : Uint256) :
    (bundleTransaction amount mainchainFee payoutScript commitment
      (some (buildWithdrawalStateMarkerScript anchor))).serializeNoWitness.length ≤
        MAX_M6_SIZE := by
  have h₀ := length_serialize_le ⟨0, Native.singlePushScript (writeBE 8 mainchainFee.toNat)⟩
  have h₁ := length_serialize_le ⟨0, Native.singlePushScript commitment.data⟩
  have h₂ : (CTxOut.serialize ⟨amount - mainchainFee, payoutScript⟩).length ≤
      17 + payoutScript.length := length_serialize_le _
  have h₃ := length_serialize_le ⟨0, buildWithdrawalStateMarkerScript anchor⟩
  have hin := length_writeCompactSize_le 0
  have hout := length_writeCompactSize_le 4
  simp only [length_feeScript, length_commitmentScript, length_markerScript] at h₀ h₁ h₃
  simp only [MAX_SCRIPT_SIZE] at hpayout
  simp only [bundleTransaction, CTransaction.serializeNoWitness, MAX_M6_SIZE, List.length_append,
    length_writeLE, List.flatMap_nil, List.flatMap_cons, List.length_nil, List.length_cons,
    Option.toList_some, List.map_cons, List.map_nil, List.cons_append, List.nil_append,
    Nat.reduceAdd]
  omega

theorem buildDrivechainWithdrawalBundle_eq_ok
    (h : buildDrivechainWithdrawalBundle E amount mainchainFee payoutScript outpoint height genesis
      previousHash root = .ok bundle) :
    root ≠ 0 ∧ payoutScript.length ≤ MAX_SCRIPT_SIZE ∧
      bundle.m6id = E.hash256 bundle.noWitnessBytes ∧
      bundle.noWitnessBytes = (bundleTransaction amount mainchainFee payoutScript
        (drivechainInputsCommitment E outpoint height)
        (some (buildWithdrawalStateMarkerScript (anchorHash E (anchorPayload genesis height
          previousHash (drivechainInputsCommitment E outpoint height)
          root))))).serializeNoWitness := by
  simp only [buildDrivechainWithdrawalBundle, buildWithdrawalStateAnchor, buildBundle, bind_eq_ok,
    rejectIf_eq_ok, not_or, not_lt, exists_const, pure_eq_ok] at h
  obtain ⟨anchor, ⟨⟨-, -, hroot⟩, rfl⟩, ⟨-, -, -, -, -, hpayout, -⟩, rfl⟩ := h
  exact ⟨hroot, hpayout, rfl, rfl⟩

/-- The envelope of a bundle that was built of a checkpoint is anchored in it. -/
theorem anchored_of_build {index : Child.CBlockIndex}
    (hcheckpoint : chain.checkpoint height = some (index, previousHash))
    (hstate : index.HasExchangeState)
    (h : buildDrivechainWithdrawalBundle E amount mainchainFee payoutScript outpoint height
      E.hashGenesisBlock previousHash index.hashExchangeStateRoot = .ok bundle) :
    ∃ scripts, Anchored E chain ⟨height, index.hash, bundle.noWitnessBytes⟩ index previousHash
      (drivechainInputsCommitment E outpoint height) scripts := by
  obtain ⟨hroot, hpayout, -, hbytes⟩ := buildDrivechainWithdrawalBundle_eq_ok h
  refine ⟨bundleScripts mainchainFee payoutScript (drivechainInputsCommitment E outpoint height)
    (anchorHash E (checkpointPayload E height index previousHash
      (drivechainInputsCommitment E outpoint height))), hcheckpoint, rfl, hstate, hroot, ?_, rfl,
    rfl⟩
  rw [hbytes]
  exact parseM6_serialize hpayout _ _

theorem exists_envelope_of_build (blockHash : Uint256)
    (h : buildDrivechainWithdrawalBundle E amount mainchainFee payoutScript outpoint height genesis
      previousHash root = .ok bundle) :
    ∃ script, buildWithdrawalBundleEnvelopeScript ⟨height, blockHash, bundle.noWitnessBytes⟩ =
      .ok script := by
  obtain ⟨-, hpayout, -, hbytes⟩ := buildDrivechainWithdrawalBundle_eq_ok h
  have hle := @length_bundleTransaction_le amount mainchainFee payoutScript hpayout
    (drivechainInputsCommitment E outpoint height)
    (anchorHash E (anchorPayload genesis height previousHash
      (drivechainInputsCommitment E outpoint height) root))
  rw [← hbytes] at hle
  have hne : bundle.noWitnessBytes ≠ [] := by
    rw [hbytes]
    exact List.cons_ne_nil _ _
  refine ⟨Native.singlePushScript
    (WithdrawalBundleEnvelopeV1.payload ⟨height, blockHash, bundle.noWitnessBytes⟩), ?_⟩
  rw [buildWithdrawalBundleEnvelopeScript, rejectIf_of_not (not_or.2 ⟨hne, not_lt.2 hle⟩)]
  rfl

/-- A coinbase has one envelope. -/
structure CarriesEnvelope (block : Child.CBlock) (script : CScript) : Prop where
  /-- Only one output of the coinbase is an envelope. -/
  coinbase : ∃ coinbase ∈ block.vtx.head?, coinbase.IsCoinBase ∧ ∃ before output after,
    coinbase.vout = before ++ output :: after ∧ output.scriptPubKey = script ∧
      ∀ other ∈ before ++ after, envelopePayload other.scriptPubKey = none

theorem CarriesEnvelope.fold (h : CarriesEnvelope block script)
    (hheight : envelope.checkpointHeight < 2 ^ 32)
    (hscript : buildWithdrawalBundleEnvelopeScript envelope = .ok script) :
    ∃ coinbase ∈ block.vtx.head?, coinbase.IsCoinBase ∧
      coinbase.vout.foldlM noteEnvelope none = .ok (some envelope) := by
  obtain ⟨coinbase, hhead, hcoinbase, before, output, after, hvout, rfl, hothers⟩ := h.coinbase
  refine ⟨coinbase, hhead, hcoinbase, ?_⟩
  have hbefore := foldlM_noteEnvelope_of_none none fun o ho =>
    hothers o (List.mem_append_left _ ho)
  have hafter := foldlM_noteEnvelope_of_none (some envelope) fun o ho =>
    hothers o (List.mem_append_right _ ho)
  rw [hvout, List.foldlM_append, hbefore]
  change (output :: after).foldlM noteEnvelope none = _
  rw [List.foldlM_cons, noteEnvelope_build hheight hscript]
  exact hafter

/-- A block with one envelope, for a new bundle, is accepted if the checkpoint is. -/
theorem checkWithdrawalBundleEnvelope_of_carries
    (h : CarriesEnvelope block script) (hheight : envelope.checkpointHeight < 2 ^ 32)
    (hscript : buildWithdrawalBundleEnvelopeScript envelope = .ok script)
    (hnull : block.hashWithdrawalBundle ≠ 0)
    (hnew : block.hashWithdrawalBundle ≠ chain.bundle ∨ ¬PreviousEcxActive E chain)
    (hcheck : checkEnvelopeCheckpoint E chain block envelope = .ok ()) :
    checkWithdrawalBundleEnvelope E chain block = .ok () := by
  unfold checkWithdrawalBundleEnvelope
  by_cases hactive : (chain.blocks.length : ℤ) < E.consensus.activationHeight
  · rw [if_pos hactive]
    rfl
  rw [if_neg hactive]
  obtain ⟨coinbase, hhead, hcoinbase, hfold⟩ := h.fold hheight hscript
  have hsame : ¬(block.hashWithdrawalBundle = chain.bundle ∧
      (block.hashWithdrawalBundle = 0 ∨ PreviousEcxActive E chain)) := by
    rintro ⟨heq, hzero | hprevious⟩
    · exact hnull hzero
    · exact hnew.elim (fun hne => hne heq) fun hinactive => hinactive hprevious
  simp only [bind_eq_ok, orReject_eq_ok, Option.filter_eq_some_iff]
  refine ⟨coinbase, ⟨hhead, by simpa using hcoinbase⟩, some envelope, hfold, ?_⟩
  rw [if_neg hsame, if_neg hnull]
  simpa [orReject] using hcheck

/-- **The wallet and the check of a block agree on envelopes.**  What the wallet builds of a
checkpoint with a state of the exchange is accepted in a block that newly commits to it.  On one
chain a bundle is accepted for one checkpoint, and its marker is the hash of that checkpoint. -/
theorem withdrawal_envelope_agreement (E : EnvelopeNetwork) (chain : IndexChain) :
    (∀ (amount mainchainFee : ℤ) (payoutScript : CScript) (outpoint : COutPoint) (height : ℕ)
        (index : Child.CBlockIndex) (previousHash : Uint256) (bundle : DrivechainWithdrawalBundle),
      chain.checkpoint height = some (index, previousHash) → index.HasExchangeState →
      buildDrivechainWithdrawalBundle E amount mainchainFee payoutScript outpoint height
        E.hashGenesisBlock previousHash index.hashExchangeStateRoot = .ok bundle →
      ∃ script, buildWithdrawalBundleEnvelopeScript
          ⟨height, index.hash, bundle.noWitnessBytes⟩ = .ok script ∧
        ∀ block, CarriesEnvelope block script → block.hashWithdrawalBundle = bundle.m6id →
          block.hashWithdrawalBundle ≠ 0 →
          (block.hashWithdrawalBundle ≠ chain.bundle ∨ ¬PreviousEcxActive E chain) →
          checkWithdrawalBundleEnvelope E chain block = .ok ()) ∧
    (∀ (part₁ part₂ : IndexChain) (block₁ block₂ : Child.CBlock)
        (e₁ e₂ : WithdrawalBundleEnvelopeV1), part₁.blocks <+: chain.blocks →
      part₂.blocks <+: chain.blocks → AcceptsEnvelope E part₁ block₁ e₁ →
      AcceptsEnvelope E part₂ block₂ e₂ → e₁.m6NoWitness = e₂.m6NoWitness →
      (∀ scripts commitment anchor, parseM6 e₁.m6NoWitness = .ok scripts →
        m6Commitments scripts = .ok (commitment, anchor) →
        Set.InjOn (anchorHash E) (checkpointPayloads E chain commitment)) →
      e₁.checkpointHeight = e₂.checkpointHeight) ∧
    ∀ (block : Child.CBlock) (envelope : WithdrawalBundleEnvelopeV1),
      AcceptsEnvelope E chain block envelope →
      ∃ index previousHash commitment scripts,
        Anchored E chain envelope index previousHash commitment scripts ∧
        ∀ (height : ℕ) (previousHash' commitment' root' : Uint256), height < 2 ^ 32 →
          Set.InjOn (anchorHash E)
            {checkpointPayload E envelope.checkpointHeight index previousHash commitment,
              anchorPayload E.hashGenesisBlock height previousHash' commitment' root'} →
          scripts.marker = buildWithdrawalStateMarkerScript (anchorHash E
            (anchorPayload E.hashGenesisBlock height previousHash' commitment' root')) →
          height = envelope.checkpointHeight ∧ previousHash' = previousHash ∧
            commitment' = commitment ∧ root' = index.hashExchangeStateRoot := by
  refine ⟨?_, ?_, ?_⟩
  · intro amount mainchainFee payoutScript outpoint height index previousHash bundle hcheckpoint
      hstate hbuild
    obtain ⟨script, hscript⟩ := exists_envelope_of_build index.hash hbuild
    refine ⟨script, hscript, fun block hcarries hbundle hnull hnew => ?_⟩
    have hlength := chain.length_lt
    have hlt := IndexChain.lt_of_checkpoint hcheckpoint
    obtain ⟨-, -, hm6id, -⟩ := buildDrivechainWithdrawalBundle_eq_ok hbuild
    obtain ⟨scripts, hanchored⟩ := anchored_of_build hcheckpoint hstate hbuild
    refine checkWithdrawalBundleEnvelope_of_carries hcarries (show height < 2 ^ 32 by omega)
      hscript hnull hnew (accepted_envelope.2 ⟨?_, _, _, _, _, hanchored⟩)
    rw [hbundle, hm6id]
  · intro part₁ part₂ block₁ block₂ e₁ e₂ hpart₁ hpart₂ h₁ h₂ hm6 hhash
    obtain ⟨-, _, _, commitment, scripts, hanchored₁⟩ := accepted_envelope.1 h₁.checkpoint
    obtain ⟨-, _, _, _, _, hanchored₂⟩ := accepted_envelope.1 h₂.checkpoint
    have hcommitments := m6Commitments_eq_ok.2
      ⟨hanchored₁.commitmentScript, hanchored₁.marker, Uint256.size_data _⟩
    exact hanchored₁.height_unique hpart₁ hpart₂ hanchored₂ hm6
      (hhash scripts commitment _ hanchored₁.parse hcommitments)
  · intro block envelope h
    obtain ⟨-, index, previousHash, commitment, scripts, hanchored⟩ :=
      accepted_envelope.1 h.checkpoint
    refine ⟨index, previousHash, commitment, scripts, hanchored, ?_⟩
    intro height previousHash' commitment' root' hheight hhash hmarker
    have hlength := chain.length_lt
    have hlt := IndexChain.lt_of_checkpoint hanchored.checkpoint
    have hanchor := buildWithdrawalStateMarkerScript_inj (hmarker.symm.trans hanchored.marker)
    have hpayload := hhash (.inr rfl) (.inl rfl) hanchor
    exact anchorPayload_inj hheight (by omega) hpayload

end Agreement

/-! ### A chain with two checkpoints -/

namespace Sample

/-- The sample network, with the same hash for transactions. -/
def envelopeNetwork : EnvelopeNetwork where
  toExchangeNetwork := exchangeNetwork
  hash256 := exchangeCrypto.sha256

/-- The block at a height. -/
def envelopeIndex (height : ℕ) : Child.CBlockIndex where
  nVersion := Child.CBlockHeader.EXCHANGE_STATE_HF_MASK
  hashExchangeStateRoot := .ofNat (30 + height)
  hash := .ofNat (10 + height)
  nHeight := height

/-- A chain of three blocks. -/
def envelopeChain : IndexChain where
  blocks := (List.range 3).map envelopeIndex
  length_lt := by decide
  nHeight := by
    intro height index h
    simp only [List.getElem?_map, Option.map_eq_some_iff] at h
    obtain ⟨at', hat, rfl⟩ := h
    obtain ⟨hlt, rfl⟩ := List.getElem?_eq_some_iff.1 hat
    simp [envelopeIndex]

/-- The output that is withdrawn. -/
def withdrawalOutpoint : COutPoint := ⟨.ofByte 40, 0⟩

/-- The commitment of the sample withdrawal. -/
def withdrawalCommitment : Uint256 :=
  drivechainInputsCommitment envelopeNetwork withdrawalOutpoint 1

/-- What the anchor of a block of the chain is made of. -/
def withdrawalPayload (height : ℕ) : Bytes :=
  checkpointPayload envelopeNetwork height (envelopeIndex height) (envelopeIndex (height - 1)).hash
    withdrawalCommitment

/-- The transaction of its bundle. -/
def withdrawalTransaction : CTransaction :=
  bundleTransaction 1000 10 [OP_1] withdrawalCommitment
    (some (buildWithdrawalStateMarkerScript (anchorHash envelopeNetwork (withdrawalPayload 1))))

/-- Its bundle. -/
def withdrawalBundle : DrivechainWithdrawalBundle where
  noWitnessBytes := withdrawalTransaction.serializeNoWitness
  m6id := exchangeCrypto.sha256 withdrawalTransaction.serializeNoWitness
  bytes := withdrawalTransaction.serializeNoWitness.take 4 ++
    ([0, 1] ++ withdrawalTransaction.serializeNoWitness.drop 4)

/-- The envelope of the bundle. -/
def withdrawalEnvelope : WithdrawalBundleEnvelopeV1 :=
  ⟨1, (envelopeIndex 1).hash, withdrawalBundle.noWitnessBytes⟩

/-- The coinbase with the envelope, and another output. -/
def envelopeCoinbase : Child.CTransaction where
  vin := [.ofPrevout ⟨0, COutPoint.NULL_INDEX⟩]
  vout := [singletonOutput 1, { singletonOutput 1 with
    scriptPubKey := Native.singlePushScript withdrawalEnvelope.payload }]
  hash := .ofByte 61

/-- The block that publishes it. -/
def envelopeBlock : Child.CBlock where
  hashWithdrawalBundle := withdrawalBundle.m6id
  hash := .ofByte 13
  vtx := [envelopeCoinbase]

theorem build_withdrawalBundle :
    buildDrivechainWithdrawalBundle envelopeNetwork 1000 10 [OP_1] withdrawalOutpoint 1
      envelopeNetwork.hashGenesisBlock (envelopeIndex 0).hash
      (envelopeIndex 1).hashExchangeStateRoot = .ok withdrawalBundle := by
  decide +kernel

theorem build_withdrawalEnvelope : buildWithdrawalBundleEnvelopeScript withdrawalEnvelope =
    .ok (Native.singlePushScript withdrawalEnvelope.payload) := by
  decide +kernel

theorem carriesEnvelope_envelopeBlock :
    CarriesEnvelope envelopeBlock (Native.singlePushScript withdrawalEnvelope.payload) where
  coinbase := ⟨envelopeCoinbase, rfl, by decide, [singletonOutput 1], _, [], rfl, rfl,
    by decide +kernel⟩

theorem checkpoint_envelopeChain {height : ℕ} {index : Child.CBlockIndex} {previousHash : Uint256}
    (h : envelopeChain.checkpoint height = some (index, previousHash)) :
    (height = 1 ∨ height = 2) ∧ index = envelopeIndex height ∧
      previousHash = (envelopeIndex (height - 1)).hash := by
  have hlt : height < 3 := IndexChain.lt_of_checkpoint h
  match height, hlt, h with
  | 1, _, rfl => exact ⟨.inl rfl, rfl, rfl⟩
  | 2, _, rfl => exact ⟨.inr rfl, rfl, rfl⟩

theorem injOn_checkpointPayloads : Set.InjOn (anchorHash envelopeNetwork)
    (checkpointPayloads envelopeNetwork envelopeChain withdrawalCommitment) := by
  have hne : anchorHash envelopeNetwork (withdrawalPayload 1) ≠
      anchorHash envelopeNetwork (withdrawalPayload 2) := by
    decide +kernel
  rintro _ ⟨h₁, i₁, p₁, hcheckpoint₁, rfl⟩ _ ⟨h₂, i₂, p₂, hcheckpoint₂, rfl⟩ heq
  obtain ⟨hheight₁, rfl, rfl⟩ := checkpoint_envelopeChain hcheckpoint₁
  obtain ⟨hheight₂, rfl, rfl⟩ := checkpoint_envelopeChain hcheckpoint₂
  obtain rfl | rfl := hheight₁ <;> obtain rfl | rfl := hheight₂
  · rfl
  · exact absurd heq hne
  · exact absurd heq.symm hne
  · rfl

/-- The commitment of the bundle is that of the output that is withdrawn. -/
theorem commitment_withdrawalBundle {scripts : M6Scripts} {commitment : Uint256} {anchor : Bytes}
    (hparse : parseM6 withdrawalBundle.noWitnessBytes = .ok scripts)
    (h : m6Commitments scripts = .ok (commitment, anchor)) :
    commitment = withdrawalCommitment := by
  have hread : parseM6 withdrawalBundle.noWitnessBytes =
      .ok (bundleScripts 10 [OP_1] withdrawalCommitment
        (anchorHash envelopeNetwork (withdrawalPayload 1))) :=
    parseM6_serialize (by decide) _ _
  obtain rfl := Except.ok.inj (hparse.symm.trans hread)
  exact (singlePushScript_data_inj (m6Commitments_eq_ok.1 h).1).symm

theorem carries_envelopeBlock : envelopeCoinbase.vout.foldlM noteEnvelope none =
    .ok (some withdrawalEnvelope) := by
  obtain ⟨coinbase, hhead, -, hfold⟩ := carriesEnvelope_envelopeBlock.fold
    (show withdrawalEnvelope.checkpointHeight < 2 ^ 32 by decide) build_withdrawalEnvelope
  cases hhead
  exact hfold

end Sample

open Ecx.Sample in
/-- The bundle is built and accepted, and on this chain for the first checkpoint only. -/
theorem withdrawal_envelope_agreement_sample :
    buildDrivechainWithdrawalBundle envelopeNetwork 1000 10 [OP_1] withdrawalOutpoint 1
        envelopeNetwork.hashGenesisBlock (envelopeIndex 0).hash
        (envelopeIndex 1).hashExchangeStateRoot = .ok withdrawalBundle ∧
      AcceptsEnvelope envelopeNetwork envelopeChain envelopeBlock withdrawalEnvelope ∧
      (∀ block envelope, AcceptsEnvelope envelopeNetwork envelopeChain block envelope →
        envelope.m6NoWitness = withdrawalBundle.noWitnessBytes → envelope.checkpointHeight = 1) ∧
      ∃ index previousHash commitment scripts, Anchored envelopeNetwork envelopeChain
        withdrawalEnvelope index previousHash commitment scripts := by
  obtain ⟨hbuilt, hunique, hanchored⟩ :=
    withdrawal_envelope_agreement envelopeNetwork envelopeChain
  obtain ⟨script, hscript, haccepted⟩ := hbuilt 1000 10 [OP_1] withdrawalOutpoint 1
    (envelopeIndex 1) (envelopeIndex 0).hash withdrawalBundle rfl (by decide) build_withdrawalBundle
  obtain rfl : Native.singlePushScript withdrawalEnvelope.payload = script :=
    Except.ok.inj (build_withdrawalEnvelope.symm.trans hscript)
  have haccepts : AcceptsEnvelope envelopeNetwork envelopeChain envelopeBlock
      withdrawalEnvelope := {
    active := by decide
    carries := ⟨envelopeCoinbase, rfl, carries_envelopeBlock⟩
    accepted := haccepted envelopeBlock carriesEnvelope_envelopeBlock rfl (by decide +kernel)
      (.inl (by decide +kernel)) }
  refine ⟨build_withdrawalBundle, haccepts, fun block envelope h hm6 => ?_, ?_⟩
  · refine hunique envelopeChain envelopeChain block envelopeBlock envelope withdrawalEnvelope
      (List.prefix_refl _) (List.prefix_refl _) h haccepts hm6 fun scripts commitment anchor hparse
        hcommitments => ?_
    rw [hm6] at hparse
    rw [commitment_withdrawalBundle hparse hcommitments]
    exact injOn_checkpointPayloads
  · obtain ⟨index, previousHash, commitment, scripts, h, -⟩ := hanchored _ _ haccepts
    exact ⟨index, previousHash, commitment, scripts, h⟩

end ElementsDrivechain.Ecx
