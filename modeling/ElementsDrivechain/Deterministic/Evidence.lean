import ElementsDrivechain.Bmm.State
import ElementsDrivechain.Peg.Witness

/-!
# Deposits that carry their evidence

On a network without a slot, a deposit is claimed by a peg-in whose witness holds all that is needed
to check it: the parent transaction of the deposit, the one that created the treasury output before
it, a proof that the parent chain holds the deposit and the headers from there on.

* `Deterministic.parseV2Deposit_spec` : what checked evidence says.
* `Deterministic.verifyDepositTransaction_spec` : what a checked transaction pays.
-/

namespace ElementsDrivechain.Deterministic

open Fallible

/-! ### The network -/

/-- The fields of a transaction have their widths. -/
structure Fits (tx : CTransaction) : Prop where
  vout_length_lt : tx.vout.length < 2 ^ 32
  nValue_lt : ∀ output ∈ tx.vout, output.nValue < 2 ^ 63

/-- A network whose deposits carry their evidence. -/
structure DepositNetwork extends PegParameters where
  hashing : ParentHashing
  codec : ParentCodec
  parentChainPowLimit : Uint256
  /-- Ids are read off the decoded transaction. -/
  parentTxid_eq : ∀ bytes, parentTxid bytes = (codec.transaction bytes).map hashing.txid
  codec_fits : ∀ bytes tx, codec.transaction bytes = some tx → Fits tx

/-- The slot of the public sidechain. -/
def DRIVECHAIN_SIDECHAIN_SLOT : UInt8 := 24

/-- The script of a treasury output of the slot. -/
def IsSlot24CtipScript (script : CScript) : Prop :=
  extractTreasurySlot script .NOP5 = some DRIVECHAIN_SIDECHAIN_SLOT
deriving Decidable

/-! ### The state of the treasury -/

/-- The latest treasury output that is known. -/
structure CtipState where
  outpoint : COutPoint
  value : ℤ := 0
  sequenceNumber : ℤ := 0
deriving DecidableEq

/-- The state is one that a record can hold. -/
structure CtipState.Fits (state : CtipState) : Prop where
  n_lt : state.outpoint.n < 2 ^ 32
  value_pos : 0 < state.value
  value_lt : state.value < 2 ^ 63
  sequenceNumber_nonneg : 0 ≤ state.sequenceNumber
  sequenceNumber_lt : state.sequenceNumber < 2 ^ 63

/-- What is known of a deposit that is claimed. -/
structure AuthenticatedDeposit where
  outpoint : COutPoint
  value : ℤ
  destinationScript : CScript

/-- What the evidence of a deposit says. -/
structure ParsedDeterministicDeposit where
  authenticated : AuthenticatedDeposit
  previousState : CtipState
  nextState : CtipState
  anchor : Uint256

/-! ### The evidence -/

/-- The evidence as it stands in a witness. -/
structure DrivechainDepositEvidence where
  /-- The transaction of the parent chain that deposits. -/
  depositTx : Bytes
  /-- The proof that a block has it. -/
  txoutProof : Bytes
  /-- The transaction of the treasury output that it spends. -/
  previousCtipTx : Bytes
  sequenceNumber : ℤ
  previousSequenceNumber : ℤ
  /-- The headers on top of that block. -/
  headers : List CBlockHeader

/-- Read a value that is the whole of an item. -/
def deserializeExactly {α : Type} (m : Reader α) (item : Bytes) : Option α :=
  match m item with
  | .ok (a, []) => some a
  | _ => none

/-- Read a parent header. -/
def deserializeHeader : Reader CBlockHeader := do
  let nVersion ← Reader.number 4
  let hashPrevBlock ← Reader.uint256
  let hashMerkleRoot ← Reader.uint256
  let nTime ← Reader.number 4
  let nBits ← Reader.number 4
  let nNonce ← Reader.number 4
  return {
    nVersion := if nVersion < 2 ^ 31 then nVersion else nVersion - 2 ^ 32
    hashPrevBlock := hashPrevBlock
    hashMerkleRoot := hashMerkleRoot
    nTime := nTime
    nBits := nBits
    nNonce := nNonce }

/-- Read a list of parent headers. -/
def deserializeHeaders : Reader (List CBlockHeader) := do
  let count ← Reader.compactSize
  deserializeHeader.list count

/-- No more headers are read. -/
def MAX_EVIDENCE_HEADERS : ℕ := 2017

section Model

variable (N : DepositNetwork)

/-- A field of the evidence is missing or too long. -/
def OutOfBounds (item : Bytes) (bound : ℕ) : Prop := item = [] ∨ bound < item.length
deriving Decidable

/-- Read the evidence from a witness. -/
def getDrivechainDepositEvidence (stack : Child.CScriptWitness) (prevout : COutPoint) :
    Except String DrivechainDepositEvidence := do
  rejectIf (stack.length ≠ 11 ∨ stack.getD 4 [] ≠ DRIVECHAIN_DEPOSIT_EVIDENCE_MARKER)
    "drivechain deposit witness does not contain deterministic v2 evidence"
  rejectIf (OutOfBounds (stack.getD 5 []) MAX_BLOCK_SERIALIZED_SIZE ∨
      OutOfBounds (stack.getD 6 []) MAX_BLOCK_SERIALIZED_SIZE ∨
      OutOfBounds (stack.getD 7 []) MAX_BLOCK_SERIALIZED_SIZE ∨
      OutOfBounds (stack.getD 10 []) (MAX_EVIDENCE_HEADERS * 80 + 16))
    "drivechain deposit evidence field is empty or exceeds its consensus bound"
  rejectIf ((N.codec.transaction (stack.getD 5 [])).map N.hashing.txid ≠ some prevout.hash)
    "drivechain deposit transaction encoding or txid is invalid"
  let malformed := "drivechain deposit sequence or header encoding is non-canonical"
  let sequenceNumber ← orReject (deserializeExactly Reader.int64 (stack.getD 8 [])) malformed
  let previousSequenceNumber ←
    orReject (deserializeExactly Reader.int64 (stack.getD 9 [])) malformed
  let headers ← orReject (deserializeExactly deserializeHeaders (stack.getD 10 [])) malformed
  rejectIf (sequenceNumber < 0 ∨ previousSequenceNumber < 0 ∨
      previousSequenceNumber = 2 ^ 63 - 1 ∨ sequenceNumber ≠ previousSequenceNumber + 1)
    "drivechain deposit sequence transition is invalid"
  rejectIf (headers = [] ∨ MAX_EVIDENCE_HEADERS < headers.length)
    "drivechain deposit header chain length is invalid"
  return {
    depositTx := stack.getD 5 []
    txoutProof := stack.getD 6 []
    previousCtipTx := stack.getD 7 []
    sequenceNumber := sequenceNumber
    previousSequenceNumber := previousSequenceNumber
    headers := headers }

/-- The destination that a deposit commits to. -/
def extractDepositDestination (depositTx : CTransaction) : Except String CScript :=
  let found := depositTx.vout.filterMap fun output =>
    (extractSingleOpReturnPush output.scriptPubKey).bind fun data =>
      if data = [] then none else N.scriptForDestination data
  match found with
  | [] => throw "deposit transaction does not commit a valid sidechain destination"
  | [destinationScript] => pure destinationScript
  | _ => throw "deposit transaction contains multiple valid sidechain destinations"

/-- The hash of a header is below the target that the header states. -/
def HasParentProofOfWork (header : CBlockHeader) : Prop :=
  let target := setCompact (UInt32.ofNat header.nBits)
  ¬target.negative ∧ target.value ≠ 0 ∧ ¬target.overflow ∧
    target.value ≤ N.parentChainPowLimit.toArith ∧
    (N.hashing.headerHash header).toArith ≤ target.value
deriving Decidable

/-- The check of one header after the one before. -/
def checkEvidenceHeader (previous : Option Uint256) (header : CBlockHeader) :
    Except String (Option Uint256) := do
  rejectIf (¬HasParentProofOfWork N header)
    "drivechain deposit evidence contains an invalid L1 proof-of-work header"
  rejectIf (∃ hash ∈ previous, header.hashPrevBlock ≠ hash)
    "drivechain deposit L1 header evidence is not a contiguous chain"
  return some (N.hashing.headerHash header)

/-- The inputs of a deposit that spend a treasury output of the given transaction. -/
def spentCtips (depositTx previousTx : CTransaction) : List CTxIn :=
  depositTx.vin.filter fun input =>
    input.prevout.hash = N.hashing.txid previousTx ∧
      ∃ output ∈ previousTx.vout[input.prevout.n]?, IsSlot24CtipScript output.scriptPubKey

/-- Check the evidence of a claim. -/
def parseV2Deposit (tx : Child.CTransaction) (inputIndex : ℕ) :
    Except String ParsedDeterministicDeposit := do
  let outOfRange := "drivechain deposit input index is out of range"
  let input ← orReject tx.vin[inputIndex]? outOfRange
  let stack ← orReject tx.peginWitness[inputIndex]? outOfRange
  let evidence ← getDrivechainDepositEvidence N stack input.prevout
  let malformed :=
    "drivechain deposit evidence contains malformed transaction or merkle proof data"
  let depositTx ← orReject (N.codec.transaction evidence.depositTx) malformed
  let previousTx ← orReject (N.codec.transaction evidence.previousCtipTx) malformed
  let proof ← orReject (N.codec.merkleBlock evidence.txoutProof) malformed
  let absent := "drivechain deposit outpoint is absent from the authenticated L1 transaction"
  rejectIf (N.hashing.txid depositTx ≠ input.prevout.hash) absent
  let currentOutput ← orReject depositTx.vout[input.prevout.n]? absent
  let found := proof.txn.extractMatches N.hashing
  rejectIf (found.1 ≠ proof.header.hashMerkleRoot ∨
      found.2.map (·.1) ≠ [N.hashing.txid depositTx] ∨
      evidence.headers.head?.map N.hashing.headerHash ≠ some (N.hashing.headerHash proof.header))
    "drivechain deposit merkle proof does not authenticate the exact L1 transaction"
  let anchor ← evidence.headers.foldlM (checkEvidenceHeader N) none
  rejectIf (¬IsSlot24CtipScript currentOutput.scriptPubKey ∨ currentOutput.nValue ≤ 0)
    "drivechain deposit outpoint is not the slot-24 CTIP output"
  let spent := spentCtips N depositTx previousTx
  let notOne := "drivechain deposit transaction does not spend exactly one authenticated prior CTIP"
  rejectIf (spent.length ≠ 1) notOne
  let previousInput ← orReject spent.head? notOne
  let previousOutput ← orReject previousTx.vout[previousInput.prevout.n]? notOne
  let wrongValue := "drivechain deposit value does not equal the authenticated CTIP increase"
  let pegin ← orReject (getDrivechainDepositPeginData N.toPegParameters stack input.prevout)
    wrongValue
  rejectIf (previousOutput.nValue ≤ 0 ∨ currentOutput.nValue ≤ previousOutput.nValue ∨
    currentOutput.nValue - previousOutput.nValue ≠ pegin.value) wrongValue
  let destinationScript ← extractDepositDestination N depositTx
  return {
    authenticated := {
      outpoint := input.prevout
      value := pegin.value
      destinationScript := destinationScript }
    previousState := {
      outpoint := { hash := N.hashing.txid previousTx, n := previousInput.prevout.n }
      value := previousOutput.nValue
      sequenceNumber := evidence.previousSequenceNumber }
    nextState := {
      outpoint := input.prevout
      value := currentOutput.nValue
      sequenceNumber := evidence.sequenceNumber }
    anchor := anchor.getD 0 }

/-! ### The transaction that claims a deposit -/

/-- The check of an output; the fee has no script, and everything else goes to the destination. -/
def checkDepositOutput (authenticated : AuthenticatedDeposit) (output : Child.CTxOut) :
    Except String Unit := do
  rejectIf (output.nAsset ≠ .explicit N.peggedAsset ∨ ¬output.nValue.IsExplicit ∨
    ¬output.nNonce.IsNull) "drivechain deposit outputs must use explicit native asset values"
  rejectIf (output.scriptPubKey ≠ [] ∧ output.scriptPubKey ≠ authenticated.destinationScript)
    "drivechain deposit destination script does not match enforcer data"

/-- The explicit amounts of some outputs together. -/
def totalValue (outputs : List Child.CTxOut) : ℤ := (outputs.filterMap (·.explicitValue)).sum

/-- The outputs without a script. -/
def feeOutputs (tx : Child.CTransaction) : List Child.CTxOut :=
  tx.vout.filter (·.scriptPubKey = [])

/-- The outputs with a script. -/
def creditOutputs (tx : Child.CTransaction) : List Child.CTxOut :=
  tx.vout.filter (·.scriptPubKey ≠ [])

/-- What a transaction that claims a deposit must look like. -/
def verifyDepositTransaction (tx : Child.CTransaction) (inputIndex : ℕ)
    (authenticated : AuthenticatedDeposit) : Except String Unit := do
  let notOne := "drivechain deposit transaction must contain exactly one input"
  rejectIf (tx.vin.length ≠ 1 ∨ inputIndex ≠ 0) notOne
  let input ← orReject tx.vin[inputIndex]? notOne
  let wrongCount := "drivechain deposit transaction has an invalid input witness count"
  rejectIf (tx.peginWitness.length ≠ 1) wrongCount
  let stack ← orReject tx.peginWitness[inputIndex]? wrongCount
  rejectIf (input.isPegin = false ∨ input.prevout ≠ authenticated.outpoint ∨
      input.scriptSig ≠ [] ∨ ¬input.assetIssuance.IsNull)
    "drivechain deposit input does not match the authenticated outpoint"
  let wrongWitness := "drivechain deposit witness does not match the authenticated deposit"
  let pegin ← orReject (getDrivechainDepositPeginData N.toPegParameters stack input.prevout)
    wrongWitness
  rejectIf (pegin.value ≠ authenticated.value ∨
    pegin.mainchainTxid ≠ authenticated.outpoint.hash ∨
    pegin.claimScript ≠ OP_TRUE_SCRIPT) wrongWitness
  rejectIf (tx.vout = [] ∨ 2 < tx.vout.length)
    "drivechain deposit transaction must contain one credit output and at most one fee output"
  tx.vout.forM (checkDepositOutput N authenticated)
  let credited := totalValue (creditOutputs tx)
  let fee := totalValue (feeOutputs tx)
  rejectIf ((creditOutputs tx).length ≠ 1 ∨ 1 < (feeOutputs tx).length ∨ credited ≤ 0 ∨ fee < 0 ∨
      credited + fee ≠ authenticated.value)
    "drivechain deposit output value and fee do not equal the authenticated deposit value"

end Model

/-! ### What is accepted -/

variable {N : DepositNetwork} {tx : Child.CTransaction} {inputIndex : ℕ}
  {parsed : ParsedDeterministicDeposit} {authenticated : AuthenticatedDeposit}

theorem deserializeExactly_eq_some {α : Type} {m : Reader α} {item : Bytes} {a : α}
    (h : deserializeExactly m item = some a) : m item = .ok (a, []) := by
  unfold deserializeExactly at h
  split at h
  · obtain rfl := Option.some.inj h
    assumption
  · cases h

/-- The transactions of two successive deposits, and their numbers. -/
structure EvidenceFields (stack : Child.CScriptWitness) (evidence : DrivechainDepositEvidence) :
    Prop where
  depositTx : evidence.depositTx = stack.getD 5 []
  previousCtipTx : evidence.previousCtipTx = stack.getD 7 []
  previousSequenceNumber : 0 ≤ evidence.previousSequenceNumber
  sequenceNumber : evidence.sequenceNumber = evidence.previousSequenceNumber + 1
  sequenceNumber_lt : evidence.sequenceNumber < 2 ^ 63

theorem getDrivechainDepositEvidence_spec {stack : Child.CScriptWitness} {prevout : COutPoint}
    {evidence : DrivechainDepositEvidence}
    (h : getDrivechainDepositEvidence N stack prevout = .ok evidence) :
    EvidenceFields stack evidence := by
  simp only [getDrivechainDepositEvidence, bind_eq_ok, rejectIf_eq_ok, orReject_eq_ok,
    pure_eq_ok] at h
  obtain ⟨_, -, _, -, _, -, number, hnumber, previous, -, headers, -, _, hsequence, _, -, rfl⟩ := h
  obtain ⟨-, hprevious, -, hnext⟩ := (not_or.1 hsequence).imp_right
    fun h => (not_or.1 h).imp_right not_or.1
  exact ⟨rfl, rfl, not_lt.1 hprevious, not_not.1 hnext,
    Reader.int64_lt (deserializeExactly_eq_some hnumber)⟩

/-- The parent transactions that the witness of a claim holds. -/
def parentTransactions (N : DepositNetwork) (tx : Child.CTransaction) (inputIndex : ℕ) :
    List CTransaction :=
  let stack := tx.peginWitness.getD inputIndex []
  [stack.getD 5 [], stack.getD 7 []].filterMap N.codec.transaction

/-- The parent transactions of a deposit and of the treasury output before it. -/
structure EvidenceOf (N : DepositNetwork) (tx : Child.CTransaction) (inputIndex : ℕ)
    (parsed : ParsedDeterministicDeposit) (depositTx previousTx : CTransaction) : Prop where
  depositTx_mem : depositTx ∈ parentTransactions N tx inputIndex
  previousTx_mem : previousTx ∈ parentTransactions N tx inputIndex
  /-- The input names the new treasury output. -/
  claimed : tx.vin[inputIndex]?.map (·.prevout) = some parsed.nextState.outpoint
  depositTx_id : N.hashing.txid depositTx = parsed.nextState.outpoint.hash
  depositTx_value :
    depositTx.vout[parsed.nextState.outpoint.n]?.map (·.nValue) = some parsed.nextState.value
  previousTx_id : N.hashing.txid previousTx = parsed.previousState.outpoint.hash
  previousTx_value : previousTx.vout[parsed.previousState.outpoint.n]?.map (·.nValue) =
    some parsed.previousState.value
  value_pos : 0 < parsed.authenticated.value
  /-- The treasury grows by the deposit. -/
  value : parsed.nextState.value = parsed.previousState.value + parsed.authenticated.value
  sequenceNumber : parsed.nextState.sequenceNumber = parsed.previousState.sequenceNumber + 1
  destination : extractDepositDestination N depositTx = .ok parsed.authenticated.destinationScript
  previousState_fits : parsed.previousState.Fits
  nextState_fits : parsed.nextState.Fits

/-- An output that is there has an index of 32 bits and an amount of 64. -/
theorem Fits.output {tx : CTransaction} (h : Fits tx) {n : ℕ} {output : CTxOut}
    (hn : tx.vout[n]? = some output) : n < 2 ^ 32 ∧ output.nValue < 2 ^ 63 :=
  ⟨(List.getElem?_eq_some_iff.1 hn).1.trans h.vout_length_lt,
    h.nValue_lt output (List.mem_of_getElem? hn)⟩

/-- **What checked evidence says.** -/
theorem parseV2Deposit_spec (h : parseV2Deposit N tx inputIndex = .ok parsed) :
    ∃ depositTx previousTx, EvidenceOf N tx inputIndex parsed depositTx previousTx := by
  simp only [parseV2Deposit, bind_eq_ok, rejectIf_eq_ok, orReject_eq_ok, pure_eq_ok] at h
  obtain ⟨input, hinput, stack, hstack, evidence, hevidence, depositTx, hdeposit, previousTx,
    hprevious, proof, -, _, htxid, output, houtput, _, -, anchor, -, _, hcurrent, _, -, spent,
    hspent, previousOutput, hpreviousOutput, pegin, -, _, hvalue, script, hscript, rfl⟩ := h
  obtain ⟨hdepositTx, hpreviousTx, hseq, hnext, hlt⟩ := getDrivechainDepositEvidence_spec hevidence
  obtain ⟨hpos, hmore, hdiff⟩ := (not_or.1 hvalue).imp_right not_or.1
  obtain ⟨-, hcurrentPos⟩ := not_or.1 hcurrent
  obtain ⟨hn, hv⟩ := (N.codec_fits _ _ hdeposit).output houtput
  obtain ⟨hn', hv'⟩ := (N.codec_fits _ _ hprevious).output hpreviousOutput
  have hmem : ∀ t, N.codec.transaction evidence.depositTx = some t ∨
      N.codec.transaction evidence.previousCtipTx = some t →
      t ∈ parentTransactions N tx inputIndex := by
    intro t ht
    rw [hdepositTx, hpreviousTx] at ht
    have hgetD : tx.peginWitness.getD inputIndex [] = stack := by simp [List.getD, hstack]
    rw [parentTransactions, hgetD, List.mem_filterMap]
    rcases ht with ht | ht
    · exact ⟨_, by simp, ht⟩
    · exact ⟨_, by simp, ht⟩
  refine ⟨depositTx, previousTx, ?_⟩
  refine { depositTx_mem := hmem _ (.inl hdeposit), previousTx_mem := hmem _ (.inr hprevious),
           claimed := by simp [hinput], depositTx_id := not_not.1 htxid,
           depositTx_value := by simp [houtput], previousTx_id := rfl,
           previousTx_value := by simp [hpreviousOutput], value_pos := ?_, value := ?_,
           sequenceNumber := hnext, destination := hscript,
           previousState_fits := ⟨hn', ?_, hv', hseq, ?_⟩,
           nextState_fits := ⟨hn, ?_, hv, ?_, hlt⟩ }
  all_goals dsimp only
  all_goals omega

/-- What a transaction that claims a deposit pays: the fee, and all the rest to the destination. -/
structure PaysDeposit (N : DepositNetwork) (tx : Child.CTransaction)
    (authenticated : AuthenticatedDeposit) : Prop where
  outputs : ∀ output ∈ tx.vout, output.nAsset = .explicit N.peggedAsset ∧
    output.nValue.IsExplicit ∧
    (output.scriptPubKey = [] ∨ output.scriptPubKey = authenticated.destinationScript)
  total : totalValue tx.vout = authenticated.value

theorem totalValue_credit_add_fee (tx : Child.CTransaction) :
    totalValue (creditOutputs tx) + totalValue (feeOutputs tx) = totalValue tx.vout := by
  unfold creditOutputs feeOutputs
  induction tx.vout with
  | nil => rfl
  | cons output outputs ih =>
    by_cases hscript : output.scriptPubKey = []
    all_goals
      cases hvalue : output.explicitValue
      all_goals simp [totalValue, hscript, hvalue] at ih ⊢
    all_goals omega

/-- **What a checked transaction pays.** -/
theorem verifyDepositTransaction_spec {u : Unit}
    (h : verifyDepositTransaction N tx inputIndex authenticated = .ok u) :
    PaysDeposit N tx authenticated := by
  simp only [verifyDepositTransaction, bind_eq_ok, rejectIf_eq_ok, orReject_eq_ok] at h
  obtain ⟨_, -, _, -, _, -, _, -, _, -, _, -, _, -, _, -, _, houtputs, htotal⟩ := h
  refine ⟨fun output houtput => ?_, ?_⟩
  · have := forM_eq_ok.1 houtputs output houtput
    simp only [checkDepositOutput, bind_eq_ok, rejectIf_eq_ok] at this
    obtain ⟨_, hexplicit, hscript⟩ := this
    obtain ⟨hasset, hvalue, -⟩ := (not_or.1 hexplicit).imp_right not_or.1
    exact ⟨not_not.1 hasset, not_not.1 hvalue, by tauto⟩
  · rw [← totalValue_credit_add_fee]
    tauto

end ElementsDrivechain.Deterministic
