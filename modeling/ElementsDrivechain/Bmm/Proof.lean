import ElementsDrivechain.Bmm.State
import ElementsDrivechain.Child.Block
import ElementsDrivechain.Foundations.Trace
import ElementsDrivechain.Parent.Messages

/-!
# Proofs of the merged mining

A sidechain block of the public signet proves that the parent chain commits to it: it carries the
parent headers since the last proof, each with its coinbase, and the last coinbase commits to the
block.  Every header extends the state of the parent chain.

* `verifyBmmProofEntries_eq_ok` : an accepted proof is a chain of headers, one from each state to
  the next.
-/

namespace ElementsDrivechain

open Fallible

/-! ### The format -/

/-- The only version of a proof. -/
def BMM_PROOF_SCHEMA_VERSION : UInt8 := 1

/-- A parent header with its coinbase. -/
structure BmmProofEntry where
  coinbaseTx : Bytes
  /-- The header, with the proof that the block has the coinbase. -/
  coinbaseProof : Bytes
deriving DecidableEq

/-- A proof: the headers that follow a state. -/
structure BmmProof where
  version : UInt8 := BMM_PROOF_SCHEMA_VERSION
  previousState : BmmL1State
  entries : List BmmProofEntry
deriving DecidableEq

namespace BmmProofEntry

/-- The bytes of an entry. -/
def serialize (entry : BmmProofEntry) : Bytes :=
  serializeBytes entry.coinbaseTx ++ serializeBytes entry.coinbaseProof

/-- Read an entry. -/
def deserialize : Reader BmmProofEntry := do
  let coinbaseTx ← Reader.bytes
  let coinbaseProof ← Reader.bytes
  return { coinbaseTx := coinbaseTx, coinbaseProof := coinbaseProof }

end BmmProofEntry

namespace BmmProof

/-- The bytes of a proof. -/
def serialize (proof : BmmProof) : Bytes :=
  [proof.version] ++ proof.previousState.serialize ++
    writeCompactSize proof.entries.length ++ proof.entries.flatMap (·.serialize)

/-- Read a proof. -/
def deserialize : Reader BmmProof := do
  let version ← Reader.number 1
  let previousState ← BmmL1State.deserialize
  let count ← Reader.compactSize
  let entries ← BmmProofEntry.deserialize.list count
  return { version := UInt8.ofNat version, previousState := previousState, entries := entries }

end BmmProof

/-- Read a proof; only its canonical bytes are accepted. -/
def deserializeBmmProof (bytes : Bytes) : Except String BmmProof := do
  rejectIf (bytes = [] ∨ MAX_BMM_PROOF_BYTES < bytes.length)
    "BMM proof is empty or exceeds its consensus size bound"
  let malformed := "BMM proof is malformed or non-canonical"
  let (proof, rest) ← orReject (BmmProof.deserialize bytes).toOption malformed
  rejectIf (rest ≠ [] ∨ proof.version ≠ BMM_PROOF_SCHEMA_VERSION ∨ proof.entries = [] ∨
    MAX_BMM_PROOF_ENTRIES < proof.entries.length ∨ proof.serialize ≠ bytes) malformed
  return proof

/-! ### The check -/

/-- What the check of a proof computes with. -/
structure BmmVerifier where
  hashing : ParentHashing
  codec : ParentCodec
  /-- The check of the signature that the signet asks of a block. -/
  checkSignetSolution : CTransaction → CMerkleBlock → Except String Unit

variable (V : BmmVerifier) (C : BmmConsensus)

/-- The hash of a header must not be above its target, nor the target above the limit. -/
def checkParentProofOfWork (merkleProof : CMerkleBlock) : Except String Unit :=
  let target := setCompact merkleProof.nBits
  rejectIf (target.negative ∨ target.value = 0 ∨ target.overflow ∨
      C.powLimit.toArith < target.value ∨
      target.value < (V.hashing.headerHash merkleProof.header).toArith)
    "BMM proof contains an invalid parent-chain proof-of-work header"

/-- The state after one more header. -/
def BmmL1State.extend (state : BmmL1State) (merkleProof : CMerkleBlock) : BmmL1State :=
  let height := state.height + 1
  let crossed := height.toNat % C.difficultyAdjustmentInterval = 0
  { blockHash := V.hashing.headerHash merkleProof.header
    height := height
    blockTime := merkleProof.nTime
    nBits := merkleProof.nBits
    periodStartHeight := if crossed then height else state.periodStartHeight
    periodStartTime := if crossed then merkleProof.nTime else state.periodStartTime
    recentTimes := state.recentTimes.tail ++ [merkleProof.nTime] }

/-- The check of one header with its coinbase. -/
def verifyBmmProofEntry (state : BmmL1State) (entry : BmmProofEntry) :
    Except String (CTransaction × CMerkleBlock) := do
  let bound := MAX_BLOCK_WEIGHT / WITNESS_SCALE_FACTOR
  rejectIf (entry.coinbaseTx = [] ∨ bound < entry.coinbaseTx.length ∨ entry.coinbaseProof = [] ∨
    bound < entry.coinbaseProof.length)
    "BMM proof entry exceeds its transaction or Merkle proof bound"
  let malformed := "BMM proof entry has a malformed or non-canonical coinbase proof"
  let coinbase ← orReject (V.codec.transaction entry.coinbaseTx) malformed
  let merkleProof ← orReject (V.codec.merkleBlock entry.coinbaseProof) malformed
  rejectIf (¬coinbase.IsCoinBase) malformed
  rejectIf (merkleProof.txn.extractMatches V.hashing ≠
      (merkleProof.header.hashMerkleRoot, [(V.hashing.txid coinbase, 0)]))
    "BMM Merkle proof does not authenticate exactly the parent coinbase"
  rejectIf (merkleProof.header.hashPrevBlock ≠ state.blockHash ∨
      merkleProof.nBits ≠ expectedNextBits C state ∨
      merkleProof.nTime ≤ medianTimePast state.recentTimes)
    "BMM parent header does not extend the authenticated state"
  checkParentProofOfWork V C merkleProof
  if C.requireSignetSolution then V.checkSignetSolution coinbase merkleProof
  return (coinbase, merkleProof)

/-- One header, and the coinbase and the header that were checked last. -/
def bmmProofStep (acc : BmmL1State × Option (CTransaction × CMerkleBlock)) (entry : BmmProofEntry) :
    Except String (BmmL1State × Option (CTransaction × CMerkleBlock)) := do
  let last ← verifyBmmProofEntry V C acc.1 entry
  return (acc.1.extend V C last.2, some last)

/-- The commitment of a coinbase to a sidechain block. -/
def extractM8Commitment (coinbase : CTransaction) (sidechainSlot : UInt8) :
    Except String Uint256 :=
  match coinbase.vout.filterMap fun output => m7Commitment sidechainSlot output.scriptPubKey with
  | [] => throw "BMM successor coinbase has no M8 commitment for slot 24"
  | [commitment] => pure commitment
  | _ => throw "BMM successor coinbase contains multiple M8 commitments for slot 24"

/-- The check of a proof; the result is the state after its last header. -/
def verifyBmmProofEntries (proof : BmmProof) (expectedCriticalHash expectedParentHash : Uint256) :
    Except String BmmL1State := do
  rejectIf (proof.version ≠ BMM_PROOF_SCHEMA_VERSION ∨ proof.entries = [] ∨
    C.maxEntries < proof.entries.length) "BMM proof envelope is invalid"
  checkState C proof.previousState
  let (state, last) ← proof.entries.foldlM (bmmProofStep V C) (proof.previousState, none)
  let (coinbase, merkleProof) ← orReject last "BMM proof envelope is invalid"
  rejectIf (merkleProof.header.hashPrevBlock ≠ expectedParentHash)
    "BMM proof final header is not the successor of the committed L1 parent"
  let minedCommitment ← extractM8Commitment coinbase C.sidechainSlot
  rejectIf (minedCommitment ≠ expectedCriticalHash)
    "BMM successor commitment does not match the sidechain critical hash"
  return state

/-- The parent block that a sidechain block commits to. -/
def extractSidechainParentHash (block : Child.CBlock) : Except String Uint256 :=
  match block.vtx with
  | [] => throw "sidechain block has no coinbase transaction"
  | coinbase :: _ =>
    let commitments := coinbase.vout.filterMap fun output =>
      (extractSingleOpReturnPush output.scriptPubKey).bind fun data =>
        if h : data.length = 32 then some (⟨data, h⟩ : Uint256) else none
    match commitments with
    | [] => throw "sidechain block has no L1 parent commitment"
    | [parentHash] => pure parentHash
    | _ => throw "sidechain block has multiple L1 parent commitments"

/-- The check of the proof of a block against the state before it. -/
def verifyBmmProof (block : Child.CBlock) (expectedPrevious : BmmL1State) :
    Except String BmmL1State := do
  rejectIf (¬block.HasBmmProof ∨ block.hashBmmProof = 0 ∨ block.bmmProof = [] ∨
      C.maxProofBytes < block.bmmProof.length ∨
      V.hashing.hash block.bmmProof ≠ block.hashBmmProof)
    "sidechain block does not commit its exact BMM proof bytes"
  let proof ← deserializeBmmProof block.bmmProof
  rejectIf (proof.previousState ≠ expectedPrevious)
    "BMM proof does not extend the locally authenticated parent-chain state"
  let parentHash ← extractSidechainParentHash block
  verifyBmmProofEntries V C proof block.bmmCriticalHash parentHash

/-! ### What is accepted -/

variable {V C}

/-- A header that is accepted after a state. -/
structure HeaderExtends (V : BmmVerifier) (C : BmmConsensus) (state : BmmL1State)
    (merkleProof : CMerkleBlock) : Prop where
  hashPrevBlock : merkleProof.header.hashPrevBlock = state.blockHash
  nBits : merkleProof.nBits = expectedNextBits C state
  /-- It is later than the median of the last times. -/
  nTime : medianTimePast state.recentTimes < merkleProof.nTime
  work : checkParentProofOfWork V C merkleProof = .ok ()

theorem verifyBmmProofEntry_spec {state : BmmL1State} {entry : BmmProofEntry}
    {last : CTransaction × CMerkleBlock} (h : verifyBmmProofEntry V C state entry = .ok last) :
    V.codec.merkleBlock entry.coinbaseProof = some last.2 ∧ HeaderExtends V C state last.2 := by
  simp only [verifyBmmProofEntry, bind_eq_ok, rejectIf_eq_ok, orReject_eq_ok] at h
  obtain ⟨_, -, coinbase, -, merkleProof, hmerkle, _, -, _, -, _, hextends, _, hwork, h⟩ := h
  obtain ⟨hprev, hbits, htime⟩ := (not_or.1 hextends).imp_right not_or.1
  have hlast : last = (coinbase, merkleProof) := by
    split_ifs at h
    · obtain ⟨_, -, hpure⟩ := bind_eq_ok.1 h
      exact (pure_eq_ok.1 hpure).symm
    · exact (pure_eq_ok.1 h).symm
  rw [hlast]
  exact ⟨hmerkle, not_not.1 hprev, not_not.1 hbits, UInt32.not_le.1 htime, hwork⟩

/-- Headers lead from a state to another, one after the other. -/
abbrev HeaderChain (V : BmmVerifier) (C : BmmConsensus) :
    BmmL1State → List CMerkleBlock → BmmL1State → Prop :=
  Run fun state merkleProof next => HeaderExtends V C state merkleProof ∧
    next = state.extend V C merkleProof

/-- **An accepted proof is a chain of headers** from the state that it starts from, one for each
entry. -/
theorem verifyBmmProofEntries_eq_ok {proof : BmmProof} {criticalHash parentHash : Uint256}
    {next : BmmL1State} (h : verifyBmmProofEntries V C proof criticalHash parentHash = .ok next) :
    ValidState C proof.previousState ∧
      ∃ headers, List.Forall₂ (fun entry header =>
          V.codec.merkleBlock entry.coinbaseProof = some header) proof.entries headers ∧
        HeaderChain V C proof.previousState headers next := by
  simp only [verifyBmmProofEntries, bind_eq_ok, rejectIf_eq_ok, orReject_eq_ok, pure_eq_ok] at h
  obtain ⟨_, -, _, hvalid, acc, hloop, _, -, _, -, _, -, _, -, rfl⟩ := h
  refine ⟨not_not.1 (rejectIf_eq_ok.1 hvalid), ?_⟩
  -- the entries so far hold headers that lead to the state so far
  refine foldlM_induction hloop ⟨[], .nil, .nil⟩ ?_
  rintro done entry acc acc' - ⟨headers, hheaders, hchain⟩ hstep
  simp only [bmmProofStep, bind_eq_ok, pure_eq_ok] at hstep
  obtain ⟨last, hentry, rfl⟩ := hstep
  obtain ⟨hmerkle, hextends⟩ := verifyBmmProofEntry_spec hentry
  exact ⟨headers ++ [last.2], List.rel_append hheaders (.cons hmerkle .nil),
    hchain.snoc ⟨hextends, rfl⟩⟩

end ElementsDrivechain
