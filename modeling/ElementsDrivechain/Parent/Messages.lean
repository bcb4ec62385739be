import ElementsDrivechain.Foundations.Fallible
import ElementsDrivechain.Parent.Primitives

/-!
# The drivechain messages of a parent block

A parent miner speaks to the sidechains through outputs of the coinbase transaction: proposing a
sidechain (M1), acknowledging a proposal (M2), proposing a bundle of withdrawals (M3), voting on
pending bundles (M4) and accepting a blind merged-mining commitment (M7).  A request for such a
commitment (M8) is the first output of an ordinary transaction, and a sidechain's treasury is an
output with a fixed four-byte script.  This file decodes all of them.
-/

namespace ElementsDrivechain

open Fallible

/-- A slot number as the byte that names it on the parent chain. -/
def slotByte (sidechainSlot : ℤ) : UInt8 := UInt8.ofNat (sidechainSlot % 256).toNat

/-! ### Treasury outputs -/

/-- The opcode that marks a treasury output, fixed by the parent network. -/
inductive TreasuryOpcode
  | NOP5
  | NOP8
deriving DecidableEq, Repr

/-- The opcode as a byte. -/
def TreasuryOpcode.byte : TreasuryOpcode → UInt8
  | NOP5 => 0xb4
  | NOP8 => 0xb7

/-- The slot of an exact four-byte treasury script. -/
def extractTreasurySlot (script : CScript) (opcode : TreasuryOpcode) : Option UInt8 :=
  match script with
  | [op, push, slot, last] =>
    if op = opcode.byte ∧ push = 0x01 ∧ last = 0x51 then some slot else none
  | _ => none

/-! ### Coinbase messages -/

/-- The kinds of coinbase messages. -/
inductive DrivechainParentMessageType
  | NONE
  | PROPOSAL
  | ACK
  | WITHDRAWAL_PROPOSAL
  | WITHDRAWAL_ACK
  | BMM_ACCEPT
deriving DecidableEq, Repr

/-- The forms in which an M4 gives its votes. -/
inductive DrivechainM4Encoding
  | NONE
  | REPEAT_PREVIOUS
  | EXPLICIT
  | LEADING_BY_50
deriving DecidableEq, Repr

/-- A decoded coinbase message. -/
structure DrivechainParentMessage where
  type : DrivechainParentMessageType := .NONE
  /-- The sidechain that M1, M2, M3 and M7 name. -/
  slot : UInt8 := 0
  /-- The proposal hash of M1 and M2, the bundle of M3, the commitment of M7. -/
  proposalHash : Uint256 := 0
  /-- How an M4 gives its votes; `NONE` when it is not canonical. -/
  m4Encoding : DrivechainM4Encoding := .NONE
  /-- One vote for each active sidechain, in the order of their slots. -/
  m4Votes : List ℕ := []
deriving DecidableEq

/-- The first bytes of a proposal. -/
def M1_TAG : Bytes := [0xd5, 0xe0, 0xc4, 0xaf]
/-- The first bytes of an acknowledgement. -/
def M2_TAG : Bytes := [0xd6, 0xe1, 0xc5, 0xdf]
/-- The first bytes of a bundle proposal. -/
def M3_TAG : Bytes := [0xd4, 0x5a, 0xa9, 0x43]
/-- The first bytes of a vote on bundles. -/
def M4_TAG : Bytes := [0xd7, 0x7d, 0x17, 0x76]
/-- The first bytes of a merged-mining commitment. -/
def M7_TAG : Bytes := [0xd1, 0x61, 0x73, 0x68]

/-- A vote of abstention. -/
def M4_ABSTAIN : ℕ := 0xffff

/-- A vote against every pending bundle. -/
def M4_ALARM : ℕ := 0xfffe

/-- One-byte votes: the two largest bytes stand for abstention and alarm. -/
def oneByteVotes (votes : Bytes) : List ℕ :=
  votes.map fun b => if b = 0xff then M4_ABSTAIN else if b = 0xfe then M4_ALARM else b.toNat

/-- Two-byte votes, little-endian. -/
def twoByteVotes : Bytes → List ℕ
  | low :: high :: rest => (low.toNat + 256 * high.toNat) :: twoByteVotes rest
  | _ => []

/-- Decode the M4 message with the given payload. -/
def parseM4 (payload : Bytes) : DrivechainParentMessage :=
  if payload.getD 4 0 = 0 then
    if payload.length ≠ 5 then {}
    else { type := .WITHDRAWAL_ACK, m4Encoding := .REPEAT_PREVIOUS }
  else if payload.getD 4 0 = 1 then
    { type := .WITHDRAWAL_ACK, m4Encoding := .EXPLICIT, m4Votes := oneByteVotes (payload.drop 5) }
  else if payload.getD 4 0 = 2 then
    if (payload.length - 5) % 2 ≠ 0 then {}
    else
      let votes := twoByteVotes (payload.drop 5)
      -- two bytes a vote are not canonical unless some vote needs them
      { type := .WITHDRAWAL_ACK
        m4Encoding := if votes.all (· ≤ 253) then .NONE else .EXPLICIT
        m4Votes := votes }
  else if payload.getD 4 0 = 3 then
    if payload.length ≠ 5 then {}
    else { type := .WITHDRAWAL_ACK, m4Encoding := .LEADING_BY_50 }
  else {}

/-- Decode one coinbase output. -/
def parseDrivechainParentMessage (H : ParentHashing) (script : CScript) :
    DrivechainParentMessage :=
  match extractSingleOpReturnPush script with
  | none => {}
  | some payload =>
    let tag := payload.take 4
    let slot := payload.getD 4 0
    if payload.length < 5 then {}
    else if tag = M1_TAG then
      { type := .PROPOSAL, slot := slot, proposalHash := H.hash (payload.drop 5) }
    else if payload.length = 37 ∧ tag = M2_TAG then
      { type := .ACK, slot := slot, proposalHash := .ofBytes (payload.drop 5) }
    else if payload.length = 37 ∧ tag = M3_TAG then
      { type := .WITHDRAWAL_PROPOSAL, slot := slot, proposalHash := .ofBytes (payload.drop 5) }
    else if tag = M4_TAG then parseM4 payload
    else if payload.length = 37 ∧ tag = M7_TAG then
      -- the commitment travels in display order
      { type := .BMM_ACCEPT, slot := slot, proposalHash := .ofBytes (payload.drop 5).reverse }
    else {}

/-! ### Blind merged mining -/

/-- A request for a merged-mining commitment. -/
structure DrivechainM8BmmRequest where
  slot : UInt8
  /-- The commitment that is asked for. -/
  sidechainBlockHash : Uint256
  /-- The parent block on which the answer has to be mined. -/
  previousMainchainBlockHash : Uint256
deriving DecidableEq

/-- The first bytes of a merged-mining request. -/
def M8_TAG : Bytes := [0x00, 0xbf, 0x00]

/-- The M8 request of a transaction: its first output, in one exact encoding. -/
def extractDrivechainM8BmmRequest (transaction : CTransaction) : Option DrivechainM8BmmRequest :=
  match transaction.vout with
  | [] => none
  | output :: _ =>
    let script := output.scriptPubKey
    if script.length = 70 ∧ script.getD 0 0 = OP_RETURN ∧ script.getD 1 0 = 68 ∧
        (script.drop 2).take 3 = M8_TAG then
      some
        { slot := script.getD 5 0
          sidechainBlockHash := .ofBytes ((script.drop 6).take 32).reverse
          previousMainchainBlockHash := .ofBytes (script.drop 38) }
    else none

/-- The M7 commitment of one coinbase output for the given slot. -/
def m7Commitment (slot : UInt8) (script : CScript) : Option Uint256 :=
  match extractSingleOpReturnPush script with
  | none => none
  | some payload =>
    if payload.length = 37 ∧ payload.take 4 = M7_TAG ∧ payload.getD 4 0 = slot then
      some (.ofBytes (payload.drop 5).reverse)
    else none

/-- The commitment of the only M7 of the block for the slot. -/
def extractCanonicalDrivechainBmmCommitmentInBlock (block : CBlock) (sidechainSlot : ℤ) :
    Except String Uint256 := do
  rejectIf (sidechainSlot < 0 ∨ sidechainSlot > 255)
    "BIP301 M7 sidechain slot is outside the uint8 range"
  match block.vtx with
  | [] => throw "raw BMM block has no coinbase transaction"
  | coinbase :: _ =>
    rejectIf (¬coinbase.IsCoinBase) "raw BMM block has no coinbase transaction"
    let slot := slotByte sidechainSlot
    match coinbase.vout.filterMap fun output => m7Commitment slot output.scriptPubKey with
    | [] => throw s!"BMM successor has no enforcer-recognized M7 for sidechain slot {sidechainSlot}"
    | [commitment] => return commitment
    | matched =>
      throw <| s!"BMM successor has {matched.length} enforcer-recognized M7 outputs " ++
        s!"for sidechain slot {sidechainSlot}"

end ElementsDrivechain
