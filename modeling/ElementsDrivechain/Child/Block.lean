import ElementsDrivechain.Child.Transaction

/-!
# Blocks of the sidechain

The parts of a header that commit to the exchange, to withdrawals and to the proof of the merged
mining, each announced by a bit of the version.
-/

namespace ElementsDrivechain.Child

/-- The commitments of a header. -/
structure CBlockHeader where
  nVersion : UInt32 := 0
  hashWithdrawalBundle : Uint256 := 0
  hashBmmProof : Uint256 := 0
  hashExchangeStateRoot : Uint256 := 0
  hashForcedInboxRoot : Uint256 := 0
  hashDepositInboxRoot : Uint256 := 0
  ecxParentHeight : UInt32 := 0
  forcedProcessedCursor : UInt64 := 0
  depositProcessedCursor : UInt64 := 0
  sourceBacklogOldestParentHeight : UInt64 := 0
deriving DecidableEq

namespace CBlockHeader

/-- The bit that announces a proof of the merged mining. -/
def BMM_PROOF_HF_MASK : UInt32 := (1 : UInt32) <<< 20
/-- The bit that announces the state of the exchange. -/
def EXCHANGE_STATE_HF_MASK : UInt32 := (1 : UInt32) <<< 19
/-- The bit that announces the forced inbox. -/
def FORCED_INBOX_HF_MASK : UInt32 := (1 : UInt32) <<< 18
/-- The bit that announces the deposit inbox. -/
def DEPOSIT_INBOX_HF_MASK : UInt32 := (1 : UInt32) <<< 17
/-- The bit that announces the cursors of the inboxes. -/
def INBOX_CURSOR_HF_MASK : UInt32 := (1 : UInt32) <<< 16

/-- The version announces an extension of the header. -/
def Signals (header : CBlockHeader) (mask : UInt32) : Prop := header.nVersion &&& mask ≠ 0
deriving Decidable

/-- The header commits to a proof. -/
def HasBmmProof (header : CBlockHeader) : Prop := header.Signals BMM_PROOF_HF_MASK
deriving Decidable
/-- The header commits to the state of the exchange. -/
def HasExchangeState (header : CBlockHeader) : Prop := header.Signals EXCHANGE_STATE_HF_MASK
deriving Decidable
/-- The header commits to the forced inbox. -/
def HasForcedInbox (header : CBlockHeader) : Prop := header.Signals FORCED_INBOX_HF_MASK
deriving Decidable
/-- The header commits to the deposit inbox. -/
def HasDepositInbox (header : CBlockHeader) : Prop := header.Signals DEPOSIT_INBOX_HF_MASK
deriving Decidable
/-- The header commits to the cursors. -/
def HasInboxCursors (header : CBlockHeader) : Prop := header.Signals INBOX_CURSOR_HF_MASK
deriving Decidable

end CBlockHeader

/-- A block. -/
structure CBlock extends CBlockHeader where
  /-- The hash of its header. -/
  hash : Uint256
  /-- The hash of its header without the commitment to the proof, which is what the parent chain
  commits to. -/
  bmmCriticalHash : Uint256 := 0
  vtx : List CTransaction
  /-- The bytes of the proof. -/
  bmmProof : Bytes := []

/-- What is remembered of a block of the chain. -/
structure CBlockIndex extends CBlockHeader where
  hash : Uint256
  nHeight : ℤ
  /-- The proof profile of the capital of the exchange, when there is one. -/
  ecxBondV2ProofProfile : Option UInt8 := none

/-- What is remembered of a block at a height. -/
def CBlock.index (block : CBlock) (height : ℤ) (proofProfile : Option UInt8) : CBlockIndex where
  toCBlockHeader := block.toCBlockHeader
  hash := block.hash
  nHeight := height
  ecxBondV2ProofProfile := proofProfile

end ElementsDrivechain.Child
