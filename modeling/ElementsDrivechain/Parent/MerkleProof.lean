import ElementsDrivechain.Parent.Primitives

/-!
# Proofs that a parent block holds a transaction

A partial Merkle tree keeps, of the tree of transaction ids of a block, the part that leads to some
chosen transactions.  Reading it gives the root of the tree and the ids that were chosen.
-/

namespace ElementsDrivechain

/-- The part of a Merkle tree that leads to some of its leaves. -/
structure CPartialMerkleTree where
  /-- The number of transactions of the block. -/
  nTransactions : ℕ
  /-- For every node on the way, whether it is a parent of a chosen leaf. -/
  vBits : List Bool
  /-- The hashes at which the reading stops. -/
  vHash : List Uint256

/-- A partial Merkle tree with the header of its block, whose fields have their widths. -/
structure CMerkleBlock where
  header : CBlockHeader
  txn : CPartialMerkleTree
  nTime_lt : header.nTime < 2 ^ 32
  nBits_lt : header.nBits < 2 ^ 32

namespace CMerkleBlock

/-- The time of the block. -/
def nTime (block : CMerkleBlock) : UInt32 := UInt32.ofNatLT block.header.nTime block.nTime_lt
/-- The compact target of the block. -/
def nBits (block : CMerkleBlock) : UInt32 := UInt32.ofNatLT block.header.nBits block.nBits_lt

end CMerkleBlock

/-- No block weighs more. -/
def MAX_BLOCK_WEIGHT : ℕ := 6000000
/-- The weight of a byte that is not witness data. -/
def WITNESS_SCALE_FACTOR : ℕ := 4
/-- No transaction weighs less. -/
def MIN_TRANSACTION_WEIGHT : ℕ := WITNESS_SCALE_FACTOR * 60

namespace CPartialMerkleTree

/-- What is left of a partial tree while it is read, and what was found. -/
structure Cursor where
  bits : List Bool
  hashes : List Uint256
  /-- The chosen ids so far, with their positions. -/
  found : List (Uint256 × ℕ) := []
  /-- The tree was found to be malformed. -/
  fBad : Bool := false

variable (H : ParentHashing)

/-- The number of nodes of a level. -/
def calcTreeWidth (tree : CPartialMerkleTree) (height : ℕ) : ℕ :=
  (tree.nTransactions + 2 ^ height - 1) / 2 ^ height

/-- The level that has one node. -/
def treeHeight (tree : CPartialMerkleTree) : ℕ :=
  ((List.range 33).find? (tree.calcTreeWidth · ≤ 1)).getD 33

/-- Take a stored hash; at a leaf that was chosen it is one of the ids. -/
def takeHash (pos : ℕ) (chosen : Bool) (cursor : Cursor) : Uint256 × Cursor :=
  match cursor.hashes with
  | [] => (0, { cursor with fBad := true })
  | hash :: hashes =>
    (hash, { cursor with
      hashes := hashes
      found := if chosen then cursor.found ++ [(hash, pos)] else cursor.found })

/-- Read the subtree at a position of a level. -/
def traverseAndExtract (tree : CPartialMerkleTree) : ℕ → ℕ → Cursor → Uint256 × Cursor
  | 0, pos, cursor =>
    match cursor.bits with
    | [] => (0, { cursor with fBad := true })
    | bit :: bits => takeHash pos bit { cursor with bits := bits }
  | height + 1, pos, cursor =>
    match cursor.bits with
    | [] => (0, { cursor with fBad := true })
    | false :: bits => takeHash pos false { cursor with bits := bits }
    | true :: bits =>
      let (left, cursor) := traverseAndExtract tree height (pos * 2) { cursor with bits := bits }
      if pos * 2 + 1 < tree.calcTreeWidth height then
        let (right, cursor) := traverseAndExtract tree height (pos * 2 + 1) cursor
        -- two equal halves would let a block claim a transaction twice
        (H.hash (left.data ++ right.data), { cursor with fBad := cursor.fBad || right = left })
      else (H.hash (left.data ++ left.data), cursor)

/-- The root of the tree and the chosen ids with their positions; the null root when the partial
tree is malformed. -/
def extractMatches (tree : CPartialMerkleTree) : Uint256 × List (Uint256 × ℕ) :=
  if tree.nTransactions = 0 ∨
      MAX_BLOCK_WEIGHT / MIN_TRANSACTION_WEIGHT < tree.nTransactions ∨
      tree.nTransactions < tree.vHash.length ∨ tree.vBits.length < tree.vHash.length then (0, [])
  else
    let (root, cursor) := traverseAndExtract H tree tree.treeHeight 0
      { bits := tree.vBits, hashes := tree.vHash }
    let bitsUsed := tree.vBits.length - cursor.bits.length
    if cursor.fBad ∨ (bitsUsed + 7) / 8 ≠ (tree.vBits.length + 7) / 8 ∨ cursor.hashes ≠ [] then
      (0, cursor.found)
    else (root, cursor.found)

end CPartialMerkleTree

/-- How parent transactions and Merkle blocks are read from bytes: the whole input is read, and
nothing but what it spells is read from it. -/
structure ParentCodec where
  /-- The transaction that the bytes spell. -/
  transaction : Bytes → Option CTransaction
  /-- The Merkle block that the bytes spell. -/
  merkleBlock : Bytes → Option CMerkleBlock

end ElementsDrivechain
