import ElementsDrivechain.Foundations.Codec
import Mathlib.Data.Int.Notation
import Mathlib.Data.List.Basic

/-!
# Parent-chain primitives

The blocks and transactions of the parent chain as the node reads them, the amounts they carry and
the part of script decoding that the drivechain messages need.

Hashing is a parameter of the whole development: a `ParentHashing` gives the transaction id, the
block hash and the hash of a byte string, and nothing is assumed of it until a theorem says so.
-/

namespace ElementsDrivechain

/-- Comparing two fields in turn tells values apart when the two fields together do. -/
theorem lawfulEqCmp_compareLex {α β γ : Type} [Ord β] [Ord γ] [Std.LawfulEqOrd β]
    [Std.LawfulEqOrd γ] {f : α → β} {g : α → γ}
    (h : ∀ a b, f a = f b → g a = g b → a = b) :
    Std.LawfulEqCmp (compareLex (compareOn f) (compareOn g)) where
  compare_self := by
    intro a
    simp [compareLex, compareOn]
  eq_of_compare {a b} hab := by
    obtain ⟨h₁, h₂⟩ := Ordering.then_eq_eq.1 hab
    exact h a b (Std.LawfulEqOrd.eq_of_compare h₁) (Std.LawfulEqOrd.eq_of_compare h₂)

/-! ### 256-bit values -/

/-- A 256-bit value, first byte first as it lies in memory. -/
structure Uint256 where
  /-- The bytes of the value. -/
  data : Bytes
  size_data : data.length = 32
deriving DecidableEq

namespace Uint256

instance : Zero Uint256 := ⟨⟨List.replicate 32 0, List.length_replicate⟩⟩

instance : Inhabited Uint256 := ⟨0⟩

/-- Values are compared as byte strings, as `memcmp` does. -/
instance : Ord Uint256 := ⟨compareOn data⟩

instance : Std.TransOrd Uint256 := inferInstanceAs (Std.TransCmp (compareOn data))

instance : Std.LawfulEqOrd Uint256 where
  compare_self := Std.ReflCmp.compare_self
  eq_of_compare {a b} h := by
    obtain ⟨da, ha⟩ := a
    obtain ⟨db, hb⟩ := b
    obtain rfl : da = db := Std.LawfulEqOrd.eq_of_compare h
    rfl

/-- The value with the given bytes; every caller passes exactly thirty-two. -/
def ofBytes (b : Bytes) : Uint256 := if h : b.length = 32 then ⟨b, h⟩ else 0

/-- The value that displays as the given number in hexadecimal. -/
def ofNat (n : ℕ) : Uint256 := ⟨writeLE 32 n, length_writeLE 32 n⟩

/-- The value whose first byte is `b` and whose other bytes are zero. -/
def ofByte (b : UInt8) : Uint256 := ⟨b :: List.replicate 31 0, by simp⟩

theorem data_injective : Function.Injective data := by
  rintro ⟨a, ha⟩ ⟨b, hb⟩ rfl
  rfl

theorem data_ofBytes {b : Bytes} (h : b.length = 32) : (ofBytes b).data = b := by
  rw [ofBytes, dif_pos h]

theorem ofBytes_data (u : Uint256) : ofBytes u.data = u :=
  data_injective (data_ofBytes u.size_data)

/-- A value and what follows it are determined by what they spell together. -/
theorem append_inj {u v : Uint256} {a b : Bytes} (h : u.data ++ a = v.data ++ b) :
    u = v ∧ a = b := by
  obtain ⟨hdata, hrest⟩ := List.append_inj h (u.size_data.trans v.size_data.symm)
  exact ⟨data_injective hdata, hrest⟩

/-- The number a 256-bit value stands for. -/
def toArith (u : Uint256) : ℕ := readLE u.data

/-- The bytes in the order in which they are displayed, last byte first. -/
def displayBytes (u : Uint256) : Uint256 :=
  ⟨u.data.reverse, by rw [List.length_reverse, u.size_data]⟩

theorem displayBytes_injective : Function.Injective displayBytes :=
  fun _ _ h => data_injective (List.reverse_injective (congrArg data h))

/-- The hexadecimal display form, last byte first. -/
def getHex (u : Uint256) : String :=
  String.ofList (u.data.reverse.flatMap fun b =>
    [Nat.digitChar (b.toNat / 16), Nat.digitChar (b.toNat % 16)])

end Uint256

/-- Read a value as its bytes. -/
def Reader.uint256 : Reader Uint256 := (fun b => ⟨b.1, b.2⟩) <$> Reader.take 32

theorem Reader.Reads.uint256 (id : Uint256) : Reader.uint256.Reads id id.data :=
  (Reader.Reads.take id.size_data).map

/-! ### Amounts -/

/-- One coin in satoshis. -/
def COIN : ℤ := 100000000

/-- No amount larger than this is valid. -/
def MAX_MONEY : ℤ := 21000000 * COIN

/-- The amounts that are valid sums of money. -/
def MoneyRange (value : ℤ) : Prop := 0 ≤ value ∧ value ≤ MAX_MONEY
deriving Decidable

theorem MoneyRange.nonneg {value : ℤ} (h : MoneyRange value) : 0 ≤ value := h.1

theorem moneyRange_zero : MoneyRange 0 := by decide

/-- The difference of two sums of money is one when it is not negative. -/
theorem MoneyRange.sub {a b : ℤ} (ha : MoneyRange a) (hb : MoneyRange b) (h : b ≤ a) :
    MoneyRange (a - b) := by
  unfold MoneyRange at *
  omega

/-! ### Transactions and blocks -/

/-- A reference to one output of a transaction. -/
structure COutPoint where
  /-- The id of the transaction. -/
  hash : Uint256
  /-- The index of the output. -/
  n : ℕ
deriving DecidableEq

namespace COutPoint

/-- The output index of the null reference. -/
def NULL_INDEX : ℕ := 2 ^ 32 - 1

/-- The reference a coinbase input carries. -/
def IsNull (o : COutPoint) : Prop := o.hash = 0 ∧ o.n = NULL_INDEX
deriving Decidable

/-- References are ordered by transaction id and then by output index. -/
instance : Ord COutPoint := ⟨compareLex (compareOn hash) (compareOn n)⟩

instance : Std.TransOrd COutPoint :=
  inferInstanceAs (Std.TransCmp (compareLex (compareOn hash) (compareOn n)))

instance : Std.LawfulEqOrd COutPoint :=
  lawfulEqCmp_compareLex fun a b h₁ h₂ => by cases a; cases b; simp_all

end COutPoint

/-- A script, as its bytes. -/
abbrev CScript := Bytes

/-- A transaction input.  Its witness is no part of the transaction id and is read by nothing
here. -/
structure CTxIn where
  /-- The output that is spent. -/
  prevout : COutPoint
  scriptSig : CScript := []
  nSequence : ℕ := 2 ^ 32 - 1
deriving DecidableEq

/-- A transaction output. -/
structure CTxOut where
  /-- The amount in satoshis. -/
  nValue : ℤ
  scriptPubKey : CScript
deriving DecidableEq

/-- A parent transaction. -/
structure CTransaction where
  vin : List CTxIn
  vout : List CTxOut
  version : ℕ := 2
  nLockTime : ℕ := 0
deriving DecidableEq

/-- A coinbase transaction has one input, and that input refers to nothing. -/
def CTransaction.IsCoinBase (tx : CTransaction) : Prop :=
  ∃ i, tx.vin = [i] ∧ i.prevout.IsNull

instance : DecidablePred CTransaction.IsCoinBase := fun tx =>
  match h : tx.vin with
  | [i] => decidable_of_iff i.prevout.IsNull (by simp [CTransaction.IsCoinBase, h])
  | [] => .isFalse (by simp [CTransaction.IsCoinBase, h])
  | _ :: _ :: _ => .isFalse (by simp [CTransaction.IsCoinBase, h])

/-- A parent block header. -/
structure CBlockHeader where
  nVersion : ℤ := 0
  hashPrevBlock : Uint256
  hashMerkleRoot : Uint256 := 0
  nTime : ℕ := 0
  nBits : ℕ := 0
  nNonce : ℕ := 0
deriving DecidableEq

/-- A parent block. -/
structure CBlock extends CBlockHeader where
  vtx : List CTransaction
deriving DecidableEq

/-- The transactions after the coinbase. -/
def CBlock.transactions (block : CBlock) : List CTransaction := block.vtx.tail

/-- The outputs of the coinbase. -/
def CBlock.coinbaseOutputs (block : CBlock) : List CTxOut := (block.vtx.head?.map (·.vout)).getD []

/-- The hash functions of the parent chain. -/
structure ParentHashing where
  /-- The transaction id. -/
  txid : CTransaction → Uint256
  /-- The block hash. -/
  headerHash : CBlockHeader → Uint256
  /-- The double SHA-256 of a byte string. -/
  hash : Bytes → Uint256

/-- A stand-in for a hash, good enough to tell a few byte strings apart. -/
def Sample.polynomialHash (b : Bytes) : Uint256 :=
  .ofNat (b.foldl (fun acc x => (acc * 257 + x.toNat + 1) % (2 ^ 256 - 189)) 7)

/-- The hash of a block is the hash of its header. -/
def ParentHashing.blockHash (H : ParentHashing) (block : CBlock) : Uint256 :=
  H.headerHash block.toCBlockHeader

/-! ### Script decoding -/

/-- The length of the push is one byte. -/
def OP_PUSHDATA1 : UInt8 := 0x4c
/-- The length of the push is two bytes. -/
def OP_PUSHDATA2 : UInt8 := 0x4d
/-- The length of the push is four bytes. -/
def OP_PUSHDATA4 : UInt8 := 0x4e
/-- The opcode that makes an output unspendable. -/
def OP_RETURN : UInt8 := 0x6a

/-- Split off `size` bytes, when there are that many. -/
def takePush (size : ℕ) (rest : Bytes) : Option (Bytes × Bytes) :=
  if rest.length < size then none else some (rest.take size, rest.drop size)

/-- Decode one instruction: the opcode, the bytes it pushes and the rest of the script. -/
def getOp : CScript → Option (UInt8 × Bytes × CScript)
  | [] => none
  | opcode :: rest =>
    if opcode ≤ OP_PUSHDATA4 then
      let sizeBytes := if opcode < OP_PUSHDATA1 then 0
        else if opcode = OP_PUSHDATA1 then 1
        else if opcode = OP_PUSHDATA2 then 2
        else 4
      match takePush sizeBytes rest with
      | none => none
      | some (size, rest) =>
        let nSize := if opcode < OP_PUSHDATA1 then opcode.toNat else readLE size
        (takePush nSize rest).map fun (pushed, rest) => (opcode, pushed, rest)
    else some (opcode, [], rest)

theorem takePush_eq_some {size : ℕ} {bytes pushed rest : Bytes}
    (h : takePush size bytes = some (pushed, rest)) :
    bytes = pushed ++ rest ∧ pushed.length = size := by
  unfold takePush at h
  split_ifs at h with hlt
  obtain ⟨rfl, rfl⟩ := Prod.mk.inj (Option.some.inj h)
  exact ⟨(List.take_append_drop size bytes).symm, List.length_take_of_le (not_lt.1 hlt)⟩

/-- An instruction is a push, with the bytes of its length and what it pushes, or a single byte. -/
theorem getOp_eq_some {script data rest : Bytes} {opcode : UInt8}
    (h : getOp script = some (opcode, data, rest)) :
    (opcode ≤ OP_PUSHDATA4 ∧ ∃ size : Bytes, (opcode = OP_PUSHDATA2 → size.length = 2) ∧
      script = opcode :: (size ++ (data ++ rest))) ∨
    (¬opcode ≤ OP_PUSHDATA4 ∧ script = opcode :: rest) := by
  cases script with
  | nil => cases h
  | cons first script =>
    by_cases hpush : first ≤ OP_PUSHDATA4
    · simp only [getOp, hpush, if_true] at h
      split at h
      · cases h
      case h_2 size rest' hsize =>
        obtain ⟨⟨pushed, last⟩, hpushed, heq⟩ := Option.map_eq_some_iff.1 h
        obtain ⟨rfl, rfl, rfl⟩ : first = opcode ∧ pushed = data ∧ last = rest := by
          simpa using heq
        obtain ⟨rfl, hlength⟩ := takePush_eq_some hsize
        obtain ⟨rfl, -⟩ := takePush_eq_some hpushed
        refine .inl ⟨hpush, size, ?_, rfl⟩
        rintro rfl
        exact hlength
    · simp only [getOp, hpush, if_false] at h
      obtain ⟨rfl, -, rfl⟩ : first = opcode ∧ [] = data ∧ script = rest := by simpa using h
      exact .inr ⟨hpush, rfl⟩

/-- The payload of a script that is `OP_RETURN` followed by exactly one push. -/
def extractSingleOpReturnPush (script : CScript) : Option Bytes :=
  match getOp script with
  | none => none
  | some (opcode, _, rest) =>
    if opcode = OP_RETURN then
      match getOp rest with
      | none => none
      | some (opcode, pushed, rest) =>
        if opcode ≤ OP_PUSHDATA4 ∧ rest = [] then some pushed else none
    else none

end ElementsDrivechain
