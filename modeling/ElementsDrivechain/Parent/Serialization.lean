import ElementsDrivechain.Parent.Primitives

/-!
# The wire format of parent transactions

Transactions without witnesses, as they are hashed for the transaction id.

* `Reader.Reads.compactSize_of_le` : sizes up to the limit are read back.
-/

namespace ElementsDrivechain

/-- The variable-length form of a size. -/
def writeCompactSize (size : ℕ) : Bytes :=
  if size < 253 then [UInt8.ofNat size]
  else if size ≤ 0xffff then 253 :: writeLE 2 size
  else if size ≤ 0xffffffff then 254 :: writeLE 4 size
  else 255 :: writeLE 8 size

/-- A byte string with its size. -/
def serializeBytes (b : Bytes) : Bytes := writeCompactSize b.length ++ b

/-- Larger sizes are refused. -/
def MAX_SIZE : ℕ := 0x02000000

/-- Read a size of more than one byte, which has to be in its shortest form. -/
def Reader.longSize (first : ℕ) : Reader ℕ := do
  let width := if first = 253 then 2 else if first = 254 then 4 else 8
  let size ← Reader.number width
  Reader.refuseIf (size < if width = 2 then 253 else if width = 4 then 0x10000 else 0x100000000)
    "non-canonical ReadCompactSize()"
  Reader.refuseIf (MAX_SIZE < size) "ReadCompactSize(): size too large"
  return size

/-- Read a size. -/
def Reader.compactSize : Reader ℕ := do
  let first ← Reader.number 1
  if first < 253 then pure first else Reader.longSize first

/-- Read a byte string with its size. -/
def Reader.bytes : Reader Bytes := do
  let size ← Reader.compactSize
  (·.1) <$> Reader.take size

theorem Reader.Reads.compactSize {size : ℕ} (h : size < 253) :
    Reader.Reads Reader.compactSize size (writeCompactSize size) := by
  have hfirst : Reader.Reads (Reader.number 1) size (writeCompactSize size) := by
    rw [writeCompactSize, if_pos h]
    exact (Reads.number (h.trans (by decide)) : Reads (Reader.number 1) _ (writeLE 1 size))
  rw [← List.append_nil (writeCompactSize _)]
  refine hfirst.bind ?_
  rw [if_pos h]
  exact Reads.pure _

theorem writeCompactSize_long {size : ℕ} (h : 253 ≤ size) (h' : size ≤ 0xffffffff) :
    ∃ first width, writeCompactSize size = writeLE 1 first ++ writeLE width size ∧
      first < 256 ^ 1 ∧ ¬first < 253 ∧
      (if first = 253 then 2 else if first = 254 then 4 else 8) = width ∧
      (¬size < if width = 2 then 253 else if width = 4 then 0x10000 else 0x100000000) ∧
      size < 256 ^ width := by
  unfold writeCompactSize
  rw [if_neg (not_lt.2 h)]
  by_cases htwo : size ≤ 0xffff
  · rw [if_pos htwo]
    exact ⟨253, 2, rfl, by decide, by decide, rfl, not_lt.2 h, by omega⟩
  · rw [if_neg htwo, if_pos h']
    exact ⟨254, 4, rfl, by decide, by decide, rfl, not_lt.2 (not_le.1 htwo), by omega⟩

theorem Reader.Reads.compactSize_of_le {size : ℕ} (h : size ≤ MAX_SIZE) :
    Reader.Reads Reader.compactSize size (writeCompactSize size) := by
  by_cases hshort : size < 253
  · exact Reads.compactSize hshort
  obtain ⟨first, _, hbytes, hbyte, hlong, rfl, hleast, hsize⟩ :=
    writeCompactSize_long (not_lt.1 hshort) (h.trans (by decide))
  rw [hbytes]
  refine (Reads.number hbyte).bind ?_
  rw [if_neg hlong, Reader.longSize, ← List.append_nil (writeLE _ _)]
  exact (Reads.number hsize).bind ((Reads.refuseIf hleast).bind
    ((Reads.refuseIf (not_lt.2 h)).bind (Reads.pure _)))

theorem Reader.Reads.bytes {b : Bytes} (h : b.length < 253) :
    Reader.Reads Reader.bytes b (serializeBytes b) :=
  (Reads.compactSize h).bind (Reads.take rfl).map

/-- A list with its size. -/
def writeVector {α : Type} (f : α → Bytes) (l : List α) : Bytes :=
  writeCompactSize l.length ++ l.flatMap f

/-- Read a list with its size. -/
def Reader.vector {α : Type} (m : Reader α) : Reader (List α) := do
  let size ← Reader.compactSize
  Reader.list m size

theorem Reader.Reads.vector {α : Type} {m : Reader α} {f : α → Bytes} {l : List α}
    (hlength : l.length ≤ MAX_SIZE) (h : ∀ a ∈ l, Reader.Reads m a (f a)) :
    Reader.Reads m.vector l (writeVector f l) :=
  (Reads.compactSize_of_le hlength).bind (Reads.list h)

/-- A signed 64-bit number, in two's complement. -/
def writeInt64 (n : ℤ) : Bytes := writeLE 8 (n % 2 ^ 64).toNat

/-- Read a signed 64-bit number. -/
def Reader.int64 : Reader ℤ :=
  (fun n : ℕ => if n < 2 ^ 63 then (n : ℤ) else n - 2 ^ 64) <$> Reader.number 8

theorem Reader.Reads.int64 {n : ℤ} (h₁ : -2 ^ 63 ≤ n) (h₂ : n < 2 ^ 63) :
    Reader.Reads Reader.int64 n (writeInt64 n) := by
  have hread : Reader.Reads Reader.int64
      (if (n % 2 ^ 64).toNat < 2 ^ 63 then ((n % 2 ^ 64).toNat : ℤ)
        else ((n % 2 ^ 64).toNat : ℤ) - 2 ^ 64) (writeInt64 n) :=
    (Reads.number (by omega)).map
  have hn : (if (n % 2 ^ 64).toNat < 2 ^ 63 then ((n % 2 ^ 64).toNat : ℤ)
      else ((n % 2 ^ 64).toNat : ℤ) - 2 ^ 64) = n := by
    split_ifs <;> omega
  rwa [hn] at hread

/-! ### Readers of words -/

namespace Reader

/-- Read an unsigned 64-bit number. -/
def uint64 : Reader UInt64 := UInt64.ofNat <$> number 8

theorem Reads.uint64 (n : UInt64) : Reads Reader.uint64 n (writeLE 8 n.toNat) := by
  have h : Reads Reader.uint64 (UInt64.ofNat n.toNat) (writeLE 8 n.toNat) :=
    (Reads.number (n.toNat_lt.trans_eq (by norm_num))).map
  rwa [UInt64.ofNat_toNat] at h

end Reader

theorem Reader.int64_lt {input rest : Bytes} {n : ℤ} (h : Reader.int64 input = .ok (n, rest)) :
    n < 2 ^ 63 := by
  obtain ⟨m, hm, rfl⟩ := Reader.map_eq_ok.1 h
  have := Reader.number_lt hm
  split_ifs <;> omega

/-- The bytes of an input. -/
def CTxIn.serialize (input : CTxIn) : Bytes :=
  input.prevout.hash.data ++ writeLE 4 input.prevout.n ++ serializeBytes input.scriptSig ++
    writeLE 4 input.nSequence

/-- The bytes of an output. -/
def CTxOut.serialize (output : CTxOut) : Bytes :=
  writeLE 8 (output.nValue % 2 ^ 64).toNat ++ serializeBytes output.scriptPubKey

/-- The bytes of a transaction without its witnesses. -/
def CTransaction.serializeNoWitness (tx : CTransaction) : Bytes :=
  writeLE 4 tx.version ++ (writeCompactSize tx.vin.length ++ tx.vin.flatMap (·.serialize)) ++
    (writeCompactSize tx.vout.length ++ tx.vout.flatMap (·.serialize)) ++ writeLE 4 tx.nLockTime

/-- The id of a transaction is the hash of its bytes without the witnesses. -/
def ParentHashing.HashesWireFormat (H : ParentHashing) : Prop :=
  ∀ tx, H.txid tx = H.hash tx.serializeNoWitness

end ElementsDrivechain
