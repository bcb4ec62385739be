import ElementsDrivechain.Child.Coins
import ElementsDrivechain.Foundations.Fallible
import ElementsDrivechain.Native.Push
import ElementsDrivechain.Parent.Serialization

/-!
# Records of the chainstate

A record is a coin at a reserved outpoint.  Its script pushes a marker and the content of the
record, drops them and fails, so that nothing can spend it.

* `RecordFormat.decode_coin` : **what was written is read back.**
-/

namespace ElementsDrivechain

open Fallible

/-- Drops the last push. -/
def OP_DROP : UInt8 := 0x75
/-- Makes a script fail. -/
def OP_FALSE : UInt8 := 0x00

/-- The script that pushes the bytes of a record, drops them and fails. -/
def recordScript (payload : Bytes) : CScript := Native.pushData payload ++ [OP_DROP, OP_FALSE]

/-- The bytes of a record, read from its script. -/
def readRecordScript (script : CScript) : Option Bytes := do
  let (data, rest) ← Native.getPush script
  let (drop, _, rest) ← getOp rest
  if drop = OP_DROP then
    let (last, _, rest) ← getOp rest
    if last = OP_FALSE ∧ rest = [] then some data else none
  else none

theorem readRecordScript_recordScript {payload : Bytes} (h : payload.length < 2 ^ 32) :
    readRecordScript (recordScript payload) = some payload := by
  unfold readRecordScript recordScript
  rw [Native.getPush_pushData _ _ h]
  rfl

theorem recordScript_spendable {payload : Bytes} (h : payload.length < 5000) :
    ¬IsUnspendable (recordScript payload) := by
  have hlength : (Native.appendDataSize payload.length).length ≤ 5 := by
    unfold Native.appendDataSize
    split_ifs <;> simp
  have hhead : (recordScript payload).head? ≠ some OP_RETURN := by
    unfold recordScript Native.pushData Native.appendDataSize
    split_ifs with h₀ h₁ h₂
    · have hsize : (UInt8.ofNat payload.length).toNat = payload.length :=
        UInt8.toNat_ofNat_of_lt' (h₀.trans (by decide))
      intro hreturn
      have : UInt8.ofNat payload.length = OP_RETURN := by simpa using hreturn
      rw [this] at hsize
      rw [← hsize] at h₀
      exact absurd h₀ (by decide)
    all_goals simp [OP_PUSHDATA1, OP_PUSHDATA2, OP_PUSHDATA4, OP_RETURN]
  rintro (hreturn | hlong | hnil)
  · exact hhead hreturn
  · simp only [recordScript, Native.pushData, MAX_SCRIPT_SIZE, List.length_append,
      List.length_cons, List.length_nil] at hlong
    omega
  · simp [recordScript] at hnil

/-- A kind of record. -/
structure RecordFormat (α : Type) where
  /-- How it is called when something is wrong with it. -/
  what : String
  /-- What is said when its bytes cannot be read. -/
  undecodable : String
  marker : Bytes
  serialize : α → Bytes
  deserialize : Reader α
  /-- The values that are accepted. -/
  check : α → Except String Unit

namespace RecordFormat

variable {α : Type} (F : RecordFormat α) (peggedAsset : Uint256)

/-- The bytes of a record. -/
def payload (a : α) : Bytes := serializeBytes F.marker ++ F.serialize a

/-- The coin of a record. -/
def coin (a : α) (height : ℤ) : Coin where
  out := { nAsset := .explicit peggedAsset, nValue := .explicit 0,
           scriptPubKey := recordScript (F.payload a) }
  nHeight := max height 0
  fCoinBase := false

/-- What is read from the bytes of a record. -/
def read : Reader (Bytes × α) := do
  let marker ← Reader.bytes
  let a ← F.deserialize
  return (marker, a)

/-- What a coin says. -/
def decode (coin : Coin) : Except String α := do
  rejectIf (coin.out.nAsset ≠ .explicit peggedAsset ∨ coin.out.nValue ≠ .explicit 0)
    s!"persisted {F.what} has invalid asset or value encoding"
  let data ← orReject (readRecordScript coin.out.scriptPubKey)
    s!"persisted {F.what} script is malformed"
  let ((marker, a), rest) ← orReject (F.read data).toOption F.undecodable
  rejectIf (rest ≠ [] ∨ marker ≠ F.marker) s!"persisted {F.what} payload is invalid"
  F.check a
  return a

/-- The format can spell a value and read it back. -/
structure Spells (a : α) : Prop where
  marker : F.marker.length < 253
  reads : F.deserialize.Reads a (F.serialize a)
  length : (F.serialize a).length < 4000

variable {F peggedAsset} {a b : α} {height : ℤ}

theorem Spells.payload_length (h : F.Spells a) : (F.payload a).length < 5000 := by
  have := h.length
  have := h.marker
  have hsize : (writeCompactSize F.marker.length).length = 1 := by
    rw [writeCompactSize, if_pos h.marker]
    rfl
  simp only [payload, serializeBytes, List.length_append, hsize]
  omega

theorem Spells.spendable (h : F.Spells a) :
    ¬IsUnspendable (F.coin peggedAsset a height).out.scriptPubKey :=
  recordScript_spendable h.payload_length

theorem Spells.read_payload (h : F.Spells a) : F.read (F.payload a) = .ok ((F.marker, a), []) := by
  have hread : F.read.Reads (F.marker, a) (F.payload a ++ []) := by
    rw [payload, List.append_assoc]
    exact (Reader.Reads.bytes h.marker).bind (h.reads.bind (Reader.Reads.pure _))
  rw [List.append_nil] at hread
  exact hread.eq_ok

/-- **What was written is read back**, when it is accepted. -/
theorem decode_coin (h : F.Spells a) :
    F.decode peggedAsset (F.coin peggedAsset a height) = .ok b ↔ F.check a = .ok () ∧ a = b := by
  have hscript : readRecordScript (F.coin peggedAsset a height).out.scriptPubKey =
      some (F.payload a) :=
    readRecordScript_recordScript (h.payload_length.trans (by decide))
  have hread : (F.read (F.payload a)).toOption = some ((F.marker, a), []) := by
    rw [h.read_payload]
    rfl
  unfold decode
  rw [hscript]
  simp only [bind_eq_ok, rejectIf_eq_ok, orReject_eq_ok, pure_eq_ok]
  constructor
  · rintro ⟨_, -, _, hdata, _, hvalue, _, -, _, hcheck, hb⟩
    obtain rfl := Option.some.inj hdata
    obtain rfl := Option.some.inj (hread.symm.trans hvalue)
    exact ⟨hcheck, hb⟩
  · rintro ⟨hcheck, rfl⟩
    exact ⟨(), by simp [coin], _, rfl, _, hread, (), by simp, (), hcheck, rfl⟩

theorem check_of_decode {coin : Coin} (h : F.decode peggedAsset coin = .ok a) :
    F.check a = .ok () := by
  simp only [decode, bind_eq_ok, pure_eq_ok] at h
  obtain ⟨_, -, _, -, _, -, _, -, _, hcheck, rfl⟩ := h
  exact hcheck

end RecordFormat

namespace CCoinsView

variable {α : Type} {F : RecordFormat α} {peggedAsset : Uint256} {view : CCoinsView}
  {o p : COutPoint} {a b : α} {height h : ℤ}

/-- Write a record, whatever was there. -/
def setRecord (view : CCoinsView) (o : COutPoint) (coin : Coin) : CCoinsView :=
  (view.spendCoin o).addCoin o coin

theorem setRecord_of_ne {coin : Coin} (h : p ≠ o) :
    (view.setRecord o coin).accessCoin p = view.accessCoin p := by
  rw [setRecord, addCoin_of_ne h, spendCoin_of_ne h]

theorem setRecord_self (h : F.Spells a) :
    (view.setRecord o (F.coin peggedAsset a height)).accessCoin o =
      some (F.coin peggedAsset a height) :=
  addCoin_self h.spendable

end CCoinsView

end ElementsDrivechain
