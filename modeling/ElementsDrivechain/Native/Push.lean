import ElementsDrivechain.Parent.Primitives

/-!
# Scripts that push byte strings

How a script pushes a byte string, and how what it pushes is read back.

* `getPush_pushData` : **what was pushed is read back.**
-/

namespace ElementsDrivechain.Native

/-- The opcode of a push, with the length of what is pushed. -/
def appendDataSize (size : ℕ) : Bytes :=
  if size < OP_PUSHDATA1.toNat then [UInt8.ofNat size]
  else if size ≤ 0xff then OP_PUSHDATA1 :: writeLE 1 size
  else if size ≤ 0xffff then OP_PUSHDATA2 :: writeLE 2 size
  else OP_PUSHDATA4 :: writeLE 4 size

/-- The instruction that pushes a byte string. -/
def pushData (data : Bytes) : CScript := appendDataSize data.length ++ data

/-- Read an instruction that is a push. -/
def getPush (script : CScript) : Option (Bytes × CScript) :=
  match getOp script with
  | some (opcode, data, rest) => if opcode ≤ OP_PUSHDATA4 then some (data, rest) else none
  | none => none

theorem takePush_append {data rest : Bytes} {size : ℕ} (h : data.length = size) :
    takePush size (data ++ rest) = some (data, rest) := by
  subst h
  simp [takePush]

theorem getPush_short {data rest : Bytes} (h : data.length < OP_PUSHDATA1.toNat) :
    getPush (UInt8.ofNat data.length :: (data ++ rest)) = some (data, rest) := by
  have hsize : (UInt8.ofNat data.length).toNat = data.length :=
    UInt8.toNat_ofNat_of_lt' (h.trans (by decide))
  have hlt : UInt8.ofNat data.length < OP_PUSHDATA1 := by rwa [UInt8.lt_iff_toNat_lt, hsize]
  have hle : UInt8.ofNat data.length ≤ OP_PUSHDATA4 := by
    rw [UInt8.le_iff_toNat_le, hsize]
    exact h.le.trans (by decide)
  have hzero : ∀ bytes : Bytes, takePush 0 bytes = some ([], bytes) := by simp [takePush]
  simp [getPush, getOp, hle, hlt, hsize, hzero, takePush_append]

theorem getPush_sized {opcode : UInt8} {width : ℕ} {data rest : Bytes}
    (hopcode : ¬opcode < OP_PUSHDATA1 ∧ opcode ≤ OP_PUSHDATA4)
    (hwidth : (if opcode = OP_PUSHDATA1 then 1 else if opcode = OP_PUSHDATA2 then 2 else 4) = width)
    (h : data.length < 256 ^ width) :
    getPush (opcode :: (writeLE width data.length ++ (data ++ rest))) = some (data, rest) := by
  simp [getPush, getOp, hopcode, hwidth, takePush_append, readLE_writeLE h]

/-- **What was pushed is read back.** -/
theorem getPush_pushData (data rest : Bytes) (h : data.length < 2 ^ 32) :
    getPush (pushData data ++ rest) = some (data, rest) := by
  rw [pushData, List.append_assoc, appendDataSize]
  split_ifs with h₀ h₁ h₂
  · exact getPush_short h₀
  · exact getPush_sized (by decide) (by decide) (by omega)
  · exact getPush_sized (by decide) (by decide) (by omega)
  · exact getPush_sized (by decide) (by decide) (h.trans_eq (by norm_num))

/-- A script that is `OP_RETURN` and one push. -/
def singlePushScript (payload : Bytes) : CScript := OP_RETURN :: pushData payload

/-- The byte string of a script that is `OP_RETURN` and one push of a given size, pushed in the
shortest way. -/
def extractSingleCanonicalPush (script : CScript) (expectedSize : ℕ) : Option Bytes :=
  match getOp script with
  | none => none
  | some (opcode, _, rest) =>
    if opcode = OP_RETURN then
      match getPush rest with
      | none => none
      | some (payload, rest) =>
        if payload.length = expectedSize ∧ rest = [] ∧ script = singlePushScript payload
        then some payload else none
    else none

theorem getOp_return (rest : CScript) : getOp (OP_RETURN :: rest) = some (OP_RETURN, [], rest) :=
  rfl

theorem extractSingleCanonicalPush_eq_some {script : CScript} {size : ℕ} {payload : Bytes}
    (hsize : size < 2 ^ 32) :
    extractSingleCanonicalPush script size = some payload ↔
      payload.length = size ∧ script = singlePushScript payload := by
  constructor
  · intro h
    unfold extractSingleCanonicalPush at h
    split at h
    · cases h
    · split_ifs at h
      split at h
      · cases h
      · split_ifs at h with hcond
        obtain rfl := Option.some.inj h
        exact ⟨hcond.1, hcond.2.2⟩
  · rintro ⟨hlength, rfl⟩
    have hpush := getPush_pushData payload [] (hlength ▸ hsize)
    rw [List.append_nil] at hpush
    simp [extractSingleCanonicalPush, singlePushScript, getOp_return, hpush, hlength]

end ElementsDrivechain.Native
