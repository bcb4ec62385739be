import ElementsDrivechain.Ecx.Consensus

/-!
# Sources of the inboxes

A transaction puts an entry into an inbox with a *marker*, an output that can never be spent and
pushes one payload.  An output that merely contains the magic bytes of a marker has to be a marker
in every detail.

* `scanSources_spec` : **the markers of a transaction are outputs that were read as such.**
-/

namespace ElementsDrivechain.Ecx

open Fallible

/-- "ECXF", the first bytes of the marker of a forced action. -/
def FORCED_MAGIC : Bytes := [0x45, 0x43, 0x58, 0x46]
/-- "ECXD", the first bytes of the marker of a deposit. -/
def DEPOSIT_MAGIC : Bytes := [0x45, 0x43, 0x58, 0x44]

/-- The bytes of `ECX-USDD-PERP`, padded to sixteen. -/
def ECX_USDD_MARKET : Bytes := [69, 67, 88, 45, 85, 83, 68, 68, 45, 80, 69, 82, 80, 0, 0, 0]

/-- The length of a cancellation. -/
def FORCED_CANCEL_BODY_SIZE : ℕ := 201
/-- The length of a limit order. -/
def FORCED_LIMIT_BODY_SIZE : ℕ := 208
/-- The length of a withdrawal. -/
def FORCED_WITHDRAW_BODY_SIZE : ℕ := 193
/-- The length of the payload of a deposit. -/
def DEPOSIT_PAYLOAD_SIZE : ℕ := 73

/-- A forced action. -/
structure ForcedActionPayload where
  kind : UInt8
  body : Bytes
deriving DecidableEq

/-- A deposit: the output that holds it, and who it is for. -/
structure DepositPayload where
  depositVout : ℕ
  trader : Bytes
deriving DecidableEq

/-- The script cannot be spent, and the bytes stand somewhere in it. -/
def ScriptContainsMagic (script : CScript) (magic : Bytes) : Prop :=
  script.head? = some OP_RETURN ∧ magic <:+: script.tail
deriving Decidable

/-- The proofs of an output are empty. -/
def IsNullOutputWitness (tx : Child.CTransaction) (outputIndex : ℕ) : Prop :=
  ∀ witness ∈ tx.outWitness[outputIndex]?, witness.IsNull
deriving Decidable

/-- The bytes of a field at an offset. -/
def bytesAt (b : Bytes) (offset size : ℕ) : Bytes := (b.drop offset).take size

/-- A number of 64 bits at an offset. -/
def readU64Be (b : Bytes) (offset : ℕ) : ℕ := readBE (bytesAt b offset 8)

/-- A number of 32 bits at an offset. -/
def readU32Be (b : Bytes) (offset : ℕ) : ℕ := readBE (bytesAt b offset 4)

/-- The opcode and the payload of a script that is `OP_RETURN` and one more instruction. -/
def singleInstruction (script : CScript) : Option (UInt8 × Bytes) :=
  match getOp script with
  | some (opcode, _, rest) =>
    if opcode = OP_RETURN then
      match getOp rest with
      | some (opcode, payload, []) => some (opcode, payload)
      | _ => none
    else none
  | none => none

section Parse

variable (N : ExchangeNetwork)

/-- The trader named in a body signed the part of it before the signature. -/
def verifySignedBody (tag : String) (body : Bytes) (unsignedSize traderOffset : ℕ) :
    Except String Unit := do
  let trader := bytesAt body traderOffset 32
  rejectIf (¬N.isFullyValid trader) "ECX forced action contains an invalid x-only trader key"
  let digest := taggedHash N.toExchangeCrypto tag (body.take unsignedSize)
  rejectIf (¬N.verifySchnorr trader digest (bytesAt body unsignedSize 64))
    "ECX forced action signature is invalid"

/-- The size of the body of an action; there are three kinds. -/
def forcedBodySize (kind : UInt8) : Option ℕ :=
  if kind = 0 then some FORCED_CANCEL_BODY_SIZE
  else if kind = 1 then some FORCED_LIMIT_BODY_SIZE
  else if kind = 2 then some FORCED_WITHDRAW_BODY_SIZE
  else none

/-- Checks the body of a forced action, field by field, and its signature. -/
def validateForcedBody (kind : UInt8) (body : Bytes) : Except String Unit := do
  rejectIf (forcedBodySize kind ≠ some body.length ∨ body.head? ≠ some 1)
    "ECX forced action kind, version, or fixed body length is invalid"
  rejectIf (bytesAt body 1 32 ≠ N.consensus.chainId.data)
    "ECX forced action chain id does not match this deployment"
  if kind = 0 then
    rejectIf (bytesAt body 33 16 ≠ ECX_USDD_MARKET ∨ readU64Be body 129 < readU64Be body 121)
      "ECX forced cancellation body is non-canonical"
    verifySignedBody N "ECX/cancel-order/v1" body 137 49
  else if kind = 1 then
    rejectIf (bytesAt body 33 16 ≠ ECX_USDD_MARKET ∨ 1 < body.getD 81 0 ∨ body.getD 82 0 ≠ 1 ∨
        body.getD 83 0 ≠ 1 ∨ readU64Be body 84 = 0 ∨ readU64Be body 92 = 0 ∨
        2 ^ 63 - 1 < readU64Be body 92 ∨ 10000 < readU32Be body 116 ∨
        readU64Be body 136 < readU64Be body 128)
      "ECX forced reduce-only IOC body is non-canonical"
    verifySignedBody N "ECX/limit-order/v1" body 144 49
  else
    rejectIf (readU64Be body 73 = 0 ∨ readU64Be body 121 < readU64Be body 113)
      "ECX forced withdrawal body is non-canonical"
    verifySignedBody N "ECX/withdrawal-request/v1" body 129 33

/-- The output holds nothing of the policy asset, openly. -/
def HoldsNothing (tx : Child.CTransaction) (outputIndex : ℕ) (output : Child.CTxOut) : Prop :=
  output.nAsset = .explicit N.policyAsset ∧ output.nValue = .explicit 0 ∧ output.nNonce.IsNull ∧
    IsNullOutputWitness tx outputIndex
deriving Decidable

/-- The payload of a script that pushes a forced action in the one accepted way. -/
def forcedPush (script : CScript) : Option Bytes :=
  match singleInstruction script with
  | some (opcode, payload) =>
    if opcode = OP_PUSHDATA1 ∧ script.length = payload.length + 3 ∧
        script[1]? = some OP_PUSHDATA1 ∧ script[2]?.map UInt8.toNat = some payload.length ∧
        8 ≤ payload.length ∧ payload.take 4 = FORCED_MAGIC then some payload
    else none
  | none => none

/-- Read an output that may be the marker of a forced action. -/
def parseForcedOutput (tx : Child.CTransaction) (outputIndex : ℕ) (output : Child.CTxOut) :
    Except String (Option ForcedActionPayload) :=
  if ¬ScriptContainsMagic output.scriptPubKey FORCED_MAGIC then pure none
  else do
    let payload ← orReject (forcedPush output.scriptPubKey)
      "ECX forced action output is not one exact minimal OP_RETURN push"
    rejectIf (payload.getD 4 0 ≠ 1 ∨ readBE (bytesAt payload 6 2) ≠ payload.length - 8 ∨
        ¬HoldsNothing N tx outputIndex output)
      "ECX forced action marker envelope is non-canonical"
    let action : ForcedActionPayload := { kind := payload.getD 5 0, body := payload.drop 8 }
    validateForcedBody N action.kind action.body
    return some action

/-- The payload of a script that pushes a deposit in the one accepted way. -/
def depositPush (script : CScript) : Option Bytes :=
  match singleInstruction script with
  | some (opcode, payload) =>
    if opcode.toNat = DEPOSIT_PAYLOAD_SIZE ∧ script.length = DEPOSIT_PAYLOAD_SIZE + 2 ∧
        payload.length = DEPOSIT_PAYLOAD_SIZE ∧ payload.take 4 = DEPOSIT_MAGIC then some payload
    else none
  | none => none

/-- The output is one of the vault, with nothing to be seen of what it holds. -/
def IsVaultOutput (tx : Child.CTransaction) (depositVout : ℕ) (deposit : Child.CTxOut) : Prop :=
  deposit.scriptPubKey = N.consensus.collateralVaultScript ∧ deposit.nAsset.IsCommitment ∧
    deposit.nValue.IsCommitment ∧ deposit.nNonce.IsCommitment ∧
    ∃ witness ∈ tx.outWitness[depositVout]?, witness.vchRangeproof ≠ [] ∧
      witness.vchSurjectionproof ≠ []
deriving Decidable

/-- Read an output that may be the marker of a deposit. -/
def parseDepositOutput (tx : Child.CTransaction) (outputIndex : ℕ) (marker : Child.CTxOut) :
    Except String (Option DepositPayload) :=
  if ¬ScriptContainsMagic marker.scriptPubKey DEPOSIT_MAGIC then pure none
  else do
    let payload ← orReject (depositPush marker.scriptPubKey)
      "ECX deposit marker is not one exact minimal OP_RETURN push"
    rejectIf (payload.getD 4 0 ≠ 1 ∨ bytesAt payload 5 32 ≠ N.consensus.chainId.data ∨
        ¬HoldsNothing N tx outputIndex marker)
      "ECX deposit marker envelope or chain id is non-canonical"
    let parsed : DepositPayload :=
      { depositVout := readU32Be payload 37, trader := payload.drop 41 }
    rejectIf (¬N.isFullyValid parsed.trader ∨ tx.vout.length ≤ parsed.depositVout ∨
        parsed.depositVout = outputIndex)
      "ECX deposit marker has an invalid trader or referenced vout"
    let deposit ← orReject tx.vout[parsed.depositVout]?
      "ECX deposit marker has an invalid trader or referenced vout"
    rejectIf (¬IsVaultOutput N tx parsed.depositVout deposit)
      "ECX deposit does not match the confidential collateral vault profile"
    return some parsed

/-! ### Transactions -/

/-- The markers of a transaction, with their positions. -/
structure Sources where
  forced : Option (ℕ × ForcedActionPayload) := none
  deposit : Option (ℕ × DepositPayload) := none
deriving DecidableEq

/-- The transaction has no marker. -/
def Sources.IsEmpty (sources : Sources) : Prop := sources.forced = none ∧ sources.deposit = none
deriving Decidable

/-- Take note of a marker at a position, of which there is to be only one. -/
def noteMarker {α : Type} (seen : Option (ℕ × α)) (outputIndex : ℕ) (parsed : Option α)
    (repeated : String) : Except String (Option (ℕ × α)) :=
  match parsed with
  | none => pure seen
  | some marker => do
    rejectIf seen.isSome repeated
    return some (outputIndex, marker)

/-- Read one more output. -/
def scanOutput (tx : Child.CTransaction) (sources : Sources) (output : Child.CTxOut × ℕ) :
    Except String Sources := do
  let parsedForced ← parseForcedOutput N tx output.2 output.1
  let forced ← noteMarker sources.forced output.2 parsedForced
    "an Elements transaction may contain only one ECX forced action"
  let parsedDeposit ← parseDepositOutput N tx output.2 output.1
  let deposit ← noteMarker sources.deposit output.2 parsedDeposit
    "an Elements transaction may contain only one ECX deposit marker"
  return { forced := forced, deposit := deposit }

/-- The markers of a transaction. -/
def scanSources (tx : Child.CTransaction) : Except String Sources :=
  tx.vout.zipIdx.foldlM (scanOutput N tx) {}

/-- Rejects sources before the activation. -/
def checkSourceTransactionPolicy (tx : Child.CTransaction) (nextHeight : ℤ) :
    Except String Unit := do
  let sources ← scanSources N tx
  rejectIf (¬sources.IsEmpty ∧ ¬ActiveAt nextHeight N.consensus)
    "ECX source transaction is premature before exchange activation"

/-- How many outputs are markers. -/
def countMarkers {α : Type} (parse : ℕ → Child.CTxOut → Except String (Option α))
    (tx : Child.CTransaction) : Except String ℕ :=
  tx.vout.zipIdx.foldlM (fun count output => do
    let parsed ← parse output.2 output.1
    return if parsed.isSome then count + 1 else count) 0

/-- The forced actions and the deposits of a transaction. -/
def countSourceTransactionMarkers (tx : Child.CTransaction) : Except String (ℕ × ℕ) := do
  checkSourceTransactionPolicy N tx N.consensus.activationHeight
  let forced ← countMarkers (parseForcedOutput N tx) tx
  let deposits ← countMarkers (parseDepositOutput N tx) tx
  return (forced, deposits)

end Parse

section Spec

variable {N : ExchangeNetwork} {tx : Child.CTransaction} {i : ℕ} {output : Child.CTxOut}

/-- What is known of an output that is the marker of a forced action. -/
theorem parseForcedOutput_spec {action : ForcedActionPayload}
    (h : parseForcedOutput N tx i output = .ok (some action)) :
    output.scriptPubKey.head? = some OP_RETURN ∧ (forcedPush output.scriptPubKey).isSome ∧
      HoldsNothing N tx i output ∧ (forcedBodySize action.kind).isSome := by
  unfold parseForcedOutput at h
  split_ifs at h with hmagic
  · simp only [bind_eq_ok, rejectIf_eq_ok, orReject_eq_ok, pure_eq_ok, Option.some.injEq, not_or,
      not_not] at h
    obtain ⟨_, hpush, _, ⟨-, -, hnothing⟩, _, hbody, rfl⟩ := h
    simp only [validateForcedBody, bind_eq_ok, rejectIf_eq_ok, not_or, not_not] at hbody
    obtain ⟨_, ⟨hsize, -⟩, -⟩ := hbody
    exact ⟨hmagic.1, by simp [hpush], hnothing, Option.isSome_iff_exists.2 ⟨_, hsize⟩⟩
  · cases h

/-- What is known of an output that is the marker of a deposit. -/
theorem parseDepositOutput_spec {payload : DepositPayload}
    (h : parseDepositOutput N tx i output = .ok (some payload)) :
    output.scriptPubKey.head? = some OP_RETURN ∧ (depositPush output.scriptPubKey).isSome ∧
      HoldsNothing N tx i output ∧ payload.depositVout < tx.vout.length := by
  unfold parseDepositOutput at h
  split_ifs at h with hmagic
  · simp only [bind_eq_ok, rejectIf_eq_ok, orReject_eq_ok, pure_eq_ok, Option.some.injEq, not_or,
      not_not, not_le] at h
    obtain ⟨_, hpush, _, ⟨-, -, hnothing⟩, _, ⟨-, hlt, -⟩, _, -, _, -, rfl⟩ := h
    exact ⟨hmagic.1, by simp [hpush], hnothing, hlt⟩
  · cases h

theorem noteMarker_eq_ok {α : Type} {seen found : Option (ℕ × α)} {parsed : Option α}
    {e : String} (h : noteMarker seen i parsed e = .ok found) :
    found = seen ∨ ∃ marker, parsed = some marker ∧ found = some (i, marker) := by
  cases parsed with
  | none => exact .inl (pure_eq_ok.1 h).symm
  | some marker =>
    simp only [noteMarker, bind_eq_ok, pure_eq_ok] at h
    obtain ⟨_, -, rfl⟩ := h
    exact .inr ⟨marker, rfl, rfl⟩

/-- **The markers of a transaction are outputs that were read as such.** -/
theorem scanSources_spec {sources : Sources} (h : scanSources N tx = .ok sources) :
    (∀ m ∈ sources.forced, ∃ output, tx.vout[m.1]? = some output ∧
      parseForcedOutput N tx m.1 output = .ok (some m.2)) ∧
    ∀ m ∈ sources.deposit, ∃ output, tx.vout[m.1]? = some output ∧
      parseDepositOutput N tx m.1 output = .ok (some m.2) := by
  refine foldlM_invariant h (by simp) ?_
  rintro ⟨output, i⟩ hmem u v ⟨hforced, hdeposit⟩ hv
  have hi : tx.vout[i]? = some output := List.mk_mem_zipIdx_iff_getElem?.1 hmem
  simp only [scanOutput, bind_eq_ok, pure_eq_ok] at hv
  obtain ⟨_, hparsed, forced, hf, _, hparsed', deposit, hd, rfl⟩ := hv
  constructor
  · rcases noteMarker_eq_ok hf with rfl | ⟨marker, rfl, rfl⟩
    · exact hforced
    · rintro _ ⟨⟩
      exact ⟨output, hi, hparsed⟩
  · rcases noteMarker_eq_ok hd with rfl | ⟨marker, rfl, rfl⟩
    · exact hdeposit
    · rintro _ ⟨⟩
      exact ⟨output, hi, hparsed'⟩

/-- A transaction none of whose outputs reads as a marker is no source. -/
theorem isEmpty_of_scanSources {s : Sources} (h : scanSources N tx = .ok s)
    (hforced : ∀ {i o m}, tx.vout[i]? = some o → parseForcedOutput N tx i o ≠ .ok (some m))
    (hdeposit : ∀ {i o m}, tx.vout[i]? = some o → parseDepositOutput N tx i o ≠ .ok (some m)) :
    s.IsEmpty := by
  obtain ⟨hf, hd⟩ := scanSources_spec h
  constructor
  · refine Option.eq_none_iff_forall_not_mem.2 fun m hm => ?_
    obtain ⟨o, ho, hparse⟩ := hf m hm
    exact hforced ho hparse
  · refine Option.eq_none_iff_forall_not_mem.2 fun m hm => ?_
    obtain ⟨o, ho, hparse⟩ := hd m hm
    exact hdeposit ho hparse

/-- Markers stand at outputs of their transaction, and refer to such. -/
theorem scanSources_index_lt {sources : Sources} (h : scanSources N tx = .ok sources) :
    (∀ m ∈ sources.forced, m.1 < tx.vout.length) ∧
      ∀ m ∈ sources.deposit, m.1 < tx.vout.length ∧ m.2.depositVout < tx.vout.length := by
  obtain ⟨hforced, hdeposit⟩ := scanSources_spec h
  constructor
  · intro m hm
    obtain ⟨_, houtput, -⟩ := hforced m hm
    exact (List.getElem?_eq_some_iff.1 houtput).1
  · intro m hm
    obtain ⟨_, houtput, hparse⟩ := hdeposit m hm
    exact ⟨(List.getElem?_eq_some_iff.1 houtput).1, (parseDepositOutput_spec hparse).2.2.2⟩

end Spec

end ElementsDrivechain.Ecx
