import ElementsDrivechain.Ecx.BondInbox
import ElementsDrivechain.Ecx.Chain

/-!
# What the mempool relays

A node relays only *standard* transactions.  The rules know two kinds of large witnesses: proofs of
another application, which only networks with a drivechain slot relay, and the annex of a source of
the bond inbox.

* `bond_source_relay_iff` : **sources of the bond inbox are relayed exactly if they are of the
  finite proof profile and the network has no drivechain slot.**
-/

namespace ElementsDrivechain.Ecx

open Fallible

/-! ### Scripts -/

/-- The opcode that pushes sixteen. -/
def OP_16 : UInt8 := 0x60
/-- The opcode that hashes the top of the stack. -/
def OP_HASH160 : UInt8 := 0xa9
/-- The opcode that compares two items. -/
def OP_EQUAL : UInt8 := 0x87

/-- The instructions of a script as far as they can be decoded, and the bytes that are left. -/
def readOps : ℕ → CScript → List (UInt8 × Bytes) × CScript
  | 0, script => ([], script)
  | fuel + 1, script =>
    match getOp script with
    | none => ([], script)
    | some (opcode, data, rest) =>
      let next := readOps fuel rest
      ((opcode, data) :: next.1, next.2)

/-- The instructions of a script; every one of them has a byte of its own. -/
def instructions (script : CScript) : List (UInt8 × Bytes) × CScript :=
  readOps script.length script

/-- All instructions push something. -/
def IsPushOnly (script : CScript) : Prop :=
  (instructions script).2 = [] ∧ ∀ op ∈ (instructions script).1, op.1 ≤ OP_16
deriving Decidable

/-- The script takes funds to the parent chain with the given first block. -/
def isPegoutScript (genesis : Uint256) (script : CScript) : Bool :=
  match (instructions script).1 with
  | first :: second :: third :: rest =>
    decide (first.1 = OP_RETURN ∧ second.2 = genesis.data ∧ second.1 ≤ OP_PUSHDATA4 ∧
      third.1 ≤ OP_PUSHDATA4 ∧ ∀ op ∈ rest, op.1 ≤ OP_PUSHDATA4)
  | _ => false

/-- A script that anyone may spend, to raise a fee. -/
def IsPayToAnchor (script : CScript) : Prop := script = [OP_1, 0x02, 0x4e, 0x73]
deriving Decidable

/-- A script that pays to the hash of another. -/
def IsPayToScriptHash (script : CScript) : Prop :=
  script.length = 23 ∧ script[0]? = some OP_HASH160 ∧ script[1]? = some 0x14 ∧
    script[22]? = some OP_EQUAL
deriving Decidable

/-- The version and the program of a script that pays to a witness. -/
def witnessProgram (script : CScript) : Option (ℕ × Bytes) :=
  match script with
  | version :: size :: program =>
    if 4 ≤ script.length ∧ script.length ≤ 42 ∧
        (version = 0 ∨ (OP_1 ≤ version ∧ version ≤ OP_16)) ∧ size.toNat + 2 = script.length then
      some (if version = 0 then 0 else version.toNat - 0x50, program)
    else none
  | _ => none

/-- The type of a script. -/
inductive TxoutType
  | nonstandard
  | anchor
  | pubkey
  | pubkeyhash
  | scripthash
  /-- So many of so many keys sign. -/
  | multisig (required keys : ℕ)
  | nullData
  | witnessV0Scripthash
  | witnessV0Keyhash
  | witnessV1Taproot
  | witnessUnknown
  | opTrue
  | fee
deriving DecidableEq

/-- What can be wrong with the annex of a proof. -/
inductive Sp1AnnexError
  | OK
  | NOT_USDD
  | TOO_LARGE
  | TRUNCATED
  | BAD_MAGIC
  | BAD_VERSION
  | BAD_PROOF_SYSTEM
  | BAD_STATEMENT_KIND
  | BAD_DIGEST_MODE
  | BAD_FLAGS
  | EMPTY_PUBLIC_VALUES
  | PUBLIC_VALUES_TOO_LARGE
  | INVALID_STRONG_EXECUTION_PUBLIC_VALUES
  | EMPTY_PROOF
  | ZERO_GUEST_PROGRAM_ID
  | LENGTH_MISMATCH
deriving DecidableEq

/-- The bytes of `USDD`, after the tag of an annex. -/
def USDD_ANNEX_MAGIC : Bytes := [0x50, 0x55, 0x53, 0x44, 0x44]

/-- The bytes of `USDDSP1`, with a zero. -/
def SP1_ANNEX_MAGIC : Bytes := [0x55, 0x53, 0x44, 0x44, 0x53, 0x50, 0x31, 0]

/-- The size of what comes before the public values and the proof. -/
def SP1_ANNEX_HEADER_SIZE : ℕ := 55

/-- The length of the annex of a proof. -/
def SP1_ANNEX_MAX_SIZE : ℕ := 1310720

/-- The length of its public values. -/
def SP1_PUBLIC_VALUES_MAX_SIZE : ℕ := 16 * 1024

/-- The proof is about the execution of a controller. -/
def IsStrongExecution (annex : Bytes) : Prop := annex.getD 11 0 = 3
deriving Decidable

/-- The check of the annex of a proof, which does not verify the proof. -/
def parseUsddSp1ProofAnnex (annex : Bytes) : Sp1AnnexError :=
  let publicValuesSize := readBE ((annex.drop 15).take 4)
  let proofSize := readBE ((annex.drop 19).take 4)
  if annex.take 5 ≠ USDD_ANNEX_MAGIC then .NOT_USDD
  else if SP1_ANNEX_MAX_SIZE < annex.length then .TOO_LARGE
  else if annex.length < SP1_ANNEX_HEADER_SIZE then .TRUNCATED
  else if (annex.drop 1).take 8 ≠ SP1_ANNEX_MAGIC then .BAD_MAGIC
  else if annex.getD 9 0 ≠ 1 then .BAD_VERSION
  else if annex.getD 10 0 ≠ 1 then .BAD_PROOF_SYSTEM
  else if annex.getD 11 0 ≠ 1 ∧ ¬IsStrongExecution annex then .BAD_STATEMENT_KIND
  else if annex.getD 12 0 ≠ 1 then .BAD_DIGEST_MODE
  else if annex.getD 13 0 ≠ 0 ∨ annex.getD 14 0 ≠ 0 then .BAD_FLAGS
  else if publicValuesSize = 0 then .EMPTY_PUBLIC_VALUES
  else if SP1_PUBLIC_VALUES_MAX_SIZE < publicValuesSize then .PUBLIC_VALUES_TOO_LARGE
  else if IsStrongExecution annex ∧ publicValuesSize ≠ 32 then
    .INVALID_STRONG_EXECUTION_PUBLIC_VALUES
  else if proofSize = 0 then .EMPTY_PROOF
  else if ((annex.drop 23).take 32).all (· = 0) then .ZERO_GUEST_PROGRAM_ID
  else if SP1_ANNEX_HEADER_SIZE + publicValuesSize + proofSize ≠ annex.length then .LENGTH_MISMATCH
  else if IsStrongExecution annex ∧
      ((annex.drop SP1_ANNEX_HEADER_SIZE).take publicValuesSize).all (· = 0) then
    .INVALID_STRONG_EXECUTION_PUBLIC_VALUES
  else .OK

theorem take_of_parseUsddSp1ProofAnnex {annex : Bytes} (h : parseUsddSp1ProofAnnex annex = .OK) :
    annex.take 5 = USDD_ANNEX_MAGIC := by
  by_contra hne
  rw [parseUsddSp1ProofAnnex, if_pos hne] at h
  cases h

/-- A network with its relay policy. -/
structure RelayNetwork extends BondNetwork where
  parentGenesisBlockHash : Uint256
  anyonecanspendAremine : Bool := false
  enforcePak : Bool := false
  multiDataPermitted : Bool := false
  /-- The network has a drivechain slot. -/
  drivechainSlot : Bool
  /-- The network is the one of that name that relays proofs. -/
  usddSp1AnnexPolicyEnabled : Bool
  maxDatacarrierBytes : Option ℕ := some 83
  permitBareMultisig : Bool := true
  /-- The fee for so many bytes, below which an output is dust. -/
  dustRelayFee : ℕ → ℤ
  version : Child.CTransaction → ℕ
  getTransactionWeight : Child.CTransaction → ℕ
  matchPayToPubkey : CScript → Bool
  matchPayToPubkeyHash : CScript → Bool
  matchMultisig : CScript → Option (ℕ × ℕ)
  /-- The script that a peg-in spends. -/
  peginScript : Child.CScriptWitness → CScript
  /-- The last item that a script leaves on the stack. -/
  evalScript : CScript → Option Bytes

/-- The version of a leaf in the first byte of its control block, without the parity of the key. -/
def TAPROOT_LEAF_MASK : UInt8 := 0xfe

/-- The version of a leaf with a script. -/
def TAPROOT_LEAF_TAPSCRIPT : UInt8 := 0xc4

/-- The version of a leaf with a Simplicity program. -/
def TAPROOT_LEAF_TAPSIMPLICITY : UInt8 := 0xbe

/-- The last version of standard transactions. -/
def TX_MAX_STANDARD_VERSION : ℕ := 3
/-- The weight of a standard transaction. -/
def MAX_STANDARD_TX_WEIGHT : ℕ := 400000
/-- The length of the script of an input. -/
def MAX_STANDARD_SCRIPTSIG_SIZE : ℕ := 1650
/-- The outputs that may be dust. -/
def MAX_DUST_OUTPUTS_PER_TX : ℕ := 1
/-- The length of a witness script. -/
def MAX_STANDARD_P2WSH_SCRIPT_SIZE : ℕ := 3600
/-- The items below a witness script. -/
def MAX_STANDARD_P2WSH_STACK_ITEMS : ℕ := 100
/-- The length of such an item. -/
def MAX_STANDARD_P2WSH_STACK_ITEM_SIZE : ℕ := 80
/-- The length of an item below a tapscript. -/
def MAX_STANDARD_TAPSCRIPT_STACK_ITEM_SIZE : ℕ := 80
/-- The weight of a transaction with a proof. -/
def SP1_PROOF_TX_MAX_WEIGHT : ℕ := 1500000
/-- The proofs that a block may carry. -/
def SP1_ANNEXES_PER_BLOCK : ℕ := 1

section Model

variable (P : RelayNetwork)

/-! ### Outputs -/

/-- The type of a script. -/
def solver (script : CScript) : TxoutType :=
  if P.anyonecanspendAremine = true ∧ script = [OP_1] then .opTrue
  else if script = [] then .fee
  else if IsPayToScriptHash script then .scripthash
  else match witnessProgram script with
    | some (version, program) =>
      if version = 0 ∧ program.length = 20 then .witnessV0Keyhash
      else if version = 0 ∧ program.length = 32 then .witnessV0Scripthash
      else if version = 1 ∧ program.length = 32 then .witnessV1Taproot
      else if IsPayToAnchor script then .anchor
      else if version ≠ 0 then .witnessUnknown
      else .nonstandard
    | none =>
      if script.head? = some OP_RETURN ∧ IsPushOnly script.tail then .nullData
      else if P.matchPayToPubkey script then .pubkey
      else if P.matchPayToPubkeyHash script then .pubkeyhash
      else match P.matchMultisig script with
        | some (required, keys) => .multisig required keys
        | none => .nonstandard

/-- An output with the script is standard. -/
def isStandard (script : CScript) : Bool :=
  match solver P script with
  | .nonstandard => false
  | .multisig required keys => decide (1 ≤ keys ∧ keys ≤ 3 ∧ 1 ≤ required ∧ required ≤ keys)
  | .nullData =>
    if P.enforcePak ∧ isPegoutScript P.parentGenesisBlockHash script then true
    else P.maxDatacarrierBytes.any fun bytes => script.length ≤ bytes
  | _ => true

/-- The value below which an output is dust. -/
def getDustThreshold (output : Child.CTxOut) : ℤ :=
  if IsUnspendable output.scriptPubKey then 0
  else P.dustRelayFee ((serializeOutput output).length +
    if (witnessProgram output.scriptPubKey).isSome then 32 + 4 + 1 + 107 / 4 + 4
    else 32 + 4 + 1 + 107 + 4)

/-- The output is of the policy asset, and worth less than it costs to spend it. -/
def isDust (output : Child.CTxOut) : Bool :=
  match output.nAsset, output.nValue with
  | .explicit asset, .explicit value =>
    decide (asset = P.policyAsset ∧ output.scriptPubKey ≠ [] ∧ value < getDustThreshold P output)
  | _, _ => false

/-- An output is a marker of a forced action. -/
def isCanonicalForcedActionOutput (tx : Child.CTransaction) (output : Child.CTxOut × ℕ) : Bool :=
  match parseForcedOutput P.toExchangeNetwork tx output.2 output.1 with
  | .ok (some _) => true
  | _ => false

/-- The output looks like the marker of a source. -/
def LooksLikeMarker (script : CScript) : Prop :=
  script.length = 507 ∧ script[0]? = some OP_RETURN ∧ script[1]? = some OP_PUSHDATA2
deriving Decidable

/-- Check an output.  The number of outputs that carry data is counted. -/
def checkStandardOutput (tx : Child.CTransaction) (canonical : Bool) (nDataOut : ℕ)
    (output : Child.CTxOut × ℕ) : Except String ℕ := do
  let script := output.1.scriptPubKey
  rejectIf (¬isStandard P script ∧ ¬isPegoutScript P.parentGenesisBlockHash script ∧
      ¬isCanonicalForcedActionOutput P tx output ∧ ¬(canonical ∧ LooksLikeMarker script))
    "scriptpubkey"
  match if isStandard P script then solver P script else .nullData with
  | .nullData => return nDataOut + 1
  | .multisig _ _ =>
    rejectIf (¬P.permitBareMultisig) "bare-multisig"
    return nDataOut
  | _ => return nDataOut

/-! ### Annexes -/

/-- The last item of a witness is an annex. -/
def HasAnnex (stack : Child.CScriptWitness) : Prop := 2 ≤ stack.length ∧ EndsInAnnex stack
deriving Decidable

/-- The values of the annex of an activation are about the transaction and the deployment. -/
def activationAnnexBinds (tx : Child.CTransaction) (stack : Child.CScriptWitness) : Bool :=
  match P.parseIncrementalActivationAnnex (stack.getLastD []).tail with
  | none => false
  | some (_, values) =>
    decide (rawHash values 4 = P.frozen.incrementalActivationConfigurationHash ∧
      rawHash values 36 = P.frozen.configurationHash ∧
      rawHash values 100 = P.frozen.incrementalSuccessorConfigurationHash ∧
      rawHash values 164 = tx.hash ∧ rawHash values 228 = P.consensus.chainId)

/-- The witness is that of the frozen activation of the successor, on the first input. -/
def IsFrozenActivationAnnex (tx : Child.CTransaction) (input : ℕ) (stack : Child.CScriptWitness) :
    Prop :=
  input = 0 ∧ P.consensus.bondV2.activationEnabled = true ∧
    P.consensus.bondV2.identitiesFrozen = true ∧ IsFrozenActivation P.toExchangeNetwork stack ∧
    P.consensus.bondV2.incrementalActivationCmr ≠ 0 ∧ activationAnnexBinds P tx stack = true
deriving Decidable

/-- The witness has the shape of a spend with a proof: five items, of which the third is a program
and the fourth a control block. -/
def HasProofShape (stack : Child.CScriptWitness) : Prop :=
  stack.length = 5 ∧ (stack.getD 2 []).length = 32 ∧ 33 ≤ (stack.getD 3 []).length ∧
    (stack.getD 3 []).length ≤ 4129 ∧ ((stack.getD 3 []).length - 33) % 32 = 0 ∧
    (stack.getD 3 []).getD 0 0 &&& TAPROOT_LEAF_MASK = TAPROOT_LEAF_TAPSIMPLICITY
deriving Decidable

/-- What the proofs of a transaction ask of a block. -/
structure Sp1AnnexResourceUsage where
  /-- The annexes that begin like one of a proof. -/
  namespaceAnnexes : ℕ := 0
  oversized : Bool := false
  malformed : Bool := false
  wrongSpendShape : Bool := false
  malformedPublicValues : Bool := false
deriving DecidableEq

/-- Take note of a witness with a proof. -/
def Sp1AnnexResourceUsage.note (usage : Sp1AnnexResourceUsage) (stack : Child.CScriptWitness) :
    Sp1AnnexResourceUsage :=
  let annex := stack.getLastD []
  if stack.length < 2 ∨ annex.take 5 ≠ USDD_ANNEX_MAGIC then usage
  else
    let usage := { usage with
      namespaceAnnexes := usage.namespaceAnnexes + 1
      oversized := usage.oversized || decide (SP1_ANNEX_MAX_SIZE < annex.length) }
    match parseUsddSp1ProofAnnex annex with
    | .OK =>
      if ¬IsStrongExecution annex then { usage with malformed := true }
      else { usage with
        wrongSpendShape := usage.wrongSpendShape || decide (¬HasProofShape stack) }
    | .PUBLIC_VALUES_TOO_LARGE => { usage with malformedPublicValues := true }
    | _ => { usage with malformed := true }

/-- Adds up what the witnesses of a transaction ask for. -/
def getUsddSp1AnnexResourceUsage (tx : Child.CTransaction) : Sp1AnnexResourceUsage :=
  tx.scriptWitness.foldl (Sp1AnnexResourceUsage.note) {}

/-- The weight of the annex of a witness: its bytes, and what the number of items takes more. -/
def annexWeight (stack : Child.CScriptWitness) : ℕ :=
  (serializeBytes (stack.getLastD [])).length + (writeCompactSize stack.length).length -
    (writeCompactSize (stack.length - 1)).length

/-- Check an input that may have an annex.  The weight of the one before it is given. -/
def noteUsddSp1Annex (tx : Child.CTransaction) (found : Option ℕ)
    (witness : Child.CScriptWitness × ℕ) : Except String (Option ℕ) :=
  if ¬HasAnnex witness.1 ∨ IsFrozenActivationAnnex P tx witness.2 witness.1 then pure found
  else do
    rejectIf (¬P.usddSp1AnnexPolicyEnabled) "usdd-sp1-annex"
    rejectIf (parseUsddSp1ProofAnnex (witness.1.getLastD []) ≠ .OK) "usdd-sp1-annex"
    rejectIf found.isSome "usdd-sp1-annex-multiple"
    rejectIf (¬HasProofShape witness.1) "usdd-sp1-annex-shape"
    return some (annexWeight witness.1)

/-- The weight of the proof of a transaction. -/
def getUsddSp1AnnexPolicyWeight (tx : Child.CTransaction) : Except String ℕ := do
  let usage := getUsddSp1AnnexResourceUsage tx
  rejectIf (usage.oversized ∨ usage.malformed) "usdd-sp1-annex"
  rejectIf usage.wrongSpendShape "usdd-sp1-annex-shape"
  rejectIf usage.malformedPublicValues "usdd-sp1-annex-public-values"
  let found ← tx.scriptWitness.zipIdx.foldlM (noteUsddSp1Annex P tx) none
  return found.getD 0

/-! ### Transactions -/

/-- Some output may be the marker of a source. -/
def MaybeBondInboxSource (tx : Child.CTransaction) : Prop :=
  ∃ output ∈ tx.vout, 8 ≤ output.scriptPubKey.length ∧
    ScriptContainsMagic output.scriptPubKey BOND_MAGIC
deriving Decidable

/-- The transaction is a source, of the finite proof profile. -/
def isBondInboxSource (tx : Child.CTransaction) : Bool :=
  match isCanonicalBondInboxSourceTransaction P.toBondNetwork tx with
  | .ok _ => true
  | .error _ => false

/-- The weight of the proof of a transaction, on a network with a slot. -/
def usddAnnexWeight (tx : Child.CTransaction) : Except String ℕ :=
  if P.drivechainSlot then getUsddSp1AnnexPolicyWeight P tx else pure 0

/-- Check the script of an input. -/
def checkScriptSig (input : Child.CTxIn) : Except String Unit := do
  rejectIf (MAX_STANDARD_SCRIPTSIG_SIZE < input.scriptSig.length) "scriptsig-size"
  rejectIf (¬IsPushOnly input.scriptSig) "scriptsig-not-pushonly"

/-- The transaction is standard, apart from its witness. -/
def isStandardTx (tx : Child.CTransaction) : Except String Unit := do
  rejectIf (TX_MAX_STANDARD_VERSION < P.version tx ∨ P.version tx < 1) "version"
  let canonical := decide (MaybeBondInboxSource tx) && isBondInboxSource P tx
  let totalWeight := P.getTransactionWeight tx
  let annexWeight ← usddAnnexWeight P tx
  rejectIf (totalWeight < annexWeight ∨ (canonical ∧ annexWeight ≠ 0) ∨
      (MAX_STANDARD_TX_WEIGHT < totalWeight - annexWeight ∧ ¬canonical) ∨
      (annexWeight ≠ 0 ∧ SP1_PROOF_TX_MAX_WEIGHT < totalWeight)) "tx-size"
  tx.vin.forM checkScriptSig
  let nDataOut ← tx.vout.zipIdx.foldlM (checkStandardOutput P tx canonical) 0
  rejectIf (MAX_DUST_OUTPUTS_PER_TX < (tx.vout.filter (isDust P)).length) "dust"
  rejectIf (¬P.multiDataPermitted ∧ 1 < nDataOut) "multi-op-return"

/-! ### Witnesses -/

/-- The witness program that an input spends, and whether it is hidden behind the hash of a
script. -/
def spentProgram (view : CCoinsView) (tx : Child.CTransaction) (input : Child.CTxIn × ℕ) :
    Option (ℕ × Bytes × Bool) :=
  let prevScript := if input.1.isPegin then P.peginScript (tx.peginWitness.getD input.2 [])
    else ((view.accessCoin input.1.prevout).map (·.out.scriptPubKey)).getD []
  if IsPayToAnchor prevScript then none
  else if IsPayToScriptHash prevScript then
    (P.evalScript input.1.scriptSig).bind fun redeem =>
      (witnessProgram redeem).map fun p => (p.1, p.2, true)
  else (witnessProgram prevScript).map fun p => (p.1, p.2, false)

/-- Take the annex off a witness.  The networks with a slot allow one, that of a proof. -/
def popAnnex (tx : Child.CTransaction) (index : ℕ) (isNativeTaproot found : Bool)
    (stack : Child.CScriptWitness) : Option (Bool × Child.CScriptWitness) :=
  if ¬HasAnnex stack then some (found, stack)
  else if isNativeTaproot ∧ IsFrozenActivationAnnex P tx index stack then
    some (found, stack.dropLast)
  else if P.drivechainSlot then
    if isNativeTaproot ∧ P.usddSp1AnnexPolicyEnabled ∧ ¬found ∧ HasProofShape stack ∧
        parseUsddSp1ProofAnnex (stack.getLastD []) = .OK then some (true, stack.dropLast)
    else none
  else some (found, stack.dropLast)

/-- The witness of a script that is hidden behind its hash is not too large. -/
def P2wshStandard (stack : Child.CScriptWitness) : Prop :=
  (stack.getLastD []).length ≤ MAX_STANDARD_P2WSH_SCRIPT_SIZE ∧
    stack.length - 1 ≤ MAX_STANDARD_P2WSH_STACK_ITEMS ∧
    ∀ item ∈ stack.dropLast, item.length ≤ MAX_STANDARD_P2WSH_STACK_ITEM_SIZE
deriving Decidable

/-- The witness of a spend of a public key of version one is standard, once its annex is taken
off.  The annex of the first input of a source is the only one that a spend with a key may have. -/
def taprootStandard (canonical hasAnnex : Bool) (index : ℕ) (stack : Child.CScriptWitness) : Bool :=
  match stack.reverse with
  | [] => false
  | [_] => !hasAnnex || (canonical && decide (index = 0))
  | controlBlock :: script :: items =>
    match controlBlock.head? with
    | none => false
    | some control =>
      if control &&& TAPROOT_LEAF_MASK = TAPROOT_LEAF_TAPSCRIPT then
        !hasAnnex && items.all fun item => item.length ≤ MAX_STANDARD_TAPSCRIPT_STACK_ITEM_SIZE
      else if control &&& TAPROOT_LEAF_MASK = TAPROOT_LEAF_TAPSIMPLICITY then
        decide (items.length = 2 ∧ script.length = 32)
      else !hasAnnex

/-- Check the witness of an input.  Whether there was a proof before it is given and passed on. -/
def checkInputWitness (view : CCoinsView) (tx : Child.CTransaction) (canonical found : Bool)
    (input : Child.CTxIn × ℕ) : Option Bool :=
  let stack := tx.scriptWitness.getD input.2 []
  if stack = [] then some found
  else (spentProgram P view tx input).bind fun program =>
    let isNativeTaproot := decide (program.1 = 1 ∧ program.2.1.length = 32 ∧ program.2.2 = false)
    (popAnnex P tx input.2 isNativeTaproot found stack).bind fun popped =>
      if program.1 = 0 ∧ program.2.1.length = 32 ∧ ¬P2wshStandard stack then none
      else if isNativeTaproot ∧ ¬taprootStandard canonical (decide (HasAnnex stack)) input.2
          popped.2 then none
      else some popped.1

/-- The witness of a transaction is standard. -/
def isWitnessStandard (view : CCoinsView) (tx : Child.CTransaction) : Bool :=
  if tx.IsCoinBase then true
  else
    let usage := getUsddSp1AnnexResourceUsage tx
    if usage.oversized ∨ usage.malformed ∨ usage.wrongSpendShape ∨ usage.malformedPublicValues ∨
        SP1_ANNEXES_PER_BLOCK < usage.namespaceAnnexes then false
    else (tx.vin.zipIdx.foldlM (checkInputWitness P view tx (isBondInboxSource P tx)) false).isSome

/-! ### Sources of the bond inbox -/

/-- A transaction that is standard apart from what makes it a source of the bond inbox: its outputs
that cannot be spent, its size, and the annex of its first input, which spends a public key. -/
structure OrdinaryStandard (view : CCoinsView) (tx : Child.CTransaction) : Prop where
  version : 1 ≤ P.version tx ∧ P.version tx ≤ TX_MAX_STANDARD_VERSION
  scriptSigs : ∀ input ∈ tx.vin, checkScriptSig input = .ok ()
  outputs : ∀ output ∈ tx.vout, output.scriptPubKey.head? ≠ some OP_RETURN →
    isStandard P output.scriptPubKey = true ∧
      (P.permitBareMultisig = true ∨ ∀ m n, solver P output.scriptPubKey ≠ .multisig m n)
  dust : (tx.vout.filter (isDust P)).length ≤ MAX_DUST_OUTPUTS_PER_TX
  /-- The first input spends a public key. -/
  designated : ∀ input ∈ tx.vin.head?, ∃ coin ∈ view.accessCoin input.prevout,
    IsP2TR coin.out.scriptPubKey
  witnesses : ∀ input ∈ tx.vin.zipIdx.tail,
    (checkInputWitness P view tx false false input).isSome

end Model

section Spec

variable {P : RelayNetwork} {view : CCoinsView} {tx : Child.CTransaction} {successor : Bool}
  {output : Child.CTxOut × ℕ} {marker : ParsedBondInboxMarker} {stack : Child.CScriptWitness}

theorem take_five_ne {annex : Bytes} (h : annex.take 9 = BOND_ANNEX_MAGIC) :
    annex.take 5 ≠ USDD_ANNEX_MAGIC := by
  have htake : annex.take 5 = (annex.take 9).take 5 := by rw [List.take_take]; rfl
  rw [htake, h]
  decide

theorem getLastD_take_ne (h : ¬EndsInAnnex stack) :
    (stack.getLastD []).take 5 ≠ USDD_ANNEX_MAGIC := by
  intro hmagic
  cases hlast : stack.getLast? with
  | none =>
    rw [List.getLastD_eq_getLast?, hlast] at hmagic
    exact absurd hmagic (by decide)
  | some annex =>
    rw [List.getLastD_eq_getLast?, hlast, Option.getD_some] at hmagic
    refine h ⟨annex, hlast, ?_⟩
    cases annex with
    | nil => exact absurd hmagic (by decide)
    | cons tag rest =>
      obtain ⟨rfl, -⟩ := List.cons.inj hmagic
      rfl

theorem head_of_take {annex : Bytes} (h : annex.take 9 = BOND_ANNEX_MAGIC) :
    annex.head? = some TAPROOT_ANNEX_TAG := by
  cases annex with
  | nil => exact absurd h (by decide)
  | cons tag rest =>
    obtain ⟨rfl, -⟩ := List.cons.inj h
    rfl

/-- The witness of the first input of a source has an annex, and is no activation. -/
theorem hasAnnex_of_designated (P : RelayNetwork) (tx : Child.CTransaction) (signature : Bytes)
    {annex : Bytes} (h : annex.take 9 = BOND_ANNEX_MAGIC) : HasAnnex [signature, annex] ∧
      ∀ i, ¬IsFrozenActivationAnnex P tx i [signature, annex] := by
  refine ⟨⟨le_rfl, annex, rfl, head_of_take h⟩, ?_⟩
  rintro i ⟨-, -, -, hactivation, -, -⟩
  exact absurd hactivation.2 (by simp)

theorem solver_ne_nullData {script : CScript} (h : script.head? ≠ some OP_RETURN) :
    solver P script ≠ .nullData := by
  intro htype
  simp only [solver, h, false_and, if_false] at htype
  repeat' split at htype
  all_goals cases htype

theorem witnessProgram_of_isP2TR {script : CScript} (h : IsP2TR script) :
    ∃ program : Bytes, witnessProgram script = some (1, program) ∧ program.length = 32 ∧
      ¬IsPayToAnchor script ∧ ¬IsPayToScriptHash script := by
  obtain ⟨hlength, hversion, hsize⟩ := h
  have hanchor : ¬IsPayToAnchor script := by
    rintro rfl
    exact absurd hlength (by decide)
  have hscripthash : ¬IsPayToScriptHash script := fun h => by
    have := h.1
    omega
  match script, hlength, hversion, hsize with
  | version :: size :: program, hlength, hversion, hsize =>
    obtain rfl : version = OP_1 := Option.some.inj hversion
    obtain rfl : size = 0x20 := Option.some.inj hsize
    refine ⟨program, ?_, by simpa using hlength, hanchor, hscripthash⟩
    rw [witnessProgram, if_pos]
    · rfl
    · rw [hlength]
      decide

/-- The witness of an input without an annex is checked alike in every transaction. -/
theorem checkInputWitness_of_not_annex {canonical found : Bool} {input : Child.CTxIn × ℕ}
    (h : ¬EndsInAnnex (tx.scriptWitness.getD input.2 [])) :
    checkInputWitness P view tx canonical found input =
      (checkInputWitness P view tx false false input).map fun _ => found := by
  have hannex : ¬HasAnnex (tx.scriptWitness.getD input.2 []) := fun hhas => h hhas.2
  have htaproot : ∀ stack, taprootStandard canonical false input.2 stack =
      taprootStandard false false input.2 stack := by
    intro stack
    unfold taprootStandard
    split <;> simp
  unfold checkInputWitness
  by_cases hstack : tx.scriptWitness.getD input.2 [] = []
  · simp only [hstack, if_true, Option.map_some]
  simp only [hstack, if_false, popAnnex, hannex, not_false_eq_true, if_true, Option.bind_some,
    decide_false, htaproot]
  cases spentProgram P view tx input with
  | none => rfl
  | some program =>
    simp only [Option.bind_some]
    split_ifs <;> rfl

section Source

variable (h : CanonicalSource P.toBondNetwork successor tx output marker)

include h

theorem CanonicalSource.usage : getUsddSp1AnnexResourceUsage tx = {} := by
  obtain ⟨signature, annex, rest, hwitness, -, hannex, hrest⟩ := h.designated
  have hskip : ∀ (usage : Sp1AnnexResourceUsage) (stack : Child.CScriptWitness),
      (stack.getLastD []).take 5 ≠ USDD_ANNEX_MAGIC → usage.note stack = usage :=
    fun usage stack hne => if_pos (.inr hne)
  have hall : ∀ stack ∈ tx.scriptWitness, (stack.getLastD []).take 5 ≠ USDD_ANNEX_MAGIC := by
    rw [hwitness, List.forall_mem_cons]
    exact ⟨take_five_ne hannex, fun stack hstack => getLastD_take_ne (hrest stack hstack)⟩
  unfold getUsddSp1AnnexResourceUsage
  generalize tx.scriptWitness = witnesses at hall
  induction witnesses with
  | nil => rfl
  | cons stack witnesses ih =>
    rw [List.forall_mem_cons] at hall
    rw [List.foldl_cons, hskip _ _ hall.1]
    exact ih hall.2

/-- **On a network with a slot no source is relayed.** -/
theorem CanonicalSource.not_isStandardTx_of_slot (hslot : P.drivechainSlot = true) :
    isStandardTx P tx ≠ .ok () := by
  intro hok
  obtain ⟨signature, annex, rest, hwitness, -, hannex, -⟩ := h.designated
  obtain ⟨hhas, hfrozen⟩ := hasAnnex_of_designated P tx signature hannex
  simp only [isStandardTx, usddAnnexWeight, hslot, if_true, getUsddSp1AnnexPolicyWeight, hwitness,
    List.zipIdx_cons, bind_eq_ok, foldlM_cons_eq_ok] at hok
  obtain ⟨_, -, weight, ⟨_, -, _, -, _, -, _, ⟨_, hnote, -⟩, -⟩, -⟩ := hok
  rw [noteUsddSp1Annex, if_neg (by simp [hhas, hfrozen])] at hnote
  simp only [bind_eq_ok, rejectIf_eq_ok, not_not] at hnote
  obtain ⟨_, -, _, hparse, -⟩ := hnote
  exact take_five_ne hannex (take_of_parseUsddSp1ProofAnnex hparse)

/-! #### Outputs -/

/-- The marker of a source is relayed, as an output that carries data. -/
theorem CanonicalSource.looksLikeMarker :
    LooksLikeMarker output.1.scriptPubKey ∧ solver P output.1.scriptPubKey = .nullData := by
  obtain ⟨payload, hpush, hlength⟩ := h.push
  obtain ⟨size, hsize, hscript, hop⟩ := singleInstruction_pushData2 (bondPush_eq_some hpush).1
  have hpushOnly : IsPushOnly (OP_PUSHDATA2 :: (size ++ payload)) := by
    have hread : instructions (OP_PUSHDATA2 :: (size ++ payload)) =
        ([(OP_PUSHDATA2, payload)], []) := by
      simp only [instructions, List.length_cons, readOps, hop]
      cases (size ++ payload).length <;> rfl
    rw [IsPushOnly, hread]
    have hle : OP_PUSHDATA2 ≤ OP_16 := by decide
    exact ⟨rfl, List.forall_mem_singleton.2 hle⟩
  have hbytes : output.1.scriptPubKey.length = 507 := by
    rw [hscript]
    simp only [List.length_cons, List.length_append, hsize, hlength, MARKER_LEN]
  refine ⟨⟨hbytes, by rw [hscript]; rfl, by rw [hscript]; rfl⟩, ?_⟩
  have hprogram : witnessProgram output.1.scriptPubKey = none := by
    rw [hscript, witnessProgram, ← hscript, if_neg (by omega)]
  have hscripthash : ¬IsPayToScriptHash output.1.scriptPubKey := fun h => by
    have := h.1
    omega
  rw [solver, if_neg (by rw [hscript]; simp), if_neg (by rw [hscript]; simp), if_neg hscripthash,
    hprogram]
  exact if_pos ⟨by rw [hscript]; rfl, by rw [hscript]; exact hpushOnly⟩

/-- **The outputs of a source are relayed, and one of them carries data.** -/
theorem CanonicalSource.outputs (hordinary : OrdinaryStandard P view tx) :
    tx.vout.zipIdx.foldlM (checkStandardOutput P tx true) 0 = .ok 1 := by
  have hstep : ∀ o ∈ tx.vout.zipIdx, ∀ n, checkStandardOutput P tx true n o =
      .ok (if o.1.scriptPubKey.head? = some OP_RETURN then n + 1 else n) := by
    intro o ho n
    by_cases hreturn : o.1.scriptPubKey.head? = some OP_RETURN
    · have hmem : o ∈ returnOutputs tx := List.mem_filter.2 ⟨ho, decide_eq_true hreturn⟩
      rw [h.returns, List.mem_singleton] at hmem
      subst hmem
      obtain ⟨hmarker, htype⟩ := h.looksLikeMarker
      rw [checkStandardOutput, rejectIf_of_not (by simp [hmarker]), pure_bind, htype, ite_self,
        if_pos hreturn]
      rfl
    · obtain ⟨hstandard, hmultisig⟩ := hordinary.outputs o.1
        (List.fst_mem_of_mem_zipIdx ho) hreturn
      have hdata := solver_ne_nullData (P := P) hreturn
      rw [checkStandardOutput, rejectIf_of_not (by simp [hstandard]), pure_bind, if_pos hstandard,
        if_neg hreturn]
      split
      · exact absurd ‹_› hdata
      · case h_2 m k htype =>
        rcases hmultisig with hpermit | hne
        · rw [rejectIf_of_not (by simp [hpermit])]
          rfl
        · exact absurd htype (hne m k)
      · rfl
  rw [foldlM_count hstep]
  have hlength : (returnOutputs tx).length = 1 := by rw [h.returns, List.length_singleton]
  rw [← hlength, Nat.zero_add]
  rfl

theorem CanonicalSource.isBondInboxSource_eq
    (hcanonical : isCanonicalBondInboxSourceTransactionForProfile P.toBondNetwork tx successor =
      .ok ()) : isBondInboxSource P tx = !successor := by
  cases successor with
  | false =>
    rw [isBondInboxSource, isCanonicalBondInboxSourceTransaction, hcanonical]
    rfl
  | true =>
    unfold isBondInboxSource isCanonicalBondInboxSourceTransaction
    split
    · case h_1 _ hfinite =>
      obtain ⟨output', marker', h'⟩ := canonical_of_isCanonical hfinite
      obtain rfl : output = output' := by
        simpa using h.returns.symm.trans h'.returns
      obtain ⟨payload, hpayload⟩ := payload_of_parse h.parsed
      obtain ⟨payload', hpayload'⟩ := payload_of_parse h'.parsed
      obtain ⟨hpush, -, hversion⟩ := bondMarkerPayload_eq_some hpayload
      obtain ⟨hpush', -, hversion'⟩ := bondMarkerPayload_eq_some hpayload'
      rw [hpush, Option.some.injEq] at hpush'
      subst hpush'
      exact absurd (hversion.symm.trans hversion') (by decide)
    · rfl

/-- **On a network without a slot a source of the finite profile is standard.** -/
theorem CanonicalSource.isStandardTx (hsource : isBondInboxSource P tx = true)
    (hordinary : OrdinaryStandard P view tx) (hslot : P.drivechainSlot = false) :
    Ecx.isStandardTx P tx = .ok () := by
  have hmaybe : MaybeBondInboxSource tx := by
    obtain ⟨o, ho, hmagic⟩ := h.hasBondMarker
    refine ⟨o, ho, ?_, hmagic⟩
    obtain ⟨i, hi⟩ := List.mem_iff_getElem?.1 ho
    have hmem : (o, i) ∈ returnOutputs tx :=
      List.mem_filter.2 ⟨List.mk_mem_zipIdx_iff_getElem?.2 hi, decide_eq_true hmagic.1⟩
    rw [h.returns, List.mem_singleton] at hmem
    have hlength := h.looksLikeMarker.1.1
    rw [← hmem] at hlength
    exact hlength ▸ (by decide)
  have hversion := hordinary.version
  have hdust := hordinary.dust
  simp only [Ecx.isStandardTx, usddAnnexWeight, hslot, hmaybe, hsource, decide_true, Bool.and_self,
    Bool.false_eq_true, if_false, bind_eq_ok, pure_eq_ok, rejectIf_eq_ok, forM_eq_ok]
  refine ⟨(), by omega, 0, rfl, (), by simp, (), hordinary.scriptSigs, 1, h.outputs hordinary, (),
    by omega, by simp⟩

/-! #### Witnesses -/

/-- The annex of the first input is relayed for a source of the finite profile only. -/
theorem CanonicalSource.checkInputWitness_first {input : Child.CTxIn} (canonical : Bool)
    (hordinary : OrdinaryStandard P view tx) (hslot : P.drivechainSlot = false)
    (hinput : input ∈ tx.vin.head?) :
    checkInputWitness P view tx canonical false (input, 0) =
      if canonical then some false else none := by
  obtain ⟨signature, annex, rest, hwitness, -, hannex, -⟩ := h.designated
  obtain ⟨hhas, hfrozen⟩ := hasAnnex_of_designated P tx signature hannex
  obtain ⟨coin, hcoin, hp2tr⟩ := hordinary.designated input hinput
  obtain ⟨program, hprogram, hlength, hanchor, hscripthash⟩ := witnessProgram_of_isP2TR hp2tr
  have hpegin := h.not_pegin input (List.mem_of_mem_head? hinput)
  have hspent : spentProgram P view tx (input, 0) = some (1, program, false) := by
    simp [spentProgram, hpegin, Option.mem_def.1 hcoin, hanchor, hscripthash, hprogram]
  have hpop : popAnnex P tx 0 true false [signature, annex] = some (false, [signature]) := by
    simp [popAnnex, hhas, hfrozen, hslot]
  have hstack : tx.scriptWitness.getD 0 [] = [signature, annex] := by simp [hwitness]
  simp only [checkInputWitness, hstack, hspent, hlength, Option.bind_some, and_self, decide_true,
    hpop, hhas]
  cases canonical <;> simp [taprootStandard]

theorem CanonicalSource.not_endsInAnnex {i : ℕ} (hi : i ≠ 0) :
    ¬EndsInAnnex (tx.scriptWitness.getD i []) := by
  obtain ⟨signature, annex, rest, hwitness, -, -, hrest⟩ := h.designated
  obtain ⟨i, rfl⟩ := Nat.exists_eq_succ_of_ne_zero hi
  rw [hwitness, List.getD_cons_succ, List.getD_eq_getElem?_getD]
  cases hget : rest[i]? with
  | none =>
    rintro ⟨_, hlast, -⟩
    cases hlast
  | some stack => exact hrest stack (List.mem_of_getElem? hget)

/-- **On a network without a slot the witness of a source is standard exactly if it is of the finite
profile.** -/
theorem CanonicalSource.isWitnessStandard (hordinary : OrdinaryStandard P view tx)
    (hslot : P.drivechainSlot = false) :
    Ecx.isWitnessStandard P view tx = isBondInboxSource P tx := by
  obtain ⟨input, inputs, hvin⟩ : ∃ input inputs, tx.vin = input :: inputs := by
    have hscriptSig := h.scriptSig
    cases hvin : tx.vin with
    | nil => rw [hvin] at hscriptSig; cases hscriptSig
    | cons input inputs => exact ⟨input, inputs, rfl⟩
  have hfirst := h.checkInputWitness_first (isBondInboxSource P tx) hordinary hslot
    (by rw [hvin]; rfl : input ∈ tx.vin.head?)
  have hrest : ∀ x ∈ inputs.zipIdx 1,
      checkInputWitness P view tx (isBondInboxSource P tx) false x = some false := by
    intro x hx
    have hmem : x ∈ tx.vin.zipIdx.tail := by rw [hvin]; exact hx
    have hne : x.2 ≠ 0 := by
      have := (List.mem_zipIdx hx).1
      omega
    obtain ⟨found, hfound⟩ := Option.isSome_iff_exists.1 (hordinary.witnesses x hmem)
    rw [checkInputWitness_of_not_annex (h.not_endsInAnnex hne), hfound, Option.map_some]
  have hfold : (inputs.zipIdx 1).foldlM
      (checkInputWitness P view tx (isBondInboxSource P tx)) false = some false := by
    generalize inputs.zipIdx 1 = l at hrest
    induction l with
    | nil => rfl
    | cons x l ih =>
      rw [List.forall_mem_cons] at hrest
      rw [List.foldlM_cons, hrest.1]
      exact ih hrest.2
  simp only [Ecx.isWitnessStandard, h.not_coinBase, if_false, h.usage, hvin, List.zipIdx_cons,
    List.foldlM_cons, hfirst]
  cases hsource : isBondInboxSource P tx with
  | false => simp [SP1_ANNEXES_PER_BLOCK]
  | true =>
    rw [hsource] at hfold
    simp only [SP1_ANNEXES_PER_BLOCK, if_true, Option.bind_eq_bind, Option.bind_some, Nat.zero_add,
      hfold]
    rfl

end Source

/-- **Sources of the bond inbox are relayed exactly if they are of the finite proof profile and the
network has no drivechain slot**, provided that nothing else about them is not standard. -/
theorem bond_source_relay_iff (P : RelayNetwork) (view : CCoinsView) (tx : Child.CTransaction)
    (successor : Bool)
    (hcanonical : isCanonicalBondInboxSourceTransactionForProfile P.toBondNetwork tx successor =
      .ok ())
    (hordinary : OrdinaryStandard P view tx) :
    (isStandardTx P tx = .ok () ∧ isWitnessStandard P view tx = true) ↔
      successor = false ∧ P.drivechainSlot = false := by
  obtain ⟨output, marker, h⟩ := canonical_of_isCanonical hcanonical
  have hsource := h.isBondInboxSource_eq hcanonical
  constructor
  · rintro ⟨hstandard, hwitness⟩
    have hslot : P.drivechainSlot = false := by
      by_contra hslot
      exact h.not_isStandardTx_of_slot (by simpa using hslot) hstandard
    rw [h.isWitnessStandard hordinary hslot, hsource] at hwitness
    exact ⟨by simpa using hwitness, hslot⟩
  · rintro ⟨rfl, hslot⟩
    refine ⟨h.isStandardTx (by simp [hsource]) hordinary hslot, ?_⟩
    rw [h.isWitnessStandard hordinary hslot, hsource]
    rfl

end Spec

namespace Sample

/-- A deployment with a bond inbox. -/
def bondConsensus : BondInboxConsensus where
  configurationHash := .ofByte 21
  availabilitySchemeHash := .ofByte 22
  availabilityCustodianRegistryHash := .ofByte 23
  bondInboxDomain := .ofByte 24
  incrementalActivationConfigurationHash := .ofByte 25
  incrementalSuccessorConfigurationHash := .ofByte 26
  custodianKeys := []
  bondInboxInclusionBlocks := 6
  bondInboxRefundMinimumParentBlocks := 10

/-- A network with a bond inbox.  Its hashes only count bytes. -/
def bondNetwork : BondNetwork where
  toExchangeNetwork := { exchangeNetwork with
    sha256 := fun b => .ofNat (b.length + 1)
    consensus := { exchangeNetwork.consensus with
      bondV2 := { activationEnabled := true, identitiesFrozen := true } } }
  frozen := bondConsensus
  verifierCompiledIn := true
  serialize tx := tx.hash.data
  serializeWitness tx := tx.hash.data
  witnessHash tx := tx.hash
  issuanceProofs _ := []
  renderBondInboxStaging _ _ _ _ _ := .error ""
  verifyCustodyReceipts _ _ _ _ := true

/-- The network with a relay policy, with or without a slot. -/
def relayNetwork (drivechainSlot : Bool) : RelayNetwork where
  toBondNetwork := bondNetwork
  parentGenesisBlockHash := .ofByte 27
  drivechainSlot := drivechainSlot
  usddSp1AnnexPolicyEnabled := drivechainSlot
  dustRelayFee _ := 0
  version _ := 2
  getTransactionWeight _ := 1000
  matchPayToPubkey _ := false
  matchPayToPubkeyHash _ := false
  matchMultisig _ := none
  peginScript _ := []
  evalScript _ := none

/-- The receipts of three custodians. -/
def custodyReceipts : List Bytes :=
  [1, 2, 3].map fun index => 1 :: (List.replicate 72 0 ++ (index :: List.replicate 64 0))

/-- A marker that stages no funds. -/
def bondMarker (successor : Bool) : ParsedBondInboxMarker :=
  let marker : ParsedBondInboxMarker := {
    kind := 0, signer := .ofByte 31, actionId := .ofByte 32, stagingIntentId := 0
    stagingVout := UINT32_MAX, refundScriptSha256 := 0, refundNotBeforeParentHeight := 0
    payloadCommitment := .ofByte 33
    availabilityBundleRoot := profileHash bondNetwork successor
      "ECX/successor-bond-inbox-encrypted-availability-bundle/v2-u128"
      "ECX/bond-inbox-encrypted-availability-bundle/v2" (writeBE 4 1 ++ [9])
    availabilityContext := 0, availabilityReceiptRoot := 0, availabilityBundleLen := 1
    availabilityReceiptBitmap := 7, sourceAuthorizationCommitment := 0 }
  let marker := { marker with
    sourceAuthorizationCommitment := noStagingAuthorization bondNetwork marker 0 successor }
  let marker :=
    { marker with availabilityContext := availabilityContext bondNetwork marker successor }
  { marker with availabilityReceiptRoot :=
      orderedBondInboxCustodyReceiptRoot bondNetwork marker custodyReceipts successor }

/-- The payload of a marker. -/
def bondPayload (successor : Bool) : Bytes :=
  let marker := bondMarker successor
  BOND_MAGIC ++ ([markerVersion successor, marker.kind] ++ (bondNetwork.consensus.chainId.data ++
    (bondConsensus.configurationHash.data ++ (marker.signer.data ++ (marker.actionId.data ++
    (marker.stagingIntentId.data ++ (writeBE 4 marker.stagingVout ++
    (marker.refundScriptSha256.data ++ (writeBE 8 marker.refundNotBeforeParentHeight ++
    (marker.payloadCommitment.data ++ (bondConsensus.availabilitySchemeHash.data ++
    (bondConsensus.availabilityCustodianRegistryHash.data ++ (marker.availabilityBundleRoot.data ++
    (marker.availabilityContext.data ++ (marker.availabilityReceiptRoot.data ++
    (writeBE 4 marker.availabilityBundleLen ++ (marker.availabilityReceiptBitmap ::
    (marker.sourceAuthorizationCommitment.data ++ List.replicate 64 0))))))))))))))))))

/-- The annex of a source. -/
def bondAnnex : Bytes :=
  BOND_ANNEX_MAGIC ++ (1 :: (writeBE 4 1 ++ (3 :: (9 ::
    custodyReceipts.flatMap fun receipt => writeBE 2 138 ++ receipt))))

/-- A source of the bond inbox. -/
def bondSource (successor : Bool) (id : UInt8) : Child.CTransaction where
  vin := [.ofPrevout ⟨.ofByte id, 0⟩]
  scriptWitness := [[List.replicate 64 0, bondAnnex]]
  vout := [{
    nAsset := .explicit (.ofByte 8), nValue := .explicit 0
    scriptPubKey := OP_RETURN :: OP_PUSHDATA2 :: (writeLE 2 503 ++ bondPayload successor) }]
  hash := .ofByte id
  vout_length_lt := by simp

/-- A view with the output that the source spends. -/
def bondView : CCoinsView :=
  CCoinsView.empty.addCoin ⟨.ofByte 41, 0⟩
    { out := singletonOutput 3, nHeight := 0, fCoinBase := false }

theorem canonical_bondSource (successor : Bool) :
    isCanonicalBondInboxSourceTransactionForProfile bondNetwork (bondSource successor 41)
      successor = .ok () := by
  revert successor
  decide +kernel

theorem ordinary_bondSource (slot successor : Bool) :
    OrdinaryStandard (relayNetwork slot) bondView
      (bondSource successor 41) where
  version := ⟨one_le_two, Nat.le_succ 2⟩
  scriptSigs := List.forall_mem_singleton.2 (by decide)
  outputs := List.forall_mem_singleton.2 fun h => absurd rfl h
  dust := by
    revert slot successor
    decide +kernel
  designated := by
    rintro _ ⟨⟩
    exact ⟨_, CCoinsView.addCoin_self (by decide), by decide⟩
  witnesses := by simp [bondSource]

end Sample

open Ecx.Sample

/-- A source of the finite proof profile is relayed where there is no slot. -/
theorem bond_source_relay_finite :
    isStandardTx (relayNetwork false) (bondSource false 41) = .ok () ∧
      isWitnessStandard (relayNetwork false) bondView
        (bondSource false 41) = true :=
  (bond_source_relay_iff (relayNetwork false) _ _ false (canonical_bondSource false)
    (ordinary_bondSource false false)).2 ⟨rfl, rfl⟩

/-- A source of the finite proof profile is not relayed where there is a slot, and a source of its
successor is not relayed anywhere. -/
theorem bond_source_not_relayed :
    (isCanonicalBondInboxSourceTransactionForProfile (relayNetwork true).toBondNetwork
        (bondSource false 41) false = .ok () ∧
      OrdinaryStandard (relayNetwork true) bondView (bondSource false 41) ∧
      isStandardTx (relayNetwork true) (bondSource false 41) =
        .error "usdd-sp1-annex") ∧
    isCanonicalBondInboxSourceTransactionForProfile (relayNetwork false).toBondNetwork
        (bondSource true 41) true = .ok () ∧
      OrdinaryStandard (relayNetwork false) bondView (bondSource true 41) ∧
      isWitnessStandard (relayNetwork false) bondView (bondSource true 41) =
        false :=
  ⟨⟨canonical_bondSource false, ordinary_bondSource true false, by decide +kernel⟩,
    canonical_bondSource true, ordinary_bondSource false true, by decide +kernel⟩

end ElementsDrivechain.Ecx
