import ElementsDrivechain.Ecx.Sources

/-!
# Sources of the bond inbox

A transaction asks for a bond with a *marker*, an output that can never be spent.  What the marker
says is encrypted; the ciphertext stands in the annex of the first input, with receipts of those who
keep it.  There is one form of markers for the *finite* proof profile and one for its *successor*,
which differ in a version and in the tags of their hashes.

* `canonical_of_isCanonical` : **a source has exactly one output that cannot be spent, its marker,
  and exactly one annex, on its first input.**
-/

namespace ElementsDrivechain.Ecx

open Fallible

/-! ### Parameters -/

/-- The part of a deployment that the bond inbox depends on. -/
structure BondInboxConsensus where
  configurationHash : Uint256
  availabilitySchemeHash : Uint256
  availabilityCustodianRegistryHash : Uint256
  bondInboxDomain : Uint256
  /-- The configurations of the activation of the successor, and of the successor itself. -/
  incrementalActivationConfigurationHash : Uint256
  incrementalSuccessorConfigurationHash : Uint256
  /-- The keys of the custodians, for encryption and for attestation. -/
  custodianKeys : List (Bytes × Bytes)
  bondInboxInclusionBlocks : ℕ
  bondInboxRefundMinimumParentBlocks : ℕ
  bondInboxMaxBundleBytes : ℕ := 64 * 1024
  bondInboxMaxEntriesPerSidechainBlock : ℕ := 8
  bondInboxMaxUniqueSourceWitnessBytesPerSidechainBlock : ℕ := 576 * 1024
  bondInboxMaxUniqueSourceTransactionBytesPerSidechainBlock : ℕ := 768 * 1024
  /-- The delays have 32 bits. -/
  inclusion_lt : bondInboxInclusionBlocks < 2 ^ 32 := by decide
  refund_lt : bondInboxRefundMinimumParentBlocks < 2 ^ 32 := by decide

/-- A deployment with a bond inbox. -/
structure BondNetwork extends ExchangeNetwork where
  frozen : BondInboxConsensus
  /-- The node can verify the receipts of custodians. -/
  verifierCompiledIn : Bool
  /-- The bytes of a transaction with its witness, and those of the witness alone. -/
  serialize : Child.CTransaction → Bytes
  serializeWitness : Child.CTransaction → Bytes
  /-- The hash of a transaction with its witness. -/
  witnessHash : Child.CTransaction → Uint256
  /-- The proofs of the issuances of the inputs. -/
  issuanceProofs : Child.CTransaction → List (Bytes × Bytes)
  /-- The script of the output that a marker stages its funds in: of the signer, the intent, the
  index of the output, the script of the refund and the height from which it may be made. -/
  renderBondInboxStaging : Uint256 → Uint256 → ℕ → Uint256 → ℕ → Except String CScript
  /-- The receipts of the custodians of a registry for a bundle. -/
  verifyCustodyReceipts : Bytes → Bytes → Bytes → ℕ → Bool

/-- "ECXB", the first bytes of a marker. -/
def BOND_MAGIC : Bytes := [0x45, 0x43, 0x58, 0x42]
/-- The length of the payload of a marker. -/
def MARKER_LEN : ℕ := 503
/-- The largest number of 32 bits. -/
def UINT32_MAX : ℕ := 2 ^ 32 - 1

/-! ### Markers -/

/-- What a marker says. -/
structure ParsedBondInboxMarker where
  /-- One stages funds. -/
  kind : UInt8
  signer : Uint256
  actionId : Uint256
  stagingIntentId : Uint256
  stagingVout : ℕ
  refundScriptSha256 : Uint256
  /-- The height from which the funds may be taken back. -/
  refundNotBeforeParentHeight : ℕ
  payloadCommitment : Uint256
  availabilityBundleRoot : Uint256
  availabilityContext : Uint256
  availabilityReceiptRoot : Uint256
  availabilityBundleLen : ℕ
  /-- Which custodians gave receipts. -/
  availabilityReceiptBitmap : UInt8
  sourceAuthorizationCommitment : Uint256
deriving DecidableEq

/-- The hash at an offset. -/
def rawHash (b : Bytes) (offset : ℕ) : Uint256 := .ofBytes (bytesAt b offset 32)

/-- How many bits are set. -/
def bitCount (b : UInt8) : ℕ := (List.range 8).countP b.toNat.testBit

/-- The payload of a script that pushes a marker in the one accepted way. -/
def bondPush (script : CScript) : Option Bytes :=
  match singleInstruction script with
  | some (opcode, payload) =>
    if opcode = OP_PUSHDATA2 ∧ payload.length = MARKER_LEN then some payload else none
  | none => none

/-- The version of the markers of a proof profile. -/
def markerVersion (successor : Bool) : UInt8 := if successor then 3 else 1

/-- The payload of a marker of a proof profile. -/
def bondMarkerPayload (script : CScript) (successor : Bool) : Option Bytes :=
  (bondPush script).filter fun payload => payload.take 4 = BOND_MAGIC ∧
    payload.getD 4 0 = markerVersion successor ∧ payload.getD 5 0 ≤ 3

namespace ParsedBondInboxMarker

/-- The fields of a payload. -/
def ofPayload (payload : Bytes) : ParsedBondInboxMarker where
  kind := payload.getD 5 0
  signer := rawHash payload 70
  actionId := rawHash payload 102
  stagingIntentId := rawHash payload 134
  stagingVout := readU32Be payload 166
  refundScriptSha256 := rawHash payload 170
  refundNotBeforeParentHeight := readU64Be payload 202
  payloadCommitment := rawHash payload 210
  availabilityBundleRoot := rawHash payload 306
  availabilityContext := rawHash payload 338
  availabilityReceiptRoot := rawHash payload 370
  availabilityBundleLen := readU32Be payload 402
  availabilityReceiptBitmap := payload.getD 406 0
  sourceAuthorizationCommitment := rawHash payload 407

variable (marker : ParsedBondInboxMarker)

/-- The marker stages funds in an output. -/
def HasStaging : Prop :=
  marker.stagingVout ≠ UINT32_MAX ∧ marker.stagingIntentId ≠ 0 ∧ marker.refundScriptSha256 ≠ 0 ∧
    marker.refundNotBeforeParentHeight ≠ 0
deriving Decidable

/-- The marker stages no funds. -/
def NoStaging : Prop :=
  marker.stagingVout = UINT32_MAX ∧ marker.stagingIntentId = 0 ∧ marker.refundScriptSha256 = 0 ∧
    marker.refundNotBeforeParentHeight = 0
deriving Decidable

end ParsedBondInboxMarker

section Model

variable (N : BondNetwork)

/-- The hash of a payload under the tag of a proof profile. -/
def profileHash (successor : Bool) (successorTag finiteTag : String) (payload : Bytes) : Uint256 :=
  taggedHash N.toExchangeCrypto (if successor then successorTag else finiteTag) payload

/-- What the ciphertext of a marker is bound to. -/
def availabilityContext (marker : ParsedBondInboxMarker) (successor : Bool) : Uint256 :=
  profileHash N successor "ECX/successor-bond-inbox-availability-context/v2-u128"
    "ECX/bond-inbox-availability-context/v2"
    (N.consensus.chainId.data ++ (N.frozen.configurationHash.data ++ (marker.actionId.data ++
      (marker.stagingIntentId.data ++ (writeBE 4 marker.stagingVout ++
      (marker.refundScriptSha256.data ++ (writeBE 8 marker.refundNotBeforeParentHeight ++
      (marker.payloadCommitment.data ++ marker.sourceAuthorizationCommitment.data))))))))

/-- Read a marker of a proof profile. -/
def parseCanonicalBondInboxMarker (script : CScript) (successor : Bool) :
    Except String ParsedBondInboxMarker := do
  let payload ← orReject (bondMarkerPayload script successor)
    "not an exact minimal-PUSHDATA2 ECX bond-inbox marker"
  let marker := ParsedBondInboxMarker.ofPayload payload
  rejectIf (rawHash payload 6 ≠ N.consensus.chainId ∨
      rawHash payload 38 ≠ N.frozen.configurationHash ∨
      rawHash payload 242 ≠ N.frozen.availabilitySchemeHash ∨
      rawHash payload 274 ≠ N.frozen.availabilityCustodianRegistryHash ∨ 3 < marker.kind ∨
      marker.signer = 0 ∨ marker.actionId = 0 ∨ marker.payloadCommitment = 0 ∨
      marker.availabilityBundleRoot = 0 ∨ marker.availabilityReceiptRoot = 0 ∨
      marker.sourceAuthorizationCommitment = 0 ∨ marker.availabilityBundleLen = 0 ∨
      N.frozen.bondInboxMaxBundleBytes < marker.availabilityBundleLen ∨
      marker.availabilityReceiptBitmap &&& 0xe0 ≠ 0 ∨
      bitCount marker.availabilityReceiptBitmap < 3)
    "ECX bond-inbox marker identities/availability claim are invalid"
  rejectIf ((marker.kind = 1 ∧ ¬marker.HasStaging) ∨ (marker.kind ≠ 1 ∧ ¬marker.NoStaging))
    "ECX bond-inbox marker staging sentinels are invalid"
  rejectIf (availabilityContext N marker successor ≠ marker.availabilityContext)
    "ECX bond-inbox marker availability context is invalid"
  let digest := profileHash N successor "ECX/successor-bond-inbox-marker-signature/v2-u128"
    "ECX/bond-inbox-marker-signature/v2" (bytesAt payload 4 435)
  rejectIf (¬N.isFullyValid marker.signer.data ∨
      ¬N.verifySchnorr marker.signer.data digest (bytesAt payload 439 64))
    "ECX bond-inbox marker wrapper signature is invalid"
  return marker

/-! ### The annex of a source -/

/-- The first byte of an annex. -/
def TAPROOT_ANNEX_TAG : UInt8 := 0x50

/-- The bytes of `ECXBIN2`, after the tag of an annex. -/
def BOND_ANNEX_MAGIC : Bytes := [0x50, 0x45, 0x43, 0x58, 0x42, 0x49, 0x4e, 0x32, 0]

/-- The last item of a witness has the tag of an annex. -/
def EndsInAnnex (stack : Child.CScriptWitness) : Prop :=
  ∃ annex ∈ stack.getLast?, annex.head? = some TAPROOT_ANNEX_TAG
deriving Decidable

/-- The leaf of a receipt in the tree of receipts. -/
def receiptLeaf (marker : ParsedBondInboxMarker) (successor : Bool) (receipt : Bytes) : Uint256 :=
  let binding := profileHash N successor
    "ECX/successor-bond-inbox-custody-receipt-binding/v2-u128"
    "ECX/bond-inbox-custody-receipt-binding/v2"
    (N.frozen.availabilitySchemeHash.data ++ (N.frozen.availabilityCustodianRegistryHash.data ++
      (marker.availabilityContext.data ++ (marker.availabilityBundleRoot.data ++
      (writeBE 4 marker.availabilityBundleLen ++ (marker.payloadCommitment.data ++
      (marker.sourceAuthorizationCommitment.data ++ [receipt.getD 73 0 - 1])))))))
  profileHash N successor "ECX/successor-bond-inbox-exact-custody-receipt/v2-u128"
    "ECX/bond-inbox-exact-custody-receipt/v2"
    (binding.data ++ (writeBE 4 receipt.length ++ receipt))

/-- The nodes one level up. -/
def pairNodes (tag : String) : List Uint256 → List Uint256
  | first :: second :: rest =>
    taggedHash N.toExchangeCrypto (tag ++ "/node") (first.data ++ second.data) ::
      pairNodes tag rest
  | _ => []

/-- The height of a tree with the given number of leaves. -/
def treeHeight (leaves : ℕ) : ℕ := ((List.range leaves).find? fun k => leaves ≤ 2 ^ k).getD 0

/-- The root of the Merkle tree over the receipts, padded to a power of two. -/
def orderedBondInboxCustodyReceiptRoot (marker : ParsedBondInboxMarker) (receipts : List Bytes)
    (successor : Bool) : Uint256 :=
  let tag := if successor then "ECX/successor-bond-inbox-custody-receipts/v2-u128"
    else "ECX/bond-inbox-custody-receipts/v2"
  let nodes := receipts.mapIdx fun index receipt => taggedHash N.toExchangeCrypto (tag ++ "/leaf")
    (writeBE 8 index ++ (receiptLeaf N marker successor receipt).data)
  let height := treeHeight nodes.length
  let padding := List.replicate (2 ^ height - nodes.length)
    (taggedHash N.toExchangeCrypto (tag ++ "/pad") [])
  ((pairNodes N tag)^[height] (nodes ++ padding)).headD
    (taggedHash N.toExchangeCrypto (tag ++ "/empty") [])

/-- The registry of the custodians. -/
def custodianRegistry : Bytes :=
  N.frozen.custodianKeys.zipIdx.flatMap fun keys =>
    UInt8.ofNat (keys.2 + 1) :: (keys.1.1 ++ keys.1.2)

/-- The walk over the receipts of an annex. -/
structure ReceiptScan where
  rest : Bytes
  receipts : List Bytes := []
  bitmap : UInt8 := 0
  previousIndex : UInt8 := 0

/-- Read one more receipt. -/
def ReceiptScan.takeReceipt (scan : ReceiptScan) : Except String ReceiptScan := do
  rejectIf (scan.rest.length < 2) "ECX bond-inbox source annex truncated a receipt length"
  let receiptLen := readBE (scan.rest.take 2)
  let rest := scan.rest.drop 2
  rejectIf (receiptLen ≠ 138 ∨ rest.length < receiptLen)
    "ECX bond-inbox source annex receipt length is noncanonical"
  let receipt := rest.take receiptLen
  let index := receipt.getD 73 0
  rejectIf (receipt.getD 0 0 ≠ 1 ∨ index < 1 ∨ 5 < index ∨ index ≤ scan.previousIndex)
    "ECX bond-inbox source annex receipts are not registry ordered"
  return {
    rest := rest.drop receiptLen
    receipts := scan.receipts ++ [receipt]
    bitmap := scan.bitmap ||| 1 <<< (index - 1)
    previousIndex := index }

/-- Read the receipts of an annex. -/
def takeReceipts (rest : Bytes) (receiptCount : ℕ) : Except String ReceiptScan :=
  (List.range receiptCount).foldlM (fun (scan : ReceiptScan) _ => scan.takeReceipt)
    { rest := rest }

/-- Check the annex that belongs to a marker. -/
def verifyBondInboxAnnex (annex : Bytes) (marker : ParsedBondInboxMarker) (successor : Bool) :
    Except String Unit := do
  rejectIf (annex.length < 15 ∨ annex.take 9 ≠ BOND_ANNEX_MAGIC ∨ annex.getD 9 0 ≠ 1)
    "ECX bond-inbox source annex has a noncanonical prefix/version"
  let bundleLen := readU32Be annex 10
  let receiptCount := (annex.getD 14 0).toNat
  rejectIf (bundleLen = 0 ∨ bundleLen ≠ marker.availabilityBundleLen ∨
      N.frozen.bondInboxMaxBundleBytes < bundleLen ∨ receiptCount < 3 ∨ 5 < receiptCount ∨
      annex.length - 15 < bundleLen)
    "ECX bond-inbox source annex has invalid bundle/receipt lengths"
  let bundle := bytesAt annex 15 bundleLen
  rejectIf (profileHash N successor
      "ECX/successor-bond-inbox-encrypted-availability-bundle/v2-u128"
      "ECX/bond-inbox-encrypted-availability-bundle/v2" (writeBE 4 bundleLen ++ bundle) ≠
        marker.availabilityBundleRoot)
    "ECX bond-inbox source annex bundle commitment mismatched"
  let scan ← takeReceipts (annex.drop (15 + bundleLen)) receiptCount
  rejectIf (scan.rest ≠ [] ∨ receiptCount ≠ bitCount marker.availabilityReceiptBitmap ∨
      scan.bitmap ≠ marker.availabilityReceiptBitmap ∨
      orderedBondInboxCustodyReceiptRoot N marker scan.receipts successor ≠
        marker.availabilityReceiptRoot ∨
      ¬N.verifyCustodyReceipts bundle (custodianRegistry N) scan.receipts.flatten receiptCount)
    "ECX bond-inbox source annex receipt evidence is invalid"

/-- Check the witness of a source: the annex stands on the first input, and on no other. -/
def verifyBondInboxMarkerSourceWitness (tx : Child.CTransaction) (marker : ParsedBondInboxMarker)
    (successor : Bool) : Except String Unit := do
  rejectIf (¬N.verifierCompiledIn) "ECX bond-inbox custody verifier is not compiled in"
  rejectIf (tx.vin.head?.map (·.scriptSig) ≠ some [])
    "ECX bond-inbox source lacks its designated Taproot annex input"
  let designated ← orReject tx.scriptWitness.head?
    "ECX bond-inbox source lacks its designated Taproot annex input"
  rejectIf ((N.issuanceProofs tx).headD ([], []) ≠ ([], []) ∨ tx.peginWitness.headD [] ≠ [] ∨
      designated.length ≠ 2 ∨ (designated.headD []).length ≠ 64)
    "ECX bond-inbox designated input is not an exact key-path annex spend"
  rejectIf (∃ stack ∈ tx.scriptWitness.tail, EndsInAnnex stack)
    "ECX bond-inbox source contains a second Taproot annex"
  verifyBondInboxAnnex N (designated.getLastD []) marker successor

/-! ### Sources -/

/-- The transaction has a witness. -/
def HasWitness (tx : Child.CTransaction) : Prop :=
  (∃ stack ∈ tx.scriptWitness, stack ≠ []) ∨ (∃ stack ∈ tx.peginWitness, stack ≠ []) ∨
    (∃ witness ∈ tx.outWitness, ¬witness.IsNull) ∨
    ∃ proofs ∈ N.issuanceProofs tx, proofs ≠ ([], [])
deriving Decidable

/-- The output is the one that a marker stages its funds in. -/
def IsStagingOutput (tx : Child.CTransaction) (marker : ParsedBondInboxMarker)
    (staging : Child.CTxOut) (rendered : CScript) : Prop :=
  staging.scriptPubKey = rendered ∧ ¬IsUnspendable staging.scriptPubKey ∧
    staging.nAsset.IsCommitment ∧ staging.nValue.IsCommitment ∧ staging.nNonce.IsCommitment ∧
    ∃ witness ∈ tx.outWitness[marker.stagingVout]?, witness.vchSurjectionproof ≠ [] ∧
      witness.vchRangeproof ≠ []
deriving Decidable

/-- What a marker that stages funds has to be authorised by. -/
def stagingAuthorization (tx : Child.CTransaction) (marker : ParsedBondInboxMarker)
    (outputIndex : ℕ) (successor : Bool) : Except String Uint256 := do
  rejectIf (marker.stagingVout = outputIndex) "ECX bond-inbox staging output index is invalid"
  let staging ← orReject tx.vout[marker.stagingVout]?
    "ECX bond-inbox staging output index is invalid"
  let rendered ← N.renderBondInboxStaging marker.signer marker.stagingIntentId marker.stagingVout
    marker.refundScriptSha256 marker.refundNotBeforeParentHeight
  rejectIf (¬IsStagingOutput tx marker staging rendered)
    "ECX bond-inbox staging output is not the exact confidential frozen descriptor form"
  let bytes := serializeOutput staging
  rejectIf (bytes = [] ∨ N.frozen.bondInboxMaxBundleBytes < bytes.length)
    "ECX bond-inbox staging output serialization is invalid"
  return profileHash N successor "ECX/successor-bond-inbox-staging-source-authorization/v2-u128"
    "ECX/bond-inbox-staging-source-authorization/v2"
    (writeBE 4 bytes.length ++ (bytes ++ (marker.stagingIntentId.data ++
      (marker.refundScriptSha256.data ++ writeBE 8 marker.refundNotBeforeParentHeight))))

/-- What any other marker has to be authorised by. -/
def noStagingAuthorization (marker : ParsedBondInboxMarker) (outputIndex : ℕ) (successor : Bool) :
    Uint256 :=
  profileHash N successor "ECX/successor-bond-inbox-no-staging-source-authorization/v2-u128"
    "ECX/bond-inbox-no-staging-source-authorization/v2"
    (N.consensus.chainId.data ++ (N.frozen.configurationHash.data ++ (marker.signer.data ++
      (marker.actionId.data ++ writeBE 4 outputIndex))))

/-- What a marker has to be authorised by. -/
def sourceAuthorization (tx : Child.CTransaction) (marker : ParsedBondInboxMarker)
    (outputIndex : ℕ) (successor : Bool) : Except String Uint256 :=
  if marker.kind = 1 then stagingAuthorization N tx marker outputIndex successor
  else pure (noStagingAuthorization N marker outputIndex successor)

/-- Check an output of a source.  The actions of the markers before it are given. -/
def checkSourceOutput (tx : Child.CTransaction) (successor : Bool) (actionIds : List Uint256)
    (output : Child.CTxOut × ℕ) : Except String (List Uint256) :=
  if output.1.scriptPubKey.head? ≠ some OP_RETURN then pure actionIds
  else do
    let marker ← parseCanonicalBondInboxMarker N output.1.scriptPubKey successor
    rejectIf (¬HoldsNothing N.toExchangeNetwork tx output.2 output.1)
      "ECX bond-inbox marker output envelope is noncanonical"
    rejectIf (N.frozen.bondInboxMaxEntriesPerSidechainBlock < actionIds.length + 1 ∨
        marker.actionId ∈ actionIds)
      "ECX bond-inbox source has too many or duplicate markers"
    let expected ← sourceAuthorization N tx marker output.2 successor
    rejectIf (expected ≠ marker.sourceAuthorizationCommitment)
      "ECX bond-inbox marker source authorization is invalid"
    verifyBondInboxMarkerSourceWitness N tx marker successor
    return actionIds ++ [marker.actionId]

/-- The transaction is a source of the bond inbox in a proof profile. -/
def isCanonicalBondInboxSourceTransactionForProfile (tx : Child.CTransaction) (successor : Bool) :
    Except String Unit := do
  rejectIf (¬N.consensus.bondV2.activationEnabled ∨ ¬N.consensus.bondV2.identitiesFrozen ∨
      N.frozen.configurationHash = 0 ∨ N.frozen.availabilitySchemeHash = 0 ∨
      N.frozen.availabilityCustodianRegistryHash = 0 ∨
      N.frozen.bondInboxMaxBundleBytes ≠ 64 * 1024 ∨
      N.frozen.bondInboxMaxEntriesPerSidechainBlock ≠ 8 ∨
      N.frozen.bondInboxMaxUniqueSourceWitnessBytesPerSidechainBlock ≠ 576 * 1024 ∨
      N.frozen.bondInboxMaxUniqueSourceTransactionBytesPerSidechainBlock ≠ 768 * 1024)
    "ECX bond-inbox relay profile is not frozen"
  rejectIf (tx.IsCoinBase ∨ tx.vin = [] ∨ tx.vout = [] ∨ ¬HasWitness N tx ∨
      ∃ input ∈ tx.vin, input.isPegin = true ∨ ¬input.assetIssuance.IsNull)
    "ECX bond-inbox source transaction has an invalid input/output/witness form"
  rejectIf (N.serialize tx = [] ∨
      N.frozen.bondInboxMaxUniqueSourceTransactionBytesPerSidechainBlock <
        (N.serialize tx).length)
    "ECX bond-inbox source transaction exceeds its frozen exact byte cap"
  rejectIf (N.serializeWitness tx = [] ∨
      N.frozen.bondInboxMaxUniqueSourceWitnessBytesPerSidechainBlock <
        (N.serializeWitness tx).length)
    "ECX bond-inbox source witness exceeds its frozen exact byte cap"
  let actionIds ← tx.vout.zipIdx.foldlM (checkSourceOutput N tx successor) []
  rejectIf (actionIds.length ≠ 1)
    "ECX bond-inbox source transaction must contain exactly one marker"

/-- The check of a source of the finite profile. -/
def isCanonicalBondInboxSourceTransaction (tx : Child.CTransaction) : Except String Unit :=
  isCanonicalBondInboxSourceTransactionForProfile N tx false

end Model

/-! ### What a source looks like -/

/-- The outputs that cannot be spent, with their positions. -/
def returnOutputs (tx : Child.CTransaction) : List (Child.CTxOut × ℕ) :=
  tx.vout.zipIdx.filter fun output => output.1.scriptPubKey.head? = some OP_RETURN

/-- **A source of the bond inbox**: its one output that cannot be spent is its marker, and its one
annex is that of its first input. -/
structure CanonicalSource (N : BondNetwork) (successor : Bool) (tx : Child.CTransaction)
    (output : Child.CTxOut × ℕ) (marker : ParsedBondInboxMarker) : Prop where
  not_coinBase : ¬tx.IsCoinBase
  not_pegin : ∀ input ∈ tx.vin, input.isPegin = false
  entries : N.frozen.bondInboxMaxEntriesPerSidechainBlock = 8
  witnessCap : N.frozen.bondInboxMaxUniqueSourceWitnessBytesPerSidechainBlock = 576 * 1024
  transactionCap : N.frozen.bondInboxMaxUniqueSourceTransactionBytesPerSidechainBlock = 768 * 1024
  witnessBytes : (N.serializeWitness tx).length ≤ 576 * 1024
  transactionBytes : (N.serialize tx).length ≤ 768 * 1024
  /-- Its one output that cannot be spent. -/
  returns : returnOutputs tx = [output]
  /-- It is a marker. -/
  parsed : parseCanonicalBondInboxMarker N output.1.scriptPubKey successor = .ok marker
  holds : HoldsNothing N.toExchangeNetwork tx output.2 output.1
  scriptSig : tx.vin.head?.map (·.scriptSig) = some []
  /-- The first witness is a signature and the annex. -/
  designated : ∃ signature annex rest, tx.scriptWitness = [signature, annex] :: rest ∧
    signature.length = 64 ∧ annex.take 9 = BOND_ANNEX_MAGIC ∧ ∀ stack ∈ rest, ¬EndsInAnnex stack

section Spec

variable {N : BondNetwork} {tx : Child.CTransaction} {successor : Bool} {script : CScript}
  {payload : Bytes} {marker : ParsedBondInboxMarker}

/-- A marker is one push, and its payload says of which proof profile it is. -/
theorem bondMarkerPayload_eq_some (h : bondMarkerPayload script successor = some payload) :
    bondPush script = some payload ∧ payload.take 4 = BOND_MAGIC ∧
      payload.getD 4 0 = markerVersion successor := by
  rw [bondMarkerPayload, Option.filter_eq_some_iff] at h
  obtain ⟨hpush, hpayload⟩ := h
  simp only [decide_eq_true_eq] at hpayload
  exact ⟨hpush, hpayload.1, hpayload.2.1⟩

theorem bondPush_eq_some (h : bondPush script = some payload) :
    singleInstruction script = some (OP_PUSHDATA2, payload) ∧ payload.length = MARKER_LEN := by
  unfold bondPush at h
  split at h
  case h_1 opcode payload' hsingle =>
    split_ifs at h with hcond
    obtain rfl := Option.some.inj h
    rw [hsingle, hcond.1]
    exact ⟨rfl, hcond.2⟩
  case h_2 => cases h

/-- The bytes of a script that is one push with two bytes of length, after `OP_RETURN`. -/
theorem singleInstruction_pushData2 {script : Bytes}
    (h : singleInstruction script = some (OP_PUSHDATA2, payload)) :
    ∃ size : Bytes, size.length = 2 ∧
      script = OP_RETURN :: OP_PUSHDATA2 :: (size ++ payload) ∧
      getOp (OP_PUSHDATA2 :: (size ++ payload)) = some (OP_PUSHDATA2, payload, []) := by
  unfold singleInstruction at h
  split at h
  case h_2 => cases h
  case h_1 opcode data rest hop =>
    split_ifs at h with hreturn
    split at h
    case h_2 => cases h
    case h_1 opcode' payload' hpush =>
      obtain ⟨rfl, rfl⟩ : opcode' = OP_PUSHDATA2 ∧ payload' = payload := by simpa using h
      subst hreturn
      obtain ⟨hle, -⟩ | ⟨-, rfl⟩ := getOp_eq_some hop
      · exact absurd hle (by decide)
      obtain ⟨-, size, hsize, rfl⟩ | ⟨hle, -⟩ := getOp_eq_some hpush
      · rw [List.append_nil] at hpush ⊢
        exact ⟨size, hsize rfl, rfl, hpush⟩
      · exact absurd (by decide) hle

theorem containsMagic_of_bondMarkerPayload {script : Bytes}
    (h : bondMarkerPayload script successor = some payload) :
    ScriptContainsMagic script BOND_MAGIC := by
  obtain ⟨hpush, hmagic, -⟩ := bondMarkerPayload_eq_some h
  obtain ⟨size, -, rfl, -⟩ := singleInstruction_pushData2 (bondPush_eq_some hpush).1
  refine ⟨rfl, ⟨OP_PUSHDATA2 :: size, payload.drop 4, ?_⟩⟩
  rw [← hmagic]
  simp

theorem payload_of_parse (h : parseCanonicalBondInboxMarker N script successor = .ok marker) :
    ∃ payload, bondMarkerPayload script successor = some payload := by
  simp only [parseCanonicalBondInboxMarker, bind_eq_ok, orReject_eq_ok, pure_eq_ok] at h
  obtain ⟨payload, hpayload, -⟩ := h
  exact ⟨payload, hpayload⟩

theorem verifyBondInboxAnnex_magic {annex : Bytes}
    (h : verifyBondInboxAnnex N annex marker successor = .ok ()) :
    annex.take 9 = BOND_ANNEX_MAGIC := by
  simp only [verifyBondInboxAnnex, bind_eq_ok, rejectIf_eq_ok, not_or, not_not] at h
  obtain ⟨_, ⟨-, hmagic, -⟩, -⟩ := h
  exact hmagic

/-- The annex of a source stands on its first input, and on no other. -/
theorem designated_of_verify
    (h : verifyBondInboxMarkerSourceWitness N tx marker successor = .ok ()) :
    tx.vin.head?.map (·.scriptSig) = some [] ∧
      ∃ signature annex rest, tx.scriptWitness = [signature, annex] :: rest ∧
        signature.length = 64 ∧ annex.take 9 = BOND_ANNEX_MAGIC ∧
        ∀ stack ∈ rest, ¬EndsInAnnex stack := by
  simp only [verifyBondInboxMarkerSourceWitness, bind_eq_ok, rejectIf_eq_ok, orReject_eq_ok, not_or,
    not_not, not_exists, not_and] at h
  obtain ⟨_, -, _, hscriptSig, designated, hdesignated, _, ⟨-, -, hlength, hsignature⟩, _, hother,
    hannex⟩ := h
  obtain ⟨signature, annex, rfl⟩ := List.length_eq_two.1 hlength
  obtain ⟨rest, hrest⟩ := List.head?_eq_some_iff.1 hdesignated
  rw [hrest] at hother
  exact ⟨hscriptSig, signature, annex, rest, hrest, hsignature, verifyBondInboxAnnex_magic hannex,
    hother⟩

theorem checkSourceOutput_eq_ok {actionIds actionIds' : List Uint256} {output : Child.CTxOut × ℕ}
    (hreturn : output.1.scriptPubKey.head? = some OP_RETURN)
    (h : checkSourceOutput N tx successor actionIds output = .ok actionIds') :
    ∃ marker, parseCanonicalBondInboxMarker N output.1.scriptPubKey successor = .ok marker ∧
      HoldsNothing N.toExchangeNetwork tx output.2 output.1 ∧
      verifyBondInboxMarkerSourceWitness N tx marker successor = .ok () ∧
      actionIds' = actionIds ++ [marker.actionId] := by
  rw [checkSourceOutput, if_neg (not_not.2 hreturn)] at h
  simp only [bind_eq_ok, rejectIf_eq_ok, pure_eq_ok, not_not] at h
  obtain ⟨marker, hmarker, _, hholds, _, -, _, -, _, -, _, hverify, rfl⟩ := h
  exact ⟨marker, hmarker, hholds, hverify, rfl⟩

/-- **A source has exactly one output that cannot be spent, its marker, and exactly one annex.** -/
theorem canonical_of_isCanonical
    (h : isCanonicalBondInboxSourceTransactionForProfile N tx successor = .ok ()) :
    ∃ output marker, CanonicalSource N successor tx output marker := by
  simp only [isCanonicalBondInboxSourceTransactionForProfile, bind_eq_ok, rejectIf_eq_ok, not_or,
    not_not, not_lt] at h
  obtain ⟨_, ⟨-, -, -, -, -, -, hentries, hwitnessCap, htransactionCap⟩, _,
    ⟨hcoinBase, -, -, -, hpegin⟩, _, ⟨-, htransaction⟩, _, ⟨-, hwitness⟩, actionIds, hfold,
    hone⟩ := h
  have hskip : ∀ ids (output : Child.CTxOut × ℕ),
      ¬output.1.scriptPubKey.head? = some OP_RETURN →
        checkSourceOutput N tx successor ids output = pure ids :=
    fun ids output hne => if_pos hne
  rw [← foldlM_filter hskip] at hfold
  change (returnOutputs tx).foldlM _ _ = _ at hfold
  have hreturn : ∀ output ∈ returnOutputs tx, output.1.scriptPubKey.head? = some OP_RETURN :=
    fun output houtput => of_decide_eq_true (List.mem_filter.1 houtput).2
  have hlength : actionIds.length = (returnOutputs tx).length := by
    refine foldlM_induction hfold rfl ?_
    intro done output ids ids' hdone hids hstep
    obtain ⟨marker, -, -, -, rfl⟩ := checkSourceOutput_eq_ok (hreturn _ (hdone.subset (by simp)))
      hstep
    simp [hids]
  obtain ⟨output, houtput⟩ := List.length_eq_one_iff.1 (hlength.symm.trans hone)
  rw [houtput, foldlM_cons_eq_ok] at hfold
  obtain ⟨ids, hstep, -⟩ := hfold
  obtain ⟨marker, hparsed, hholds, hverify, -⟩ :=
    checkSourceOutput_eq_ok (hreturn _ (by simp [houtput])) hstep
  obtain ⟨hscriptSig, hdesignated⟩ := designated_of_verify hverify
  exact ⟨output, marker, {
    not_coinBase := hcoinBase
    not_pegin := fun input hinput => by simpa using fun h => hpegin ⟨input, hinput, .inl h⟩
    entries := hentries
    witnessCap := hwitnessCap
    transactionCap := htransactionCap
    witnessBytes := hwitnessCap ▸ hwitness
    transactionBytes := htransactionCap ▸ htransaction
    returns := houtput
    parsed := hparsed
    holds := hholds
    scriptSig := hscriptSig
    designated := hdesignated }⟩

end Spec

end ElementsDrivechain.Ecx
