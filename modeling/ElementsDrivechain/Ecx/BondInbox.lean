import ElementsDrivechain.Ecx.Bond
import ElementsDrivechain.Ecx.Inbox

/-!
# The bond inbox

The node keeps the bond inbox as a chain of hashes, to which every block appends the markers of its
sources.  A block may have only so many of them, and the bytes of the sources are bounded too, where
a source that stands in a block more than once counts once.

* `appendBondInboxSourcesForBlock_eq_ok` : **a block is accepted exactly if its sources are
  acceptable, and the inbox is then the one before it with the entries of the block appended.**
-/

namespace ElementsDrivechain.Ecx

open Fallible

variable {successor : Bool} {count : ℕ}

/-! ### Entries -/

/-- The head of the bond inbox, and how many entries it has. -/
structure BondInbox where
  head : Uint256 := 0
  count : ℕ := 0
deriving DecidableEq

/-- What is remembered of the capital. -/
structure BondV2CapitalSnapshot where
  /-- Zero for the finite profile, one for its successor. -/
  proofProfile : UInt8 := 0
  exchangeStateRoot : Uint256 := 0
  configurationHash : Uint256 := 0
  /-- The inbox that the last proof committed to. -/
  bondInbox : BondInbox := {}
  /-- The inbox as the node derived it. -/
  nodeBondInbox : BondInbox := {}
deriving DecidableEq

/-- What is recorded of a source. -/
structure SourceFacts where
  txid : Uint256
  transactionLen : ℕ
  witnessSha256 : Uint256
  witnessLen : ℕ
deriving DecidableEq

/-- The block that sources stand in. -/
structure BondContext where
  blockHash : Uint256
  sidechainHeight : ℕ
  /-- The height of the parent chain that the block saw. -/
  parentHeight : ℕ

/-- The bytes of an entry. -/
def BOND_ENTRY_SIZE : ℕ := 700

/-- An entry of the bond inbox. -/
structure BondEntry extends BondContext, SourceFacts where
  wtxid : Uint256
  transactionIndex : ℕ
  outputIndex : ℕ
  /-- The payload of the marker. -/
  payload : Bytes

/-- The bytes of an entry that follows an inbox. -/
def BondEntry.bytes (inbox : BondInbox) (entry : BondEntry) : Bytes :=
  1 :: (writeBE 8 inbox.count ++ (inbox.head.data ++
    (writeBE 8 entry.sidechainHeight ++ (writeBE 8 entry.parentHeight ++ (entry.blockHash.data ++
    (entry.txid.data ++ (entry.wtxid.data ++ (writeBE 4 entry.transactionLen ++
    (entry.witnessSha256.data ++ (writeBE 4 entry.witnessLen ++
    (writeBE 4 entry.transactionIndex ++ (writeBE 4 entry.outputIndex ++
      entry.payload.drop 4))))))))))))

/-- Append an entry. -/
def BondInbox.append (C : ExchangeCrypto) (inbox : BondInbox) (entry : BondEntry) : BondInbox where
  head := taggedHash C "ECX/bond-inbox-step/v2" (inbox.head.data ++ (writeBE 8 inbox.count ++
    (taggedHash C "ECX/bond-inbox-entry/v2" (entry.bytes inbox)).data))
  count := inbox.count + 1

/-- Append entries. -/
def BondInbox.appendAll (C : ExchangeCrypto) (inbox : BondInbox) (entries : List BondEntry) :
    BondInbox :=
  entries.foldl (BondInbox.append C) inbox

/-- The transaction has an output with the magic bytes of a marker. -/
def HasBondMarker (tx : Child.CTransaction) : Prop :=
  ∃ output ∈ tx.vout, ScriptContainsMagic output.scriptPubKey BOND_MAGIC
deriving Decidable

/-- The walk over the transactions of a block. -/
structure BondScan where
  /-- The sources so far, with the hashes of their witnesses. -/
  uniqueSources : List (Uint256 × SourceFacts) := []
  aggregateWitnessBytes : ℕ := 0
  aggregateTransactionBytes : ℕ := 0
  markerCount : ℕ := 0
  inbox : BondInbox
deriving DecidableEq

section Model

variable (N : BondNetwork) (context : BondContext)

/-- What is recorded of a transaction. -/
def sourceFacts (tx : Child.CTransaction) : SourceFacts where
  txid := tx.hash
  transactionLen := (N.serialize tx).length
  witnessSha256 := N.sha256 (N.serializeWitness tx)
  witnessLen := (N.serializeWitness tx).length

/-- The entry of a marker. -/
def bondEntry (source : Child.CTransaction × ℕ) (outputIndex : ℕ) (payload : Bytes) :
    BondEntry where
  toBondContext := context
  toSourceFacts := sourceFacts N source.1
  wtxid := N.witnessHash source.1
  transactionIndex := source.2
  outputIndex := outputIndex
  payload := payload

namespace BondScan

/-- Count the bytes of a source that was not seen before. -/
def takeSource (scan : BondScan) (tx : Child.CTransaction) : Except String BondScan := do
  let facts := sourceFacts N tx
  rejectIf (UINT32_MAX < facts.transactionLen ∨ UINT32_MAX < facts.witnessLen)
    "ECX bond-inbox source serialization length overflows u32"
  match scan.uniqueSources.find? (·.1 = N.witnessHash tx) with
  | some seen =>
    rejectIf (seen.2 ≠ facts) "ECX bond-inbox duplicate wtxid has inconsistent source facts"
    return scan
  | none =>
    rejectIf (UINT32_MAX - facts.witnessLen < scan.aggregateWitnessBytes ∨
        UINT32_MAX - facts.transactionLen < scan.aggregateTransactionBytes)
      "ECX bond-inbox block source byte accounting overflowed"
    rejectIf (N.frozen.bondInboxMaxUniqueSourceWitnessBytesPerSidechainBlock <
          scan.aggregateWitnessBytes + facts.witnessLen ∨
        N.frozen.bondInboxMaxUniqueSourceTransactionBytesPerSidechainBlock <
          scan.aggregateTransactionBytes + facts.transactionLen)
      "ECX bond-inbox block exceeds deduplicated source byte caps"
    return { scan with
      uniqueSources := scan.uniqueSources ++ [(N.witnessHash tx, facts)]
      aggregateWitnessBytes := scan.aggregateWitnessBytes + facts.witnessLen
      aggregateTransactionBytes := scan.aggregateTransactionBytes + facts.transactionLen }

/-- Append the marker of an output, if it is one. -/
def takeMarker (source : Child.CTransaction × ℕ) (scan : BondScan) (output : Child.CTxOut × ℕ) :
    Except String BondScan :=
  if ¬ScriptContainsMagic output.1.scriptPubKey BOND_MAGIC then pure scan
  else do
    let marker ← parseCanonicalBondInboxMarker N output.1.scriptPubKey false
    rejectIf (UINT64_MAX - N.frozen.bondInboxInclusionBlocks < context.parentHeight)
      "ECX bond-inbox process deadline overflows u64"
    rejectIf (marker.kind = 1 ∧
        (UINT64_MAX - N.frozen.bondInboxRefundMinimumParentBlocks < context.parentHeight ∨
          marker.refundNotBeforeParentHeight <
            context.parentHeight + N.frozen.bondInboxRefundMinimumParentBlocks))
      "ECX bond-inbox enqueue refund boundary is earlier than the frozen observed-parent delay"
    rejectIf (scan.markerCount = N.frozen.bondInboxMaxEntriesPerSidechainBlock ∨
        scan.inbox.count = UINT64_MAX ∨ UINT32_MAX < source.2 ∨ UINT32_MAX < output.2)
      "ECX bond-inbox block exceeds its marker/index bounds"
    let payload ← orReject (bondPush output.1.scriptPubKey)
      "ECX bond-inbox marker changed after source verification"
    let entry := bondEntry N context source output.2 payload
    rejectIf ((entry.bytes scan.inbox).length ≠ BOND_ENTRY_SIZE)
      "ECX bond-inbox node entry encoding length is not canonical"
    return { scan with
      markerCount := scan.markerCount + 1
      inbox := scan.inbox.append N.toExchangeCrypto entry }

/-- Append the markers of a transaction. -/
def transaction (scan : BondScan) (source : Child.CTransaction × ℕ) : Except String BondScan :=
  if ¬HasBondMarker source.1 then pure scan
  else do
    (isCanonicalBondInboxSourceTransaction N source.1).mapError
      ("invalid ECX bond-inbox source transaction: " ++ ·)
    let scan ← scan.takeSource N source.1
    source.1.vout.zipIdx.foldlM (takeMarker N context source) scan

end BondScan

/-- Append the sources of a block. -/
def appendBondInboxSourcesForBlock (block : Child.CBlock) (sidechainHeight observedParentHeight : ℕ)
    (snapshot : BondV2CapitalSnapshot) : Except String BondV2CapitalSnapshot := do
  rejectIf (sidechainHeight = 0 ∨ observedParentHeight = 0 ∨ snapshot.nodeBondInbox.head = 0 ∨
      snapshot.nodeBondInbox.count < snapshot.bondInbox.count)
    "ECX bond-inbox source tracker has no canonical predecessor"
  rejectIf (UINT64_MAX < snapshot.nodeBondInbox.count)
    "finite ECX bond-inbox source tracker exceeds its u64 wire"
  let scan ← block.vtx.zipIdx.foldlM (BondScan.transaction N {
    blockHash := block.hash
    sidechainHeight := sidechainHeight
    parentHeight := observedParentHeight }) { inbox := snapshot.nodeBondInbox }
  return { snapshot with nodeBondInbox := scan.inbox }

/-! ### What the sources of a block have to satisfy -/

/-- The transactions of a block with the magic bytes of a marker, and their positions. -/
def bondSources (vtx : List Child.CTransaction) : List (Child.CTransaction × ℕ) :=
  vtx.zipIdx.filter fun source => HasBondMarker source.1

/-- The entries of a source. -/
def sourceEntries (source : Child.CTransaction × ℕ) : List BondEntry :=
  (source.1.vout.zipIdx.filter fun output =>
    ScriptContainsMagic output.1.scriptPubKey BOND_MAGIC).map fun output =>
      bondEntry N context source output.2 ((bondPush output.1.scriptPubKey).getD [])

/-- The entries of a block. -/
def bondEntries (vtx : List Child.CTransaction) : List BondEntry :=
  (bondSources vtx).flatMap (sourceEntries N context)

/-- Take note of a source that was not seen before. -/
def addUnique (seen : List (Uint256 × SourceFacts)) (source : Child.CTransaction × ℕ) :
    List (Uint256 × SourceFacts) :=
  if (seen.find? (·.1 = N.witnessHash source.1)).isSome then seen
  else seen ++ [(N.witnessHash source.1, sourceFacts N source.1)]

/-- The sources that have different witnesses. -/
def distinctSources (sources : List (Child.CTransaction × ℕ)) : List (Uint256 × SourceFacts) :=
  sources.foldl (addUnique N) []

/-- The bytes of the witnesses of some sources. -/
def sourcesWitnessBytes (sources : List (Child.CTransaction × ℕ)) : ℕ :=
  ((distinctSources N sources).map (·.2.witnessLen)).sum

/-- The bytes of some sources. -/
def sourcesTransactionBytes (sources : List (Child.CTransaction × ℕ)) : ℕ :=
  ((distinctSources N sources).map (·.2.transactionLen)).sum

/-- **The sources of a block can be appended to an inbox with the given number of entries.** -/
structure AcceptableSources (count : ℕ) (sources : List (Child.CTransaction × ℕ)) : Prop where
  canonical : ∀ s ∈ sources, isCanonicalBondInboxSourceTransaction N s.1 = .ok ()
  /-- Sources with the same witness are the same. -/
  consistent : ∀ s ∈ sources, ∀ s' ∈ sources, N.witnessHash s.1 = N.witnessHash s'.1 →
    sourceFacts N s.1 = sourceFacts N s'.1
  witnessBytes : sourcesWitnessBytes N sources ≤
    N.frozen.bondInboxMaxUniqueSourceWitnessBytesPerSidechainBlock
  transactionBytes : sourcesTransactionBytes N sources ≤
    N.frozen.bondInboxMaxUniqueSourceTransactionBytesPerSidechainBlock
  /-- The deadline does not overflow. -/
  deadline : sources ≠ [] →
    context.parentHeight + N.frozen.bondInboxInclusionBlocks ≤ UINT64_MAX
  /-- Refunds are not possible too early. -/
  refund : ∀ s ∈ sources, ∀ output ∈ s.1.vout, ∀ marker,
    parseCanonicalBondInboxMarker N output.scriptPubKey false = .ok marker →
      marker.kind = 1 →
      context.parentHeight + N.frozen.bondInboxRefundMinimumParentBlocks ≤
        min UINT64_MAX marker.refundNotBeforeParentHeight
  entries : sources.length ≤ N.frozen.bondInboxMaxEntriesPerSidechainBlock
  /-- The inbox does not overflow. -/
  room : count + sources.length ≤ UINT64_MAX
  index : ∀ s ∈ sources, s.2 ≤ UINT32_MAX

end Model

section Spec

variable {N : BondNetwork} {context : BondContext} {scan scan' : BondScan}
  {tx : Child.CTransaction} {source : Child.CTransaction × ℕ} {output : Child.CTxOut × ℕ}
  {marker : ParsedBondInboxMarker} {sources : List (Child.CTransaction × ℕ)} {inbox : BondInbox}

/-! #### Markers -/

section Markers

variable (h : CanonicalSource N successor tx output marker)

include h

theorem CanonicalSource.markers :
    (tx.vout.zipIdx.filter fun o => ScriptContainsMagic o.1.scriptPubKey BOND_MAGIC) =
      [output] := by
  obtain ⟨payload, hpayload⟩ := payload_of_parse h.parsed
  have hmagic := containsMagic_of_bondMarkerPayload hpayload
  have hfilter : (returnOutputs tx).filter
      (fun o => ScriptContainsMagic o.1.scriptPubKey BOND_MAGIC) =
        tx.vout.zipIdx.filter fun o => ScriptContainsMagic o.1.scriptPubKey BOND_MAGIC := by
    rw [returnOutputs, List.filter_filter]
    refine List.filter_congr fun o _ => ?_
    simp only [← Bool.decide_and, decide_eq_decide]
    exact ⟨fun h => h.1, fun h => ⟨h, h.1⟩⟩
  rw [← hfilter, h.returns]
  simp [hmagic]

theorem CanonicalSource.mem_markers :
    output ∈ tx.vout.zipIdx ∧ ScriptContainsMagic output.1.scriptPubKey BOND_MAGIC := by
  have hmem : output ∈ [output] := List.mem_singleton_self output
  rw [← h.markers, List.mem_filter] at hmem
  exact ⟨hmem.1, of_decide_eq_true hmem.2⟩

theorem CanonicalSource.hasBondMarker : HasBondMarker tx :=
  ⟨output.1, List.fst_mem_of_mem_zipIdx h.mem_markers.1, h.mem_markers.2⟩

theorem CanonicalSource.output_lt : output.2 ≤ UINT32_MAX := by
  have hlt : output.2 < tx.vout.length := by simpa using (List.mem_zipIdx h.mem_markers.1).2.1
  have := tx.vout_length_lt
  unfold UINT32_MAX
  omega

theorem CanonicalSource.push :
    ∃ payload, bondPush output.1.scriptPubKey = some payload ∧ payload.length = MARKER_LEN := by
  obtain ⟨payload, hpayload⟩ := payload_of_parse h.parsed
  obtain ⟨hpush, -⟩ := bondMarkerPayload_eq_some hpayload
  exact ⟨payload, hpush, (bondPush_eq_some hpush).2⟩

end Markers

theorem BondEntry.length_bytes (inbox : BondInbox) {entry : BondEntry}
    (h : entry.payload.length = MARKER_LEN) : (entry.bytes inbox).length = BOND_ENTRY_SIZE := by
  simp only [bytes, List.length_cons, List.length_append, length_writeBE, Uint256.size_data,
    List.length_drop, h, MARKER_LEN, BOND_ENTRY_SIZE]

/-- The marker of a source is appended if it is in time and there is room for it. -/
theorem BondScan.takeMarker_eq_ok (h : CanonicalSource N false source.1 output marker) :
    scan.takeMarker N context source output = .ok scan' ↔
      (¬UINT64_MAX - N.frozen.bondInboxInclusionBlocks < context.parentHeight ∧
      ¬(marker.kind = 1 ∧
        (UINT64_MAX - N.frozen.bondInboxRefundMinimumParentBlocks < context.parentHeight ∨
          marker.refundNotBeforeParentHeight <
            context.parentHeight + N.frozen.bondInboxRefundMinimumParentBlocks)) ∧
      scan.markerCount ≠ N.frozen.bondInboxMaxEntriesPerSidechainBlock ∧
      scan.inbox.count ≠ UINT64_MAX ∧ source.2 ≤ UINT32_MAX) ∧
      scan' = { scan with
        markerCount := scan.markerCount + 1
        inbox := scan.inbox.appendAll N.toExchangeCrypto (sourceEntries N context source) } := by
  obtain ⟨payload, hpush, hlength⟩ := h.push
  have hentries : sourceEntries N context source =
      [bondEntry N context source output.2 payload] := by
    rw [sourceEntries, h.markers, List.map_singleton, hpush, Option.getD_some]
  have hsize : ((bondEntry N context source output.2 payload).bytes scan.inbox).length =
      BOND_ENTRY_SIZE := BondEntry.length_bytes scan.inbox hlength
  have houtput := h.output_lt
  rw [takeMarker, if_neg (not_not.2 h.mem_markers.2), h.parsed, hpush, hentries]
  change (rejectIf _ _ >>= _) = _ ↔ _
  simp only [bind_eq_ok, rejectIf_eq_ok, orReject_eq_ok, pure_eq_ok, Option.some.injEq,
    exists_eq_left', exists_and_left, exists_const, hsize,
    BondInbox.appendAll, List.foldl_cons, List.foldl_nil, not_or, not_lt, houtput, and_true]
  constructor
  · rintro ⟨h₁, h₂, ⟨h₃, h₄, h₅⟩, -, rfl⟩
    exact ⟨⟨h₁, h₂, h₃, h₄, h₅⟩, rfl⟩
  · rintro ⟨⟨h₁, h₂, h₃, h₄, h₅⟩, rfl⟩
    exact ⟨h₁, h₂, ⟨h₃, h₄, h₅⟩, not_not.2 rfl, rfl⟩

/-! #### Sources that were seen before -/

theorem distinctSources_concat : distinctSources N (sources ++ [source]) =
    addUnique N (distinctSources N sources) source := by
  simp [distinctSources]

theorem distinctSources_spec (sources : List (Child.CTransaction × ℕ)) :
    (∀ e ∈ distinctSources N sources, ∃ s ∈ sources,
      e = (N.witnessHash s.1, sourceFacts N s.1)) ∧
    ∀ s ∈ sources, ∃ e ∈ distinctSources N sources, e.1 = N.witnessHash s.1 := by
  induction sources using List.reverseRecOn with
  | nil => exact ⟨by simp [distinctSources], by simp⟩
  | append_singleton sources source ih =>
    obtain ⟨hsound, hcomplete⟩ := ih
    rw [distinctSources_concat, addUnique]
    split_ifs with hseen
    · refine ⟨fun e he => ?_, fun s hs => ?_⟩
      · obtain ⟨s, hs, heq⟩ := hsound e he
        exact ⟨s, List.mem_append_left _ hs, heq⟩
      · rcases List.mem_append.1 hs with hs | hs
        · exact hcomplete s hs
        · obtain ⟨e, he⟩ := Option.isSome_iff_exists.1 hseen
          rw [List.mem_singleton.1 hs]
          exact ⟨e, List.mem_of_find?_eq_some he, by simpa using List.find?_some he⟩
    · refine ⟨fun e he => ?_, fun s hs => ?_⟩
      · rcases List.mem_append.1 he with he | he
        · obtain ⟨s, hs, heq⟩ := hsound e he
          exact ⟨s, List.mem_append_left _ hs, heq⟩
        · exact ⟨source, by simp, List.mem_singleton.1 he⟩
      · rcases List.mem_append.1 hs with hs | hs
        · obtain ⟨e, he, heq⟩ := hcomplete s hs
          exact ⟨e, List.mem_append_left _ he, heq⟩
        · rw [List.mem_singleton.1 hs]
          exact ⟨_, List.mem_append_right _ (List.mem_singleton_self _), rfl⟩

/-- The state of the walk after some sources. -/
def BondScan.after (N : BondNetwork) (context : BondContext) (inbox : BondInbox)
    (sources : List (Child.CTransaction × ℕ)) : BondScan where
  uniqueSources := distinctSources N sources
  aggregateWitnessBytes := sourcesWitnessBytes N sources
  aggregateTransactionBytes := sourcesTransactionBytes N sources
  markerCount := sources.length
  inbox := inbox.appendAll N.toExchangeCrypto (sources.flatMap (sourceEntries N context))

theorem BondScan.takeSource_after {i : ℕ} (h : CanonicalSource N false tx output marker)
    (hconsistent : ∀ s ∈ sources, ∀ s' ∈ sources, N.witnessHash s.1 = N.witnessHash s'.1 →
      sourceFacts N s.1 = sourceFacts N s'.1)
    (hwitness : sourcesWitnessBytes N sources ≤
      N.frozen.bondInboxMaxUniqueSourceWitnessBytesPerSidechainBlock)
    (htransaction : sourcesTransactionBytes N sources ≤
      N.frozen.bondInboxMaxUniqueSourceTransactionBytesPerSidechainBlock) :
    (BondScan.after N context inbox sources).takeSource N tx = .ok scan' ↔
      ((∀ s ∈ sources, N.witnessHash s.1 = N.witnessHash tx →
        sourceFacts N s.1 = sourceFacts N tx) ∧
      sourcesWitnessBytes N (sources ++ [(tx, i)]) ≤
        N.frozen.bondInboxMaxUniqueSourceWitnessBytesPerSidechainBlock ∧
      sourcesTransactionBytes N (sources ++ [(tx, i)]) ≤
        N.frozen.bondInboxMaxUniqueSourceTransactionBytesPerSidechainBlock) ∧
      scan' = { BondScan.after N context inbox sources with
        uniqueSources := distinctSources N (sources ++ [(tx, i)])
        aggregateWitnessBytes := sourcesWitnessBytes N (sources ++ [(tx, i)])
        aggregateTransactionBytes := sourcesTransactionBytes N (sources ++ [(tx, i)]) } := by
  obtain ⟨hsound, hcomplete⟩ := distinctSources_spec (N := N) sources
  have hlength : ¬(UINT32_MAX < (sourceFacts N tx).transactionLen ∨
      UINT32_MAX < (sourceFacts N tx).witnessLen) := by
    have h₁ := h.transactionBytes
    have h₂ := h.witnessBytes
    simp only [sourceFacts, UINT32_MAX, not_or, not_lt]
    omega
  simp only [takeSource]
  rw [rejectIf_of_not hlength, pure_bind]
  have hafter : (BondScan.after N context inbox sources).uniqueSources =
    distinctSources N sources := rfl
  rw [hafter]
  cases hfind : (distinctSources N sources).find? (·.1 = N.witnessHash tx) with
  | some seen =>
    -- The witness was seen before: nothing is counted, and the facts have to be the same.
    obtain ⟨s, hs, rfl⟩ := hsound seen (List.mem_of_find?_eq_some hfind)
    have hhash : N.witnessHash s.1 = N.witnessHash tx := by simpa using List.find?_some hfind
    have hunique : distinctSources N (sources ++ [(tx, i)]) = distinctSources N sources := by
      rw [distinctSources_concat, addUnique, if_pos (by simp [hfind])]
    have hall : (∀ s' ∈ sources, N.witnessHash s'.1 = N.witnessHash tx →
        sourceFacts N s'.1 = sourceFacts N tx) ↔ sourceFacts N s.1 = sourceFacts N tx :=
      ⟨fun hall => hall s hs hhash, fun heq s' hs' hhash' =>
        (hconsistent s' hs' s hs (hhash'.trans hhash.symm)).trans heq⟩
    simp only [bind_eq_ok, rejectIf_eq_ok, pure_eq_ok, not_not, exists_const, hall,
      sourcesWitnessBytes, sourcesTransactionBytes, hunique]
    constructor
    · rintro ⟨heq, rfl⟩
      exact ⟨⟨heq, hwitness, htransaction⟩, rfl⟩
    · rintro ⟨⟨heq, -, -⟩, rfl⟩
      exact ⟨heq, rfl⟩
  | none =>
    -- A new witness counts, and the caps keep the sums within 32 bits.
    have hnone : ∀ s ∈ sources, N.witnessHash s.1 ≠ N.witnessHash tx := by
      intro s hs hhash
      obtain ⟨e, he, heq⟩ := hcomplete s hs
      exact absurd (heq.trans hhash) (by simpa using List.find?_eq_none.1 hfind e he)
    have hunique : distinctSources N (sources ++ [(tx, i)]) =
        distinctSources N sources ++ [(N.witnessHash tx, sourceFacts N tx)] := by
      rw [distinctSources_concat, addUnique, if_neg (by simp [hfind])]
    have hwitnessBytes : sourcesWitnessBytes N (sources ++ [(tx, i)]) =
        sourcesWitnessBytes N sources + (sourceFacts N tx).witnessLen := by
      simp [sourcesWitnessBytes, hunique]
    have htransactionBytes : sourcesTransactionBytes N (sources ++ [(tx, i)]) =
        sourcesTransactionBytes N sources + (sourceFacts N tx).transactionLen := by
      simp [sourcesTransactionBytes, hunique]
    have hcaps := And.intro h.witnessCap h.transactionCap
    simp only [bind_eq_ok, rejectIf_eq_ok, pure_eq_ok, exists_and_left, exists_const,
      hwitnessBytes, htransactionBytes, hunique, not_or, not_lt]
    constructor
    · rintro ⟨-, ⟨h₁, h₂⟩, rfl⟩
      exact ⟨⟨fun s hs hhash => absurd hhash (hnone s hs), h₁, h₂⟩, rfl⟩
    · rintro ⟨⟨-, h₁, h₂⟩, rfl⟩
      refine ⟨?_, ⟨h₁, h₂⟩, rfl⟩
      change _ ≤ UINT32_MAX - _ ∧ _ ≤ UINT32_MAX - _
      rw [hcaps.1] at h₁
      rw [hcaps.2] at h₂
      simp only [UINT32_MAX, after]
      omega

/-! #### Blocks -/

theorem BondInbox.count_appendAll (C : ExchangeCrypto) (inbox : BondInbox)
    (entries : List BondEntry) :
    (inbox.appendAll C entries).count = inbox.count + entries.length := by
  induction entries generalizing inbox with
  | nil => rfl
  | cons entry entries ih =>
    rw [appendAll, List.foldl_cons, ← appendAll, ih, List.length_cons, append]
    dsimp only
    omega

theorem BondInbox.appendAll_append (C : ExchangeCrypto) (inbox : BondInbox)
    (entries entries' : List BondEntry) :
    inbox.appendAll C (entries ++ entries') = (inbox.appendAll C entries).appendAll C entries' :=
  List.foldl_append

theorem CanonicalSource.length_sourceEntries
    (h : CanonicalSource N successor source.1 output marker) :
    (sourceEntries N context source).length = 1 := by
  rw [sourceEntries, h.markers, List.map_singleton, List.length_singleton]

theorem length_entries_of_canonical
    (h : ∀ s ∈ sources, isCanonicalBondInboxSourceTransaction N s.1 = .ok ()) :
    (sources.flatMap (sourceEntries N context)).length = sources.length := by
  induction sources with
  | nil => rfl
  | cons source sources ih =>
    rw [List.forall_mem_cons] at h
    obtain ⟨output, marker, hcanonical⟩ := canonical_of_isCanonical h.1
    rw [List.flatMap_cons, List.length_append, hcanonical.length_sourceEntries, ih h.2,
      List.length_cons, Nat.add_comm]

theorem CanonicalSource.parse_iff {o : Child.CTxOut} {m : ParsedBondInboxMarker}
    (h : CanonicalSource N successor tx output marker) :
    (o ∈ tx.vout ∧ parseCanonicalBondInboxMarker N o.scriptPubKey successor = .ok m) ↔
      o = output.1 ∧ m = marker := by
  constructor
  · rintro ⟨ho, hparse⟩
    obtain ⟨payload, hpayload⟩ := payload_of_parse hparse
    have hmagic := containsMagic_of_bondMarkerPayload hpayload
    obtain ⟨i, hi⟩ := List.mem_iff_getElem?.1 ho
    have hmem : (o, i) ∈ tx.vout.zipIdx.filter
        fun o => ScriptContainsMagic o.1.scriptPubKey BOND_MAGIC :=
      List.mem_filter.2 ⟨List.mk_mem_zipIdx_iff_getElem?.2 hi, decide_eq_true hmagic⟩
    rw [h.markers, List.mem_singleton] at hmem
    subst hmem
    rw [h.parsed] at hparse
    exact ⟨rfl, (Except.ok.inj hparse).symm⟩
  · rintro ⟨rfl, rfl⟩
    exact ⟨List.fst_mem_of_mem_zipIdx h.mem_markers.1, h.parsed⟩

theorem acceptableSources_concat
    (hcanonical : isCanonicalBondInboxSourceTransaction N source.1 = .ok ())
    (h : CanonicalSource N false source.1 output marker)
    (hacc : AcceptableSources N context count sources) :
    AcceptableSources N context count (sources ++ [source]) ↔
      ((∀ s ∈ sources, N.witnessHash s.1 = N.witnessHash source.1 →
        sourceFacts N s.1 = sourceFacts N source.1) ∧
      sourcesWitnessBytes N (sources ++ [source]) ≤
        N.frozen.bondInboxMaxUniqueSourceWitnessBytesPerSidechainBlock ∧
      sourcesTransactionBytes N (sources ++ [source]) ≤
        N.frozen.bondInboxMaxUniqueSourceTransactionBytesPerSidechainBlock) ∧
      ¬UINT64_MAX - N.frozen.bondInboxInclusionBlocks < context.parentHeight ∧
      ¬(marker.kind = 1 ∧
        (UINT64_MAX - N.frozen.bondInboxRefundMinimumParentBlocks < context.parentHeight ∨
          marker.refundNotBeforeParentHeight <
            context.parentHeight + N.frozen.bondInboxRefundMinimumParentBlocks)) ∧
      sources.length ≠ N.frozen.bondInboxMaxEntriesPerSidechainBlock ∧
      count + sources.length ≠ UINT64_MAX ∧ source.2 ≤ UINT32_MAX := by
  have hinclusion := N.frozen.inclusion_lt
  have hdelay := N.frozen.refund_lt
  have hmax : 2 ^ 32 ≤ UINT64_MAX := by decide
  have hentries := hacc.entries
  have hroom := hacc.room
  have hmem : source ∈ sources ++ [source] := by simp
  constructor
  · intro hall
    have hdeadline := hall.deadline (by simp)
    obtain ⟨ho, hparse⟩ := h.parse_iff.2 ⟨rfl, rfl⟩
    have hrefund := hall.refund source hmem output.1 ho marker hparse
    have hlength := hall.entries
    have hcount := hall.room
    rw [List.length_append, List.length_singleton] at hlength hcount
    refine ⟨⟨fun s hs => hall.consistent s (by simp [hs]) source hmem, hall.witnessBytes,
      hall.transactionBytes⟩, by omega, ?_, by omega, by omega, hall.index source hmem⟩
    rintro ⟨hkind, hlate⟩
    have hboth := le_min_iff.1 (hrefund hkind)
    omega
  · rintro ⟨⟨hconsistent, hwitness, htransaction⟩, hdeadline, hrefund, hlength, hcount, hindex⟩
    refine {
      canonical := ?_
      consistent := ?_
      witnessBytes := hwitness
      transactionBytes := htransaction
      deadline := fun _ => by omega
      refund := ?_
      entries := by rw [List.length_append, List.length_singleton]; omega
      room := by rw [List.length_append, List.length_singleton]; omega
      index := ?_ }
    · rw [List.forall_mem_append, List.forall_mem_singleton]
      exact ⟨hacc.canonical, hcanonical⟩
    · intro s hs s' hs' hhash
      rw [List.mem_append, List.mem_singleton] at hs hs'
      rcases hs with hs | rfl <;> rcases hs' with hs' | rfl
      · exact hacc.consistent s hs s' hs' hhash
      · exact hconsistent s hs hhash
      · exact (hconsistent s' hs' hhash.symm).symm
      · rfl
    · rw [List.forall_mem_append, List.forall_mem_singleton]
      refine ⟨hacc.refund, fun o ho m hm hkind => ?_⟩
      obtain ⟨rfl, rfl⟩ := h.parse_iff.1 ⟨ho, hm⟩
      simp only [not_and, not_or, not_lt] at hrefund
      obtain ⟨h₁, h₂⟩ := hrefund hkind
      exact le_min (by omega) h₂
    · rw [List.forall_mem_append, List.forall_mem_singleton]
      exact ⟨hacc.index, hindex⟩

theorem sourcesBytes_le_concat :
    sourcesWitnessBytes N sources ≤ sourcesWitnessBytes N (sources ++ [source]) ∧
      sourcesTransactionBytes N sources ≤ sourcesTransactionBytes N (sources ++ [source]) := by
  unfold sourcesWitnessBytes sourcesTransactionBytes
  rw [distinctSources_concat, addUnique]
  split_ifs
  · exact ⟨le_rfl, le_rfl⟩
  · simp

theorem AcceptableSources.of_concat (h : AcceptableSources N context count (sources ++ [source])) :
    AcceptableSources N context count sources := by
  have hmem : ∀ s ∈ sources, s ∈ sources ++ [source] := fun s hs => List.mem_append_left _ hs
  have hentries := h.entries
  have hroom := h.room
  rw [List.length_append, List.length_singleton] at hentries hroom
  exact {
    canonical := fun s hs => h.canonical s (hmem s hs)
    consistent := fun s hs s' hs' => h.consistent s (hmem s hs) s' (hmem s' hs')
    witnessBytes := sourcesBytes_le_concat.1.trans h.witnessBytes
    transactionBytes := sourcesBytes_le_concat.2.trans h.transactionBytes
    deadline := fun _ => h.deadline (by simp)
    refund := fun s hs => h.refund s (hmem s hs)
    entries := by omega
    room := by omega
    index := fun s hs => h.index s (hmem s hs) }

/-- One more source is appended if it fits to those before it. -/
theorem BondScan.transaction_after (hmarker : HasBondMarker source.1)
    (hacc : AcceptableSources N context inbox.count sources) :
    (BondScan.after N context inbox sources).transaction N context source = .ok scan' ↔
      AcceptableSources N context inbox.count (sources ++ [source]) ∧
        scan' = BondScan.after N context inbox (sources ++ [source]) := by
  rw [transaction, if_neg (not_not.2 hmarker)]
  by_cases hcanonical :
      isCanonicalBondInboxSourceTransaction N source.1 = .ok ()
  · obtain ⟨output, marker, h⟩ := canonical_of_isCanonical hcanonical
    have hskip : ∀ (scan : BondScan) (o : Child.CTxOut × ℕ),
        ¬ScriptContainsMagic o.1.scriptPubKey BOND_MAGIC →
          scan.takeMarker N context source o = pure scan := fun scan o ho => if_pos ho
    have hcount : (BondScan.after N context inbox sources).inbox.count =
        inbox.count + sources.length := by
      rw [after, BondInbox.count_appendAll, length_entries_of_canonical hacc.canonical]
    have hfold : ∀ mid : BondScan, source.1.vout.zipIdx.foldlM
        (takeMarker N context source) mid = mid.takeMarker N context source output := by
      intro mid
      rw [← foldlM_filter hskip, h.markers, List.foldlM_cons]
      exact bind_pure _
    rw [acceptableSources_concat hcanonical h hacc, hcanonical]
    simp only [bind_eq_ok, mapError_eq_ok, exists_const, true_and, hfold, takeMarker_eq_ok h,
      takeSource_after (i := source.2) h hacc.consistent hacc.witnessBytes hacc.transactionBytes]
    constructor
    · rintro ⟨mid, ⟨hsource, rfl⟩, hmarkers, rfl⟩
      refine ⟨⟨hsource, ?_⟩, ?_⟩
      · rw [← hcount]
        exact hmarkers
      · simp [after, BondInbox.appendAll_append]
    · rintro ⟨⟨hsource, hmarkers⟩, rfl⟩
      refine ⟨_, ⟨hsource, rfl⟩, ?_, ?_⟩
      · rw [← hcount] at hmarkers
        exact hmarkers
      · simp [after, BondInbox.appendAll_append]
  · constructor
    · intro hok
      obtain ⟨_, hok, -⟩ := bind_eq_ok.1 hok
      exact absurd (mapError_eq_ok.1 hok) hcanonical
    · rintro ⟨hall, -⟩
      exact absurd (hall.canonical source (by simp)) hcanonical

theorem acceptableSources_nil (hcount : count ≤ UINT64_MAX) :
    AcceptableSources N context count [] := by
  constructor <;> simp [sourcesWitnessBytes, sourcesTransactionBytes, distinctSources, hcount]

theorem foldlM_transaction_eq_ok (vtx : List Child.CTransaction)
    (hcount : inbox.count ≤ UINT64_MAX) :
    vtx.zipIdx.foldlM (BondScan.transaction N context) { inbox := inbox } = .ok scan ↔
      AcceptableSources N context inbox.count (bondSources vtx) ∧
        scan = BondScan.after N context inbox (bondSources vtx) := by
  have hskip : ∀ (scan : BondScan) (s : Child.CTransaction × ℕ),
      ¬HasBondMarker s.1 → scan.transaction N context s = pure scan := fun scan s hs => if_pos hs
  rw [← foldlM_filter hskip]
  change (bondSources vtx).foldlM _ _ = _ ↔ _
  have hmarkers : ∀ s ∈ bondSources vtx, HasBondMarker s.1 :=
    fun s hs => of_decide_eq_true (List.mem_filter.1 hs).2
  generalize bondSources vtx = sources at hmarkers ⊢
  induction sources using List.reverseRecOn generalizing scan with
  | nil =>
    rw [foldlM_nil_eq_ok]
    simp only [acceptableSources_nil hcount, true_and]
    exact eq_comm
  | append_singleton sources source ih =>
    rw [List.forall_mem_append, List.forall_mem_singleton] at hmarkers
    rw [foldlM_append_eq_ok]
    simp only [ih hmarkers.1, List.foldlM_cons, List.foldlM_nil, bind_pure]
    constructor
    · rintro ⟨mid, ⟨hacc, rfl⟩, hstep⟩
      exact (BondScan.transaction_after hmarkers.2 hacc).1 hstep
    · rintro ⟨hall, rfl⟩
      have hacc : AcceptableSources N context inbox.count sources := hall.of_concat
      exact ⟨_, ⟨hacc, rfl⟩, (BondScan.transaction_after hmarkers.2 hacc).2 ⟨hall, rfl⟩⟩

/-- There is an inbox that a block can append to. -/
structure HasPredecessor (sidechainHeight observedParentHeight : ℕ)
    (snapshot : BondV2CapitalSnapshot) : Prop where
  sidechainHeight : sidechainHeight ≠ 0
  parentHeight : observedParentHeight ≠ 0
  head : snapshot.nodeBondInbox.head ≠ 0
  /-- The proofs are not ahead of the node. -/
  count : snapshot.bondInbox.count ≤ snapshot.nodeBondInbox.count

theorem hasPredecessor_iff {sidechainHeight observedParentHeight : ℕ}
    {snapshot : BondV2CapitalSnapshot} :
    ¬(sidechainHeight = 0 ∨ observedParentHeight = 0 ∨ snapshot.nodeBondInbox.head = 0 ∨
        snapshot.nodeBondInbox.count < snapshot.bondInbox.count) ↔
      HasPredecessor sidechainHeight observedParentHeight snapshot := by
  simp only [not_or, not_lt]
  exact ⟨fun ⟨h₁, h₂, h₃, h₄⟩ => ⟨h₁, h₂, h₃, h₄⟩, fun ⟨h₁, h₂, h₃, h₄⟩ => ⟨h₁, h₂, h₃, h₄⟩⟩

/-- **A block is accepted exactly if its sources are acceptable**, and the inbox is then the one
before it with the entries of the block appended. -/
theorem appendBondInboxSourcesForBlock_eq_ok {block : Child.CBlock}
    {sidechainHeight observedParentHeight : ℕ} {snapshot snapshot' : BondV2CapitalSnapshot} :
    appendBondInboxSourcesForBlock N block sidechainHeight observedParentHeight snapshot =
        .ok snapshot' ↔
      HasPredecessor sidechainHeight observedParentHeight snapshot ∧
      AcceptableSources N ⟨block.hash, sidechainHeight, observedParentHeight⟩
        snapshot.nodeBondInbox.count (bondSources block.vtx) ∧
      snapshot' = { snapshot with
        nodeBondInbox := snapshot.nodeBondInbox.appendAll N.toExchangeCrypto
          (bondEntries N ⟨block.hash, sidechainHeight, observedParentHeight⟩ block.vtx) } := by
  simp only [appendBondInboxSourcesForBlock, bind_eq_ok, rejectIf_eq_ok, pure_eq_ok,
    hasPredecessor_iff, not_lt, exists_and_left, exists_const]
  constructor
  · rintro ⟨hpredecessor, hle, scan, hscan, rfl⟩
    obtain ⟨hacc, rfl⟩ := (foldlM_transaction_eq_ok block.vtx hle).1 hscan
    exact ⟨hpredecessor, hacc, rfl⟩
  · rintro ⟨hpredecessor, hacc, rfl⟩
    have hle : snapshot.nodeBondInbox.count ≤ UINT64_MAX := (Nat.le_add_right _ _).trans hacc.room
    exact ⟨hpredecessor, hle, _, (foldlM_transaction_eq_ok block.vtx hle).2 ⟨hacc, rfl⟩, rfl⟩

end Spec

end ElementsDrivechain.Ecx
