import ElementsDrivechain.Replay.DepositStatus

/-!
# The withdrawal history

The store keeps the payments of withdrawal bundles under two kinds of keys: the first payment of a
bundle under its slot and identifier, and, under the layout that lets a bundle be proposed again,
every payment under slot, identifier and height.  One batch writes both, and what counts as a
duplicate depends on the layout.  This file says what the two queries answer after any history of
appends.

* `RecordsPayments.step` : an append extends the history by its block.
* `withdrawalHistory_faithful` : the answers are those of the history.
-/

namespace ElementsDrivechain

namespace DrivechainParentReplayStore

variable (store : DrivechainParentReplayStore)

/-- Read the first payment of a bundle. -/
def readSuccessfulWithdrawal (outcome : ReadOutcome) (sidechainSlot : UInt8) (m6id : Uint256) :
    DrivechainReplayStoreReadStatus DrivechainSuccessfulWithdrawal :=
  if ¬store.isOpen then .CORRUPT "persistent parent replay database is not open"
  else
    match outcome, store.records.successfulWithdrawals[
        ({ sidechainSlot := sidechainSlot, m6id := m6id } : SuccessfulWithdrawalKey)]? with
    | .failed e, _ => .CORRUPT s!"persistent parent replay successful-withdrawal read failed: {e}"
    | _, none => .NOT_FOUND
    | .malformed, some _ =>
      .CORRUPT "persistent parent replay successful withdrawal record is malformed"
    | .answered, some withdrawal =>
      if ¬IsSaneSuccessfulWithdrawal withdrawal ∨ withdrawal.sidechainSlot ≠ sidechainSlot ∨
          withdrawal.m6id ≠ m6id then
        .CORRUPT
          "persistent parent replay successful-withdrawal record is internally inconsistent"
      else .FOUND withdrawal

/-- Read the payment of a bundle at a height. -/
def readSuccessfulWithdrawalAtHeight (outcome : ReadOutcome) (sidechainSlot : UInt8)
    (m6id : Uint256) (height : ℕ) :
    DrivechainReplayStoreReadStatus DrivechainSuccessfulWithdrawal :=
  if ¬store.isOpen ∨ store.schemaVersion ≠ REPROPOSAL_SCHEMA_VERSION then
    .CORRUPT "withdrawal occurrence lookup requires the re-proposal replay schema"
  else
    match outcome, store.records.occurrences[
        ({ withdrawal := { sidechainSlot := sidechainSlot, m6id := m6id }, height := height } :
          WithdrawalOccurrenceKey)]? with
    | .failed e, _ => .CORRUPT s!"withdrawal occurrence read failed: {e}"
    | _, none => .NOT_FOUND
    | .malformed, some _ =>
      .CORRUPT "persistent parent replay withdrawal occurrence record is malformed"
    | .answered, some withdrawal =>
      if ¬IsSaneSuccessfulWithdrawal withdrawal ∨ withdrawal.sidechainSlot ≠ sidechainSlot ∨
          withdrawal.m6id ≠ m6id ∨ withdrawal.blockHeight ≠ height then
        .CORRUPT "persistent parent replay withdrawal occurrence is internally inconsistent"
      else .FOUND withdrawal

end DrivechainParentReplayStore

/-- The answer to a query whose record is intact. -/
def DrivechainReplayStoreReadStatus.ofOption {α : Type} :
    Option α → DrivechainReplayStoreReadStatus α
  | none => .NOT_FOUND
  | some record => .FOUND record

namespace DrivechainReplayStoreReadStatus

variable {α : Type} {o : Option α} {record : α}

@[simp] theorem ofOption_eq_FOUND : ofOption o = .FOUND record ↔ o = some record := by
  cases o <;> simp [ofOption]

@[simp] theorem ofOption_eq_NOT_FOUND : ofOption o = .NOT_FOUND ↔ o = none := by
  cases o <;> simp [ofOption]

end DrivechainReplayStoreReadStatus

/-! ### Histories -/

/-- The successful appends to a store, one after the other. -/
abbrev AppendRun (stateHash : DrivechainParentReplayState → Uint256) :
    DrivechainParentReplayStore → List ReplayAppend → DrivechainParentReplayStore → Prop :=
  Run fun store block store' => ∃ writes, store.append stateHash writes block = .ok store'

/-- The payments of a history, in its order. -/
def paidBy (ls : List ReplayAppend) : List DrivechainSuccessfulWithdrawal :=
  ls.flatMap (·.successfulWithdrawals)

/-- The block does not propose a bundle that the earlier block paid. -/
def NoReproposal (earlier later : ReplayAppend) : Prop :=
  ∀ w ∈ earlier.successfulWithdrawals, ∀ q ∈ later.withdrawalProposals, q.key ≠ w.key

/-- What a store with a layout records of a history. -/
structure RecordsPayments (schemaVersion : ℕ) (ls : List ReplayAppend)
    (store : DrivechainParentReplayStore) : Prop where
  isOpen : store.isOpen = true
  layout : store.schemaVersion = schemaVersion
  sane : ∀ block ∈ ls, ∀ w ∈ block.successfulWithdrawals,
    IsSaneSuccessfulWithdrawal w ∧ w.blockHeight = block.next.height
  /-- The first payment of each bundle. -/
  first (k : SuccessfulWithdrawalKey) :
    store.records.successfulWithdrawals[k]? = (paidBy ls).find? (·.key = k)
  /-- All payments, under the new layout. -/
  occurrences : schemaVersion = REPROPOSAL_SCHEMA_VERSION →
    ∀ (k : WithdrawalOccurrenceKey) w, store.records.occurrences[k]? = some w ↔ w ∈ paidBy ls ∧
      k = { withdrawal := w.key, height := w.blockHeight }
  /-- Under the old layout no bundle is paid twice. -/
  unique : schemaVersion = SCHEMA_VERSION → ((paidBy ls).map (·.key)).Nodup
  proposals : schemaVersion = SCHEMA_VERSION → ls.Pairwise NoReproposal

section History

variable {stateHash : DrivechainParentReplayState → Uint256} {schemaVersion : ℕ}
  {ls : List ReplayAppend} {store store' : DrivechainParentReplayStore} {block : ReplayAppend}
  {sidechainSlot : UInt8} {m6id : Uint256} {height : ℕ}

theorem paidBy_append (ls ls' : List ReplayAppend) :
    paidBy (ls ++ ls') = paidBy ls ++ paidBy ls' := List.flatMap_append

theorem paidBy_singleton (block : ReplayAppend) :
    paidBy [block] = block.successfulWithdrawals := by simp [paidBy]

theorem mem_paidBy {w : DrivechainSuccessfulWithdrawal} :
    w ∈ paidBy ls ↔ ∃ block ∈ ls, w ∈ block.successfulWithdrawals := List.mem_flatMap

namespace RecordsPayments

variable (h : RecordsPayments schemaVersion ls store)

include h

theorem key_not_mem {k : SuccessfulWithdrawalKey} (hk : k ∉ store.records.successfulWithdrawals) :
    ∀ w ∈ paidBy ls, w.key ≠ k := by
  have hnone := Std.ExtTreeMap.getElem?_eq_none hk
  rw [h.first, List.find?_eq_none] at hnone
  simpa using hnone

/-- **An append extends the history by its block.** -/
theorem step {writes : Bool} (happend : store.append stateHash writes block = .ok store') :
    RecordsPayments schemaVersion (ls ++ [block]) store' := by
  obtain ⟨haccepts, -, rfl⟩ := DrivechainParentReplayStore.append_eq_ok.1 happend
  have hschema := h.layout
  refine ⟨h.isOpen, h.layout, fun b hb w hw => ?_, fun k => ?_, fun hv k w => ?_,
    fun hv => ?_, fun hv => ?_⟩
  · rw [List.mem_append, List.mem_singleton] at hb
    obtain hb | rfl := hb
    · exact h.sane b hb w hw
    · exact ⟨(haccepts.withdrawals.2 w hw).1, (haccepts.withdrawals.2 w hw).2.1⟩
  · rw [getElem?_appended_successfulWithdrawals haccepts.withdrawals.1, h.first, paidBy_append,
      paidBy_singleton, List.find?_append]
  · rw [getElem?_appended_occurrences haccepts (hschema.trans hv), h.occurrences hv,
      paidBy_append, paidBy_singleton, List.mem_append, or_and_right]
  · rw [paidBy_append, paidBy_singleton, List.map_append, List.nodup_append]
    refine ⟨h.unique hv, haccepts.withdrawals.1, ?_⟩
    -- The layout refuses a payment of a bundle that the store knows as paid.
    rintro _ hold _ hnew rfl
    obtain ⟨v, hv', hkey⟩ := List.mem_map.1 hold
    obtain ⟨w, hw, rfl⟩ := List.mem_map.1 hnew
    have hfresh := (haccepts.withdrawals.2 w hw).2.2.2.1 (hschema.trans hv)
    exact h.key_not_mem hfresh v hv' hkey
  · rw [List.pairwise_append]
    refine ⟨h.proposals hv, List.pairwise_singleton _ _, fun earlier hearlier later hlater => ?_⟩
    rw [List.mem_singleton] at hlater
    subst hlater
    intro w hw q hq hkey
    have hfresh := haccepts.proposals.2 q hq (hschema.trans hv)
    exact h.key_not_mem hfresh w (mem_paidBy.2 ⟨earlier, hearlier, hw⟩) hkey.symm

theorem run {ls' : List ReplayAppend} (hrun : AppendRun stateHash store ls' store') :
    RecordsPayments schemaVersion (ls ++ ls') store' := by
  induction hrun with
  | nil => simpa using h
  | snoc _ hstep ih =>
    obtain ⟨writes, happend⟩ := hstep
    rw [← List.append_assoc]
    exact ih.step happend

theorem readSuccessfulWithdrawal_eq :
    store.readSuccessfulWithdrawal .answered sidechainSlot m6id =
      .ofOption ((paidBy ls).find?
        (·.key = { sidechainSlot := sidechainSlot, m6id := m6id })) := by
  unfold DrivechainParentReplayStore.readSuccessfulWithdrawal
  rw [h.first]
  cases hfind : (paidBy ls).find?
      (·.key = { sidechainSlot := sidechainSlot, m6id := m6id }) with
  | none => simp [h.isOpen, DrivechainReplayStoreReadStatus.ofOption]
  | some w =>
    have hkey : w.key = { sidechainSlot := sidechainSlot, m6id := m6id } := by
      simpa using List.find?_some hfind
    obtain ⟨block, hblock, hw⟩ := mem_paidBy.1 (List.mem_of_find?_eq_some hfind)
    obtain ⟨rfl, rfl⟩ := SuccessfulWithdrawalKey.mk.inj hkey
    simp [h.isOpen, DrivechainReplayStoreReadStatus.ofOption, (h.sane block hblock w hw).1]

/-- The query for a bundle and a height answers with what is stored there. -/
theorem readSuccessfulWithdrawalAtHeight_eq (hv : schemaVersion = REPROPOSAL_SCHEMA_VERSION) :
    store.readSuccessfulWithdrawalAtHeight .answered sidechainSlot m6id height =
      .ofOption (store.records.occurrences[
        ({ withdrawal := { sidechainSlot := sidechainSlot, m6id := m6id }, height := height } :
          WithdrawalOccurrenceKey)]?) := by
  unfold DrivechainParentReplayStore.readSuccessfulWithdrawalAtHeight
  cases hget : store.records.occurrences[
      ({ withdrawal := { sidechainSlot := sidechainSlot, m6id := m6id }, height := height } :
        WithdrawalOccurrenceKey)]? with
  | none => simp [h.isOpen, h.layout, hv, DrivechainReplayStoreReadStatus.ofOption]
  | some w =>
    obtain ⟨hmem, hkey⟩ := (h.occurrences hv _ w).1 hget
    obtain ⟨hbundle, rfl⟩ := WithdrawalOccurrenceKey.mk.inj hkey
    obtain ⟨rfl, rfl⟩ := SuccessfulWithdrawalKey.mk.inj hbundle
    obtain ⟨block, hblock, hw⟩ := mem_paidBy.1 hmem
    simp [h.isOpen, h.layout, hv, DrivechainReplayStoreReadStatus.ofOption,
      (h.sane block hblock w hw).1]

/-- The payments that the store knows by height are those of the blocks. -/
theorem occurrences_eq_some (hv : schemaVersion = REPROPOSAL_SCHEMA_VERSION)
    {w : DrivechainSuccessfulWithdrawal} :
    store.records.occurrences[
        ({ withdrawal := { sidechainSlot := sidechainSlot, m6id := m6id }, height := height } :
          WithdrawalOccurrenceKey)]? = some w ↔
      ∃ block ∈ ls, block.next.height = height ∧ w ∈ block.successfulWithdrawals ∧
        w.sidechainSlot = sidechainSlot ∧ w.m6id = m6id := by
  rw [h.occurrences hv, mem_paidBy]
  constructor
  · rintro ⟨⟨block, hblock, hw⟩, hkey⟩
    obtain ⟨hbundle, rfl⟩ := WithdrawalOccurrenceKey.mk.inj hkey
    obtain ⟨rfl, rfl⟩ := SuccessfulWithdrawalKey.mk.inj hbundle
    exact ⟨block, hblock, (h.sane block hblock w hw).2.symm, hw, rfl, rfl⟩
  · rintro ⟨block, hblock, rfl, hw, rfl, rfl⟩
    refine ⟨⟨block, hblock, hw⟩, ?_⟩
    rw [(h.sane block hblock w hw).2]
    rfl

end RecordsPayments

theorem recordsPayments_reset {before : DrivechainParentReplayStore} {identity : Uint256}
    {seed : DrivechainParentReplayTip} {outcome : DrivechainParentReplayStore.ResetOutcome}
    (hseed : before.reset identity seed outcome = (pure (), store)) :
    RecordsPayments before.schemaVersion [] store := by
  unfold DrivechainParentReplayStore.reset at hseed
  split at hseed
  · exact absurd (congrArg Prod.fst hseed) (by simp [throw, throwThe, MonadExceptOf.throw, pure,
      Except.pure])
  · cases outcome with
    | openFailed wiped =>
      exact absurd (congrArg Prod.fst hseed) (by simp [throw, throwThe, MonadExceptOf.throw, pure,
        Except.pure])
    | writeFailed =>
      exact absurd (congrArg Prod.fst hseed) (by simp [throw, throwThe, MonadExceptOf.throw, pure,
        Except.pure])
    | written =>
      obtain rfl := congrArg Prod.snd hseed
      exact ⟨rfl, rfl, by simp, by simp [paidBy], by simp [paidBy], by simp [paidBy],
        by simp⟩

/-- **The withdrawal history is faithful.**  After any successful appends to a seeded store the
query for a bundle answers with its first payment, and with nothing if it was never paid.  Under
the layout that allows a bundle to be proposed again the query at a height finds exactly the
payments of the blocks at that height.  No later append changes an answer that was found.  Under
the other layout no bundle is paid twice, and none is proposed by a block after the one that paid
it. -/
theorem withdrawalHistory_faithful {rule : DrivechainWithdrawalHistoryRule}
    {before : DrivechainParentReplayStore} {identity : Uint256}
    {seed : DrivechainParentReplayTip} {outcome : DrivechainParentReplayStore.ResetOutcome}
    {seeded : DrivechainParentReplayStore}
    (hrule : before.schemaVersion = storeSchemaVersion rule)
    (hseed : before.reset identity seed outcome = (pure (), seeded))
    (hrun : AppendRun stateHash seeded ls store) :
    (∀ sidechainSlot m6id, store.readSuccessfulWithdrawal .answered sidechainSlot m6id =
      .ofOption ((paidBy ls).find? fun w => w.sidechainSlot = sidechainSlot ∧ w.m6id = m6id)) ∧
    (rule = .ALLOW_REPROPOSAL → ∀ sidechainSlot m6id height,
      (∀ w, store.readSuccessfulWithdrawalAtHeight .answered sidechainSlot m6id height =
          .FOUND w ↔ ∃ block ∈ ls, block.next.height = height ∧
            w ∈ block.successfulWithdrawals ∧ w.sidechainSlot = sidechainSlot ∧ w.m6id = m6id) ∧
      (store.readSuccessfulWithdrawalAtHeight .answered sidechainSlot m6id height = .NOT_FOUND ↔
        ∀ block ∈ ls, block.next.height = height → ∀ w ∈ block.successfulWithdrawals,
          ¬(w.sidechainSlot = sidechainSlot ∧ w.m6id = m6id))) ∧
    (∀ ls' store', AppendRun stateHash store ls' store' → ∀ sidechainSlot m6id w,
      (store.readSuccessfulWithdrawal .answered sidechainSlot m6id = .FOUND w →
        store'.readSuccessfulWithdrawal .answered sidechainSlot m6id = .FOUND w) ∧
      ∀ height,
        store.readSuccessfulWithdrawalAtHeight .answered sidechainSlot m6id height = .FOUND w →
        store'.readSuccessfulWithdrawalAtHeight .answered sidechainSlot m6id height =
          .FOUND w) ∧
    (rule = .UNIQUE_M6ID →
      ((paidBy ls).map fun w => (w.sidechainSlot, w.m6id)).Nodup ∧
      ls.Pairwise fun earlier later => ∀ w ∈ earlier.successfulWithdrawals,
        ∀ q ∈ later.withdrawalProposals,
          ¬(q.sidechainSlot = w.sidechainSlot ∧ q.m6id = w.m6id)) := by
  have hhistory : RecordsPayments (storeSchemaVersion rule) ls store := by
    simpa [hrule] using (recordsPayments_reset hseed).run hrun
  have hkeyOf : ∀ (w : DrivechainSuccessfulWithdrawal) sidechainSlot m6id,
      w.key = { sidechainSlot := sidechainSlot, m6id := m6id } ↔
        w.sidechainSlot = sidechainSlot ∧ w.m6id = m6id := by
    intro w sidechainSlot m6id
    simp [DrivechainSuccessfulWithdrawal.key]
  refine ⟨fun sidechainSlot m6id => ?_, ?_, ?_, ?_⟩
  · rw [hhistory.readSuccessfulWithdrawal_eq]
    simp only [hkeyOf]
  · rintro rfl sidechainSlot m6id height
    rw [hhistory.readSuccessfulWithdrawalAtHeight_eq rfl]
    refine ⟨fun w => ?_, ?_⟩
    · rw [DrivechainReplayStoreReadStatus.ofOption_eq_FOUND, hhistory.occurrences_eq_some rfl]
    · rw [DrivechainReplayStoreReadStatus.ofOption_eq_NOT_FOUND, Option.eq_none_iff_forall_ne_some]
      simp only [ne_eq, hhistory.occurrences_eq_some rfl]
      grind
  · intro ls' store' hmore sidechainSlot m6id w
    have hlater := hhistory.run hmore
    refine ⟨fun hfound => ?_, fun height hfound => ?_⟩
    · rw [hhistory.readSuccessfulWithdrawal_eq,
        DrivechainReplayStoreReadStatus.ofOption_eq_FOUND] at hfound
      rw [hlater.readSuccessfulWithdrawal_eq, paidBy_append, List.find?_append, hfound]
      rfl
    · cases rule with
      | UNIQUE_M6ID =>
        have hversion : store.schemaVersion ≠ REPROPOSAL_SCHEMA_VERSION := by
          rw [hhistory.layout]
          decide
        simp [DrivechainParentReplayStore.readSuccessfulWithdrawalAtHeight, hversion] at hfound
      | ALLOW_REPROPOSAL =>
        rw [hhistory.readSuccessfulWithdrawalAtHeight_eq rfl,
          DrivechainReplayStoreReadStatus.ofOption_eq_FOUND,
          hhistory.occurrences_eq_some rfl] at hfound
        obtain ⟨block, hblock, hw⟩ := hfound
        rw [hlater.readSuccessfulWithdrawalAtHeight_eq rfl,
          DrivechainReplayStoreReadStatus.ofOption_eq_FOUND, hlater.occurrences_eq_some rfl]
        exact ⟨block, List.mem_append_left _ hblock, hw⟩
  · rintro rfl
    refine ⟨?_, (hhistory.proposals rfl).imp fun h w hw q hq hsame => ?_⟩
    · refine List.Nodup.of_map (fun k => SuccessfulWithdrawalKey.mk k.1 k.2) ?_
      rw [List.map_map]
      exact hhistory.unique rfl
    · exact h w hw q hq (by simp [DrivechainSuccessfulWithdrawal.key,
        DrivechainWithdrawalProposalIdentity.key, hsame])

/-! ### A bundle that is paid twice -/

/-- A payment of one bundle in the block at a height. -/
def Sample.repaid (height : ℕ) : DrivechainSuccessfulWithdrawal where
  sidechainSlot := 24
  m6id := .ofByte 77
  blockHeight := height
  blockHash := .ofNat height

/-- The block at a height pays that bundle. -/
def Sample.repays (height : ℕ) : ReplayAppend where
  previous := seedTip (height - 1) (.ofNat (height - 1))
  next := seedTip height (.ofNat height)
  deposits := []
  edge := none
  successfulWithdrawals := [repaid height]
  withdrawalProposals := []

/-- The small network's store, seeded at height nine. -/
def Sample.seededStore : DrivechainParentReplayStore :=
  (DrivechainParentReplayStore.reset { schemaVersion := REPROPOSAL_SCHEMA_VERSION } 0
    (seedTip 9 (.ofNat 9)) .written).2

theorem exists_appendRun {ls : List ReplayAppend} {store : DrivechainParentReplayStore}
    (h : (ls.foldlM (DrivechainParentReplayStore.append stateHash · true ·) store).isOk) :
    ∃ store', AppendRun stateHash store ls store' := by
  induction ls generalizing store with
  | nil => exact ⟨store, .nil⟩
  | cons block ls ih =>
    rw [List.foldlM_cons] at h
    cases happend : store.append stateHash true block with
    | error e => rw [happend] at h; simp [Except.isOk, Except.toBool, bind, Except.bind] at h
    | ok store₁ =>
      rw [happend] at h
      obtain ⟨store₂, hrun⟩ := ih h
      exact ⟨store₂, Run.cons_iff.2 ⟨store₁, ⟨true, happend⟩, hrun⟩⟩

end History

open Sample

theorem withdrawalHistory_faithful_repaid :
    ∃ store, AppendRun (fun _ => 0) seededStore [repays 10, repays 11] store ∧
      store.readSuccessfulWithdrawal .answered 24 (.ofByte 77) = .FOUND (repaid 10) ∧
      store.readSuccessfulWithdrawalAtHeight .answered 24 (.ofByte 77) 11 =
        .FOUND (repaid 11) ∧
      store.readSuccessfulWithdrawalAtHeight .answered 24 (.ofByte 77) 12 = .NOT_FOUND := by
  have hok : ([repays 10, repays 11].foldlM
      (DrivechainParentReplayStore.append (fun _ => 0) · true ·) seededStore).isOk := by
    decide +kernel
  obtain ⟨store, hrun⟩ := exists_appendRun hok
  have hseed : DrivechainParentReplayStore.reset { schemaVersion := REPROPOSAL_SCHEMA_VERSION } 0
      (seedTip 9 (.ofNat 9)) .written = (pure (), seededStore) := by
    have hsane : IsSaneTip (seedTip 9 (.ofNat 9)) := isSaneTip_seedTip (by decide)
    simp [seededStore, DrivechainParentReplayStore.reset, hsane]
  have hrule : REPROPOSAL_SCHEMA_VERSION = storeSchemaVersion .ALLOW_REPROPOSAL := rfl
  obtain ⟨hfirst, hheight, -⟩ := withdrawalHistory_faithful hrule hseed hrun
  refine ⟨store, hrun, ?_, ?_, ?_⟩
  · rw [hfirst, DrivechainReplayStoreReadStatus.ofOption_eq_FOUND]
    decide +kernel
  · exact ((hheight rfl 24 (.ofByte 77) 11).1 _).2 (by decide +kernel)
  · exact (hheight rfl 24 (.ofByte 77) 12).2.2 (by decide +kernel)

end ElementsDrivechain
