import ElementsDrivechain.Ecx.Chain

/-!
# Every entry is processed in time

A header says for the whole backlog only one height of the parent chain.  It is never above the
height at which an entry of the backlog was appended, and no block is accepted once it is six
blocks old, so that no entry waits for longer.

* `forced_inclusion` : **every entry is processed in time**, the cursors never go back, and the
  backlog stays small.
-/

namespace ElementsDrivechain.Ecx

/-! ### The entries of a chain -/

/-- The markers of a block; a block whose markers cannot be read is not connected. -/
def ChainBlock.sources (N : ExchangeNetwork) (b : ChainBlock) :
    List (Child.CTransaction × Sources) :=
  (blockSources N b.block.vtx).toOption.getD []

/-- The forced actions of some blocks, oldest first. -/
def forcedHistory (N : ExchangeNetwork) (ls : List ChainBlock) : List ForcedEntry :=
  ls.flatMap fun b => forcedEntries b.height b.committedParentHeight (b.sources N)

/-- The deposits of some blocks, oldest first. -/
def depositHistory (N : ExchangeNetwork) (ls : List ChainBlock) : List DepositEntry :=
  ls.flatMap fun b => depositEntries b.height b.committedParentHeight (b.sources N)

section Waiting

variable {ε : Type} {height : ε → ℕ} {history added : List ε} {cursor cursor' oldest oldest' p : ℕ}

/-- The entries from a cursor on are not older than a height. -/
def Waiting (height : ε → ℕ) (history : List ε) (cursor oldest : ℕ) : Prop :=
  ∀ i e, history[i]? = some e → cursor ≤ i → oldest ≤ height e

/-- The height stands for the backlog after new entries were appended. -/
theorem Waiting.append (h : Waiting height history cursor oldest) (hp : ∀ e ∈ added, height e = p)
    (hcursor : cursor ≤ cursor') (hp' : oldest' ≤ p)
    (holdest : cursor < history.length → oldest' ≤ oldest) :
    Waiting height (history ++ added) cursor' oldest' := by
  intro i e hi hle
  by_cases hlt : i < history.length
  · rw [List.getElem?_append_left hlt] at hi
    exact (holdest (by omega)).trans (h i e hi (hcursor.trans hle))
  · rw [List.getElem?_append_right (by omega)] at hi
    rw [hp e (List.mem_of_getElem? hi)]
    exact hp'

/-- While the height is not too old, the old entries are processed. -/
theorem Waiting.processed (h : Waiting height history cursor oldest) {i : ℕ} {e : ε}
    (hi : history[i]? = some e) (hold : height e + FORCED_INCLUSION_BLOCKS ≤ p)
    (hdeadline : cursor < history.length → p < oldest + FORCED_INCLUSION_BLOCKS) : i < cursor := by
  by_contra hle
  have hlt := (List.getElem?_eq_some_iff.1 hi).1
  have hheight := h i e hi (by omega)
  have := hdeadline (by omega)
  omega

end Waiting

section History

variable {N : ExchangeNetwork} {s s' : ExchangeChain} {b : ChainBlock} {ls : List ChainBlock}
  {t : Trackers} {cursors : Cursors} {oldest : ℕ} {expected : Expected} {seen spent : CCoinsView}
  {height : ℤ} {p : ℕ}

theorem forcedHistory_snoc : forcedHistory N (ls ++ [b]) =
    forcedHistory N ls ++ forcedEntries b.height b.committedParentHeight (b.sources N) := by
  simp [forcedHistory]

theorem depositHistory_snoc : depositHistory N (ls ++ [b]) =
    depositHistory N ls ++ depositEntries b.height b.committedParentHeight (b.sources N) := by
  simp [depositHistory]

theorem parentHeight_of_mem_forced {sources : List (Child.CTransaction × Sources)}
    {e : ForcedEntry} (he : e ∈ forcedEntries height p sources) : e.parentHeight = p := by
  simp only [forcedEntries, List.mem_flatMap, List.mem_map] at he
  obtain ⟨_, -, _, -, rfl⟩ := he
  rfl

theorem parentHeight_of_mem_deposit {sources : List (Child.CTransaction × Sources)}
    {e : DepositEntry} (he : e ∈ depositEntries height p sources) : e.parentHeight = p := by
  simp only [depositEntries, List.mem_flatMap, List.mem_map] at he
  obtain ⟨_, -, _, -, rfl⟩ := he
  rfl

theorem Advances.inboxes (h : Advances N s b s' t cursors oldest expected seen spent) :
    Appendable b.height b.committedParentHeight t.forced t.deposits (b.sources N) ∧
      expected.forced = t.forced.appendAllForced N
        (forcedEntries b.height b.committedParentHeight (b.sources N)) ∧
      expected.deposits = t.deposits.appendAllDeposits N
        (depositEntries b.height b.committedParentHeight (b.sources N)) := by
  obtain ⟨sources, hsources, hrest⟩ := h.follows.sources
  have heq : b.sources N = sources := by
    rw [ChainBlock.sources, hsources]
    rfl
  rw [heq]
  exact hrest

/-- What is known of the inboxes after some blocks. -/
structure Kept (N : ExchangeNetwork) (ls : List ChainBlock) (t : Trackers) (cursors : Cursors)
    (oldest : ℕ) : Prop where
  /-- The inbox has the entries of all blocks. -/
  forcedCount : t.forced.count.toNat = (forcedHistory N ls).length
  depositCount : t.deposits.count.toNat = (depositHistory N ls).length
  /-- The height is not above that of any action that waits. -/
  forced : Waiting ForcedEntry.parentHeight (forcedHistory N ls) cursors.forced.toNat oldest
  deposits : Waiting DepositEntry.parentHeight (depositHistory N ls) cursors.deposit.toNat oldest
  /-- No block had a cursor beyond the one reached. -/
  mono : ∀ b ∈ ls, b.block.forcedProcessedCursor.toNat ≤ cursors.forced.toNat ∧
    b.block.depositProcessedCursor.toNat ≤ cursors.deposit.toNat

theorem kept_nil : Kept N [] (genesisTrackers N) {} 0 where
  forcedCount := rfl
  depositCount := rfl
  forced := by
    intro i e hi
    cases hi
  deposits := by
    intro i e hi
    cases hi
  mono := by simp

/-- The height that stands for the backlog after a block is not above that of the block, and not
above the one before while there was a backlog. -/
theorem Live.oldest_le {previous next : Backlog} {previousOldest current nextOldest : ℕ}
    (h : Live previous next previousOldest current nextOldest) :
    nextOldest ≤ current ∧ (previous.pending ≠ 0 → nextOldest ≤ previousOldest) := by
  by_cases hpending : next.pending = 0
  · rw [h.oldest_of_empty hpending]
    exact ⟨Nat.zero_le _, fun _ => Nat.zero_le _⟩
  · obtain ⟨hnone, heq⟩ | ⟨-, heq, hle⟩ := h.oldest_of_pending hpending
    · exact ⟨heq.le, fun hne => absurd hnone hne⟩
    · exact ⟨heq.le.trans hle, fun _ => heq.le⟩

/-- A block keeps count of the entries, and the age of the backlog stays right. -/
theorem Kept.advance (hkept : Kept N ls t cursors oldest)
    (h : Advances N s b s' t cursors oldest expected seen spent) :
    Kept N (ls ++ [b]) expected.trackers expected.cursors expected.oldestParentHeight := by
  obtain ⟨happendable, hforced, hdeposits⟩ := h.inboxes
  obtain ⟨hcursor, hcursor'⟩ := h.follows.advanced
  obtain ⟨hle, holdest⟩ := h.follows.live.oldest_le
  simp only [Backlog.pending, Backlog.forcedPending, Backlog.depositPending, Backlog.of,
    hkept.forcedCount, hkept.depositCount] at holdest
  constructor
  · change expected.forced.count.toNat = _
    rw [hforced, InboxTracker.toNat_count_appendAllForced happendable.forcedCount,
      forcedHistory_snoc, List.length_append, hkept.forcedCount]
  · change expected.deposits.count.toNat = _
    rw [hdeposits, InboxTracker.toNat_count_appendAllDeposits happendable.depositCount,
      depositHistory_snoc, List.length_append, hkept.depositCount]
  · rw [forcedHistory_snoc]
    exact hkept.forced.append (fun _ => parentHeight_of_mem_forced) hcursor hle
      fun hlt => holdest (by omega)
  · rw [depositHistory_snoc]
    exact hkept.deposits.append (fun _ => parentHeight_of_mem_deposit) hcursor' hle
      fun hlt => holdest (by omega)
  · obtain ⟨-, -, -, heq, heq', -⟩ := h.committedBy
    simp only [List.mem_append, List.mem_singleton]
    rintro c (hc | rfl)
    · obtain ⟨hmono, hmono'⟩ := hkept.mono c hc
      exact ⟨hmono.trans hcursor, hmono'.trans hcursor'⟩
    · exact ⟨by rw [heq], by rw [heq']⟩

theorem kept_of_run (hmax : N.consensus.activationHeight ≠ INT_MAX)
    (hstart : s.height + 1 = N.consensus.activationHeight) (h : Run (Connects N) s ls s') :
    ∃ t cursors oldest, Position N s' t cursors oldest ∧ Kept N ls t cursors oldest := by
  refine h.history ⟨_, _, _, .start hstart, kept_nil⟩ ?_
  rintro ls s b s' - ⟨t, cursors, oldest, hpos, hkept⟩ hb
  obtain ⟨expected, seen, spent, hadvances⟩ := connects_advances hmax hpos hb
  exact ⟨_, _, _, hadvances.position, hkept.advance hadvances⟩

/-- **Every entry is processed in time.**  On every chain from the activation on, an entry whose
block was at a height of the parent chain is processed in every block that is six blocks of the
parent chain later.  The cursors never go back, are never beyond the entries, and the backlog stays
small; the stored trackers count the entries. -/
theorem forced_inclusion (hmax : N.consensus.activationHeight ≠ INT_MAX)
    (hstart : s.height + 1 = N.consensus.activationHeight)
    (h : Run (Connects N) s (ls ++ [b]) s') :
    (∀ i entry, (forcedHistory N (ls ++ [b]))[i]? = some entry →
      entry.parentHeight + FORCED_INCLUSION_BLOCKS ≤ b.committedParentHeight →
      i < b.block.forcedProcessedCursor.toNat) ∧
    (∀ i entry, (depositHistory N (ls ++ [b]))[i]? = some entry →
      entry.parentHeight + FORCED_INCLUSION_BLOCKS ≤ b.committedParentHeight →
      i < b.block.depositProcessedCursor.toNat) ∧
    (∀ earlier ∈ ls,
      earlier.block.forcedProcessedCursor.toNat ≤ b.block.forcedProcessedCursor.toNat ∧
      earlier.block.depositProcessedCursor.toNat ≤ b.block.depositProcessedCursor.toNat) ∧
    b.block.forcedProcessedCursor.toNat ≤ (forcedHistory N (ls ++ [b])).length ∧
    b.block.depositProcessedCursor.toNat ≤ (depositHistory N (ls ++ [b])).length ∧
    ((forcedHistory N (ls ++ [b])).length - b.block.forcedProcessedCursor.toNat) +
      ((depositHistory N (ls ++ [b])).length - b.block.depositProcessedCursor.toNat) ≤
        MAX_COMBINED_UNCONSUMED ∧
    ∃ t, Stored N t s'.height s'.view ∧
      t.forced.count.toNat = (forcedHistory N (ls ++ [b])).length ∧
      t.deposits.count.toNat = (depositHistory N (ls ++ [b])).length := by
  obtain ⟨m, hrun, hb⟩ := Run.snoc_iff.1 h
  obtain ⟨t, cursors, oldest, hpos, hkept⟩ := kept_of_run hmax hstart hrun
  obtain ⟨expected, seen, spent, hadvances⟩ := connects_advances hmax hpos hb
  obtain ⟨hcount, hcount', hforced, hdeposits, hmono⟩ := hkept.advance hadvances
  obtain ⟨-, -, -, heq, heq', -⟩ := hadvances.committedBy
  have hlive := hadvances.follows.live
  obtain ⟨⟨hle, hle'⟩, hpending, -, -, hdeadline⟩ := hlive
  change expected.forced.count.toNat = _ at hcount
  change expected.deposits.count.toNat = _ at hcount'
  simp only [Backlog.pending, Backlog.forcedPending, Backlog.depositPending, Backlog.of, hcount,
    hcount'] at hle hle' hpending hdeadline
  rw [heq, heq']
  refine ⟨fun i entry hi hold => hforced.processed hi hold fun hlt => hdeadline (by omega),
    fun i entry hi hold => hdeposits.processed hi hold fun hlt => hdeadline (by omega),
    fun earlier he => hmono earlier (List.mem_append_left _ he), hle, hle', hpending,
    expected.trackers, hadvances.synced.stored, hcount, hcount'⟩

end History

open Ecx.Sample

/-- The deposit of the second block is processed in the third, which is six blocks of the parent
chain later. -/
theorem forced_inclusion_deposit :
    ∃ ls b s', Run (Connects exchangeNetwork) exchangeStart (ls ++ [b]) s' ∧
      (depositHistory exchangeNetwork (ls ++ [b])).map (·.parentHeight) = [101] ∧
      b.committedParentHeight = 107 ∧ 0 < b.block.depositProcessedCursor.toNat := by
  have hsample : (extendAll exchangeNetwork exchangeStart
      exchangeBlocks).map (fun r =>
        ((depositHistory exchangeNetwork r.2).map (·.parentHeight),
          r.2.map (·.committedParentHeight))) = some ([101], [100, 101, 107]) := by decide +kernel
  obtain ⟨⟨s', bs⟩, hbs, heq⟩ := Option.map_eq_some_iff.1 hsample
  obtain ⟨hentries, hheights⟩ := Prod.mk.inj heq
  obtain ⟨ls, b, rfl⟩ : ∃ ls b, bs = ls ++ [b] := by
    refine (List.eq_nil_or_concat' bs).resolve_left ?_
    rintro rfl
    cases hheights
  have hlast : b.committedParentHeight = 107 := by
    simpa using congrArg List.getLast? hheights
  obtain ⟨entry, hentry, hheight⟩ := List.map_eq_singleton_iff.1 hentries
  have hrun := run_extendAll hbs
  obtain ⟨-, hdeposits, -⟩ := forced_inclusion (by decide) (by decide) hrun
  refine ⟨ls, b, s', hrun, hentries, hlast, hdeposits 0 entry (by rw [hentry]; rfl) ?_⟩
  rw [hheight, hlast]
  decide

end ElementsDrivechain.Ecx
