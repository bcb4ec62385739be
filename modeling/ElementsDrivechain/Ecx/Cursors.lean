import ElementsDrivechain.Ecx.Inbox

/-!
# How far the inboxes are processed

A transition of the exchange processes entries of the inboxes.  It says how far it came with a
marker of its own, and the header commits to the two *cursors*.  What is not processed is the
*backlog*; the header also commits to a height of the parent chain that is not above that of any of
its entries, and the backlog must not become too large or too old.

* `deriveProcessedCursors_mono` : **the cursors never go back.**
* `validateInboxLiveness_spec` : what is known of the backlog after a block.
-/

namespace ElementsDrivechain.Ecx

open Fallible

/-! ### The cursors -/

/-- "ECXC", the first bytes of a marker. -/
def CURSOR_MAGIC : Bytes := [0x45, 0x43, 0x58, 0x43]

/-- How many entries of either inbox are processed. -/
structure Cursors where
  forced : UInt64 := 0
  deposit : UInt64 := 0
deriving DecidableEq

/-- Read a script that may be the marker of a transition. -/
def decodeCursorPayload (script : CScript) : Except String (Option Cursors) :=
  match extractSingleOpReturnPush script with
  | none => pure none
  | some payload =>
    if payload.take 4 ≠ CURSOR_MAGIC then pure none
    else do
      rejectIf (payload.length ≠ 21 ∨ payload.getD 4 0 ≠ 1)
        "ECX processed-cursor marker has an invalid version or length"
      return some {
        forced := UInt64.ofNat (readLE (bytesAt payload 5 8))
        deposit := UInt64.ofNat (readLE (bytesAt payload 13 8)) }

/-- The marker of a transition, and the transaction that it stands in. -/
structure CursorMarker extends Cursors where
  transaction : Uint256
deriving DecidableEq

/-- Take note of the marker of an output, of which there is to be only one. -/
def noteCursor (txid : Uint256) (seen : Option CursorMarker) (output : Child.CTxOut) :
    Except String (Option CursorMarker) := do
  match ← decodeCursorPayload output.scriptPubKey with
  | none => return seen
  | some cursors =>
    rejectIf seen.isSome "an ECX block may contain only one processed-cursor marker"
    return some { cursors with transaction := txid }

/-- The marker of a block. -/
def findCursorMarker (vtx : List Child.CTransaction) : Except String (Option CursorMarker) :=
  vtx.foldlM (fun seen tx => tx.vout.foldlM (noteCursor tx.hash) seen) none

/-- The cursors after a block.  A block has a marker exactly if it has a transition, but for the
empty activation of the successor, which processes nothing. -/
def deriveProcessedCursors (vtx : List Child.CTransaction)
    (previousState nextState : ExchangeStateTracker) (previous : Cursors)
    (emptyIncrementalActivation : Bool) : Except String Cursors := do
  let found ← findCursorMarker vtx
  match found with
  | none =>
    if nextState.outpoint = previousState.outpoint then return previous
    else if emptyIncrementalActivation ∧ previous = {} then return {}
    else throw "ECX state transition is missing its processed-cursor marker"
  | some marker =>
    rejectIf (nextState.outpoint = previousState.outpoint)
      "ECX processed-cursor marker requires a state transition"
    rejectIf (marker.transaction ≠ nextState.outpoint.hash ∨ marker.forced < previous.forced ∨
        marker.deposit < previous.deposit)
      "ECX processed cursors are not monotonic or are outside the state transition"
    return marker.toCursors

/-- **The cursors never go back.** -/
theorem deriveProcessedCursors_mono {vtx : List Child.CTransaction}
    {previousState nextState : ExchangeStateTracker} {previous next : Cursors} {empty : Bool}
    (h : deriveProcessedCursors vtx previousState nextState previous empty = .ok next) :
    previous.forced.toNat ≤ next.forced.toNat ∧ previous.deposit.toNat ≤ next.deposit.toNat := by
  obtain ⟨found, -, h⟩ := bind_eq_ok.1 h
  cases found with
  | none =>
    dsimp only at h
    split_ifs at h with hsame hempty
    · obtain rfl := pure_eq_ok.1 h
      exact ⟨le_rfl, le_rfl⟩
    · obtain rfl := pure_eq_ok.1 h
      rw [hempty.2]
      exact ⟨le_rfl, le_rfl⟩
  | some marker =>
    simp only [bind_eq_ok, rejectIf_eq_ok, pure_eq_ok, not_or, UInt64.lt_iff_toNat_lt, not_lt] at h
    obtain ⟨_, -, _, ⟨-, hforced, hdeposit⟩, rfl⟩ := h
    exact ⟨hforced, hdeposit⟩

/-! ### The backlog -/

/-- The entries of the inboxes, and how many of them are processed. -/
structure Backlog where
  forcedCount : ℕ
  depositCount : ℕ
  forcedCursor : ℕ
  depositCursor : ℕ

namespace Backlog

variable (backlog : Backlog)

/-- The forced actions not processed yet. -/
def forcedPending : ℕ := backlog.forcedCount - backlog.forcedCursor

/-- The deposits not processed yet. -/
def depositPending : ℕ := backlog.depositCount - backlog.depositCursor

/-- How many entries are not processed. -/
def pending : ℕ := backlog.forcedPending + backlog.depositPending

/-- No more entries are processed than there are. -/
def Bounded : Prop :=
  backlog.forcedCursor ≤ backlog.forcedCount ∧ backlog.depositCursor ≤ backlog.depositCount
deriving Decidable

end Backlog

/-- The backlog of two inboxes. -/
def Backlog.of (forced deposits : InboxTracker) (cursors : Cursors) : Backlog where
  forcedCount := forced.count.toNat
  depositCount := deposits.count.toNat
  forcedCursor := cursors.forced.toNat
  depositCursor := cursors.deposit.toNat

/-- The height that stands for the oldest entry of a backlog that is not empty. -/
def nextOldestParentHeight (previousPending previousOldest current : ℕ) : Except String ℕ :=
  if previousPending = 0 then pure current
  else do
    rejectIf (previousOldest = 0 ∨ current < previousOldest)
      "ECX prior backlog age commitment is missing or invalid"
    return previousOldest

/-- Check the backlog after a block, at a height of the parent chain. -/
def validateInboxLiveness (previous next : Backlog) (forcedAppends depositAppends : ℕ)
    (previousOldest current : ℕ) : Except String ℕ := do
  rejectIf (¬previous.Bounded ∨ ¬next.Bounded) "ECX processed cursor exceeds its source entry count"
  rejectIf (MAX_COMBINED_SAME_PARENT_APPENDS < forcedAppends ∨
      MAX_COMBINED_SAME_PARENT_APPENDS - forcedAppends < depositAppends)
    "ECX source appends exceed the combined same-parent limit"
  rejectIf (MAX_COMBINED_PENDING_WITNESS_ENTRIES < previous.forcedPending ∨
      MAX_COMBINED_PENDING_WITNESS_ENTRIES - previous.forcedPending < previous.depositPending ∨
      MAX_COMBINED_PENDING_WITNESS_ENTRIES - previous.forcedPending - previous.depositPending <
        forcedAppends ∨
      MAX_COMBINED_PENDING_WITNESS_ENTRIES - previous.forcedPending - previous.depositPending -
        forcedAppends < depositAppends)
    "ECX source suffix exceeds the maximum transition witness profile"
  rejectIf (MAX_COMBINED_UNCONSUMED < next.forcedPending ∨
      MAX_COMBINED_UNCONSUMED - next.forcedPending < next.depositPending)
    "ECX combined unconsumed source backlog exceeds consensus bounds"
  if next.pending = 0 then return 0
  else
    rejectIf (current = 0) "ECX pending source backlog has no authenticated parent height"
    let nextOldest ← nextOldestParentHeight previous.pending previousOldest current
    rejectIf (UINT64_MAX - FORCED_INCLUSION_BLOCKS < nextOldest ∨
        nextOldest + FORCED_INCLUSION_BLOCKS ≤ current)
      "ECX source backlog exceeded the forced-inclusion deadline"
    return nextOldest

/-- What is known of the backlog after a block. -/
structure Live (previous next : Backlog) (previousOldest current nextOldest : ℕ) : Prop where
  bounded : next.Bounded
  pending_le : next.pending ≤ MAX_COMBINED_UNCONSUMED
  /-- No height stands for an empty backlog. -/
  oldest_of_empty : next.pending = 0 → nextOldest = 0
  /-- The height stays while there is a backlog, and is otherwise that of the block. -/
  oldest_of_pending : next.pending ≠ 0 →
    (previous.pending = 0 ∧ nextOldest = current) ∨
    (previous.pending ≠ 0 ∧ nextOldest = previousOldest ∧ previousOldest ≤ current)
  /-- The backlog is not too old. -/
  deadline : next.pending ≠ 0 → current < nextOldest + FORCED_INCLUSION_BLOCKS

theorem validateInboxLiveness_spec {previous next : Backlog} {forcedAppends depositAppends : ℕ}
    {previousOldest current nextOldest : ℕ}
    (h : validateInboxLiveness previous next forcedAppends depositAppends previousOldest current =
      .ok nextOldest) : Live previous next previousOldest current nextOldest := by
  simp only [validateInboxLiveness, bind_eq_ok, rejectIf_eq_ok, not_or, not_not, not_lt] at h
  obtain ⟨_, ⟨-, hbounded⟩, _, -, _, -, _, ⟨hforced, hdeposit⟩, h⟩ := h
  have hpending : next.pending ≤ MAX_COMBINED_UNCONSUMED := by
    rw [Backlog.pending]
    omega
  split_ifs at h with hempty
  · obtain rfl := pure_eq_ok.1 h
    exact ⟨hbounded, hpending, fun _ => rfl, fun hne => absurd hempty hne,
      fun hne => absurd hempty hne⟩
  · simp only [bind_eq_ok, rejectIf_eq_ok, pure_eq_ok, not_or, not_le, not_lt] at h
    obtain ⟨_, -, oldest, holdest, _, ⟨-, hdeadline⟩, rfl⟩ := h
    refine ⟨hbounded, hpending, fun h => absurd h hempty, fun _ => ?_, fun _ => hdeadline⟩
    unfold nextOldestParentHeight at holdest
    split_ifs at holdest with hprevious
    · exact .inl ⟨hprevious, (pure_eq_ok.1 holdest).symm⟩
    · simp only [bind_eq_ok, rejectIf_eq_ok, pure_eq_ok, not_or, not_lt] at holdest
      obtain ⟨_, ⟨-, hle⟩, rfl⟩ := holdest
      exact .inr ⟨hprevious, rfl, hle⟩

end ElementsDrivechain.Ecx
