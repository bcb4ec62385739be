import Mathlib.Data.Set.Function
import ElementsDrivechain.Deterministic.Undo

/-!
# Deposits are conserved

Over any connecting and disconnecting of blocks, the claims of the active chain are a checkpoint and
then claims with evidence, each of which starts where the one before ended.  So the amounts add up
to what the treasury has gained since the checkpoint, and no treasury output is claimed twice.

* `Deterministic.DepositChain.ledger` : **the record is where the claims of the chain lead to.**
* `Deterministic.deposit_conservation` : **deposits are conserved.**
-/

namespace ElementsDrivechain.Deterministic

open Fallible

/-! ### Where claims lead -/

/-- Claims lead to a state: a checkpoint starts it, and each claim with evidence starts where the
one before ended. -/
inductive Ledger (N : DepositNetwork) : List Deposit → CtipState → Prop
  | checkpoint (d : Deposit) (checkpoint : LegacyCheckpoint)
      (hfind : findLegacyCheckpoint d = some checkpoint) : Ledger N [d] checkpoint.state
  | claim {deposits : List Deposit} {state : CtipState} (h : Ledger N deposits state) (d : Deposit)
      (parsed : ParsedDeterministicDeposit) (hfind : findLegacyCheckpoint d = none)
      (hparse : parseV2Deposit N d.tx d.inputIndex = .ok parsed)
      (hprevious : parsed.previousState = state)
      (hpays : PaysDeposit N d.tx parsed.authenticated) :
      Ledger N (deposits ++ [d]) parsed.nextState

/-- The record is where the claims lead to. -/
def Holds (N : DepositNetwork) (deposits : List Deposit) (view : CCoinsView) : Prop :=
  deposits = [] ∧ view.accessCoin CTIP_STATE_OUTPOINT = none ∨
    ∃ state height, Ledger N deposits state ∧
      view.accessCoin CTIP_STATE_OUTPOINT = some (ctipCoin N state height)

variable {N : DepositNetwork} {deposits : List Deposit} {state : CtipState} {d : Deposit}
  {view view' : CCoinsView}

theorem Ledger.fits (h : Ledger N deposits state) : state.Fits := by
  cases h with
  | checkpoint d checkpoint hfind => exact (LegacyCheckpoint.fits hfind).1
  | claim h d parsed hfind hparse _ _ =>
    obtain ⟨_, _, hevidence⟩ := parseV2Deposit_spec hparse
    exact hevidence.nextState_fits

theorem Ledger.last {all : List Deposit} (h : Ledger N all state) (hall : all = deposits ++ [d]) :
    deposits = [] ∧ (findLegacyCheckpoint d).isSome ∨
      ∃ parsed, Ledger N deposits parsed.previousState ∧ findLegacyCheckpoint d = none ∧
        parseV2Deposit N d.tx d.inputIndex = .ok parsed := by
  cases h with
  | checkpoint u checkpoint hfind =>
    obtain rfl : deposits = [] := by simpa using congrArg List.length hall
    obtain rfl : u = d := by simpa using hall
    exact .inl ⟨rfl, by simp [hfind]⟩
  | claim h u parsed hfind hparse hprevious _ =>
    obtain ⟨rfl, hu⟩ := List.append_inj' hall rfl
    obtain rfl : u = d := by simpa using hu
    exact .inr ⟨parsed, by rwa [hprevious], hfind, hparse⟩

theorem Holds.connect {next : CtipState} (h : Holds N deposits view)
    (hconnection : Deposit.Connection N d view next) : Ledger N (deposits ++ [d]) next := by
  cases hconnection with
  | checkpoint checkpoint hfind hview =>
    rcases h with ⟨rfl, -⟩ | ⟨_, _, -, hcoin⟩
    · exact .checkpoint d checkpoint hfind
    · cases hview.symm.trans hcoin
  | claim parsed hfind hparse hview hpays =>
    rcases h with ⟨-, hnone⟩ | ⟨state, height, hledger, hcoin⟩
    · cases hview.symm.trans (getCtipState_eq_none.2 hnone)
    · obtain ⟨-, rfl⟩ := (getCtipState_eq_some hledger.fits hcoin).1 hview
      exact hledger.claim d parsed hfind hparse rfl hpays

theorem Holds.disconnect {restored : CCoinsView} (h : Holds N (deposits ++ [d]) view)
    (hdisconnect : disconnectDepositState N d view = .ok restored) : Holds N deposits restored := by
  have hrecord := Deposit.disconnect_record hdisconnect
  unfold Deposit.undone at hrecord
  rcases h with ⟨hnil, -⟩ | ⟨state, height, hledger, -⟩
  · simp at hnil
  · rcases hledger.last rfl with ⟨rfl, hsome⟩ | ⟨parsed, hprevious, hfind, hparse⟩
    · obtain ⟨checkpoint, hfind⟩ := Option.isSome_iff_exists.1 hsome
      rw [hfind] at hrecord
      exact .inl ⟨rfl, hrecord⟩
    · rw [hfind, hparse] at hrecord
      exact .inr ⟨_, _, hprevious, hrecord⟩

theorem Holds.congr (h : Holds N deposits view) (hsame : Deposit.SameCtip view' view) :
    Holds N deposits view' := by
  unfold Holds
  rwa [hsame]

/-! ### Runs -/

/-- The claims of the blocks of the active chain, and the chainstate. -/
structure DepositChain where
  blocks : List (List Deposit) := []
  view : CCoinsView

namespace DepositChain

/-- What happens to the active chain. -/
inductive Event
  | connect (deposits : List Deposit)
  | disconnect

/-- A block is connected, or the last one is disconnected. -/
inductive Step (N : DepositNetwork) : DepositChain → Event → DepositChain → Prop
  | connect {s : DepositChain} {deposits : List Deposit} {view : CCoinsView}
      (h : Deposit.Connected N s.view deposits view) :
      Step N s (.connect deposits) { blocks := s.blocks ++ [deposits], view := view }
  | disconnect {s : DepositChain} {blocks : List (List Deposit)} {deposits : List Deposit}
      {view : CCoinsView} (hblocks : s.blocks = blocks ++ [deposits])
      (h : Deposit.Disconnected N s.view deposits.reverse view) :
      Step N s .disconnect { blocks := blocks, view := view }

/-- The claims of the active chain. -/
def claims (s : DepositChain) : List Deposit := s.blocks.flatten

theorem holds_connected {before : List Deposit} (h : Holds N before view)
    (hrun : Deposit.Connected N view deposits view') : Holds N (before ++ deposits) view' := by
  refine Run.history hrun ?_ ?_
  · rwa [List.append_nil]
  · intro done mid d final _ hmid hstep
    obtain ⟨hconnection, hrecord⟩ := Deposit.Connected.step hstep
    rw [← List.append_assoc]
    exact .inr ⟨_, _, hmid.connect hconnection, hrecord⟩

theorem holds_disconnected {before : List Deposit} (h : Holds N (before ++ deposits.reverse) view)
    (hrun : Deposit.Disconnected N view deposits view') : Holds N before view' := by
  induction deposits generalizing view with
  | nil =>
    obtain rfl := Run.nil_iff.1 hrun
    simpa using h
  | cons d rest ih =>
    obtain ⟨mid, ⟨disconnected, hdisconnect, hsame⟩, hrest⟩ := Run.cons_iff.1 hrun
    rw [List.reverse_cons, ← List.append_assoc] at h
    exact ih ((h.disconnect hdisconnect).congr hsame) hrest

/-- **The record is where the claims of the chain lead to**, over any connecting and disconnecting
of blocks. -/
theorem ledger {events : List Event} {s : DepositChain}
    (hview : view.accessCoin CTIP_STATE_OUTPOINT = none)
    (hrun : Run (Step N) { view := view } events s) : Holds N s.claims s.view := by
  refine Run.invariant hrun (.inl ⟨rfl, hview⟩) ?_
  intro s event s' hs hstep
  cases hstep with
  | connect h =>
    rw [claims, List.flatten_append, List.flatten_singleton]
    exact holds_connected hs h
  | disconnect hblocks h =>
    rw [claims, hblocks, List.flatten_append, List.flatten_singleton] at hs
    exact holds_disconnected (by rwa [List.reverse_reverse]) h

end DepositChain

/-! ### The account -/

/-- A claim pays explicit amounts of the pegged asset and, besides its fee, only to the destination
that its deposit commits to. -/
def PaysCommitted (N : DepositNetwork) (d : Deposit) : Prop :=
  ∃ depositTx ∈ parentTransactions N d.tx d.inputIndex,
    d.outpoint.map (·.hash) = some (N.hashing.txid depositTx) ∧
    ∃ destinationScript, extractDepositDestination N depositTx = .ok destinationScript ∧
      ∀ output ∈ d.tx.vout, output.nAsset = .explicit N.peggedAsset ∧ output.nValue.IsExplicit ∧
        (output.scriptPubKey = [] ∨ output.scriptPubKey = destinationScript)

/-- The account of a checkpoint and of the claims after it. -/
structure Account (N : DepositNetwork) (checkpoint : LegacyCheckpoint) (claims : List Deposit)
    (state : CtipState) : Prop where
  claim : ∀ d ∈ claims, findLegacyCheckpoint d = none ∧ PaysCommitted N d
  /-- What was claimed is what the treasury gained. -/
  value : (claims.map fun d => totalValue d.tx.vout).sum = state.value - checkpoint.ctipValue
  sequenceNumber : state.sequenceNumber = checkpoint.sequenceNumber + claims.length

theorem Ledger.account (h : Ledger N deposits state) :
    ∃ d checkpoint claims, deposits = d :: claims ∧ findLegacyCheckpoint d = some checkpoint ∧
      Account N checkpoint claims state := by
  induction h with
  | checkpoint d checkpoint hfind =>
    exact ⟨d, checkpoint, [], rfl, hfind, by simp, by simp [LegacyCheckpoint.state],
      by simp [LegacyCheckpoint.state]⟩
  | @claim deposits state h d parsed hfind hparse hprevious hpays ih =>
    obtain ⟨d₀, checkpoint, claims, rfl, hd₀, haccount⟩ := ih
    obtain ⟨depositTx, previousTx, hevidence⟩ := parseV2Deposit_spec hparse
    have hvalue := hevidence.value
    have hnumber := hevidence.sequenceNumber
    rw [hprevious] at hvalue hnumber
    refine ⟨d₀, checkpoint, claims ++ [d], rfl, hd₀, ?_, ?_, ?_⟩
    · intro u hu
      rcases List.mem_append.1 hu with hu | hu
      · exact haccount.claim u hu
      · obtain rfl := List.mem_singleton.1 hu
        refine ⟨hfind, depositTx, hevidence.depositTx_mem, ?_, _, hevidence.destination,
          hpays.outputs⟩
        rw [Deposit.outpoint, hevidence.claimed, hevidence.depositTx_id]
        rfl
    · rw [List.map_append, List.sum_append, haccount.value, hvalue]
      simp [hpays.total]
      ring
    · rw [hnumber, haccount.sequenceNumber, List.length_append, List.length_singleton]
      push_cast
      ring

/-- The parent transactions that the witnesses of some claims hold. -/
def allParentTransactions (N : DepositNetwork) (deposits : List Deposit) : Set CTransaction :=
  { tx | ∃ d ∈ deposits, tx ∈ parentTransactions N d.tx d.inputIndex }

theorem allParentTransactions_mono {deposits' : List Deposit} :
    allParentTransactions N deposits ⊆ allParentTransactions N (deposits ++ deposits') :=
  fun _ ⟨d, hd, htx⟩ => ⟨d, List.mem_append_left _ hd, htx⟩

/-- Some claim shows an output to be worth less than an amount. -/
def WorthLess (N : DepositNetwork) (deposits : List Deposit) (bound : ℤ) (o : COutPoint) : Prop :=
  ∃ tx ∈ allParentTransactions N deposits, N.hashing.txid tx = o.hash ∧
    ∃ value, tx.vout[o.n]?.map (·.nValue) = some value ∧ value < bound

/-- A claim shows the output before it, and so all outputs before it, to be worth less than its own.
-/
theorem worthLess_of_claim {parsed : ParsedDeterministicDeposit} {o : COutPoint}
    (hparse : parseV2Deposit N d.tx d.inputIndex = .ok parsed)
    (ho : o = parsed.previousState.outpoint ∨ WorthLess N deposits parsed.previousState.value o) :
    WorthLess N (deposits ++ [d]) parsed.nextState.value o := by
  obtain ⟨depositTx, previousTx, hevidence⟩ := parseV2Deposit_spec hparse
  have hmore : parsed.previousState.value < parsed.nextState.value := by
    rw [hevidence.value]
    exact lt_add_of_pos_right _ hevidence.value_pos
  rcases ho with rfl | ⟨tx, htx, hid, value, hvalue, hless⟩
  · exact ⟨previousTx, ⟨d, by simp, hevidence.previousTx_mem⟩, hevidence.previousTx_id, _,
      hevidence.previousTx_value, hmore⟩
  · exact ⟨tx, allParentTransactions_mono htx, hid, value, hvalue, hless.trans hmore⟩

/-- The outputs that were claimed are the treasury output, and others that were worth less. -/
theorem Ledger.worthLess (h : Ledger N deposits state) :
    ∀ d ∈ deposits, ∃ o ∈ d.outpoint, o = state.outpoint ∨ WorthLess N deposits state.value o := by
  induction h with
  | checkpoint d checkpoint hfind =>
    intro u hu
    obtain rfl := List.mem_singleton.1 hu
    exact ⟨_, (LegacyCheckpoint.fits hfind).2.2, .inl rfl⟩
  | claim h d parsed hfind hparse hprevious hpays ih =>
    intro u hu
    rcases List.mem_append.1 hu with hu | hu
    · obtain ⟨o, ho, hless⟩ := ih u hu
      rw [← hprevious] at hless
      exact ⟨o, ho, .inr (worthLess_of_claim hparse hless)⟩
    · obtain ⟨depositTx, previousTx, hevidence⟩ := parseV2Deposit_spec hparse
      obtain rfl := List.mem_singleton.1 hu
      exact ⟨_, hevidence.claimed, .inl rfl⟩

/-- **No treasury output is claimed twice.** -/
theorem Ledger.nodup (h : Ledger N deposits state)
    (hinj : Set.InjOn N.hashing.txid (allParentTransactions N deposits)) :
    (deposits.map (·.outpoint)).Nodup := by
  induction h with
  | checkpoint d checkpoint hfind => simp
  | claim h d parsed hfind hparse hprevious hpays ih =>
    obtain ⟨depositTx, previousTx, hevidence⟩ := parseV2Deposit_spec hparse
    rw [List.map_append, List.map_singleton, List.nodup_append]
    refine ⟨ih (hinj.mono allParentTransactions_mono), by simp, ?_⟩
    intro x hx y hy hxy
    obtain ⟨u, hu, rfl⟩ := List.mem_map.1 hx
    obtain ⟨o, ho, hless⟩ := h.worthLess u hu
    rw [← hprevious] at hless
    obtain ⟨tx, htx, hid, value, hvalue, hlt⟩ := worthLess_of_claim hparse hless
    -- both claims would be of an output of the same parent transaction
    have hsame : o = parsed.nextState.outpoint := by
      rw [List.mem_singleton.1 hy] at hxy
      exact Option.some.inj (ho.symm.trans (hxy.trans hevidence.claimed))
    rw [hsame] at hid hvalue
    obtain rfl := hinj htx ⟨d, by simp, hevidence.depositTx_mem⟩
      (hid.trans hevidence.depositTx_id.symm)
    rw [hevidence.depositTx_value] at hvalue
    exact absurd (Option.some.inj hvalue) hlt.ne'

/-- The claims of a chain and its record agree: nothing was claimed and there is no record, or there
is a checkpoint, claims after it and a record that accounts for them. -/
def Conserved (N : DepositNetwork) (deposits : List Deposit) (view : CCoinsView) : Prop :=
  deposits = [] ∧ view.accessCoin CTIP_STATE_OUTPOINT = none ∨
    ∃ d checkpoint claims state height, deposits = d :: claims ∧
      findLegacyCheckpoint d = some checkpoint ∧
      view.accessCoin CTIP_STATE_OUTPOINT = some (ctipCoin N state height) ∧
      (state.outpoint.hash ≠ 0 → getCtipState N view = .ok (some state)) ∧
      Account N checkpoint claims state ∧
      (deposits.map (·.outpoint)).Nodup

/-- **Deposits are conserved.**  Over any connecting and disconnecting of blocks from a chainstate
without a record, the amounts of the pegged asset that the claims with evidence of the active chain
credit and pay as fees add up to what the treasury has gained since the one checkpoint that is
connected, their number is what its number has grown by, each of them pays only to the destination
that its deposit commits to, and no treasury output is claimed twice. -/
theorem deposit_conservation (N : DepositNetwork) (view : CCoinsView)
    (hview : view.accessCoin CTIP_STATE_OUTPOINT = none) (events : List DepositChain.Event)
    (s : DepositChain) (hrun : Run (DepositChain.Step N) { view := view } events s)
    (hinj : Set.InjOn N.hashing.txid (allParentTransactions N s.claims)) :
    Conserved N s.claims s.view := by
  rcases DepositChain.ledger hview hrun with hnil | ⟨state, height, hledger, hcoin⟩
  · exact .inl hnil
  · obtain ⟨d, checkpoint, claims, hclaims, hfind, haccount⟩ := hledger.account
    exact .inr ⟨d, checkpoint, claims, state, height, hclaims, hfind, hcoin,
      fun hhash => (getCtipState_eq_some hledger.fits hcoin).2 ⟨hhash, rfl⟩, haccount,
      hledger.nodup hinj⟩

open Deterministic.Sample

/-- The parent transactions of the small network have different ids. -/
theorem Sample.txid_injOn : Set.InjOn depositNetwork.hashing.txid
    (allParentTransactions depositNetwork [checkpoint, claim]) := by
  have hmem : ∀ d ∈ [checkpoint, claim],
      ∀ tx ∈ parentTransactions depositNetwork d.tx d.inputIndex,
      tx ∈ [depositTx, checkpointTx] := by decide
  have hne : ∀ tx ∈ [depositTx, checkpointTx],
      ∀ tx' ∈ [depositTx, checkpointTx],
      depositNetwork.hashing.txid tx = depositNetwork.hashing.txid tx' →
      tx = tx' := by decide
  rintro tx ⟨d, hd, htx⟩ tx' ⟨d', hd', htx'⟩
  exact hne tx (hmem d hd tx htx) tx' (hmem d' hd' tx' htx')

/-- A checkpoint and a claim in a block each. -/
theorem deposit_conservation_sample :
    ∃ s, Run (DepositChain.Step depositNetwork) { view := .empty }
        [.connect [checkpoint], .connect [claim]] s ∧
      s.claims = [checkpoint, claim] ∧
      Conserved depositNetwork s.claims s.view := by
  have hcheckpoint : Deposit.Connected depositNetwork .empty [checkpoint]
      checkpointView :=
    Run.singleton_iff.2 ⟨verify_checkpoint, checkpointView,
      (Deposit.connect_of_verify verify_checkpoint).2, rfl⟩
  have hclaim : Deposit.Connected depositNetwork checkpointView [claim]
      claimView :=
    Run.singleton_iff.2 ⟨verify_claim, claimView,
      (Deposit.connect_of_verify verify_claim).2, rfl⟩
  have hrun : Run (DepositChain.Step depositNetwork) { view := .empty }
      [.connect [checkpoint], .connect [claim]]
      { blocks := [[checkpoint], [claim]], view := claimView } :=
    Run.cons_iff.2 ⟨{ blocks := [[checkpoint]], view := checkpointView },
      .connect hcheckpoint, Run.singleton_iff.2 (.connect hclaim)⟩
  exact ⟨_, hrun, rfl, deposit_conservation _ _ rfl _ _ hrun txid_injOn⟩

end ElementsDrivechain.Deterministic
